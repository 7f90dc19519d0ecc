import DroneFleet.Toml.Basic
import DroneFleet.Json.Token

/-!
Bare values: truth values, whole numbers in four notations, numbers with a fraction or an exponent,
and points in time.
-/
namespace DroneFleet.Toml

namespace Scalar

def isDecimal (character : Char) : Bool := (Text.digit? character).isSome

/-- Digits, each underscore of which stands between two of them. -/
def ungrouped? (isDigit : Char → Bool) : List Char → Option (List Char)
  | [] => none
  | [digit] => if isDigit digit then some [digit] else none
  | digit :: '_' :: rest =>
    if isDigit digit then (ungrouped? isDigit rest).map (digit :: ·) else none
  | digit :: rest => if isDigit digit then (ungrouped? isDigit rest).map (digit :: ·) else none

/-- Decimal digits without a needless zero. -/
def whole? (text : List Char) : Option (List Char) := do
  let digits ← ungrouped? isDecimal text
  if 1 < digits.length ∧ digits.head? = some '0' then none else some digits

def digitOf? (radix : Nat) (character : Char) : Option Nat :=
  (Json.Lexer.hexDigit? character).filter (· < radix)

def radix? (radix : Nat) (text : List Char) : Option Int := do
  let digits ← ungrouped? (fun character => (digitOf? radix character).isSome) text
  return digits.foldl (fun value digit => value * radix + ((digitOf? radix digit).getD 0 : Nat)) (0 : Int)

def signed : List Char → Bool × List Char
  | '-' :: rest => (true, rest)
  | '+' :: rest => (false, rest)
  | rest => (false, rest)

def integer? : List Char → Option Int
  | '0' :: 'x' :: digits => radix? 16 digits
  | '0' :: 'o' :: digits => radix? 8 digits
  | '0' :: 'b' :: digits => radix? 2 digits
  | written => do
    let (negative, digits) := signed written
    let value : Int := Json.Token.decimalValue (← whole? digits)
    return if negative then -value else value

/-- Whole numbers are known from 127 bits below zero to 128 bits above it. -/
def isKnown (value : Int) : Bool :=
  -Int.ofNat (Nat.pow 2 127) ≤ value && value < Int.ofNat (Nat.pow 2 128)

/-- Rounds to no number of double precision. -/
def isTooLarge (digits : List Char) (exponent : Int) : Bool :=
  let significand := Json.Token.decimalValue digits
  let size : Int := (digits.dropWhile (· = '0')).length
  significand != 0 && 300 < size + exponent &&
    (400 < size + exponent ||
      Json.Number.doubleLimit * Nat.pow 10 (-exponent).toNat ≤
        significand * Nat.pow 10 exponent.toNat)

def isDecimalFraction (text : List Char) : Bool := Option.isSome do
  let mantissa := text.takeWhile fun character => character ≠ 'e' && character ≠ 'E'
  let whole ← whole? (mantissa.takeWhile (· ≠ '.'))
  let fraction ← match mantissa.dropWhile (· ≠ '.') with
    | '.' :: fraction => ungrouped? isDecimal fraction
    | _ => some []
  let exponent : Int ← match text.dropWhile fun character => character ≠ 'e' && character ≠ 'E' with
    | _ :: exponent => do
      let (negative, digits) := signed exponent
      let value : Int := Json.Token.decimalValue (← ungrouped? isDecimal digits)
      some (if negative then -value else value)
    | [] => if fraction = [] then none else some 0
  if isTooLarge (whole ++ fraction) (exponent - fraction.length) then none else some ()

def isFloat (text : List Char) : Bool :=
  let unsigned := (signed text).2
  unsigned = "inf".toList || unsigned = "nan".toList || isDecimalFraction unsigned

/-- The number that exactly `count` digits spell, and the rest. -/
def fixed? (count : Nat) (text : List Char) : Option (Nat × List Char) :=
  let digits := text.take count
  if digits.length = count ∧ digits.all isDecimal then
    some (Json.Token.decimalValue digits, text.drop count)
  else none

def isLeap (year : Nat) : Bool := year % 4 = 0 && (year % 100 ≠ 0 || year % 400 = 0)

def daysIn (year month : Nat) : Nat :=
  if month = 2 then (if isLeap year then 29 else 28)
  else if [4, 6, 9, 11].contains month then 30
  else 31

def date? (text : List Char) : Option (List Char) := do
  let (year, rest) ← fixed? 4 text
  let '-' :: rest := rest | none
  let (month, rest) ← fixed? 2 rest
  let '-' :: rest := rest | none
  let (day, rest) ← fixed? 2 rest
  if 1 ≤ month ∧ month ≤ 12 ∧ 1 ≤ day ∧ day ≤ daysIn year month then some rest else none

def secondFraction? : List Char → Option (List Char)
  | '.' :: rest =>
    if (rest.takeWhile isDecimal).isEmpty then none else some (rest.dropWhile isDecimal)
  | rest => some rest

def time? (text : List Char) : Option (List Char) := do
  let (hour, rest) ← fixed? 2 text
  let ':' :: rest := rest | none
  let (minute, rest) ← fixed? 2 rest
  if 23 < hour ∨ 59 < minute then none
  else
    match rest with
    | ':' :: rest =>
      let (second, rest) ← fixed? 2 rest
      if 60 < second then none else secondFraction? rest
    | rest => some rest

/-- Nothing, or the distance from universal time. -/
def isOffset : List Char → Bool
  | [] => true
  | ['Z'] => true
  | ['z'] => true
  | sign :: rest => Option.isSome do
    if sign ≠ '+' ∧ sign ≠ '-' then none
    else
      let (hour, rest) ← fixed? 2 rest
      let ':' :: rest := rest | none
      let (minute, rest) ← fixed? 2 rest
      if hour ≤ 23 ∧ minute ≤ 59 ∧ rest = [] then some () else none

def isMoment (text : List Char) : Bool :=
  match date? text with
  | some [] => true
  | some (between :: rest) =>
    [' ', 'T', 't'].contains between && ((time? rest).map isOffset).getD false
  | none => time? text = some []

end Scalar

open Scalar in
def scalar? (text : List Char) : Option Toml :=
  if text = "true".toList then some (.boolean true)
  else if text = "false".toList then some (.boolean false)
  else
    match integer? text with
    | some value => if isKnown value then some (.integer value) else none
    | none => if isFloat text then some .float else if isMoment text then some .moment else none

end DroneFleet.Toml
