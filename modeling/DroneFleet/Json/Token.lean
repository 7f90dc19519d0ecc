import DroneFleet.Json.Basic

/-!
The tokens of a document. The text is read symbol by symbol; white space stands between tokens, and
words and numbers end where something else begins.
-/
namespace DroneFleet.Json

inductive Token where
  | openArray
  | closeArray
  | openObject
  | closeObject
  | comma
  | colon
  | null
  | bool (value : Bool)
  | number (number : Number)
  | string (text : Content)
deriving DecidableEq, Repr

namespace Token

def decimalValue (digits : List Char) : Nat :=
  digits.foldl (fun value digit => value * 10 + (Text.digit? digit).getD 0) 0

def isDigit (character : Char) : Bool := (Text.digit? character).isSome

def leadingDigits? (text : List Char) : Option (List Char × List Char) :=
  match text.takeWhile isDigit with
  | [] => none
  | digits => some (digits, text.dropWhile isDigit)

def exponent? : List Char → Option (Option Int)
  | [] => some none
  | mark :: rest =>
    if mark = 'e' ∨ mark = 'E' then
      let (negative, digits) := match rest with
        | '-' :: digits => (true, digits)
        | '+' :: digits => (false, digits)
        | digits => (false, digits)
      match leadingDigits? digits with
      | some (digits, []) =>
        let size : Int := decimalValue digits
        some (some (if negative then -size else size))
      | _ => none
    else none

/-- A number: the whole part has no needless zero, and a fraction has at least one digit. -/
def number? (text : List Char) : Option Number := do
  let (negative, unsigned) := match text with
    | '-' :: rest => (true, rest)
    | rest => (false, rest)
  let (whole, rest) ← leadingDigits? unsigned
  if 1 < whole.length ∧ whole.head? = some '0' then
    none
  else
    let (fraction, rest) ← match rest with
      | '.' :: rest => leadingDigits? rest
      | rest => some ([], rest)
    let exponent ← exponent? rest
    if negative = false ∧ fraction = [] ∧ exponent = none then
      return .natural (decimalValue whole)
    else
      return .decimal negative (decimalValue (whole ++ fraction))
        (exponent.getD 0 - (fraction.length : Int))

def word? (letters : List Char) : Option Token :=
  if letters = "null".toList then some .null
  else if letters = "true".toList then some (.bool true)
  else if letters = "false".toList then some (.bool false)
  else none

def mark? : Char → Option Token
  | '[' => some openArray
  | ']' => some closeArray
  | '{' => some openObject
  | '}' => some closeObject
  | ',' => some comma
  | ':' => some colon
  | _ => none

end Token

/-- A part of a written text: a symbol, or a 16-bit unit written as an escape. -/
inductive Piece where
  | symbol (symbol : Text.Symbol)
  | unit (code : Nat)
deriving DecidableEq, Repr

namespace Piece

def isHigh (code : Nat) : Bool := 0xd800 ≤ code && code < 0xdc00

def isLow (code : Nat) : Bool := 0xdc00 ≤ code && code < 0xe000

/-- Joins the two halves of a pair; a half without its other half is no character. -/
def join : List Piece → Content
  | [] => []
  | symbol written :: rest => written :: join rest
  | unit high :: unit low :: rest =>
    if isHigh high && isLow low then
      some (Char.ofNat (0x10000 + (high - 0xd800) * 0x400 + (low - 0xdc00))) :: join rest
    else (if isHigh high || isLow high then none else some (Char.ofNat high)) :: join (unit low :: rest)
  | unit code :: rest =>
    (if isHigh code || isLow code then none else some (Char.ofNat code)) :: join rest

end Piece

/-- What the symbols so far leave open. Texts, words and numbers are kept backwards. -/
inductive Lexer where
  | between
  | word (letters : List Char)
  | number (characters : List Char)
  | text (pieces : List Piece)
  | escape (pieces : List Piece)
  | unit (pieces : List Piece) (missing code : Nat)
deriving DecidableEq, Repr

namespace Lexer

def isBlank (character : Char) : Bool :=
  character = ' ' || character = '\n' || character = '\t' || character = '\r'

def isNumeric (character : Char) : Bool :=
  (Text.digit? character).isSome || character = '-' || character = '+' || character = '.' ||
    character = 'e' || character = 'E'

def isLetter (character : Char) : Bool :=
  ('a' ≤ character && character ≤ 'z') || ('A' ≤ character && character ≤ 'Z')

def escaped? : Char → Option Char
  | '"' => some '"'
  | '\\' => some '\\'
  | '/' => some '/'
  | 'b' => some '\x08'
  | 'f' => some '\x0c'
  | 'n' => some '\n'
  | 'r' => some '\r'
  | 't' => some '\t'
  | _ => none

def hexDigit? (character : Char) : Option Nat :=
  if '0' ≤ character ∧ character ≤ '9' then some (character.toNat - '0'.toNat)
  else if 'a' ≤ character ∧ character ≤ 'f' then some (character.toNat - 'a'.toNat + 10)
  else if 'A' ≤ character ∧ character ≤ 'F' then some (character.toNat - 'A'.toNat + 10)
  else none

/-- The tokens that a symbol completes, and what it leaves open, when nothing is open before it. -/
def start : Text.Symbol → Option (List Token × Lexer)
  | none => none
  | some character =>
    if isBlank character then some ([], between)
    else if character = '"' then some ([], text [])
    else if isNumeric character && !isLetter character then some ([], number [character])
    else if isLetter character then some ([], word [character])
    else (Token.mark? character).map fun token => ([token], between)

def close : Lexer → Option (List Token)
  | between => some []
  | word letters => (Token.word? letters.reverse).map ([·])
  | number characters => (Token.number? characters.reverse).map fun number => [.number number]
  | _ => none

def restart (lexer : Lexer) (symbol : Text.Symbol) : Option (List Token × Lexer) := do
  let ended ← lexer.close
  let (begun, next) ← start symbol
  return (ended ++ begun, next)

def step : Lexer → Text.Symbol → Option (List Token × Lexer)
  | between, symbol => start symbol
  | word letters, symbol =>
    match symbol with
    | some character =>
      if isLetter character then some ([], word (character :: letters))
      else (word letters).restart symbol
    | none => none
  | number characters, symbol =>
    match symbol with
    | some character =>
      if isNumeric character then some ([], number (character :: characters))
      else (number characters).restart symbol
    | none => none
  | text pieces, symbol =>
    match symbol with
    | some '"' => some ([.string (Piece.join pieces.reverse)], between)
    | some '\\' => some ([], escape pieces)
    | some character =>
      if character.toNat < 0x20 then none else some ([], text (.symbol symbol :: pieces))
    | none => some ([], text (.symbol none :: pieces))
  | escape pieces, symbol =>
    match symbol with
    | some 'u' => some ([], unit pieces 4 0)
    | some character =>
      (escaped? character).map fun plain => ([], text (.symbol (some plain) :: pieces))
    | none => none
  | unit pieces missing code, symbol => do
    let digit ← hexDigit? (← symbol)
    let code := code * 16 + digit
    match missing with
    | missing + 2 => return ([], unit pieces (missing + 1) code)
    | _ => return ([], text (.unit code :: pieces))

def run : Lexer → List Text.Symbol → Option (List Token)
  | lexer, [] => lexer.close
  | lexer, symbol :: rest =>
    match lexer.step symbol with
    | none => none
    | some (tokens, next) => (run next rest).map (tokens ++ ·)

end Lexer

def tokens? (symbols : List Text.Symbol) : Option (List Token) := Lexer.between.run symbols

end DroneFleet.Json
