import DroneFleet.Json.Token

/-!
Network addresses in their two families, each with the number of a service there, read from text and
written in the one form that is preferred for each address.
-/
namespace DroneFleet

inductive SocketAddress where
  | v4 (a b c d : UInt8) (service : UInt16)
  | v6 (groups : Vector UInt16 8) (scope : UInt32) (service : UInt16)
deriving DecidableEq, Repr

namespace SocketAddress

def digit? (radix : Nat) (character : Char) : Option Nat :=
  (Json.Lexer.hexDigit? character).filter (· < radix)

/-- A number up to `limit`, of at most `most` digits if that is given, and what follows. Without
`padded` no zero stands before other digits. -/
def number? (radix limit : Nat) (most : Option Nat) (padded : Bool) (text : List Char) :
    Option (Nat × List Char) :=
  let digits := text.takeWhile fun character => (digit? radix character).isSome
  let value := digits.foldl (fun value digit => value * radix + (digit? radix digit).getD 0) 0
  if digits.isEmpty || (most.map fun most => decide (most < digits.length)).getD false ||
      (!padded && 1 < digits.length && digits.head? = some '0') || limit < value then none
  else some (value, text.drop digits.length)

def mark? (mark : Char) : List Char → Option (List Char)
  | character :: rest => if character = mark then some rest else none
  | [] => none

def byte? (text : List Char) : Option (UInt8 × List Char) :=
  (number? 10 255 (some 3) false text).map fun read => (UInt8.ofNat read.1, read.2)

def bytes? (text : List Char) : Option ((UInt8 × UInt8 × UInt8 × UInt8) × List Char) := do
  let (a, rest) ← byte? text
  let (b, rest) ← byte? (← mark? '.' rest)
  let (c, rest) ← byte? (← mark? '.' rest)
  let (d, rest) ← byte? (← mark? '.' rest)
  return ((a, b, c, d), rest)

/-- Groups between colons, at most `room` of them; the last two may be written as four bytes, which
the second result tells. `first` says that no colon stands before the next group. -/
def groups? : Nat → Bool → List Char → List UInt16 × Bool × List Char
  | 0, _, text => ([], false, text)
  | room + 1, first, text =>
    let inside := if first then some text else mark? ':' text
    let pair (high low : UInt8) : UInt16 := UInt16.ofNat (high.toNat * 256 + low.toNat)
    match if 0 < room then inside.bind bytes? else none with
    | some ((a, b, c, d), rest) => ([pair a b, pair c d], true, rest)
    | none =>
      match inside.bind (number? 16 0xffff (some 4) true) with
      | none => ([], false, text)
      | some (group, rest) =>
        let (others, asBytes, rest) := groups? room false rest
        (UInt16.ofNat group :: others, asBytes, rest)

def eight? (groups : List UInt16) : Option (Vector UInt16 8) :=
  if size : groups.length = 8 then some ⟨groups.toArray, by simpa using size⟩ else none

/-- Eight groups, or fewer around a double colon that stands for the missing zeros. -/
def allGroups? (text : List Char) : Option (Vector UInt16 8 × List Char) := do
  let (head, asBytes, rest) := groups? 8 true text
  match eight? head with
  | some groups => return (groups, rest)
  | none =>
    if asBytes then none
    else
      let rest ← mark? ':' (← mark? ':' rest)
      let (tail, _, rest) := groups? (7 - head.length) true rest
      let zeros := List.replicate (8 - head.length - tail.length) 0
      return (← eight? (head ++ zeros ++ tail), rest)

def service? (text : List Char) : Option (UInt16 × List Char) := do
  let (service, rest) ← number? 10 0xffff none true (← mark? ':' text)
  return (UInt16.ofNat service, rest)

def v4? (text : List Char) : Option (SocketAddress × List Char) := do
  let ((a, b, c, d), rest) ← bytes? text
  let (service, rest) ← service? rest
  return (v4 a b c d service, rest)

/-- The number behind a percent sign, zero if there is none. -/
def scope (text : List Char) : UInt32 × List Char :=
  match (mark? '%' text).bind (number? 10 0xffffffff none true) with
  | some (scope, rest) => (UInt32.ofNat scope, rest)
  | none => (0, text)

def v6? (text : List Char) : Option (SocketAddress × List Char) := do
  let (groups, rest) ← allGroups? (← mark? '[' text)
  let (scope, rest) := scope rest
  let (service, rest) ← service? (← mark? ']' rest)
  return (v6 groups scope service, rest)

def parse? (text : String) : Option SocketAddress :=
  match (v4? text.toList).orElse fun _ => v6? text.toList with
  | some (address, []) => some address
  | _ => none

def faultMessage : String := "invalid socket address syntax"

def leadingZeros (groups : List UInt16) : Nat := (groups.takeWhile (· = 0)).length

/-- The first of the longest runs of zeros: its place and its length. -/
def longestRun : Nat → List UInt16 → Nat × Nat
  | _, [] => (0, 0)
  | place, group :: rest =>
    let later := longestRun (place + 1) rest
    let here := leadingZeros (group :: rest)
    if later.2 ≤ here then (place, here) else later

def groupsText (groups : List UInt16) : String :=
  ":".intercalate (groups.map fun group => String.ofList (Nat.toDigits 16 group.toNat))

def bytesText (a b c d : UInt8) : String :=
  ".".intercalate ([a, b, c, d].map fun byte => toString byte.toNat)

/-- Groups in hexadecimal, with the first of the longest runs of at least two zeros left out. An
address of four bytes inside the other family shows these bytes. -/
def vectorText (groups : List UInt16) : String :=
  match groups with
  | [0, 0, 0, 0, 0, 0xffff, high, low] =>
    "::ffff:" ++ bytesText (UInt8.ofNat (high.toNat / 256)) (UInt8.ofNat (high.toNat % 256))
      (UInt8.ofNat (low.toNat / 256)) (UInt8.ofNat (low.toNat % 256))
  | _ =>
    let (place, length) := longestRun 0 groups
    if 1 < length then
      groupsText (groups.take place) ++ "::" ++ groupsText (groups.drop (place + length))
    else groupsText groups

def text : SocketAddress → String
  | v4 a b c d service => bytesText a b c d ++ ":" ++ toString service.toNat
  | v6 groups scope service =>
    "[" ++ vectorText groups.toList ++ (if scope = 0 then "" else "%" ++ toString scope.toNat) ++
      "]:" ++ toString service.toNat

end SocketAddress

end DroneFleet
