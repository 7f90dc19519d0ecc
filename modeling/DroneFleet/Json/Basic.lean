import DroneFleet.Text.Decimal
import DroneFleet.Text.Symbols

/-!
Documents of values, lists and named members. A document is kept as it was written: members stay in
their order and may repeat, and a text may hold places without a character, so that only a reader who
needs the text has to refuse it.
-/
namespace DroneFleet

abbrev Content := List Text.Symbol

namespace Json

/-- A number as it is spelled: digits alone, or digits with a sign, a fraction or an exponent. The
value of the second is `significand * 10 ^ exponent`. -/
inductive Number where
  | natural (value : Nat)
  | decimal (negative : Bool) (significand : Nat) (exponent : Int)
deriving DecidableEq, Repr

namespace Number

/-- Keeps as many leading digits as fit into 64 bits. -/
def leadingDigits (significand : Nat) (exponent : Int) : Nat × Int :=
  if significand ≤ Text.word64Limit then (significand, exponent)
  else leadingDigits (significand / 10) (exponent + 1)
termination_by significand
decreasing_by
  have : 0 < Text.word64Limit := by decide
  omega

/-- The nearest number of at most 53 binary digits before its zeros, the even one of two. -/
def rounded53 (value : Nat) : Nat :=
  let excess := value.log2 + 1 - 53
  let unit := Nat.pow 2 excess
  let low := value / unit
  let rest := value % unit
  let up := unit < 2 * rest || (2 * rest == unit && low % 2 == 1)
  (if up then low + 1 else low) * unit

/-- The least number that rounds to none of double precision. -/
def doubleLimit : Nat := Nat.pow 2 1024 - Nat.pow 2 970

/-- Is no larger than the numbers of double precision, in which it is computed. -/
def inRange (number : Number) : Bool :=
  let (significand, exponent) := match number with
    | natural value => leadingDigits value 0
    | decimal _ significand exponent => leadingDigits significand exponent
  significand == 0 || exponent ≤ 0 ||
    (exponent ≤ 308 &&
      rounded53 significand * rounded53 (Nat.pow 10 exponent.toNat) < doubleLimit)

end Number

end Json

inductive Json where
  | null
  | bool (value : Bool)
  | number (number : Json.Number)
  | string (text : Content)
  | array (items : List Json)
  | object (members : List (Content × Json))
deriving Inhabited

namespace Json

def text (text : String) : Json := string (Text.ofChars text.toList)

def natural (value : Nat) : Json := number (.natural value)

def word (value : UInt32) : Json := natural value.toNat

def record (members : List (String × Json)) : Json :=
  object (members.map fun member => (Text.ofChars member.1.toList, member.2))

end Json

end DroneFleet
