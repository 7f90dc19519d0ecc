/-!
Whole numbers written in decimal digits, read up to a limit. The first character at which the text
stops being a number within the limit decides what is wrong with it.
-/
namespace DroneFleet.Text

inductive IntegerFault where
  | empty
  | invalidDigit
  | tooLarge
  | tooSmall
deriving DecidableEq, Repr

def IntegerFault.message : IntegerFault → String
  | .empty => "cannot parse integer from empty string"
  | .invalidDigit => "invalid digit found in string"
  | .tooLarge => "number too large to fit in target type"
  | .tooSmall => "number too small to fit in target type"

def digit? (character : Char) : Option Nat :=
  if '0' ≤ character ∧ character ≤ '9' then some (character.toNat - '0'.toNat) else none

/-- Reads digits on from `value`; `overflow` is the fault of passing `limit`. -/
def readDigits (limit : Nat) (overflow : IntegerFault) : Nat → List Char → Except IntegerFault Nat
  | value, [] => .ok value
  | value, character :: rest =>
    match digit? character with
    | none => .error .invalidDigit
    | some digit =>
      if value * 10 + digit ≤ limit then readDigits limit overflow (value * 10 + digit) rest
      else .error overflow

/-- A number from zero to `limit`, with or without a leading plus sign. -/
def readNatural (limit : Nat) (text : String) : Except IntegerFault Nat :=
  match text.toList with
  | [] => .error .empty
  | ['+'] => .error .invalidDigit
  | '+' :: digits => readDigits limit .tooLarge 0 digits
  | digits => readDigits limit .tooLarge 0 digits

def readSigned (text : String) : Except IntegerFault Int :=
  match text.toList with
  | [] => .error .empty
  | ['+'] => .error .invalidDigit
  | ['-'] => .error .invalidDigit
  | '-' :: digits => (readDigits (Nat.pow 2 63) .tooSmall 0 digits).map fun size => -(size : Int)
  | '+' :: digits => (readDigits (Nat.pow 2 63 - 1) .tooLarge 0 digits).map Int.ofNat
  | digits => (readDigits (Nat.pow 2 63 - 1) .tooLarge 0 digits).map Int.ofNat

def word32Limit : Nat := UInt32.size - 1

def word64Limit : Nat := UInt64.size - 1

end DroneFleet.Text
