import DroneFleet.Text.Extender
import DroneFleet.Text.Unprintable

/-!
Text shown between quote marks, so that every character of it can be seen: control characters,
marks that would attach to the quote and code points without a visible form appear as escapes.
-/
namespace DroneFleet.Text

def inRanges (ranges : List (Nat × Nat)) (code : Nat) : Bool :=
  ranges.any fun range => range.1 ≤ code && code ≤ range.2

def isExtender (character : Char) : Bool := inRanges extenderRanges character.toNat

/-- Has a visible form of its own; of the blank characters only the plain space has. -/
def isPrintable (character : Char) : Bool := !inRanges unprintableRanges character.toNat

def escape (mark character : Char) : List Char :=
  match character with
  | '\x00' => ['\\', '0']
  | '\t' => ['\\', 't']
  | '\r' => ['\\', 'r']
  | '\n' => ['\\', 'n']
  | '\\' => ['\\', '\\']
  | _ =>
    if character = mark then ['\\', mark]
    else if isExtender character || !isPrintable character then
      ['\\', 'u', '{'] ++ Nat.toDigits 16 character.toNat ++ ['}']
    else [character]

def quotedChar (character : Char) : String :=
  String.ofList (['\''] ++ escape '\'' character ++ ['\''])

def quoted (text : String) : String :=
  String.ofList (['"'] ++ text.toList.flatMap (escape '"') ++ ['"'])

end DroneFleet.Text
