import DroneFleet.Text.Quoted

/-!
Command sequences and their two written forms: one text of letters, or a list of one-letter texts.
The first character or element that is no command decides the refusal.
-/
namespace DroneFleet

inductive Command where
  | advance
  | turnLeft
  | turnRight
deriving DecidableEq, Repr

namespace Command

def letter : Command → Char
  | advance => 'A'
  | turnLeft => 'L'
  | turnRight => 'R'

def ofLetter? : Char → Option Command
  | 'A' => some advance
  | 'L' => some turnLeft
  | 'R' => some turnRight
  | _ => none

def ofElement? (element : String) : Option Command :=
  match element.toList with
  | [character] => ofLetter? character
  | _ => none

end Command

inductive CommandFault where
  | character (index : Nat) (character : Char)
  | element (index : Nat) (element : String)
deriving DecidableEq, Repr

namespace CommandFault

def index : CommandFault → Nat
  | character index _ => index
  | element index _ => index

def message : CommandFault → String
  | character index found =>
    "Invalid command " ++ Text.quotedChar found ++ " at index " ++ toString index
  | element index found =>
    "Invalid command element " ++ Text.quoted found ++ " at index " ++ toString index ++
      ": expected exactly one of A, L, R"

end CommandFault

namespace Command

def readLetters (index : Nat) : List Char → Except CommandFault (List Command)
  | [] => .ok []
  | character :: rest =>
    match ofLetter? character with
    | some command => (readLetters (index + 1) rest).map (command :: ·)
    | none => .error (.character index character)

def readElements (index : Nat) : List String → Except CommandFault (List Command)
  | [] => .ok []
  | element :: rest =>
    match ofElement? element with
    | some command => (readElements (index + 1) rest).map (command :: ·)
    | none => .error (.element index element)

def parse (text : String) : Except CommandFault (List Command) := readLetters 0 text.toList

def parseElements (elements : List String) : Except CommandFault (List Command) :=
  readElements 0 elements

def text (commands : List Command) : String := String.ofList (commands.map letter)

end Command

/-- A sequence as a request carries it, not yet read. -/
inductive CommandInput where
  | text (text : String)
  | elements (elements : List String)
deriving DecidableEq, Repr

def CommandInput.parse : CommandInput → Except CommandFault (List Command)
  | .text letters => Command.parse letters
  | .elements texts => Command.parseElements texts

end DroneFleet
