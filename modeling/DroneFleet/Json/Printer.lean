import DroneFleet.Json.Basic

/-!
Writing a document, either without any white space or with one entry to a line.
-/
namespace DroneFleet.Json

def escapeChar (character : Char) : List Char :=
  match character with
  | '"' => ['\\', '"']
  | '\\' => ['\\', '\\']
  | '\n' => ['\\', 'n']
  | '\r' => ['\\', 'r']
  | '\t' => ['\\', 't']
  | '\x08' => ['\\', 'b']
  | '\x0c' => ['\\', 'f']
  | _ =>
    if character.toNat < 0x20 then
      ['\\', 'u', '0', '0', Nat.digitChar (character.toNat / 16), Nat.digitChar (character.toNat % 16)]
    else [character]

/-- A symbol of a text; what is no character is shown as the replacement character. -/
def escapeSymbol : Text.Symbol → List Char
  | some character => escapeChar character
  | none => ['\ufffd']

def quote (text : Content) : List Char := '"' :: text.flatMap escapeSymbol ++ ['"']

def Number.text : Number → List Char
  | natural value => Nat.toDigits 10 value
  | decimal negative significand exponent =>
    (if negative then ['-'] else []) ++ Nat.toDigits 10 significand ++
      (if exponent = 0 then [] else 'e' :: (toString exponent).toList)

mutual

def compact : Json → List Char
  | null => "null".toList
  | bool true => "true".toList
  | bool false => "false".toList
  | number value => value.text
  | string text => quote text
  | array items => '[' :: compactItems items ++ [']']
  | object members => '{' :: compactMembers members ++ ['}']

def compactItems : List Json → List Char
  | [] => []
  | [item] => compact item
  | item :: rest => compact item ++ ',' :: compactItems rest

def compactMembers : List (Content × Json) → List Char
  | [] => []
  | [(key, value)] => quote key ++ ':' :: compact value
  | (key, value) :: rest => quote key ++ ':' :: compact value ++ ',' :: compactMembers rest

end

def newLine (depth : Nat) : List Char := '\n' :: List.replicate (2 * depth) ' '

mutual

/-- The document inside `depth` containers, with one entry to a line. -/
def pretty (depth : Nat) : Json → List Char
  | null => "null".toList
  | bool true => "true".toList
  | bool false => "false".toList
  | number value => value.text
  | string text => quote text
  | array [] => "[]".toList
  | array items => '[' :: prettyItems (depth + 1) items ++ newLine depth ++ [']']
  | object [] => ['{', '}']
  | object members => '{' :: prettyMembers (depth + 1) members ++ newLine depth ++ ['}']

def prettyItems (depth : Nat) : List Json → List Char
  | [] => []
  | [item] => newLine depth ++ pretty depth item
  | item :: rest => newLine depth ++ pretty depth item ++ ',' :: prettyItems depth rest

def prettyMembers (depth : Nat) : List (Content × Json) → List Char
  | [] => []
  | [(key, value)] => newLine depth ++ quote key ++ ':' :: ' ' :: pretty depth value
  | (key, value) :: rest =>
    newLine depth ++ quote key ++ ':' :: ' ' :: pretty depth value ++ ',' ::
      prettyMembers depth rest

end

def compactText (json : Json) : String := String.ofList json.compact

def prettyText (json : Json) : String := String.ofList (json.pretty 0)

end DroneFleet.Json
