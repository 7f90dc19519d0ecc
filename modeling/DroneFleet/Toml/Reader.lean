import DroneFleet.Toml.Scalar
import DroneFleet.Toml.Token

/-!
Reading a configuration document: values, the lines that give them names, and the headers above
these lines.
-/
namespace DroneFleet.Toml

def depthLimit : Nat := 80

def segments : List Token → List (List Token)
  | [] => [[]]
  | .dot :: rest => [] :: segments rest
  | token :: rest =>
    match segments rest with
    | [] => [[token]]
    | first :: others => (token :: first) :: others

def isBareKey (character : Char) : Bool :=
  ('a' ≤ character && character ≤ 'z') || ('A' ≤ character && character ≤ 'Z') ||
    (Text.digit? character).isSome || character = '_' || character = '-'

def skipBlank : List Token → List Token
  | .blank _ :: rest => rest
  | rest => rest

def keyPart? (tokens : List Token) : Option String :=
  match skipBlank tokens with
  | .bare characters :: rest =>
    if characters.all isBareKey ∧ skipBlank rest = [] then some (String.ofList characters) else none
  | .quoted value false :: rest => if skipBlank rest = [] then some value else none
  | _ => none

def key? (tokens : List Token) : Option (List String) := (segments tokens).mapM keyPart?

/-- The characters of a bare value, which may have dots and single gaps, and what follows. -/
def bareValue : List Token → List Char × List Token
  | .bare characters :: rest => let (more, left) := bareValue rest; (characters ++ more, left)
  | .dot :: rest => let (more, left) := bareValue rest; ('.' :: more, left)
  | .blank gap :: .bare characters :: rest =>
    let (more, left) := bareValue rest; (gap ++ characters ++ more, left)
  | rest => ([], rest)

def skipSpace : List Token → List Token
  | .blank _ :: rest => skipSpace rest
  | .newLine :: rest => skipSpace rest
  | rest => rest

def dropSpace (tokens : List Token) : List Token := (skipSpace tokens.reverse).reverse

mutual

/-- A value inside `depth` containers, and what follows. At most `fuel` tokens are looked at. -/
def value? (depth : Nat) : Nat → List Token → Option (Toml × List Token)
  | 0, _ => none
  | fuel + 1, tokens =>
    match tokens with
    | .quoted value _ :: rest => some (.text value, rest)
    | .openBracket :: rest =>
      if depth < depthLimit then
        (items? (depth + 1) fuel (skipSpace rest)).map fun read => (.array read.1 false, read.2)
      else none
    | .openBrace :: rest =>
      if depth < depthLimit then
        (members? (depth + 1) fuel [] (skipSpace rest)).map fun read => (.table .inline read.1, read.2)
      else none
    | .bare _ :: _ | .dot :: _ =>
      let (characters, rest) := bareValue tokens
      (scalar? characters).map fun value => (value, rest)
    | _ => none

def items? (depth : Nat) : Nat → List Token → Option (List Toml × List Token)
  | 0, _ => none
  | fuel + 1, tokens =>
    match tokens with
    | .closeBracket :: rest => some ([], rest)
    | _ => do
      let (first, rest) ← value? depth fuel tokens
      match skipSpace rest with
      | .comma :: rest =>
        let (others, rest) ← items? depth fuel (skipSpace rest)
        return (first :: others, rest)
      | .closeBracket :: rest => return ([first], rest)
      | _ => none

def members? (depth : Nat) : Nat → Entries → List Token → Option (Entries × List Token)
  | 0, _, _ => none
  | fuel + 1, entries, tokens =>
    match tokens with
    | .closeBrace :: rest => some (entries, rest)
    | _ => do
      let path ← key? (dropSpace (tokens.takeWhile (· ≠ .equals)))
      let .equals :: rest := tokens.dropWhile (· ≠ .equals) | none
      let (value, rest) ← value? depth fuel (skipSpace rest)
      let entries ← assign path value .inline entries
      match skipSpace rest with
      | .comma :: rest => members? depth fuel entries (skipSpace rest)
      | .closeBrace :: rest => return (entries, rest)
      | _ => none

end

inductive Statement where
  | table (path : List String)
  | item (path : List String)
  | entry (path : List String) (value : Toml)

def endLine? (tokens : List Token) : Option (List Token) :=
  match skipBlank tokens with
  | [] => some []
  | .newLine :: rest => some rest
  | _ => none

def headerKey? (tokens : List Token) : Option (List String × List Token) := do
  let path ← key? (tokens.takeWhile (· ≠ .closeBracket))
  let .closeBracket :: rest := tokens.dropWhile (· ≠ .closeBracket) | none
  return (path, rest)

def statement? (tokens : List Token) : Option (Statement × List Token) :=
  match tokens with
  | .openBracket :: .openBracket :: rest => do
    let (path, rest) ← headerKey? rest
    let .closeBracket :: rest := rest | none
    return (.item path, ← endLine? rest)
  | .openBracket :: rest => do
    let (path, rest) ← headerKey? rest
    return (.table path, ← endLine? rest)
  | _ => do
    let path ← key? (tokens.takeWhile (· ≠ .equals))
    let .equals :: rest := tokens.dropWhile (· ≠ .equals) | none
    let (value, rest) ← value? 0 (2 * tokens.length) (skipBlank rest)
    return (.entry path value, ← endLine? rest)

def statements? : Nat → List Token → Option (List Statement)
  | 0, _ => none
  | fuel + 1, tokens =>
    match skipSpace tokens with
    | [] => some []
    | tokens => do
      let (statement, rest) ← statement? tokens
      return statement :: (← statements? fuel rest)

def build (above : List String) (entries : Entries) : List Statement → Option Entries
  | [] => some entries
  | .table path :: rest => do
    let entries ← within false (openTable (path.getLastD "")) path.dropLast .header entries
    build path entries rest
  | .item path :: rest => do
    let entries ← within false (openItem (path.getLastD "")) path.dropLast .header entries
    build path entries rest
  | .entry path value :: rest => do
    let entries ← within false (assign path value) above .header entries
    build above entries rest

def read? (text : String) : Option Toml := do
  let tokens ← tokens? text
  let statements ← statements? (tokens.length + 1) tokens
  return .table .header (← build [] [] statements)

end DroneFleet.Toml
