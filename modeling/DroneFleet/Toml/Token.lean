import DroneFleet.Json.Token

/-!
The tokens of a configuration document: marks, blanks, line ends, quoted texts and bare words.
Comments are checked and left out.
-/
namespace DroneFleet.Toml

inductive Token where
  | dot
  | equals
  | comma
  | openBracket
  | closeBracket
  | openBrace
  | closeBrace
  | blank (characters : List Char)
  | newLine
  | bare (characters : List Char)
  | quoted (value : String) (manyLines : Bool)
deriving DecidableEq, Repr

namespace Token

def isBlank (character : Char) : Bool := character = ' ' || character = '\t'

/-- May stand in a text or a comment; line ends are a matter of their own. -/
def isPlain (character : Char) : Bool :=
  character = '\t' || (0x20 ≤ character.toNat && character.toNat ≠ 0x7f)

def coded? (digits : List Char) : Option Char := do
  let code ← digits.foldlM (fun code digit => do return code * 16 + (← Json.Lexer.hexDigit? digit)) 0
  if code.isValidChar then some (Char.ofNat code) else none

def escaped? : Char → Option Char
  | '"' => some '"'
  | '\\' => some '\\'
  | 'b' => some '\x08'
  | 'e' => some '\x1b'
  | 'f' => some '\x0c'
  | 'n' => some '\n'
  | 'r' => some '\r'
  | 't' => some '\t'
  | _ => none

private def cons (character : Char) :
    Option (List Char × List Char) → Option (List Char × List Char) :=
  Option.map fun read => (character :: read.1, read.2)

def basic : List Char → Option (List Char × List Char)
  | [] => none
  | '"' :: rest => some ([], rest)
  | '\\' :: 'x' :: a :: b :: rest => do cons (← coded? [a, b]) (basic rest)
  | '\\' :: 'u' :: a :: b :: c :: d :: rest => do cons (← coded? [a, b, c, d]) (basic rest)
  | '\\' :: 'U' :: a :: b :: c :: d :: e :: f :: g :: h :: rest => do
    cons (← coded? [a, b, c, d, e, f, g, h]) (basic rest)
  | '\\' :: letter :: rest => do cons (← escaped? letter) (basic rest)
  | character :: rest => if isPlain character then cons character (basic rest) else none

def literal : List Char → Option (List Char × List Char)
  | [] => none
  | '\'' :: rest => some ([], rest)
  | character :: rest => if isPlain character then cons character (literal rest) else none

/-- What a backslash before a line end does to the characters after it. -/
inductive Joining where
  | none
  | backslash
  | margin
deriving DecidableEq, Repr

/-- A text of many lines up to three double quote marks, of which up to two more belong to it. A
backslash at the end of a line joins it to the next visible character. -/
def basicLines (joining : Joining) : List Char → Option (List Char × List Char)
  | [] => none
  | '"' :: '"' :: '"' :: '"' :: '"' :: rest =>
    if joining = .backslash then none else some (['"', '"'], rest)
  | '"' :: '"' :: '"' :: '"' :: rest =>
    if joining = .backslash then none else some (['"'], rest)
  | '"' :: '"' :: '"' :: rest => if joining = .backslash then none else some ([], rest)
  | '\r' :: '\n' :: rest =>
    if joining = .none then cons '\r' (cons '\n' (basicLines .none rest)) else basicLines .margin rest
  | '\n' :: rest =>
    if joining = .none then cons '\n' (basicLines .none rest) else basicLines .margin rest
  | '\\' :: 'x' :: a :: b :: rest =>
    if joining = .backslash then none else do cons (← coded? [a, b]) (basicLines .none rest)
  | '\\' :: 'u' :: a :: b :: c :: d :: rest =>
    if joining = .backslash then none else do cons (← coded? [a, b, c, d]) (basicLines .none rest)
  | '\\' :: 'U' :: a :: b :: c :: d :: e :: f :: g :: h :: rest =>
    if joining = .backslash then none
    else do cons (← coded? [a, b, c, d, e, f, g, h]) (basicLines .none rest)
  | '\\' :: '\r' :: '\n' :: rest =>
    if joining = .backslash then none else basicLines .margin rest
  | '\\' :: letter :: rest =>
    if joining = .backslash then none
    else if letter = '\n' then basicLines .margin rest
    else if isBlank letter then basicLines .backslash rest
    else do cons (← escaped? letter) (basicLines .none rest)
  | character :: rest =>
    if joining ≠ .none ∧ isBlank character then basicLines joining rest
    else if joining = .backslash then none
    else if isPlain character then cons character (basicLines .none rest)
    else none

/-- A text of many lines up to three single quote marks, of which up to two more belong to it. -/
def literalLines : List Char → Option (List Char × List Char)
  | [] => none
  | '\'' :: '\'' :: '\'' :: '\'' :: '\'' :: rest => some (['\'', '\''], rest)
  | '\'' :: '\'' :: '\'' :: '\'' :: rest => some (['\''], rest)
  | '\'' :: '\'' :: '\'' :: rest => some ([], rest)
  | '\r' :: '\n' :: rest => cons '\r' (cons '\n' (literalLines rest))
  | '\n' :: rest => cons '\n' (literalLines rest)
  | character :: rest => if isPlain character then cons character (literalLines rest) else none

def dropLineEnd : List Char → List Char
  | '\r' :: '\n' :: rest => rest
  | '\n' :: rest => rest
  | rest => rest

def mark? : Char → Option Token
  | '.' => some dot
  | '=' => some equals
  | ',' => some comma
  | '[' => some openBracket
  | ']' => some closeBracket
  | '{' => some openBrace
  | '}' => some closeBrace
  | _ => none

def isBare (character : Char) : Bool :=
  (mark? character).isNone && !isBlank character && character ≠ '\r' && character ≠ '\n' &&
    character ≠ '#' && character ≠ '"' && character ≠ '\''

/-- The first token, if there is one before the next line end or comment, and what follows. -/
def next? : List Char → Option (Option Token × List Char)
  | [] => none
  | '\r' :: '\n' :: rest => some (some newLine, rest)
  | '\n' :: rest => some (some newLine, rest)
  | '#' :: rest =>
    let comment := rest.takeWhile fun character => character ≠ '\n' && character ≠ '\r'
    if comment.all isPlain then
      some (none, rest.dropWhile fun character => character ≠ '\n' && character ≠ '\r')
    else none
  | '"' :: '"' :: '"' :: rest =>
    (basicLines .none (dropLineEnd rest)).map fun read =>
      (some (quoted (String.ofList read.1) true), read.2)
  | '\'' :: '\'' :: '\'' :: rest =>
    (literalLines (dropLineEnd rest)).map fun read =>
      (some (quoted (String.ofList read.1) true), read.2)
  | '"' :: rest =>
    (basic rest).map fun read => (some (quoted (String.ofList read.1) false), read.2)
  | '\'' :: rest =>
    (literal rest).map fun read => (some (quoted (String.ofList read.1) false), read.2)
  | character :: rest =>
    if isBlank character then
      some (some (blank (character :: rest.takeWhile isBlank)), rest.dropWhile isBlank)
    else if isBare character then
      some (some (bare (character :: rest.takeWhile isBare)), rest.dropWhile isBare)
    else (mark? character).map fun mark => (some mark, rest)

def scan : Nat → List Char → Option (List Token)
  | _, [] => some []
  | 0, _ => none
  | size + 1, characters => do
    let (token, rest) ← next? characters
    return token.toList ++ (← scan size rest)

end Token

/-- The tokens of a document. A byte order mark may stand before it. -/
def tokens? (text : String) : Option (List Token) :=
  match text.toList with
  | '\ufeff' :: rest => Token.scan rest.length rest
  | characters => Token.scan characters.length characters

end DroneFleet.Toml
