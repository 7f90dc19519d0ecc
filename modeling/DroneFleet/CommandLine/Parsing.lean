import DroneFleet.CommandLine.Grammar

/-!
Reading a command line word by word. The values of an argument are kept as they were written until
another argument begins or the words end; only then are they read, so that a word that belongs
nowhere is found before a bad value right in front of it. The levels that a subcommand leaves behind
are completed after the level of the subcommand.
-/
namespace DroneFleet.CommandLine

structure Level where
  grammar : Grammar
  found : List (String × List Value)
  pending : Option (Argument × List String)
  awaiting : Bool
  position : Nat
  trailing : Bool

namespace Level

def new (grammar : Grammar) : Level := ⟨grammar, [], none, false, 0, false⟩

def values? (level : Level) (name : String) : Option (List Value) := level.found.lookup name

def add (level : Level) (name : String) (values : List Value) : Level :=
  { level with
    found := (level.found.filter (·.1 ≠ name)) ++ [(name, (level.values? name).getD [] ++ values)] }

def accept (level : Level) (argument : Argument) (written : List String) : Except Fault Level :=
  if argument.arity ≠ .flag ∧ written = [] then .error .missingValue
  else if argument.arity ≠ .many ∧ (level.values? argument.name).isSome then
    .error .repeatedArgument
  else do
    return level.add argument.name (← argument.read written)

def resolve (level : Level) : Except Fault Level :=
  match level.pending with
  | none => .ok level
  | some (argument, written) => { level with pending := none }.accept argument written

def long (level : Level) (word : List Char) : Except Fault Level :=
  let name := String.ofList (word.takeWhile (· ≠ '='))
  let attached := (word.dropWhile (· ≠ '=')).tail?.map String.ofList
  if name = "help" then
    match attached with
    | some _ => .error .needlessValue
    | none => do
      let _ ← level.resolve
      throw .help
  else
    match level.grammar.option? name with
    | none => .error .unknownArgument
    | some argument =>
      match argument.arity, attached with
      | .flag, some _ => .error .needlessValue
      | .flag, none => do
        let level ← level.resolve
        return { ← level.accept argument [] with awaiting := false }
      | _, some value => do
        let level ← level.resolve
        return { ← level.accept argument [value] with awaiting := false }
      | _, none => do
        let level ← level.resolve
        return { level with pending := some (argument, []), awaiting := true }

/-- A word that begins with one hyphen: only help has a short name. -/
def short (level : Level) (word : List Char) : Except Fault Level :=
  match word with
  | 'h' :: _ => do
    let _ ← level.resolve
    throw .help
  | _ => .error .unknownArgument

def extend (level : Level) (word : String) : Level :=
  { level with
    pending := level.pending.map fun (argument, written) => (argument, written ++ [word])
    awaiting := false }

def operand (level : Level) (word : String) : Except Fault Level :=
  match level.grammar.operands[level.position]? with
  | none =>
    if level.grammar.hasSubcommands ∧
        ¬(level.trailing ∧ (level.grammar.subcommand? word).isSome) then
      .error .unknownSubcommand
    else .error .unknownArgument
  | some argument =>
    if argument.arity = .many ∧ level.pending.map (·.1) = some argument then
      .ok (level.extend word)
    else do
      let level ← level.resolve
      return { level with
        pending := some (argument, [word])
        awaiting := false
        position := if argument.arity = .many then level.position else level.position + 1 }

def word (level : Level) (word : String) : Except Fault Level :=
  if level.trailing then level.operand word
  else
    match word.toList with
    | ['-', '-'] => .ok { level with trailing := true }
    | '-' :: '-' :: rest => level.long rest
    | ['-'] => if level.awaiting then .ok (level.extend word) else level.operand word
    | '-' :: rest => level.short rest
    | _ => if level.awaiting then .ok (level.extend word) else level.operand word

/-- Completes a level at the end of the words; `chosen` says that a subcommand has been given. -/
def complete (level : Level) (chosen : Bool) : Except Fault Level := do
  let level ← level.resolve
  if !chosen && level.grammar.hasSubcommands then
    throw (if level.found.isEmpty then .nothingAsked else .missingSubcommand)
  let wanted := (level.grammar.options ++ level.grammar.operands).filter (·.required)
  if wanted.all fun argument => (level.values? argument.name).isSome then
    return level
  else throw .missingArgument

end Level

structure Parsed where
  path : List String
  levels : List Level

def explain (grammar : Grammar) : List String → Fault
  | [] => .help
  | name :: rest =>
    match grammar.subcommand? name with
    | some inner => explain inner rest
    | none => .unknownSubcommand

def completeAll (chosen : Bool) : List Level → Except Fault (List Level)
  | [] => .ok []
  | level :: outer => do
    let level ← level.complete chosen
    return level :: (← completeAll true outer)

/-- Reads words at a level inside others; the innermost level comes first. -/
def readWords (path : List String) (level : Level) (outer : List Level) :
    List String → Except Fault Parsed
  | [] => do return ⟨path.reverse, (← completeAll false (level :: outer)).reverse⟩
  | word :: rest =>
    match if level.trailing || level.awaiting then none else level.grammar.subcommand? word with
    | some inner =>
      if word = "help" then .error (explain level.grammar rest)
      else readWords (word :: path) (.new inner) (level :: outer) rest
    | none => do readWords path (← level.word word) outer rest

def parse (grammar : Grammar) (words : List String) : Except Fault Parsed :=
  readWords [] (.new grammar) [] words

namespace Parsed

/-- The values of an argument at the outermost level that has it. -/
def values? (parsed : Parsed) (name : String) : Option (List Value) :=
  parsed.levels.findSome? fun level => level.values? name

def has (parsed : Parsed) (name : String) : Bool := (parsed.values? name).isSome

def value? (parsed : Parsed) (name : String) : Option Value :=
  (parsed.values? name).bind List.head?

def text? (parsed : Parsed) (name : String) : Option String :=
  match parsed.value? name with
  | some (.text value) => some value
  | _ => none

def natural? (parsed : Parsed) (name : String) : Option Nat :=
  match parsed.value? name with
  | some (.natural value) => some value
  | _ => none

def word? (parsed : Parsed) (name : String) : Option UInt32 :=
  match parsed.value? name with
  | some (.word value) => some value
  | _ => none

def orientation? (parsed : Parsed) (name : String) : Option Orientation :=
  match parsed.value? name with
  | some (.orientation value) => some value
  | _ => none

def address? (parsed : Parsed) (name : String) : Option SocketAddress :=
  match parsed.value? name with
  | some (.address value) => some value
  | _ => none

def naturals? (parsed : Parsed) (name : String) : Option (List Nat) :=
  (parsed.values? name).map fun values => values.filterMap fun value =>
    match value with
    | .natural value => some value
    | _ => none

def entries? (parsed : Parsed) (name : String) : Option (List BatchEntry) :=
  (parsed.values? name).map fun values => values.filterMap fun value =>
    match value with
    | .entry value => some value
    | _ => none

end Parsed

end DroneFleet.CommandLine
