import DroneFleet.Request
import DroneFleet.SocketAddress
import DroneFleet.Text.Blank
import DroneFleet.Text.Decimal

/-!
What a command line may consist of: options with a name, operands in their places and subcommands
with a grammar of their own. Values are read as soon as it is clear that they are complete.
-/
namespace DroneFleet.CommandLine

inductive Kind where
  | text
  | path
  | natural
  | word
  | orientation
  | entry
  | address
deriving DecidableEq, Repr

inductive Value where
  | text (value : String)
  | natural (value : Nat)
  | word (value : UInt32)
  | orientation (value : Orientation)
  | entry (value : BatchEntry)
  | address (value : SocketAddress)
deriving DecidableEq, Repr

/-- Why a command line is not carried out. Asking for help is among the reasons. -/
inductive Fault where
  | help
  | nothingAsked
  | unknownArgument
  | missingValue
  | needlessValue
  | repeatedArgument
  | missingArgument
  | missingSubcommand
  | unknownSubcommand
  | badValue (message : String)
deriving DecidableEq, Repr

def Fault.message : Fault → String
  | help => "help is asked for"
  | nothingAsked => "nothing is asked for"
  | unknownArgument => "an argument is unknown"
  | missingValue => "an argument needs a value"
  | needlessValue => "an argument has a value and needs none"
  | repeatedArgument => "an argument is given more than once"
  | missingArgument => "a needed argument is missing"
  | missingSubcommand => "a subcommand is missing"
  | unknownSubcommand => "a subcommand is unknown"
  | badValue message => message

/-- A drone and its commands around the first colon. Blanks around the number do not matter. -/
def readEntry (text : String) : Except String BatchEntry :=
  let id := text.toList.takeWhile (· ≠ ':')
  match text.toList.dropWhile (· ≠ ':') with
  | [] => .error ("expected ID:COMMANDS, got '" ++ text ++ "'")
  | _ :: commands =>
    let id := String.ofList id
    match Text.readNatural Text.word64Limit (Text.trimmed id) with
    | .ok droneId => .ok ⟨droneId, .text (String.ofList commands)⟩
    | .error fault => .error ("bad drone id '" ++ id ++ "': " ++ fault.message)

/-- A number of 32 bits, read as one that might be negative or larger. -/
def readWord (text : String) : Except String UInt32 :=
  match Text.readSigned text with
  | .error fault => .error fault.message
  | .ok value =>
    if 0 ≤ value ∧ value ≤ Text.word32Limit then .ok (UInt32.ofNat value.toNat)
    else .error (toString value ++ " is not in 0..=" ++ toString Text.word32Limit)

namespace Kind

/-- Reads a value. An empty path counts as no value at all. -/
def read (text : String) : Kind → Except Fault Value
  | .text => .ok (.text text)
  | path => if text = "" then .error .missingValue else .ok (.text text)
  | natural =>
    match Text.readNatural Text.word64Limit text with
    | .ok value => .ok (.natural value)
    | .error fault => .error (.badValue fault.message)
  | word =>
    match readWord text with
    | .ok value => .ok (.word value)
    | .error message => .error (.badValue message)
  | orientation =>
    match Orientation.parse text with
    | .ok value => .ok (.orientation value)
    | .error unknown => .error (.badValue unknown.message)
  | entry =>
    match readEntry text with
    | .ok value => .ok (.entry value)
    | .error message => .error (.badValue message)
  | address =>
    match SocketAddress.parse? text with
    | some value => .ok (.address value)
    | none => .error (.badValue SocketAddress.faultMessage)

end Kind

/-- How often an argument may come and what comes with it: nothing, one value once, or values any
number of times. -/
inductive Arity where
  | flag
  | single
  | many
deriving DecidableEq, Repr

/-- An option or an operand. With `commas`, a comma stands between values. -/
structure Argument where
  name : String
  kind : Kind
  arity : Arity
  required : Bool
  commas : Bool
deriving DecidableEq, Repr

namespace Argument

def flag (name : String) : Argument := ⟨name, .text, .flag, false, false⟩

def optional (name : String) (kind : Kind) : Argument := ⟨name, kind, .single, false, false⟩

def needed (name : String) (kind : Kind) : Argument := ⟨name, kind, .single, true, false⟩

def split (argument : Argument) (written : String) : List String :=
  if argument.commas then
    (segments written.toList).map String.ofList
  else [written]
where
  segments : List Char → List (List Char)
    | [] => [[]]
    | ',' :: rest => [] :: segments rest
    | character :: rest =>
      match segments rest with
      | [] => [[character]]
      | first :: others => (character :: first) :: others

def read (argument : Argument) (written : List String) : Except Fault (List Value) :=
  (written.flatMap argument.split).mapM fun text => argument.kind.read text

end Argument

inductive Grammar where
  | level (options operands : List Argument) (subcommands : List (String × Grammar))

namespace Grammar

def options : Grammar → List Argument
  | level options _ _ => options

def operands : Grammar → List Argument
  | level _ operands _ => operands

def subcommands : Grammar → List (String × Grammar)
  | level _ _ subcommands => subcommands

def leaf (options operands : List Argument) : Grammar := level options operands []

def hasSubcommands (grammar : Grammar) : Bool := !grammar.subcommands.isEmpty

/-- The subcommand of a name. Wherever there are subcommands, one of them explains the others. -/
def subcommand? (grammar : Grammar) (name : String) : Option Grammar :=
  (grammar.subcommands.lookup name).orElse fun _ =>
    if grammar.hasSubcommands ∧ name = "help" then some (leaf [] []) else none

def option? (grammar : Grammar) (name : String) : Option Argument :=
  grammar.options.find? (·.name == name)

end Grammar

end DroneFleet.CommandLine
