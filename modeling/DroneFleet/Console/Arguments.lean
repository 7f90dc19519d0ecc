import DroneFleet.CommandLine.Parsing

/-!
The command line of the console: how to reach the server, how to show the answer, and one request.
-/
namespace DroneFleet.Console

open CommandLine

structure Arguments where
  server : String
  connectTimeoutSecs : Nat
  retries : UInt32
  json : Bool
  verbose : Bool
  request : Request
deriving DecidableEq, Repr

namespace Arguments

private def bounds : List Argument := [.needed "max-x" .word, .needed "max-y" .word]

private def id : List Argument := [.needed "id" .natural]

private def commands : Argument := .needed "commands" .text

private def matrix : Argument := .optional "matrix" .natural

def grammar : Grammar :=
  .level
    [.optional "server" .text, .optional "connect-timeout-secs" .natural,
      .optional "retries" .word, .flag "json", .flag "verbose"]
    []
    [("matrix", .level [] []
        [("list", .leaf [] []), ("get", .leaf [] id), ("create", .leaf bounds []),
          ("update", .leaf bounds id), ("delete", .leaf [] id)]),
      ("drone", .level [] []
        [("list", .leaf [] []), ("get", .leaf [] id),
          ("create", .leaf
            [.needed "matrix" .natural, .needed "name" .text, .optional "model" .text,
              .needed "x" .word, .needed "y" .word, .needed "orientation" .orientation] []),
          ("update", .leaf
            [matrix, .optional "name" .text, .optional "model" .text, .optional "x" .word,
              .optional "y" .word, .optional "orientation" .orientation] id),
          ("delete", .leaf [] id)]),
      ("fly", .leaf [] [.needed "drone-id" .natural, commands]),
      ("fly-many", .leaf [matrix, ⟨"drones", .natural, .many, true, true⟩] [commands]),
      ("batch", .leaf [matrix] [⟨"entries", .entry, .many, true, false⟩])]

def request? (parsed : Parsed) : Option Request :=
  match parsed.path with
  | ["matrix", "list"] => some .listMatrices
  | ["matrix", "get"] => return .getMatrix (← parsed.natural? "id")
  | ["matrix", "create"] =>
    return .createMatrix (← parsed.word? "max-x") (← parsed.word? "max-y")
  | ["matrix", "update"] =>
    return .updateMatrix (← parsed.natural? "id") (← parsed.word? "max-x") (← parsed.word? "max-y")
  | ["matrix", "delete"] => return .deleteMatrix (← parsed.natural? "id")
  | ["drone", "list"] => some .listDrones
  | ["drone", "get"] => return .getDrone (← parsed.natural? "id")
  | ["drone", "create"] =>
    return .createDrone ⟨← parsed.text? "name", (parsed.text? "model").getD "",
      ⟨← parsed.word? "x", ← parsed.word? "y", ← parsed.orientation? "orientation"⟩,
      ← parsed.natural? "matrix"⟩
  | ["drone", "update"] =>
    return .updateDrone (← parsed.natural? "id") ⟨parsed.text? "name", parsed.text? "model",
      parsed.word? "x", parsed.word? "y", parsed.orientation? "orientation",
      parsed.natural? "matrix"⟩
  | ["drone", "delete"] => return .deleteDrone (← parsed.natural? "id")
  | ["fly"] =>
    return .droneCommands (← parsed.natural? "drone-id") (.text (← parsed.text? "commands"))
  | ["fly-many"] =>
    return .matrixDroneCommands (parsed.natural? "matrix") (← parsed.naturals? "drones")
      (.text (← parsed.text? "commands"))
  | ["batch"] => return .batchCommands (parsed.natural? "matrix") (← parsed.entries? "entries")
  | _ => none

/-- The arguments that words stand for. What is not given has its usual value. -/
def parse (words : List String) : Except Fault Arguments := do
  let parsed ← CommandLine.parse grammar words
  match request? parsed with
  | none => throw .missingArgument
  | some request =>
    return ⟨(parsed.text? "server").getD "127.0.0.1:7070",
      (parsed.natural? "connect-timeout-secs").getD 5, (parsed.word? "retries").getD 3,
      parsed.has "json", parsed.has "verbose", request⟩

end Arguments

end DroneFleet.Console
