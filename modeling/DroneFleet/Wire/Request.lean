import DroneFleet.Request
import DroneFleet.Wire.Drone

/-!
Documents of requests. Every request is an object with its operation under `op`, or a list that
begins with the operation.
-/
namespace DroneFleet

open Wire

namespace CommandInput

def toJson : CommandInput → Json
  | text letters => .text letters
  | elements texts => .array (texts.map .text)

/-- A text or a list of texts, held to find out which. -/
def ofJson? (reach : Reach) (json : Json) : Option CommandInput :=
  if reach.holds json then
    match json with
    | .string content => (Text.spelled? content).map fun letters => text (String.ofList letters)
    | _ => (list? text? json).map elements
  else none

end CommandInput

def given {α : Type} (name : String) (write : α → Json) (value : Option α) :
    List (String × Json) :=
  value.toList.map fun value => (name, write value)

namespace NewDrone

def members (drone : NewDrone) : List (String × Json) :=
  [("name", .text drone.name), ("model", .text drone.model), ("x", .word drone.pose.x),
    ("y", .word drone.pose.y), ("orientation", drone.pose.orientation.toJson),
    ("matrixId", .natural drone.matrixId)]

def ofJson? (reach : Reach) (json : Json) : Option NewDrone := do
  let record ← record? [needed "name", needed "model", needed "x", needed "y", needed "orientation",
    needed "matrixId"] json
  return ⟨← record.required "name" text?, ← record.required "model" text?,
    ⟨← record.required "x" word?, ← record.required "y" word?,
      ← record.required "orientation" (Orientation.ofJson? reach.inner)⟩,
    ← record.required "matrixId" natural?⟩

end NewDrone

namespace DroneChanges

def toJson (changes : DroneChanges) : Json :=
  .record (given "name" .text changes.name ++ given "model" .text changes.model ++
    given "x" .word changes.x ++ given "y" .word changes.y ++
    given "orientation" Orientation.toJson changes.orientation ++
    given "matrixId" .natural changes.matrixId)

def ofJson? (reach : Reach) (json : Json) : Option DroneChanges := do
  let record ← record? [spare "name", spare "model", spare "x", spare "y", spare "orientation",
    spare "matrixId"] json
  return ⟨← record.optional "name" text?, ← record.optional "model" text?,
    ← record.optional "x" word?, ← record.optional "y" word?,
    ← record.optional "orientation" (Orientation.ofJson? reach.inner),
    ← record.optional "matrixId" natural?⟩

end DroneChanges

namespace BatchEntry

def toJson (entry : BatchEntry) : Json :=
  .record [("droneId", .natural entry.droneId), ("commands", entry.commands.toJson)]

def ofJson? (reach : Reach) (json : Json) : Option BatchEntry := do
  let record ← record? [needed "droneId", needed "commands"] json
  return ⟨← record.required "droneId" natural?,
    ← record.required "commands" (CommandInput.ofJson? reach.inner)⟩

end BatchEntry

namespace Request

inductive Operation where
  | listMatrices
  | getMatrix
  | createMatrix
  | updateMatrix
  | deleteMatrix
  | listDrones
  | getDrone
  | createDrone
  | updateDrone
  | deleteDrone
  | droneCommands
  | matrixDroneCommands
  | batchCommands
deriving DecidableEq, Repr

namespace Operation

def all : List Operation :=
  [listMatrices, getMatrix, createMatrix, updateMatrix, deleteMatrix, listDrones, getDrone,
    createDrone, updateDrone, deleteDrone, droneCommands, matrixDroneCommands, batchCommands]

def name : Operation → String
  | listMatrices => "list_matrices"
  | getMatrix => "get_matrix"
  | createMatrix => "create_matrix"
  | updateMatrix => "update_matrix"
  | deleteMatrix => "delete_matrix"
  | listDrones => "list_drones"
  | getDrone => "get_drone"
  | createDrone => "create_drone"
  | updateDrone => "update_drone"
  | deleteDrone => "delete_drone"
  | droneCommands => "drone_commands"
  | matrixDroneCommands => "matrix_drone_commands"
  | batchCommands => "batch_commands"

def names : List (String × Operation) := all.map fun operation => (operation.name, operation)

end Operation

def operation : Request → Operation
  | listMatrices => .listMatrices
  | getMatrix _ => .getMatrix
  | createMatrix _ _ => .createMatrix
  | updateMatrix _ _ _ => .updateMatrix
  | deleteMatrix _ => .deleteMatrix
  | listDrones => .listDrones
  | getDrone _ => .getDrone
  | createDrone _ => .createDrone
  | updateDrone _ _ => .updateDrone
  | deleteDrone _ => .deleteDrone
  | droneCommands _ _ => .droneCommands
  | matrixDroneCommands _ _ _ => .matrixDroneCommands
  | batchCommands _ _ => .batchCommands

def members : Request → List (String × Json)
  | listMatrices => []
  | getMatrix id => [("id", .natural id)]
  | createMatrix maxX maxY => [("maxX", .word maxX), ("maxY", .word maxY)]
  | updateMatrix id maxX maxY => [("id", .natural id), ("maxX", .word maxX), ("maxY", .word maxY)]
  | deleteMatrix id => [("id", .natural id)]
  | listDrones => []
  | getDrone id => [("id", .natural id)]
  | createDrone drone => drone.members
  | updateDrone id changes => [("id", .natural id), ("changes", changes.toJson)]
  | deleteDrone id => [("id", .natural id)]
  | droneCommands droneId commands =>
    [("droneId", .natural droneId), ("commands", commands.toJson)]
  | matrixDroneCommands matrixId droneIds commands =>
    given "matrixId" .natural matrixId ++
      [("droneIds", .array (droneIds.map .natural)), ("commands", commands.toJson)]
  | batchCommands matrixId entries =>
    given "matrixId" .natural matrixId ++ [("commands", .array (entries.map BatchEntry.toJson))]

def toJson (request : Request) : Json :=
  .record (("op", .text request.operation.name) :: request.members)

def idOf (json : Json) : Option Nat := do (← record? [needed "id"] json).required "id" natural?

def ofFields? (rest : Json) : Operation → Option Request
  | .listMatrices => (bare? rest).map fun _ => listMatrices
  | .getMatrix => (idOf rest).map getMatrix
  | .createMatrix => do
    let record ← record? [needed "maxX", needed "maxY"] rest
    return createMatrix (← record.required "maxX" word?) (← record.required "maxY" word?)
  | .updateMatrix => do
    let record ← record? [needed "id", needed "maxX", needed "maxY"] rest
    return updateMatrix (← record.required "id" natural?) (← record.required "maxX" word?)
      (← record.required "maxY" word?)
  | .deleteMatrix => (idOf rest).map deleteMatrix
  | .listDrones => (bare? rest).map fun _ => listDrones
  | .getDrone => (idOf rest).map getDrone
  | .createDrone => (NewDrone.ofJson? .held rest).map createDrone
  | .updateDrone => do
    let record ← record? [needed "id", needed "changes"] rest
    return updateDrone (← record.required "id" natural?)
      (← record.required "changes" (DroneChanges.ofJson? .held))
  | .deleteDrone => (idOf rest).map deleteDrone
  | .droneCommands => do
    let record ← record? [needed "droneId", needed "commands"] rest
    return droneCommands (← record.required "droneId" natural?)
      (← record.required "commands" (CommandInput.ofJson? .held))
  | .matrixDroneCommands => do
    let record ← record? [spare "matrixId", needed "droneIds", needed "commands"] rest
    return matrixDroneCommands (← record.optional "matrixId" natural?)
      (← record.required "droneIds" (list? natural?))
      (← record.required "commands" (CommandInput.ofJson? .held))
  | .batchCommands => do
    let record ← record? [spare "matrixId", needed "commands"] rest
    return batchCommands (← record.optional "matrixId" natural?)
      (← record.required "commands" (list? (BatchEntry.ofJson? .held)))

def ofJson? (reach : Reach) (json : Json) : Option Request := do
  let (tag, rest) ← untag? "op" reach json
  ofFields? rest (← tagged? Operation.names reach tag)

end Request

end DroneFleet
