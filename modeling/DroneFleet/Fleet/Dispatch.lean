import DroneFleet.Fleet.Handling

/-!
One request at a time: every request is handled to its end before the next one begins, so that
nobody else changes the fleet on the way.
-/
namespace DroneFleet

namespace Handling

def seek (id : Nat) : Handling Matrix := do
  match (← get).matrix? id with
  | some matrix => return matrix
  | none => throw (.unknownMatrix id)

def owner (drone : Nat) : Handling Nat := do
  match (← get).owner? drone with
  | some owner => return owner
  | none => throw (.unknownDrone drone)

def home (drone : Nat) : Handling Matrix := do
  match (← get).matrix? (← owner drone) with
  | some matrix => if matrix.owns drone then return matrix else throw (.unknownDrone drone)
  | none => throw (.unknownDrone drone)

def checkOwners (matrix : Matrix) (plans : List Plan) : Handling Unit := do
  match matrix.stranger? plans with
  | none => return ()
  | some drone => throw (.matrixMismatch drone matrix.id (← owner drone))

/-- Flies the plans one after another on the matrix given, or on that of the first drone. -/
def batch (grounded : Bool) (matrixId : Option Nat) (plans : List Plan) : Handling BatchReport := do
  let first ← Plan.leader plans
  let matrix ← match matrixId with
    | some id => seek id
    | none => home first
  checkOwners matrix plans
  report matrix.id (← plans.mapM (flyPlan grounded matrix.id))

def update (id : Nat) (changes : DroneChanges) : Handling Drone := do
  let source ← home id
  let targetId := changes.matrixId.getD source.id
  if targetId = source.id then
    revise source id changes
  else
    let target ← seek targetId
    let drone ← transfer source target id changes
    assign id (some targetId)
    return drone

end Handling

open Handling in
/-- Handles a request; `grounded` says that no drone may start. -/
def Request.handle (grounded : Bool) : Request → Handling Response
  | listMatrices => return .matrices (← get).views
  | getMatrix id => return .matrix (← seek id).view
  | createMatrix maxX maxY => do
    let matrix ← found ⟨maxX, maxY⟩
    modify fun fleet => fleet.publish matrix
    return .matrix matrix.view
  | updateMatrix id maxX maxY => return .matrix (← resize (← seek id) ⟨maxX, maxY⟩)
  | deleteMatrix id => do
    retire (← seek id)
    modify fun fleet => fleet.withdraw id
    return .deleted id
  | listDrones => return .drones (← get).drones
  | getDrone id => return .drone (← record (← home id) id)
  | createDrone new => do
    let drone ← enroll (← seek new.matrixId) new
    assign drone.id (some new.matrixId)
    return .drone drone
  | updateDrone id changes => return .drone (← update id changes)
  | deleteDrone id => do
    let _ ← discharge (← home id) id
    assign id none
    return .deleted id
  | droneCommands droneId input =>
    match input.parse with
    | .error fault => throw (.invalidCommand (some droneId) fault)
    | .ok commands => return .single (← flySingle grounded (← home droneId) droneId commands)
  | matrixDroneCommands matrixId droneIds input =>
    match input.parse with
    | .error fault => throw (.invalidCommand none fault)
    | .ok commands => return .batch (← batch grounded matrixId (Plan.shared droneIds commands))
  | batchCommands matrixId entries => do
    return .batch (← batch grounded matrixId (← Plan.ofEntries entries))

def Fleet.dispatch (fleet : Fleet) (grounded : Bool) (request : Request) : Response × Fleet :=
  let (result, after) := ((request.handle grounded).run fleet).run
  (.ofResult result, after)

/-- Handles requests one after another, each with word whether drones are grounded. -/
def Fleet.serve (fleet : Fleet) (calls : List (Bool × Request)) : Fleet :=
  calls.foldl (fun fleet call => (fleet.dispatch call.1 call.2).2) fleet

end DroneFleet
