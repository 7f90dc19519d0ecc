import DroneFleet.Fleet.Basic
import DroneFleet.Fleet.Plan
import DroneFleet.Response

/-!
What is done to a fleet while the matrices concerned are in hand. Each piece of work takes the
matrices as they stand and puts them back changed; a refusal does not undo what came before it, so
that a piece of work keeps the fleet whole only by checking first.
-/
namespace DroneFleet

/-- Work on a fleet that may be refused on the way. -/
abbrev Handling := ExceptT Refusal (StateM Fleet)

namespace Handling

def stored (id : Nat) : Handling Matrix := do
  match (← get).standing? id with
  | some matrix => return matrix
  | none => throw (.unknownMatrix id)

def store (matrix : Matrix) : Handling Unit := modify fun fleet => fleet.store matrix

def assign (drone : Nat) (owner : Option Nat) : Handling Unit :=
  modify fun fleet => fleet.assign drone owner

def record (matrix : Matrix) (id : Nat) : Handling Drone :=
  match matrix.drone? id with
  | some drone => return drone
  | none => throw (.unknownDrone id)

/-- A new matrix without drones, which nobody can find yet. -/
def found (bounds : Bounds) : Handling Matrix := do
  let id := (← get).lastMatrix + 1
  modify fun fleet => { fleet with lastMatrix := id }
  return .new id bounds

def resize (matrix : Matrix) (bounds : Bounds) : Handling MatrixView := do
  let resized ← matrix.resize bounds
  store resized
  return resized.view

/-- Deletes a matrix without drones; it is still listed afterwards. -/
def retire (matrix : Matrix) : Handling Unit := do
  unless matrix.drones.isEmpty do
    throw (.matrixNotEmpty matrix.id matrix.drones.size)
  modify fun fleet => fleet.retire matrix

/-- Places a new drone, whose number is taken only after its place has been found free. -/
def enroll (matrix : Matrix) (new : NewDrone) : Handling Drone := do
  matrix.checkPlacement new.pose none
  let id := (← get).lastDrone + 1
  modify fun fleet => { fleet with lastDrone := id }
  let placed ← matrix.place id new.name new.model new.pose
  store placed
  record placed id

def revise (matrix : Matrix) (id : Nat) (changes : DroneChanges) : Handling Drone := do
  let drone ← record matrix id
  let moved ←
    if changes.relocates then matrix.commitPose id (changes.relocated drone.pose) else pure matrix
  store moved
  let renamed ← moved.rename id changes.name changes.model
  store renamed
  record renamed id

def transfer (source target : Matrix) (id : Nat) (changes : DroneChanges) : Handling Drone := do
  let drone ← record source id
  let pose := changes.relocated drone.pose
  target.checkPlacement pose none
  match source.remove? id with
  | none => throw (.unknownDrone id)
  | some (drone, left) =>
    store left
    let joined ← target.place id (changes.name.getD drone.name) (changes.model.getD drone.model) pose
    store joined
    record joined id

def discharge (matrix : Matrix) (id : Nat) : Handling Drone := do
  match matrix.remove? id with
  | none => throw (.unknownDrone id)
  | some (drone, left) =>
    store left
    return drone

def fly (grounded : Bool) (matrix : Matrix) (id : Nat) (commands : List Command) :
    Handling (Outcome × Matrix) := do
  if grounded then
    return (.notAttempted, matrix)
  let (outcome, flown) ← matrix.run id commands
  store flown
  return (outcome, flown)

def flySingle (grounded : Bool) (matrix : Matrix) (id : Nat) (commands : List Command) :
    Handling SingleReport := do
  let (outcome, flown) ← fly grounded matrix id commands
  return ⟨outcome, ← record flown id⟩

def flyPlan (grounded : Bool) (matrixId : Nat) (plan : Plan) : Handling DroneOutcome := do
  let (outcome, _) ← fly grounded (← stored matrixId) plan.droneId plan.commands
  return ⟨plan.droneId, outcome⟩

def report (matrixId : Nat) (outcomes : List DroneOutcome) : Handling BatchReport := do
  return .of outcomes (← stored matrixId)

end Handling

end DroneFleet
