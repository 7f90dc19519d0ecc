import DroneFleet.Pose
import DroneFleet.Refusal
import DroneFleet.Table

/-!
A matrix: a bounded grid with the drones on it and an index from cells to the drones that stand
there. Every operation either changes both together or is refused and changes neither.
-/
namespace DroneFleet

/-- The last column and the last row of a grid that starts at zero. -/
structure Bounds where
  maxX : UInt32
  maxY : UInt32
deriving DecidableEq, Repr

namespace Bounds

def contains (bounds : Bounds) (cell : Cell) : Bool :=
  cell.x ≤ bounds.maxX && cell.y ≤ bounds.maxY

def check (bounds : Bounds) (cell : Cell) : Except Refusal Unit :=
  if bounds.contains cell then .ok ()
  else .error (.invalidPlacement cell.x cell.y bounds.maxX bounds.maxY)

end Bounds

structure Drone where
  id : Nat
  name : String
  model : String
  pose : Pose
  matrixId : Nat
deriving DecidableEq, Repr

structure Matrix where
  id : Nat
  bounds : Bounds
  drones : Table Nat Drone
  cells : Table Cell Nat

structure MatrixView where
  id : Nat
  bounds : Bounds
  drones : List Drone
deriving DecidableEq, Repr

namespace Matrix

def new (id : Nat) (bounds : Bounds) : Matrix := ⟨id, bounds, .empty, .empty⟩

def view (matrix : Matrix) : MatrixView := ⟨matrix.id, matrix.bounds, matrix.drones.values⟩

def drone? (matrix : Matrix) (id : Nat) : Option Drone := matrix.drones.get? id

def owns (matrix : Matrix) (id : Nat) : Bool := matrix.drones.contains id

/-- The drone on a cell, other than `ignoring`. -/
def occupant? (matrix : Matrix) (cell : Cell) (ignoring : Option Nat) : Option Nat :=
  (matrix.cells.get? cell).filter fun occupant => some occupant ≠ ignoring

def checkPlacement (matrix : Matrix) (pose : Pose) (ignoring : Option Nat) :
    Except Refusal Unit := do
  matrix.bounds.check pose.cell
  match matrix.occupant? pose.cell ignoring with
  | some occupant => .error (.positionOccupied pose.x pose.y occupant)
  | none => .ok ()

def place (matrix : Matrix) (id : Nat) (name model : String) (pose : Pose) :
    Except Refusal Matrix := do
  if matrix.owns id then
    throw (.duplicateDrone id)
  matrix.checkPlacement pose none
  return { matrix with
    drones := matrix.drones.insert id ⟨id, name, model, pose, matrix.id⟩
    cells := matrix.cells.insert pose.cell id }

def remove? (matrix : Matrix) (id : Nat) : Option (Drone × Matrix) :=
  (matrix.drones.get? id).map fun drone =>
    (drone, { matrix with
      drones := matrix.drones.erase id
      cells := matrix.cells.erase drone.pose.cell })

/-- Gives a drone another pose. The place is checked before the drone is looked for. -/
def commitPose (matrix : Matrix) (id : Nat) (pose : Pose) : Except Refusal Matrix := do
  matrix.checkPlacement pose (some id)
  match matrix.drones.get? id with
  | none => throw (.unknownDrone id)
  | some drone =>
    let cells :=
      if drone.pose.cell = pose.cell then matrix.cells
      else (matrix.cells.erase drone.pose.cell).insert pose.cell id
    return { matrix with drones := matrix.drones.insert id { drone with pose }, cells }

def rename (matrix : Matrix) (id : Nat) (name model : Option String) : Except Refusal Matrix :=
  match matrix.drones.get? id with
  | none => .error (.unknownDrone id)
  | some drone =>
    .ok { matrix with
      drones := matrix.drones.insert id
        { drone with name := name.getD drone.name, model := model.getD drone.model } }

/-- Sets the bounds, unless a drone would stand outside; the first one in id order is named. -/
def resize (matrix : Matrix) (bounds : Bounds) : Except Refusal Matrix := do
  matrix.drones.values.forM fun drone => bounds.check drone.pose.cell
  return { matrix with bounds }

end Matrix

end DroneFleet
