import DroneFleet.Command
import DroneFleet.Pose

/-!
What a client may ask of a fleet. Matrices and drones are named by number; command sequences come
as they were written and are read only when the request is handled.
-/
namespace DroneFleet

structure NewDrone where
  name : String
  model : String
  pose : Pose
  matrixId : Nat
deriving DecidableEq, Repr

/-- The parts of a drone to be replaced; what is absent stays. -/
structure DroneChanges where
  name : Option String
  model : Option String
  x : Option UInt32
  y : Option UInt32
  orientation : Option Orientation
  matrixId : Option Nat
deriving DecidableEq, Repr

namespace DroneChanges

def relocates (changes : DroneChanges) : Bool :=
  changes.x.isSome || changes.y.isSome || changes.orientation.isSome || changes.matrixId.isSome

def relocated (changes : DroneChanges) (pose : Pose) : Pose :=
  ⟨changes.x.getD pose.x, changes.y.getD pose.y, changes.orientation.getD pose.orientation⟩

end DroneChanges

structure BatchEntry where
  droneId : Nat
  commands : CommandInput
deriving DecidableEq, Repr

inductive Request where
  | listMatrices
  | getMatrix (id : Nat)
  | createMatrix (maxX maxY : UInt32)
  | updateMatrix (id : Nat) (maxX maxY : UInt32)
  | deleteMatrix (id : Nat)
  | listDrones
  | getDrone (id : Nat)
  | createDrone (drone : NewDrone)
  | updateDrone (id : Nat) (changes : DroneChanges)
  | deleteDrone (id : Nat)
  | droneCommands (droneId : Nat) (commands : CommandInput)
  | matrixDroneCommands (matrixId : Option Nat) (droneIds : List Nat) (commands : CommandInput)
  | batchCommands (matrixId : Option Nat) (entries : List BatchEntry)
deriving DecidableEq, Repr

end DroneFleet
