import DroneFleet.Command

/-!
Why a request is refused as a whole. A refused request has moved nothing; a rule broken while a
drone flies is an outcome of that drone and no refusal.
-/
namespace DroneFleet

inductive RefusalKind where
  | invalidCommand
  | unknownDrone
  | unknownMatrix
  | matrixMismatch
  | duplicateDrone
  | invalidPlacement
  | positionOccupied
  | matrixNotEmpty
  | invalidRequest
deriving DecidableEq, Repr

namespace RefusalKind

def all : List RefusalKind :=
  [invalidCommand, unknownDrone, unknownMatrix, matrixMismatch, duplicateDrone, invalidPlacement,
    positionOccupied, matrixNotEmpty, invalidRequest]

/-- The name carried in documents. -/
def name : RefusalKind → String
  | invalidCommand => "invalid_command"
  | unknownDrone => "unknown_drone"
  | unknownMatrix => "unknown_matrix"
  | matrixMismatch => "matrix_mismatch"
  | duplicateDrone => "duplicate_drone"
  | invalidPlacement => "invalid_placement"
  | positionOccupied => "position_occupied"
  | matrixNotEmpty => "matrix_not_empty"
  | invalidRequest => "invalid_request"

/-- The name shown to an operator. -/
def title : RefusalKind → String
  | invalidCommand => "InvalidCommand"
  | unknownDrone => "UnknownDrone"
  | unknownMatrix => "UnknownMatrix"
  | matrixMismatch => "MatrixMismatch"
  | duplicateDrone => "DuplicateDrone"
  | invalidPlacement => "InvalidPlacement"
  | positionOccupied => "PositionOccupied"
  | matrixNotEmpty => "MatrixNotEmpty"
  | invalidRequest => "InvalidRequest"

end RefusalKind

inductive Refusal where
  | invalidCommand (drone : Option Nat) (fault : CommandFault)
  | unknownDrone (drone : Nat)
  | unknownMatrix (matrix : Nat)
  | matrixMismatch (drone expected actual : Nat)
  | duplicateDrone (drone : Nat)
  | invalidPlacement (x y maxX maxY : UInt32)
  | positionOccupied (x y : UInt32) (occupant : Nat)
  | matrixNotEmpty (matrix drones : Nat)
  | invalidRequest (reason : String)
deriving DecidableEq, Repr

namespace Refusal

def kind : Refusal → RefusalKind
  | invalidCommand .. => .invalidCommand
  | unknownDrone .. => .unknownDrone
  | unknownMatrix .. => .unknownMatrix
  | matrixMismatch .. => .matrixMismatch
  | duplicateDrone .. => .duplicateDrone
  | invalidPlacement .. => .invalidPlacement
  | positionOccupied .. => .positionOccupied
  | matrixNotEmpty .. => .matrixNotEmpty
  | invalidRequest .. => .invalidRequest

private def position (x y : UInt32) : String :=
  "Position (" ++ toString x.toNat ++ ", " ++ toString y.toNat ++ ")"

def message : Refusal → String
  | invalidCommand none fault => fault.message
  | invalidCommand (some drone) fault => fault.message ++ " (drone " ++ toString drone ++ ")"
  | unknownDrone drone => "Unknown drone: " ++ toString drone
  | unknownMatrix matrix => "Unknown matrix: " ++ toString matrix
  | matrixMismatch drone expected actual =>
    "Drone " ++ toString drone ++ " belongs to matrix " ++ toString actual ++ ", not matrix " ++
      toString expected
  | duplicateDrone drone =>
    "Drone " ++ toString drone ++ " is addressed more than once in the same request"
  | invalidPlacement x y maxX maxY =>
    position x y ++ " is outside matrix bounds [0, " ++ toString maxX.toNat ++ "] x [0, " ++
      toString maxY.toNat ++ "]"
  | positionOccupied x y occupant =>
    position x y ++ " is already occupied by drone " ++ toString occupant
  | matrixNotEmpty matrix drones =>
    "Matrix " ++ toString matrix ++ " still owns " ++ toString drones ++ " drone(s)"
  | invalidRequest reason => "Invalid request: " ++ reason

end Refusal

end DroneFleet
