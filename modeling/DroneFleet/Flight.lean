import DroneFleet.Matrix

/-!
Flying a command sequence. Turns always succeed; an advance is checked against the bounds first and
then against the other drones. A run commits every step at once and ends at the first step that is
rejected, keeping the steps before it.
-/
namespace DroneFleet

/-- The rule that an advance would break. The coordinates of a boundary may lie outside the words. -/
inductive Violation where
  | boundary (x y : Int)
  | collision (x y : UInt32) (occupant : Nat)
deriving DecidableEq, Repr

inductive RejectReason where
  | boundaryViolation
  | collisionRisk
deriving DecidableEq, Repr

/-- What became of one drone's sequence. A rejected drone holds the pose before the rejected step,
whose index is `failedAt`. -/
inductive Outcome where
  | completed (pose : Pose)
  | rejected (failedAt : Nat) (reason : RejectReason) (pose : Pose) (blockedBy : Option Nat)
  | notAttempted
deriving DecidableEq, Repr

namespace Outcome

def ofViolation (failedAt : Nat) (pose : Pose) : Violation → Outcome
  | .boundary _ _ => rejected failedAt .boundaryViolation pose none
  | .collision _ _ occupant => rejected failedAt .collisionRisk pose (some occupant)

def isCompleted : Outcome → Bool
  | completed _ => true
  | _ => false

def madeProgress : Outcome → Bool
  | completed _ => true
  | rejected failedAt _ _ _ => 0 < failedAt
  | notAttempted => false

def pose? : Outcome → Option Pose
  | completed pose => some pose
  | rejected _ _ pose _ => some pose
  | notAttempted => none

end Outcome

namespace Matrix

def advance (matrix : Matrix) (id : Nat) (pose : Pose) : Except Violation Pose :=
  match pose.cellAhead.filter matrix.bounds.contains with
  | none => .error (.boundary pose.target.1 pose.target.2)
  | some cell =>
    match matrix.occupant? cell (some id) with
    | some occupant => .error (.collision cell.x cell.y occupant)
    | none => .ok (pose.movedTo cell)

def follow (matrix : Matrix) (id : Nat) (pose : Pose) : Command → Except Violation Pose
  | .turnLeft => .ok pose.turnedLeft
  | .turnRight => .ok pose.turnedRight
  | .advance => matrix.advance id pose

/-- Flies on from the step numbered `step`, where the drone holds `pose`. -/
def fly (matrix : Matrix) (id : Nat) (pose : Pose) (step : Nat) :
    List Command → Except Refusal (Outcome × Matrix)
  | [] => .ok (.completed pose, matrix)
  | command :: rest =>
    match matrix.follow id pose command with
    | .error violation => .ok (.ofViolation step pose violation, matrix)
    | .ok next =>
      match matrix.commitPose id next with
      | .error refusal => .error refusal
      | .ok moved => moved.fly id next (step + 1) rest

def run (matrix : Matrix) (id : Nat) (commands : List Command) :
    Except Refusal (Outcome × Matrix) :=
  match matrix.drone? id with
  | none => .error (.unknownDrone id)
  | some drone => matrix.fly id drone.pose 0 commands

/-- Tries a sequence without committing anything, going on after a rejection: for each command the
pose before it and what came of it. -/
def rehearse (matrix : Matrix) (id : Nat) (pose : Pose) :
    List Command → List (Pose × Except Violation Pose)
  | [] => []
  | command :: rest =>
    match matrix.follow id pose command with
    | .error violation => (pose, .error violation) :: matrix.rehearse id pose rest
    | .ok next => (pose, .ok next) :: matrix.rehearse id next rest

def rehearsed (matrix : Matrix) (id : Nat) (pose : Pose) (commands : List Command) : Pose :=
  commands.foldl (fun held command => (matrix.follow id held command).toOption.getD held) pose

end Matrix

end DroneFleet
