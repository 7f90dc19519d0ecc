import DroneFleet.Flight

/-!
What is told about the drones that a request flew: one outcome per drone in the order asked for,
and the records of those that got anywhere.
-/
namespace DroneFleet

structure DroneOutcome where
  droneId : Nat
  outcome : Outcome
deriving DecidableEq, Repr

structure SingleReport where
  outcome : Outcome
  drone : Drone
deriving DecidableEq, Repr

/-- The outcomes of several drones, with the records of those that made progress. -/
structure BatchReport where
  outcomes : List DroneOutcome
  drones : List Drone
deriving DecidableEq, Repr

namespace BatchReport

/-- Reports `outcomes` over the matrix as it is after the last of them. -/
def of (outcomes : List DroneOutcome) (matrix : Matrix) : BatchReport :=
  ⟨outcomes, (outcomes.filter (·.outcome.madeProgress)).filterMap (matrix.drone? ·.droneId)⟩

def outcome? (report : BatchReport) (id : Nat) : Option Outcome :=
  (report.outcomes.find? (·.droneId == id)).map (·.outcome)

def drone? (report : BatchReport) (id : Nat) : Option Drone := report.drones.find? (·.id == id)

end BatchReport

structure Tally where
  completed : Nat
  rejected : Nat
  notAttempted : Nat
deriving DecidableEq, Repr

namespace Tally

def count (tally : Tally) : Outcome → Tally
  | .completed _ => { tally with completed := tally.completed + 1 }
  | .rejected _ _ _ _ => { tally with rejected := tally.rejected + 1 }
  | .notAttempted => { tally with notAttempted := tally.notAttempted + 1 }

def of (outcomes : List DroneOutcome) : Tally :=
  outcomes.foldl (fun tally entry => tally.count entry.outcome) ⟨0, 0, 0⟩

def text (tally : Tally) : String :=
  toString tally.completed ++ " completed, " ++ toString tally.rejected ++ " rejected, " ++
    toString tally.notAttempted ++ " not attempted"

end Tally

end DroneFleet
