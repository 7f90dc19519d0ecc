import DroneFleet.Matrix
import DroneFleet.Request

/-!
The plans of a request for several drones: which drone flies which commands, in the order asked for.
-/
namespace DroneFleet

structure Plan where
  droneId : Nat
  commands : List Command
deriving DecidableEq, Repr

namespace Plan

def ofEntry (entry : BatchEntry) : Except Refusal Plan :=
  match entry.commands.parse with
  | .ok commands => .ok ⟨entry.droneId, commands⟩
  | .error fault => .error (.invalidCommand (some entry.droneId) fault)

def ofEntries : List BatchEntry → Except Refusal (List Plan)
  | [] => .ok []
  | entry :: rest => do
    let plan ← ofEntry entry
    return plan :: (← ofEntries rest)

def shared (droneIds : List Nat) (commands : List Command) : List Plan :=
  droneIds.map (⟨·, commands⟩)

/-- The first number that is in `seen` or has come before. -/
def repeated? (seen : List Nat) : List Nat → Option Nat
  | [] => none
  | id :: rest => if id ∈ seen then some id else repeated? (id :: seen) rest

/-- The first drone of plans that address at least one drone and none of them twice. -/
def leader (plans : List Plan) : Except Refusal Nat :=
  match plans with
  | [] => .error (.invalidRequest "no drones addressed")
  | first :: _ =>
    match repeated? [] (plans.map (·.droneId)) with
    | some id => .error (.duplicateDrone id)
    | none => .ok first.droneId

end Plan

def Matrix.stranger? (matrix : Matrix) (plans : List Plan) : Option Nat :=
  (plans.map (·.droneId)).find? fun id => !matrix.owns id

end DroneFleet
