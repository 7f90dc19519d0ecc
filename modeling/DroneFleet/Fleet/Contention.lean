import DroneFleet.Fleet.Stage

/-!
Many requests for one fleet, first come, first served. A request runs until it has to wait for a
matrix or is answered; then the next one that can run does. A matrix that is given back goes at once
to the request that has waited for it longest. An outsider may hold matrices too, but never waits for
one.
-/
namespace DroneFleet

/-- A fleet with the requests that are under way. The first of those in `ready` is running; `waiting`
pairs each request that waits with the matrix that it waits for, the longest wait first. -/
structure Contention where
  fleet : Fleet
  grounded : Bool
  stages : Table Nat Stage
  ready : List Nat
  waiting : List (Nat × Nat)
  outside : List Nat
  submitted : Nat
  addressed : Nat

def Request.addressed : Request → Nat
  | matrixDroneCommands _ droneIds _ => droneIds.length
  | batchCommands _ entries => entries.length
  | _ => 1

namespace Contention

def new (fleet : Fleet) : Contention := ⟨fleet, false, .empty, [], [], [], 0, 0⟩

def held (contention : Contention) : List Nat := contention.stages.values.flatMap Stage.holds

def isFree (contention : Contention) (id : Nat) : Bool :=
  !contention.outside.contains id && !contention.held.contains id

def moveTo (contention : Contention) (number : Nat) (stage : Stage) : Contention :=
  { contention with stages := contention.stages.insert number stage }

def grant (contention : Contention) (id : Nat) : Contention :=
  match contention.waiting.find? (·.2 == id) with
  | none => contention
  | some (number, _) =>
    match contention.stages.get? number with
    | some (.enter _ purpose) =>
      { contention.moveTo number (.inside id purpose) with
        waiting := contention.waiting.erase (number, id)
        ready := contention.ready ++ [number] }
    | _ => contention

def tick (contention : Contention) : Contention :=
  match contention.ready with
  | [] => contention
  | number :: rest =>
    match contention.stages.get? number with
    | none => { contention with ready := rest }
    | some (.done _) => { contention with ready := rest }
    | some (.enter id purpose) =>
      if contention.isFree id then contention.moveTo number (.inside id purpose)
      else { contention with ready := rest, waiting := contention.waiting ++ [(number, id)] }
    | some stage =>
      let (next, fleet) := stage.next contention.grounded contention.fleet
      let moved := { contention with fleet }.moveTo number next
      match stage with
      | .leave id _ => moved.grant id
      | _ => moved

def run : Nat → Contention → Contention
  | 0, contention => contention
  | fuel + 1, contention =>
    if contention.ready.isEmpty then contention else run fuel contention.tick

/-- More steps than the requests can take: one that has to start over does so because another one has
ended by moving or deleting its drone. -/
def fuel (contention : Contention) : Nat :=
  let requests := contention.submitted + 2
  64 * requests * requests + 4 * requests * (contention.fleet.slots.size + requests) +
    contention.addressed

def settle (contention : Contention) : Contention := contention.run contention.fuel

def submit (contention : Contention) (request : Request) : Contention :=
  let number := contention.submitted
  { contention.moveTo number (.start request) with
    ready := contention.ready ++ [number]
    submitted := number + 1
    addressed := contention.addressed + request.addressed }

inductive Hold where
  | held
  | busy
  | unknown
deriving DecidableEq, Repr

/-- Gives a matrix to the outsider if it can be found and nobody has it. -/
def hold (contention : Contention) (id : Nat) : Hold × Contention :=
  match contention.fleet.matrix? id with
  | none => (.unknown, contention)
  | some _ =>
    if contention.isFree id then (.held, { contention with outside := id :: contention.outside })
    else (.busy, contention)

def release (contention : Contention) (id : Nat) : Contention :=
  if contention.outside.contains id then
    { contention with outside := contention.outside.erase id }.grant id
  else contention

/-- Takes all matrices back, the one with the lowest number first. -/
def releaseAll (contention : Contention) : Contention :=
  (contention.outside.mergeSort fun a b => a ≤ b).foldl release contention

def ground (contention : Contention) : Contention := { contention with grounded := true }

def answers (contention : Contention) : List (Nat × Response) :=
  contention.stages.entries.filterMap fun entry =>
    match entry.2 with
    | .done response => some (entry.1, response)
    | _ => none

def collect (contention : Contention) : Contention :=
  { contention with
    stages := contention.answers.foldl (fun stages answer => stages.erase answer.1) contention.stages }

end Contention

end DroneFleet
