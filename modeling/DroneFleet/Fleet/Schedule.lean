import DroneFleet.Fleet.Contention

/-!
Requests that take their steps in any order. `Contention.run` lets a request run as far as it gets
before the next one has its turn; here any request that can run may take the next step. Matrices still
go to those who have waited for them longest. A run is cooperative if requests give way only where they
may have to wait.
-/
namespace DroneFleet

/-- A request rests when it has not begun, wants a matrix, has just been given it, or is answered. -/
def Stage.rests : Stage → Bool
  | start _ => true
  | enter _ _ => true
  | inside _ _ => true
  | done _ => true
  | _ => false

namespace Contention

def pick (contention : Contention) (number : Nat) : Contention :=
  if number ∈ contention.ready then
    { contention with ready := number :: contention.ready.erase number }.tick
  else contention

inductive Event where
  | submit (request : Request)
  | pick (number : Nat)
  | hold (id : Nat)
  | release (id : Nat)
  | ground
deriving DecidableEq, Repr

def Event.request? : Event → Option Request
  | submit request => some request
  | _ => none

def step (contention : Contention) : Event → Contention
  | .submit request => contention.submit request
  | .pick number => contention.pick number
  | .hold id => (contention.hold id).2
  | .release id => contention.release id
  | .ground => contention.ground

def play (contention : Contention) (events : List Event) : Contention :=
  events.foldl step contention

def taken (contention : Contention) : Event → Nat
  | .pick number => if number ∈ contention.ready then 1 else 0
  | _ => 0

def steps (contention : Contention) : List Event → Nat
  | [] => 0
  | event :: rest => contention.taken event + (contention.step event).steps rest

/-- Lets a scheduler choose, `count` times, who takes the next step. -/
def follow (choose : Nat → Contention → Nat) : Nat → Contention → Contention
  | 0, contention => contention
  | count + 1, contention => follow choose count (contention.pick (choose count contention))

def GivesWay (contention : Contention) (event : Event) : Prop :=
  ∀ entry ∈ contention.stages.entries, entry.2.rests = true ∨ event = .pick entry.1

instance (contention : Contention) (event : Event) : Decidable (contention.GivesWay event) :=
  inferInstanceAs
    (Decidable (∀ entry ∈ contention.stages.entries, entry.2.rests = true ∨ event = .pick entry.1))

/-- Nothing happens before the request that is running rests. -/
def Cooperative (contention : Contention) : List Event → Prop
  | [] => True
  | event :: rest => contention.GivesWay event ∧ (contention.step event).Cooperative rest

instance decidableCooperative :
    (events : List Event) → (contention : Contention) → Decidable (contention.Cooperative events)
  | [], _ => isTrue trivial
  | event :: rest, contention =>
    have := decidableCooperative rest (contention.step event)
    inferInstanceAs
      (Decidable (contention.GivesWay event ∧ (contention.step event).Cooperative rest))

/-- Everybody runs as far as they get after each event, before the next one. -/
def script (contention : Contention) (events : List Event) : Contention :=
  events.foldl (fun contention event => (contention.step event).settle) contention

end Contention

end DroneFleet
