import DroneFleet.Fleet.Stage

/-!
Many requests for one fleet, their steps in any order. Nothing is said about who runs when: a request
may take its next step whenever it is not waiting for a matrix that somebody else has, and a matrix
that becomes free may go to any request that wants it. An outsider may hold matrices too.
-/
namespace DroneFleet

/-- A fleet with the requests made of it so far, each under its place in `requests`. -/
structure Crowd where
  fleet : Fleet
  grounded : Bool
  requests : List Request
  stages : Table Nat Stage
  outside : List Nat

namespace Crowd

inductive Event where
  | submit (request : Request)
  | advance (number : Nat)
  | hold (id : Nat)
  | release (id : Nat)
  | ground
deriving DecidableEq, Repr

def new (fleet : Fleet) : Crowd := ⟨fleet, false, [], .empty, []⟩

def held (crowd : Crowd) : List Nat := crowd.stages.values.flatMap Stage.holds

def isFree (crowd : Crowd) (id : Nat) : Bool :=
  !crowd.outside.contains id && !crowd.held.contains id

def moveTo (crowd : Crowd) (number : Nat) (stage : Stage) : Crowd :=
  { crowd with stages := crowd.stages.insert number stage }

/-- A request that has been answered takes no more steps, and one that wants a matrix takes none
until that is free. -/
def blocks (crowd : Crowd) : Stage → Bool
  | .done _ => true
  | .enter id _ => !crowd.isFree id
  | _ => false

def advance (crowd : Crowd) (number : Nat) : Crowd :=
  match crowd.stages.get? number with
  | none => crowd
  | some stage =>
    if crowd.blocks stage then crowd
    else
      let (next, fleet) := stage.next crowd.grounded crowd.fleet
      { crowd with fleet }.moveTo number next

def submit (crowd : Crowd) (request : Request) : Crowd :=
  { crowd.moveTo crowd.requests.length (.start request) with
    requests := crowd.requests ++ [request] }

def hold (crowd : Crowd) (id : Nat) : Crowd :=
  if (crowd.fleet.matrix? id).isSome && crowd.isFree id then
    { crowd with outside := id :: crowd.outside }
  else crowd

def release (crowd : Crowd) (id : Nat) : Crowd :=
  { crowd with outside := crowd.outside.erase id }

/-- What happens when an event comes; one that cannot happen changes nothing. -/
def step (crowd : Crowd) : Event → Crowd
  | .submit request => crowd.submit request
  | .advance number => crowd.advance number
  | .hold id => crowd.hold id
  | .release id => crowd.release id
  | .ground => { crowd with grounded := true }

def run (crowd : Crowd) (events : List Event) : Crowd := events.foldl step crowd

def answer? (crowd : Crowd) (number : Nat) : Option Response :=
  match crowd.stages.get? number with
  | some (.done response) => some response
  | _ => none

end Crowd

end DroneFleet
