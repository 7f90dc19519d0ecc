import DroneFleet.Fleet.Stage
import DroneFleet.Proofs.Fleet.Dispatch

/-!
What can be read off a stage: the entry that it has still to write, the matrices that nobody else may
touch meanwhile, what it takes for granted of the fleet (`Stage.Fits`), and how it stands to the
request that it came from. A request is pursued (`Stage.Serves`) until it does its one deed, and from
then on it only writes its entry, gives back what it holds and is answered (`Stage.Answers`).
-/
namespace DroneFleet

def Fleet.Built (fleet : Fleet) (id : Nat) : Prop := ∃ slot, fleet.slots.get? id = some slot

def Listing.request : Listing → Request
  | matrices => .listMatrices
  | drones => .listDrones

def Request.isListing : Request → Bool
  | listMatrices => true
  | listDrones => true
  | _ => false

theorem Listing.request_isListing (listing : Listing) : listing.request.isListing = true := by
  cases listing <;> rfl

namespace Errand

def Serves (request : Request) (drone : Nat) : Errand → Prop
  | look => request = .getDrone drone
  | change changes => request = .updateDrone drone changes
  | remove => request = .deleteDrone drone
  | fly commands => ∃ input, request = .droneCommands drone input ∧ input.parse = .ok commands
  | lead plans => request.Flies none plans ∧ Plan.leader plans = .ok drone

end Errand

namespace Purpose

/-- A request that wants `id` for this purpose has the two matrices of a move in order, and what it
holds stands. -/
def Fits (fleet : Fleet) (id : Nat) : Purpose → Prop
  | survey _ ahead _ => ∀ other ∈ ahead, fleet.Built other
  | target drone source _ =>
    source < id ∧ ∃ matrix, fleet.standing? source = some matrix ∧ matrix.owns drone = true
  | targetFirst _ source _ => id < source
  | sourceAgain _ other _ => other < id ∧ ∃ matrix, fleet.standing? other = some matrix
  | _ => True

def Serves (request : Request) (id : Nat) : Purpose → Prop
  | survey listing _ _ => request = listing.request
  | view => request = .getMatrix id
  | resize bounds => request = .updateMatrix id bounds.maxX bounds.maxY
  | delete => request = .deleteMatrix id
  | enroll new => request = .createDrone new ∧ new.matrixId = id
  | home drone errand => errand.Serves request drone
  | target drone _ changes => request = .updateDrone drone changes ∧ changes.matrixId = some id
  | targetFirst drone _ changes => request = .updateDrone drone changes ∧ changes.matrixId = some id
  | sourceAgain drone other changes =>
    request = .updateDrone drone changes ∧ changes.matrixId = some other
  | batch plans => request.Flies (some id) plans ∧ ∃ first, Plan.leader plans = .ok first

/-- Purposes that a request has of its own accord, and not because of where a drone is. -/
def Direct : Purpose → Prop
  | view => True
  | resize _ => True
  | delete => True
  | enroll _ => True
  | batch _ => True
  | _ => False

theorem Fits.below {fleet : Fleet} {id : Nat} {purpose : Purpose} (fits : purpose.Fits fleet id) :
    ∀ other ∈ purpose.held, other < id := by
  intro other member
  cases purpose with
  | target drone source changes => exact List.mem_singleton.mp member ▸ fits.1
  | sourceAgain drone target changes => exact List.mem_singleton.mp member ▸ fits.1
  | _ => cases member

end Purpose

namespace Stage

def pending? : Stage → Option Entry
  | publish matrix => some (.publish matrix)
  | record drone owner _ => some (.assign drone owner)
  | withdraw id _ => some (.withdraw id)
  | _ => none

/-- The matrices that belong to the request alone: those that it holds, and a new one. -/
def reserves : Stage → List Nat
  | publish matrix => [matrix.id]
  | stage => stage.holds

/-- What a stage takes for granted. While the owner of a drone is being changed, both the old and the
new one are held. -/
def Fits (fleet : Fleet) : Stage → Prop
  | publish matrix => fleet.slots.get? matrix.id = none ∧ ∃ bounds, matrix = .new matrix.id bounds
  | seek id purpose => purpose.Fits fleet id
  | enter id purpose => fleet.Built id ∧ purpose.Fits fleet id
  | inside id purpose => purpose.Fits fleet id
  | record drone owner next =>
    next.pending? = none ∧ next.Fits fleet ∧
      (∃ id, owner = some id ∨ fleet.owner? drone = some id) ∧
      ∀ id, owner = some id ∨ fleet.owner? drone = some id →
        id ∈ next.holds ∧ ∃ matrix, fleet.standing? id = some matrix
  | withdraw id next => next.pending? = none ∧ next.Fits fleet ∧ id ∈ next.holds
  | leave id next => next.pending? = none ∧ next.Fits fleet ∧ id ∉ next.holds
  | flying id _ ahead => ∃ matrix, fleet.standing? id = some matrix ∧
      ∀ plan ∈ ahead, matrix.owns plan.droneId = true
  | _ => True

def Serves (request : Request) : Stage → Prop
  | start other => other = request
  | survey listing => request = listing.request
  | seek id purpose => purpose.Serves request id
  | enter id purpose => purpose.Serves request id
  | inside id purpose => purpose.Serves request id
  | locate drone _ errand => errand.Serves request drone
  | leave _ next => next.Serves request
  | mismatch _ _ => True
  | _ => False

def Closes (response : Response) : Stage → Prop
  | leave _ next => next.Closes response
  | done other => other = response
  | _ => False

def Answers (response : Response) : Stage → Prop
  | publish matrix => response = .matrix matrix.view
  | record _ _ next => next.Closes response
  | withdraw _ next => next.Closes response
  | stage => stage.Closes response

/-- The request is about to be told that it cannot find a drone: none owns it, or the owner is the
matrix where it has just been missed. -/
def Misses (fleet : Fleet) (drone : Nat) : Stage → Prop
  | locate wanted last _ =>
    wanted = drone ∧ (fleet.owner? drone = none ∨ fleet.owner? drone = last)
  | mismatch _ stranger => stranger = drone ∧ fleet.owner? drone = none
  | _ => False

theorem after_on {α : Type} {work : Handling α} {fleet changed : Fleet} {result : Except Refusal α}
    (done : work.on fleet = (result, changed)) (next : Except Refusal α → Stage) :
    after work fleet next = (next result, changed) := by
  have same : (work.run fleet).run = _ := done
  simp only [after, same]

theorem Closes.answers {response : Response} {stage : Stage} (closes : stage.Closes response) :
    stage.Answers response := by
  cases stage <;> first | exact closes | exact closes.elim

theorem Closes.pending? {response : Response} {stage : Stage} (closes : stage.Closes response) :
    stage.pending? = none := by
  cases stage <;> first | rfl | exact closes.elim

theorem Serves.pending? {request : Request} {stage : Stage} (serves : stage.Serves request) :
    stage.pending? = none := by
  cases stage <;> first | rfl | exact serves.elim

theorem Closes.unique {first second : Response} {stage : Stage} (closes : stage.Closes first)
    (closes' : stage.Closes second) : first = second := by
  induction stage with
  | leave id next ih => exact ih closes closes'
  | done response => exact closes.symm.trans closes'
  | _ => exact closes.elim

theorem Answers.unique {first second : Response} {stage : Stage} (answers : stage.Answers first)
    (answers' : stage.Answers second) : first = second := by
  cases stage with
  | publish matrix => exact Eq.trans answers (Eq.symm answers')
  | record drone owner next => exact Closes.unique answers answers'
  | withdraw id next => exact Closes.unique answers answers'
  | leave id next =>
    have closes : next.Closes first := answers
    exact closes.unique answers'
  | done response => exact Eq.trans (Eq.symm answers) answers'
  | _ => exact answers.elim

private theorem Serves.not_closes {request : Request} {response : Response} {stage : Stage}
    (serves : stage.Serves request) : ¬ stage.Closes response := by
  induction stage with
  | leave id next ih => exact ih serves
  | done other => exact serves.elim
  | _ => exact fun closes => closes.elim

theorem Serves.not_answers {request : Request} {response : Response} {stage : Stage}
    (serves : stage.Serves request) : ¬ stage.Answers response := by
  cases stage with
  | leave id next =>
    have pursued : next.Serves request := serves
    exact pursued.not_closes
  | publish matrix => exact serves.elim
  | record drone owner next => exact serves.elim
  | withdraw id next => exact serves.elim
  | done other => exact serves.elim
  | _ => exact fun answers => answers.elim

theorem reserves_eq_holds {stage : Stage} (nothing : stage.pending? = none) :
    stage.reserves = stage.holds := by
  cases stage <;> first | rfl | cases nothing

theorem reserves_of_holds {stage : Stage} {id : Nat} (held : id ∈ stage.holds) :
    id ∈ stage.reserves := by
  cases stage <;> first | exact held | cases held

/-! ### How a request begins -/

/-- Where a request may be once it has been read: it is about to make a matrix, to visit all of them, to
look for one or for a drone, or it has been refused. -/
inductive Opening : Stage → Prop
  | founds {maxX maxY : UInt32} : Opening (start (.createMatrix maxX maxY))
  | surveys {listing : Listing} : Opening (survey listing)
  | seeks {id : Nat} {purpose : Purpose} (direct : purpose.Direct) : Opening (seek id purpose)
  | looks {drone : Nat} {wanted : Errand} : Opening (locate drone none wanted)
  | refused {refusal : Refusal} : Opening (Stage.refused refusal)

theorem ofPlans_opening (matrixId : Option Nat) (plans : List Plan) :
    (ofPlans matrixId plans).Opening := by
  unfold ofPlans
  split
  · exact .refused
  · split
    · exact .seeks trivial
    · exact .looks

theorem ofRequest_opening (request : Request) : (ofRequest request).Opening := by
  cases request with
  | listMatrices | listDrones => exact .surveys
  | createMatrix maxX maxY => exact .founds
  | getMatrix | updateMatrix | deleteMatrix | createDrone => exact .seeks trivial
  | getDrone | updateDrone | deleteDrone => exact .looks
  | droneCommands droneId input =>
    simp only [ofRequest]
    split
    · exact .refused
    · exact .looks
  | matrixDroneCommands matrixId droneIds input =>
    simp only [ofRequest]
    split
    · exact .refused
    · exact ofPlans_opening _ _
  | batchCommands matrixId entries =>
    simp only [ofRequest]
    split
    · exact .refused
    · exact ofPlans_opening _ _

end Stage

end DroneFleet
