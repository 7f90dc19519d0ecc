import DroneFleet.Fleet.Handling

/-!
A request among others. Between two of its steps other requests may take theirs: every matrix is
taken and given back, the list of matrices and the directory of owners are read and written, each in
a step of its own. A stage says where a request stands and what it remembers there; the matrices that
it holds follow from it (`Stage.holds`).

Two matrices are only ever taken in the order of their numbers. A request that holds the higher one
of two gives it up, takes the lower one, takes the higher one again and looks whether the drone is
still there.
-/
namespace DroneFleet

inductive Listing where
  | matrices
  | drones
deriving DecidableEq, Repr

def Listing.response (views : List MatrixView) : Listing → Response
  | matrices => .matrices views
  | drones => .drones (Fleet.roll views)

/-- What is wanted of a drone once the matrix that it is on is held. -/
inductive Errand where
  | look
  | change (changes : DroneChanges)
  | remove
  | fly (commands : List Command)
  | lead (plans : List Plan)
deriving DecidableEq, Repr

/-- What a matrix is wanted for, with the other matrix of a move where there is one: `target` holds
the source, `targetFirst` has given it up, and `sourceAgain` holds the target. -/
inductive Purpose where
  | survey (listing : Listing) (ahead : List Nat) (seen : List MatrixView)
  | view
  | resize (bounds : Bounds)
  | delete
  | enroll (new : NewDrone)
  | home (drone : Nat) (errand : Errand)
  | target (drone source : Nat) (changes : DroneChanges)
  | targetFirst (drone source : Nat) (changes : DroneChanges)
  | sourceAgain (drone target : Nat) (changes : DroneChanges)
  | batch (plans : List Plan)
deriving DecidableEq, Repr

def Purpose.held : Purpose → List Nat
  | target _ other _ => [other]
  | sourceAgain _ other _ => [other]
  | _ => []

/-- Where a request stands. Each constructor is about to take the step that it is named for. -/
inductive Stage where
  | start (request : Request)
  | publish (matrix : Matrix)
  | survey (listing : Listing)
  | seek (id : Nat) (purpose : Purpose)
  | enter (id : Nat) (purpose : Purpose)
  | inside (id : Nat) (purpose : Purpose)
  | locate (drone : Nat) (last : Option Nat) (errand : Errand)
  | record (drone : Nat) (owner : Option Nat) (next : Stage)
  | withdraw (id : Nat) (next : Stage)
  | leave (id : Nat) (next : Stage)
  | mismatch (id drone : Nat)
  | flying (id : Nat) (outcomes : List DroneOutcome) (ahead : List Plan)
  | done (response : Response)

namespace Stage

def holds : Stage → List Nat
  | seek _ purpose => purpose.held
  | enter _ purpose => purpose.held
  | inside id purpose => id :: purpose.held
  | record _ _ next => next.holds
  | withdraw _ next => next.holds
  | leave id next => id :: next.holds
  | mismatch id _ => [id]
  | flying id _ _ => [id]
  | _ => []

def refused (refusal : Refusal) : Stage := done (.ofRefusal refusal)

def ended (result : Except Refusal Response) : Stage := done (.ofResult result)

def visit (listing : Listing) (seen : List MatrixView) : List Nat → Stage
  | [] => done (listing.response seen)
  | id :: ahead => enter id (.survey listing ahead seen)

def ofPlans (matrixId : Option Nat) (plans : List Plan) : Stage :=
  match Plan.leader plans with
  | .error refusal => refused refusal
  | .ok first =>
    match matrixId with
    | some id => seek id (.batch plans)
    | none => locate first none (.lead plans)

def ofRequest : Request → Stage
  | .listMatrices => survey .matrices
  | .getMatrix id => seek id .view
  | .createMatrix maxX maxY => start (.createMatrix maxX maxY)
  | .updateMatrix id maxX maxY => seek id (.resize ⟨maxX, maxY⟩)
  | .deleteMatrix id => seek id .delete
  | .listDrones => survey .drones
  | .getDrone id => locate id none .look
  | .createDrone new => seek new.matrixId (.enroll new)
  | .updateDrone id changes => locate id none (.change changes)
  | .deleteDrone id => locate id none .remove
  | .droneCommands droneId input =>
    match input.parse with
    | .error fault => refused (.invalidCommand (some droneId) fault)
    | .ok commands => locate droneId none (.fly commands)
  | .matrixDroneCommands matrixId droneIds input =>
    match input.parse with
    | .error fault => refused (.invalidCommand none fault)
    | .ok commands => ofPlans matrixId (Plan.shared droneIds commands)
  | .batchCommands matrixId entries =>
    match Plan.ofEntries entries with
    | .error refusal => refused refusal
    | .ok plans => ofPlans matrixId plans

def after {α : Type} (work : Handling α) (fleet : Fleet) (next : Except Refusal α → Stage) :
    Stage × Fleet :=
  let (result, fleet) := (work.run fleet).run
  (next result, fleet)

/-- What a request does when the matrix that it wants is not listed or has been deleted. -/
def missing (id : Nat) : Purpose → Stage
  | .survey listing ahead seen => visit listing seen ahead
  | .home drone errand => locate drone (some id) errand
  | .target _ source _ => leave source (refused (.unknownMatrix id))
  | .sourceAgain drone target changes => leave target (locate drone none (.change changes))
  | _ => refused (.unknownMatrix id)

def muster (matrix : Matrix) (plans : List Plan) : Stage :=
  match matrix.stranger? plans with
  | some drone => mismatch matrix.id drone
  | none => flying matrix.id [] plans

def errand (grounded : Bool) (fleet : Fleet) (matrix : Matrix) (drone : Nat) :
    Errand → Stage × Fleet
  | .look =>
    after (Handling.record matrix drone) fleet fun result =>
      leave matrix.id (ended (result.map .drone))
  | .remove =>
    after (Handling.discharge matrix drone) fleet fun result =>
      match result with
      | .ok _ => record drone none (leave matrix.id (done (.deleted drone)))
      | .error refusal => leave matrix.id (refused refusal)
  | .fly commands =>
    after (Handling.flySingle grounded matrix drone commands) fleet fun result =>
      leave matrix.id (ended (result.map .single))
  | .lead plans => (muster matrix plans, fleet)
  | .change changes =>
    let targetId := changes.matrixId.getD matrix.id
    if targetId = matrix.id then
      after (Handling.revise matrix drone changes) fleet fun result =>
        leave matrix.id (ended (result.map .drone))
    else if matrix.id < targetId then (seek targetId (.target drone matrix.id changes), fleet)
    else (leave matrix.id (seek targetId (.targetFirst drone matrix.id changes)), fleet)

def move (fleet : Fleet) (drone : Nat) (source target : Matrix) (changes : DroneChanges) :
    Stage × Fleet :=
  after (Handling.transfer source target drone changes) fleet fun result =>
    match result with
    | .ok moved =>
      record drone (some target.id) (leave target.id (leave source.id (done (.drone moved))))
    | .error refusal => leave target.id (leave source.id (refused refusal))

def act (grounded : Bool) (fleet : Fleet) (matrix : Matrix) : Purpose → Stage × Fleet
  | .survey listing ahead seen =>
    (leave matrix.id (visit listing (seen ++ [matrix.view]) ahead), fleet)
  | .view => (leave matrix.id (done (.matrix matrix.view)), fleet)
  | .resize bounds =>
    after (Handling.resize matrix bounds) fleet fun result =>
      leave matrix.id (ended (result.map .matrix))
  | .delete =>
    after (Handling.retire matrix) fleet fun result =>
      match result with
      | .ok _ => withdraw matrix.id (leave matrix.id (done (.deleted matrix.id)))
      | .error refusal => leave matrix.id (refused refusal)
  | .enroll new =>
    after (Handling.enroll matrix new) fleet fun result =>
      match result with
      | .ok drone => record drone.id (some matrix.id) (leave matrix.id (done (.drone drone)))
      | .error refusal => leave matrix.id (refused refusal)
  | .home drone wanted =>
    if matrix.owns drone then errand grounded fleet matrix drone wanted
    else (leave matrix.id (locate drone (some matrix.id) wanted), fleet)
  | .target drone source changes =>
    match fleet.standing? source with
    | some source => move fleet drone source matrix changes
    | none => (leave matrix.id (leave source (refused (.unknownDrone drone))), fleet)
  | .targetFirst drone source changes => (seek source (.sourceAgain drone matrix.id changes), fleet)
  | .sourceAgain drone target changes =>
    let restart := leave target (leave matrix.id (locate drone none (.change changes)))
    if matrix.owns drone then
      match fleet.standing? target with
      | some target => move fleet drone matrix target changes
      | none => (restart, fleet)
    else (restart, fleet)
  | .batch plans => (muster matrix plans, fleet)

def next (grounded : Bool) (fleet : Fleet) : Stage → Stage × Fleet
  | start (.createMatrix maxX maxY) =>
    after (Handling.found ⟨maxX, maxY⟩) fleet fun result =>
      match result with
      | .ok matrix => publish matrix
      | .error refusal => refused refusal
  | start request => (ofRequest request, fleet)
  | publish matrix => (done (.matrix matrix.view), fleet.publish matrix)
  | survey listing => (visit listing [] fleet.listed.keys, fleet)
  | seek id purpose =>
    if fleet.listed.contains id then (enter id purpose, fleet) else (missing id purpose, fleet)
  | enter id purpose => (inside id purpose, fleet)
  | inside id purpose =>
    match fleet.standing? id with
    | some matrix => act grounded fleet matrix purpose
    | none => (leave id (missing id purpose), fleet)
  | locate drone last wanted =>
    match fleet.owner? drone with
    | none => (refused (.unknownDrone drone), fleet)
    | some owner =>
      if last = some owner then (refused (.unknownDrone drone), fleet)
      else (seek owner (.home drone wanted), fleet)
  | record drone owner next => (next, fleet.assign drone owner)
  | withdraw id next => (next, fleet.withdraw id)
  | leave _ next => (next, fleet)
  | mismatch id drone =>
    match fleet.owner? drone with
    | some owner => (leave id (refused (.matrixMismatch drone id owner)), fleet)
    | none => (leave id (refused (.unknownDrone drone)), fleet)
  | flying id outcomes [] =>
    after (Handling.report id outcomes) fleet fun result => leave id (ended (result.map .batch))
  | flying id outcomes (plan :: ahead) =>
    after (Handling.flyPlan grounded id plan) fleet fun result =>
      match result with
      | .ok outcome => flying id (outcomes ++ [outcome]) ahead
      | .error refusal => leave id (refused refusal)
  | done response => (done response, fleet)

end Stage

end DroneFleet
