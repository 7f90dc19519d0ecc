import DroneFleet.Flight

/-!
The operations on a matrix as they are carried out, one write after another. What has been written
stays when the operation is refused later, so that a refused operation leaves the matrix as it was only
if it has checked everything before its first write.
-/
namespace DroneFleet.Matrix

abbrev Work := ExceptT Refusal (StateM Matrix)

namespace Work

def check (pose : Pose) (ignoring : Option Nat) : Work Unit := do
  (← get).checkPlacement pose ignoring

def sought (id : Nat) : Work Drone := do
  match (← get).drone? id with
  | some drone => return drone
  | none => throw (.unknownDrone id)

def occupy (cell : Cell) (id : Nat) : Work Unit :=
  modify fun matrix => { matrix with cells := matrix.cells.insert cell id }

def vacate (cell : Cell) : Work Unit :=
  modify fun matrix => { matrix with cells := matrix.cells.erase cell }

def keep (id : Nat) (drone : Drone) : Work Unit :=
  modify fun matrix => { matrix with drones := matrix.drones.insert id drone }

def drop (id : Nat) : Work Unit :=
  modify fun matrix => { matrix with drones := matrix.drones.erase id }

def place (id : Nat) (name model : String) (pose : Pose) : Work Unit := do
  if (← get).owns id then
    throw (.duplicateDrone id)
  check pose none
  occupy pose.cell id
  keep id ⟨id, name, model, pose, (← get).id⟩

def remove (id : Nat) : Work (Option Drone) := do
  match (← get).drone? id with
  | none => return none
  | some drone =>
    drop id
    vacate drone.pose.cell
    return some drone

def commit (id : Nat) (pose : Pose) : Work Unit := do
  check pose (some id)
  let drone ← sought id
  unless drone.pose.cell = pose.cell do
    vacate drone.pose.cell
    occupy pose.cell id
  keep id { drone with pose }

def rename (id : Nat) (name model : Option String) : Work Unit := do
  let drone ← sought id
  keep id { drone with name := name.getD drone.name, model := model.getD drone.model }

def resize (bounds : Bounds) : Work Unit := do
  let checked : Except Refusal Unit :=
    (← get).drones.values.forM fun drone => bounds.check drone.pose.cell
  checked
  modify fun matrix => { matrix with bounds }

/-- Flies on from the step numbered `step`; every step that succeeds is written at once. -/
def proceed (id : Nat) (pose : Pose) (step : Nat) : List Command → Work Outcome
  | [] => return .completed pose
  | command :: rest => do
    match (← get).follow id pose command with
    | .error violation => return .ofViolation step pose violation
    | .ok next =>
      commit id next
      proceed id next (step + 1) rest

def fly (id : Nat) (commands : List Command) : Work Outcome := do
  proceed id (← sought id).pose 0 commands

end Work

inductive Operation where
  | place (id : Nat) (name model : String) (pose : Pose)
  | remove (id : Nat)
  | commit (id : Nat) (pose : Pose)
  | rename (id : Nat) (name model : Option String)
  | resize (bounds : Bounds)
  | fly (id : Nat) (commands : List Command)
deriving DecidableEq, Repr

inductive Reply where
  | done
  | removed (drone : Option Drone)
  | flown (outcome : Outcome)
deriving DecidableEq, Repr

def Operation.work : Operation → Work Reply
  | place id name model pose => do
    Work.place id name model pose
    return .done
  | remove id => return .removed (← Work.remove id)
  | commit id pose => do
    Work.commit id pose
    return .done
  | rename id name model => do
    Work.rename id name model
    return .done
  | resize bounds => do
    Work.resize bounds
    return .done
  | fly id commands => return .flown (← Work.fly id commands)

def operate (matrix : Matrix) (operation : Operation) : Except Refusal Reply × Matrix :=
  (operation.work.run matrix).run

def operated (matrix : Matrix) (operations : List Operation) : Matrix :=
  operations.foldl (fun matrix operation => (matrix.operate operation).2) matrix

end DroneFleet.Matrix
