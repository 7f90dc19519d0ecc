import DroneFleet.Fleet.Dispatch
import DroneFleet.Proofs.Fleet.Handling

/-!
One request at a time on a sound fleet: the matrix of a drone is the one that holds it, and a batch
whose drones are all aboard flies each of them in turn.
-/
namespace DroneFleet

namespace Handling

theorem on_ok {α : Type} {work : Handling α} {fleet after : Fleet} {value : α}
    (done : work.on fleet = (.ok value, after)) {β : Type} (next : α → Handling β) :
    (work >>= next).on fleet = (next value).on after := by
  rw [on_bind, done]

theorem on_seek {fleet : Fleet} (sound : fleet.Sound) {id : Nat} {matrix : Matrix}
    (standing : fleet.standing? id = some matrix) : (seek id).on fleet = (.ok matrix, fleet) := by
  simp only [seek, on_bind, on_get, sound.matrix? standing]
  rfl

theorem on_home {fleet : Fleet} (sound : fleet.Sound) {id drone : Nat} {matrix : Matrix}
    (standing : fleet.standing? id = some matrix) (aboard : matrix.owns drone = true) :
    (home drone).on fleet = (.ok matrix, fleet) := by
  have known := (sound.directory drone id).mpr ((Fleet.standing_houses standing).mpr aboard)
  have named : (owner drone).on fleet = (.ok id, fleet) := by
    simp only [owner, on_bind, on_get, known]
    rfl
  simp only [home, on_bind, on_get, named, sound.matrix? standing, aboard, if_true]
  rfl

/-- What comes of flying `plans` one after another, beginning with `matrix`. -/
inductive Flown (grounded : Bool) : Matrix → List Plan → List DroneOutcome → Matrix → Prop
  | nil (matrix : Matrix) : Flown grounded matrix [] [] matrix
  | cons {matrix next last : Matrix} {plan : Plan} {ahead : List Plan} {outcome : DroneOutcome}
      {outcomes : List DroneOutcome} (same : next.id = matrix.id)
      (flew : ∀ fleet : Fleet, fleet.standing? matrix.id = some matrix →
        (flyPlan grounded matrix.id plan).on fleet = (.ok outcome, fleet.store next))
      (rest : Flown grounded next ahead outcomes last) :
      Flown grounded matrix (plan :: ahead) (outcome :: outcomes) last

theorem flown_exists (grounded : Bool) {matrix : Matrix} (sound : matrix.Sound) {plans : List Plan}
    (aboard : ∀ plan ∈ plans, matrix.owns plan.droneId = true) :
    ∃ outcomes last, Flown grounded matrix plans outcomes last ∧ last.Sound ∧ matrix.Kin last := by
  induction plans generalizing matrix with
  | nil => exact ⟨[], matrix, .nil matrix, sound, Matrix.Kin.refl matrix⟩
  | cons plan ahead ih =>
    obtain ⟨outcome, next, nextSound, kin, flew⟩ :=
      flyPlan_result grounded sound (aboard plan List.mem_cons_self)
    obtain ⟨outcomes, last, rest, lastSound, kin'⟩ := ih nextSound fun other member =>
      (kin.owns _).trans (aboard other (List.mem_cons_of_mem _ member))
    exact ⟨outcome :: outcomes, last, .cons kin.id flew rest, lastSound, kin.trans kin'⟩

theorem Flown.id_eq {grounded : Bool} {matrix last : Matrix} {plans : List Plan}
    {outcomes : List DroneOutcome} (flown : Flown grounded matrix plans outcomes last) :
    last.id = matrix.id := by
  induction flown with
  | nil matrix => rfl
  | cons same flew rest ih => exact ih.trans same

/-- A batch stores the matrix anew after each plan; only the last of them stays. -/
theorem Flown.on_mapM {grounded : Bool} {matrix last : Matrix} {plans : List Plan}
    {outcomes : List DroneOutcome} (flown : Flown grounded matrix plans outcomes last)
    {fleet : Fleet} (standing : fleet.standing? matrix.id = some matrix) :
    (plans.mapM (flyPlan grounded matrix.id)).on fleet = (.ok outcomes, fleet.store last) := by
  induction flown generalizing fleet with
  | nil matrix =>
    rw [List.mapM_nil, on_pure, Fleet.store_self standing]
  | @cons matrix next last plan ahead outcome outcomes same flew rest ih =>
    have stored : (fleet.store next).standing? next.id = some next := by
      rw [Fleet.store_standing?, if_pos rfl]
    have flies := ih stored
    rw [same] at flies
    rw [List.mapM_cons, on_ok (flew fleet standing), on_ok flies, on_pure,
      Fleet.store_store _ rest.id_eq]

theorem on_checkOwners {matrix : Matrix} {plans : List Plan} (none : matrix.stranger? plans = none)
    (fleet : Fleet) : (checkOwners matrix plans).on fleet = (.ok (), fleet) := by
  simp only [checkOwners, none]
  rfl

def ground (matrixId : Option Nat) (first : Nat) : Handling Matrix :=
  match matrixId with
  | some id => seek id
  | none => home first

theorem batch_eq (grounded : Bool) {matrixId : Option Nat} {plans : List Plan} {first : Nat}
    (leads : Plan.leader plans = .ok first) :
    batch grounded matrixId plans = (do
      let matrix ← ground matrixId first
      checkOwners matrix plans
      report matrix.id (← plans.mapM (flyPlan grounded matrix.id))) := by
  unfold batch
  rw [leads]
  cases matrixId <;> rfl

theorem on_batch {grounded : Bool} {matrixId : Option Nat} {plans : List Plan} {first : Nat}
    (leads : Plan.leader plans = .ok first) {fleet : Fleet} {matrix last : Matrix}
    {outcomes : List DroneOutcome} (found : (ground matrixId first).on fleet = (.ok matrix, fleet))
    (standing : fleet.standing? matrix.id = some matrix) (none : matrix.stranger? plans = none)
    (flown : Flown grounded matrix plans outcomes last) :
    (batch grounded matrixId plans).on fleet = (.ok (.of outcomes last), fleet.store last) := by
  have stored : (fleet.store last).standing? matrix.id = some last := by
    rw [Fleet.store_standing?, if_pos flown.id_eq.symm]
  rw [batch_eq grounded leads, on_ok found, on_ok (on_checkOwners none fleet),
    on_ok (flown.on_mapM standing), on_report stored]

end Handling

def Request.Flies (matrixId : Option Nat) (plans : List Plan) (request : Request) : Prop :=
  (∃ droneIds input commands, request = .matrixDroneCommands matrixId droneIds input ∧
    input.parse = .ok commands ∧ plans = Plan.shared droneIds commands) ∨
  ∃ entries, request = .batchCommands matrixId entries ∧ Plan.ofEntries entries = .ok plans

namespace Fleet

theorem dispatch_eq {fleet after : Fleet} {grounded : Bool} {request : Request}
    {response : Response} (handled : (request.handle grounded).on fleet = (.ok response, after)) :
    fleet.dispatch grounded request = (response, after) := by
  have same : ((request.handle grounded).run fleet).run = _ := handled
  simp only [dispatch, same, Response.ofResult]

theorem dispatch_error {fleet after : Fleet} {grounded : Bool} {request : Request}
    {refusal : Refusal} (refused : (request.handle grounded).on fleet = (.error refusal, after)) :
    fleet.dispatch grounded request = (.ofRefusal refusal, after) := by
  have same : ((request.handle grounded).run fleet).run = _ := refused
  simp only [dispatch, same, Response.ofResult]

theorem dispatch_flies {fleet after : Fleet} {grounded : Bool} {request : Request}
    {matrixId : Option Nat} {plans : List Plan} {report : BatchReport}
    (flies : request.Flies matrixId plans)
    (done : (Handling.batch grounded matrixId plans).on fleet = (.ok report, after)) :
    fleet.dispatch grounded request = (.batch report, after) := by
  apply dispatch_eq
  rcases flies with ⟨droneIds, input, commands, rfl, parsed, rfl⟩ | ⟨entries, rfl, parsed⟩
  · simp only [Request.handle, parsed, Handling.on_bind, done, Handling.on_pure]
  · simp only [Request.handle, parsed, Handling.on_bind, Handling.on_lift, done, Handling.on_pure]

end Fleet

end DroneFleet
