import DroneFleet.Fleet.Handling
import DroneFleet.Proofs.Fleet.Deeds
import DroneFleet.Proofs.Matrix.Runs

/-!
What each piece of work comes to: it is refused and leaves the fleet as it is, or it does one deed.
Which of the two, and with what result, depends only on the matrices that it was given and on the
counters (`Fleet.Alike`), so work does the same on two fleets that agree on these.
-/
namespace DroneFleet

/-- Two fleets that a request which holds `held` cannot tell apart. -/
structure Fleet.Alike (held : List Nat) (fleet other : Fleet) : Prop where
  lastMatrix : other.lastMatrix = fleet.lastMatrix
  lastDrone : other.lastDrone = fleet.lastDrone
  standing : ∀ id ∈ held, other.standing? id = fleet.standing? id

theorem Fleet.Alike.refl (held : List Nat) (fleet : Fleet) : Fleet.Alike held fleet fleet :=
  ⟨rfl, rfl, fun _ _ => rfl⟩

theorem Fleet.Alike.stands {held : List Nat} {fleet other : Fleet} (alike : fleet.Alike held other)
    {id : Nat} (member : id ∈ held) {matrix : Matrix}
    (standing : fleet.standing? id = some matrix) : other.standing? id = some matrix :=
  (alike.standing id member).trans standing

theorem Deed.Apt.alike {held : List Nat} {fleet other : Fleet} {deed : Deed}
    (apt : deed.Apt held fleet) (alike : fleet.Alike held other) : deed.Apt held other := by
  cases deed with
  | found matrix =>
    obtain ⟨bounds, rfl⟩ := apt
    exact ⟨bounds, by rw [alike.lastMatrix]⟩
  | revise matrix =>
    obtain ⟨inside, sound, before, standing, kin⟩ := apt
    exact ⟨inside, sound, before, alike.stands inside standing, kin⟩
  | enroll matrix drone =>
    obtain ⟨inside, sound, number, before, standing, joins⟩ := apt
    exact ⟨inside, sound, number.trans (by rw [alike.lastDrone]), before,
      alike.stands inside standing, joins⟩
  | transfer left joined drone =>
    obtain ⟨inside, inside', apart, sound, sound', source, target, standing, standing', rest⟩ := apt
    exact ⟨inside, inside', apart, sound, sound', source, target,
      alike.stands inside standing, alike.stands inside' standing', rest⟩
  | discharge left drone =>
    obtain ⟨inside, sound, before, standing, rest⟩ := apt
    exact ⟨inside, sound, before, alike.stands inside standing, rest⟩
  | retire matrix =>
    obtain ⟨inside, standing, deserted⟩ := apt
    exact ⟨inside, alike.stands inside standing, deserted⟩

theorem Fleet.store_self {fleet : Fleet} {matrix : Matrix}
    (standing : fleet.standing? matrix.id = some matrix) : fleet.store matrix = fleet := by
  simp only [store, Table.insert_eq_self (standing?_eq_some.mp standing)]

theorem Fleet.store_store (fleet : Fleet) {first second : Matrix} (same : second.id = first.id) :
    (fleet.store first).store second = fleet.store second := by
  simp only [store, same, Table.insert_insert]

theorem Fleet.store_comm (fleet : Fleet) {first second : Matrix} (different : first.id ≠ second.id) :
    (fleet.store first).store second = (fleet.store second).store first := by
  simp only [store, Table.insert_comm _ different]

theorem Fleet.store_injective {fleet : Fleet} {first second : Matrix}
    (stored : fleet.store first = fleet.store second) (same : first.id = second.id) :
    first = second := by
  have left := store_standing? fleet first first.id
  have right := store_standing? fleet second first.id
  rw [stored, right, if_pos same, if_pos rfl] at left
  exact (Option.some.inj left).symm

namespace Handling

def on {α : Type} (work : Handling α) (fleet : Fleet) : Except Refusal α × Fleet :=
  (work.run fleet).run

@[simp] theorem on_bind {α β : Type} (work : Handling α) (next : α → Handling β) (fleet : Fleet) :
    (work >>= next).on fleet = match work.on fleet with
      | (.ok value, after) => (next value).on after
      | (.error refusal, after) => (.error refusal, after) := by
  rcases done : work.on fleet with ⟨_ | _, after⟩
  all_goals
    have same : work fleet = _ := done
    simp only [on, bind, ExceptT.bind, ExceptT.mk, ExceptT.run, StateT.bind, same]
    rfl

@[simp] theorem on_pure {α : Type} (value : α) (fleet : Fleet) :
    (pure value : Handling α).on fleet = (.ok value, fleet) := rfl

@[simp] theorem on_get (fleet : Fleet) : (get : Handling Fleet).on fleet = (.ok fleet, fleet) := rfl

@[simp] theorem on_modify (change : Fleet → Fleet) (fleet : Fleet) :
    (modify change : Handling Unit).on fleet = (.ok (), change fleet) := rfl

@[simp] theorem on_lift {α : Type} (result : Except Refusal α) (fleet : Fleet) :
    (liftM result : Handling α).on fleet = (result, fleet) := by
  cases result <;> rfl

@[simp] theorem on_store (matrix : Matrix) (fleet : Fleet) :
    (store matrix).on fleet = (.ok (), fleet.store matrix) := rfl

@[simp] theorem on_assign (drone : Nat) (owner : Option Nat) (fleet : Fleet) :
    (assign drone owner).on fleet = (.ok (), fleet.assign drone owner) := rfl

theorem on_record {matrix : Matrix} {id : Nat} {drone : Drone}
    (present : matrix.drone? id = some drone) (fleet : Fleet) :
    (record matrix id).on fleet = (.ok drone, fleet) := by
  simp only [record, present]
  rfl

theorem on_stored {fleet : Fleet} {id : Nat} {matrix : Matrix}
    (standing : fleet.standing? id = some matrix) :
    (stored id).on fleet = (.ok matrix, fleet) := by
  simp only [stored, on_bind, on_get, standing]
  rfl

/-- The work is refused, whatever the fleet, and not for want of a drone. -/
def Refuses {α : Type} (work : Handling α) (refusal : Refusal) : Prop :=
  refusal.kind ≠ .unknownDrone ∧ ∀ fleet, work.on fleet = (.error refusal, fleet)

/-- The work does a deed and gives a value, on every fleet that is alike. -/
def Does {α : Type} (held : List Nat) (fleet : Fleet) (work : Handling α) (value : α)
    (deed : Deed) : Prop :=
  ∀ other, fleet.Alike held other → work.on other = (.ok value, deed.perform other)

section Work

variable {fleet : Fleet} {held : List Nat} {matrix : Matrix}

theorem found_does (bounds : Bounds) :
    Does held fleet (found bounds) (.new (fleet.lastMatrix + 1) bounds)
      (.found (.new (fleet.lastMatrix + 1) bounds)) := by
  intro other alike
  simp only [found, on_bind, on_get, on_modify, on_pure, Deed.perform, alike.lastMatrix]
  rfl

theorem resize_result (sound : matrix.Sound) (bounds : Bounds) :
    (∃ refusal, Refuses (resize matrix bounds) refusal) ∨
      ∃ resized, resized.Sound ∧ matrix.Kin resized ∧ ∀ held fleet,
        Does held fleet (resize matrix bounds) resized.view (.revise resized) := by
  cases done : matrix.resize bounds with
  | error refusal =>
    refine .inl ⟨refusal, by simp [Matrix.resize_kind done], ?_⟩
    intro fleet
    simp only [resize, on_bind, on_lift, done]
  | ok resized =>
    obtain ⟨resizedSound, kin⟩ := Matrix.resize_sound sound done
    refine .inr ⟨resized, resizedSound, kin, ?_⟩
    intro held fleet other _
    simp only [resize, on_bind, on_lift, done, on_store, on_pure, Deed.perform]

theorem retire_result (matrix : Matrix) :
    (∃ refusal, Refuses (retire matrix) refusal) ∨
      (∀ drone, matrix.owns drone = false) ∧ ∀ held fleet,
        Does held fleet (retire matrix) () (.retire matrix) := by
  by_cases deserted : matrix.drones.isEmpty
  · refine .inr ⟨?_, ?_⟩
    · intro drone
      exact Matrix.owns_eq_false_iff.mpr (Table.isEmpty_iff.mp deserted drone)
    · intro held fleet other _
      simp only [retire, deserted]
      rfl
  · refine .inl ⟨.matrixNotEmpty matrix.id matrix.drones.size, by simp [Refusal.kind], ?_⟩
    intro fleet
    simp only [retire, deserted]
    rfl

/-- The number of a new drone is free on every matrix, so only its place can be refused. -/
theorem enroll_result (firm : fleet.Firm) (standing : fleet.standing? matrix.id = some matrix)
    (new : NewDrone) :
    (∃ refusal, Refuses (enroll matrix new) refusal) ∨
      ∃ drone placed, drone.id = fleet.lastDrone + 1 ∧ placed.id = matrix.id ∧ placed.Sound ∧
        (∀ other, placed.owns other = (decide (other = drone.id) || matrix.owns other)) ∧
        ∀ held, Does held fleet (enroll matrix new) drone (.enroll placed drone.id) := by
  cases checked : matrix.checkPlacement new.pose none with
  | error refusal =>
    refine .inl ⟨refusal, Matrix.checkPlacement_kind checked, ?_⟩
    intro other
    simp only [enroll, on_bind, on_lift, checked]
  | ok _ =>
    have absent : matrix.owns (fleet.lastDrone + 1) = false := by
      cases owned : matrix.owns (fleet.lastDrone + 1) with
      | false => rfl
      | true =>
        have housed := (Fleet.standing_houses standing).mpr owned
        exact absurd (firm.enrolled _ _ housed) (Nat.not_succ_le_self _)
    refine .inr ⟨⟨fleet.lastDrone + 1, new.name, new.model, new.pose, matrix.id⟩,
      matrix.joined ⟨fleet.lastDrone + 1, new.name, new.model, new.pose, matrix.id⟩, rfl, rfl,
      Matrix.joined_sound (firm.standing standing).2 absent rfl checked,
      Matrix.joined_owns matrix _, ?_⟩
    intro held other alike
    have present := Matrix.joined_drone? matrix
      ⟨fleet.lastDrone + 1, new.name, new.model, new.pose, matrix.id⟩ (fleet.lastDrone + 1)
    rw [if_pos rfl] at present
    simp only [enroll, on_bind, on_lift, checked, on_get, on_modify, alike.lastDrone,
      Matrix.place_eq new.name new.model new.pose absent, Except.map, on_store,
      on_record present, Deed.perform]

theorem discharge_result (sound : matrix.Sound) {id : Nat} (aboard : matrix.owns id = true) :
    ∃ drone left, left.id = matrix.id ∧ left.Sound ∧
      (∀ other, left.owns other = (decide (other ≠ id) && matrix.owns other)) ∧
      ∀ held fleet, Does held fleet (discharge matrix id) drone (.discharge left id) := by
  obtain ⟨drone, present⟩ := Matrix.owns_iff.mp aboard
  have name := (sound.named id drone present).1
  subst name
  refine ⟨drone, matrix.without drone, rfl, Matrix.without_sound sound present,
    Matrix.without_owns matrix drone, ?_⟩
  intro held fleet other _
  simp only [discharge, Matrix.remove?_eq sound, present, Option.map_some, on_bind, on_store,
    on_pure, Deed.perform]

private theorem renames (sound : matrix.Sound) {id : Nat} (aboard : matrix.owns id = true)
    (name model : Option String) :
    ∃ renamed drone, matrix.rename id name model = .ok renamed ∧ renamed.Sound ∧
      matrix.Kin renamed ∧ renamed.drone? id = some drone := by
  obtain ⟨before, present⟩ := Matrix.owns_iff.mp aboard
  have renamed := Matrix.rename_eq sound present name model
  obtain ⟨renamedSound, kin⟩ := Matrix.rename_sound sound aboard renamed
  obtain ⟨drone, found⟩ := Matrix.owns_iff.mp ((kin.owns id).trans aboard)
  exact ⟨_, drone, renamed, renamedSound, kin, found⟩

theorem revise_result (sound : matrix.Sound) {id : Nat} (aboard : matrix.owns id = true)
    (changes : DroneChanges) :
    (∃ refusal, Refuses (revise matrix id changes) refusal) ∨
      ∃ drone revised, revised.Sound ∧ matrix.Kin revised ∧ ∀ held fleet,
        Does held fleet (revise matrix id changes) drone (.revise revised) := by
  obtain ⟨drone, present⟩ := Matrix.owns_iff.mp aboard
  by_cases relocates : changes.relocates
  · cases committed : matrix.commitPose id (changes.relocated drone.pose) with
    | error refusal =>
      refine .inl ⟨refusal, Matrix.commitPose_kind sound aboard committed, ?_⟩
      intro fleet
      simp only [revise, on_bind, on_record present, relocates, if_true, on_lift, committed]
    | ok moved =>
      obtain ⟨movedSound, kin⟩ := Matrix.commitPose_sound sound aboard committed
      obtain ⟨revised, last, renamed, revisedSound, kin', found⟩ :=
        renames movedSound ((kin.owns id).trans aboard) changes.name changes.model
      refine .inr ⟨last, revised, revisedSound, kin.trans kin', ?_⟩
      intro held fleet other _
      simp only [revise, on_bind, on_record present, relocates, if_true, on_lift, committed,
        on_store, renamed, on_record found, Fleet.store_store _ kin'.id, Deed.perform]
  · obtain ⟨revised, last, renamed, revisedSound, kin', found⟩ :=
      renames sound aboard changes.name changes.model
    refine .inr ⟨last, revised, revisedSound, kin', ?_⟩
    intro held fleet other _
    simp only [revise, on_bind, on_record present, relocates, Bool.false_eq_true, if_false, on_pure,
      on_store, on_lift, renamed, on_record found, Fleet.store_store _ kin'.id, Deed.perform]

/-- A drone that may stand where it is to go has left its source before it is placed, and nothing
on the target is in its way. -/
theorem transfer_result {source target : Matrix} (sound : source.Sound) (sound' : target.Sound)
    {id : Nat} (aboard : source.owns id = true) (absent : target.owns id = false)
    (changes : DroneChanges) :
    (∃ refusal, Refuses (transfer source target id changes) refusal) ∨
      ∃ drone left joined, left.id = source.id ∧ joined.id = target.id ∧ left.Sound ∧
        joined.Sound ∧
        (∀ other, left.owns other = (decide (other ≠ id) && source.owns other)) ∧
        (∀ other, joined.owns other = (decide (other = id) || target.owns other)) ∧
        ∀ held fleet,
          Does held fleet (transfer source target id changes) drone (.transfer left joined id) := by
  obtain ⟨drone, present⟩ := Matrix.owns_iff.mp aboard
  have name := (sound.named id drone present).1
  subst name
  cases checked : target.checkPlacement (changes.relocated drone.pose) none with
  | error refusal =>
    refine .inl ⟨refusal, Matrix.checkPlacement_kind checked, ?_⟩
    intro fleet
    simp only [transfer, on_bind, on_record present, on_lift, checked]
  | ok _ =>
    refine .inr ⟨⟨drone.id, changes.name.getD drone.name, changes.model.getD drone.model,
        changes.relocated drone.pose, target.id⟩, source.without drone,
      target.joined ⟨drone.id, changes.name.getD drone.name, changes.model.getD drone.model,
        changes.relocated drone.pose, target.id⟩, rfl, rfl, Matrix.without_sound sound present,
      Matrix.joined_sound sound' absent rfl checked, Matrix.without_owns source drone,
      Matrix.joined_owns target _, ?_⟩
    intro held fleet other _
    have placed := Matrix.joined_drone? target ⟨drone.id, changes.name.getD drone.name,
      changes.model.getD drone.model, changes.relocated drone.pose, target.id⟩ drone.id
    rw [if_pos rfl] at placed
    simp only [transfer, on_bind, on_record present, on_lift, checked, Matrix.remove?_eq sound,
      present, Option.map_some, on_store,
      Matrix.place_eq (changes.name.getD drone.name) (changes.model.getD drone.model)
        (changes.relocated drone.pose) absent, Except.map, on_record placed, Deed.perform]

theorem fly_result (grounded : Bool) (sound : matrix.Sound) {id : Nat}
    (aboard : matrix.owns id = true) (commands : List Command) :
    ∃ outcome flown, flown.Sound ∧ matrix.Kin flown ∧ ∀ fleet : Fleet,
      fleet.standing? matrix.id = some matrix →
        (fly grounded matrix id commands).on fleet = (.ok (outcome, flown), fleet.store flown) := by
  cases grounded with
  | true =>
    refine ⟨.notAttempted, matrix, sound, Matrix.Kin.refl matrix, ?_⟩
    intro fleet standing
    rw [Fleet.store_self standing]
    rfl
  | false =>
    obtain ⟨outcome, flown, ran, flownSound, kin⟩ := Matrix.run_ok sound aboard commands
    refine ⟨outcome, flown, flownSound, kin, ?_⟩
    intro fleet _
    simp only [fly, Bool.false_eq_true, if_false, on_bind, on_lift, ran, on_store, on_pure]

theorem flySingle_result (grounded : Bool) (sound : matrix.Sound) {id : Nat}
    (aboard : matrix.owns id = true) (commands : List Command) :
    ∃ report flown, flown.Sound ∧ matrix.Kin flown ∧ ∀ fleet : Fleet,
      fleet.standing? matrix.id = some matrix →
        (flySingle grounded matrix id commands).on fleet = (.ok report, fleet.store flown) := by
  obtain ⟨outcome, flown, flownSound, kin, flew⟩ := fly_result grounded sound aboard commands
  obtain ⟨drone, present⟩ := Matrix.owns_iff.mp ((kin.owns id).trans aboard)
  refine ⟨⟨outcome, drone⟩, flown, flownSound, kin, ?_⟩
  intro fleet standing
  simp only [flySingle, on_bind, flew fleet standing, on_record present, on_pure]

theorem flyPlan_result (grounded : Bool) (sound : matrix.Sound) {plan : Plan}
    (aboard : matrix.owns plan.droneId = true) :
    ∃ outcome flown, flown.Sound ∧ matrix.Kin flown ∧ ∀ fleet : Fleet,
      fleet.standing? matrix.id = some matrix →
        (flyPlan grounded matrix.id plan).on fleet = (.ok outcome, fleet.store flown) := by
  obtain ⟨outcome, flown, flownSound, kin, flew⟩ :=
    fly_result grounded sound aboard plan.commands
  refine ⟨⟨plan.droneId, outcome⟩, flown, flownSound, kin, ?_⟩
  intro fleet standing
  simp only [flyPlan, on_bind, on_stored standing, flew fleet standing, on_pure]

theorem on_report {id : Nat} (standing : fleet.standing? id = some matrix)
    (outcomes : List DroneOutcome) :
    (report id outcomes).on fleet = (.ok (.of outcomes matrix), fleet) := by
  simp only [report, on_bind, on_stored standing, on_pure]

end Work

end Handling

end DroneFleet
