import DroneFleet.Proofs.Fleet.Stages

/-!
A fleet line by line: its slots, its list and its directory. An entry and a deed write a few lines
and leave the others as they are, and a stage reads only the lines of the matrices and of the drone
that it is at work on (`Stage.Fits.frame`).
-/
namespace DroneFleet

inductive Line where
  | slot (id : Nat)
  | listing (id : Nat)
  | owner (drone : Nat)

def Line.Same (fleet other : Fleet) : Line → Prop
  | slot id => other.slots.get? id = fleet.slots.get? id
  | listing id => other.listed.get? id = fleet.listed.get? id
  | owner drone => other.owner? drone = fleet.owner? drone

namespace Line.Same

variable {first second third : Fleet} {line : Line}

theorem refl (fleet : Fleet) (line : Line) : line.Same fleet fleet := by
  cases line <;> rfl

theorem symm (same : line.Same first second) : line.Same second first := by
  cases line <;> exact Eq.symm same

theorem trans (left : line.Same first second) (right : line.Same second third) :
    line.Same first third := by
  cases line <;> exact Eq.trans right left

end Line.Same

theorem Fleet.ext_lines {fleet other : Fleet} (same : ∀ line : Line, line.Same fleet other)
    (lastMatrix : other.lastMatrix = fleet.lastMatrix) (lastDrone : other.lastDrone = fleet.lastDrone) :
    other = fleet := by
  have slots : other.slots = fleet.slots := Table.ext_get? fun id => same (.slot id)
  have listed : other.listed = fleet.listed := Table.ext_get? fun id => same (.listing id)
  have owners : other.owners = fleet.owners := Table.ext_get? fun drone => same (.owner drone)
  cases other
  cases fleet
  simp_all

theorem Fleet.standing?_congr {fleet other : Fleet} {id : Nat}
    (same : Line.Same fleet other (.slot id)) : other.standing? id = fleet.standing? id := by
  have slots : other.slots.get? id = fleet.slots.get? id := same
  simp only [standing?, slots]

theorem Fleet.houses_congr {fleet other : Fleet} {id : Nat}
    (same : Line.Same fleet other (.slot id)) (drone : Nat) :
    other.Houses id drone ↔ fleet.Houses id drone := by
  have slots : other.slots.get? id = fleet.slots.get? id := same
  simp only [Houses, slots]

namespace Entry

def Writes (line : Line) : Entry → Prop
  | publish matrix => line = .slot matrix.id ∨ line = .listing matrix.id
  | assign drone _ => line = .owner drone
  | withdraw id => line = .listing id

theorem write_other {entry : Entry} {line : Line} (apart : ¬ entry.Writes line) (fleet : Fleet) :
    line.Same fleet (entry.write fleet) := by
  cases entry with
  | publish matrix =>
    cases line with
    | slot id =>
      have different : id ≠ matrix.id := fun same => apart (.inl (same ▸ rfl))
      exact (Fleet.store_slots fleet matrix id).trans (if_neg different)
    | listing id =>
      have different : id ≠ matrix.id := fun same => apart (.inr (same ▸ rfl))
      exact (Table.get?_insert fleet.listed matrix.id id ()).trans (if_neg different)
    | owner drone => rfl
  | assign drone owner =>
    cases line with
    | slot id => rw [Line.Same, write, Fleet.assign_slots]
    | listing id => rw [Line.Same, write, Fleet.assign_listed]
    | owner other =>
      have different : other ≠ drone := fun same => apart (same ▸ rfl)
      exact (Fleet.assign_owner? fleet drone other owner).trans (if_neg different)
  | withdraw id =>
    cases line with
    | slot other => rfl
    | listing other =>
      have different : other ≠ id := fun same => apart (same ▸ rfl)
      exact (Table.get?_erase fleet.listed id other).trans (if_neg different)
    | owner drone => rfl

theorem write_over {entry : Entry} {line : Line} (written : entry.Writes line)
    (fleet other : Fleet) : line.Same (entry.write fleet) (entry.write other) := by
  cases entry with
  | publish matrix =>
    rcases written with rfl | rfl
    · show (other.store matrix).slots.get? _ = (fleet.store matrix).slots.get? _
      rw [Fleet.store_slots, Fleet.store_slots, if_pos rfl, if_pos rfl]
    · show (other.listed.insert _ _).get? _ = (fleet.listed.insert _ _).get? _
      rw [Table.get?_insert, Table.get?_insert, if_pos rfl, if_pos rfl]
  | assign drone owner =>
    cases written
    rw [Line.Same, write, write, Fleet.assign_owner?, Fleet.assign_owner?, if_pos rfl, if_pos rfl]
  | withdraw id =>
    cases written
    show (other.listed.erase _).get? _ = (fleet.listed.erase _).get? _
    rw [Table.get?_erase, Table.get?_erase, if_pos rfl, if_pos rfl]

@[simp] theorem write_lastMatrix (entry : Entry) (fleet : Fleet) :
    (entry.write fleet).lastMatrix = fleet.lastMatrix := by
  cases entry with
  | assign drone owner => exact Fleet.assign_lastMatrix _ _ _
  | _ => rfl

@[simp] theorem write_lastDrone (entry : Entry) (fleet : Fleet) :
    (entry.write fleet).lastDrone = fleet.lastDrone := by
  cases entry with
  | assign drone owner => exact Fleet.assign_lastDrone _ _ _
  | _ => rfl

end Entry

namespace Deed

def slots : Deed → List Nat
  | found _ => []
  | revise matrix => [matrix.id]
  | enroll matrix _ => [matrix.id]
  | transfer left joined _ => [left.id, joined.id]
  | discharge left _ => [left.id]
  | retire matrix => [matrix.id]

theorem Apt.slots {held : List Nat} {fleet : Fleet} {deed : Deed} (apt : deed.Apt held fleet) :
    ∀ id ∈ deed.slots, id ∈ held ∧ ∃ matrix, fleet.standing? id = some matrix := by
  intro id member
  cases deed with
  | found matrix => cases member
  | revise matrix =>
    obtain ⟨inside, _, before, standing, _⟩ := apt
    cases List.mem_singleton.mp member
    exact ⟨inside, before, standing⟩
  | enroll matrix drone =>
    obtain ⟨inside, _, _, before, standing, _⟩ := apt
    cases List.mem_singleton.mp member
    exact ⟨inside, before, standing⟩
  | transfer left joined drone =>
    obtain ⟨inside, inside', _, _, _, source, target, standing, standing', _⟩ := apt
    simp only [Deed.slots, List.mem_cons, List.not_mem_nil, or_false] at member
    rcases member with rfl | rfl
    · exact ⟨inside, source, standing⟩
    · exact ⟨inside', target, standing'⟩
  | discharge left drone =>
    obtain ⟨inside, _, before, standing, _⟩ := apt
    cases List.mem_singleton.mp member
    exact ⟨inside, before, standing⟩
  | retire matrix =>
    obtain ⟨inside, standing, _⟩ := apt
    cases List.mem_singleton.mp member
    exact ⟨inside, matrix, standing⟩

theorem perform_listed (deed : Deed) (fleet : Fleet) : (deed.perform fleet).listed = fleet.listed := by
  cases deed <;> rfl

theorem perform_owner? (deed : Deed) (fleet : Fleet) (drone : Nat) :
    (deed.perform fleet).owner? drone = fleet.owner? drone := by
  cases deed <;> rfl

theorem perform_other {deed : Deed} {line : Line} (apart : ∀ id ∈ deed.slots, line ≠ .slot id)
    (fleet : Fleet) : line.Same fleet (deed.perform fleet) := by
  cases line with
  | slot id =>
    have different : ∀ other ∈ deed.slots, id ≠ other :=
      fun other member same => apart other member (same ▸ rfl)
    cases deed with
    | found matrix => rfl
    | revise matrix =>
      exact (Fleet.store_slots fleet matrix id).trans (if_neg (different _ List.mem_cons_self))
    | enroll matrix drone =>
      exact (Fleet.store_slots _ matrix id).trans (if_neg (different _ List.mem_cons_self))
    | transfer left joined drone =>
      rw [Line.Same, perform, Fleet.store_slots, Fleet.store_slots,
        if_neg (different _ (List.mem_cons_of_mem _ List.mem_cons_self)),
        if_neg (different _ List.mem_cons_self)]
    | discharge left drone =>
      exact (Fleet.store_slots fleet left id).trans (if_neg (different _ List.mem_cons_self))
    | retire matrix =>
      exact (Fleet.retire_slots fleet matrix id).trans (if_neg (different _ List.mem_cons_self))
  | listing id => rw [Line.Same, perform_listed]
  | owner drone => exact perform_owner? deed fleet drone

theorem perform_same (deed : Deed) {fleet other : Fleet} {line : Line}
    (same : line.Same fleet other) : line.Same (deed.perform fleet) (deed.perform other) := by
  cases line with
  | slot id =>
    have slots : other.slots.get? id = fleet.slots.get? id := same
    cases deed <;>
      simp only [Line.Same, perform, Fleet.store_slots, Fleet.retire_slots, slots]
  | listing id => cases deed <;> exact same
  | owner drone => cases deed <;> exact same

theorem perform_lastMatrix (deed : Deed) {fleet other : Fleet}
    (same : other.lastMatrix = fleet.lastMatrix) :
    (deed.perform other).lastMatrix = (deed.perform fleet).lastMatrix := by
  cases deed <;> first | exact same | rfl

theorem perform_lastDrone (deed : Deed) {fleet other : Fleet}
    (same : other.lastDrone = fleet.lastDrone) :
    (deed.perform other).lastDrone = (deed.perform fleet).lastDrone := by
  cases deed <;> first | exact same | rfl

theorem Apt.lastMatrix_le {held : List Nat} {fleet : Fleet} {deed : Deed}
    (apt : deed.Apt held fleet) : fleet.lastMatrix ≤ (deed.perform fleet).lastMatrix := by
  cases deed with
  | found matrix =>
    obtain ⟨bounds, rfl⟩ := apt
    exact Nat.le_succ _
  | _ => exact Nat.le_refl _

theorem perform_built {deed : Deed} {fleet : Fleet} {id : Nat} (built : fleet.Built id) :
    (deed.perform fleet).Built id := by
  have stored : ∀ (fleet : Fleet) (matrix : Matrix), fleet.Built id →
      (fleet.store matrix).Built id := by
    rintro fleet matrix ⟨slot, found⟩
    rw [Fleet.Built, Fleet.store_slots]
    split
    · exact ⟨_, rfl⟩
    · exact ⟨slot, found⟩
  cases deed with
  | found matrix => exact built
  | revise matrix => exact stored fleet matrix built
  | enroll matrix drone => exact stored _ matrix built
  | transfer left joined drone => exact stored _ joined (stored fleet left built)
  | discharge left drone => exact stored fleet left built
  | retire matrix =>
    rw [perform, Fleet.Built, Fleet.retire_slots]
    split
    · exact ⟨_, rfl⟩
    · exact built

theorem complete_eq_perform {deed : Deed} (nothing : deed.entry = none) (fleet : Fleet) :
    deed.complete fleet = deed.perform fleet := by
  rw [complete, nothing]
  rfl

theorem complete_eq_write {deed : Deed} {own : Entry} (entry : deed.entry = some own)
    (fleet : Fleet) : deed.complete fleet = own.write (deed.perform fleet) := by
  rw [complete, entry]
  rfl

theorem complete_other {deed : Deed} {line : Line}
    (apart : ∀ own, deed.entry = some own → ¬ own.Writes line) (fleet : Fleet) :
    line.Same (deed.perform fleet) (deed.complete fleet) := by
  cases entry : deed.entry with
  | none =>
    rw [complete_eq_perform entry]
    exact .refl _ line
  | some own =>
    rw [complete_eq_write entry]
    exact own.write_other (apart own entry) _

theorem complete_same (deed : Deed) {fleet other : Fleet} {line : Line}
    (same : line.Same fleet other) : line.Same (deed.complete fleet) (deed.complete other) := by
  have performed := deed.perform_same same
  cases entry : deed.entry with
  | none => rwa [complete_eq_perform entry, complete_eq_perform entry]
  | some own =>
    rw [complete_eq_write entry, complete_eq_write entry]
    by_cases writes : own.Writes line
    · exact own.write_over writes _ _
    · exact ((own.write_other writes _).symm.trans performed).trans (own.write_other writes _)

theorem completed_lastMatrix (deed : Deed) (fleet : Fleet) :
    (deed.complete fleet).lastMatrix = (deed.perform fleet).lastMatrix := by
  cases entry : deed.entry with
  | none => rw [complete_eq_perform entry]
  | some own => rw [complete_eq_write entry, Entry.write_lastMatrix]

theorem completed_lastDrone (deed : Deed) (fleet : Fleet) :
    (deed.complete fleet).lastDrone = (deed.perform fleet).lastDrone := by
  cases entry : deed.entry with
  | none => rw [complete_eq_perform entry]
  | some own => rw [complete_eq_write entry, Entry.write_lastDrone]

theorem complete_lastMatrix (deed : Deed) {fleet other : Fleet}
    (same : other.lastMatrix = fleet.lastMatrix) :
    (deed.complete other).lastMatrix = (deed.complete fleet).lastMatrix := by
  rw [completed_lastMatrix, completed_lastMatrix, deed.perform_lastMatrix same]

theorem complete_lastDrone (deed : Deed) {fleet other : Fleet}
    (same : other.lastDrone = fleet.lastDrone) :
    (deed.complete other).lastDrone = (deed.complete fleet).lastDrone := by
  rw [completed_lastDrone, completed_lastDrone, deed.perform_lastDrone same]

end Deed

theorem Entry.write_built {entry : Entry} {fleet : Fleet} {id : Nat} (built : fleet.Built id) :
    (entry.write fleet).Built id := by
  cases entry with
  | publish matrix =>
    have look : (Entry.write (.publish matrix) fleet).slots.get? id =
        if id = matrix.id then some ⟨matrix, false⟩ else fleet.slots.get? id :=
      Fleet.store_slots fleet matrix id
    rw [Fleet.Built, look]
    split
    · exact ⟨_, rfl⟩
    · exact built
  | assign drone owner => rw [write, Fleet.Built, Fleet.assign_slots]; exact built
  | withdraw id => exact built

theorem Purpose.Fits.frame {fleet other : Fleet} {id : Nat} {purpose : Purpose}
    (fits : purpose.Fits fleet id) (built : ∀ id, fleet.Built id → other.Built id)
    (slots : ∀ id ∈ purpose.held, Line.Same fleet other (.slot id)) : purpose.Fits other id := by
  cases purpose with
  | survey listing ahead seen => exact fun id member => built id (fits id member)
  | target drone source changes =>
    obtain ⟨below, matrix, standing, aboard⟩ := fits
    have same := Fleet.standing?_congr (slots source (List.mem_singleton_self _))
    exact ⟨below, matrix, same.trans standing, aboard⟩
  | sourceAgain drone target changes =>
    obtain ⟨below, matrix, standing⟩ := fits
    have same := Fleet.standing?_congr (slots target (List.mem_singleton_self _))
    exact ⟨below, matrix, same.trans standing⟩
  | _ => exact fits

/-- What a stage takes for granted lasts while others write lines that are not its own. -/
theorem Stage.Fits.frame {fleet other : Fleet} {stage : Stage} (fits : stage.Fits fleet)
    (built : ∀ id, fleet.Built id → other.Built id)
    (slots : ∀ id ∈ stage.reserves, Line.Same fleet other (.slot id))
    (owners : ∀ drone owner, stage.pending? = some (.assign drone owner) →
      Line.Same fleet other (.owner drone)) : stage.Fits other := by
  induction stage with
  | publish matrix =>
    have same : other.slots.get? matrix.id = fleet.slots.get? matrix.id :=
      slots matrix.id (List.mem_singleton_self _)
    exact ⟨same.trans fits.1, fits.2⟩
  | seek id purpose => exact Purpose.Fits.frame fits built slots
  | enter id purpose => exact ⟨built id fits.1, Purpose.Fits.frame fits.2 built slots⟩
  | inside id purpose =>
    exact Purpose.Fits.frame fits built fun id member => slots id (List.mem_cons_of_mem _ member)
  | record drone owner next ih =>
    obtain ⟨plain, nextFits, named, known⟩ := fits
    have same : other.owner? drone = fleet.owner? drone := owners drone owner rfl
    refine ⟨plain, ih nextFits ?_ ?_, same ▸ named, ?_⟩
    · rw [reserves_eq_holds plain]
      exact slots
    · rw [plain]
      intro _ _ none
      cases none
    · intro id owned
      obtain ⟨held, matrix, standing⟩ := known id (same ▸ owned)
      exact ⟨held, matrix, (Fleet.standing?_congr (slots id held)).trans standing⟩
  | withdraw id next ih =>
    obtain ⟨plain, nextFits, held⟩ := fits
    refine ⟨plain, ih nextFits ?_ ?_, held⟩
    · rw [reserves_eq_holds plain]
      exact slots
    · rw [plain]
      intro _ _ none
      cases none
  | leave id next ih =>
    obtain ⟨plain, nextFits, released⟩ := fits
    refine ⟨plain, ih nextFits ?_ ?_, released⟩
    · rw [reserves_eq_holds plain]
      exact fun id member => slots id (List.mem_cons_of_mem _ member)
    · rw [plain]
      intro _ _ none
      cases none
  | flying id outcomes ahead =>
    obtain ⟨matrix, standing, aboard⟩ := fits
    have same := Fleet.standing?_congr (slots id (List.mem_singleton_self _))
    exact ⟨matrix, same.trans standing, aboard⟩
  | _ => exact trivial

end DroneFleet
