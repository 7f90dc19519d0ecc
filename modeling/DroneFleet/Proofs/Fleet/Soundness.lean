import DroneFleet.Fleet.Basic
import DroneFleet.Proofs.Matrix.Soundness

/-!
What is true of a fleet. At any moment (`Fleet.Firm`): every matrix is sound and in its own slot, a
retired one is empty, no drone is in two slots, what is listed has a slot, and no number is above the
last one given out. Of the whole fleet while nobody is at work on it (`Fleet.Sound`), also that the list has exactly
the matrices that are not retired and the directory names exactly the slot that a drone is in.
-/
namespace DroneFleet

structure Slot.Sound (slot : Slot) (id : Nat) : Prop where
  number : slot.matrix.id = id
  matrix : slot.matrix.Sound
  vacated : slot.retired = true → ∀ drone, slot.matrix.owns drone = false

namespace Fleet

def Houses (fleet : Fleet) (id drone : Nat) : Prop :=
  ∃ slot, fleet.slots.get? id = some slot ∧ slot.matrix.owns drone = true

structure Firm (fleet : Fleet) : Prop where
  slots : ∀ id slot, fleet.slots.get? id = some slot → slot.Sound id
  single : ∀ first second drone, fleet.Houses first drone → fleet.Houses second drone →
    first = second
  numbered : ∀ id slot, fleet.slots.get? id = some slot → id ≤ fleet.lastMatrix
  enrolled : ∀ id drone, fleet.Houses id drone → drone ≤ fleet.lastDrone
  registered : ∀ drone id, fleet.owner? drone = some id → drone ≤ fleet.lastDrone
  shelved : ∀ id, fleet.listed.contains id = true → ∃ slot, fleet.slots.get? id = some slot

structure Sound (fleet : Fleet) : Prop extends Firm fleet where
  listing : ∀ id, fleet.listed.contains id = true ↔ ∃ matrix, fleet.standing? id = some matrix
  directory : ∀ drone id, fleet.owner? drone = some id ↔ fleet.Houses id drone

theorem empty_sound : empty.Sound where
  slots := by intro id slot found; simp [empty] at found
  single := by rintro first second drone ⟨slot, found, _⟩; simp [empty] at found
  numbered := by intro id slot found; simp [empty] at found
  enrolled := by rintro id drone ⟨slot, found, _⟩; simp [empty] at found
  registered := by intro drone id found; simp [empty, owner?] at found
  shelved := by intro id listed; simp [empty, Table.contains] at listed
  listing := by intro id; simp [empty, standing?, Table.contains]
  directory := by intro drone id; simp [empty, owner?, Houses]

theorem mem_roll {views : List MatrixView} {record : Drone} :
    record ∈ roll views ↔ ∃ view ∈ views, record ∈ view.drones :=
  List.mem_mergeSort.trans List.mem_flatMap

theorem roll_ordered (views : List MatrixView) : (roll views).Pairwise (·.id ≤ ·.id) := by
  have sorted : (roll views).Pairwise fun first second =>
      decide (first.id ≤ second.id) = true := by
    apply List.pairwise_mergeSort
    · intro first second third
      simpa using Nat.le_trans
    · intro first second
      simpa using Nat.le_total first.id second.id
  exact sorted.imp fun le => by simpa using le

theorem standing?_eq_some {fleet : Fleet} {id : Nat} {matrix : Matrix} :
    fleet.standing? id = some matrix ↔ fleet.slots.get? id = some ⟨matrix, false⟩ := by
  cases found : fleet.slots.get? id with
  | none => simp [standing?, found]
  | some slot =>
    obtain ⟨inside, retired⟩ := slot
    cases retired <;> simp [standing?, found]

theorem standing_houses {fleet : Fleet} {id drone : Nat} {matrix : Matrix}
    (standing : fleet.standing? id = some matrix) :
    fleet.Houses id drone ↔ matrix.owns drone = true := by
  simp [Houses, standing?_eq_some.mp standing]

theorem Firm.standing {fleet : Fleet} (firm : fleet.Firm) {id : Nat} {matrix : Matrix}
    (standing : fleet.standing? id = some matrix) : matrix.id = id ∧ matrix.Sound :=
  have sound := firm.slots id _ (standing?_eq_some.mp standing)
  ⟨sound.number, sound.matrix⟩

theorem Firm.standing_of_houses {fleet : Fleet} (firm : fleet.Firm) {id drone : Nat}
    (housed : fleet.Houses id drone) :
    ∃ matrix, fleet.standing? id = some matrix ∧ matrix.owns drone = true := by
  obtain ⟨slot, found, aboard⟩ := housed
  obtain ⟨matrix, retired⟩ := slot
  cases retired with
  | true => simp [(firm.slots id _ found).vacated rfl drone] at aboard
  | false => exact ⟨matrix, standing?_eq_some.mpr found, aboard⟩

theorem Sound.matrix? {fleet : Fleet} (sound : fleet.Sound) {id : Nat} {matrix : Matrix}
    (standing : fleet.standing? id = some matrix) : fleet.matrix? id = some matrix := by
  have listed := (sound.listing id).mpr ⟨matrix, standing⟩
  obtain ⟨_, found⟩ := Table.contains_iff.mp listed
  simp [Fleet.matrix?, found, standing]

theorem matrix?_eq_none {fleet : Fleet} {id : Nat} (unlisted : fleet.listed.contains id = false) :
    fleet.matrix? id = none := by
  cases found : fleet.listed.get? id with
  | none => simp [Fleet.matrix?, found]
  | some entry => simp [Table.contains, found] at unlisted

theorem standing_of_matrix? {fleet : Fleet} {id : Nat} {matrix : Matrix}
    (found : fleet.matrix? id = some matrix) : fleet.standing? id = some matrix := by
  cases listed : fleet.listed.get? id <;> simp [Fleet.matrix?, listed] at found
  exact found

theorem Sound.unlisted {fleet : Fleet} (sound : fleet.Sound) {id : Nat}
    (gone : fleet.standing? id = none) : fleet.listed.contains id = false := by
  cases listed : fleet.listed.contains id with
  | false => rfl
  | true =>
    obtain ⟨matrix, standing⟩ := (sound.listing id).mp listed
    rw [gone] at standing
    cases standing

theorem Sound.housed {fleet : Fleet} (sound : fleet.Sound) {drone id : Nat}
    (known : fleet.owner? drone = some id) : ∃ matrix, fleet.standing? matrix.id = some matrix ∧
      matrix.id = id ∧ matrix.owns drone = true := by
  obtain ⟨matrix, standing, aboard⟩ := sound.standing_of_houses ((sound.directory drone id).mp known)
  have name := (sound.standing standing).1
  exact ⟨matrix, name.symm ▸ standing, name, aboard⟩

/-! ### Writing one slot -/

theorem store_slots (fleet : Fleet) (matrix : Matrix) (id : Nat) :
    (fleet.store matrix).slots.get? id =
      if id = matrix.id then some ⟨matrix, false⟩ else fleet.slots.get? id :=
  Table.get?_insert _ _ _ _

theorem retire_slots (fleet : Fleet) (matrix : Matrix) (id : Nat) :
    (fleet.retire matrix).slots.get? id =
      if id = matrix.id then some ⟨matrix, true⟩ else fleet.slots.get? id :=
  Table.get?_insert _ _ _ _

theorem store_standing? (fleet : Fleet) (matrix : Matrix) (id : Nat) :
    (fleet.store matrix).standing? id =
      if id = matrix.id then some matrix else fleet.standing? id := by
  simp only [standing?, store_slots]
  split <;> rfl

theorem retire_standing? (fleet : Fleet) (matrix : Matrix) (id : Nat) :
    (fleet.retire matrix).standing? id = if id = matrix.id then none else fleet.standing? id := by
  simp only [standing?, retire_slots]
  split <;> rfl

theorem assign_owner? (fleet : Fleet) (drone other : Nat) (owner : Option Nat) :
    (fleet.assign drone owner).owner? other =
      if other = drone then owner else fleet.owner? other := by
  cases owner with
  | none => exact Table.get?_erase _ _ _
  | some id => exact Table.get?_insert _ _ _ _

@[simp] theorem assign_slots (fleet : Fleet) (drone : Nat) (owner : Option Nat) :
    (fleet.assign drone owner).slots = fleet.slots := by
  cases owner <;> rfl

@[simp] theorem assign_listed (fleet : Fleet) (drone : Nat) (owner : Option Nat) :
    (fleet.assign drone owner).listed = fleet.listed := by
  cases owner <;> rfl

@[simp] theorem assign_lastMatrix (fleet : Fleet) (drone : Nat) (owner : Option Nat) :
    (fleet.assign drone owner).lastMatrix = fleet.lastMatrix := by
  cases owner <;> rfl

@[simp] theorem assign_lastDrone (fleet : Fleet) (drone : Nat) (owner : Option Nat) :
    (fleet.assign drone owner).lastDrone = fleet.lastDrone := by
  cases owner <;> rfl

@[simp] theorem assign_standing? (fleet : Fleet) (drone : Nat) (owner : Option Nat) (id : Nat) :
    (fleet.assign drone owner).standing? id = fleet.standing? id := by
  simp only [standing?, assign_slots]

@[simp] theorem assign_houses (fleet : Fleet) (drone : Nat) (owner : Option Nat) (id other : Nat) :
    (fleet.assign drone owner).Houses id other ↔ fleet.Houses id other := by
  simp only [Houses, assign_slots]

theorem Firm.assign {fleet : Fleet} (firm : fleet.Firm) (drone : Nat) (owner : Option Nat)
    (below : ∀ id, owner = some id → drone ≤ fleet.lastDrone) :
    (fleet.assign drone owner).Firm := by
  refine ⟨?_, ?_, ?_, ?_, ?_, ?_⟩
  · simpa only [assign_slots] using firm.slots
  · simpa only [assign_houses] using firm.single
  · simpa only [assign_slots, assign_lastMatrix] using firm.numbered
  · simpa only [assign_houses, assign_lastDrone] using firm.enrolled
  · intro other id found
    rw [assign_lastDrone]
    rw [assign_owner?] at found
    split at found
    · rename_i same
      exact same ▸ below id found
    · exact firm.registered other id found
  · simpa only [assign_slots, assign_listed] using firm.shelved

theorem store_houses (fleet : Fleet) (matrix : Matrix) (id drone : Nat) :
    (fleet.store matrix).Houses id drone ↔
      if id = matrix.id then matrix.owns drone = true else fleet.Houses id drone := by
  simp only [Houses, store_slots]
  split <;> simp

/-- A slot may be written with a sound matrix, as long as the drones that come with it are nowhere
else. -/
theorem Firm.write {fleet after : Fleet} (firm : fleet.Firm) {id : Nat} {slot : Slot}
    (look : ∀ other, after.slots.get? other =
      if other = id then some slot else fleet.slots.get? other)
    (sound : slot.Sound id) (number : id ≤ after.lastMatrix)
    (matrices : fleet.lastMatrix ≤ after.lastMatrix) (drones : fleet.lastDrone ≤ after.lastDrone)
    (listed : ∀ other, after.listed.contains other = true →
      other = id ∨ fleet.listed.contains other = true)
    (owners : after.owners = fleet.owners)
    (aboard : ∀ drone, slot.matrix.owns drone = true →
      fleet.Houses id drone ∨ (∀ other, ¬ fleet.Houses other drone) ∧ drone ≤ after.lastDrone) :
    after.Firm := by
  have moved : ∀ other drone, after.Houses other drone → fleet.Houses other drone ∨
      other = id ∧ (∀ other, ¬ fleet.Houses other drone) ∧ drone ≤ after.lastDrone := by
    rintro other drone ⟨found, here, inside⟩
    rw [look] at here
    split at here
    · rename_i same
      cases here
      rcases aboard drone inside with old | new
      · exact .inl (same ▸ old)
      · exact .inr ⟨same, new⟩
    · exact .inl ⟨found, here, inside⟩
  refine ⟨?_, ?_, ?_, ?_, ?_, ?_⟩
  · intro other found here
    rw [look] at here
    split at here
    · rename_i same
      cases here
      exact same ▸ sound
    · exact firm.slots other found here
  · intro first second drone one two
    rcases moved first drone one with old | ⟨here, nowhere, _⟩ <;>
      rcases moved second drone two with old' | ⟨here', nowhere', _⟩
    · exact firm.single first second drone old old'
    · exact absurd old (nowhere' first)
    · exact absurd old' (nowhere second)
    · exact here.trans here'.symm
  · intro other found here
    rw [look] at here
    split at here
    · rename_i same
      exact same ▸ number
    · exact Nat.le_trans (firm.numbered other found here) matrices
  · intro other drone housed
    rcases moved other drone housed with old | ⟨_, _, below⟩
    · exact Nat.le_trans (firm.enrolled other drone old) drones
    · exact below
  · intro drone other found
    rw [owner?, owners] at found
    exact Nat.le_trans (firm.registered drone other found) drones
  · intro other inside
    rw [look]
    split
    · exact ⟨slot, rfl⟩
    · rename_i elsewhere
      rcases listed other inside with same | old
      · exact absurd same elsewhere
      · exact firm.shelved other old

theorem Firm.raise {fleet : Fleet} (firm : fleet.Firm) {matrices drones : Nat}
    (above : fleet.lastMatrix ≤ matrices) (above' : fleet.lastDrone ≤ drones) :
    Firm { fleet with lastMatrix := matrices, lastDrone := drones } where
  slots := firm.slots
  single := firm.single
  numbered id slot found := Nat.le_trans (firm.numbered id slot found) above
  enrolled id drone housed := Nat.le_trans (firm.enrolled id drone housed) above'
  registered drone id found := Nat.le_trans (firm.registered drone id found) above'
  shelved := firm.shelved

theorem Firm.store {fleet : Fleet} (firm : fleet.Firm) {matrix before : Matrix}
    (standing : fleet.standing? matrix.id = some before) (sound : matrix.Sound)
    (aboard : ∀ drone, matrix.owns drone = true →
      before.owns drone = true ∨ (∀ id, ¬ fleet.Houses id drone) ∧ drone ≤ fleet.lastDrone) :
    (fleet.store matrix).Firm := by
  apply firm.write (store_slots fleet matrix) ⟨rfl, sound, by simp⟩
    (firm.numbered _ _ (standing?_eq_some.mp standing)) (Nat.le_refl _) (Nat.le_refl _)
    (fun _ => .inr) rfl
  intro drone inside
  exact (aboard drone inside).imp_left (standing_houses standing).mpr

theorem Firm.retire {fleet : Fleet} (firm : fleet.Firm) {matrix : Matrix}
    (standing : fleet.standing? matrix.id = some matrix)
    (deserted : ∀ drone, matrix.owns drone = false) : (fleet.retire matrix).Firm := by
  apply firm.write (retire_slots fleet matrix)
    ⟨rfl, (firm.standing standing).2, fun _ => deserted⟩
    (firm.numbered _ _ (standing?_eq_some.mp standing)) (Nat.le_refl _) (Nat.le_refl _)
    (fun _ => .inr) rfl
  intro drone inside
  simp [deserted drone] at inside

theorem Firm.withdraw {fleet : Fleet} (firm : fleet.Firm) (id : Nat) : (fleet.withdraw id).Firm where
  slots := firm.slots
  single := firm.single
  numbered := firm.numbered
  enrolled := firm.enrolled
  registered := firm.registered
  shelved other listed := by
    have fewer : (fleet.withdraw id).listed = fleet.listed.erase id := rfl
    rw [fewer, Table.contains_erase, Bool.and_eq_true] at listed
    exact firm.shelved other listed.2

theorem Firm.publish {fleet : Fleet} (firm : fleet.Firm) {id : Nat} (bounds : Bounds)
    (below : id ≤ fleet.lastMatrix) : (fleet.publish (.new id bounds)).Firm := by
  have look : ∀ other, (fleet.publish (.new id bounds)).slots.get? other =
      if other = id then some ⟨.new id bounds, false⟩ else fleet.slots.get? other :=
    fun other => store_slots fleet (.new id bounds) other
  apply firm.write look ⟨rfl, Matrix.new_sound id bounds, by simp⟩ below (Nat.le_refl _)
    (Nat.le_refl _)
  · intro other inside
    have added : (fleet.publish (.new id bounds)).listed = fleet.listed.insert id () := rfl
    rw [added, Table.contains_insert, Bool.or_eq_true, decide_eq_true_eq] at inside
    exact inside
  · rfl
  · intro drone inside
    simp [Matrix.new_owns] at inside

end Fleet

end DroneFleet
