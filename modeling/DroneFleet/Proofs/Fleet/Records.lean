import DroneFleet.Proofs.Fleet.Serving

/-!
The record of a drone, wherever in the fleet it is. On a sound fleet a drone has a record just if some
matrix has the drone, and the record names that matrix (`Sound.houses_iff`). What one write does to the
records is said here once.
-/
namespace DroneFleet.Fleet

def drone? (fleet : Fleet) (id : Nat) : Option Drone :=
  (fleet.owner? id).bind fun home => (fleet.matrix? home).bind (·.drone? id)

variable {fleet : Fleet} {matrix before : Matrix} {drone : Drone} {id : Nat}

theorem Sound.matrix?_eq (sound : fleet.Sound) (home : Nat) :
    fleet.matrix? home = fleet.standing? home := by
  cases standing : fleet.standing? home with
  | some matrix => exact sound.matrix? standing
  | none => exact matrix?_eq_none (sound.unlisted standing)

theorem drone?_of_owned (owned : fleet.owner? id = some matrix.id)
    (found : fleet.matrix? matrix.id = some matrix) : fleet.drone? id = matrix.drone? id := by
  rw [drone?, owned, Option.bind_some, found, Option.bind_some]

theorem Sound.owned (sound : fleet.Sound) (standing : fleet.standing? matrix.id = some matrix)
    (aboard : matrix.owns id = true) : fleet.owner? id = some matrix.id :=
  (sound.directory id matrix.id).mpr ((standing_houses standing).mpr aboard)

theorem Sound.drone?_eq (sound : fleet.Sound) (standing : fleet.standing? matrix.id = some matrix)
    (aboard : matrix.owns id = true) : fleet.drone? id = matrix.drone? id :=
  drone?_of_owned (sound.owned standing aboard) (sound.matrix? standing)

theorem Sound.recorded (sound : fleet.Sound) (standing : fleet.standing? matrix.id = some matrix)
    (present : matrix.drone? id = some drone) : fleet.drone? id = some drone :=
  (sound.drone?_eq standing (Matrix.owns_iff.mpr ⟨drone, present⟩)).trans present

theorem Sound.aboard (sound : fleet.Sound) (known : fleet.drone? id = some drone) :
    drone.id = id ∧ ∃ matrix, fleet.standing? matrix.id = some matrix ∧
      matrix.drone? id = some drone ∧ drone.matrixId = matrix.id := by
  obtain ⟨home, owned, inside⟩ := Option.bind_eq_some_iff.mp known
  obtain ⟨matrix, found, present⟩ := Option.bind_eq_some_iff.mp inside
  obtain ⟨number, matrixSound⟩ := sound.standing (standing_of_matrix? found)
  obtain ⟨name, there⟩ := matrixSound.named id drone present
  exact ⟨name, matrix, number ▸ standing_of_matrix? found, present, there⟩

theorem Sound.houses_iff (sound : fleet.Sound) {home : Nat} :
    fleet.Houses home id ↔ ∃ drone, fleet.drone? id = some drone ∧ drone.matrixId = home := by
  constructor
  · intro housed
    obtain ⟨matrix, standing, owned⟩ := sound.standing_of_houses housed
    obtain ⟨number, matrixSound⟩ := sound.standing standing
    obtain ⟨drone, present⟩ := Matrix.owns_iff.mp owned
    have known := sound.recorded (number.symm ▸ standing) present
    exact ⟨drone, known, (matrixSound.named id drone present).2.trans number⟩
  · rintro ⟨drone, known, rfl⟩
    obtain ⟨_, matrix, standing, present, there⟩ := sound.aboard known
    exact there ▸ (standing_houses standing).mpr (Matrix.owns_iff.mpr ⟨drone, present⟩)

theorem Sound.unrecorded (sound : fleet.Sound) :
    fleet.drone? id = none ↔ ∀ home, ¬ fleet.Houses home id := by
  simp only [sound.houses_iff, Option.eq_none_iff_forall_ne_some]
  constructor
  · rintro nobody home ⟨drone, known, _⟩
    exact nobody drone known
  · exact fun nowhere drone known => nowhere drone.matrixId ⟨drone, known, rfl⟩

theorem Sound.apart (sound : fleet.Sound) {one other : Drone}
    (known : fleet.drone? one.id = some one) (known' : fleet.drone? other.id = some other)
    (home : other.matrixId = one.matrixId) (place : other.pose.cell = one.pose.cell) :
    other = one := by
  obtain ⟨_, matrix, standing, present, there⟩ := sound.aboard known
  obtain ⟨_, second, standing', present', there'⟩ := sound.aboard known'
  have same : second.id = matrix.id := (there'.symm.trans home).trans there
  rw [same, standing] at standing'
  obtain rfl := Option.some.inj standing'
  have number := (sound.standing standing).2.apart present' present place
  rw [number, present] at present'
  exact (Option.some.inj present').symm

/-! ### Single writes -/

theorem listed_of_matrix? (found : fleet.matrix? id = some matrix) :
    fleet.listed.get? id = some () := by
  obtain ⟨_, listed, _⟩ := Option.bind_eq_some_iff.mp found
  exact listed

/-- Writing a matrix in place of one that can be found changes what is found there, and nothing else. -/
theorem store_matrix? (found : fleet.matrix? before.id = some before) (same : matrix.id = before.id)
    (home : Nat) : (fleet.store matrix).matrix? home =
      if home = before.id then some matrix else fleet.matrix? home := by
  have listed : (fleet.store matrix).listed = fleet.listed := rfl
  rw [matrix?, listed, store_standing?, same]
  split
  · rename_i here
    rw [here, listed_of_matrix? found, Option.bind_some]
  · rfl

@[simp] theorem assign_matrix? (fleet : Fleet) (drone : Nat) (owner : Option Nat) (home : Nat) :
    (fleet.assign drone owner).matrix? home = fleet.matrix? home := by
  simp only [matrix?, assign_listed, assign_standing?]

@[simp] theorem store_owner? (fleet : Fleet) (matrix : Matrix) (id : Nat) :
    (fleet.store matrix).owner? id = fleet.owner? id := rfl

theorem store_drone? (found : fleet.matrix? before.id = some before) (same : matrix.id = before.id)
    (id : Nat) : (fleet.store matrix).drone? id =
      if fleet.owner? id = some before.id then matrix.drone? id else fleet.drone? id := by
  simp only [drone?, store_owner?, store_matrix? found same]
  cases fleet.owner? id with
  | none => rfl
  | some home =>
    simp only [Option.bind_some, Option.some.injEq]
    split <;> rfl

theorem Sound.stored_drone? (sound : fleet.Sound) (standing : fleet.standing? before.id = some before)
    (same : matrix.id = before.id) (aboard : before.owns id = true) :
    (fleet.store matrix).drone? id = matrix.drone? id := by
  rw [store_drone? (sound.matrix? standing) same, if_pos (sound.owned standing aboard)]

theorem store_keeps (found : fleet.matrix? before.id = some before) (same : matrix.id = before.id)
    (kept : matrix.drone? id = before.drone? id) :
    (fleet.store matrix).drone? id = fleet.drone? id := by
  rw [store_drone? found same]
  split
  · rename_i owned
    rw [kept, drone?_of_owned owned found]
  · rfl

theorem assign_drone? (fleet : Fleet) (drone : Nat) (owner : Option Nat) (id : Nat) :
    (fleet.assign drone owner).drone? id =
      if id = drone then owner.bind fun home => (fleet.matrix? home).bind (·.drone? id)
      else fleet.drone? id := by
  simp only [drone?, assign_owner?, assign_matrix?]
  split <;> rfl

end DroneFleet.Fleet
