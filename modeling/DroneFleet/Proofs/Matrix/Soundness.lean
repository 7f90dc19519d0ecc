import DroneFleet.Matrix

/-!
What is true of every matrix that operations have built up from an empty one: the drones are stored
under their own numbers, stand inside the bounds, and the index from cells to drones is exactly the
inverse of their positions. Each operation that succeeds keeps this, and what it does to the drones
on the matrix is said once here.
-/
namespace DroneFleet.Matrix

/-- Drones under their own numbers, owned by the matrix and inside its bounds, with an exact index.
A cell has one entry in the index, so no two drones share a cell (`Sound.apart`). -/
structure Sound (matrix : Matrix) : Prop where
  named : ∀ id drone, matrix.drone? id = some drone → drone.id = id ∧ drone.matrixId = matrix.id
  inside : ∀ id drone, matrix.drone? id = some drone →
    matrix.bounds.contains drone.pose.cell = true
  indexed : ∀ cell id, matrix.cells.get? cell = some id ↔
    ∃ drone, matrix.drone? id = some drone ∧ drone.pose.cell = cell

theorem Sound.seated {matrix : Matrix} (sound : matrix.Sound) {id : Nat} {drone : Drone}
    (present : matrix.drone? id = some drone) : matrix.cells.get? drone.pose.cell = some id :=
  (sound.indexed _ id).mpr ⟨drone, present, rfl⟩

theorem Sound.apart {matrix : Matrix} (sound : matrix.Sound) {first second : Nat}
    {one other : Drone} (found : matrix.drone? first = some one)
    (found' : matrix.drone? second = some other) (same : one.pose.cell = other.pose.cell) :
    first = second := by
  have here := (sound.indexed _ first).mpr ⟨one, found, same⟩
  exact Option.some.inj (here.symm.trans (sound.seated found'))

theorem Sound.mem_view {matrix : Matrix} (sound : matrix.Sound) {record : Drone} :
    record ∈ matrix.view.drones ↔ matrix.drone? record.id = some record := by
  refine Table.mem_values.trans ⟨fun ⟨id, present⟩ => ?_, fun present => ⟨record.id, present⟩⟩
  obtain ⟨rfl, _⟩ := sound.named id record present
  exact present

theorem Sound.view_ascending {matrix : Matrix} (sound : matrix.Sound) :
    matrix.view.drones.Pairwise (·.id < ·.id) := by
  refine List.pairwise_map.mpr (matrix.drones.sorted.imp_of_mem ?_)
  intro first second member member' less
  have key := (sound.named _ _ (Table.mem_entries.mp member)).1
  have key' := (sound.named _ _ (Table.mem_entries.mp member')).1
  rw [key, key']
  exact Nat.compare_eq_lt.mp less

theorem owns_iff {matrix : Matrix} {id : Nat} :
    matrix.owns id = true ↔ ∃ drone, matrix.drone? id = some drone :=
  Table.contains_iff

theorem owns_eq_false_iff {matrix : Matrix} {id : Nat} :
    matrix.owns id = false ↔ matrix.drone? id = none := by
  simp [owns, Table.contains, drone?]

structure Kin (before after : Matrix) : Prop where
  id : after.id = before.id
  owns : ∀ drone, after.owns drone = before.owns drone

theorem Kin.refl (matrix : Matrix) : Kin matrix matrix := ⟨rfl, fun _ => rfl⟩

theorem Kin.trans {first second third : Matrix} (left : Kin first second)
    (right : Kin second third) : Kin first third :=
  ⟨right.id.trans left.id, fun drone => (right.owns drone).trans (left.owns drone)⟩

theorem Kin.symm {first second : Matrix} (kin : Kin first second) : Kin second first :=
  ⟨kin.id.symm, fun drone => (kin.owns drone).symm⟩

theorem new_sound (id : Nat) (bounds : Bounds) : (new id bounds).Sound where
  named := by intro id drone found; simp [new, drone?] at found
  inside := by intro id drone found; simp [new, drone?] at found
  indexed := by intro cell id; simp [new, drone?]

@[simp] theorem new_owns (id : Nat) (bounds : Bounds) (drone : Nat) : (new id bounds).owns drone = false :=
  rfl

/-! ### Checking a place -/

theorem check_eq_ok {bounds : Bounds} {cell : Cell} :
    bounds.check cell = .ok () ↔ bounds.contains cell = true := by
  by_cases within : bounds.contains cell <;> simp [Bounds.check, within]

theorem occupant?_eq_none_iff {matrix : Matrix} {cell : Cell} {ignoring : Option Nat} :
    matrix.occupant? cell ignoring = none ↔
      ∀ occupant, matrix.cells.get? cell = some occupant → some occupant = ignoring := by
  simp [occupant?, Option.filter_eq_none_iff]

theorem checkPlacement_eq_ok {matrix : Matrix} {pose : Pose} {ignoring : Option Nat} :
    matrix.checkPlacement pose ignoring = .ok () ↔
      matrix.bounds.contains pose.cell = true ∧
        ∀ occupant, matrix.cells.get? pose.cell = some occupant → some occupant = ignoring := by
  rw [← occupant?_eq_none_iff]
  by_cases within : matrix.bounds.contains pose.cell
  · cases standing : matrix.occupant? pose.cell ignoring <;>
      simp [checkPlacement, Bounds.check, within, standing, bind, Except.bind]
  · simp [checkPlacement, Bounds.check, within, bind, Except.bind]

theorem check_kind {bounds : Bounds} {cell : Cell} {refusal : Refusal}
    (failed : bounds.check cell = .error refusal) : refusal.kind = .invalidPlacement := by
  simp only [Bounds.check] at failed
  split at failed <;> cases failed
  rfl

theorem checkPlacement_kind {matrix : Matrix} {pose : Pose} {ignoring : Option Nat}
    {refusal : Refusal} (failed : matrix.checkPlacement pose ignoring = .error refusal) :
    refusal.kind ≠ .unknownDrone := by
  simp only [checkPlacement, bind, Except.bind] at failed
  cases checked : matrix.bounds.check pose.cell with
  | error other =>
    rw [checked] at failed
    cases failed
    simp [check_kind checked]
  | ok _ =>
    rw [checked] at failed
    cases standing : matrix.occupant? pose.cell ignoring with
    | none => simp [standing] at failed
    | some occupant =>
      simp only [standing] at failed
      cases failed
      simp [Refusal.kind]

/-! ### One operation each -/

def joined (matrix : Matrix) (drone : Drone) : Matrix :=
  { matrix with
    drones := matrix.drones.insert drone.id drone
    cells := matrix.cells.insert drone.pose.cell drone.id }

def without (matrix : Matrix) (drone : Drone) : Matrix :=
  { matrix with
    drones := matrix.drones.erase drone.id
    cells := matrix.cells.erase drone.pose.cell }

theorem place_eq {matrix : Matrix} {id : Nat} (name model : String) (pose : Pose)
    (absent : matrix.owns id = false) :
    matrix.place id name model pose =
      (matrix.checkPlacement pose none).map fun _ =>
        matrix.joined ⟨id, name, model, pose, matrix.id⟩ := by
  cases checked : matrix.checkPlacement pose none <;>
    simp [place, absent, checked, joined, bind, Except.bind, pure, Except.pure, Except.map]

theorem remove?_eq {matrix : Matrix} (sound : matrix.Sound) (id : Nat) :
    matrix.remove? id = (matrix.drone? id).map fun drone => (drone, matrix.without drone) := by
  cases found : matrix.drone? id with
  | none =>
    have absent : matrix.drones.get? id = none := found
    simp [remove?, absent]
  | some drone =>
    have present : matrix.drones.get? id = some drone := found
    have name := (sound.named id drone found).1
    simp [remove?, present, without, name]

theorem joined_drone? (matrix : Matrix) (drone : Drone) (id : Nat) :
    (matrix.joined drone).drone? id = if id = drone.id then some drone else matrix.drone? id :=
  Table.get?_insert _ _ _ _

theorem without_drone? (matrix : Matrix) (drone : Drone) (id : Nat) :
    (matrix.without drone).drone? id = if id = drone.id then none else matrix.drone? id :=
  Table.get?_erase _ _ _

theorem joined_owns (matrix : Matrix) (drone : Drone) (id : Nat) :
    (matrix.joined drone).owns id = (decide (id = drone.id) || matrix.owns id) :=
  Table.contains_insert _ _ _ _

theorem without_owns (matrix : Matrix) (drone : Drone) (id : Nat) :
    (matrix.without drone).owns id = (decide (id ≠ drone.id) && matrix.owns id) :=
  Table.contains_erase _ _ _

theorem joined_sound {matrix : Matrix} {drone : Drone} (sound : matrix.Sound)
    (absent : matrix.owns drone.id = false) (owner : drone.matrixId = matrix.id)
    (checked : matrix.checkPlacement drone.pose none = .ok ()) : (matrix.joined drone).Sound := by
  obtain ⟨within, free⟩ := checkPlacement_eq_ok.mp checked
  have vacant : matrix.cells.get? drone.pose.cell = none := by
    cases standing : matrix.cells.get? drone.pose.cell with
    | none => rfl
    | some occupant => exact absurd (free occupant standing) (by simp)
  have missing := owns_eq_false_iff.mp absent
  refine ⟨?_, ?_, ?_⟩
  · intro id other found
    rw [joined_drone?] at found
    split at found
    · rename_i same
      cases found
      exact ⟨same.symm, owner⟩
    · exact sound.named id other found
  · intro id other found
    rw [joined_drone?] at found
    split at found
    · cases found
      exact within
    · exact sound.inside id other found
  · intro cell id
    have look : (matrix.joined drone).cells.get? cell =
        if cell = drone.pose.cell then some drone.id else matrix.cells.get? cell :=
      Table.get?_insert _ _ _ _
    rw [look]
    by_cases here : cell = drone.pose.cell
    · subst here
      simp only [if_true, Option.some.injEq, joined_drone?]
      constructor
      · intro same
        subst same
        exact ⟨drone, by simp, rfl⟩
      · rintro ⟨other, found, stands⟩
        split at found
        · rename_i same
          exact same.symm
        · have occupied := (sound.indexed drone.pose.cell id).mpr ⟨other, found, stands⟩
          simp [vacant] at occupied
    · simp only [here, if_false, joined_drone?]
      rw [sound.indexed cell id]
      constructor
      · rintro ⟨other, found, stands⟩
        have different : id ≠ drone.id := by
          intro same
          rw [same, missing] at found
          cases found
        exact ⟨other, by simp [different, found], stands⟩
      · rintro ⟨other, found, stands⟩
        split at found
        · cases found
          exact absurd stands.symm here
        · exact ⟨other, found, stands⟩

theorem without_sound {matrix : Matrix} {drone : Drone} (sound : matrix.Sound)
    (present : matrix.drone? drone.id = some drone) : (matrix.without drone).Sound := by
  have kept : ∀ id other, (matrix.without drone).drone? id = some other →
      id ≠ drone.id ∧ matrix.drone? id = some other := by
    intro id other found
    rw [without_drone?] at found
    split at found
    · cases found
    · rename_i different
      exact ⟨different, found⟩
  refine ⟨?_, ?_, ?_⟩
  · intro id other found
    exact sound.named id other (kept id other found).2
  · intro id other found
    exact sound.inside id other (kept id other found).2
  · intro cell id
    have look : (matrix.without drone).cells.get? cell =
        if cell = drone.pose.cell then none else matrix.cells.get? cell :=
      Table.get?_erase _ _ _
    rw [look]
    by_cases here : cell = drone.pose.cell
    · subst here
      simp only [if_true, false_iff, reduceCtorEq]
      rintro ⟨other, found, stands⟩
      obtain ⟨different, before⟩ := kept id other found
      exact different (sound.apart before present stands)
    · simp only [here, if_false]
      rw [sound.indexed cell id]
      constructor
      · rintro ⟨other, found, stands⟩
        have different : id ≠ drone.id := by
          intro same
          rw [same, present] at found
          cases found
          exact here stands.symm
        exact ⟨other, by rw [without_drone?, if_neg different]; exact found, stands⟩
      · rintro ⟨other, found, stands⟩
        exact ⟨other, (kept id other found).2, stands⟩

/-! Giving a drone another pose or another name takes it off and puts it back. -/

def replaced (matrix : Matrix) (drone other : Drone) : Matrix :=
  (matrix.without drone).joined other

theorem commitPose_eq {matrix : Matrix} (sound : matrix.Sound) {id : Nat} {drone : Drone}
    (present : matrix.drone? id = some drone) (pose : Pose) :
    matrix.commitPose id pose = (matrix.checkPlacement pose (some id)).map fun _ =>
      matrix.replaced drone { drone with pose } := by
  obtain ⟨rfl, _⟩ := sound.named id drone present
  have found : matrix.drones.get? drone.id = some drone := present
  have seat := sound.seated present
  cases checked : matrix.checkPlacement pose (some drone.id) with
  | error refusal => simp only [commitPose, checked, bind, Except.bind, Except.map]
  | ok _ =>
    simp only [commitPose, checked, bind, Except.bind, found, pure, Except.pure, Except.map,
      replaced, joined, without, Table.insert_erase, Except.ok.injEq, Matrix.mk.injEq, true_and]
    by_cases stays : drone.pose.cell = pose.cell
    · rw [if_pos stays, ← show drone.pose.cell = Pose.cell pose from stays, Table.insert_erase,
        Table.insert_eq_self seat]
    · rw [if_neg stays]

theorem rename_eq {matrix : Matrix} (sound : matrix.Sound) {id : Nat} {drone : Drone}
    (present : matrix.drone? id = some drone) (name model : Option String) :
    matrix.rename id name model = .ok (matrix.replaced drone
      { drone with name := name.getD drone.name, model := model.getD drone.model }) := by
  obtain ⟨rfl, _⟩ := sound.named id drone present
  have found : matrix.drones.get? drone.id = some drone := present
  have seat := sound.seated present
  simp only [rename, found, replaced, joined, without, Table.insert_erase,
    Table.insert_eq_self seat]

theorem replaced_drone? (matrix : Matrix) {drone other : Drone} (same : other.id = drone.id)
    (id : Nat) :
    (matrix.replaced drone other).drone? id =
      if id = drone.id then some other else matrix.drone? id := by
  rw [replaced, joined_drone?, without_drone?, same]
  split <;> rfl

theorem replaced_kin {matrix : Matrix} {drone other : Drone} (same : other.id = drone.id)
    (present : matrix.drone? drone.id = some drone) : Kin matrix (matrix.replaced drone other) := by
  refine ⟨rfl, ?_⟩
  intro id
  rw [replaced, joined_owns, without_owns, same]
  by_cases here : id = drone.id
  · subst here
    simp [owns_iff.mpr ⟨drone, present⟩]
  · simp [here]

theorem replaced_sound {matrix : Matrix} {drone other : Drone} (sound : matrix.Sound)
    (present : matrix.drone? drone.id = some drone) (same : other.id = drone.id)
    (owner : other.matrixId = drone.matrixId)
    (checked : matrix.checkPlacement other.pose (some drone.id) = .ok ()) :
    (matrix.replaced drone other).Sound := by
  obtain ⟨within, free⟩ := checkPlacement_eq_ok.mp checked
  apply joined_sound (without_sound sound present)
  · simp [without_owns, same]
  · exact owner.trans (sound.named _ _ present).2
  · apply checkPlacement_eq_ok.mpr
    refine ⟨within, ?_⟩
    intro occupant standing
    have look : (matrix.without drone).cells.get? other.pose.cell =
        if other.pose.cell = drone.pose.cell then none else matrix.cells.get? other.pose.cell :=
      Table.get?_erase _ _ _
    rw [look] at standing
    split at standing
    · cases standing
    · rename_i elsewhere
      -- the drone itself is the only one that could stand there, and it stands elsewhere
      have itself := Option.some.inj (free occupant standing)
      obtain ⟨found, here, stands⟩ := (sound.indexed _ _).mp standing
      rw [itself, present] at here
      cases here
      exact absurd stands.symm elsewhere

theorem own_place {matrix : Matrix} {id : Nat} {drone : Drone} (sound : matrix.Sound)
    (present : matrix.drone? id = some drone) {pose : Pose} (same : pose.cell = drone.pose.cell) :
    matrix.checkPlacement pose (some id) = .ok () := by
  apply checkPlacement_eq_ok.mpr
  refine ⟨same ▸ sound.inside id drone present, ?_⟩
  intro occupant standing
  obtain ⟨other, found, stands⟩ := (sound.indexed _ _).mp standing
  rw [sound.apart found present (stands.trans same)]

theorem commitPose_sound {matrix moved : Matrix} (sound : matrix.Sound) {id : Nat} {pose : Pose}
    (aboard : matrix.owns id = true) (committed : matrix.commitPose id pose = .ok moved) :
    moved.Sound ∧ Kin matrix moved := by
  obtain ⟨drone, present⟩ := owns_iff.mp aboard
  have name := (sound.named id drone present).1
  subst name
  rw [commitPose_eq sound present] at committed
  cases checked : matrix.checkPlacement pose (some drone.id) with
  | error refusal => rw [checked] at committed; cases committed
  | ok _ =>
    rw [checked] at committed
    cases committed
    exact ⟨replaced_sound sound present rfl rfl checked, replaced_kin rfl present⟩

theorem commitPose_kind {matrix : Matrix} (sound : matrix.Sound) {id : Nat} {pose : Pose}
    {refusal : Refusal} (aboard : matrix.owns id = true)
    (failed : matrix.commitPose id pose = .error refusal) : refusal.kind ≠ .unknownDrone := by
  obtain ⟨drone, present⟩ := owns_iff.mp aboard
  rw [commitPose_eq sound present] at failed
  cases checked : matrix.checkPlacement pose (some id) with
  | error other =>
    rw [checked] at failed
    cases failed
    exact checkPlacement_kind checked
  | ok _ => rw [checked] at failed; cases failed

theorem rename_sound {matrix renamed : Matrix} (sound : matrix.Sound) {id : Nat}
    {name model : Option String} (aboard : matrix.owns id = true)
    (done : matrix.rename id name model = .ok renamed) : renamed.Sound ∧ Kin matrix renamed := by
  obtain ⟨drone, present⟩ := owns_iff.mp aboard
  have named := (sound.named id drone present).1
  subst named
  rw [rename_eq sound present] at done
  cases done
  exact ⟨replaced_sound sound present rfl rfl (own_place sound present rfl),
    replaced_kin rfl present⟩

private theorem within_of_checked {bounds : Bounds} {drones : List Drone}
    (passed : (drones.forM fun drone => bounds.check drone.pose.cell) = .ok ()) :
    ∀ drone ∈ drones, bounds.contains drone.pose.cell = true := by
  induction drones with
  | nil => simp
  | cons first rest ih =>
    have unfolded : (do
        bounds.check first.pose.cell
        rest.forM fun drone => bounds.check drone.pose.cell) = .ok () := passed
    cases checked : bounds.check first.pose.cell with
    | error refusal => simp [checked, bind, Except.bind] at unfolded
    | ok _ =>
      simp only [checked, bind, Except.bind] at unfolded
      intro drone member
      rcases List.mem_cons.mp member with same | inside
      · exact same ▸ check_eq_ok.mp checked
      · exact ih unfolded drone inside

private theorem check_all_kind {bounds : Bounds} {drones : List Drone} {refusal : Refusal}
    (failed : (drones.forM fun drone => bounds.check drone.pose.cell) = .error refusal) :
    refusal.kind = .invalidPlacement := by
  induction drones with
  | nil => cases failed
  | cons first rest ih =>
    have unfolded : (do
        bounds.check first.pose.cell
        rest.forM fun drone => bounds.check drone.pose.cell) = .error refusal := failed
    cases checked : bounds.check first.pose.cell with
    | error other =>
      simp only [checked, bind, Except.bind] at unfolded
      cases unfolded
      exact check_kind checked
    | ok _ =>
      simp only [checked, bind, Except.bind] at unfolded
      exact ih unfolded

theorem resize_kind {matrix : Matrix} {bounds : Bounds} {refusal : Refusal}
    (failed : matrix.resize bounds = .error refusal) : refusal.kind = .invalidPlacement := by
  cases checked : matrix.drones.values.forM fun drone => bounds.check drone.pose.cell with
  | error other =>
    simp only [resize, checked, bind, Except.bind] at failed
    cases failed
    exact check_all_kind checked
  | ok _ => simp [resize, checked, bind, Except.bind, pure, Except.pure] at failed

theorem resize_sound {matrix resized : Matrix} (sound : matrix.Sound) {bounds : Bounds}
    (done : matrix.resize bounds = .ok resized) : resized.Sound ∧ Kin matrix resized := by
  cases checked : matrix.drones.values.forM fun drone => bounds.check drone.pose.cell with
  | error refusal => simp [resize, checked, bind, Except.bind] at done
  | ok _ =>
    simp only [resize, checked, bind, Except.bind, pure, Except.pure, Except.ok.injEq] at done
    subst done
    refine ⟨⟨sound.named, ?_, sound.indexed⟩, ⟨rfl, fun _ => rfl⟩⟩
    intro id drone found
    exact within_of_checked checked drone (Table.mem_values.mpr ⟨id, found⟩)

end DroneFleet.Matrix
