import DroneFleet.Proofs.Matrix.Operations

/-!
Where a run leads, worked out beforehand. A drone in flight changes nothing for itself but its own
place, so all steps of a run are judged by the matrix as it was before the run (`fly_eq_course`), and a
run can be reckoned in the plane of the integers, in which there are no words to overflow and no drone
ever stands in its own way (`run_reckoned`).
-/
namespace DroneFleet

theorem Cell.word?_eq_some_iff {value : Int} {word : UInt32} :
    word? value = some word ↔ (word.toNat : Int) = value := by
  have below := word.toNat_lt_size
  rw [word?, Option.ite_none_right_eq_some, Option.some.injEq]
  constructor
  · rintro ⟨⟨nonneg, small⟩, rfl⟩
    rw [UInt32.toNat_ofNat_of_lt' (by omega), Int.toNat_of_nonneg nonneg]
  · rintro rfl
    exact ⟨⟨Int.natCast_nonneg _, by omega⟩, UInt32.ofNat_toNat⟩

theorem Cell.exists_word {value : Int} (nonneg : 0 ≤ value) (small : value < UInt32.size) :
    ∃ word : UInt32, (word.toNat : Int) = value :=
  ⟨UInt32.ofNat value.toNat, word?_eq_some_iff.mp (if_pos ⟨nonneg, small⟩)⟩

theorem Cell.at?_eq_some_iff {x y : Int} {cell : Cell} :
    at? x y = some cell ↔ (cell.x.toNat : Int) = x ∧ (cell.y.toNat : Int) = y := by
  rw [← word?_eq_some_iff, ← word?_eq_some_iff]
  obtain ⟨column, row⟩ := cell
  cases across : word? x <;> cases up : word? y <;> simp [at?, across, up]

/-- A place in the plane and the direction faced, as the step that it takes. -/
structure Reckoning where
  x : Int
  y : Int
  dx : Int
  dy : Int
deriving DecidableEq, Repr

namespace Reckoning

def after (held : Reckoning) : Command → Reckoning
  | .advance => { held with x := held.x + held.dx, y := held.y + held.dy }
  | .turnLeft => { held with dx := -held.dy, dy := held.dx }
  | .turnRight => { held with dx := held.dy, dy := -held.dx }

def along (held : Reckoning) (commands : List Command) : Reckoning := commands.foldl after held

def Leaves (held : Reckoning) (bounds : Bounds) : Prop :=
  ¬ (0 ≤ held.x + held.dx ∧ held.x + held.dx ≤ bounds.maxX.toNat ∧
    0 ≤ held.y + held.dy ∧ held.y + held.dy ≤ bounds.maxY.toNat)

def Meets (held : Reckoning) (matrix : Matrix) (id other : Nat) : Prop :=
  other ≠ id ∧ ∃ drone, matrix.drone? other = some drone ∧
    (drone.pose.x.toNat : Int) = held.x + held.dx ∧ (drone.pose.y.toNat : Int) = held.y + held.dy

end Reckoning

def Pose.reckoning (pose : Pose) : Reckoning :=
  ⟨pose.x.toNat, pose.y.toNat, pose.orientation.offset.1, pose.orientation.offset.2⟩

theorem Pose.reckoning_turnedLeft (pose : Pose) :
    pose.turnedLeft.reckoning = pose.reckoning.after .turnLeft := by
  obtain ⟨x, y, orientation⟩ := pose
  cases orientation <;> rfl

theorem Pose.reckoning_turnedRight (pose : Pose) :
    pose.turnedRight.reckoning = pose.reckoning.after .turnRight := by
  obtain ⟨x, y, orientation⟩ := pose
  cases orientation <;> rfl

namespace Matrix

def moved (matrix : Matrix) (drone : Drone) (pose : Pose) : Matrix :=
  { matrix with
    drones := matrix.drones.insert drone.id { drone with pose }
    cells := (matrix.cells.erase drone.pose.cell).insert pose.cell drone.id }

/-- What comes of a sequence over a matrix that stays as it is, and the pose at its end. -/
def course (matrix : Matrix) (id : Nat) (pose : Pose) (step : Nat) : List Command → Outcome × Pose
  | [] => (.completed pose, pose)
  | command :: rest =>
    match matrix.follow id pose command with
    | .error violation => (.ofViolation step pose violation, pose)
    | .ok next => matrix.course id next (step + 1) rest

variable {matrix : Matrix} {id : Nat} {drone : Drone}

theorem course_pose? (matrix : Matrix) (id : Nat) (pose : Pose) (step : Nat)
    (commands : List Command) :
    (matrix.course id pose step commands).1.pose? =
      some (matrix.course id pose step commands).2 := by
  induction commands generalizing pose step with
  | nil => rfl
  | cons command rest ih =>
    simp only [course]
    split
    · rename_i violation _
      cases violation <;> rfl
    · exact ih _ _

theorem replaced_eq_moved (matrix : Matrix) (drone : Drone) (pose : Pose) :
    matrix.replaced drone { drone with pose } = matrix.moved drone pose := by
  simp only [replaced, joined, without, moved, Table.insert_erase]

theorem moved_drone? (matrix : Matrix) (drone : Drone) (pose : Pose) (id : Nat) :
    (matrix.moved drone pose).drone? id =
      if id = drone.id then some { drone with pose } else matrix.drone? id :=
  Table.get?_insert _ _ _ _

theorem moved_present (matrix : Matrix) (drone : Drone) (pose : Pose) :
    (matrix.moved drone pose).drone? drone.id = some { drone with pose } := by
  rw [moved_drone?, if_pos rfl]

theorem moved_self (sound : matrix.Sound) (present : matrix.drone? drone.id = some drone) :
    matrix.moved drone drone.pose = matrix := by
  simp only [moved, Table.insert_erase, Table.insert_eq_self (sound.seated present),
    Table.insert_eq_self (show matrix.drones.get? drone.id = some drone from present)]

section

variable (sound : matrix.Sound) (present : matrix.drone? drone.id = some drone) {pose : Pose}
  (free : matrix.checkPlacement pose (some drone.id) = .ok ())

include sound present free

theorem place_vacant (elsewhere : pose.cell ≠ drone.pose.cell) :
    matrix.cells.get? pose.cell = none := by
  cases standing : matrix.cells.get? pose.cell with
  | none => rfl
  | some occupant =>
    have itself := Option.some.inj ((checkPlacement_eq_ok.mp free).2 occupant standing)
    obtain ⟨other, found, stands⟩ := (sound.indexed _ _).mp standing
    rw [itself, present] at found
    cases found
    exact absurd stands.symm elsewhere

theorem moved_moved (next : Pose) :
    (matrix.moved drone pose).moved { drone with pose } next = matrix.moved drone next := by
  simp only [moved, Table.insert_insert, Matrix.mk.injEq, true_and]
  apply Table.ext_get?
  intro cell
  simp only [Table.get?_insert, Table.get?_erase]
  by_cases there : cell = pose.cell
  · subst there
    by_cases back : pose.cell = drone.pose.cell
    · simp [back]
    · simp [back, place_vacant sound present free back]
  · simp [there]

theorem moved_sound : (matrix.moved drone pose).Sound := by
  rw [← replaced_eq_moved]
  exact replaced_sound sound present rfl rfl free

theorem moved_occupant? (cell : Cell) :
    (matrix.moved drone pose).occupant? cell (some drone.id) =
      matrix.occupant? cell (some drone.id) := by
  have seat := sound.seated present
  have own : matrix.occupant? pose.cell (some drone.id) = none :=
    occupant?_eq_none_iff.mpr (checkPlacement_eq_ok.mp free).2
  have look : (matrix.moved drone pose).cells.get? cell = if cell = pose.cell then some drone.id
      else if cell = drone.pose.cell then none else matrix.cells.get? cell := by
    simp only [moved, Table.get?_insert, Table.get?_erase]
  by_cases there : cell = pose.cell
  · subst there
    rw [own, occupant?, look]
    simp
  · by_cases here : cell = drone.pose.cell
    · subst here
      simp [occupant?, look, there, seat, Option.filter]
    · simp [occupant?, look, here, there]

theorem moved_checkPlacement (next : Pose) :
    (matrix.moved drone pose).checkPlacement next (some drone.id) =
      matrix.checkPlacement next (some drone.id) := by
  simp only [checkPlacement, moved_occupant? sound present free]
  rfl

theorem moved_follow (held : Pose) (command : Command) :
    (matrix.moved drone pose).follow drone.id held command =
      matrix.follow drone.id held command := by
  cases command with
  | turnLeft => rfl
  | turnRight => rfl
  | advance =>
    simp only [follow, advance, moved_occupant? sound present free]
    rfl

theorem moved_commitPose {next : Pose} (placed : matrix.checkPlacement next (some drone.id) = .ok ()) :
    (matrix.moved drone pose).commitPose drone.id next = .ok (matrix.moved drone next) := by
  rw [commitPose_eq (moved_sound sound present free) (moved_present matrix drone pose),
    moved_checkPlacement sound present free, placed]
  exact congrArg Except.ok
    ((replaced_eq_moved _ { drone with pose } next).trans (moved_moved sound present free next))

/-- A run over a matrix that changes under it comes to the same as over the matrix before the run. -/
theorem fly_eq_course (step : Nat) (commands : List Command) :
    (matrix.moved drone pose).fly drone.id pose step commands =
      .ok ((matrix.course drone.id pose step commands).1,
        matrix.moved drone (matrix.course drone.id pose step commands).2) := by
  induction commands generalizing pose step with
  | nil => rfl
  | cons command rest ih =>
    cases followed : matrix.follow drone.id pose command with
    | error violation => simp only [fly, course, moved_follow sound present free, followed]
    | ok next =>
      have nextFree := follow_free free followed
      simp only [fly, course, moved_follow sound present free, followed,
        moved_commitPose sound present free nextFree]
      exact ih nextFree (step + 1)

end

theorem run_eq_course (sound : matrix.Sound) (present : matrix.drone? drone.id = some drone)
    (commands : List Command) :
    matrix.run drone.id commands = .ok ((matrix.course drone.id drone.pose 0 commands).1,
      matrix.moved drone (matrix.course drone.id drone.pose 0 commands).2) := by
  have flown := fly_eq_course sound present (own_place sound present rfl) 0 commands
  rw [moved_self sound present] at flown
  rw [run, present]
  exact flown

/-! ### Reckoning ahead -/

theorem follow_off (matrix : Matrix) (id : Nat) {pose : Pose}
    (leaves : pose.reckoning.Leaves matrix.bounds) :
    matrix.follow id pose .advance = .error (.boundary pose.target.1 pose.target.2) := by
  have off : pose.cellAhead.filter matrix.bounds.contains = none := by
    rw [Option.filter_eq_none_iff]
    intro cell ahead within
    obtain ⟨across, up⟩ := Cell.at?_eq_some_iff.mp ahead
    simp only [Bounds.contains, Bool.and_eq_true, decide_eq_true_eq, UInt32.le_iff_toNat_le] at within
    apply leaves
    simp only [Pose.reckoning]
    simp only [Pose.target] at across up
    omega
  simp only [follow, advance, off]

theorem follow_leaves (matrix : Matrix) (id : Nat) {pose : Pose}
    (leaves : pose.reckoning.Leaves matrix.bounds) :
    ∃ x y, matrix.follow id pose .advance = .error (.boundary x y) :=
  ⟨_, _, follow_off matrix id leaves⟩

theorem follow_blocked (sound : matrix.Sound) {pose : Pose} {other : Nat} {standing : Drone}
    (different : other ≠ id) (found : matrix.drone? other = some standing)
    (across : (standing.pose.x.toNat : Int) = pose.reckoning.x + pose.reckoning.dx)
    (up : (standing.pose.y.toNat : Int) = pose.reckoning.y + pose.reckoning.dy) :
    matrix.follow id pose .advance =
      .error (.collision standing.pose.x standing.pose.y other) := by
  have ahead : pose.cellAhead = some standing.pose.cell := Cell.at?_eq_some_iff.mpr ⟨across, up⟩
  have within : pose.cellAhead.filter matrix.bounds.contains = some standing.pose.cell := by
    rw [ahead, Option.filter_some, sound.inside other standing found, if_pos rfl]
  have occupied : matrix.occupant? standing.pose.cell (some id) = some other := by
    rw [occupant?, sound.seated found]
    simp [different]
  simp only [follow, advance, within, occupied]
  rfl

theorem follow_meets (sound : matrix.Sound) {pose : Pose} {other : Nat}
    (meets : pose.reckoning.Meets matrix id other) :
    ∃ x y, matrix.follow id pose .advance = .error (.collision x y other) := by
  obtain ⟨different, standing, found, across, up⟩ := meets
  exact ⟨_, _, follow_blocked sound different found across up⟩

theorem follow_clear (sound : matrix.Sound) (id : Nat) (command : Command) {pose : Pose}
    (inside : command = .advance → ¬ pose.reckoning.Leaves matrix.bounds)
    (alone : command = .advance → ∀ other, ¬ pose.reckoning.Meets matrix id other) :
    ∃ next, matrix.follow id pose command = .ok next ∧
      next.reckoning = pose.reckoning.after command := by
  cases command with
  | turnLeft => exact ⟨_, rfl, pose.reckoning_turnedLeft⟩
  | turnRight => exact ⟨_, rfl, pose.reckoning_turnedRight⟩
  | advance =>
    obtain ⟨left, right, below, above⟩ := Classical.not_not.mp (inside rfl)
    have columns := matrix.bounds.maxX.toNat_lt_size
    have rows := matrix.bounds.maxY.toNat_lt_size
    obtain ⟨column, across⟩ := Cell.exists_word left (by omega)
    obtain ⟨row, up⟩ := Cell.exists_word below (by omega)
    have ahead : pose.cellAhead = some ⟨column, row⟩ := Cell.at?_eq_some_iff.mpr ⟨across, up⟩
    have within : matrix.bounds.contains ⟨column, row⟩ = true := by
      simp only [Bounds.contains, Bool.and_eq_true, decide_eq_true_eq, UInt32.le_iff_toNat_le]
      omega
    have vacant : matrix.occupant? ⟨column, row⟩ (some id) = none := by
      rw [occupant?_eq_none_iff]
      intro occupant standing
      obtain ⟨other, found, stands⟩ := (sound.indexed _ occupant).mp standing
      refine Classical.byContradiction fun different =>
        alone rfl occupant ⟨fun same => different (congrArg some same), other, found, ?_, ?_⟩
      · rw [← across, ← show other.pose.x = column from congrArg Cell.x stands]
      · rw [← up, ← show other.pose.y = row from congrArg Cell.y stands]
    refine ⟨pose.movedTo ⟨column, row⟩, ?_, ?_⟩
    · rw [follow, advance, ahead, Option.filter_some, within, if_pos rfl]
      simp only [vacant]
    · simp only [Pose.reckoning, Pose.movedTo, Reckoning.after, across, up]

/-- The advance numbered `step`, reckoned from `start`, leads off the grid or to another drone. -/
def Barred (matrix : Matrix) (id : Nat) (start : Reckoning) (commands : List Command) (step : Nat) :
    Prop :=
  commands[step]? = some .advance ∧
    ((start.along (commands.take step)).Leaves matrix.bounds ∨
      ∃ other, (start.along (commands.take step)).Meets matrix id other)

theorem barred_take {start : Reckoning} {commands : List Command} {count step : Nat}
    (before : step < count) :
    matrix.Barred id start (commands.take count) step ↔ matrix.Barred id start commands step := by
  rw [Barred, Barred, List.getElem?_take_of_lt before, List.take_take,
    Nat.min_eq_left (Nat.le_of_lt before)]

theorem course_clear (sound : matrix.Sound) {pose : Pose} {ahead : List Command}
    (clear : ∀ step < ahead.length, ¬ matrix.Barred id pose.reckoning ahead step) (step : Nat) :
    ∃ last, last.reckoning = pose.reckoning.along ahead ∧
      ∀ rest, matrix.course id pose step (ahead ++ rest) =
        matrix.course id last (step + ahead.length) rest := by
  induction ahead generalizing pose step with
  | nil => exact ⟨pose, rfl, fun rest => rfl⟩
  | cons command ahead ih =>
    have first := clear 0 (Nat.succ_pos _)
    obtain ⟨next, followed, reckoned⟩ := follow_clear sound id command
      (fun advances leaves => first ⟨congrArg some advances, .inl leaves⟩)
      (fun advances other meets => first ⟨congrArg some advances, .inr ⟨other, meets⟩⟩)
    have further : ∀ step < ahead.length, ¬ matrix.Barred id next.reckoning ahead step :=
      fun step below => reckoned ▸ clear (step + 1) (Nat.succ_lt_succ below)
    obtain ⟨last, end_, goes⟩ := ih further (step + 1)
    refine ⟨last, by rw [end_, reckoned]; rfl, fun rest => ?_⟩
    rw [List.length_cons, Nat.add_comm ahead.length, ← Nat.add_assoc, ← goes rest, List.cons_append,
      course, followed]

/-- A run goes as reckoned in the plane up to the first advance that leads off the grid or to where
another drone has been standing all along. That step is rejected, for the first reason or with the
name of that drone; without such a step the run is completed. Nothing is changed on the matrix but the
pose of the drone that flew, and it is the pose reckoned. -/
theorem run_reckoned (sound : matrix.Sound) (present : matrix.drone? id = some drone)
    (commands : List Command) :
    let start := drone.pose.reckoning
    (∃ outcome flown, matrix.run id commands = .ok (outcome, flown)) ∧
    ((∀ step, ¬ matrix.Barred id start commands step) →
      ∃ pose, pose.reckoning = start.along commands ∧
        matrix.run id commands = .ok (.completed pose, matrix.moved drone pose)) ∧
    ∀ step, matrix.Barred id start commands step →
      (∀ before < step, ¬ matrix.Barred id start commands before) →
      ∃ pose, pose.reckoning = start.along (commands.take step) ∧
        (pose.reckoning.Leaves matrix.bounds → matrix.run id commands =
          .ok (.rejected step .boundaryViolation pose none, matrix.moved drone pose)) ∧
        ∀ other, pose.reckoning.Meets matrix id other → matrix.run id commands =
          .ok (.rejected step .collisionRisk pose (some other), matrix.moved drone pose) := by
  have name := (sound.named id drone present).1
  subst name
  rw [run_eq_course sound present]
  refine ⟨⟨_, _, rfl⟩, fun clear => ?_, fun step barred least => ?_⟩
  · obtain ⟨last, reckoned, goes⟩ := course_clear sound (fun step _ => clear step) 0
    have completed := goes []
    rw [List.append_nil] at completed
    exact ⟨last, reckoned, by rw [completed]; rfl⟩
  · obtain ⟨advances, _⟩ := barred
    obtain ⟨inside, here⟩ := List.getElem?_eq_some_iff.mp advances
    have size : (commands.take step).length = step := List.length_take_of_le (Nat.le_of_lt inside)
    have clear : ∀ before < (commands.take step).length,
        ¬ matrix.Barred drone.id drone.pose.reckoning (commands.take step) before :=
      fun before below already =>
        least before (size ▸ below) ((barred_take (size ▸ below)).mp already)
    obtain ⟨last, reckoned, goes⟩ := course_clear sound clear 0
    have parts : commands.take step ++ .advance :: commands.drop (step + 1) = commands := by
      rw [← here, List.getElem_cons_drop, List.take_append_drop]
    have ends : ∀ violation, matrix.follow drone.id last .advance = .error violation →
        matrix.course drone.id drone.pose 0 commands = (.ofViolation step last violation, last) := by
      intro violation failed
      rw [← parts, goes, course, failed, size, Nat.zero_add]
    refine ⟨last, reckoned, fun leaves => ?_, fun other meets => ?_⟩
    · obtain ⟨x, y, failed⟩ := follow_leaves matrix drone.id leaves
      rw [ends _ failed]
      rfl
    · obtain ⟨x, y, failed⟩ := follow_meets sound meets
      rw [ends _ failed]
      rfl

/-- Two drones, of which the second stands one step beside the way of the first. -/
def crossing : Matrix :=
  (new 7 ⟨3, 3⟩).operated [.place 1 "scout" "" ⟨0, 0, .north⟩, .place 2 "post" "" ⟨1, 1, .south⟩]

def scout : Drone := ⟨1, "scout", "", ⟨0, 0, .north⟩, 7⟩

/-- One step goes well and a turn too; the next step leads to the other drone. -/
def detour : List Command := [.advance, .turnRight, .advance, .advance]

theorem run_reckoned_crossing :
    crossing.Sound ∧ crossing.drone? 1 = some scout ∧
      crossing.Barred 1 scout.pose.reckoning detour 2 ∧
      (∀ before < 2, ¬ crossing.Barred 1 scout.pose.reckoning detour before) ∧
      ∃ pose, pose.reckoning = ⟨0, 1, 1, 0⟩ ∧ crossing.run 1 detour =
        .ok (.rejected 2 .collisionRisk pose (some 2), crossing.moved scout pose) := by
  have sound : crossing.Sound := (operated_sound (new_sound 7 ⟨3, 3⟩) _).1
  have present : crossing.drone? 1 = some scout := by decide +kernel
  have post : crossing.drone? 2 = some ⟨2, "post", "", ⟨1, 1, .south⟩, 7⟩ := by decide +kernel
  have meets : (scout.pose.reckoning.along (detour.take 2)).Meets crossing 1 2 :=
    ⟨by decide, _, post, by decide, by decide⟩
  have steps : crossing.follow 1 scout.pose .advance = .ok ⟨0, 1, .north⟩ := rfl
  have least : ∀ before < 2, ¬ crossing.Barred 1 scout.pose.reckoning detour before
    | 0, _, ⟨_, .inl leaves⟩ => by
      obtain ⟨x, y, failed⟩ := follow_leaves crossing 1 leaves
      cases failed.symm.trans steps
    | 0, _, ⟨_, .inr ⟨other, met⟩⟩ => by
      obtain ⟨x, y, failed⟩ := follow_meets sound met
      cases failed.symm.trans steps
    | 1, _, barred => by cases barred.1
  have barred : crossing.Barred 1 scout.pose.reckoning detour 2 := ⟨rfl, .inr ⟨2, meets⟩⟩
  obtain ⟨pose, reckoned, _, stopped⟩ := (run_reckoned sound present detour).2.2 2 barred least
  exact ⟨sound, present, barred, least, pose, reckoned, stopped 2 (reckoned ▸ meets)⟩

end Matrix

end DroneFleet
