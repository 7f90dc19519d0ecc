import DroneFleet.Proofs.Matrix.Courses

/-!
Rehearsals: a sequence is tried from some pose and goes on after a rejection, and nothing is committed.
The pose may be anywhere, off the grid too, and the drone need not be aboard. Each command is judged in
the plane of the integers (`Judged`), so at neither end of the words does a coordinate wrap.
-/
namespace DroneFleet

theorem Pose.reckoning_injective {pose other : Pose} (same : pose.reckoning = other.reckoning) :
    pose = other := by
  obtain ⟨x, y, orientation⟩ := pose
  obtain ⟨x', y', orientation'⟩ := other
  simp only [reckoning, Reckoning.mk.injEq, Int.natCast_inj, UInt32.toNat_inj] at same
  obtain ⟨rfl, rfl, across, up⟩ := same
  have faced : orientation = orientation' := by
    cases orientation <;> cases orientation' <;> simp [Orientation.offset] at across up ⊢
  rw [faced]

theorem Pose.target_extent (pose : Pose) :
    (-1 ≤ pose.target.1 ∧ pose.target.1 ≤ UInt32.size) ∧
      -1 ≤ pose.target.2 ∧ pose.target.2 ≤ UInt32.size := by
  have column := pose.x.toNat_lt_size
  have row := pose.y.toNat_lt_size
  obtain ⟨x, y, orientation⟩ := pose
  cases orientation <;> simp only [target, Orientation.offset] at * <;> omega

namespace Reckoning

variable {matrix : Matrix} {id one other : Nat} {held : Reckoning}

theorem Meets.inside (meets : held.Meets matrix id other) (sound : matrix.Sound) :
    ¬ held.Leaves matrix.bounds := by
  obtain ⟨_, standing, found, across, up⟩ := meets
  have within := sound.inside other standing found
  simp only [Bounds.contains, Pose.cell, Bool.and_eq_true, decide_eq_true_eq, UInt32.le_iff_toNat_le]
    at within
  refine not_not_intro ?_
  omega

theorem Meets.unique (meets : held.Meets matrix id one) (meets' : held.Meets matrix id other)
    (sound : matrix.Sound) : other = one := by
  obtain ⟨_, first, found, across, up⟩ := meets
  obtain ⟨_, second, found', across', up'⟩ := meets'
  have column : second.pose.x = first.pose.x := UInt32.toNat_inj.mp (by omega)
  have row : second.pose.y = first.pose.y := UInt32.toNat_inj.mp (by omega)
  apply sound.apart found' found
  rw [Pose.cell, Pose.cell, column, row]

end Reckoning

namespace Matrix

/-- An advance is rejected if the place ahead is off the grid, and otherwise if another drone stands
there; it is told with the coordinates of that place. In all other cases it leads there. -/
structure Advances (matrix : Matrix) (id : Nat) (held : Reckoning)
    (result : Except Violation Pose) : Prop where
  boundary (x y : Int) : result = .error (.boundary x y) ↔
    held.Leaves matrix.bounds ∧ x = held.x + held.dx ∧ y = held.y + held.dy
  extent (x y : Int) : result = .error (.boundary x y) →
    (-1 ≤ x ∧ x ≤ UInt32.size) ∧ -1 ≤ y ∧ y ≤ UInt32.size
  collision (x y : UInt32) (other : Nat) : result = .error (.collision x y other) ↔
    ¬ held.Leaves matrix.bounds ∧ held.Meets matrix id other ∧
      (x.toNat : Int) = held.x + held.dx ∧ (y.toNat : Int) = held.y + held.dy
  clear (next : Pose) : result = .ok next ↔
    ¬ held.Leaves matrix.bounds ∧ (∀ other, ¬ held.Meets matrix id other) ∧
      next.reckoning = held.after .advance

def Judged (matrix : Matrix) (id : Nat) (held : Pose) (result : Except Violation Pose) :
    Command → Prop
  | .advance => matrix.Advances id held.reckoning result
  | turn => ∃ next, result = .ok next ∧ next.cell = held.cell ∧
      next.reckoning = held.reckoning.after turn

/-- A drone tries one command after another from the pose that it holds; a command that is rejected
leaves it with that pose. -/
inductive Rehearses (matrix : Matrix) (id : Nat) :
    Pose → List Command → List (Pose × Except Violation Pose) → Pose → Prop
  | nil (held : Pose) : Rehearses matrix id held [] [] held
  | goes {held next last : Pose} {command : Command} {rest : List Command}
      {trace : List (Pose × Except Violation Pose)}
      (judged : matrix.Judged id held (.ok next) command)
      (ahead : Rehearses matrix id next rest trace last) :
      Rehearses matrix id held (command :: rest) ((held, .ok next) :: trace) last
  | stays {held last : Pose} {violation : Violation} {command : Command} {rest : List Command}
      {trace : List (Pose × Except Violation Pose)}
      (judged : matrix.Judged id held (.error violation) command)
      (ahead : Rehearses matrix id held rest trace last) :
      Rehearses matrix id held (command :: rest) ((held, .error violation) :: trace) last

variable {matrix : Matrix} {id : Nat}

theorem advances_off {held : Pose} (leaves : held.reckoning.Leaves matrix.bounds) :
    matrix.Advances id held.reckoning (matrix.follow id held .advance) := by
  rw [follow_off matrix id leaves]
  refine ⟨fun x y => ?_, fun x y told => ?_, fun x y other => ?_, fun next => ?_⟩
  · simp only [Except.error.injEq, Violation.boundary.injEq, leaves, true_and]
    exact and_congr eq_comm eq_comm
  · cases told
    exact held.target_extent
  · simp [leaves]
  · simp [leaves]

theorem advances_blocked (sound : matrix.Sound) {held : Pose} {other : Nat}
    (meets : held.reckoning.Meets matrix id other) :
    matrix.Advances id held.reckoning (matrix.follow id held .advance) := by
  have inside := meets.inside sound
  have ⟨different, standing, found, across, up⟩ := meets
  rw [follow_blocked sound different found across up]
  refine ⟨fun x y => ?_, nofun, fun x y third => ?_, fun next => ?_⟩
  · simp [inside]
  · simp only [Except.error.injEq, Violation.collision.injEq]
    constructor
    · rintro ⟨rfl, rfl, rfl⟩
      exact ⟨inside, meets, across, up⟩
    · rintro ⟨_, meets', across', up'⟩
      exact ⟨UInt32.toNat_inj.mp (by omega), UInt32.toNat_inj.mp (by omega),
        (meets.unique meets' sound).symm⟩
  · simp only [reduceCtorEq, false_iff, not_and]
    exact fun _ alone => absurd meets (alone other)

theorem advances_clear (sound : matrix.Sound) {held : Pose}
    (inside : ¬ held.reckoning.Leaves matrix.bounds)
    (alone : ∀ other, ¬ held.reckoning.Meets matrix id other) :
    matrix.Advances id held.reckoning (matrix.follow id held .advance) := by
  obtain ⟨ahead, followed, reckoned⟩ :=
    follow_clear sound id .advance (fun _ => inside) (fun _ => alone)
  rw [followed]
  refine ⟨fun x y => ?_, nofun, fun x y other => ?_, fun next => ?_⟩
  · simp [inside]
  · simp [alone]
  · constructor
    · rintro ⟨⟩
      exact ⟨inside, alone, reckoned⟩
    · rintro ⟨_, _, there⟩
      rw [Pose.reckoning_injective (there.trans reckoned.symm)]

theorem follow_judged (sound : matrix.Sound) (id : Nat) (held : Pose) (command : Command) :
    matrix.Judged id held (matrix.follow id held command) command := by
  cases command with
  | turnLeft => exact ⟨_, rfl, rfl, held.reckoning_turnedLeft⟩
  | turnRight => exact ⟨_, rfl, rfl, held.reckoning_turnedRight⟩
  | advance =>
    by_cases leaves : held.reckoning.Leaves matrix.bounds
    · exact advances_off leaves
    · by_cases met : ∃ other, held.reckoning.Meets matrix id other
      · obtain ⟨other, meets⟩ := met
        exact advances_blocked sound meets
      · exact advances_clear sound leaves (not_exists.mp met)

/-- From whatever pose a sequence is tried, every advance is judged by the place one step ahead in the
plane, and rejected with just its coordinates: as leading off the grid if it is outside the bounds, and
else for the drone that stands there, unless that is the drone itself. Every turn succeeds in place. The
drone holds the pose that the last successful command has given it. -/
theorem rehearse_judged (sound : matrix.Sound) (id : Nat) (start : Pose) (commands : List Command) :
    matrix.Rehearses id start commands (matrix.rehearse id start commands)
      (matrix.rehearsed id start commands) := by
  induction commands generalizing start with
  | nil => exact .nil start
  | cons command rest ih =>
    have judged := follow_judged sound id start command
    cases followed : matrix.follow id start command with
    | error violation =>
      rw [followed] at judged
      simp only [rehearse, rehearsed, List.foldl_cons, followed]
      exact .stays judged (ih start)
    | ok next =>
      rw [followed] at judged
      simp only [rehearse, rehearsed, List.foldl_cons, followed]
      exact .goes judged (ih next)

/-- The largest grid there is, with a drone in its last column. -/
def plain : Matrix :=
  (new 1 ⟨4294967295, 4294967295⟩).operated [.place 1 "" "" ⟨4294967295, 1, .north⟩]

/-- A drone that is not aboard looks over both edges of the last corner and then meets the other one. -/
theorem rehearse_judged_plain :
    plain.Sound ∧ plain.Rehearses 2 ⟨4294967295, 0, .south⟩
      [.advance, .turnLeft, .advance, .turnLeft, .advance]
      [(⟨4294967295, 0, .south⟩, .error (.boundary 4294967295 (-1))),
        (⟨4294967295, 0, .south⟩, .ok ⟨4294967295, 0, .east⟩),
        (⟨4294967295, 0, .east⟩, .error (.boundary 4294967296 0)),
        (⟨4294967295, 0, .east⟩, .ok ⟨4294967295, 0, .north⟩),
        (⟨4294967295, 0, .north⟩, .error (.collision 4294967295 1 1))]
      ⟨4294967295, 0, .north⟩ := by
  have sound : plain.Sound := (operated_sound (new_sound 1 ⟨4294967295, 4294967295⟩) _).1
  exact ⟨sound, rehearse_judged sound 2 ⟨4294967295, 0, .south⟩
    [.advance, .turnLeft, .advance, .turnLeft, .advance]⟩

end Matrix

end DroneFleet
