import DroneFleet.Proofs.Matrix.Courses

/-!
The way back. Whatever step a drone has taken, the mirrored step takes it back if the drone faces the
other way at both ends of it (`follow_back`): the place that it comes back to is one that it has had
before, and nobody else has taken it meanwhile. So a sequence that has been completed is undone by its
steps mirrored in the opposite order, between two half turns (`run_back`).
-/
namespace DroneFleet

namespace Command

/-- The command that a drone going the other way needs for the same stretch. -/
def mirrored : Command → Command
  | advance => advance
  | turnLeft => turnRight
  | turnRight => turnLeft

def about : List Command := [turnRight, turnRight]

/-- A half turn, the mirrored commands from the last to the first, and a half turn again. -/
def wayBack (commands : List Command) : List Command :=
  about ++ commands.reverse.map mirrored ++ about

end Command

namespace Pose

def turnedAbout (pose : Pose) : Pose := pose.turnedRight.turnedRight

theorem turnedAbout_turnedAbout (pose : Pose) : pose.turnedAbout.turnedAbout = pose := by
  obtain ⟨x, y, orientation⟩ := pose
  cases orientation <;> rfl

theorem cellAhead_turnedAbout {pose : Pose} {cell : Cell} (ahead : pose.cellAhead = some cell) :
    (pose.movedTo cell).turnedAbout.cellAhead = some pose.cell := by
  obtain ⟨across, up⟩ := Cell.at?_eq_some_iff.mp ahead
  refine Cell.at?_eq_some_iff.mpr ?_
  obtain ⟨x, y, orientation⟩ := pose
  cases orientation <;>
    simp only [target, movedTo, turnedAbout, turnedRight, Pose.cell, Orientation.right,
      Orientation.offset] at * <;>
    omega

end Pose

open Command

namespace Matrix

variable {matrix : Matrix} {id : Nat} {pose next : Pose}

theorem follow_back (free : matrix.checkPlacement pose (some id) = .ok ()) {command : Command}
    (followed : matrix.follow id pose command = .ok next) :
    matrix.follow id next.turnedAbout command.mirrored = .ok pose.turnedAbout := by
  cases command with
  | turnLeft =>
    cases followed
    obtain ⟨x, y, orientation⟩ := pose
    cases orientation <;> rfl
  | turnRight =>
    cases followed
    obtain ⟨x, y, orientation⟩ := pose
    cases orientation <;> rfl
  | advance =>
    obtain ⟨_, cell, ahead, rfl⟩ := advance_eq_ok.mp followed
    exact advance_eq_ok.mpr ⟨checkPlacement_congr rfl free, _, Pose.cellAhead_turnedAbout ahead, rfl⟩

theorem course_back (free : matrix.checkPlacement pose (some id) = .ok ()) {commands : List Command}
    {step : Nat} {last end_ : Pose}
    (completed : matrix.course id pose step commands = (.completed last, end_)) :
    matrix.checkPlacement last (some id) = .ok () ∧ ∀ step rest,
      matrix.course id last.turnedAbout step (commands.reverse.map mirrored ++ rest) =
        matrix.course id pose.turnedAbout (step + commands.length) rest := by
  induction commands generalizing pose step with
  | nil =>
    cases completed
    exact ⟨free, fun _ _ => rfl⟩
  | cons command ahead ih =>
    cases followed : matrix.follow id pose command with
    | error violation =>
      rw [course, followed] at completed
      cases violation <;> cases completed
    | ok next =>
      rw [course, followed] at completed
      have undone := follow_back free followed
      obtain ⟨lastFree, back⟩ := ih (follow_free free followed) completed
      refine ⟨lastFree, fun step rest => ?_⟩
      -- The last step back is the one that takes back the first command.
      rw [List.reverse_cons, List.map_append, List.append_assoc, back, List.map_singleton,
        List.singleton_append, course, undone, List.length_cons, Nat.add_assoc]

variable {drone : Drone}

/-- A sequence that has been completed can be flown backwards: that too is completed, and it leaves the
matrix as it was before, with the drone in its first pose and the index of the cells as it was. -/
theorem run_back (sound : matrix.Sound) (present : matrix.drone? id = some drone)
    {commands : List Command} {last : Pose} {flown : Matrix}
    (completed : matrix.run id commands = .ok (.completed last, flown)) :
    flown.run id (wayBack commands) = .ok (.completed drone.pose, matrix) := by
  obtain ⟨rfl, _⟩ := sound.named id drone present
  have told := course_pose? matrix drone.id drone.pose 0 commands
  rw [run_eq_course sound present] at completed
  generalize reached : matrix.course drone.id drone.pose 0 commands = ended at completed told
  obtain ⟨outcome, pose⟩ := ended
  obtain ⟨rfl, rfl⟩ := Prod.mk.inj (Except.ok.inj completed)
  obtain rfl : last = pose := Option.some.inj told
  obtain ⟨free, back⟩ := course_back (own_place sound present rfl) reached
  have returned : matrix.course drone.id last 0 (wayBack commands) =
      (.completed drone.pose, drone.pose) := by
    calc matrix.course drone.id last 0 (wayBack commands)
        = matrix.course drone.id last.turnedAbout 2 (commands.reverse.map mirrored ++ about) := by
          rw [wayBack, List.append_assoc]
          rfl
      _ = matrix.course drone.id drone.pose.turnedAbout (2 + commands.length) about := back 2 about
      _ = (.completed drone.pose.turnedAbout.turnedAbout, drone.pose.turnedAbout.turnedAbout) := rfl
      _ = (.completed drone.pose, drone.pose) := by rw [Pose.turnedAbout_turnedAbout]
  rw [run, moved_present matrix drone last]
  refine (fly_eq_course sound present free 0 (wayBack commands)).trans ?_
  rw [returned, moved_self sound present]

/-- Past the other drone, which stands beside the way, to the place behind it, and back again. -/
theorem run_back_crossing :
    crossing.Sound ∧ crossing.drone? 1 = some scout ∧ ∃ flown,
      crossing.run 1 [.advance, .advance, .turnRight, .advance, .turnLeft] =
        .ok (.completed ⟨1, 2, .north⟩, flown) ∧
      flown.run 1 [.turnRight, .turnRight, .turnRight, .advance, .turnLeft, .advance, .advance,
        .turnRight, .turnRight] = .ok (.completed ⟨0, 0, .north⟩, crossing) := by
  have sound : crossing.Sound := (operated_sound (new_sound 7 ⟨3, 3⟩) _).1
  have present : crossing.drone? 1 = some scout := by decide +kernel
  have told : (crossing.run 1 [.advance, .advance, .turnRight, .advance, .turnLeft]).map (·.1) =
      .ok (.completed ⟨1, 2, .north⟩) := rfl
  obtain ⟨outcome, flown, ran, _⟩ := run_ok sound (owns_iff.mpr ⟨scout, present⟩)
    [.advance, .advance, .turnRight, .advance, .turnLeft]
  rw [ran] at told
  cases told
  exact ⟨sound, present, flown, ran, run_back sound present ran⟩

end Matrix

end DroneFleet
