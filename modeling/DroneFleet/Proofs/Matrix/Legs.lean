import DroneFleet.Proofs.Matrix.Courses

/-!
Flights in two legs. A sequence may be cut anywhere: the second leg begins where the first has ended,
and its steps count on from there (`fly_append`, `fly_later`). A run by itself begins from the pose that
the matrix holds, so it continues an earlier one only because every step of that has been committed
(`run_legs`).
-/
namespace DroneFleet

def Outcome.later (steps : Nat) : Outcome → Outcome
  | rejected failedAt reason pose blockedBy => rejected (steps + failedAt) reason pose blockedBy
  | outcome => outcome

namespace Matrix

theorem fly_append (matrix : Matrix) (id : Nat) (pose : Pose) (step : Nat)
    (first second : List Command) :
    matrix.fly id pose step (first ++ second) = match matrix.fly id pose step first with
      | .ok (.completed last, flown) => flown.fly id last (step + first.length) second
      | other => other := by
  induction first generalizing matrix pose step with
  | nil => rfl
  | cons command rest ih =>
    cases followed : matrix.follow id pose command with
    | error violation =>
      simp only [List.cons_append, fly, followed]
      cases violation <;> rfl
    | ok next =>
      cases committed : matrix.commitPose id next with
      | error refusal => simp only [List.cons_append, fly, followed, committed]
      | ok moved =>
        have counted : step + 1 + rest.length = step + (command :: rest).length := by
          rw [List.length_cons, Nat.add_comm rest.length, Nat.add_assoc]
        simp only [List.cons_append, fly, followed, committed, ih, counted]

theorem fly_later (matrix : Matrix) (id : Nat) (pose : Pose) (steps step : Nat)
    (commands : List Command) :
    matrix.fly id pose (steps + step) commands =
      (matrix.fly id pose step commands).map fun (outcome, flown) => (outcome.later steps, flown) := by
  induction commands generalizing matrix pose step with
  | nil => rfl
  | cons command rest ih =>
    cases followed : matrix.follow id pose command with
    | error violation =>
      simp only [fly, followed]
      cases violation <;> rfl
    | ok next =>
      cases committed : matrix.commitPose id next with
      | error refusal =>
        simp only [fly, followed, committed]
        rfl
      | ok moved =>
        simp only [fly, followed, committed]
        exact ih moved next (step + 1)

theorem run_fly {matrix : Matrix} {id : Nat} {drone : Drone}
    (present : matrix.drone? id = some drone) (commands : List Command) :
    matrix.run id commands = matrix.fly id drone.pose 0 commands := by
  rw [run, present]

/-- To run two sequences as one is to run the first and, if it is completed, the second on the matrix
that it leaves. What the second is rejected for, and at which of its steps, is what the whole is rejected
for, that many steps after the first. -/
theorem run_legs {matrix : Matrix} (sound : matrix.Sound) {id : Nat} {drone : Drone}
    (present : matrix.drone? id = some drone) (first second : List Command) :
    ∃ outcome flown, matrix.run id first = .ok (outcome, flown) ∧
      (outcome.isCompleted = true → ∃ next last, flown.run id second = .ok (next, last) ∧
        matrix.run id (first ++ second) = .ok (next.later first.length, last)) ∧
      (outcome.isCompleted = false → matrix.run id (first ++ second) = .ok (outcome, flown)) := by
  obtain ⟨rfl, _⟩ := sound.named id drone present
  have ran := run_eq_course sound present first
  have told := course_pose? matrix drone.id drone.pose 0 first
  generalize matrix.course drone.id drone.pose 0 first = ended at ran told
  obtain ⟨outcome, pose⟩ := ended
  refine ⟨outcome, matrix.moved drone pose, ran, fun completed => ?_, fun stopped => ?_⟩
  · -- The pose in hand is the one that has been committed.
    obtain rfl : outcome = .completed pose := by
      cases outcome with
      | completed held => exact congrArg Outcome.completed (Option.some.inj told)
      | rejected => cases completed
      | notAttempted => cases completed
    have committed := moved_present matrix drone pose
    obtain ⟨next, last, flew, _⟩ :=
      run_ok (run_keeps sound present ran).1 (owns_iff.mpr ⟨_, committed⟩) second
    refine ⟨next, last, flew, ?_⟩
    rw [run_fly present] at ran
    rw [run_fly committed] at flew
    rw [run_fly present, fly_append, ran]
    simp only [Nat.zero_add]
    rw [← Nat.add_zero first.length, fly_later, flew]
    rfl
  · rw [run_fly present] at ran ⊢
    rw [fly_append, ran]
    cases outcome with
    | completed held => cases stopped
    | rejected => rfl
    | notAttempted => rfl

/-- The step that leads to the other drone is the first one of the second leg. -/
theorem run_legs_crossing :
    crossing.Sound ∧ crossing.drone? 1 = some scout ∧ ∃ flown last,
      crossing.run 1 [.advance, .turnRight] = .ok (.completed ⟨0, 1, .east⟩, flown) ∧
      flown.run 1 [.advance, .advance] =
        .ok (.rejected 0 .collisionRisk ⟨0, 1, .east⟩ (some 2), last) ∧
      crossing.run 1 detour = .ok (.rejected 2 .collisionRisk ⟨0, 1, .east⟩ (some 2), last) := by
  have sound : crossing.Sound := (operated_sound (new_sound 7 ⟨3, 3⟩) _).1
  have present : crossing.drone? 1 = some scout := by decide +kernel
  have first : (crossing.run 1 [.advance, .turnRight]).map (·.1) = .ok (.completed ⟨0, 1, .east⟩) :=
    rfl
  have second : ((crossing.run 1 [.advance, .turnRight]).bind fun (_, flown) =>
      flown.run 1 [.advance, .advance]).map (·.1) =
        .ok (.rejected 0 .collisionRisk ⟨0, 1, .east⟩ (some 2)) := rfl
  obtain ⟨outcome, flown, ran, completes, _⟩ :=
    run_legs sound present [.advance, .turnRight] [.advance, .advance]
  rw [ran] at first second
  cases first
  obtain ⟨next, last, flew, whole⟩ := completes rfl
  simp only [Except.bind, flew] at second
  cases second
  exact ⟨sound, present, flown, last, ran, flew, whole⟩

end Matrix

end DroneFleet
