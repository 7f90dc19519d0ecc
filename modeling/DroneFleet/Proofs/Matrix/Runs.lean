import DroneFleet.Flight
import DroneFleet.Proofs.Matrix.Soundness

/-!
Runs of a drone over a sound matrix. The check that a step makes before it is taken and the one made
when it is committed agree, so a run of a drone that is aboard is never refused, and the matrix stays
sound with the same drones aboard.
-/
namespace DroneFleet.Matrix

section

variable {matrix : Matrix} {id : Nat} {pose next : Pose}

theorem checkPlacement_congr (same : next.cell = pose.cell)
    (free : matrix.checkPlacement pose (some id) = .ok ()) :
    matrix.checkPlacement next (some id) = .ok () := by
  rw [checkPlacement_eq_ok] at free ⊢
  rwa [same]

theorem advance_eq_ok : matrix.advance id pose = .ok next ↔
    matrix.checkPlacement next (some id) = .ok () ∧
      ∃ cell, pose.cellAhead = some cell ∧ pose.movedTo cell = next := by
  constructor
  · intro advanced
    simp only [advance] at advanced
    split at advanced
    · cases advanced
    · rename_i cell ahead
      obtain ⟨ahead, within⟩ := Option.filter_eq_some_iff.mp ahead
      split at advanced
      · cases advanced
      · rename_i vacant
        cases advanced
        exact ⟨checkPlacement_eq_ok.mpr ⟨within, occupant?_eq_none_iff.mp vacant⟩, cell, ahead, rfl⟩
  · rintro ⟨free, cell, ahead, rfl⟩
    obtain ⟨within, vacant⟩ := checkPlacement_eq_ok.mp free
    have inside : pose.cellAhead.filter matrix.bounds.contains = some cell :=
      Option.filter_eq_some_iff.mpr ⟨ahead, within⟩
    have alone : matrix.occupant? cell (some id) = none := occupant?_eq_none_iff.mpr vacant
    simp only [advance, inside, alone]

theorem follow_free (free : matrix.checkPlacement pose (some id) = .ok ()) {command : Command}
    (followed : matrix.follow id pose command = .ok next) :
    matrix.checkPlacement next (some id) = .ok () := by
  cases command with
  | turnLeft =>
    cases followed
    exact checkPlacement_congr rfl free
  | turnRight =>
    cases followed
    exact checkPlacement_congr rfl free
  | advance => exact (advance_eq_ok.mp followed).1

end

theorem fly_ok {matrix : Matrix} (sound : matrix.Sound) {id : Nat} {drone : Drone}
    (present : matrix.drone? id = some drone) (step : Nat) (commands : List Command) :
    ∃ outcome flown, matrix.fly id drone.pose step commands = .ok (outcome, flown) ∧
      flown.Sound ∧ Kin matrix flown := by
  induction commands generalizing matrix drone step with
  | nil => exact ⟨_, matrix, rfl, sound, Kin.refl matrix⟩
  | cons command rest ih =>
    cases followed : matrix.follow id drone.pose command with
    | error violation =>
      exact ⟨.ofViolation step drone.pose violation, matrix, by simp only [fly, followed], sound,
        Kin.refl matrix⟩
    | ok next =>
      have checked := follow_free (own_place sound present rfl) followed
      have committed : matrix.commitPose id next =
          .ok (matrix.replaced drone { drone with pose := next }) := by
        rw [commitPose_eq sound present, checked]
        rfl
      have name := (sound.named id drone present).1
      obtain ⟨movedSound, kin⟩ := commitPose_sound sound (owns_iff.mpr ⟨drone, present⟩) committed
      have here : (matrix.replaced drone { drone with pose := next }).drone? id =
          some { drone with pose := next } := by
        rw [replaced_drone?, if_pos name.symm]
        rfl
      obtain ⟨outcome, flown, flew, flownSound, flownKin⟩ := ih movedSound here (step + 1)
      exact ⟨outcome, flown, by simpa only [fly, followed, committed] using flew, flownSound,
        kin.trans flownKin⟩

theorem run_ok {matrix : Matrix} (sound : matrix.Sound) {id : Nat} (aboard : matrix.owns id = true)
    (commands : List Command) :
    ∃ outcome flown, matrix.run id commands = .ok (outcome, flown) ∧
      flown.Sound ∧ Kin matrix flown := by
  obtain ⟨drone, present⟩ := owns_iff.mp aboard
  obtain ⟨outcome, flown, flew, flownSound, kin⟩ := fly_ok sound present 0 commands
  exact ⟨outcome, flown, by simpa only [run, present] using flew, flownSound, kin⟩

theorem run_keeps {matrix flown : Matrix} (sound : matrix.Sound) {drone : Drone}
    {commands : List Command} {outcome : Outcome} (present : matrix.drone? drone.id = some drone)
    (ran : matrix.run drone.id commands = .ok (outcome, flown)) : flown.Sound ∧ matrix.Kin flown := by
  obtain ⟨_, _, same, kept⟩ := run_ok sound (owns_iff.mpr ⟨drone, present⟩) commands
  rw [ran] at same
  cases same
  exact kept

end DroneFleet.Matrix
