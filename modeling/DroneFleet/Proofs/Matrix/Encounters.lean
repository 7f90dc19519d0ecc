import DroneFleet.Proofs.Matrix.Courses

/-!
Drones that keep clear of each other. A run looks only at the cells that it touches (`Matrix.trail`), and
it changes only two of them, the first and the last. If two drones touch no cell in common, neither
notices whether the other has flown before it, and they may fly in either order (`run_commutes`).
-/
namespace DroneFleet.Matrix

def ahead? (matrix : Matrix) (pose : Pose) : Option Cell :=
  pose.cellAhead.filter matrix.bounds.contains

/-- The cells that a drone touches when it runs a sequence: those where it stands after any part of the
sequence, none of it at first, and the one that a rejected advance leads to, if there is one. -/
inductive Touches (matrix : Matrix) (id : Nat) (commands : List Command) : Cell → Prop
  | stands {count : Nat} {outcome : Outcome} {flown : Matrix} {drone : Drone}
      (ran : matrix.run id (commands.take count) = .ok (outcome, flown))
      (there : flown.drone? id = some drone) : Touches matrix id commands drone.pose.cell
  | tries {failedAt : Nat} {reason : RejectReason} {pose : Pose} {blockedBy : Option Nat}
      {flown : Matrix} {cell : Cell}
      (ran : matrix.run id commands = .ok (.rejected failedAt reason pose blockedBy, flown))
      (ahead : matrix.ahead? pose = some cell) : Touches matrix id commands cell

def trail (matrix : Matrix) (id : Nat) (pose : Pose) : List Command → List Cell
  | [] => [pose.cell]
  | command :: rest => pose.cell :: match matrix.follow id pose command with
    | .error _ => (matrix.ahead? pose).toList
    | .ok next => matrix.trail id next rest

variable {matrix : Matrix} {id : Nat} {drone : Drone}

theorem cell_mem_trail (matrix : Matrix) (id : Nat) (pose : Pose) (commands : List Command) :
    pose.cell ∈ matrix.trail id pose commands := by
  cases commands <;> simp [trail]

theorem ahead_mem_trail {pose : Pose} {cell : Cell} (ahead : matrix.ahead? pose = some cell) (id : Nat)
    (rest : List Command) : cell ∈ matrix.trail id pose (.advance :: rest) := by
  rw [trail]
  cases followed : matrix.follow id pose .advance with
  | error violation => simp [ahead]
  | ok next =>
    obtain ⟨_, reached, here, rfl⟩ := advance_eq_ok.mp followed
    rw [(Option.filter_eq_some_iff.mp ahead).1] at here
    cases here
    exact List.mem_cons_of_mem _ (cell_mem_trail matrix id _ rest)

/-- A trail is made up of the ends of all parts of the course, and of the cell where it is rejected. -/
theorem mem_trail {pose : Pose} (step : Nat) {commands : List Command} {cell : Cell} :
    cell ∈ matrix.trail id pose commands ↔
      (∃ count, (matrix.course id pose step (commands.take count)).2.cell = cell) ∨
      ∃ failedAt reason held blockedBy,
        (matrix.course id pose step commands).1 = .rejected failedAt reason held blockedBy ∧
          matrix.ahead? held = some cell := by
  induction commands generalizing pose step with
  | nil => simp [trail, course, eq_comm]
  | cons command rest ih =>
    cases followed : matrix.follow id pose command with
    | error violation =>
      have stays : ∀ count,
          (matrix.course id pose step ((command :: rest).take count)).2 = pose := by
        intro count
        cases count <;> simp [course, followed]
      have stops : ∃ reason blockedBy, (matrix.course id pose step (command :: rest)).1 =
          .rejected step reason pose blockedBy := by
        cases violation <;> exact ⟨_, _, by simp only [course, followed]; rfl⟩
      obtain ⟨reason, blockedBy, stops⟩ := stops
      have rejected : (∃ failedAt reason held blockedBy,
          (matrix.course id pose step (command :: rest)).1 =
            .rejected failedAt reason held blockedBy ∧ matrix.ahead? held = some cell) ↔
          matrix.ahead? pose = some cell := by
        rw [stops]
        constructor
        · rintro ⟨_, _, _, _, same, ahead⟩
          cases same
          exact ahead
        · exact fun ahead => ⟨_, _, _, _, rfl, ahead⟩
      rw [rejected]
      simp [trail, followed, stays, eq_comm]
    | ok next =>
      rw [trail, ← Nat.or_exists_add_one, or_assoc]
      simp only [List.take_zero, List.take_succ_cons, course, followed, List.mem_cons, ih (step + 1),
        eq_comm]

theorem touches_iff (sound : matrix.Sound) (present : matrix.drone? id = some drone)
    {commands : List Command} {cell : Cell} :
    matrix.Touches id commands cell ↔ cell ∈ matrix.trail id drone.pose commands := by
  obtain ⟨rfl, _⟩ := sound.named id drone present
  rw [mem_trail 0]
  constructor
  · rintro (⟨ran, there⟩ | ⟨ran, ahead⟩)
    · rw [run_eq_course sound present] at ran
      cases ran
      rw [moved_present] at there
      cases there
      exact .inl ⟨_, rfl⟩
    · rw [run_eq_course sound present] at ran
      injection ran with ran
      exact .inr ⟨_, _, _, _, congrArg Prod.fst ran, ahead⟩
  · rintro (⟨count, rfl⟩ | ⟨failedAt, reason, held, blockedBy, stops, ahead⟩)
    · exact .stands (run_eq_course sound present (commands.take count)) (moved_present ..)
    · exact .tries (stops ▸ run_eq_course sound present commands) ahead

theorem end_mem_trail (matrix : Matrix) (id : Nat) (pose : Pose) (step : Nat)
    (commands : List Command) :
    (matrix.course id pose step commands).2.cell ∈ matrix.trail id pose commands :=
  (mem_trail step).mpr (.inl ⟨commands.length, by rw [List.take_length]⟩)

/-! ### Two drones -/

section

variable {pose held : Pose}

/-- Advancing to a cell that another drone neither leaves nor comes to is as if it had not moved. -/
theorem moved_advance_apart (left : ∀ cell, matrix.ahead? held = some cell → cell ≠ drone.pose.cell)
    (reached : ∀ cell, matrix.ahead? held = some cell → cell ≠ pose.cell) :
    (matrix.moved drone pose).advance id held = matrix.advance id held := by
  have within : (matrix.moved drone pose).bounds = matrix.bounds := rfl
  rw [advance, advance, within]
  cases ahead : held.cellAhead.filter matrix.bounds.contains with
  | none => rfl
  | some cell =>
    have same : (matrix.moved drone pose).occupant? cell (some id) =
        matrix.occupant? cell (some id) := by
      rw [occupant?, occupant?, moved, Table.get?_insert, if_neg (reached cell ahead),
        Table.get?_erase, if_neg (left cell ahead)]
    simp only [same]

theorem moved_course_apart {commands : List Command}
    (left : drone.pose.cell ∉ matrix.trail id held commands)
    (reached : pose.cell ∉ matrix.trail id held commands) (step : Nat) :
    (matrix.moved drone pose).course id held step commands = matrix.course id held step commands := by
  induction commands generalizing held step with
  | nil => rfl
  | cons command rest ih =>
    have same : (matrix.moved drone pose).follow id held command = matrix.follow id held command := by
      cases command with
      | turnLeft => rfl
      | turnRight => rfl
      | advance =>
        exact moved_advance_apart
          (fun cell ahead => ne_of_mem_of_not_mem (ahead_mem_trail ahead id rest) left)
          (fun cell ahead => ne_of_mem_of_not_mem (ahead_mem_trail ahead id rest) reached)
    rw [course, course, same]
    cases followed : matrix.follow id held command with
    | error violation => rfl
    | ok next =>
      simp only [trail, followed, List.mem_cons, not_or] at left reached
      exact ih left.2 reached.2 (step + 1)

end

theorem moved_comm {one other : Drone} {pose next : Pose} (different : one.id ≠ other.id)
    (ends : next.cell ≠ pose.cell) (onto : next.cell ≠ one.pose.cell)
    (from_ : other.pose.cell ≠ pose.cell) :
    (matrix.moved one pose).moved other next = (matrix.moved other next).moved one pose := by
  simp only [moved, Table.insert_comm _ different, Matrix.mk.injEq, true_and]
  apply Table.ext_get?
  intro cell
  simp only [Table.get?_insert, Table.get?_erase]
  split <;> split <;> simp_all

theorem run_moved {one other : Drone} (different : one.id ≠ other.id)
    (present : matrix.drone? other.id = some other) {pose : Pose}
    (kept : (matrix.moved one pose).Sound) {commands : List Command}
    (left : one.pose.cell ∉ matrix.trail other.id other.pose commands)
    (reached : pose.cell ∉ matrix.trail other.id other.pose commands) :
    (matrix.moved one pose).run other.id commands =
      .ok ((matrix.course other.id other.pose 0 commands).1,
        (matrix.moved one pose).moved other (matrix.course other.id other.pose 0 commands).2) := by
  have still : (matrix.moved one pose).drone? other.id = some other := by
    rw [moved_drone?, if_neg different.symm, present]
  rw [run_eq_course kept still, moved_course_apart left reached]

/-- Two drones that touch no cell in common may run in either order: each comes to what it would have
come to alone, and the matrix is the same in the end. -/
theorem run_commutes (sound : matrix.Sound) {first second : Nat} (different : first ≠ second)
    (aboard : matrix.owns first = true) (aboard' : matrix.owns second = true)
    {commands others : List Command}
    (apart : ∀ cell, matrix.Touches first commands cell → ¬ matrix.Touches second others cell) :
    ∃ outcome outcome' here there last,
      matrix.run first commands = .ok (outcome, here) ∧
      here.run second others = .ok (outcome', last) ∧
      matrix.run second others = .ok (outcome', there) ∧
      there.run first commands = .ok (outcome, last) := by
  obtain ⟨one, present⟩ := owns_iff.mp aboard
  obtain ⟨other, present'⟩ := owns_iff.mp aboard'
  simp only [touches_iff sound present, touches_iff sound present'] at apart
  obtain ⟨rfl, _⟩ := sound.named first one present
  obtain ⟨rfl, _⟩ := sound.named second other present'
  have start := cell_mem_trail matrix one.id one.pose commands
  have start' := cell_mem_trail matrix other.id other.pose others
  have ends := end_mem_trail matrix one.id one.pose 0 commands
  have ends' := end_mem_trail matrix other.id other.pose 0 others
  have ran := run_eq_course sound present commands
  have ran' := run_eq_course sound present' others
  have kept := (run_keeps sound present ran).1
  have kept' := (run_keeps sound present' ran').1
  have distinct : ∀ {pose next : Pose}, pose.cell ∈ matrix.trail one.id one.pose commands →
      next.cell ∈ matrix.trail other.id other.pose others → next.cell ≠ pose.cell :=
    fun touched touched' same => apart _ touched (same ▸ touched')
  refine ⟨_, _, _, _, _, ran, run_moved different present' kept (apart _ start) (apart _ ends), ran',
    ?_⟩
  rw [moved_comm different (distinct ends ends') (distinct start ends') (distinct ends start')]
  exact run_moved different.symm present kept' (fun touched => apart _ touched start')
    fun touched => apart _ touched ends'

/-- The scout climbs on the first column; the other drone comes down on the second and is stopped at the
lower edge. -/
theorem run_commutes_crossing :
    crossing.Sound ∧ crossing.owns 1 = true ∧ crossing.owns 2 = true ∧
      (∀ cell, crossing.Touches 1 [.advance, .advance] cell →
        ¬ crossing.Touches 2 [.advance, .advance] cell) ∧
      ∃ here there last,
        crossing.run 1 [.advance, .advance] = .ok (.completed ⟨0, 2, .north⟩, here) ∧
        here.run 2 [.advance, .advance] =
          .ok (.rejected 1 .boundaryViolation ⟨1, 0, .south⟩ none, last) ∧
        crossing.run 2 [.advance, .advance] =
          .ok (.rejected 1 .boundaryViolation ⟨1, 0, .south⟩ none, there) ∧
        there.run 1 [.advance, .advance] = .ok (.completed ⟨0, 2, .north⟩, last) := by
  have sound : crossing.Sound := (operated_sound (new_sound 7 ⟨3, 3⟩) _).1
  have present : crossing.drone? 1 = some scout := by decide +kernel
  have post : crossing.drone? 2 = some ⟨2, "post", "", ⟨1, 1, .south⟩, 7⟩ := by decide +kernel
  have aboard := owns_iff.mpr ⟨_, present⟩
  have aboard' := owns_iff.mpr ⟨_, post⟩
  have apart : ∀ cell, crossing.Touches 1 [.advance, .advance] cell →
      ¬ crossing.Touches 2 [.advance, .advance] cell := by
    simp only [touches_iff sound present, touches_iff sound post]
    decide +kernel
  obtain ⟨outcome, outcome', here, there, last, ran, then_, ran', then'⟩ :=
    run_commutes sound (by decide) aboard aboard' apart
  have ends : crossing.run 1 [.advance, .advance] = .ok (.completed ⟨0, 2, .north⟩, _) :=
    run_eq_course sound (show crossing.drone? scout.id = some scout from present) _
  have ends' : crossing.run 2 [.advance, .advance] =
      .ok (.rejected 1 .boundaryViolation ⟨1, 0, .south⟩ none, _) :=
    run_eq_course sound (show crossing.drone? (Drone.id ⟨2, _, _, _, _⟩) = some _ from post) _
  rw [ran] at ends
  rw [ran'] at ends'
  cases ends
  cases ends'
  exact ⟨sound, aboard, aboard', apart, _, _, last, ran, then_, ran', then'⟩

end DroneFleet.Matrix
