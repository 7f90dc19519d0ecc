import DroneFleet.Matrix.Operation
import DroneFleet.Proofs.Matrix.Runs

/-!
Operations on a matrix that is built up from an empty one, with any arguments and in any order. The
matrix stays sound, and an operation that is refused has written nothing (`operated_reliable`).
-/
namespace DroneFleet.Matrix

variable {matrix : Matrix}

namespace Work

def on {α : Type} (work : Work α) (matrix : Matrix) : Except Refusal α × Matrix :=
  (work.run matrix).run

@[simp] theorem on_bind {α β : Type} (work : Work α) (next : α → Work β) (matrix : Matrix) :
    (work >>= next).on matrix = match work.on matrix with
      | (.ok value, after) => (next value).on after
      | (.error refusal, after) => (.error refusal, after) := by
  rcases done : work.on matrix with ⟨_ | _, after⟩
  all_goals
    have same : work matrix = _ := done
    simp only [on, bind, ExceptT.bind, ExceptT.mk, ExceptT.run, StateT.bind, same]
    rfl

@[simp] theorem on_pure {α : Type} (value : α) (matrix : Matrix) :
    (pure value : Work α).on matrix = (.ok value, matrix) := rfl

@[simp] theorem on_get (matrix : Matrix) : (get : Work Matrix).on matrix = (.ok matrix, matrix) := rfl

@[simp] theorem on_lift {α : Type} (result : Except Refusal α) (matrix : Matrix) :
    (liftM result : Work α).on matrix = (result, matrix) := by
  cases result <;> rfl

@[simp] theorem on_check (pose : Pose) (ignoring : Option Nat) (matrix : Matrix) :
    (check pose ignoring).on matrix = (matrix.checkPlacement pose ignoring, matrix) := by
  simp only [check, on_bind, on_get, on_lift]

theorem on_sought (matrix : Matrix) (id : Nat) :
    (sought id).on matrix = match matrix.drone? id with
      | some drone => (.ok drone, matrix)
      | none => (.error (.unknownDrone id), matrix) := by
  cases found : matrix.drone? id <;> simp only [sought, on_bind, on_get, found] <;> rfl

/-! ### All at once, or not at all -/

def outcome (matrix : Matrix) : Except Refusal Matrix → Except Refusal Unit × Matrix
  | .ok changed => (.ok (), changed)
  | .error refusal => (.error refusal, matrix)

theorem on_place (matrix : Matrix) (id : Nat) (name model : String) (pose : Pose) :
    (place id name model pose).on matrix = outcome matrix (matrix.place id name model pose) := by
  unfold place Matrix.place
  cases present : matrix.owns id with
  | true =>
    simp only [on_bind, on_get, present]
    rfl
  | false =>
    cases checked : matrix.checkPlacement pose none <;>
      simp only [ExceptT.bind_throw, on_bind, on_get, present, Bool.false_eq_true, if_false,
        on_check, checked, bind_pure_comp] <;> rfl

theorem on_remove (matrix : Matrix) (id : Nat) :
    (remove id).on matrix = match matrix.remove? id with
      | some (drone, left) => (.ok (some drone), left)
      | none => (.ok none, matrix) := by
  unfold remove Matrix.remove? drone?
  cases found : matrix.drones.get? id <;>
    simp only [bind_pure_comp, on_bind, on_get, found, Option.map_none, Option.map_some] <;> rfl

theorem on_commit (matrix : Matrix) (id : Nat) (pose : Pose) :
    (commit id pose).on matrix = outcome matrix (matrix.commitPose id pose) := by
  unfold commit Matrix.commitPose
  cases checked : matrix.checkPlacement pose (some id) with
  | error refusal =>
    simp only [on_bind, on_check, checked]
    rfl
  | ok _ =>
    cases found : matrix.drones.get? id with
    | none =>
      simp only [on_bind, on_check, checked, on_sought, drone?, found]
      rfl
    | some drone =>
      by_cases stays : drone.pose.cell = pose.cell <;>
        simp only [on_bind, on_check, checked, on_sought, drone?, found, stays, if_true, if_false,
          bind_pure_comp] <;> rfl

theorem on_rename (matrix : Matrix) (id : Nat) (name model : Option String) :
    (rename id name model).on matrix = outcome matrix (matrix.rename id name model) := by
  unfold rename Matrix.rename
  cases found : matrix.drones.get? id <;> simp only [on_bind, on_sought, drone?, found] <;> rfl

theorem on_resize (matrix : Matrix) (bounds : Bounds) :
    (resize bounds).on matrix = outcome matrix (matrix.resize bounds) := by
  unfold resize Matrix.resize
  simp only [on_bind, on_get, on_lift]
  cases matrix.drones.values.forM fun drone => bounds.check drone.pose.cell <;> rfl

theorem on_proceed {id : Nat} {pose : Pose} {step : Nat} {commands : List Command}
    {flight : Outcome} {flown : Matrix}
    (flew : matrix.fly id pose step commands = .ok (flight, flown)) :
    (proceed id pose step commands).on matrix = (.ok flight, flown) := by
  induction commands generalizing matrix pose step with
  | nil =>
    cases flew
    rfl
  | cons command rest ih =>
    simp only [Matrix.fly] at flew
    simp only [proceed, on_bind, on_get]
    cases followed : matrix.follow id pose command with
    | error violation =>
      rw [followed] at flew
      cases flew
      rfl
    | ok next =>
      cases committed : matrix.commitPose id next with
      | error refusal => simp [followed, committed] at flew
      | ok moved =>
        simp only [followed, committed] at flew
        simp only [on_bind, on_commit, committed, outcome]
        exact ih flew

end Work

/-! ### What one operation keeps -/

theorem place_sound {placed : Matrix} (sound : matrix.Sound) {id : Nat} {name model : String}
    {pose : Pose} (done : matrix.place id name model pose = .ok placed) :
    placed.Sound ∧ placed.id = matrix.id := by
  cases absent : matrix.owns id with
  | true =>
    simp only [place, absent] at done
    cases done
  | false =>
    rw [place_eq name model pose absent] at done
    cases checked : matrix.checkPlacement pose none with
    | error refusal =>
      rw [checked] at done
      cases done
    | ok _ =>
      rw [checked] at done
      cases done
      exact ⟨joined_sound sound absent rfl checked, rfl⟩

theorem aboard_of_commitPose {moved : Matrix} {id : Nat} {pose : Pose}
    (done : matrix.commitPose id pose = .ok moved) : matrix.owns id = true := by
  cases found : matrix.drones.get? id with
  | some drone => exact owns_iff.mpr ⟨drone, found⟩
  | none =>
    cases checked : matrix.checkPlacement pose (some id) <;>
      simp [commitPose, checked, found, bind, Except.bind] at done

theorem aboard_of_rename {renamed : Matrix} {id : Nat} {name model : Option String}
    (done : matrix.rename id name model = .ok renamed) : matrix.owns id = true := by
  cases found : matrix.drones.get? id with
  | some drone => exact owns_iff.mpr ⟨drone, found⟩
  | none => simp [rename, found] at done

/-- An operation is refused and has written nothing, or it keeps the matrix sound. -/
def Operates (matrix : Matrix) (operation : Operation) : Prop :=
  (∃ refusal, matrix.operate operation = (.error refusal, matrix)) ∨
    ∃ reply after, matrix.operate operation = (.ok reply, after) ∧ after.Sound ∧
      after.id = matrix.id

theorem operates_of_outcome {operation : Operation} {work : Work Unit} {result : Except Refusal Matrix}
    (same : operation.work = do work; return .done) (on : work.on matrix = Work.outcome matrix result)
    (keeps : ∀ after, result = .ok after → after.Sound ∧ after.id = matrix.id) :
    matrix.Operates operation := by
  have operated : matrix.operate operation = (operation.work).on matrix := rfl
  rw [same, Work.on_bind, on] at operated
  cases done : result with
  | error refusal => exact .inl ⟨refusal, operated.trans (by rw [done]; rfl)⟩
  | ok after => exact .inr ⟨.done, after, operated.trans (by rw [done]; rfl), keeps after done⟩

theorem operate_cases (sound : matrix.Sound) (operation : Operation) : matrix.Operates operation := by
  cases operation with
  | place id name model pose =>
    exact operates_of_outcome rfl (Work.on_place matrix id name model pose)
      fun _ done => place_sound sound done
  | remove id =>
    have operated : matrix.operate (.remove id) = (Operation.work (.remove id)).on matrix := rfl
    rw [Operation.work, Work.on_bind, Work.on_remove, remove?_eq sound] at operated
    cases found : matrix.drone? id with
    | none => exact .inr ⟨.removed none, matrix, operated.trans (by rw [found]; rfl), sound, rfl⟩
    | some drone =>
      have name := (sound.named id drone found).1
      subst name
      exact .inr ⟨.removed (some drone), matrix.without drone, operated.trans (by rw [found]; rfl),
        without_sound sound found, rfl⟩
  | commit id pose =>
    refine operates_of_outcome rfl (Work.on_commit matrix id pose) fun moved done => ?_
    obtain ⟨movedSound, kin⟩ := commitPose_sound sound (aboard_of_commitPose done) done
    exact ⟨movedSound, kin.id⟩
  | rename id name model =>
    refine operates_of_outcome rfl (Work.on_rename matrix id name model) fun renamed done => ?_
    obtain ⟨renamedSound, kin⟩ := rename_sound sound (aboard_of_rename done) done
    exact ⟨renamedSound, kin.id⟩
  | resize bounds =>
    refine operates_of_outcome rfl (Work.on_resize matrix bounds) fun resized done => ?_
    obtain ⟨resizedSound, kin⟩ := resize_sound sound done
    exact ⟨resizedSound, kin.id⟩
  | fly id commands =>
    have operated : matrix.operate (.fly id commands) =
        (Operation.work (.fly id commands)).on matrix := rfl
    rw [Operation.work, Work.on_bind, Work.fly, Work.on_bind, Work.on_sought] at operated
    cases found : matrix.drone? id with
    | none => exact .inl ⟨.unknownDrone id, operated.trans (by rw [found])⟩
    | some drone =>
      obtain ⟨flight, flown, flew, flownSound, kin⟩ := fly_ok sound found 0 commands
      refine .inr ⟨.flown flight, flown, operated.trans ?_, flownSound, kin.id⟩
      rw [found]
      simp only [Work.on_proceed flew, Work.on_pure]

/-! ### What a sequence of operations keeps -/

theorem operated_sound (sound : matrix.Sound) (operations : List Operation) :
    (matrix.operated operations).Sound ∧ (matrix.operated operations).id = matrix.id := by
  induction operations generalizing matrix with
  | nil => exact ⟨sound, rfl⟩
  | cons operation rest ih =>
    have step : matrix.operated (operation :: rest) =
        ((matrix.operate operation).2).operated rest := rfl
    rw [step]
    rcases operate_cases sound operation with ⟨refusal, done⟩ | ⟨reply, after, done, kept, same⟩
    · rw [done]
      exact ih sound
    · rw [done]
      obtain ⟨last, number⟩ := ih kept
      exact ⟨last, number.trans same⟩

theorem occupant?_eq_some_iff (sound : matrix.Sound) {cell : Cell} {ignoring : Option Nat} {id : Nat} :
    matrix.occupant? cell ignoring = some id ↔
      some id ≠ ignoring ∧ ∃ drone, matrix.drone? id = some drone ∧ drone.pose.cell = cell := by
  rw [occupant?, Option.filter_eq_some_iff, sound.indexed cell id, decide_eq_true_eq, and_comm]

/-- What may be relied on between any two operations: beside soundness, that no two drones share a
cell, that the drone on a cell is found there, and that an operation that is refused changes nothing. -/
structure Reliable (matrix : Matrix) : Prop extends Sound matrix where
  apart : ∀ first second one other, matrix.drone? first = some one →
    matrix.drone? second = some other → one.pose.cell = other.pose.cell → first = second
  occupant : ∀ cell ignoring id, matrix.occupant? cell ignoring = some id ↔
    some id ≠ ignoring ∧ ∃ drone, matrix.drone? id = some drone ∧ drone.pose.cell = cell
  refused : ∀ operation refusal, (matrix.operate operation).1 = .error refusal →
    (matrix.operate operation).2 = matrix

theorem Sound.reliable (sound : matrix.Sound) : matrix.Reliable where
  toSound := sound
  apart _ _ _ _ found found' same := sound.apart found found' same
  occupant _ _ _ := occupant?_eq_some_iff sound
  refused operation refusal failed := by
    rcases operate_cases sound operation with ⟨_, done⟩ | ⟨reply, after, done, _⟩
    · rw [done]
    · rw [done] at failed
      cases failed

/-- Whatever is done to a new matrix, with whatever arguments, it stays reliable under its number. -/
theorem operated_reliable (id : Nat) (bounds : Bounds) (operations : List Operation) :
    ((new id bounds).operated operations).Reliable ∧
      ((new id bounds).operated operations).id = id := by
  obtain ⟨sound, number⟩ := operated_sound (new_sound id bounds) operations
  exact ⟨sound.reliable, number⟩

end DroneFleet.Matrix
