import DroneFleet.Proofs.Matrix.Courses
import Mathlib.Data.List.Forall2

/-!
Turns. Between two advances only the net rotation counts: a block of turns never fails, never moves the
drone and faces it as many quarters on as there are more right turns than left turns (`course_turns`).
Two sequences with the same net rotation block for block therefore take a drone the same way
(`course_respun`), and if they are rejected, it is for the same reason at the same advance (`run_respun`).
-/
namespace DroneFleet

namespace Command

def net (commands : List Command) : Int :=
  (commands.count .turnRight : Int) - commands.count .turnLeft

/-- The blocks of turns before, between and after the advances, one more than there are advances. -/
def blocks (commands : List Command) : List (List Command) := commands.splitOn .advance

def woven (blocks : List (List Command)) : List Command := [advance].intercalate blocks

/-- As many advances, and block for block the same net rotation modulo whole turns. -/
def Respun (commands others : List Command) : Prop :=
  List.Forall₂ (fun block other => net block % 4 = net other % 4) (blocks commands) (blocks others)

def lengthOf (blocks : List (List Command)) (count : Nat) : Nat :=
  (blocks.take count).flatten.length

structure NthAdvance (commands : List Command) (step ordinal : Nat) : Prop where
  here : commands[step]? = some advance
  before : (commands.take step).count advance = ordinal

end Command

open Command (net blocks woven lengthOf NthAdvance)

/-- Two runs come to the same: both are completed with the same pose, or both are rejected at the
advance of the same number, for the same reason and with the same pose. The one step is as much later
than the other as the blocks before it are longer. -/
inductive Outcome.Respun (commands others : List Command) : Outcome → Outcome → Prop
  | completed (pose : Pose) : Respun commands others (.completed pose) (.completed pose)
  | rejected {failedAt failedAt' ordinal : Nat} {reason : RejectReason} {pose : Pose}
      {blockedBy : Option Nat} (here : NthAdvance commands failedAt ordinal)
      (there : NthAdvance others failedAt' ordinal)
      (shifted : (failedAt' : Int) - failedAt =
        lengthOf (blocks others) (ordinal + 1) - lengthOf (blocks commands) (ordinal + 1)) :
      Respun commands others (.rejected failedAt reason pose blockedBy)
        (.rejected failedAt' reason pose blockedBy)

namespace Orientation

def rotated (orientation : Orientation) (quarters : Int) : Orientation :=
  Nat.repeat right (quarters % 4).toNat orientation

theorem rotated_congr {quarters others : Int} (same : quarters % 4 = others % 4)
    (orientation : Orientation) : orientation.rotated quarters = orientation.rotated others := by
  rw [rotated, same, rotated]

theorem right_rotated (orientation : Orientation) (quarters : Int) :
    orientation.right.rotated quarters = orientation.rotated (quarters + 1) := by
  have residues : quarters % 4 = 0 ∧ (quarters + 1) % 4 = 1 ∨ quarters % 4 = 1 ∧ (quarters + 1) % 4 = 2 ∨
      quarters % 4 = 2 ∧ (quarters + 1) % 4 = 3 ∨ quarters % 4 = 3 ∧ (quarters + 1) % 4 = 0 := by omega
  rcases residues with ⟨before, after⟩ | ⟨before, after⟩ | ⟨before, after⟩ | ⟨before, after⟩ <;>
    rw [rotated, rotated, before, after] <;> cases orientation <;> rfl

theorem left_rotated (orientation : Orientation) (quarters : Int) :
    orientation.left.rotated quarters = orientation.rotated (quarters - 1) := by
  have back : orientation.left.right = orientation := by cases orientation <;> rfl
  have forth := orientation.left.right_rotated (quarters - 1)
  rw [back, Int.sub_add_cancel] at forth
  exact forth.symm

end Orientation

def Pose.rotated (pose : Pose) (quarters : Int) : Pose :=
  { pose with orientation := pose.orientation.rotated quarters }

theorem Pose.rotated_congr {quarters others : Int} (same : quarters % 4 = others % 4) (pose : Pose) :
    pose.rotated quarters = pose.rotated others := by
  rw [rotated, Orientation.rotated_congr same, rotated]

namespace Command

theorem woven_cons_cons (block next : List Command) (ahead : List (List Command)) :
    woven (block :: next :: ahead) = block ++ advance :: woven (next :: ahead) := by
  rw [woven, List.intercalate_cons_cons, List.append_assoc]
  rfl

theorem woven_singleton (block : List Command) : woven [block] = block := List.intercalate_singleton

theorem woven_blocks (commands : List Command) : woven (blocks commands) = commands :=
  List.intercalate_splitOn advance

theorem not_mem_blocks (commands : List Command) : ∀ block ∈ blocks commands, advance ∉ block := by
  induction commands with
  | nil => simp [blocks]
  | cons command ahead ih =>
    simp only [blocks, List.splitOn_cons_eq_if_modifyHead] at ih ⊢
    split
    · simpa using ih
    · rename_i turn
      generalize List.splitOn advance ahead = rest at ih ⊢
      cases rest with
      | nil => simp
      | cons block rest =>
        obtain ⟨first, later⟩ := List.forall_mem_cons.mp ih
        refine List.forall_mem_cons.mpr ⟨fun member => ?_, later⟩
        rcases List.mem_cons.mp member with rfl | inside
        · exact turn (beq_self_eq_true _)
        · exact first inside

theorem lengthOf_cons (block : List Command) (ahead : List (List Command)) (count : Nat) :
    lengthOf (block :: ahead) (count + 1) = block.length + lengthOf ahead count := by
  simp [lengthOf]

theorem net_left (commands : List Command) : net (turnLeft :: commands) = net commands - 1 := by
  simp [net]
  omega

theorem net_right (commands : List Command) : net (turnRight :: commands) = net commands + 1 := by
  simp [net]
  omega

theorem nthAdvance_woven {blocks : List (List Command)} (turns : ∀ block ∈ blocks, advance ∉ block)
    {ordinal : Nat} (inside : ordinal + 1 < blocks.length) :
    NthAdvance (woven blocks) (ordinal + lengthOf blocks (ordinal + 1)) ordinal := by
  induction blocks generalizing ordinal with
  | nil => simp at inside
  | cons block ahead ih =>
    obtain ⟨first, later⟩ := List.forall_mem_cons.mp turns
    cases ahead with
    | nil => simp at inside
    | cons next ahead =>
      rw [woven_cons_cons, lengthOf_cons]
      cases ordinal with
      | zero => exact ⟨by simp [lengthOf], by simpa [lengthOf, List.count_eq_zero] using first⟩
      | succ ordinal =>
        have further := ih later (show ordinal + 1 < _ by simpa using inside)
        have place : ordinal + 1 + (block.length + lengthOf (next :: ahead) (ordinal + 1)) =
            block.length + (ordinal + lengthOf (next :: ahead) (ordinal + 1) + 1) := by omega
        rw [place]
        refine ⟨?_, ?_⟩
        · rw [List.getElem?_append_right (by omega), Nat.add_sub_cancel_left, List.getElem?_cons_succ]
          exact further.here
        · rw [List.take_length_add_append, List.count_append, List.take_succ_cons, List.count_cons_self,
            further.before, List.count_eq_zero.mpr first, Nat.zero_add]

end Command

open Command

namespace Matrix

theorem course_turns (matrix : Matrix) (id : Nat) {block : List Command}
    (turns : Command.advance ∉ block) (pose : Pose) (step : Nat) (rest : List Command) :
    matrix.course id pose step (block ++ rest) =
      matrix.course id (pose.rotated (net block)) (step + block.length) rest := by
  induction block generalizing pose step with
  | nil => rfl
  | cons command ahead ih =>
    obtain ⟨turn, later⟩ := List.ne_and_not_mem_of_not_mem_cons turns
    have counted : step + 1 + ahead.length = step + (command :: ahead).length := by
      rw [List.length_cons, Nat.add_comm ahead.length, Nat.add_assoc]
    cases command with
    | advance => exact absurd rfl turn
    | turnLeft =>
      have faced : pose.turnedLeft.rotated (net ahead) = pose.rotated (net (.turnLeft :: ahead)) := by
        rw [net_left]
        exact congrArg _ (pose.orientation.left_rotated _)
      rw [List.cons_append, course, follow, ← counted, ← faced]
      exact ih later pose.turnedLeft (step + 1)
    | turnRight =>
      have faced : pose.turnedRight.rotated (net ahead) = pose.rotated (net (.turnRight :: ahead)) := by
        rw [net_right]
        exact congrArg _ (pose.orientation.right_rotated _)
      rw [List.cons_append, course, follow, ← counted, ← faced]
      exact ih later pose.turnedRight (step + 1)

/-- By induction on the blocks: turns that come to the same leave the same pose for the next advance. -/
theorem course_respun (matrix : Matrix) (id : Nat) {blocks others : List (List Command)}
    (same : List.Forall₂ (fun block other => net block % 4 = net other % 4) blocks others)
    (turns : ∀ block ∈ blocks, Command.advance ∉ block)
    (turns' : ∀ block ∈ others, Command.advance ∉ block)
    (pose : Pose) (step step' : Nat) : ∃ last,
      (matrix.course id pose step (woven blocks) = (.completed last, last) ∧
        matrix.course id pose step' (woven others) = (.completed last, last)) ∨
      ∃ ordinal violation, ordinal + 1 < blocks.length ∧
        matrix.course id pose step (woven blocks) =
          (.ofViolation (step + (ordinal + lengthOf blocks (ordinal + 1))) last violation, last) ∧
        matrix.course id pose step' (woven others) =
          (.ofViolation (step' + (ordinal + lengthOf others (ordinal + 1))) last violation, last) := by
  induction same generalizing pose step step' with
  | nil => exact ⟨pose, .inl ⟨rfl, rfl⟩⟩
  | @cons block other ahead ahead' faces same ih =>
    obtain ⟨first, later⟩ := List.forall_mem_cons.mp turns
    obtain ⟨first', later'⟩ := List.forall_mem_cons.mp turns'
    have faced := pose.rotated_congr faces.symm
    cases same with
    | nil =>
      have here := course_turns matrix id first pose step []
      have there := course_turns matrix id first' pose step' []
      rw [List.append_nil] at here there
      rw [woven_singleton, woven_singleton, here, there, faced]
      exact ⟨_, .inl ⟨rfl, rfl⟩⟩
    | @cons next next' ahead ahead' faces' same =>
      rw [woven_cons_cons, woven_cons_cons, course_turns matrix id first,
        course_turns matrix id first', faced]
      cases followed : matrix.follow id (pose.rotated (net block)) .advance with
      | error violation =>
        refine ⟨pose.rotated (net block), .inr ⟨0, violation, by simp, ?_, ?_⟩⟩
        · simp [course, followed, lengthOf]
        · simp [course, followed, lengthOf]
      | ok moved =>
        simp only [course, followed]
        obtain ⟨last, ⟨here, there⟩ | ⟨ordinal, violation, inside, here, there⟩⟩ :=
          ih later later' moved (step + block.length + 1) (step' + other.length + 1)
        · exact ⟨last, .inl ⟨here, there⟩⟩
        · refine ⟨last, .inr ⟨ordinal + 1, violation, by simpa using inside, ?_, ?_⟩⟩
          · rw [here, lengthOf_cons block]
            congr 2
            omega
          · rw [there, lengthOf_cons other]
            congr 2
            omega

variable {matrix : Matrix} {id : Nat} {drone : Drone}

theorem moved_rotated (sound : matrix.Sound) (present : matrix.drone? drone.id = some drone)
    (quarters : Int) : matrix.moved drone (drone.pose.rotated quarters) =
      { matrix with
        drones := matrix.drones.insert drone.id
          { drone with pose := drone.pose.rotated quarters } } := by
  have same : (drone.pose.rotated quarters).cell = drone.pose.cell := rfl
  simp only [moved, same, Table.insert_erase, Table.insert_eq_self (sound.seated present)]

/-- Turns may be replaced by others that come to the same between any two advances, before the first one
and after the last: the matrix is left the same, and both runs are completed with the same pose, or both
are rejected at the same advance, for the same reason. A sequence of turns alone is always completed,
and nothing changes but where the drone faces. -/
theorem run_respun (sound : matrix.Sound) (present : matrix.drone? id = some drone) :
    (∀ commands others, Command.Respun commands others → ∃ outcome other flown,
      matrix.run id commands = .ok (outcome, flown) ∧ matrix.run id others = .ok (other, flown) ∧
        Outcome.Respun commands others outcome other) ∧
    ∀ turns, Command.advance ∉ turns → matrix.run id turns =
      .ok (.completed (drone.pose.rotated (net turns)),
        { matrix with
          drones := matrix.drones.insert id { drone with pose := drone.pose.rotated (net turns) } }) := by
  obtain ⟨rfl, _⟩ := sound.named id drone present
  refine ⟨fun commands others respun => ?_, fun turns still => ?_⟩
  · have turns := Command.not_mem_blocks commands
    have turns' := Command.not_mem_blocks others
    obtain ⟨last, ⟨here, there⟩ | ⟨ordinal, violation, inside, here, there⟩⟩ :=
      course_respun matrix drone.id respun turns turns' drone.pose 0 0
    all_goals
      rw [Command.woven_blocks] at here there
      rw [run_eq_course sound present, run_eq_course sound present, here, there]
    · exact ⟨_, _, _, rfl, rfl, .completed last⟩
    · have inside' := inside
      rw [respun.length_eq] at inside'
      have advance := Command.nthAdvance_woven turns inside
      have advance' := Command.nthAdvance_woven turns' inside'
      rw [Command.woven_blocks] at advance advance'
      simp only [Nat.zero_add]
      refine ⟨_, _, _, rfl, rfl, ?_⟩
      cases violation <;> exact .rejected advance advance' (by omega)
  · have turned := course_turns matrix drone.id still drone.pose 0 []
    rw [List.append_nil] at turned
    rw [run_eq_course sound present, turned, course, moved_rotated sound present]

def packed : Matrix :=
  (new 1 ⟨1, 0⟩).operated [.place 1 "" "" ⟨0, 0, .north⟩, .place 2 "" "" ⟨1, 0, .north⟩]

/-- One right turn or three left turns, the way is barred by the other drone. -/
theorem run_respun_packed :
    packed.Sound ∧ packed.drone? 1 = some ⟨1, "", "", ⟨0, 0, .north⟩, 1⟩ ∧
      Command.Respun [.turnRight, .advance]
        [.turnLeft, .turnLeft, .turnLeft, .advance, .turnLeft, .turnRight] ∧
      ∃ flown, packed.run 1 [.turnRight, .advance] =
          .ok (.rejected 1 .collisionRisk ⟨0, 0, .east⟩ (some 2), flown) ∧
        packed.run 1 [.turnLeft, .turnLeft, .turnLeft, .advance, .turnLeft, .turnRight] =
          .ok (.rejected 3 .collisionRisk ⟨0, 0, .east⟩ (some 2), flown) := by
  have sound : packed.Sound := (operated_sound (new_sound 1 ⟨1, 0⟩) _).1
  have present : packed.drone? 1 = some ⟨1, "", "", ⟨0, 0, .north⟩, 1⟩ := by decide +kernel
  have respun : Command.Respun [.turnRight, .advance]
      [.turnLeft, .turnLeft, .turnLeft, .advance, .turnLeft, .turnRight] :=
    .cons (by decide) (.cons (by decide) .nil)
  obtain ⟨outcome, other, flown, ran, ran', same⟩ := (run_respun sound present).1 _ _ respun
  have told : (packed.run 1 [.turnRight, .advance]).map (·.1) =
      .ok (.rejected 1 .collisionRisk ⟨0, 0, .east⟩ (some 2)) := rfl
  have told' : (packed.run 1 [.turnLeft, .turnLeft, .turnLeft, .advance, .turnLeft,
      .turnRight]).map (·.1) = .ok (.rejected 3 .collisionRisk ⟨0, 0, .east⟩ (some 2)) := rfl
  rw [ran] at told
  rw [ran'] at told'
  cases told
  cases told'
  exact ⟨sound, present, respun, flown, ran, ran'⟩

end Matrix

end DroneFleet
