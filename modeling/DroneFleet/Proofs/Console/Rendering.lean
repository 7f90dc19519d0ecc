import DroneFleet.Console.Rendering
import DroneFleet.Proofs.Crowd.Blockers
import DroneFleet.Proofs.Crowd.Fates
import DroneFleet.Proofs.Text.Decimal

/-!
What an operator can tell from the text of a report. No line has a break in it, so the lines can be told
apart (`Response.splitOn_rendered`). In the line of an outcome each numeral stands before something that
is no digit, and a blocker that is left out is left out at the boundary only, so a line tells its outcome
(`Outcome.line_injective`).
-/
namespace DroneFleet

namespace Text

def Unbroken (text : String) : Prop := '\n' ∉ text.toList

instance (text : String) : Decidable (Unbroken text) := inferInstanceAs (Decidable (_ ∉ _))

@[simp] theorem unbroken_append (first second : String) :
    Unbroken (first ++ second) ↔ Unbroken first ∧ Unbroken second := by
  simp [Unbroken, String.toList_append]

@[simp] theorem unbroken_numeral (value : Nat) : Unbroken (toString value) :=
  fun member => Bool.false_ne_true (isDigit_of_mem_numeral member)

theorem head?_append {mark : String} {first : Char} (starts : mark.toList.head? = some first)
    (rest : String) : (mark ++ rest).toList.head? = some first := by
  rw [String.toList_append, List.head?_append, starts, Option.some_or]

end Text

open Text

theorem Orientation.label_injective {one other : Orientation} (same : one.label = other.label) :
    one = other := by
  have read := congrArg ofLabel? same
  rw [ofLabel?_label, ofLabel?_label] at read
  exact Option.some.inj read

theorem Pose.text_unbroken (pose : Pose) : Unbroken pose.text := by
  have label : Unbroken pose.orientation.label := by cases pose.orientation <;> decide
  simp only [text, unbroken_append, unbroken_numeral, label, and_true]
  decide

theorem Pose.text_injective {one other : Pose} (same : one.text = other.text) : one = other := by
  obtain ⟨x, y, orientation⟩ := one
  obtain ⟨x', y', orientation'⟩ := other
  simp only [text, String.append_assoc, String.append_right_inj] at same
  obtain ⟨column, after⟩ := numeral_append_inj ⟨',', rfl, rfl⟩ same
  obtain ⟨row, label⟩ := numeral_append_inj ⟨',', rfl, rfl⟩ after
  rw [UInt32.toNat_inj.mp column, UInt32.toNat_inj.mp row,
    Orientation.label_injective ((String.append_left_inj ")").mp label)]

namespace Outcome

theorem cause_collision (blocker : Nat) :
    cause .collisionRisk (some blocker) = "collision risk with drone " ++ toString blocker := rfl

theorem cause_boundary (blocker : Option Nat) :
    cause .boundaryViolation blocker = "boundary violation" := rfl

theorem phrase_rejected (failedAt : Nat) (reason : RejectReason) (pose : Pose)
    (blockedBy : Option Nat) : (rejected failedAt reason pose blockedBy).phrase =
      "rejected at command " ++ (toString failedAt ++ (" (" ++ (cause reason blockedBy ++
        ("), holding " ++ pose.text)))) := by
  unfold phrase
  simp only [String.append_assoc]

theorem head?_cause (reason : RejectReason) (blocker : Option Nat) :
    (cause reason blocker).toList.head? =
      some (match reason with | .collisionRisk => 'c' | .boundaryViolation => 'b') := by
  cases reason with
  | collisionRisk =>
    cases blocker with
    | none => rfl
    | some drone => exact head?_append rfl _
  | boundaryViolation =>
    rw [cause_boundary]
    rfl

theorem cause_injective {reason reason' : RejectReason} {blocker blocker' : Option Nat}
    {rest rest' : String} (candid : reason = .collisionRisk ↔ blocker.isSome = true)
    (candid' : reason' = .collisionRisk ↔ blocker'.isSome = true)
    (same : cause reason blocker ++ ("), holding " ++ rest) =
      cause reason' blocker' ++ ("), holding " ++ rest')) :
    reason = reason' ∧ blocker = blocker' ∧ rest = rest' := by
  have heads := congrArg (·.toList.head?) same
  simp only [head?_append (head?_cause _ _)] at heads
  cases reason with
  | collisionRisk =>
    cases reason' with
    | collisionRisk =>
      obtain ⟨drone, rfl⟩ := Option.isSome_iff_exists.mp (candid.mp rfl)
      obtain ⟨drone', rfl⟩ := Option.isSome_iff_exists.mp (candid'.mp rfl)
      simp only [cause_collision, String.append_assoc, String.append_right_inj] at same
      obtain ⟨rfl, behind⟩ := numeral_append_inj ⟨')', rfl, rfl⟩ same
      exact ⟨rfl, rfl, behind⟩
    | boundaryViolation => cases heads
  | boundaryViolation =>
    cases reason' with
    | collisionRisk => cases heads
    | boundaryViolation =>
      -- No blocker is written here, and a candid outcome has none to leave out.
      simp only [reduceCtorEq, false_iff, Option.not_isSome_iff_eq_none] at candid candid'
      subst candid candid'
      simp only [cause_boundary, String.append_right_inj] at same
      exact ⟨rfl, rfl, same⟩

theorem head?_phrase (outcome : Outcome) : outcome.phrase.toList.head? = some (match outcome with
    | completed _ => 'c' | rejected _ _ _ _ => 'r' | notAttempted => 'n') := by
  cases outcome with
  | completed pose => exact head?_append rfl _
  | rejected failedAt reason pose blockedBy =>
    rw [phrase_rejected]
    exact head?_append rfl _
  | notAttempted => rfl

theorem phrase_injective {one other : Outcome} (candid : one.Candid) (candid' : other.Candid)
    (same : one.phrase = other.phrase) : one = other := by
  have heads := congrArg (·.toList.head?) same
  simp only [head?_phrase] at heads
  cases one with
  | completed pose =>
    cases other with
    | completed pose' => rw [Pose.text_injective ((String.append_right_inj _).mp same)]
    | _ => cases heads
  | rejected failedAt reason pose blockedBy =>
    cases other with
    | rejected failedAt' reason' pose' blockedBy' =>
      rw [phrase_rejected, phrase_rejected, String.append_right_inj] at same
      obtain ⟨rfl, why⟩ := numeral_append_inj ⟨' ', rfl, rfl⟩ same
      obtain ⟨rfl, rfl, held⟩ := cause_injective candid candid' why
      rw [Pose.text_injective held]
    | _ => cases heads
  | notAttempted =>
    cases other with
    | notAttempted => rfl
    | _ => cases heads

theorem line_injective {id id' : Nat} {one other : Outcome} (candid : one.Candid)
    (candid' : other.Candid) (same : one.line id = other.line id') : id = id' ∧ one = other := by
  simp only [line, String.append_assoc, String.append_right_inj] at same
  obtain ⟨number, phrases⟩ := numeral_append_inj ⟨':', rfl, rfl⟩ same
  exact ⟨number, phrase_injective candid candid' phrases⟩

theorem line_unbroken (id : Nat) (outcome : Outcome) : Unbroken (outcome.line id) := by
  have phrased : Unbroken outcome.phrase := by
    cases outcome with
    | completed pose => exact (unbroken_append _ _).mpr ⟨by decide, pose.text_unbroken⟩
    | rejected failedAt reason pose blockedBy =>
      have why : Unbroken (cause reason blockedBy) := by
        cases reason with
        | collisionRisk =>
          cases blockedBy with
          | none => decide
          | some drone => exact (unbroken_append _ _).mpr ⟨by decide, unbroken_numeral drone⟩
        | boundaryViolation =>
          rw [cause_boundary]
          decide
      simp only [phrase_rejected, unbroken_append, unbroken_numeral, why, pose.text_unbroken,
        and_true, true_and]
      decide
    | notAttempted => decide
  simp only [line, unbroken_append, unbroken_numeral, phrased, and_true]
  decide

end Outcome

namespace Response

theorem toList_rendered (response : Response) :
    response.rendered.toList = ['\n'].intercalate (response.lines.map String.toList ++ [[]]) := by
  rw [rendered, String.toList_join]
  induction response.lines with
  | nil => rfl
  | cons line lines ih =>
    rw [List.map_cons, List.flatMap_cons, ih, List.map_cons, List.cons_append,
      List.intercalate_cons_of_ne_nil (by simp), String.toList_append]
    rfl

theorem splitOn_rendered {response : Response}
    (unbroken : ∀ line ∈ response.lines, Unbroken line) :
    response.rendered.toList.splitOn '\n' = response.lines.map String.toList ++ [[]] := by
  rw [toList_rendered]
  refine List.splitOn_intercalate '\n' ?_ (by simp)
  refine List.forall_mem_append.mpr ⟨?_, by simp⟩
  intro characters member
  obtain ⟨line, inside, rfl⟩ := List.mem_map.mp member
  exact unbroken line inside

end Response

namespace DroneOutcome

def line (entry : DroneOutcome) : String := entry.outcome.line entry.droneId

theorem line_injective {entry entry' : DroneOutcome} (candid : entry.outcome.Candid)
    (candid' : entry'.outcome.Candid) (same : entry.line = entry'.line) : entry = entry' := by
  obtain ⟨id, outcome⟩ := entry
  obtain ⟨id', outcome'⟩ := entry'
  obtain ⟨rfl, rfl⟩ := Outcome.line_injective candid candid' same
  rfl

theorem AllCandid.map_line_injective {outcomes outcomes' : List DroneOutcome}
    (candid : AllCandid outcomes) (candid' : AllCandid outcomes')
    (same : outcomes.map line = outcomes'.map line) : outcomes = outcomes' := by
  induction outcomes generalizing outcomes' with
  | nil => exact (List.map_eq_nil_iff.mp same.symm).symm
  | cons entry outcomes ih =>
    cases outcomes' with
    | nil => cases same
    | cons entry' outcomes' =>
      obtain ⟨first, later⟩ := List.forall_mem_cons.mp candid
      obtain ⟨first', later'⟩ := List.forall_mem_cons.mp candid'
      obtain ⟨head, tail⟩ := List.cons.inj same
      rw [line_injective first first' head, ih later later' tail]

end DroneOutcome

namespace BatchReport

theorem splitOn_rendered (report : BatchReport) : (Response.batch report).rendered.toList.splitOn '\n' =
    report.outcomes.map (·.line.toList) ++ [[]] := by
  have unbroken : ∀ line ∈ (Response.batch report).lines, Unbroken line := by
    intro line member
    obtain ⟨entry, _, rfl⟩ := List.mem_map.mp member
    exact Outcome.line_unbroken _ _
  rw [Response.splitOn_rendered unbroken, Response.lines, List.map_map]
  rfl

/-- The text of a report has a line for each outcome, in their order. Of two reports that have been
produced, the lines are different where the outcomes are, and so are the texts. -/
theorem rendered_tells {one other : BatchReport} (produced : one.Produced)
    (produced' : other.Produced) :
    (Response.batch one).rendered.toList.splitOn '\n' = one.outcomes.map (·.line.toList) ++ [[]] ∧
    (∀ entry ∈ one.outcomes, ∀ entry' ∈ other.outcomes, entry.line = entry'.line → entry = entry') ∧
    ((Response.batch one).rendered = (Response.batch other).rendered →
      one.outcomes = other.outcomes) := by
  have candid := produced.candid
  have candid' := produced'.candid
  refine ⟨one.splitOn_rendered, ?_, fun same => ?_⟩
  · intro entry member entry' member'
    exact DroneOutcome.line_injective (candid entry member) (candid' entry' member')
  · have pieces := congrArg (·.toList.splitOn '\n') same
    simp only [splitOn_rendered, List.append_cancel_right_eq] at pieces
    have lines : (one.outcomes.map (·.line)).map String.toList =
        (other.outcomes.map (·.line)).map String.toList := by
      rw [List.map_map, List.map_map]
      exact pieces
    exact candid.map_line_injective candid'
      ((List.map_inj_right fun _ _ => String.toList_inj.mp).mp lines)

open Fleet in
/-- Two reports on drones of different names have the same text. -/
theorem rendered_tells_namesakes : ∃ one other : BatchReport, one ≠ other ∧ one.Produced ∧
    other.Produced ∧ (Response.batch one).rendered = (Response.batch other).rendered ∧
      one.outcomes = other.outcomes := by
  let renamed := corner ++ [(false, .updateDrone 2 ⟨some "guest", none, none, none, none, none⟩)]
  let events := .submit stepping :: Crowd.interrupted
  let outcomes : List DroneOutcome := [⟨1, .rejected 0 .collisionRisk ⟨0, 0, .east⟩ (some 2)⟩,
    ⟨2, .completed ⟨1, 1, .north⟩⟩, ⟨3, .notAttempted⟩]
  have produced : BatchReport.Produced ⟨outcomes, [⟨2, "", "", ⟨1, 1, .north⟩, 1⟩]⟩ :=
    ⟨empty.serve corner, events, 0, by decide +kernel⟩
  have produced' : BatchReport.Produced ⟨outcomes, [⟨2, "guest", "", ⟨1, 1, .north⟩, 1⟩]⟩ :=
    ⟨empty.serve renamed, events, 0, by decide +kernel⟩
  exact ⟨_, _, by decide, produced, produced', rfl, (rendered_tells produced produced').2.2 rfl⟩

end BatchReport

end DroneFleet
