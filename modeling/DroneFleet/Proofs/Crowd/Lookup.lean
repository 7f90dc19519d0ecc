import DroneFleet.Proofs.Crowd.Steps
import Mathlib.Data.List.Induction

/-!
When a request is told that a drone is unknown. Either nobody owns the drone at the moment when the
request looks, or the directory names the matrix that the request has just given up because the drone
was not there: the drone has been away and has come back in between. The second kind of answer is
wrong, and it can be given (`returning_drone_unknown`).
-/
namespace DroneFleet

def Stage.missed? : Stage → Option (Nat × Nat)
  | locate drone (some id) _ => some (drone, id)
  | leave _ next => next.missed?
  | _ => none

theorem Refusal.unknownDrone_of_response {refusal : Refusal} {drone : Nat}
    (same : Response.ofRefusal refusal = .ofRefusal (.unknownDrone drone)) :
    refusal = .unknownDrone drone := by
  obtain ⟨kinds, messages⟩ := Response.error.inj same
  cases refusal with
  | unknownDrone other =>
    have texts : "Unknown drone: " ++ toString other = "Unknown drone: " ++ toString drone := messages
    have numerals : other.repr = drone.repr := String.append_right_inj _ |>.mp texts
    have digits : Nat.toDigits 10 other = Nat.toDigits 10 drone := by
      rw [← Nat.toList_repr, ← Nat.toList_repr, numerals]
    have same : other = drone := by
      rw [← @Nat.ofDigitChars_ten_toDigits other, digits, Nat.ofDigitChars_ten_toDigits]
    rw [same]
  | _ => cases kinds

namespace Stage

theorem Closes.missed {response : Response} {stage : Stage} (closes : stage.Closes response) :
    stage.missed? = none := by
  induction stage with
  | leave id next ih => exact ih closes
  | done other => rfl
  | _ => exact closes.elim

theorem Answers.missed {response : Response} {stage : Stage} (answers : stage.Answers response) :
    stage.missed? = none := by
  cases stage with
  | publish matrix => rfl
  | record drone owner next => rfl
  | withdraw id next => rfl
  | leave id next =>
    have closes : next.Closes response := answers
    exact closes.missed
  | done other => rfl
  | _ => exact answers.elim

theorem visit_missed (listing : Listing) (seen : List MatrixView) (ahead : List Nat) :
    (visit listing seen ahead).missed? = none := by
  cases ahead <;> rfl

theorem Opening.missed {stage : Stage} (opening : stage.Opening) : stage.missed? = none := by
  cases opening <;> rfl

theorem missing_missed {id drone matrix : Nat} {purpose : Purpose}
    (missed : (missing id purpose).missed? = some (drone, matrix)) :
    matrix = id ∧ ∃ wanted, purpose = .home drone wanted := by
  cases purpose with
  | survey listing ahead seen =>
    simp only [missing, visit_missed] at missed
    cases missed
  | home other wanted =>
    cases missed
    exact ⟨rfl, wanted, rfl⟩
  | _ => cases missed

end Stage

namespace Crowd

variable {crowd : Crowd} {whole : Fleet} {number : Nat} {stage next : Stage} {request : Request}

theorem Orderly.missed_elsewhere (orderly : crowd.Orderly whole)
    (here : crowd.stages.get? number = some stage) (serves : stage.Serves request)
    (goes : stage.Goes crowd.fleet next) {drone id : Nat}
    (missed : next.missed? = some (drone, id)) :
    stage.missed? = some (drone, id) ∨ crowd.fleet.owner? drone ≠ some id := by
  have clear := orderly.clear here serves.pending?
  cases goes with
  | starts plain =>
    rw [(Stage.ofRequest_opening _).missed] at missed
    cases missed
  | surveys listing =>
    rw [Stage.visit_missed] at missed
    cases missed
  | misses unlisted =>
    obtain ⟨rfl, _⟩ := Stage.missing_missed missed
    refine .inr fun known => ?_
    rw [orderly.listed_of_owner known] at unlisted
    cases unlisted
  | finds_gone gone =>
    obtain ⟨rfl, _⟩ := Stage.missing_missed missed
    refine .inr (clear.owner_ne List.mem_cons_self ?_)
    intro matrix standing
    rw [gone] at standing
    cases standing
  | views =>
    simp only [Stage.missed?, Stage.visit_missed] at missed
    cases missed
  | strays standing stray =>
    cases missed
    refine .inr (clear.owner_ne List.mem_cons_self ?_)
    intro found standing'
    rw [standing] at standing'
    cases standing'
    exact stray
  | leaves => exact .inl missed
  | _ => cases missed

theorem Move.missed {after : Fleet} (move : Move crowd request stage next after)
    (orderly : crowd.Orderly whole) (here : crowd.stages.get? number = some stage)
    {drone id : Nat} (missed : next.missed? = some (drone, id)) :
    stage.missed? = some (drone, id) ∨ crowd.fleet.owner? drone ≠ some id := by
  have answered : ∀ response, ¬ next.Answers response := by
    intro response answers
    rw [answers.missed] at missed
    cases missed
  cases move with
  | enters => cases missed
  | turns serves follows =>
    have turn : stage.Turn crowd.grounded request crowd.fleet next after := follows.turn
    cases turn with
    | goes goes _ => exact orderly.missed_elsewhere here serves goes missed
    | refused closes _ => exact absurd closes.answers (answered _)
    | told closes _ _ => exact absurd closes.answers (answered _)
    | does _ _ answers _ _ => exact absurd answers (answered _)
    | flies => cases missed
  | writes _ _ closes _ _ => exact absurd closes.answers (answered _)
  | leaves _ closes => exact absurd closes.answers (answered _)
  | flies => cases missed
  | lands => cases missed

/-! ### Over a run -/

/-- A request that has missed a drone on a matrix was under way at a moment when the directory had
the drone elsewhere, or nowhere. -/
theorem missed_before {fleet : Fleet} (sound : fleet.Sound) (events : List Event) :
    ∀ number stage drone id, ((new fleet).run events).stages.get? number = some stage →
      stage.missed? = some (drone, id) → ∃ earlier later, events = earlier ++ later ∧
        number < ((new fleet).run earlier).requests.length ∧
        ((new fleet).run earlier).fleet.owner? drone ≠ some id := by
  induction events using List.reverseRecOn with
  | nil =>
    intro number stage drone id here
    cases here
  | append_singleton events event ih =>
    intro number stage drone id there missed
    obtain ⟨whole, orderly⟩ := (new_orderly sound).run events
    have before : ∀ found, ((new fleet).run events).stages.get? number = some found →
        found.missed? = some (drone, id) → ∃ earlier later,
          events ++ [event] = earlier ++ later ∧
          number < ((new fleet).run earlier).requests.length ∧
          ((new fleet).run earlier).fleet.owner? drone ≠ some id := by
      intro found here missed
      obtain ⟨earlier, later, split, made, away⟩ := ih number found drone id here missed
      exact ⟨earlier, later ++ [event], by rw [split, List.append_assoc], made, away⟩
    rw [run_append] at there
    rcases orderly.step_stage there with
      old | ⟨request, _, rfl⟩ | ⟨request, found, after, _, here, _, move⟩
    · exact before stage old missed
    · cases missed
    · rcases move.missed orderly here missed with still | away
      · exact before found here still
      · obtain ⟨_, asked, _⟩ := orderly.belongs number found here
        exact ⟨events, [event], rfl, (List.getElem?_eq_some_iff.mp asked).1, away⟩

theorem misses_step {drone : Nat} (misses : stage.Misses crowd.fleet drone) :
    crowd.blocks stage = false ∧ ∃ next, stage.next crowd.grounded crowd.fleet = (next, crowd.fleet) ∧
      next.Closes (.ofRefusal (.unknownDrone drone)) := by
  cases stage with
  | locate wanted last errand =>
    obtain ⟨rfl, missed⟩ := misses
    refine ⟨rfl, Stage.refused (.unknownDrone wanted), ?_, rfl⟩
    cases known : crowd.fleet.owner? wanted with
    | none => simp only [Stage.next, known]
    | some owner =>
      have same : last = some owner := by
        rw [known] at missed
        exact (missed.resolve_left (by simp)).symm
      simp only [Stage.next, known, same, if_true]
  | mismatch id stranger =>
    obtain ⟨rfl, unowned⟩ := misses
    refine ⟨rfl, .leave id (Stage.refused (.unknownDrone stranger)), ?_, rfl⟩
    simp only [Stage.next, unowned]
  | _ => exact misses.elim

private theorem Response.unknown_isError (drone : Nat) :
    (Response.ofRefusal (.unknownDrone drone)).isError = true := rfl

theorem Move.misses {after : Fleet} (move : Move crowd request stage next after) {drone : Nat}
    (answers : next.Answers (.ofRefusal (.unknownDrone drone))) :
    stage.Answers (.ofRefusal (.unknownDrone drone)) ∨ stage.Misses crowd.fleet drone := by
  cases move with
  | enters => exact answers.elim
  | turns serves follows =>
    have turn : stage.Turn crowd.grounded request crowd.fleet next after := follows.turn
    cases turn with
    | goes _ serves' => exact absurd answers serves'.not_answers
    | refused closes misses =>
      exact .inr (misses drone (Refusal.unknownDrone_of_response (closes.answers.unique answers)))
    | told closes success _ =>
      rw [closes.answers.unique answers, Response.unknown_isError] at success
      cases success
    | does _ _ answers' success _ =>
      rw [answers'.unique answers, Response.unknown_isError] at success
      cases success
    | flies => exact answers.elim
  | writes answers' _ closes _ _ => exact .inl (closes.answers.unique answers ▸ answers')
  | @leaves response id _ same closes =>
    subst same
    have given : (Stage.leave id next).Answers response := closes
    exact .inl (closes.answers.unique answers ▸ given)
  | flies => exact answers.elim
  | @lands id outcomes matrix same _ =>
    have closes : (Stage.leave id (.done (.batch (.of outcomes matrix)))).Closes _ := rfl
    cases closes.answers.unique answers

theorem missed_of_answers {fleet : Fleet} (sound : fleet.Sound) (events : List Event) :
    ∀ number stage drone, ((new fleet).run events).stages.get? number = some stage →
      stage.Answers (.ofRefusal (.unknownDrone drone)) →
      ∃ before after found, events = before ++ Event.advance number :: after ∧
        ((new fleet).run before).stages.get? number = some found ∧
        found.Misses ((new fleet).run before).fleet drone := by
  induction events using List.reverseRecOn with
  | nil =>
    intro number stage drone here
    cases here
  | append_singleton events event ih =>
    intro number stage drone there answers
    obtain ⟨whole, orderly⟩ := (new_orderly sound).run events
    have before : ∀ found, ((new fleet).run events).stages.get? number = some found →
        found.Answers (.ofRefusal (.unknownDrone drone)) →
        ∃ before after found, events ++ [event] = before ++ Event.advance number :: after ∧
          ((new fleet).run before).stages.get? number = some found ∧
          found.Misses ((new fleet).run before).fleet drone := by
      intro found here answers
      obtain ⟨earlier, later, looking, split, here', misses⟩ := ih number found drone here answers
      refine ⟨earlier, later ++ [event], looking, ?_, here', misses⟩
      rw [split, List.append_assoc, List.cons_append]
    rw [run_append] at there
    rcases orderly.step_stage there with
      old | ⟨request, _, rfl⟩ | ⟨request, found, after, rfl, here, _, move⟩
    · exact before stage old answers
    · exact answers.elim
    · rcases move.misses answers with given | misses
      · exact before found here given
      · exact ⟨events, [], found, rfl, here, misses⟩

def Unowned (crowd : Crowd) (number drone : Nat) : Prop :=
  crowd.fleet.owner? drone = none ∧
    ((∃ last wanted, crowd.stages.get? number = some (.locate drone last wanted)) ∨
      ∃ id, crowd.stages.get? number = some (.mismatch id drone))

/-- After the events the request looks for a drone again that it has missed on a matrix. The
directory names this matrix, but had the drone elsewhere while the request was under way. -/
structure Returned (fleet : Fleet) (events : List Event) (number drone id : Nat) : Prop where
  looks : ∃ wanted, ((new fleet).run events).stages.get? number =
    some (.locate drone (some id) wanted)
  back : ((new fleet).run events).fleet.owner? drone = some id
  away : ∃ earlier later, events = earlier ++ later ∧
    number < ((new fleet).run earlier).requests.length ∧
    ((new fleet).run earlier).fleet.owner? drone ≠ some id

/-- A request is told that a drone is unknown exactly if, at one of its steps, it looks for the drone
while nobody owns it, or while the drone is back on the matrix where the request has missed it. -/
theorem unknown_drone_iff {fleet : Fleet} (sound : fleet.Sound) {events : List Event} {number : Nat}
    (answered : (((new fleet).run events).answer? number).isSome = true) (drone : Nat) :
    ((new fleet).run events).answer? number = some (.ofRefusal (.unknownDrone drone)) ↔
      ∃ before after, events = before ++ Event.advance number :: after ∧
        (Unowned ((new fleet).run before) number drone ∨
          ∃ id, Returned fleet before number drone id) := by
  constructor
  · intro got
    obtain ⟨before, after, found, split, here, misses⟩ :=
      missed_of_answers sound events number _ drone (answer?_eq_some.mp got) rfl
    refine ⟨before, after, split, ?_⟩
    cases found with
    | locate wanted last errand =>
      obtain ⟨rfl, missed⟩ := misses
      cases known : ((new fleet).run before).fleet.owner? wanted with
      | none => exact .inl ⟨known, .inl ⟨last, errand, here⟩⟩
      | some id =>
        rw [known] at missed
        have same : last = some id := (missed.resolve_left (by simp)).symm
        subst same
        exact .inr ⟨id, ⟨errand, here⟩, known,
          missed_before sound before number _ wanted id here rfl⟩
    | mismatch id stranger =>
      obtain ⟨rfl, unowned⟩ := misses
      exact .inl ⟨unowned, .inr ⟨id, here⟩⟩
    | _ => exact misses.elim
  · rintro ⟨before, after, rfl, reason⟩
    obtain ⟨whole, orderly⟩ := (new_orderly sound).run before
    have looking : ∃ found, ((new fleet).run before).stages.get? number = some found ∧
        found.Misses ((new fleet).run before).fleet drone := by
      rcases reason with ⟨unowned, ⟨last, wanted, here⟩ | ⟨id, here⟩⟩ | ⟨id, returned⟩
      · exact ⟨_, here, rfl, .inl unowned⟩
      · exact ⟨_, here, rfl, unowned⟩
      · obtain ⟨wanted, here⟩ := returned.looks
        exact ⟨_, here, rfl, .inr returned.back⟩
    obtain ⟨found, here, misses⟩ := looking
    obtain ⟨unblocked, next, step, closes⟩ := misses_step misses
    obtain ⟨settled, orderly'⟩ := orderly.advance number
    rw [run_append] at answered ⊢
    have moved := advance_eq here unblocked step
    have there : (((new fleet).run before).advance number).stages.get? number = some next := by
      rw [moved]
      exact (Table.get?_insert _ _ _ _).trans (if_pos rfl)
    obtain ⟨last, here', answers⟩ := orderly'.run_answers there closes.answers after
    obtain ⟨response, got⟩ := Option.isSome_iff_exists.mp answered
    have ended := answer?_eq_some.mp got
    have same : some last = some (.done response) := here'.symm.trans ended
    cases same
    have told : response = .ofRefusal (.unknownDrone drone) := answers
    rw [got, told]

/-! ### A drone that returns -/

/-- A drone is made on the first of two matrices. While a request for it waits there, the drone is
taken to the second matrix; while the request turns back to the directory, it is brought back. -/
def returning : List Event :=
  List.flatten
    [[.submit (.createMatrix 4 4), .advance 0, .advance 0, .submit (.createMatrix 4 4), .advance 1,
      .advance 1, .submit (.createDrone ⟨"", "", ⟨0, 0, .north⟩, 1⟩)], List.replicate 6 (.advance 2),
      .submit (.getDrone 1) :: List.replicate 3 (.advance 3),
      .submit (.updateDrone 1 ⟨none, none, none, none, none, some 2⟩) ::
        List.replicate 11 (.advance 4), List.replicate 3 (.advance 3),
      .submit (.updateDrone 1 ⟨none, none, none, none, none, some 1⟩) ::
        List.replicate 15 (.advance 5), [.advance 3]]

/-- The answer is given although at every moment since the request was made the directory names an
owner of the drone and the drone is on a matrix. -/
theorem returning_drone_unknown :
    ¬ ∀ (events : List Event) (number drone : Nat),
      ((new .empty).run events).answer? number = some (.ofRefusal (.unknownDrone drone)) →
      ∃ before after, events = before ++ after ∧
        number < ((new .empty).run before).requests.length ∧
        (((new .empty).run before).fleet.owner? drone = none ∨
          ∀ id, ¬ ((new .empty).run before).fleet.Houses id drone) := by
  intro claim
  obtain ⟨before, after, split, made, lost⟩ := claim returning 3 1 (by decide +kernel)
  have moments : ∀ length ≤ returning.length,
      3 < ((new .empty).run (returning.take length)).requests.length →
        ((new .empty).run (returning.take length)).fleet.owner? 1 ≠ none ∧
        ((new .empty).run (returning.take length)).fleet.slots.values.any (·.matrix.owns 1) =
          true := by
    decide +kernel
  have within : before.length ≤ returning.length := by
    rw [split, List.length_append]
    exact Nat.le_add_right _ _
  have moment := moments before.length within
  rw [split, List.take_left] at moment
  obtain ⟨owned, housed⟩ := moment made
  rcases lost with unowned | homeless
  · exact owned unowned
  · obtain ⟨slot, member, aboard⟩ := List.any_eq_true.mp housed
    obtain ⟨id, found⟩ := Table.mem_values.mp member
    exact homeless id ⟨slot, found, aboard⟩

theorem unknown_drone_iff_returning :
    Fleet.empty.Sound ∧ (((new .empty).run returning).answer? 3).isSome = true ∧
      (((new .empty).run returning).answer? 3 = some (.ofRefusal (.unknownDrone 1)) ↔
        ∃ before after, returning = before ++ Event.advance 3 :: after ∧
          (Unowned ((new .empty).run before) 3 1 ∨ ∃ id, Returned .empty before 3 1 id)) :=
  ⟨Fleet.empty_sound, by decide +kernel,
    unknown_drone_iff Fleet.empty_sound (by decide +kernel) 1⟩

end Crowd

end DroneFleet
