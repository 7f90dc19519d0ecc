import DroneFleet.Proofs.Crowd.Steps

/-!
The outcomes that a coordinator tells. A drone that was rejected has another drone in its way just if the
reason is a collision (`Outcome.Candid`). This holds of every flight, and a request does no more with
outcomes than to collect them and to tell them (`Stage.told_next`).
-/
namespace DroneFleet

def Outcome.Candid : Outcome → Prop
  | rejected _ reason _ blockedBy => reason = .collisionRisk ↔ blockedBy.isSome = true
  | _ => True

def DroneOutcome.AllCandid (outcomes : List DroneOutcome) : Prop :=
  ∀ entry ∈ outcomes, entry.outcome.Candid

theorem Outcome.ofViolation_candid (failedAt : Nat) (pose : Pose) (violation : Violation) :
    (ofViolation failedAt pose violation).Candid := by
  cases violation <;> simp [ofViolation, Candid]

theorem Matrix.fly_candid {matrix after : Matrix} {id step : Nat} {pose : Pose}
    {commands : List Command} {outcome : Outcome}
    (flew : matrix.fly id pose step commands = .ok (outcome, after)) : outcome.Candid := by
  induction commands generalizing matrix pose step with
  | nil =>
    cases flew
    trivial
  | cons command rest ih =>
    simp only [fly] at flew
    split at flew
    · cases flew
      exact Outcome.ofViolation_candid _ _ _
    · split at flew
      · cases flew
      · exact ih flew

namespace Handling

variable {fleet after : Fleet}

theorem of_bind_ok {α β : Type} {work : Handling α} {next : α → Handling β} {result : β}
    (done : (work >>= next).on fleet = (.ok result, after)) :
    ∃ value between, work.on fleet = (.ok value, between) ∧
      (next value).on between = (.ok result, after) := by
  rw [on_bind] at done
  split at done
  · rename_i value between first
    exact ⟨value, between, first, done⟩
  · cases done

theorem fly_candid {grounded : Bool} {matrix : Matrix} {id : Nat} {commands : List Command}
    {flight : Outcome × Matrix}
    (flew : (fly grounded matrix id commands).on fleet = (.ok flight, after)) :
    flight.1.Candid := by
  cases grounded with
  | true =>
    cases flew
    trivial
  | false =>
    obtain ⟨outcome, _, ran, told⟩ := of_bind_ok flew
    obtain ⟨_, _, _, ended⟩ := of_bind_ok told
    cases ended
    rw [on_lift] at ran
    replace ran := congrArg Prod.fst ran
    simp only [Matrix.run] at ran
    split at ran
    · cases ran
    · exact Matrix.fly_candid ran

theorem flyPlan_candid {grounded : Bool} {id : Nat} {plan : Plan} {entry : DroneOutcome}
    (flew : (flyPlan grounded id plan).on fleet = (.ok entry, after)) : entry.outcome.Candid := by
  obtain ⟨matrix, _, _, flies⟩ := of_bind_ok flew
  obtain ⟨flight, _, flown, told⟩ := of_bind_ok flies
  cases told
  exact fly_candid flown

theorem report_outcomes {id : Nat} {outcomes : List DroneOutcome} {told : BatchReport}
    (done : (report id outcomes).on fleet = (.ok told, after)) : told.outcomes = outcomes := by
  obtain ⟨matrix, _, _, ended⟩ := of_bind_ok done
  cases ended
  rfl

end Handling

namespace Stage

def told : Stage → List DroneOutcome
  | record _ _ next => next.told
  | withdraw _ next => next.told
  | leave _ next => next.told
  | flying _ outcomes _ => outcomes
  | done (.batch report) => report.outcomes
  | _ => []

theorem told_visit (listing : Listing) (seen : List MatrixView) (ahead : List Nat) :
    (visit listing seen ahead).told = [] := by
  cases ahead
  · cases listing <;> rfl
  · rfl

theorem told_missing (id : Nat) (purpose : Purpose) : (missing id purpose).told = [] := by
  cases purpose with
  | survey listing ahead seen => exact told_visit listing seen ahead
  | _ => rfl

theorem told_muster (matrix : Matrix) (plans : List Plan) : (muster matrix plans).told = [] := by
  unfold muster
  split <;> rfl

theorem Opening.told {stage : Stage} (opening : stage.Opening) : stage.told = [] := by
  cases opening <;> rfl

theorem told_after {α : Type} {work : Handling α} {fleet : Fleet} {next : Except Refusal α → Stage}
    (silent : ∀ result, (next result).told = []) : (after work fleet next).1.told = [] :=
  silent _

theorem told_errand (grounded : Bool) (fleet : Fleet) (matrix : Matrix) (drone : Nat)
    (wanted : Errand) : (errand grounded fleet matrix drone wanted).1.told = [] := by
  cases wanted with
  | look => exact told_after fun result => by cases result <;> rfl
  | remove => exact told_after fun result => by cases result <;> rfl
  | fly commands => exact told_after fun result => by cases result <;> rfl
  | lead plans => exact told_muster matrix plans
  | change changes =>
    simp only [errand]
    split
    · exact told_after fun result => by cases result <;> rfl
    · split <;> rfl

theorem told_move (fleet : Fleet) (drone : Nat) (source target : Matrix) (changes : DroneChanges) :
    (move fleet drone source target changes).1.told = [] :=
  told_after fun result => by cases result <;> rfl

theorem told_act (grounded : Bool) (fleet : Fleet) (matrix : Matrix) (purpose : Purpose) :
    (act grounded fleet matrix purpose).1.told = [] := by
  cases purpose with
  | survey listing ahead seen => exact told_visit listing _ ahead
  | view => rfl
  | resize bounds => exact told_after fun result => by cases result <;> rfl
  | delete => exact told_after fun result => by cases result <;> rfl
  | enroll new => exact told_after fun result => by cases result <;> rfl
  | home drone wanted =>
    simp only [act]
    split
    · exact told_errand grounded fleet matrix drone wanted
    · rfl
  | target drone source changes =>
    simp only [act]
    split
    · exact told_move fleet drone _ matrix changes
    · rfl
  | targetFirst drone source changes => rfl
  | sourceAgain drone target changes =>
    simp only [act]
    split
    · split
      · exact told_move fleet drone matrix _ changes
      · rfl
    · rfl
  | batch plans => exact told_muster matrix plans

/-- A step tells what has been told before, and perhaps the outcome of one flight more. -/
theorem told_next {stage : Stage} (candid : DroneOutcome.AllCandid stage.told) (grounded : Bool)
    (fleet : Fleet) : DroneOutcome.AllCandid (stage.next grounded fleet).1.told := by
  have nothing : ∀ {next : Stage}, next.told = [] → DroneOutcome.AllCandid next.told := by
    intro next silent
    rw [silent]
    exact List.forall_mem_nil _
  -- Only `flying` collects outcomes; every other stage goes on with none.
  cases stage with
  | start request =>
    have opened := (ofRequest_opening request).told
    cases request with
    | createMatrix maxX maxY => exact nothing (told_after fun result => by cases result <;> rfl)
    | _ => exact nothing opened
  | publish matrix => exact nothing rfl
  | survey listing => exact nothing (told_visit listing _ _)
  | seek id purpose =>
    simp only [next]
    split
    · exact nothing rfl
    · exact nothing (told_missing id purpose)
  | enter id purpose => exact nothing rfl
  | inside id purpose =>
    simp only [next]
    split
    · exact nothing (told_act grounded fleet _ purpose)
    · exact nothing (told_missing id purpose)
  | locate drone last wanted =>
    simp only [next]
    split
    · exact nothing rfl
    · split <;> exact nothing rfl
  | record drone owner next => exact candid
  | withdraw id next => exact candid
  | leave id next => exact candid
  | mismatch id drone =>
    simp only [next]
    split <;> exact nothing rfl
  | flying id outcomes ahead =>
    cases ahead with
    | nil =>
      simp only [next, after]
      rcases reported : ((Handling.report id outcomes).run fleet).run with ⟨_ | report, after⟩
      · exact nothing rfl
      · have same := Handling.report_outcomes reported
        exact fun entry member => candid entry (same ▸ member)
    | cons plan ahead =>
      simp only [next, after]
      rcases flew : ((Handling.flyPlan grounded id plan).run fleet).run with ⟨_ | outcome, after⟩
      · exact nothing rfl
      · have last := Handling.flyPlan_candid flew
        exact List.forall_mem_append.mpr ⟨candid, List.forall_mem_singleton.mpr last⟩
  | done response => exact candid

end Stage

namespace Crowd

variable {crowd : Crowd}

def Candid (crowd : Crowd) : Prop :=
  ∀ number stage, crowd.stages.get? number = some stage → DroneOutcome.AllCandid stage.told

theorem new_candid (fleet : Fleet) : (new fleet).Candid := by
  intro number stage here
  cases here

theorem Candid.moveTo (candid : crowd.Candid) {next : Stage} (fleet : Fleet)
    (told : DroneOutcome.AllCandid next.told) (number : Nat) :
    ({ crowd with fleet }.moveTo number next).Candid := by
  intro other stage here
  rcases insert_cases here with ⟨_, rfl⟩ | ⟨_, old⟩
  · exact told
  · exact candid other stage old

theorem Candid.advance (candid : crowd.Candid) (number : Nat) : (crowd.advance number).Candid := by
  unfold Crowd.advance
  split
  · exact candid
  · rename_i stage here
    split
    · exact candid
    · exact candid.moveTo _ (Stage.told_next (candid number stage here) _ _) number

theorem Candid.step (candid : crowd.Candid) (event : Event) : (crowd.step event).Candid := by
  cases event with
  | submit request =>
    have opened : DroneOutcome.AllCandid (Stage.start request).told := List.forall_mem_nil _
    exact candid.moveTo crowd.fleet opened crowd.requests.length
  | advance number => exact candid.advance number
  | hold id =>
    simp only [Crowd.step, hold]
    split <;> exact candid
  | release id => exact candid
  | ground => exact candid

theorem Candid.run (candid : crowd.Candid) (events : List Event) : (crowd.run events).Candid := by
  induction events generalizing crowd with
  | nil => exact candid
  | cons event rest ih => exact ih (candid.step event)

end Crowd

/-- A fleet has answered a request with this report, among whatever other requests. -/
def BatchReport.Produced (report : BatchReport) : Prop :=
  ∃ fleet events number, ((Crowd.new fleet).run events).answer? number = some (.batch report)

theorem BatchReport.Produced.candid {report : BatchReport} (produced : report.Produced) :
    DroneOutcome.AllCandid report.outcomes := by
  obtain ⟨fleet, events, number, answered⟩ := produced
  have candid := (Crowd.new_candid fleet).run events
  exact candid number _ (Crowd.answer?_eq_some.mp answered)

end DroneFleet
