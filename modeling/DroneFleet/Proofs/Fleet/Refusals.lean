import DroneFleet.Proofs.Fleet.Serving
import DroneFleet.Proofs.Fleet.Turn

/-!
When a step brings a request to an error that the same request would also be refused with if it were
handled alone. It does whenever the request still knows what it goes by (`Stage.Knows`): what it has
read in the directory, or found on a matrix that it holds, has not changed since. The one exception is
a move down to a matrix that is gone by the time it is taken (`next_denied`).
-/
namespace DroneFleet

/-- Handled alone, the request would be refused with this answer. -/
def Fleet.Denies (fleet : Fleet) (grounded : Bool) (request : Request) (response : Response) : Prop :=
  ∃ refusal after, (request.handle grounded).on fleet = (.error refusal, after) ∧
    response = .ofRefusal refusal

theorem Fleet.Denies.dispatch {fleet : Fleet} {grounded : Bool} {request : Request}
    {response : Response} (denies : fleet.Denies grounded request response) (sound : fleet.Sound) :
    fleet.dispatch grounded request = (response, fleet) := by
  obtain ⟨refusal, after, done, rfl⟩ := denies
  have same : ((request.handle grounded).run fleet).run = _ := done
  rcases Request.handle_ends sound grounded request with ⟨_, done'⟩ | ⟨_, _, done', _⟩
  · rw [done] at done'
    cases done'
    simp only [Fleet.dispatch, same, Response.ofResult]
  · rw [done] at done'
    cases done'

open Handling

section Alone

variable {fleet : Fleet} {grounded : Bool} {request : Request} {response : Response}

theorem flies_denied {matrixId : Option Nat} {plans : List Plan} {refusal : Refusal} {after : Fleet}
    (flies : request.Flies matrixId plans)
    (done : (batch grounded matrixId plans).on fleet = (.error refusal, after)) :
    fleet.Denies grounded request (.ofRefusal refusal) := by
  refine ⟨refusal, after, ?_, rfl⟩
  rcases flies with ⟨droneIds, input, commands, rfl, parsed, rfl⟩ | ⟨entries, rfl, parsed⟩
  · simp only [Request.handle, parsed]
    exact on_refused done _
  · simp only [Request.handle, parsed]
    exact on_refused done _

theorem ground_denied {matrixId : Option Nat} {plans : List Plan} {first : Nat} {refusal : Refusal}
    {after : Fleet} (flies : request.Flies matrixId plans) (leads : Plan.leader plans = .ok first)
    (done : (ground matrixId first).on fleet = (.error refusal, after)) :
    fleet.Denies grounded request (.ofRefusal refusal) := by
  apply flies_denied flies
  rw [batch_eq grounded leads]
  exact on_refused done _

theorem update_unlisted (sound : fleet.Sound) {drone source target : Nat} {changes : DroneChanges}
    (known : fleet.owner? drone = some source) (goal : changes.matrixId = some target)
    (unlisted : fleet.listed.contains target = false) :
    fleet.Denies grounded (.updateDrone drone changes) (.ofRefusal (.unknownMatrix target)) := by
  obtain ⟨matrix, standing, name, aboard⟩ := sound.housed known
  have apart : ¬ target = matrix.id := by
    rintro rfl
    rw [(sound.listing _).mpr ⟨matrix, standing⟩] at unlisted
    cases unlisted
  have refused : (update drone changes).on fleet = (.error (.unknownMatrix target), fleet) := by
    simp only [update, on_bind, on_home sound standing aboard, goal, Option.getD_some, apart, if_false,
      on_seek_missing (Fleet.matrix?_eq_none unlisted)]
  exact ⟨_, fleet, on_refused refused _, rfl⟩

theorem locate_denied {drone : Nat} {wanted : Errand} (serves : wanted.Serves request drone)
    (unowned : fleet.owner? drone = none) :
    fleet.Denies grounded request (.ofRefusal (.unknownDrone drone)) := by
  have away := on_home_unowned unowned
  cases wanted with
  | look =>
    cases serves
    exact ⟨_, fleet, on_refused away _, rfl⟩
  | change changes =>
    cases serves
    exact ⟨_, fleet, on_refused (on_refused away _) _, rfl⟩
  | remove =>
    cases serves
    exact ⟨_, fleet, on_refused away _, rfl⟩
  | fly commands =>
    obtain ⟨input, rfl, parsed⟩ := serves
    refine ⟨_, fleet, ?_, rfl⟩
    simp only [Request.handle, parsed]
    exact on_refused away _
  | lead plans => exact ground_denied serves.1 serves.2 away

namespace Stage

/-! ### Work that is refused -/

theorem after_refused {α : Type} {work : Handling α} {next : Except Refusal α → Stage}
    (closes : (after work fleet next).1.Closes response) (error : response.isError = true)
    (granted : ∀ value, (next (.ok value)).Closes response → response.isError = false) :
    ∃ refusal changed, work.on fleet = (.error refusal, changed) ∧
      (next (.error refusal)).Closes response := by
  rcases done : work.on fleet with ⟨refusal | value, changed⟩ <;> rw [after_on done] at closes
  · exact ⟨refusal, changed, rfl, closes⟩
  · rw [granted value closes] at error
    cases error

theorem ended_refused {α : Type} {work : Handling α} {id : Nat} {answer : α → Response}
    (closes : (after work fleet fun result => leave id (ended (result.map answer))).1.Closes response)
    (error : response.isError = true) (granted : ∀ value, (answer value).isError = false) :
    ∃ refusal changed, work.on fleet = (.error refusal, changed) ∧ response = .ofRefusal refusal := by
  obtain ⟨refusal, changed, done, told⟩ := after_refused closes error
    (fun value told => Eq.trans (congrArg _ (Eq.symm told)) (granted value))
  exact ⟨refusal, changed, done, Eq.symm told⟩

variable {matrix : Matrix}

theorem errand_denied (sound : fleet.Sound) {drone : Nat} {wanted : Errand}
    (standing : fleet.standing? matrix.id = some matrix) (aboard : matrix.owns drone = true)
    (serves : wanted.Serves request drone)
    (closes : (errand grounded fleet matrix drone wanted).1.Closes response)
    (error : response.isError = true) : fleet.Denies grounded request response := by
  have found := on_home sound standing aboard
  cases wanted with
  | look =>
    cases serves
    obtain ⟨refusal, changed, done, rfl⟩ := ended_refused closes error fun _ => rfl
    exact ⟨refusal, changed, (on_ok found _).trans (on_refused done _), rfl⟩
  | remove =>
    cases serves
    obtain ⟨refusal, changed, done, told⟩ := after_refused closes error fun _ told => told.elim
    exact ⟨refusal, changed, (on_ok found _).trans (on_refused done _), Eq.symm told⟩
  | fly commands =>
    obtain ⟨input, rfl, parsed⟩ := serves
    obtain ⟨refusal, changed, done, rfl⟩ := ended_refused closes error fun _ => rfl
    refine ⟨refusal, changed, ?_, rfl⟩
    simp only [Request.handle, parsed]
    exact (on_ok found _).trans (on_refused done _)
  | lead plans =>
    simp only [errand, muster] at closes
    split at closes <;> exact closes.elim
  | change changes =>
    cases serves
    simp only [errand] at closes
    split at closes
    · rename_i stays
      obtain ⟨refusal, changed, done, rfl⟩ := ended_refused closes error fun _ => rfl
      have refused : (update drone changes).on fleet = (.error refusal, changed) := by
        simp only [update, on_bind, found, stays, if_true, done]
      exact ⟨refusal, changed, on_refused refused _, rfl⟩
    · split at closes <;> exact closes.elim

theorem move_denied (sound : fleet.Sound) {drone : Nat} {source target : Matrix}
    {changes : DroneChanges} (standing : fleet.standing? source.id = some source)
    (standing' : fleet.standing? target.id = some target) (apart : source.id ≠ target.id)
    (aboard : source.owns drone = true) (goal : changes.matrixId = some target.id)
    (closes : (move fleet drone source target changes).1.Closes response)
    (error : response.isError = true) :
    fleet.Denies grounded (.updateDrone drone changes) response := by
  obtain ⟨refusal, changed, done, told⟩ := after_refused closes error fun _ told => told.elim
  have refused : (update drone changes).on fleet = (.error refusal, changed) := by
    simp only [update, on_bind, on_home sound standing aboard, goal, Option.getD_some,
      Ne.symm apart, if_false, on_seek sound standing', done]
  exact ⟨refusal, changed, on_refused refused _, Eq.symm told⟩

/-! ### Matrices that are gone -/

theorem visit_not_closes {listing : Listing} {seen : List MatrixView} {ahead : List Nat}
    (closes : (visit listing seen ahead).Closes response) : response.isError = false := by
  cases ahead with
  | nil =>
    cases closes
    cases listing <;> rfl
  | cons id rest => exact closes.elim

/-- A move down has not held its source while it waited, and knows less. -/
theorem missing_denied (sound : fleet.Sound) {id : Nat} {purpose : Purpose}
    (unlisted : fleet.listed.contains id = false) (fits : purpose.Fits fleet id)
    (serves : purpose.Serves request id) (closes : (missing id purpose).Closes response)
    (error : response.isError = true) :
    fleet.Denies grounded request response ∨ ∃ drone source changes,
      purpose = .targetFirst drone source changes ∧ response = .ofRefusal (.unknownMatrix id) := by
  have missing := on_seek_missing (Fleet.matrix?_eq_none unlisted)
  cases purpose with
  | survey listing ahead seen =>
    rw [visit_not_closes closes] at error
    cases error
  | view =>
    cases serves
    cases closes
    exact .inl ⟨_, fleet, on_refused missing _, rfl⟩
  | resize bounds =>
    cases serves
    cases closes
    exact .inl ⟨_, fleet, on_refused missing _, rfl⟩
  | delete =>
    cases serves
    cases closes
    exact .inl ⟨_, fleet, on_refused missing _, rfl⟩
  | enroll new =>
    obtain ⟨rfl, rfl⟩ := serves
    cases closes
    exact .inl ⟨_, fleet, on_refused missing _, rfl⟩
  | home drone wanted => exact closes.elim
  | target drone source changes =>
    obtain ⟨rfl, goal⟩ := serves
    obtain ⟨_, matrix, standing, aboard⟩ := fits
    have known := (sound.directory drone source).mpr ((Fleet.standing_houses standing).mpr aboard)
    cases closes
    exact .inl (update_unlisted sound known goal unlisted)
  | targetFirst drone source changes =>
    cases closes
    exact .inr ⟨drone, source, changes, rfl, rfl⟩
  | sourceAgain drone target changes => exact closes.elim
  | batch plans =>
    obtain ⟨flies, first, leads⟩ := serves
    cases closes
    exact .inl (ground_denied flies leads missing)

theorem act_denied (sound : fleet.Sound) {purpose : Purpose}
    (standing : fleet.standing? matrix.id = some matrix) (fits : purpose.Fits fleet matrix.id)
    (serves : purpose.Serves request matrix.id)
    (closes : (act grounded fleet matrix purpose).1.Closes response)
    (error : response.isError = true) : fleet.Denies grounded request response := by
  have found := on_seek sound standing
  cases purpose with
  | survey listing ahead seen =>
    rw [visit_not_closes closes] at error
    cases error
  | view =>
    cases closes
    cases error
  | resize bounds =>
    cases serves
    obtain ⟨refusal, changed, done, rfl⟩ := ended_refused closes error fun _ => rfl
    exact ⟨refusal, changed, (on_ok found _).trans (on_refused done _), rfl⟩
  | delete =>
    cases serves
    obtain ⟨refusal, changed, done, told⟩ := after_refused closes error fun _ told => told.elim
    exact ⟨refusal, changed, (on_ok found _).trans (on_refused done _), Eq.symm told⟩
  | enroll new =>
    obtain ⟨rfl, place⟩ := serves
    rw [← place] at found
    obtain ⟨refusal, changed, done, told⟩ := after_refused closes error fun _ told => told.elim
    exact ⟨refusal, changed, (on_ok found _).trans (on_refused done _), Eq.symm told⟩
  | home drone wanted =>
    simp only [act] at closes
    split at closes
    · rename_i aboard
      exact errand_denied sound standing aboard serves closes error
    · exact closes.elim
  | target drone source changes =>
    obtain ⟨rfl, goal⟩ := serves
    obtain ⟨below, inside, standing', aboard⟩ := fits
    have name := (sound.standing standing').1
    subst name
    simp only [act, standing'] at closes
    exact move_denied sound standing' standing (Nat.ne_of_lt below) aboard goal closes error
  | targetFirst drone source changes => exact closes.elim
  | sourceAgain drone target changes =>
    obtain ⟨rfl, goal⟩ := serves
    obtain ⟨below, inside, standing'⟩ := fits
    have name := (sound.standing standing').1
    subst name
    simp only [act, standing'] at closes
    split at closes
    · rename_i aboard
      exact move_denied sound standing standing' (Nat.ne_of_gt below) aboard goal closes error
    · exact closes.elim
  | batch plans =>
    simp only [act, muster] at closes
    split at closes <;> exact closes.elim

/-! ### What a request goes by -/

/-- What a request has read or found, and takes the next step by. It need not be true any more once
the request has rested. -/
def Knows (fleet : Fleet) (request : Request) : Stage → Prop
  | locate drone last _ => ∀ id, last = some id → fleet.owner? drone ≠ some id
  | seek _ (.targetFirst drone source _) => fleet.owner? drone = some source
  | mismatch id drone => ∃ matrixId plans first matrix, request.Flies matrixId plans ∧
      Plan.leader plans = .ok first ∧ (ground matrixId first).on fleet = (.ok matrix, fleet) ∧
      matrix.id = id ∧ matrix.stranger? plans = some drone
  | leave _ next => next.Knows fleet request
  | _ => True

theorem Closes.knows {stage : Stage} (closes : stage.Closes response) :
    stage.Knows fleet request := by
  induction stage with
  | leave id next ih => exact ih closes
  | done other => trivial
  | _ => exact closes.elim

theorem Answers.knows {stage : Stage} (answers : stage.Answers response) :
    stage.Knows fleet request := by
  cases stage with
  | leave id next =>
    have closes : next.Closes response := answers
    exact closes.knows
  | publish matrix => trivial
  | record drone owner next => trivial
  | withdraw id next => trivial
  | done other => trivial
  | _ => exact answers.elim

theorem visit_knows (listing : Listing) (seen : List MatrixView) (ahead : List Nat) :
    (visit listing seen ahead).Knows fleet request := by
  cases ahead <;> trivial

theorem Opening.knows {stage : Stage} (opening : stage.Opening) : stage.Knows fleet request := by
  cases opening with
  | @seeks id purpose direct => cases purpose <;> trivial
  | looks =>
    intro id none
    cases none
  | _ => trivial

theorem missing_knows {id : Nat} {purpose : Purpose}
    (away : ∀ drone, fleet.owner? drone ≠ some id) : (missing id purpose).Knows fleet request := by
  cases purpose with
  | survey listing ahead seen => exact visit_knows listing seen ahead
  | home drone wanted =>
    intro other same
    cases same
    exact away drone
  | sourceAgain drone target changes =>
    intro other none
    cases none
  | _ => trivial

theorem muster_knows {matrixId : Option Nat} {plans : List Plan} {first : Nat}
    (flies : request.Flies matrixId plans) (leads : Plan.leader plans = .ok first)
    (found : (ground matrixId first).on fleet = (.ok matrix, fleet)) :
    (muster matrix plans).Knows fleet request := by
  unfold muster
  split
  · rename_i drone stranger
    exact ⟨matrixId, plans, first, matrix, flies, leads, found, rfl, stranger⟩
  · trivial

theorem errand_knows (sound : fleet.Sound) {drone : Nat} {wanted : Errand}
    (standing : fleet.standing? matrix.id = some matrix) (aboard : matrix.owns drone = true)
    (serves : wanted.Serves request drone) :
    (errand grounded fleet matrix drone wanted).1.Knows fleet request := by
  cases wanted with
  | lead plans => exact muster_knows serves.1 serves.2 (on_home sound standing aboard)
  | remove =>
    simp only [errand, after]
    split <;> trivial
  | change changes =>
    simp only [errand]
    split
    · trivial
    · split
      · trivial
      · exact (sound.directory drone matrix.id).mpr ((Fleet.standing_houses standing).mpr aboard)
  | _ => trivial

theorem move_knows (drone : Nat) (source target : Matrix) (changes : DroneChanges) :
    (move fleet drone source target changes).1.Knows fleet request := by
  simp only [move, after]
  split <;> trivial

theorem act_knows (sound : fleet.Sound) {purpose : Purpose}
    (standing : fleet.standing? matrix.id = some matrix)
    (serves : purpose.Serves request matrix.id) :
    (act grounded fleet matrix purpose).1.Knows fleet request := by
  cases purpose with
  | survey listing ahead seen => exact visit_knows listing _ ahead
  | delete =>
    simp only [act, after]
    split <;> trivial
  | enroll new =>
    simp only [act, after]
    split <;> trivial
  | home drone wanted =>
    simp only [act]
    split
    · rename_i aboard
      exact errand_knows sound standing aboard serves
    · rename_i absent
      intro id same known
      cases same
      exact absent ((Fleet.standing_houses standing).mp ((sound.directory drone _).mp known))
  | target drone source changes =>
    simp only [act]
    split
    · exact move_knows _ _ _ _
    · trivial
  | sourceAgain drone target changes =>
    have fresh : ∀ id, none = some id → fleet.owner? drone ≠ some id := by
      intro id none
      cases none
    simp only [act]
    split
    · split
      · exact move_knows _ _ _ _
      · exact fresh
    · exact fresh
  | batch plans =>
    obtain ⟨flies, first, leads⟩ := serves
    exact muster_knows flies leads (on_seek sound standing)
  | _ => trivial

/-- What a step has shown is true when the next one is taken at once. -/
theorem next_knows (sound : fleet.Sound) {stage : Stage} (serves : stage.Serves request)
    (knows : stage.Knows fleet request) :
    (stage.next grounded fleet).1.Knows fleet request := by
  have away : ∀ {id}, fleet.standing? id = none → ∀ drone, fleet.owner? drone ≠ some id := by
    intro id gone drone known
    obtain ⟨matrix, standing, rfl, _⟩ := sound.housed known
    rw [gone] at standing
    cases standing
  cases stage with
  | start asked =>
    have fresh : (ofRequest asked).Knows fleet request := (ofRequest_opening asked).knows
    cases asked with
    | createMatrix maxX maxY =>
      simp only [Stage.next, after]
      split <;> trivial
    | _ => exact fresh
  | survey listing => exact visit_knows listing [] _
  | seek id purpose =>
    simp only [Stage.next]
    split
    · trivial
    · rename_i unlisted
      apply missing_knows
      intro drone known
      obtain ⟨matrix, standing, rfl, _⟩ := sound.housed known
      exact unlisted ((sound.listing _).mpr ⟨matrix, standing⟩)
  | enter id purpose => trivial
  | inside id purpose =>
    cases standing : fleet.standing? id with
    | none =>
      simp only [Stage.next, standing]
      exact missing_knows (away standing)
    | some matrix =>
      have name := (sound.standing standing).1
      subst name
      simp only [Stage.next, standing]
      exact act_knows sound standing serves
  | locate drone last wanted =>
    simp only [Stage.next]
    split
    · trivial
    · split <;> trivial
  | leave id next => exact knows
  | mismatch id drone =>
    simp only [Stage.next]
    split <;> trivial
  | _ => exact serves.elim

/-! ### A step to an error -/

theorem ofPlans_denied {matrixId : Option Nat} {plans : List Plan}
    (flies : request.Flies matrixId plans) (closes : (ofPlans matrixId plans).Closes response) :
    fleet.Denies grounded request response := by
  unfold ofPlans at closes
  split at closes
  · rename_i refusal leads
    cases closes
    apply flies_denied flies
    unfold batch
    rw [on_bind, on_lift, leads]
  · split at closes <;> exact closes.elim

theorem ofRequest_denied (closes : (ofRequest request).Closes response) :
    fleet.Denies grounded request response := by
  cases request with
  | droneCommands droneId input =>
    simp only [ofRequest] at closes
    split at closes
    · rename_i fault parsed
      cases closes
      refine ⟨_, fleet, ?_, rfl⟩
      simp only [Request.handle, parsed]
      rfl
    · exact closes.elim
  | matrixDroneCommands matrixId droneIds input =>
    simp only [ofRequest] at closes
    split at closes
    · rename_i fault parsed
      cases closes
      refine ⟨_, fleet, ?_, rfl⟩
      simp only [Request.handle, parsed]
      rfl
    · rename_i commands parsed
      exact ofPlans_denied (.inl ⟨droneIds, input, commands, rfl, parsed, rfl⟩) closes
  | batchCommands matrixId entries =>
    simp only [ofRequest] at closes
    split at closes
    · rename_i refusal parsed
      cases closes
      refine ⟨refusal, fleet, ?_, rfl⟩
      simp only [Request.handle, on_bind, on_lift, parsed]
    · rename_i plans parsed
      exact ofPlans_denied (.inr ⟨entries, rfl, parsed⟩) closes
  | _ => exact closes.elim

/-- A step brings a request to an error that it would be refused with alone, unless it is a move down
that finds its target gone after it has waited for it. -/
theorem next_denied (sound : fleet.Sound) {stage : Stage} (fits : stage.Fits fleet)
    (serves : stage.Serves request) (knows : stage.Knows fleet request)
    (closes : (stage.next grounded fleet).1.Closes response) (error : response.isError = true) :
    fleet.Denies grounded request response ∨ ∃ id drone source changes,
      stage = .inside id (.targetFirst drone source changes) ∧
      fleet.listed.contains id = false ∧ response = .ofRefusal (.unknownMatrix id) := by
  cases stage with
  | start asked =>
    cases serves
    cases request with
    | createMatrix maxX maxY =>
      obtain ⟨refusal, changed, done, told⟩ := after_refused closes error fun _ told => told.elim
      exact .inl ⟨refusal, changed, on_refused done _, Eq.symm told⟩
    | _ => exact .inl (ofRequest_denied closes)
  | survey listing =>
    rw [visit_not_closes closes] at error
    cases error
  | seek id purpose =>
    simp only [Stage.next] at closes
    split at closes
    · exact closes.elim
    · rename_i unlisted
      rw [Bool.not_eq_true] at unlisted
      rcases missing_denied sound unlisted fits serves closes error with
        denied | ⟨drone, source, changes, rfl, rfl⟩
      · exact .inl denied
      · obtain ⟨rfl, goal⟩ := serves
        exact .inl (update_unlisted sound knows goal unlisted)
  | enter id purpose => exact closes.elim
  | inside id purpose =>
    cases standing : fleet.standing? id with
    | none =>
      simp only [Stage.next, standing] at closes
      have unlisted := sound.unlisted standing
      rcases missing_denied sound unlisted fits serves closes error with
        denied | ⟨drone, source, changes, rfl, told⟩
      · exact .inl denied
      · exact .inr ⟨id, drone, source, changes, rfl, unlisted, told⟩
    | some matrix =>
      have name := (sound.standing standing).1
      subst name
      simp only [Stage.next, standing] at closes
      exact .inl (act_denied sound standing fits serves closes error)
  | locate drone last wanted =>
    cases known : fleet.owner? drone with
    | none =>
      simp only [Stage.next, known] at closes
      cases closes
      exact .inl (locate_denied serves known)
    | some owner =>
      have elsewhere : ¬ last = some owner := fun same => knows owner same known
      simp only [Stage.next, known, elsewhere, if_false] at closes
      exact closes.elim
  | leave id next => exact absurd (Closes.answers closes) (Serves.not_answers serves)
  | mismatch id drone =>
    obtain ⟨matrixId, plans, first, matrix, flies, leads, found, rfl, stranger⟩ := knows
    have denied : fleet.Denies grounded request (.ofRefusal (stray fleet matrix.id drone)) := by
      apply flies_denied flies
      rw [batch_eq grounded leads, on_ok found]
      exact on_refused (on_checkOwners_stranger stranger) _
    cases known : fleet.owner? drone
    all_goals
      simp only [Stage.next, stray, known] at closes denied
      cases closes
      exact .inl denied
  | _ => exact serves.elim

end Stage

end Alone

end DroneFleet
