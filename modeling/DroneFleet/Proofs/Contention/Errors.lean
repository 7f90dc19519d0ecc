import DroneFleet.Proofs.Contention.Cooperation
import DroneFleet.Proofs.Fleet.Refusals

/-!
Where an error comes from in a cooperative run. While a request is under way there is a moment at which
the fleet would refuse it with this error if it were handled alone (`Justified`). The one exception is a
move down to a matrix: it gives its drone's matrix up before it waits for the other, and by the time it
gets that, first the drone may have been deleted and then the matrix (`Overtaken`).
-/
namespace DroneFleet

variable {target drone source : Nat} {changes : DroneChanges} {fleet : Fleet} {request : Request}

namespace Stage

/-- A move down has given up its source and waits for its target, or has it now. -/
def Awaits (target drone source : Nat) (changes : DroneChanges) : Stage → Prop
  | enter id purpose => id = target ∧ purpose = .targetFirst drone source changes
  | inside id purpose => id = target ∧ purpose = .targetFirst drone source changes
  | leave _ next => next.Awaits target drone source changes
  | _ => False

theorem Awaits.pursued {stage : Stage} (awaits : stage.Awaits target drone source changes) :
    ∀ response, stage ≠ .done response := by
  rintro response rfl
  exact awaits

theorem knows_of_rests {stage : Stage} (rests : stage.rests = true) : stage.Knows fleet request := by
  cases stage with
  | start | enter | inside | done => trivial
  | _ => cases rests

theorem Closes.not_awaits {response : Response} {stage : Stage} (closes : stage.Closes response) :
    ¬ stage.Awaits target drone source changes := by
  induction stage with
  | leave id next ih => exact ih closes
  | done other => exact False.elim
  | _ => exact closes.elim

theorem Answers.not_awaits {response : Response} {stage : Stage} (answers : stage.Answers response) :
    ¬ stage.Awaits target drone source changes := by
  cases stage with
  | leave id next =>
    have closes : next.Closes response := answers
    exact closes.not_awaits
  | publish matrix => exact False.elim
  | record drone owner next => exact False.elim
  | withdraw id next => exact False.elim
  | done other => exact False.elim
  | _ => exact answers.elim

theorem visit_not_awaits (listing : Listing) (seen : List MatrixView) (ahead : List Nat) :
    ¬ (visit listing seen ahead).Awaits target drone source changes := by
  cases ahead with
  | nil => exact id
  | cons id rest =>
    rintro ⟨_, clash⟩
    cases clash

theorem missing_not_awaits (id : Nat) (purpose : Purpose) :
    ¬ (missing id purpose).Awaits target drone source changes := by
  cases purpose with
  | survey listing ahead seen => exact visit_not_awaits listing seen ahead
  | _ => exact False.elim

theorem Opening.not_awaits {stage : Stage} (opening : stage.Opening) :
    ¬ stage.Awaits target drone source changes := by
  cases opening <;> exact False.elim

theorem Goes.awaits {stage next : Stage} (goes : Goes fleet stage next)
    (awaits : next.Awaits target drone source changes) :
    stage.Awaits target drone source changes ∨
      stage = .seek target (.targetFirst drone source changes) ∧
        fleet.listed.contains target = true := by
  cases goes with
  | starts => exact absurd awaits (ofRequest_opening _).not_awaits
  | surveys => exact absurd awaits (visit_not_awaits _ _ _)
  | finds listed =>
    obtain ⟨rfl, rfl⟩ := awaits
    exact .inr ⟨rfl, listed⟩
  | misses => exact absurd awaits (missing_not_awaits _ _)
  | finds_gone => exact absurd awaits (missing_not_awaits _ _)
  | views => exact absurd awaits (visit_not_awaits _ _ _)
  | leaves => exact .inl awaits
  | _ => exact awaits.elim

end Stage

namespace Crowd

variable {crowd : Crowd} {stage next : Stage} {after : Fleet} {response : Response}

/-! ### One move -/

theorem Move.awaits (move : Move crowd request stage next after)
    (awaits : next.Awaits target drone source changes) :
    stage.Awaits target drone source changes ∨
      stage = .seek target (.targetFirst drone source changes) ∧ stage.Serves request ∧
        crowd.fleet.listed.contains target = true ∧ after = crowd.fleet := by
  cases move with
  | enters same => exact .inl (same ▸ awaits)
  | turns serves follows =>
    have turn : stage.Turn crowd.grounded request crowd.fleet next after := follows.turn
    cases turn with
    | goes goes _ =>
      rcases goes.awaits awaits with still | ⟨same, listed⟩
      · exact .inl still
      · exact .inr ⟨same, serves, listed, rfl⟩
    | refused closes _ => exact absurd awaits closes.not_awaits
    | told closes _ _ => exact absurd awaits closes.not_awaits
    | does _ _ answers _ _ => exact absurd awaits answers.not_awaits
    | flies => exact awaits.elim
  | writes _ _ closes _ _ => exact absurd awaits closes.not_awaits
  | leaves _ closes => exact absurd awaits closes.not_awaits
  | flies => exact awaits.elim
  | lands => exact awaits.elim

/-- A request that comes to an error was at it already, or is refused by this step. -/
theorem Move.refuses (move : Move crowd request stage next after) (answers : next.Answers response)
    (error : response.isError = true) :
    stage.Answers response ∨ stage.Serves request ∧ next.Closes response := by
  have failed : ∀ {other : Response}, next.Answers other → other.isError = false → False := by
    intro other told success
    rw [told.unique answers, error] at success
    cases success
  cases move with
  | enters => exact answers.elim
  | turns serves follows =>
    have turn : stage.Turn crowd.grounded request crowd.fleet next after := follows.turn
    cases turn with
    | goes _ serves' => exact absurd answers serves'.not_answers
    | refused closes _ => exact .inr ⟨serves, closes.answers.unique answers ▸ closes⟩
    | told closes success _ => exact (failed closes.answers success).elim
    | does _ _ told success _ => exact (failed told success).elim
    | flies => exact answers.elim
  | writes told _ closes _ _ => exact .inl (closes.answers.unique answers ▸ told)
  | @leaves _ id _ same closes =>
    subst same
    have told : (Stage.leave id next).Answers response := closes.answers.unique answers ▸ closes
    exact .inl told
  | flies => exact answers.elim
  | @lands id outcomes matrix =>
    have told : (Stage.leave id (.done (.batch (.of outcomes matrix)))).Answers _ := rfl
    exact (failed told rfl).elim

theorem Move.knows (move : Move crowd request stage next after)
    (sound : stage.pending? = none → crowd.fleet.Sound) (knows : stage.Knows crowd.fleet request)
    (step : stage.next crowd.grounded crowd.fleet = (next, after)) : next.Knows after request := by
  cases move with
  | enters => trivial
  | turns serves follows =>
    have known : (stage.next crowd.grounded crowd.fleet).1.Knows crowd.fleet request :=
      Stage.next_knows (sound serves.pending?) serves knows
    rw [step] at known
    have turn : stage.Turn crowd.grounded request crowd.fleet next after := follows.turn
    cases turn with
    | does _ _ answers _ _ => exact answers.knows
    | _ => exact known
  | writes _ _ closes _ _ => exact closes.knows
  | leaves _ closes => exact closes.knows
  | flies => trivial
  | lands => trivial

theorem Move.lines (move : Move crowd request stage next after) :
    ((∀ drone, after.owner? drone = crowd.fleet.owner? drone) ∧
      ∀ id, after.listed.contains id = crowd.fleet.listed.contains id) ∨
    next.pending? = none ∧
      ((∀ drone, after.owner? drone = crowd.fleet.owner? drone) ∨
        ∀ id, after.listed.contains id = crowd.fleet.listed.contains id) := by
  cases move with
  | turns serves follows =>
    have turn : stage.Turn crowd.grounded request crowd.fleet next after := follows.turn
    cases turn with
    | does =>
      refine .inl ⟨Deed.perform_owner? _ _, ?_⟩
      intro id
      rw [Deed.perform_listed]
    | _ => exact .inl ⟨fun _ => rfl, fun _ => rfl⟩
  | @writes _ entry _ _ _ closes _ _ =>
    refine .inr ⟨closes.pending?, ?_⟩
    cases entry with
    | assign drone owner =>
      right
      intro id
      rw [Entry.write, Fleet.assign_listed]
    | _ => exact .inl fun _ => rfl
  | _ => exact .inl ⟨fun _ => rfl, fun _ => rfl⟩

end Crowd

namespace Contention

variable {contention : Contention} {requests : List Request} {events later first : List Event}
  {event : Event} {number : Nat} {response : Response} {stage next found : Stage}

/-! ### Moments of a run -/

structure Underway (fleet : Fleet) (events : List Event) (number : Nat) (before : List Event) :
    Prop where
  early : before <+: events
  asked : number < (made before).length
  unanswered : ¬ ((new fleet).play before).Answered number

/-- At some moment while the request is under way the fleet is sound, and would refuse the request with
this answer if it were handled alone. -/
def Justified (fleet : Fleet) (events : List Event) (number : Nat) (request : Request)
    (response : Response) : Prop :=
  ∃ before, Underway fleet events number before ∧ ((new fleet).play before).fleet.Sound ∧
    ((new fleet).play before).fleet.dispatch ((new fleet).play before).grounded request =
      (response, ((new fleet).play before).fleet)

/-- The request asks for a move down. After these first events the drone is where it is to be taken
from, and the target is listed. -/
structure Descends (fleet : Fleet) (events : List Event) (number : Nat) (request : Request)
    (target drone source : Nat) (changes : DroneChanges) (first : List Event) : Prop
    extends Underway fleet events number first where
  moves : request = .updateDrone drone changes
  goal : changes.matrixId = some target
  down : target < source
  owned : ((new fleet).play first).fleet.owner? drone = some source
  listed : ((new fleet).play first).fleet.listed.contains target = true

/-- After these events the drone is nowhere any more, but the target is listed. -/
structure Deserted (fleet : Fleet) (events : List Event) (number target drone : Nat)
    (first second : List Event) : Prop extends Underway fleet events number second where
  later : first <+: second
  unowned : ((new fleet).play second).fleet.owner? drone = none
  listed : ((new fleet).play second).fleet.listed.contains target = true

/-- A move down is told that its target is unknown, after first the drone has been deleted and then the
target. -/
def Overtaken (fleet : Fleet) (events : List Event) (number : Nat) (request : Request)
    (response : Response) : Prop :=
  ∃ target drone source changes first second third,
    response = .ofRefusal (.unknownMatrix target) ∧
    Descends fleet events number request target drone source changes first ∧
    Deserted fleet events number target drone first second ∧
    Underway fleet events number third ∧ second <+: third ∧
    ((new fleet).play third).fleet.listed.contains target = false

/-- What has become of a move down since it was at `first`. -/
inductive Since (fleet : Fleet) (events : List Event) (number : Nat) (request : Request)
    (target drone : Nat) (first : List Event) : Prop
  | possible (owned : ((new fleet).play events).fleet.owner? drone ≠ none)
      (listed : ((new fleet).play events).fleet.listed.contains target = true)
  | refused (justified :
      Justified fleet events number request (.ofRefusal (.unknownMatrix target)))
  | deserted {second : List Event}
      (deserted : Deserted fleet events number target drone first second)

theorem Underway.now (asked : number < (made events).length)
    (here : ((new fleet).play events).stages.get? number = some stage)
    (pursued : ∀ response, stage ≠ .done response) : Underway fleet events number events := by
  refine ⟨List.prefix_refl events, asked, ?_⟩
  rintro ⟨response, member⟩
  rw [mem_answers, here] at member
  exact pursued response (Option.some.inj member)

theorem Underway.mono {before : List Event} (underway : Underway fleet events number before)
    (more : events <+: later) : Underway fleet later number before :=
  { underway with early := underway.early.trans more }

theorem Justified.mono (justified : Justified fleet events number request response)
    (more : events <+: later) : Justified fleet later number request response := by
  obtain ⟨before, underway, refused⟩ := justified
  exact ⟨before, underway.mono more, refused⟩

theorem Descends.mono (descends : Descends fleet events number request target drone source changes
    first) (more : events <+: later) :
    Descends fleet later number request target drone source changes first :=
  { descends with toUnderway := descends.toUnderway.mono more }

theorem Deserted.mono {second : List Event}
    (deserted : Deserted fleet events number target drone first second) (more : events <+: later) :
    Deserted fleet later number target drone first second :=
  { deserted with toUnderway := deserted.toUnderway.mono more }

theorem Overtaken.mono (overtaken : Overtaken fleet events number request response)
    (more : events <+: later) : Overtaken fleet later number request response := by
  obtain ⟨target, drone, source, changes, first, second, third, told, descends, deserted, underway,
    after, unlisted⟩ := overtaken
  exact ⟨target, drone, source, changes, first, second, third, told, descends.mono more,
    deserted.mono more, underway.mono more, after, unlisted⟩

/-! ### One event -/

namespace Given

theorem answers (given : Given stage next) (answers : next.Answers response) :
    stage.Answers response := by
  obtain rfl | ⟨id, purpose, rfl, rfl⟩ := given
  · exact answers
  · exact answers.elim

theorem awaits (given : Given stage next) (awaits : next.Awaits target drone source changes) :
    stage.Awaits target drone source changes := by
  obtain rfl | ⟨id, purpose, rfl, rfl⟩ := given <;> exact awaits

theorem knows (given : Given stage next) (knows : stage.Knows fleet request) :
    next.Knows fleet request := by
  obtain rfl | ⟨id, purpose, rfl, rfl⟩ := given
  · exact knows
  · trivial

end Given

/-- What an event changes in the list and the directory: at most one of the two, and then nothing is
left half written. -/
inductive Shifts (before after : Fleet) : Prop
  | neither (owners : ∀ drone, after.owner? drone = before.owner? drone)
      (listed : ∀ id, after.listed.contains id = before.listed.contains id)
  | listing (sound : after.Sound) (owners : ∀ drone, after.owner? drone = before.owner? drone)
  | directory (sound : after.Sound)
      (listed : ∀ id, after.listed.contains id = before.listed.contains id)

theorem Advances.sound (kept : contention.Kept requests)
    (givesWay : contention.GivesWay (.pick number))
    (advances : Advances contention requests number request stage next
      (contention.step (.pick number)))
    (plain : next.pending? = none) : (contention.step (.pick number)).fleet.Sound := by
  apply (kept.step (.pick number)).sound
  intro other found there
  rcases advances.stages other found there with ⟨rfl, given⟩ | ⟨different, earlier, here, given⟩
  · exact given.pending? plain
  · rcases givesWay.rests here with rests | same
    · exact given.pending? (Stage.pending?_of_rests rests)
    · cases same
      exact absurd rfl different

theorem Kept.shifts (kept : contention.Kept requests) (givesWay : contention.GivesWay event) :
    Shifts contention.fleet (contention.step event).fleet := by
  rcases kept.step_cases event with rests | ⟨number, request, stage, next, rfl, advances⟩
  · rw [rests.fleet]
    exact .neither (fun _ => rfl) fun _ => rfl
  · rcases advances.move.lines with ⟨owners, listed⟩ | ⟨plain, owners | listed⟩
    · exact .neither owners listed
    · exact .listing (advances.sound kept givesWay plain) owners
    · exact .directory (advances.sound kept givesWay plain) listed

/-- If the target is gone before the drone is, the move would be refused for that. -/
theorem Since.step (since : Since fleet events number request target drone first)
    (descends : Descends fleet events number request target drone source changes first)
    (shifts : Shifts ((new fleet).play events).fleet ((new fleet).play (events ++ [event])).fleet)
    (underway : Underway fleet (events ++ [event]) number (events ++ [event])) :
    Since fleet (events ++ [event]) number request target drone first := by
  have more : events <+: events ++ [event] := List.prefix_append events [event]
  cases since with
  | possible owned listed =>
    cases shifts with
    | neither owners listings =>
      exact .possible (owners drone ▸ owned) ((listings target).trans listed)
    | listing sound owners =>
      cases still : ((new fleet).play (events ++ [event])).fleet.listed.contains target with
      | true => exact .possible (owners drone ▸ owned) still
      | false =>
        obtain ⟨id, known⟩ := Option.ne_none_iff_exists'.mp (owners drone ▸ owned)
        have denied : Fleet.Denies _ ((new fleet).play (events ++ [event])).grounded
            (.updateDrone drone changes) _ := update_unlisted sound known descends.goal still
        rw [← descends.moves] at denied
        exact .refused ⟨_, underway, sound, denied.dispatch sound⟩
    | directory sound listings =>
      have still := (listings target).trans listed
      cases known : ((new fleet).play (events ++ [event])).fleet.owner? drone with
      | some id => exact .possible (known ▸ nofun) still
      | none => exact .deserted ⟨underway, descends.early.trans more, known, still⟩
  | refused justified => exact .refused (justified.mono more)
  | deserted deserted => exact .deserted (deserted.mono more)

/-! ### Every request -/

/-- What a request goes by is true, its errors have their reasons, and what has become of a move down is
known. -/
structure Reported (fleet : Fleet) (events : List Event) (number : Nat) (request : Request)
    (stage : Stage) : Prop where
  knows : stage.Knows ((new fleet).play events).fleet request
  errors : ∀ response, stage.Answers response → response.isError = true →
    Justified fleet events number request response ∨ Overtaken fleet events number request response
  awaits : ∀ target drone source changes, stage.Awaits target drone source changes → ∃ first,
    Descends fleet events number request target drone source changes first ∧
      Since fleet events number request target drone first

theorem Reported.rests (reported : Reported fleet events number request stage)
    (asked : number < (made (events ++ [event])).length)
    (shifts : Shifts ((new fleet).play events).fleet ((new fleet).play (events ++ [event])).fleet)
    (there : ((new fleet).play (events ++ [event])).stages.get? number = some next)
    (given : Given stage next)
    (knows : next.Knows ((new fleet).play (events ++ [event])).fleet request) :
    Reported fleet (events ++ [event]) number request next := by
  have more : events <+: events ++ [event] := List.prefix_append events [event]
  refine ⟨knows, ?_, ?_⟩
  · intro response answers error
    exact (reported.errors response (given.answers answers) error).imp (·.mono more) (·.mono more)
  · intro target drone source changes awaits
    obtain ⟨first, descends, since⟩ :=
      reported.awaits target drone source changes (given.awaits awaits)
    have underway := Underway.now asked there awaits.pursued
    exact ⟨first, descends.mono more, since.step descends shifts underway⟩

/-- A request that is refused now would be refused alone, now or at a moment since it began to wait. -/
theorem Reported.denied (reported : Reported fleet events number request stage)
    (kept : ((new fleet).play events).Kept (made events))
    (sound : ((new fleet).play events).fleet.Sound) (asked : number < (made events).length)
    (here : ((new fleet).play events).stages.get? number = some stage)
    (serves : stage.Serves request)
    (closes : (stage.next ((new fleet).play events).grounded
      ((new fleet).play events).fleet).1.Closes response)
    (error : response.isError = true) :
    Justified fleet events number request response ∨
      Overtaken fleet events number request response := by
  obtain ⟨whole, orderly⟩ := kept.lawful.orderly
  have underway := Underway.now asked here fun response same => by
    subst same
    exact serves
  rcases Stage.next_denied sound (orderly.fits number stage here) serves reported.knows closes error
    with denied | ⟨target, drone, source, changes, rfl, unlisted, rfl⟩
  · exact .inl ⟨events, underway, sound, denied.dispatch sound⟩
  · obtain ⟨first, descends, since⟩ := reported.awaits target drone source changes ⟨rfl, rfl⟩
    cases since with
    | possible _ listed =>
      rw [unlisted] at listed
      cases listed
    | refused justified => exact .inl justified
    | @deserted second deserted =>
      exact .inr ⟨target, drone, source, changes, first, second, events, rfl, descends, deserted,
        underway, deserted.early, unlisted⟩

theorem Reported.advances (reported : Reported fleet events number request stage)
    (kept : ((new fleet).play events).Kept (made events))
    (givesWay : ((new fleet).play events).GivesWay (.pick number))
    (advances : Advances ((new fleet).play events) (made events) number request stage next
      ((new fleet).play (events ++ [.pick number])))
    (there : ((new fleet).play (events ++ [.pick number])).stages.get? number = some found)
    (given : Given next found) :
    Reported fleet (events ++ [.pick number]) number request found := by
  have more : events <+: events ++ [.pick number] := List.prefix_append events _
  have asked := (List.getElem?_eq_some_iff.mp advances.asked).1
  have sound := kept.sound_at givesWay advances.here
  refine ⟨given.knows (advances.move.knows sound reported.knows advances.step), ?_, ?_⟩
  · intro response answers error
    have reasons : Justified fleet events number request response ∨
        Overtaken fleet events number request response := by
      rcases advances.move.refuses (given.answers answers) error with earlier | ⟨serves, closes⟩
      · exact reported.errors response earlier error
      · exact reported.denied kept (sound serves.pending?) asked advances.here serves
          (advances.step ▸ closes) error
    exact reasons.imp (·.mono more) (·.mono more)
  · intro target drone source changes awaits
    rcases advances.move.awaits (given.awaits awaits) with still | ⟨rfl, serves, listed, same⟩
    · obtain ⟨first, descends, since⟩ := reported.awaits target drone source changes still
      have shifts := kept.shifts givesWay
      rw [← play_snoc] at shifts
      have asked' : number < (made (events ++ [.pick number])).length := by
        rw [made_append, List.length_append]
        exact Nat.lt_add_right _ asked
      have underway := Underway.now asked' there awaits.pursued
      exact ⟨first, descends.mono more, since.step descends shifts underway⟩
    · -- It has just seen its target, and knows that the drone is still where it was.
      have owned : ((new fleet).play events).fleet.owner? drone = some source := reported.knows
      obtain ⟨whole, orderly⟩ := kept.lawful.orderly
      obtain ⟨moves, goal⟩ := serves
      have began := Underway.now asked advances.here fun _ => nofun
      have down := orderly.fits number _ advances.here
      refine ⟨events, ⟨began.mono more, moves, goal, down, owned, listed⟩, .possible ?_ ?_⟩
      · rw [same]
        exact owned ▸ nofun
      · rw [same]
        exact listed

theorem play_reported (sound : fleet.Sound) (cooperative : (new fleet).Cooperative events)
    (asked : (made events)[number]? = some request)
    (here : ((new fleet).play events).stages.get? number = some stage) :
    Reported fleet events number request stage := by
  induction events using List.reverseRecOn generalizing number request stage with
  | nil => cases asked
  | append_singleton events event ih =>
    obtain ⟨earlier, givesWay, _⟩ := cooperative_append.mp cooperative
    have kept := play_kept sound events
    have shifts := kept.shifts givesWay
    rw [← play_snoc] at shifts
    obtain ⟨whole, orderly⟩ := kept.lawful.orderly
    have known : ∀ {before}, ((new fleet).play events).stages.get? number = some before →
        Reported fleet events number request before := by
      intro before there
      obtain ⟨_, asked', _⟩ := orderly.belongs number before there
      have bound : number < (made events).length := (List.getElem?_eq_some_iff.mp asked').1
      rw [made_append, List.getElem?_append_left bound] at asked
      exact ih earlier asked there
    have bound := (List.getElem?_eq_some_iff.mp asked).1
    rcases kept.step_cases event with rests | ⟨mover, other, before, next, rfl, advances⟩
    · rw [← play_snoc] at rests
      rcases rests.stages number stage here with ⟨_, _, rfl⟩ | ⟨before, there, given⟩
      · exact ⟨trivial, fun _ answers => answers.elim, fun _ _ _ _ awaits => awaits.elim⟩
      · have reported := known there
        exact reported.rests bound shifts here given (given.knows (rests.fleet ▸ reported.knows))
    · rw [← play_snoc] at advances
      rcases advances.stages number stage here with
        ⟨rfl, given⟩ | ⟨different, before', there, given⟩
      · have reported := known advances.here
        have same : request = other := by
          rw [made_append, List.getElem?_append_left
            (List.getElem?_eq_some_iff.mp advances.asked).1, advances.asked] at asked
          exact (Option.some.inj asked).symm
        subst same
        exact reported.advances kept givesWay advances here given
      · -- Another request takes a step, and this one rests: it goes by nothing now.
        have rests : before'.rests = true := by
          rcases givesWay.rests there with rests | same
          · exact rests
          · cases same
            exact absurd rfl different
        exact (known there).rests bound shifts here given (given.knows (Stage.knows_of_rests rests))

/-- Requests that give way only where they may have to wait are told no error without a reason, except
for moves down that are overtaken. -/
theorem play_errors (sound : fleet.Sound) (cooperative : (new fleet).Cooperative events)
    (asked : (made events)[number]? = some request)
    (answered : (number, response) ∈ ((new fleet).play events).answers)
    (error : response.isError = true) :
    Justified fleet events number request response ∨
      Overtaken fleet events number request response := by
  have here := mem_answers.mp answered
  exact (play_reported sound cooperative asked here).errors response rfl error

/-! ### A move that is overtaken -/

instance (contention : Contention) (number : Nat) : Decidable (contention.Answered number) :=
  decidable_of_iff (∃ answer ∈ contention.answers, answer.1 = number)
    ⟨fun ⟨answer, member, same⟩ => ⟨answer.2, same ▸ member⟩,
      fun ⟨response, member⟩ => ⟨(number, response), member, rfl⟩⟩

/-- The first of two matrices is about to be deleted, and a drone on the second is to be moved to it;
both wait for the outsider who has it. Before they get it the drone is deleted. -/
def overtaking : List Event :=
  List.flatten
    [[.submit (.createMatrix 4 4), .pick 0, .pick 0, .submit (.createMatrix 4 4), .pick 1, .pick 1,
      .submit (.createDrone ⟨"", "", ⟨0, 0, .north⟩, 2⟩)], List.replicate 6 (.pick 2),
      [.hold 1, .submit (.deleteMatrix 1)], List.replicate 3 (.pick 3),
      .submit (.updateDrone 1 ⟨none, none, none, none, none, some 1⟩) :: List.replicate 8 (.pick 4),
      .submit (.deleteDrone 1) :: List.replicate 7 (.pick 5),
      .release 1 :: List.replicate 3 (.pick 3), List.replicate 2 (.pick 4)]

/-- Before the matrix is gone the drone is, so that the fleet would never refuse the move for the
matrix. -/
theorem overtaken_move_refused :
    ¬ ∀ (fleet : Fleet) (events : List Event) (number : Nat) (request : Request)
      (response : Response),
      fleet.Sound → (new fleet).Cooperative events → (made events)[number]? = some request →
      (number, response) ∈ ((new fleet).play events).answers → response.isError = true →
      ∃ before, Underway fleet events number before ∧
        (((new fleet).play before).fleet.dispatch ((new fleet).play before).grounded request).1 =
          response := by
  intro claim
  obtain ⟨before, underway, refused⟩ := claim .empty overtaking 4 _ (.ofRefusal (.unknownMatrix 1))
    Fleet.empty_sound (by decide +kernel) rfl (by decide +kernel) rfl
  have moments : ∀ length ≤ overtaking.length,
      4 < (made (overtaking.take length)).length →
      ¬ ((new .empty).play (overtaking.take length)).Answered 4 →
      (((new .empty).play (overtaking.take length)).fleet.dispatch
        ((new .empty).play (overtaking.take length)).grounded
        (.updateDrone 1 ⟨none, none, none, none, none, some 1⟩)).1 ≠
          .ofRefusal (.unknownMatrix 1) := by
    decide +kernel
  have moment := moments before.length underway.early.length_le
  rw [← List.prefix_iff_eq_take.mp underway.early] at moment
  exact moment underway.asked underway.unanswered refused

theorem play_errors_overtaken :
    Fleet.empty.Sound ∧ (new .empty).Cooperative overtaking ∧
      (4, .ofRefusal (.unknownMatrix 1)) ∈ ((new .empty).play overtaking).answers ∧
      (Justified .empty overtaking 4 (.updateDrone 1 ⟨none, none, none, none, none, some 1⟩)
          (.ofRefusal (.unknownMatrix 1)) ∨
        Overtaken .empty overtaking 4 (.updateDrone 1 ⟨none, none, none, none, none, some 1⟩)
          (.ofRefusal (.unknownMatrix 1))) :=
  have cooperative : (new .empty).Cooperative overtaking := by decide +kernel
  have answered : (4, .ofRefusal (.unknownMatrix 1)) ∈ ((new .empty).play overtaking).answers := by
    decide +kernel
  ⟨Fleet.empty_sound, cooperative, answered,
    play_errors Fleet.empty_sound cooperative rfl answered rfl⟩

end Contention

end DroneFleet
