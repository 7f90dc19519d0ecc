import DroneFleet.Proofs.Crowd.Fates

/-!
The word that all drones are grounded. It may come while a request for several drones is being carried
out: it then comes before one of the drones, and the request has done what the same request for the
drones before that one would have done. Once it has come, no step of a request for drones to fly changes
anything, whoever else is about (`Stage.Flies.next`).
-/
namespace DroneFleet

open Handling

namespace Handling

def Stays {α : Type} (work : Handling α) (fleet : Fleet) : Prop := (work.on fleet).2 = fleet

variable {fleet : Fleet}

theorem Stays.bind {α β : Type} {work : Handling α} {next : α → Handling β} (stays : work.Stays fleet)
    (later : ∀ value, (next value).Stays fleet) : (work >>= next).Stays fleet := by
  unfold Stays at stays ⊢
  rw [on_bind]
  generalize work.on fleet = done at stays ⊢
  obtain ⟨result, after⟩ := done
  obtain rfl : after = fleet := stays
  cases result with
  | error refusal => rfl
  | ok value => exact later value

theorem stored_stays (id : Nat) (fleet : Fleet) : (stored id).Stays fleet := by
  cases standing : fleet.standing? id <;> simp only [Stays, stored, on_bind, on_get, standing] <;> rfl

theorem record_stays (matrix : Matrix) (id : Nat) (fleet : Fleet) : (record matrix id).Stays fleet := by
  cases present : matrix.drone? id <;> simp only [Stays, record, present] <;> rfl

theorem fly_stays (matrix : Matrix) (id : Nat) (commands : List Command) (fleet : Fleet) :
    (fly true matrix id commands).Stays fleet := rfl

theorem flySingle_stays (matrix : Matrix) (id : Nat) (commands : List Command) (fleet : Fleet) :
    (flySingle true matrix id commands).Stays fleet :=
  (fly_stays matrix id commands fleet).bind fun flown =>
    (record_stays flown.2 id fleet).bind fun _ => rfl

theorem flyPlan_stays (id : Nat) (plan : Plan) (fleet : Fleet) :
    (flyPlan true id plan).Stays fleet :=
  (stored_stays id fleet).bind fun matrix =>
    (fly_stays matrix plan.droneId plan.commands fleet).bind fun _ => rfl

theorem report_stays (id : Nat) (outcomes : List DroneOutcome) (fleet : Fleet) :
    (report id outcomes).Stays fleet :=
  (stored_stays id fleet).bind fun _ => rfl

end Handling

def Purpose.Flies : Purpose → Prop
  | home _ (.fly _) => True
  | home _ (.lead _) => True
  | batch _ => True
  | _ => False

namespace Stage

def Flies : Stage → Prop
  | start request => request.commands = true
  | seek _ purpose => purpose.Flies
  | enter _ purpose => purpose.Flies
  | inside _ purpose => purpose.Flies
  | locate drone _ wanted => (Purpose.home drone wanted).Flies
  | leave _ next => next.Flies
  | mismatch _ _ => True
  | flying _ _ _ => True
  | done _ => True
  | _ => False

theorem ofRequest_flies {request : Request} (commands : request.commands = true) :
    (ofRequest request).Flies := by
  have plans (matrixId : Option Nat) (plans : List Plan) : (ofPlans matrixId plans).Flies := by
    unfold ofPlans
    split
    · trivial
    · split <;> trivial
  cases request with
  | droneCommands id input =>
    simp only [ofRequest]
    split <;> trivial
  | matrixDroneCommands matrixId ids input =>
    simp only [ofRequest]
    split
    · trivial
    · exact plans _ _
  | batchCommands matrixId entries =>
    simp only [ofRequest]
    split
    · trivial
    · exact plans _ _
  | _ => cases commands

theorem missing_flies {purpose : Purpose} (flies : purpose.Flies) (id : Nat) :
    (missing id purpose).Flies := by
  cases purpose with
  | home | batch => exact flies
  | _ => exact flies.elim

theorem muster_flies (matrix : Matrix) (plans : List Plan) : (muster matrix plans).Flies := by
  unfold muster
  split <;> trivial

/-- A request for drones to fly remains one, and a step of it changes nothing when all drones are
grounded. -/
theorem Flies.next {stage : Stage} (flies : stage.Flies) (grounded : Bool) (fleet : Fleet) :
    (stage.next grounded fleet).1.Flies ∧ (grounded = true → (stage.next grounded fleet).2 = fleet) := by
  cases stage with
  | start request =>
    cases request with
    | droneCommands | matrixDroneCommands | batchCommands => exact ⟨ofRequest_flies flies, fun _ => rfl⟩
    | _ => cases flies
  | seek id purpose =>
    simp only [Stage.next]
    split
    · exact ⟨flies, fun _ => rfl⟩
    · exact ⟨missing_flies flies id, fun _ => rfl⟩
  | enter id purpose => exact ⟨flies, fun _ => rfl⟩
  | inside id purpose =>
    simp only [Stage.next]
    split
    · rename_i matrix _
      cases purpose with
      | batch plans => exact ⟨muster_flies matrix plans, fun _ => rfl⟩
      | home drone wanted =>
        simp only [act]
        split
        · cases wanted with
          | fly commands =>
            refine ⟨trivial, ?_⟩
            rintro rfl
            exact flySingle_stays matrix drone commands fleet
          | lead plans => exact ⟨muster_flies matrix plans, fun _ => rfl⟩
          | _ => exact flies.elim
        · exact ⟨flies, fun _ => rfl⟩
      | _ => exact flies.elim
    · exact ⟨missing_flies flies id, fun _ => rfl⟩
  | locate drone last wanted =>
    simp only [Stage.next]
    split
    · exact ⟨trivial, fun _ => rfl⟩
    · split
      · exact ⟨trivial, fun _ => rfl⟩
      · exact ⟨flies, fun _ => rfl⟩
  | leave id next => exact ⟨flies, fun _ => rfl⟩
  | mismatch id drone =>
    simp only [Stage.next]
    split <;> exact ⟨trivial, fun _ => rfl⟩
  | flying id outcomes ahead =>
    cases ahead with
    | nil => exact ⟨trivial, fun _ => report_stays id outcomes fleet⟩
    | cons plan ahead =>
      constructor
      · simp only [Stage.next, after]
        split <;> trivial
      · rintro rfl
        exact flyPlan_stays id plan fleet
  | done response => exact ⟨trivial, fun _ => rfl⟩
  | _ => exact flies.elim

end Stage

/-- The request has been carried out for its first drones, and no other drone has started. -/
structure BatchReport.StopsAfter (report : BatchReport) (count : Nat) (request : Request)
    (ids : List Nat) (before after : Fleet) : Prop where
  within : count ≤ ids.length
  untouched : count = 0 → after = before
  flown : 0 < count → before.dispatch false (request.upTo count) =
    (.batch ⟨report.outcomes.take count, report.drones⟩, after)
  idle : report.outcomes.drop count = (ids.drop count).map fun id => ⟨id, .notAttempted⟩

theorem Sortie.stops {fleet : Fleet} {matrixId : Option Nat} {plans : List Plan}
    {matrix last : Matrix} {count : Nat} {outcomes : List DroneOutcome} {request : Request}
    (sortie : Sortie matrix plans count outcomes last) (sound : fleet.Sound)
    (mustered : Mustered fleet matrixId plans matrix) (flies : request.Flies matrixId plans) :
    (BatchReport.of outcomes last).StopsAfter count request (plans.map (·.droneId)) fleet
      (fleet.store last) where
  within := by
    rw [List.length_map]
    exact sortie.within
  untouched := by
    rintro rfl
    rw [sortie.unflown, Fleet.store_self mustered.standing]
  flown := sortie.dispatch_upTo sound mustered flies
  idle := by
    rw [← List.map_drop, ← idle_eq]
    exact sortie.rest

namespace Crowd

open Fleet

variable {crowd : Crowd} {whole : Fleet} {number : Nat}

def Aloft (crowd : Crowd) : Prop :=
  ∀ number stage request, crowd.stages.get? number = some stage →
    crowd.requests[number]? = some request → request.commands = true → stage.Flies

theorem new_aloft (fleet : Fleet) : (new fleet).Aloft := by
  intro number stage request here
  cases here

theorem Orderly.aloft_advance (orderly : crowd.Orderly whole) (aloft : crowd.Aloft) (number : Nat) :
    (crowd.advance number).Aloft := by
  rcases orderly.advance_cases number with
    stuck | ⟨request, stage, next, after, here, asked, _, step, moved, _⟩
  · rw [stuck]
    exact aloft
  · rw [moved]
    intro other found wanted there asked' commands
    rcases insert_cases there with ⟨rfl, rfl⟩ | ⟨_, old⟩
    · have flies := (aloft other stage wanted here asked' commands).next crowd.grounded crowd.fleet
      rw [step] at flies
      exact flies.1
    · exact aloft other found wanted old asked' commands

theorem Orderly.aloft_submit (orderly : crowd.Orderly whole) (aloft : crowd.Aloft)
    (request : Request) : (crowd.submit request).Aloft := by
  intro number stage wanted there asked commands
  rcases insert_cases there with ⟨rfl, rfl⟩ | ⟨_, old⟩
  · have same : (crowd.requests ++ [request])[crowd.requests.length]? = some request := by simp
    obtain rfl := Option.some.inj (same.symm.trans asked)
    exact commands
  · obtain ⟨_, asked', _⟩ := orderly.belongs number stage old
    have within := (List.getElem?_eq_some_iff.mp asked').1
    have same : crowd.requests[number]? = some wanted := by
      rw [← asked]
      exact (List.getElem?_append_left within).symm
    exact aloft number stage wanted old same commands

theorem Orderly.aloft_step (orderly : crowd.Orderly whole) (aloft : crowd.Aloft) (event : Event) :
    (crowd.step event).Aloft := by
  cases event with
  | submit request => exact orderly.aloft_submit aloft request
  | advance number => exact orderly.aloft_advance aloft number
  | hold id =>
    simp only [Crowd.step, Crowd.hold]
    split <;> exact aloft
  | release id => exact aloft
  | ground => exact aloft

theorem Orderly.aloft_run (orderly : crowd.Orderly whole) (aloft : crowd.Aloft)
    (events : List Event) : (crowd.run events).Aloft := by
  induction events generalizing crowd whole with
  | nil => exact aloft
  | cons event rest ih =>
    obtain ⟨settled, next⟩ := orderly.step event
    exact ih next (orderly.aloft_step aloft event)

theorem step_grounded (grounded : crowd.grounded = true) (event : Event) :
    (crowd.step event).grounded = true := by
  cases event with
  | advance number =>
    simp only [Crowd.step, Crowd.advance]
    split
    · exact grounded
    · split <;> exact grounded
  | hold id =>
    simp only [Crowd.step, Crowd.hold]
    split <;> exact grounded
  | ground => rfl
  | _ => exact grounded

theorem run_stays_grounded (grounded : crowd.grounded = true) (events : List Event) :
    (crowd.run events).grounded = true := by
  induction events generalizing crowd with
  | nil => exact grounded
  | cons event rest ih => exact ih (step_grounded grounded event)

theorem Aloft.advance (aloft : crowd.Aloft) (grounded : crowd.grounded = true) {request : Request}
    (asked : crowd.requests[number]? = some request) (commands : request.commands = true) :
    (crowd.advance number).fleet = crowd.fleet := by
  simp only [Crowd.advance]
  split
  · rfl
  · rename_i stage here
    split
    · rfl
    · exact ((aloft number stage request here asked commands).next crowd.grounded crowd.fleet).2 grounded

/-- Once the word has come that all drones are grounded, requests for drones to fly change nothing,
whatever else happens. -/
theorem still_of_ground {fleet : Fleet} (sound : fleet.Sound) (before others : List Event)
    {request : Request}
    (asked : ((new fleet).run (before ++ .ground :: others)).requests[number]? = some request)
    (commands : request.commands = true) :
    (((new fleet).run (before ++ .ground :: others)).advance number).fleet =
      ((new fleet).run (before ++ .ground :: others)).fleet := by
  have aloft := (new_orderly sound).aloft_run (new_aloft fleet) (before ++ .ground :: others)
  have grounded : ((new fleet).run (before ++ .ground :: others)).grounded = true := by
    rw [run_append]
    exact run_stays_grounded rfl others
  exact aloft.advance grounded asked commands

/-- A request for several drones has the fleet for itself, but the word that all drones are grounded may
come at any moment. If it is refused, so it would have been without that word. If it is granted, some
number of its drones, and all of them if the word has not come, have done what the request for these alone
would have done, and no other drone has started. In any run of requests that follows with all drones
grounded, those for drones to fly change nothing; each is refused as it would be otherwise, and if it is
not refused its drones are reported not to have started. All other requests do what they would do
otherwise. Nor does it matter that requests are made at the same time: once the word has come, no step of
one for drones to fly changes anything. -/
theorem run_grounded {start : Fleet} (sound : start.Sound) (calls : List (Bool × Request))
    {request : Request} {matrixId : Option Nat} {ids : List Nat}
    (several : request.several? = some (matrixId, ids)) {events : List Event}
    (quiet : ∀ event ∈ events, event.Quiet) :
    let fleet := start.serve calls
    let crowd := ((new fleet).submit request).run events
    (ids.length + 9 ≤ events.count (.advance 0) → ∃ response, crowd.answer? 0 = some response) ∧
    (∀ response, crowd.answer? 0 = some response →
      (response.isError = true → fleet.dispatch false request = (response, crowd.fleet)) ∧
      (response.isError = false → ∃ report count, response = .batch report ∧
        report.StopsAfter count request ids fleet crowd.fleet ∧
        (.ground ∉ events → count = ids.length)) ∧
      ∀ further : List Request,
        let after := crowd.fleet.serve (further.map (true, ·))
        after = crowd.fleet.serve ((further.filter fun other => !other.commands).map (false, ·)) ∧
        ∀ next, after.Stilled next) ∧
    ∀ (others : List Event) (number : Nat) (other : Request),
      let busy := crowd.run (.ground :: others)
      busy.requests[number]? = some other → other.commands = true →
        (busy.advance number).fleet = busy.fleet := by
  intro fleet crowd
  have whole : fleet.Sound := serve_sound sound calls
  obtain ⟨commands, addressed⟩ := Request.several_commands several
  obtain ⟨answered, fates⟩ := alone_fate whole commands quiet
  refine ⟨fun enough => answered (addressed ▸ enough), fun response told => ?_, ?_⟩
  · have fate : Stage.Fate fleet (watch false events) request response crowd.fleet :=
      fates response told
    generalize crowd.fleet = left at fate
    have kept : left.Sound := fate.sound whole
    refine ⟨fun refused => ?_, fun granted => ?_, fun further =>
      ⟨serve_stilled kept further, fun next => dispatch_stilled (serve_sound kept _) next⟩⟩
    · cases fate with
      | refused refuses => exact refuses false
      | single | several => cases refused
    · cases fate with
      | refused => cases granted
      | single => cases several
      | @several _ _ plans matrix last count outcomes flies mustered sortie all =>
        obtain rfl := flies.listed several
        refine ⟨_, count, rfl, sortie.stops whole mustered flies, fun never => ?_⟩
        rw [all (watch_clear never), List.length_map]
  · intro others number other busy asked wanted
    have same : busy = (new fleet).run ((.submit request :: events) ++ .ground :: others) :=
      (run_append (new fleet) (.submit request :: events) (.ground :: others)).symm
    rw [same] at asked ⊢
    exact still_of_ground whole _ others asked wanted

/-- The first two drones of three have had their turn when the word comes. -/
theorem run_grounded_interrupted :
    Fleet.empty.Sound ∧ stepping.several? = some (none, [1, 2, 3]) ∧
      (∀ event ∈ interrupted, event.Quiet) ∧ ∃ report count,
        (((new (Fleet.empty.serve corner)).submit stepping).run interrupted).answer? 0 =
          some (.batch report) ∧
        report.outcomes = [⟨1, .rejected 0 .collisionRisk ⟨0, 0, .east⟩ (some 2)⟩,
          ⟨2, .completed ⟨1, 1, .north⟩⟩, ⟨3, .notAttempted⟩] ∧
        report.StopsAfter count stepping [1, 2, 3] (Fleet.empty.serve corner)
          (((new (Fleet.empty.serve corner)).submit stepping).run interrupted).fleet ∧ 2 ≤ count ∧
        (((new (Fleet.empty.serve corner)).submit stepping).run interrupted).fleet.Stilled stepping := by
  have told : (((new (Fleet.empty.serve corner)).submit stepping).run interrupted).answer? 0 =
      some (.batch ⟨[⟨1, .rejected 0 .collisionRisk ⟨0, 0, .east⟩ (some 2)⟩,
        ⟨2, .completed ⟨1, 1, .north⟩⟩, ⟨3, .notAttempted⟩],
        [⟨2, "", "", ⟨1, 1, .north⟩, 1⟩]⟩) := by decide +kernel
  obtain ⟨_, granted, follows⟩ :=
    (run_grounded empty_sound corner (rfl : stepping.several? = some (none, [1, 2, 3]))
      interrupted_quiet).2.1 _ told
  obtain ⟨report, count, same, stops, _⟩ := granted rfl
  cases same
  have later : 2 ≤ count := by
    have idle := stops.idle
    match count with
    | 0 | 1 => simp at idle
    | count + 2 => exact Nat.le_add_left 2 count
  exact ⟨empty_sound, rfl, interrupted_quiet, _, count, told, rfl, stops, later,
    (follows []).2 stepping⟩

end Crowd

end DroneFleet
