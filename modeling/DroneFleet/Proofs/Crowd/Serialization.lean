import DroneFleet.Proofs.Crowd.Serial

/-!
When all requests are answered, the log that has been kept beside the run is the order in which those
that succeeded might have been handled one at a time.
-/
namespace DroneFleet.Crowd

variable {fleet start whole ideal : Fleet} {crowd : Crowd} {log : List (Nat × Response)}

/-- A log that accounts for a run: it has each request that was answered without an error once, with
its answer; a request that had been answered before another one was made comes first; and handling
the requests one at a time in this order gives these answers and ends in the same fleet. -/
structure Serialization (fleet : Fleet) (events : List Event) (log : List (Nat × Response)) :
    Prop where
  once : (log.map Prod.fst).Nodup
  answers : ∀ number response, (number, response) ∈ log ↔
    ((new fleet).run events).answer? number = some response ∧ response.isError = false
  timely : ∀ before after first second, events = before ++ after →
    (((new fleet).run before).answer? first).isSome = true →
    ((new fleet).run before).requests.length ≤ second →
    first ∈ log.map Prod.fst → second ∈ log.map Prod.fst →
      ∃ front back, log = front ++ back ∧ first ∈ front.map Prod.fst ∧ second ∈ back.map Prod.fst
  legal : Replay ((new fleet).run events).requests fleet log ((new fleet).run events).fleet

theorem Serial.logged (serial : Serial start crowd whole ideal log) {number : Nat}
    {response : Response} (got : crowd.answer? number = some response)
    (success : response.isError = false) : (number, response) ∈ log := by
  have here := answer?_eq_some.mp got
  obtain ⟨request, asked, _⟩ := serial.orderly.belongs number _ here
  cases serial.accounts number _ request here asked with
  | pursued serves _ => exact serves.elim
  | @failed _ given answers error _ =>
    have same : response = given := answers
    rw [same, error] at success
    cases success
  | @settled _ given answers _ logged =>
    have same : response = given := answers
    exact same ▸ logged

theorem Serial.answers (serial : Serial start crowd whole ideal log)
    (answered : ∀ number < crowd.requests.length, (crowd.answer? number).isSome = true)
    (number : Nat) (response : Response) :
    (number, response) ∈ log ↔
      crowd.answer? number = some response ∧ response.isError = false := by
  constructor
  · intro logged
    have member := List.mem_map_of_mem (f := Prod.fst) logged
    have within := serial.submitted number member
    obtain ⟨given, got⟩ := Option.isSome_iff_exists.mp (answered number within)
    have asked := List.getElem?_eq_getElem within
    have here := answer?_eq_some.mp got
    cases serial.accounts number _ _ here asked with
    | pursued serves _ => exact serves.elim
    | failed _ _ absent => exact absurd member absent
    | @settled _ given' answers success logged' =>
      have same : given = given' := answers
      subst same
      have unique := List.inj_on_of_nodup_map serial.once logged logged' rfl
      cases unique
      exact ⟨got, success⟩
  · rintro ⟨got, success⟩
    exact serial.logged got success

theorem Serial.fleet_eq (serial : Serial start crowd whole ideal log)
    (answered : ∀ number < crowd.requests.length, (crowd.answer? number).isSome = true) :
    ideal = crowd.fleet := by
  have ended : ∀ number stage, crowd.stages.get? number = some stage →
      ∃ response, stage = .done response := by
    intro number stage here
    obtain ⟨_, asked, _⟩ := serial.orderly.belongs number stage here
    obtain ⟨response, got⟩ := Option.isSome_iff_exists.mp
      (answered number (List.getElem?_eq_some_iff.mp asked).1)
    have here' := answer?_eq_some.mp got
    rw [here] at here'
    exact ⟨response, Option.some.inj here'⟩
  have same : whole = crowd.fleet := by
    apply serial.orderly.settles.fleet_eq
    intro number stage here
    obtain ⟨response, rfl⟩ := ended number stage here
    rfl
  rw [← same]
  apply Fleet.ext_lines
  · intro line
    apply serial.lines
    intro number id outcomes ahead here
    obtain ⟨response, clash⟩ := ended number _ here
    cases clash
  · exact serial.lastMatrix
  · exact serial.lastDrone

/-- A run of requests other than listings, with no flying called off, that have all been answered is
as good as a run of those that succeeded, one at a time. -/
theorem run_serializable (sound : fleet.Sound) {events : List Event}
    (plain : ∀ event ∈ events, event.Plain)
    (answered : ∀ number < ((new fleet).run events).requests.length,
      (((new fleet).run events).answer? number).isSome = true) :
    ∃ log, Serialization fleet events log := by
  obtain ⟨whole, ideal, log, serial, moments⟩ := (new_serial sound).run plain
  rw [List.nil_append] at serial
  refine ⟨log, serial.once, serial.answers answered, ?_, ?_⟩
  · intro before after first second split given unmade member member'
    obtain ⟨_, _, front, back, parts, moment⟩ := moments before after split
    rw [List.nil_append] at moment
    rw [parts, List.map_append, List.mem_append] at member member'
    refine ⟨front, back, parts, ?_, ?_⟩
    · apply member.resolve_right
      intro late
      obtain ⟨response, got⟩ := Option.isSome_iff_exists.mp given
      have kept : ((new fleet).run events).answer? first = some response := by
        rw [split, run_append]
        exact moment.orderly.run_answer got after
      obtain ⟨entry, logged, same⟩ := List.mem_map.mp late
      subst same
      have inLog : entry ∈ log := parts ▸ List.mem_append_right front logged
      have final := (serial.answers answered entry.1 entry.2).mp inLog
      rw [kept] at final
      obtain ⟨same, success⟩ := final
      cases same
      have early := List.mem_map_of_mem (f := Prod.fst) (moment.logged got success)
      have whole := serial.once
      rw [parts, List.map_append, List.nodup_append] at whole
      exact whole.2.2 _ early _ (List.mem_map_of_mem logged) rfl
    · apply member'.resolve_left
      intro early
      exact Nat.not_lt_of_le unmade (moment.submitted second early)
  · have last := serial.fleet_eq answered
    subst last
    exact serial.replay

/-- Two matrices are made at the same time, and a drone is moved while somebody looks for it. -/
def crossing : List Event :=
  List.flatten
    [[.submit (.createMatrix 4 4), .submit (.createMatrix 4 4), .advance 0, .advance 1, .advance 1,
      .advance 0, .submit (.createDrone ⟨"", "", ⟨0, 0, .north⟩, 1⟩)], List.replicate 6 (.advance 2),
      [.submit (.updateDrone 1 ⟨none, none, none, none, none, some 2⟩), .submit (.getDrone 1)],
      List.replicate 5 (.advance 3), List.replicate 4 (.advance 4), List.replicate 6 (.advance 3),
      List.replicate 10 (.advance 4)]

/-- The answers; the drone is found where it has been moved to. -/
def granted : List Response :=
  [.matrix ⟨1, ⟨4, 4⟩, []⟩, .matrix ⟨2, ⟨4, 4⟩, []⟩, .drone ⟨1, "", "", ⟨0, 0, .north⟩, 1⟩,
    .drone ⟨1, "", "", ⟨0, 0, .north⟩, 2⟩, .drone ⟨1, "", "", ⟨0, 0, .north⟩, 2⟩]

theorem run_serializable_crossing :
    Fleet.empty.Sound ∧ (∀ event ∈ crossing, event.Plain) ∧
      (∀ number < ((new .empty).run crossing).requests.length,
        (((new .empty).run crossing).answer? number).isSome = true) ∧
      ∃ log, Serialization .empty crossing log ∧
        ∀ number response, granted[number]? = some response → (number, response) ∈ log := by
  have plain : ∀ event ∈ crossing, event.Plain := by
    simp [crossing, Event.Plain, Request.isListing]
  have answered : ∀ number < ((new .empty).run crossing).requests.length,
      (((new .empty).run crossing).answer? number).isSome = true := by
    decide
  have answers : ∀ number < 5, ((new .empty).run crossing).answer? number = granted[number]? := by
    decide +kernel
  have successes : ∀ response ∈ granted, response.isError = false := by decide
  obtain ⟨log, serialization⟩ := run_serializable Fleet.empty_sound plain answered
  refine ⟨Fleet.empty_sound, plain, answered, log, serialization, fun number response given => ?_⟩
  have within : number < 5 := (List.getElem?_eq_some_iff.mp given).1
  exact (serialization.answers number response).mpr
    ⟨(answers number within).trans given, successes response (List.mem_of_getElem? given)⟩

end DroneFleet.Crowd
