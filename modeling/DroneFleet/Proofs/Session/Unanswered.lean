import DroneFleet.Proofs.Fleet.Serving
import DroneFleet.Proofs.Json.Lengths
import DroneFleet.Proofs.Session.Transcript

/-!
What a client does not hear of. The length of a reply is looked at only when the request has been
handled, so a request may change the fleet although its reply cannot be sent
(`founding_unanswered`), under any limit that lets requests in (`limit_outgrown`). That is all that
can happen without an answer, and at most once on a connection, since the session is closed then
(`converse_unanswered`).
-/
namespace DroneFleet.Session

variable {limit : Nat} {grounded : Bool} {fleet final : Fleet} {entries : List (Nat × Envelope)}
  {replies : List Envelope} {fitted : Bool}

theorem Attends.replied (attends : Attends limit grounded fleet entries replies final fitted)
    {i : Nat} {reply : Envelope} (here : replies[i]? = some reply) :
    Fits limit reply ∧ ∃ envelope, entries[i]? = some (reply.header.timestampMs, envelope) ∧
      Answers grounded (fleet.serve (calls grounded ((entries.map (·.2)).take i))) envelope reply := by
  induction attends generalizing i with
  | idle fleet => simp at here
  | @answered fleet final now envelope entries replies fitted fits rest ih =>
    cases i with
    | zero =>
      obtain rfl := Option.some.inj here
      exact ⟨fits, envelope, rfl, replyTo_answers grounded now fleet envelope⟩
    | succ i =>
      rw [List.map_cons, List.take_succ_cons, serve_calls_cons]
      exact ih here
  | stopped long entries => simp at here

/-- The session stops where there is nothing left or where a reply is too long; the envelope that it
is owed to has been dealt with. -/
theorem Attends.stops (attends : Attends limit grounded fleet entries replies final fitted) :
    let known := fleet.serve (calls grounded ((entries.map (·.2)).take replies.length))
    (replies.length = entries.length ∧ final = known) ∨
      ∃ now envelope, entries[replies.length]? = some (now, envelope) ∧
        ¬ Fits limit (replyTo grounded now known envelope) ∧
        final = handled grounded known envelope := by
  induction attends with
  | idle fleet => exact .inl ⟨rfl, rfl⟩
  | @answered fleet final now envelope entries replies fitted fits rest ih =>
    rw [List.length_cons, List.length_cons, List.map_cons, List.take_succ_cons, serve_calls_cons]
    exact ih.imp_left fun ⟨size, ends⟩ => ⟨congrArg (· + 1) size, ends⟩
  | @stopped fleet now envelope long entries =>
    exact .inr ⟨now, envelope, rfl, long, rfl⟩

theorem handled_ne_iff {envelope : Envelope} : handled grounded fleet envelope ≠ fleet ↔
    ∃ request, envelope.payload = .request request ∧ (fleet.dispatch grounded request).2 ≠ fleet := by
  rw [handled]
  cases envelope.payload with
  | request request => simp [respond]
  | response response => simp [respond]

theorem Attends.unanswered (attends : Attends limit grounded fleet entries replies final fitted) :
    let envelopes := entries.map (·.2)
    let known := fleet.serve (calls grounded (envelopes.take replies.length))
    (replies.length = envelopes.length → final = known) ∧
    (∀ envelope, envelopes[replies.length]? = some envelope →
      final = handled grounded known envelope ∧
        ∃ now, (now, envelope) ∈ entries ∧ ¬ Fits limit (replyTo grounded now known envelope)) ∧
    (final ≠ known ↔ ∃ envelope request, envelopes[replies.length]? = some envelope ∧
      envelope.payload = .request request ∧ (known.dispatch grounded request).2 ≠ known) := by
  intro envelopes known
  rcases attends.stops with ⟨size, ends⟩ | ⟨now, envelope, there, long, ends⟩
  · have nothing : envelopes[replies.length]? = none := by simp [envelopes, size]
    refine ⟨fun _ => ends, fun envelope there => ?_, iff_of_false (fun changed => changed ends) ?_⟩
    · cases nothing.symm.trans there
    · rintro ⟨envelope, request, there, _⟩
      cases nothing.symm.trans there
  · subst ends
    have told : envelopes[replies.length]? = some envelope := by simp [envelopes, there]
    refine ⟨fun size => ?_, fun other here => ?_, ?_⟩
    · rw [List.getElem?_eq_none (Nat.le_of_eq size.symm)] at told
      cases told
    · obtain rfl := Option.some.inj (told.symm.trans here)
      exact ⟨rfl, now, List.mem_of_getElem? there, long⟩
    · refine handled_ne_iff.trans ⟨fun ⟨request, asked, changes⟩ => ?_, ?_⟩
      · exact ⟨envelope, request, told, asked, changes⟩
      · rintro ⟨other, request, here, asked, changes⟩
        obtain rfl := Option.some.inj (told.symm.trans here)
        exact ⟨request, asked, changes⟩

/-! ### A single frame -/

def lone (now : Nat) (envelope : Envelope) : Arrival :=
  ⟨fun _ => now, Frame.framed (Frame.body envelope)⟩

theorem converse_lone {limit now : Nat} (grounded : Bool) (fleet : Fleet) {envelope : Envelope}
    (words : ∀ number ∈ envelope.numbers, number ≤ Text.word64Limit)
    (accepted : (Frame.body envelope).length ≤ min limit Frame.maxLength)
    (long : ¬ Fits (min limit Frame.maxLength) (replyTo grounded now fleet envelope)) :
    ∃ last, (Session.new limit).converse grounded fleet [lone now envelope] =
      ([], handled grounded fleet envelope, last) := by
  have isOpen : (Session.new limit).isOpen = true := rfl
  obtain ⟨last, conversed, _⟩ := @converse_frame (Session.new limit) _ now isOpen rfl
    (Frame.min_maxLength_lt _) grounded fleet envelope words accepted [lone now envelope]
    (by simp [lone]) (by simp [lone])
  exact ⟨last, conversed.trans (by rw [show (Session.new limit).limit = limit from rfl, if_neg long])⟩

theorem drain_founding :
    ((Frame.Decoder.new 160).feed
      ([lone 1700000000000 founding].map (·.bytes)).flatten).drain.1 = [founding] := by
  have read : Frame.decodeBody (Frame.body founding) = .ok founding :=
    Frame.decodeBody_body (by decide)
  have drained := Frame.Decoder.drain_framed (show 160 < UInt32.size by decide)
    (show (Frame.body founding).length ≤ 160 by decide +kernel) read
  rw [List.map_singleton, List.flatten_singleton]
  exact congrArg (·.1) drained

theorem creates_matrix : (Fleet.empty.dispatch false (.createMatrix 4 4)).2 ≠ Fleet.empty :=
  fun same => absurd (congrArg Fleet.lastMatrix same) (by decide +kernel)

/-! ### Whole connections -/

/-- A session sends a reply within the limit for every envelope up to a place, and what these make of
the fleet is what the client can know. An envelope at that place has been dealt with and its reply is
too long; nothing is done for those behind it. So the fleet is another one than the client can know
just if that envelope holds a request that changes it. -/
theorem converse_unanswered (config : ServerConfig) (valid : config.validate = .ok ())
    (grounded : Bool) (fleet : Fleet) (arrivals : List Arrival) :
    let limit := config.maxFrameBytes
    let envelopes := ((Frame.Decoder.new limit).feed (arrivals.map (·.bytes)).flatten).drain.1
    let outcome := (Session.new limit).converse grounded fleet arrivals
    ∃ replies : List Envelope, outcome.1 = sent replies ∧
      (∀ i reply, replies[i]? = some reply → Fits limit reply ∧
        (∃ arrival ∈ arrivals, ∃ turn, arrival.clock turn = reply.header.timestampMs) ∧
        ∃ envelope, envelopes[i]? = some envelope ∧
          Answers grounded (fleet.serve (calls grounded (envelopes.take i))) envelope reply) ∧
      let known := fleet.serve (calls grounded (envelopes.take replies.length))
      (replies.length = envelopes.length → outcome.2.1 = known) ∧
      (∀ envelope, envelopes[replies.length]? = some envelope →
        outcome.2.1 = handled grounded known envelope ∧
          ∃ now, (∃ arrival ∈ arrivals, ∃ turn, arrival.clock turn = now) ∧
            ¬ Fits limit (replyTo grounded now known envelope)) ∧
      (outcome.2.1 ≠ known ↔ ∃ envelope request, envelopes[replies.length]? = some envelope ∧
        envelope.payload = .request request ∧ (known.dispatch grounded request).2 ≠ known) := by
  intro limit envelopes outcome
  have within : min limit Frame.maxLength = limit := Nat.min_eq_left (maxFrameBytes_le valid)
  have small : (Frame.Decoder.new limit).limit < UInt32.size := Frame.min_maxLength_lt limit
  have isOpen : (Session.new limit).isOpen = true := rfl
  have drained : (timed (.new limit) arrivals).map (·.2) = envelopes :=
    timed_envelopes rfl small arrivals
  obtain ⟨replies, final, fitted, last, attends, conversed, _⟩ :=
    converse_leaves isOpen rfl small grounded fleet arrivals
  rw [show (Session.new limit).limit = limit from rfl, within,
    show (Session.new limit).decoder = .new limit from rfl] at attends
  rw [show outcome = (sent replies, final, last) from conversed, ← drained]
  obtain ⟨all, long, changed⟩ := attends.unanswered
  refine ⟨replies, rfl, fun i reply here => ?_, all, fun envelope here => ?_, changed⟩
  · obtain ⟨fits, envelope, there, answers⟩ := attends.replied here
    have known : ((timed (.new limit) arrivals).map (·.2))[i]? = some envelope := by simp [there]
    exact ⟨fits, mem_timed (List.mem_of_getElem? there), envelope, known, answers⟩
  · obtain ⟨handled, now, member, exceeds⟩ := long envelope here
    exact ⟨handled, now, mem_timed member, exceeds⟩

theorem converse_unanswered_narrow :
    narrow.validate = .ok () ∧ ∃ replies : List Envelope,
      ((Session.new 160).converse false Fleet.empty [lone 1700000000000 founding]).1 = sent replies ∧
        (((Session.new 160).converse false Fleet.empty [lone 1700000000000 founding]).2.1 ≠
          Fleet.empty.serve (calls false ([founding].take replies.length)) ↔ replies = []) := by
  obtain ⟨replies, sends, _, _, _, changed⟩ :=
    converse_unanswered narrow rfl false Fleet.empty [lone 1700000000000 founding]
  rw [show narrow.maxFrameBytes = 160 from rfl] at *
  rw [drain_founding] at changed
  refine ⟨rfl, replies, sends, changed.trans ⟨?_, ?_⟩⟩
  · rintro ⟨envelope, request, here, _⟩
    obtain ⟨inside, _⟩ := List.getElem?_eq_some_iff.mp here
    exact List.length_eq_zero_iff.mp (Nat.lt_one_iff.mp inside)
  · rintro rfl
    exact ⟨founding, .createMatrix 4 4, rfl, rfl, creates_matrix⟩

/-- A matrix has been created, and nothing is sent. -/
theorem founding_unanswered :
    narrow.validate = .ok () ∧ (Frame.body founding).length ≤ narrow.maxFrameBytes ∧
      founding.payload = .request (.createMatrix 4 4) ∧
      (Fleet.empty.dispatch false (.createMatrix 4 4)).2 ≠ Fleet.empty ∧
      ((Session.new 160).converse false Fleet.empty [lone 1700000000000 founding]).1 = [] ∧
      ((Session.new 160).converse false Fleet.empty [lone 1700000000000 founding]).2.1 =
        (Fleet.empty.dispatch false (.createMatrix 4 4)).2 := by
  have accepted : (Frame.body founding).length ≤ 160 := by decide +kernel
  obtain ⟨last, conversed⟩ := @converse_lone 160 1700000000000 false Fleet.empty founding
    (by decide) accepted (by decide +kernel)
  rw [conversed]
  exact ⟨rfl, accepted, rfl, creates_matrix, rfl, rfl⟩

/-! ### Every limit -/

def christened (name : String) : Fleet :=
  Fleet.empty.serve
    [(false, .createMatrix 3 3), (false, .createDrone ⟨name, "", ⟨0, 0, .north⟩, 1⟩)]

def widening : Envelope := ⟨⟨"console", 8, 0⟩, .request (.updateMatrix 1 4 4)⟩

theorem widening_told (grounded : Bool) (now : Nat) (name : String) :
    replyTo grounded now (christened name) widening =
      reply now 8 (.matrix ⟨1, ⟨4, 4⟩, [⟨1, name, "", ⟨0, 0, .north⟩, 1⟩]⟩) := rfl

theorem widening_changes (grounded : Bool) (name : String) :
    ((christened name).dispatch grounded (.updateMatrix 1 4 4)).2 ≠ christened name := by
  intro same
  have widened : some (Bounds.mk 4 4) = some (Bounds.mk 3 3) :=
    congrArg (fun fleet => (fleet.standing? 1).map (·.bounds)) same
  cases widened

/-- The name is inside the drone, that inside the matrix, and that inside the reply. -/
theorem widening_long (grounded : Bool) (now : Nat) (name : String) :
    name.toList.length ≤ (Frame.body (replyTo grounded now (christened name) widening)).length := by
  rw [widening_told]
  let drone : Drone := ⟨1, name, "", ⟨0, 0, .north⟩, 1⟩
  let view : MatrixView := ⟨1, ⟨4, 4⟩, [drone]⟩
  calc name.toList.length
    _ ≤ (Json.text name).compact.length := Json.length_le_compact_text name
    _ ≤ drone.toJson.compact.length := @Json.length_le_compact_record "name" _ _ (by simp [drone])
    _ ≤ (Json.array [drone.toJson]).compact.length := Json.length_le_compact_array (by simp)
    _ ≤ view.toJson.compact.length := @Json.length_le_compact_record "drones" _ _ (by simp [view])
    _ ≤ (Response.matrix view).toJson.compact.length :=
      @Json.length_le_compact_record "data" _ _ (by simp [Response.content])
    _ ≤ (Payload.response (.matrix view)).toJson.compact.length :=
      @Json.length_le_compact_record "body" _ _ (by simp)
    _ ≤ (reply now 8 (.matrix view)).toJson.compact.length :=
      @Json.length_le_compact_record "payload" _ _ (by simp [reply])
    _ ≤ _ := Text.length_le_bytes _

/-- Whatever the limit, a request that is within it may have an answer that is not: the one here tells
the name of a drone that has been there for long. -/
theorem limit_outgrown (config : ServerConfig) (valid : config.validate = .ok ())
    (accepted : (Frame.body widening).length ≤ config.maxFrameBytes) (grounded : Bool) (now : Nat) :
    ∃ fleet : Fleet, fleet.Sound ∧ (fleet.dispatch grounded (.updateMatrix 1 4 4)).2 ≠ fleet ∧
      ∃ last, (Session.new config.maxFrameBytes).converse grounded fleet [lone now widening] =
        ([], (fleet.dispatch grounded (.updateMatrix 1 4 4)).2, last) := by
  have within : min config.maxFrameBytes Frame.maxLength = config.maxFrameBytes :=
    Nat.min_eq_left (maxFrameBytes_le valid)
  refine ⟨christened (String.ofList (List.replicate (config.maxFrameBytes + 1) 'x')),
    Fleet.serve_sound Fleet.empty_sound _, widening_changes grounded _, ?_⟩
  apply converse_lone grounded _ (by decide) (by rwa [within])
  have long := widening_long grounded now
    (String.ofList (List.replicate (config.maxFrameBytes + 1) 'x'))
  rw [within, Fits]
  rw [String.toList_ofList, List.length_replicate] at long
  omega

end DroneFleet.Session
