import DroneFleet.Proofs.Frame.RoundTrip
import DroneFleet.Server.Config
import DroneFleet.Session.Basic

/-!
What a session sends and does over a whole connection. It depends only on the envelopes in the bytes
that come in and on the times at which they are dealt with: the requests among them are handled in order,
each envelope is answered by one frame, and the first answer that is too long ends it
(`converse_transcript`).
-/
namespace DroneFleet.Session

def replyTo (grounded : Bool) (now : Nat) (fleet : Fleet) (envelope : Envelope) : Envelope :=
  reply now envelope.header.sequenceId (respond grounded fleet envelope.payload).1

def handled (grounded : Bool) (fleet : Fleet) (envelope : Envelope) : Fleet :=
  (respond grounded fleet envelope.payload).2

def Fits (limit : Nat) (reply : Envelope) : Prop := (Frame.body reply).length ≤ limit

instance (limit : Nat) : DecidablePred (Fits limit) :=
  fun reply => inferInstanceAs (Decidable ((Frame.body reply).length ≤ limit))

def sent (replies : List Envelope) : List UInt8 :=
  replies.flatMap fun reply => Frame.framed (Frame.body reply)

theorem sent_cons (reply : Envelope) (replies : List Envelope) :
    sent (reply :: replies) = sent [reply] ++ sent replies := by
  simp [sent]

def stamped (clock : Nat → Nat) (envelopes : List Envelope) : List (Nat × Envelope) :=
  envelopes.mapIdx fun turn envelope => (clock turn, envelope)

theorem stamped_cons (clock : Nat → Nat) (envelope : Envelope) (envelopes : List Envelope) :
    stamped clock (envelope :: envelopes) =
      (clock 0, envelope) :: stamped (fun turn => clock (turn + 1)) envelopes :=
  List.mapIdx_cons

theorem stamped_envelopes (clock : Nat → Nat) (envelopes : List Envelope) :
    (stamped clock envelopes).map (·.2) = envelopes := by
  induction envelopes generalizing clock with
  | nil => rfl
  | cons envelope envelopes ih => rw [stamped_cons, List.map_cons, ih]

/-- All envelopes that can be drained of what comes in, with the time at which the turn of each comes. -/
def timed (decoder : Frame.Decoder) : List Arrival → List (Nat × Envelope)
  | [] => []
  | arrival :: arrivals =>
    let drained := (decoder.feed arrival.bytes).drain
    stamped arrival.clock drained.1 ++
      if drained.2.1.isNone then timed drained.2.2 arrivals else []

theorem timed_envelopes {decoder : Frame.Decoder} (settled : decoder.next? = none)
    (small : decoder.limit < UInt32.size) (arrivals : List Arrival) :
    (timed decoder arrivals).map (·.2) =
      (decoder.feed (arrivals.map (·.bytes)).flatten).drain.1 := by
  induction arrivals generalizing decoder with
  | nil =>
    rw [List.map_nil, List.flatten_nil, Frame.Decoder.feed, List.append_nil,
      Frame.Decoder.drain_of_none settled]
    rfl
  | cons arrival arrivals ih =>
    have whole : decoder.feed ((arrival :: arrivals).map (·.bytes)).flatten =
        (decoder.feed arrival.bytes).feed (arrivals.map (·.bytes)).flatten := by
      simp [Frame.Decoder.feed]
    have within : (decoder.feed arrival.bytes).limit < UInt32.size := small
    rw [whole, Frame.Decoder.drain_feed within, timed]
    rcases first : (decoder.feed arrival.bytes).drain with ⟨envelopes, fault, left⟩
    cases fault with
    | some fault => simp [stamped_envelopes]
    | none =>
      have kept : left.limit = decoder.limit :=
        (congrArg (·.2.2.limit) first).symm.trans (Frame.Decoder.limit_drain _)
      have later := ih (Frame.Decoder.next?_of_drain first) (kept ▸ small)
      simp [stamped_envelopes, later]

theorem mem_timed {decoder : Frame.Decoder} {arrivals : List Arrival} {entry : Nat × Envelope}
    (member : entry ∈ timed decoder arrivals) :
    ∃ arrival ∈ arrivals, ∃ turn, arrival.clock turn = entry.1 := by
  induction arrivals generalizing decoder with
  | nil => cases member
  | cons arrival arrivals ih =>
    rcases List.mem_append.mp member with now | later
    · obtain ⟨turn, _, rfl⟩ := List.mem_mapIdx.mp now
      exact ⟨arrival, List.mem_cons_self, turn, rfl⟩
    · split at later
      · obtain ⟨other, among, told⟩ := ih later
        exact ⟨other, List.mem_cons_of_mem _ among, told⟩
      · cases later

/-- Envelopes dealt with one after another, each at its time, with the replies that go out, the fleet at
the end and whether every reply could go out. -/
inductive Attends (limit : Nat) (grounded : Bool) :
    Fleet → List (Nat × Envelope) → List Envelope → Fleet → Bool → Prop
  | idle (fleet : Fleet) : Attends limit grounded fleet [] [] fleet true
  | answered {fleet final : Fleet} {now : Nat} {envelope : Envelope}
      {entries : List (Nat × Envelope)} {replies : List Envelope} {fitted : Bool}
      (fits : Fits limit (replyTo grounded now fleet envelope))
      (rest : Attends limit grounded (handled grounded fleet envelope) entries replies final fitted) :
      Attends limit grounded fleet ((now, envelope) :: entries)
        (replyTo grounded now fleet envelope :: replies) final fitted
  | stopped {fleet : Fleet} {now : Nat} {envelope : Envelope}
      (long : ¬ Fits limit (replyTo grounded now fleet envelope)) (entries : List (Nat × Envelope)) :
      Attends limit grounded fleet ((now, envelope) :: entries) [] (handled grounded fleet envelope)
        false

variable {limit : Nat} {grounded : Bool} {fleet middle final : Fleet}
  {entries : List (Nat × Envelope)} {replies : List Envelope}

theorem Attends.append {others : List (Nat × Envelope)} {more : List Envelope} {fitted : Bool}
    (front : Attends limit grounded fleet entries replies middle true)
    (back : Attends limit grounded middle others more final fitted) :
    Attends limit grounded fleet (entries ++ others) (replies ++ more) final fitted := by
  generalize all : true = open' at front
  induction front with
  | idle fleet => exact back
  | answered fits rest ih => exact .answered fits (ih back all)
  | stopped long entries => cases all

theorem Attends.extend (front : Attends limit grounded fleet entries replies final false)
    (others : List (Nat × Envelope)) :
    Attends limit grounded fleet (entries ++ others) replies final false := by
  generalize stop : false = open' at front
  induction front with
  | idle fleet => cases stop
  | answered fits rest ih => exact .answered fits (ih stop)
  | stopped long entries => exact .stopped long (entries ++ others)

/-! ### Sessions -/

variable {session : Session}

@[simp] theorem introduce_limit (session : Session) (name : String) :
    (session.introduce name).limit = session.limit := by
  unfold introduce
  split <;> rfl

@[simp] theorem introduce_isOpen (session : Session) (name : String) :
    (session.introduce name).isOpen = session.isOpen := by
  unfold introduce
  split <;> rfl

@[simp] theorem introduce_decoder (session : Session) (name : String) :
    (session.introduce name).decoder = session.decoder := by
  unfold introduce
  split <;> rfl

theorem step?_of_ok (isOpen : session.isOpen = true) {envelope : Envelope} {left : Frame.Decoder}
    (taken : session.decoder.next? = some (.ok envelope, left)) (now : Nat) (grounded : Bool)
    (fleet : Fleet) :
    session.step? now grounded fleet =
      let next := { session with decoder := left }.introduce envelope.header.clientId
      if Fits (min session.limit Frame.maxLength) (replyTo grounded now fleet envelope) then
        some (sent [replyTo grounded now fleet envelope], handled grounded fleet envelope, next)
      else some ([], handled grounded fleet envelope, next.close) := by
  simp only [step?, isOpen, if_true, taken, introduce_limit, Frame.encode_eq]
  rw [show reply now _ (respond grounded fleet _).1 = replyTo grounded now fleet envelope from rfl,
    show (respond grounded fleet _).2 = handled grounded fleet envelope from rfl]
  by_cases fits : Fits (min session.limit Frame.maxLength) (replyTo grounded now fleet envelope)
  · rw [if_pos fits, if_neg (Nat.not_lt.mpr fits)]
    simp [sent]
  · rw [if_neg fits, if_pos (Nat.lt_of_not_le fits)]

theorem serve_closed (closed : session.isOpen = false) (clock : Nat → Nat) :
    session.serve clock grounded fleet = ([], fleet, session) :=
  serve_of_none (by simp [step?, closed])

/-- Serving deals with the envelopes that can be drained, and leaves the session open just if nothing is
wrong with the bytes and with the replies. -/
theorem serve_attends (isOpen : session.isOpen = true) (clock : Nat → Nat) (grounded : Bool)
    (fleet : Fleet) :
    ∃ replies final fitted last,
      Attends (min session.limit Frame.maxLength) grounded fleet
        (stamped clock session.decoder.drain.1) replies final fitted ∧
      session.serve clock grounded fleet = (sent replies, final, last) ∧
      last.limit = session.limit ∧
      last.isOpen = (fitted && session.decoder.drain.2.1.isNone) ∧
      (last.isOpen = true → last.decoder = session.decoder.drain.2.2) := by
  generalize held : session.decoder = decoder
  induction decoder using Frame.Decoder.drain.induct generalizing session clock fleet with
  | case1 decoder taken =>
    subst held
    rw [Frame.Decoder.drain_of_none taken, serve_of_none (by simp [step?, isOpen, taken])]
    exact ⟨[], fleet, true, session, .idle fleet, rfl, rfl, isOpen, fun _ => rfl⟩
  | case2 decoder fault left taken =>
    subst held
    have stepped : session.step? (clock 0) grounded fleet =
        some ([], fleet, { session with decoder := left }.close) := by
      simp only [step?, isOpen, if_true, taken]
    rw [Frame.Decoder.drain_of_error taken, serve_of_some stepped, serve_closed rfl]
    exact ⟨[], fleet, true, _, .idle fleet, rfl, rfl, rfl,
      fun opened => absurd opened Bool.false_ne_true⟩
  | case3 decoder envelope left taken envelopes fault rest drained ih =>
    subst held
    have stepped := step?_of_ok isOpen taken (clock 0) grounded fleet
    rw [Frame.Decoder.drain_of_ok taken, stamped_cons]
    by_cases fits :
        Fits (min session.limit Frame.maxLength) (replyTo grounded (clock 0) fleet envelope)
    · rw [if_pos fits] at stepped
      have stays :
          ({ session with decoder := left }.introduce envelope.header.clientId).isOpen = true := by
        rw [introduce_isOpen]
        exact isOpen
      obtain ⟨replies, final, fitted, last, attends, served, limit, opened, decoder⟩ :=
        ih stays (fun turn => clock (turn + 1)) (handled grounded fleet envelope)
          (introduce_decoder _ _)
      rw [introduce_limit] at attends limit
      refine ⟨_, final, fitted, last, .answered fits attends, ?_, limit, opened, decoder⟩
      rw [serve_of_some stepped, served, sent_cons _ replies]
    · rw [if_neg fits] at stepped
      refine ⟨[], _, false,
        ({ session with decoder := left }.introduce envelope.header.clientId).close,
        .stopped fits _, ?_, introduce_limit _ _, rfl,
        fun opened => absurd opened Bool.false_ne_true⟩
      rw [serve_of_some stepped, serve_closed rfl]
      rfl

theorem converse_cons {arrival : Arrival} {bytes : List UInt8} {last : Session}
    (received : session.receive grounded fleet arrival = (bytes, middle, last))
    (arrivals : List Arrival) :
    session.converse grounded fleet (arrival :: arrivals) =
      (bytes ++ (last.converse grounded middle arrivals).1,
        (last.converse grounded middle arrivals).2) := by
  rw [converse, received]

theorem converse_closed (closed : session.isOpen = false) (grounded : Bool) (fleet : Fleet)
    (arrivals : List Arrival) :
    ∃ last, session.converse grounded fleet arrivals = ([], fleet, last) ∧
      last.limit = session.limit ∧ last.isOpen = false := by
  induction arrivals generalizing session with
  | nil => exact ⟨session, rfl, rfl, closed⟩
  | cons arrival arrivals ih =>
    have shut : { session with decoder := session.decoder.feed arrival.bytes }.isOpen = false := closed
    have received : session.receive grounded fleet arrival = _ := serve_closed shut arrival.clock
    obtain ⟨last, rest, kept, still⟩ := ih shut
    exact ⟨last, by rw [converse_cons received, rest]; rfl, kept, still⟩

/-- Over a whole connection a session deals with the envelopes that can be drained of all that comes
in, and it is left with what these leave. -/
theorem converse_leaves (isOpen : session.isOpen = true) (settled : session.decoder.next? = none)
    (small : session.decoder.limit < UInt32.size) (grounded : Bool) (fleet : Fleet)
    (arrivals : List Arrival) :
    let drained := (session.decoder.feed (arrivals.map (·.bytes)).flatten).drain
    ∃ replies final fitted last,
      Attends (min session.limit Frame.maxLength) grounded fleet (timed session.decoder arrivals)
        replies final fitted ∧
      session.converse grounded fleet arrivals = (sent replies, final, last) ∧
      last.limit = session.limit ∧ last.isOpen = (fitted && drained.2.1.isNone) ∧
      (last.isOpen = true → last.decoder = drained.2.2) := by
  induction arrivals generalizing session fleet with
  | nil =>
    refine ⟨[], fleet, true, session, ?_⟩
    rw [List.map_nil, List.flatten_nil, Frame.Decoder.feed, List.append_nil,
      Frame.Decoder.drain_of_none settled]
    exact ⟨.idle fleet, rfl, rfl, isOpen, fun _ => rfl⟩
  | cons arrival arrivals ih =>
    have fed : { session with decoder := session.decoder.feed arrival.bytes }.isOpen = true := isOpen
    obtain ⟨replies, middle, fitted, last, attends, served, limit, opened, decoder⟩ :=
      serve_attends fed arrival.clock grounded fleet
    have received : session.receive grounded fleet arrival = _ := served
    have whole : session.decoder.feed ((arrival :: arrivals).map (·.bytes)).flatten =
        (session.decoder.feed arrival.bytes).feed (arrivals.map (·.bytes)).flatten := by
      simp [Frame.Decoder.feed]
    have within : (session.decoder.feed arrival.bytes).limit < UInt32.size := small
    intro drained
    rw [converse_cons received, show drained = _ from congrArg _ whole,
      Frame.Decoder.drain_feed within, timed]
    rcases first : (session.decoder.feed arrival.bytes).drain with ⟨envelopes, fault, left⟩
    rw [first] at attends opened decoder
    by_cases goesOn : last.isOpen = true
    · obtain ⟨rfl, rfl⟩ : fitted = true ∧ fault = none := by simpa [goesOn] using opened
      obtain rfl : last.decoder = left := decoder goesOn
      have kept : last.decoder.limit = session.decoder.limit :=
        (congrArg (·.2.2.limit) first).symm.trans (Frame.Decoder.limit_drain _)
      obtain ⟨more, final, fitted, ends, further, conversed, bound, opened', decoder'⟩ :=
        ih goesOn (Frame.Decoder.next?_of_drain first) (kept ▸ small) middle
      rw [limit] at further
      refine ⟨replies ++ more, final, fitted, ends, attends.append further, ?_, bound.trans limit,
        opened', decoder'⟩
      simp [conversed, sent]
    · have closed : last.isOpen = false := Bool.eq_false_iff.mpr goesOn
      obtain ⟨ends, conversed, bound, still⟩ := converse_closed closed grounded middle arrivals
      have never : ¬ ends.isOpen = true := Bool.eq_false_iff.mp still
      rw [conversed, List.append_nil]
      cases fault with
      | some fault =>
        refine ⟨replies, middle, fitted, ends, ?_, rfl, bound.trans limit, ?_,
          fun opened => absurd opened never⟩
        · exact (List.append_nil (stamped arrival.clock envelopes)).symm ▸ attends
        · rw [still]
          exact (Bool.and_false fitted).symm
      | none =>
        obtain rfl : fitted = false := by simpa [closed] using opened
        exact ⟨replies, middle, false, ends, attends.extend _, rfl, bound.trans limit, still,
          fun opened => absurd opened never⟩

/-- One frame on a session that has nothing left over, in whatever pieces it comes. It is answered, or
the session is closed because the answer is too long. -/
theorem converse_frame {bound now : Nat} (isOpen : session.isOpen = true)
    (idle : session.decoder = ⟨bound, []⟩) (small : bound < UInt32.size) (grounded : Bool)
    (fleet : Fleet) {envelope : Envelope}
    (words : ∀ number ∈ envelope.numbers, number ≤ Text.word64Limit)
    (accepted : (Frame.body envelope).length ≤ bound) {arrivals : List Arrival}
    (whole : (arrivals.map (·.bytes)).flatten = Frame.framed (Frame.body envelope))
    (told : ∀ arrival ∈ arrivals, ∀ turn, arrival.clock turn = now) :
    let reply := replyTo grounded now fleet envelope
    let fits := Fits (min session.limit Frame.maxLength) reply
    ∃ last, session.converse grounded fleet arrivals =
        (if fits then sent [reply] else [], handled grounded fleet envelope, last) ∧
      last.limit = session.limit ∧ (last.isOpen = true ↔ fits) ∧
      (last.isOpen = true → last.decoder = session.decoder) := by
  intro reply fits
  have drained : (session.decoder.feed (arrivals.map (·.bytes)).flatten).drain =
      ([envelope], none, ⟨bound, []⟩) := by
    rw [idle, whole]
    exact Frame.Decoder.drain_framed small accepted (Frame.decodeBody_body words)
  have settled : session.decoder.next? = none := by
    rw [idle]
    rfl
  have bounded : session.decoder.limit < UInt32.size := idle ▸ small
  have entries : timed session.decoder arrivals = [(now, envelope)] := by
    have envelopes := timed_envelopes settled bounded arrivals
    rw [drained] at envelopes
    obtain ⟨entry, only, same⟩ := List.map_eq_singleton_iff.mp envelopes
    have member : entry ∈ timed session.decoder arrivals := only ▸ List.mem_singleton_self entry
    obtain ⟨arrival, among, turn, moment⟩ := mem_timed member
    rw [only, ← same, ← told arrival among turn, moment]
  obtain ⟨replies, final, fitted, last, attends, conversed, limit, opened, decoder⟩ :=
    converse_leaves isOpen settled bounded grounded fleet arrivals
  rw [entries] at attends
  rw [drained] at opened decoder
  rw [conversed]
  rw [← idle] at decoder
  cases attends with
  | answered within rest =>
    cases rest
    exact ⟨last, by rw [if_pos within], limit, iff_of_true opened within, decoder⟩
  | stopped long entries =>
    have closed : ¬ last.isOpen = true := by simp [opened]
    exact ⟨last, by rw [if_neg long]; rfl, limit, iff_of_false closed long, decoder⟩

/-! ### What is owed -/

def calls (grounded : Bool) (envelopes : List Envelope) : List (Bool × Request) :=
  envelopes.filterMap fun envelope =>
    match envelope.payload with
    | .request request => some (grounded, request)
    | .response _ => none

/-- A reply is the one that a fleet owes to an envelope. -/
structure Answers (grounded : Bool) (fleet : Fleet) (envelope reply : Envelope) : Prop where
  server : reply.header.clientId = serverId
  sequence : reply.header.sequenceId = envelope.header.sequenceId
  dispatched : ∀ request, envelope.payload = .request request →
    reply.payload = .response (fleet.dispatch grounded request).1
  refused : ∀ response, envelope.payload = .response response →
    reply.payload =
      .response (.ofRefusal (.invalidRequest "clients send requests, not responses"))

theorem replyTo_answers (grounded : Bool) (now : Nat) (fleet : Fleet) (envelope : Envelope) :
    Answers grounded fleet envelope (replyTo grounded now fleet envelope) where
  server := rfl
  sequence := rfl
  dispatched request asked := by rw [replyTo, asked]; rfl
  refused response sent := by rw [replyTo, sent]; rfl

theorem serve_calls_cons (grounded : Bool) (fleet : Fleet) (envelope : Envelope)
    (envelopes : List Envelope) :
    fleet.serve (calls grounded (envelope :: envelopes)) =
      (handled grounded fleet envelope).serve (calls grounded envelopes) := by
  rw [calls, List.filterMap_cons, handled]
  cases envelope.payload <;> rfl

/-- The replies to envelopes, also to those that are not dealt with any more. -/
def owed (grounded : Bool) (fleet : Fleet) (entries : List (Nat × Envelope)) : List Envelope :=
  entries.mapIdx fun i entry =>
    replyTo grounded entry.1 (fleet.serve (calls grounded ((entries.map (·.2)).take i))) entry.2

theorem owed_cons (grounded : Bool) (fleet : Fleet) (now : Nat) (envelope : Envelope)
    (entries : List (Nat × Envelope)) :
    owed grounded fleet ((now, envelope) :: entries) =
      replyTo grounded now fleet envelope ::
        owed grounded (handled grounded fleet envelope) entries := by
  simp only [owed, List.mapIdx_cons, List.map_cons, List.take_succ_cons, serve_calls_cons]
  rfl

theorem Attends.owed {fitted : Bool}
    (attends : Attends limit grounded fleet entries replies final fitted) :
    replies = (owed grounded fleet entries).takeWhile (Fits limit) ∧
      (fitted = true ↔ replies.length = entries.length) ∧
      final = fleet.serve (calls grounded ((entries.map (·.2)).take (replies.length + 1))) := by
  induction attends with
  | idle fleet => exact ⟨rfl, iff_of_true rfl rfl, rfl⟩
  | answered fits rest ih =>
    obtain ⟨went, all, ends⟩ := ih
    refine ⟨?_, ?_, ?_⟩
    · rw [owed_cons, List.takeWhile_cons_of_pos (by simpa using fits), ← went]
    · simpa using all
    · rw [List.length_cons, List.map_cons, List.take_succ_cons, serve_calls_cons, ends]
  | stopped long entries =>
    refine ⟨?_, iff_of_false Bool.false_ne_true (by simp), ?_⟩
    · rw [owed_cons, List.takeWhile_cons_of_neg (by simpa using long)]
    · rw [List.length_nil, List.map_cons, List.take_succ_cons, serve_calls_cons]
      rfl

theorem maxFrameBytes_le {config : ServerConfig} (valid : config.validate = .ok ()) :
    config.maxFrameBytes ≤ Frame.maxLength := by
  unfold ServerConfig.validate at valid
  split at valid
  · cases valid
  · split at valid
    · cases valid
    · omega

theorem owed_answers {i now : Nat} {envelope reply : Envelope}
    (here : entries[i]? = some (now, envelope)) (there : (owed grounded fleet entries)[i]? = some reply) :
    Answers grounded (fleet.serve (calls grounded ((entries.map (·.2)).take i))) envelope reply ∧
      reply.header.timestampMs = now := by
  rw [owed, List.getElem?_mapIdx, here] at there
  obtain rfl := Option.some.inj there
  exact ⟨replyTo_answers _ _ _ _, rfl⟩

/-- What a session sends and does comes from the envelopes in all the bytes that came in, whatever the
pieces were: it deals with them in order, sends for each the frame of the reply that it is owed, and stops
behind the first whose reply is too long. It is left open if there is no such reply and nothing is wrong
with the bytes. -/
theorem converse_transcript (config : ServerConfig) (valid : config.validate = .ok ()) (grounded : Bool)
    (fleet : Fleet) (arrivals : List Arrival) :
    let limit := config.maxFrameBytes
    let drained := ((Frame.Decoder.new limit).feed (arrivals.map (·.bytes)).flatten).drain
    let entries := timed (.new limit) arrivals
    let replies := owed grounded fleet entries
    let answered := replies.takeWhile (Fits limit)
    let outcome := (Session.new limit).converse grounded fleet arrivals
    entries.map (·.2) = drained.1 ∧ replies.length = drained.1.length ∧
      (∀ i now envelope reply, entries[i]? = some (now, envelope) → replies[i]? = some reply →
        Answers grounded (fleet.serve (calls grounded (drained.1.take i))) envelope reply ∧
          reply.header.timestampMs = now) ∧
      outcome.1 = sent answered ∧
      outcome.2.1 = fleet.serve (calls grounded (drained.1.take (answered.length + 1))) ∧
      (outcome.2.2.isOpen = true ↔ answered.length = drained.1.length ∧ drained.2.1 = none) := by
  intro limit drained entries replies answered outcome
  have within : min limit Frame.maxLength = limit := Nat.min_eq_left (maxFrameBytes_le valid)
  have small : (Frame.Decoder.new limit).limit < UInt32.size := Frame.min_maxLength_lt limit
  have isOpen : (Session.new limit).isOpen = true := rfl
  have envelopes : entries.map (·.2) = drained.1 := timed_envelopes rfl small arrivals
  have size : replies.length = drained.1.length := by
    rw [← envelopes, List.length_map]
    exact List.length_mapIdx
  obtain ⟨sends, final, fitted, last, attends, conversed, _, opened, _⟩ :=
    converse_leaves isOpen rfl small grounded fleet arrivals
  rw [show (Session.new limit).limit = limit from rfl, within] at attends
  obtain ⟨went, all, ends⟩ := attends.owed
  rw [show (Session.new limit).decoder = .new limit from rfl] at went all ends
  refine ⟨envelopes, size, fun i now envelope reply here there => ?_, ?_⟩
  · rw [← envelopes]
    exact owed_answers here there
  · rw [show outcome = (sent sends, final, last) from conversed, ← envelopes, List.length_map,
      show answered = sends from went.symm]
    refine ⟨rfl, ends, ?_⟩
    rw [opened, Bool.and_eq_true, all, Option.isNone_iff_eq_none]
    exact Iff.rfl

def founding : Envelope := ⟨⟨"console", 7, 0⟩, .request (.createMatrix 4 4)⟩

def surveying : Envelope := ⟨⟨"console", 6, 0⟩, .request .listMatrices⟩

/-- A server on which the request for a new matrix is not too long, but the answer to it is. -/
def narrow : ServerConfig := { ServerConfig.default with maxFrameBytes := 160 }

/-- The first of two requests comes in with the beginning of the second. -/
def pieces : List Arrival :=
  [⟨fun _ => 5, Frame.framed (Frame.body surveying) ++ (Frame.framed (Frame.body founding)).take 9⟩,
    ⟨fun _ => 6, (Frame.framed (Frame.body founding)).drop 9⟩]

theorem timed_pieces : timed (.new 160) pieces = [(5, surveying), (6, founding)] := by
  have small : 160 < UInt32.size := by decide
  have within : (Frame.body surveying).length ≤ 160 ∧ (Frame.body founding).length ≤ 160 := by
    decide +kernel
  have read : Frame.decodeBody (Frame.body surveying) = .ok surveying ∧
      Frame.decodeBody (Frame.body founding) = .ok founding :=
    ⟨Frame.decodeBody_body (by decide), Frame.decodeBody_body (by decide)⟩
  have first : ((Frame.Decoder.new 160).feed (Frame.framed (Frame.body surveying) ++
      (Frame.framed (Frame.body founding)).take 9)).drain =
        ([surveying], none, ⟨160, (Frame.framed (Frame.body founding)).take 9⟩) := by
    have taken := @Frame.Decoder.next?_framed 160 (Frame.body surveying)
      ((Frame.framed (Frame.body founding)).take 9) small within.1
    rw [read.1] at taken
    exact (Frame.Decoder.drain_of_ok taken).trans
      (by rw [Frame.Decoder.drain_of_none (by decide +kernel)])
  have second : ((Frame.Decoder.mk 160 ((Frame.framed (Frame.body founding)).take 9)).feed
      ((Frame.framed (Frame.body founding)).drop 9)).drain = ([founding], none, ⟨160, []⟩) := by
    rw [Frame.Decoder.feed, List.take_append_drop]
    exact Frame.Decoder.drain_framed small within.2 read.2
  simp only [pieces, timed, first, second]
  rfl

theorem owed_pieces :
    (owed false Fleet.empty [(5, surveying), (6, founding)]).takeWhile (Fits 160) =
      [reply 5 6 (.matrices [])] := by
  decide +kernel

/-- The first request is answered; the second is carried out, but its answer is not sent. -/
theorem converse_transcript_narrow :
    narrow.validate = .ok () ∧
      ((Session.new 160).converse false Fleet.empty pieces).1 = sent [reply 5 6 (.matrices [])] ∧
      ((Session.new 160).converse false Fleet.empty pieces).2.1 =
        Fleet.empty.serve [(false, .listMatrices), (false, .createMatrix 4 4)] ∧
      ((Session.new 160).converse false Fleet.empty pieces).2.2.isOpen = false := by
  obtain ⟨envelopes, _, _, bytes, ends, opened⟩ :=
    converse_transcript narrow rfl false Fleet.empty pieces
  rw [show narrow.maxFrameBytes = 160 from rfl] at *
  rw [timed_pieces] at envelopes bytes ends opened
  rw [owed_pieces] at bytes ends opened
  rw [← envelopes] at ends opened
  refine ⟨rfl, bytes, ends, Bool.eq_false_iff.mpr fun isOpen => ?_⟩
  exact absurd (opened.mp isOpen).1 (by decide)

end DroneFleet.Session
