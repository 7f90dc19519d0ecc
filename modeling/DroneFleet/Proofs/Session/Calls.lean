import DroneFleet.Console.Client
import DroneFleet.Proofs.Frame.Splitting

/-!
Calls made one after another on a connection whose peer may deliver anything. What has come in and is
not used up yet, in the decoder or still unread, is one decoder (`pool`), and a call looks for its
answer there, whatever the pieces are in which it came in (`await_find`). So the lengths in it decide
what a call comes to and what it leaves for the calls behind it (`callAll_decided`).
-/
namespace DroneFleet.Client

structure Attempt where
  now : Nat
  request : Request
  stream : Stream

namespace Attempt

/-- An attempt but for the pieces in which bytes come in. -/
def joined (attempt : Attempt) : Nat × Request × List UInt8 × StreamEnd :=
  (attempt.now, attempt.request, attempt.stream.portions.flatten, attempt.stream.ending)

def reads (attempt : Attempt) (unread : List (List UInt8)) : Stream :=
  { attempt.stream with portions := unread ++ attempt.stream.portions }

def question (attempt : Attempt) (clientId : String) (sequenceId : Nat) : Envelope :=
  ⟨⟨clientId, sequenceId, attempt.now⟩, .request attempt.request⟩

end Attempt

/-- Calls one after another: what came of them, and the client and the unread portions afterwards. -/
def callAll (client : Client) (unread : List (List UInt8)) :
    List Attempt → List Call × Client × List (List UInt8)
  | [] => ([], client, unread)
  | attempt :: attempts =>
    let (made, client, stream) := client.call (attempt.reads unread) attempt.now attempt.request
    let (calls, left) := client.callAll stream.portions attempts
    (made :: calls, left)

/-- All that has come in and is not used up, as if it had been read already. -/
def pool (client : Client) (unread : List (List UInt8)) : Frame.Decoder :=
  client.decoder.feed unread.flatten

/-! ### What a frame tells a call -/

/-- What the call numbered `sequenceId` makes of a frame; a frame under another number is dropped. -/
def verdict (sequenceId : Nat) : Except Frame.Fault Envelope → Option (Except CallFault Response)
  | .error fault => some (.error (.frame fault))
  | .ok envelope =>
    if envelope.header.sequenceId = sequenceId then
      match envelope.payload with
      | .response response => some (.ok response)
      | .request _ => some (.error .notAnswer)
    else none

/-- What the first frame tells that does not merely get dropped. -/
def heard (sequenceId limit : Nat) (bodies : List (List UInt8)) (rest : List UInt8) :
    Option (Except CallFault Response) :=
  (bodies.map Frame.decodeBody ++ Frame.Decoder.refusal limit rest).findSome? (verdict sequenceId)

def kept (sequenceId : Nat) (bodies : List (List UInt8)) (rest : List UInt8) : List UInt8 :=
  (bodies.dropWhile fun body => (verdict sequenceId (Frame.decodeBody body)).isNone).tail.flatMap
    Frame.framed ++ rest

section Finding

variable {sequenceId limit : Nat} {decoder left : Frame.Decoder}

theorem find_of_some {result : Except Frame.Fault Envelope}
    (taken : decoder.next? = some (result, left)) :
    find sequenceId decoder = match verdict sequenceId result with
      | some told => (some told, left)
      | none => find sequenceId left := by
  rw [find]
  split <;> simp_all [verdict] <;> grind

theorem find_of_told {result : Except Frame.Fault Envelope} {told : Except CallFault Response}
    (taken : decoder.next? = some (result, left)) (tells : verdict sequenceId result = some told) :
    find sequenceId decoder = (some told, left) := by
  rw [find_of_some taken, tells]

theorem find_of_dropped {result : Except Frame.Fault Envelope}
    (taken : decoder.next? = some (result, left)) (dropped : verdict sequenceId result = none) :
    find sequenceId decoder = find sequenceId left := by
  rw [find_of_some taken, dropped]

theorem verdict_error (fault : Frame.Fault) :
    verdict sequenceId (.error fault) = some (.error (.frame fault)) := rfl

@[elab_as_elim]
theorem find_induction (sequenceId : Nat) {motive : Frame.Decoder → Prop}
    (nothing : ∀ decoder, decoder.next? = none → motive decoder)
    (told : ∀ decoder left result told, decoder.next? = some (result, left) →
      verdict sequenceId result = some told → motive decoder)
    (dropped : ∀ decoder left result, decoder.next? = some (result, left) →
      verdict sequenceId result = none → motive left → motive decoder)
    (decoder : Frame.Decoder) : motive decoder := by
  induction decoder using find.induct sequenceId with
  | case1 decoder taken => exact nothing decoder taken
  | case2 decoder fault left taken => exact told _ _ _ _ taken (verdict_error fault)
  | case3 decoder envelope left taken numbered response answers =>
    exact told _ _ _ (.ok response) taken (by simp [verdict, numbered, answers])
  | case4 decoder envelope left taken numbered request asks =>
    exact told _ _ _ (.error .notAnswer) taken (by simp [verdict, numbered, asks])
  | case5 decoder envelope left taken other ih =>
    exact dropped _ _ _ taken (by simp [verdict, other]) ih

theorem find_limit (sequenceId : Nat) (decoder : Frame.Decoder) :
    (find sequenceId decoder).2.limit = decoder.limit := by
  induction decoder using find_induction sequenceId with
  | nothing decoder taken => rw [find_of_none taken]
  | told decoder left result told taken tells =>
    rw [find_of_told taken tells, Frame.Decoder.limit_of_next? taken]
  | dropped decoder left result taken drops ih =>
    rw [find_of_dropped taken drops, ih, Frame.Decoder.limit_of_next? taken]

theorem find_feed (sequenceId : Nat) {decoder : Frame.Decoder} (small : decoder.limit < UInt32.size)
    (more : List UInt8) : find sequenceId (decoder.feed more) = match find sequenceId decoder with
      | (some told, left) => (some told, left.feed more)
      | (none, left) => find sequenceId (left.feed more) := by
  induction decoder using find_induction sequenceId with
  | nothing decoder taken => rw [find_of_none taken]
  | told decoder left result told taken tells =>
    rw [find_of_told taken tells, find_of_told (Frame.Decoder.next?_feed small taken more) tells]
  | dropped decoder left result taken drops ih =>
    rw [find_of_dropped taken drops, find_of_dropped (Frame.Decoder.next?_feed small taken more) drops]
    exact ih (Frame.Decoder.limit_of_next? taken ▸ small)

/-- It makes no difference in which pieces bytes come in: neither to what is found, nor to what is left
of them. -/
theorem await_find (sequenceId timeout : Nat) (ending : StreamEnd) {decoder : Frame.Decoder}
    (small : decoder.limit < UInt32.size) (portions : List (List UInt8)) :
    let awaited := await sequenceId timeout ending decoder portions
    let found := find sequenceId (decoder.feed portions.flatten)
    awaited.1 = found.1.getD (.error (endFault sequenceId timeout ending)) ∧
      awaited.2.1.feed awaited.2.2.flatten = found.2 := by
  induction portions generalizing decoder with
  | nil =>
    rw [List.flatten_nil, Frame.Decoder.feed_nil, await]
    rcases find sequenceId decoder with ⟨_ | told, left⟩ <;> exact ⟨rfl, Frame.Decoder.feed_nil left⟩
  | cons portion portions ih =>
    rw [find_feed sequenceId small, await]
    rcases found : find sequenceId decoder with ⟨_ | told, left⟩
    · have within : left.limit = decoder.limit := by rw [← find_limit sequenceId decoder, found]
      dsimp only
      rw [List.flatten_cons, Frame.Decoder.feed_append]
      exact @ih (left.feed portion) (within ▸ small)
    · exact ⟨rfl, rfl⟩

theorem find_cut (sequenceId : Nat) {stream rest : List UInt8} {bodies : List (List UInt8)}
    (small : limit < UInt32.size) (cut : Frame.Cut limit stream bodies rest) :
    find sequenceId ⟨limit, stream⟩ =
      (heard sequenceId limit bodies rest, ⟨limit, kept sequenceId bodies rest⟩) := by
  induction bodies generalizing stream with
  | nil =>
    obtain rfl : stream = rest := cut.whole
    rcases cut.ends with long | short
    · rw [find_of_told (Frame.Decoder.next?_oversized long) (verdict_error _), heard,
        Frame.Decoder.refusal, if_pos long]
      rfl
    · rw [find_of_none (Frame.Decoder.next?_incomplete short), heard, Frame.Decoder.refusal,
        if_neg (Frame.not_oversized_of_incomplete short)]
      rfl
  | cons body bodies ih =>
    obtain ⟨more, rfl⟩ : ∃ more, stream = Frame.framed body ++ more :=
      ⟨_, cut.whole.trans (by rw [List.flatMap_cons, List.append_assoc])⟩
    have taken := @Frame.Decoder.next?_framed limit body more small (cut.fits body List.mem_cons_self)
    rw [heard, List.map_cons, List.cons_append, List.findSome?_cons, kept, List.dropWhile_cons]
    cases decided : verdict sequenceId (Frame.decodeBody body) with
    | some told =>
      rw [find_of_told taken decided, cut.tail.whole]
      rfl
    | none =>
      rw [find_of_dropped taken decided, ih cut.tail]
      rfl

end Finding

theorem heard_response {sequenceId limit : Nat} {bodies : List (List UInt8)} {rest : List UInt8}
    {response : Response} (told : heard sequenceId limit bodies rest = some (.ok response)) :
    ∃ body ∈ bodies, ∃ envelope, Frame.decodeBody body = .ok envelope ∧
      envelope.header.sequenceId = sequenceId ∧ envelope.payload = .response response := by
  obtain ⟨result, member, tells⟩ := List.exists_of_findSome?_eq_some told
  rcases result with fault | envelope
  · cases tells
  · have read : .ok envelope ∈ bodies.map Frame.decodeBody := by
      refine (List.mem_append.mp member).resolve_right fun refused => ?_
      unfold Frame.Decoder.refusal at refused
      split at refused <;> simp at refused
    obtain ⟨body, here, decoded⟩ := List.mem_map.mp read
    refine ⟨body, here, envelope, decoded, ?_⟩
    unfold verdict at tells
    dsimp only at tells
    split at tells
    · rename_i numbered
      cases answers : envelope.payload with
      | response found =>
        rw [answers] at tells
        cases tells
        exact ⟨numbered, rfl⟩
      | request request =>
        rw [answers] at tells
        cases tells
    · cases tells

/-! ### One call -/

structure Counted (config : ClientConfig) (count : Nat) (client : Client) : Prop where
  settings : client.config = config
  counted : client.lastId = count
  bounded : client.decoder.limit = min config.maxFrameBytes Frame.maxLength

theorem new_counted (config : ClientConfig) : Counted config 0 (new config) := ⟨rfl, rfl, rfl⟩

section Calling

variable {config : ClientConfig} {count : Nat} {client : Client} {unread : List (List UInt8)}

theorem pool_reads (client : Client) (unread : List (List UInt8)) (attempt : Attempt) :
    client.pool (attempt.reads unread).portions =
      (client.pool unread).feed attempt.stream.portions.flatten := by
  rw [pool, pool, ← Frame.Decoder.feed_append, Attempt.reads, List.flatten_append]

/-- A call when everything that comes in is there at once: what comes of it, and what is left. -/
def settle (config : ClientConfig) (sequenceId : Nat) (waiting : Frame.Decoder) (attempt : Attempt) :
    Call × Frame.Decoder :=
  let delivered := waiting.feed attempt.stream.portions.flatten
  match Frame.encode config.maxFrameBytes (attempt.question config.clientId sequenceId) with
  | .error fault => (⟨none, .error (.frame fault)⟩, delivered)
  | .ok bytes =>
    let found := find sequenceId delivered
    (⟨some bytes, found.1.getD
      (.error (endFault sequenceId config.responseTimeout attempt.stream.ending))⟩, found.2)

theorem settle_joined (sequenceId : Nat) (waiting : Frame.Decoder) {attempt other : Attempt}
    (same : attempt.joined = other.joined) :
    settle config sequenceId waiting attempt = settle config sequenceId waiting other := by
  simp only [Attempt.joined, Prod.mk.injEq] at same
  obtain ⟨now, request, bytes, ending⟩ := same
  simp only [settle, Attempt.question, now, request, bytes, ending]

theorem Counted.call_settles (counted : Counted config count client) (unread : List (List UInt8))
    (attempt : Attempt) :
    let called := client.call (attempt.reads unread) attempt.now attempt.request
    (called.1, called.2.1.pool called.2.2.portions) =
        settle config (count + 1) (client.pool unread) attempt ∧
      Counted config (count + 1) called.2.1 := by
  obtain ⟨rfl, rfl, bounded⟩ := counted
  have small : client.decoder.limit < UInt32.size := bounded ▸ Frame.min_maxLength_lt _
  obtain ⟨result, left⟩ := await_find (client.lastId + 1) client.config.responseTimeout
    attempt.stream.ending small (attempt.reads unread).portions
  have asked : client.envelope attempt.now attempt.request =
      attempt.question client.config.clientId (client.lastId + 1) := rfl
  rw [settle, ← pool_reads, call, asked]
  cases Frame.encode client.config.maxFrameBytes
      (attempt.question client.config.clientId (client.lastId + 1)) with
  | error fault => exact ⟨rfl, rfl, rfl, bounded⟩
  | ok bytes =>
    refine ⟨Prod.ext (congrArg (Call.mk (some bytes)) result) left, rfl, rfl, ?_⟩
    have kept := congrArg Frame.Decoder.limit left
    rw [find_limit] at kept
    exact kept.trans bounded

theorem Counted.call_tooLarge (counted : Counted config count client) (unread : List (List UInt8))
    {attempt : Attempt} (long : min config.maxFrameBytes Frame.maxLength <
      (Frame.body (attempt.question config.clientId (count + 1))).length) :
    client.call (attempt.reads unread) attempt.now attempt.request =
      (⟨none, .error (.frame (.tooLarge
          (Frame.body (attempt.question config.clientId (count + 1))).length
          (min config.maxFrameBytes Frame.maxLength)))⟩,
        { client with lastId := count + 1 }, attempt.reads unread) := by
  obtain ⟨rfl, rfl, _⟩ := counted
  have asked : client.envelope attempt.now attempt.request =
      attempt.question client.config.clientId (client.lastId + 1) := rfl
  rw [call, asked, Frame.encode_eq, if_pos long]

theorem settle_cut {sequenceId : Nat} {waiting : Frame.Decoder} {attempt : Attempt}
    (bounded : waiting.limit = min config.maxFrameBytes Frame.maxLength)
    (fits : (Frame.body (attempt.question config.clientId sequenceId)).length ≤
      min config.maxFrameBytes Frame.maxLength)
    {bodies : List (List UInt8)} {rest : List UInt8}
    (cut : Frame.Cut (min config.maxFrameBytes Frame.maxLength)
      (waiting.feed attempt.stream.portions.flatten).buffer bodies rest) :
    settle config sequenceId waiting attempt =
      (⟨some (Frame.framed (Frame.body (attempt.question config.clientId sequenceId))),
          (heard sequenceId (min config.maxFrameBytes Frame.maxLength) bodies rest).getD
            (.error (endFault sequenceId config.responseTimeout attempt.stream.ending))⟩,
        ⟨min config.maxFrameBytes Frame.maxLength, kept sequenceId bodies rest⟩) := by
  have found := find_cut sequenceId (Frame.min_maxLength_lt _) cut
  rw [← bounded] at found
  rw [settle, Frame.encode_within fits, ← bounded]
  exact congrArg (fun found : Option (Except CallFault Response) × Frame.Decoder =>
    (Call.mk _ (found.1.getD _), found.2)) found

/-! ### Calls one after another -/

theorem callAll_length (client : Client) (unread : List (List UInt8)) (attempts : List Attempt) :
    (client.callAll unread attempts).1.length = attempts.length := by
  induction attempts generalizing client unread with
  | nil => rfl
  | cons attempt attempts ih => exact congrArg (· + 1) (ih _ _)

theorem Counted.callAll (counted : Counted config count client) (unread : List (List UInt8))
    (attempts : List Attempt) :
    Counted config (count + attempts.length) (client.callAll unread attempts).2.1 := by
  induction attempts generalizing client count unread with
  | nil => exact counted
  | cons attempt attempts ih =>
    have further := ih (counted.call_settles unread attempt).2
      (client.call (attempt.reads unread) attempt.now attempt.request).2.2.portions
    rw [Nat.add_assoc, Nat.add_comm 1] at further
    exact further

theorem callAll_at {attempts : List Attempt} {i : Nat} {attempt : Attempt}
    (here : attempts[i]? = some attempt) (client : Client) (unread : List (List UInt8)) :
    let before := (client.callAll unread (attempts.take i)).2
    let called := before.1.call (attempt.reads before.2) attempt.now attempt.request
    (client.callAll unread attempts).1[i]? = some called.1 ∧
      (client.callAll unread (attempts.take (i + 1))).2 = (called.2.1, called.2.2.portions) := by
  induction attempts generalizing client unread i with
  | nil => cases here
  | cons first attempts ih =>
    cases i with
    | zero =>
      obtain rfl := Option.some.inj here
      exact ⟨rfl, rfl⟩
    | succ i => exact ih here _ _

theorem Counted.callAll_joined (counted : Counted config count client) {other : Client}
    (alike : Counted config count other) {unread apart : List (List UInt8)}
    (waiting : client.pool unread = other.pool apart) {attempts others : List Attempt}
    (same : attempts.map Attempt.joined = others.map Attempt.joined) :
    (client.callAll unread attempts).1 = (other.callAll apart others).1 := by
  induction attempts generalizing client other unread apart others count with
  | nil =>
    obtain rfl : others = [] := List.map_eq_nil_iff.mp same.symm
    rfl
  | cons attempt attempts ih =>
    cases others with
    | nil => cases same
    | cons next others =>
      obtain ⟨first, rest⟩ := List.cons.inj same
      obtain ⟨settled, counted⟩ := counted.call_settles unread attempt
      obtain ⟨settledToo, alike⟩ := alike.call_settles apart next
      rw [waiting, settle_joined _ _ first, ← settledToo] at settled
      obtain ⟨made, left⟩ := Prod.mk.inj settled
      exact List.cons_eq_cons.mpr ⟨made, ih counted alike left rest⟩

end Calling

/-- What calls on one connection come to, whatever the peer delivers and whenever. The calls are
numbered from one. A request that is too long is not sent, and nothing is read. Otherwise the first
frame that is refused or has the number of the call decides, out of all that is there: frames before
it are dropped, and bytes behind it are kept. No call comes to a response under another number, and it
makes no difference in which pieces the bytes come in. -/
theorem callAll_decided (config : ClientConfig) (attempts : List Attempt) :
    let limit := min config.maxFrameBytes Frame.maxLength
    let calls := ((new config).callAll [] attempts).1
    let after (count : Nat) := ((new config).callAll [] (attempts.take count)).2
    calls.length = attempts.length ∧
    (∀ i attempt, attempts[i]? = some attempt →
      let client := (after i).1
      let portions := (attempt.reads (after i).2).portions
      let body := Frame.body (attempt.question config.clientId (i + 1))
      (limit < body.length →
        calls[i]? = some ⟨none, .error (.frame (.tooLarge body.length limit))⟩ ∧
        after (i + 1) = ({ client with lastId := i + 1 }, portions)) ∧
      (body.length ≤ limit → ∃ bodies rest,
        Frame.Cut limit (client.pool portions).buffer bodies rest ∧
        calls[i]? = some ⟨some (Frame.framed body), (heard (i + 1) limit bodies rest).getD
          (.error (endFault (i + 1) config.responseTimeout attempt.stream.ending))⟩ ∧
        ((after (i + 1)).1.pool (after (i + 1)).2).buffer = kept (i + 1) bodies rest ∧
        ∀ sent response, calls[i]? = some ⟨sent, .ok response⟩ →
          ∃ found ∈ bodies, ∃ envelope, Frame.decodeBody found = .ok envelope ∧
            envelope.header.sequenceId = i + 1 ∧ envelope.payload = .response response)) ∧
    ∀ others : List Attempt, others.map Attempt.joined = attempts.map Attempt.joined →
      ((new config).callAll [] others).1 = calls := by
  intro limit calls after
  refine ⟨callAll_length _ _ _, fun i attempt here => ?_, fun others same =>
    (new_counted config).callAll_joined (new_counted config) rfl same⟩
  intro client portions body
  let called := client.call (attempt.reads (after i).2) attempt.now attempt.request
  obtain ⟨made, left⟩ : calls[i]? = some called.1 ∧
      after (i + 1) = (called.2.1, called.2.2.portions) := callAll_at here (new config) []
  have counted : Counted config i client := by
    have counted := (new_counted config).callAll [] (attempts.take i)
    obtain ⟨below, _⟩ := List.getElem?_eq_some_iff.mp here
    rwa [Nat.zero_add, List.length_take_of_le (Nat.le_of_lt below)] at counted
  refine ⟨fun long => ?_, fun fits => ?_⟩
  · have refused : called = _ := counted.call_tooLarge (after i).2 long
    rw [refused] at made left
    exact ⟨made, left⟩
  · obtain ⟨bodies, rest, cut⟩ := Frame.Cut.exists_cut limit (client.pool portions).buffer
    -- The bytes that come in during the call stand behind those that are left from before it.
    have whole := cut
    rw [pool_reads] at whole
    have settled : (called.1, called.2.1.pool called.2.2.portions) = _ :=
      (counted.call_settles (after i).2 attempt).1.trans
        (@settle_cut config (i + 1) (client.pool (after i).2) attempt counted.bounded fits _ _ whole)
    obtain ⟨told, rested⟩ := Prod.mk.inj settled
    rw [told] at made
    refine ⟨bodies, rest, cut, made, ?_, fun sent response answered => ?_⟩
    · rw [left, rested]
    have result : (heard (i + 1) limit bodies rest).getD _ = .ok response :=
      congrArg Call.result (Option.some.inj (made.symm.trans answered))
    cases told : heard (i + 1) limit bodies rest with
    | none =>
      rw [told] at result
      cases result
    | some outcome =>
      rw [told] at result
      exact heard_response (told.trans (congrArg some result))

end DroneFleet.Client
