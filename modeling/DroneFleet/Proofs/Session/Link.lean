import DroneFleet.Console.Client
import DroneFleet.Proofs.Session.Transcript

/-!
A client and a session at the two ends of a connection. Each call goes there in some pieces and its
answer comes back in others; as long as both are within the limits of both ends, the calls come to
the same as the requests dispatched on the fleet itself (`Link.talk_dispatches`). Between two calls
nothing is left over at either end (`Link.Idle`).
-/
namespace DroneFleet

/-- A way in which bytes are cut into pieces on their way, none of them empty. -/
structure Carriage where
  pieces : List UInt8 → List (List UInt8)
  whole : ∀ bytes, (pieces bytes).flatten = bytes
  filled : ∀ bytes, [] ∉ pieces bytes

namespace Carriage

def bytewise : Carriage where
  pieces bytes := bytes.map fun byte => [byte]
  whole bytes := by rw [← List.flatMap_def, List.flatMap_singleton']
  filled bytes := by simp

def hesitant : Carriage where
  pieces
    | [] => []
    | [byte] => [[byte]]
    | byte :: bytes => [[byte], bytes]
  whole bytes := by
    rcases bytes with _ | ⟨first, _ | ⟨second, rest⟩⟩ <;> simp
  filled bytes := by
    rcases bytes with _ | ⟨first, _ | ⟨second, rest⟩⟩ <;> simp

end Carriage

namespace Client

def written (client : Client) (now : Nat) (request : Request) : List UInt8 :=
  (Frame.encode client.config.maxFrameBytes (client.envelope now request)).toOption.getD []

theorem written_eq {client : Client} {now : Nat} {request : Request}
    (fits : (Frame.body (client.envelope now request)).length ≤
      min client.config.maxFrameBytes Frame.maxLength) :
    client.written now request = Frame.framed (Frame.body (client.envelope now request)) := by
  rw [written, Frame.encode_within fits]
  rfl

theorem find_of_answer {sequenceId : Nat} {decoder left : Frame.Decoder} {envelope : Envelope}
    {response : Response} (taken : decoder.next? = some (.ok envelope, left))
    (numbered : envelope.header.sequenceId = sequenceId)
    (answers : envelope.payload = .response response) :
    find sequenceId decoder = (some (.ok response), left) := by
  rw [find]
  split <;> simp_all

theorem await_framed {bound sequenceId timeout : Nat} {ending : StreamEnd} {envelope : Envelope}
    {response : Response} (small : bound < UInt32.size)
    (words : ∀ number ∈ envelope.numbers, number ≤ Text.word64Limit)
    (accepted : (Frame.body envelope).length ≤ bound)
    (numbered : envelope.header.sequenceId = sequenceId)
    (answers : envelope.payload = .response response)
    {portions : List (List UInt8)} (filled : [] ∉ portions) {front : List UInt8}
    (whole : front ++ portions.flatten = Frame.framed (Frame.body envelope)) :
    await sequenceId timeout ending ⟨bound, front⟩ portions = (.ok response, ⟨bound, []⟩, []) := by
  induction portions generalizing front with
  | nil =>
    obtain rfl : front = Frame.framed (Frame.body envelope) := by simpa using whole
    have taken := @Frame.Decoder.next?_framed bound (Frame.body envelope) [] small accepted
    rw [List.append_nil, Frame.decodeBody_body words] at taken
    rw [await, find_of_answer taken numbered answers]
  | cons portion portions ih =>
    obtain ⟨some, filled⟩ := not_or.mp (mt List.mem_cons.mpr filled)
    have more : (portion :: portions).flatten ≠ [] := by
      simp [Ne.symm some]
    have ends := Frame.incomplete_front small accepted whole more
    rw [await, find_of_none (Frame.Decoder.next?_incomplete ends)]
    exact ih filled (by simpa using whole)

theorem call_framed {client : Client} {stream : Stream} {now : Nat} {request : Request}
    {envelope : Envelope} {response : Response}
    (idle : client.decoder = .new client.config.maxFrameBytes)
    (fits : (Frame.body (client.envelope now request)).length ≤
      min client.config.maxFrameBytes Frame.maxLength)
    (words : ∀ number ∈ envelope.numbers, number ≤ Text.word64Limit)
    (accepted : (Frame.body envelope).length ≤ min client.config.maxFrameBytes Frame.maxLength)
    (numbered : envelope.header.sequenceId = client.lastId + 1)
    (answers : envelope.payload = .response response) (filled : [] ∉ stream.portions)
    (whole : stream.portions.flatten = Frame.framed (Frame.body envelope)) :
    client.call stream now request =
      (⟨some (Frame.framed (Frame.body (client.envelope now request))), .ok response⟩,
        { client with lastId := client.lastId + 1 }, { stream with portions := [] }) := by
  have awaited : await (client.lastId + 1) client.config.responseTimeout stream.ending
      client.decoder stream.portions = (.ok response, client.decoder, []) := by
    rw [idle]
    exact await_framed (Frame.min_maxLength_lt _) words accepted numbered answers filled whole
  simp only [call, Frame.encode_within fits, awaited]

end Client

/-- A call on a connection, with what is beyond the two ends: the times at which it is made and
dealt with, whether drones are grounded then, and the way of the bytes there and back. -/
structure Exchange where
  request : Request
  grounded : Bool
  askedAt : Nat
  answeredAt : Nat
  there : Carriage
  back : Carriage

namespace Exchange

def asked (exchange : Exchange) : Bool × Request := (exchange.grounded, exchange.request)

def question (exchange : Exchange) (clientId : String) (sequenceId : Nat) : Envelope :=
  ⟨⟨clientId, sequenceId, exchange.askedAt⟩, .request exchange.request⟩

def answer (exchange : Exchange) (fleet : Fleet) (sequenceId : Nat) : Envelope :=
  Session.reply exchange.answeredAt sequenceId
    (fleet.dispatch exchange.grounded exchange.request).1

def arrivals (exchange : Exchange) (bytes : List UInt8) : List Session.Arrival :=
  (exchange.there.pieces bytes).map fun piece => ⟨fun _ => exchange.answeredAt, piece⟩

theorem arrivals_whole (exchange : Exchange) (bytes : List UInt8) :
    ((exchange.arrivals bytes).map (·.bytes)).flatten = bytes := by
  rw [arrivals, List.map_map]
  exact (congrArg List.flatten (List.map_id _)).trans (exchange.there.whole bytes)

theorem arrivals_clock {exchange : Exchange} {bytes : List UInt8} {arrival : Session.Arrival}
    (member : arrival ∈ exchange.arrivals bytes) (turn : Nat) :
    arrival.clock turn = exchange.answeredAt := by
  obtain ⟨piece, _, rfl⟩ := List.mem_map.mp member
  rfl

end Exchange

structure Link where
  client : Client
  stream : Stream
  session : Session
  fleet : Fleet

namespace Link

def opened (config : ClientConfig) (limit : Nat) (ending : StreamEnd) (fleet : Fleet) : Link :=
  ⟨.new config, ⟨[], ending⟩, .new limit, fleet⟩

/-- What the client sends comes in at the session, and what that sends comes in at the client. -/
def call (link : Link) (exchange : Exchange) : Except CallFault Response × Link :=
  let (told, fleet, session) := link.session.converse exchange.grounded link.fleet
    (exchange.arrivals (link.client.written exchange.askedAt exchange.request))
  let (made, client, stream) := link.client.call
    { link.stream with portions := link.stream.portions ++ exchange.back.pieces told }
    exchange.askedAt exchange.request
  (made.result, ⟨client, stream, session, fleet⟩)

def talk (link : Link) : List Exchange → List (Except CallFault Response) × Link
  | [] => ([], link)
  | exchange :: rest =>
    let (result, link) := link.call exchange
    let (results, link) := link.talk rest
    (result :: results, link)

/-- Both ends are where they were at the beginning, but for the calls that have been counted. -/
structure Idle (config : ClientConfig) (limit count : Nat) (link : Link) : Prop where
  settings : link.client.config = config
  counted : link.client.lastId = count
  heard : link.client.decoder = .new config.maxFrameBytes
  drained : link.stream.portions = []
  isOpen : link.session.isOpen = true
  bounded : link.session.limit = limit
  read : link.session.decoder = .new limit

theorem opened_idle (config : ClientConfig) (limit : Nat) (ending : StreamEnd) (fleet : Fleet) :
    (opened config limit ending fleet).Idle config limit 0 :=
  ⟨rfl, rfl, rfl, rfl, rfl, rfl, rfl⟩

/-- An envelope that both ends send and accept: its numbers are words and its body is within the
limits of both. -/
structure Passes (config : ClientConfig) (limit : Nat) (envelope : Envelope) : Prop where
  words : ∀ number ∈ envelope.numbers, number ≤ Text.word64Limit
  client : (Frame.body envelope).length ≤ min config.maxFrameBytes Frame.maxLength
  server : (Frame.body envelope).length ≤ min limit Frame.maxLength

variable {config : ClientConfig} {limit count : Nat} {link : Link}

theorem Idle.call (idle : link.Idle config limit count) {exchange : Exchange}
    (there : Passes config limit (exchange.question config.clientId (count + 1)))
    (back : Passes config limit (exchange.answer link.fleet (count + 1))) :
    ∃ next, link.call exchange =
        (.ok (link.fleet.dispatch exchange.grounded exchange.request).1, next) ∧
      next.Idle config limit (count + 1) ∧
      next.fleet = (link.fleet.dispatch exchange.grounded exchange.request).2 := by
  obtain ⟨settings, counted, heard, drained, isOpen, bounded, read⟩ := idle
  subst settings counted bounded
  obtain ⟨last, conversed, bounded, opened, left⟩ := Session.converse_frame isOpen read
    (Frame.min_maxLength_lt _) exchange.grounded link.fleet there.words there.server
    (exchange.arrivals_whole _) fun arrival member => Exchange.arrivals_clock member
  let bytes := Frame.framed (Frame.body (exchange.answer link.fleet (link.client.lastId + 1)))
  have told : link.session.converse exchange.grounded link.fleet
      (exchange.arrivals (link.client.written exchange.askedAt exchange.request)) =
        (bytes, (link.fleet.dispatch exchange.grounded exchange.request).2, last) := by
    rw [Client.written_eq there.client]
    refine conversed.trans (Prod.ext ((if_pos back.server).trans ?_) rfl)
    exact List.flatMap_singleton _ _
  have called := @Client.call_framed link.client
    ⟨exchange.back.pieces bytes, link.stream.ending⟩ exchange.askedAt exchange.request _ _ heard
    there.client back.words back.client rfl rfl (exchange.back.filled bytes)
    (exchange.back.whole bytes)
  have done : link.call exchange = (.ok (link.fleet.dispatch exchange.grounded exchange.request).1,
      ⟨{ link.client with lastId := link.client.lastId + 1 }, { link.stream with portions := [] },
        last, (link.fleet.dispatch exchange.grounded exchange.request).2⟩) := by
    simp only [Link.call, told, drained, List.nil_append, called]
  exact ⟨_, done, ⟨rfl, rfl, heard, rfl, opened.mpr back.server, bounded,
    (left (opened.mpr back.server)).trans read⟩, rfl⟩

theorem Idle.talk (idle : link.Idle config limit count) {exchanges : List Exchange}
    (passes : ∀ i (exchange : Exchange), exchanges[i]? = some exchange →
      Passes config limit (exchange.question config.clientId (count + 1 + i)) ∧
      Passes config limit (exchange.answer
        (link.fleet.serve ((exchanges.take i).map Exchange.asked)) (count + 1 + i))) :
    (link.talk exchanges).1 = exchanges.mapIdx (fun i exchange => .ok
        ((link.fleet.serve ((exchanges.take i).map Exchange.asked)).dispatch exchange.grounded
          exchange.request).1) ∧
      (link.talk exchanges).2.fleet = link.fleet.serve (exchanges.map Exchange.asked) := by
  induction exchanges generalizing link count with
  | nil => exact ⟨rfl, rfl⟩
  | cons exchange rest ih =>
    obtain ⟨there, back⟩ := passes 0 exchange rfl
    obtain ⟨next, called, idle, left⟩ := idle.call there back
    have further := ih idle (fun i other here => by
      have passed := passes (i + 1) other here
      rw [left, Nat.add_assoc (count + 1), Nat.add_comm 1 i]
      exact passed)
    rw [left] at further
    rw [Link.talk, called, List.mapIdx_cons]
    exact ⟨congrArg _ further.1, further.2⟩

/-- Calls made one after another on a new connection come to the answers that the fleet itself gives
to the requests one after another, and leave it as these do: however the bytes are cut into pieces on
their way, as long as every request and every answer is within the limits of both ends. -/
theorem talk_dispatches (config : ClientConfig) (limit : Nat) (ending : StreamEnd) (fleet : Fleet)
    {exchanges : List Exchange}
    (passes : ∀ i (exchange : Exchange), exchanges[i]? = some exchange →
      Passes config limit (exchange.question config.clientId (i + 1)) ∧
      Passes config limit (exchange.answer
        (fleet.serve ((exchanges.take i).map Exchange.asked)) (i + 1))) :
    let link := (opened config limit ending fleet).talk exchanges
    link.1 = exchanges.mapIdx (fun i exchange => .ok
        ((fleet.serve ((exchanges.take i).map Exchange.asked)).dispatch exchange.grounded
          exchange.request).1) ∧
      link.2.fleet = fleet.serve (exchanges.map Exchange.asked) := by
  apply (opened_idle config limit ending fleet).talk
  intro i exchange here
  rw [Nat.zero_add, Nat.add_comm 1 i]
  exact passes i exchange here

/-- A matrix is created, and a drone is asked for that does not exist. -/
def opening : List Exchange :=
  [⟨.createMatrix 4 4, false, 1700000000000, 1700000000001, .bytewise, .hesitant⟩,
    ⟨.getDrone 9, false, 1700000000002, 1700000000003, .hesitant, .bytewise⟩]

theorem talk_dispatches_opening :
    let link := (Link.opened .default 300 .closed .empty).talk opening
    (∀ i (exchange : Exchange), opening[i]? = some exchange →
      Passes .default 300 (exchange.question "console-001" (i + 1)) ∧
      Passes .default 300 (exchange.answer
        (Fleet.empty.serve ((opening.take i).map Exchange.asked)) (i + 1))) ∧
    link.1 = [.ok (.matrix ⟨1, ⟨4, 4⟩, []⟩), .ok (.ofRefusal (.unknownDrone 9))] ∧
      link.2.fleet = Fleet.empty.serve [(false, .createMatrix 4 4), (false, .getDrone 9)] := by
  have passes : ∀ i (exchange : Exchange), opening[i]? = some exchange →
      Passes .default 300 (exchange.question "console-001" (i + 1)) ∧
      Passes .default 300 (exchange.answer
        (Fleet.empty.serve ((opening.take i).map Exchange.asked)) (i + 1)) := by
    rintro (_ | _ | i) exchange here
    · cases here
      exact ⟨⟨by decide +kernel, by decide +kernel, by decide +kernel⟩,
        ⟨by decide +kernel, by decide +kernel, by decide +kernel⟩⟩
    · cases here
      exact ⟨⟨by decide +kernel, by decide +kernel, by decide +kernel⟩,
        ⟨by decide +kernel, by decide +kernel, by decide +kernel⟩⟩
    · cases here
  obtain ⟨results, fleet⟩ := talk_dispatches .default 300 .closed .empty passes
  exact ⟨passes, results, fleet⟩

end Link

end DroneFleet
