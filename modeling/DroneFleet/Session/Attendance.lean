import DroneFleet.Fleet.Crowd
import DroneFleet.Session.Basic

/-!
A session at a fleet that others use as well. It takes one frame at a time, waits for what becomes of it
in the crowd, and replies. Only when nothing is being dealt with and no whole frame has come in does it
read on, and only then does it leave: because the peer has, or because the server stops. Before the
server tells its sessions to stop, it grounds all drones.
-/
namespace DroneFleet

namespace Session

def accept (session : Session) (decoder : Frame.Decoder) (envelope : Envelope) : Session :=
  { session with decoder }.introduce envelope.header.clientId

/-- Sends an answer. One that is too long closes the session, and so does one that the connection does
not carry. -/
def deliver (session : Session) (carried : Bool) (answer : Envelope) : Session :=
  match Frame.encode session.limit answer with
  | .ok _ => if carried then session else session.close
  | .error _ => session.close

/-- A session that has the fleet for itself accepts a frame and delivers the answer at once. -/
theorem step?_deliver {session : Session} (isOpen : session.isOpen = true) {decoder : Frame.Decoder}
    {envelope : Envelope} (taken : session.decoder.next? = some (.ok envelope, decoder)) (now : Nat)
    (grounded : Bool) (fleet : Fleet) :
    let done := respond grounded fleet envelope.payload
    let answer := reply now envelope.header.sequenceId done.1
    let accepted := session.accept decoder envelope
    session.step? now grounded fleet =
      some ((Frame.encode accepted.limit answer).toOption.getD [], done.2,
        accepted.deliver true answer) := by
  intro done answer accepted
  rw [step?, if_pos isOpen]
  simp only [taken, deliver]
  change (match Frame.encode accepted.limit answer with
    | .ok bytes => some (bytes, done.2, accepted)
    | .error _ => some ([], done.2, accepted.close)) = _
  cases Frame.encode accepted.limit answer <;> rfl

end Session

def Crowd.ask (crowd : Crowd) : Payload → Crowd
  | .request request => crowd.submit request
  | .response _ => crowd

/-- A frame that a session has taken, and how many requests had been made by then: its own request, if
it is one, is the next. -/
structure Matter where
  envelope : Envelope
  number : Nat

namespace Matter

/-- What has become of it. A frame that is no request is refused without asking the fleet. -/
def answer? (matter : Matter) (crowd : Crowd) : Option Response :=
  match matter.envelope.payload with
  | .request _ => crowd.answer? matter.number
  | .response _ => some (Session.respond crowd.grounded crowd.fleet matter.envelope.payload).1

end Matter

/-- A reply that was sent, or tried to be. -/
structure Settled where
  matter : Matter
  now : Nat
  response : Response
  carried : Bool

namespace Settled

def envelope (settled : Settled) : Envelope := settled.matter.envelope

def answer (settled : Settled) : Envelope :=
  Session.reply settled.now settled.envelope.header.sequenceId settled.response

/-- The peer does not get it. -/
def Fails (limit : Nat) (settled : Settled) : Prop :=
  settled.carried = false ∨ ∃ fault, Frame.encode limit settled.answer = .error fault

/-- What the peer gets. -/
def frame (limit : Nat) (settled : Settled) : List UInt8 :=
  if settled.carried then (Frame.encode limit settled.answer).toOption.getD [] else []

end Settled

/-- A session with the crowd at its fleet, what it has settled so far and the frames that went out. -/
structure Attendance where
  crowd : Crowd
  session : Session
  stopping : Bool
  current : Option Matter
  settled : List Settled
  output : List UInt8

namespace Attendance

/-- What may happen next. Reading ends with the peer gone, idle for too long, or out of reach. -/
inductive Event where
  | arrive (bytes : List UInt8)
  | take
  | reply (now : Nat) (carried : Bool)
  | notice
  | leave
  | others (event : Crowd.Event)
  | stop

def opened (fleet : Fleet) (limit : Nat) : Attendance :=
  ⟨.new fleet, .new limit, false, none, [], []⟩

def isIdle (attendance : Attendance) : Bool :=
  attendance.session.isOpen && attendance.current.isNone

def isReading (attendance : Attendance) : Bool :=
  attendance.isIdle && attendance.session.decoder.next?.isNone

def arrive (attendance : Attendance) (bytes : List UInt8) : Attendance :=
  if attendance.isReading then
    { attendance with session.decoder := attendance.session.decoder.feed bytes }
  else attendance

def take (attendance : Attendance) : Attendance :=
  if attendance.isIdle then
    match attendance.session.decoder.next? with
    | none => attendance
    | some (.error _, decoder) =>
      { attendance with session := { attendance.session with decoder }.close }
    | some (.ok envelope, decoder) =>
      { attendance with
        session := attendance.session.accept decoder envelope
        current := some ⟨envelope, attendance.crowd.requests.length⟩
        crowd := attendance.crowd.ask envelope.payload }
  else attendance

def reply (attendance : Attendance) (now : Nat) (carried : Bool) : Attendance :=
  match attendance.current with
  | none => attendance
  | some matter =>
    match matter.answer? attendance.crowd with
    | none => attendance
    | some response =>
      let settled : Settled := ⟨matter, now, response, carried⟩
      { attendance with
        session := attendance.session.deliver carried settled.answer
        current := none
        settled := attendance.settled ++ [settled]
        output := attendance.output ++ settled.frame attendance.session.limit }

def close (attendance : Attendance) : Attendance :=
  { attendance with session := attendance.session.close }

/-- What happens when an event comes; one that cannot happen changes nothing. -/
def step (attendance : Attendance) : Event → Attendance
  | .arrive bytes => attendance.arrive bytes
  | .take => attendance.take
  | .reply now carried => attendance.reply now carried
  | .notice =>
    if attendance.stopping && attendance.isReading then attendance.close else attendance
  | .leave => if attendance.isReading then attendance.close else attendance
  | .others event => { attendance with crowd := attendance.crowd.step event }
  | .stop => { attendance with crowd := attendance.crowd.step .ground, stopping := true }

def run (attendance : Attendance) (events : List Event) : Attendance := events.foldl step attendance

/-- What has been taken or can be, and is still to be settled. -/
def due (attendance : Attendance) : List Envelope :=
  (attendance.current.map Matter.envelope).toList ++
    if attendance.session.isOpen then attendance.session.decoder.drain.1 else []

end Attendance

end DroneFleet
