import DroneFleet.Fleet.Dispatch
import DroneFleet.Frame

/-!
One connection to a fleet. Frames are answered in the order in which they come, each with a frame
under the same sequence number. A frame that cannot be read and an answer that is too long both close
the session; the request behind an answer that is too long has been handled all the same.
-/
namespace DroneFleet

/-- A connection with the bytes that have come in, the longest answer that may go out and the name
under which the client introduced itself. -/
structure Session where
  decoder : Frame.Decoder
  limit : Nat
  clientId : String
  isOpen : Bool
deriving DecidableEq, Repr

namespace Session

def serverId : String := "aeromatrix-server"

def new (limit : Nat) : Session := ⟨.new limit, limit, "", true⟩

def close (session : Session) : Session := { session with isOpen := false }

def respond (grounded : Bool) (fleet : Fleet) : Payload → Response × Fleet
  | .request request => fleet.dispatch grounded request
  | .response _ =>
    (.ofRefusal (.invalidRequest "clients send requests, not responses"), fleet)

def reply (now sequenceId : Nat) (response : Response) : Envelope :=
  ⟨⟨serverId, sequenceId, now⟩, .response response⟩

/-- Keeps the first name that is not empty. -/
def introduce (session : Session) (name : String) : Session :=
  if session.clientId = "" then { session with clientId := name } else session

/-- Deals with the next frame, if there is a whole one: the bytes that go out, and the fleet and the
session afterwards. -/
def step? (now : Nat) (grounded : Bool) (fleet : Fleet) (session : Session) :
    Option (List UInt8 × Fleet × Session) :=
  if session.isOpen then
    match session.decoder.next? with
    | none => none
    | some (.error _, decoder) => some ([], fleet, { session with decoder }.close)
    | some (.ok envelope, decoder) =>
      let session := { session with decoder }.introduce envelope.header.clientId
      let (response, fleet) := respond grounded fleet envelope.payload
      match Frame.encode session.limit (reply now envelope.header.sequenceId response) with
      | .ok bytes => some (bytes, fleet, session)
      | .error _ => some ([], fleet, session.close)
  else none

def work (session : Session) : Nat :=
  if session.isOpen then session.decoder.buffer.length + 1 else 0

theorem work_lt_of_step? {now : Nat} {grounded : Bool} {fleet after : Fleet}
    {session left : Session} {bytes : List UInt8}
    (stepped : session.step? now grounded fleet = some (bytes, after, left)) :
    left.work < session.work := by
  unfold step? at stepped
  split at stepped
  · rename_i wasOpen
    split at stepped
    · contradiction
    · simp only [Option.some.injEq, Prod.mk.injEq] at stepped
      simp [← stepped.2.2, work, close, wasOpen]
    · rename_i envelope decoder taken
      have shorter := Frame.Decoder.length_lt_of_next? taken
      dsimp only at stepped
      split at stepped
      · simp only [Option.some.injEq, Prod.mk.injEq] at stepped
        rw [← stepped.2.2]
        unfold introduce work
        split <;> simp_all
      · simp only [Option.some.injEq, Prod.mk.injEq] at stepped
        simp [← stepped.2.2, work, close, wasOpen]
  · contradiction

/-- Deals with all frames that are whole. The clock gives the time at each of them in turn. -/
def serve (clock : Nat → Nat) (grounded : Bool) (fleet : Fleet) (session : Session) :
    List UInt8 × Fleet × Session :=
  match _stepped : session.step? (clock 0) grounded fleet with
  | none => ([], fleet, session)
  | some (bytes, fleet, session) =>
    let (more, fleet, session) := session.serve (fun turn => clock (turn + 1)) grounded fleet
    (bytes ++ more, fleet, session)
termination_by session.work
decreasing_by exact work_lt_of_step? _stepped

theorem serve_of_none {clock : Nat → Nat} {grounded : Bool} {fleet : Fleet} {session : Session}
    (stepped : session.step? (clock 0) grounded fleet = none) :
    session.serve clock grounded fleet = ([], fleet, session) := by
  rw [serve]
  split <;> simp_all

theorem serve_of_some {clock : Nat → Nat} {grounded : Bool} {fleet after : Fleet}
    {session left : Session} {bytes : List UInt8}
    (stepped : session.step? (clock 0) grounded fleet = some (bytes, after, left)) :
    session.serve clock grounded fleet =
      let rest := left.serve (fun turn => clock (turn + 1)) grounded after
      (bytes ++ rest.1, rest.2) := by
  rw [serve]
  split <;> simp_all

/-- Bytes that come in at once, with the times at which the frames that they complete are dealt with. -/
structure Arrival where
  clock : Nat → Nat
  bytes : List UInt8

def receive (grounded : Bool) (fleet : Fleet) (session : Session) (arrival : Arrival) :
    List UInt8 × Fleet × Session :=
  { session with decoder := session.decoder.feed arrival.bytes }.serve arrival.clock grounded fleet

/-- All that a session sends over what comes in, with the fleet and the session at the end. -/
def converse (grounded : Bool) (fleet : Fleet) (session : Session) :
    List Arrival → List UInt8 × Fleet × Session
  | [] => ([], fleet, session)
  | arrival :: arrivals =>
    let (bytes, fleet, session) := session.receive grounded fleet arrival
    let (more, fleet, session) := session.converse grounded fleet arrivals
    (bytes ++ more, fleet, session)

/-- Ends a session when the server stops: the whole frames that have come in are still answered, but
no drone starts any more. -/
def finish (clock : Nat → Nat) (fleet : Fleet) (session : Session) :
    List UInt8 × Fleet × Session :=
  let (bytes, fleet, session) := session.serve clock true fleet
  (bytes, fleet, session.close)

end Session

end DroneFleet
