import DroneFleet.Frame

/-!
The client side of a connection. Connecting is tried again after growing delays. Calls are numbered
from one; the answer to a call is the first frame under its number, and frames under other numbers are
dropped.
-/
namespace DroneFleet

/-- How a client connects and calls. All times are milliseconds, with no bound (see `Connecting.retry`). -/
structure ClientConfig where
  clientId : String
  retries : Nat
  reconnectDelay : Nat
  maxReconnectDelay : Nat
  responseTimeout : Nat
  maxFrameBytes : Nat
deriving DecidableEq, Repr

namespace ClientConfig

def default : ClientConfig := ⟨"console-001", 3, 250, 5000, 10000, Frame.maxLength⟩

end ClientConfig

inductive Connecting.Step where
  | attempt
  | wait (milliseconds : Nat)
deriving DecidableEq, Repr

def Connecting.Step.milliseconds : Connecting.Step → Nat
  | attempt => 0
  | wait milliseconds => milliseconds

structure Connecting where
  attempts : Nat
  steps : List Connecting.Step
  succeeded : Bool
deriving DecidableEq, Repr

namespace Connecting

def after (connecting : Connecting) (earlier : List Step) : Connecting :=
  { connecting with steps := earlier ++ connecting.steps }

/-- Makes the attempt numbered `attempt`, with `failures` failures still to come. The next delay is
twice as long, up to the longest. For delays of less than `2 ^ 63` seconds this is exact; a duration
holds less than `2 ^ 64` seconds, so that a longer delay cannot be doubled at all. -/
def retry (config : ClientConfig) (attempt delay : Nat) : Nat → Connecting
  | 0 => ⟨attempt, [.attempt], true⟩
  | failures + 1 =>
    if attempt ≤ config.retries then
      (retry config (attempt + 1) (min (delay * 2) config.maxReconnectDelay) failures).after
        [.attempt, .wait delay]
    else ⟨attempt, [.attempt], false⟩

def run (config : ClientConfig) (failures : Nat) : Connecting :=
  retry config 1 config.reconnectDelay failures

def waited (connecting : Connecting) : Nat :=
  connecting.steps.foldr (fun step later => step.milliseconds + later) 0

def giveUpMessage (connecting : Connecting) (target : String) : String :=
  "Giving up on " ++ target ++ " after " ++ toString connecting.attempts ++ " attempts"

end Connecting

inductive StreamEnd where
  | closed
  | silent
  | broken (message : String)
deriving DecidableEq, Repr

/-- What a peer delivers: portions of bytes, none of them empty, and an end that stays. -/
structure Stream where
  portions : List (List UInt8)
  ending : StreamEnd
deriving DecidableEq, Repr

inductive CallFault where
  | frame (fault : Frame.Fault)
  | notAnswer
  | closed
  | broken (message : String)
  | timedOut (sequenceId timeout : Nat)
deriving DecidableEq, Repr

/-- A time in seconds from one second on, with no more digits than it needs. -/
def durationText (milliseconds : Nat) : String :=
  if milliseconds = 0 then "0ns"
  else if milliseconds < 1000 then toString milliseconds ++ "ms"
  else
    let rest := milliseconds % 1000
    let digits := (Nat.toDigits 10 (1000 + rest)).drop 1
    let shown := (digits.reverse.dropWhile (· = '0')).reverse
    toString (milliseconds / 1000) ++ (if shown = [] then "" else "." ++ String.ofList shown) ++ "s"

namespace CallFault

def message : CallFault → String
  | frame fault => fault.message
  | notAnswer => "Server sent a request frame"
  | closed => "Server closed connection"
  | broken message => message
  | timedOut sequenceId timeout =>
    "No response to request " ++ toString sequenceId ++ " within " ++ durationText timeout

end CallFault

structure Client where
  config : ClientConfig
  decoder : Frame.Decoder
  lastId : Nat
deriving DecidableEq, Repr

namespace Client

def new (config : ClientConfig) : Client := ⟨config, .new config.maxFrameBytes, 0⟩

/-- Takes frames that have come in up to the one under `sequenceId`; `none` if it is not there. -/
def find (sequenceId : Nat) (decoder : Frame.Decoder) :
    Option (Except CallFault Response) × Frame.Decoder :=
  match _taken : decoder.next? with
  | none => (none, decoder)
  | some (.error fault, left) => (some (.error (.frame fault)), left)
  | some (.ok envelope, left) =>
    if envelope.header.sequenceId = sequenceId then
      match envelope.payload with
      | .response response => (some (.ok response), left)
      | .request _ => (some (.error .notAnswer), left)
    else find sequenceId left
termination_by decoder.buffer.length
decreasing_by exact Frame.Decoder.length_lt_of_next? _taken

theorem find_of_none {sequenceId : Nat} {decoder : Frame.Decoder} (taken : decoder.next? = none) :
    find sequenceId decoder = (none, decoder) := by
  rw [find]
  split <;> simp_all

def endFault (sequenceId timeout : Nat) : StreamEnd → CallFault
  | .closed => .closed
  | .silent => .timedOut sequenceId timeout
  | .broken message => .broken message

def await (sequenceId timeout : Nat) (ending : StreamEnd) (decoder : Frame.Decoder) :
    List (List UInt8) → Except CallFault Response × Frame.Decoder × List (List UInt8)
  | [] =>
    match find sequenceId decoder with
    | (some result, left) => (result, left, [])
    | (none, left) => (.error (endFault sequenceId timeout ending), left, [])
  | portion :: portions =>
    match find sequenceId decoder with
    | (some result, left) => (result, left, portion :: portions)
    | (none, left) => await sequenceId timeout ending (left.feed portion) portions

def envelope (client : Client) (now : Nat) (request : Request) : Envelope :=
  ⟨⟨client.config.clientId, client.lastId + 1, now⟩, .request request⟩

/-- A call that was made: the bytes that went out, if any did, and what came of it. -/
structure Call where
  sent : Option (List UInt8)
  result : Except CallFault Response

/-- Sends a request and waits for its answer. The number is used up even if the request is too long
to be sent. -/
def call (client : Client) (stream : Stream) (now : Nat) (request : Request) :
    Call × Client × Stream :=
  let sequenceId := client.lastId + 1
  match Frame.encode client.config.maxFrameBytes (client.envelope now request) with
  | .error fault => (⟨none, .error (.frame fault)⟩, { client with lastId := sequenceId }, stream)
  | .ok bytes =>
    let (result, decoder, portions) :=
      await sequenceId client.config.responseTimeout stream.ending client.decoder stream.portions
    (⟨some bytes, result⟩, { client with decoder, lastId := sequenceId }, { stream with portions })

end Client

end DroneFleet
