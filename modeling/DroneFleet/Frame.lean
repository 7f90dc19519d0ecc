import DroneFleet.Json.Printer
import DroneFleet.Json.Reader
import DroneFleet.Wire.Response

/-!
Frames: a document behind its length in four bytes, the most significant first. A decoder takes
frames off the front of the bytes it has been given. A body that is no envelope is used up, so that the
next frame can be read; a length above the limit is not, since nothing behind it can be found.
-/
namespace DroneFleet

namespace Frame

def maxLength : Nat := 10 * 1024 * 1024

def lengthBytes (length : Nat) : List UInt8 :=
  [24, 16, 8, 0].map fun shift => UInt8.ofNat (length >>> shift)

def lengthOf (bytes : List UInt8) : Nat := bytes.foldl (fun length byte => length * 256 + byte.toNat) 0

def framed (body : List UInt8) : List UInt8 := lengthBytes body.length ++ body

def ofText (text : List Char) : List UInt8 := framed (Text.bytes text)

inductive Fault where
  | tooLarge (length limit : Nat)
  | invalidLength (length : Nat)
  | invalidBody
deriving DecidableEq, Repr

def Fault.message : Fault → String
  | .tooLarge length limit =>
    "Message too large: " ++ toString length ++ " bytes (max: " ++ toString limit ++ ")"
  | .invalidLength length => "Invalid message length prefix: " ++ toString length
  | .invalidBody => "Invalid message body"

def body (envelope : Envelope) : List UInt8 := Text.bytes envelope.toJson.compact

/-- Writing behind the bytes that are there already. What has been written stays when a later part is
refused. -/
abbrev Writing := ExceptT Fault (StateM (List UInt8))

def Writing.put (bytes : List UInt8) : Writing Unit := modify fun buffer => buffer ++ bytes

def write (limit : Nat) (envelope : Envelope) : Writing Unit := do
  let limit := min limit maxLength
  let written := body envelope
  if limit < written.length then
    throw (.tooLarge written.length limit)
  Writing.put (lengthBytes written.length)
  Writing.put written

def append (limit : Nat) (envelope : Envelope) (buffer : List UInt8) :
    Except Fault Unit × List UInt8 :=
  ((write limit envelope).run buffer).run

def encode (limit : Nat) (envelope : Envelope) : Except Fault (List UInt8) :=
  match append limit envelope [] with
  | (.ok _, bytes) => .ok bytes
  | (.error fault, _) => .error fault

/-- A frame is refused before its first byte is written, or written as a whole. -/
theorem append_eq (limit : Nat) (envelope : Envelope) (buffer : List UInt8) :
    append limit envelope buffer =
      if min limit maxLength < (body envelope).length then
        (.error (.tooLarge (body envelope).length (min limit maxLength)), buffer)
      else (.ok (), buffer ++ framed (body envelope)) := by
  unfold append write
  by_cases long : min limit maxLength < (body envelope).length
  · simp only [if_pos long]
    rfl
  · simp only [if_neg long, framed, ← List.append_assoc]
    rfl

theorem encode_eq (limit : Nat) (envelope : Envelope) :
    encode limit envelope =
      if min limit maxLength < (body envelope).length then
        .error (.tooLarge (body envelope).length (min limit maxLength))
      else .ok (framed (body envelope)) := by
  rw [encode, append_eq]
  by_cases long : min limit maxLength < (body envelope).length
  · rw [if_pos long, if_pos long]
  · rw [if_neg long, if_neg long]
    rfl

def decodeBody (bytes : List UInt8) : Except Fault Envelope :=
  match (Json.readBytes? bytes).bind Envelope.ofJson? with
  | some envelope => .ok envelope
  | none => .error .invalidBody

/-- Bytes received and not yet used, with the longest body accepted. -/
structure Decoder where
  limit : Nat
  buffer : List UInt8
deriving DecidableEq, Repr

namespace Decoder

/-- A decoder whose limit is never above that of all frames. -/
def new (limit : Nat) : Decoder := ⟨min limit maxLength, []⟩

def feed (decoder : Decoder) (bytes : List UInt8) : Decoder :=
  { decoder with buffer := decoder.buffer ++ bytes }

/-- The first frame or what is wrong with it, if enough bytes are there to tell, and the bytes left. -/
def next? (decoder : Decoder) : Option (Except Fault Envelope × Decoder) :=
  if decoder.buffer.length < 4 then none
  else
    let length := lengthOf (decoder.buffer.take 4)
    let rest := decoder.buffer.drop 4
    if decoder.limit < length then some (.error (.invalidLength length), decoder)
    else if rest.length < length then none
    else some (decodeBody (rest.take length), { decoder with buffer := rest.drop length })

/-- How many more bytes it takes until a frame is whole or the next length can be told. -/
def wanted (decoder : Decoder) : Nat :=
  if decoder.buffer.length < 4 then 4 - decoder.buffer.length
  else 4 + lengthOf (decoder.buffer.take 4) - decoder.buffer.length

/-- Nothing can be read behind a length above the limit. -/
def halts : Except Fault Envelope → Bool
  | .error (.invalidLength _) => true
  | _ => false

theorem length_lt_of_used {decoder left : Decoder} {result : Except Fault Envelope}
    (taken : decoder.next? = some (result, left)) (used : ¬ halts result) :
    left.buffer.length < decoder.buffer.length := by
  unfold next? at taken
  split at taken
  · contradiction
  · dsimp only at taken
    split at taken
    · simp only [Option.some.injEq, Prod.mk.injEq] at taken
      exact absurd (taken.1 ▸ rfl) used
    · split at taken
      · contradiction
      · simp only [Option.some.injEq, Prod.mk.injEq] at taken
        rw [← taken.2]
        simp only [List.length_drop]
        omega

theorem length_lt_of_next? {decoder left : Decoder} {envelope : Envelope}
    (taken : decoder.next? = some (.ok envelope, left)) :
    left.buffer.length < decoder.buffer.length :=
  length_lt_of_used taken Bool.false_ne_true

/-- Takes frames until more bytes are needed or one of them is refused. -/
def drain (decoder : Decoder) : List Envelope × Option Fault × Decoder :=
  match _taken : decoder.next? with
  | none => ([], none, decoder)
  | some (.error fault, left) => ([], some fault, left)
  | some (.ok envelope, left) =>
    let (envelopes, fault, rest) := left.drain
    (envelope :: envelopes, fault, rest)
termination_by decoder.buffer.length
decreasing_by exact length_lt_of_next? _taken

theorem drain_of_none {decoder : Decoder} (taken : decoder.next? = none) :
    decoder.drain = ([], none, decoder) := by
  rw [drain]
  split <;> simp_all

theorem drain_of_error {decoder left : Decoder} {fault : Fault}
    (taken : decoder.next? = some (.error fault, left)) : decoder.drain = ([], some fault, left) := by
  rw [drain]
  split <;> simp_all

theorem drain_of_ok {decoder left : Decoder} {envelope : Envelope}
    (taken : decoder.next? = some (.ok envelope, left)) :
    decoder.drain = (envelope :: left.drain.1, left.drain.2) := by
  rw [drain]
  split <;> simp_all

/-- Takes frames until more bytes are needed or nothing more can be read, going on after a body that is
no envelope. -/
def exhaust (decoder : Decoder) : List (Except Fault Envelope) × Decoder :=
  match _taken : decoder.next? with
  | none => ([], decoder)
  | some (result, left) =>
    if _halted : halts result then ([result], left)
    else
      let (results, rest) := left.exhaust
      (result :: results, rest)
termination_by decoder.buffer.length
decreasing_by exact length_lt_of_used _taken _halted

theorem exhaust_of_none {decoder : Decoder} (taken : decoder.next? = none) :
    decoder.exhaust = ([], decoder) := by
  rw [exhaust]
  split <;> simp_all

theorem exhaust_of_some {decoder left : Decoder} {result : Except Fault Envelope}
    (taken : decoder.next? = some (result, left)) :
    decoder.exhaust =
      if halts result then ([result], left) else (result :: left.exhaust.1, left.exhaust.2) := by
  rw [exhaust]
  split <;> simp_all

/-- Takes in bytes piece by piece, and after each piece all frames that are there. -/
def readAll (decoder : Decoder) : List (List UInt8) → List (Except Fault Envelope) × Decoder
  | [] => ([], decoder)
  | piece :: pieces =>
    let (results, left) := (decoder.feed piece).exhaust
    let (more, rest) := left.readAll pieces
    (results ++ more, rest)

end Decoder

end Frame

end DroneFleet
