/-!
Text as it arrives in bytes. A symbol is a character, or `none` where the bytes hold something that
is no character, so that a reader can decide later whether such a place matters to it.
-/
namespace DroneFleet.Text

/-- A character, or something in the place of one. -/
abbrev Symbol := Option Char

def continuation? (byte : UInt8) : Option Nat :=
  if 0x80 ≤ byte ∧ byte ≤ 0xbf then some (byte.toNat - 0x80) else none

/-- The character of a code point that is at least `least` and no surrogate. -/
def scalarFrom? (least code : Nat) : Option Char :=
  if least ≤ code ∧ code.isValidChar then some (Char.ofNat code) else none

/-- The character that starts a byte sequence, with the bytes it takes. -/
def leading? : List UInt8 → Option (Char × Nat)
  | a :: rest =>
    if a < 0x80 then some (Char.ofNat a.toNat, 1)
    else if 0xc0 ≤ a ∧ a < 0xe0 then
      match rest with
      | b :: _ => do
        let low ← continuation? b
        return (← scalarFrom? 0x80 ((a.toNat - 0xc0) * 64 + low), 2)
      | _ => none
    else if 0xe0 ≤ a ∧ a < 0xf0 then
      match rest with
      | b :: c :: _ => do
        let middle ← continuation? b
        let low ← continuation? c
        return (← scalarFrom? 0x800 (((a.toNat - 0xe0) * 64 + middle) * 64 + low), 3)
      | _ => none
    else if 0xf0 ≤ a ∧ a < 0xf8 then
      match rest with
      | b :: c :: d :: _ => do
        let high ← continuation? b
        let middle ← continuation? c
        let low ← continuation? d
        return (← scalarFrom? 0x10000 ((((a.toNat - 0xf0) * 64 + high) * 64 + middle) * 64 + low), 4)
      | _ => none
    else none
  | [] => none

/-- Reads on after skipping `skip` bytes that belong to a character already read. -/
def symbolsAfter : Nat → List UInt8 → List Symbol
  | _, [] => []
  | skip + 1, _ :: rest => symbolsAfter skip rest
  | 0, byte :: rest =>
    match leading? (byte :: rest) with
    | some (character, size) => some character :: symbolsAfter (size - 1) rest
    | none => none :: symbolsAfter 0 rest

/-- The symbols of a byte sequence; a byte that starts no character counts as one symbol. -/
def symbols (bytes : List UInt8) : List Symbol := symbolsAfter 0 bytes

def bytes (text : List Char) : List UInt8 := text.flatMap String.utf8EncodeChar

def ofChars (text : List Char) : List Symbol := text.map some

def spelled? : List Symbol → Option (List Char)
  | [] => some []
  | none :: _ => none
  | some character :: rest => (spelled? rest).map (character :: ·)

end DroneFleet.Text
