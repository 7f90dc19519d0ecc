import DroneFleet.Proofs.Frame.Splitting
import DroneFleet.Proofs.Text.Encoding
import DroneFleet.Proofs.Wire.Response

/-!
Envelopes come back from their frames (`next?_append`): the body is the document of the envelope, and
that is read as the envelope again, whatever its texts hold.
-/
namespace DroneFleet.Frame

open Json

/-- A body is read as an envelope when it holds the document of the envelope, with the members of objects
in any order and any white space between the tokens. -/
theorem decodeBody_spaced {envelope : Envelope}
    (small : ∀ number ∈ envelope.numbers, number ≤ Text.word64Limit) {json : Json}
    (rearranged : Rearranged envelope.toJson json) {text : List Char}
    (spaced : Spaced json.tokens text) : decodeBody (Text.bytes text) = .ok envelope := by
  have plain : Plain 8 json := (Envelope.plain small).rearranged rearranged
  have read := envelope.recovers json ⟨plain, rearranged⟩
  rw [decodeBody, readBytes?, Text.symbols_bytes, read?_spaced plain spaced, Option.bind_some, read]

theorem decodeBody_body {envelope : Envelope}
    (small : ∀ number ∈ envelope.numbers, number ≤ Text.word64Limit) :
    decodeBody (body envelope) = .ok envelope :=
  decodeBody_spaced small (.refl _) (spaced_compact _)

/-- An envelope is written exactly when its body is within the limit, and otherwise nothing is: the frame
is the length of the body in four bytes, the most significant first, and the body. Any decoder whose
limit the body keeps takes the same envelope off that frame and leaves what stands behind it. -/
theorem next?_append {envelope : Envelope}
    (small : ∀ number ∈ envelope.numbers, number ≤ Text.word64Limit) (limit : Nat)
    (buffer : List UInt8) :
    ((append limit envelope buffer).1 = .ok () ↔ (body envelope).length ≤ min limit maxLength) ∧
    ((body envelope).length ≤ min limit maxLength → ∃ size : List UInt8,
      size.length = 4 ∧ lengthOf size = (body envelope).length ∧
      append limit envelope buffer = (.ok (), buffer ++ size ++ body envelope) ∧
      ∀ accepted rest, (body envelope).length ≤ accepted →
        ((Decoder.new accepted).feed (size ++ body envelope ++ rest)).next? =
          some (.ok envelope, (Decoder.new accepted).feed rest)) ∧
    (min limit maxLength < (body envelope).length → append limit envelope buffer =
      (.error (.tooLarge (body envelope).length (min limit maxLength)), buffer)) := by
  have written := append_eq limit envelope buffer
  by_cases long : min limit maxLength < (body envelope).length
  · rw [if_pos long] at written
    rw [written]
    exact ⟨⟨nofun, fun fits => absurd fits (Nat.not_le_of_lt long)⟩,
      fun fits => absurd fits (Nat.not_le_of_lt long), fun _ => rfl⟩
  · have fits := Nat.not_lt.mp long
    have below : (body envelope).length ≤ maxLength := Nat.le_trans fits (Nat.min_le_right _ _)
    rw [if_neg long, framed, ← List.append_assoc] at written
    rw [written]
    refine ⟨iff_of_true rfl fits, fun _ => ⟨lengthBytes (body envelope).length, length_lengthBytes _,
      lengthOf_lengthBytes (Nat.lt_of_le_of_lt below (by decide)), rfl, fun accepted rest keeps => ?_⟩,
      fun exceeds => absurd exceeds long⟩
    have taken : Decoder.next? ⟨min accepted maxLength, framed (body envelope) ++ rest⟩ =
        some (decodeBody (body envelope), ⟨min accepted maxLength, rest⟩) :=
      Decoder.next?_framed (Nat.lt_of_le_of_lt (Nat.min_le_right _ _) (by decide))
        (Nat.le_min.mpr ⟨keeps, below⟩)
    rw [decodeBody_body small] at taken
    exact taken

/-- Commands for two drones with the greatest number and with characters of every kind. -/
def intricate : Envelope :=
  ⟨⟨"pilot \"\\\u0001\u00e9", Text.word64Limit, 0⟩,
    .request (.matrixDroneCommands (some 7) [1, Text.word64Limit] (.elements ["LA\n", "😀"]))⟩

theorem next?_append_intricate :
    (∀ number ∈ intricate.numbers, number ≤ Text.word64Limit) ∧ ∃ size : List UInt8,
      size.length = 4 ∧ lengthOf size = (body intricate).length ∧
      append 300 intricate [1] = (.ok (), [1] ++ size ++ body intricate) ∧
      ((Decoder.new 300).feed (size ++ body intricate ++ [0, 0])).next? =
        some (.ok intricate, (Decoder.new 300).feed [0, 0]) := by
  have small : ∀ number ∈ intricate.numbers, number ≤ Text.word64Limit := by decide
  have fits : (body intricate).length ≤ 300 := by decide +kernel
  obtain ⟨size, four, length, appended, taken⟩ := (next?_append small 300 [1]).2.1 fits
  exact ⟨small, size, four, length, appended, taken 300 [0, 0] fits⟩

end DroneFleet.Frame
