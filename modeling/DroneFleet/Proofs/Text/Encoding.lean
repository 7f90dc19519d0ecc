import DroneFleet.Text.Symbols

/-!
Text comes back from its bytes: each character is read from the bytes that it is written in, whatever
stands behind them, so that the symbols of a written text are its characters (`symbols_bytes`).
-/
namespace DroneFleet.Text

theorem toNat_ofNat_add {high lead : Nat} (small : high + lead < 256) :
    (UInt8.ofNat (high + lead)).toNat = high + lead := by
  rw [UInt8.toNat_ofNat', Nat.mod_eq_of_lt small]

theorem continuation?_ofNat (code : Nat) :
    continuation? (UInt8.ofNat (code % 64 + 0x80)) = some (code % 64) := by
  have size := toNat_ofNat_add (show code % 64 + 0x80 < 256 by omega)
  simp only [continuation?, UInt8.le_iff_toNat_le, size, UInt8.reduceToNat, Nat.add_sub_cancel]
  rw [if_pos (by omega)]

theorem scalarFrom?_toNat {least code : Nat} (character : Char) (same : code = character.toNat)
    (above : least ≤ code) : scalarFrom? least code = some character := by
  subst same
  rw [scalarFrom?, if_pos ⟨above, character.valid⟩, Char.ofNat_toNat]

theorem leading?_utf8EncodeChar (character : Char) (rest : List UInt8) :
    leading? (String.utf8EncodeChar character ++ rest) =
      some (character, (String.utf8EncodeChar character).length) := by
  have valid : character.toNat < 0x110000 := by
    rcases character.valid with low | high
    · exact Nat.lt_trans low (by decide)
    · exact high.2
  unfold String.utf8EncodeChar
  rw [show character.val.toNat = character.toNat from rfl]
  dsimp only
  -- one case for each number of bytes
  split
  · have size := toNat_ofNat_add (show character.toNat + 0 < 256 by omega)
    simp only [Nat.add_zero] at size
    simp only [List.cons_append, leading?, UInt8.lt_iff_toNat_lt, size, UInt8.reduceToNat]
    rw [if_pos (by omega), Char.ofNat_toNat]
    rfl
  · split
    · have size := toNat_ofNat_add (show character.toNat / 64 % 0x20 + 0xc0 < 256 by omega)
      simp only [List.cons_append, leading?, UInt8.lt_iff_toNat_lt, UInt8.le_iff_toNat_le, size,
        continuation?_ofNat, Nat.add_sub_cancel, UInt8.reduceToNat]
      rw [if_neg (by omega), if_pos (by omega)]
      simp only [Option.bind_eq_bind, Option.bind_some]
      rw [scalarFrom?_toNat character (by omega) (by omega)]
      rfl
    · split
      · have size := toNat_ofNat_add (show character.toNat / 4096 % 0x10 + 0xe0 < 256 by omega)
        simp only [List.cons_append, leading?, UInt8.lt_iff_toNat_lt, UInt8.le_iff_toNat_le, size,
          continuation?_ofNat, Nat.add_sub_cancel, UInt8.reduceToNat]
        rw [if_neg (by omega), if_neg (by omega), if_pos (by omega)]
        simp only [Option.bind_eq_bind, Option.bind_some]
        rw [scalarFrom?_toNat character (by omega) (by omega)]
        rfl
      · have size := toNat_ofNat_add (show character.toNat / 262144 % 0x08 + 0xf0 < 256 by omega)
        simp only [List.cons_append, leading?, UInt8.lt_iff_toNat_lt, UInt8.le_iff_toNat_le, size,
          continuation?_ofNat, Nat.add_sub_cancel, UInt8.reduceToNat]
        rw [if_neg (by omega), if_neg (by omega), if_neg (by omega), if_pos (by omega)]
        simp only [Option.bind_eq_bind, Option.bind_some]
        rw [scalarFrom?_toNat character (by omega) (by omega)]
        rfl

theorem symbolsAfter_append (skipped rest : List UInt8) :
    symbolsAfter skipped.length (skipped ++ rest) = symbols rest := by
  induction skipped with
  | nil => rfl
  | cons byte skipped ih => exact ih

theorem symbols_append (character : Char) (rest : List UInt8) :
    symbols (String.utf8EncodeChar character ++ rest) = some character :: symbols rest := by
  have taken := leading?_utf8EncodeChar character rest
  rcases written : String.utf8EncodeChar character with _ | ⟨byte, more⟩
  · exact absurd written String.utf8EncodeChar_ne_nil
  · rw [written] at taken
    rw [symbols, List.cons_append, symbolsAfter, ← List.cons_append, taken]
    exact congrArg (some character :: ·) (symbolsAfter_append more rest)

theorem symbols_bytes (text : List Char) : symbols (bytes text) = ofChars text := by
  induction text with
  | nil => rfl
  | cons character text ih =>
    rw [bytes, List.flatMap_cons, symbols_append]
    exact congrArg (some character :: ·) ih

end DroneFleet.Text
