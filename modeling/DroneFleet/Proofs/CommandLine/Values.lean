import DroneFleet.CommandLine.Grammar
import DroneFleet.Proofs.Text.Decimal

/-!
How values are written on a command line. A value of a kind is read from what is written for it, and
several values with commas between them are read one by one.
-/
namespace DroneFleet

def CommandInput.spelling : CommandInput → String
  | text letters => letters
  | elements texts => String.join texts

namespace CommandLine

open Text

namespace Value

def written : Value → String
  | text value => value
  | natural value => toString value
  | word value => toString value.toNat
  | orientation value => value.label
  | entry value => toString value.droneId ++ ":" ++ value.commands.spelling
  | address value => value.text

end Value

inductive Kind.Holds : Kind → Value → Prop
  | text (value : String) : Holds .text (.text value)
  | natural {value : Nat} (small : value ≤ word64Limit) : Holds .natural (.natural value)
  | word (value : UInt32) : Holds .word (.word value)
  | orientation (value : Orientation) : Holds .orientation (.orientation value)
  | entry {droneId : Nat} (small : droneId ≤ word64Limit) (commands : String) :
      Holds .entry (.entry ⟨droneId, .text commands⟩)

theorem readWord_numeral (value : UInt32) : readWord (toString value.toNat) = .ok value := by
  have small : value.toNat ≤ word32Limit := by
    have := value.toNat_lt
    simp only [word32Limit, UInt32.size]
    omega
  have within : value.toNat ≤ Nat.pow 2 63 - 1 := Nat.le_trans small (by decide)
  have fits : 0 ≤ (value.toNat : Int) ∧ (value.toNat : Int) ≤ (word32Limit : Int) := by omega
  simp only [readWord, readSigned_numeral within, fits, and_self, if_true, Int.toNat_natCast,
    UInt32.ofNat_toNat]

/-- The first colon stands behind the number, whatever the commands are. -/
theorem readEntry_written {droneId : Nat} (small : droneId ≤ word64Limit) (commands : String) :
    readEntry (toString droneId ++ ":" ++ commands) = .ok ⟨droneId, .text commands⟩ := by
  have written : (toString droneId ++ ":" ++ commands).toList =
      (toString droneId).toList ++ ':' :: commands.toList := by
    simp [String.toList_append]
  have digits : ∀ digit ∈ (toString droneId).toList, (digit ≠ ':' : Bool) = true := by
    intro digit member
    refine decide_eq_true fun same => ?_
    have decimal := isDigit_of_mem_numeral member
    rw [same] at decimal
    cases decimal
  have front : (toString droneId ++ ":" ++ commands).toList.takeWhile (· ≠ ':') =
      (toString droneId).toList := by
    rw [written, List.takeWhile_append_of_pos digits, List.takeWhile_cons_of_neg (by decide),
      List.append_nil]
  have back : (toString droneId ++ ":" ++ commands).toList.dropWhile (· ≠ ':') =
      ':' :: commands.toList := by
    rw [written, List.dropWhile_append_of_pos digits, List.dropWhile_cons_of_neg (by decide)]
  simp only [readEntry, front, back, String.ofList_toList, trimmed_numeral,
    readNatural_numeral small]

theorem Kind.Holds.read {kind : Kind} {value : Value} (holds : kind.Holds value) :
    kind.read value.written = .ok value := by
  unfold Kind.read Value.written
  cases holds with
  | text value => rfl
  | natural small => simp only [readNatural_numeral small]
  | word value => simp only [readWord_numeral]
  | orientation value => cases value <;> rfl
  | entry small commands => simp only [CommandInput.spelling, readEntry_written small]

/-! ### Several values -/

def worded (values : List Value) : String := ",".intercalate (values.map Value.written)

namespace Argument

structure Takes (argument : Argument) (values : List Value) : Prop where
  held : ∀ value ∈ values, argument.kind.Holds value
  alone : argument.commas = false → values.length ≤ 1
  parted : argument.commas = true → argument.kind = .natural

theorem segments_eq (text : List Char) : split.segments text = text.splitOn ',' := by
  induction text with
  | nil => rfl
  | cons character rest ih =>
    rw [List.splitOn_cons_eq_if_modifyHead, ← ih]
    by_cases comma : character = ','
    · subst comma
      rfl
    · rw [if_neg (by simpa using comma)]
      obtain ⟨first, others, pieces⟩ :=
        List.exists_cons_of_ne_nil (ih ▸ List.splitOn_ne_nil ',' rest)
      simp only [split.segments, pieces]
      rfl

theorem split_single {argument : Argument} (plain : argument.commas = false) (written : String) :
    argument.split written = [written] := by
  rw [split, if_neg (by simp [plain])]

theorem mapM_read {kind : Kind} {values : List Value} (held : ∀ value ∈ values, kind.Holds value) :
    ((values.map Value.written).mapM fun text => kind.read text) = .ok values := by
  induction values with
  | nil => rfl
  | cons value values ih =>
    obtain ⟨first, later⟩ := List.forall_mem_cons.mp held
    rw [List.map_cons, List.mapM_cons, first.read, ih later]
    rfl

theorem read_apart {argument : Argument} (plain : argument.commas = false) {values : List Value}
    (held : ∀ value ∈ values, argument.kind.Holds value) :
    argument.read (values.map Value.written) = .ok values := by
  rw [read, funext (split_single plain), List.flatMap_singleton', mapM_read held]

theorem Takes.read {argument : Argument} {values : List Value} (takes : argument.Takes values)
    (given : values ≠ []) : argument.read [worded values] = .ok values := by
  cases plain : argument.commas with
  | false =>
    obtain ⟨value, rfl⟩ : ∃ value, values = [value] := by
      rcases values with _ | ⟨value, _ | _⟩
      · exact absurd rfl given
      · exact ⟨value, rfl⟩
      · have short := takes.alone plain
        simp at short
    exact read_apart plain takes.held
  | true =>
    -- Commas part numbers only, and a numeral has no comma in it.
    have bare : ∀ text ∈ (values.map Value.written).map String.toList, ',' ∉ text := by
      simp only [List.forall_mem_map]
      intro value member comma
      have number := takes.held value member
      rw [takes.parted plain] at number
      cases number
      cases isDigit_of_mem_numeral comma
    have pieces : argument.split (worded values) = values.map Value.written := by
      rw [split, if_pos plain, segments_eq, worded, String.toList_intercalate,
        show ",".toList = [','] from rfl, List.splitOn_intercalate ',' bare (by simpa using given)]
      simp [Function.comp_def]
    rw [Argument.read, List.flatMap_singleton, pieces, mapM_read takes.held]

end Argument

end CommandLine

end DroneFleet
