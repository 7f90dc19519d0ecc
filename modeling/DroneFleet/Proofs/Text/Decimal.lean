import DroneFleet.Text.Blank
import DroneFleet.Text.Decimal

/-!
Decimal numerals. They are read as they were written, and a numeral is over where its digits are, so
that what stands behind it can be told from it.
-/
namespace DroneFleet.Text

theorem digit?_eq {digit : Char} (decimal : digit.isDigit = true) :
    digit? digit = some (digit.toNat - '0'.toNat) := by
  refine if_pos ?_
  simpa [Char.isDigit, Char.le_def] using decimal

theorem toList_numeral (value : Nat) : (toString value).toList = Nat.toDigits 10 value :=
  Nat.toList_repr

theorem isDigit_of_mem_numeral {value : Nat} {digit : Char}
    (member : digit ∈ (toString value).toList) : digit.isDigit = true :=
  Nat.isDigit_of_mem_toDigits (by decide) (by decide) (toList_numeral value ▸ member)

def Breaks (mark : String) : Prop := ∃ first, mark.toList.head? = some first ∧ first.isDigit = false

theorem takeWhile_numeral (value : Nat) {mark : String} (breaks : Breaks mark) (rest : String) :
    (toString value ++ (mark ++ rest)).toList.takeWhile Char.isDigit = Nat.toDigits 10 value := by
  obtain ⟨first, starts, other⟩ := breaks
  obtain ⟨later, split⟩ := List.head?_eq_some_iff.mp starts
  have digits : ∀ digit ∈ (toString value).toList, digit.isDigit = true :=
    fun digit => isDigit_of_mem_numeral
  rw [String.toList_append, List.takeWhile_append_of_pos digits, String.toList_append, split,
    List.cons_append, List.takeWhile_cons_of_neg (by simp [other]), List.append_nil, toList_numeral]

theorem numeral_append_inj {first second : Nat} {mark rest rest' : String} (breaks : Breaks mark)
    (same : toString first ++ (mark ++ rest) = toString second ++ (mark ++ rest')) :
    first = second ∧ rest = rest' := by
  have digits : Nat.toDigits 10 first = Nat.toDigits 10 second := by
    simpa only [takeWhile_numeral _ breaks] using congrArg (·.toList.takeWhile Char.isDigit) same
  have equal : first = second := by
    rw [← @Nat.ofDigitChars_ten_toDigits first, digits, Nat.ofDigitChars_ten_toDigits]
  subst equal
  rw [String.append_right_inj, String.append_right_inj] at same
  exact ⟨rfl, same⟩

/-! ### Reading a numeral -/

theorem le_ofDigitChars (digits : List Char) (value : Nat) :
    value ≤ Nat.ofDigitChars 10 digits value := by
  induction digits generalizing value with
  | nil => exact Nat.le_refl _
  | cons digit digits ih =>
    rw [Nat.ofDigitChars_cons]
    exact Nat.le_trans (by omega) (ih _)

theorem readDigits_eq {limit : Nat} (overflow : IntegerFault) {digits : List Char}
    (decimal : ∀ digit ∈ digits, digit.isDigit = true) {value : Nat}
    (within : Nat.ofDigitChars 10 digits value ≤ limit) :
    readDigits limit overflow value digits = .ok (Nat.ofDigitChars 10 digits value) := by
  induction digits generalizing value with
  | nil => rfl
  | cons digit digits ih =>
    obtain ⟨first, later⟩ := List.forall_mem_cons.mp decimal
    rw [Nat.ofDigitChars_cons, Nat.mul_comm] at within ⊢
    have small := Nat.le_trans (le_ofDigitChars digits _) within
    rw [readDigits, digit?_eq first]
    exact (if_pos small).trans (ih later within)

theorem readDigits_numeral {limit value : Nat} (overflow : IntegerFault) (within : value ≤ limit) :
    readDigits limit overflow 0 (toString value).toList = .ok value := by
  have whole : Nat.ofDigitChars 10 (toString value).toList 0 = value := by
    rw [toList_numeral, Nat.ofDigitChars_ten_toDigits]
  have small : Nat.ofDigitChars 10 (toString value).toList 0 ≤ limit := whole.symm ▸ within
  have read := readDigits_eq overflow (fun _ => isDigit_of_mem_numeral) small
  rwa [whole] at read

theorem head_numeral (value : Nat) : ∃ first rest, (toString value).toList = first :: rest ∧
    first.isDigit = true := by
  cases written : (toString value).toList with
  | nil => exact absurd ((toList_numeral value).symm.trans written) Nat.toDigits_ne_nil
  | cons first rest => exact ⟨first, rest, rfl, isDigit_of_mem_numeral (written ▸ List.mem_cons_self)⟩

theorem readNatural_numeral {limit value : Nat} (within : value ≤ limit) :
    readNatural limit (toString value) = .ok value := by
  obtain ⟨first, rest, written, decimal⟩ := head_numeral value
  have read := readDigits_numeral .tooLarge within
  rw [readNatural]
  rw [written] at read ⊢
  split <;> rename_i sign
  · cases sign
  · cases sign
    cases decimal
  · cases sign
    cases decimal
  · exact read

theorem readSigned_numeral {value : Nat} (within : value ≤ Nat.pow 2 63 - 1) :
    readSigned (toString value) = .ok (value : Int) := by
  obtain ⟨first, rest, written, decimal⟩ := head_numeral value
  have read := readDigits_numeral .tooLarge within
  rw [readSigned]
  rw [written] at read ⊢
  split <;> rename_i sign
  · cases sign
  · cases sign
    cases decimal
  · cases sign
    cases decimal
  · cases sign
    cases decimal
  · cases sign
    cases decimal
  · rw [read]
    rfl

theorem isBlank_of_isDigit {digit : Char} (decimal : digit.isDigit = true) :
    isBlank digit = false := by
  have low : 48 ≤ digit.toNat ∧ digit.toNat ≤ 57 := by
    simpa [Char.isDigit, UInt32.le_iff_toNat_le] using decimal
  simp only [isBlank, Bool.or_eq_false_iff, Bool.and_eq_false_iff, decide_eq_false_iff_not,
    beq_eq_false_iff_ne]
  omega

theorem trimmed_numeral (value : Nat) : trimmed (toString value) = toString value := by
  have kept : ∀ digits : List Char, (∀ digit ∈ digits, digit.isDigit = true) →
      digits.dropWhile isBlank = digits := by
    rintro (_ | ⟨first, rest⟩) decimal
    · rfl
    · have dark := isBlank_of_isDigit (decimal first List.mem_cons_self)
      exact List.dropWhile_cons_of_neg (by simp [dark])
  have digits : ∀ digit ∈ (toString value).toList, digit.isDigit = true :=
    fun digit => isDigit_of_mem_numeral
  rw [trimmed, kept _ digits, kept _ fun digit member => digits digit (List.mem_reverse.mp member),
    List.reverse_reverse, String.ofList_toList]

end DroneFleet.Text
