import DroneFleet.Json.Printer
import DroneFleet.Json.Token
import DroneFleet.Proofs.Text.Decimal

/-!
How tokens are written and read. A text that holds written tokens, with any white space between them,
is read as these tokens (`tokens?_spaced`).
-/
namespace DroneFleet.Json

open Text

/-! ### Written tokens -/

namespace Token

def text : Token → List Char
  | openArray => ['[']
  | closeArray => [']']
  | openObject => ['{']
  | closeObject => ['}']
  | comma => [',']
  | colon => [':']
  | null => "null".toList
  | bool true => "true".toList
  | bool false => "false".toList
  | number value => value.text
  | string content => quote content

/-- Ends only where something else begins. -/
def isBare : Token → Bool
  | null | bool _ | number _ => true
  | _ => false

def Legible : Token → Prop
  | number value => ∃ natural, value = .natural natural
  | string content => ∃ characters, content = ofChars characters
  | _ => True

def Parted : List Token → Prop
  | first :: second :: rest => ¬ (first.isBare ∧ second.isBare) ∧ Parted (second :: rest)
  | _ => True

end Token

/-- A text that holds these tokens, with white space anywhere between them. -/
inductive Spaced : List Token → List Char → Prop
  | nil : Spaced [] []
  | blank {character : Char} {tokens : List Token} {text : List Char}
      (blank : Lexer.isBlank character = true) (rest : Spaced tokens text) :
      Spaced tokens (character :: text)
  | token (token : Token) {tokens : List Token} {text : List Char} (rest : Spaced tokens text) :
      Spaced (token :: tokens) (token.text ++ text)

/-! ### Numbers -/

namespace Token

theorem isDigit_eq (character : Char) : isDigit character = character.isDigit := by
  unfold isDigit digit? Char.isDigit
  split <;> simp_all [Char.le_def]

theorem foldl_digits {digits : List Char} (all : ∀ digit ∈ digits, digit.isDigit = true) (value : Nat) :
    digits.foldl (fun value digit => value * 10 + (digit? digit).getD 0) value =
      Nat.ofDigitChars 10 digits value := by
  induction digits generalizing value with
  | nil => rfl
  | cons digit digits ih =>
    obtain ⟨decimal, others⟩ := List.forall_mem_cons.mp all
    rw [List.foldl_cons, digit?_eq decimal, ih others, Nat.ofDigitChars_cons, Nat.mul_comm]
    rfl

theorem head?_toDigits {value : Nat} (positive : 0 < value) :
    (Nat.toDigits 10 value).head? ≠ some '0' := by
  induction value using Nat.strongRecOn with
  | ind value ih =>
    rw [Nat.toDigits_eq_if (by decide)]
    split
    · simp [Nat.ne_of_gt positive]
    · rw [List.head?_append, Option.or_of_isSome (by simp [List.isSome_head?])]
      exact ih (value / 10) (by omega) (by omega)

theorem leadingDigits?_toDigits (value : Nat) :
    leadingDigits? (Nat.toDigits 10 value) = some (Nat.toDigits 10 value, []) := by
  have all : ∀ digit ∈ Nat.toDigits 10 value, isDigit digit = true := fun digit member =>
    (isDigit_eq digit).trans (Nat.isDigit_of_mem_toDigits (by decide) (by decide) member)
  have taken : (Nat.toDigits 10 value ++ []).takeWhile isDigit = Nat.toDigits 10 value ++ [] :=
    List.takeWhile_append_of_pos all
  have left : (Nat.toDigits 10 value ++ []).dropWhile isDigit = [] :=
    List.dropWhile_append_of_pos all
  rw [List.append_nil] at taken left
  rw [leadingDigits?, taken, left]
  split
  · exact absurd ‹_› Nat.toDigits_ne_nil
  · rfl

theorem number?_toDigits (value : Nat) : number? (Nat.toDigits 10 value) = some (.natural value) := by
  have all : ∀ digit ∈ Nat.toDigits 10 value, digit.isDigit = true :=
    fun digit => Nat.isDigit_of_mem_toDigits (by decide) (by decide)
  have bare : ¬ (1 < (Nat.toDigits 10 value).length ∧ (Nat.toDigits 10 value).head? = some '0') := by
    rintro ⟨long, zero⟩
    rcases Nat.eq_zero_or_pos value with rfl | positive
    · simp at long
    · exact head?_toDigits positive zero
  unfold number?
  split
  rename_i negative unsigned sign
  split at sign
  · rename_i rest written
    have := all '-' (written ▸ List.mem_cons_self)
    cases this
  · cases sign
    rw [leadingDigits?_toDigits]
    simp [bare, exponent?, decimalValue, foldl_digits all]

end Token

/-! ### Texts -/

namespace Piece

/-- How a character is read back: a control character without a short form as the unit of its code. -/
def ofChar (character : Char) : Piece :=
  if (escapeChar character).length = 6 then unit character.toNat else symbol (some character)

theorem escapeChar_cases (character : Char) :
    (∃ mark, escapeChar character = ['\\', mark] ∧ mark ≠ 'u' ∧
        Lexer.escaped? mark = some character ∧ ofChar character = symbol (some character)) ∨
      (∃ code < 0x20, escapeChar character =
          ['\\', 'u', '0', '0', Nat.digitChar (code / 16), Nat.digitChar (code % 16)] ∧
        character = Char.ofNat code ∧ ofChar character = unit code) ∨
      (escapeChar character = [character] ∧ 0x20 ≤ character.toNat ∧ character ≠ '"' ∧
        character ≠ '\\' ∧ ofChar character = symbol (some character)) := by
  unfold ofChar
  unfold escapeChar
  split
  · exact .inl ⟨_, rfl, by decide, rfl, rfl⟩
  · exact .inl ⟨_, rfl, by decide, rfl, rfl⟩
  · exact .inl ⟨_, rfl, by decide, rfl, rfl⟩
  · exact .inl ⟨_, rfl, by decide, rfl, rfl⟩
  · exact .inl ⟨_, rfl, by decide, rfl, rfl⟩
  · exact .inl ⟨_, rfl, by decide, rfl, rfl⟩
  · exact .inl ⟨_, rfl, by decide, rfl, rfl⟩
  · right
    split
    · exact .inl ⟨character.toNat, ‹_›, rfl, (Char.ofNat_toNat character).symm, rfl⟩
    · exact .inr ⟨rfl, Nat.le_of_not_lt ‹_›, ‹_›, ‹_›, rfl⟩

theorem join_ofChar (character : Char) (pieces : List Piece) :
    join (ofChar character :: pieces) = some character :: join pieces := by
  rcases escapeChar_cases character with ⟨_, _, _, _, same⟩ | ⟨code, small, _, rfl, same⟩ |
    ⟨_, _, _, _, same⟩
  · rw [same, join]
  · have high : isHigh code = false := by simp [isHigh]; omega
    have low : isLow code = false := by simp [isLow]; omega
    rw [same]
    match pieces with
    | [] => simp [join, high, low]
    | symbol written :: rest => simp [join, high, low]
    | unit other :: rest => simp [join, high, low]
  · rw [same, join]

theorem join_map_ofChar (characters : List Char) :
    join (characters.map ofChar) = ofChars characters := by
  induction characters with
  | nil => rfl
  | cons character characters ih => rw [List.map_cons, join_ofChar, ih]; rfl

end Piece

/-! ### The lexer -/

namespace Lexer

theorem run_of_step {lexer next : Lexer} {symbol : Symbol} {tokens : List Token}
    (stepped : lexer.step symbol = some (tokens, next)) (symbols : List Symbol) :
    lexer.run (symbol :: symbols) = (next.run symbols).map (tokens ++ ·) := by
  rw [run, stepped]

theorem run_of_silent {lexer next : Lexer} {symbol : Symbol}
    (stepped : lexer.step symbol = some ([], next)) (symbols : List Symbol) :
    lexer.run (symbol :: symbols) = next.run symbols := by
  rw [run_of_step stepped]
  exact Option.map_id'

theorem hexDigit?_digitChar : ∀ digit < 16, hexDigit? (Nat.digitChar digit) = some digit := by decide

theorem run_escapeChar (pieces : List Piece) (character : Char) (symbols : List Symbol) :
    (text pieces).run (ofChars (escapeChar character) ++ symbols) =
      (text (.ofChar character :: pieces)).run symbols := by
  rcases Piece.escapeChar_cases character with ⟨mark, written, plain, escaped, same⟩ |
    ⟨code, small, written, rfl, same⟩ | ⟨written, visible, quote, backslash, same⟩
  · have short : (escape pieces).step (some mark) =
        some ([], text (.symbol (some character) :: pieces)) := by
      simp [step, escaped]
    rw [written, same]
    exact (run_of_silent rfl _).trans (run_of_silent short symbols)
  · have high := hexDigit?_digitChar (code / 16) (by omega)
    have low := hexDigit?_digitChar (code % 16) (by omega)
    have first : (unit pieces 2 0).step (some (Nat.digitChar (code / 16))) =
        some ([], unit pieces 1 (code / 16)) := by
      simp [step, high]
    have last : (unit pieces 1 (code / 16)).step (some (Nat.digitChar (code % 16))) =
        some ([], text (.unit code :: pieces)) := by
      simp [step, low]
      omega
    rw [written, same]
    calc (text pieces).run _
      _ = (unit pieces 2 0).run (some (Nat.digitChar (code / 16)) ::
            some (Nat.digitChar (code % 16)) :: symbols) :=
        (run_of_silent rfl _).trans ((run_of_silent rfl _).trans
          ((run_of_silent rfl _).trans (run_of_silent rfl _)))
      _ = (text (.unit code :: pieces)).run symbols :=
        (run_of_silent first _).trans (run_of_silent last symbols)
  · have shown : (text pieces).step (some character) =
        some ([], text (.symbol (some character) :: pieces)) := by
      simp [step, visible]
    rw [written, same]
    exact run_of_silent shown symbols

theorem run_characters (pieces : List Piece) (characters : List Char) (symbols : List Symbol) :
    (text pieces).run (ofChars (characters.flatMap escapeChar) ++ symbols) =
      (text ((characters.map Piece.ofChar).reverse ++ pieces)).run symbols := by
  induction characters generalizing pieces with
  | nil => rfl
  | cons character characters ih =>
    rw [List.flatMap_cons, ofChars, List.map_append, List.append_assoc, ← ofChars, ← ofChars,
      run_escapeChar, ih, List.map_cons, List.reverse_cons, List.append_assoc]
    rfl

theorem run_quote (characters text : List Char) :
    between.run (ofChars (quote (ofChars characters) ++ text)) =
      (between.run (ofChars text)).map (.string (ofChars characters) :: ·) := by
  have escaped : (characters.map some).flatMap escapeSymbol = characters.flatMap escapeChar := by
    rw [List.flatMap_map]
    rfl
  have written : ofChars (quote (ofChars characters) ++ text) =
      some '"' :: (ofChars (characters.flatMap escapeChar) ++ some '"' :: ofChars text) := by
    simp [quote, escaped, ofChars]
  rw [written]
  refine (run_of_silent rfl _).trans ((run_characters [] characters _).trans ?_)
  refine (run_of_step rfl _).trans ?_
  rw [List.append_nil, List.reverse_reverse, Piece.join_map_ofChar]
  rfl

def Clear : List Char → Prop
  | [] => True
  | character :: _ => isNumeric character = false ∧ isLetter character = false

/-- A word or a number grows by each of its characters and is over where something else begins. -/
theorem run_bare (grown : List Char → Lexer) {first : Char} {others : List Char} {token : Token}
    (starts : start (some first) = some ([], grown [first]))
    (grows : ∀ next ∈ others, ∀ read, (grown read).step (some next) = some ([], grown (next :: read)))
    (closes : (grown (first :: others).reverse).close = some [token])
    (ends : ∀ next read, isNumeric next = false → isLetter next = false →
      (grown read).step (some next) = (grown read).restart (some next))
    {text : List Char} (clear : Clear text) :
    between.run (ofChars (first :: others ++ text)) = (between.run (ofChars text)).map (token :: ·) := by
  have started : between.step (some first) = some ([], grown [first]) := starts
  refine (run_of_silent started _).trans ?_
  rw [List.reverse_cons] at closes
  generalize [first] = read at closes
  induction others generalizing read with
  | nil =>
    cases text with
    | nil => exact closes
    | cons next text =>
      change (grown read).close = some [token] at closes
      change (grown read).run (some next :: ofChars text) =
        (run between (some next :: ofChars text)).map _
      rw [run, ends next read clear.1 clear.2, restart, closes, run, step]
      rcases start (some next) with _ | ⟨tokens, lexer⟩
      · rfl
      · simp [Option.map_map, Function.comp_def]
  | cons next others ih =>
    refine (run_of_silent (grows next List.mem_cons_self read) _).trans ?_
    exact ih (fun other member => grows other (List.mem_cons_of_mem _ member)) _ (by simpa using closes)

theorem start_digit {digit : Char} (decimal : digit.isDigit = true) :
    isNumeric digit = true ∧ start (some digit) = some ([], number [digit]) := by
  have codes : ∀ code < 58, 48 ≤ code → isNumeric (Char.ofNat code) = true ∧
      start (some (Char.ofNat code)) = some ([], number [Char.ofNat code]) := by decide
  have bounds := decimal
  simp only [Char.isDigit, Bool.and_eq_true, decide_eq_true_eq, ge_iff_le,
    UInt32.le_iff_toNat_le] at bounds
  have found := codes digit.toNat (Nat.lt_succ_of_le bounds.2) bounds.1
  rwa [Char.ofNat_toNat] at found

theorem run_digits (value : Nat) {text : List Char} (clear : Clear text) :
    between.run (ofChars (Nat.toDigits 10 value ++ text)) =
      (between.run (ofChars text)).map (.number (.natural value) :: ·) := by
  have decimal : ∀ digit ∈ Nat.toDigits 10 value, digit.isDigit = true :=
    fun digit => Nat.isDigit_of_mem_toDigits (by decide) (by decide)
  have known := Token.number?_toDigits value
  rcases written : Nat.toDigits 10 value with _ | ⟨first, others⟩
  · exact absurd written Nat.toDigits_ne_nil
  · rw [written] at decimal known
    refine run_bare number (start_digit (decimal first List.mem_cons_self)).2 ?_ ?_ ?_ clear
    · intro next member read
      simp [step, (start_digit (decimal next (List.mem_cons_of_mem _ member))).1]
    · simp only [close, List.reverse_reverse, known]
      rfl
    · intro next read plain _
      simp [step, plain]

theorem run_letters {first : Char} {others : List Char} {token : Token}
    (starts : start (some first) = some ([], word [first]))
    (letters : others.all isLetter = true)
    (known : Token.word? (first :: others) = some token) {text : List Char} (clear : Clear text) :
    between.run (ofChars (first :: others ++ text)) = (between.run (ofChars text)).map (token :: ·) := by
  refine run_bare word starts ?_ ?_ ?_ clear
  · intro next member read
    simp [step, List.all_eq_true.mp letters next member]
  · simp only [close, List.reverse_reverse, known]
    rfl
  · intro next read _ silent
    simp [step, silent]

theorem run_mark {mark : Char} {token : Token} (known : start (some mark) = some ([token], between))
    (text : List Char) :
    between.run (ofChars (mark :: text)) = (between.run (ofChars text)).map (token :: ·) := by
  have stepped : between.step (some mark) = some ([token], between) := known
  exact run_of_step stepped _

/-- A token is read as it was written, and what stands behind it is read on its own. -/
theorem run_token {token : Token} (legible : token.Legible) {text : List Char}
    (ends : token.isBare = true → Clear text) :
    between.run (ofChars (token.text ++ text)) = (between.run (ofChars text)).map (token :: ·) := by
  match token with
  | .openArray => exact run_mark rfl _
  | .closeArray => exact run_mark rfl _
  | .openObject => exact run_mark rfl _
  | .closeObject => exact run_mark rfl _
  | .comma => exact run_mark rfl _
  | .colon => exact run_mark rfl _
  | .null => exact run_letters rfl rfl rfl (ends rfl)
  | .bool true => exact run_letters rfl rfl rfl (ends rfl)
  | .bool false => exact run_letters rfl rfl rfl (ends rfl)
  | .number value =>
    obtain ⟨value, rfl⟩ := legible
    exact run_digits value (ends rfl)
  | .string content =>
    obtain ⟨characters, rfl⟩ := legible
    exact run_quote characters text

end Lexer

theorem Spaced.clear {tokens : List Token} {text : List Char} (spaced : Spaced tokens text)
    (sharp : ∀ token ∈ tokens.head?, token.isBare = false) : Lexer.Clear text := by
  cases spaced with
  | nil => trivial
  | blank blank rest =>
    simp only [Lexer.isBlank, Bool.or_eq_true, decide_eq_true_eq] at blank
    rcases blank with ((rfl | rfl) | rfl) | rfl <;> exact ⟨rfl, rfl⟩
  | token token rest =>
    have sharp := sharp token rfl
    cases token with
    | null | bool | number => cases sharp
    | openArray | closeArray | openObject | closeObject | comma | colon | string =>
      exact ⟨rfl, rfl⟩

theorem tokens?_spaced {tokens : List Token} {text : List Char} (spaced : Spaced tokens text)
    (legible : ∀ token ∈ tokens, token.Legible) (parted : Token.Parted tokens) :
    tokens? (ofChars text) = some tokens := by
  rw [tokens?]
  induction spaced with
  | nil => rfl
  | blank blank rest ih =>
    refine (Lexer.run_of_silent ?_ _).trans (ih legible parted)
    simp [Lexer.step, Lexer.start, blank]
  | @token token tokens text rest ih =>
    obtain ⟨first, others⟩ := List.forall_mem_cons.mp legible
    have tail : Token.Parted tokens := by
      cases tokens with
      | nil => trivial
      | cons second tokens => exact parted.2
    have ends (bare : token.isBare = true) : Lexer.Clear text := by
      refine rest.clear fun second next => ?_
      obtain ⟨tokens, rfl⟩ := List.head?_eq_some_iff.mp next
      exact Bool.eq_false_iff.mpr fun also => parted.1 ⟨bare, also⟩
    rw [Lexer.run_token first ends, ih others tail]
    rfl

end DroneFleet.Json
