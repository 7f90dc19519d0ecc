import DroneFleet.Command

/-!
How written sequences are read. Both forms are read piece by piece, a character or an element at a
time, and the first piece that stands for no command is the one at fault (`Offends`). So a text and the
list of its characters come to the same (`parse_spelled`).
-/
namespace DroneFleet.Command

/-! ### Pieces -/

/-- Reads pieces one after another, and stops at the first that stands for no command. -/
def readEach {α : Type} (piece? : α → Option Command) (fault : Nat → α → CommandFault) (index : Nat) :
    List α → Except CommandFault (List Command)
  | [] => .ok []
  | piece :: rest =>
    match piece? piece with
    | some command => (readEach piece? fault (index + 1) rest).map (command :: ·)
    | none => .error (fault index piece)

theorem readLetters_eq (index : Nat) (letters : List Char) :
    readLetters index letters = readEach ofLetter? .character index letters := by
  induction letters generalizing index with
  | nil => rfl
  | cons letter letters ih =>
    cases known : ofLetter? letter <;> simp only [readLetters, readEach, known, ih]

theorem readElements_eq (index : Nat) (elements : List String) :
    readElements index elements = readEach ofElement? .element index elements := by
  induction elements generalizing index with
  | nil => rfl
  | cons element elements ih =>
    cases known : ofElement? element <;> simp only [readElements, readEach, known, ih]

structure Offends {α : Type} (fits : α → Prop) (pieces : List α) (index : Nat) (piece : α) : Prop where
  here : pieces[index]? = some piece
  unfit : ¬ fits piece
  before : ∀ earlier < index, ∀ other, pieces[earlier]? = some other → fits other

section Pieces

variable {α : Type} {fits : α → Prop} {pieces : List α} {piece : α}

theorem offends_zero {other : α} : Offends fits (piece :: pieces) 0 other ↔ piece = other ∧ ¬ fits piece := by
  constructor
  · rintro ⟨here, unfit, _⟩
    obtain rfl := Option.some.inj here
    exact ⟨rfl, unfit⟩
  · rintro ⟨rfl, unfit⟩
    exact ⟨rfl, unfit, fun earlier before => absurd before (Nat.not_lt_zero earlier)⟩

theorem offends_succ {index : Nat} {other : α} :
    Offends fits (piece :: pieces) (index + 1) other ↔ fits piece ∧ Offends fits pieces index other := by
  constructor
  · rintro ⟨here, unfit, before⟩
    exact ⟨before 0 (Nat.succ_pos index) piece rfl, here, unfit,
      fun earlier below => before (earlier + 1) (Nat.succ_lt_succ below)⟩
  · rintro ⟨first, here, unfit, before⟩
    refine ⟨here, unfit, fun earlier below found there => ?_⟩
    cases earlier with
    | zero => exact Option.some.inj there ▸ first
    | succ earlier => exact before earlier (Nat.lt_of_succ_lt_succ below) found there

variable {piece? : α → Option Command} {fault : Nat → α → CommandFault}

theorem readEach_eq_ok_iff {index : Nat} {commands : List Command} :
    readEach piece? fault index pieces = .ok commands ↔ pieces.map piece? = commands.map some := by
  induction pieces generalizing index commands with
  | nil => cases commands <;> simp [readEach]
  | cons piece pieces ih =>
    rw [readEach, List.map_cons]
    cases known : piece? piece with
    | none => cases commands <;> simp
    | some command =>
      cases commands with
      | nil => cases readEach piece? fault (index + 1) pieces <;> simp [Except.map]
      | cons first commands =>
        rw [List.map_cons, List.cons.injEq, Option.some.injEq, ← @ih (index + 1)]
        cases readEach piece? fault (index + 1) pieces <;> simp [Except.map]

/-- Reading fails at the first piece that does not fit, and only there. -/
theorem readEach_eq_error_iff (known : ∀ piece, (piece? piece).isSome = true ↔ fits piece) {start : Nat}
    {found : CommandFault} : readEach piece? fault start pieces = .error found ↔
      ∃ index piece, found = fault (start + index) piece ∧ Offends fits pieces index piece := by
  induction pieces generalizing start with
  | nil =>
    refine iff_of_false nofun ?_
    rintro ⟨index, piece, _, here, _⟩
    cases here
  | cons piece pieces ih =>
    have goesOn (index : Nat) : start + 1 + index = start + (index + 1) := by omega
    rw [readEach]
    cases read : piece? piece with
    | none =>
      have unfit : ¬ fits piece := by simp [← known, read]
      constructor
      · rintro ⟨⟩
        exact ⟨0, piece, rfl, offends_zero.mpr ⟨rfl, unfit⟩⟩
      · rintro ⟨index, other, rfl, offends⟩
        cases index with
        | zero =>
          obtain ⟨rfl, _⟩ := offends_zero.mp offends
          rfl
        | succ index => exact absurd (offends_succ.mp offends).1 unfit
    | some command =>
      have first : fits piece := by simp [← known, read]
      have later : ((readEach piece? fault (start + 1) pieces).map (command :: ·)) = .error found ↔
          readEach piece? fault (start + 1) pieces = .error found := by
        cases readEach piece? fault (start + 1) pieces <;> simp [Except.map]
      rw [later, ih]
      constructor
      · rintro ⟨index, other, rfl, offends⟩
        exact ⟨index + 1, other, by rw [goesOn], offends_succ.mpr ⟨first, offends⟩⟩
      · rintro ⟨index, other, rfl, offends⟩
        cases index with
        | zero => exact absurd first (offends_zero.mp offends).2
        | succ index => exact ⟨index, other, by rw [goesOn], (offends_succ.mp offends).2⟩

theorem readEach_ok_iff (known : ∀ piece, (piece? piece).isSome = true ↔ fits piece) {start : Nat} :
    (∃ commands, readEach piece? fault start pieces = .ok commands) ↔ ∀ piece ∈ pieces, fits piece := by
  simp only [readEach_eq_ok_iff, ← known]
  induction pieces with
  | nil => exact iff_of_true ⟨[], rfl⟩ nofun
  | cons piece pieces ih =>
    rw [List.forall_mem_cons, ← ih, List.map_cons]
    constructor
    · rintro ⟨_ | ⟨command, commands⟩, same⟩
      · cases same
      · rw [List.map_cons, List.cons.injEq] at same
        exact ⟨same.1 ▸ rfl, commands, same.2⟩
    · rintro ⟨first, commands, same⟩
      obtain ⟨command, read⟩ := Option.isSome_iff_exists.mp first
      exact ⟨command :: commands, by rw [read, same, List.map_cons]⟩

end Pieces

/-! ### Letters and elements -/

def IsLetter (character : Char) : Prop := character = 'A' ∨ character = 'L' ∨ character = 'R'

def IsElement (element : String) : Prop := ∃ character, IsLetter character ∧ element = String.singleton character

theorem ofLetter?_eq_some_iff {character : Char} {command : Command} :
    ofLetter? character = some command ↔ character = command.letter := by
  constructor
  · unfold ofLetter?
    split <;> rintro ⟨⟩ <;> rfl
  · rintro rfl
    cases command <;> rfl

theorem isLetter_iff {character : Char} : IsLetter character ↔ ∃ command, character = letter command := by
  constructor
  · rintro (rfl | rfl | rfl)
    · exact ⟨.advance, rfl⟩
    · exact ⟨.turnLeft, rfl⟩
    · exact ⟨.turnRight, rfl⟩
  · rintro ⟨_ | _ | _, rfl⟩
    · exact .inl rfl
    · exact .inr (.inl rfl)
    · exact .inr (.inr rfl)

theorem ofLetter?_isSome (character : Char) : (ofLetter? character).isSome = true ↔ IsLetter character := by
  simp only [Option.isSome_iff_exists, ofLetter?_eq_some_iff, isLetter_iff]

theorem ofElement?_singleton (character : Char) :
    ofElement? (String.singleton character) = ofLetter? character := by
  rw [ofElement?, String.toList_singleton]

theorem ofElement?_eq_some_iff {element : String} {command : Command} :
    ofElement? element = some command ↔ element = String.singleton command.letter := by
  constructor
  · intro read
    rw [ofElement?] at read
    split at read
    · rename_i character alone
      rw [← ofLetter?_eq_some_iff.mp read, ← String.toList_inj, alone, String.toList_singleton]
    · cases read
  · rintro rfl
    rw [ofElement?_singleton, ofLetter?_eq_some_iff]

theorem ofElement?_isSome (element : String) : (ofElement? element).isSome = true ↔ IsElement element := by
  simp only [Option.isSome_iff_exists, ofElement?_eq_some_iff, IsElement, isLetter_iff]
  constructor
  · rintro ⟨command, rfl⟩
    exact ⟨_, ⟨command, rfl⟩, rfl⟩
  · rintro ⟨_, ⟨command, rfl⟩, rfl⟩
    exact ⟨command, rfl⟩

theorem map_eq_map_some {α : Type} {piece? : α → Option Command} {write : Command → α}
    (reads : ∀ {piece command}, piece? piece = some command ↔ piece = write command) {pieces : List α}
    {commands : List Command} : pieces.map piece? = commands.map some ↔ pieces = commands.map write := by
  induction pieces generalizing commands with
  | nil => cases commands <;> simp
  | cons piece pieces ih =>
    cases commands with
    | nil => simp
    | cons command commands =>
      rw [List.map_cons, List.map_cons, List.map_cons, List.cons.injEq, List.cons.injEq, ih, reads]

theorem parse_eq_ok_iff {written : String} {commands : List Command} :
    parse written = .ok commands ↔ written.toList = commands.map letter := by
  rw [parse, readLetters_eq, readEach_eq_ok_iff]
  exact map_eq_map_some ofLetter?_eq_some_iff

theorem parseElements_eq_ok_iff {elements : List String} {commands : List Command} :
    parseElements elements = .ok commands ↔
      elements = commands.map fun command => String.singleton command.letter := by
  rw [parseElements, readElements_eq, readEach_eq_ok_iff]
  exact map_eq_map_some ofElement?_eq_some_iff

theorem toList_text (commands : List Command) : (text commands).toList = commands.map letter :=
  String.toList_ofList

theorem toList_join_singletons (characters : List Char) :
    (String.join (characters.map String.singleton)).toList = characters := by
  rw [String.toList_join, List.flatMap_map]
  simp

/-- The characters of a text are read like the text, and refused at the same place. -/
theorem readEach_singletons (index : Nat) (characters : List Char) :
    (readEach ofElement? .element index (characters.map String.singleton)).mapError CommandFault.index =
      (readEach ofLetter? .character index characters).mapError CommandFault.index := by
  induction characters generalizing index with
  | nil => rfl
  | cons character characters ih =>
    rw [List.map_cons, readEach, readEach, ofElement?_singleton]
    cases ofLetter? character with
    | none => rfl
    | some command =>
      have outside (result : Except CommandFault (List Command)) :
          (result.map (command :: ·)).mapError CommandFault.index =
            (result.mapError CommandFault.index).map (command :: ·) := by
        cases result <;> rfl
      rw [outside, outside, ih]

/-- A text is read if it has no characters but those that stand for commands, and a list if each of its
elements is one of these. What is read is what was written; otherwise the first character or element
that does not fit is told, with its place. Whether a sequence comes as a text or as the list of its
characters makes no difference. -/
theorem parse_spelled :
    (∀ written : String,
      ((∃ commands, parse written = .ok commands) ↔ ∀ character ∈ written.toList, IsLetter character) ∧
      (∀ commands, parse written = .ok commands →
        commands.length = written.toList.length ∧ written.toList = commands.map letter ∧
          text commands = written) ∧
      ∀ fault, parse written = .error fault ↔ ∃ index character,
        fault = .character index character ∧ Offends IsLetter written.toList index character) ∧
    (∀ commands, parse (text commands) = .ok commands) ∧
    (∀ elements : List String,
      ((∃ commands, parseElements elements = .ok commands) ↔ ∀ element ∈ elements, IsElement element) ∧
      (∀ commands, parseElements elements = .ok commands → parse (String.join elements) = .ok commands) ∧
      ∀ fault, parseElements elements = .error fault ↔ ∃ index element,
        fault = .element index element ∧ Offends IsElement elements index element) ∧
    ∀ written : String,
      (CommandInput.elements (written.toList.map String.singleton)).parse.mapError CommandFault.index =
        (CommandInput.text written).parse.mapError CommandFault.index := by
  refine ⟨fun written => ⟨?_, fun commands read => ?_, fun fault => ?_⟩, fun commands => ?_,
    fun elements => ⟨?_, fun commands read => ?_, fun fault => ?_⟩, fun written => ?_⟩
  · rw [parse, readLetters_eq]
    exact readEach_ok_iff ofLetter?_isSome
  · have spelled := parse_eq_ok_iff.mp read
    refine ⟨by rw [spelled, List.length_map], spelled, ?_⟩
    rw [← String.toList_inj, toList_text, spelled]
  · simp only [parse, readLetters_eq, readEach_eq_error_iff ofLetter?_isSome, Nat.zero_add]
  · exact parse_eq_ok_iff.mpr (toList_text commands)
  · rw [parseElements, readElements_eq]
    exact readEach_ok_iff ofElement?_isSome
  · rw [parseElements_eq_ok_iff] at read
    have spelled : elements = (commands.map letter).map String.singleton := by
      rw [read, List.map_map]
      rfl
    rw [parse_eq_ok_iff, spelled, toList_join_singletons]
  · simp only [parseElements, readElements_eq, readEach_eq_error_iff ofElement?_isSome, Nat.zero_add]
  · simp only [CommandInput.parse, parse, parseElements, readLetters_eq, readElements_eq]
    exact readEach_singletons 0 written.toList

example : parse "Aé?" = .error (.character 1 'é') := by rfl

end DroneFleet.Command
