import DroneFleet.CommandLine.Parsing
import DroneFleet.Proofs.CommandLine.Values
import Mathlib.Data.List.Forall2

/-!
Words in which everything has its own place: the options in the form `--name=value`, and behind `--` the
values of the operands. An option that is complete in its word leaves nothing pending, and behind `--`
nothing is taken for an option any more, so what is read is what was written (`parse_words`).
-/
namespace DroneFleet.CommandLine

/-- A command line of this form. An option without values is left out. -/
structure Wording where
  path : List String
  options : List (String × List Value)
  operands : List (String × List Value)

namespace Wording

def option (name : String) (values : List Value) : String := "--" ++ name ++ "=" ++ worded values

def chosen (wording : Wording) : List (String × List Value) := wording.options.filter (·.2 ≠ [])

def words (wording : Wording) : List String :=
  wording.path ++ wording.chosen.map (fun chosen => option chosen.1 chosen.2) ++
    "--" :: wording.operands.flatMap (·.2.map Value.written)

end Wording

def Level.settled (grammar : Grammar) (found : List (String × List Value)) (position : Nat)
    (trailing : Bool) : Level :=
  ⟨grammar, found, none, false, position, trailing⟩

/-- A level behind `--` with values of an operand that are still to be read. -/
def Level.holding (grammar : Grammar) (found : List (String × List Value)) (position : Nat)
    (argument : Argument) (written : List String) : Level :=
  ⟨grammar, found, some (argument, written), false, position, true⟩

section Options

variable {grammar : Grammar} {found : List (String × List Value)}

theorem Level.values?_fresh {position : Nat} {trailing : Bool} {name : String}
    (fresh : name ∉ found.map (·.1)) :
    (settled grammar found position trailing).values? name = none := by
  refine List.lookup_eq_none_iff.mpr fun entry member => bne_iff_ne.mpr ?_
  rintro rfl
  exact fresh (List.mem_map_of_mem member)

theorem Level.accept_fresh {position : Nat} {trailing : Bool} {argument : Argument}
    {written : List String} {values : List Value} (given : written ≠ [])
    (fresh : argument.name ∉ found.map (·.1)) (reads : argument.read written = .ok values) :
    (settled grammar found position trailing).accept argument written =
      .ok (settled grammar (found ++ [(argument.name, values)]) position trailing) := by
  have others : found.filter (·.1 ≠ argument.name) = found := by
    refine List.filter_eq_self.mpr fun entry member => decide_eq_true ?_
    rintro same
    exact fresh (same ▸ List.mem_map_of_mem member)
  simp only [accept, given, and_false, if_false, values?_fresh fresh, Option.isSome_none,
    Bool.false_eq_true, reads, add, Option.getD_none, List.nil_append]
  simp only [settled, others]
  rfl

structure Grammar.Offers (grammar : Grammar) (argument : Argument) : Prop where
  known : grammar.option? argument.name = some argument
  valued : argument.arity ≠ .flag
  bare : '=' ∉ argument.name.toList
  other : argument.name ≠ "help"

instance (grammar : Grammar) (argument : Argument) : Decidable (grammar.Offers argument) :=
  decidable_of_iff (grammar.option? argument.name = some argument ∧ argument.arity ≠ .flag ∧
      '=' ∉ argument.name.toList ∧ argument.name ≠ "help")
    ⟨fun ⟨known, valued, bare, other⟩ => ⟨known, valued, bare, other⟩,
      fun ⟨known, valued, bare, other⟩ => ⟨known, valued, bare, other⟩⟩

theorem Level.word_long {level : Level} {word : String} {rest : List Char}
    (outside : level.trailing = false) (spelled : word.toList = '-' :: '-' :: rest)
    (more : rest ≠ []) : level.word word = level.long rest := by
  obtain ⟨first, others, rfl⟩ := List.exists_cons_of_ne_nil more
  rw [Level.word, outside, spelled]
  rfl

theorem Level.long_attached {level : Level} {argument : Argument}
    (offers : level.grammar.Offers argument) (value : String) :
    level.long (argument.name.toList ++ '=' :: value.toList) = do
      let level ← level.resolve
      return { ← level.accept argument [value] with awaiting := false } := by
  have letters : ∀ letter ∈ argument.name.toList, (letter ≠ '=' : Bool) = true :=
    fun letter member => decide_eq_true fun same => offers.bare (same ▸ member)
  have front : (argument.name.toList ++ '=' :: value.toList).takeWhile (· ≠ '=') =
      argument.name.toList := by
    rw [List.takeWhile_append_of_pos letters, List.takeWhile_cons_of_neg (by decide), List.append_nil]
  have back : (argument.name.toList ++ '=' :: value.toList).dropWhile (· ≠ '=') =
      '=' :: value.toList := by
    rw [List.dropWhile_append_of_pos letters, List.dropWhile_cons_of_neg (by decide)]
  have valued := offers.valued
  simp only [long, front, back, String.ofList_toList, offers.other, if_false, List.tail?_cons,
    Option.map_some, offers.known]

theorem Level.word_option {argument : Argument} {values : List Value}
    (offers : grammar.Offers argument) (takes : argument.Takes values) (given : values ≠ [])
    (fresh : argument.name ∉ found.map (·.1)) :
    (settled grammar found 0 false).word (Wording.option argument.name values) =
      .ok (settled grammar (found ++ [(argument.name, values)]) 0 false) := by
  have spelled : (Wording.option argument.name values).toList =
      '-' :: '-' :: (argument.name.toList ++ '=' :: (worded values).toList) := by
    simp [Wording.option, String.toList_append]
  have accepted : (settled grammar found 0 false).accept argument [worded values] = _ :=
    accept_fresh (List.cons_ne_nil _ _) fresh (takes.read given)
  rw [word_long rfl spelled (by simp), long_attached offers]
  simp only [resolve, settled] at accepted ⊢
  simp only [bind, Except.bind, accepted]
  rfl

structure Argument.Given (argument : Argument) (option : String × List Value) : Prop where
  named : option.1 = argument.name
  takes : argument.Takes option.2
  there : argument.required = true → option.2 ≠ []

theorem fresh_of_distinct {entry : String × List Value} {others : List (String × List Value)}
    (distinct : ((found ++ [entry] ++ others).map (·.1)).Nodup) : entry.1 ∉ found.map (·.1) := by
  rw [List.map_append, List.map_append, List.map_singleton] at distinct
  have apart := (List.nodup_append.mp (List.nodup_append.mp distinct).1).2.2
  exact fun member => apart _ member _ (List.mem_singleton_self _) rfl

theorem readWords_word {level : Level} (plain : level.grammar.subcommands = []) (path : List String)
    (outer : List Level) (word : String) (rest : List String) :
    readWords path level outer (word :: rest) =
      level.word word >>= fun next => readWords path next outer rest := by
  have nothing : level.grammar.subcommand? word = none := by
    simp [Grammar.subcommand?, Grammar.hasSubcommands, plain]
  rw [readWords, nothing, ite_self]

theorem readWords_options (plain : grammar.subcommands = []) (path : List String)
    (outer : List Level) {chosen : List (String × List Value)}
    (offered : ∀ option ∈ chosen, option.2 ≠ [] ∧ ∃ argument, grammar.Offers argument ∧
      option.1 = argument.name ∧ argument.Takes option.2)
    (distinct : ((found ++ chosen).map (·.1)).Nodup) (rest : List String) :
    readWords path (.settled grammar found 0 false) outer
        (chosen.map (fun option => Wording.option option.1 option.2) ++ rest) =
      readWords path (.settled grammar (found ++ chosen) 0 false) outer rest := by
  induction chosen generalizing found with
  | nil => rw [List.append_nil]; rfl
  | cons option others ih =>
    obtain ⟨name, values⟩ := option
    obtain ⟨⟨some, argument, offers, named, takes⟩, later⟩ := List.forall_mem_cons.mp offered
    obtain rfl : name = argument.name := named
    rw [List.append_cons] at distinct ⊢
    rw [List.map_cons, List.cons_append, readWords_word plain,
      Level.word_option offers takes some (fresh_of_distinct distinct)]
    exact ih later distinct

end Options

section Operands

variable {grammar : Grammar} {found : List (String × List Value)} {position : Nat} {level : Level}

structure Level.Settles (level : Level) (grammar : Grammar) (found : List (String × List Value))
    (position : Nat) : Prop where
  within : level.grammar = grammar
  place : level.position = position
  trailing : level.trailing = true
  resolved : level.resolve = .ok (settled grammar found position true)

inductive Argument.Has (argument : Argument) : String × List Value → Prop
  | one (single : argument.arity = .single) (plain : argument.commas = false) {value : Value}
      (holds : argument.kind.Holds value) : Has argument (argument.name, [value])

theorem Level.Settles.operand (settles : level.Settles grammar found position) {argument : Argument}
    (here : grammar.operands[position]? = some argument) (single : argument.arity = .single)
    (text : String) : level.word text = .ok (holding grammar found (position + 1) argument [text]) := by
  have one : argument.arity ≠ .many := by simp [single]
  simp only [Level.word, settles.trailing, if_true, Level.operand, settles.within, settles.place,
    here, one, false_and, if_false, settles.resolved]
  rfl

theorem Level.pending_settles {argument : Argument} {written : List String} {values : List Value}
    (given : written ≠ []) (fresh : argument.name ∉ found.map (·.1))
    (reads : argument.read written = .ok values) :
    (holding grammar found position argument written).Settles grammar
      (found ++ [(argument.name, values)]) position :=
  ⟨rfl, rfl, rfl, accept_fresh given fresh reads⟩

theorem readWords_operands (plain : grammar.subcommands = []) (path : List String)
    (outer : List Level) {before arguments : List Argument} {placed : List (String × List Value)}
    (given : List.Forall₂ Argument.Has arguments placed)
    (settles : level.Settles grammar found before.length)
    (ahead : grammar.operands = before ++ arguments)
    (distinct : ((found ++ placed).map (·.1)).Nodup) :
    ∃ last position, last.Settles grammar (found ++ placed) position ∧
      readWords path level outer (placed.flatMap (·.2.map Value.written)) =
        readWords path last outer [] := by
  induction given generalizing level found before with
  | nil => exact ⟨level, _, by rwa [List.append_nil], rfl⟩
  | @cons argument _ arguments placed one rest ih =>
    obtain @⟨single, bare, value, holds⟩ := one
    rw [List.append_cons] at distinct ahead ⊢
    have here : grammar.operands[before.length]? = some argument := by simp [ahead]
    have reads := Argument.read_apart bare (List.forall_mem_singleton.mpr holds)
    -- The value is pending now, and is read only when the next one comes.
    have next : (Level.holding grammar found (before.length + 1) argument [value.written]).Settles
        grammar (found ++ [(argument.name, [value])]) (before ++ [argument]).length := by
      rw [List.length_append]
      exact Level.pending_settles (List.cons_ne_nil _ _) (fresh_of_distinct distinct) reads
    obtain ⟨last, place, lastSettles, onward⟩ := ih next ahead distinct
    have words : (argument.name, [value]).2.map Value.written = [value.written] := rfl
    rw [List.flatMap_cons, words, List.singleton_append,
      readWords_word (settles.within.symm ▸ plain), settles.operand here single]
    exact ⟨last, place, lastSettles, onward⟩

theorem readWords_many (plain : grammar.subcommands = []) (path : List String)
    (outer : List Level) {argument : Argument} (here : grammar.operands[position]? = some argument)
    (many : argument.arity = .many) (written texts : List String) :
    readWords path (.holding grammar found position argument written) outer texts =
      readWords path (.holding grammar found position argument (written ++ texts)) outer [] := by
  induction texts generalizing written with
  | nil => rw [List.append_nil]
  | cons text texts ih =>
    have longer : (Level.holding grammar found position argument written).word text =
        .ok (.holding grammar found position argument (written ++ [text])) := by
      simp [Level.word, Level.holding, Level.operand, here, many, Level.extend]
    have onward := ih (written ++ [text])
    rw [List.append_assoc, List.singleton_append] at onward
    rw [readWords_word plain, longer]
    exact onward

/-- What stands behind `--`: operands with one value each, or one operand with any number of them. -/
inductive Placed (operands : List Argument) (placed : List (String × List Value)) : Prop
  | single (each : List.Forall₂ Argument.Has operands placed)
  | many {argument : Argument} {values : List Value} (alone : operands = [argument])
      (named : placed = [(argument.name, values)]) (many : argument.arity = .many)
      (plain : argument.commas = false) (given : values ≠ [])
      (held : ∀ value ∈ values, argument.kind.Holds value)

theorem readWords_placed (plain : grammar.subcommands = []) (path : List String)
    (outer : List Level) {placed : List (String × List Value)} (all : Placed grammar.operands placed)
    (distinct : ((found ++ placed).map (·.1)).Nodup) :
    ∃ last position, last.Settles grammar (found ++ placed) position ∧
      readWords path (.settled grammar found 0 true) outer
        (placed.flatMap (·.2.map Value.written)) = readWords path last outer [] := by
  cases all with
  | single each =>
    have start : (Level.settled grammar found 0 true).Settles grammar found ([] : List Argument).length :=
      ⟨rfl, rfl, rfl, rfl⟩
    exact readWords_operands plain path outer each start rfl distinct
  | @many argument values alone named many bare given held =>
    obtain ⟨value, others, rfl⟩ := List.exists_cons_of_ne_nil given
    subst named
    have here : grammar.operands[0]? = some argument := by simp [alone]
    have opened : (Level.settled grammar found 0 true).word value.written =
        .ok (.holding grammar found 0 argument [value.written]) := by
      simp only [Level.word, Level.settled, if_true, Level.operand, here, many, Option.map_none,
        reduceCtorEq, and_false, if_false, Level.resolve]
      rfl
    have reads := Argument.read_apart bare held
    rw [← List.append_nil (found ++ _)] at distinct
    refine ⟨.holding grammar found 0 argument ((value :: others).map Value.written), 0,
      Level.pending_settles (by simp) (fresh_of_distinct distinct) reads, ?_⟩
    rw [List.flatMap_singleton, List.map_cons, readWords_word plain, opened]
    exact readWords_many plain path outer here many [value.written] _

end Operands

/-! ### Whole command lines -/

theorem Level.complete_of_resolve {level next : Level} {chosen : Bool}
    (resolved : level.resolve = .ok next) (last : (!chosen && next.grammar.hasSubcommands) = false)
    (there : ∀ argument ∈ next.grammar.options ++ next.grammar.operands, argument.required = true →
      argument.name ∈ next.found.map (·.1)) : level.complete chosen = .ok next := by
  have all : ((next.grammar.options ++ next.grammar.operands).filter (·.required)).all
      (fun argument => (next.values? argument.name).isSome) = true := by
    refine List.all_eq_true.mpr fun argument member => ?_
    obtain ⟨offered, required⟩ := List.mem_filter.mp member
    obtain ⟨entry, inside, named⟩ := List.mem_map.mp (there argument offered required)
    refine Option.isSome_iff_ne_none.mpr fun unknown => ?_
    have apart := List.lookup_eq_none_iff.mp unknown entry inside
    simp [named] at apart
  simp only [complete, resolved, bind, Except.bind, last, Bool.false_eq_true, if_false, all, if_true]
  rfl

/-- The grammars that a path of subcommands leads through, and the last of them. -/
inductive Grammar.Leads : Grammar → List String → List Grammar → Grammar → Prop
  | here (grammar : Grammar) : Leads grammar [] [] grammar
  | inner {grammar inner leaf : Grammar} {name : String} {path : List String}
      {passed : List Grammar} (known : grammar.subcommand? name = some inner)
      (other : name ≠ "help") (further : Leads inner path passed leaf) :
      Leads grammar (name :: path) (grammar :: passed) leaf

theorem Grammar.Leads.readWords {grammar leaf : Grammar} {path : List String}
    {passed : List Grammar} (leads : grammar.Leads path passed leaf) (before : List String)
    (outer : List Level) (rest : List String) :
    CommandLine.readWords before (.new grammar) outer (path ++ rest) =
      CommandLine.readWords (path.reverse ++ before) (.new leaf)
        ((passed.map Level.new).reverse ++ outer) rest := by
  induction leads generalizing before outer with
  | here grammar => rfl
  | @inner grammar inner leaf name path passed known other further ih =>
    have descends : CommandLine.readWords before (.new grammar) outer (name :: (path ++ rest)) =
        CommandLine.readWords (name :: before) (.new inner) (.new grammar :: outer) (path ++ rest) := by
      have taken : (Level.new grammar).grammar.subcommand? name = some inner := known
      rw [CommandLine.readWords]
      simp only [Level.new, Bool.or_self, Bool.false_eq_true, if_false, known, other]
    rw [List.cons_append, descends, ih]
    simp

theorem completeAll_new {passed : List Grammar} (free : ∀ grammar ∈ passed,
    ∀ argument ∈ grammar.options ++ grammar.operands, argument.required = false) :
    completeAll true (passed.map Level.new) = .ok (passed.map Level.new) := by
  induction passed with
  | nil => rfl
  | cons grammar passed ih =>
    obtain ⟨first, later⟩ := List.forall_mem_cons.mp free
    have completed : (Level.new grammar).complete true = .ok (.new grammar) := by
      refine Level.complete_of_resolve rfl rfl fun argument member required => ?_
      cases required.symm.trans (first argument member)
    rw [List.map_cons, completeAll, completed, ih later]
    rfl

structure Grammar.Plain (grammar : Grammar) : Prop where
  last : grammar.subcommands = []
  offered : ∀ option ∈ grammar.options, grammar.Offers option
  distinct : ((grammar.options ++ grammar.operands).map (·.name)).Nodup

theorem exists_partner {α β : Type} {related : α → β → Prop} {firsts : List α} {seconds : List β}
    (each : List.Forall₂ related firsts seconds) : ∀ first ∈ firsts, ∃ second ∈ seconds,
      related first second := by
  induction each with
  | nil => exact List.forall_mem_nil _
  | @cons first second firsts seconds here rest ih =>
    refine List.forall_mem_cons.mpr ⟨⟨second, List.mem_cons_self, here⟩, fun other member => ?_⟩
    obtain ⟨partner, inside, fits⟩ := ih other member
    exact ⟨partner, List.mem_cons_of_mem _ inside, fits⟩

theorem given_named {arguments : List Argument} {options : List (String × List Value)}
    (given : List.Forall₂ Argument.Given arguments options) :
    options.map (·.1) = arguments.map (·.name) := by
  induction given with
  | nil => rfl
  | cons first rest ih => rw [List.map_cons, List.map_cons, first.named, ih]

namespace Placed

variable {arguments : List Argument} {placed : List (String × List Value)}

theorem named (all : Placed arguments placed) : placed.map (·.1) = arguments.map (·.name) := by
  cases all with
  | single each =>
    induction each with
    | nil => rfl
    | cons first rest ih =>
      cases first
      rw [List.map_cons, List.map_cons, ih]
  | many alone named => rw [alone, named]; rfl

theorem filled (all : Placed arguments placed) : ∀ entry ∈ placed, entry.2 ≠ [] := by
  cases all with
  | single each =>
    induction each with
    | nil => exact List.forall_mem_nil _
    | cons first rest ih =>
      cases first
      exact List.forall_mem_cons.mpr ⟨List.cons_ne_nil _ _, ih⟩
  | many alone named many plain given => rw [named]; exact List.forall_mem_singleton.mpr given

end Placed

theorem lookup_filled {entries : List (String × List Value)} (distinct : (entries.map (·.1)).Nodup)
    (name : String) : (entries.filter (·.2 ≠ [])).lookup name =
      (entries.lookup name).filter (· ≠ []) := by
  induction entries with
  | nil => rfl
  | cons entry entries ih =>
    obtain ⟨other, values⟩ := entry
    obtain ⟨fresh, later⟩ := List.nodup_cons.mp distinct
    -- Names are distinct, so an empty entry that goes hides no other of its name.
    by_cases same : name = other
    · subst same
      rw [List.lookup_cons_self]
      cases values with
      | nil =>
        rw [List.filter_cons_of_neg (by simp)]
        refine List.lookup_eq_none_iff.mpr fun entry member => bne_iff_ne.mpr fun same => fresh ?_
        exact List.mem_map.mpr ⟨entry, (List.mem_filter.mp member).1, same.symm⟩
      | cons value values => rw [List.filter_cons_of_pos (by simp), List.lookup_cons_self]; rfl
    · have apart : (name == other) = false := beq_false_of_ne same
      rw [List.lookup_cons, apart, ← ih later, List.filter_cons]
      split
      · rw [List.lookup_cons, apart]
      · rfl

theorem Parsed.values?_last (path : List String) (passed : List Grammar) (level : Level)
    (name : String) :
    Parsed.values? ⟨path, passed.map Level.new ++ [level]⟩ name = level.values? name := by
  induction passed with
  | nil =>
    cases found : level.values? name <;> simp [Parsed.values?, found]
  | cons grammar passed ih => exact ih

structure Wording.Fits (wording : Wording) (grammar : Grammar) : Prop where
  plain : grammar.Plain
  given : List.Forall₂ Argument.Given grammar.options wording.options
  placed : Placed grammar.operands wording.operands

namespace Wording.Fits

variable {wording : Wording} {leaf : Grammar}

theorem distinct (fits : wording.Fits leaf) :
    ((wording.options ++ wording.operands).map (·.1)).Nodup := by
  rw [List.map_append, given_named fits.given, fits.placed.named, ← List.map_append]
  exact fits.plain.distinct

theorem filled (fits : wording.Fits leaf) :
    (wording.options ++ wording.operands).filter (·.2 ≠ []) = wording.chosen ++ wording.operands := by
  rw [List.filter_append, List.filter_eq_self.mpr fun entry member =>
    decide_eq_true (fits.placed.filled entry member)]
  rfl

theorem offered (fits : wording.Fits leaf) : ∀ option ∈ wording.chosen, option.2 ≠ [] ∧
    ∃ argument, leaf.Offers argument ∧ option.1 = argument.name ∧ argument.Takes option.2 := by
  intro option member
  obtain ⟨written, some⟩ := List.mem_filter.mp member
  obtain ⟨argument, inside, gives⟩ := exists_partner fits.given.flip option written
  exact ⟨of_decide_eq_true some, argument, fits.plain.offered argument inside, gives.named, gives.takes⟩

theorem needed (fits : wording.Fits leaf) : ∀ argument ∈ leaf.options ++ leaf.operands,
    argument.required = true → argument.name ∈ (wording.chosen ++ wording.operands).map (·.1) := by
  intro argument member required
  rw [List.map_append, List.mem_append]
  rcases List.mem_append.mp member with among | among
  · obtain ⟨option, written, gives⟩ := exists_partner fits.given argument among
    have some : option ∈ wording.chosen :=
      List.mem_filter.mpr ⟨written, decide_eq_true (gives.there required)⟩
    exact .inl (gives.named ▸ List.mem_map_of_mem some)
  · exact .inr (fits.placed.named ▸ List.mem_map_of_mem among)

/-- Reading the words behind the path ends at the leaf, with all that is given. -/
theorem readWords (fits : wording.Fits leaf) (path : List String) {outer : List Level}
    (closed : completeAll true outer = .ok outer) :
    ∃ position, CommandLine.readWords path (.new leaf) outer
      (wording.chosen.map (fun chosen => option chosen.1 chosen.2) ++
        "--" :: wording.operands.flatMap (·.2.map Value.written)) =
      .ok ⟨path.reverse, outer.reverse ++
        [.settled leaf (wording.chosen ++ wording.operands) position true]⟩ := by
  have fewer : ((wording.chosen ++ wording.operands).map (·.1)).Nodup :=
    fits.filled ▸ fits.distinct.sublist (List.filter_sublist.map _)
  have before : (wording.chosen.map (·.1)).Nodup := by
    rw [List.map_append] at fewer
    exact (List.nodup_append.mp fewer).1
  obtain ⟨level, position, settles, reads⟩ := readWords_placed fits.plain.last path outer fits.placed fewer
  have completed : level.complete false =
      .ok (.settled leaf (wording.chosen ++ wording.operands) position true) := by
    refine Level.complete_of_resolve settles.resolved ?_ fits.needed
    simp [Level.settled, Grammar.hasSubcommands, fits.plain.last]
  have opened (written : List String) :
      CommandLine.readWords path (.settled leaf wording.chosen 0 false) outer ("--" :: written) =
        CommandLine.readWords path (.settled leaf wording.chosen 0 true) outer written :=
    readWords_word fits.plain.last path outer "--" written
  refine ⟨position, ?_⟩
  rw [show Level.new leaf = .settled leaf [] 0 false from rfl,
    readWords_options fits.plain.last path outer fits.offered before, List.nil_append, opened, reads,
    CommandLine.readWords]
  simp only [completeAll, completed, closed, bind, Except.bind]
  simp [pure, Except.pure]

end Wording.Fits

/-- The path leads to a level that the rest fits, and nothing is needed on the way. -/
inductive Wording.Suits (wording : Wording) (grammar : Grammar) : Prop
  | mk {passed : List Grammar} {leaf : Grammar} (leads : grammar.Leads wording.path passed leaf)
      (free : ∀ outer ∈ passed, ∀ argument ∈ outer.options ++ outer.operands,
        argument.required = false)
      (fits : wording.Fits leaf) : Suits wording grammar

/-- What is read of a command line is what it says. -/
theorem parse_words {grammar : Grammar} {wording : Wording} (suits : wording.Suits grammar) :
    ∃ parsed, parse grammar wording.words = .ok parsed ∧ parsed.path = wording.path ∧
      ∀ name, parsed.values? name =
        ((wording.options ++ wording.operands).lookup name).filter (· ≠ []) := by
  obtain @⟨passed, leaf, leads, free, fits⟩ := suits
  have closed : completeAll true (passed.map Level.new).reverse = .ok (passed.map Level.new).reverse := by
    rw [← List.map_reverse]
    exact completeAll_new fun grammar member => free grammar (List.mem_reverse.mp member)
  obtain ⟨position, reads⟩ := fits.readWords wording.path.reverse closed
  rw [List.reverse_reverse, List.reverse_reverse] at reads
  rw [parse, Wording.words, List.append_assoc, leads.readWords, List.append_nil, List.append_nil, reads]
  refine ⟨_, rfl, rfl, fun name => ?_⟩
  rw [Parsed.values?_last, ← lookup_filled fits.distinct, fits.filled]
  rfl

/-! ### Single arguments -/

theorem Argument.Given.needed (name : String) {kind : Kind} {value : Value} (holds : kind.Holds value) :
    Given (.needed name kind) (name, [value]) :=
  ⟨rfl, ⟨List.forall_mem_singleton.mpr holds, fun _ => Nat.le_refl 1, nofun⟩,
    fun _ => List.cons_ne_nil _ _⟩

theorem Argument.Given.optional {α : Type} (name : String) {kind : Kind} {write : α → Value}
    {value : Option α} (holds : ∀ given ∈ value, kind.Holds (write given)) :
    Given (.optional name kind) (name, value.toList.map write) := by
  refine ⟨rfl, ⟨?_, fun _ => ?_, nofun⟩, nofun⟩
  · simpa [Argument.optional] using holds
  · cases value <;> simp

theorem Argument.Given.listed {argument : Argument} (numeric : argument.kind = .natural)
    (commas : argument.commas = true) {values : List Value}
    (held : ∀ value ∈ values, argument.kind.Holds value) (given : values ≠ []) :
    argument.Given (argument.name, values) := by
  refine ⟨rfl, ⟨held, fun plain => ?_, fun _ => numeric⟩, fun _ => given⟩
  cases commas.symm.trans plain

theorem Argument.Has.needed (name : String) {kind : Kind} {value : Value} (holds : kind.Holds value) :
    Has (.needed name kind) (name, [value]) :=
  .one rfl rfl holds

namespace Parsed

variable {parsed : Parsed} {name : String}

theorem value?_given {α : Type} {write : α → Value} {value : Option α}
    (found : parsed.values? name = (some (value.toList.map write)).filter (· ≠ [])) :
    parsed.value? name = value.map write := by
  rw [value?, found]
  cases value <;> rfl

theorem text?_given {value : Option String}
    (found : parsed.values? name = (some (value.toList.map .text)).filter (· ≠ [])) :
    parsed.text? name = value := by
  rw [text?, value?_given found]
  cases value <;> rfl

theorem natural?_given {value : Option Nat}
    (found : parsed.values? name = (some (value.toList.map .natural)).filter (· ≠ [])) :
    parsed.natural? name = value := by
  rw [natural?, value?_given found]
  cases value <;> rfl

theorem word?_given {value : Option UInt32}
    (found : parsed.values? name = (some (value.toList.map .word)).filter (· ≠ [])) :
    parsed.word? name = value := by
  rw [word?, value?_given found]
  cases value <;> rfl

theorem orientation?_given {value : Option Orientation}
    (found : parsed.values? name = (some (value.toList.map .orientation)).filter (· ≠ [])) :
    parsed.orientation? name = value := by
  rw [orientation?, value?_given found]
  cases value <;> rfl

theorem naturals?_given {numbers : List Nat} (given : numbers ≠ [])
    (found : parsed.values? name = (some (numbers.map .natural)).filter (· ≠ [])) :
    parsed.naturals? name = some numbers := by
  rw [naturals?, found, Option.filter_some_pos (by simpa using given), Option.map_some]
  simp [List.filterMap_map]

theorem entries?_given {entries : List BatchEntry} (given : entries ≠ [])
    (found : parsed.values? name = (some (entries.map .entry)).filter (· ≠ [])) :
    parsed.entries? name = some entries := by
  rw [entries?, found, Option.filter_some_pos (by simpa using given), Option.map_some]
  simp [List.filterMap_map]

end Parsed

end DroneFleet.CommandLine
