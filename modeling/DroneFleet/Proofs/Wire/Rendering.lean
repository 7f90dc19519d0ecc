import DroneFleet.Proofs.Json.Rearranging
import DroneFleet.Wire.Record

/-!
What readers make of the documents that are written for values. They find the members of a record in any
order (`Mirrors`) and recover the value from every order of its document (`Recovers`), also when a part
of it has to be held until its tag is known.
-/
namespace DroneFleet.Wire

open Json

theorem spelled?_ofChars (characters : List Char) :
    Text.spelled? (Text.ofChars characters) = some characters := by
  induction characters with
  | nil => rfl
  | cons character characters ih =>
    rw [Text.ofChars, List.map_cons, Text.spelled?, ← Text.ofChars, ih]
    rfl

/-! ### Documents that are written for values -/

@[simp] theorem plain_text (height : Nat) (text : String) : Plain height (.text text) := .text height text

@[simp] theorem plain_natural {height value : Nat} :
    Plain height (.natural value) ↔ value ≤ Text.word64Limit := by
  refine ⟨fun plain => ?_, .natural height⟩
  cases plain with
  | natural _ small => exact small

@[simp] theorem plain_word (height : Nat) (value : UInt32) : Plain height (.word value) :=
  plain_natural.mpr (Nat.le_trans (Nat.le_of_lt value.toNat_lt) (by decide))

@[simp] theorem plain_record {height : Nat} {members : Record} :
    Plain (height + 1) (.record members) ↔ ∀ member ∈ members, Plain height member.2 := by
  constructor
  · intro plain
    obtain _ | _ | _ | _ | _ | ⟨_, plain⟩ := plain
    exact fun member here => plain _ (List.mem_map_of_mem here)
  · refine fun plain => .object (fun member found => ?_) fun member found => ?_ <;>
      obtain ⟨original, here, rfl⟩ := List.mem_map.mp found
    · exact ⟨original.1, rfl⟩
    · exact plain original here

@[simp] theorem plain_list {α : Type} {height : Nat} {write : α → Json} {values : List α} :
    Plain (height + 1) (.array (values.map write)) ↔ ∀ value ∈ values, Plain height (write value) := by
  constructor
  · intro plain
    obtain _ | _ | _ | _ | plain := plain
    exact fun value here => plain _ (List.mem_map_of_mem here)
  · refine fun plain => .array fun item found => ?_
    obtain ⟨value, here, rfl⟩ := List.mem_map.mp found
    exact plain value here

/-! ### Values that are held -/

def Reach.Room (height : Nat) : Reach → Prop
  | direct depth => depth + height ≤ depthLimit
  | held => True

theorem Reach.Room.inner {height : Nat} {reach : Reach} (room : reach.Room (height + 1)) :
    reach.inner.Room height := by
  cases reach with
  | direct depth =>
    unfold Reach.inner
    unfold Room at *
    omega
  | held => trivial

theorem Reach.room_held (height : Nat) : held.Room height := trivial

theorem Reach.Room.le {height less : Nat} {reach : Reach} (room : reach.Room height)
    (below : less ≤ height) : reach.Room less := by
  cases reach with
  | direct depth => exact Nat.le_trans (Nat.add_le_add_left below depth) room
  | held => trivial

theorem holdableItems_eq (depth : Nat) (items : List Json) :
    holdableItems depth items = items.all (holdable depth) := by
  induction items with
  | nil => rfl
  | cons item items ih => rw [holdableItems, ih, List.all_cons]

theorem holdableMembers_eq (depth : Nat) (members : List (Content × Json)) :
    holdableMembers depth members =
      members.all fun member => isSpelled member.1 && holdable depth member.2 := by
  induction members with
  | nil => rfl
  | cons member members ih => rw [holdableMembers, ih, List.all_cons]

theorem isSpelled_ofChars (characters : List Char) : isSpelled (Text.ofChars characters) = true := by
  rw [isSpelled, spelled?_ofChars]
  rfl

theorem inRange_natural {value : Nat} (small : value ≤ Text.word64Limit) :
    (Number.natural value).inRange = true := by
  have kept : Number.leadingDigits value 0 = (value, 0) := by
    rw [Number.leadingDigits, if_pos small]
  simp [Number.inRange, kept]

theorem holdable_of_plain {height depth : Nat} {json : Json} (plain : Plain height json)
    (room : depth + height ≤ depthLimit) : holdable depth json = true := by
  induction plain generalizing depth with
  | null | bool => rfl
  | natural height small => exact inRange_natural small
  | text height text => exact isSpelled_ofChars text.toList
  | array plain holds =>
    rw [holdable, holdableItems_eq, Bool.and_eq_true, List.all_eq_true, decide_eq_true_iff]
    exact ⟨by omega, fun item member => holds item member (by omega)⟩
  | object named plain holds =>
    rw [holdable, holdableMembers_eq, Bool.and_eq_true, List.all_eq_true, decide_eq_true_iff]
    refine ⟨by omega, fun member found => ?_⟩
    obtain ⟨name, spelled⟩ := named member found
    rw [spelled, isSpelled_ofChars, holds member found (by omega)]
    rfl

theorem Reach.Room.holds {height : Nat} {reach : Reach} (room : reach.Room height) {json : Json}
    (plain : Plain height json) : reach.holds json = true := by
  cases reach with
  | direct depth => exact holdable_of_plain plain room
  | held => rfl

/-! ### Members in any order -/

/-- A document that is plain and, but for the order of members, the one given. -/
def Renders (height : Nat) (json other : Json) : Prop := Plain height other ∧ Rearranged json other

structure Mirrors (height : Nat) (members found : Record) : Prop where
  distinct : (members.map (·.1)).Nodup
  names : (found.map (·.1)).Perm (members.map (·.1))
  values : ∀ name value, (name, value) ∈ members →
    ∃ other, (name, other) ∈ found ∧ Renders height value other
  plain : ∀ member ∈ found, Plain height member.2

def nameOf (key : Content) : String := String.ofList ((Text.spelled? key).getD [])

theorem nameOf_ofChars (name : String) : nameOf (Text.ofChars name.toList) = name := by
  rw [nameOf, spelled?_ofChars, Option.getD_some, String.ofList_toList]

theorem Renders.record {height : Nat} {members : Record} {json : Json}
    (renders : Renders (height + 1) (.record members) json)
    (distinct : (members.map (·.1)).Nodup) :
    ∃ found : Record, json = .record found ∧ Mirrors height members found := by
  obtain ⟨plain, rearranged⟩ := renders
  generalize written : Json.record members = document at rearranged
  cases rearranged with
  | null | bool | number | string | array => cases written
  | @object _ others mixed each order =>
    obtain rfl := Json.object.inj written
    obtain _ | _ | _ | _ | _ | ⟨named, plain⟩ := plain
    have kept : ∀ member ∈ mixed,
        (Text.ofChars (nameOf member.1).toList, member.2) = id member := by
      intro member found
      obtain ⟨name, spelled⟩ := named member found
      exact Prod.ext (by rw [spelled, nameOf_ofChars]; exact spelled.symm) rfl
    refine ⟨mixed.map fun member => (nameOf member.1, member.2), ?_, distinct, ?_, ?_, ?_⟩
    · rw [Json.record, List.map_map]
      exact congrArg Json.object ((List.map_id mixed).symm.trans (List.map_congr_left kept).symm)
    · have keys := congrArg (List.map nameOf) each.keys
      simp only [List.map_map, Function.comp_def, nameOf_ofChars] at keys
      rw [List.map_map, ← keys]
      exact order.map _
    · intro name value found
      obtain ⟨other, copied, same⟩ := each.exists_copy (List.mem_map_of_mem found)
      have here := order.mem_iff.mpr copied
      refine ⟨other, ?_, plain _ here, same⟩
      rw [← nameOf_ofChars name]
      exact List.mem_map_of_mem here
    · intro member found
      obtain ⟨original, here, rfl⟩ := List.mem_map.mp found
      exact plain original here

theorem lookup_of_mem {record : Record} (distinct : (record.map (·.1)).Nodup) {name : String}
    {value : Json} (member : (name, value) ∈ record) : record.lookup name = some value := by
  obtain ⟨front, back, rfl⟩ := List.append_of_mem member
  refine List.lookup_eq_some_iff.mpr ⟨front, back, rfl, fun other before => ?_⟩
  rw [List.map_append, List.map_cons, List.nodup_append] at distinct
  have apart := distinct.2.2 other.1 (List.mem_map_of_mem before) name List.mem_cons_self
  simpa using fun same => apart same.symm

theorem filter_of_mem {record : Record} (distinct : (record.map (·.1)).Nodup) {name : String}
    {value : Json} (member : (name, value) ∈ record) :
    record.filter (fun other => other.1 == name) = [(name, value)] := by
  obtain ⟨front, back, rfl⟩ := List.append_of_mem member
  rw [List.map_append, List.map_cons, List.nodup_append, List.nodup_cons] at distinct
  obtain ⟨_, ⟨absent, _⟩, apart⟩ := distinct
  rw [List.filter_append, List.filter_cons_of_pos (by simp), List.filter_eq_nil_iff.mpr,
    List.filter_eq_nil_iff.mpr, List.nil_append]
  · intro other after same
    exact absent (eq_of_beq same ▸ List.mem_map_of_mem (f := (·.1)) after)
  · intro other before same
    exact apart other.1 (List.mem_map_of_mem before) name List.mem_cons_self (eq_of_beq same)

namespace Mirrors

variable {height : Nat} {members found : Record}

theorem nodup (mirrors : Mirrors height members found) : (found.map (·.1)).Nodup :=
  mirrors.names.nodup_iff.mpr mirrors.distinct

theorem lookup (mirrors : Mirrors height members found) {name : String} {value : Json}
    (here : members.lookup name = some value) :
    ∃ other, found.lookup name = some other ∧ Renders height value other := by
  obtain ⟨front, back, rfl, _⟩ := List.lookup_eq_some_iff.mp here
  obtain ⟨other, copied, renders⟩ := mirrors.values name value (by simp)
  exact ⟨other, lookup_of_mem mirrors.nodup copied, renders⟩

theorem lookup_none (mirrors : Mirrors height members found) {name : String}
    (absent : members.lookup name = none) : found.lookup name = none := by
  rw [List.lookup_eq_none_iff] at absent ⊢
  intro member here
  obtain ⟨original, there, same⟩ :=
    List.mem_map.mp (mirrors.names.mem_iff.mp (List.mem_map_of_mem here))
  rw [← same]
  exact absent original there

theorem known_record {fields : List Field}
    (known : ∀ name ∈ found.map (·.1), name ∈ fields.map (·.name)) :
    Wire.known fields (found.map fun member => (Text.ofChars member.1.toList, member.2)) = found := by
  induction found with
  | nil => rfl
  | cons member found ih =>
    obtain ⟨here, others⟩ := List.forall_mem_cons.mp known
    have named : (fields.map (·.name)).contains member.1 = true := by simpa using here
    rw [Wire.known, List.map_cons, List.filterMap_cons]
    simp only [spelled?_ofChars, Option.bind_eq_bind, Option.bind_some, String.ofList_toList, named,
      if_true]
    exact congrArg (member :: ·) (ih others)

theorem all_isSpelled (record : Record) :
    (record.map fun member => (Text.ofChars member.1.toList, member.2)).all
      (fun member => isSpelled member.1) = true := by
  simp [isSpelled_ofChars]

theorem record? (mirrors : Mirrors height members found) (fields : List Field)
    (names : (members.map (·.1)).Sublist (fields.map (·.name))) :
    Wire.record? fields (.record found) = some found := by
  have all := known_record fun name member => names.subset (mirrors.names.mem_iff.mp member)
  rw [Json.record, Wire.record?]
  simp only [all]
  rw [if_pos ⟨all_isSpelled found, mirrors.nodup⟩]

theorem untag? {tag : String} {value : Json} (mirrors : Mirrors height ((tag, value) :: members) found)
    {reach : Reach} (room : reach.Room (height + 1)) :
    ∃ other rest, Wire.untag? tag reach (.record found) = some (other, .record rest) ∧
      Renders height value other ∧ Mirrors height members rest := by
  obtain ⟨other, here, renders⟩ := mirrors.values tag value List.mem_cons_self
  obtain ⟨absent, distinct⟩ := List.nodup_cons.mp mirrors.distinct
  refine ⟨other, found.filter fun member => member.1 != tag, ?_, renders, distinct, ?_, ?_, ?_⟩
  · have tags (member : String × Json) :
        (Text.ofChars member.1.toList == Text.ofChars tag.toList) = (member.1 == tag) :=
      Bool.eq_iff_iff.mpr (by simp [Text.ofChars, List.map_inj_right, String.toList_inj])
    have holds : ((found.filter fun member => member.1 != tag).map fun member =>
        (Text.ofChars member.1.toList, member.2)).all
          (fun member => reach.inner.holds member.2) = true := by
      simp only [List.all_map, List.all_eq_true, Function.comp_def]
      exact fun member kept => room.inner.holds (mirrors.plain member (List.mem_filter.mp kept).1)
    simp only [Json.record, Wire.untag?, List.filter_map, Function.comp_def, tags,
      filter_of_mem mirrors.nodup here]
    exact if_pos ⟨all_isSpelled found, holds⟩
  · have kept := mirrors.names.filter (· != tag)
    have others : (members.map (·.1)).filter (· != tag) = members.map (·.1) :=
      List.filter_eq_self.mpr fun name among => bne_iff_ne.mpr fun same => absent (same ▸ among)
    rw [List.map_cons, List.filter_cons_of_neg (by simp), others] at kept
    rwa [List.filter_map] at kept
  · intro name inside among
    obtain ⟨copy, copied, same⟩ := mirrors.values name inside (List.mem_cons_of_mem _ among)
    refine ⟨copy, List.mem_filter.mpr ⟨copied, ?_⟩, same⟩
    simpa using fun same : name = tag => absent (same ▸ List.mem_map_of_mem (f := (·.1)) among)
  · exact fun member kept => mirrors.plain member (List.mem_filter.mp kept).1

theorem pair {left right : String} {value inside : Json}
    (mirrors : Mirrors height [(left, value), (right, inside)] found) :
    left ≠ right ∧ ∃ one other, Renders height value one ∧ Renders height inside other ∧
      (found = [(left, one), (right, other)] ∨ found = [(right, other), (left, one)]) := by
  have apart : left ≠ right := by simpa using mirrors.distinct
  obtain ⟨one, first, rendersOne⟩ := mirrors.values left value (by simp)
  obtain ⟨other, second, rendersOther⟩ := mirrors.values right inside (by simp)
  refine ⟨apart, one, other, rendersOne, rendersOther, ?_⟩
  have size := mirrors.names.length_eq
  match found, size with
  | [front, back], _ =>
    have differ : (left, one) ≠ (right, other) := fun same => apart (congrArg (·.1) same)
    simp only [List.mem_cons, List.not_mem_nil, or_false] at first second
    rcases first with rfl | rfl
    · exact .inl (by rw [second.resolve_left differ.symm])
    · exact .inr (by rw [second.resolve_right differ.symm])

theorem split? {tag content : String} {value inside : Json}
    (mirrors : Mirrors height [(tag, value), (content, inside)] found) {reach : Reach}
    (room : reach.Room (height + 1)) :
    ∃ one other reachInside,
      Wire.split? tag content reach (.record found) = some (one, other, reachInside) ∧
      Renders height value one ∧ Renders height inside other ∧ reachInside.Room height := by
  have all : known [needed tag, needed content] _ = found :=
    known_record fun name member => mirrors.names.mem_iff.mp member
  obtain ⟨apart, one, other, rendersOne, rendersOther, order⟩ := mirrors.pair
  simp only [Json.record, Wire.split?, all]
  rw [if_pos (all_isSpelled found)]
  rcases order with rfl | rfl
  · exact ⟨one, other, reach.inner, if_pos ⟨rfl, rfl⟩, rendersOne, rendersOther, room.inner⟩
  · refine ⟨one, other, .held, (if_neg fun same => apart same.2).trans ?_, rendersOne, rendersOther,
      trivial⟩
    exact if_pos ⟨rfl, rfl, room.inner.holds rendersOther.1⟩

end Mirrors

theorem Renders.opened {height : Nat} {members : Record} {json : Json}
    (renders : Renders (height + 1) (.record members) json) (fields : List Field)
    (distinct : (fields.map (·.name)).Nodup)
    (names : (members.map (·.1)).Sublist (fields.map (·.name))) :
    ∃ found, record? fields json = some found ∧ Mirrors height members found := by
  obtain ⟨found, rfl, mirrors⟩ := renders.record (names.nodup distinct)
  exact ⟨found, mirrors.record? fields names, mirrors⟩

theorem Renders.untagged {height : Nat} {tag : String} {value json : Json} {members : Record}
    (renders : Renders (height + 1) (.record ((tag, value) :: members)) json) (names : List String)
    (distinct : (tag :: names).Nodup) (among : (members.map (·.1)).Sublist names) {reach : Reach}
    (room : reach.Room (height + 1)) :
    ∃ other rest, untag? tag reach json = some (other, .record rest) ∧ Renders height value other ∧
      Mirrors height members rest := by
  obtain ⟨found, rfl, mirrors⟩ := renders.record ((among.cons_cons tag).nodup distinct)
  exact mirrors.untag? room

theorem Renders.split? {height : Nat} {tag content : String} {value inside json : Json}
    (renders : Renders (height + 1) (.record [(tag, value), (content, inside)]) json)
    (apart : tag ≠ content) {reach : Reach} (room : reach.Room (height + 1)) :
    ∃ one other reachInside, Wire.split? tag content reach json = some (one, other, reachInside) ∧
      Renders height value one ∧ Renders height inside other ∧ reachInside.Room height := by
  obtain ⟨found, rfl, mirrors⟩ := renders.record (by simpa using apart)
  exact mirrors.split? room

theorem sublist_given {α : Type} (name : String) (write : α → Json) (value : Option α) :
    ((value.toList.map fun given => (name, write given)).map (·.1)).Sublist [name] := by
  cases value with
  | none => exact List.nil_sublist [name]
  | some value => exact .refl [name]

theorem lookup_given {α : Type} (name other : String) (write : α → Json) (value : Option α) :
    (value.toList.map fun given => (name, write given)).lookup other =
      if other = name then value.map write else none := by
  cases value with
  | none => simp
  | some value =>
    by_cases same : other = name
    · simp [same]
    · rw [if_neg same]
      exact List.lookup_eq_none_iff.mpr (by simpa using same)

/-! ### Readers that recover values -/

def Recovers {α : Type} (height : Nat) (read : Json → Option α) (json : Json) (value : α) : Prop :=
  ∀ other, Renders height json other → read other = some value

variable {α : Type} {height : Nat}

theorem recovers_text (text : String) : Recovers height text? (.text text) text := by
  rintro other ⟨_, rearranged⟩
  cases rearranged
  rw [text?, spelled?_ofChars, Option.map_some, String.ofList_toList]

theorem recovers_natural (value : Nat) : Recovers height natural? (.natural value) value := by
  rintro other ⟨plain, rearranged⟩
  cases rearranged
  cases plain with
  | natural _ small => exact if_pos small

theorem recovers_word (value : UInt32) : Recovers height word? (.word value) value := by
  rintro other ⟨plain, rearranged⟩
  cases rearranged
  exact (if_pos (Nat.le_of_lt_succ value.toNat_lt)).trans (congrArg some UInt32.ofNat_toNat)

theorem recovers_choice {names : List (String × α)} {name : String} {value : α}
    (known : names.lookup name = some value) (reach : Reach) :
    Recovers height (choice? names reach) (.text name) value := by
  rintro other ⟨_, rearranged⟩
  cases rearranged
  simp [choice?, spelled?_ofChars, known]

theorem recovers_tagged {names : List (String × α)} {name : String} {value : α}
    (known : names.lookup name = some value) (reach : Reach) :
    Recovers height (tagged? names reach) (.text name) value := by
  rintro other ⟨_, rearranged⟩
  cases rearranged
  simp [tagged?, spelled?_ofChars, known]

theorem recovers_list {read : Json → Option α} {write : α → Json} {values : List α}
    (recovers : ∀ value ∈ values, Recovers height read (write value) value) :
    Recovers (height + 1) (list? read) (.array (values.map write)) values := by
  rintro other ⟨plain, rearranged⟩
  obtain _ | _ | _ | _ | each := rearranged
  obtain _ | _ | _ | _ | plain := plain
  rename_i others
  show others.mapM read = some values
  induction values generalizing others with
  | nil =>
    cases each
    rfl
  | cons value values ih =>
    obtain _ | ⟨first, rest⟩ := each
    obtain ⟨plainFirst, plainRest⟩ := List.forall_mem_cons.mp plain
    obtain ⟨readsFirst, readsRest⟩ := List.forall_mem_cons.mp recovers
    rw [List.mapM_cons, readsFirst _ ⟨plainFirst, first⟩, ih readsRest rest plainRest]
    rfl

namespace Mirrors

variable {members found : Record} (mirrors : Mirrors height members found)
include mirrors

theorem required (name : String) {json : Json} (here : members.lookup name = some json)
    {read : Json → Option α} {value : α} (recovers : Recovers height read json value) :
    Record.required found name read = some value := by
  obtain ⟨other, copied, renders⟩ := mirrors.lookup here
  rw [Record.required, copied, Option.bind_some, recovers other renders]

theorem optional (name : String) {write : α → Json} {value : Option α}
    (here : members.lookup name = value.map write) {read : Json → Option α}
    (recovers : ∀ given, Recovers height read (write given) given)
    (present : ∀ given, write given ≠ .null) : Record.optional found name read = some value := by
  unfold Record.optional
  cases value with
  | none => rw [mirrors.lookup_none here]
  | some given =>
    obtain ⟨other, copied, renders⟩ := mirrors.lookup here
    rw [copied]
    have reads := recovers given other renders
    cases other with
    | null =>
      have same : write given = .null := by
        generalize write given = json at renders
        cases renders.2
        rfl
      exact absurd same (present given)
    | _ => exact congrArg (Option.map some) reads

end Mirrors

end DroneFleet.Wire
