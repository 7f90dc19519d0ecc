import DroneFleet.Json.Reader
import DroneFleet.Proofs.Json.Lexing

/-!
Documents and their tokens. A document is read from its own tokens (`ofTokens?_tokens`), and so from any
text that holds them with white space in between (`read?_spaced`), such as the one without any
(`spaced_compact`).
-/
namespace DroneFleet.Json

open Text

/-- What holds of the containers when it holds of all that is in them holds of every document. -/
@[induction_eliminator]
theorem induction {motive : Json → Prop} (null : motive .null)
    (bool : ∀ value, motive (.bool value)) (number : ∀ value, motive (.number value))
    (string : ∀ text, motive (.string text))
    (array : ∀ items, (∀ item ∈ items, motive item) → motive (.array items))
    (object : ∀ members, (∀ member ∈ members, motive member.2) → motive (.object members))
    (json : Json) : motive json :=
  @Json.rec motive (fun items => ∀ item ∈ items, motive item)
    (fun members => ∀ member ∈ members, motive member.2) (fun member => motive member.2)
    null bool number string array object nofun
    (fun _ _ first others => List.forall_mem_cons.mpr ⟨first, others⟩) nofun
    (fun _ _ first others => List.forall_mem_cons.mpr ⟨first, others⟩) (fun _ _ value => value) json

def Token.joined : List (List Token) → List Token
  | [] => []
  | [part] => part
  | part :: rest => part ++ .comma :: joined rest

mutual

def tokens : Json → List Token
  | null => [.null]
  | bool value => [.bool value]
  | number value => [.number value]
  | string text => [.string text]
  | array items => .openArray :: Token.joined (itemTokens items) ++ [.closeArray]
  | object members => .openObject :: Token.joined (memberTokens members) ++ [.closeObject]

def itemTokens : List Json → List (List Token)
  | [] => []
  | item :: rest => tokens item :: itemTokens rest

def memberTokens : List (Content × Json) → List (List Token)
  | [] => []
  | (key, value) :: rest => (.string key :: .colon :: tokens value) :: memberTokens rest

end

theorem Token.joined_cons (part next : List Token) (rest : List (List Token)) :
    joined (part :: next :: rest) = part ++ .comma :: joined (next :: rest) := by
  rw [joined]
  nofun

theorem itemTokens_eq (items : List Json) : itemTokens items = items.map tokens := by
  induction items with
  | nil => rfl
  | cons item items ih => rw [itemTokens, ih, List.map_cons]

theorem memberTokens_eq (members : List (Content × Json)) :
    memberTokens members =
      members.map fun member => .string member.1 :: .colon :: member.2.tokens := by
  induction members with
  | nil => rfl
  | cons member members ih => rw [memberTokens, ih, List.map_cons]

/-! ### Reading tokens -/

namespace Reader

/-- A list may begin with an item where it may end at once. -/
theorem run_firstItem (json : Json) (levels : List Level) (rest : List Token) :
    (firstItem levels).run (json.tokens ++ rest) =
      (value (.array [] :: levels)).run (json.tokens ++ rest) := by
  cases json <;> simp only [tokens] <;> rfl

def Reads (json : Json) : Prop :=
  ∀ levels rest, (value levels).run (json.tokens ++ rest) = (finished json levels).run rest

theorem run_itemTokens {items : List Json} (some : items ≠ []) (reads : ∀ item ∈ items, Reads item)
    (done : List Json) (levels : List Level) (rest : List Token) :
    (value (.array done :: levels)).run (Token.joined (itemTokens items) ++ .closeArray :: rest) =
      (finished (.array (done.reverse ++ items)) levels).run rest := by
  induction items generalizing done with
  | nil => exact absurd rfl some
  | cons item items ih =>
    obtain ⟨first, others⟩ := List.forall_mem_cons.mp reads
    cases items with
    | nil =>
      refine (first _ _).trans ?_
      show (finished (.array (item :: done).reverse) levels).run rest = _
      rw [List.reverse_cons]
    | cons next items =>
      rw [itemTokens, itemTokens, Token.joined_cons, List.append_assoc, first]
      refine (ih nofun others (item :: done)).trans ?_
      rw [List.reverse_cons, List.append_assoc]
      rfl

theorem run_memberTokens {members : List (Content × Json)} (some : members ≠ [])
    (reads : ∀ member ∈ members, Reads member.2) (done : List (Content × Json)) (levels : List Level)
    (rest : List Token) :
    (nextKey done levels).run (Token.joined (memberTokens members) ++ .closeObject :: rest) =
      (finished (.object (done.reverse ++ members)) levels).run rest := by
  induction members generalizing done with
  | nil => exact absurd rfl some
  | cons member members ih =>
    obtain ⟨key, item⟩ := member
    obtain ⟨first, others⟩ := List.forall_mem_cons.mp reads
    cases members with
    | nil =>
      refine (first (.object done key :: levels) (.closeObject :: rest)).trans ?_
      show (finished (.object ((key, item) :: done).reverse) levels).run rest = _
      rw [List.reverse_cons]
    | cons next members =>
      rw [memberTokens, memberTokens, Token.joined_cons, List.append_assoc]
      refine (first (.object done key :: levels) _).trans ?_
      refine (ih nofun others ((key, item) :: done)).trans ?_
      rw [List.reverse_cons, List.append_assoc]
      rfl

theorem reads_tokens (json : Json) : Reads json := by
  induction json with
  | null | bool | number | string => exact fun levels rest => rfl
  | array items reads =>
    intro levels rest
    match items with
    | [] => rfl
    | item :: items =>
      have written : (array (item :: items)).tokens ++ rest =
          .openArray :: (Token.joined (itemTokens (item :: items)) ++ .closeArray :: rest) := by
        simp [tokens]
      rw [written]
      refine Eq.trans ?_ (run_itemTokens (List.cons_ne_nil item items) reads [] levels rest)
      show (firstItem levels).run _ = _
      cases items with
      | nil => exact run_firstItem item levels _
      | cons next items =>
        rw [itemTokens, itemTokens, Token.joined_cons, List.append_assoc]
        exact run_firstItem item levels _
  | object members reads =>
    intro levels rest
    match members with
    | [] => rfl
    | (key, item) :: members =>
      have written : (object ((key, item) :: members)).tokens ++ rest =
          .openObject ::
            (Token.joined (memberTokens ((key, item) :: members)) ++ .closeObject :: rest) := by
        simp [tokens]
      rw [written]
      refine Eq.trans ?_ (run_memberTokens (List.cons_ne_nil (key, item) members) reads [] levels rest)
      show (firstKey levels).run _ = _
      cases members with
      | nil => rfl
      | cons next members =>
        rw [memberTokens, memberTokens, Token.joined_cons]
        rfl

end Reader

theorem ofTokens?_tokens (json : Json) : ofTokens? json.tokens = some json := by
  have whole := Reader.reads_tokens json [] []
  rw [List.append_nil] at whole
  rw [ofTokens?, whole]
  rfl

/-! ### Reading texts -/

/-- A document as a program writes it: texts have all their characters, numbers are whole and within 64
bits, and at most `height` containers are one inside the other. -/
inductive Plain : Nat → Json → Prop
  | null (height : Nat) : Plain height .null
  | bool (height : Nat) (value : Bool) : Plain height (.bool value)
  | natural (height : Nat) {value : Nat} (small : value ≤ word64Limit) :
      Plain height (.natural value)
  | text (height : Nat) (text : String) : Plain height (.text text)
  | array {height : Nat} {items : List Json} (plain : ∀ item ∈ items, Plain height item) :
      Plain (height + 1) (.array items)
  | object {height : Nat} {members : List (Content × Json)}
      (named : ∀ member ∈ members, ∃ name : String, member.1 = ofChars name.toList)
      (plain : ∀ member ∈ members, Plain height member.2) : Plain (height + 1) (.object members)

namespace Token

theorem parted_cons {token : Token} (sharp : token.isBare = false) {tokens : List Token}
    (parted : Parted tokens) : Parted (token :: tokens) := by
  cases tokens with
  | nil => trivial
  | cons next tokens => exact ⟨fun both => Bool.noConfusion (sharp.symm.trans both.1), parted⟩

theorem parted_append {mark : Token} (sharp : mark.isBare = false) {front back : List Token}
    (left : Parted front) (right : Parted back) : Parted (front ++ mark :: back) := by
  induction front with
  | nil => exact parted_cons sharp right
  | cons token front ih =>
    cases front with
    | nil => exact ⟨fun both => Bool.noConfusion (sharp.symm.trans both.2), parted_cons sharp right⟩
    | cons next front => exact ⟨left.1, ih left.2⟩

theorem parted_joined {parts : List (List Token)} (parted : ∀ part ∈ parts, Parted part) :
    Parted (joined parts) := by
  induction parts with
  | nil => trivial
  | cons part parts ih =>
    obtain ⟨first, others⟩ := List.forall_mem_cons.mp parted
    cases parts with
    | nil => exact first
    | cons next parts =>
      rw [joined_cons]
      exact parted_append rfl first (ih others)

theorem legible_joined {parts : List (List Token)}
    (legible : ∀ part ∈ parts, ∀ token ∈ part, token.Legible) :
    ∀ token ∈ joined parts, token.Legible := by
  induction parts with
  | nil => nofun
  | cons part parts ih =>
    obtain ⟨first, others⟩ := List.forall_mem_cons.mp legible
    cases parts with
    | nil => exact first
    | cons next parts =>
      rw [joined_cons, List.forall_mem_append, List.forall_mem_cons]
      exact ⟨first, trivial, ih others⟩

end Token

theorem parted_tokens (json : Json) : Token.Parted json.tokens := by
  induction json with
  | null | bool | number | string => trivial
  | array items parted =>
    rw [tokens, itemTokens_eq]
    have inside := Token.parted_joined (List.forall_mem_map.mpr parted)
    exact Token.parted_append rfl (Token.parted_cons rfl inside) trivial
  | object members parted =>
    rw [tokens, memberTokens_eq]
    have named (member) (here : member ∈ members) :
        Token.Parted (.string member.1 :: .colon :: member.2.tokens) :=
      Token.parted_cons rfl (Token.parted_cons rfl (parted member here))
    have inside := Token.parted_joined (List.forall_mem_map.mpr named)
    exact Token.parted_append rfl (Token.parted_cons rfl inside) trivial

theorem legible_tokens {height : Nat} {json : Json} (plain : Plain height json) :
    ∀ token ∈ json.tokens, token.Legible := by
  have closed {front : List Token} {first last : Token} (legible : ∀ token ∈ front, token.Legible)
      (begins : first.Legible) (ends : last.Legible) :
      ∀ token ∈ first :: front ++ [last], token.Legible := by
    rw [List.forall_mem_append, List.forall_mem_cons, List.forall_mem_singleton]
    exact ⟨⟨begins, legible⟩, ends⟩
  induction plain with
  | null | bool => exact List.forall_mem_singleton.mpr trivial
  | natural => exact List.forall_mem_singleton.mpr ⟨_, rfl⟩
  | text height text => exact List.forall_mem_singleton.mpr ⟨text.toList, rfl⟩
  | array plain legible =>
    rw [tokens, itemTokens_eq]
    exact closed (Token.legible_joined (List.forall_mem_map.mpr legible)) trivial trivial
  | object named plain legible =>
    rw [tokens, memberTokens_eq]
    refine closed (Token.legible_joined (List.forall_mem_map.mpr fun member here => ?_)) trivial trivial
    obtain ⟨name, spelled⟩ := named member here
    rw [List.forall_mem_cons, List.forall_mem_cons]
    exact ⟨⟨name.toList, spelled⟩, trivial, legible member here⟩

theorem Spaced.append {front back : List Token} {left right : List Char} (first : Spaced front left)
    (second : Spaced back right) : Spaced (front ++ back) (left ++ right) := by
  induction first with
  | nil => exact second
  | blank blank rest ih => exact .blank blank ih
  | token token rest ih =>
    rw [List.append_assoc]
    exact .token token ih

theorem spaced_token (token : Token) : Spaced [token] token.text := by
  have alone := Spaced.token token .nil
  rwa [List.append_nil] at alone

theorem spaced_items {items : List Json} (spaced : ∀ item ∈ items, Spaced item.tokens item.compact) :
    Spaced (Token.joined (itemTokens items)) (compactItems items) := by
  induction items with
  | nil => exact .nil
  | cons item items ih =>
    obtain ⟨first, others⟩ := List.forall_mem_cons.mp spaced
    cases items with
    | nil => exact first
    | cons next items => exact first.append (.token .comma (ih others))

theorem spaced_members {members : List (Content × Json)}
    (spaced : ∀ member ∈ members, Spaced member.2.tokens member.2.compact) :
    Spaced (Token.joined (memberTokens members)) (compactMembers members) := by
  induction members with
  | nil => exact .nil
  | cons member members ih =>
    obtain ⟨key, item⟩ := member
    obtain ⟨first, others⟩ := List.forall_mem_cons.mp spaced
    have named : Spaced (.string key :: .colon :: item.tokens) (quote key ++ ':' :: item.compact) :=
      .token (.string key) (.token .colon first)
    cases members with
    | nil => exact named
    | cons next members => exact named.append (.token .comma (ih others))

theorem spaced_compact (json : Json) : Spaced json.tokens json.compact := by
  induction json with
  | null => exact spaced_token .null
  | bool value => cases value <;> exact spaced_token (.bool _)
  | number value => exact spaced_token (.number value)
  | string text => exact spaced_token (.string text)
  | array items spaced =>
    exact .append (.token .openArray (spaced_items spaced)) (spaced_token .closeArray)
  | object members spaced =>
    exact .append (.token .openObject (spaced_members spaced)) (spaced_token .closeObject)

/-- A document is read from its tokens with any white space between them. -/
theorem read?_spaced {height : Nat} {json : Json} (plain : Plain height json) {text : List Char}
    (spaced : Spaced json.tokens text) : read? (ofChars text) = some json := by
  rw [read?, tokens?_spaced spaced (legible_tokens plain) (parted_tokens json)]
  exact ofTokens?_tokens json

end DroneFleet.Json
