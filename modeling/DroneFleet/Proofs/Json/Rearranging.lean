import DroneFleet.Proofs.Json.Reading

/-!
Documents that differ in the order of the members of their objects alone. What a program writes stays
plain in every order (`Plain.rearranged`).
-/
namespace DroneFleet.Json

mutual

/-- The same document with the members of its objects, at any depth, in some order. -/
inductive Rearranged : Json → Json → Prop
  | null : Rearranged .null .null
  | bool (value : Bool) : Rearranged (.bool value) (.bool value)
  | number (value : Number) : Rearranged (.number value) (.number value)
  | string (text : Content) : Rearranged (.string text) (.string text)
  | array {items others : List Json} (each : RearrangedItems items others) :
      Rearranged (.array items) (.array others)
  | object {members others mixed : List (Content × Json)} (each : RearrangedMembers members others)
      (order : mixed.Perm others) : Rearranged (.object members) (.object mixed)

inductive RearrangedItems : List Json → List Json → Prop
  | nil : RearrangedItems [] []
  | cons {item other : Json} {items others : List Json} (first : Rearranged item other)
      (rest : RearrangedItems items others) : RearrangedItems (item :: items) (other :: others)

inductive RearrangedMembers : List (Content × Json) → List (Content × Json) → Prop
  | nil : RearrangedMembers [] []
  | cons (key : Content) {value other : Json} {members others : List (Content × Json)}
      (first : Rearranged value other) (rest : RearrangedMembers members others) :
      RearrangedMembers ((key, value) :: members) ((key, other) :: others)

end

theorem RearrangedItems.refl {items : List Json} (same : ∀ item ∈ items, Rearranged item item) :
    RearrangedItems items items := by
  induction items with
  | nil => exact .nil
  | cons item items ih =>
    obtain ⟨first, others⟩ := List.forall_mem_cons.mp same
    exact .cons first (ih others)

theorem RearrangedMembers.refl {members : List (Content × Json)}
    (same : ∀ member ∈ members, Rearranged member.2 member.2) : RearrangedMembers members members := by
  induction members with
  | nil => exact .nil
  | cons member members ih =>
    obtain ⟨first, others⟩ := List.forall_mem_cons.mp same
    exact .cons member.1 first (ih others)

theorem Rearranged.refl (json : Json) : Rearranged json json := by
  induction json with
  | null => exact .null
  | bool value => exact .bool value
  | number value => exact .number value
  | string text => exact .string text
  | array items same => exact .array (.refl same)
  | object members same => exact .object (.refl same) (.refl members)

theorem RearrangedItems.forall_mem {motive : Json → Prop} {items others : List Json}
    (each : RearrangedItems items others)
    (kept : ∀ item ∈ items, ∀ other, Rearranged item other → motive other) :
    ∀ other ∈ others, motive other := by
  induction items generalizing others with
  | nil =>
    cases each
    nofun
  | cons item items ih =>
    obtain _ | ⟨first, rest⟩ := each
    obtain ⟨head, tail⟩ := List.forall_mem_cons.mp kept
    exact List.forall_mem_cons.mpr ⟨head _ first, ih rest tail⟩

theorem RearrangedMembers.exists_original {members others : List (Content × Json)}
    (each : RearrangedMembers members others) {other : Content × Json} (found : other ∈ others) :
    ∃ value, (other.1, value) ∈ members ∧ Rearranged value other.2 := by
  induction members generalizing others with
  | nil =>
    cases each
    cases found
  | cons member members ih =>
    obtain _ | ⟨key, first, rest⟩ := each
    rcases List.mem_cons.mp found with rfl | later
    · exact ⟨_, List.mem_cons_self, first⟩
    · obtain ⟨value, here, same⟩ := ih rest later
      exact ⟨value, List.mem_cons_of_mem _ here, same⟩

theorem RearrangedMembers.exists_copy {members others : List (Content × Json)}
    (each : RearrangedMembers members others) {key : Content} {value : Json}
    (found : (key, value) ∈ members) : ∃ other, (key, other) ∈ others ∧ Rearranged value other := by
  induction members generalizing others with
  | nil => cases found
  | cons member members ih =>
    obtain _ | ⟨_, first, rest⟩ := each
    rcases List.mem_cons.mp found with same | later
    · cases same
      exact ⟨_, List.mem_cons_self, first⟩
    · obtain ⟨other, here, same⟩ := ih rest later
      exact ⟨other, List.mem_cons_of_mem _ here, same⟩

theorem RearrangedMembers.keys {members others : List (Content × Json)}
    (each : RearrangedMembers members others) : others.map (·.1) = members.map (·.1) := by
  induction members generalizing others with
  | nil =>
    cases each
    rfl
  | cons member members ih =>
    obtain _ | ⟨key, first, rest⟩ := each
    rw [List.map_cons, List.map_cons, ih rest]

theorem Plain.rearranged {height : Nat} {json other : Json} (plain : Plain height json)
    (rearranged : Rearranged json other) : Plain height other := by
  induction plain generalizing other with
  | null height =>
    cases rearranged
    exact .null height
  | bool height value =>
    cases rearranged
    exact .bool height value
  | natural height small =>
    cases rearranged
    exact .natural height small
  | text height text =>
    cases rearranged
    exact .text height text
  | array plain kept =>
    cases rearranged with
    | array each => exact .array (each.forall_mem kept)
  | object named plain kept =>
    cases rearranged with
    | object each order =>
      refine .object (fun member found => ?_) fun member found => ?_
      · obtain ⟨value, here, _⟩ := each.exists_original (order.mem_iff.mp found)
        exact named (member.1, value) here
      · obtain ⟨value, here, same⟩ := each.exists_original (order.mem_iff.mp found)
        exact kept (member.1, value) here same

end DroneFleet.Json
