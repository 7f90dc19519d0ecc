/-!
Finite maps kept as their entries in strictly increasing key order. Each map has exactly one such
list, so two tables with the same look-ups are equal (`Table.ext_get?`).
-/
namespace DroneFleet

structure Table (κ α : Type) [Ord κ] where
  entries : List (κ × α)
  sorted : entries.Pairwise fun a b => compare a.1 b.1 = .lt

namespace Table

variable {κ α : Type} [Ord κ]

def empty : Table κ α := ⟨[], .nil⟩

instance : EmptyCollection (Table κ α) := ⟨empty⟩

instance : Inhabited (Table κ α) := ⟨empty⟩

def put (key : κ) (value : α) : List (κ × α) → List (κ × α)
  | [] => [(key, value)]
  | (other, old) :: rest =>
    match compare key other with
    | .lt => (key, value) :: (other, old) :: rest
    | .eq => (key, value) :: rest
    | .gt => (other, old) :: put key value rest

theorem mem_put {key : κ} {value : α} {entries : List (κ × α)} {entry : κ × α}
    (member : entry ∈ put key value entries) : entry = (key, value) ∨ entry ∈ entries := by
  induction entries with
  | nil => exact .inl (List.mem_singleton.mp member)
  | cons head rest ih =>
    obtain ⟨other, old⟩ := head
    simp only [put] at member
    split at member
    · rcases List.mem_cons.mp member with same | inside
      · exact .inl same
      · exact .inr inside
    · rcases List.mem_cons.mp member with same | inside
      · exact .inl same
      · exact .inr (List.mem_cons_of_mem _ inside)
    · rcases List.mem_cons.mp member with same | inside
      · exact .inr (same ▸ List.mem_cons_self)
      · exact (ih inside).imp id (List.mem_cons_of_mem _)

theorem length_put (key : κ) (value : α) (entries : List (κ × α)) :
    (put key value entries).length ≤ entries.length + 1 := by
  induction entries with
  | nil => exact Nat.le_refl _
  | cons head rest ih =>
    simp only [put]
    split
    · exact Nat.le_refl _
    · exact Nat.le_succ _
    · exact Nat.succ_le_succ ih

variable [Std.TransOrd κ] [Std.LawfulEqOrd κ]

theorem sorted_put (key : κ) (value : α) (entries : List (κ × α))
    (sorted : entries.Pairwise fun a b => compare a.1 b.1 = .lt) :
    (put key value entries).Pairwise fun a b => compare a.1 b.1 = .lt := by
  induction entries with
  | nil => exact List.pairwise_singleton _ _
  | cons head rest ih =>
    obtain ⟨other, old⟩ := head
    have above := (List.pairwise_cons.mp sorted).1
    have tail := (List.pairwise_cons.mp sorted).2
    simp only [put]
    split
    · rename_i less
      refine List.pairwise_cons.mpr ⟨fun entry member => ?_, sorted⟩
      rcases List.mem_cons.mp member with same | inside
      · exact same ▸ less
      · exact Std.TransCmp.lt_trans less (above entry inside)
    · rename_i same
      have equal := Std.LawfulEqCmp.eq_of_compare same
      exact List.pairwise_cons.mpr ⟨fun entry member => equal ▸ above entry member, tail⟩
    · rename_i greater
      refine List.pairwise_cons.mpr ⟨fun entry member => ?_, ih tail⟩
      rcases mem_put member with same | inside
      · exact same ▸ Std.OrientedCmp.gt_iff_lt.mp greater
      · exact above entry inside

def insert (table : Table κ α) (key : κ) (value : α) : Table κ α :=
  ⟨put key value table.entries, sorted_put key value table.entries table.sorted⟩

def keys (table : Table κ α) : List κ := table.entries.map (·.1)

def values (table : Table κ α) : List α := table.entries.map (·.2)

def size (table : Table κ α) : Nat := table.entries.length

def isEmpty (table : Table κ α) : Bool := table.entries.isEmpty

omit [Std.TransOrd κ] [Std.LawfulEqOrd κ] in
@[simp] theorem length_keys (table : Table κ α) : table.keys.length = table.size := List.length_map _

theorem size_insert_le (table : Table κ α) (key : κ) (value : α) :
    (table.insert key value).size ≤ table.size + 1 :=
  length_put key value table.entries

variable [DecidableEq κ]

def lookup (key : κ) : List (κ × α) → Option α
  | [] => none
  | (other, value) :: rest => if key = other then some value else lookup key rest

def get? (table : Table κ α) (key : κ) : Option α := lookup key table.entries

def contains (table : Table κ α) (key : κ) : Bool := (table.get? key).isSome

def erase (table : Table κ α) (key : κ) : Table κ α :=
  ⟨table.entries.filter (key ≠ ·.1), table.sorted.filter _⟩

omit [Std.LawfulEqOrd κ] in
theorem lookup_eq_none_of_below {key : κ} {entries : List (κ × α)}
    (below : ∀ entry ∈ entries, compare key entry.1 = .lt) : lookup key entries = none := by
  induction entries with
  | nil => rfl
  | cons head rest ih =>
    have first := below head List.mem_cons_self
    have different : key ≠ head.1 := by
      intro equal
      simp [← equal] at first
    simp only [lookup, different, if_false]
    exact ih fun entry member => below entry (List.mem_cons_of_mem _ member)

omit [Std.TransOrd κ] in
theorem lookup_put (key other : κ) (value : α) (entries : List (κ × α)) :
    lookup other (put key value entries) =
      if other = key then some value else lookup other entries := by
  induction entries with
  | nil => rfl
  | cons head rest ih =>
    obtain ⟨present, old⟩ := head
    simp only [put]
    split
    · rfl
    · rename_i same
      have equal := Std.LawfulEqCmp.eq_of_compare same
      subst equal
      simp only [lookup]
      split <;> rfl
    · rename_i greater
      have different : key ≠ present := by
        intro equal
        simp [equal] at greater
      simp only [lookup, ih]
      by_cases atHead : other = present
      · subst atHead
        simp [Ne.symm different]
      · simp [atHead]

omit [Std.TransOrd κ] [Std.LawfulEqOrd κ] in
@[simp] theorem get?_empty (key : κ) : (empty : Table κ α).get? key = none := rfl

theorem get?_insert (table : Table κ α) (key other : κ) (value : α) :
    (table.insert key value).get? other = if other = key then some value else table.get? other :=
  lookup_put key other value table.entries

omit [Std.TransOrd κ] [Std.LawfulEqOrd κ] in
theorem get?_erase (table : Table κ α) (key other : κ) :
    (table.erase key).get? other = if other = key then none else table.get? other := by
  simp only [get?, erase]
  induction table.entries with
  | nil => simp [lookup]
  | cons head rest ih =>
    obtain ⟨present, old⟩ := head
    by_cases gone : key = present
    · subst gone
      simp only [ne_eq, not_true_eq_false, decide_false, Bool.false_eq_true, not_false_eq_true,
        List.filter_cons_of_neg] at ih ⊢
      rw [ih]
      simp only [lookup]
      split <;> rfl
    · simp only [ne_eq, gone, not_false_eq_true, decide_true, List.filter_cons_of_pos, lookup] at ih ⊢
      rw [ih]
      by_cases atHead : other = present
      · subst atHead
        simp [Ne.symm gone]
      · simp [atHead]

private theorem entries_eq_of_lookup (left right : List (κ × α))
    (leftSorted : left.Pairwise fun a b => compare a.1 b.1 = .lt)
    (rightSorted : right.Pairwise fun a b => compare a.1 b.1 = .lt)
    (alike : ∀ key, lookup key left = lookup key right) : left = right := by
  induction left generalizing right with
  | nil =>
    cases right with
    | nil => rfl
    | cons head rest => simpa [lookup] using alike head.1
  | cons head rest ih =>
    obtain ⟨key, value⟩ := head
    have above := (List.pairwise_cons.mp leftSorted).1
    cases right with
    | nil => simpa [lookup] using alike key
    | cons other others =>
      obtain ⟨key', value'⟩ := other
      have above' := (List.pairwise_cons.mp rightSorted).1
      have keysEqual : key = key' := by
        match order : compare key key' with
        | .eq => exact Std.LawfulEqCmp.eq_of_compare order
        | .lt =>
          have missing : lookup key ((key', value') :: others) = none :=
            lookup_eq_none_of_below fun entry member => by
              rcases List.mem_cons.mp member with same | inside
              · exact same ▸ order
              · exact Std.TransCmp.lt_trans order (above' entry inside)
          have found := alike key
          rw [missing] at found
          simp [lookup] at found
        | .gt =>
          have flipped := Std.OrientedCmp.gt_iff_lt.mp order
          have missing : lookup key' ((key, value) :: rest) = none :=
            lookup_eq_none_of_below fun entry member => by
              rcases List.mem_cons.mp member with same | inside
              · exact same ▸ flipped
              · exact Std.TransCmp.lt_trans flipped (above entry inside)
          have found := alike key'
          rw [missing] at found
          simp [lookup] at found
      subst keysEqual
      have valuesEqual : value = value' := by simpa [lookup] using alike key
      subst valuesEqual
      rw [ih others (List.pairwise_cons.mp leftSorted).2 (List.pairwise_cons.mp rightSorted).2]
      intro probe
      by_cases atHead : probe = key
      · subst atHead
        rw [lookup_eq_none_of_below above, lookup_eq_none_of_below above']
      · simpa [lookup, atHead] using alike probe

theorem ext_get? {left right : Table κ α} (alike : ∀ key, left.get? key = right.get? key) :
    left = right := by
  obtain ⟨leftEntries, leftSorted⟩ := left
  obtain ⟨rightEntries, rightSorted⟩ := right
  have := entries_eq_of_lookup leftEntries rightEntries leftSorted rightSorted alike
  subst this
  rfl

omit [Std.LawfulEqOrd κ] in
private theorem lookup_eq_some_iff_mem {entries : List (κ × α)}
    (sorted : entries.Pairwise fun a b => compare a.1 b.1 = .lt) (key : κ) (value : α) :
    lookup key entries = some value ↔ (key, value) ∈ entries := by
  induction entries with
  | nil => simp [lookup]
  | cons head rest ih =>
    obtain ⟨other, old⟩ := head
    obtain ⟨above, tail⟩ := List.pairwise_cons.mp sorted
    by_cases atHead : key = other
    · subst atHead
      have absent : (key, value) ∉ rest := by
        intro member
        have less : compare key key = .lt := above _ member
        simp at less
      simp [lookup, absent, eq_comm]
    · simp [lookup, atHead, ih tail]

omit [Std.LawfulEqOrd κ] in
theorem mem_entries {table : Table κ α} {key : κ} {value : α} :
    (key, value) ∈ table.entries ↔ table.get? key = some value :=
  (lookup_eq_some_iff_mem table.sorted key value).symm

omit [Std.LawfulEqOrd κ] in
@[simp] theorem mem_values {table : Table κ α} {value : α} :
    value ∈ table.values ↔ ∃ key, table.get? key = some value := by
  simp only [values, List.mem_map, Prod.exists, exists_eq_right, mem_entries]

omit [Std.LawfulEqOrd κ] in
@[simp] theorem mem_keys {table : Table κ α} {key : κ} :
    key ∈ table.keys ↔ ∃ value, table.get? key = some value := by
  simp only [keys, List.mem_map, Prod.exists, exists_and_right, exists_eq_right, mem_entries]

omit [Std.TransOrd κ] [DecidableEq κ] in
theorem nodup_keys (table : Table κ α) : table.keys.Nodup := by
  refine List.pairwise_map.mpr (table.sorted.imp ?_)
  intro first second less same
  simp [same] at less

omit [Std.TransOrd κ] [DecidableEq κ] in
theorem size_le_of_subset {β : Type} {small : Table κ α} {large : Table κ β}
    (subset : small.keys ⊆ large.keys) : small.size ≤ large.size := by
  rw [← length_keys small, ← length_keys large]
  exact small.nodup_keys.length_le_of_subset subset

omit [Std.TransOrd κ] [Std.LawfulEqOrd κ] in
theorem contains_iff {table : Table κ α} {key : κ} :
    table.contains key = true ↔ ∃ value, table.get? key = some value :=
  Option.isSome_iff_exists

theorem contains_insert (table : Table κ α) (key other : κ) (value : α) :
    (table.insert key value).contains other = (decide (other = key) || table.contains other) := by
  by_cases same : other = key <;> simp [contains, get?_insert, same]

omit [Std.TransOrd κ] [Std.LawfulEqOrd κ] in
theorem size_erase_le (table : Table κ α) (key : κ) : (table.erase key).size ≤ table.size :=
  List.length_filter_le _ _

omit [Std.TransOrd κ] [Std.LawfulEqOrd κ] in
theorem contains_erase (table : Table κ α) (key other : κ) :
    (table.erase key).contains other = (decide (other ≠ key) && table.contains other) := by
  by_cases same : other = key <;> simp [contains, get?_erase, same]

omit [Std.LawfulEqOrd κ] in
theorem isEmpty_iff {table : Table κ α} :
    table.isEmpty = true ↔ ∀ key, table.get? key = none := by
  constructor
  · intro empty key
    have none : table.entries = [] := List.isEmpty_iff.mp empty
    simp [get?, none, lookup]
  · intro none
    apply List.isEmpty_iff.mpr
    apply List.eq_nil_iff_forall_not_mem.mpr
    intro entry member
    have found := mem_entries.mp member
    simp [none] at found

theorem insert_erase (table : Table κ α) (key : κ) (value : α) :
    (table.erase key).insert key value = table.insert key value := by
  apply ext_get?
  intro other
  by_cases same : other = key <;> simp [get?_insert, get?_erase, same]

theorem insert_eq_self {table : Table κ α} {key : κ} {value : α}
    (found : table.get? key = some value) : table.insert key value = table := by
  apply ext_get?
  intro other
  by_cases same : other = key <;> simp [get?_insert, same, found]

theorem insert_insert (table : Table κ α) (key : κ) (first second : α) :
    (table.insert key first).insert key second = table.insert key second := by
  apply ext_get?
  intro other
  by_cases same : other = key <;> simp [get?_insert, same]

theorem insert_comm (table : Table κ α) {key other : κ} (different : key ≠ other) (value second : α) :
    (table.insert key value).insert other second = (table.insert other second).insert key value := by
  apply ext_get?
  intro looked
  by_cases same : looked = key
  · subst same
    simp [get?_insert, different]
  · simp [get?_insert, same]

end Table

end DroneFleet
