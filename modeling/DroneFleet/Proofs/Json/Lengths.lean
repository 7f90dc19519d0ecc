import DroneFleet.Json.Printer
import Mathlib.Algebra.Order.BigOperators.Group.List

/-!
How long a document is at least: as long as anything inside it, and as long as its texts.
-/
namespace DroneFleet

theorem Text.length_le_flatMap {α β : Type} {write : α → List β}
    (some : ∀ value, 1 ≤ (write value).length) (values : List α) : values.length ≤ (values.flatMap write).length := by
  rw [List.length_flatMap]
  refine Nat.le_trans (Nat.le_of_eq (List.length_map _).symm) (List.length_le_sum_of_one_le _ ?_)
  intro length member
  obtain ⟨value, _, rfl⟩ := List.mem_map.mp member
  exact some value

theorem Text.length_le_bytes (text : List Char) : text.length ≤ (bytes text).length :=
  length_le_flatMap (fun character => by
    rw [String.length_utf8EncodeChar]
    exact character.utf8Size_pos) text

namespace Json

theorem one_le_escapeSymbol (symbol : Text.Symbol) : 1 ≤ (escapeSymbol symbol).length := by
  cases symbol with
  | none => exact Nat.le_refl 1
  | some character =>
    simp only [escapeSymbol, escapeChar]
    split
    case h_8 => split <;> simp
    all_goals simp

theorem length_le_compact_text (text : String) :
    text.toList.length ≤ (compact (.text text)).length := by
  have kept := Text.length_le_flatMap one_le_escapeSymbol (Text.ofChars text.toList)
  rw [show (Text.ofChars text.toList).length = _ from List.length_map _] at kept
  simp only [Json.text, compact, quote, List.length_append, List.length_cons]
  omega

theorem length_le_compactItems {item : Json} {items : List Json} (member : item ∈ items) :
    item.compact.length ≤ (compactItems items).length := by
  induction items with
  | nil => cases member
  | cons first rest ih =>
    rcases List.mem_cons.mp member with rfl | behind
    · cases rest <;> simp [compactItems]
    · have further := ih behind
      cases rest with
      | nil => cases behind
      | cons second rest =>
        simp only [compactItems, List.length_append, List.length_cons]
        omega

theorem length_le_compactMembers {key : Content} {value : Json} {members : List (Content × Json)}
    (member : (key, value) ∈ members) :
    value.compact.length ≤ (compactMembers members).length := by
  induction members with
  | nil => cases member
  | cons first rest ih =>
    rcases List.mem_cons.mp member with rfl | behind
    · cases rest <;> simp [compactMembers] <;> omega
    · have further := ih behind
      cases rest with
      | nil => cases behind
      | cons second rest =>
        simp only [compactMembers, List.length_append, List.length_cons]
        omega

theorem length_le_compact_array {item : Json} {items : List Json} (member : item ∈ items) :
    item.compact.length ≤ (compact (array items)).length := by
  have inside := length_le_compactItems member
  simp only [compact, List.length_append, List.length_cons]
  omega

theorem length_le_compact_record {key : String} {value : Json} {members : List (String × Json)}
    (member : (key, value) ∈ members) : value.compact.length ≤ (compact (record members)).length := by
  have listed : (Text.ofChars key.toList, value) ∈
      members.map fun member => (Text.ofChars member.1.toList, member.2) :=
    List.mem_map_of_mem member
  have inside := length_le_compactMembers listed
  simp only [record, compact, List.length_append, List.length_cons]
  omega

end Json

end DroneFleet
