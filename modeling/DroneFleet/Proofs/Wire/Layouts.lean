import DroneFleet.Frame
import DroneFleet.Proofs.Text.Encoding
import DroneFleet.Proofs.Wire.Response

/-!
The ways in which a document may be laid out. Members of objects may stand in any order, and white space
may stand between any two tokens (`Json.Arranged`), as it does in a document with one entry to a line
(`Json.spaced_pretty`). Requests, responses and envelopes come back from every layout
(`arranged_recovered`).
-/
namespace DroneFleet

namespace Json

/-- A text of a document with its members in some order, and with some white space between its
tokens. -/
def Arranged (json : Json) (text : String) : Prop :=
  ∃ other, Rearranged json other ∧ Spaced other.tokens text.toList

/-! ### One entry to a line -/

theorem Spaced.indented {tokens : List Token} {text : List Char} (depth : Nat)
    (rest : Spaced tokens text) : Spaced tokens (newLine depth ++ text) := by
  have shifted (count : Nat) : Spaced tokens (List.replicate count ' ' ++ text) := by
    induction count with
    | zero => exact rest
    | succ count ih => exact .blank rfl ih
  exact .blank rfl (shifted (2 * depth))

theorem spaced_prettyItems {depth : Nat} {items : List Json}
    (spaced : ∀ item ∈ items, Spaced item.tokens (item.pretty depth)) :
    Spaced (Token.joined (itemTokens items)) (prettyItems depth items) := by
  induction items with
  | nil => exact .nil
  | cons item items ih =>
    obtain ⟨first, others⟩ := List.forall_mem_cons.mp spaced
    cases items with
    | nil => exact first.indented depth
    | cons next items => exact (first.indented depth).append (.token .comma (ih others))

theorem spaced_prettyMembers {depth : Nat} {members : List (Content × Json)}
    (spaced : ∀ member ∈ members, Spaced member.2.tokens (member.2.pretty depth)) :
    Spaced (Token.joined (memberTokens members)) (prettyMembers depth members) := by
  induction members with
  | nil => exact .nil
  | cons member members ih =>
    obtain ⟨key, item⟩ := member
    obtain ⟨first, others⟩ := List.forall_mem_cons.mp spaced
    have named : Spaced (.string key :: .colon :: item.tokens)
        (newLine depth ++ quote key ++ ':' :: ' ' :: item.pretty depth) := by
      rw [List.append_assoc]
      exact Spaced.indented depth (.token (.string key) (.token .colon (.blank rfl first)))
    cases members with
    | nil => exact named
    | cons next members => exact named.append (.token .comma (ih others))

theorem spaced_pretty (json : Json) (depth : Nat) : Spaced json.tokens (json.pretty depth) := by
  induction json generalizing depth with
  | null => exact spaced_token .null
  | bool value => cases value <;> exact spaced_token (.bool _)
  | number value => exact spaced_token (.number value)
  | string text => exact spaced_token (.string text)
  | array items spaced =>
    cases items with
    | nil => exact .token .openArray (spaced_token .closeArray)
    | cons item items =>
      have inside := spaced_prettyItems fun item member => spaced item member (depth + 1)
      have closed := (spaced_token .closeArray).indented depth
      have whole : Spaced _ _ := .append (.token .openArray inside) closed
      rw [← List.append_assoc] at whole
      exact whole
  | object members spaced =>
    cases members with
    | nil => exact .token .openObject (spaced_token .closeObject)
    | cons member members =>
      have inside := spaced_prettyMembers fun member here => spaced member here (depth + 1)
      have closed := (spaced_token .closeObject).indented depth
      have whole : Spaced _ _ := .append (.token .openObject inside) closed
      rw [← List.append_assoc] at whole
      exact whole

theorem Rearranged.arranged {json other : Json} (rearranged : Rearranged json other) :
    Arranged json other.compactText ∧ Arranged json other.prettyText := by
  refine ⟨⟨other, rearranged, ?_⟩, other, rearranged, ?_⟩
  · rw [compactText, String.toList_ofList]
    exact spaced_compact other
  · rw [prettyText, String.toList_ofList]
    exact spaced_pretty other 0

end Json

namespace Wire

open Json

/-- A reader makes a value of a text, and also of the bytes of that text. -/
def ReadsAs {α : Type} (read : Json → Option α) (text : String) (value : α) : Prop :=
  (readText? text).bind read = some value ∧
    (readBytes? (Text.bytes text.toList)).bind read = some value

theorem Recovers.readsAs {α : Type} {height : Nat} {read : Json → Option α} {json : Json} {value : α}
    (recovers : Recovers height read json value) (plain : Plain height json) {text : String}
    (arranged : Arranged json text) : ReadsAs read text value := by
  obtain ⟨other, rearranged, spaced⟩ := arranged
  have kept : Plain height other := plain.rearranged rearranged
  have reads : read? (Text.ofChars text.toList) = some other := read?_spaced kept spaced
  have known : read other = some value := recovers other ⟨kept, rearranged⟩
  refine ⟨?_, ?_⟩
  · rw [readText?, reads, Option.bind_some, known]
  · rw [readBytes?, Text.symbols_bytes, reads, Option.bind_some, known]

/-- Requests, responses and envelopes are read from every layout of their documents, be their tags where
they may; one entry to a line is such a layout, in every order of the members. -/
theorem arranged_recovered :
    (∀ request : Request, (∀ number ∈ request.numbers, number ≤ Text.word64Limit) →
      ∀ text, Arranged request.toJson text → ReadsAs (Request.ofJson? (.direct 0)) text request) ∧
    (∀ response : Response, (∀ number ∈ response.numbers, number ≤ Text.word64Limit) →
      ∀ text, Arranged response.toJson text → ReadsAs (Response.ofJson? (.direct 0)) text response) ∧
    (∀ envelope : Envelope, (∀ number ∈ envelope.numbers, number ≤ Text.word64Limit) →
      ∀ text, Arranged envelope.toJson text → ReadsAs Envelope.ofJson? text envelope ∧
        Frame.decodeBody (Text.bytes text.toList) = .ok envelope) ∧
    ∀ json other, Rearranged json other →
      Arranged json other.compactText ∧ Arranged json other.prettyText := by
  refine ⟨fun request small text arranged => ?_, fun response small text arranged => ?_,
    fun envelope small text arranged => ?_, fun json other rearranged => rearranged.arranged⟩
  · have room : (Reach.direct 0).Room 4 := (by decide : 0 + 4 ≤ depthLimit)
    exact (@Request.recovers 0 _ room request).readsAs (Request.plain small) arranged
  · have room : (Reach.direct 0).Room 6 := (by decide : 0 + 6 ≤ depthLimit)
    exact (@Response.recovers 0 _ room response).readsAs (Response.plain small) arranged
  · have reads := (Envelope.recovers envelope).readsAs (Envelope.plain small) arranged
    exact ⟨reads, by rw [Frame.decodeBody, reads.2]⟩

def spelling : Envelope := ⟨⟨"pilot", 3, 0⟩, .request (.droneCommands 5 (.elements ["A", "L"]))⟩

/-- The same with all members the other way round, so that each tag comes last. -/
def spellingBackwards : Json :=
  .record
    [("payload", .record
        [("body", .record
            [("commands", .array [.text "A", .text "L"]), ("droneId", .natural 5),
              ("op", .text "drone_commands")]),
          ("kind", .text "request")]),
      ("header", .record
        [("timestamp_ms", .natural 0), ("sequence_id", .natural 3), ("client_id", .text "pilot")])]

theorem arranged_recovered_backwards :
    (∀ number ∈ spelling.numbers, number ≤ Text.word64Limit) ∧
      Arranged spelling.toJson spellingBackwards.prettyText ∧
      Frame.decodeBody (Text.bytes spellingBackwards.prettyText.toList) = .ok spelling := by
  have small : ∀ number ∈ spelling.numbers, number ≤ Text.word64Limit := by decide
  have turned {members : List (Content × Json)} {others : List (Content × Json)}
      (each : RearrangedMembers members others) : Rearranged (.object members) (.object others.reverse) :=
    .object each (List.reverse_perm others)
  have backwards : Rearranged spelling.toJson spellingBackwards :=
    turned (.cons _ (turned (.refl fun _ _ => .refl _))
      (.cons _ (turned (.cons _ (.refl _) (.cons _ (turned (.refl fun _ _ => .refl _)) .nil))) .nil))
  obtain ⟨_, _, envelopes, prints⟩ := arranged_recovered
  have arranged := (prints _ _ backwards).2
  exact ⟨small, arranged, (envelopes spelling small _ arranged).2⟩

end Wire

end DroneFleet
