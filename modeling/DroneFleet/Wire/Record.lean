import DroneFleet.Json.Basic

/-!
How values are laid out in documents: records by member name or in order, names out of a fixed
choice, and alternatives that a tag tells apart. A value that has to be kept until its tag is known is
held: it is read as a whole first, which asks more of it than being skipped would.
-/
namespace DroneFleet.Wire

/-- How a value is met: in the document itself, inside so many containers, or among values held. -/
inductive Reach where
  | direct (depth : Nat)
  | held
deriving DecidableEq, Repr

def Reach.inner : Reach → Reach
  | direct depth => direct (depth + 1)
  | held => held

/-- How many containers around a value can be held. -/
def depthLimit : Nat := 127

def isSpelled (text : Content) : Bool := (Text.spelled? text).isSome

mutual

/-- A value inside `depth` containers can be held if its texts have all their characters, its numbers
are in range and it does not nest too deep. -/
def holdable (depth : Nat) : Json → Bool
  | .null => true
  | .bool _ => true
  | .number number => number.inRange
  | .string text => isSpelled text
  | .array items => depth < depthLimit && holdableItems (depth + 1) items
  | .object members => depth < depthLimit && holdableMembers (depth + 1) members

def holdableItems (depth : Nat) : List Json → Bool
  | [] => true
  | item :: rest => holdable depth item && holdableItems depth rest

def holdableMembers (depth : Nat) : List (Content × Json) → Bool
  | [] => true
  | (key, value) :: rest => isSpelled key && holdable depth value && holdableMembers depth rest

end

def Reach.holds : Reach → Json → Bool
  | direct depth, json => holdable depth json
  | held, _ => true

def text? : Json → Option String
  | .string content => (Text.spelled? content).map String.ofList
  | _ => none

def natural? : Json → Option Nat
  | .number (.natural value) => if value ≤ Text.word64Limit then some value else none
  | _ => none

def word? : Json → Option UInt32
  | .number (.natural value) =>
    if value ≤ Text.word32Limit then some (UInt32.ofNat value) else none
  | _ => none

def list? {α : Type} (read : Json → Option α) : Json → Option (List α)
  | .array items => items.mapM read
  | _ => none

/-- A field of a record. A spare field may be left out at the end of a record without names. -/
structure Field where
  name : String
  spare : Bool
deriving DecidableEq, Repr

def needed (name : String) : Field := ⟨name, false⟩

def spare (name : String) : Field := ⟨name, true⟩

abbrev Record := List (String × Json)

def known (fields : List Field) (members : List (Content × Json)) : Record :=
  members.filterMap fun member => do
    let name := String.ofList (← Text.spelled? member.1)
    if (fields.map (·.name)).contains name then some (name, member.2) else none

/-- The record that an object or a list holds. Every member has a proper name and no field is given
twice; a list has its fields in order and nothing else. -/
def record? (fields : List Field) : Json → Option Record
  | .object members =>
    let found := known fields members
    if members.all (fun member => isSpelled member.1) ∧ (found.map (·.1)).Nodup then some found
    else none
  | .array items =>
    if items.length ≤ fields.length ∧ (fields.drop items.length).all (·.spare) then
      some ((fields.map (·.name)).zip items)
    else none
  | _ => none

def Record.required {α : Type} (record : Record) (name : String) (read : Json → Option α) :
    Option α :=
  (record.lookup name).bind read

def Record.optional {α : Type} (record : Record) (name : String) (read : Json → Option α) :
    Option (Option α) :=
  match record.lookup name with
  | none => some none
  | some .null => some none
  | some value => (read value).map some

/-- One of several named values: its name, or an object with nothing but nothing under its name. -/
def choice? {α : Type} (names : List (String × α)) (reach : Reach) : Json → Option α
  | .string content => do names.lookup (String.ofList (← Text.spelled? content))
  | .object [(key, value)] => do
    let chosen ← names.lookup (String.ofList (← Text.spelled? key))
    match value, reach with
    | .null, _ => return chosen
    | .object [], .held => return chosen
    | _, _ => none
  | _ => none

/-- The value of a tag: a name, or the place of the name in the list when the tag has been held. -/
def tagged? {α : Type} (names : List (String × α)) (reach : Reach) : Json → Option α
  | .string content => do names.lookup (String.ofList (← Text.spelled? content))
  | .number (.natural place) =>
    match reach with
    | .held => (names[place]?).map (·.2)
    | .direct _ => none
  | _ => none

/-- Takes the tag out of an object, or from the head of a list. The rest is held. -/
def untag? (tag : String) (reach : Reach) : Json → Option (Json × Json)
  | .object members => do
    let isTag := fun (member : Content × Json) => member.1 == Text.ofChars tag.toList
    let rest := members.filter (!isTag ·)
    if members.all (fun member => isSpelled member.1) ∧
        rest.all (fun member => reach.inner.holds member.2) then
      match members.filter isTag with
      | [(_, value)] => return (value, .object rest)
      | _ => none
    else none
  | .array (value :: rest) =>
    if rest.all reach.inner.holds then some (value, .array rest) else none
  | _ => none

/-- What remains of an alternative without fields: any members, but no list entries. -/
def bare? : Json → Option Unit
  | .object _ => some ()
  | .array [] => some ()
  | _ => none

/-- The tag and the content of an object with a member for each, or of a pair. Content that comes
before its tag is held. -/
def split? (tag content : String) (reach : Reach) : Json → Option (Json × Json × Reach)
  | .object members =>
    if members.all (fun member => isSpelled member.1) then
      match known [needed tag, needed content] members with
      | [(first, one), (second, other)] =>
        if first = tag ∧ second = content then some (one, other, reach.inner)
        else if first = content ∧ second = tag ∧ reach.inner.holds one then some (other, one, .held)
        else none
      | _ => none
    else none
  | .array [value, inside] => some (value, inside, reach.inner)
  | _ => none

end DroneFleet.Wire
