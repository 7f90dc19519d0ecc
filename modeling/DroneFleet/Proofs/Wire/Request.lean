import DroneFleet.Proofs.Wire.Drone
import DroneFleet.Wire.Request

/-!
Requests come back from their documents, in every form of command input and with every field that may
be left out.
-/
namespace DroneFleet

open Json Wire

variable {height : Nat} {reach : Reach}

theorem plain_given {α : Type} {name : String} {write : α → Json} {value : Option α}
    (plain : ∀ given ∈ value.toList, Plain height (write given)) :
    ∀ member ∈ given name write value, Plain height member.2 := by
  rw [given, List.forall_mem_map]
  exact plain

/-! ### A field that may be left out before others -/

theorem names_given {α : Type} (name : String) (write : α → Json) (value : Option α) (rest : Record) :
    ((given name write value ++ rest).map (·.1)).Sublist (name :: rest.map (·.1)) := by
  rw [List.map_append]
  exact (sublist_given name write value).append (.refl _)

theorem lookup_given_self {α : Type} {name : String} {write : α → Json} {value : Option α}
    {rest : Record} (fresh : rest.lookup name = none) :
    (given name write value ++ rest).lookup name = value.map write := by
  rw [List.lookup_append, given, lookup_given, if_pos rfl, fresh, Option.or_none]

theorem lookup_given_ne {α : Type} {name other : String} (apart : other ≠ name) (write : α → Json)
    (value : Option α) (rest : Record) :
    (given name write value ++ rest).lookup other = rest.lookup other := by
  rw [List.lookup_append, given, lookup_given, if_neg apart, Option.none_or]

/-! ### Requests and what they are made of -/

namespace CommandInput

@[simp] theorem plain (input : CommandInput) : Plain (height + 1) input.toJson := by
  cases input <;> simp [toJson]

theorem recovers (room : reach.Room (height + 1)) (input : CommandInput) :
    Recovers (height + 1) (CommandInput.ofJson? reach) input.toJson input := by
  intro json renders
  unfold ofJson?
  rw [if_pos (room.holds renders.1)]
  cases input with
  | text letters =>
    cases renders.2
    simp [spelled?_ofChars]
  | elements texts =>
    have reads := recovers_list (fun text _ => recovers_text text) json renders
    obtain _ | _ | _ | _ | each := renders.2
    exact congrArg (Option.map elements) reads

end CommandInput

theorem NewDrone.recovers {drone : NewDrone} {found : Record}
    (mirrors : Mirrors height drone.members found) (reach : Reach) :
    NewDrone.ofJson? reach (.record found) = some drone := by
  have opened := mirrors.record? [needed "name", needed "model", needed "x", needed "y",
    needed "orientation", needed "matrixId"] (.refl _)
  simp only [ofJson?, opened, Option.bind_eq_bind, Option.bind_some,
    mirrors.required "name" rfl (recovers_text _), mirrors.required "model" rfl (recovers_text _),
    mirrors.required "x" rfl (recovers_word _), mirrors.required "y" rfl (recovers_word _),
    mirrors.required "orientation" rfl (Orientation.recovers _ _),
    mirrors.required "matrixId" rfl (recovers_natural _)]
  rfl

namespace DroneChanges

def numbers (changes : DroneChanges) : List Nat := changes.matrixId.toList

def members (changes : DroneChanges) : Record :=
  given "name" .text changes.name ++ given "model" .text changes.model ++
    given "x" .word changes.x ++ given "y" .word changes.y ++
    given "orientation" Orientation.toJson changes.orientation ++
    given "matrixId" .natural changes.matrixId

theorem plain {changes : DroneChanges} (small : ∀ number ∈ changes.numbers, number ≤ Text.word64Limit) :
    Plain (height + 1) changes.toJson := by
  rw [toJson, plain_record]
  simp only [List.forall_mem_append]
  exact ⟨⟨⟨⟨⟨plain_given (by simp), plain_given (by simp)⟩, plain_given (by simp)⟩,
    plain_given (by simp)⟩, plain_given (by simp)⟩, plain_given (by simpa [numbers] using small)⟩

theorem names (changes : DroneChanges) : List.Sublist (changes.members.map (·.1))
    ["name", "model", "x", "y", "orientation", "matrixId"] := by
  simp only [members, List.map_append]
  exact (((((sublist_given "name" _ _).append (sublist_given "model" _ _)).append
    (sublist_given "x" _ _)).append (sublist_given "y" _ _)).append
      (sublist_given "orientation" _ _)).append (sublist_given "matrixId" _ _)

theorem recovers (reach : Reach) (changes : DroneChanges) :
    Recovers (height + 1) (DroneChanges.ofJson? reach) changes.toJson changes := by
  intro json renders
  change Renders (height + 1) (.record changes.members) json at renders
  obtain ⟨record, opened, mirrors⟩ := renders.opened
    [spare "name", spare "model", spare "x", spare "y", spare "orientation", spare "matrixId"]
    (by decide) changes.names
  obtain ⟨name, model, x, y, orientation, matrixId⟩ :
      changes.members.lookup "name" = changes.name.map .text ∧
      changes.members.lookup "model" = changes.model.map .text ∧
      changes.members.lookup "x" = changes.x.map .word ∧
      changes.members.lookup "y" = changes.y.map .word ∧
      changes.members.lookup "orientation" = changes.orientation.map Orientation.toJson ∧
      changes.members.lookup "matrixId" = changes.matrixId.map .natural := by
    simp [members, given, List.lookup_append, lookup_given]
  simp only [ofJson?, opened, Option.bind_eq_bind, Option.bind_some,
    mirrors.optional "name" name recovers_text nofun,
    mirrors.optional "model" model recovers_text nofun,
    mirrors.optional "x" x recovers_word nofun, mirrors.optional "y" y recovers_word nofun,
    mirrors.optional "orientation" orientation (Orientation.recovers _) nofun,
    mirrors.optional "matrixId" matrixId recovers_natural nofun]
  rfl

end DroneChanges

namespace BatchEntry

def numbers (entry : BatchEntry) : List Nat := [entry.droneId]

theorem plain {entry : BatchEntry} (small : ∀ number ∈ entry.numbers, number ≤ Text.word64Limit) :
    Plain (height + 2) entry.toJson := by
  simpa [toJson, numbers] using small

theorem recovers (room : reach.Room (height + 2)) (entry : BatchEntry) :
    Recovers (height + 2) (BatchEntry.ofJson? reach) entry.toJson entry := by
  intro json renders
  obtain ⟨record, opened, mirrors⟩ :=
    renders.opened [needed "droneId", needed "commands"] (by decide) (.refl _)
  simp only [ofJson?, opened, Option.bind_eq_bind, Option.bind_some,
    mirrors.required "droneId" rfl (recovers_natural _),
    mirrors.required "commands" rfl (CommandInput.recovers room.inner _)]
  rfl

end BatchEntry

namespace Request

def numbers : Request → List Nat
  | listMatrices | listDrones | createMatrix _ _ => []
  | getMatrix id | updateMatrix id _ _ | deleteMatrix id | getDrone id | deleteDrone id => [id]
  | createDrone drone => [drone.matrixId]
  | updateDrone id changes => id :: changes.numbers
  | droneCommands droneId _ => [droneId]
  | matrixDroneCommands matrixId droneIds _ => matrixId.toList ++ droneIds
  | batchCommands matrixId entries => matrixId.toList ++ entries.flatMap BatchEntry.numbers

theorem plain {request : Request} (small : ∀ number ∈ request.numbers, number ≤ Text.word64Limit) :
    Plain (height + 4) request.toJson := by
  have body : ∀ member ∈ request.members, Plain (height + 3) member.2 := by
    cases request with
    | listMatrices | listDrones => nofun
    | createMatrix maxX maxY => simp [members]
    | getMatrix id | updateMatrix id _ _ | deleteMatrix id | getDrone id | deleteDrone id =>
      simpa [members, numbers] using small
    | createDrone drone => simpa [members, NewDrone.members, numbers] using small
    | updateDrone id changes =>
      obtain ⟨first, others⟩ := List.forall_mem_cons.mp small
      simpa [members, first] using DroneChanges.plain others
    | droneCommands droneId commands => simpa [members, numbers] using small
    | matrixDroneCommands matrixId droneIds commands =>
      obtain ⟨matrices, drones⟩ := List.forall_mem_append.mp small
      exact List.forall_mem_append.mpr ⟨plain_given (by simpa using matrices), by simpa using drones⟩
    | batchCommands matrixId entries =>
      obtain ⟨matrices, drones⟩ := List.forall_mem_append.mp small
      have each : Plain (height + 3) (.array (entries.map BatchEntry.toJson)) :=
        plain_list.mpr fun entry here => BatchEntry.plain fun number among =>
          drones number (List.mem_flatMap_of_mem here among)
      exact List.forall_mem_append.mpr ⟨plain_given (by simpa using matrices), by simpa using each⟩
  exact plain_record.mpr (List.forall_mem_cons.mpr ⟨plain_text _ _, body⟩)

theorem names (request : Request) :
    ∃ names, ("op" :: names).Nodup ∧ (request.members.map (·.1)).Sublist names := by
  cases request with
  | listMatrices | listDrones => exact ⟨[], by decide, .refl _⟩
  | getMatrix id | deleteMatrix id | getDrone id | deleteDrone id => exact ⟨["id"], by decide, .refl _⟩
  | createMatrix maxX maxY => exact ⟨["maxX", "maxY"], by decide, .refl _⟩
  | updateMatrix id maxX maxY => exact ⟨["id", "maxX", "maxY"], by decide, .refl _⟩
  | createDrone drone =>
    exact ⟨["name", "model", "x", "y", "orientation", "matrixId"], by decide, .refl _⟩
  | updateDrone id changes => exact ⟨["id", "changes"], by decide, .refl _⟩
  | droneCommands droneId commands => exact ⟨["droneId", "commands"], by decide, .refl _⟩
  | matrixDroneCommands matrixId droneIds commands =>
    exact ⟨["matrixId", "droneIds", "commands"], by decide, names_given _ _ _ _⟩
  | batchCommands matrixId entries =>
    exact ⟨["matrixId", "commands"], by decide, names_given _ _ _ _⟩

theorem idOf_recovers {id : Nat} {found : Record}
    (mirrors : Mirrors height [("id", .natural id)] found) : idOf (.record found) = some id := by
  have opened := mirrors.record? [needed "id"] (.refl _)
  simp only [idOf, opened, Option.bind_eq_bind, Option.bind_some,
    mirrors.required "id" rfl (recovers_natural _)]

theorem ofFields?_recovers {request : Request} {found : Record}
    (mirrors : Mirrors (height + 3) request.members found) :
    ofFields? (.record found) request.operation = some request := by
  cases request with
  | listMatrices | listDrones => rfl
  | getMatrix id | deleteMatrix id | getDrone id | deleteDrone id =>
    exact congrArg (Option.map _) (idOf_recovers mirrors)
  | createMatrix maxX maxY =>
    have opened := mirrors.record? [needed "maxX", needed "maxY"] (.refl _)
    simp only [operation, ofFields?, opened, Option.bind_eq_bind, Option.bind_some,
      mirrors.required "maxX" rfl (recovers_word _), mirrors.required "maxY" rfl (recovers_word _)]
    rfl
  | updateMatrix id maxX maxY =>
    have opened := mirrors.record? [needed "id", needed "maxX", needed "maxY"] (.refl _)
    simp only [operation, ofFields?, opened, Option.bind_eq_bind, Option.bind_some,
      mirrors.required "id" rfl (recovers_natural _), mirrors.required "maxX" rfl (recovers_word _),
      mirrors.required "maxY" rfl (recovers_word _)]
    rfl
  | createDrone drone => exact congrArg (Option.map createDrone) (NewDrone.recovers mirrors .held)
  | updateDrone id changes =>
    have opened := mirrors.record? [needed "id", needed "changes"] (.refl _)
    simp only [operation, ofFields?, opened, Option.bind_eq_bind, Option.bind_some,
      mirrors.required "id" rfl (recovers_natural _),
      mirrors.required "changes" rfl (DroneChanges.recovers _ _)]
    rfl
  | droneCommands droneId commands =>
    have opened := mirrors.record? [needed "droneId", needed "commands"] (.refl _)
    simp only [operation, ofFields?, opened, Option.bind_eq_bind, Option.bind_some,
      mirrors.required "droneId" rfl (recovers_natural _),
      mirrors.required "commands" rfl (CommandInput.recovers (Reach.room_held _) _)]
    rfl
  | matrixDroneCommands matrixId droneIds commands =>
    have opened := mirrors.record? [spare "matrixId", needed "droneIds", needed "commands"]
      (names_given _ _ _ _)
    simp only [operation, ofFields?, opened, Option.bind_eq_bind, Option.bind_some,
      mirrors.optional "matrixId" (lookup_given_self rfl) recovers_natural nofun,
      mirrors.required "droneIds" (lookup_given_ne (by decide) _ _ _)
        (recovers_list fun id _ => recovers_natural id),
      mirrors.required "commands" (lookup_given_ne (by decide) _ _ _)
        (CommandInput.recovers (Reach.room_held _) _)]
    rfl
  | batchCommands matrixId entries =>
    have opened := mirrors.record? [spare "matrixId", needed "commands"] (names_given _ _ _ _)
    simp only [operation, ofFields?, opened, Option.bind_eq_bind, Option.bind_some,
      mirrors.optional "matrixId" (lookup_given_self rfl) recovers_natural nofun,
      mirrors.required "commands" (lookup_given_ne (by decide) _ _ _)
        (recovers_list fun entry _ => BatchEntry.recovers (Reach.room_held _) entry)]
    rfl

theorem recovers (room : reach.Room (height + 4)) (request : Request) :
    Recovers (height + 4) (Request.ofJson? reach) request.toJson request := by
  intro json renders
  obtain ⟨names, distinct, among⟩ := request.names
  obtain ⟨tag, rest, untagged, tagged, mirrors⟩ := renders.untagged names distinct among room
  have known : Operation.names.lookup request.operation.name = some request.operation := by
    cases request.operation <;> rfl
  have operation := recovers_tagged known reach tag tagged
  simp only [ofJson?, untagged, operation, Option.bind_eq_bind, Option.bind_some]
  exact ofFields?_recovers mirrors

end Request

end DroneFleet
