import DroneFleet.Proofs.Wire.Request
import DroneFleet.Wire.Response

/-!
Responses and envelopes come back from their documents (`Envelope.recovers`), wherever the tags stand
that tell what they carry.
-/
namespace DroneFleet

open Json Wire

variable {height : Nat} {reach : Reach}

namespace SingleReport

def numbers (report : SingleReport) : List Nat := report.outcome.numbers ++ report.drone.numbers

theorem plain {report : SingleReport} (small : ∀ number ∈ report.numbers, number ≤ Text.word64Limit) :
    Plain (height + 3) report.toJson := by
  obtain ⟨outcome, drone⟩ := List.forall_mem_append.mp small
  exact plain_record.mpr (List.forall_mem_cons.mpr ⟨Outcome.plain outcome,
    List.forall_mem_singleton.mpr (Drone.plain drone)⟩)

theorem recovers (room : reach.Room (height + 3)) (report : SingleReport) :
    Recovers (height + 3) (SingleReport.ofJson? reach) report.toJson report := by
  intro json renders
  obtain ⟨record, opened, mirrors⟩ :=
    renders.opened [needed "outcome", needed "drone"] (by decide) (.refl _)
  simp only [ofJson?, opened, Option.bind_eq_bind, Option.bind_some,
    mirrors.required "outcome" rfl (Outcome.recovers room.inner _),
    mirrors.required "drone" rfl (Drone.recovers _ _)]
  rfl

end SingleReport

namespace DroneOutcome

def numbers (entry : DroneOutcome) : List Nat := entry.droneId :: entry.outcome.numbers

theorem plain {entry : DroneOutcome} (small : ∀ number ∈ entry.numbers, number ≤ Text.word64Limit) :
    Plain (height + 3) entry.toJson := by
  obtain ⟨id, outcome⟩ := List.forall_mem_cons.mp small
  exact plain_record.mpr (List.forall_mem_cons.mpr ⟨plain_natural.mpr id,
    List.forall_mem_singleton.mpr (Outcome.plain outcome)⟩)

theorem recovers (room : reach.Room (height + 3)) (entry : DroneOutcome) :
    Recovers (height + 3) (DroneOutcome.ofJson? reach) entry.toJson entry := by
  intro json renders
  obtain ⟨record, opened, mirrors⟩ :=
    renders.opened [needed "droneId", needed "outcome"] (by decide) (.refl _)
  simp only [ofJson?, opened, Option.bind_eq_bind, Option.bind_some,
    mirrors.required "droneId" rfl (recovers_natural _),
    mirrors.required "outcome" rfl (Outcome.recovers room.inner _)]
  rfl

end DroneOutcome

namespace BatchReport

def numbers (report : BatchReport) : List Nat :=
  report.outcomes.flatMap DroneOutcome.numbers ++ report.drones.flatMap Drone.numbers

theorem plain {report : BatchReport} (small : ∀ number ∈ report.numbers, number ≤ Text.word64Limit) :
    Plain (height + 5) report.toJson := by
  obtain ⟨outcomes, drones⟩ := List.forall_mem_append.mp small
  refine plain_record.mpr (List.forall_mem_cons.mpr ⟨?_, List.forall_mem_singleton.mpr ?_⟩)
  · exact plain_list.mpr fun entry here => DroneOutcome.plain fun number among =>
      outcomes number (List.mem_flatMap_of_mem here among)
  · exact plain_list.mpr fun drone here => Drone.plain fun number among =>
      drones number (List.mem_flatMap_of_mem here among)

theorem recovers (room : reach.Room (height + 5)) (report : BatchReport) :
    Recovers (height + 5) (BatchReport.ofJson? reach) report.toJson report := by
  intro json renders
  obtain ⟨record, opened, mirrors⟩ :=
    renders.opened [needed "outcomes", needed "drones"] (by decide) (.refl _)
  simp only [ofJson?, opened, Option.bind_eq_bind, Option.bind_some,
    mirrors.required "outcomes" rfl
      (recovers_list fun entry _ => DroneOutcome.recovers room.inner.inner entry),
    mirrors.required "drones" rfl (recovers_list fun drone _ => Drone.recovers _ drone)]
  rfl

end BatchReport

namespace Response

def numbers : Response → List Nat
  | matrix view => view.numbers
  | matrices views => views.flatMap MatrixView.numbers
  | drone record => record.numbers
  | drones records => records.flatMap Drone.numbers
  | deleted id => [id]
  | single report => report.numbers
  | batch report => report.numbers
  | error _ _ => []

theorem plain {response : Response} (small : ∀ number ∈ response.numbers, number ≤ Text.word64Limit) :
    Plain (height + 6) response.toJson := by
  have inside : Plain (height + 5) response.content := by
    cases response with
    | matrix view => exact MatrixView.plain small
    | matrices views =>
      exact plain_list.mpr fun view here => MatrixView.plain fun number among =>
        small number (List.mem_flatMap_of_mem here among)
    | drone record => exact Drone.plain small
    | drones records =>
      exact plain_list.mpr fun drone here => Drone.plain fun number among =>
        small number (List.mem_flatMap_of_mem here among)
    | deleted id => simpa [content, numbers] using small
    | single report => exact SingleReport.plain small
    | batch report => exact BatchReport.plain small
    | error kind message => simp [content]
  exact plain_record.mpr (List.forall_mem_cons.mpr ⟨plain_text _ _,
    List.forall_mem_singleton.mpr inside⟩)

theorem ofContent?_recovers (room : reach.Room (height + 5)) (response : Response) :
    Recovers (height + 5) (fun json => ofContent? reach json response.form) response.content
      response := by
  intro json renders
  cases response with
  | matrix view => exact congrArg (Option.map matrix) (MatrixView.recovers reach view json renders)
  | matrices views =>
    exact congrArg (Option.map matrices)
      (recovers_list (fun view _ => MatrixView.recovers reach.inner view) json renders)
  | drone record => exact congrArg (Option.map drone) (Drone.recovers reach record json renders)
  | drones records =>
    exact congrArg (Option.map drones)
      (recovers_list (fun record _ => Drone.recovers reach.inner record) json renders)
  | deleted id =>
    obtain ⟨found, rfl, mirrors⟩ := renders.record (by simp)
    have opened := mirrors.record? [needed "id"] (.refl _)
    show (do return deleted (← (← record? [needed "id"] (.record found)).required "id" natural?)) = _
    simp only [opened, Option.bind_eq_bind, Option.bind_some,
      mirrors.required "id" rfl (recovers_natural _)]
    rfl
  | single report =>
    exact congrArg (Option.map single) (SingleReport.recovers (room.le (by omega)) report json renders)
  | batch report => exact congrArg (Option.map batch) (BatchReport.recovers room report json renders)
  | error kind message =>
    obtain ⟨record, opened, mirrors⟩ :=
      renders.opened [needed "kind", needed "message"] (by decide) (.refl _)
    have kinds : Recovers (height + 4) (choice? RefusalKind.names reach.inner) (.text kind.name) kind :=
      recovers_choice (by cases kind <;> rfl) _
    simp only [form, ofContent?, opened, Option.bind_eq_bind, Option.bind_some,
      mirrors.required "kind" rfl kinds, mirrors.required "message" rfl (recovers_text _)]
    rfl

theorem recovers (room : reach.Room (height + 6)) (response : Response) :
    Recovers (height + 6) (Response.ofJson? reach) response.toJson response := by
  intro json renders
  obtain ⟨tag, inside, reachInside, split, tagged, rendersInside, roomInside⟩ :=
    renders.split? (by decide) room
  have known : Form.names.lookup response.form.name = some response.form := by
    cases response.form <;> rfl
  have form := recovers_choice known reach.inner tag tagged
  simp only [ofJson?, split, form, Option.bind_eq_bind, Option.bind_some]
  exact ofContent?_recovers roomInside response inside rendersInside

end Response

namespace Header

def numbers (header : Header) : List Nat := [header.sequenceId, header.timestampMs]

theorem plain {header : Header} (small : ∀ number ∈ header.numbers, number ≤ Text.word64Limit) :
    Plain (height + 1) header.toJson := by
  simpa [toJson, numbers] using small

theorem recovers (header : Header) :
    Recovers (height + 1) Header.ofJson? header.toJson header := by
  intro json renders
  obtain ⟨record, opened, mirrors⟩ := renders.opened
    [needed "client_id", needed "sequence_id", needed "timestamp_ms"] (by decide) (.refl _)
  simp only [ofJson?, opened, Option.bind_eq_bind, Option.bind_some,
    mirrors.required "client_id" rfl (recovers_text _),
    mirrors.required "sequence_id" rfl (recovers_natural _),
    mirrors.required "timestamp_ms" rfl (recovers_natural _)]
  rfl

end Header

namespace Payload

def numbers : Payload → List Nat
  | request asked => asked.numbers
  | response answer => answer.numbers

theorem plain {payload : Payload} (small : ∀ number ∈ payload.numbers, number ≤ Text.word64Limit) :
    Plain (height + 7) payload.toJson := by
  cases payload with
  | request asked => simpa [toJson] using Request.plain small
  | response answer => simpa [toJson] using Response.plain small

theorem recovers (room : reach.Room (height + 7)) (payload : Payload) :
    Recovers (height + 7) (Payload.ofJson? reach) payload.toJson payload := by
  intro json renders
  cases payload with
  | request asked =>
    obtain ⟨tag, inside, reachInside, split, tagged, rendersInside, roomInside⟩ :=
      renders.split? (by decide) room
    have kind := recovers_choice (rfl : kinds.lookup "request" = _) reach.inner tag tagged
    simp only [ofJson?, split, kind, Option.bind_eq_bind, Option.bind_some, if_true,
      Request.recovers (roomInside.le (by omega)) asked inside rendersInside]
    rfl
  | response answer =>
    obtain ⟨tag, inside, reachInside, split, tagged, rendersInside, roomInside⟩ :=
      renders.split? (by decide) room
    have kind := recovers_choice (rfl : kinds.lookup "response" = _) reach.inner tag tagged
    simp only [ofJson?, split, kind, Option.bind_eq_bind, Option.bind_some,
      Response.recovers roomInside answer inside rendersInside]
    rfl

end Payload

namespace Envelope

def numbers (envelope : Envelope) : List Nat := envelope.header.numbers ++ envelope.payload.numbers

theorem plain {envelope : Envelope} (small : ∀ number ∈ envelope.numbers, number ≤ Text.word64Limit) :
    Plain (height + 8) envelope.toJson := by
  obtain ⟨header, payload⟩ := List.forall_mem_append.mp small
  exact plain_record.mpr (List.forall_mem_cons.mpr ⟨Header.plain header,
    List.forall_mem_singleton.mpr (Payload.plain payload)⟩)

theorem recovers (envelope : Envelope) : Recovers 8 Envelope.ofJson? envelope.toJson envelope := by
  intro json renders
  obtain ⟨record, opened, mirrors⟩ :=
    renders.opened [needed "header", needed "payload"] (by decide) (.refl _)
  have room : (Reach.direct 1).Room 7 := (by decide : 1 + 7 ≤ depthLimit)
  simp only [ofJson?, opened, Option.bind_eq_bind, Option.bind_some,
    mirrors.required "header" rfl (Header.recovers _),
    mirrors.required "payload" rfl (Payload.recovers room _)]
  rfl

end Envelope

end DroneFleet
