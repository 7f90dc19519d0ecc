import DroneFleet.Response
import DroneFleet.Wire.Request

/-!
Documents of responses and of envelopes: the kind of what they carry stands beside its content.
-/
namespace DroneFleet

open Wire

namespace SingleReport

def toJson (report : SingleReport) : Json :=
  .record [("outcome", report.outcome.toJson), ("drone", report.drone.toJson)]

def ofJson? (reach : Reach) (json : Json) : Option SingleReport := do
  let record ← record? [needed "outcome", needed "drone"] json
  return ⟨← record.required "outcome" (Outcome.ofJson? reach.inner),
    ← record.required "drone" (Drone.ofJson? reach.inner)⟩

end SingleReport

namespace DroneOutcome

def toJson (entry : DroneOutcome) : Json :=
  .record [("droneId", .natural entry.droneId), ("outcome", entry.outcome.toJson)]

def ofJson? (reach : Reach) (json : Json) : Option DroneOutcome := do
  let record ← record? [needed "droneId", needed "outcome"] json
  return ⟨← record.required "droneId" natural?,
    ← record.required "outcome" (Outcome.ofJson? reach.inner)⟩

end DroneOutcome

namespace BatchReport

def toJson (report : BatchReport) : Json :=
  .record [("outcomes", .array (report.outcomes.map DroneOutcome.toJson)),
    ("drones", .array (report.drones.map Drone.toJson))]

def ofJson? (reach : Reach) (json : Json) : Option BatchReport := do
  let record ← record? [needed "outcomes", needed "drones"] json
  return ⟨← record.required "outcomes" (list? (DroneOutcome.ofJson? reach.inner.inner)),
    ← record.required "drones" (list? (Drone.ofJson? reach.inner.inner))⟩

end BatchReport

def RefusalKind.names : List (String × RefusalKind) :=
  RefusalKind.all.map fun kind => (kind.name, kind)

namespace Response

inductive Form where
  | matrix
  | matrices
  | drone
  | drones
  | deleted
  | single
  | batch
  | error
deriving DecidableEq, Repr

namespace Form

def all : List Form := [matrix, matrices, drone, drones, deleted, single, batch, error]

def name : Form → String
  | matrix => "matrix"
  | matrices => "matrices"
  | drone => "drone"
  | drones => "drones"
  | deleted => "deleted"
  | single => "single"
  | batch => "batch"
  | error => "error"

def names : List (String × Form) := all.map fun form => (form.name, form)

end Form

def form : Response → Form
  | matrix _ => .matrix
  | matrices _ => .matrices
  | drone _ => .drone
  | drones _ => .drones
  | deleted _ => .deleted
  | single _ => .single
  | batch _ => .batch
  | error _ _ => .error

def content : Response → Json
  | matrix view => view.toJson
  | matrices views => .array (views.map MatrixView.toJson)
  | drone record => record.toJson
  | drones records => .array (records.map Drone.toJson)
  | deleted id => .record [("id", .natural id)]
  | single report => report.toJson
  | batch report => report.toJson
  | error kind message => .record [("kind", .text kind.name), ("message", .text message)]

def toJson (response : Response) : Json :=
  .record [("type", .text response.form.name), ("data", response.content)]

/-- Reads the content of a form. That of a deletion is an object with names. -/
def ofContent? (reach : Reach) (json : Json) : Form → Option Response
  | .matrix => (MatrixView.ofJson? reach json).map matrix
  | .matrices => (list? (MatrixView.ofJson? reach.inner) json).map matrices
  | .drone => (Drone.ofJson? reach json).map drone
  | .drones => (list? (Drone.ofJson? reach.inner) json).map drones
  | .deleted =>
    match json with
    | .object _ => do return deleted (← (← record? [needed "id"] json).required "id" natural?)
    | _ => none
  | .single => (SingleReport.ofJson? reach json).map single
  | .batch => (BatchReport.ofJson? reach json).map batch
  | .error => do
    let record ← record? [needed "kind", needed "message"] json
    return error (← record.required "kind" (choice? RefusalKind.names reach.inner))
      (← record.required "message" text?)

def ofJson? (reach : Reach) (json : Json) : Option Response := do
  let (tag, inside, reachInside) ← split? "type" "data" reach json
  ofContent? reachInside inside (← choice? Form.names reach.inner tag)

end Response

namespace Header

def toJson (header : Header) : Json :=
  .record [("client_id", .text header.clientId), ("sequence_id", .natural header.sequenceId),
    ("timestamp_ms", .natural header.timestampMs)]

def ofJson? (json : Json) : Option Header := do
  let record ← record? [needed "client_id", needed "sequence_id", needed "timestamp_ms"] json
  return ⟨← record.required "client_id" text?, ← record.required "sequence_id" natural?,
    ← record.required "timestamp_ms" natural?⟩

end Header

namespace Payload

def toJson : Payload → Json
  | request asked => .record [("kind", .text "request"), ("body", asked.toJson)]
  | response answer => .record [("kind", .text "response"), ("body", answer.toJson)]

def kinds : List (String × Bool) := [("request", true), ("response", false)]

def ofJson? (reach : Reach) (json : Json) : Option Payload := do
  let (tag, inside, reachInside) ← split? "kind" "body" reach json
  if ← choice? kinds reach.inner tag then
    return request (← Request.ofJson? reachInside inside)
  else
    return response (← Response.ofJson? reachInside inside)

end Payload

namespace Envelope

def toJson (envelope : Envelope) : Json :=
  .record [("header", envelope.header.toJson), ("payload", envelope.payload.toJson)]

def ofJson? (json : Json) : Option Envelope := do
  let record ← record? [needed "header", needed "payload"] json
  return ⟨← record.required "header" Header.ofJson?,
    ← record.required "payload" (Payload.ofJson? (.direct 1))⟩

end Envelope

end DroneFleet
