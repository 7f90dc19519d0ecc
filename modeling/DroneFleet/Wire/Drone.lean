import DroneFleet.Flight
import DroneFleet.Wire.Record

/-!
Documents of poses, drones, matrices and outcomes.
-/
namespace DroneFleet

open Wire

def Orientation.toJson (orientation : Orientation) : Json := .text orientation.label

/-- The directions under their labels, west under both of its own. -/
def Orientation.names : List (String × Orientation) :=
  [("N", .north), ("E", .east), ("S", .south), ("W", .west), ("O", .west)]

def Orientation.ofJson? (reach : Reach) (json : Json) : Option Orientation :=
  choice? names reach json

namespace Pose

def toJson (pose : Pose) : Json :=
  .record [("x", .word pose.x), ("y", .word pose.y), ("orientation", pose.orientation.toJson)]

def ofJson? (reach : Reach) (json : Json) : Option Pose := do
  let record ← record? [needed "x", needed "y", needed "orientation"] json
  return ⟨← record.required "x" word?, ← record.required "y" word?,
    ← record.required "orientation" (Orientation.ofJson? reach.inner)⟩

end Pose

namespace Drone

def toJson (drone : Drone) : Json :=
  .record [("id", .natural drone.id), ("name", .text drone.name), ("model", .text drone.model),
    ("x", .word drone.pose.x), ("y", .word drone.pose.y),
    ("orientation", drone.pose.orientation.toJson), ("matrixId", .natural drone.matrixId)]

def ofJson? (reach : Reach) (json : Json) : Option Drone := do
  let record ← record? [needed "id", needed "name", needed "model", needed "x", needed "y",
    needed "orientation", needed "matrixId"] json
  return ⟨← record.required "id" natural?, ← record.required "name" text?,
    ← record.required "model" text?,
    ⟨← record.required "x" word?, ← record.required "y" word?,
      ← record.required "orientation" (Orientation.ofJson? reach.inner)⟩,
    ← record.required "matrixId" natural?⟩

end Drone

namespace MatrixView

def toJson (view : MatrixView) : Json :=
  .record [("id", .natural view.id), ("maxX", .word view.bounds.maxX),
    ("maxY", .word view.bounds.maxY), ("drones", .array (view.drones.map Drone.toJson))]

def ofJson? (reach : Reach) (json : Json) : Option MatrixView := do
  let record ← record? [needed "id", needed "maxX", needed "maxY", needed "drones"] json
  return ⟨← record.required "id" natural?,
    ⟨← record.required "maxX" word?, ← record.required "maxY" word?⟩,
    ← record.required "drones" (list? (Drone.ofJson? reach.inner.inner))⟩

end MatrixView

namespace RejectReason

def name : RejectReason → String
  | boundaryViolation => "boundary_violation"
  | collisionRisk => "collision_risk"

def names : List (String × RejectReason) :=
  [boundaryViolation, collisionRisk].map fun reason => (reason.name, reason)

end RejectReason

namespace Outcome

inductive Status where
  | completed
  | rejected
  | notAttempted
deriving DecidableEq, Repr

def Status.names : List (String × Status) :=
  [("completed", .completed), ("rejected", .rejected), ("not_attempted", .notAttempted)]

def toJson : Outcome → Json
  | completed pose => .record [("status", .text "completed"), ("pose", pose.toJson)]
  | rejected failedAt reason pose blockedBy =>
    .record ([("status", .text "rejected"), ("failed_at", .natural failedAt),
      ("reason", .text reason.name), ("pose", pose.toJson)] ++
        blockedBy.toList.map fun blocker => ("blocked_by", .natural blocker))
  | notAttempted => .record [("status", .text "not_attempted")]

def ofJson? (reach : Reach) (json : Json) : Option Outcome := do
  let (tag, rest) ← untag? "status" reach json
  match ← tagged? Status.names reach tag with
  | .completed =>
    let record ← record? [needed "pose"] rest
    return completed (← record.required "pose" (Pose.ofJson? .held))
  | .rejected =>
    let record ← record? [needed "failed_at", needed "reason", needed "pose", spare "blocked_by"] rest
    return rejected (← record.required "failed_at" natural?)
      (← record.required "reason" (choice? RejectReason.names .held))
      (← record.required "pose" (Pose.ofJson? .held)) (← record.optional "blocked_by" natural?)
  | .notAttempted =>
    bare? rest
    return notAttempted

end Outcome

end DroneFleet
