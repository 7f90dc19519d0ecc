import DroneFleet.Proofs.Wire.Rendering
import DroneFleet.Wire.Drone

/-!
Poses, drones, matrices and outcomes come back from their documents.
-/
namespace DroneFleet

open Json Wire

variable {height : Nat} {reach : Reach}

theorem Orientation.recovers (reach : Reach) (orientation : Orientation) :
    Recovers height (Orientation.ofJson? reach) orientation.toJson orientation :=
  recovers_choice (by cases orientation <;> rfl) reach

@[simp] theorem Orientation.plain (orientation : Orientation) : Plain height orientation.toJson :=
  plain_text height _

namespace Pose

@[simp] theorem plain (pose : Pose) : Plain (height + 1) pose.toJson := by
  simp [toJson]

theorem recovers (reach : Reach) (pose : Pose) :
    Recovers (height + 1) (Pose.ofJson? reach) pose.toJson pose := by
  intro json renders
  obtain ⟨record, opened, mirrors⟩ :=
    renders.opened [needed "x", needed "y", needed "orientation"] (by decide) (.refl _)
  simp only [ofJson?, opened, Option.bind_eq_bind, Option.bind_some,
    mirrors.required "x" rfl (recovers_word _), mirrors.required "y" rfl (recovers_word _),
    mirrors.required "orientation" rfl (Orientation.recovers _ _)]
  rfl

end Pose

namespace Drone

/-- The numbers of a drone that its type does not bound. -/
def numbers (drone : Drone) : List Nat := [drone.id, drone.matrixId]

theorem plain {drone : Drone} (small : ∀ number ∈ drone.numbers, number ≤ Text.word64Limit) :
    Plain (height + 1) drone.toJson := by
  simpa [toJson, numbers] using small

theorem recovers (reach : Reach) (drone : Drone) :
    Recovers (height + 1) (Drone.ofJson? reach) drone.toJson drone := by
  intro json renders
  obtain ⟨record, opened, mirrors⟩ := renders.opened
    [needed "id", needed "name", needed "model", needed "x", needed "y", needed "orientation",
      needed "matrixId"] (by decide) (.refl _)
  simp only [ofJson?, opened, Option.bind_eq_bind, Option.bind_some,
    mirrors.required "id" rfl (recovers_natural _), mirrors.required "name" rfl (recovers_text _),
    mirrors.required "model" rfl (recovers_text _), mirrors.required "x" rfl (recovers_word _),
    mirrors.required "y" rfl (recovers_word _),
    mirrors.required "orientation" rfl (Orientation.recovers _ _),
    mirrors.required "matrixId" rfl (recovers_natural _)]
  rfl

end Drone

namespace MatrixView

def numbers (view : MatrixView) : List Nat := view.id :: view.drones.flatMap Drone.numbers

theorem plain {view : MatrixView} (small : ∀ number ∈ view.numbers, number ≤ Text.word64Limit) :
    Plain (height + 3) view.toJson := by
  obtain ⟨first, others⟩ := List.forall_mem_cons.mp small
  have drones : ∀ drone ∈ view.drones, Plain (height + 1) drone.toJson := fun drone here =>
    Drone.plain fun number among => others number (List.mem_flatMap_of_mem here among)
  simpa [toJson, first] using drones

theorem recovers (reach : Reach) (view : MatrixView) :
    Recovers (height + 3) (MatrixView.ofJson? reach) view.toJson view := by
  intro json renders
  obtain ⟨record, opened, mirrors⟩ := renders.opened
    [needed "id", needed "maxX", needed "maxY", needed "drones"] (by decide) (.refl _)
  have drones : Recovers (height + 2) (list? (Drone.ofJson? reach.inner.inner)) _ view.drones :=
    recovers_list fun drone _ => Drone.recovers reach.inner.inner drone
  simp only [ofJson?, opened, Option.bind_eq_bind, Option.bind_some,
    mirrors.required "id" rfl (recovers_natural _), mirrors.required "maxX" rfl (recovers_word _),
    mirrors.required "maxY" rfl (recovers_word _), mirrors.required "drones" rfl drones]
  rfl

end MatrixView

namespace Outcome

def numbers : Outcome → List Nat
  | completed _ => []
  | rejected failedAt _ _ blockedBy => failedAt :: blockedBy.toList
  | notAttempted => []

theorem plain {outcome : Outcome} (small : ∀ number ∈ outcome.numbers, number ≤ Text.word64Limit) :
    Plain (height + 2) outcome.toJson := by
  cases outcome with
  | completed pose => simp [toJson]
  | rejected failedAt reason pose blockedBy =>
    obtain ⟨first, others⟩ := List.forall_mem_cons.mp small
    simpa [toJson, first] using others
  | notAttempted => simp [toJson]

theorem recovers (room : reach.Room (height + 2)) (outcome : Outcome) :
    Recovers (height + 2) (Outcome.ofJson? reach) outcome.toJson outcome := by
  intro json renders
  cases outcome with
  | completed pose =>
    obtain ⟨tag, rest, untagged, tagged, mirrors⟩ :=
      renders.untagged ["pose"] (by decide) (.refl _) room
    have status := recovers_tagged (rfl : Status.names.lookup "completed" = _) reach tag tagged
    simp only [ofJson?, untagged, status, Option.bind_eq_bind, Option.bind_some,
      mirrors.record? [needed "pose"] (.refl _),
      mirrors.required "pose" rfl (Pose.recovers _ _)]
    rfl
  | rejected failedAt reason pose blockedBy =>
    have blocker := sublist_given "blocked_by" .natural blockedBy
    have names : List.Sublist _ ["failed_at", "reason", "pose", "blocked_by"] :=
      ((blocker.cons_cons "pose").cons_cons "reason").cons_cons "failed_at"
    obtain ⟨tag, rest, untagged, tagged, mirrors⟩ := renders.untagged _ (by decide) names room
    have status := recovers_tagged (rfl : Status.names.lookup "rejected" = _) reach tag tagged
    have opened := mirrors.record?
      [needed "failed_at", needed "reason", needed "pose", spare "blocked_by"] names
    have blocked := mirrors.optional "blocked_by" (lookup_given "blocked_by" "blocked_by" _ _)
      recovers_natural nofun
    have reasons : Recovers (height + 1) (choice? RejectReason.names .held) (.text reason.name) reason :=
      recovers_choice (by cases reason <;> rfl) .held
    simp only [ofJson?, untagged, status, opened, blocked, Option.bind_eq_bind, Option.bind_some,
      mirrors.required "failed_at" rfl (recovers_natural _), mirrors.required "reason" rfl reasons,
      mirrors.required "pose" rfl (Pose.recovers _ _)]
    rfl
  | notAttempted =>
    obtain ⟨tag, rest, untagged, tagged, mirrors⟩ := renders.untagged [] (by decide) (.refl _) room
    have status := recovers_tagged (rfl : Status.names.lookup "not_attempted" = _) reach tag tagged
    simp only [ofJson?, untagged, status, Option.bind_eq_bind, Option.bind_some, bare?]
    rfl

end Outcome

end DroneFleet
