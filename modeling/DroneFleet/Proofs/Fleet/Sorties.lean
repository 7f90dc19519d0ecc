import DroneFleet.Proofs.Fleet.Singles

/-!
Flights that are broken off. The drones that come first fly one after another; from some drone on none
starts any more, and none is stopped on its way (`Sortie`). Whenever that happens, the outcomes tell
where all drones are in the end.
-/
namespace DroneFleet

open DroneFleet.Matrix DroneFleet.Handling

def idle (plans : List Plan) : List DroneOutcome :=
  plans.map fun plan => ⟨plan.droneId, .notAttempted⟩

theorem idle_ids (plans : List Plan) : (idle plans).map (·.droneId) = plans.map (·.droneId) := by
  rw [idle, List.map_map]
  rfl

theorem landed_append_idle (front : List DroneOutcome) (plans : List Plan) (drone : Drone) :
    landed (front ++ idle plans) drone = landed front drone := by
  have nowhere : ((idle plans).find? (·.droneId == drone.id)).bind (·.outcome.pose?) = none := by
    cases found : (idle plans).find? (·.droneId == drone.id) with
    | none => rfl
    | some entry =>
      obtain ⟨plan, _, rfl⟩ := List.mem_map.mp (List.mem_of_find?_eq_some found)
      rfl
  rw [landed, landed, List.find?_append]
  cases front.find? (·.droneId == drone.id) with
  | none => rw [Option.none_or, nowhere, Option.bind_none]
  | some entry => rw [Option.some_or]

theorem landed_of_mem {outcomes : List DroneOutcome} (distinct : (outcomes.map (·.droneId)).Nodup)
    {entry : DroneOutcome} (member : entry ∈ outcomes) {drone : Drone} (name : drone.id = entry.droneId) :
    landed outcomes drone = { drone with pose := entry.outcome.pose?.getD drone.pose } := by
  induction outcomes with
  | nil => cases member
  | cons head outcomes ih =>
    obtain ⟨alone, distinct⟩ := List.nodup_cons.mp distinct
    rcases List.mem_cons.mp member with rfl | inside
    · simp [landed, name]
    · have other : head.droneId ≠ drone.id := by
        rintro same
        exact alone (List.mem_map.mpr ⟨entry, inside, name.symm.trans same.symm⟩)
      rw [landed_cons_of_ne other, ih distinct inside]

namespace Matrix

variable {matrix last : Matrix} {plans : List Plan} {outcomes : List DroneOutcome}

theorem Flights.bounds (flights : Flights matrix plans outcomes last) :
    last.bounds = matrix.bounds := by
  induction flights with
  | nil matrix => rfl
  | cons present ran told rest ih => exact ih

theorem Flights.keeps (flights : Flights matrix plans outcomes last) (sound : matrix.Sound) :
    last.Sound ∧ matrix.Kin last := by
  induction flights with
  | nil matrix => exact ⟨sound, .refl matrix⟩
  | cons present ran told rest ih =>
    obtain ⟨movedSound, kin⟩ := run_keeps sound present ran
    obtain ⟨lastSound, kin'⟩ := ih movedSound
    exact ⟨lastSound, kin.trans kin'⟩

theorem course_halts (matrix : Matrix) (id : Nat) (pose : Pose) (step : Nat)
    (commands : List Command) {failedAt : Nat} {reason : RejectReason} {held : Pose}
    {blockedBy : Option Nat}
    (halts : (matrix.course id pose step commands).1 = .rejected failedAt reason held blockedBy) :
    step ≤ failedAt ∧ (failedAt = step → held = pose) := by
  induction commands generalizing pose step with
  | nil => cases halts
  | cons command rest ih =>
    simp only [course] at halts
    split at halts
    · rename_i violation _
      cases violation <;> cases halts <;> exact ⟨Nat.le_refl _, fun _ => rfl⟩
    · obtain ⟨later, _⟩ := ih _ _ halts
      exact ⟨Nat.le_of_succ_le later, fun same => absurd later (same ▸ Nat.not_succ_le_self _)⟩

theorem run_halts (sound : matrix.Sound) {drone : Drone} {commands : List Command}
    {outcome : Outcome} {flown : Matrix} {pose : Pose}
    (present : matrix.drone? drone.id = some drone)
    (ran : matrix.run drone.id commands = .ok (outcome, flown)) (told : outcome.pose? = some pose)
    (stuck : outcome.madeProgress = false) : pose = drone.pose := by
  rw [run_eq_course sound present] at ran
  simp only [Except.ok.injEq, Prod.mk.injEq] at ran
  obtain ⟨same, _⟩ := ran
  cases outcome with
  | completed pose => cases stuck
  | notAttempted => cases told
  | rejected failedAt reason held blockedBy =>
    obtain rfl := Option.some.inj told
    refine (course_halts matrix drone.id drone.pose 0 commands same).2 ?_
    simpa [Outcome.madeProgress] using stuck

/-- The outcomes of drones that got nowhere tell the poses that they had before all flights. -/
theorem Flights.halted (flights : Flights matrix plans outcomes last) (sound : matrix.Sound)
    (distinct : (plans.map (·.droneId)).Nodup) {entry : DroneOutcome} (member : entry ∈ outcomes)
    (stuck : entry.outcome.madeProgress = false) {pose : Pose}
    (told : entry.outcome.pose? = some pose) {drone : Drone}
    (present : matrix.drone? entry.droneId = some drone) : pose = drone.pose := by
  induction flights with
  | nil matrix => cases member
  | @cons matrix last flier commands outcome held ahead outcomes found ran landed rest ih =>
    obtain ⟨alone, distinct⟩ := List.nodup_cons.mp distinct
    rcases List.mem_cons.mp member with rfl | inside
    · obtain rfl := Option.some.inj (found.symm.trans present)
      exact run_halts sound found ran told stuck
    · have other : entry.droneId ≠ flier.id := by
        rintro same
        rw [← rest.ids] at alone
        exact alone (List.mem_map.mpr ⟨entry, inside, same⟩)
      refine ih (run_keeps sound found ran).1 distinct inside ?_
      rw [moved_drone?, if_neg other, present]

end Matrix

/-- The first `count` plans have been flown, and no drone after them has started. -/
structure Sortie (matrix : Matrix) (plans : List Plan) (count : Nat) (outcomes : List DroneOutcome)
    (last : Matrix) : Prop where
  within : count ≤ plans.length
  flown : Flights matrix (plans.take count) (outcomes.take count) last
  rest : outcomes.drop count = idle (plans.drop count)

namespace Sortie

variable {matrix last : Matrix} {plans : List Plan} {count : Nat} {outcomes : List DroneOutcome}

theorem ids (sortie : Sortie matrix plans count outcomes last) :
    outcomes.map (·.droneId) = plans.map (·.droneId) := by
  rw [← List.take_append_drop count outcomes, ← List.take_append_drop count plans, List.map_append,
    List.map_append, sortie.flown.ids, sortie.rest, idle_ids]

theorem drone? (sortie : Sortie matrix plans count outcomes last) (sound : matrix.Sound)
    (distinct : (plans.map (·.droneId)).Nodup) (id : Nat) :
    last.drone? id = (matrix.drone? id).map (landed outcomes) := by
  have first : ((plans.take count).map (·.droneId)).Nodup := by
    rw [List.map_take]
    exact distinct.sublist (List.take_sublist count _)
  have same : landed outcomes = landed (outcomes.take count) := by
    funext drone
    rw [← landed_append_idle (outcomes.take count) (plans.drop count), ← sortie.rest,
      List.take_append_drop]
  rw [sortie.flown.drone? sound first, same]

theorem elsewhere (sortie : Sortie matrix plans count outcomes last) (sound : matrix.Sound)
    (distinct : (plans.map (·.droneId)).Nodup) {id : Nat} (absent : id ∉ plans.map (·.droneId)) :
    last.drone? id = matrix.drone? id := by
  rw [sortie.drone? sound distinct]
  cases present : matrix.drone? id with
  | none => rfl
  | some drone =>
    obtain ⟨rfl, _⟩ := sound.named id drone present
    rw [Option.map_some, landed_of_not_mem (sortie.ids ▸ absent)]

theorem drone?_of_mem (sortie : Sortie matrix plans count outcomes last) (sound : matrix.Sound)
    (distinct : (plans.map (·.droneId)).Nodup) {entry : DroneOutcome} (member : entry ∈ outcomes)
    {drone : Drone} (present : matrix.drone? entry.droneId = some drone) :
    last.drone? entry.droneId =
      some { drone with pose := entry.outcome.pose?.getD drone.pose } := by
  have name := (sound.named _ drone present).1
  rw [sortie.drone? sound distinct, present, Option.map_some,
    landed_of_mem (sortie.ids ▸ distinct) member name]

theorem halted (sortie : Sortie matrix plans count outcomes last) (sound : matrix.Sound)
    (distinct : (plans.map (·.droneId)).Nodup) {entry : DroneOutcome} (member : entry ∈ outcomes)
    (stuck : entry.outcome.madeProgress = false) :
    last.drone? entry.droneId = matrix.drone? entry.droneId := by
  cases present : matrix.drone? entry.droneId with
  | none => rw [sortie.drone? sound distinct, present, Option.map_none]
  | some drone =>
    rw [sortie.drone?_of_mem sound distinct member present]
    cases told : entry.outcome.pose? with
    | none => rfl
    | some pose =>
      -- Only a drone that has started is told a pose, so it is one of those that have flown.
      have started : entry ∈ outcomes.take count := by
        rw [← List.take_append_drop count outcomes, sortie.rest] at member
        refine (List.mem_append.mp member).resolve_right fun late => ?_
        obtain ⟨plan, _, rfl⟩ := List.mem_map.mp late
        cases told
      have first : ((plans.take count).map (·.droneId)).Nodup := by
        rw [List.map_take]
        exact distinct.sublist (List.take_sublist count _)
      rw [sortie.flown.halted sound first started stuck told present, Option.getD_some]

theorem sound (sortie : Sortie matrix plans count outcomes last) {fleet : Fleet} (sound : fleet.Sound)
    (standing : fleet.standing? matrix.id = some matrix) : (fleet.store last).Sound := by
  obtain ⟨lastSound, kin⟩ := sortie.flown.keeps (sound.standing standing).2
  exact stored_sound sound standing kin lastSound

end Sortie

/-! ### How a sortie is made up -/

theorem Sortie.cons {matrix last : Matrix} {drone : Drone} {commands : List Command}
    {outcome : Outcome} {pose : Pose} {ahead : List Plan} {count : Nat} {outcomes : List DroneOutcome}
    (present : matrix.drone? drone.id = some drone)
    (ran : matrix.run drone.id commands = .ok (outcome, matrix.moved drone pose))
    (told : outcome.pose? = some pose)
    (sortie : Sortie (matrix.moved drone pose) ahead count outcomes last) :
    Sortie matrix (⟨drone.id, commands⟩ :: ahead) (count + 1) (⟨drone.id, outcome⟩ :: outcomes) last :=
  ⟨Nat.succ_le_succ sortie.within, .cons present ran told sortie.flown, sortie.rest⟩

theorem Matrix.Flights.sortie {matrix last : Matrix} {plans : List Plan}
    {outcomes : List DroneOutcome} (flights : Flights matrix plans outcomes last) :
    Sortie matrix plans plans.length outcomes last := by
  have length : outcomes.length = plans.length := by
    simpa using congrArg List.length flights.ids
  refine ⟨Nat.le_refl _, ?_, ?_⟩
  · rwa [List.take_length, ← length, List.take_length]
  · rw [List.drop_length, ← length, List.drop_length]
    rfl

theorem idle_sortie (matrix : Matrix) (plans : List Plan) :
    Sortie matrix plans 0 (idle plans) matrix :=
  ⟨Nat.zero_le _, .nil matrix, rfl⟩

theorem on_flyPlan_idle {fleet : Fleet} {matrix : Matrix}
    (standing : fleet.standing? matrix.id = some matrix) (plan : Plan) :
    (flyPlan true matrix.id plan).on fleet = (.ok ⟨plan.droneId, .notAttempted⟩, fleet) := by
  simp only [flyPlan, Handling.fly, on_bind, on_stored standing, if_true, on_pure]

theorem idle_flown (matrix : Matrix) (plans : List Plan) :
    Flown true matrix plans (idle plans) matrix := by
  induction plans with
  | nil => exact .nil matrix
  | cons plan ahead ih =>
    refine .cons rfl (fun fleet standing => ?_) ih
    rw [Fleet.store_self standing, on_flyPlan_idle standing]

theorem Handling.Flown.sortie {grounded : Bool} {matrix last : Matrix} {plans : List Plan}
    {outcomes : List DroneOutcome} (flown : Flown grounded matrix plans outcomes last)
    (sound : matrix.Sound) (aboard : ∀ plan ∈ plans, matrix.owns plan.droneId = true) :
    ∃ count, Sortie matrix plans count outcomes last := by
  cases grounded with
  | true =>
    obtain ⟨rfl, rfl⟩ := flown.unique (idle_flown matrix plans)
    exact ⟨0, idle_sortie _ plans⟩
  | false =>
    obtain ⟨others, other, flights⟩ := flights_exist sound aboard
    obtain ⟨rfl, rfl⟩ := flown.unique flights.flown
    exact ⟨_, flights.sortie⟩

theorem Handling.flySingle_sortie {fleet : Fleet} {matrix : Matrix} (sound : matrix.Sound)
    (standing : fleet.standing? matrix.id = some matrix) (grounded : Bool) {id : Nat} {drone : Drone}
    (present : matrix.drone? id = some drone) (commands : List Command) :
    ∃ count outcome last, Sortie matrix [⟨id, commands⟩] count [⟨id, outcome⟩] last ∧
      ∃ record, last.drone? id = some record ∧
        (flySingle grounded matrix id commands).on fleet =
          (.ok ⟨outcome, record⟩, fleet.store last) := by
  obtain ⟨rfl, _⟩ := sound.named id drone present
  cases grounded with
  | true =>
    refine ⟨0, .notAttempted, matrix, idle_sortie matrix [⟨drone.id, commands⟩], drone, present, ?_⟩
    rw [Fleet.store_self standing]
    simp only [flySingle, Handling.fly, if_true, on_bind, on_pure, on_record present]
  | false =>
    have ran := run_eq_course sound present commands
    have told := course_pose? matrix drone.id drone.pose 0 commands
    generalize matrix.course drone.id drone.pose 0 commands = ended at ran told
    obtain ⟨outcome, pose⟩ := ended
    have flights := Flights.cons present ran told (.nil _)
    refine ⟨1, outcome, matrix.moved drone pose, flights.sortie, { drone with pose },
      moved_present matrix drone pose, ?_⟩
    simp only [flySingle, Handling.fly, Bool.false_eq_true, if_false, on_bind, on_lift, ran, on_store,
      on_pure, on_record (moved_present matrix drone pose)]

end DroneFleet
