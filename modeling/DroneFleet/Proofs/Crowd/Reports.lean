import DroneFleet.Proofs.Crowd.Fates
import Mathlib.Data.List.Nodup

/-!
What is told about drones that were asked to fly, when the word that no drone may start can come at any
moment. The outcomes are collected while the drones fly and the records are read at the end; they agree
because no drone is disturbed once it has flown (`Sortie.drone?_of_mem`).
-/
namespace DroneFleet

namespace Outcome

def isRejected : Outcome → Bool
  | rejected _ _ _ _ => true
  | _ => false

inductive Advanced : Outcome → Prop
  | completed (pose : Pose) : Advanced (.completed pose)
  | rejected {failedAt : Nat} (later : 0 < failedAt) (reason : RejectReason) (pose : Pose)
      (blockedBy : Option Nat) : Advanced (.rejected failedAt reason pose blockedBy)

inductive Stuck : Outcome → Prop
  | rejected (reason : RejectReason) (pose : Pose) (blockedBy : Option Nat) :
      Stuck (.rejected 0 reason pose blockedBy)
  | notAttempted : Stuck .notAttempted

theorem madeProgress_iff {outcome : Outcome} : outcome.madeProgress = true ↔ outcome.Advanced := by
  constructor
  · intro progress
    cases outcome with
    | completed pose => exact .completed pose
    | rejected failedAt reason pose blockedBy =>
      exact .rejected (of_decide_eq_true progress) reason pose blockedBy
    | notAttempted => cases progress
  · rintro (pose | ⟨later, reason, pose, blockedBy⟩)
    · rfl
    · exact decide_eq_true later

theorem Stuck.madeProgress {outcome : Outcome} (stuck : outcome.Stuck) :
    outcome.madeProgress = false := by
  cases stuck <;> rfl

theorem Advanced.told {outcome : Outcome} (advanced : outcome.Advanced) :
    ∃ pose, outcome.pose? = some pose := by
  cases advanced <;> exact ⟨_, rfl⟩

end Outcome

/-! ### Counts -/

namespace Tally

theorem foldl_count (tally : Tally) (outcomes : List DroneOutcome) :
    outcomes.foldl (fun tally entry => tally.count entry.outcome) tally =
      ⟨tally.completed + outcomes.countP (·.outcome.isCompleted),
        tally.rejected + outcomes.countP (·.outcome.isRejected),
        tally.notAttempted + outcomes.countP (·.outcome = .notAttempted)⟩ := by
  induction outcomes generalizing tally with
  | nil => rfl
  | cons entry outcomes ih =>
    rw [List.foldl_cons, ih]
    simp only [List.countP_cons]
    generalize outcomes.countP (·.outcome.isCompleted) = completed
    generalize outcomes.countP (·.outcome.isRejected) = rejected
    cases told : entry.outcome <;>
      simp [count, Outcome.isCompleted, Outcome.isRejected] <;> omega

theorem of_eq (outcomes : List DroneOutcome) :
    Tally.of outcomes = ⟨outcomes.countP (·.outcome.isCompleted),
      outcomes.countP (·.outcome.isRejected), outcomes.countP (·.outcome = .notAttempted)⟩ := by
  rw [Tally.of, foldl_count]
  simp only [Nat.zero_add]

def total (tally : Tally) : Nat := tally.completed + tally.rejected + tally.notAttempted

theorem total_count (tally : Tally) (outcome : Outcome) :
    (tally.count outcome).total = tally.total + 1 := by
  cases outcome <;> simp only [count, total] <;> omega

theorem total_of (outcomes : List DroneOutcome) : (Tally.of outcomes).total = outcomes.length := by
  have counts : ∀ tally : Tally,
      (outcomes.foldl (fun tally entry => tally.count entry.outcome) tally).total =
        tally.total + outcomes.length := by
    induction outcomes with
    | nil => exact fun _ => rfl
    | cons entry outcomes ih =>
      intro tally
      rw [List.foldl_cons, ih, total_count, List.length_cons, Nat.add_assoc, Nat.add_comm 1]
  exact (counts ⟨0, 0, 0⟩).trans (Nat.zero_add _)

end Tally

/-! ### Records -/

/-- The report on the drones asked for agrees with what the fleet was before and is after. -/
structure BatchReport.Tells (report : BatchReport) (ids : List Nat) (before after : Fleet) : Prop where
  named : report.outcomes.map (·.droneId) = ids
  distinct : ids.Nodup
  ordered : (report.drones.map (·.id)).Sublist ids
  advanced : ∀ entry ∈ report.outcomes,
    entry.outcome.Advanced ↔ ∃ drone ∈ report.drones, drone.id = entry.droneId
  current : ∀ drone ∈ report.drones, after.drone? drone.id = some drone ∧
    ∃ entry ∈ report.outcomes, entry.droneId = drone.id ∧ entry.outcome.pose? = some drone.pose
  stuck : ∀ entry ∈ report.outcomes, entry.outcome.Stuck → ∃ drone,
    before.drone? entry.droneId = some drone ∧ after.drone? entry.droneId = some drone
  counted : Tally.of report.outcomes = ⟨report.outcomes.countP (·.outcome.isCompleted),
    report.outcomes.countP (·.outcome.isRejected), report.outcomes.countP (·.outcome = .notAttempted)⟩
  summed : (Tally.of report.outcomes).total = ids.length

theorem records_ordered {outcomes : List DroneOutcome} {last : Matrix}
    (named : ∀ entry ∈ outcomes, ∀ drone, last.drone? entry.droneId = some drone →
      drone.id = entry.droneId) :
    ((BatchReport.of outcomes last).drones.map (·.id)).Sublist (outcomes.map (·.droneId)) := by
  unfold BatchReport.of
  induction outcomes with
  | nil => exact .slnil
  | cons entry outcomes ih =>
    obtain ⟨first, later⟩ := List.forall_mem_cons.mp named
    have rest := ih later
    simp only [List.filter_cons]
    split
    · simp only [List.filterMap_cons]
      cases present : last.drone? entry.droneId with
      | none => exact rest.cons _
      | some drone =>
        rw [List.map_cons, List.map_cons, first drone present]
        exact rest.cons_cons _
    · exact rest.cons _

namespace Fleet

variable {fleet : Fleet} {matrix last : Matrix} {plans : List Plan} {count : Nat}
  {outcomes : List DroneOutcome} {matrixId : Option Nat}

theorem sortie_landing (sound : fleet.Sound) (standing : fleet.standing? matrix.id = some matrix)
    (distinct : (plans.map (·.droneId)).Nodup)
    (aboard : ∀ plan ∈ plans, matrix.owns plan.droneId = true)
    (sortie : Sortie matrix plans count outcomes last) {entry : DroneOutcome}
    (member : entry ∈ outcomes) : ∃ drone, drone.id = entry.droneId ∧
      matrix.drone? entry.droneId = some drone ∧ fleet.drone? entry.droneId = some drone ∧
      last.drone? entry.droneId = some { drone with pose := entry.outcome.pose?.getD drone.pose } ∧
      (fleet.store last).drone? entry.droneId = last.drone? entry.droneId := by
  have matrixSound := (sound.standing standing).2
  have owned : matrix.owns entry.droneId = true := by
    have listed := List.mem_map_of_mem (f := (·.droneId)) member
    rw [sortie.ids] at listed
    obtain ⟨plan, inside, same⟩ := List.mem_map.mp listed
    exact same ▸ aboard plan inside
  obtain ⟨drone, present⟩ := Matrix.owns_iff.mp owned
  exact ⟨drone, (matrixSound.named _ drone present).1, present, sound.recorded standing present,
    sortie.drone?_of_mem matrixSound distinct member present,
    sound.stored_drone? standing sortie.flown.id_eq owned⟩

theorem sortie_tells (sound : fleet.Sound) (mustered : Mustered fleet matrixId plans matrix)
    (sortie : Sortie matrix plans count outcomes last) :
    (BatchReport.of outcomes last).Tells (plans.map (·.droneId)) fleet (fleet.store last) := by
  have landing {entry : DroneOutcome} (member : entry ∈ outcomes) :=
    sortie_landing sound mustered.standing mustered.distinct mustered.aboard sortie member
  have distinct := sortie.ids ▸ mustered.distinct
  have listed : ∀ drone, drone ∈ (BatchReport.of outcomes last).drones ↔
      ∃ entry ∈ outcomes, entry.outcome.Advanced ∧ last.drone? entry.droneId = some drone := by
    intro drone
    simp only [BatchReport.of, List.mem_filterMap, List.mem_filter, Outcome.madeProgress_iff, and_assoc]
  have named : ∀ entry ∈ outcomes, ∀ drone, last.drone? entry.droneId = some drone →
      drone.id = entry.droneId := by
    intro entry member drone present
    obtain ⟨before, name, _, _, ended, _⟩ := landing member
    rw [ended] at present
    exact Option.some.inj present ▸ name
  constructor
  case named => exact sortie.ids
  case distinct => exact mustered.distinct
  case ordered => exact sortie.ids ▸ records_ordered named
  case advanced =>
    intro entry member
    obtain ⟨drone, name, _, _, ended, _⟩ := landing member
    constructor
    · exact fun advanced => ⟨_, (listed _).mpr ⟨entry, member, advanced, ended⟩, name⟩
    · -- The record is there because of some outcome, which is this one because no drone has two.
      rintro ⟨record, inside, same⟩
      obtain ⟨other, member', advanced, present⟩ := (listed record).mp inside
      have alike := (named other member' record present).symm.trans same
      exact List.inj_on_of_nodup_map distinct member' member alike ▸ advanced
  case current =>
    intro record inside
    obtain ⟨entry, member, advanced, present⟩ := (listed record).mp inside
    obtain ⟨drone, _, _, _, ended, stored⟩ := landing member
    have name := named entry member record present
    refine ⟨by rw [name, stored, present], entry, member, name.symm, ?_⟩
    obtain ⟨pose, told⟩ := advanced.told
    rw [present, told] at ended
    rw [told, Option.some.inj ended, Option.getD_some]
  case stuck =>
    intro entry member stuck
    obtain ⟨drone, _, present, before, _, stored⟩ := landing member
    refine ⟨drone, before, ?_⟩
    rw [stored, sortie.halted (sound.standing mustered.standing).2 mustered.distinct member
      stuck.madeProgress, present]
  case counted => exact Tally.of_eq outcomes
  case summed =>
    rw [Tally.total_of, ← sortie.ids, List.length_map]
    rfl

theorem sortie_single (sound : fleet.Sound) (standing : fleet.standing? matrix.id = some matrix)
    {id : Nat} (aboard : matrix.owns id = true) {commands : List Command} {outcome : Outcome}
    (sortie : Sortie matrix [⟨id, commands⟩] count [⟨id, outcome⟩] last) {record : Drone}
    (known : last.drone? id = some record) :
    record.id = id ∧ (fleet.store last).drone? id = some record ∧
      (outcome = .notAttempted ∧ fleet.drone? id = some record ∨
        outcome.pose? = some record.pose) := by
  obtain ⟨drone, name, _, before, ended, stored⟩ := sortie_landing sound standing (by simp)
    (List.forall_mem_singleton.mpr aboard) sortie List.mem_cons_self
  obtain rfl := Option.some.inj (ended.symm.trans known)
  refine ⟨name, stored.trans known, ?_⟩
  cases outcome with
  | notAttempted => exact .inl ⟨rfl, before⟩
  | completed pose => exact .inr rfl
  | rejected failedAt reason pose blockedBy => exact .inr rfl

end Fleet

namespace Crowd

open Fleet

/-- A request for drones to fly that has the fleet for itself is answered after enough steps, whenever
the word comes that no drone may start. If it is granted for several drones, the report tells what has
become of each of them (`BatchReport.Tells`); and if it is granted for one, the report has the record of
that drone, which stands where its outcome says, or where it stood if it has not started. -/
theorem run_reported {start : Fleet} (sound : start.Sound) (calls : List (Bool × Request))
    {request : Request} (commands : request.commands = true) {events : List Event}
    (quiet : ∀ event ∈ events, event.Quiet) :
    let fleet := start.serve calls
    let crowd := ((new fleet).submit request).run events
    (request.addressed + 9 ≤ events.count (.advance 0) →
      ∃ response, crowd.answer? 0 = some response) ∧
    ∀ response, crowd.answer? 0 = some response → response.isError = false →
      (∀ matrixId ids, request.several? = some (matrixId, ids) →
        ∃ report, response = .batch report ∧ report.Tells ids fleet crowd.fleet) ∧
      ∀ id input, request = .droneCommands id input →
        ∃ outcome record, response = .single ⟨outcome, record⟩ ∧ record.id = id ∧
          crowd.fleet.drone? id = some record ∧
          (outcome = .notAttempted ∧ fleet.drone? id = some record ∨
            outcome.pose? = some record.pose) := by
  intro fleet crowd
  have whole : fleet.Sound := serve_sound sound calls
  obtain ⟨answered, fates⟩ := alone_fate whole commands quiet
  refine ⟨answered, fun response told granted => ?_⟩
  have fate : Stage.Fate fleet (watch false events) request response crowd.fleet := fates response told
  generalize crowd.fleet = after at fate
  cases fate with
  | refused => cases granted
  | single parsed standing aboard sortie known =>
    refine ⟨nofun, ?_⟩
    rintro _ _ ⟨⟩
    exact ⟨_, _, rfl, sortie_single whole standing aboard sortie known⟩
  | several flies mustered sortie =>
    refine ⟨fun matrixId ids several => ?_, ?_⟩
    · obtain rfl := flies.listed several
      exact ⟨_, rfl, sortie_tells whole mustered sortie⟩
    · rintro id input rfl
      exact flies.elim nofun nofun

/-- The word comes when the second of the drones has flown, which is the first to move. -/
theorem run_reported_interrupted :
    Fleet.empty.Sound ∧ stepping.commands = true ∧ (∀ event ∈ interrupted, event.Quiet) ∧
      ∃ report : BatchReport,
        (((new (Fleet.empty.serve corner)).submit stepping).run interrupted).answer? 0 =
          some (.batch report) ∧
        report.outcomes = [⟨1, .rejected 0 .collisionRisk ⟨0, 0, .east⟩ (some 2)⟩,
          ⟨2, .completed ⟨1, 1, .north⟩⟩, ⟨3, .notAttempted⟩] ∧
        report.Tells [1, 2, 3] (Fleet.empty.serve corner)
          (((new (Fleet.empty.serve corner)).submit stepping).run interrupted).fleet := by
  have told : (((new (Fleet.empty.serve corner)).submit stepping).run interrupted).answer? 0 =
      some (.batch ⟨[⟨1, .rejected 0 .collisionRisk ⟨0, 0, .east⟩ (some 2)⟩,
        ⟨2, .completed ⟨1, 1, .north⟩⟩, ⟨3, .notAttempted⟩],
        [⟨2, "", "", ⟨1, 1, .north⟩, 1⟩]⟩) := by decide +kernel
  obtain ⟨report, same, tells⟩ :=
    ((run_reported empty_sound corner rfl interrupted_quiet).2 _ told rfl).1 none [1, 2, 3] rfl
  cases same
  exact ⟨empty_sound, rfl, interrupted_quiet, _, told, rfl, tells⟩

end Crowd

end DroneFleet
