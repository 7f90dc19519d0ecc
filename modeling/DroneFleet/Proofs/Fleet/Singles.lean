import DroneFleet.Proofs.Fleet.Reasons
import DroneFleet.Proofs.Matrix.Courses

/-!
A request for several drones and the requests for one drone each that it stands for. The first finds
all drones before any of them flies, the others look for each drone when its turn comes; they find it
where it was found before, because a flight changes nothing but where one drone stands
(`Matrix.Flights`).
-/
namespace DroneFleet

def Request.singles : Request → List Request
  | matrixDroneCommands _ droneIds input => droneIds.map fun id => droneCommands id input
  | batchCommands _ entries => entries.map fun entry => droneCommands entry.droneId entry.commands
  | _ => []

def Request.Asks (plan : Plan) (request : Request) : Prop :=
  ∃ input, request = .droneCommands plan.droneId input ∧ input.parse = .ok plan.commands

/-- The record of a drone after flights: it stands where the outcomes say that it ended, or where it
was if they do not mention it. -/
def landed (outcomes : List DroneOutcome) (drone : Drone) : Drone :=
  { drone with
    pose := ((outcomes.find? (·.droneId == drone.id)).bind (·.outcome.pose?)).getD drone.pose }

theorem landed_cons_of_eq {entry : DroneOutcome} {outcomes : List DroneOutcome} {drone : Drone}
    {pose : Pose} (mentioned : entry.droneId = drone.id) (told : entry.outcome.pose? = some pose) :
    landed (entry :: outcomes) drone = { drone with pose } := by
  simp [landed, mentioned, told]

theorem landed_cons_of_ne {entry : DroneOutcome} {outcomes : List DroneOutcome} {drone : Drone}
    (other : entry.droneId ≠ drone.id) : landed (entry :: outcomes) drone = landed outcomes drone := by
  simp [landed, other]

theorem landed_of_not_mem {outcomes : List DroneOutcome} {drone : Drone}
    (absent : drone.id ∉ outcomes.map (·.droneId)) : landed outcomes drone = drone := by
  induction outcomes with
  | nil => rfl
  | cons entry outcomes ih =>
    obtain ⟨other, absent⟩ := not_or.mp (mt List.mem_cons.mpr absent)
    rw [landed_cons_of_ne (Ne.symm other), ih absent]

namespace Matrix

/-- Drones that fly one after another over a matrix, each from where it stands to the pose that its
outcome tells. -/
inductive Flights : Matrix → List Plan → List DroneOutcome → Matrix → Prop
  | nil (matrix : Matrix) : Flights matrix [] [] matrix
  | cons {matrix last : Matrix} {drone : Drone} {commands : List Command} {outcome : Outcome}
      {pose : Pose} {ahead : List Plan} {outcomes : List DroneOutcome}
      (present : matrix.drone? drone.id = some drone)
      (ran : matrix.run drone.id commands = .ok (outcome, matrix.moved drone pose))
      (told : outcome.pose? = some pose)
      (rest : Flights (matrix.moved drone pose) ahead outcomes last) :
      Flights matrix (⟨drone.id, commands⟩ :: ahead) (⟨drone.id, outcome⟩ :: outcomes) last

variable {matrix last : Matrix} {plans : List Plan} {outcomes : List DroneOutcome}

theorem flights_exist (sound : matrix.Sound)
    (aboard : ∀ plan ∈ plans, matrix.owns plan.droneId = true) :
    ∃ outcomes last, Flights matrix plans outcomes last := by
  induction plans generalizing matrix with
  | nil => exact ⟨[], matrix, .nil matrix⟩
  | cons plan ahead ih =>
    obtain ⟨id, commands⟩ := plan
    obtain ⟨drone, present⟩ := owns_iff.mp (aboard _ List.mem_cons_self)
    obtain rfl := (sound.named id drone present).1
    have ran := run_eq_course sound present commands
    obtain ⟨movedSound, kin⟩ := run_keeps sound present ran
    obtain ⟨outcomes, last, rest⟩ := ih movedSound fun other member =>
      (kin.owns _).trans (aboard other (List.mem_cons_of_mem _ member))
    exact ⟨_, last, .cons present ran (course_pose? matrix _ _ _ _) rest⟩

theorem Flights.ids (flights : Flights matrix plans outcomes last) :
    outcomes.map (·.droneId) = plans.map (·.droneId) := by
  induction flights with
  | nil matrix => rfl
  | cons present ran told rest ih => simp [ih]

theorem Flights.id_eq (flights : Flights matrix plans outcomes last) : last.id = matrix.id := by
  induction flights with
  | nil matrix => rfl
  | cons present ran told rest ih => exact ih

theorem Flights.split (flights : Flights matrix plans outcomes last) (count : Nat) :
    ∃ middle, Flights matrix (plans.take count) (outcomes.take count) middle ∧
      Flights middle (plans.drop count) (outcomes.drop count) last := by
  induction flights generalizing count with
  | nil matrix => exact ⟨matrix, by simpa using .nil matrix, by simpa using .nil matrix⟩
  | @cons matrix last drone commands outcome pose ahead outcomes present ran told rest ih =>
    cases count with
    | zero => exact ⟨matrix, .nil matrix, .cons present ran told rest⟩
    | succ count =>
      obtain ⟨middle, front, back⟩ := ih count
      exact ⟨middle, .cons present ran told front, back⟩

theorem Flights.drone? (flights : Flights matrix plans outcomes last) (sound : matrix.Sound)
    (distinct : (plans.map (·.droneId)).Nodup) (id : Nat) :
    last.drone? id = (matrix.drone? id).map (landed outcomes) := by
  induction flights with
  | nil matrix => cases matrix.drone? id <;> rfl
  | @cons matrix last drone commands outcome pose ahead outcomes present ran told rest ih =>
    obtain ⟨alone, distinct⟩ := List.nodup_cons.mp distinct
    rw [ih (run_keeps sound present ran).1 distinct, moved_drone?]
    split
    · rename_i same
      subst same
      rw [present, Option.map_some, Option.map_some, landed_cons_of_eq rfl told]
      exact congrArg some (landed_of_not_mem (rest.ids ▸ alone))
    · rename_i other
      cases found : matrix.drone? id with
      | none => rfl
      | some record =>
        rw [Option.map_some, Option.map_some,
          landed_cons_of_ne fun same => other ((sound.named id record found).1.symm.trans same.symm)]

end Matrix

open DroneFleet.Matrix DroneFleet.Handling

variable {matrix last : Matrix} {plans : List Plan} {outcomes : List DroneOutcome}

theorem Matrix.Flights.flown (flights : Flights matrix plans outcomes last) :
    Flown false matrix plans outcomes last := by
  induction flights with
  | nil matrix => exact .nil matrix
  | @cons matrix last drone commands outcome pose ahead outcomes present ran told rest ih =>
    have flew : ∀ fleet : Fleet, fleet.standing? matrix.id = some matrix →
        (flyPlan false matrix.id ⟨drone.id, commands⟩).on fleet =
          (.ok ⟨drone.id, outcome⟩, fleet.store (matrix.moved drone pose)) := by
      intro fleet standing
      simp only [flyPlan, Handling.fly, on_bind, on_stored standing, Bool.false_eq_true, if_false,
        on_lift, ran, on_store, on_pure]
    have same : (matrix.moved drone pose).id = matrix.id := rfl
    exact .cons same flew ih

theorem Handling.Flown.unique {grounded : Bool} {others : List DroneOutcome} {other : Matrix}
    (one : Flown grounded matrix plans outcomes last)
    (two : Flown grounded matrix plans others other) : others = outcomes ∧ other = last := by
  have standing : (Fleet.empty.store matrix).standing? matrix.id = some matrix := by
    rw [Fleet.store_standing?, if_pos rfl]
  have same := (two.on_mapM standing).symm.trans (one.on_mapM standing)
  rw [Prod.mk.injEq, Except.ok.injEq] at same
  exact ⟨same.1, Fleet.store_injective same.2 (two.id_eq.trans one.id_eq.symm)⟩

theorem Request.Flies.singles {request : Request} {matrixId : Option Nat}
    (flies : request.Flies matrixId plans) : List.Forall₂ Asks plans request.singles := by
  rcases flies with ⟨droneIds, input, commands, rfl, parsed, rfl⟩ | ⟨entries, rfl, parsed⟩
  · rw [Request.singles, Plan.shared, List.forall₂_map_left_iff, List.forall₂_map_right_iff,
      List.forall₂_same]
    exact fun id _ => ⟨input, rfl, parsed⟩
  · rw [Request.singles, List.forall₂_map_right_iff]
    refine (Plan.ofEntries_reads parsed).imp fun plan entry reads => ?_
    obtain ⟨same, read⟩ := reads
    exact ⟨entry.commands, by rw [same], read⟩

namespace Fleet

/-- Asked for alone, a drone comes to the outcome of its entry and is where this says; nothing else
has changed then. -/
inductive Solo (fleet : Fleet) : Request → DroneOutcome → Fleet → Prop
  | flown {matrix : Matrix} {drone : Drone} {input : CommandInput} {outcome : Outcome} {pose : Pose}
      (standing : fleet.standing? matrix.id = some matrix)
      (present : matrix.drone? drone.id = some drone) (told : outcome.pose? = some pose)
      (answered : fleet.dispatch false (.droneCommands drone.id input) =
        (.single ⟨outcome, { drone with pose }⟩, fleet.store (matrix.moved drone pose))) :
      Solo fleet (.droneCommands drone.id input) ⟨drone.id, outcome⟩
        (fleet.store (matrix.moved drone pose))

variable {fleet : Fleet}

theorem dispatch_single (sound : fleet.Sound) (standing : fleet.standing? matrix.id = some matrix)
    {drone : Drone} {commands : List Command} {outcome : Outcome} {pose : Pose}
    (present : matrix.drone? drone.id = some drone)
    (ran : matrix.run drone.id commands = .ok (outcome, matrix.moved drone pose))
    {input : CommandInput} (parsed : input.parse = .ok commands) :
    fleet.dispatch false (.droneCommands drone.id input) =
      (.single ⟨outcome, { drone with pose }⟩, fleet.store (matrix.moved drone pose)) := by
  have found := on_home sound standing (owns_iff.mpr ⟨drone, present⟩)
  apply dispatch_eq
  simp only [Request.handle, parsed, on_bind, found, flySingle, Handling.fly, Bool.false_eq_true,
    if_false, on_lift, ran, on_store, on_pure, on_record (moved_present matrix drone pose)]

theorem serve_singles (flights : Flights matrix plans outcomes last) (sound : fleet.Sound)
    (standing : fleet.standing? matrix.id = some matrix) {requests : List Request}
    (asks : List.Forall₂ Request.Asks plans requests) :
    fleet.serve (requests.map (false, ·)) = fleet.store last := by
  induction flights generalizing fleet requests with
  | nil matrix =>
    cases asks
    exact (store_self standing).symm
  | @cons matrix last drone commands outcome pose ahead outcomes present ran told rest ih =>
    obtain _ | ⟨⟨input, rfl, parsed⟩, asks⟩ := asks
    have answered := dispatch_single sound standing present ran parsed
    have kept := dispatch_sound sound false (.droneCommands drone.id input)
    rw [answered] at kept
    have stored : (fleet.store (matrix.moved drone pose)).standing? matrix.id =
        some (matrix.moved drone pose) := by
      rw [store_standing?]
      exact if_pos rfl
    rw [List.map_cons, serve, List.foldl_cons, answered]
    exact (ih kept stored asks).trans (store_store fleet rest.id_eq)

theorem serve_take_succ (fleet : Fleet) {requests : List Request} {count : Nat} {request : Request}
    (here : requests[count]? = some request) :
    fleet.serve ((requests.take (count + 1)).map (false, ·)) =
      ((fleet.serve ((requests.take count).map (false, ·))).dispatch false request).2 := by
  rw [List.take_add_one, here, Option.toList_some, List.map_append, serve, List.foldl_append]
  rfl

theorem solo_first {plan : Plan} {ahead : List Plan} {entry : DroneOutcome}
    (flights : Flights matrix (plan :: ahead) (entry :: outcomes) last) (sound : fleet.Sound)
    (standing : fleet.standing? matrix.id = some matrix) {request : Request}
    (asks : request.Asks plan) : fleet.Solo request entry (fleet.dispatch false request).2 := by
  obtain _ | ⟨present, ran, told, rest⟩ := flights
  obtain ⟨input, rfl, parsed⟩ := asks
  have answered := dispatch_single sound standing present ran parsed
  rw [answered]
  exact .flown standing present told answered

theorem standing_landed (flights : Flights matrix plans outcomes last) (sound : fleet.Sound)
    (standing : fleet.standing? matrix.id = some matrix)
    (distinct : (plans.map (·.droneId)).Nodup)
    (aboard : ∀ plan ∈ plans, matrix.owns plan.droneId = true) {id : Nat} {other : Matrix}
    (there : fleet.standing? id = some other) :
    ∃ seen, (fleet.store last).standing? id = some seen ∧
      ∀ drone, seen.drone? drone = (other.drone? drone).map (landed outcomes) := by
  rw [store_standing?, flights.id_eq]
  by_cases same : id = matrix.id
  · subst same
    obtain rfl := Option.some.inj (standing.symm.trans there)
    exact ⟨last, if_pos rfl, flights.drone? (sound.standing standing).2 distinct⟩
  · refine ⟨other, by rw [if_neg same, there], fun drone => ?_⟩
    cases found : other.drone? drone with
    | none => rfl
    | some record =>
      have name := ((sound.standing there).2.named drone record found).1
      refine (congrArg some (landed_of_not_mem fun listed => same ?_)).symm
      rw [flights.ids, name] at listed
      obtain ⟨plan, member, rfl⟩ := List.mem_map.mp listed
      exact sound.single _ _ _ ((standing_houses there).mpr (owns_iff.mpr ⟨record, found⟩))
        ((standing_houses standing).mpr (aboard plan member))

/-- A request for several drones that is accepted tells and does the same as the requests for one
drone each that it stands for, made one after another. When one of them has its turn, the drones
before it stand where they ended, and all others, on whatever matrix, where they were at the start;
whether it completes or is rejected, nothing changes but where it stands. -/
theorem dispatch_singles {start : Fleet} (sound : start.Sound) (calls : List (Bool × Request))
    {request : Request} {matrixId : Option Nat} {ids : List Nat}
    (several : request.several? = some (matrixId, ids))
    (accepted : ((start.serve calls).dispatch false request).1.isError = false) :
    let fleet := start.serve calls
    let after (count : Nat) := fleet.serve ((request.singles.take count).map (false, ·))
    ∃ report : BatchReport, fleet.dispatch false request =
        (.batch report, after request.singles.length) ∧
      report.outcomes.map (·.droneId) = ids ∧ request.singles.length = ids.length ∧
      (∀ count single entry, request.singles[count]? = some single →
        report.outcomes[count]? = some entry → (after count).Solo single entry (after (count + 1))) ∧
      ∀ count id matrix, fleet.standing? id = some matrix →
        ∃ seen, (after count).standing? id = some seen ∧ ∀ drone, seen.drone? drone =
          (matrix.drone? drone).map (landed (report.outcomes.take count)) := by
  intro fleet after
  have whole : fleet.Sound := serve_sound sound calls
  have clear : ∀ refusal, ¬ Foremost (reasons fleet request matrixId ids) refusal := by
    intro refusal foremost
    rw [dispatch_refuses whole several foremost] at accepted
    cases accepted
  obtain ⟨plans, matrix, outcomes, last, flies, listed, mustered, flown, answered, left⟩ :=
    dispatch_carried whole several clear
  have standing := mustered.standing
  obtain ⟨others, other, flights⟩ := flights_exist (whole.standing standing).2 mustered.aboard
  obtain ⟨rfl, rfl⟩ := flown.unique flights.flown
  have asks := flies.singles
  have reaches : ∀ count, ∃ middle, after count = fleet.store middle ∧
      Flights matrix (plans.take count) (others.take count) middle ∧
      Flights middle (plans.drop count) (others.drop count) other := by
    intro count
    obtain ⟨middle, front, back⟩ := flights.split count
    exact ⟨middle, serve_singles front whole standing (List.forall₂_take count asks), front, back⟩
  refine ⟨.of others other, ?_, flights.ids.trans listed, ?_, ?_, ?_⟩
  · rw [Prod.ext_iff]
    refine ⟨answered, left.trans ?_⟩
    rw [← serve_singles flights whole standing asks]
    simp only [after, List.take_length]
  · rw [← asks.length_eq, ← listed, List.length_map]
  · intro count single entry here (there : others[count]? = some entry)
    obtain ⟨middle, reached, front, back⟩ := reaches count
    have ahead := List.forall₂_drop count asks
    rw [@List.drop_eq_getElem?_toList_append _ request.singles, here] at ahead
    rw [@List.drop_eq_getElem?_toList_append _ others, there] at back
    generalize plans.drop count = left at ahead back
    obtain _ | ⟨asked, _⟩ := ahead
    have stored : (after count).standing? middle.id = some middle := by
      rw [reached, store_standing?, if_pos rfl]
    rw [show after (count + 1) = _ from serve_take_succ fleet here]
    exact solo_first back (serve_sound whole _) stored asked
  · intro count id other there
    obtain ⟨middle, reached, front, _⟩ := reaches count
    rw [reached]
    refine standing_landed front whole standing ?_ ?_ there
    · rw [List.map_take]
      exact mustered.distinct.sublist (List.take_sublist count _)
    · exact fun plan member => mustered.aboard plan (List.mem_of_mem_take member)

/-- Three drones in a corner. The first faces the second, and the third faces where the second is
heading for. -/
def corner : List (Bool × Request) :=
  [(false, .createMatrix 4 4), (false, .createDrone ⟨"", "", ⟨0, 0, .east⟩, 1⟩),
    (false, .createDrone ⟨"", "", ⟨1, 0, .north⟩, 1⟩),
    (false, .createDrone ⟨"", "", ⟨0, 1, .east⟩, 1⟩)]

def stepping : Request := .matrixDroneCommands none [1, 2, 3] (.text "A")

/-- The first meets the second where it started, the third where it ended. -/
theorem dispatch_singles_stepping :
    empty.Sound ∧ stepping.several? = some (none, [1, 2, 3]) ∧
      ((empty.serve corner).dispatch false stepping).1.isError = false ∧
      ∃ report : BatchReport,
        (empty.serve corner).dispatch false stepping = (.batch report, (empty.serve corner).serve
          [(false, .droneCommands 1 (.text "A")), (false, .droneCommands 2 (.text "A")),
            (false, .droneCommands 3 (.text "A"))]) ∧
        report.outcomes = [⟨1, .rejected 0 .collisionRisk ⟨0, 0, .east⟩ (some 2)⟩,
          ⟨2, .completed ⟨1, 1, .north⟩⟩, ⟨3, .rejected 0 .collisionRisk ⟨0, 1, .east⟩ (some 2)⟩] := by
  have accepted : ((empty.serve corner).dispatch false stepping).1.isError = false := by
    decide +kernel
  obtain ⟨report, answered, _⟩ := dispatch_singles empty_sound corner rfl accepted
  have told : ((empty.serve corner).dispatch false stepping).1 = .batch
      ⟨[⟨1, .rejected 0 .collisionRisk ⟨0, 0, .east⟩ (some 2)⟩, ⟨2, .completed ⟨1, 1, .north⟩⟩,
        ⟨3, .rejected 0 .collisionRisk ⟨0, 1, .east⟩ (some 2)⟩],
        [⟨2, "", "", ⟨1, 1, .north⟩, 1⟩]⟩ := by decide +kernel
  refine ⟨empty_sound, rfl, accepted, report, answered, ?_⟩
  rw [answered, Response.batch.injEq] at told
  rw [told]

end Fleet

end DroneFleet
