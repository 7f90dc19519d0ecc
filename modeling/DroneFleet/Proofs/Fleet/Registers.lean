import DroneFleet.Proofs.Fleet.Readings

/-!
The numbers of matrices and drones over a whole run. Each kind has a register with numbers of its own.
A request enters the next number there, strikes one that it has, or leaves the register alone
(`Register.Turn`). A number below the last one that is not in the register has gone for good
(`Register.Gone`), and from then on nothing is shown of it and nothing granted for it.
-/
namespace DroneFleet

def Fleet.transcript (fleet : Fleet) : List (Bool × Request) → List (Request × Response)
  | [] => []
  | call :: rest =>
    let (response, after) := fleet.dispatch call.1 call.2
    (call.2, response) :: after.transcript rest

inductive Register where
  | matrices
  | drones

namespace Register

def last (fleet : Fleet) : Register → Nat
  | matrices => fleet.lastMatrix
  | drones => fleet.lastDrone

def lists (fleet : Fleet) (id : Nat) : Register → Bool
  | matrices => (fleet.matrix? id).isSome
  | drones => (fleet.drone? id).isSome

def creates : Register → Request → Bool
  | matrices, .createMatrix _ _ => true
  | drones, .createDrone _ => true
  | _, _ => false

def deletes : Register → Request → Bool
  | matrices, .deleteMatrix _ => true
  | drones, .deleteDrone _ => true
  | _, _ => false

def named? : Register → Response → Option Nat
  | matrices, .matrix view => some view.id
  | drones, .drone record => some record.id
  | _, _ => none

def mentioned (response : Response) : Register → List Nat
  | matrices => response.views.map (·.id) ++ response.shown.map (·.matrixId)
  | drones => response.shown.map (·.id)

def addressed : Register → Request → List Nat
  | matrices, .getMatrix id => [id]
  | matrices, .updateMatrix id _ _ => [id]
  | matrices, .deleteMatrix id => [id]
  | matrices, .createDrone new => [new.matrixId]
  | matrices, .updateDrone _ changes => changes.matrixId.toList
  | matrices, .matrixDroneCommands matrixId _ _ => matrixId.toList
  | matrices, .batchCommands matrixId _ => matrixId.toList
  | drones, .getDrone id => [id]
  | drones, .updateDrone id _ => [id]
  | drones, .deleteDrone id => [id]
  | drones, .droneCommands droneId _ => [droneId]
  | drones, .matrixDroneCommands _ droneIds _ => droneIds
  | drones, .batchCommands _ entries => entries.map (·.droneId)
  | _, _ => []

inductive Manages (id : Nat) : Register → Request → Prop
  | getMatrix : Manages id matrices (.getMatrix id)
  | updateMatrix (maxX maxY : UInt32) : Manages id matrices (.updateMatrix id maxX maxY)
  | deleteMatrix : Manages id matrices (.deleteMatrix id)
  | getDrone : Manages id drones (.getDrone id)
  | updateDrone (changes : DroneChanges) : Manages id drones (.updateDrone id changes)
  | deleteDrone : Manages id drones (.deleteDrone id)

def unknown (id : Nat) : Register → Refusal
  | matrices => .unknownMatrix id
  | drones => .unknownDrone id

def made (register : Register) (call : Request × Response) : Bool :=
  register.creates call.1 && !call.2.isError

def Enters (register : Register) (id : Nat) (call : Request × Response) : Prop :=
  register.made call = true ∧ register.named? call.2 = some id

def Strikes (register : Register) (id : Nat) (call : Request × Response) : Prop :=
  register.deletes call.1 = true ∧ call.2 = .deleted id

/-- Nothing is shown of the number and nothing is granted for it. -/
structure Bygone (register : Register) (id : Nat) (call : Request × Response) : Prop where
  unmentioned : id ∉ register.mentioned call.2
  refused : id ∈ register.addressed call.1 → call.2.isError = true
  unknown : register.Manages id call.1 → call.2 = .ofRefusal (register.unknown id)

structure Gone (register : Register) (fleet : Fleet) (id : Nat) : Prop where
  given : id ≤ register.last fleet
  unlisted : register.lists fleet id = false

inductive Turn (register : Register) (before after : Fleet) (call : Request × Response) : Prop
  | entered (enters : register.Enters (register.last after) call)
      (next : register.last after = register.last before + 1)
      (there : register.lists after (register.last after) = true)
      (others : ∀ id ≠ register.last after, register.lists after id = register.lists before id)
  | struck {id : Nat} (unmade : register.made call = false) (strikes : register.Strikes id call)
      (same : register.last after = register.last before)
      (known : register.lists before id = true) (gone : register.lists after id = false)
      (others : ∀ other ≠ id, register.lists after other = register.lists before other)
  | kept (unmade : register.made call = false) (stays : ∀ id, ¬ register.Strikes id call)
      (same : register.last after = register.last before)
      (alike : ∀ id, register.lists after id = register.lists before id)

variable {register : Register} {before after : Fleet} {id : Nat}

/-! ### What is in a register -/

theorem lists_matrices : matrices.lists after id = true ↔ ∃ matrix, after.matrix? id = some matrix :=
  Option.isSome_iff_exists

theorem lists_drones : drones.lists after id = true ↔ ∃ drone, after.drone? id = some drone :=
  Option.isSome_iff_exists

theorem lacks_matrix : matrices.lists after id = false ↔ after.matrix? id = none :=
  Option.isSome_eq_false_iff.trans Option.isNone_iff_eq_none

theorem lacks_drone : drones.lists after id = false ↔ after.drone? id = none :=
  Option.isSome_eq_false_iff.trans Option.isNone_iff_eq_none

theorem le_last (sound : after.Sound) (listed : register.lists after id = true) :
    id ≤ register.last after := by
  cases register with
  | matrices =>
    obtain ⟨matrix, found⟩ := lists_matrices.mp listed
    exact sound.numbered _ _ (Fleet.standing?_eq_some.mp (Fleet.standing_of_matrix? found))
  | drones =>
    obtain ⟨drone, known⟩ := lists_drones.mp listed
    exact sound.enrolled _ _ (sound.houses_iff.mpr ⟨drone, known, rfl⟩)

theorem lists_home (sound : after.Sound) {drone : Drone} (known : after.drone? id = some drone) :
    matrices.lists after drone.matrixId = true := by
  obtain ⟨_, matrix, standing, _, there⟩ := sound.aboard known
  exact lists_matrices.mpr ⟨matrix, there ▸ sound.matrix? standing⟩

theorem lists_mentioned (sound : after.Sound) {response : Response}
    (current : response.Current after) :
    ∀ id ∈ register.mentioned response, register.lists after id = true := by
  intro id member
  cases register with
  | matrices =>
    rcases List.mem_append.mp member with viewed | recorded
    · obtain ⟨view, listed, rfl⟩ := List.mem_map.mp viewed
      obtain ⟨matrix, found, _⟩ := current.views view listed
      exact lists_matrices.mpr ⟨matrix, found⟩
    · obtain ⟨record, listed, rfl⟩ := List.mem_map.mp recorded
      exact lists_home sound (current.records record listed)
  | drones =>
    obtain ⟨record, listed, rfl⟩ := List.mem_map.mp member
    exact lists_drones.mpr ⟨record, current.records record listed⟩

theorem spares_matrices {home : Nat} {ids : List Nat} (spares : before.Spares [home] ids after) :
    ∀ other ≠ home, matrices.lists after other = matrices.lists before other := by
  intro other apart
  have outside := List.mem_singleton.not.mpr apart
  simp only [lists, Fleet.matrix?, Fleet.standing?, spares.listed other outside,
    spares.slots other outside]

theorem regroups_matrices {homes ids : List Nat} (regroups : before.Regroups homes ids after)
    (id : Nat) : matrices.lists after id = matrices.lists before id := by
  have same := congrArg Option.isSome (regroups.bounds id)
  rwa [Fleet.bounds?, Fleet.bounds?, Option.isSome_map, Option.isSome_map] at same

theorem spares_drones {homes ids : List Nat} (spares : before.Spares homes ids after)
    (outside : id ∉ ids) : drones.lists after id = drones.lists before id :=
  congrArg Option.isSome (spares.records id outside)

theorem spares_drone {homes : List Nat} {drone : Nat} (spares : before.Spares homes [drone] after) :
    ∀ other ≠ drone, drones.lists after other = drones.lists before other :=
  fun _ apart => spares_drones spares (List.mem_singleton.not.mpr apart)

theorem moves_alike {ids : List Nat} (moves : Fleet.Moves ids before after) (id : Nat) :
    register.lists after id = register.lists before id := by
  obtain ⟨home, regroups, _, moved⟩ := moves
  cases register with
  | matrices => exact regroups_matrices regroups id
  | drones =>
    by_cases member : id ∈ ids
    · obtain ⟨drone, pose, known, _, known'⟩ := moved id member
      simp only [lists, known, known', Option.isSome_some]
    · exact spares_drones regroups.toSpares member

theorem moves_last {ids : List Nat} (moves : Fleet.Moves ids before after) :
    register.last after = register.last before := by
  obtain ⟨home, regroups, _⟩ := moves
  cases register with
  | matrices => exact regroups.lastMatrix
  | drones => exact regroups.lastDrone

theorem alike_of_known (known : register.lists before id = true)
    (there : register.lists after id = true)
    (others : ∀ other ≠ id, register.lists after other = register.lists before other) (other : Nat) :
    register.lists after other = register.lists before other := by
  by_cases here : other = id
  · rw [here, known, there]
  · exact others other here

/-! ### One request -/

theorem Turn.plain {request : Request} {response : Response}
    (neither : register.creates request = false ∧ register.deletes request = false)
    (same : register.last after = register.last before)
    (alike : ∀ id, register.lists after id = register.lists before id) :
    register.Turn before after (request, response) := by
  refine .kept ?_ ?_ same alike
  · rw [made, neither.1, Bool.false_and]
  · rintro id ⟨asked, _⟩
    exact Bool.false_ne_true (neither.2.symm.trans asked)

theorem turn_of_does (sound : after.Sound) {request : Request} {response : Response}
    (tells : request.Tells before after response) (effects : request.Effects before after) :
    register.Turn before after (request, response) := by
  cases register with
  | matrices =>
    cases request with
    | listMatrices | getMatrix | listDrones | getDrone =>
      cases effects
      exact .plain ⟨rfl, rfl⟩ rfl fun _ => rfl
    | createMatrix maxX maxY =>
      obtain ⟨number, matrix, found, rfl⟩ := tells
      obtain ⟨id, _, _, _, spares⟩ := effects
      obtain rfl : after.lastMatrix = id := spares.lastMatrix
      have name := (sound.standing (Fleet.standing_of_matrix? found)).1
      refine .entered ⟨rfl, congrArg some name⟩ number (lists_matrices.mpr ⟨matrix, found⟩) ?_
      -- To raise a counter does not change what is listed.
      exact fun other apart => (spares_matrices spares other apart).trans rfl
    | updateMatrix id maxX maxY =>
      obtain ⟨matrix, found, found', spares⟩ := effects
      exact .plain ⟨rfl, rfl⟩ spares.lastMatrix (alike_of_known
        (lists_matrices.mpr ⟨matrix, found⟩) (lists_matrices.mpr ⟨_, found'⟩) (spares_matrices spares))
    | deleteMatrix id =>
      cases tells
      obtain ⟨known, _, gone, spares⟩ := effects
      refine .struck rfl ⟨rfl, rfl⟩ spares.lastMatrix (lists_matrices.mpr known) ?_ ?_
      · exact lacks_matrix.mpr gone
      · exact spares_matrices spares
    | createDrone new =>
      obtain ⟨id, _, _, _, regroups⟩ := effects
      refine .plain ⟨rfl, rfl⟩ regroups.lastMatrix ?_
      exact fun other => (regroups_matrices regroups other).trans rfl
    | updateDrone id changes =>
      obtain ⟨old, _, _, regroups⟩ := effects
      exact .plain ⟨rfl, rfl⟩ regroups.lastMatrix (regroups_matrices regroups)
    | deleteDrone id =>
      obtain ⟨drone, _, _, _, regroups⟩ := effects
      exact .plain ⟨rfl, rfl⟩ regroups.lastMatrix (regroups_matrices regroups)
    | droneCommands | matrixDroneCommands | batchCommands =>
      exact .plain ⟨rfl, rfl⟩ (moves_last effects) (moves_alike effects)
  | drones =>
    cases request with
    | listMatrices | getMatrix | listDrones | getDrone =>
      cases effects
      exact .plain ⟨rfl, rfl⟩ rfl fun _ => rfl
    | createMatrix maxX maxY =>
      obtain ⟨id, _, _, _, spares⟩ := effects
      refine .plain ⟨rfl, rfl⟩ spares.lastDrone ?_
      exact fun other => (spares_drones spares List.not_mem_nil).trans rfl
    | updateMatrix id maxX maxY =>
      obtain ⟨matrix, _, _, spares⟩ := effects
      exact .plain ⟨rfl, rfl⟩ spares.lastDrone fun _ => spares_drones spares List.not_mem_nil
    | deleteMatrix id =>
      obtain ⟨_, _, _, spares⟩ := effects
      exact .plain ⟨rfl, rfl⟩ spares.lastDrone fun _ => spares_drones spares List.not_mem_nil
    | createDrone new =>
      obtain ⟨number, drone, known, rfl⟩ := tells
      obtain ⟨id, _, _, _, regroups⟩ := effects
      obtain rfl : after.lastDrone = id := regroups.lastDrone
      refine .entered ⟨rfl, congrArg some (sound.aboard known).1⟩ number
        (lists_drones.mpr ⟨drone, known⟩) ?_
      exact fun other apart => (spares_drone regroups.toSpares other apart).trans rfl
    | updateDrone id changes =>
      obtain ⟨old, known, known', regroups⟩ := effects
      exact .plain ⟨rfl, rfl⟩ regroups.lastDrone (alike_of_known (lists_drones.mpr ⟨old, known⟩)
        (lists_drones.mpr ⟨_, known'⟩) (spares_drone regroups.toSpares))
    | deleteDrone id =>
      cases tells
      obtain ⟨drone, known, gone, _, regroups⟩ := effects
      refine .struck rfl ⟨rfl, rfl⟩ regroups.lastDrone (lists_drones.mpr ⟨drone, known⟩) ?_ ?_
      · exact lacks_drone.mpr gone
      · exact spares_drone regroups.toSpares
    | droneCommands | matrixDroneCommands | batchCommands =>
      exact .plain ⟨rfl, rfl⟩ (moves_last effects) (moves_alike effects)

theorem dispatch_turn (sound : before.Sound) (grounded : Bool) (request : Request) :
    register.Turn before (before.dispatch grounded request).2
      (request, (before.dispatch grounded request).1) := by
  have kept := Fleet.dispatch_sound sound grounded request
  rcases Fleet.dispatch_does sound grounded request with
    ⟨refusal, refused⟩ | ⟨_, _, granted, tells, effects⟩
  · rw [refused]
    refine .kept (Bool.and_false _) ?_ rfl fun _ => rfl
    rintro id ⟨_, told⟩
    cases told
  · rw [granted] at kept ⊢
    exact turn_of_does kept tells effects

/-! ### What follows for one number -/

variable {call : Request × Response}

theorem Enters.not_strikes {other : Nat} (enters : register.Enters id call) :
    ¬ register.Strikes other call := by
  rintro ⟨_, told⟩
  have named := enters.2
  rw [told] at named
  cases register <;> cases named

theorem Turn.next (turn : register.Turn before after call) (made : register.made call = true) :
    register.named? call.2 = some (register.last after) ∧
      register.last after = register.last before + 1 := by
  cases turn with
  | entered enters next => exact ⟨enters.2, next⟩
  | struck unmade | kept unmade => exact absurd (unmade.symm.trans made) Bool.false_ne_true

theorem Turn.same (turn : register.Turn before after call) (unmade : register.made call = false) :
    register.last after = register.last before := by
  cases turn with
  | entered enters => exact absurd (unmade.symm.trans enters.1) Bool.false_ne_true
  | struck _ _ same | kept _ _ same => exact same

theorem Turn.last_le (turn : register.Turn before after call) :
    register.last before ≤ register.last after := by
  cases made : register.made call with
  | true => exact (turn.next made).2 ▸ Nat.le_succ _
  | false => exact Nat.le_of_eq (turn.same made).symm

theorem Turn.lists_iff (turn : register.Turn before after call) (id : Nat) :
    register.lists after id = true ↔
      (register.lists before id = true ∨ register.Enters id call) ∧ ¬ register.Strikes id call := by
  cases turn with
  | entered enters next there others =>
    by_cases here : id = register.last after
    · subst here
      exact ⟨fun _ => ⟨.inr enters, enters.not_strikes⟩, fun _ => there⟩
    · rw [others id here]
      refine ⟨fun listed => ⟨.inl listed, enters.not_strikes⟩, ?_⟩
      rintro ⟨listed | again, _⟩
      · exact listed
      · exact absurd (Option.some.inj (again.2.symm.trans enters.2)) here
  | @struck struck unmade strikes same known gone others =>
    by_cases here : id = struck
    · subst here
      rw [gone]
      exact ⟨fun listed => absurd listed Bool.false_ne_true, fun ⟨_, stays⟩ => absurd strikes stays⟩
    · rw [others id here]
      refine ⟨fun listed => ⟨.inl listed, fun again => here ?_⟩, ?_⟩
      · exact Response.deleted.inj (again.2.symm.trans strikes.2)
      · rintro ⟨listed | enters, _⟩
        · exact listed
        · exact absurd strikes enters.not_strikes
  | kept unmade stays same alike =>
    rw [alike id]
    refine ⟨fun listed => ⟨.inl listed, stays id⟩, ?_⟩
    rintro ⟨listed | enters, _⟩
    · exact listed
    · exact absurd (unmade.symm.trans enters.1) Bool.false_ne_true

theorem Turn.strikes_gone (turn : register.Turn before after call) (sound : before.Sound)
    (strikes : register.Strikes id call) : register.Gone after id := by
  have unlisted : register.lists after id = false :=
    Bool.eq_false_iff.mpr fun listed => ((turn.lists_iff id).mp listed).2 strikes
  refine ⟨?_, unlisted⟩
  cases turn with
  | entered enters => exact absurd strikes enters.not_strikes
  | struck unmade strikes' same known =>
    obtain rfl := Response.deleted.inj (strikes'.2.symm.trans strikes.2)
    exact same ▸ le_last sound known
  | kept unmade stays => exact absurd strikes (stays id)

/-- A new number is above those that have gone, so none of them comes back. -/
theorem Turn.gone (turn : register.Turn before after call) (gone : register.Gone before id) :
    register.Gone after id := by
  refine ⟨Nat.le_trans gone.given turn.last_le, Bool.eq_false_iff.mpr fun listed => ?_⟩
  rcases ((turn.lists_iff id).mp listed).1 with old | enters
  · exact Bool.false_ne_true (gone.unlisted.symm.trans old)
  · obtain ⟨named, next⟩ := turn.next enters.1
    have number := Option.some.inj (enters.2.symm.trans named)
    have given := gone.given
    omega

/-! ### Requests that name a number -/

theorem moves_known {ids : List Nat} (moves : Fleet.Moves ids before after) :
    ∀ id ∈ ids, drones.lists before id = true := by
  intro id member
  obtain ⟨home, _, _, moved⟩ := moves
  obtain ⟨drone, _, known, _⟩ := moved id member
  exact lists_drones.mpr ⟨drone, known⟩

theorem reports_known {ids : List Nat} (moves : Fleet.Moves ids before after) {named : Option Nat}
    {response : Response} (reports : after.Reports named response) :
    ∀ id ∈ named.toList, matrices.lists before id = true := by
  intro id member
  obtain ⟨_, matrix, same, found, _⟩ := reports
  obtain rfl := same id (Option.mem_toList.mp member)
  exact (moves_alike moves _).symm.trans (lists_matrices.mpr ⟨matrix, found⟩)

theorem lists_addressed (sound : after.Sound) {request : Request} {response : Response}
    (tells : request.Tells before after response) (effects : request.Effects before after) :
    ∀ id ∈ register.addressed request, register.lists before id = true := by
  intro id member
  cases register with
  | matrices =>
    cases request with
    | getMatrix home =>
      obtain rfl := List.mem_singleton.mp member
      obtain ⟨matrix, found, _⟩ := tells
      cases effects
      exact lists_matrices.mpr ⟨matrix, found⟩
    | updateMatrix home maxX maxY =>
      obtain rfl := List.mem_singleton.mp member
      obtain ⟨matrix, found, _⟩ := effects
      exact lists_matrices.mpr ⟨matrix, found⟩
    | deleteMatrix home =>
      obtain rfl := List.mem_singleton.mp member
      exact lists_matrices.mpr effects.1
    | createDrone new =>
      obtain rfl := List.mem_singleton.mp member
      obtain ⟨_, _, _, known, regroups⟩ := effects
      exact (regroups_matrices regroups _).symm.trans (lists_home sound known)
    | updateDrone drone changes =>
      obtain ⟨old, _, known, regroups⟩ := effects
      have there := lists_home sound known
      rw [regroups_matrices regroups, DroneChanges.applied, Option.mem_toList.mp member,
        Option.getD_some] at there
      exact there
    | matrixDroneCommands | batchCommands => exact reports_known effects tells id member
    | _ => cases member
  | drones =>
    cases request with
    | getDrone drone =>
      obtain rfl := List.mem_singleton.mp member
      obtain ⟨record, known, _⟩ := tells
      cases effects
      exact lists_drones.mpr ⟨record, known⟩
    | updateDrone drone changes =>
      obtain rfl := List.mem_singleton.mp member
      obtain ⟨old, known, _⟩ := effects
      exact lists_drones.mpr ⟨old, known⟩
    | deleteDrone drone =>
      obtain rfl := List.mem_singleton.mp member
      obtain ⟨record, known, _⟩ := effects
      exact lists_drones.mpr ⟨record, known⟩
    | droneCommands | matrixDroneCommands | batchCommands => exact moves_known effects id member
    | _ => cases member

theorem Manages.dispatch {request : Request} (manages : register.Manages id request)
    (sound : before.Sound) (absent : register.lists before id = false) (grounded : Bool) :
    (before.dispatch grounded request).1 = .ofRefusal (register.unknown id) := by
  have missing : register = matrices →
      (Handling.seek id).on before = (.error (.unknownMatrix id), before) := by
    rintro rfl
    exact Handling.on_seek_missing (lacks_matrix.mp absent)
  have nowhere : register = drones →
      (Handling.home id).on before = (.error (.unknownDrone id), before) := by
    rintro rfl
    have nobody := sound.unrecorded.mp (lacks_drone.mp absent)
    exact Handling.on_home_unowned (sound.nowhere.mp nobody)
  have refuses : (request.handle grounded).on before = (.error (register.unknown id), before) := by
    cases manages with
    | getMatrix => exact Handling.on_refused (missing rfl) _
    | updateMatrix maxX maxY => exact Handling.on_refused (missing rfl) _
    | deleteMatrix => exact Handling.on_refused (missing rfl) _
    | getDrone => exact Handling.on_refused (nowhere rfl) _
    | updateDrone changes => exact Handling.on_refused (Handling.on_refused (nowhere rfl) _) _
    | deleteDrone => exact Handling.on_refused (nowhere rfl) _
  rw [Fleet.dispatch_error refuses]

theorem Gone.bygone (gone : register.Gone before id) (sound : before.Sound) (grounded : Bool)
    (request : Request) :
    register.Bygone id (request, (before.dispatch grounded request).1) := by
  have kept := Fleet.dispatch_sound sound grounded request
  have stays := (dispatch_turn sound grounded request).gone gone
  refine ⟨fun mentioned => ?_, fun addressed => ?_, fun manages => ?_⟩
  · have listed := lists_mentioned kept (Fleet.dispatch_current sound grounded request) id mentioned
    exact Bool.false_ne_true (stays.unlisted.symm.trans listed)
  · rcases Fleet.dispatch_does sound grounded request with
      ⟨refusal, refused⟩ | ⟨_, _, granted, tells, effects⟩
    · rw [refused]
      rfl
    · rw [granted] at kept
      have listed := lists_addressed kept tells effects id addressed
      exact absurd (gone.unlisted.symm.trans listed) Bool.false_ne_true
  · exact manages.dispatch sound gone.unlisted grounded

/-! ### Whole runs -/

open Fleet

variable {fleet : Fleet}

theorem transcript_numbered (sound : fleet.Sound) (calls : List (Bool × Request)) {n : Nat}
    (here : ((fleet.transcript calls).filter register.made)[n]? = some call) :
    register.named? call.2 = some (register.last fleet + n + 1) := by
  induction calls generalizing fleet n with
  | nil => cases here
  | cons head rest ih =>
    have turn : register.Turn fleet _ _ := dispatch_turn sound head.1 head.2
    have kept := dispatch_sound sound head.1 head.2
    rw [transcript, List.filter_cons] at here
    split at here
    · rename_i made
      obtain ⟨named, next⟩ := turn.next made
      cases n with
      | zero =>
        cases here
        rw [named, next]
      | succ n => rw [ih kept here, next, Nat.add_right_comm _ 1 n, Nat.add_assoc _ n 1]
    · rename_i unmade
      rw [ih kept here, turn.same (Bool.eq_false_iff.mpr unmade)]

theorem transcript_fresh (sound : fleet.Sound) (calls : List (Bool × Request)) :
    ∀ call ∈ fleet.transcript calls, register.Enters id call → register.last fleet < id := by
  intro call member enters
  obtain ⟨n, here⟩ := List.mem_iff_getElem?.mp (List.mem_filter.mpr ⟨member, enters.1⟩)
  have number := Option.some.inj (enters.2.symm.trans (transcript_numbered sound calls here))
  omega

/-- What is in the register in the end: what was there or has been made on the way, less what has been
deleted. What has been deleted is not made again, so the order does not matter. -/
theorem transcript_lists (sound : fleet.Sound) (calls : List (Bool × Request)) (id : Nat) :
    register.lists (fleet.serve calls) id = true ↔
      (register.lists fleet id = true ∨ ∃ call ∈ fleet.transcript calls, register.Enters id call) ∧
        ∀ call ∈ fleet.transcript calls, ¬ register.Strikes id call := by
  induction calls generalizing fleet with
  | nil => simp [serve, transcript]
  | cons head rest ih =>
    have turn : register.Turn fleet _ _ := dispatch_turn sound head.1 head.2
    have kept := dispatch_sound sound head.1 head.2
    have once : (∃ call ∈ (fleet.dispatch head.1 head.2).2.transcript rest, register.Enters id call) →
        ¬ register.Strikes id (head.2, (fleet.dispatch head.1 head.2).1) := by
      rintro ⟨call, member, enters⟩ strikes
      exact Nat.not_lt_of_le (turn.strikes_gone sound strikes).given
        (transcript_fresh kept rest call member enters)
    rw [show fleet.serve (head :: rest) = (fleet.dispatch head.1 head.2).2.serve rest from rfl,
      ih kept, turn.lists_iff]
    simp only [transcript, List.mem_cons, exists_eq_or_imp, forall_eq_or_imp]
    constructor
    · rintro ⟨⟨listed, stays⟩ | later, never⟩
      · exact ⟨or_assoc.mp (.inl listed), stays, never⟩
      · exact ⟨.inr (.inr later), once later, never⟩
    · rintro ⟨listed, stays, never⟩
      rcases or_assoc.mpr listed with here | later
      · exact ⟨.inl ⟨here, stays⟩, never⟩
      · exact ⟨.inr later, never⟩

theorem Gone.transcript (gone : register.Gone fleet id) (sound : fleet.Sound)
    (calls : List (Bool × Request)) :
    ∀ call ∈ fleet.transcript calls, register.Bygone id call := by
  induction calls generalizing fleet with
  | nil => exact List.forall_mem_nil _
  | cons head rest ih =>
    have turn : register.Turn fleet _ _ := dispatch_turn sound head.1 head.2
    refine List.forall_mem_cons.mpr ⟨gone.bygone sound head.1 head.2, ?_⟩
    exact ih (turn.gone gone) (dispatch_sound sound head.1 head.2)

theorem transcript_bygone (sound : fleet.Sound) (calls : List (Bool × Request)) :
    (fleet.transcript calls).Pairwise fun earlier later =>
      ∀ id, register.Strikes id earlier → register.Bygone id later := by
  induction calls generalizing fleet with
  | nil => exact .nil
  | cons head rest ih =>
    have turn : register.Turn fleet _ _ := dispatch_turn sound head.1 head.2
    have kept := dispatch_sound sound head.1 head.2
    refine .cons (fun later member id strikes => ?_) (ih kept)
    exact (turn.strikes_gone sound strikes).transcript kept rest later member

/-- Over a whole run from an empty fleet, the matrices that are made have the numbers from one upwards
without a gap, and so have the drones, whatever is refused, deleted, moved or flown in between. What
there is in the end is what has been made and not deleted. Once a number has been answered as deleted,
no later answer shows it, whatever names it is refused, and to get, update or delete it is refused as
unknown. -/
theorem transcript_registered (calls : List (Bool × Request)) (register : Register) :
    let run := Fleet.empty.transcript calls
    (∀ n call, (run.filter register.made)[n]? = some call →
      register.named? call.2 = some (n + 1)) ∧
    (∀ id, register.lists (Fleet.empty.serve calls) id = true ↔
      (∃ call ∈ run, register.Enters id call) ∧ ∀ call ∈ run, ¬ register.Strikes id call) ∧
    run.Pairwise fun earlier later =>
      ∀ id, register.Strikes id earlier → register.Bygone id later := by
  intro run
  have nothing : ∀ id, ¬ register.lists Fleet.empty id = true := by
    intro id
    cases register <;> exact Bool.false_ne_true
  have start : register.last Fleet.empty = 0 := by cases register <;> rfl
  refine ⟨fun n call here => ?_, fun id => ?_, transcript_bygone empty_sound calls⟩
  · rw [transcript_numbered empty_sound calls here, start, Nat.zero_add]
  · exact (transcript_lists empty_sound calls id).trans
      (and_congr_left fun _ => or_iff_right (nothing id))

end Register

end DroneFleet
