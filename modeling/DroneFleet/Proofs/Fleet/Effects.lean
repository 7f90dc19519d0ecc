import DroneFleet.Proofs.Fleet.Sorties
import DroneFleet.Proofs.Fleet.Updates

/-!
What each kind of request changes, and that it changes nothing else. A request writes to the matrices
that it is for, and there only to the drones that it is for (`Fleet.Spares`); unless it founds, resizes
or deletes a matrix, all bounds stay too (`Fleet.Regroups`). Its answer tells how things stand afterwards
(`Request.Tells`).
-/
namespace DroneFleet

namespace Fleet

def bounds? (fleet : Fleet) (home : Nat) : Option Bounds := (fleet.matrix? home).map (·.bounds)

/-- All but these matrices and these drones is as it was. -/
structure Spares (matrices drones : List Nat) (before after : Fleet) : Prop where
  slots : ∀ home ∉ matrices, after.slots.get? home = before.slots.get? home
  listed : ∀ home ∉ matrices, after.listed.get? home = before.listed.get? home
  owners : ∀ id ∉ drones, after.owner? id = before.owner? id
  records : ∀ id ∉ drones, after.drone? id = before.drone? id
  lastMatrix : after.lastMatrix = before.lastMatrix
  lastDrone : after.lastDrone = before.lastDrone

/-- On these matrices too, nothing but these drones has changed. -/
structure Regroups (matrices drones : List Nat) (before after : Fleet) : Prop extends
    Spares matrices drones before after where
  bounds : ∀ home, after.bounds? home = before.bounds? home

/-- Of these drones, which are all on one matrix, nothing but the poses has changed. -/
def Moves (ids : List Nat) (before after : Fleet) : Prop :=
  ∃ home, Regroups [home] ids before after ∧ after.owners = before.owners ∧
    ∀ id ∈ ids, ∃ drone pose, before.drone? id = some drone ∧ drone.matrixId = home ∧
      after.drone? id = some { drone with pose }

end Fleet

open Fleet Handling

def Request.Effects (before after : Fleet) : Request → Prop
  | listMatrices => after = before
  | getMatrix _ => after = before
  | listDrones => after = before
  | getDrone _ => after = before
  | createMatrix maxX maxY => ∃ id, before.lastMatrix < id ∧ before.matrix? id = none ∧
      after.matrix? id = some (.new id ⟨maxX, maxY⟩) ∧
      Spares [id] [] { before with lastMatrix := id } after
  | updateMatrix id maxX maxY => ∃ matrix, before.matrix? id = some matrix ∧
      after.matrix? id = some { matrix with bounds := ⟨maxX, maxY⟩ } ∧ Spares [id] [] before after
  | deleteMatrix id => (∃ matrix, before.matrix? id = some matrix) ∧
      (∀ drone, ¬ before.Houses id drone) ∧ after.matrix? id = none ∧ Spares [id] [] before after
  | createDrone new => ∃ id, before.lastDrone < id ∧ before.drone? id = none ∧
      after.drone? id = some ⟨id, new.name, new.model, new.pose, new.matrixId⟩ ∧
      Regroups [new.matrixId] [id] { before with lastDrone := id } after
  | updateDrone id changes => ∃ old, before.drone? id = some old ∧
      after.drone? id = some (changes.applied old) ∧
      Regroups [old.matrixId, (changes.applied old).matrixId] [id] before after
  | deleteDrone id => ∃ drone, before.drone? id = some drone ∧ after.drone? id = none ∧
      after.owner? id = none ∧ Regroups [drone.matrixId] [id] before after
  | droneCommands droneId _ => Moves [droneId] before after
  | matrixDroneCommands _ droneIds _ => Moves droneIds before after
  | batchCommands _ entries => Moves (entries.map (·.droneId)) before after

/-- A report on several drones shows the matrix that they are on, the one that is named if any is. -/
def Fleet.Reports (after : Fleet) (named : Option Nat) (response : Response) : Prop :=
  ∃ outcomes matrix, (∀ home, named = some home → matrix.id = home) ∧
    after.matrix? matrix.id = some matrix ∧ response = .batch (.of outcomes matrix)

/-- What is told once a request has been granted: how things stand then. A new matrix or drone has the
next number. -/
def Request.Tells (before after : Fleet) (response : Response) : Request → Prop
  | listMatrices => response = .matrices after.views
  | getMatrix id => ∃ matrix, after.matrix? id = some matrix ∧ response = .matrix matrix.view
  | listDrones => response = .drones after.drones
  | getDrone id => ∃ drone, after.drone? id = some drone ∧ response = .drone drone
  | createMatrix _ _ => after.lastMatrix = before.lastMatrix + 1 ∧
      ∃ matrix, after.matrix? after.lastMatrix = some matrix ∧ response = .matrix matrix.view
  | updateMatrix id _ _ => ∃ matrix, after.matrix? id = some matrix ∧ response = .matrix matrix.view
  | deleteMatrix id => response = .deleted id
  | createDrone _ => after.lastDrone = before.lastDrone + 1 ∧
      ∃ drone, after.drone? after.lastDrone = some drone ∧ response = .drone drone
  | updateDrone id _ => ∃ drone, after.drone? id = some drone ∧ response = .drone drone
  | deleteDrone id => response = .deleted id
  | droneCommands droneId _ => ∃ outcome drone, after.drone? droneId = some drone ∧
      response = .single ⟨outcome, drone⟩
  | matrixDroneCommands matrixId _ _ => after.Reports matrixId response
  | batchCommands matrixId _ => after.Reports matrixId response

theorem Request.Tells.granted {before after : Fleet} {response : Response} {request : Request}
    (tells : request.Tells before after response) : response.isError = false := by
  cases request with
  | listMatrices | listDrones | deleteMatrix | deleteDrone =>
    cases tells
    rfl
  | getMatrix | getDrone | updateMatrix | updateDrone =>
    obtain ⟨_, _, rfl⟩ := tells
    rfl
  | createMatrix | createDrone =>
    obtain ⟨_, _, _, rfl⟩ := tells
    rfl
  | droneCommands =>
    obtain ⟨_, _, _, rfl⟩ := tells
    rfl
  | matrixDroneCommands | batchCommands =>
    obtain ⟨_, _, _, _, rfl⟩ := tells
    rfl

namespace Fleet

variable {fleet after : Fleet} {matrix before last : Matrix} {matrices drones : List Nat}

/-! ### Single writes -/

theorem Spares.refl (matrices drones : List Nat) (fleet : Fleet) :
    Spares matrices drones fleet fleet where
  slots _ _ := rfl
  listed _ _ := rfl
  owners _ _ := rfl
  records _ _ := rfl
  lastMatrix := rfl
  lastDrone := rfl

theorem Spares.store (spares : Spares matrices drones fleet after)
    (found : after.matrix? before.id = some before) (same : matrix.id = before.id)
    (inside : before.id ∈ matrices)
    (kept : ∀ id ∉ drones, matrix.drone? id = before.drone? id) :
    Spares matrices drones fleet (after.store matrix) where
  slots home outside := by
    have other : home ≠ matrix.id := by
      rintro rfl
      exact outside (same ▸ inside)
    rw [store_slots, if_neg other]
    exact spares.slots home outside
  listed := spares.listed
  owners := spares.owners
  records id absent := (store_keeps found same (kept id absent)).trans (spares.records id absent)
  lastMatrix := spares.lastMatrix
  lastDrone := spares.lastDrone

theorem Spares.assign (spares : Spares matrices drones fleet after) {drone : Nat}
    (inside : drone ∈ drones) (owner : Option Nat) :
    Spares matrices drones fleet (after.assign drone owner) where
  slots := by simpa only [assign_slots] using spares.slots
  listed := by simpa only [assign_listed] using spares.listed
  owners id absent := by
    rw [assign_owner?, if_neg (ne_of_mem_of_not_mem inside absent).symm, spares.owners id absent]
  records id absent := by
    rw [assign_drone?, if_neg (ne_of_mem_of_not_mem inside absent).symm, spares.records id absent]
  lastMatrix := by rw [assign_lastMatrix, spares.lastMatrix]
  lastDrone := by rw [assign_lastDrone, spares.lastDrone]

theorem Regroups.refl (matrices drones : List Nat) (fleet : Fleet) :
    Regroups matrices drones fleet fleet where
  toSpares := .refl matrices drones fleet
  bounds _ := rfl

theorem Regroups.store (regroups : Regroups matrices drones fleet after)
    (found : after.matrix? before.id = some before) (same : matrix.id = before.id)
    (inside : before.id ∈ matrices) (grid : matrix.bounds = before.bounds)
    (kept : ∀ id ∉ drones, matrix.drone? id = before.drone? id) :
    Regroups matrices drones fleet (after.store matrix) where
  toSpares := regroups.toSpares.store found same inside kept
  bounds home := by
    rw [← regroups.bounds home, bounds?, bounds?, store_matrix? found same]
    split
    · rename_i here
      rw [here, found, Option.map_some, Option.map_some, grid]
    · rfl

theorem Regroups.assign (regroups : Regroups matrices drones fleet after) {drone : Nat}
    (inside : drone ∈ drones) (owner : Option Nat) :
    Regroups matrices drones fleet (after.assign drone owner) where
  toSpares := regroups.toSpares.assign inside owner
  bounds home := by rw [bounds?, assign_matrix?, ← regroups.bounds home, bounds?]

theorem publish_matrix? (fleet : Fleet) (matrix : Matrix) (home : Nat) :
    (fleet.publish matrix).matrix? home =
      if home = matrix.id then some matrix else fleet.matrix? home := by
  have listed : (fleet.publish matrix).listed.get? home =
      if home = matrix.id then some () else fleet.listed.get? home := Table.get?_insert _ _ _ _
  have standing : (fleet.publish matrix).standing? home =
      if home = matrix.id then some matrix else fleet.standing? home := store_standing? _ _ _
  rw [matrix?, matrix?, listed, standing]
  split <;> rfl

theorem withdraw_matrix? (fleet : Fleet) (matrix : Matrix) (home : Nat) :
    ((fleet.retire matrix).withdraw matrix.id).matrix? home =
      if home = matrix.id then none else fleet.matrix? home := by
  have listed : ((fleet.retire matrix).withdraw matrix.id).listed.get? home =
      if home = matrix.id then none else fleet.listed.get? home := Table.get?_erase _ _ _
  have standing : ((fleet.retire matrix).withdraw matrix.id).standing? home =
      if home = matrix.id then none else fleet.standing? home := retire_standing? _ _ _
  rw [matrix?, matrix?, listed, standing]
  split <;> rfl

/-! ### What each piece of work comes to -/

theorem drone?_congr {id : Nat} (owners : after.owner? id = fleet.owner? id)
    (same : ∀ home, (after.matrix? home).bind (·.drone? id) = (fleet.matrix? home).bind (·.drone? id)) :
    after.drone? id = fleet.drone? id := by
  simp only [drone?, owners, same]

theorem founded (fleet : Fleet) (id : Nat) (bounds : Bounds) (fresh : fleet.matrix? id = none) :
    (fleet.publish (.new id bounds)).matrix? id = some (.new id bounds) ∧
      Spares [id] [] fleet (fleet.publish (.new id bounds)) := by
  have look := publish_matrix? fleet (.new id bounds)
  refine ⟨(look id).trans (if_pos rfl), ?_, ?_, fun _ _ => rfl, ?_, rfl, rfl⟩
  · intro home outside
    exact (store_slots fleet (.new id bounds) home).trans
      (if_neg (List.mem_singleton.not.mp outside))
  · intro home outside
    exact (Table.get?_insert _ _ _ _).trans (if_neg (List.mem_singleton.not.mp outside))
  · refine fun drone _ => drone?_congr rfl fun home => ?_
    rw [look home]
    split
    · rename_i here
      rw [show home = id from here, fresh]
      rfl
    · rfl

theorem retired (found : fleet.matrix? matrix.id = some matrix)
    (deserted : ∀ drone, matrix.owns drone = false) :
    ((fleet.retire matrix).withdraw matrix.id).matrix? matrix.id = none ∧
      Spares [matrix.id] [] fleet ((fleet.retire matrix).withdraw matrix.id) := by
  have look := withdraw_matrix? fleet matrix
  refine ⟨(look matrix.id).trans (if_pos rfl), ?_, ?_, fun _ _ => rfl, ?_, rfl, rfl⟩
  · intro home outside
    exact (retire_slots fleet matrix home).trans (if_neg (List.mem_singleton.not.mp outside))
  · intro home outside
    exact (Table.get?_erase _ _ _).trans (if_neg (List.mem_singleton.not.mp outside))
  · refine fun drone _ => drone?_congr rfl fun home => ?_
    rw [look home]
    split
    · rename_i here
      rw [here, found, Option.bind_some, Matrix.owns_eq_false_iff.mp (deserted drone)]
      rfl
    · rfl

theorem enrolled (fleet : Fleet) (found : fleet.matrix? matrix.id = some matrix) (drone : Drone) :
    ((fleet.store (matrix.joined drone)).assign drone.id (some matrix.id)).drone? drone.id =
        some drone ∧
      Regroups [matrix.id] [drone.id] fleet
        ((fleet.store (matrix.joined drone)).assign drone.id (some matrix.id)) := by
  have same : (matrix.joined drone).id = matrix.id := rfl
  have seen := Matrix.joined_drone? matrix drone drone.id
  rw [if_pos rfl] at seen
  constructor
  · rw [assign_drone?, if_pos rfl, Option.bind_some, store_matrix? found same, if_pos rfl,
      Option.bind_some, seen]
  · refine ((Regroups.refl [matrix.id] [drone.id] fleet).store found same (by simp) rfl ?_).assign
      (by simp) _
    intro id other
    rw [Matrix.joined_drone?, if_neg (List.mem_singleton.not.mp other)]

theorem discharged (found : fleet.matrix? matrix.id = some matrix) (drone : Drone) :
    Regroups [matrix.id] [drone.id] fleet
      ((fleet.store (matrix.without drone)).assign drone.id none) := by
  have same : (matrix.without drone).id = matrix.id := rfl
  refine ((Regroups.refl [matrix.id] [drone.id] fleet).store found same (by simp) rfl ?_).assign
    (by simp) _
  intro id other
  rw [Matrix.without_drone?, if_neg (List.mem_singleton.not.mp other)]

theorem Updated.regroups {old new : Drone} (updated : fleet.Updated old new after)
    (sound : fleet.Sound) (same : new.id = old.id) :
    Regroups [old.matrixId, new.matrixId] [old.id] fleet after := by
  have start := Regroups.refl [old.matrixId, new.matrixId] [old.id] fleet
  cases updated with
  | @stayed matrix standing present home =>
    have written : (matrix.replaced old new).id = matrix.id := rfl
    refine start.store (sound.matrix? standing) written (by simp [home]) rfl ?_
    intro id other
    rw [Matrix.replaced_drone? matrix same, if_neg (List.mem_singleton.not.mp other)]
  | @went source target standing present standing' apart home =>
    have found := sound.matrix? standing
    have left : (source.without old).id = source.id := rfl
    have joined : (target.joined new).id = target.id := rfl
    have found' : (fleet.store (source.without old)).matrix? target.id = some target := by
      rw [store_matrix? found left, if_neg apart, sound.matrix? standing']
    have there := ((sound.standing standing).2.named _ _ present).2
    refine ((start.store found left (by simp [there]) rfl ?_).store found' joined (by simp [home]) rfl
      ?_).assign (by simp) _
    · intro id other
      rw [Matrix.without_drone?, if_neg (List.mem_singleton.not.mp other)]
    · intro id other
      rw [Matrix.joined_drone?, same, if_neg (List.mem_singleton.not.mp other)]

theorem sortie_moves {plans : List Plan} {count : Nat} {outcomes : List DroneOutcome}
    (sound : fleet.Sound) (standing : fleet.standing? matrix.id = some matrix)
    (distinct : (plans.map (·.droneId)).Nodup)
    (aboard : ∀ plan ∈ plans, matrix.owns plan.droneId = true)
    (sortie : Sortie matrix plans count outcomes last) :
    Moves (plans.map (·.droneId)) fleet (fleet.store last) := by
  have found := sound.matrix? standing
  have matrixSound := (sound.standing standing).2
  have same := sortie.flown.id_eq
  refine ⟨matrix.id, (Regroups.refl _ _ fleet).store found same (by simp) sortie.flown.bounds ?_, rfl, ?_⟩
  · exact fun id absent => sortie.elsewhere matrixSound distinct absent
  · rintro id member
    obtain ⟨plan, listed, rfl⟩ := List.mem_map.mp member
    obtain ⟨drone, present⟩ := Matrix.owns_iff.mp (aboard plan listed)
    have landing := sortie.drone? matrixSound distinct plan.droneId
    rw [present, Option.map_some] at landing
    refine ⟨drone, (landed outcomes drone).pose, sound.recorded standing present,
      (matrixSound.named _ _ present).2, ?_⟩
    rw [sound.stored_drone? standing same (aboard plan listed), landing]
    rfl

end Fleet

/-! ### Requests -/

theorem Matrix.resize_eq {matrix resized : Matrix} {bounds : Bounds}
    (done : matrix.resize bounds = .ok resized) : resized = { matrix with bounds } := by
  cases checked : matrix.drones.values.forM fun drone => bounds.check drone.pose.cell with
  | error refusal => simp [resize, checked, bind, Except.bind] at done
  | ok _ =>
    simp only [resize, checked, bind, Except.bind, pure, Except.pure, Except.ok.injEq] at done
    exact done.symm

namespace Handling

variable {fleet : Fleet} {matrix : Matrix}

theorem Heeds.ends {α : Type} {work : Handling α} {reasons : List Reason} {good : α → Fleet → Prop}
    (heeds : work.Heeds fleet reasons good) : work.Ends fleet good := by
  by_cases wrong : ∃ refusal, Foremost reasons refusal
  · obtain ⟨refusal, foremost⟩ := wrong
    exact .inl ⟨refusal, heeds.refused refusal foremost⟩
  · exact .inr (heeds.granted (not_exists.mp wrong))

theorem resize_does (sound : fleet.Sound) (standing : fleet.standing? matrix.id = some matrix)
    (bounds : Bounds) : (resize matrix bounds).Ends fleet fun view after =>
      view = ({ matrix with bounds } : Matrix).view ∧
        after.matrix? matrix.id = some { matrix with bounds } ∧
        Spares [matrix.id] [] fleet after := by
  cases done : matrix.resize bounds with
  | error refusal =>
    refine .inl ⟨refusal, ?_⟩
    simp only [resize, on_bind, on_lift, done]
  | ok resized =>
    obtain rfl := Matrix.resize_eq done
    have found := sound.matrix? standing
    have same : ({ matrix with bounds } : Matrix).id = matrix.id := rfl
    have resizes : (resize matrix bounds).on fleet =
        (.ok ({ matrix with bounds } : Matrix).view, fleet.store { matrix with bounds }) := by
      simp only [resize, on_bind, on_lift, done, on_store, on_pure]
    refine .returns resizes ⟨rfl, ?_, ?_⟩
    · rw [store_matrix? found same, if_pos rfl]
    · exact (Spares.refl _ _ fleet).store found same (by simp) fun _ _ => rfl

theorem retire_does (sound : fleet.Sound) (standing : fleet.standing? matrix.id = some matrix) :
    (retire matrix).Ends fleet fun _ after => (∀ drone, ¬ fleet.Houses matrix.id drone) ∧
      (after.withdraw matrix.id).matrix? matrix.id = none ∧
      Spares [matrix.id] [] fleet (after.withdraw matrix.id) := by
  rcases retire_result matrix with ⟨refusal, _, refuses⟩ | ⟨deserted, does⟩
  · exact .inl ⟨refusal, refuses fleet⟩
  · refine .returns (does_on (does [] fleet)) ⟨fun drone => ?_, ?_⟩
    · rw [standing_houses standing, deserted drone]
      exact Bool.false_ne_true
    · exact retired (sound.matrix? standing) deserted

theorem enroll_does (sound : fleet.Sound) (standing : fleet.standing? matrix.id = some matrix)
    (new : NewDrone) : (enroll matrix new).Ends fleet fun drone after =>
      drone = ⟨fleet.lastDrone + 1, new.name, new.model, new.pose, matrix.id⟩ ∧
        (after.assign drone.id (some matrix.id)).drone? drone.id = some drone ∧
        Regroups [matrix.id] [drone.id] { fleet with lastDrone := drone.id }
          (after.assign drone.id (some matrix.id)) := by
  cases checked : matrix.checkPlacement new.pose none with
  | error refusal =>
    refine .inl ⟨refusal, ?_⟩
    simp only [enroll, on_bind, on_lift, checked]
  | ok _ =>
    have absent : matrix.owns (fleet.lastDrone + 1) = false := by
      refine Bool.eq_false_iff.mpr fun inside => ?_
      exact absurd (sound.enrolled _ _ ((standing_houses standing).mpr inside))
        (Nat.not_succ_le_self _)
    generalize made : (⟨fleet.lastDrone + 1, new.name, new.model, new.pose, matrix.id⟩ : Drone) = drone
    have number : drone.id = fleet.lastDrone + 1 := made ▸ rfl
    have present := Matrix.joined_drone? matrix drone drone.id
    rw [if_pos rfl, number] at present
    have enrolls : (enroll matrix new).on fleet =
        (.ok drone, { fleet with lastDrone := drone.id }.store (matrix.joined drone)) := by
      simp only [enroll, on_bind, on_lift, checked, on_get, on_modify,
        Matrix.place_eq new.name new.model new.pose absent, Except.map, made, on_store,
        on_record present, number]
    exact .returns enrolls ⟨rfl, enrolled { fleet with lastDrone := drone.id }
      (sound.matrix? standing) drone⟩

theorem discharge_does (sound : fleet.Sound) (standing : fleet.standing? matrix.id = some matrix)
    {drone : Drone} (present : matrix.drone? drone.id = some drone) :
    (discharge matrix drone.id).Ends fleet fun _ after =>
      Regroups [matrix.id] [drone.id] fleet (after.assign drone.id none) := by
  have discharges : (discharge matrix drone.id).on fleet =
      (.ok drone, fleet.store (matrix.without drone)) := by
    simp only [discharge, Matrix.remove?_eq (sound.standing standing).2, present, Option.map_some,
      on_bind, on_store, on_pure]
  exact .returns discharges (discharged (sound.matrix? standing) drone)

theorem several_does (sound : fleet.Sound) (grounded : Bool) {request : Request}
    {matrixId : Option Nat} {ids : List Nat} (several : request.several? = some (matrixId, ids)) :
    (request.handle grounded).Ends fleet fun response after =>
      after.Reports matrixId response ∧ Moves ids fleet after := by
  refine ((handle_heeds sound grounded several).imp ?_).ends
  rintro _ _ ⟨plans, matrix, outcomes, last, _, rfl, mustered, flown, rfl, rfl⟩
  obtain ⟨count, sortie⟩ := flown.sortie (sound.standing mustered.standing).2 mustered.aboard
  have same := sortie.flown.id_eq
  refine ⟨⟨outcomes, last, ?_, ?_, rfl⟩,
    sortie_moves sound mustered.standing mustered.distinct mustered.aboard sortie⟩
  · rintro home rfl
    cases mustered.addressed with
    | named found => exact same.trans (sound.standing (standing_of_matrix? found)).1
  · rw [store_matrix? (sound.matrix? mustered.standing) same, if_pos same]

end Handling

/-- A request is refused and has changed nothing, or it has changed what it is for and tells how things
stand then. -/
theorem Request.handle_does {fleet : Fleet} (sound : fleet.Sound) (grounded : Bool)
    (request : Request) : (request.handle grounded).Ends fleet fun response after =>
      request.Tells fleet after response ∧ request.Effects fleet after := by
  cases request with
  | listMatrices => exact .returns rfl ⟨rfl, rfl⟩
  | listDrones => exact .returns rfl ⟨rfl, rfl⟩
  | getMatrix id =>
    refine (seek_finds sound.toFirm id).bind fun matrix ⟨name, standing⟩ => ?_
    exact .returns rfl ⟨⟨matrix, name ▸ sound.matrix? standing, rfl⟩, rfl⟩
  | getDrone id =>
    refine (home_finds sound id).bind fun matrix ⟨standing, aboard⟩ => ?_
    obtain ⟨drone, present⟩ := Matrix.owns_iff.mp aboard
    exact .returns (on_ok (on_record present fleet) _)
      ⟨⟨drone, sound.recorded standing present, rfl⟩, rfl⟩
  | createMatrix maxX maxY =>
    have does : Does [] fleet (found ⟨maxX, maxY⟩) _ _ := found_does ⟨maxX, maxY⟩
    have fresh : fleet.matrix? (fleet.lastMatrix + 1) = none := by
      refine Option.eq_none_iff_forall_ne_some.mpr fun matrix found => ?_
      exact absurd (sound.numbered _ _ (standing?_eq_some.mp (standing_of_matrix? found)))
        (Nat.not_succ_le_self _)
    obtain ⟨seen, spares⟩ := founded { fleet with lastMatrix := fleet.lastMatrix + 1 }
      (fleet.lastMatrix + 1) ⟨maxX, maxY⟩ fresh
    exact .returns (on_ok (does_on does) _)
      ⟨⟨rfl, _, seen, rfl⟩, _, Nat.lt_succ_self _, fresh, seen, spares⟩
  | updateMatrix id maxX maxY =>
    refine (seek_finds sound.toFirm id).bind fun matrix ⟨name, standing⟩ => ?_
    subst name
    refine (resize_does sound standing ⟨maxX, maxY⟩).finish ?_
    rintro _ after ⟨rfl, seen, spares⟩
    exact ⟨_, after, rfl, ⟨_, seen, rfl⟩, matrix, sound.matrix? standing, seen, spares⟩
  | deleteMatrix id =>
    refine (seek_finds sound.toFirm id).bind fun matrix ⟨name, standing⟩ => ?_
    subst name
    refine (retire_does sound standing).finish fun _ after effects => ?_
    exact ⟨.deleted matrix.id, after.withdraw matrix.id, rfl, rfl, ⟨matrix, sound.matrix? standing⟩,
      effects⟩
  | createDrone new =>
    refine (seek_finds sound.toFirm new.matrixId).bind fun matrix ⟨name, standing⟩ => ?_
    refine (enroll_does sound standing new).finish ?_
    rintro drone after ⟨made, seen, regroups⟩
    rw [name] at made seen regroups
    have fresh : fleet.drone? (fleet.lastDrone + 1) = none :=
      sound.unrecorded.mpr fun home housed =>
        absurd (sound.enrolled home _ housed) (Nat.not_succ_le_self _)
    subst made
    have number := regroups.lastDrone
    exact ⟨.drone _, after.assign _ (some new.matrixId), rfl, ⟨number, _, number.symm ▸ seen, rfl⟩, _,
      Nat.lt_succ_self _, fresh, seen, regroups⟩
  | updateDrone id changes =>
    refine ((updateDrone_heeds sound grounded id changes).imp ?_).ends
    rintro _ after ⟨old, known, rfl, updated⟩
    obtain ⟨rfl, _⟩ := sound.aboard known
    have seen := updated.drone? sound rfl old.id
    rw [if_pos rfl] at seen
    exact ⟨⟨_, seen, rfl⟩, old, known, seen, updated.regroups sound rfl⟩
  | deleteDrone id =>
    refine (home_finds sound id).bind fun matrix ⟨standing, aboard⟩ => ?_
    obtain ⟨drone, present⟩ := Matrix.owns_iff.mp aboard
    obtain ⟨rfl, there⟩ := (sound.standing standing).2.named id drone present
    refine (discharge_does sound standing present).finish fun _ after regroups => ?_
    refine ⟨.deleted drone.id, after.assign drone.id none, rfl, rfl, drone,
      sound.recorded standing present, ?_, ?_, there ▸ regroups⟩
    · rw [assign_drone?, if_pos rfl, Option.bind_none]
    · rw [assign_owner?, if_pos rfl]
  | droneCommands droneId input =>
    cases parsed : input.parse with
    | error fault =>
      refine .inl ⟨.invalidCommand (some droneId) fault, ?_⟩
      simp only [handle, parsed]
      rfl
    | ok commands =>
      simp only [handle, parsed]
      refine (home_finds sound droneId).bind fun matrix ⟨standing, aboard⟩ => ?_
      obtain ⟨drone, present⟩ := Matrix.owns_iff.mp aboard
      obtain ⟨count, outcome, last, sortie, record, landed, flies⟩ :=
        flySingle_sortie (sound.standing standing).2 standing grounded present commands
      have seen := sound.stored_drone? standing sortie.flown.id_eq aboard
      have moves := sortie_moves sound standing (by simp) (List.forall_mem_singleton.mpr aboard) sortie
      exact .returns (on_ok flies _) ⟨⟨outcome, record, seen.trans landed, rfl⟩, moves⟩
  | matrixDroneCommands matrixId droneIds input => exact several_does sound grounded rfl
  | batchCommands matrixId entries => exact several_does sound grounded rfl

namespace Fleet

theorem dispatch_does {fleet : Fleet} (sound : fleet.Sound) (grounded : Bool) (request : Request) :
    (∃ refusal, fleet.dispatch grounded request = (.ofRefusal refusal, fleet)) ∨
      ∃ response after, fleet.dispatch grounded request = (response, after) ∧
        request.Tells fleet after response ∧ request.Effects fleet after := by
  rcases Request.handle_does sound grounded request with ⟨refusal, done⟩ | ⟨response, after, done, does⟩
  · exact .inl ⟨refusal, dispatch_error done⟩
  · exact .inr ⟨response, after, dispatch_eq done, does⟩

end Fleet

theorem Request.handle_effects {fleet : Fleet} (sound : fleet.Sound) (grounded : Bool)
    (request : Request) : (request.handle grounded).Ends fleet fun response after =>
      response.isError = false ∧ request.Effects fleet after :=
  (handle_does sound grounded request).imp fun _ _ ⟨tells, effects⟩ => ⟨tells.granted, effects⟩

namespace Fleet

/-- Whatever has been asked of a sound fleet, a request that is refused changes nothing, which cannot
happen to listings and new matrices; and one that is granted changes what it is for and leaves all else
as it was. -/
theorem dispatch_effects {start : Fleet} (sound : start.Sound) (calls : List (Bool × Request))
    (grounded : Bool) (request : Request) :
    let fleet := start.serve calls
    let (response, after) := fleet.dispatch grounded request
    (response.isError = true → after = fleet ∧ request ≠ .listMatrices ∧ request ≠ .listDrones ∧
      ∀ maxX maxY, request ≠ .createMatrix maxX maxY) ∧
    (response.isError = false → request.Effects fleet after) := by
  intro fleet
  have whole : fleet.Sound := serve_sound sound calls
  rcases Request.handle_effects whole grounded request with
    ⟨refusal, done⟩ | ⟨response, after, done, granted, effects⟩
  · rw [dispatch_error done]
    refine ⟨fun _ => ⟨rfl, ?_, ?_, ?_⟩, fun granted => by cases granted⟩
    · rintro rfl
      cases done
    · rintro rfl
      cases done
    · rintro maxX maxY rfl
      cases done
  · rw [dispatch_eq done]
    refine ⟨fun refused => ?_, fun _ => effects⟩
    rw [granted] at refused
    cases refused

/-- Of the two drones of `corners` only the one that moves has another record afterwards, and no grid
has another size. -/
theorem dispatch_effects_visiting :
    empty.Sound ∧ ((empty.serve corners).dispatch false (.updateDrone 1 visiting)).1.isError = false ∧
      ((empty.serve corners).dispatch false (.updateDrone 1 visiting)).2.drone? 2 =
        some ⟨2, "", "", ⟨0, 0, .north⟩, 2⟩ ∧
      ((empty.serve corners).dispatch false (.updateDrone 1 visiting)).2.bounds? 1 =
        some ⟨4, 4⟩ := by
  have granted : ((empty.serve corners).dispatch false (.updateDrone 1 visiting)).1.isError = false := by
    decide +kernel
  have other : (empty.serve corners).drone? 2 = some ⟨2, "", "", ⟨0, 0, .north⟩, 2⟩ := by
    decide +kernel
  have grid : (empty.serve corners).bounds? 1 = some ⟨4, 4⟩ := by decide +kernel
  obtain ⟨old, known, _, regroups⟩ :=
    (dispatch_effects empty_sound corners false (.updateDrone 1 visiting)).2 granted
  exact ⟨empty_sound, granted, (regroups.records 2 (by decide)).trans other,
    (regroups.bounds 1).trans grid⟩

end Fleet

end DroneFleet
