import DroneFleet.Proofs.Fleet.Effects

/-!
Reading a fleet. A drone is found through the directory, on its matrix and in the list of all drones;
on a sound fleet these are one and the same record (`Fleet.Readings`), and it is the record that an
answer has shown just before (`Request.Tells.current`).
-/
namespace DroneFleet

namespace Response

def views : Response → List MatrixView
  | matrix view => [view]
  | matrices views => views
  | _ => []

def shown : Response → List Drone
  | matrix view => view.drones
  | matrices views => views.flatMap (·.drones)
  | drone record => [record]
  | drones records => records
  | single report => [report.drone]
  | batch report => report.drones
  | deleted _ => []
  | error _ _ => []

structure Current (fleet : Fleet) (response : Response) : Prop where
  views : ∀ view ∈ response.views, ∃ matrix, fleet.matrix? view.id = some matrix ∧ matrix.view = view
  records : ∀ record ∈ response.shown, fleet.drone? record.id = some record

end Response

namespace Fleet

/-- Each number has the answer that the lists have for it, and each drone is on the matrix that its
record names and on no other one. -/
structure Readings (answer : Request → Response) (records : List Drone) (views : List MatrixView) :
    Prop where
  listDrones : answer .listDrones = .drones records
  listMatrices : answer .listMatrices = .matrices views
  getDrone : ∀ id record, answer (.getDrone id) = .drone record ↔ record ∈ records ∧ record.id = id
  getMatrix : ∀ id view, answer (.getMatrix id) = .matrix view ↔ view ∈ views ∧ view.id = id
  aboard : ∀ record, record ∈ records ↔
    ∃ view, answer (.getMatrix record.matrixId) = .matrix view ∧ record ∈ view.drones
  once : ∀ view ∈ views, ∀ record ∈ view.drones, view.id = record.matrixId
  records_ascending : records.Pairwise (·.id < ·.id)
  views_ascending : views.Pairwise (·.id < ·.id)
  within_ascending : ∀ view ∈ views, view.drones.Pairwise (·.id < ·.id)

variable {fleet : Fleet} {matrix : Matrix} {record : Drone} {home : Nat}

/-! ### The lists -/

theorem Sound.mem_view (sound : fleet.Sound) (found : fleet.matrix? home = some matrix) :
    record ∈ matrix.view.drones ↔
      fleet.drone? record.id = some record ∧ record.matrixId = home := by
  have standing := standing_of_matrix? found
  obtain ⟨rfl, matrixSound⟩ := sound.standing standing
  rw [matrixSound.mem_view]
  constructor
  · intro present
    exact ⟨sound.recorded standing present, (matrixSound.named _ record present).2⟩
  · rintro ⟨known, here⟩
    obtain ⟨_, other, standing', present, there⟩ := sound.aboard known
    rw [← there, here, standing] at standing'
    cases standing'
    exact present

theorem Sound.mem_views (sound : fleet.Sound) {view : MatrixView} :
    view ∈ fleet.views ↔ ∃ matrix, fleet.matrix? view.id = some matrix ∧ matrix.view = view := by
  simp only [views, matrices, List.mem_map, List.mem_filterMap]
  constructor
  · rintro ⟨matrix, ⟨id, _, standing⟩, rfl⟩
    obtain ⟨rfl, _⟩ := sound.standing standing
    exact ⟨matrix, sound.matrix? standing, rfl⟩
  · rintro ⟨matrix, found, same⟩
    have listed := Table.mem_keys.mpr ⟨(), listed_of_matrix? found⟩
    exact ⟨matrix, ⟨view.id, listed, standing_of_matrix? found⟩, same⟩

theorem Sound.views_ascending (sound : fleet.Sound) : fleet.views.Pairwise (·.id < ·.id) := by
  have keys : fleet.listed.keys.Pairwise (· < ·) :=
    List.pairwise_map.mpr (fleet.listed.sorted.imp Nat.compare_eq_lt.mp)
  refine List.pairwise_map.mpr (List.pairwise_filterMap.mpr (keys.imp ?_))
  intro first second less matrix standing matrix' standing'
  obtain ⟨rfl, _⟩ := sound.standing standing
  obtain ⟨rfl, _⟩ := sound.standing standing'
  exact less

theorem Sound.mem_drones (sound : fleet.Sound) :
    record ∈ fleet.drones ↔ fleet.drone? record.id = some record := by
  rw [drones, mem_roll]
  constructor
  · rintro ⟨view, listed, member⟩
    obtain ⟨matrix, found, rfl⟩ := sound.mem_views.mp listed
    exact ((sound.mem_view found).mp member).1
  · intro known
    obtain ⟨_, matrix, standing, _, there⟩ := sound.aboard known
    have found := sound.matrix? standing
    exact ⟨matrix.view, sound.mem_views.mpr ⟨matrix, found, rfl⟩,
      (sound.mem_view found).mpr ⟨known, there⟩⟩

theorem Sound.drones_nodup (sound : fleet.Sound) : fleet.drones.Nodup := by
  have apart : (fleet.views.flatMap (·.drones)).Nodup := by
    refine List.pairwise_flatMap.mpr ⟨fun view listed => ?_, ?_⟩
    · obtain ⟨matrix, found, rfl⟩ := sound.mem_views.mp listed
      have matrixSound := (sound.standing (standing_of_matrix? found)).2
      exact matrixSound.view_ascending.imp fun less same => Nat.ne_of_lt less (congrArg _ same)
    · refine sound.views_ascending.imp_of_mem ?_
      intro view view' listed listed' less record member _ member' rfl
      obtain ⟨matrix, found, rfl⟩ := sound.mem_views.mp listed
      obtain ⟨matrix', found', rfl⟩ := sound.mem_views.mp listed'
      have here := ((sound.mem_view found).mp member).2
      have there := ((sound.mem_view found').mp member').2
      exact Nat.ne_of_lt less (here.symm.trans there)
  exact (List.mergeSort_perm _ _).nodup_iff.mpr apart

theorem Sound.drones_ascending (sound : fleet.Sound) : fleet.drones.Pairwise (·.id < ·.id) := by
  refine ((roll_ordered fleet.views).and sound.drones_nodup).imp_of_mem ?_
  rintro first second member member' ⟨ordered, apart⟩
  refine Nat.lt_of_le_of_ne ordered fun same => apart ?_
  have known := sound.mem_drones.mp member
  rw [same, sound.mem_drones.mp member'] at known
  exact (Option.some.inj known).symm

/-! ### The answers -/

theorem Sound.getDrone_iff (sound : fleet.Sound) (grounded : Bool) {id : Nat} :
    (fleet.dispatch grounded (.getDrone id)).1 = .drone record ↔ fleet.drone? id = some record := by
  constructor
  · intro told
    rcases dispatch_does sound grounded (.getDrone id) with
      ⟨refusal, refused⟩ | ⟨_, _, granted, ⟨drone, known, rfl⟩, rfl⟩
    · rw [refused] at told
      cases told
    · rw [granted] at told
      cases told
      exact known
  · intro known
    obtain ⟨_, matrix, standing, present, _⟩ := sound.aboard known
    have found := Handling.on_home sound standing (Matrix.owns_iff.mpr ⟨record, present⟩)
    have reads : ((Request.getDrone id).handle grounded).on fleet = (.ok (.drone record), fleet) :=
      (Handling.on_ok found _).trans (Handling.on_ok (Handling.on_record present fleet) _)
    rw [dispatch_eq reads]

theorem Sound.getMatrix_iff (sound : fleet.Sound) (grounded : Bool) {id : Nat} {view : MatrixView} :
    (fleet.dispatch grounded (.getMatrix id)).1 = .matrix view ↔
      ∃ matrix, fleet.matrix? id = some matrix ∧ matrix.view = view := by
  constructor
  · intro told
    rcases dispatch_does sound grounded (.getMatrix id) with
      ⟨refusal, refused⟩ | ⟨_, _, granted, ⟨matrix, found, rfl⟩, rfl⟩
    · rw [refused] at told
      cases told
    · rw [granted] at told
      cases told
      exact ⟨matrix, found, rfl⟩
  · rintro ⟨matrix, found, rfl⟩
    have sought := Handling.on_seek sound (standing_of_matrix? found)
    have reads : ((Request.getMatrix id).handle grounded).on fleet =
        (.ok (.matrix matrix.view), fleet) := Handling.on_ok sought _
    rw [dispatch_eq reads]

theorem Sound.readings (sound : fleet.Sound) (grounded : Bool) :
    Readings (fun request => (fleet.dispatch grounded request).1) fleet.drones fleet.views where
  listDrones := rfl
  listMatrices := rfl
  getDrone id record := by
    rw [sound.getDrone_iff, sound.mem_drones]
    constructor
    · intro known
      obtain ⟨rfl, _⟩ := sound.aboard known
      exact ⟨known, rfl⟩
    · rintro ⟨known, rfl⟩
      exact known
  getMatrix id view := by
    rw [sound.getMatrix_iff, sound.mem_views]
    constructor
    · rintro ⟨matrix, found, rfl⟩
      obtain ⟨rfl, _⟩ := sound.standing (standing_of_matrix? found)
      exact ⟨⟨matrix, found, rfl⟩, rfl⟩
    · rintro ⟨found, rfl⟩
      exact found
  aboard record := by
    simp only [sound.getMatrix_iff, sound.mem_drones]
    constructor
    · intro known
      obtain ⟨_, matrix, standing, _, there⟩ := sound.aboard known
      have found := there ▸ sound.matrix? standing
      exact ⟨matrix.view, ⟨matrix, found, rfl⟩, (sound.mem_view found).mpr ⟨known, rfl⟩⟩
    · rintro ⟨_, ⟨matrix, found, rfl⟩, member⟩
      exact ((sound.mem_view found).mp member).1
  once view listed record member := by
    obtain ⟨matrix, found, rfl⟩ := sound.mem_views.mp listed
    exact ((sound.mem_view found).mp member).2.symm
  records_ascending := sound.drones_ascending
  views_ascending := sound.views_ascending
  within_ascending view listed := by
    obtain ⟨matrix, found, rfl⟩ := sound.mem_views.mp listed
    exact (sound.standing (standing_of_matrix? found)).2.view_ascending

/-! ### What is told -/

theorem Sound.current_matrix (sound : fleet.Sound) (found : fleet.matrix? home = some matrix) :
    (Response.matrix matrix.view).Current fleet where
  views view listed := by
    obtain rfl := List.mem_singleton.mp listed
    obtain ⟨rfl, _⟩ := sound.standing (standing_of_matrix? found)
    exact ⟨matrix, found, rfl⟩
  records record member := ((sound.mem_view found).mp member).1

theorem Sound.current_matrices (sound : fleet.Sound) :
    (Response.matrices fleet.views).Current fleet where
  views _ listed := sound.mem_views.mp listed
  records _ member := sound.mem_drones.mp (mem_roll.mpr (List.mem_flatMap.mp member))

theorem current_of_records {response : Response} (none : response.views = [])
    (known : ∀ record ∈ response.shown, fleet.drone? record.id = some record) :
    response.Current fleet where
  views view listed := by
    rw [none] at listed
    cases listed
  records := known

theorem Sound.current_drone (sound : fleet.Sound) {id : Nat} {response : Response}
    (known : fleet.drone? id = some record) (none : response.views = [])
    (only : response.shown = [record]) : response.Current fleet := by
  refine current_of_records none fun other member => ?_
  rw [only] at member
  obtain rfl := List.mem_singleton.mp member
  obtain ⟨rfl, _⟩ := sound.aboard known
  exact known

theorem Reports.current (sound : fleet.Sound) {named : Option Nat} {response : Response}
    (reports : fleet.Reports named response) : response.Current fleet := by
  obtain ⟨outcomes, matrix, _, found, rfl⟩ := reports
  have standing := standing_of_matrix? found
  refine current_of_records rfl fun record member => ?_
  obtain ⟨entry, _, present⟩ := List.mem_filterMap.mp member
  obtain ⟨name, _⟩ := (sound.standing standing).2.named _ record present
  exact name.symm ▸ sound.recorded standing present

end Fleet

theorem Request.Tells.current {before after : Fleet} {response : Response} {request : Request}
    (tells : request.Tells before after response) (sound : after.Sound) : response.Current after := by
  cases request with
  | listMatrices =>
    cases tells
    exact sound.current_matrices
  | listDrones =>
    cases tells
    exact Fleet.current_of_records rfl fun record member => sound.mem_drones.mp member
  | getMatrix id | updateMatrix id maxX maxY =>
    obtain ⟨matrix, found, rfl⟩ := tells
    exact sound.current_matrix found
  | createMatrix maxX maxY =>
    obtain ⟨_, matrix, found, rfl⟩ := tells
    exact sound.current_matrix found
  | getDrone id | updateDrone id changes =>
    obtain ⟨drone, known, rfl⟩ := tells
    exact sound.current_drone known rfl rfl
  | createDrone new =>
    obtain ⟨_, drone, known, rfl⟩ := tells
    exact sound.current_drone known rfl rfl
  | droneCommands droneId input =>
    obtain ⟨outcome, drone, known, rfl⟩ := tells
    exact sound.current_drone known rfl rfl
  | deleteMatrix id | deleteDrone id =>
    cases tells
    exact Fleet.current_of_records rfl nofun
  | matrixDroneCommands matrixId droneIds input | batchCommands matrixId entries =>
    exact Fleet.Reports.current sound tells

namespace Fleet

variable {fleet : Fleet}

theorem dispatch_current (sound : fleet.Sound) (grounded : Bool) (request : Request) :
    (fleet.dispatch grounded request).1.Current (fleet.dispatch grounded request).2 := by
  have kept := dispatch_sound sound grounded request
  rcases dispatch_does sound grounded request with ⟨refusal, refused⟩ | ⟨_, _, granted, tells, _⟩
  · rw [refused]
    exact current_of_records rfl nofun
  · rw [granted] at kept ⊢
    exact tells.current kept

/-- Whatever has been asked of a sound fleet, all ways to read it agree. And what the answer to one more
request shows, of drones or of matrices, is what is read afterwards. -/
theorem serve_readings {start : Fleet} (sound : start.Sound) (calls : List (Bool × Request))
    (grounded : Bool) :
    let fleet := start.serve calls
    (∃ records views,
      Readings (fun request => (fleet.dispatch grounded request).1) records views) ∧
    ∀ call : Bool × Request,
      let (response, after) := fleet.dispatch call.1 call.2
      (∀ record ∈ response.shown,
        (after.dispatch grounded (.getDrone record.id)).1 = .drone record) ∧
      ∀ view ∈ response.views, (after.dispatch grounded (.getMatrix view.id)).1 = .matrix view := by
  intro fleet
  have whole : fleet.Sound := serve_sound sound calls
  refine ⟨⟨fleet.drones, fleet.views, whole.readings grounded⟩, fun call => ?_⟩
  have kept := dispatch_sound whole call.1 call.2
  have current := dispatch_current whole call.1 call.2
  constructor
  · intro record member
    exact (kept.getDrone_iff grounded).mpr (current.records record member)
  · intro view member
    exact (kept.getMatrix_iff grounded).mpr (current.views view member)

/-- Of the two drones of `corners`, each alone on its matrix, the one that then moves is read as it was
told. -/
theorem serve_readings_visiting :
    empty.Sound ∧ (∃ records, Readings (fun request => ((empty.serve corners).dispatch false request).1)
        records [⟨1, ⟨4, 4⟩, [⟨1, "", "", ⟨0, 0, .north⟩, 1⟩]⟩,
          ⟨2, ⟨4, 4⟩, [⟨2, "", "", ⟨0, 0, .north⟩, 2⟩]⟩]) ∧
      (((empty.serve corners).dispatch false (.updateDrone 1 visiting)).2.dispatch false
        (.getDrone 1)).1 = .drone ⟨1, "", "guest", ⟨1, 0, .north⟩, 2⟩ := by
  have list : ((empty.serve corners).dispatch false .listMatrices).1 =
      .matrices [⟨1, ⟨4, 4⟩, [⟨1, "", "", ⟨0, 0, .north⟩, 1⟩]⟩,
        ⟨2, ⟨4, 4⟩, [⟨2, "", "", ⟨0, 0, .north⟩, 2⟩]⟩] := by
    decide +kernel
  have told : ⟨1, "", "guest", ⟨1, 0, .north⟩, 2⟩ ∈
      ((empty.serve corners).dispatch false (.updateDrone 1 visiting)).1.shown := by
    decide +kernel
  obtain ⟨⟨records, views, readings⟩, reads⟩ := serve_readings empty_sound corners false
  have same := readings.listMatrices.symm.trans list
  rw [Response.matrices.injEq] at same
  subst same
  exact ⟨empty_sound, ⟨records, readings⟩, (reads (false, .updateDrone 1 visiting)).1 _ told⟩

end Fleet

end DroneFleet
