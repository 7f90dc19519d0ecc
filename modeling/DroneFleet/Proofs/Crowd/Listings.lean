import DroneFleet.Proofs.Crowd.Steps
import Mathlib

/-!
What a listing shows that visits one matrix after the other while drones move. It is meant to show all
drones, but one that is on a matrix all along may be missed, or shown on several matrices
(`shuffled_drones_listed`). What holds is that every matrix that stands all along is shown, as it was at
some moment of the listing, and a drone that stays on one matrix is shown once (`run_surveyed`).
-/
namespace DroneFleet

def Response.records : Response → List Drone
  | matrices views => views.flatMap (·.drones)
  | drones records => records
  | _ => []

namespace Stage

def Tours (listing : Listing) (seen : List MatrixView) (ahead : List Nat) : Stage → Prop
  | enter id (.survey wanted rest before) =>
    wanted = listing ∧ before = seen ∧ id :: rest = ahead
  | inside id (.survey wanted rest before) =>
    wanted = listing ∧ before = seen ∧ id :: rest = ahead
  | leave _ next => next.Tours listing seen ahead
  | done response => response = listing.response seen ∧ ahead = []
  | _ => False

variable {listing : Listing} {seen : List MatrixView} {ahead : List Nat}

theorem visit_tours (listing : Listing) (seen : List MatrixView) (ahead : List Nat) :
    (visit listing seen ahead).Tours listing seen ahead := by
  cases ahead with
  | nil => exact ⟨rfl, rfl⟩
  | cons id rest => exact ⟨rfl, rfl, rfl⟩

/-- A step of a listing brings it no nearer to its end, or past the next matrix, which it has seen if
it still stands. -/
theorem Tours.next {stage : Stage} (tours : stage.Tours listing seen ahead) (fleet : Fleet)
    (grounded : Bool) :
    (stage.next grounded fleet).1.Tours listing seen ahead ∨ ∃ id rest, ahead = id :: rest ∧
      ((∃ matrix, fleet.standing? id = some matrix ∧
          (stage.next grounded fleet).1.Tours listing (seen ++ [matrix.view]) rest) ∨
        fleet.standing? id = none ∧ (stage.next grounded fleet).1.Tours listing seen rest) := by
  cases stage with
  | enter id purpose =>
    cases purpose with
    | survey wanted rest before => exact .inl tours
    | _ => exact tours.elim
  | inside id purpose =>
    cases purpose with
    | survey wanted rest before =>
      obtain ⟨rfl, rfl, rfl⟩ := tours
      refine .inr ⟨id, rest, rfl, ?_⟩
      cases standing : fleet.standing? id with
      | none =>
        refine .inr ⟨rfl, ?_⟩
        simp only [Stage.next, standing, missing]
        exact visit_tours wanted before rest
      | some matrix =>
        refine .inl ⟨matrix, rfl, ?_⟩
        simp only [Stage.next, standing, act]
        exact visit_tours wanted _ rest
    | _ => exact tours.elim
  | leave id next => exact .inl tours
  | done response => exact .inl tours
  | _ => exact tours.elim

end Stage

namespace Crowd

variable {crowd : Crowd} {whole fleet : Fleet} {events : List Event} {number : Nat}
  {stage next : Stage}

/-! ### One event -/

theorem step_asked {request : Request} (asked : crowd.requests[number]? = some request)
    (event : Event) : (crowd.step event).requests[number]? = some request := by
  cases event with
  | submit other =>
    have within := (List.getElem?_eq_some_iff.mp asked).1
    exact (List.getElem?_append_left within).trans asked
  | advance other => rwa [step, advance_requests]
  | hold id =>
    simp only [step, hold]
    split <;> exact asked
  | release id => exact asked
  | ground => exact asked

theorem step_next {event : Event} (there : (crowd.step event).stages.get? number = some next) :
    crowd.stages.get? number = some next ∨
    (∃ request, (crowd.step event).requests[number]? = some request ∧ next = .start request) ∨
    ∃ stage, crowd.stages.get? number = some stage ∧ crowd.blocks stage = false ∧
      (stage.next crowd.grounded crowd.fleet).1 = next := by
  cases event with
  | submit request =>
    rcases insert_cases there with ⟨rfl, rfl⟩ | ⟨_, old⟩
    · exact .inr (.inl ⟨request, by simp [step, submit], rfl⟩)
    · exact .inl old
  | advance other =>
    cases here : crowd.stages.get? other with
    | none =>
      simp only [step, Crowd.advance, here] at there
      exact .inl there
    | some stage =>
      cases unblocked : crowd.blocks stage with
      | true =>
        simp only [step, Crowd.advance, here, unblocked] at there
        exact .inl there
      | false =>
        rw [step, advance_eq here unblocked rfl] at there
        rcases insert_cases there with ⟨rfl, rfl⟩ | ⟨_, old⟩
        · exact .inr (.inr ⟨stage, here, unblocked, rfl⟩)
        · exact .inl old
  | hold id =>
    simp only [step, hold] at there
    split at there <;> exact .inl there
  | release id => exact .inl there
  | ground => exact .inl there

/-! ### The time of a listing -/

/-- A moment of the run at which the request has been made and is not answered. -/
structure Underway (fleet : Fleet) (events : List Event) (number : Nat) (before : List Event) :
    Prop where
  early : before <+: events
  made : number < ((new fleet).run before).requests.length
  unanswered : ((new fleet).run before).answer? number = none

theorem Underway.later {before : List Event} (underway : Underway fleet events number before)
    (event : Event) : Underway fleet (events ++ [event]) number before :=
  { underway with early := underway.early.trans (List.prefix_append _ _) }

theorem Orderly.underway (orderly : ((new fleet).run events).Orderly whole)
    (here : ((new fleet).run events).stages.get? number = some stage)
    (unblocked : ((new fleet).run events).blocks stage = false) :
    Underway fleet events number events where
  early := List.prefix_rfl
  made := by
    obtain ⟨_, asked, _⟩ := orderly.belongs number stage here
    exact (List.getElem?_eq_some_iff.mp asked).1
  unanswered := by
    cases got : ((new fleet).run events).answer? number with
    | none => rfl
    | some response =>
      rw [answer?_eq_some.mp got] at here
      cases here
      cases unblocked

def Stays (fleet : Fleet) (events : List Event) (number id drone : Nat) : Prop :=
  ∀ before, Underway fleet events number before →
    ((new fleet).run before).fleet.Houses id drone

def Stands (fleet : Fleet) (events : List Event) (number id : Nat) : Prop :=
  ∀ before, Underway fleet events number before →
    ∃ matrix, ((new fleet).run before).fleet.standing? id = some matrix

theorem Stands.earlier {id : Nat} {event : Event}
    (stands : Stands fleet (events ++ [event]) number id) : Stands fleet events number id :=
  fun before underway => stands before (underway.later event)

theorem Stays.stands (sound : fleet.Sound) {id drone : Nat}
    (stays : Stays fleet events number id drone) : Stands fleet events number id := by
  intro before underway
  obtain ⟨whole, orderly⟩ := (new_orderly sound).run before
  obtain ⟨matrix, standing, _⟩ := orderly.firm.standing_of_houses (stays before underway)
  exact ⟨matrix, standing⟩

/-- A view shows a matrix as it stood at some moment of the listing. -/
def Genuine (fleet : Fleet) (events : List Event) (number : Nat) (view : MatrixView) : Prop :=
  ∃ before matrix, Underway fleet events number before ∧
    ((new fleet).run before).fleet.standing? view.id = some matrix ∧ matrix.view = view

def Shows (view : MatrixView) (drone : Nat) : Prop := ∃ record ∈ view.drones, record.id = drone

/-- What a listing can be sure of on its way. -/
structure Toured (fleet : Fleet) (events : List Event) (number : Nat) (seen : List MatrixView)
    (ahead : List Nat) : Prop where
  ascending : (seen.map (·.id) ++ ahead).Pairwise (· < ·)
  genuine : ∀ view ∈ seen, Genuine fleet events number view
  covers : ∀ id, Stands fleet events number id → id ∈ ahead ∨ ∃ view ∈ seen, view.id = id

section Tour

variable {listing : Listing} {seen : List MatrixView} {ahead : List Nat}

theorem Toured.later (toured : Toured fleet events number seen ahead) (event : Event) :
    Toured fleet (events ++ [event]) number seen ahead where
  ascending := toured.ascending
  genuine view member := by
    obtain ⟨before, matrix, underway, rest⟩ := toured.genuine view member
    exact ⟨before, matrix, underway.later event, rest⟩
  covers id stands := toured.covers id stands.earlier

theorem Orderly.begins (orderly : ((new fleet).run events).Orderly whole)
    (underway : Underway fleet events number events) :
    Toured fleet events number [] ((new fleet).run events).fleet.listed.keys where
  ascending := by
    refine List.pairwise_map.mpr (((new fleet).run events).fleet.listed.sorted.imp ?_)
    intro first second less
    exact Nat.compare_eq_lt.mp less
  genuine view member := by cases member
  covers id stands := by
    obtain ⟨matrix, standing⟩ := stands events underway
    exact .inl (Table.mem_keys.mpr (Table.contains_iff.mp (orderly.listed_of_standing standing)))

theorem Orderly.sees (orderly : ((new fleet).run events).Orderly whole)
    (underway : Underway fleet events number events) {id : Nat} {rest : List Nat}
    (toured : Toured fleet events number seen (id :: rest)) {matrix : Matrix}
    (standing : ((new fleet).run events).fleet.standing? id = some matrix) :
    Toured fleet events number (seen ++ [matrix.view]) rest := by
  obtain ⟨name, _⟩ := orderly.firm.standing standing
  refine ⟨?_, ?_, ?_⟩
  · have placed : (seen ++ [matrix.view]).map (·.id) ++ rest = seen.map (·.id) ++ id :: rest := by
      simp [Matrix.view, name]
    rw [placed]
    exact toured.ascending
  · intro view member
    rcases List.mem_append.mp member with old | new
    · exact toured.genuine view old
    · cases List.mem_singleton.mp new
      have here : matrix.view.id = id := name
      exact ⟨events, matrix, underway, here.symm ▸ standing, rfl⟩
  · intro other stands
    rcases toured.covers other stands with waits | ⟨view, member, shown⟩
    · rcases List.mem_cons.mp waits with rfl | later
      · exact .inr ⟨matrix.view, by simp, name⟩
      · exact .inl later
    · exact .inr ⟨view, List.mem_append_left _ member, shown⟩

theorem Toured.skips (underway : Underway fleet events number events) {id : Nat} {rest : List Nat}
    (toured : Toured fleet events number seen (id :: rest))
    (gone : ((new fleet).run events).fleet.standing? id = none) :
    Toured fleet events number seen rest := by
  refine ⟨?_, toured.genuine, ?_⟩
  · have fewer : List.Sublist (seen.map (·.id) ++ rest) (seen.map (·.id) ++ id :: rest) :=
      List.Sublist.append_left (List.sublist_cons_self id rest) _
    exact toured.ascending.sublist fewer
  · intro other stands
    rcases toured.covers other stands with waits | shown
    · rcases List.mem_cons.mp waits with rfl | later
      · obtain ⟨matrix, standing⟩ := stands events underway
        rw [gone] at standing
        cases standing
      · exact .inl later
    · exact .inr shown

theorem Orderly.tours (orderly : ((new fleet).run events).Orderly whole)
    (underway : Underway fleet events number events) (tours : stage.Tours listing seen ahead)
    (toured : Toured fleet events number seen ahead) :
    ∃ seen' ahead', (stage.next ((new fleet).run events).grounded
        ((new fleet).run events).fleet).1.Tours listing seen' ahead' ∧
      Toured fleet events number seen' ahead' := by
  rcases tours.next ((new fleet).run events).fleet ((new fleet).run events).grounded with
    same | ⟨id, rest, rfl, ⟨matrix, standing, further⟩ | ⟨gone, further⟩⟩
  · exact ⟨seen, ahead, same, toured⟩
  · exact ⟨_, rest, further, orderly.sees underway toured standing⟩
  · exact ⟨seen, rest, further, toured.skips underway gone⟩

end Tour

def Lists (fleet : Fleet) (events : List Event) (number : Nat) (listing : Listing) (stage : Stage) :
    Prop :=
  stage = .start listing.request ∨ stage = .survey listing ∨
    ∃ seen ahead, stage.Tours listing seen ahead ∧ Toured fleet events number seen ahead

theorem Orderly.lists (orderly : ((new fleet).run events).Orderly whole) {listing : Listing}
    (underway : Underway fleet events number events) (lists : Lists fleet events number listing stage) :
    Lists fleet events number listing
      (stage.next ((new fleet).run events).grounded ((new fleet).run events).fleet).1 := by
  rcases lists with rfl | rfl | ⟨seen, ahead, tours, toured⟩
  · exact .inr (.inl (by cases listing <;> rfl))
  · exact .inr (.inr ⟨_, _, Stage.visit_tours listing [] _, orderly.begins underway⟩)
  · exact .inr (.inr (orderly.tours underway tours toured))

theorem run_lists (sound : fleet.Sound) (events : List Event) {number : Nat} {listing : Listing} :
    ∀ stage, ((new fleet).run events).requests[number]? = some listing.request →
      ((new fleet).run events).stages.get? number = some stage →
      Lists fleet events number listing stage := by
  induction events using List.reverseRecOn with
  | nil =>
    intro stage asked
    cases asked
  | append_singleton events event ih =>
    intro stage asked there
    obtain ⟨whole, orderly⟩ := (new_orderly sound).run events
    rw [run_append] at asked there
    have later : ∀ found, Lists fleet events number listing found →
        Lists fleet (events ++ [event]) number listing found := by
      rintro found (rfl | rfl | ⟨seen, ahead, tours, toured⟩)
      · exact .inl rfl
      · exact .inr (.inl rfl)
      · exact .inr (.inr ⟨seen, ahead, tours, toured.later event⟩)
    have before : ∀ found, ((new fleet).run events).stages.get? number = some found →
        Lists fleet events number listing found := by
      intro found here
      obtain ⟨request, made, _⟩ := orderly.belongs number found here
      have same : some request = some listing.request := (step_asked made event).symm.trans asked
      cases same
      exact ih found made here
    rcases step_next there with old | ⟨request, made, rfl⟩ | ⟨found, here, unblocked, rfl⟩
    · exact later stage (before stage old)
    · have same : some request = some listing.request := made.symm.trans asked
      cases same
      exact .inl rfl
    · exact later _ (orderly.lists (orderly.underway here unblocked) (before found here))

/-! ### The answer -/

/-- What holds of the answer to a listing. A drone that is shown twice has been on both matrices while the
listing was under way. -/
structure Surveyed (fleet : Fleet) (events : List Event) (number : Nat) (listing : Listing)
    (response : Response) : Prop where
  form : ∃ views, response = listing.response views ∧ (views.map (·.id)).Pairwise (· < ·) ∧
    (∀ view ∈ views, Genuine fleet events number view) ∧
    ∀ id, Stands fleet events number id → ∃ view ∈ views, view.id = id
  once : ∀ id drone, Stays fleet events number id drone →
    ∃ record, response.records.filter (·.id = drone) = [record] ∧ record.matrixId = id
  genuine : ∀ record ∈ response.records, ∃ before matrix, Underway fleet events number before ∧
    ((new fleet).run before).fleet.standing? record.matrixId = some matrix ∧
    matrix.drone? record.id = some record
  ordered : listing = .drones → response.records.Pairwise (·.id ≤ ·.id)
  apart : response.records.Pairwise fun first second =>
    first.id = second.id → first.matrixId ≠ second.matrixId

theorem Genuine.record (sound : fleet.Sound) {view : MatrixView}
    (genuine : Genuine fleet events number view) {record : Drone} (member : record ∈ view.drones) :
    record.matrixId = view.id ∧ ∃ before matrix, Underway fleet events number before ∧
      ((new fleet).run before).fleet.standing? record.matrixId = some matrix ∧
      matrix.drone? record.id = some record := by
  obtain ⟨before, matrix, underway, standing, rfl⟩ := genuine
  obtain ⟨whole, orderly⟩ := (new_orderly sound).run before
  obtain ⟨key, present⟩ := Table.mem_values.mp member
  obtain ⟨name, owner⟩ := (orderly.firm.standing standing).2.named key record present
  subst name
  exact ⟨owner, before, matrix, underway, owner.symm ▸ standing, present⟩

theorem Genuine.apart (sound : fleet.Sound) {view : MatrixView}
    (genuine : Genuine fleet events number view) :
    view.drones.Pairwise fun first second => first.id ≠ second.id := by
  obtain ⟨before, matrix, _, standing, rfl⟩ := genuine
  obtain ⟨whole, orderly⟩ := (new_orderly sound).run before
  exact (orderly.firm.standing standing).2.view_ascending.imp Nat.ne_of_lt

theorem shows_of_owns {matrix : Matrix} (sound : matrix.Sound) {drone : Nat}
    (aboard : matrix.owns drone = true) : Shows matrix.view drone := by
  obtain ⟨record, present⟩ := Matrix.owns_iff.mp aboard
  exact ⟨record, Table.mem_values.mpr ⟨drone, present⟩, (sound.named drone record present).1⟩

theorem Genuine.shows (sound : fleet.Sound) {view : MatrixView}
    (genuine : Genuine fleet events number view) {drone : Nat}
    (stays : Stays fleet events number view.id drone) : Shows view drone := by
  obtain ⟨before, matrix, underway, standing, seen⟩ := genuine
  obtain ⟨whole, orderly⟩ := (new_orderly sound).run before
  have aboard := (Fleet.standing_houses standing).mp (stays before underway)
  exact seen ▸ shows_of_owns (orderly.firm.standing standing).2 aboard

theorem records_perm (listing : Listing) (views : List MatrixView) :
    (listing.response views).records.Perm (views.flatMap (·.drones)) := by
  cases listing with
  | matrices => exact .refl _
  | drones => exact List.mergeSort_perm _ _

theorem Toured.records_apart (sound : fleet.Sound) {seen : List MatrixView} {ahead : List Nat}
    (toured : Toured fleet events number seen ahead) :
    (seen.flatMap (·.drones)).Pairwise fun first second =>
      first.id = second.id → first.matrixId ≠ second.matrixId := by
  have ascending := List.pairwise_map.mp (List.pairwise_append.mp toured.ascending).1
  refine List.pairwise_flatMap.mpr ⟨?_, ascending.imp_of_mem ?_⟩
  · intro view member
    exact ((toured.genuine view member).apart sound).imp fun different same => absurd same different
  · intro view view' member member' less first inside second inside' _ same
    have owner := ((toured.genuine view member).record sound inside).1
    have owner' := ((toured.genuine view' member').record sound inside').1
    rw [← owner, ← owner', same] at less
    exact Nat.lt_irrefl _ less

/-- A drone that stays is shown by the matrix that it is on and by no other. -/
theorem Toured.once (sound : fleet.Sound) {seen : List MatrixView}
    (toured : Toured fleet events number seen []) {id drone : Nat}
    (stays : Stays fleet events number id drone) {records : List Drone}
    (same : records.Perm (seen.flatMap (·.drones))) :
    ∃ record, records.filter (·.id = drone) = [record] ∧ record.matrixId = id := by
  have owners : ∀ record ∈ records.filter (·.id = drone), record.id = drone ∧ record.matrixId = id := by
    intro record member
    obtain ⟨inside, name⟩ := List.mem_filter.mp member
    have wanted : record.id = drone := by simpa using name
    obtain ⟨view, present, shown⟩ := List.mem_flatMap.mp (same.mem_iff.mp inside)
    obtain ⟨_, before, matrix, underway, standing, found⟩ :=
      (toured.genuine view present).record sound shown
    obtain ⟨whole, orderly⟩ := (new_orderly sound).run before
    have housed := (Fleet.standing_houses standing).mpr (Matrix.owns_iff.mpr ⟨record, found⟩)
    exact ⟨wanted, orderly.firm.single _ _ _ (wanted ▸ housed) (stays before underway)⟩
  have apart := ((same.pairwise_iff fun different => fun name owner =>
    different name.symm owner.symm).mpr (toured.records_apart sound)).filter (·.id = drone)
  obtain ⟨view, present, rfl⟩ := (toured.covers id (stays.stands sound)).resolve_left (by simp)
  obtain ⟨record, shown, name⟩ := (toured.genuine view present).shows sound stays
  have member : record ∈ records.filter (·.id = drone) :=
    List.mem_filter.mpr ⟨same.mem_iff.mpr (List.mem_flatMap.mpr ⟨view, present, shown⟩), by simpa using name⟩
  generalize records.filter (·.id = drone) = picked at owners apart member
  match picked with
  | [] => cases member
  | [only] => exact ⟨only, rfl, (owners only List.mem_cons_self).2⟩
  | first :: second :: _ =>
    have one := owners first List.mem_cons_self
    have other := owners second (List.mem_cons_of_mem _ List.mem_cons_self)
    have different := (List.pairwise_cons.mp apart).1 second List.mem_cons_self
    exact absurd (one.2.trans other.2.symm) (different (one.1.trans other.1.symm))

theorem Toured.surveyed (sound : fleet.Sound) {seen : List MatrixView}
    (toured : Toured fleet events number seen []) (listing : Listing) :
    Surveyed fleet events number listing (listing.response seen) where
  form := ⟨seen, rfl, by simpa using toured.ascending, toured.genuine,
    fun id stands => (toured.covers id stands).resolve_left List.not_mem_nil⟩
  once id drone stays := toured.once sound stays (records_perm listing seen)
  genuine record member := by
    obtain ⟨view, present, shown⟩ := List.mem_flatMap.mp ((records_perm listing seen).mem_iff.mp member)
    exact ((toured.genuine view present).record sound shown).2
  ordered := by
    rintro rfl
    exact Fleet.roll_ordered seen
  apart := ((records_perm listing seen).pairwise_iff fun different name owner =>
    different name.symm owner.symm).mpr (toured.records_apart sound)

/-- The answer to a listing, whatever else happens meanwhile. -/
theorem run_surveyed (sound : fleet.Sound) {events : List Event} {number : Nat}
    {listing : Listing}
    (asked : ((new fleet).run events).requests[number]? = some listing.request) {response : Response}
    (answered : ((new fleet).run events).answer? number = some response) :
    Surveyed fleet events number listing response := by
  rcases run_lists sound events _ asked (answer?_eq_some.mp answered) with
    start | survey | ⟨seen, ahead, ⟨rfl, rfl⟩, toured⟩
  · cases start
  · cases survey
  · exact toured.surveyed sound listing

/-! ### Drones that move -/

/-- There are drones on the first and on the third of three matrices. While a listing that has seen the
first waits for the second, the drones change places. -/
def shuffling : List Event :=
  List.flatten
    [[.submit (.createMatrix 4 4), .advance 0, .advance 0, .submit (.createMatrix 4 4), .advance 1,
      .advance 1, .submit (.createMatrix 4 4), .advance 2, .advance 2,
      .submit (.createDrone ⟨"", "", ⟨1, 1, .north⟩, 1⟩)], List.replicate 6 (.advance 3),
      .submit (.createDrone ⟨"", "", ⟨0, 0, .north⟩, 3⟩) :: List.replicate 6 (.advance 4),
      [.hold 2, .submit .listDrones], List.replicate 5 (.advance 5),
      .submit (.updateDrone 2 ⟨none, none, none, none, none, some 1⟩) ::
        List.replicate 15 (.advance 6),
      .submit (.updateDrone 1 ⟨none, none, none, none, none, some 3⟩) ::
        List.replicate 11 (.advance 7), .release 2 :: List.replicate 6 (.advance 5)]

/-- One of the two drones is missing and the other one is shown on both matrices. -/
theorem shuffling_answer :
    ((new .empty).run shuffling).answer? 5 =
      some (.drones [⟨1, "", "", ⟨1, 1, .north⟩, 1⟩, ⟨1, "", "", ⟨1, 1, .north⟩, 3⟩]) := by
  cbv

theorem shuffling_owned {before : List Event} (underway : Underway .empty shuffling 5 before)
    {drone : Nat} (either : drone = 1 ∨ drone = 2) :
    ∃ id, ((new .empty).run before).fleet.Houses id drone := by
  have moments : ∀ length ≤ shuffling.length,
      5 < ((new .empty).run (shuffling.take length)).requests.length →
      ((new .empty).run (shuffling.take length)).answer? 5 = none →
        ((new .empty).run (shuffling.take length)).fleet.slots.values.any (·.matrix.owns 1) = true ∧
        ((new .empty).run (shuffling.take length)).fleet.slots.values.any (·.matrix.owns 2) =
          true := by
    decide +kernel
  have moment := moments before.length underway.early.length_le
  rw [← List.prefix_iff_eq_take.mp underway.early] at moment
  have aboard : ((new .empty).run before).fleet.slots.values.any (·.matrix.owns drone) = true := by
    obtain ⟨first, second⟩ := moment underway.made underway.unanswered
    rcases either with rfl | rfl
    · exact first
    · exact second
  obtain ⟨slot, member, owned⟩ := List.any_eq_true.mp aboard
  obtain ⟨id, found⟩ := Table.mem_values.mp member
  exact ⟨id, slot, found, owned⟩

/-- A drone that is on a matrix all along may be missing or be shown twice, and so a number may come
twice in the list. -/
theorem shuffled_drones_listed :
    ¬ ∀ (events : List Event) (number : Nat) (listing : Listing) (response : Response),
      ((new .empty).run events).requests[number]? = some listing.request →
      ((new .empty).run events).answer? number = some response →
      (∀ drone, (∀ before, Underway .empty events number before →
          ∃ id, ((new .empty).run before).fleet.Houses id drone) →
        ∃ record, response.records.filter (·.id = drone) = [record]) ∧
      (listing = .drones → response.records.Pairwise (·.id < ·.id)) := by
  intro claim
  obtain ⟨once, ascending⟩ :=
    claim shuffling 5 .drones _ (by decide +kernel) shuffling_answer
  obtain ⟨missing, shown⟩ := once 2 fun _ underway => shuffling_owned underway (.inr rfl)
  cases shown

theorem run_surveyed_shuffling :
    Fleet.empty.Sound ∧ ((new .empty).run shuffling).requests[5]? = some Listing.drones.request ∧
      Surveyed .empty shuffling 5 .drones
        (.drones [⟨1, "", "", ⟨1, 1, .north⟩, 1⟩, ⟨1, "", "", ⟨1, 1, .north⟩, 3⟩]) :=
  have asked : ((new .empty).run shuffling).requests[5]? = some Listing.drones.request := by
    decide +kernel
  ⟨Fleet.empty_sound, asked, run_surveyed Fleet.empty_sound asked shuffling_answer⟩

end Crowd

end DroneFleet
