import DroneFleet.Proofs.Fleet.Updates
import DroneFleet.Server.Config
import Mathlib

/-!
The fleet that a server begins with. As long as the seeds fit, what has been planted is the fleet that
is written down directly from the seeds (`Fleet.ofSeeds`), matrix after matrix and drone after drone.
So the first drone that may not be placed is the first that stands out in the lists themselves
(`FirstOffence`), and the drone in its way has the number that it has from its place in the lists.
-/
namespace DroneFleet

namespace Table

variable {κ α : Type} [Ord κ]

theorem put_above [Std.OrientedOrd κ] {key : κ} {value : α} {entries : List (κ × α)}
    (above : ∀ entry ∈ entries, compare entry.1 key = .lt) :
    put key value entries = entries ++ [(key, value)] := by
  induction entries with
  | nil => rfl
  | cons head rest ih =>
    have greater : compare key head.1 = .gt :=
      Std.OrientedCmp.gt_iff_lt.mpr (above head List.mem_cons_self)
    simp only [put, greater, List.cons_append,
      ih fun entry member => above entry (List.mem_cons_of_mem _ member)]

variable [Std.TransOrd κ] [Std.LawfulEqOrd κ]

def ofList (entries : List (κ × α)) : Table κ α :=
  entries.foldl (fun table entry => table.insert entry.1 entry.2) empty

theorem ofList_concat (entries : List (κ × α)) (key : κ) (value : α) :
    ofList (entries ++ [(key, value)]) = (ofList entries).insert key value :=
  List.foldl_concat ..

theorem entries_ofList {entries : List (κ × α)}
    (sorted : entries.Pairwise fun a b => compare a.1 b.1 = .lt) :
    (ofList entries).entries = entries := by
  induction entries using List.reverseRecOn with
  | nil => rfl
  | append_singleton entries last ih =>
    obtain ⟨before, _, above⟩ := List.pairwise_append.mp sorted
    have written := congrArg (put last.1 last.2) (ih before)
    rw [put_above fun entry member => above entry member last (List.mem_singleton_self last)]
      at written
    rw [ofList_concat]
    exact written

variable [DecidableEq κ]

theorem mem_of_ofList {entries : List (κ × α)} {key : κ} {value : α}
    (found : (ofList entries).get? key = some value) : (key, value) ∈ entries := by
  induction entries using List.reverseRecOn with
  | nil => cases found
  | append_singleton entries last ih =>
    rw [ofList_concat, get?_insert] at found
    split at found
    · rename_i same
      obtain rfl := Option.some.inj found
      exact List.mem_append_right _ (same ▸ List.mem_singleton_self last)
    · exact List.mem_append_left _ (ih found)

theorem ofList_ne_none {entries : List (κ × α)} {key : κ} {value : α}
    (member : (key, value) ∈ entries) : (ofList entries).get? key ≠ none := by
  induction entries using List.reverseRecOn with
  | nil => cases member
  | append_singleton entries last ih =>
    rw [ofList_concat, get?_insert]
    split
    · exact Option.some_ne_none _
    · rename_i different
      rcases List.mem_append.mp member with earlier | here
      · exact ih earlier
      · exact absurd (congrArg Prod.fst (List.mem_singleton.mp here)) different

end Table

/-! ### A fleet written down -/

def MatrixView.matrix (view : MatrixView) : Matrix :=
  ⟨view.id, view.bounds, .ofList (view.drones.map fun drone => (drone.id, drone)),
    .ofList (view.drones.map fun drone => (drone.pose.cell, drone.id))⟩

def MatrixView.add (view : MatrixView) (drone : Drone) : MatrixView :=
  { view with drones := view.drones ++ [drone] }

theorem MatrixView.matrix_add (view : MatrixView) (drone : Drone) :
    (view.add drone).matrix = view.matrix.joined drone := by
  simp only [matrix, add, Matrix.joined, List.map_append, List.map_singleton, Table.ofList_concat]

/-- The fleet of these matrices, from which nothing has ever been deleted. -/
def Fleet.ofViews (views : List MatrixView) : Fleet where
  slots := .ofList (views.map fun view => (view.id, ⟨view.matrix, false⟩))
  listed := .ofList (views.map fun view => (view.id, ()))
  owners := .ofList (views.flatMap fun view => view.drones.map fun drone => (drone.id, view.id))
  lastMatrix := views.length
  lastDrone := (views.flatMap (·.drones)).length

namespace Fleet

variable (views : List MatrixView) (view : MatrixView)

theorem ofViews_matrix? : (ofViews (views ++ [view])).matrix? view.id = some view.matrix := by
  simp [ofViews, matrix?, standing?, Table.ofList_concat, Table.get?_insert]

theorem ofViews_found (bounds : Bounds) :
    { ofViews views with lastMatrix := views.length + 1 }.publish (.new (views.length + 1) bounds) =
      ofViews (views ++ [⟨views.length + 1, bounds, []⟩]) := by
  simp [ofViews, publish, store, Table.ofList, Matrix.new, MatrixView.matrix]

theorem ofViews_enrolled (drone : Drone) :
    ({ ofViews (views ++ [view]) with lastDrone := (ofViews (views ++ [view])).lastDrone + 1 }.store
        (view.matrix.joined drone)).assign drone.id (some view.id) =
      ofViews (views ++ [view.add drone]) := by
  have slots : (Table.ofList ((views ++ [view]).map fun view => (view.id, Slot.mk view.matrix false))).insert
      view.id ⟨view.matrix.joined drone, false⟩ =
      .ofList ((views ++ [view.add drone]).map fun view => (view.id, ⟨view.matrix, false⟩)) := by
    simp only [List.map_append, List.map_singleton, Table.ofList_concat, Table.insert_insert,
      MatrixView.matrix_add]
    rfl
  have owners : (Table.ofList ((views ++ [view]).flatMap fun view =>
      view.drones.map fun drone => (drone.id, view.id))).insert drone.id view.id =
      .ofList ((views ++ [view.add drone]).flatMap fun view =>
        view.drones.map fun drone => (drone.id, view.id)) := by
    simp only [MatrixView.add, List.flatMap_append, List.flatMap_singleton, List.map_append,
      List.map_singleton, ← List.append_assoc, Table.ofList_concat]
  have listed : (views ++ [view]).map (fun view => (view.id, ())) =
      (views ++ [view.add drone]).map fun view => (view.id, ()) := by
    simp only [List.map_append, List.map_singleton, MatrixView.add]
  have drones : ((views ++ [view]).flatMap (·.drones)).length + 1 =
      ((views ++ [view.add drone]).flatMap (·.drones)).length := by
    simp only [MatrixView.add, List.flatMap_append, List.flatMap_singleton, List.length_append,
      List.length_singleton, Nat.add_assoc]
  have matrices : (views ++ [view]).length = (views ++ [view.add drone]).length := by
    simp only [List.length_append, List.length_singleton]
  simp only [ofViews, store, assign]
  rw [← drones, ← matrices, ← listed, ← owners, ← slots]
  rfl

end Fleet

theorem MatrixView.view_matrix {view : MatrixView}
    (ascending : view.drones.Pairwise (·.id < ·.id)) : view.matrix.view = view := by
  have kept : (Table.ofList (view.drones.map fun drone => (drone.id, drone))).values =
      view.drones := by
    rw [Table.values, Table.entries_ofList (List.pairwise_map.mpr (ascending.imp
      Nat.compare_eq_lt.mpr)), List.map_map]
    exact List.map_id _
  simp only [matrix, Matrix.view, kept]

theorem Fleet.views_ofViews {views : List MatrixView} (ascending : views.Pairwise (·.id < ·.id))
    (inner : ∀ view ∈ views, view.drones.Pairwise (·.id < ·.id)) :
    (ofViews views).views = views := by
  have slots := Table.entries_ofList (List.pairwise_map.mpr (ascending.imp Nat.compare_eq_lt.mpr) :
    (views.map fun view => (view.id, Slot.mk view.matrix false)).Pairwise _)
  have listed := Table.entries_ofList (List.pairwise_map.mpr (ascending.imp Nat.compare_eq_lt.mpr) :
    (views.map fun view => (view.id, ())).Pairwise _)
  have standing : ∀ view ∈ views, (ofViews views).standing? view.id = some view.matrix := by
    intro view member
    have stored : (ofViews views).slots.get? view.id = some ⟨view.matrix, false⟩ :=
      Table.mem_entries.mp (slots ▸ List.mem_map_of_mem member)
    rw [standing?, stored]
    rfl
  have found : (ofViews views).matrices = views.map MatrixView.matrix := by
    rw [matrices, Table.keys, show (ofViews views).listed.entries = _ from listed, List.map_map,
      List.filterMap_map]
    exact (List.filterMap_congr standing).trans (congrFun List.filterMap_eq_map views)
  have seen : ∀ view ∈ views, view.matrix.view = view :=
    fun view member => MatrixView.view_matrix (inner view member)
  rw [Fleet.views, found, List.map_map]
  exact (List.map_congr_left seen).trans (List.map_id _)

/-! ### What the seeds say -/

def DroneSeed.record (seed : DroneSeed) (id home : Nat) : Drone :=
  ⟨id, seed.name, seed.model, seed.pose, home⟩

namespace MatrixSeed

/-- The matrix numbered `id`, with `before` drones on the matrices before it. -/
def view (seed : MatrixSeed) (id before : Nat) : MatrixView :=
  ⟨id, seed.bounds, seed.drones.mapIdx fun place drone => drone.record (before + place + 1) id⟩

def views (id before : Nat) : List MatrixSeed → List MatrixView
  | [] => []
  | seed :: rest => seed.view id before :: views (id + 1) (before + seed.drones.length) rest

def crew (seeds : List MatrixSeed) : Nat := (seeds.map (·.drones.length)).sum

structure Fit (seed : MatrixSeed) : Prop where
  inside : ∀ drone ∈ seed.drones, seed.bounds.contains drone.pose.cell = true
  apart : (seed.drones.map (·.pose.cell)).Nodup

/-- The drone at `place` is outside the bounds, or else on the cell of a drone before it. -/
inductive Offends (seed : MatrixSeed) (before place : Nat) : Refusal → Prop
  | outside {drone : DroneSeed} (here : seed.drones[place]? = some drone)
      (beyond : seed.bounds.contains drone.pose.cell = false) :
      Offends seed before place
        (.invalidPlacement drone.pose.x drone.pose.y seed.bounds.maxX seed.bounds.maxY)
  | occupied {drone other : DroneSeed} {earlier : Nat} (here : seed.drones[place]? = some drone)
      (within : seed.bounds.contains drone.pose.cell = true) (first : earlier < place)
      (there : seed.drones[earlier]? = some other) (same : other.pose.cell = drone.pose.cell) :
      Offends seed before place
        (.positionOccupied drone.pose.x drone.pose.y (before + earlier + 1))

def FirstOffends (seed : MatrixSeed) (before : Nat) (refusal : Refusal) : Prop :=
  ∃ place, (∀ earlier < place, ∀ other, ¬ seed.Offends before earlier other) ∧
    seed.Offends before place refusal

def FirstOffence (seeds : List MatrixSeed) (index : Nat) (refusal : Refusal) : Prop :=
  (∀ seed ∈ seeds.take index, seed.Fit) ∧ ∃ seed, seeds[index]? = some seed ∧
    seed.FirstOffends (crew (seeds.take index)) refusal

theorem views_append (id before : Nat) (first second : List MatrixSeed) :
    views id before (first ++ second) =
      views id before first ++ views (id + first.length) (before + crew first) second := by
  induction first generalizing id before with
  | nil => simp [views, crew]
  | cons seed first ih =>
    simp [views, ih, crew, Nat.add_assoc, Nat.add_comm 1]

theorem length_views (id before : Nat) (seeds : List MatrixSeed) :
    (views id before seeds).length = seeds.length := by
  induction seeds generalizing id before with
  | nil => rfl
  | cons seed seeds ih => simp [views, ih]

theorem crew_views (id before : Nat) (seeds : List MatrixSeed) :
    ((views id before seeds).flatMap (·.drones)).length = crew seeds := by
  induction seeds generalizing id before with
  | nil => rfl
  | cons seed seeds ih =>
    simp only [views, view, crew, List.flatMap_cons, List.length_append, List.length_mapIdx, ih,
      List.map_cons, List.sum_cons]

variable {bounds : Bounds} {placed : List DroneSeed} {drone : DroneSeed} {before id : Nat}

theorem Fit.inoffensive (fit : Fit ⟨bounds, placed⟩) (todo : List DroneSeed) (before : Nat)
    {place : Nat} (early : place < placed.length) (refusal : Refusal) :
    ¬ Offends ⟨bounds, placed ++ todo⟩ before place refusal := by
  have prior : ∀ {index : Nat} {seed : DroneSeed}, index < placed.length →
      (placed ++ todo)[index]? = some seed → placed[index]? = some seed := by
    intro index seed below here
    rwa [List.getElem?_append_left below] at here
  rintro (⟨here, beyond⟩ | ⟨here, within, first, there, same⟩)
  · exact Bool.false_ne_true (beyond.symm.trans (fit.inside _ (List.mem_of_getElem? (prior early here))))
  · have one := prior (Nat.lt_trans first early) there
    have two := prior early here
    refine List.nodup_iff_getElem?_ne_getElem?.mp fit.apart _ _ first ?_ ?_
    · rwa [List.length_map]
    · rw [List.getElem?_map, List.getElem?_map, one, two, Option.map_some, Option.map_some, same]

theorem FirstOffends.unfit {seed : MatrixSeed} {refusal : Refusal}
    (offends : seed.FirstOffends before refusal) : ¬ seed.Fit := by
  rintro fit
  obtain ⟨place, _, wrong⟩ := offends
  have here : place < seed.drones.length := by
    cases wrong with
    | outside here => exact (List.getElem?_eq_some_iff.mp here).1
    | occupied here => exact (List.getElem?_eq_some_iff.mp here).1
  have clean := fit.inoffensive [] before here refusal
  rw [List.append_nil] at clean
  exact clean wrong

theorem offends_of_shared {seed : MatrixSeed} {earlier place : Nat} {other drone : DroneSeed}
    (first : earlier < place) (there : seed.drones[earlier]? = some other)
    (here : seed.drones[place]? = some drone) (same : other.pose.cell = drone.pose.cell) :
    ∃ refusal, seed.Offends before place refusal := by
  cases within : seed.bounds.contains drone.pose.cell with
  | false => exact ⟨_, .outside here within⟩
  | true => exact ⟨_, .occupied here within first there same⟩

/-- Of the drones before it only one can be in the way of the first that offends. -/
theorem FirstOffends.unique {seed : MatrixSeed} {first second : Refusal}
    (one : seed.FirstOffends before first) (two : seed.FirstOffends before second) :
    first = second := by
  obtain ⟨place, clean, wrong⟩ := one
  obtain ⟨place', clean', wrong'⟩ := two
  have same : place = place' := by
    rcases Nat.lt_trichotomy place place' with less | same | greater
    · exact absurd wrong (clean' place less _)
    · exact same
    · exact absurd wrong' (clean place' greater _)
  subst same
  cases wrong with
  | outside here beyond =>
    cases wrong' with
    | outside here' beyond' =>
      cases here.symm.trans here'
      rfl
    | occupied here' within =>
      cases here.symm.trans here'
      cases beyond.symm.trans within
  | @occupied drone other earlier here within less there cell =>
    cases wrong' with
    | outside here' beyond =>
      cases here.symm.trans here'
      cases beyond.symm.trans within
    | @occupied _ other' earlier' here' _ less' there' cell' =>
      cases here.symm.trans here'
      -- Two drones before on this cell: the later of them would have offended already.
      rcases Nat.lt_trichotomy earlier earlier' with first | rfl | first
      · obtain ⟨_, shared⟩ := offends_of_shared first there there' (cell.trans cell'.symm)
        exact absurd shared (clean earlier' less' _)
      · rfl
      · obtain ⟨_, shared⟩ := offends_of_shared first there' there (cell'.trans cell.symm)
        exact absurd shared (clean earlier less _)

theorem FirstOffence.unfit {seeds : List MatrixSeed} {index : Nat} {refusal : Refusal}
    (offence : FirstOffence seeds index refusal) : ¬ ∀ seed ∈ seeds, seed.Fit := by
  obtain ⟨_, seed, here, offends⟩ := offence
  exact fun fit => offends.unfit (fit seed (List.mem_of_getElem? here))

theorem FirstOffence.unique {seeds : List MatrixSeed} {index index' : Nat} {refusal refusal' : Refusal}
    (one : FirstOffence seeds index refusal) (two : FirstOffence seeds index' refusal') :
    index = index' ∧ refusal = refusal' := by
  obtain ⟨fit, seed, here, offends⟩ := one
  obtain ⟨fit', seed', here', offends'⟩ := two
  have inside : ∀ {index count : Nat} {seed : MatrixSeed}, index < count →
      seeds[index]? = some seed → seed ∈ seeds.take count := by
    intro index count seed less here
    exact List.mem_of_getElem? ((List.getElem?_take_of_lt less).trans here)
  rcases Nat.lt_trichotomy index index' with less | rfl | greater
  · exact absurd (fit' seed (inside less here)) offends.unfit
  · cases here.symm.trans here'
    exact ⟨rfl, offends.unique offends'⟩
  · exact absurd (fit seed' (inside greater here')) offends'.unfit

theorem views_ascending (id before : Nat) (seeds : List MatrixSeed) :
    (views id before seeds).Pairwise (·.id < ·.id) ∧
      ∀ view ∈ views id before seeds, id ≤ view.id ∧ view.drones.Pairwise (·.id < ·.id) := by
  induction seeds generalizing id before with
  | nil => exact ⟨.nil, List.forall_mem_nil _⟩
  | cons seed seeds ih =>
    obtain ⟨ascending, above⟩ := ih (id + 1) (before + seed.drones.length)
    refine ⟨.cons (fun later member => (above later member).1) ascending, ?_⟩
    refine List.forall_mem_cons.mpr ⟨⟨Nat.le_refl _, ?_⟩, fun later member => ?_⟩
    · refine List.pairwise_iff_getElem.mpr fun earlier later _ _ less => ?_
      simp only [view, List.getElem_mapIdx, DroneSeed.record]
      omega
    · exact ⟨Nat.le_of_succ_le (above later member).1, (above later member).2⟩

/-! ### Whether there is room for one more drone -/

theorem mem_cells (seed : MatrixSeed) (id before : Nat) {cell : Cell} {occupant : Nat} :
    (cell, occupant) ∈ ((seed.view id before).drones.map fun drone => (drone.pose.cell, drone.id)) ↔
      ∃ earlier other, seed.drones[earlier]? = some other ∧ other.pose.cell = cell ∧
        before + earlier + 1 = occupant := by
  simp only [view, List.mem_map, List.mem_mapIdx, Prod.mk.injEq]
  constructor
  · rintro ⟨_, ⟨earlier, below, rfl⟩, there, number⟩
    exact ⟨earlier, _, List.getElem?_eq_getElem below, there, number⟩
  · rintro ⟨earlier, other, present, there, number⟩
    obtain ⟨below, rfl⟩ := List.getElem?_eq_some_iff.mp present
    exact ⟨_, ⟨earlier, below, rfl⟩, there, number⟩

theorem Fit.add (fit : Fit ⟨bounds, placed⟩)
    (free : (view ⟨bounds, placed⟩ id before).matrix.checkPlacement drone.pose none = .ok ()) :
    Fit ⟨bounds, placed ++ [drone]⟩ := by
  obtain ⟨within, vacant⟩ := Matrix.checkPlacement_eq_ok.mp free
  refine ⟨?_, ?_⟩
  · intro other member
    rcases List.mem_append.mp member with earlier | last
    · exact fit.inside other earlier
    · exact List.mem_singleton.mp last ▸ within
  · rw [List.map_append, List.map_singleton, ← List.concat_eq_append]
    refine List.Nodup.concat ?_ fit.apart
    intro taken
    obtain ⟨other, member, same⟩ := List.mem_map.mp taken
    obtain ⟨earlier, there⟩ := List.mem_iff_getElem?.mp member
    have stands := (mem_cells ⟨bounds, placed⟩ id before).mpr ⟨earlier, other, there, same, rfl⟩
    obtain ⟨occupant, standing⟩ := Option.ne_none_iff_exists'.mp (Table.ofList_ne_none stands)
    exact absurd (vacant occupant standing) (Option.some_ne_none _)

theorem Fit.firstOffends (fit : Fit ⟨bounds, placed⟩) (todo : List DroneSeed) {refusal : Refusal}
    (refused : (view ⟨bounds, placed⟩ id before).matrix.checkPlacement drone.pose none =
      .error refusal) :
    FirstOffends ⟨bounds, placed ++ drone :: todo⟩ before refusal := by
  refine ⟨placed.length, fun earlier first => fit.inoffensive _ _ first, ?_⟩
  have here : (placed ++ drone :: todo)[placed.length]? = some drone := by simp
  rcases Matrix.checkPlacement_error_iff.mp refused with
    ⟨beyond, rfl⟩ | ⟨within, occupant, standing, rfl⟩
  · exact .outside here beyond
  · have stands := Table.mem_of_ofList (Option.filter_eq_some_iff.mp standing).1
    obtain ⟨earlier, other, there, same, rfl⟩ := (mem_cells _ _ _).mp stands
    have first : earlier < placed.length := (List.getElem?_eq_some_iff.mp there).1
    exact .occupied here within first ((List.getElem?_append_left first).trans there) same

end MatrixSeed

/-! ### Planting -/

/-- The fleet of the seeds: matrices numbered from one in their order, and drones across them. -/
def Fleet.ofSeeds (seeds : List MatrixSeed) : Fleet := .ofViews (MatrixSeed.views 1 0 seeds)

namespace MatrixSeed

theorem ofSeeds_concat (done : List MatrixSeed) (seed : MatrixSeed) :
    Fleet.ofSeeds (done ++ [seed]) =
      .ofViews (views 1 0 done ++ [seed.view (done.length + 1) (crew done)]) := by
  rw [Fleet.ofSeeds, views_append, Nat.add_comm 1, Nat.zero_add]
  rfl

theorem view_concat (bounds : Bounds) (placed : List DroneSeed) (drone : DroneSeed) (id before : Nat) :
    view ⟨bounds, placed ++ [drone]⟩ id before =
      (view ⟨bounds, placed⟩ id before).add (drone.record (before + placed.length + 1) id) := by
  simp only [view, MatrixView.add, List.mapIdx_concat]

theorem view_owns {seed : MatrixSeed} {id before drone : Nat}
    (above : before + seed.drones.length < drone) : (seed.view id before).matrix.owns drone = false := by
  refine Matrix.owns_eq_false_iff.mpr (Option.eq_none_iff_forall_ne_some.mpr fun record present => ?_)
  obtain ⟨_, member, same⟩ := List.mem_map.mp (Table.mem_of_ofList present)
  obtain ⟨place, below, rfl⟩ := List.mem_mapIdx.mp member
  have number : before + place + 1 = drone := congrArg Prod.fst same
  omega

end MatrixSeed

namespace Handling

open MatrixSeed

def settle (home : Nat) (seed : DroneSeed) : Handling Unit := do
  let placed ← enroll (← seek home) ⟨seed.name, seed.model, seed.pose, home⟩
  assign placed.id (some home)

theorem on_plant (seed : MatrixSeed) (fleet : Fleet) :
    (plant seed).on fleet = (seed.drones.forM (settle (fleet.lastMatrix + 1))).on
      ({ fleet with lastMatrix := fleet.lastMatrix + 1 }.publish
        (.new (fleet.lastMatrix + 1) seed.bounds)) := by
  simp only [plant, found, on_bind, on_get, on_modify, on_pure, Matrix.new]
  generalize Fleet.publish _ _ = start
  generalize seed.drones = drones
  induction drones generalizing start with
  | nil => rfl
  | cons first rest ih =>
    simp only [List.forIn_cons, List.forM_eq_forM, List.forM_cons, settle, on_bind] at ih ⊢
    rcases (seek (fleet.lastMatrix + 1)).on start with ⟨_ | matrix, found⟩
    · rfl
    · dsimp only
      rcases (enroll matrix _).on found with ⟨_ | record, enrolled⟩
      · rfl
      · exact ih _

theorem on_settle {views : List MatrixView} {view : MatrixView} {last : Nat}
    (latest : (Fleet.ofViews (views ++ [view])).lastDrone = last)
    (absent : view.matrix.owns (last + 1) = false) (seed : DroneSeed) :
    (settle view.id seed).on (.ofViews (views ++ [view])) =
      match view.matrix.checkPlacement seed.pose none with
      | .ok _ => (.ok (), .ofViews (views ++ [view.add (seed.record (last + 1) view.id)]))
      | .error refusal => (.error refusal, .ofViews (views ++ [view])) := by
  have sought : (seek view.id).on (.ofViews (views ++ [view])) =
      (.ok view.matrix, .ofViews (views ++ [view])) := by
    simp only [seek, on_bind, on_get, Fleet.ofViews_matrix?]
    rfl
  have enrolled := Fleet.ofViews_enrolled views view (seed.record (last + 1) view.id)
  have present : (view.matrix.joined (seed.record (last + 1) view.id)).drone? (last + 1) =
      some (seed.record (last + 1) view.id) := by
    rw [Matrix.joined_drone?]
    exact if_pos rfl
  cases checked : view.matrix.checkPlacement seed.pose none with
  | error refusal => simp only [settle, on_bind, sought, enroll, on_lift, checked]
  | ok _ =>
    rw [latest] at enrolled
    have placed : view.matrix.place (last + 1) seed.name seed.model seed.pose =
        .ok (view.matrix.joined (seed.record (last + 1) view.id)) := by
      rw [Matrix.place_eq _ _ _ absent, checked]
      rfl
    simp only [settle, on_bind, sought, enroll, on_lift, checked, on_get, on_modify, latest, placed,
      on_store, on_record present, on_assign]
    exact congrArg _ enrolled

variable (done : List MatrixSeed)

theorem ofSeeds_found (bounds : Bounds) :
    { Fleet.ofSeeds done with lastMatrix := done.length + 1 }.publish (.new (done.length + 1) bounds) =
      .ofSeeds (done ++ [⟨bounds, []⟩]) := by
  have found := Fleet.ofViews_found (views 1 0 done) bounds
  rw [length_views] at found
  rw [ofSeeds_concat]
  exact found

theorem on_settle_seed (bounds : Bounds) (placed : List DroneSeed) (seed : DroneSeed) :
    (settle (done.length + 1) seed).on (.ofSeeds (done ++ [⟨bounds, placed⟩])) =
      match (view ⟨bounds, placed⟩ (done.length + 1) (crew done)).matrix.checkPlacement
          seed.pose none with
      | .ok _ => (.ok (), .ofSeeds (done ++ [⟨bounds, placed ++ [seed]⟩]))
      | .error refusal => (.error refusal, .ofSeeds (done ++ [⟨bounds, placed⟩])) := by
  have latest : (Fleet.ofSeeds (done ++ [⟨bounds, placed⟩])).lastDrone = crew done + placed.length := by
    refine (crew_views 1 0 _).trans ?_
    simp [crew]
  have absent : (view ⟨bounds, placed⟩ (done.length + 1) (crew done)).matrix.owns
      (crew done + placed.length + 1) = false := view_owns (Nat.lt_succ_self _)
  simp only [ofSeeds_concat, view_concat] at latest ⊢
  exact on_settle latest absent seed

/-- The drones of a matrix are placed one after another, `placed` being there already. -/
theorem settle_all {bounds : Bounds} {placed : List DroneSeed} (fit : Fit ⟨bounds, placed⟩)
    (todo : List DroneSeed) :
    let work := (todo.forM (settle (done.length + 1))).on (.ofSeeds (done ++ [⟨bounds, placed⟩]))
    (Fit ⟨bounds, placed ++ todo⟩ ∧ work = (.ok (), .ofSeeds (done ++ [⟨bounds, placed ++ todo⟩]))) ∨
      ∃ refusal after, FirstOffends ⟨bounds, placed ++ todo⟩ (crew done) refusal ∧
        work = (.error refusal, after) := by
  induction todo generalizing placed with
  | nil => exact .inl (by rw [List.append_nil]; exact ⟨fit, rfl⟩)
  | cons seed todo ih =>
    intro work
    have first := on_settle_seed done bounds placed seed
    have steps : work = _ := on_bind _ _ _
    cases checked : (view ⟨bounds, placed⟩ (done.length + 1) (crew done)).matrix.checkPlacement
        seed.pose none with
    | ok _ =>
      rw [checked] at first
      rw [first] at steps
      have rest := ih (fit.add checked)
      rw [List.append_assoc, List.singleton_append] at rest
      rw [steps]
      exact rest
    | error refusal =>
      rw [checked] at first
      rw [first] at steps
      exact .inr ⟨refusal, _, fit.firstOffends todo checked, steps⟩

theorem on_plant_seed (seed : MatrixSeed) :
    (seed.Fit ∧ (plant seed).on (.ofSeeds done) = (.ok (), .ofSeeds (done ++ [seed]))) ∨
      ∃ refusal after, seed.FirstOffends (crew done) refusal ∧
        (plant seed).on (.ofSeeds done) = (.error refusal, after) := by
  have number : (Fleet.ofSeeds done).lastMatrix = done.length := length_views 1 0 done
  rw [on_plant, number, ofSeeds_found]
  exact settle_all done ⟨List.forall_mem_nil _, List.nodup_nil⟩ seed.drones

end Handling

namespace Fleet

open MatrixSeed

theorem plant_result {done : List MatrixSeed} (fit : ∀ seed ∈ done, seed.Fit)
    (rest : List MatrixSeed) :
    ((∀ seed ∈ rest, seed.Fit) ∧ (ofSeeds done).plant done.length rest = .ok (ofSeeds (done ++ rest))) ∨
      ∃ index refusal, FirstOffence (done ++ rest) index refusal ∧
        (ofSeeds done).plant done.length rest = .error (.seed index refusal) := by
  induction rest generalizing done with
  | nil => exact .inl ⟨List.forall_mem_nil _, by rw [List.append_nil]; rfl⟩
  | cons seed rest ih =>
    -- What is done fits, so the fleet so far is exactly the one of `done`.
    rcases Handling.on_plant_seed done seed with
      ⟨seedFit, planted⟩ | ⟨refusal, after, offends, refused⟩
    · have step : (ofSeeds done).plant done.length (seed :: rest) =
          (ofSeeds (done ++ [seed])).plant (done ++ [seed]).length rest := by
        rw [plant, show ((Handling.plant seed).run (ofSeeds done)).run = _ from planted,
          List.length_append]
        rfl
      have onward := ih (List.forall_mem_append.mpr ⟨fit, List.forall_mem_singleton.mpr seedFit⟩)
      rw [List.append_assoc, List.singleton_append, ← step] at onward
      refine onward.imp_left fun ⟨restFit, planted⟩ => ⟨?_, planted⟩
      exact List.forall_mem_cons.mpr ⟨seedFit, restFit⟩
    · refine .inr ⟨done.length, refusal, ⟨?_, seed, ?_, ?_⟩, ?_⟩
      · rwa [List.take_left]
      · simp
      · rwa [List.take_left]
      · rw [plant, show ((Handling.plant seed).run (ofSeeds done)).run = _ from refused]

theorem views_ofSeeds (seeds : List MatrixSeed) :
    (ofSeeds seeds).views = MatrixSeed.views 1 0 seeds := by
  obtain ⟨ascending, inner⟩ := MatrixSeed.views_ascending 1 0 seeds
  exact views_ofViews ascending fun view member => (inner view member).2

/-- Planting seeds on an empty fleet. If they all fit, the fleet is the one that they describe, and
otherwise the first drone that does not is the reason of the refusal. -/
theorem plant_seeds (seeds : List MatrixSeed) :
    let planted := Fleet.empty.plant 0 seeds
    ((∃ fleet, planted = .ok fleet) ↔ ∀ seed ∈ seeds, seed.Fit) ∧
    (∀ fleet, planted = .ok fleet →
      fleet = .ofSeeds seeds ∧ fleet.views = MatrixSeed.views 1 0 seeds) ∧
    ∀ fault, planted = .error fault ↔
      ∃ index refusal, fault = .seed index refusal ∧ FirstOffence seeds index refusal := by
  intro planted
  have result : _ ∨ ∃ index refusal, _ ∧ planted = _ :=
    plant_result (List.forall_mem_nil MatrixSeed.Fit) seeds
  rcases result with ⟨fit, done⟩ | ⟨index, refusal, offence, refused⟩
  · refine ⟨⟨fun _ => fit, fun _ => ⟨_, done⟩⟩, ?_, ?_⟩
    · rintro fleet same
      cases done.symm.trans same
      exact ⟨rfl, views_ofSeeds seeds⟩
    · intro fault
      refine ⟨fun failed => ?_, ?_⟩
      · cases done.symm.trans failed
      · rintro ⟨_, _, _, offence⟩
        exact absurd fit offence.unfit
  · refine ⟨⟨?_, fun fit => absurd fit offence.unfit⟩, ?_, ?_⟩
    · rintro ⟨_, done⟩
      cases refused.symm.trans done
    · rintro _ done
      cases refused.symm.trans done
    · intro fault
      constructor
      · intro failed
        cases refused.symm.trans failed
        exact ⟨index, refusal, rfl, offence⟩
      · rintro ⟨_, _, rfl, other⟩
        obtain ⟨rfl, rfl⟩ := offence.unique other
        exact refused

/-- The drone in the way is the second of all, and the first on its matrix. -/
example : Fleet.empty.plant 0
    [⟨⟨1, 1⟩, [⟨"scout", "", ⟨0, 0, .north⟩⟩]⟩,
      ⟨⟨1, 1⟩, [⟨"guard", "", ⟨1, 0, .east⟩⟩, ⟨"relay", "", ⟨1, 0, .west⟩⟩,
        ⟨"stray", "", ⟨2, 0, .west⟩⟩]⟩] =
    .error (.seed 1 (.positionOccupied 1 0 2)) := by
  rfl

end Fleet

end DroneFleet
