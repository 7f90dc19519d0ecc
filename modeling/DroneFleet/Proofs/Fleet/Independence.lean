import DroneFleet.Proofs.Fleet.Grounded

/-!
Requests for drones to fly that have nothing to do with each other. Where drones fly, no drone changes
its matrix, and that is all that a request asks about matrices other than its own (`Fleet.Kin`). So it is
refused or carried out as if the other had not been made (`Fleet.Settles`), and two of them may come in
either order unless they are carried out on the same matrix (`Fleet.dispatch_commutes`).
-/
namespace DroneFleet

open Handling

def Request.fliers : Request → List Nat
  | droneCommands droneId _ => [droneId]
  | matrixDroneCommands _ droneIds _ => droneIds
  | batchCommands _ entries => entries.map (·.droneId)
  | _ => []

theorem Request.several_fliers {request : Request} {matrixId : Option Nat} {ids : List Nat}
    (several : request.several? = some (matrixId, ids)) : request.fliers = ids := by
  cases request with
  | matrixDroneCommands | batchCommands =>
    cases several
    rfl
  | _ => cases several

namespace Fleet

structure Kin (fleet other : Fleet) : Prop where
  sound : fleet.Sound
  sound' : other.Sound
  stands : ∀ {id : Nat} {matrix : Matrix}, fleet.standing? id = some matrix →
    ∃ seen, other.standing? id = some seen ∧ matrix.Kin seen
  stood : ∀ {id : Nat} {matrix : Matrix}, other.standing? id = some matrix →
    ∃ seen, fleet.standing? id = some seen ∧ matrix.Kin seen

variable {fleet other : Fleet} {matrix last : Matrix} {request : Request}

theorem Kin.refl (sound : fleet.Sound) : fleet.Kin fleet :=
  ⟨sound, sound, fun standing => ⟨_, standing, .refl _⟩, fun standing => ⟨_, standing, .refl _⟩⟩

theorem Kin.symm (kin : fleet.Kin other) : other.Kin fleet :=
  ⟨kin.sound', kin.sound, kin.stood, kin.stands⟩

theorem store_kin (sound : fleet.Sound) (standing : fleet.standing? matrix.id = some matrix)
    (kin : matrix.Kin last) (kept : last.Sound) : fleet.Kin (fleet.store last) where
  sound := sound
  sound' := stored_sound sound standing kin kept
  stands := by
    intro id there found
    rw [store_standing?, kin.id]
    split
    · rename_i here
      rw [here, standing] at found
      cases found
      exact ⟨last, rfl, kin⟩
    · exact ⟨there, found, .refl there⟩
  stood := by
    intro id there found
    rw [store_standing?, kin.id] at found
    split at found
    · rename_i here
      cases found
      exact ⟨matrix, here ▸ standing, kin.symm⟩
    · exact ⟨there, found, .refl there⟩

namespace Kin

variable {matrixId : Option Nat} {ids : List Nat} {refusal : Refusal}

theorem houses (kin : fleet.Kin other) {id drone : Nat} (housed : fleet.Houses id drone) :
    other.Houses id drone := by
  obtain ⟨there, standing, aboard⟩ := kin.sound.standing_of_houses housed
  obtain ⟨seen, found, same⟩ := kin.stands standing
  exact (standing_houses found).mpr ((same.owns drone).trans aboard)

theorem nowhere (kin : fleet.Kin other) {drone : Nat} (missing : ∀ id, ¬ fleet.Houses id drone) :
    ∀ id, ¬ other.Houses id drone :=
  fun id housed => missing id (kin.symm.houses housed)

theorem groundless (kin : fleet.Kin other) (groundless : Groundless fleet matrixId ids refusal) :
    Groundless other matrixId ids refusal := by
  cases groundless with
  | @matrix id ids missing =>
    refine .matrix ?_
    rw [kin.sound.matrix?_eq] at missing
    rw [kin.sound'.matrix?_eq, Option.eq_none_iff_forall_ne_some]
    intro there found
    obtain ⟨seen, standing, _⟩ := kin.stood found
    rw [missing] at standing
    cases standing
  | drone nowhere => exact .drone (kin.nowhere nowhere)

theorem addresses (kin : fleet.Kin other) (addressed : Addresses fleet matrixId ids matrix) :
    ∃ seen, Addresses other matrixId ids seen ∧ matrix.Kin seen := by
  cases addressed with
  | named found =>
    obtain ⟨seen, standing, same⟩ := kin.stands (standing_of_matrix? found)
    exact ⟨seen, .named (kin.sound'.matrix? standing), same⟩
  | implied standing aboard =>
    obtain ⟨seen, found, same⟩ := kin.stands standing
    exact ⟨seen, .implied (same.id ▸ found) ((same.owns _).trans aboard), same⟩

theorem strays (kin : fleet.Kin other) (strays : Strays fleet matrixId ids refusal) :
    Strays other matrixId ids refusal := by
  cases strays with
  | nowhere addressed aboard missing =>
    obtain ⟨seen, addressed, same⟩ := kin.addresses addressed
    exact .nowhere addressed (fun id member => (same.owns id).trans (aboard id member))
      (kin.nowhere missing)
  | elsewhere addressed aboard housed apart =>
    obtain ⟨seen, addressed, same⟩ := kin.addresses addressed
    rw [← same.id] at apart ⊢
    exact .elsewhere addressed (fun id member => (same.owns id).trans (aboard id member))
      (kin.houses housed) apart

theorem foremost (kin : fleet.Kin other)
    (foremost : Foremost (reasons fleet request matrixId ids) refusal) :
    Foremost (reasons other request matrixId ids) refusal := by
  have ground : Groundless fleet matrixId ids = Groundless other matrixId ids :=
    funext fun refusal => propext ⟨kin.groundless, kin.symm.groundless⟩
  have stray : Strays fleet matrixId ids = Strays other matrixId ids :=
    funext fun refusal => propext ⟨kin.strays, kin.symm.strays⟩
  rwa [reasons, ← ground, ← stray]

theorem mustered (kin : fleet.Kin other) {plans : List Plan}
    (mustered : Mustered fleet matrixId plans matrix)
    (still : other.standing? matrix.id = some matrix) : Mustered other matrixId plans matrix where
  distinct := mustered.distinct
  addressed := by
    obtain ⟨distinct, addressed, standing, aboard⟩ := mustered
    generalize plans.map (·.droneId) = ids at addressed
    cases addressed with
    | named found =>
      have name := (kin.sound.standing (standing_of_matrix? found)).1
      exact .named (kin.sound'.matrix? (name ▸ still))
    | implied _ aboard => exact .implied still aboard
  standing := still
  aboard := mustered.aboard

theorem barred (kin : fleet.Kin other) {id : Nat} {input : CommandInput}
    (barred : Barred fleet id input refusal) : Barred other id input refusal := by
  cases barred with
  | unread parsed => exact .unread parsed
  | unowned parsed unowned =>
    exact .unowned parsed (kin.sound'.nowhere.mp (kin.nowhere (kin.sound.nowhere.mpr unowned)))

end Kin

def Accepts (fleet : Fleet) (grounded : Bool) (request : Request) (id : Nat) : Prop :=
  (fleet.dispatch grounded request).1.isError = false ∧
    ∃ drone ∈ request.fliers, fleet.owner? drone = some id

/-- The request is carried out on one matrix, which is `last` then, and it is so in all fleets that are
kin and have that matrix as it is here. -/
structure Grants (fleet : Fleet) (grounded : Bool) (request : Request) (matrix last : Matrix)
    (response : Response) : Prop where
  standing : fleet.standing? matrix.id = some matrix
  manned : ∃ drone ∈ request.fliers, matrix.owns drone = true
  akin : matrix.Kin last
  kept : last.Sound
  fine : response.isError = false
  dispatch : ∀ other, fleet.Kin other → other.standing? matrix.id = some matrix →
    other.dispatch grounded request = (response, other.store last)

inductive Settles (fleet : Fleet) (grounded : Bool) (request : Request) : Prop
  | refused {refusal : Refusal} (refuses : ∀ other, fleet.Kin other →
      other.dispatch grounded request = (.ofRefusal refusal, other)) : Settles fleet grounded request
  | granted {matrix last : Matrix} {response : Response}
      (grants : fleet.Grants grounded request matrix last response) : Settles fleet grounded request

section Grants

variable {grounded grounded' : Bool} {first second : Request} {one two after after' : Matrix}
  {response response' : Response}

theorem Grants.accepts (grants : fleet.Grants grounded first one after response)
    (sound : fleet.Sound) : fleet.Accepts grounded first one.id := by
  obtain ⟨drone, flier, aboard⟩ := grants.manned
  refine ⟨?_, drone, flier, sound.owned grants.standing aboard⟩
  rw [grants.dispatch _ (.refl sound) grants.standing]
  exact grants.fine

theorem Grants.kin (grants : fleet.Grants grounded first one after response) (sound : fleet.Sound) :
    fleet.Kin (fleet.store after) :=
  store_kin sound grants.standing grants.akin grants.kept

theorem Grants.dispatch_store (grants : fleet.Grants grounded first one after response)
    (grants' : fleet.Grants grounded' second two after' response') (sound : fleet.Sound)
    (different : two.id ≠ one.id) :
    (fleet.store after).dispatch grounded' second = (response', (fleet.store after).store after') := by
  refine grants'.dispatch _ (grants.kin sound) ?_
  rw [store_standing?, grants.akin.id, if_neg different, grants'.standing]

end Grants

theorem single_settles (sound : fleet.Sound) (grounded : Bool) (id : Nat) (input : CommandInput) :
    fleet.Settles grounded (.droneCommands id input) := by
  rcases sound.single_judged id input with ⟨refusal, barred⟩ | ⟨commands, matrix, called⟩
  · exact .refused fun other kin => (kin.barred barred).dispatch
  · obtain ⟨parsed, standing, aboard⟩ := called
    obtain ⟨report, last, kept, kin, flew⟩ :=
      flySingle_result grounded (sound.standing standing).2 aboard commands
    have grants : fleet.Grants grounded (.droneCommands id input) matrix last (.single report) :=
      { standing
        manned := ⟨id, List.mem_singleton_self id, aboard⟩
        akin := kin
        kept
        fine := rfl
        dispatch := fun other akin still =>
          Called.dispatch ⟨parsed, still, aboard⟩ akin.sound' (flew other still) }
    exact .granted grants

theorem several_settles (sound : fleet.Sound) (grounded : Bool) {matrixId : Option Nat}
    {ids : List Nat} (several : request.several? = some (matrixId, ids)) :
    fleet.Settles grounded request := by
  by_cases clear : ∀ refusal, ¬ Foremost (reasons fleet request matrixId ids) refusal
  · have carried : Carried grounded fleet request matrixId ids _ _ :=
      dispatch_carried sound several clear
    obtain ⟨plans, matrix, _, _, flies, rfl, mustered, _⟩ := carried
    obtain ⟨outcomes, last, flown, kept, kin⟩ :=
      flown_exists grounded (sound.standing mustered.standing).2 mustered.aboard
    cases plans with
    | nil =>
      exact absurd (.inr ⟨fun other unread => clear other (.inl unread), .inl .nobody⟩)
        (clear (.invalidRequest "no drones addressed"))
    | cons plan ahead =>
      have manned : plan.droneId ∈ request.fliers := by
        rw [Request.several_fliers several]
        exact List.mem_cons_self
      have grants : fleet.Grants grounded request matrix last (.batch (.of outcomes last)) :=
        { standing := mustered.standing
          manned := ⟨plan.droneId, manned, mustered.aboard plan List.mem_cons_self⟩
          akin := kin
          kept
          fine := rfl
          dispatch := fun other akin still =>
            (akin.mustered mustered still).dispatch akin.sound' (List.cons_ne_nil _ _) flies flown }
      exact .granted grants
  · obtain ⟨refusal, foremost⟩ := not_forall_not.mp clear
    exact .refused fun other kin => dispatch_refuses kin.sound' several (kin.foremost foremost)

theorem command_settles (sound : fleet.Sound) (grounded : Bool) (command : request.commands = true) :
    fleet.Settles grounded request := by
  cases request with
  | droneCommands id input => exact single_settles sound grounded id input
  | matrixDroneCommands matrixId ids input => exact several_settles sound grounded rfl
  | batchCommands matrixId entries => exact several_settles sound grounded rfl
  | _ => cases command

/-- Two requests for drones to fly that are not both carried out on one matrix may be made in either
order: each gets the same answer, and the fleet is the same in the end. -/
theorem dispatch_commutes {start : Fleet} (sound : start.Sound) (calls : List (Bool × Request))
    {first second : Request} (flies : first.commands = true) (flies' : second.commands = true)
    {grounded grounded' : Bool}
    (apart : ∀ id, (start.serve calls).Accepts grounded first id →
      ¬ (start.serve calls).Accepts grounded' second id) :
    ∃ response response' here there last,
      (start.serve calls).dispatch grounded first = (response, here) ∧
      here.dispatch grounded' second = (response', last) ∧
      (start.serve calls).dispatch grounded' second = (response', there) ∧
      there.dispatch grounded first = (response, last) := by
  have whole : (start.serve calls).Sound := serve_sound sound calls
  generalize start.serve calls = fleet at apart whole
  have same := Kin.refl whole
  cases command_settles whole grounded flies with
  | refused refuses =>
    cases command_settles whole grounded' flies' with
    | refused refuses' =>
      exact ⟨_, _, _, _, _, refuses _ same, refuses' _ same, refuses' _ same, refuses _ same⟩
    | granted grants' =>
      have ran' := grants'.dispatch _ same grants'.standing
      exact ⟨_, _, _, _, _, refuses _ same, ran', ran', refuses _ (grants'.kin whole)⟩
  | @granted one after response grants =>
    have ran := grants.dispatch _ same grants.standing
    cases command_settles whole grounded' flies' with
    | refused refuses' =>
      exact ⟨_, _, _, _, _, ran, refuses' _ (grants.kin whole), refuses' _ same, ran⟩
    | @granted two after' response' grants' =>
      have ran' := grants'.dispatch _ same grants'.standing
      have different : one.id ≠ two.id := fun here =>
        apart _ (grants.accepts whole) (here ▸ grants'.accepts whole)
      refine ⟨_, _, _, _, _, ran, grants.dispatch_store grants' whole different.symm, ran', ?_⟩
      rw [store_comm _ (by rwa [grants.akin.id, grants'.akin.id])]
      exact grants'.dispatch_store grants whole different

/-- The second drone of `corners` takes a step, in a request that does not name its matrix. -/
def stirring : Request := .batchCommands none [⟨2, .text "A"⟩]

theorem dispatch_commutes_stirring :
    empty.Sound ∧ (Request.droneCommands 1 (.text "A")).commands = true ∧ stirring.commands = true ∧
      (∀ id, (empty.serve corners).Accepts false (.droneCommands 1 (.text "A")) id →
        ¬ (empty.serve corners).Accepts false stirring id) ∧
      ∃ here there last,
        (empty.serve corners).dispatch false (.droneCommands 1 (.text "A")) =
          (.single ⟨.completed ⟨0, 1, .north⟩, ⟨1, "", "", ⟨0, 1, .north⟩, 1⟩⟩, here) ∧
        here.dispatch false stirring = (.batch ⟨[⟨2, .completed ⟨0, 1, .north⟩⟩],
          [⟨2, "", "", ⟨0, 1, .north⟩, 2⟩]⟩, last) ∧
        (empty.serve corners).dispatch false stirring = (.batch ⟨[⟨2, .completed ⟨0, 1, .north⟩⟩],
          [⟨2, "", "", ⟨0, 1, .north⟩, 2⟩]⟩, there) ∧
        there.dispatch false (.droneCommands 1 (.text "A")) =
          (.single ⟨.completed ⟨0, 1, .north⟩, ⟨1, "", "", ⟨0, 1, .north⟩, 1⟩⟩, last) := by
  have first : (empty.serve corners).owner? 1 = some 1 := by decide +kernel
  have second : (empty.serve corners).owner? 2 = some 2 := by decide +kernel
  have apart : ∀ id, (empty.serve corners).Accepts false (.droneCommands 1 (.text "A")) id →
      ¬ (empty.serve corners).Accepts false stirring id := by
    rintro id ⟨_, drone, flier, owned⟩ ⟨_, drone', flier', owned'⟩
    obtain rfl := List.mem_singleton.mp flier
    obtain rfl := List.mem_singleton.mp flier'
    cases first.symm.trans owned
    cases second.symm.trans owned'
  obtain ⟨response, response', here, there, last, ran, then_, ran', then'⟩ :=
    dispatch_commutes empty_sound corners rfl rfl apart
  have told : ((empty.serve corners).dispatch false (.droneCommands 1 (.text "A"))).1 =
      .single ⟨.completed ⟨0, 1, .north⟩, ⟨1, "", "", ⟨0, 1, .north⟩, 1⟩⟩ := by decide +kernel
  have told' : ((empty.serve corners).dispatch false stirring).1 =
      .batch ⟨[⟨2, .completed ⟨0, 1, .north⟩⟩], [⟨2, "", "", ⟨0, 1, .north⟩, 2⟩]⟩ := by
    decide +kernel
  rw [ran] at told
  rw [ran'] at told'
  subst told told'
  exact ⟨empty_sound, rfl, rfl, apart, here, there, last, ran, then_, ran', then'⟩

end Fleet

end DroneFleet
