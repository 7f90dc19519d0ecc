import DroneFleet.Fleet.Crowd
import DroneFleet.Proofs.Fleet.Ending
import DroneFleet.Proofs.Fleet.Turn

/-!
The invariant of a crowd (`Crowd.Orderly`). Beside the fleet there is the whole fleet, in which every
entry that has still to be written has been written already; it is sound, and the two differ only on
the lines of those entries. No two requests lay claim to one matrix, and each finds what it takes for
granted.
-/
namespace DroneFleet

def Stage.Belongs (request : Request) (stage : Stage) : Prop :=
  stage.Serves request ∨ (∃ response, stage.Answers response) ∨
    ∃ id outcomes ahead, stage = .flying id outcomes ahead

namespace Crowd

/-- The whole fleet has what the entries say, and on all other lines what the fleet has. -/
structure Settles (stages : Table Nat Stage) (fleet whole : Fleet) : Prop where
  lastMatrix : whole.lastMatrix = fleet.lastMatrix
  lastDrone : whole.lastDrone = fleet.lastDrone
  written : ∀ number stage entry line, stages.get? number = some stage →
    stage.pending? = some entry → entry.Writes line → line.Same (entry.write fleet) whole
  kept : ∀ line : Line, (∀ number stage entry, stages.get? number = some stage →
    stage.pending? = some entry → ¬ entry.Writes line) → line.Same fleet whole

structure Orderly (crowd : Crowd) (whole : Fleet) : Prop where
  firm : crowd.fleet.Firm
  sound : whole.Sound
  settles : Settles crowd.stages crowd.fleet whole
  fits : ∀ number stage, crowd.stages.get? number = some stage → stage.Fits crowd.fleet
  belongs : ∀ number stage, crowd.stages.get? number = some stage →
    ∃ request, crowd.requests[number]? = some request ∧ stage.Belongs request
  apart : ∀ first second stage other, first ≠ second → crowd.stages.get? first = some stage →
    crowd.stages.get? second = some other → ∀ id ∈ stage.reserves, id ∉ other.reserves
  outside : ∀ number stage, crowd.stages.get? number = some stage →
    ∀ id ∈ stage.reserves, id ∉ crowd.outside
  bounded : ∀ number stage, crowd.stages.get? number = some stage →
    ∀ id ∈ stage.reserves, id ≤ crowd.fleet.lastMatrix
  built : ∀ id ∈ crowd.outside, crowd.fleet.Built id

theorem new_orderly {fleet : Fleet} (sound : fleet.Sound) : (new fleet).Orderly fleet where
  firm := sound.toFirm
  sound := sound
  settles :=
    { lastMatrix := rfl
      lastDrone := rfl
      written := by intro _ _ _ _ here; cases here
      kept := fun line _ => .refl fleet line }
  fits := by intro _ _ here; cases here
  belongs := by intro _ _ here; cases here
  apart := by intro _ _ _ _ _ here; cases here
  outside := by intro _ _ here; cases here
  bounded := by intro _ _ here; cases here
  built := by intro _ member; cases member

/-! ### The whole fleet after a step -/

section Settling

variable {stages : Table Nat Stage} {fleet whole : Fleet} {number : Nat} {stage next : Stage}

theorem insert_cases {table : Table Nat Stage} {place other : Nat} {found : Stage}
    (here : (table.insert place next).get? other = some found) :
    other = place ∧ found = next ∨ other ≠ place ∧ table.get? other = some found := by
  rw [Table.get?_insert] at here
  split at here
  · rename_i same
    exact .inl ⟨same, (Option.some.inj here).symm⟩
  · rename_i different
    exact .inr ⟨different, here⟩

theorem Settles.fleet_eq (settles : Settles stages fleet whole)
    (quiet : ∀ number stage, stages.get? number = some stage → stage.pending? = none) :
    whole = fleet := by
  apply Fleet.ext_lines
  · intro line
    apply settles.kept
    intro number stage entry here pending
    rw [quiet number stage here] at pending
    cases pending
  · exact settles.lastMatrix
  · exact settles.lastDrone

theorem Settles.plain (settles : Settles stages fleet whole)
    (here : ∀ before, stages.get? number = some before → before.pending? = none)
    (plain : next.pending? = none) : Settles (stages.insert number next) fleet whole where
  lastMatrix := settles.lastMatrix
  lastDrone := settles.lastDrone
  written other found entry line there pending writes := by
    rcases insert_cases there with ⟨rfl, rfl⟩ | ⟨_, old⟩
    · rw [plain] at pending
      cases pending
    · exact settles.written other found entry line old pending writes
  kept line free := by
    apply settles.kept
    intro other found entry there pending writes
    by_cases same : other = number
    · subst same
      rw [here found there] at pending
      cases pending
    · have stays : (stages.insert number next).get? other = some found := by
        rw [Table.get?_insert, if_neg same, there]
      exact free other found entry stays pending writes

theorem Settles.deed (settles : Settles stages fleet whole) {deed : Deed}
    (here : stages.get? number = some stage) (plain : stage.pending? = none)
    (entry : next.pending? = deed.entry)
    (apart : ∀ other found pending line, other ≠ number → stages.get? other = some found →
      found.pending? = some pending → pending.Writes line →
      (∀ id ∈ deed.slots, line ≠ .slot id) ∧ ∀ own, deed.entry = some own → ¬ own.Writes line) :
    Settles (stages.insert number next) (deed.perform fleet) (deed.complete whole) where
  lastMatrix := (deed.completed_lastMatrix whole).trans (deed.perform_lastMatrix settles.lastMatrix)
  lastDrone := (deed.completed_lastDrone whole).trans (deed.perform_lastDrone settles.lastDrone)
  written other found pending line there wanted writes := by
    rcases insert_cases there with ⟨rfl, rfl⟩ | ⟨different, old⟩
    · rw [entry] at wanted
      simp only [Deed.complete, wanted]
      exact pending.write_over writes _ _
    · obtain ⟨slots, own⟩ := apart other found pending line different old wanted writes
      have before := settles.written other found pending line old wanted writes
      have kept := (before.trans (deed.perform_other slots whole)).trans (Deed.complete_other own whole)
      exact (pending.write_over writes _ _).trans kept
  kept line free := by
    have own : ∀ own, deed.entry = some own → ¬ own.Writes line := by
      intro own wanted
      apply free number next own
      · rw [Table.get?_insert, if_pos rfl]
      · rw [entry, wanted]
    have before : line.Same fleet whole := by
      apply settles.kept
      intro other found pending there wanted
      by_cases same : other = number
      · subst same
        rw [here] at there
        cases there
        rw [plain] at wanted
        cases wanted
      · apply free other found pending
        · rw [Table.get?_insert, if_neg same, there]
        · exact wanted
    exact (deed.perform_same before).trans (Deed.complete_other own whole)

theorem Settles.write (settles : Settles stages fleet whole) {entry : Entry}
    (here : stages.get? number = some stage) (pending : stage.pending? = some entry)
    (plain : next.pending? = none) :
    Settles (stages.insert number next) (entry.write fleet) whole where
  lastMatrix := settles.lastMatrix.trans (entry.write_lastMatrix fleet).symm
  lastDrone := settles.lastDrone.trans (entry.write_lastDrone fleet).symm
  written other found later line there wanted writes := by
    rcases insert_cases there with ⟨rfl, rfl⟩ | ⟨_, old⟩
    · rw [plain] at wanted
      cases wanted
    · exact (later.write_over writes _ _).trans
        (settles.written other found later line old wanted writes)
  kept line free := by
    by_cases writes : entry.Writes line
    · exact settles.written number stage entry line here pending writes
    · have before : line.Same fleet whole := by
        apply settles.kept
        intro other found later there wanted
        by_cases same : other = number
        · subst same
          rw [here] at there
          cases there
          rw [pending] at wanted
          cases wanted
          exact writes
        · apply free other found later
          · rw [Table.get?_insert, if_neg same, there]
          · exact wanted
      exact (entry.write_other writes fleet).symm.trans before

end Settling

/-! ### What the invariant says of one request -/

section Order

variable {crowd : Crowd} {whole : Fleet} {number : Nat} {stage : Stage}

theorem listing_reserved {fleet : Fleet} {entry : Entry} (fits : stage.Fits fleet)
    (pending : stage.pending? = some entry) {id : Nat}
    (writes : entry.Writes (.listing id) ∨ entry.Writes (.slot id)) : id ∈ stage.reserves := by
  cases stage with
  | publish matrix =>
    cases pending
    have same : id = matrix.id := by
      rcases writes with (line | line) | (line | line) <;> cases line <;> rfl
    exact same ▸ List.mem_singleton_self _
  | record drone owner next =>
    cases pending
    rcases writes with line | line <;> cases line
  | withdraw other next =>
    cases pending
    rcases writes with line | line <;> cases line
    exact fits.2.2
  | _ => cases pending

/-- The directory is right about a matrix that nobody is at work on. -/
theorem Orderly.directory (orderly : crowd.Orderly whole) {id : Nat}
    (quiet : ∀ other found entry, crowd.stages.get? other = some found →
      found.pending? = some entry → id ∉ found.reserves) (drone : Nat) :
    crowd.fleet.owner? drone = some id ↔ crowd.fleet.Houses id drone := by
  have slot : Line.Same crowd.fleet whole (.slot id) := by
    apply orderly.settles.kept
    intro other found entry there pending writes
    exact quiet other found entry there pending
      (listing_reserved (orderly.fits other found there) pending (.inr writes))
  have unclaimed : crowd.fleet.owner? drone = some id ∨ whole.owner? drone = some id →
      Line.Same crowd.fleet whole (.owner drone) := by
    intro owned
    apply orderly.settles.kept
    intro other found entry there pending writes
    have fits := orderly.fits other found there
    have written := orderly.settles.written other found entry _ there pending writes
    cases found with
    | record recorded owner next =>
      cases pending
      cases writes
      have said : whole.owner? drone = owner := by
        have same : whole.owner? drone = (crowd.fleet.assign drone owner).owner? drone := written
        rw [same, Fleet.assign_owner?, if_pos rfl]
      have held := (fits.2.2.2 id (owned.symm.imp_left fun known => said.symm.trans known)).1
      exact quiet other _ _ there rfl held
    | publish matrix => cases pending; rcases writes with line | line <;> cases line
    | withdraw gone next => cases pending; cases writes
    | _ => cases pending
  constructor
  · intro known
    have same : whole.owner? drone = crowd.fleet.owner? drone := unclaimed (.inl known)
    have housed := (orderly.sound.directory drone id).mp (same.trans known)
    exact (Fleet.houses_congr slot drone).mp housed
  · intro housed
    have known := (orderly.sound.directory drone id).mpr ((Fleet.houses_congr slot drone).mpr housed)
    have same : whole.owner? drone = crowd.fleet.owner? drone := unclaimed (.inr known)
    exact same.symm.trans known

theorem Orderly.listed_of_quiet (orderly : crowd.Orderly whole) {id : Nat} {matrix : Matrix}
    (standing : whole.standing? id = some matrix)
    (quiet : ∀ other found entry, crowd.stages.get? other = some found →
      found.pending? = some entry → ¬ entry.Writes (.listing id)) :
    crowd.fleet.listed.contains id = true := by
  have listed := (orderly.sound.listing id).mpr ⟨matrix, standing⟩
  have same : whole.listed.get? id = crowd.fleet.listed.get? id :=
    orderly.settles.kept (.listing id) quiet
  rwa [Table.contains, same] at listed

theorem Orderly.not_withdrawn (orderly : crowd.Orderly whole) {id : Nat} {matrix : Matrix}
    (standing : whole.standing? id = some matrix) {other : Nat} {found : Stage}
    (there : crowd.stages.get? other = some found) : found.pending? ≠ some (.withdraw id) := by
  intro pending
  have listing : whole.listed.get? id = (crowd.fleet.listed.erase id).get? id :=
    orderly.settles.written other found _ (.listing id) there pending rfl
  have listed := (orderly.sound.listing id).mpr ⟨matrix, standing⟩
  rw [Table.contains, listing, Table.get?_erase, if_pos rfl] at listed
  cases listed

/-- An entry for the list is about a new matrix, which is empty, or about one that has been retired. -/
theorem Orderly.quiet_of_aboard (orderly : crowd.Orderly whole) {id drone : Nat} {matrix : Matrix}
    (standing : whole.standing? id = some matrix) (aboard : matrix.owns drone = true)
    {other : Nat} {found : Stage} {entry : Entry} (there : crowd.stages.get? other = some found)
    (wanted : found.pending? = some entry) : ¬ entry.Writes (.listing id) := by
  intro writes
  cases found with
  | publish published =>
    cases wanted
    have mine : id = published.id := by
      rcases writes with line | line <;> cases line
      rfl
    subst mine
    have slot : Line.Same (crowd.fleet.publish published) whole (.slot published.id) :=
      orderly.settles.written other _ _ _ there rfl (.inl rfl)
    have stands : (crowd.fleet.publish published).standing? published.id = some published :=
      (Fleet.store_standing? crowd.fleet published published.id).trans (if_pos rfl)
    rw [Fleet.standing?_congr slot, stands] at standing
    cases standing
    obtain ⟨bounds, new⟩ := (orderly.fits other _ there).2
    rw [new, Matrix.new_owns] at aboard
    cases aboard
  | record recorded owner later =>
    cases wanted
    cases writes
  | withdraw gone later =>
    cases wanted
    cases writes
    exact orderly.not_withdrawn standing there rfl
  | _ => cases wanted

/-- A matrix with an entry for the list does not stand yet, or it is to be taken off. -/
theorem Orderly.withdraw_of_standing (orderly : crowd.Orderly whole) {id : Nat} {matrix : Matrix}
    (standing : crowd.fleet.standing? id = some matrix) {other : Nat} {found : Stage} {entry : Entry}
    (there : crowd.stages.get? other = some found) (pending : found.pending? = some entry)
    (writes : entry.Writes (.listing id) ∨ entry.Writes (.slot id)) : entry = .withdraw id := by
  cases found with
  | publish published =>
    cases pending
    have mine : id = published.id := by
      rcases writes with (line | line) | (line | line) <;> cases line <;> rfl
    have unused := (orderly.fits other _ there).1
    rw [← mine, Fleet.standing?_eq_some.mp standing] at unused
    cases unused
  | record recorded owner later =>
    cases pending
    rcases writes with line | line <;> cases line
  | withdraw gone later =>
    cases pending
    rcases writes with line | line <;> cases line
    rfl
  | _ => cases pending

/-- A matrix that stands is listed, also while others are being made or deleted. -/
theorem Orderly.listed_of_standing (orderly : crowd.Orderly whole) {id : Nat} {matrix : Matrix}
    (standing : crowd.fleet.standing? id = some matrix) : crowd.fleet.listed.contains id = true := by
  have slot : Line.Same crowd.fleet whole (.slot id) := by
    apply orderly.settles.kept
    intro other found entry there pending writes
    cases orderly.withdraw_of_standing standing there pending (.inr writes)
    cases writes
  have standing' : whole.standing? id = some matrix := (Fleet.standing?_congr slot).trans standing
  apply orderly.listed_of_quiet standing'
  intro other found entry there pending writes
  cases orderly.withdraw_of_standing standing there pending (.inl writes)
  exact orderly.not_withdrawn standing' there pending

/-- The owner of a drone is always listed, even while it is being changed. -/
theorem Orderly.listed_of_owner (orderly : crowd.Orderly whole) {drone id : Nat}
    (known : crowd.fleet.owner? drone = some id) : crowd.fleet.listed.contains id = true := by
  by_cases pending : ∃ other found owner, crowd.stages.get? other = some found ∧
      found.pending? = some (.assign drone owner)
  · obtain ⟨other, found, owner, there, wanted⟩ := pending
    have fits := orderly.fits other found there
    cases found with
    | record recorded owned later =>
      cases wanted
      obtain ⟨_, matrix, standing⟩ := fits.2.2.2 id (.inr known)
      exact orderly.listed_of_standing standing
    | _ => cases wanted
  · have same : whole.owner? drone = crowd.fleet.owner? drone := by
      apply orderly.settles.kept (.owner drone)
      intro other found entry there wanted writes
      cases entry with
      | publish matrix => rcases writes with line | line <;> cases line
      | assign written owner =>
        cases writes
        exact pending ⟨other, found, owner, there, wanted⟩
      | withdraw gone => cases writes
    have housed := (orderly.sound.directory drone id).mp (same.trans known)
    obtain ⟨matrix, standing, aboard⟩ := orderly.sound.toFirm.standing_of_houses housed
    apply orderly.listed_of_quiet standing
    intro other found entry there wanted
    exact orderly.quiet_of_aboard standing aboard there wanted

theorem Orderly.clear (orderly : crowd.Orderly whole)
    (here : crowd.stages.get? number = some stage) (plain : stage.pending? = none) :
    crowd.fleet.Clear stage.holds := by
  refine ⟨orderly.firm, ?_⟩
  intro id held
  apply orderly.directory
  intro other found entry there pending member
  by_cases same : other = number
  · subst same
    rw [here] at there
    cases there
    rw [plain] at pending
    cases pending
  · exact orderly.apart number other stage found (Ne.symm same) here there id
      (Stage.reserves_of_holds held) member

/-- A request that has nothing to write cannot tell the whole fleet from the one that it sees. -/
theorem Orderly.alike (orderly : crowd.Orderly whole)
    (here : crowd.stages.get? number = some stage) (plain : stage.pending? = none) :
    crowd.fleet.Alike stage.holds whole := by
  refine ⟨orderly.settles.lastMatrix, orderly.settles.lastDrone, ?_⟩
  intro id held
  apply Fleet.standing?_congr
  apply orderly.settles.kept
  intro other found entry there pending writes
  have mine := listing_reserved (orderly.fits other found there) pending (.inr writes)
  by_cases same : other = number
  · subst same
    rw [here] at there
    cases there
    rw [plain] at pending
    cases pending
  · exact orderly.apart number other stage found (Ne.symm same) here there id
      (Stage.reserves_of_holds held) mine

end Order

end Crowd

end DroneFleet
