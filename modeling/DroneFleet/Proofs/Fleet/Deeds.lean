import DroneFleet.Proofs.Fleet.Soundness

/-!
What requests do to a fleet, in two parts. A deed is done at once, to slots that the request holds;
the entry that goes with it is written into the list of matrices or the directory some steps later.
A sound fleet is sound again once both parts are done (`Deed.complete_sound`).
-/
namespace DroneFleet

/-- A line in the list of matrices or the directory of owners, to be written. -/
inductive Entry where
  | publish (matrix : Matrix)
  | assign (drone : Nat) (owner : Option Nat)
  | withdraw (id : Nat)

def Entry.write : Entry → Fleet → Fleet
  | publish matrix, fleet => fleet.publish matrix
  | assign drone owner, fleet => fleet.assign drone owner
  | withdraw id, fleet => fleet.withdraw id

/-- A change to slots. `found` only takes the next number for a matrix that has no slot yet. -/
inductive Deed where
  | found (matrix : Matrix)
  | revise (matrix : Matrix)
  | enroll (matrix : Matrix) (drone : Nat)
  | transfer (left joined : Matrix) (drone : Nat)
  | discharge (left : Matrix) (drone : Nat)
  | retire (matrix : Matrix)

namespace Deed

def perform : Deed → Fleet → Fleet
  | found matrix, fleet => { fleet with lastMatrix := matrix.id }
  | revise matrix, fleet => fleet.store matrix
  | enroll matrix drone, fleet => { fleet with lastDrone := drone }.store matrix
  | transfer left joined _, fleet => (fleet.store left).store joined
  | discharge left _, fleet => fleet.store left
  | retire matrix, fleet => fleet.retire matrix

def entry : Deed → Option Entry
  | found matrix => some (.publish matrix)
  | revise _ => none
  | enroll matrix drone => some (.assign drone (some matrix.id))
  | transfer _ joined drone => some (.assign drone (some joined.id))
  | discharge _ drone => some (.assign drone none)
  | retire matrix => some (.withdraw matrix.id)

def complete (deed : Deed) (fleet : Fleet) : Fleet :=
  (deed.entry.elim id Entry.write) (deed.perform fleet)

/-- What a request makes sure of before it does a deed while it holds `held`. -/
def Apt (held : List Nat) (fleet : Fleet) : Deed → Prop
  | found matrix => ∃ bounds, matrix = .new (fleet.lastMatrix + 1) bounds
  | revise matrix => matrix.id ∈ held ∧ matrix.Sound ∧
      ∃ before, fleet.standing? matrix.id = some before ∧ before.Kin matrix
  | enroll matrix drone => matrix.id ∈ held ∧ matrix.Sound ∧ drone = fleet.lastDrone + 1 ∧
      ∃ before, fleet.standing? matrix.id = some before ∧
        ∀ other, matrix.owns other = (decide (other = drone) || before.owns other)
  | transfer left joined drone => left.id ∈ held ∧ joined.id ∈ held ∧ left.id ≠ joined.id ∧
      left.Sound ∧ joined.Sound ∧ ∃ source target, fleet.standing? left.id = some source ∧
        fleet.standing? joined.id = some target ∧ source.owns drone = true ∧
        (∀ other, left.owns other = (decide (other ≠ drone) && source.owns other)) ∧
        ∀ other, joined.owns other = (decide (other = drone) || target.owns other)
  | discharge left drone => left.id ∈ held ∧ left.Sound ∧
      ∃ before, fleet.standing? left.id = some before ∧ before.owns drone = true ∧
        ∀ other, left.owns other = (decide (other ≠ drone) && before.owns other)
  | retire matrix => matrix.id ∈ held ∧ fleet.standing? matrix.id = some matrix ∧
      ∀ drone, matrix.owns drone = false

theorem perform_firm {fleet : Fleet} (firm : fleet.Firm) {held : List Nat} {deed : Deed}
    (apt : deed.Apt held fleet) : (deed.perform fleet).Firm := by
  cases deed with
  | found matrix =>
    obtain ⟨bounds, rfl⟩ := apt
    exact firm.raise (Nat.le_succ _) (Nat.le_refl _)
  | revise matrix =>
    obtain ⟨_, sound, before, standing, kin⟩ := apt
    exact firm.store standing sound fun drone inside => .inl ((kin.owns drone) ▸ inside)
  | enroll matrix drone =>
    obtain ⟨_, sound, rfl, before, standing, aboard⟩ := apt
    apply (firm.raise (Nat.le_refl _) (Nat.le_succ _)).store standing sound
    intro other inside
    rw [aboard other, Bool.or_eq_true, decide_eq_true_eq] at inside
    rcases inside with rfl | old
    · refine .inr ⟨?_, Nat.le_refl _⟩
      intro id housed
      exact absurd (firm.enrolled id _ housed) (Nat.not_succ_le_self _)
    · exact .inl old
  | transfer left joined drone =>
    obtain ⟨_, _, apart, leftSound, joinedSound, source, target, stands, stands', aboard, leaves,
      joins⟩ := apt
    have parted : (fleet.store left).Firm := by
      apply firm.store stands leftSound
      intro other inside
      rw [leaves other, Bool.and_eq_true] at inside
      exact .inl inside.2
    have waits : (fleet.store left).standing? joined.id = some target := by
      rw [Fleet.store_standing?, if_neg (Ne.symm apart), stands']
    apply parted.store waits joinedSound
    intro other inside
    rw [joins other, Bool.or_eq_true, decide_eq_true_eq] at inside
    rcases inside with rfl | old
    · have home := (Fleet.standing_houses stands).mpr aboard
      refine .inr ⟨?_, firm.enrolled _ _ home⟩
      intro id housed
      rw [Fleet.store_houses] at housed
      split at housed
      · simp [leaves] at housed
      · rename_i elsewhere
        exact elsewhere (firm.single _ _ _ housed home)
    · exact .inl old
  | discharge left drone =>
    obtain ⟨_, sound, before, standing, _, leaves⟩ := apt
    apply firm.store standing sound
    intro other inside
    rw [leaves other, Bool.and_eq_true] at inside
    exact .inl inside.2
  | retire matrix =>
    obtain ⟨_, standing, deserted⟩ := apt
    exact firm.retire standing deserted

private theorem complete_firm {fleet : Fleet} (firm : fleet.Firm) {held : List Nat} {deed : Deed}
    (apt : deed.Apt held fleet) : (deed.complete fleet).Firm := by
  have done := perform_firm firm apt
  cases deed with
  | found matrix =>
    obtain ⟨bounds, rfl⟩ := apt
    exact done.publish bounds (Nat.le_refl _)
  | revise matrix => exact done
  | enroll matrix drone =>
    obtain ⟨_, _, rfl, _⟩ := apt
    exact done.assign (fleet.lastDrone + 1) (some matrix.id) fun _ _ => Nat.le_refl _
  | transfer left joined drone =>
    obtain ⟨_, _, _, _, _, source, _, stands, _, aboard, _⟩ := apt
    have known := firm.enrolled _ _ ((Fleet.standing_houses stands).mpr aboard)
    exact done.assign drone (some joined.id) fun _ _ => known
  | discharge left drone => exact done.assign drone none (by simp)
  | retire matrix => exact done.withdraw matrix.id

private theorem stands_store {fleet : Fleet} {matrix before : Matrix}
    (standing : fleet.standing? matrix.id = some before) (id : Nat) :
    (∃ found, (fleet.store matrix).standing? id = some found) ↔
      ∃ found, fleet.standing? id = some found := by
  rw [Fleet.store_standing?]
  split
  · rename_i same
    subst same
    exact ⟨fun _ => ⟨before, standing⟩, fun _ => ⟨matrix, rfl⟩⟩
  · rfl

private theorem revise_sound {fleet : Fleet} (sound : fleet.Sound) {matrix before : Matrix}
    (standing : fleet.standing? matrix.id = some before) (firm : (fleet.store matrix).Firm)
    (kin : before.Kin matrix) : (fleet.store matrix).Sound := by
  refine ⟨firm, ?_, ?_⟩
  · intro id
    exact (sound.listing id).trans (stands_store standing id).symm
  · intro drone id
    rw [Fleet.store_houses]
    split
    · rename_i same
      subst same
      rw [kin.owns, ← Fleet.standing_houses standing]
      exact sound.directory drone matrix.id
    · exact sound.directory drone id

/-- The directory is right again once it says where the one drone is that has changed its slot. -/
private theorem reassign_sound {fleet : Fleet} (sound : fleet.Sound) {deed : Deed} {drone : Nat}
    {owner : Option Nat} (entry : deed.entry = some (.assign drone owner))
    (firm : (deed.complete fleet).Firm) (listed : (deed.perform fleet).listed = fleet.listed)
    (owners : (deed.perform fleet).owners = fleet.owners)
    (stands : ∀ id, (∃ found, (deed.perform fleet).standing? id = some found) ↔
      ∃ found, fleet.standing? id = some found)
    (others : ∀ id other, other ≠ drone →
      ((deed.perform fleet).Houses id other ↔ fleet.Houses id other))
    (itself : ∀ id, (deed.perform fleet).Houses id drone ↔ owner = some id) :
    (deed.complete fleet).Sound := by
  have completed : deed.complete fleet = (deed.perform fleet).assign drone owner := by
    simp only [complete, entry, Option.elim_some, Entry.write]
  refine ⟨firm, ?_, ?_⟩
  · intro id
    simp only [completed, Fleet.assign_listed, Fleet.assign_standing?, listed, stands]
    exact sound.listing id
  · intro other id
    rw [completed, Fleet.assign_owner?, Fleet.assign_houses]
    split
    · rename_i same
      subst same
      exact (itself id).symm
    · rename_i different
      rw [others id other different, ← sound.directory other id]
      simp only [Fleet.owner?, owners]

private theorem found_sound {fleet : Fleet} (sound : fleet.Sound) (bounds : Bounds)
    (firm : (complete (found (.new (fleet.lastMatrix + 1) bounds)) fleet).Firm) :
    (complete (found (.new (fleet.lastMatrix + 1) bounds)) fleet).Sound := by
  have unused : fleet.slots.get? (fleet.lastMatrix + 1) = none := by
    cases found : fleet.slots.get? (fleet.lastMatrix + 1) with
    | none => rfl
    | some slot => exact absurd (sound.numbered _ _ found) (Nat.not_succ_le_self _)
  generalize built : complete (found (.new (fleet.lastMatrix + 1) bounds)) fleet = after at firm ⊢
  have listed : after.listed = fleet.listed.insert (fleet.lastMatrix + 1) () := by
    rw [← built]; rfl
  have owners : after.owners = fleet.owners := by rw [← built]; rfl
  have stands : ∀ id, after.standing? id = if id = fleet.lastMatrix + 1 then
      some (.new (fleet.lastMatrix + 1) bounds) else fleet.standing? id := by
    rw [← built]; exact fun id => Fleet.store_standing? _ _ _
  have houses : ∀ id drone, after.Houses id drone ↔ if id = fleet.lastMatrix + 1 then
      (Matrix.new (fleet.lastMatrix + 1) bounds).owns drone = true else fleet.Houses id drone := by
    rw [← built]; exact fun id drone => Fleet.store_houses _ _ _ _
  refine ⟨firm, ?_, ?_⟩
  · intro id
    rw [listed, stands, Table.contains_insert]
    by_cases same : id = fleet.lastMatrix + 1
    · simp [same]
    · simpa [same] using sound.listing id
  · intro drone id
    have kept : after.owner? drone = fleet.owner? drone := by rw [Fleet.owner?, owners]; rfl
    rw [kept, houses, sound.directory]
    split
    · rename_i same
      simp [same, Fleet.Houses, unused, Matrix.new_owns]
    · rfl

private theorem enroll_sound {fleet : Fleet} (sound : fleet.Sound) {matrix before : Matrix}
    (standing : fleet.standing? matrix.id = some before)
    (aboard : ∀ other, matrix.owns other =
      (decide (other = fleet.lastDrone + 1) || before.owns other))
    (firm : (complete (enroll matrix (fleet.lastDrone + 1)) fleet).Firm) :
    (complete (enroll matrix (fleet.lastDrone + 1)) fleet).Sound := by
  have nowhere : ∀ id, ¬ fleet.Houses id (fleet.lastDrone + 1) := fun id housed =>
    absurd (sound.enrolled id _ housed) (Nat.not_succ_le_self _)
  have houses : ∀ id other,
      (perform (enroll matrix (fleet.lastDrone + 1)) fleet).Houses id other ↔
        if id = matrix.id then matrix.owns other = true else fleet.Houses id other :=
    fun id other => Fleet.store_houses _ _ _ _
  apply reassign_sound sound rfl firm rfl rfl (stands_store standing)
  · intro id other different
    rw [houses]
    split
    · rename_i same
      subst same
      simp [aboard, different, Fleet.standing_houses standing]
    · rfl
  · intro id
    rw [houses]
    split
    · rename_i same
      simp [aboard, same]
    · rename_i elsewhere
      simp [nowhere, Ne.symm elsewhere]

private theorem transfer_sound {fleet : Fleet} (sound : fleet.Sound)
    {left joined source target : Matrix} {drone : Nat} (apart : left.id ≠ joined.id)
    (stands : fleet.standing? left.id = some source)
    (stands' : fleet.standing? joined.id = some target) (aboard : source.owns drone = true)
    (leaves : ∀ other, left.owns other = (decide (other ≠ drone) && source.owns other))
    (joins : ∀ other, joined.owns other = (decide (other = drone) || target.owns other))
    (firm : (complete (transfer left joined drone) fleet).Firm) :
    (complete (transfer left joined drone) fleet).Sound := by
  have home := (Fleet.standing_houses stands).mpr aboard
  have waits : (fleet.store left).standing? joined.id = some target := by
    rw [Fleet.store_standing?, if_neg (Ne.symm apart), stands']
  have houses : ∀ id other, (perform (transfer left joined drone) fleet).Houses id other ↔
      if id = joined.id then joined.owns other = true
      else if id = left.id then left.owns other = true else fleet.Houses id other := by
    intro id other
    simp only [perform, Fleet.store_houses]
  apply reassign_sound sound rfl firm rfl rfl
  · intro id
    exact (stands_store waits id).trans (stands_store stands id)
  · intro id other different
    rw [houses]
    split
    · rename_i same
      subst same
      simp [joins, different, Fleet.standing_houses stands']
    · split
      · rename_i same
        subst same
        simp [leaves, different, Fleet.standing_houses stands]
      · rfl
  · intro id
    rw [houses]
    split
    · rename_i same
      simp [joins, same]
    · rename_i elsewhere
      split
      · simp [leaves, Ne.symm elsewhere]
      · rename_i elsewhere'
        have absent : ¬ fleet.Houses id drone := fun housed =>
          elsewhere' (sound.single _ _ _ housed home)
        simp [absent, Ne.symm elsewhere]

private theorem discharge_sound {fleet : Fleet} (sound : fleet.Sound) {left before : Matrix}
    {drone : Nat} (standing : fleet.standing? left.id = some before)
    (aboard : before.owns drone = true)
    (leaves : ∀ other, left.owns other = (decide (other ≠ drone) && before.owns other))
    (firm : (complete (discharge left drone) fleet).Firm) :
    (complete (discharge left drone) fleet).Sound := by
  have home := (Fleet.standing_houses standing).mpr aboard
  have houses : ∀ id other, (perform (discharge left drone) fleet).Houses id other ↔
      if id = left.id then left.owns other = true else fleet.Houses id other :=
    fun id other => Fleet.store_houses _ _ _ _
  apply reassign_sound sound rfl firm rfl rfl (stands_store standing)
  · intro id other different
    rw [houses]
    split
    · rename_i same
      subst same
      simp [leaves, different, Fleet.standing_houses standing]
    · rfl
  · intro id
    rw [houses]
    split
    · simp [leaves]
    · rename_i elsewhere
      have absent : ¬ fleet.Houses id drone := fun housed =>
        elsewhere (sound.single _ _ _ housed home)
      simp [absent]

private theorem retire_sound {fleet : Fleet} (sound : fleet.Sound) {matrix : Matrix}
    (standing : fleet.standing? matrix.id = some matrix)
    (firm : (complete (retire matrix) fleet).Firm) : (complete (retire matrix) fleet).Sound := by
  refine ⟨firm, ?_, ?_⟩
  · intro id
    have listed : (complete (retire matrix) fleet).listed = fleet.listed.erase matrix.id := rfl
    have stands : (complete (retire matrix) fleet).standing? id =
        if id = matrix.id then none else fleet.standing? id :=
      Fleet.retire_standing? _ _ _
    rw [listed, stands, Table.contains_erase]
    by_cases same : id = matrix.id
    · simp [same]
    · simpa [same] using sound.listing id
  · intro drone id
    have houses : (complete (retire matrix) fleet).Houses id drone ↔ fleet.Houses id drone := by
      have look : (complete (retire matrix) fleet).slots.get? id =
          if id = matrix.id then some ⟨matrix, true⟩ else fleet.slots.get? id :=
        Fleet.retire_slots _ _ _
      simp only [Fleet.Houses, look]
      split
      · rename_i same
        simp [same, Fleet.standing?_eq_some.mp standing]
      · rfl
    rw [houses]
    exact sound.directory drone id

theorem complete_sound {fleet : Fleet} (sound : fleet.Sound) {held : List Nat} {deed : Deed}
    (apt : deed.Apt held fleet) : (deed.complete fleet).Sound := by
  have firm := complete_firm sound.toFirm apt
  cases deed with
  | found matrix =>
    obtain ⟨bounds, rfl⟩ := apt
    exact found_sound sound bounds firm
  | revise matrix =>
    obtain ⟨_, _, before, standing, kin⟩ := apt
    exact revise_sound sound standing firm kin
  | enroll matrix drone =>
    obtain ⟨_, _, rfl, before, standing, aboard⟩ := apt
    exact enroll_sound sound standing aboard firm
  | transfer left joined drone =>
    obtain ⟨_, _, apart, _, _, source, target, stands, stands', aboard, leaves, joins⟩ := apt
    exact transfer_sound sound apart stands stands' aboard leaves joins firm
  | discharge left drone =>
    obtain ⟨_, _, before, standing, aboard, leaves⟩ := apt
    exact discharge_sound sound standing aboard leaves firm
  | retire matrix =>
    obtain ⟨_, standing, _⟩ := apt
    exact retire_sound sound standing firm

end Deed

end DroneFleet
