import DroneFleet.Proofs.Crowd.Steps

/-!
What holds of the fleet at every moment of every run, whatever the requests and the order of their
steps, with matrices held by an outsider and flying called off at any time.
-/
namespace DroneFleet.Crowd

variable {crowd : Crowd} {whole : Fleet}

/-- A retired slot stays as it is, and a number that has left the list does not come back. -/
structure Outlasts (before after : Fleet) (id : Nat) (matrix : Matrix) : Prop where
  slot : after.slots.get? id = some ⟨matrix, true⟩
  listed : before.listed.contains id = false → after.listed.contains id = false

theorem Outlasts.refl {fleet : Fleet} {id : Nat} {matrix : Matrix}
    (retired : fleet.slots.get? id = some ⟨matrix, true⟩) : Outlasts fleet fleet id matrix :=
  ⟨retired, fun absent => absent⟩

theorem Outlasts.of_lines {before after : Fleet} {id : Nat} {matrix : Matrix}
    (retired : before.slots.get? id = some ⟨matrix, true⟩)
    (slot : Line.Same before after (.slot id)) (listed : Line.Same before after (.listing id)) :
    Outlasts before after id matrix := by
  refine ⟨Eq.trans slot retired, ?_⟩
  intro absent
  have same : after.listed.get? id = before.listed.get? id := listed
  simpa only [Table.contains, same] using absent

theorem deed_outlasts {held : List Nat} {fleet : Fleet} {deed : Deed} (apt : deed.Apt held fleet)
    {id : Nat} {matrix : Matrix} (retired : fleet.slots.get? id = some ⟨matrix, true⟩) :
    Outlasts fleet (deed.perform fleet) id matrix := by
  apply Outlasts.of_lines retired
  · apply Deed.perform_other
    rintro other member ⟨⟩
    obtain ⟨found, standing⟩ := (Deed.Apt.slots apt id member).2
    rw [Fleet.standing?_eq_some, retired] at standing
    cases standing
  · apply Deed.perform_other
    intro other _ clash
    cases clash

theorem entry_outlasts {stage : Stage} {fleet : Fleet} (fits : stage.Fits fleet) {entry : Entry}
    (pending : stage.pending? = some entry) {id : Nat} {matrix : Matrix}
    (retired : fleet.slots.get? id = some ⟨matrix, true⟩) :
    Outlasts fleet (entry.write fleet) id matrix := by
  cases stage with
  | publish published =>
    cases pending
    have different : id ≠ published.id := by
      rintro rfl
      rw [fits.1] at retired
      cases retired
    apply Outlasts.of_lines retired <;>
      · apply Entry.write_other
        rintro (line | line) <;> cases line
        exact different rfl
  | record drone owner next =>
    cases pending
    apply Outlasts.of_lines retired <;> exact Entry.write_other (by simp [Entry.Writes]) fleet
  | withdraw gone next =>
    cases pending
    refine ⟨retired, ?_⟩
    intro absent
    have erased : (Entry.write (.withdraw gone) fleet).listed = fleet.listed.erase gone := rfl
    rw [erased, Table.contains_erase, absent, Bool.and_false]
  | _ => cases pending

theorem Move.outlasts {request : Request} {number : Nat} {stage next : Stage} {after : Fleet}
    (move : Move crowd request stage next after) (orderly : crowd.Orderly whole)
    (here : crowd.stages.get? number = some stage) {id : Nat} {matrix : Matrix}
    (retired : crowd.fleet.slots.get? id = some ⟨matrix, true⟩) :
    Outlasts crowd.fleet after id matrix := by
  cases move with
  | enters => exact .refl retired
  | turns serves follows =>
    have turn : stage.Turn crowd.grounded request crowd.fleet next after := follows.turn
    cases turn with
    | does apt => exact deed_outlasts apt retired
    | _ => exact .refl retired
  | writes _ pending _ _ _ => exact entry_outlasts (orderly.fits number stage here) pending retired
  | leaves => exact .refl retired
  | @flies id' outcomes plan ahead before flown outcome same standing sound kin flew fits =>
    have name := (orderly.firm.standing standing).1
    subst name
    have apt : Deed.Apt [flown.id] crowd.fleet (.revise flown) :=
      ⟨List.mem_singleton_self _, sound, before, kin.id ▸ standing, kin⟩
    exact deed_outlasts apt retired
  | lands => exact .refl retired

theorem Orderly.outlasts (orderly : crowd.Orderly whole) (events : List Event) {id : Nat}
    {matrix : Matrix} (retired : crowd.fleet.slots.get? id = some ⟨matrix, true⟩) :
    Outlasts crowd.fleet (crowd.run events).fleet id matrix := by
  induction events generalizing crowd whole with
  | nil => exact .refl retired
  | cons event rest ih =>
    obtain ⟨settled, next⟩ := orderly.step event
    have first : Outlasts crowd.fleet (crowd.step event).fleet id matrix := by
      cases event with
      | submit request => exact .refl retired
      | advance number =>
        rcases orderly.advance_cases number with
          stuck | ⟨request, stage, next, after, here, asked, _, _, moved, move⟩
        · rw [Crowd.step, stuck]
          exact .refl retired
        · rw [Crowd.step, moved]
          exact move.outlasts orderly here retired
      | hold id =>
        simp only [Crowd.step, Crowd.hold]
        split <;> exact .refl retired
      | release id => exact .refl retired
      | ground => exact .refl retired
    have later := ih next first.slot
    exact ⟨later.slot, fun absent => later.listed (first.listed absent)⟩

/-- What a maintainer may rely on at any moment. While a drone is on its way from one matrix to
another the directory may be behind, but then both matrices are held. -/
structure Consistent (crowd : Crowd) : Prop where
  matrices : ∀ id slot, crowd.fleet.slots.get? id = some slot →
    slot.matrix.id = id ∧ slot.matrix.Sound
  directory : ∀ id slot, crowd.fleet.slots.get? id = some slot → crowd.isFree id = true →
    ∀ drone, slot.matrix.owns drone = true ↔ crowd.fleet.owner? drone = some id
  single : ∀ first second drone, crowd.fleet.Houses first drone →
    crowd.fleet.Houses second drone → first = second
  vacated : ∀ id matrix, crowd.fleet.slots.get? id = some ⟨matrix, true⟩ →
    ∀ drone, matrix.owns drone = false
  forgotten : ∀ id matrix, crowd.fleet.slots.get? id = some ⟨matrix, true⟩ →
    crowd.isFree id = true → crowd.fleet.listed.contains id = false
  lasting : ∀ id matrix, crowd.fleet.slots.get? id = some ⟨matrix, true⟩ → ∀ later,
    (crowd.run later).fleet.slots.get? id = some ⟨matrix, true⟩ ∧
      (crowd.fleet.listed.contains id = false →
        (crowd.run later).fleet.listed.contains id = false)

theorem Orderly.forgotten (orderly : crowd.Orderly whole) {id : Nat} {matrix : Matrix}
    (retired : crowd.fleet.slots.get? id = some ⟨matrix, true⟩) (free : crowd.isFree id = true) :
    crowd.fleet.listed.contains id = false := by
  have unclaimed := orderly.unclaimed_free free ⟨_, retired⟩
  have slot : Line.Same crowd.fleet whole (.slot id) := by
    apply orderly.settles.kept
    intro other found entry there pending writes
    exact unclaimed.2 other found there
      (listing_reserved (orderly.fits other found there) pending (.inr writes))
  have listing : Line.Same crowd.fleet whole (.listing id) := by
    apply orderly.settles.kept
    intro other found entry there pending writes
    exact unclaimed.2 other found there
      (listing_reserved (orderly.fits other found there) pending (.inl writes))
  have listed : whole.listed.get? id = crowd.fleet.listed.get? id := listing
  cases still : crowd.fleet.listed.contains id with
  | false => rfl
  | true =>
    rw [Table.contains, ← listed] at still
    obtain ⟨found, standing⟩ := (orderly.sound.listing id).mp still
    rw [Fleet.standing?_congr slot, Fleet.standing?_eq_some, retired] at standing
    cases standing

theorem Orderly.consistent (orderly : crowd.Orderly whole) : crowd.Consistent where
  matrices id slot found :=
    ⟨(orderly.firm.slots id slot found).number, (orderly.firm.slots id slot found).matrix⟩
  directory id slot found free drone := by
    have unclaimed := orderly.unclaimed_free free ⟨slot, found⟩
    have quiet := orderly.directory (fun other found _ there _ => unclaimed.2 other found there) drone
    rw [quiet]
    simp [Fleet.Houses, found]
  single := orderly.firm.single
  vacated id matrix retired := (orderly.firm.slots id _ retired).vacated rfl
  forgotten id matrix retired free := orderly.forgotten retired free
  lasting id matrix retired later :=
    have kept := orderly.outlasts later retired
    ⟨kept.slot, kept.listed⟩

/-- Every run over a sound fleet, with any requests and any order of their steps, is consistent at
every moment. -/
theorem run_consistent {fleet : Fleet} (sound : fleet.Sound) (events : List Event) :
    ((new fleet).run events).Consistent := by
  obtain ⟨whole, orderly⟩ := (new_orderly sound).run events
  exact orderly.consistent

/-- A matrix that is being deleted has been retired but is still listed. -/
def deletion : List Event :=
  [.submit (.createMatrix 4 4), .advance 0, .advance 0, .submit (.deleteMatrix 1), .advance 1,
    .advance 1, .advance 1, .advance 1]

theorem run_consistent_deletion :
    Fleet.empty.Sound ∧ ((new .empty).run deletion).fleet.listed.contains 1 = true ∧
      (((new .empty).run deletion).fleet.slots.get? 1).map (·.retired) = some true ∧
      ((new .empty).run deletion).Consistent :=
  ⟨Fleet.empty_sound, by decide, by decide, run_consistent Fleet.empty_sound deletion⟩

end DroneFleet.Crowd
