import DroneFleet.Proofs.Crowd.Order

/-!
Every event keeps a crowd in order. There is one lemma for each way in which a request can move: it
passes on without touching the fleet, takes a matrix, does a deed, or writes its entry.
-/
namespace DroneFleet.Crowd

variable {crowd : Crowd} {whole : Fleet} {number : Nat} {stage next : Stage} {request : Request}

def Unclaimed (crowd : Crowd) (id : Nat) : Prop :=
  id ∉ crowd.outside ∧
    ∀ other found, crowd.stages.get? other = some found → id ∉ found.reserves

theorem Orderly.unclaimed_new (orderly : crowd.Orderly whole) {id : Nat}
    (above : crowd.fleet.lastMatrix < id) : crowd.Unclaimed id := by
  constructor
  · intro member
    obtain ⟨slot, found⟩ := orderly.built id member
    exact absurd (orderly.firm.numbered id slot found) (Nat.not_le_of_lt above)
  · intro other found there member
    exact absurd (orderly.bounded other found there id member) (Nat.not_le_of_lt above)

theorem mem_held {crowd : Crowd} {id : Nat} :
    id ∈ crowd.held ↔ ∃ number stage, crowd.stages.get? number = some stage ∧ id ∈ stage.holds := by
  simp only [held, List.mem_flatMap, Table.mem_values]
  constructor
  · rintro ⟨stage, ⟨number, here⟩, member⟩
    exact ⟨number, stage, here, member⟩
  · rintro ⟨number, stage, here, member⟩
    exact ⟨stage, ⟨number, here⟩, member⟩

theorem isFree_iff {crowd : Crowd} {id : Nat} :
    crowd.isFree id = true ↔ id ∉ crowd.outside ∧
      ∀ number stage, crowd.stages.get? number = some stage → id ∉ stage.holds := by
  have held : id ∉ crowd.held ↔
      ∀ number stage, crowd.stages.get? number = some stage → id ∉ stage.holds := by
    rw [mem_held]
    constructor
    · intro none number stage here member
      exact none ⟨number, stage, here, member⟩
    · rintro none ⟨number, stage, here, member⟩
      exact none number stage here member
  simp only [isFree, Bool.and_eq_true, Bool.not_eq_true', List.contains_eq_mem, decide_eq_false_iff_not,
    held]

theorem Orderly.unclaimed_free (orderly : crowd.Orderly whole) {id : Nat}
    (free : crowd.isFree id = true) (built : crowd.fleet.Built id) : crowd.Unclaimed id := by
  obtain ⟨outside, held⟩ := isFree_iff.mp free
  refine ⟨outside, ?_⟩
  intro other found there member
  cases pending : found.pending? with
  | none =>
    rw [Stage.reserves_eq_holds pending] at member
    exact held other found there member
  | some entry =>
    cases found with
    | publish matrix =>
      cases List.mem_singleton.mp member
      obtain ⟨slot, present⟩ := built
      rw [(orderly.fits other _ there).1] at present
      cases present
    | record drone owner next => exact held other _ there member
    | withdraw gone next => exact held other _ there member
    | _ => cases pending

theorem Orderly.move (orderly : crowd.Orderly whole)
    (here : crowd.stages.get? number = some stage) {after settled : Fleet} (firm : after.Firm)
    (sound : settled.Sound) (settles : Settles (crowd.stages.insert number next) after settled)
    (fits : next.Fits after)
    (others : ∀ other found, other ≠ number → crowd.stages.get? other = some found →
      found.Fits after)
    (belongs : ∃ request, crowd.requests[number]? = some request ∧ next.Belongs request)
    (claims : ∀ id ∈ next.reserves, id ≤ after.lastMatrix ∧
      (id ∈ stage.reserves ∨ crowd.Unclaimed id))
    (grows : crowd.fleet.lastMatrix ≤ after.lastMatrix)
    (builds : ∀ id, crowd.fleet.Built id → after.Built id) :
    ({ crowd with fleet := after }.moveTo number next).Orderly settled where
  firm := firm
  sound := sound
  settles := settles
  fits other found there := by
    rcases insert_cases there with ⟨rfl, rfl⟩ | ⟨different, old⟩
    · exact fits
    · exact others other found different old
  belongs other found there := by
    rcases insert_cases there with ⟨rfl, rfl⟩ | ⟨_, old⟩
    · exact belongs
    · exact orderly.belongs other found old
  apart first second found found' different there there' id member member' := by
    rcases insert_cases there with ⟨rfl, rfl⟩ | ⟨_, old⟩ <;>
      rcases insert_cases there' with ⟨rfl, rfl⟩ | ⟨_, old'⟩
    · exact different rfl
    · rcases (claims id member).2 with mine | unclaimed
      · exact orderly.apart first second stage found' different here old' id mine member'
      · exact unclaimed.2 second found' old' member'
    · rcases (claims id member').2 with mine | unclaimed
      · exact orderly.apart second first stage found (Ne.symm different) here old id mine member
      · exact unclaimed.2 first found old member
    · exact orderly.apart first second found found' different old old' id member member'
  outside other found there id member := by
    rcases insert_cases there with ⟨rfl, rfl⟩ | ⟨_, old⟩
    · rcases (claims id member).2 with mine | unclaimed
      · exact orderly.outside other stage here id mine
      · exact unclaimed.1
    · exact orderly.outside other found old id member
  bounded other found there id member := by
    rcases insert_cases there with ⟨rfl, rfl⟩ | ⟨_, old⟩
    · exact (claims id member).1
    · exact Nat.le_trans (orderly.bounded other found old id member) grows
  built id member := builds id (orderly.built id member)

/-! ### The ways to move -/

theorem Orderly.passes (orderly : crowd.Orderly whole)
    (here : crowd.stages.get? number = some stage) (plain : stage.pending? = none)
    (plain' : next.pending? = none) (fits : next.Fits crowd.fleet)
    (belongs : ∃ request, crowd.requests[number]? = some request ∧ next.Belongs request)
    (keeps : ∀ id ∈ next.holds, id ∈ stage.holds) : (crowd.moveTo number next).Orderly whole := by
  apply orderly.move here orderly.firm orderly.sound (orderly.settles.plain ?_ plain') fits
    (fun other found _ there => orderly.fits other found there) belongs ?_ (Nat.le_refl _)
    (fun _ built => built)
  · intro before there
    rw [here] at there
    cases there
    exact plain
  · intro id member
    rw [Stage.reserves_eq_holds plain'] at member
    have mine := Stage.reserves_of_holds (keeps id member)
    exact ⟨orderly.bounded number stage here id mine, .inl mine⟩

theorem Orderly.enters (orderly : crowd.Orderly whole) {id : Nat} {purpose : Purpose}
    (here : crowd.stages.get? number = some (.enter id purpose)) (free : crowd.isFree id = true) :
    (crowd.moveTo number (.inside id purpose)).Orderly whole := by
  have fits := orderly.fits number _ here
  obtain ⟨request, asked, serves | ⟨response, answers⟩ | ⟨_, _, _, flying⟩⟩ :=
    orderly.belongs number _ here
  · have inside : (Stage.inside id purpose).Fits crowd.fleet := fits.2
    have pursued : (Stage.inside id purpose).Belongs request := .inl serves
    apply orderly.move here orderly.firm orderly.sound (orderly.settles.plain ?_ rfl) inside
      (fun other found _ there => orderly.fits other found there) ⟨request, asked, pursued⟩ ?_
      (Nat.le_refl _) (fun _ built => built)
    · intro before there
      rw [here] at there
      cases there
      rfl
    · intro other member
      rcases List.mem_cons.mp member with rfl | inside
      · obtain ⟨slot, found⟩ := fits.1
        exact ⟨orderly.firm.numbered _ slot found, .inr (orderly.unclaimed_free free fits.1)⟩
      · exact ⟨orderly.bounded number _ here other inside, .inl inside⟩
  · exact answers.elim
  · cases flying

/-- What a deed writes, now and later, is not what another request has still to write. -/
theorem Orderly.unread (orderly : crowd.Orderly whole)
    (here : crowd.stages.get? number = some stage) (plain : stage.pending? = none) {deed : Deed}
    (apt : deed.Apt stage.holds crowd.fleet) {other : Nat} {found : Stage} {pending : Entry}
    {line : Line} (different : other ≠ number) (there : crowd.stages.get? other = some found)
    (wanted : found.pending? = some pending) (writes : pending.Writes line) :
    (∀ id ∈ deed.slots, line ≠ .slot id) ∧ ∀ own, deed.entry = some own → ¬ own.Writes line := by
  have fits := orderly.fits other found there
  have held : ∀ id ∈ stage.holds, id ∉ found.reserves := fun id member =>
    orderly.apart number other stage found (Ne.symm different) here there id
      (Stage.reserves_of_holds member)
  -- A drone whose entry is pending has its old and its new owner held by that request.
  have owned : ∀ drone, line = .owner drone → drone ≤ crowd.fleet.lastDrone ∧
      ∀ id ∈ stage.holds, crowd.fleet.owner? drone ≠ some id := by
    rintro drone rfl
    cases found with
    | record recorded owner next =>
      cases wanted
      cases writes
      have written := orderly.settles.written other _ _ _ there rfl rfl
      obtain ⟨_, _, ⟨id, named⟩, known⟩ := fits
      constructor
      · rcases named with new | old
        · have same : whole.owner? drone = (crowd.fleet.assign drone owner).owner? drone := written
          rw [Fleet.assign_owner?, if_pos rfl, new] at same
          rw [← orderly.settles.lastDrone]
          exact orderly.sound.registered drone id same
        · exact orderly.firm.registered drone id old
      · intro id member old
        exact held id member (known id (.inr old)).1
    | publish matrix => cases wanted; rcases writes with line | line <;> cases line
    | withdraw gone next => cases wanted; cases writes
    | _ => cases wanted
  refine ⟨?_, ?_⟩
  · rintro id member rfl
    exact held id (Deed.Apt.slots apt id member).1 (listing_reserved fits wanted (.inr writes))
  · intro own entry again
    have clear := orderly.clear here plain
    cases deed with
    | found matrix =>
      obtain ⟨bounds, rfl⟩ := apt
      cases entry
      have mine : crowd.fleet.lastMatrix + 1 ∈ found.reserves := by
        apply listing_reserved fits wanted
        rcases again with rfl | rfl
        · exact .inr writes
        · exact .inl writes
      exact Nat.not_succ_le_self _ (orderly.bounded other found there _ mine)
    | revise matrix => cases entry
    | enroll matrix drone =>
      obtain ⟨_, _, rfl, _⟩ := apt
      cases entry
      exact Nat.not_succ_le_self _ (owned _ again).1
    | transfer left joined drone =>
      obtain ⟨inside, _, _, _, _, source, _, standing, _, aboard, _⟩ := apt
      cases entry
      have housed := (Fleet.standing_houses standing).mpr aboard
      exact (owned drone again).2 left.id inside ((clear.directory _ inside drone).mpr housed)
    | discharge left drone =>
      obtain ⟨inside, _, before, standing, aboard, _⟩ := apt
      cases entry
      have housed := (Fleet.standing_houses standing).mpr aboard
      exact (owned drone again).2 left.id inside ((clear.directory _ inside drone).mpr housed)
    | retire matrix =>
      obtain ⟨inside, _, _⟩ := apt
      cases entry
      cases again
      exact held _ inside (listing_reserved fits wanted (.inl writes))

theorem Orderly.deed_apart (orderly : crowd.Orderly whole)
    (here : crowd.stages.get? number = some stage) {deed : Deed}
    (apt : deed.Apt stage.holds crowd.fleet) {other : Nat} {found : Stage}
    (different : other ≠ number) (there : crowd.stages.get? other = some found) :
    ∀ id ∈ found.reserves, ∀ fleet, Line.Same fleet (deed.perform fleet) (.slot id) := by
  intro id member fleet
  apply Deed.perform_other
  rintro taken written ⟨⟩
  exact orderly.apart number other stage found (Ne.symm different) here there id
    (Stage.reserves_of_holds (Deed.Apt.slots apt id written).1) member

theorem Orderly.entry_apart (orderly : crowd.Orderly whole)
    (here : crowd.stages.get? number = some stage) {entry : Entry}
    (pending : stage.pending? = some entry) {other : Nat} {found : Stage}
    (different : other ≠ number) (there : crowd.stages.get? other = some found) :
    ∀ id ∈ found.reserves, ∀ fleet, Line.Same fleet (entry.write fleet) (.slot id) := by
  intro id member fleet
  apply entry.write_other
  intro writes
  exact orderly.apart number other stage found (Ne.symm different) here there id
    (listing_reserved (orderly.fits number stage here) pending (.inr writes)) member

theorem Orderly.does (orderly : crowd.Orderly whole)
    (here : crowd.stages.get? number = some stage) (plain : stage.pending? = none) {deed : Deed}
    (apt : deed.Apt stage.holds crowd.fleet) (entry : next.pending? = deed.entry)
    (fits : next.Fits (deed.perform crowd.fleet))
    (belongs : ∃ request, crowd.requests[number]? = some request ∧ next.Belongs request)
    (claims : ∀ id ∈ next.reserves, id ∈ stage.holds ∨
      crowd.fleet.lastMatrix < id ∧ id ≤ (deed.perform crowd.fleet).lastMatrix) :
    ({ crowd with fleet := deed.perform crowd.fleet }.moveTo number next).Orderly
      (deed.complete whole) := by
  have sound : (deed.complete whole).Sound :=
    Deed.complete_sound orderly.sound (Deed.Apt.alike apt (orderly.alike here plain))
  apply orderly.move here (Deed.perform_firm orderly.firm apt) sound ?_ fits ?_ belongs ?_
    (Deed.Apt.lastMatrix_le apt) (fun _ built => Deed.perform_built built)
  · apply orderly.settles.deed here plain entry
    intro other found pending line different there wanted writes
    exact orderly.unread here plain apt different there wanted writes
  · intro other found different there
    apply (orderly.fits other found there).frame (fun _ built => Deed.perform_built built)
    · intro id member
      exact orderly.deed_apart here apt different there id member crowd.fleet
    · intro drone owner _
      apply Deed.perform_other
      intro id _ clash
      cases clash
  · intro id member
    rcases claims id member with held | ⟨above, within⟩
    · have mine := Stage.reserves_of_holds held
      have bounded := orderly.bounded number stage here id mine
      exact ⟨Nat.le_trans bounded (Deed.Apt.lastMatrix_le apt), .inl mine⟩
    · exact ⟨within, .inr (orderly.unclaimed_new above)⟩

theorem Orderly.one_owner (orderly : crowd.Orderly whole) {other : Nat} {found : Stage}
    {drone : Nat} {owner owner' : Option Nat} (different : other ≠ number)
    (here : crowd.stages.get? number = some stage)
    (there : crowd.stages.get? other = some found)
    (pending : stage.pending? = some (.assign drone owner))
    (pending' : found.pending? = some (.assign drone owner')) : False := by
  have written := orderly.settles.written number stage _ (.owner drone) here pending rfl
  have written' := orderly.settles.written other found _ (.owner drone) there pending' rfl
  have same : whole.owner? drone = (crowd.fleet.assign drone owner).owner? drone := written
  have same' : whole.owner? drone = (crowd.fleet.assign drone owner').owner? drone := written'
  rw [Fleet.assign_owner?, if_pos rfl] at same same'
  have fits := orderly.fits number stage here
  have fits' := orderly.fits other found there
  cases stage with
  | record recorded owned next =>
    cases pending
    cases found with
    | record recorded' owned' next' =>
      cases pending'
      obtain ⟨_, _, ⟨id, named⟩, known⟩ := fits
      have named' : owner' = some id ∨ crowd.fleet.owner? drone = some id := by
        rw [← same', same]
        exact named
      exact orderly.apart number other _ _ (Ne.symm different) here there id
        (Stage.reserves_of_holds (known id named).1)
        (Stage.reserves_of_holds (fits'.2.2.2 id named').1)
    | _ => cases pending'
  | _ => cases pending

theorem Orderly.writes (orderly : crowd.Orderly whole)
    (here : crowd.stages.get? number = some stage) {entry : Entry}
    (pending : stage.pending? = some entry) (plain : next.pending? = none)
    (fits : next.Fits (entry.write crowd.fleet))
    (belongs : ∃ request, crowd.requests[number]? = some request ∧ next.Belongs request)
    (keeps : ∀ id ∈ next.holds, id ∈ stage.holds) :
    ({ crowd with fleet := entry.write crowd.fleet }.moveTo number next).Orderly whole := by
  apply orderly.move here ?_ orderly.sound (orderly.settles.write here pending plain) fits ?_ belongs
    ?_ (Nat.le_of_eq (entry.write_lastMatrix crowd.fleet).symm)
    (fun _ built => entry.write_built built)
  · cases stage with
    | publish matrix =>
      cases pending
      obtain ⟨bounds, new⟩ := (orderly.fits number _ here).2
      have below := orderly.bounded number _ here matrix.id (List.mem_singleton_self _)
      rw [new]
      exact orderly.firm.publish bounds below
    | record drone owner later =>
      cases pending
      apply orderly.firm.assign drone owner
      intro id owned
      have written := orderly.settles.written number _ _ (.owner drone) here rfl rfl
      have same : whole.owner? drone = (crowd.fleet.assign drone owner).owner? drone := written
      rw [Fleet.assign_owner?, if_pos rfl, owned] at same
      rw [← orderly.settles.lastDrone]
      exact orderly.sound.registered drone id same
    | withdraw id later =>
      cases pending
      exact orderly.firm.withdraw id
    | _ => cases pending
  · intro other found different there
    apply (orderly.fits other found there).frame (fun _ built => entry.write_built built)
    · intro id member
      exact orderly.entry_apart here pending different there id member crowd.fleet
    · intro drone owner pending'
      apply entry.write_other
      intro writes
      cases entry with
      | publish matrix => rcases writes with line | line <;> cases line
      | assign written owner' =>
        cases writes
        exact orderly.one_owner different here there pending pending'
      | withdraw id => cases writes
  · intro id member
    rw [Stage.reserves_eq_holds plain] at member
    have mine := Stage.reserves_of_holds (keeps id member)
    rw [entry.write_lastMatrix]
    exact ⟨orderly.bounded number stage here id mine, .inl mine⟩

/-! ### One step -/

inductive Move (crowd : Crowd) (request : Request) (stage : Stage) : Stage → Fleet → Prop
  | enters {id : Nat} {purpose : Purpose} (same : stage = .enter id purpose)
      (free : crowd.isFree id = true) (serves : purpose.Serves request id) :
      Move crowd request stage (.inside id purpose) crowd.fleet
  | turns {next : Stage} {after : Fleet} (serves : stage.Serves request)
      (follows : stage.Follows crowd.grounded request crowd.fleet (next, after)) :
      Move crowd request stage next after
  | writes {response : Response} {entry : Entry} {next : Stage} (answers : stage.Answers response)
      (pending : stage.pending? = some entry) (closes : next.Closes response)
      (fits : next.Fits (entry.write crowd.fleet)) (keeps : ∀ id ∈ next.holds, id ∈ stage.holds) :
      Move crowd request stage next (entry.write crowd.fleet)
  | leaves {response : Response} {id : Nat} {next : Stage} (same : stage = .leave id next)
      (closes : next.Closes response) : Move crowd request stage next crowd.fleet
  | flies {id : Nat} {outcomes : List DroneOutcome} {plan : Plan} {ahead : List Plan}
      {matrix flown : Matrix} {outcome : DroneOutcome}
      (same : stage = .flying id outcomes (plan :: ahead))
      (standing : crowd.fleet.standing? id = some matrix) (sound : flown.Sound)
      (kin : matrix.Kin flown)
      (flew : ∀ other : Fleet, other.standing? matrix.id = some matrix →
        (Handling.flyPlan crowd.grounded matrix.id plan).on other =
          (.ok outcome, other.store flown))
      (fits : (Stage.flying id (outcomes ++ [outcome]) ahead).Fits (crowd.fleet.store flown)) :
      Move crowd request stage (.flying id (outcomes ++ [outcome]) ahead) (crowd.fleet.store flown)
  | lands {id : Nat} {outcomes : List DroneOutcome} {matrix : Matrix}
      (same : stage = .flying id outcomes []) (standing : crowd.fleet.standing? id = some matrix) :
      Move crowd request stage (.leave id (.done (.batch (.of outcomes matrix)))) crowd.fleet

theorem advance_eq (here : crowd.stages.get? number = some stage)
    (unblocked : crowd.blocks stage = false) {after : Fleet}
    (step : stage.next crowd.grounded crowd.fleet = (next, after)) :
    crowd.advance number = { crowd with fleet := after }.moveTo number next := by
  simp only [advance, here, unblocked, step]
  rfl

theorem advance_requests (crowd : Crowd) (number : Nat) :
    (crowd.advance number).requests = crowd.requests := by
  unfold advance
  split
  · rfl
  · split <;> rfl

theorem Orderly.moves (orderly : crowd.Orderly whole)
    (here : crowd.stages.get? number = some stage) (unblocked : crowd.blocks stage = false)
    (asked : crowd.requests[number]? = some request) :
    ∃ next after, stage.next crowd.grounded crowd.fleet = (next, after) ∧
      Move crowd request stage next after := by
  have fits := orderly.fits number stage here
  obtain ⟨same, asked', belongs⟩ := orderly.belongs number stage here
  rw [asked] at asked'
  cases asked'
  rcases belongs with serves | ⟨response, answers⟩ | ⟨id, outcomes, ahead, rfl⟩
  · by_cases waits : ∃ id purpose, stage = .enter id purpose
    · obtain ⟨id, purpose, rfl⟩ := waits
      have free : crowd.isFree id = true := by simpa [blocks] using unblocked
      exact ⟨_, _, rfl, .enters rfl free serves⟩
    · have plain := serves.pending?
      have moves : ∀ id purpose, stage ≠ .enter id purpose := fun id purpose same =>
        waits ⟨id, purpose, same⟩
      have follows : stage.Follows crowd.grounded request crowd.fleet _ :=
        Stage.next_follows (orderly.clear here plain) fits serves moves
      exact ⟨_, _, rfl, .turns serves follows⟩
  · cases pending : stage.pending? with
    | some entry =>
      obtain ⟨next, step, closes, nextFits, keeps⟩ := answers.write fits pending
      exact ⟨next, _, step, .writes answers pending closes nextFits keeps⟩
    | none =>
      rcases (answers.closes pending).leave with rfl | ⟨id, next, rfl, closes⟩
      · cases unblocked
      · exact ⟨next, _, rfl, .leaves rfl closes⟩
  · cases ahead with
    | nil =>
      obtain ⟨matrix, standing, _⟩ := fits
      exact ⟨_, _, Stage.flying_done standing, .lands rfl standing⟩
    | cons plan rest =>
      obtain ⟨matrix, outcome, flown, standing, sound, kin, flew, step, nextFits⟩ :=
        Stage.flying_next orderly.firm fits
      exact ⟨_, _, step, .flies rfl standing sound kin flew nextFits⟩

theorem Orderly.flies (orderly : crowd.Orderly whole) {id : Nat} {outcomes : List DroneOutcome}
    {ahead ahead' : List Plan} {matrix flown : Matrix} {outcomes' : List DroneOutcome}
    (here : crowd.stages.get? number = some (.flying id outcomes ahead))
    (standing : crowd.fleet.standing? id = some matrix) (sound : flown.Sound)
    (kin : matrix.Kin flown)
    (fits : (Stage.flying id outcomes' ahead').Fits (crowd.fleet.store flown)) :
    ({ crowd with fleet := crowd.fleet.store flown }.moveTo number
      (.flying id outcomes' ahead')).Orderly (whole.store flown) := by
  obtain ⟨request, asked, _⟩ := orderly.belongs number _ here
  have name := (orderly.firm.standing standing).1
  subst name
  have apt : Deed.Apt (Stage.flying matrix.id outcomes ahead).holds crowd.fleet (.revise flown) := by
    refine ⟨?_, sound, matrix, ?_, kin⟩
    · rw [kin.id]
      exact List.mem_singleton_self _
    · rw [kin.id]
      exact standing
  exact orderly.does here rfl apt rfl fits
    ⟨request, asked, .inr (.inr ⟨matrix.id, outcomes', ahead', rfl⟩)⟩ fun id member => .inl member

theorem Orderly.turns (orderly : crowd.Orderly whole)
    (here : crowd.stages.get? number = some stage) (serves : stage.Serves request)
    (asked : crowd.requests[number]? = some request) {after : Fleet}
    (follows : stage.Follows crowd.grounded request crowd.fleet (next, after)) :
    ∃ settled, ({ crowd with fleet := after }.moveTo number next).Orderly settled := by
  have passes : after = crowd.fleet → next.pending? = none → next.Belongs request →
      ∃ settled, ({ crowd with fleet := after }.moveTo number next).Orderly settled := by
    rintro rfl plain belongs
    exact ⟨whole, orderly.passes here serves.pending? plain follows.fits ⟨request, asked, belongs⟩
      follows.stays⟩
  cases follows.turn with
  | goes _ serves' => exact passes rfl serves'.pending? (.inl serves')
  | refused closes _ => exact passes rfl closes.pending? (.inr (.inl ⟨_, closes.answers⟩))
  | told closes _ _ => exact passes rfl closes.pending? (.inr (.inl ⟨_, closes.answers⟩))
  | flies _ _ _ => exact passes rfl rfl (.inr (.inr ⟨_, _, _, rfl⟩))
  | does apt entry answers _ _ =>
    exact ⟨_, orderly.does here serves.pending? apt entry follows.fits
      ⟨request, asked, .inr (.inl ⟨_, answers⟩)⟩ follows.reserves⟩

theorem Move.orderly {after : Fleet} (move : Move crowd request stage next after)
    (orderly : crowd.Orderly whole) (here : crowd.stages.get? number = some stage)
    (asked : crowd.requests[number]? = some request) :
    ∃ settled, ({ crowd with fleet := after }.moveTo number next).Orderly settled := by
  have fits := orderly.fits number stage here
  cases move with
  | enters same free _ =>
    subst same
    exact ⟨whole, orderly.enters here free⟩
  | turns serves follows => exact orderly.turns here serves asked follows
  | writes _ pending closes nextFits keeps =>
    exact ⟨whole, orderly.writes here pending closes.pending? nextFits
      ⟨request, asked, .inr (.inl ⟨_, closes.answers⟩)⟩ keeps⟩
  | leaves same closes =>
    subst same
    exact ⟨whole, orderly.passes here rfl closes.pending? fits.2.1
      ⟨request, asked, .inr (.inl ⟨_, closes.answers⟩)⟩ fun id => List.mem_cons_of_mem _⟩
  | flies same standing sound kin _ nextFits =>
    subst same
    exact ⟨_, orderly.flies here standing sound kin nextFits⟩
  | @lands id outcomes matrix same standing =>
    subst same
    have closes : (Stage.leave id (.done (.batch (.of outcomes matrix)))).Closes _ := rfl
    exact ⟨whole, orderly.passes here rfl rfl (Stage.leave_fits _ _)
      ⟨request, asked, .inr (.inl ⟨_, closes.answers⟩)⟩ fun _ held => held⟩

theorem Orderly.advance_cases (orderly : crowd.Orderly whole) (number : Nat) :
    crowd.advance number = crowd ∨ ∃ request stage next after,
      crowd.stages.get? number = some stage ∧ crowd.requests[number]? = some request ∧
      crowd.blocks stage = false ∧ stage.next crowd.grounded crowd.fleet = (next, after) ∧
      crowd.advance number = { crowd with fleet := after }.moveTo number next ∧
      Move crowd request stage next after := by
  cases here : crowd.stages.get? number with
  | none => exact .inl (by simp only [Crowd.advance, here])
  | some stage =>
    cases unblocked : crowd.blocks stage with
    | true => exact .inl (by simp only [Crowd.advance, here, unblocked]; rfl)
    | false =>
      obtain ⟨request, asked, _⟩ := orderly.belongs number stage here
      obtain ⟨next, after, step, move⟩ := orderly.moves here unblocked asked
      exact .inr ⟨request, stage, next, after, rfl, asked, unblocked, step,
        advance_eq here unblocked step, move⟩

theorem Orderly.advance (orderly : crowd.Orderly whole) (number : Nat) :
    ∃ settled, (crowd.advance number).Orderly settled := by
  rcases orderly.advance_cases number with
    stuck | ⟨request, stage, next, after, here, asked, _, _, moved, move⟩
  · rw [stuck]
    exact ⟨whole, orderly⟩
  · rw [moved]
    exact move.orderly orderly here asked

theorem Move.built {after : Fleet} (move : Move crowd request stage next after) {id : Nat}
    (built : crowd.fleet.Built id) : after.Built id := by
  cases move with
  | turns serves follows =>
    have turn : stage.Turn crowd.grounded request crowd.fleet next after := follows.turn
    cases turn with
    | does => exact Deed.perform_built built
    | _ => exact built
  | @writes _ entry => exact entry.write_built built
  | @flies _ _ _ _ _ flown =>
    have stored : (Deed.perform (.revise flown) crowd.fleet).Built id := Deed.perform_built built
    exact stored
  | _ => exact built

/-- A matrix that has been built stays, if only as one that has been retired. -/
theorem Orderly.advance_built (orderly : crowd.Orderly whole) (number : Nat) {id : Nat}
    (built : crowd.fleet.Built id) : (crowd.advance number).fleet.Built id := by
  rcases orderly.advance_cases number with stuck | ⟨_, _, _, _, _, _, _, _, moved, move⟩
  · rw [stuck]
    exact built
  · rw [moved]
    exact move.built built

theorem Orderly.submit (orderly : crowd.Orderly whole) (request : Request) :
    (crowd.submit request).Orderly whole where
  firm := orderly.firm
  sound := orderly.sound
  settles := orderly.settles.plain (fun before there => by
    obtain ⟨_, asked, _⟩ := orderly.belongs _ before there
    simp at asked) rfl
  fits other found there := by
    rcases insert_cases there with ⟨_, rfl⟩ | ⟨_, old⟩
    · trivial
    · exact orderly.fits other found old
  belongs other found there := by
    rcases insert_cases there with ⟨rfl, rfl⟩ | ⟨_, old⟩
    · exact ⟨request, by simp [Crowd.submit], .inl rfl⟩
    · obtain ⟨earlier, asked, belongs⟩ := orderly.belongs other found old
      exact ⟨earlier, by simp [Crowd.submit, List.getElem?_append_left
        (List.getElem?_eq_some_iff.mp asked).1, asked], belongs⟩
  apart first second found found' different there there' id member member' := by
    rcases insert_cases there with ⟨_, rfl⟩ | ⟨_, old⟩
    · cases member
    · rcases insert_cases there' with ⟨_, rfl⟩ | ⟨_, old'⟩
      · cases member'
      · exact orderly.apart first second found found' different old old' id member member'
  outside other found there id member := by
    rcases insert_cases there with ⟨_, rfl⟩ | ⟨_, old⟩
    · cases member
    · exact orderly.outside other found old id member
  bounded other found there id member := by
    rcases insert_cases there with ⟨_, rfl⟩ | ⟨_, old⟩
    · cases member
    · exact orderly.bounded other found old id member
  built := orderly.built

theorem Orderly.hold (orderly : crowd.Orderly whole) (id : Nat) :
    (crowd.hold id).Orderly whole := by
  unfold Crowd.hold
  split
  · rename_i possible
    obtain ⟨present, free⟩ := Bool.and_eq_true_iff.mp possible
    have built : crowd.fleet.Built id := by
      obtain ⟨matrix, found⟩ := Option.isSome_iff_exists.mp present
      obtain ⟨_, _, standing⟩ := Option.bind_eq_some_iff.mp found
      exact ⟨_, Fleet.standing?_eq_some.mp standing⟩
    refine { orderly with outside := ?_, built := ?_ }
    · intro other found there claimed member outside
      rcases List.mem_cons.mp outside with rfl | earlier
      · exact (orderly.unclaimed_free free built).2 other found there member
      · exact orderly.outside other found there claimed member earlier
    · intro other member
      rcases List.mem_cons.mp member with rfl | earlier
      · exact built
      · exact orderly.built other earlier
  · exact orderly

theorem Orderly.release (orderly : crowd.Orderly whole) (id : Nat) :
    (crowd.release id).Orderly whole :=
  { orderly with
    outside := fun other found there claimed member outside =>
      orderly.outside other found there claimed member (List.mem_of_mem_erase outside)
    built := fun other member => orderly.built other (List.mem_of_mem_erase member) }

theorem Orderly.step (orderly : crowd.Orderly whole) (event : Event) :
    ∃ settled, (crowd.step event).Orderly settled := by
  cases event with
  | submit request => exact ⟨whole, orderly.submit request⟩
  | advance number => exact orderly.advance number
  | hold id => exact ⟨whole, orderly.hold id⟩
  | release id => exact ⟨whole, orderly.release id⟩
  | ground => exact ⟨whole, { orderly with }⟩

theorem Orderly.run (orderly : crowd.Orderly whole) (events : List Event) :
    ∃ settled, (crowd.run events).Orderly settled := by
  induction events generalizing crowd whole with
  | nil => exact ⟨whole, orderly⟩
  | cons event rest ih =>
    obtain ⟨settled, next⟩ := orderly.step event
    exact ih next

/-! ### Runs -/

theorem run_append (crowd : Crowd) (before after : List Event) :
    crowd.run (before ++ after) = (crowd.run before).run after :=
  List.foldl_append

theorem answer?_eq_some {number : Nat} {response : Response} :
    crowd.answer? number = some response ↔
      crowd.stages.get? number = some (.done response) := by
  unfold answer?
  split
  · rename_i found here
    rw [here]
    simp
  · rename_i other
    constructor
    · intro none
      cases none
    · intro here
      exact absurd here (other response)

theorem Orderly.step_stage (orderly : crowd.Orderly whole) {event : Event}
    (there : (crowd.step event).stages.get? number = some next) :
    crowd.stages.get? number = some next ∨
    (∃ request, event = .submit request ∧ next = .start request) ∨
    ∃ request stage after, event = .advance number ∧ crowd.stages.get? number = some stage ∧
      crowd.step event = { crowd with fleet := after }.moveTo number next ∧
      Move crowd request stage next after := by
  cases event with
  | submit request =>
    rcases insert_cases there with ⟨_, rfl⟩ | ⟨_, old⟩
    · exact .inr (.inl ⟨request, rfl, rfl⟩)
    · exact .inl old
  | advance other =>
    rcases orderly.advance_cases other with
      stuck | ⟨request, stage, moved, after, here, _, _, _, step, move⟩
    · rw [Crowd.step, stuck] at there
      exact .inl there
    · rw [Crowd.step, step] at there
      rcases insert_cases there with ⟨rfl, rfl⟩ | ⟨_, old⟩
      · exact .inr (.inr ⟨request, stage, after, rfl, here, step, move⟩)
      · exact .inl old
  | hold id =>
    simp only [Crowd.step, Crowd.hold] at there
    split at there <;> exact .inl there
  | release id => exact .inl there
  | ground => exact .inl there

theorem Orderly.step_here (orderly : crowd.Orderly whole)
    (here : crowd.stages.get? number = some stage) (event : Event) :
    ∃ next, (crowd.step event).stages.get? number = some next := by
  have inserted : ∀ (place : Nat) (other : Stage),
      ∃ next, (crowd.stages.insert place other).get? number = some next := by
    intro place other
    rw [Table.get?_insert]
    split
    · exact ⟨other, rfl⟩
    · exact ⟨stage, here⟩
  cases event with
  | submit request => exact inserted _ _
  | advance other =>
    rcases orderly.advance_cases other with stuck | ⟨_, _, moved, after, _, _, _, _, step, _⟩
    · rw [Crowd.step, stuck]
      exact ⟨stage, here⟩
    · rw [Crowd.step, step]
      exact inserted other moved
  | hold id =>
    simp only [Crowd.step, Crowd.hold]
    split <;> exact ⟨stage, here⟩
  | release id => exact ⟨stage, here⟩
  | ground => exact ⟨stage, here⟩

theorem Orderly.step_from (orderly : crowd.Orderly whole)
    (here : crowd.stages.get? number = some stage) (event : Event) :
    ∃ next, (crowd.step event).stages.get? number = some next ∧
      (next = stage ∨ ∃ request after, Move crowd request stage next after) := by
  obtain ⟨next, there⟩ := orderly.step_here here event
  refine ⟨next, there, ?_⟩
  have unmoved : crowd.stages.get? number = some next → next = stage := by
    intro old
    rw [here] at old
    exact (Option.some.inj old).symm
  rcases orderly.step_stage there with
    old | ⟨request, rfl, rfl⟩ | ⟨request, found, after, _, old, _, move⟩
  · exact .inl (unmoved old)
  · obtain ⟨_, asked, _⟩ := orderly.belongs number stage here
    rcases insert_cases there with ⟨rfl, _⟩ | ⟨_, old⟩
    · simp at asked
    · exact .inl (unmoved old)
  · rw [here] at old
    cases old
    exact .inr ⟨request, after, move⟩

theorem Move.answers {after : Fleet} (move : Move crowd request stage next after)
    {response : Response} (answers : stage.Answers response) : next.Answers response := by
  cases move with
  | enters same => exact (same ▸ answers).elim
  | turns serves _ => exact absurd answers serves.not_answers
  | writes answers' _ closes _ _ => exact answers'.unique answers ▸ closes.answers
  | leaves same closes =>
    subst same
    have left : next.Closes response := answers
    exact left.answers
  | flies same => exact (same ▸ answers).elim
  | lands same => exact (same ▸ answers).elim

theorem Orderly.run_answers (orderly : crowd.Orderly whole)
    (here : crowd.stages.get? number = some stage) {response : Response}
    (answers : stage.Answers response) (events : List Event) :
    ∃ last, (crowd.run events).stages.get? number = some last ∧ last.Answers response := by
  induction events generalizing crowd whole stage with
  | nil => exact ⟨stage, here, answers⟩
  | cons event rest ih =>
    obtain ⟨settled, next⟩ := orderly.step event
    obtain ⟨moved, there, rfl | ⟨request, after, move⟩⟩ := orderly.step_from here event
    · exact ih next there answers
    · exact ih next there (move.answers answers)

theorem Orderly.run_answer (orderly : crowd.Orderly whole) {response : Response}
    (got : crowd.answer? number = some response) (events : List Event) :
    (crowd.run events).answer? number = some response := by
  induction events generalizing crowd whole with
  | nil => exact got
  | cons event rest ih =>
    obtain ⟨settled, next⟩ := orderly.step event
    obtain ⟨moved, there, rfl | ⟨request, after, move⟩⟩ :=
      orderly.step_from (answer?_eq_some.mp got) event
    · exact ih next (answer?_eq_some.mpr there)
    · cases move with
      | turns serves _ => exact serves.elim
      | _ => contradiction

end DroneFleet.Crowd
