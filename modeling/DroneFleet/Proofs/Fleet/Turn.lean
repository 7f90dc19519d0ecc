import DroneFleet.Proofs.Fleet.Stages

/-!
What one step of a request that is being pursued can come to (`Stage.Turn`): it goes on, it is refused
or told what it wants to know and changes nothing, it does its one deed, or it takes its drones up.
Where it succeeds, the same request handled all at once has the same answer and does the same deed,
on every sound fleet that agrees on the matrices held. The entry, the wait for a matrix and the flight
itself are steps of other kinds.
-/
namespace DroneFleet

/-- A fleet at a moment when the directory is right about the matrices that a request holds. -/
structure Fleet.Clear (held : List Nat) (fleet : Fleet) : Prop extends fleet.Firm where
  directory : ∀ id ∈ held, ∀ drone, fleet.owner? drone = some id ↔ fleet.Houses id drone

theorem Fleet.Clear.owner_ne {fleet : Fleet} {held : List Nat} (clear : fleet.Clear held)
    {id drone : Nat} (member : id ∈ held)
    (absent : ∀ matrix, fleet.standing? id = some matrix → matrix.owns drone = false) :
    fleet.owner? drone ≠ some id := by
  intro known
  obtain ⟨matrix, standing, aboard⟩ :=
    clear.toFirm.standing_of_houses ((clear.directory id member drone).mp known)
  rw [absent matrix standing] at aboard
  cases aboard

namespace Stage

/-- The steps with which a request gets on: it changes nothing, and has no answer yet. -/
inductive Goes (fleet : Fleet) : Stage → Stage → Prop
  | starts {request : Request} (plain : ∀ maxX maxY, request ≠ .createMatrix maxX maxY) :
      Goes fleet (start request) (ofRequest request)
  | surveys (listing : Listing) :
      Goes fleet (survey listing) (visit listing [] fleet.listed.keys)
  | finds {id : Nat} {purpose : Purpose} (listed : fleet.listed.contains id = true) :
      Goes fleet (seek id purpose) (enter id purpose)
  | misses {id : Nat} {purpose : Purpose} (unlisted : fleet.listed.contains id = false) :
      Goes fleet (seek id purpose) (missing id purpose)
  | finds_gone {id : Nat} {purpose : Purpose} (gone : fleet.standing? id = none) :
      Goes fleet (inside id purpose) (leave id (missing id purpose))
  | views {matrix : Matrix} {listing : Listing} {ahead : List Nat} {seen : List MatrixView} :
      Goes fleet (inside matrix.id (.survey listing ahead seen))
        (leave matrix.id (visit listing (seen ++ [matrix.view]) ahead))
  | strays {matrix : Matrix} {drone : Nat} {wanted : Errand}
      (standing : fleet.standing? matrix.id = some matrix) (absent : matrix.owns drone = false) :
      Goes fleet (inside matrix.id (.home drone wanted))
        (leave matrix.id (locate drone (some matrix.id) wanted))
  | climbs {matrix : Matrix} {drone target : Nat} {changes : DroneChanges} :
      Goes fleet (inside matrix.id (.home drone (.change changes)))
        (seek target (.target drone matrix.id changes))
  | descends {matrix : Matrix} {drone target : Nat} {changes : DroneChanges}
      (standing : fleet.standing? matrix.id = some matrix) (aboard : matrix.owns drone = true) :
      Goes fleet (inside matrix.id (.home drone (.change changes)))
        (leave matrix.id (seek target (.targetFirst drone matrix.id changes)))
  | returns {id drone source : Nat} {changes : DroneChanges} :
      Goes fleet (inside id (.targetFirst drone source changes))
        (seek source (.sourceAgain drone id changes))
  | restarts {matrix : Matrix} {drone target : Nat} {changes : DroneChanges}
      (standing : fleet.standing? matrix.id = some matrix) (absent : matrix.owns drone = false) :
      Goes fleet (inside matrix.id (.sourceAgain drone target changes))
        (leave target (leave matrix.id (locate drone none (.change changes))))
  | refuses_lead {id drone stranger : Nat} {plans : List Plan} :
      Goes fleet (inside id (.home drone (.lead plans))) (mismatch id stranger)
  | refuses_batch {id stranger : Nat} {plans : List Plan} :
      Goes fleet (inside id (.batch plans)) (mismatch id stranger)
  | looks {drone owner : Nat} {last : Option Nat} {wanted : Errand}
      (known : fleet.owner? drone = some owner) (elsewhere : last ≠ some owner) :
      Goes fleet (locate drone last wanted) (seek owner (.home drone wanted))
  | leaves {id : Nat} {next : Stage} : Goes fleet (leave id next) next

inductive Turn (grounded : Bool) (request : Request) (fleet : Fleet) (stage : Stage) :
    Stage → Fleet → Prop
  | goes {next : Stage} (goes : Goes fleet stage next) (serves : next.Serves request) :
      Turn grounded request fleet stage next fleet
  | refused {next : Stage} {refusal : Refusal} (closes : next.Closes (.ofRefusal refusal))
      (misses : ∀ drone, refusal = .unknownDrone drone → stage.Misses fleet drone) :
      Turn grounded request fleet stage next fleet
  | told {next : Stage} {response : Response} (closes : next.Closes response)
      (success : response.isError = false)
      (tells : request.isListing = false → ∀ other : Fleet, other.Sound →
        fleet.Alike stage.holds other → other.dispatch grounded request = (response, other)) :
      Turn grounded request fleet stage next fleet
  | does {next : Stage} {deed : Deed} {response : Response} (apt : deed.Apt stage.holds fleet)
      (entry : next.pending? = deed.entry) (answers : next.Answers response)
      (success : response.isError = false)
      (does : ∀ other : Fleet, other.Sound → fleet.Alike stage.holds other →
        other.dispatch grounded request = (response, deed.complete other)) :
      Turn grounded request fleet stage next (deed.perform fleet)
  | flies {matrix : Matrix} {plans : List Plan}
      (origin : stage = inside matrix.id (.batch plans) ∨
        ∃ drone, stage = inside matrix.id (.home drone (.lead plans)))
      (standing : fleet.standing? matrix.id = some matrix)
      (flies : ∀ outcomes last, Handling.Flown grounded matrix plans outcomes last →
        ∀ other : Fleet, other.Sound → fleet.Alike stage.holds other →
          other.dispatch grounded request = (.batch (.of outcomes last), other.store last)) :
      Turn grounded request fleet stage (.flying matrix.id [] plans) fleet

/-- The step is one of these turns, what comes next finds what it takes for granted, and a matrix that
it claims is one that was held or is new. -/
structure Follows (grounded : Bool) (request : Request) (fleet : Fleet) (stage : Stage)
    (step : Stage × Fleet) : Prop where
  turn : stage.Turn grounded request fleet step.1 step.2
  fits : step.1.Fits step.2
  reserves : ∀ id ∈ step.1.reserves,
    id ∈ stage.holds ∨ fleet.lastMatrix < id ∧ id ≤ step.2.lastMatrix

section Turns

variable {grounded : Bool} {request : Request} {fleet : Fleet} {stage : Stage}

theorem Follows.stays {next : Stage} (follows : Follows grounded request fleet stage (next, fleet)) :
    ∀ id ∈ next.holds, id ∈ stage.holds := by
  intro id member
  rcases follows.reserves id (reserves_of_holds member) with held | ⟨above, within⟩
  · exact held
  · exact absurd within (Nat.not_le_of_lt above)

theorem refused_follows {next : Stage} {refusal : Refusal} (known : refusal.kind ≠ .unknownDrone)
    (closes : next.Closes (.ofRefusal refusal)) (fits : next.Fits fleet)
    (holds : ∀ id ∈ next.holds, id ∈ stage.holds) :
    Follows grounded request fleet stage (next, fleet) := by
  refine ⟨.refused closes ?_, fits, ?_⟩
  · intro drone same
    rw [same] at known
    exact absurd rfl known
  · intro id member
    rw [reserves_eq_holds closes.pending?] at member
    exact .inl (holds id member)

theorem goes_follows {next : Stage} (goes : Goes fleet stage next) (serves : next.Serves request)
    (fits : next.Fits fleet) (holds : ∀ id ∈ next.holds, id ∈ stage.holds) :
    Follows grounded request fleet stage (next, fleet) := by
  refine ⟨.goes goes serves, fits, ?_⟩
  intro id member
  rw [reserves_eq_holds serves.pending?] at member
  exact .inl (holds id member)

theorem leave_fits (id : Nat) (response : Response) : (leave id (done response)).Fits fleet := by
  simp [Fits, pending?, holds]

theorem leave_holds {id : Nat} (held : id ∈ stage.holds) (response : Response) :
    ∀ other ∈ (leave id (done response)).holds, other ∈ stage.holds := by
  simpa [holds] using held

theorem told_follows {id : Nat} (held : id ∈ stage.holds) {response : Response}
    (success : response.isError = false)
    (tells : request.isListing = false → ∀ other : Fleet, other.Sound →
      fleet.Alike stage.holds other → other.dispatch grounded request = (response, other)) :
    Follows grounded request fleet stage (leave id (done response), fleet) := by
  refine ⟨.told rfl success tells, leave_fits id response, ?_⟩
  intro other member
  exact .inl (leave_holds held response other member)

theorem revised_follows {matrix revised : Matrix} (held : matrix.id ∈ stage.holds)
    (standing : fleet.standing? matrix.id = some matrix) (sound : revised.Sound)
    (kin : matrix.Kin revised) {response : Response} (success : response.isError = false)
    (does : ∀ other : Fleet, other.Sound → fleet.Alike stage.holds other →
      other.dispatch grounded request = (response, other.store revised)) :
    Follows grounded request fleet stage
      (leave matrix.id (done response), fleet.store revised) := by
  have apt : Deed.Apt stage.holds fleet (.revise revised) := by
    refine ⟨?_, sound, matrix, ?_, kin⟩
    · rw [kin.id]
      exact held
    · rw [kin.id]
      exact standing
  refine ⟨.does apt rfl rfl success does, leave_fits matrix.id response, ?_⟩
  intro other member
  exact .inl (leave_holds held response other member)

theorem muster_follows {matrixId : Option Nat} {plans : List Plan} {first : Nat} {matrix : Matrix}
    (held : matrix.id ∈ stage.holds) (standing : fleet.standing? matrix.id = some matrix)
    (origin : stage = inside matrix.id (.batch plans) ∨
      ∃ drone, stage = inside matrix.id (.home drone (.lead plans)))
    (flies : request.Flies matrixId plans) (leads : Plan.leader plans = .ok first)
    (found : ∀ other : Fleet, other.Sound → other.standing? matrix.id = some matrix →
      (Handling.ground matrixId first).on other = (.ok matrix, other)) :
    Follows grounded request fleet stage (muster matrix plans, fleet) := by
  cases strange : matrix.stranger? plans with
  | some drone =>
    simp only [muster, strange]
    refine goes_follows ?_ ?_ ?_ ?_
    · rcases origin with rfl | ⟨leader, rfl⟩
      · exact .refuses_batch
      · exact .refuses_lead
    · exact trivial
    · exact trivial
    · simpa [holds] using held
  | none =>
    simp only [muster, strange]
    refine ⟨.flies origin standing ?_, ⟨matrix, standing, ?_⟩, ?_⟩
    · intro outcomes last flown other sound alike
      have stands := alike.stands held standing
      exact Fleet.dispatch_flies flies
        (Handling.on_batch leads (found other sound stands) stands strange flown)
    · intro plan member
      have absent := List.find?_eq_none.mp strange plan.droneId (List.mem_map_of_mem member)
      simpa using absent
    · intro id member
      exact .inl (by simpa [reserves, holds, List.mem_singleton.mp member] using held)

theorem remove_follows {matrix : Matrix} {drone : Nat} (held : matrix.id ∈ stage.holds)
    (clear : fleet.Clear stage.holds) (standing : fleet.standing? matrix.id = some matrix)
    (aboard : matrix.owns drone = true) (asked : request = .deleteDrone drone) :
    Follows grounded request fleet stage (errand grounded fleet matrix drone .remove) := by
  obtain ⟨record, left, name, leftSound, leaves, discharges⟩ :=
    Handling.discharge_result (clear.toFirm.standing standing).2 aboard
  have apt : Deed.Apt stage.holds fleet (.discharge left drone) := by
    refine ⟨name ▸ held, leftSound, matrix, name ▸ standing, aboard, leaves⟩
  rw [errand, after_on (discharges stage.holds fleet fleet (.refl _ _))]
  refine ⟨.does apt rfl rfl rfl ?_, ?_, ?_⟩
  · intro other sound alike
    have stands := alike.stands held standing
    apply Fleet.dispatch_eq
    simp only [asked, Request.handle, Handling.on_bind, Handling.on_home sound stands aboard,
      discharges _ _ _ alike, Handling.on_assign, Handling.on_pure]
    rfl
  · have owner : fleet.owner? drone = some matrix.id :=
      (clear.directory _ held drone).mpr ((Fleet.standing_houses standing).mpr aboard)
    refine ⟨rfl, leave_fits _ _, ⟨matrix.id, .inr owner⟩, ?_⟩
    intro id known
    rcases known with none | known
    · cases none
    · have same : id = matrix.id := Option.some.inj (known.symm.trans owner)
      subst same
      refine ⟨List.mem_singleton_self _, left, ?_⟩
      rw [Deed.perform, Fleet.store_standing?, if_pos name.symm]
  · intro id member
    exact .inl (leave_holds held (.deleted drone) id member)

theorem change_follows {matrix : Matrix} {drone : Nat} {changes : DroneChanges}
    (here : stage = inside matrix.id (.home drone (.change changes)))
    (clear : fleet.Clear stage.holds) (standing : fleet.standing? matrix.id = some matrix)
    (aboard : matrix.owns drone = true) (asked : request = .updateDrone drone changes) :
    Follows grounded request fleet stage
      (errand grounded fleet matrix drone (.change changes)) := by
  have held : matrix.id ∈ stage.holds := here ▸ List.mem_cons_self
  have sound := (clear.toFirm.standing standing).2
  subst asked
  simp only [errand]
  split
  · rename_i stays
    rcases Handling.revise_result sound aboard changes with
      ⟨refusal, known, refuses⟩ | ⟨record, revised, revisedSound, kin, revises⟩
    · rw [after_on (refuses fleet)]
      exact refused_follows known rfl (leave_fits _ _) (leave_holds held _)
    · rw [after_on (revises stage.holds fleet fleet (.refl _ _))]
      apply revised_follows held standing revisedSound kin rfl
      intro other sound alike
      have stands := alike.stands held standing
      apply Fleet.dispatch_eq
      simp only [Request.handle, Handling.update, Handling.on_bind,
        Handling.on_home sound stands aboard, stays, if_true, revises _ _ _ alike,
        Handling.on_pure]
      rfl
  · rename_i moves
    have goal : changes.matrixId = some (changes.matrixId.getD matrix.id) := by
      cases wanted : changes.matrixId with
      | none => simp [wanted] at moves
      | some id => rfl
    split
    · rename_i upwards
      refine goes_follows ?_ ?_ ?_ ?_
      · exact here ▸ .climbs
      · exact ⟨rfl, goal⟩
      · exact ⟨upwards, matrix, standing, aboard⟩
      · simpa [holds, Purpose.held] using held
    · rename_i downwards
      refine goes_follows ?_ ?_ ?_ ?_
      · exact here ▸ .descends standing aboard
      · exact ⟨rfl, goal⟩
      · refine ⟨rfl, ?_, List.not_mem_nil⟩
        exact Nat.lt_of_le_of_ne (Nat.le_of_not_lt downwards) moves
      · simpa [holds, Purpose.held] using held

theorem errand_follows {matrix : Matrix} {drone : Nat} {wanted : Errand}
    (here : stage = inside matrix.id (.home drone wanted)) (clear : fleet.Clear stage.holds)
    (standing : fleet.standing? matrix.id = some matrix) (aboard : matrix.owns drone = true)
    (serves : wanted.Serves request drone) :
    Follows grounded request fleet stage (errand grounded fleet matrix drone wanted) := by
  have held : matrix.id ∈ stage.holds := here ▸ List.mem_cons_self
  have sound := (clear.toFirm.standing standing).2
  have stands : ∀ other : Fleet, fleet.Alike stage.holds other →
      other.standing? matrix.id = some matrix :=
    fun other alike => alike.stands held standing
  cases wanted with
  | look =>
    cases serves
    obtain ⟨record, present⟩ := Matrix.owns_iff.mp aboard
    rw [errand, after_on (Handling.on_record present fleet)]
    apply told_follows held rfl
    intro _ other sound alike
    apply Fleet.dispatch_eq
    simp only [Request.handle, Handling.on_bind, Handling.on_home sound (stands other alike) aboard,
      Handling.on_record present, Handling.on_pure]
    rfl
  | remove => exact remove_follows held clear standing aboard serves
  | fly commands =>
    obtain ⟨input, rfl, parsed⟩ := serves
    obtain ⟨report, flown, flownSound, kin, flew⟩ :=
      Handling.flySingle_result grounded sound aboard commands
    rw [errand, after_on (flew fleet standing)]
    apply revised_follows held standing flownSound kin rfl
    intro other sound alike
    apply Fleet.dispatch_eq
    simp only [Request.handle, parsed, Handling.on_bind,
      Handling.on_home sound (stands other alike) aboard, flew other (stands other alike),
      Handling.on_pure]
    rfl
  | lead plans =>
    obtain ⟨flies, leads⟩ := serves
    apply muster_follows held standing (.inr ⟨drone, here⟩) flies leads
    intro other sound stands
    exact Handling.on_home sound stands aboard
  | change changes => exact change_follows here clear standing aboard serves

theorem move_follows (clear : fleet.Clear stage.holds) {source target : Matrix} {drone : Nat}
    {changes : DroneChanges} (held : source.id ∈ stage.holds) (held' : target.id ∈ stage.holds)
    (apart : source.id ≠ target.id) (standing : fleet.standing? source.id = some source)
    (standing' : fleet.standing? target.id = some target) (aboard : source.owns drone = true)
    (asked : request = .updateDrone drone changes) (goal : changes.matrixId = some target.id) :
    Follows grounded request fleet stage (move fleet drone source target changes) := by
  have home := (Fleet.standing_houses standing).mpr aboard
  have absent : target.owns drone = false := by
    cases both : target.owns drone with
    | false => rfl
    | true =>
      exact absurd (clear.single _ _ _ home ((Fleet.standing_houses standing').mpr both)) apart
  have lands : ∀ response, (leave target.id (leave source.id (done response))).Fits fleet := by
    intro response
    simp [Fits, pending?, holds, Ne.symm apart]
  have keeps : ∀ response, ∀ id ∈ (leave target.id (leave source.id (done response))).holds,
      id ∈ stage.holds := by
    intro response id member
    simp only [holds, List.mem_cons, List.not_mem_nil, or_false] at member
    rcases member with rfl | rfl
    · exact held'
    · exact held
  unfold move
  rcases Handling.transfer_result (clear.toFirm.standing standing).2
      (clear.toFirm.standing standing').2 aboard absent changes with
    ⟨refusal, known, refuses⟩ | ⟨record, left, joined, leftId, joinedId, leftSound, joinedSound,
      leaves, joins, transfers⟩
  · rw [after_on (refuses fleet)]
    exact refused_follows known rfl (lands _) (keeps _)
  · have apt : Deed.Apt stage.holds fleet (.transfer left joined drone) :=
      ⟨leftId ▸ held, joinedId ▸ held', by rw [leftId, joinedId]; exact apart, leftSound, joinedSound,
        source, target, leftId ▸ standing, joinedId ▸ standing', aboard, leaves, joins⟩
    have entry : Deed.entry (.transfer left joined drone) =
        some (.assign drone (some target.id)) := by
      rw [Deed.entry, joinedId]
    have stands : ∀ id, (Deed.perform (.transfer left joined drone) fleet).standing? id =
        if id = target.id then some joined else if id = source.id then some left
        else fleet.standing? id := by
      intro id
      simp only [Deed.perform, Fleet.store_standing?, leftId, joinedId]
    rw [after_on (transfers stage.holds fleet fleet (.refl _ _))]
    refine ⟨.does apt entry.symm rfl rfl ?_, ?_, ?_⟩
    · intro other sound alike
      have there := alike.stands held standing
      have there' := alike.stands held' standing'
      have elsewhere : ¬ target.id = source.id := Ne.symm apart
      apply Fleet.dispatch_eq
      simp only [asked, Request.handle, Handling.update, Handling.on_bind,
        Handling.on_home sound there aboard, goal, Option.getD_some, elsewhere, if_false,
        Handling.on_seek sound there', transfers _ _ _ alike, Handling.on_assign,
        Handling.on_pure, Deed.complete, entry]
      rfl
    · have owner : fleet.owner? drone = some source.id :=
        (clear.directory _ held drone).mpr home
      refine ⟨rfl, by simp [Fits, pending?, holds, Ne.symm apart], ⟨target.id, .inl rfl⟩, ?_⟩
      intro id known
      simp only [holds, List.mem_cons, List.not_mem_nil, or_false, stands]
      rcases known with known | known
      · cases known
        exact ⟨.inl rfl, joined, if_pos rfl⟩
      · have same : id = source.id := Option.some.inj (known.symm.trans owner)
        subst same
        refine ⟨.inr rfl, left, ?_⟩
        rw [if_neg apart, if_pos rfl]
    · intro id member
      exact .inl (keeps (.drone record) id member)

/-- A step that finds nothing to do: the request goes on, is refused, or has come to the end of a
listing. -/
def Passes (request : Request) (next : Stage) : Prop :=
  next.Serves request ∨
  (∃ refusal, refusal.kind ≠ .unknownDrone ∧ next.Closes (.ofRefusal refusal)) ∨
  request.isListing = true ∧ ∃ response, response.isError = false ∧ next.Closes response

theorem passes_follows {next : Stage} (goes : Goes fleet stage next)
    (passes : next.Passes request) (fits : next.Fits fleet)
    (keeps : ∀ id ∈ next.holds, id ∈ stage.holds) :
    Follows grounded request fleet stage (next, fleet) := by
  rcases passes with serves | ⟨refusal, known, closes⟩ | ⟨lists, response, success, closes⟩
  · exact goes_follows goes serves fits keeps
  · exact refused_follows known closes fits keeps
  · refine ⟨.told closes success ?_, fits, ?_⟩
    · intro plain
      rw [lists] at plain
      cases plain
    · intro id member
      rw [reserves_eq_holds closes.pending?] at member
      exact .inl (keeps id member)

theorem visit_passes {listing : Listing} {ahead : List Nat} (seen : List MatrixView)
    (built : ∀ id ∈ ahead, fleet.Built id) (asked : request = listing.request) :
    (visit listing seen ahead).Passes request ∧ (visit listing seen ahead).Fits fleet ∧
      (visit listing seen ahead).holds = [] ∧ (visit listing seen ahead).pending? = none := by
  cases ahead with
  | nil =>
    refine ⟨.inr (.inr ⟨asked ▸ listing.request_isListing, listing.response seen, ?_, rfl⟩),
      trivial, rfl, rfl⟩
    cases listing <;> rfl
  | cons id rest =>
    have later : ∀ other ∈ rest, fleet.Built other := fun other member =>
      built other (List.mem_cons_of_mem _ member)
    exact ⟨.inl asked, ⟨built id List.mem_cons_self, later⟩, rfl, rfl⟩

theorem missing_passes {id : Nat} {purpose : Purpose} (fits : purpose.Fits fleet id)
    (serves : purpose.Serves request id) :
    (missing id purpose).Passes request ∧ (missing id purpose).Fits fleet ∧
      (∀ other ∈ (missing id purpose).holds, other ∈ purpose.held) ∧
      (missing id purpose).pending? = none := by
  have unknown : ∀ refusal, refusal = .unknownMatrix id →
      (refused refusal).Passes request := by
    rintro refusal rfl
    exact .inr (.inl ⟨.unknownMatrix id, by simp [Refusal.kind], rfl⟩)
  cases purpose with
  | survey listing ahead seen =>
    obtain ⟨passes, visitFits, none, entry⟩ := visit_passes seen fits serves
    exact ⟨passes, visitFits, by simp [missing, none], entry⟩
  | home drone errand => exact ⟨.inl serves, trivial, by simp [missing, holds], rfl⟩
  | target drone source changes =>
    refine ⟨.inr (.inl ⟨.unknownMatrix id, by simp [Refusal.kind], rfl⟩), leave_fits _ _, ?_, rfl⟩
    simp [missing, holds, refused, Purpose.held]
  | sourceAgain drone target changes =>
    refine ⟨.inl serves.1, ⟨rfl, trivial, List.not_mem_nil⟩, ?_, rfl⟩
    simp [missing, holds, Purpose.held]
  | view => exact ⟨unknown _ rfl, trivial, by simp [missing, refused, holds], rfl⟩
  | resize bounds => exact ⟨unknown _ rfl, trivial, by simp [missing, refused, holds], rfl⟩
  | delete => exact ⟨unknown _ rfl, trivial, by simp [missing, refused, holds], rfl⟩
  | enroll new => exact ⟨unknown _ rfl, trivial, by simp [missing, refused, holds], rfl⟩
  | targetFirst drone source changes =>
    exact ⟨unknown _ rfl, trivial, by simp [missing, refused, holds], rfl⟩
  | batch plans => exact ⟨unknown _ rfl, trivial, by simp [missing, refused, holds], rfl⟩

theorem leave_passes {id : Nat} {next : Stage} (passes : next.Passes request) :
    (leave id next).Passes request := passes

theorem ofPlans_passes {matrixId : Option Nat} {plans : List Plan}
    (flies : request.Flies matrixId plans) :
    (ofPlans matrixId plans).Passes request ∧ (ofPlans matrixId plans).Fits fleet ∧
      (ofPlans matrixId plans).holds = [] := by
  cases leads : Plan.leader plans with
  | error refusal =>
    have known : refusal.kind ≠ .unknownDrone := by
      cases plans with
      | nil => cases leads; simp [Refusal.kind]
      | cons plan rest =>
        simp only [Plan.leader] at leads
        split at leads <;> cases leads
        simp [Refusal.kind]
    simp only [ofPlans, leads]
    exact ⟨.inr (.inl ⟨refusal, known, rfl⟩), trivial, rfl⟩
  | ok first =>
    simp only [ofPlans, leads]
    cases matrixId with
    | none => exact ⟨.inl ⟨flies, leads⟩, trivial, rfl⟩
    | some id => exact ⟨.inl ⟨flies, first, leads⟩, trivial, rfl⟩

private theorem ofEntries_kind {entries : List BatchEntry} {refusal : Refusal}
    (failed : Plan.ofEntries entries = .error refusal) : refusal.kind ≠ .unknownDrone := by
  induction entries with
  | nil => cases failed
  | cons entry rest ih =>
    simp only [Plan.ofEntries, bind, Except.bind, Plan.ofEntry] at failed
    cases parsed : entry.commands.parse with
    | error fault =>
      simp only [parsed, Except.error.injEq] at failed
      simp [← failed, Refusal.kind]
    | ok commands =>
      simp only [parsed] at failed
      cases more : Plan.ofEntries rest with
      | error other =>
        simp only [more, Except.error.injEq] at failed
        subst failed
        exact ih more
      | ok plans => simp [more, pure, Except.pure] at failed

theorem ofRequest_passes (fleet : Fleet) (request : Request) :
    (ofRequest request).Passes request ∧ (ofRequest request).Fits fleet ∧
      (ofRequest request).holds = [] := by
  cases request with
  | createDrone new => exact ⟨.inl ⟨rfl, rfl⟩, trivial, rfl⟩
  | droneCommands droneId input =>
    cases parsed : input.parse with
    | error fault =>
      simp only [ofRequest, parsed]
      exact ⟨.inr (.inl ⟨_, by simp [Refusal.kind], rfl⟩), trivial, rfl⟩
    | ok commands =>
      simp only [ofRequest, parsed]
      exact ⟨.inl ⟨input, rfl, parsed⟩, trivial, rfl⟩
  | matrixDroneCommands matrixId droneIds input =>
    cases parsed : input.parse with
    | error fault =>
      simp only [ofRequest, parsed]
      exact ⟨.inr (.inl ⟨_, by simp [Refusal.kind], rfl⟩), trivial, rfl⟩
    | ok commands =>
      simp only [ofRequest, parsed]
      exact ofPlans_passes (.inl ⟨droneIds, input, commands, rfl, parsed, rfl⟩)
  | batchCommands matrixId entries =>
    cases parsed : Plan.ofEntries entries with
    | error refusal =>
      simp only [ofRequest, parsed]
      exact ⟨.inr (.inl ⟨refusal, ofEntries_kind parsed, rfl⟩), trivial, rfl⟩
    | ok plans =>
      simp only [ofRequest, parsed]
      exact ofPlans_passes (.inr ⟨entries, rfl, parsed⟩)
  | _ => exact ⟨.inl rfl, trivial, rfl⟩

theorem resize_follows {matrix : Matrix} {bounds : Bounds}
    (standing : fleet.standing? matrix.id = some matrix) (sound : matrix.Sound)
    (asked : request = .updateMatrix matrix.id bounds.maxX bounds.maxY) :
    Follows grounded request fleet (inside matrix.id (.resize bounds))
      (act grounded fleet matrix (.resize bounds)) := by
  have held : matrix.id ∈ (inside matrix.id (.resize bounds)).holds := List.mem_cons_self
  simp only [act]
  rcases Handling.resize_result sound bounds with
    ⟨refusal, known, refuses⟩ | ⟨resized, resizedSound, kin, resizes⟩
  · rw [after_on (refuses fleet)]
    exact refused_follows known rfl (leave_fits _ _) (leave_holds held _)
  · rw [after_on (resizes _ fleet fleet (.refl (inside matrix.id (.resize bounds)).holds fleet))]
    apply revised_follows held standing resizedSound kin rfl
    intro other sound alike
    have stands := alike.stands held standing
    apply Fleet.dispatch_eq
    simp only [asked, Request.handle, Handling.on_bind, Handling.on_seek sound stands,
      resizes _ _ _ alike, Handling.on_pure]
    rfl

theorem delete_follows {matrix : Matrix} (standing : fleet.standing? matrix.id = some matrix)
    (asked : request = .deleteMatrix matrix.id) :
    Follows grounded request fleet (inside matrix.id .delete)
      (act grounded fleet matrix .delete) := by
  have held : matrix.id ∈ (inside matrix.id .delete).holds := List.mem_cons_self
  simp only [act]
  rcases Handling.retire_result matrix with ⟨refusal, known, refuses⟩ | ⟨deserted, retires⟩
  · rw [after_on (refuses fleet)]
    exact refused_follows known rfl (leave_fits _ _) (leave_holds held _)
  · have apt : Deed.Apt (inside matrix.id .delete).holds fleet (.retire matrix) :=
      ⟨held, standing, deserted⟩
    rw [after_on (retires _ fleet fleet (.refl (inside matrix.id .delete).holds fleet))]
    refine ⟨.does apt rfl rfl rfl ?_, ?_, ?_⟩
    · intro other sound alike
      have stands := alike.stands held standing
      apply Fleet.dispatch_eq
      simp only [asked, Request.handle, Handling.on_bind, Handling.on_seek sound stands,
        retires _ _ _ alike, Handling.on_modify, Handling.on_pure]
      rfl
    · exact ⟨rfl, leave_fits _ _, List.mem_singleton_self _⟩
    · intro id member
      exact .inl (leave_holds held (.deleted matrix.id) id member)

theorem enroll_follows (firm : fleet.Firm) {matrix : Matrix} {new : NewDrone}
    (standing : fleet.standing? matrix.id = some matrix) (asked : request = .createDrone new)
    (goal : new.matrixId = matrix.id) :
    Follows grounded request fleet (inside matrix.id (.enroll new))
      (act grounded fleet matrix (.enroll new)) := by
  have held : matrix.id ∈ (inside matrix.id (.enroll new)).holds := List.mem_cons_self
  simp only [act]
  rcases Handling.enroll_result firm standing new with
    ⟨refusal, known, refuses⟩ | ⟨drone, placed, number, name, placedSound, joins, enrolls⟩
  · rw [after_on (refuses fleet)]
    exact refused_follows known rfl (leave_fits _ _) (leave_holds held _)
  · have apt : Deed.Apt (inside matrix.id (.enroll new)).holds fleet (.enroll placed drone.id) :=
      ⟨name ▸ held, placedSound, number, matrix, name ▸ standing, joins⟩
    have entry : Deed.entry (.enroll placed drone.id) =
        some (.assign drone.id (some matrix.id)) := by
      rw [Deed.entry, name]
    rw [after_on (enrolls _ fleet (.refl (inside matrix.id (.enroll new)).holds fleet))]
    refine ⟨.does apt entry.symm rfl rfl ?_, ?_, ?_⟩
    · intro other sound alike
      have stands := alike.stands held standing
      apply Fleet.dispatch_eq
      simp only [asked, Request.handle, goal, Handling.on_bind, Handling.on_seek sound stands,
        enrolls _ other alike, Handling.on_assign, Handling.on_pure, Deed.complete, entry]
      rfl
    · refine ⟨rfl, leave_fits _ _, ⟨matrix.id, .inl rfl⟩, ?_⟩
      intro id known
      rcases known with known | known
      · cases known
        refine ⟨List.mem_singleton_self _, placed, ?_⟩
        rw [Deed.perform, Fleet.store_standing?, if_pos name.symm]
      · have early : drone.id ≤ fleet.lastDrone := firm.registered drone.id id known
        rw [number] at early
        exact absurd early (Nat.not_succ_le_self _)
    · intro id member
      exact .inl (leave_holds held (.drone drone) id member)

theorem act_follows {matrix : Matrix} {purpose : Purpose}
    (clear : fleet.Clear (inside matrix.id purpose).holds)
    (standing : fleet.standing? matrix.id = some matrix) (fits : purpose.Fits fleet matrix.id)
    (serves : purpose.Serves request matrix.id) :
    Follows grounded request fleet (inside matrix.id purpose)
      (act grounded fleet matrix purpose) := by
  have held : matrix.id ∈ (inside matrix.id purpose).holds := List.mem_cons_self
  cases purpose with
  | survey listing ahead seen =>
    obtain ⟨passes, visitFits, none, entry⟩ :=
      visit_passes (seen ++ [matrix.view]) fits serves
    apply passes_follows .views (leave_passes passes)
    · exact ⟨entry, visitFits, by simp [none]⟩
    · simp [holds, none]
  | view =>
    cases serves
    apply told_follows held rfl
    intro _ other sound alike
    have stands := alike.stands held standing
    apply Fleet.dispatch_eq
    simp only [Request.handle, Handling.on_bind, Handling.on_seek sound stands, Handling.on_pure]
  | resize bounds => exact resize_follows standing (clear.toFirm.standing standing).2 serves
  | delete => exact delete_follows standing serves
  | enroll new => exact enroll_follows clear.toFirm standing serves.1 serves.2
  | home drone wanted =>
    simp only [act]
    split
    · rename_i aboard
      exact errand_follows rfl clear standing aboard serves
    · rename_i absent
      refine goes_follows ?_ ?_ ?_ ?_
      · exact .strays standing (Bool.eq_false_iff.mpr absent)
      · exact serves
      · exact ⟨rfl, trivial, List.not_mem_nil⟩
      · simp [holds]
  | target drone source changes =>
    obtain ⟨below, before, standing', aboard⟩ := fits
    have name := (clear.toFirm.standing standing').1
    subst name
    simp only [act, standing']
    exact move_follows clear (by simp [holds, Purpose.held]) held (Nat.ne_of_lt below) standing'
      standing aboard serves.1 serves.2
  | targetFirst drone source changes =>
    refine goes_follows ?_ ?_ ?_ ?_
    · exact .returns
    · exact serves
    · exact ⟨fits, matrix, standing⟩
    · simp [holds, Purpose.held]
  | sourceAgain drone target changes =>
    obtain ⟨below, before, standing'⟩ := fits
    have name := (clear.toFirm.standing standing').1
    subst name
    simp only [act, standing']
    split
    · rename_i aboard
      exact move_follows clear held (by simp [holds, Purpose.held]) (Nat.ne_of_gt below) standing
        standing' aboard serves.1 serves.2
    · rename_i absent
      refine goes_follows ?_ ?_ ?_ ?_
      · exact .restarts standing (Bool.eq_false_iff.mpr absent)
      · exact serves.1
      · refine ⟨rfl, ⟨rfl, trivial, List.not_mem_nil⟩, ?_⟩
        simp [holds, Nat.ne_of_lt below]
      · simp [holds, Purpose.held]
  | batch plans =>
    obtain ⟨flies, first, leads⟩ := serves
    apply muster_follows held standing (.inl rfl) flies leads
    intro other sound stands
    exact Handling.on_seek sound stands

private theorem found_follows (firm : fleet.Firm) {maxX maxY : UInt32}
    (asked : request = .createMatrix maxX maxY) :
    Follows grounded request fleet stage
      (next grounded fleet (start (.createMatrix maxX maxY))) := by
  have founds : Handling.Does stage.holds fleet (Handling.found ⟨maxX, maxY⟩) _ _ :=
    Handling.found_does ⟨maxX, maxY⟩
  have apt : Deed.Apt stage.holds fleet
      (.found (.new (fleet.lastMatrix + 1) ⟨maxX, maxY⟩)) := ⟨_, rfl⟩
  simp only [next]
  rw [after_on (founds fleet (.refl _ _))]
  refine ⟨.does apt rfl rfl rfl ?_, ?_, ?_⟩
  · intro other sound alike
    apply Fleet.dispatch_eq
    simp only [asked, Request.handle, Handling.on_bind, founds other alike, Handling.on_modify,
      Handling.on_pure]
    rfl
  · refine ⟨?_, _, rfl⟩
    cases found : fleet.slots.get? (fleet.lastMatrix + 1) with
    | none => exact found
    | some slot => exact absurd (firm.numbered _ _ found) (Nat.not_succ_le_self _)
  · intro id member
    have same : id = fleet.lastMatrix + 1 := List.mem_singleton.mp member
    exact .inr ⟨same ▸ Nat.lt_succ_self _, Nat.le_of_eq same⟩

/-- Every step of a request that is being pursued, other than taking a matrix. -/
theorem next_follows (clear : fleet.Clear stage.holds) (fits : stage.Fits fleet)
    (serves : stage.Serves request) (moves : ∀ id purpose, stage ≠ enter id purpose) :
    Follows grounded request fleet stage (stage.next grounded fleet) := by
  cases stage with
  | start other =>
    cases serves
    cases request with
    | createMatrix maxX maxY => exact found_follows clear.toFirm rfl
    | _ =>
      unfold next
      obtain ⟨passes, startFits, none⟩ := ofRequest_passes fleet _
      exact passes_follows (.starts nofun) passes startFits (by simp [none])
  | survey listing =>
    have built : ∀ id ∈ fleet.listed.keys, fleet.Built id := by
      intro id member
      obtain ⟨_, found⟩ := Table.mem_keys.mp member
      exact clear.shelved id (Table.contains_iff.mpr ⟨_, found⟩)
    obtain ⟨passes, visitFits, none, _⟩ := visit_passes [] built serves
    exact passes_follows (.surveys listing) passes visitFits (by simp [none])
  | seek id purpose =>
    simp only [next]
    split
    · rename_i listed
      refine goes_follows ?_ ?_ ?_ ?_
      · exact .finds listed
      · exact serves
      · exact ⟨clear.shelved id listed, fits⟩
      · simp [holds]
    · rename_i unlisted
      obtain ⟨passes, missingFits, keeps, _⟩ := missing_passes fits serves
      exact passes_follows (.misses (Bool.eq_false_iff.mpr unlisted)) passes missingFits keeps
  | enter id purpose => exact absurd rfl (moves id purpose)
  | inside id purpose =>
    simp only [next]
    split
    · rename_i matrix standing
      have name := (clear.toFirm.standing standing).1
      subst name
      exact act_follows clear standing fits serves
    · rename_i gone
      obtain ⟨passes, missingFits, keeps, entry⟩ := missing_passes fits serves
      apply passes_follows (.finds_gone gone) (leave_passes passes)
      · refine ⟨entry, missingFits, ?_⟩
        intro member
        exact absurd (Purpose.Fits.below fits id (keeps id member)) (Nat.lt_irrefl id)
      · intro other member
        rcases List.mem_cons.mp member with rfl | inside
        · exact List.mem_cons_self
        · exact List.mem_cons_of_mem _ (keeps other inside)
  | locate drone last wanted =>
    have unknown : fleet.owner? drone = none ∨ fleet.owner? drone = last →
        Follows grounded request fleet (locate drone last wanted)
          (refused (.unknownDrone drone), fleet) := by
      intro missed
      have closes : Closes (.ofRefusal (.unknownDrone drone)) (refused (.unknownDrone drone)) := rfl
      refine ⟨.refused closes ?_, trivial, ?_⟩
      · intro other same
        cases same
        exact ⟨rfl, missed⟩
      · intro id member
        cases member
    simp only [next]
    cases known : fleet.owner? drone with
    | none => exact unknown (.inl known)
    | some owner =>
      simp only
      split
      · rename_i returned
        exact unknown (.inr (known.trans returned.symm))
      · rename_i elsewhere
        refine goes_follows ?_ ?_ ?_ ?_
        · exact .looks known elsewhere
        · exact serves
        · exact trivial
        · simp [holds, Purpose.held]
  | leave id next =>
    refine goes_follows ?_ ?_ ?_ ?_
    · exact .leaves
    · exact serves
    · exact fits.2.1
    · exact fun other member => List.mem_cons_of_mem _ member
  | mismatch id drone =>
    simp only [next]
    cases known : fleet.owner? drone with
    | some owner =>
      exact refused_follows (by simp [Refusal.kind]) rfl (leave_fits _ _)
        (leave_holds List.mem_cons_self _)
    | none =>
      have closes : Closes (.ofRefusal (.unknownDrone drone))
          (leave id (refused (.unknownDrone drone))) := rfl
      refine ⟨.refused closes ?_, leave_fits _ _, ?_⟩
      · intro other same
        cases same
        exact ⟨rfl, known⟩
      · intro other member
        exact .inl (leave_holds List.mem_cons_self _ other member)
  | _ => exact serves.elim

end Turns

end Stage

end DroneFleet
