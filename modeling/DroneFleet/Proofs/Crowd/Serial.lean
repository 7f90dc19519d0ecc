import DroneFleet.Proofs.Crowd.Steps
import Mathlib.Data.List.Nodup

/-!
Requests that run among others are handled as if one after another. Each request that succeeds takes
its place in a log at one of its own steps: where it does its deed or sees what it asks for, a batch
already where its drones are found aboard. Beside the whole fleet there is the ideal one, in which the
drones of such a batch have already flown; handling the logged requests one at a time leads to it.
-/
namespace DroneFleet.Crowd

def Replay (requests : List Request) : Fleet → List (Nat × Response) → Fleet → Prop
  | start, [], last => last = start
  | start, (number, response) :: rest, last => ∃ request next,
    requests[number]? = some request ∧ start.dispatch false request = (response, next) ∧
      Replay requests next rest last

theorem Replay.append {requests : List Request} {start middle last : Fleet}
    {log : List (Nat × Response)} (replay : Replay requests start log middle) {number : Nat}
    {request : Request} {response : Response} (asked : requests[number]? = some request)
    (dispatched : middle.dispatch false request = (response, last)) :
    Replay requests start (log ++ [(number, response)]) last := by
  induction log generalizing start with
  | nil =>
    cases replay
    exact ⟨request, last, asked, dispatched, rfl⟩
  | cons entry rest ih =>
    obtain ⟨first, next, asked', dispatched', later⟩ := replay
    exact ⟨first, next, asked', dispatched', ih later⟩

theorem Replay.mono {requests more : List Request} {start last : Fleet}
    {log : List (Nat × Response)}
    (longer : ∀ (number : Nat) (request : Request), requests[number]? = some request →
      more[number]? = some request)
    (replay : Replay requests start log last) : Replay more start log last := by
  induction log generalizing start with
  | nil => exact replay
  | cons entry rest ih =>
    obtain ⟨first, next, asked, dispatched, later⟩ := replay
    exact ⟨first, next, longer _ _ asked, dispatched, ih later⟩

/-- How a request stands to the log: it is not there until it has succeeded, and then with the answer
that it will get. -/
inductive Accounted (fleet ideal : Fleet) (log : List (Nat × Response)) (number : Nat)
    (request : Request) : Stage → Prop
  | pursued {stage : Stage} (serves : stage.Serves request) (absent : number ∉ log.map Prod.fst) :
      Accounted fleet ideal log number request stage
  | failed {stage : Stage} {response : Response} (answers : stage.Answers response)
      (error : response.isError = true) (absent : number ∉ log.map Prod.fst) :
      Accounted fleet ideal log number request stage
  | settled {stage : Stage} {response : Response} (answers : stage.Answers response)
      (success : response.isError = false) (logged : (number, response) ∈ log) :
      Accounted fleet ideal log number request stage
  | flying {id : Nat} {outcomes rest : List DroneOutcome} {ahead : List Plan}
      {matrix last : Matrix} (standing : fleet.standing? id = some matrix)
      (flown : Handling.Flown false matrix ahead rest last)
      (ready : ideal.standing? id = some last)
      (logged : (number, .batch (.of (outcomes ++ rest) last)) ∈ log) :
      Accounted fleet ideal log number request (.flying id outcomes ahead)

def Unflown (stages : Table Nat Stage) (line : Line) : Prop :=
  ∀ number id outcomes ahead, stages.get? number = some (.flying id outcomes ahead) →
    line ≠ .slot id

structure Serial (start : Fleet) (crowd : Crowd) (whole ideal : Fleet)
    (log : List (Nat × Response)) : Prop where
  orderly : crowd.Orderly whole
  calm : crowd.grounded = false
  plain : ∀ request ∈ crowd.requests, request.isListing = false
  sound : ideal.Sound
  lastMatrix : ideal.lastMatrix = whole.lastMatrix
  lastDrone : ideal.lastDrone = whole.lastDrone
  lines : ∀ line : Line, Unflown crowd.stages line → line.Same whole ideal
  accounts : ∀ (number : Nat) (stage : Stage) (request : Request),
    crowd.stages.get? number = some stage → crowd.requests[number]? = some request →
      Accounted crowd.fleet ideal log number request stage
  replay : Replay crowd.requests start log ideal
  once : (log.map Prod.fst).Nodup
  submitted : ∀ number ∈ log.map Prod.fst, number < crowd.requests.length

theorem new_serial {fleet : Fleet} (sound : fleet.Sound) :
    Serial fleet (new fleet) fleet fleet [] where
  orderly := new_orderly sound
  calm := rfl
  plain := by intro _ member; cases member
  sound := sound
  lastMatrix := rfl
  lastDrone := rfl
  lines := fun line _ => .refl fleet line
  accounts := by intro _ _ _ here; cases here
  replay := rfl
  once := .nil
  submitted := by intro _ member; cases member

section Steps

variable {start whole ideal : Fleet} {crowd : Crowd} {log : List (Nat × Response)} {number : Nat}
  {stage next : Stage} {request : Request}

theorem Accounted.frame {fleet fleet' ideal' : Fleet} {other : Nat}
    (accounted : Accounted fleet ideal log other request stage)
    (slots : ∀ id ∈ stage.reserves, Line.Same fleet fleet' (.slot id) ∧
      Line.Same ideal ideal' (.slot id))
    {more : List (Nat × Response)} (apart : other ∉ more.map Prod.fst) :
    Accounted fleet' ideal' (log ++ more) other request stage := by
  have still : other ∉ log.map Prod.fst → other ∉ (log ++ more).map Prod.fst := by
    intro absent member
    rw [List.map_append, List.mem_append] at member
    exact member.elim absent apart
  cases accounted with
  | pursued serves absent => exact .pursued serves (still absent)
  | failed answers error absent => exact .failed answers error (still absent)
  | settled answers success logged => exact .settled answers success (List.mem_append_left _ logged)
  | flying standing flown ready logged =>
    obtain ⟨same, same'⟩ := slots _ (List.mem_singleton_self _)
    exact .flying ((Fleet.standing?_congr same).trans standing) flown
      ((Fleet.standing?_congr same').trans ready) (List.mem_append_left _ logged)

/-- A request that has not succeeded yet cannot tell the ideal fleet from the one that it sees. -/
theorem Serial.alike (serial : Serial start crowd whole ideal log)
    (here : crowd.stages.get? number = some stage) (serves : stage.Serves request) :
    crowd.fleet.Alike stage.holds ideal := by
  have alike := serial.orderly.alike here serves.pending?
  refine ⟨serial.lastMatrix.trans alike.lastMatrix, serial.lastDrone.trans alike.lastDrone, ?_⟩
  intro id held
  rw [← alike.standing id held]
  apply Fleet.standing?_congr
  apply serial.lines
  rintro other _ outcomes ahead there ⟨⟩
  by_cases same : other = number
  · subst same
    rw [here] at there
    cases there
    exact serves
  · exact serial.orderly.apart number other stage _ (Ne.symm same) here there id
      (Stage.reserves_of_holds held) (List.mem_singleton_self _)

theorem Serial.extend (serial : Serial start crowd whole ideal log)
    {after settled ideal' : Fleet} {more : List (Nat × Response)}
    (orderly : ({ crowd with fleet := after }.moveTo number next).Orderly settled)
    (asked : crowd.requests[number]? = some request) (sound : ideal'.Sound)
    (lastMatrix : ideal'.lastMatrix = settled.lastMatrix)
    (lastDrone : ideal'.lastDrone = settled.lastDrone)
    (lines : ∀ line : Line, Unflown (crowd.stages.insert number next) line →
      line.Same settled ideal')
    (others : ∀ other found, other ≠ number → crowd.stages.get? other = some found →
      ∀ id ∈ found.reserves, Line.Same crowd.fleet after (.slot id) ∧
        Line.Same ideal ideal' (.slot id))
    (accounted : Accounted after ideal' (log ++ more) number request next)
    (mine : ∀ other ∈ more.map Prod.fst, other = number)
    (replay : Replay crowd.requests start (log ++ more) ideal')
    (once : ((log ++ more).map Prod.fst).Nodup) :
    Serial start ({ crowd with fleet := after }.moveTo number next) settled ideal'
      (log ++ more) where
  orderly := orderly
  calm := serial.calm
  plain := serial.plain
  sound := sound
  lastMatrix := lastMatrix
  lastDrone := lastDrone
  lines := lines
  accounts other found request' there asked' := by
    rcases insert_cases there with ⟨rfl, rfl⟩ | ⟨different, old⟩
    · have same : crowd.requests[other]? = some request' := asked'
      rw [asked] at same
      cases same
      exact accounted
    · apply (serial.accounts other found request' old asked').frame
      · exact others other found different old
      · exact fun member => different (mine other member)
  replay := replay
  once := once
  submitted other member := by
    rw [List.map_append, List.mem_append] at member
    rcases member with earlier | new
    · exact serial.submitted other earlier
    · rw [mine other new]
      exact (List.getElem?_eq_some_iff.mp asked).1

theorem Serial.keep (serial : Serial start crowd whole ideal log)
    {after settled : Fleet}
    (orderly : ({ crowd with fleet := after }.moveTo number next).Orderly settled)
    (asked : crowd.requests[number]? = some request)
    (lastMatrix : settled.lastMatrix = whole.lastMatrix)
    (lastDrone : settled.lastDrone = whole.lastDrone)
    (lines : ∀ line : Line, Unflown (crowd.stages.insert number next) line →
      line.Same settled ideal)
    (others : ∀ other found, other ≠ number → crowd.stages.get? other = some found →
      ∀ id ∈ found.reserves, Line.Same crowd.fleet after (.slot id))
    (accounted : Accounted after ideal log number request next) :
    Serial start ({ crowd with fleet := after }.moveTo number next) settled ideal log := by
  have whole := serial.extend orderly asked serial.sound (serial.lastMatrix.trans lastMatrix.symm)
    (serial.lastDrone.trans lastDrone.symm) lines
    (fun other found different there id member =>
      ⟨others other found different there id member, .refl ideal _⟩)
    ((List.append_nil log).symm ▸ accounted) (by simp)
    ((List.append_nil log).symm ▸ serial.replay) ((List.append_nil log).symm ▸ serial.once)
  rwa [List.append_nil] at whole

theorem Serial.succeed (serial : Serial start crowd whole ideal log) {after settled ideal' : Fleet}
    {response : Response}
    (orderly : ({ crowd with fleet := after }.moveTo number next).Orderly settled)
    (asked : crowd.requests[number]? = some request) (absent : number ∉ log.map Prod.fst)
    (dispatched : ideal.dispatch false request = (response, ideal'))
    (sound : ideal'.Sound) (lastMatrix : ideal'.lastMatrix = settled.lastMatrix)
    (lastDrone : ideal'.lastDrone = settled.lastDrone)
    (lines : ∀ line : Line, Unflown (crowd.stages.insert number next) line →
      line.Same settled ideal')
    (others : ∀ other found, other ≠ number → crowd.stages.get? other = some found →
      ∀ id ∈ found.reserves, Line.Same crowd.fleet after (.slot id) ∧
        Line.Same ideal ideal' (.slot id))
    (accounted : Accounted after ideal' (log ++ [(number, response)]) number request next) :
    Serial start ({ crowd with fleet := after }.moveTo number next) settled ideal'
      (log ++ [(number, response)]) := by
  apply serial.extend orderly asked sound lastMatrix lastDrone lines others accounted
  · intro other member
    simpa using member
  · exact serial.replay.append asked dispatched
  · rw [List.map_append, List.map_singleton]
    exact List.nodup_append.mpr ⟨serial.once, List.pairwise_singleton _ _, by
      intro first member second mine same
      rw [same, List.mem_singleton.mp mine] at member
      exact absent member⟩

/-! ### The moves -/

theorem Accounted.absent {fleet : Fleet} (accounted : Accounted fleet ideal log number request stage)
    (serves : stage.Serves request) : number ∉ log.map Prod.fst := by
  cases accounted with
  | pursued _ absent => exact absent
  | failed answers _ absent => exact absent
  | settled answers _ _ => exact absurd answers serves.not_answers
  | flying => exact serves.elim

theorem Accounted.closing {fleet after : Fleet} {response : Response}
    (accounted : Accounted fleet ideal log number request stage) (answers : stage.Answers response)
    (closes : next.Closes response) : Accounted after ideal log number request next := by
  cases accounted with
  | pursued serves _ => exact absurd answers serves.not_answers
  | failed answers' error absent =>
    exact .failed (answers'.unique answers ▸ closes.answers) (answers'.unique answers ▸ error) absent
  | settled answers' success logged =>
    cases answers'.unique answers
    exact .settled closes.answers success logged
  | flying => exact answers.elim

theorem Serial.moved_lines (serial : Serial start crowd whole ideal log)
    (here : crowd.stages.get? number = some stage) {line : Line}
    (own : ∀ id outcomes ahead, stage = .flying id outcomes ahead → line ≠ .slot id)
    (free : Unflown (crowd.stages.insert number next) line) : line.Same whole ideal := by
  apply serial.lines
  intro other id outcomes ahead there
  by_cases mine : other = number
  · subst mine
    rw [here] at there
    exact own id outcomes ahead (Option.some.inj there)
  · exact free other id outcomes ahead (by rw [Table.get?_insert, if_neg mine, there])

theorem Serial.ground_lines (serial : Serial start crowd whole ideal log)
    (here : crowd.stages.get? number = some stage)
    (grounded : ∀ id outcomes ahead, stage ≠ .flying id outcomes ahead) {line : Line}
    (free : Unflown (crowd.stages.insert number next) line) : line.Same whole ideal := by
  apply serial.moved_lines here _ free
  intro id outcomes ahead flying
  exact absurd flying (grounded id outcomes ahead)

theorem Serves.not_flying (serves : stage.Serves request) :
    ∀ id outcomes ahead, stage ≠ .flying id outcomes ahead := by
  rintro id outcomes ahead rfl
  exact serves

theorem Answers.not_flying {response : Response} (answers : stage.Answers response) :
    ∀ id outcomes ahead, stage ≠ .flying id outcomes ahead := by
  rintro id outcomes ahead rfl
  exact answers

theorem Serial.pass (serial : Serial start crowd whole ideal log)
    (here : crowd.stages.get? number = some stage)
    (asked : crowd.requests[number]? = some request) (serves : stage.Serves request)
    (orderly : (crowd.moveTo number next).Orderly whole)
    (accounted : number ∉ log.map Prod.fst → Accounted crowd.fleet ideal log number request next) :
    Serial start (crowd.moveTo number next) whole ideal log := by
  have absent := (serial.accounts number stage request here asked).absent serves
  apply serial.keep orderly asked rfl rfl ?_ ?_ (accounted absent)
  · intro line free
    exact serial.ground_lines here (Serves.not_flying serves) free
  · exact fun _ _ _ _ id _ => .refl crowd.fleet (.slot id)

theorem Serial.tell (serial : Serial start crowd whole ideal log)
    (here : crowd.stages.get? number = some stage)
    (asked : crowd.requests[number]? = some request) (serves : stage.Serves request)
    (orderly : (crowd.moveTo number next).Orderly whole) {response : Response}
    (closes : next.Closes response) (success : response.isError = false)
    (dispatched : ideal.dispatch false request = (response, ideal)) :
    Serial start (crowd.moveTo number next) whole ideal (log ++ [(number, response)]) := by
  have absent := (serial.accounts number stage request here asked).absent serves
  apply serial.succeed orderly asked absent dispatched serial.sound serial.lastMatrix
    serial.lastDrone
  · intro line free
    exact serial.ground_lines here (Serves.not_flying serves) free
  · exact fun _ _ _ _ id _ => ⟨.refl crowd.fleet (.slot id), .refl ideal (.slot id)⟩
  · exact .settled closes.answers success (by simp)

theorem Serial.act (serial : Serial start crowd whole ideal log)
    (here : crowd.stages.get? number = some stage)
    (asked : crowd.requests[number]? = some request) (serves : stage.Serves request) {deed : Deed}
    (apt : deed.Apt stage.holds crowd.fleet) (entry : next.pending? = deed.entry)
    (orderly : ({ crowd with fleet := deed.perform crowd.fleet }.moveTo number next).Orderly
      (deed.complete whole))
    {response : Response} (answers : next.Answers response) (success : response.isError = false)
    (dispatched : ideal.dispatch false request = (response, deed.complete ideal)) :
    Serial start ({ crowd with fleet := deed.perform crowd.fleet }.moveTo number next)
      (deed.complete whole) (deed.complete ideal) (log ++ [(number, response)]) := by
  have absent := (serial.accounts number stage request here asked).absent serves
  have alike := serial.alike here serves
  apply serial.succeed orderly asked absent dispatched
    (Deed.complete_sound serial.sound (Deed.Apt.alike apt alike))
    (deed.complete_lastMatrix serial.lastMatrix) (deed.complete_lastDrone serial.lastDrone)
  · intro line free
    exact deed.complete_same (serial.ground_lines here (Serves.not_flying serves) free)
  · intro other found different there id member
    refine ⟨serial.orderly.deed_apart here apt different there id member crowd.fleet, ?_⟩
    apply (serial.orderly.deed_apart here apt different there id member ideal).trans
    apply Deed.complete_other
    intro own wanted writes
    -- Only a new matrix has an entry for a slot, and its number is above every one in use.
    cases deed with
    | found matrix =>
      obtain ⟨bounds, rfl⟩ := apt
      cases wanted
      rcases writes with line | line <;> cases line
      exact Nat.not_succ_le_self _ (serial.orderly.bounded other found there _ member)
    | revise matrix => cases wanted
    | enroll matrix drone => cases wanted; cases writes
    | transfer left joined drone => cases wanted; cases writes
    | discharge left drone => cases wanted; cases writes
    | retire matrix => cases wanted; cases writes
  · exact .settled answers success (by simp)

theorem Serial.muster (serial : Serial start crowd whole ideal log)
    (here : crowd.stages.get? number = some stage)
    (asked : crowd.requests[number]? = some request) (serves : stage.Serves request)
    {matrix : Matrix} {plans : List Plan} (held : matrix.id ∈ stage.holds)
    (standing : crowd.fleet.standing? matrix.id = some matrix)
    (fits : (Stage.flying matrix.id [] plans).Fits crowd.fleet)
    (orderly : (crowd.moveTo number (.flying matrix.id [] plans)).Orderly whole)
    (flies : ∀ outcomes last, Handling.Flown false matrix plans outcomes last →
      ∀ other : Fleet, other.Sound → crowd.fleet.Alike stage.holds other →
        other.dispatch false request = (.batch (.of outcomes last), other.store last)) :
    ∃ ideal' response, Serial start (crowd.moveTo number (.flying matrix.id [] plans)) whole ideal'
      (log ++ [(number, response)]) := by
  have absent := (serial.accounts number stage request here asked).absent serves
  have alike := serial.alike here serves
  have aboard : ∀ plan ∈ plans, matrix.owns plan.droneId = true := by
    obtain ⟨found, standing', aboard⟩ := fits
    rw [standing] at standing'
    cases standing'
    exact aboard
  have matrixSound := (serial.orderly.firm.standing standing).2
  obtain ⟨outcomes, last, flown, lastSound, kin⟩ :=
    Handling.flown_exists false matrixSound aboard
  have apt : Deed.Apt stage.holds crowd.fleet (.revise last) :=
    ⟨kin.id ▸ held, lastSound, matrix, kin.id ▸ standing, kin⟩
  have ready : (ideal.store last).standing? matrix.id = some last := by
    rw [Fleet.store_standing?, if_pos flown.id_eq.symm]
  refine ⟨ideal.store last, .batch (.of outcomes last), ?_⟩
  apply serial.succeed orderly asked absent (flies outcomes last flown ideal serial.sound alike)
    (Deed.complete_sound serial.sound (Deed.Apt.alike apt alike)) serial.lastMatrix
    serial.lastDrone
  · intro line free
    have old := serial.ground_lines here (Serves.not_flying serves) free
    have elsewhere := free number matrix.id [] plans (by rw [Table.get?_insert, if_pos rfl])
    apply old.trans
    apply (Deed.revise last).perform_other
    intro id member
    rw [List.mem_singleton.mp member, flown.id_eq]
    exact elsewhere
  · intro other found different there id member
    exact ⟨.refl crowd.fleet _, serial.orderly.deed_apart here apt different there id member ideal⟩
  · exact .flying standing flown ready (by simp)

theorem Serial.fly (serial : Serial start crowd whole ideal log) {id : Nat}
    {outcomes : List DroneOutcome} {plan : Plan} {ahead : List Plan} {matrix flown : Matrix}
    {outcome : DroneOutcome}
    (here : crowd.stages.get? number = some (.flying id outcomes (plan :: ahead)))
    (asked : crowd.requests[number]? = some request)
    (standing : crowd.fleet.standing? id = some matrix) (sound : flown.Sound)
    (kin : matrix.Kin flown)
    (flew : ∀ other : Fleet, other.standing? matrix.id = some matrix →
      (Handling.flyPlan false matrix.id plan).on other = (.ok outcome, other.store flown))
    (fits : (Stage.flying id (outcomes ++ [outcome]) ahead).Fits (crowd.fleet.store flown)) :
    Serial start ({ crowd with fleet := crowd.fleet.store flown }.moveTo number
      (.flying id (outcomes ++ [outcome]) ahead)) (whole.store flown) ideal log := by
  have name := (serial.orderly.firm.standing standing).1
  subst name
  have apt : Deed.Apt (Stage.flying matrix.id outcomes (plan :: ahead)).holds crowd.fleet
      (.revise flown) :=
    ⟨kin.id ▸ List.mem_singleton_self _, sound, matrix, kin.id ▸ standing, kin⟩
  have accounted := serial.accounts number _ request here asked
  have after : Accounted (crowd.fleet.store flown) ideal log number request
      (.flying matrix.id (outcomes ++ [outcome]) ahead) := by
    cases accounted with
    | pursued serves _ => exact serves.elim
    | failed answers _ _ => exact answers.elim
    | settled answers _ _ => exact answers.elim
    | flying standing' planned ready logged =>
      rw [standing] at standing'
      cases standing'
      cases planned with
      | cons same flew' rest =>
        have both := (flew crowd.fleet standing).symm.trans (flew' crowd.fleet standing)
        simp only [Prod.mk.injEq, Except.ok.injEq] at both
        obtain ⟨rfl, stored⟩ := both
        have landed := Fleet.store_injective stored (kin.id.trans same.symm)
        subst landed
        have stands : (crowd.fleet.store flown).standing? matrix.id = some flown := by
          rw [Fleet.store_standing?, if_pos kin.id.symm]
        exact .flying stands rest ready (by simpa using logged)
  apply serial.keep (serial.orderly.flies here standing sound kin fits) asked rfl rfl ?_ ?_ after
  · intro line free
    have elsewhere := free number matrix.id _ ahead (by rw [Table.get?_insert, if_pos rfl])
    have old : line.Same whole ideal := by
      apply serial.moved_lines here _ free
      rintro _ _ _ ⟨⟩
      exact elsewhere
    apply Line.Same.trans _ old
    apply Line.Same.symm
    apply (Deed.revise flown).perform_other
    intro id member
    rw [List.mem_singleton.mp member, kin.id]
    exact elsewhere
  · intro other found different there id member
    exact serial.orderly.deed_apart here apt different there id member crowd.fleet

theorem Serial.land (serial : Serial start crowd whole ideal log) {id : Nat}
    {outcomes : List DroneOutcome} {matrix : Matrix}
    (here : crowd.stages.get? number = some (.flying id outcomes []))
    (asked : crowd.requests[number]? = some request)
    (standing : crowd.fleet.standing? id = some matrix)
    (orderly : (crowd.moveTo number
      (.leave id (.done (.batch (.of outcomes matrix))))).Orderly whole) :
    Serial start (crowd.moveTo number (.leave id (.done (.batch (.of outcomes matrix))))) whole
      ideal log := by
  cases serial.accounts number _ request here asked with
  | pursued serves _ => exact serves.elim
  | failed answers _ _ => exact answers.elim
  | settled answers _ _ => exact answers.elim
  | flying standing' planned ready logged =>
    rw [standing] at standing'
    cases standing'
    cases planned with
    | nil =>
      rw [List.append_nil] at logged
      have same : Line.Same whole ideal (.slot id) := by
        have stands := (serial.orderly.alike here rfl).standing id (List.mem_singleton_self _)
        rw [standing] at stands
        exact (Fleet.standing?_eq_some.mp ready).trans (Fleet.standing?_eq_some.mp stands).symm
      apply serial.keep orderly asked rfl rfl
      · intro line free
        by_cases mine : line = .slot id
        · exact mine ▸ same
        · apply serial.moved_lines here _ free
          rintro _ _ _ ⟨⟩
          exact mine
      · exact fun _ _ _ _ id _ => .refl crowd.fleet (.slot id)
      · have closes : (Stage.leave id (.done (.batch (.of outcomes matrix)))).Closes
            (.batch (.of outcomes matrix)) := rfl
        exact .settled closes.answers rfl logged

def Grows (start : Fleet) (crowd : Crowd) (log : List (Nat × Response)) : Prop :=
  ∃ settled ideal more, Serial start crowd settled ideal (log ++ more)

theorem Serial.stays {settled : Fleet} (serial : Serial start crowd settled ideal log) :
    Grows start crowd log :=
  ⟨settled, ideal, [], by rwa [List.append_nil]⟩

theorem Serial.turns (serial : Serial start crowd whole ideal log)
    (here : crowd.stages.get? number = some stage)
    (asked : crowd.requests[number]? = some request) (serves : stage.Serves request)
    {after : Fleet} (follows : stage.Follows false request crowd.fleet (next, after)) :
    Grows start ({ crowd with fleet := after }.moveTo number next) log := by
  have orderly := serial.orderly
  have passes : after = crowd.fleet → next.pending? = none → next.Belongs request →
      (crowd.moveTo number next).Orderly whole := by
    rintro rfl plain belongs
    exact orderly.passes here serves.pending? plain follows.fits ⟨request, asked, belongs⟩
      follows.stays
  have turn : stage.Turn false request crowd.fleet next after := follows.turn
  cases turn with
  | goes _ serves' =>
    have moved := passes rfl serves'.pending? (.inl serves')
    exact (serial.pass here asked serves moved fun absent => .pursued serves' absent).stays
  | refused closes _ =>
    have moved := passes rfl closes.pending? (.inr (.inl ⟨_, closes.answers⟩))
    exact (serial.pass here asked serves moved fun absent =>
      .failed closes.answers rfl absent).stays
  | told closes success tells =>
    have moved := passes rfl closes.pending? (.inr (.inl ⟨_, closes.answers⟩))
    have unlisted := serial.plain request (List.mem_of_getElem? asked)
    have dispatched := tells unlisted ideal serial.sound (serial.alike here serves)
    exact ⟨whole, ideal, _, serial.tell here asked serves moved closes success dispatched⟩
  | @flies matrix plans _ standing flies =>
    have moved := passes rfl rfl (.inr (.inr ⟨_, _, _, rfl⟩))
    have held := follows.stays matrix.id (List.mem_singleton_self _)
    obtain ⟨ideal', response, mustered⟩ :=
      serial.muster here asked serves held standing follows.fits moved flies
    exact ⟨whole, ideal', _, mustered⟩
  | does apt entry answers success does =>
    have moved := orderly.does here serves.pending? apt entry follows.fits
      ⟨request, asked, .inr (.inl ⟨_, answers⟩)⟩ follows.reserves
    have dispatched := does ideal serial.sound (serial.alike here serves)
    exact ⟨_, _, _, serial.act here asked serves apt entry moved answers success dispatched⟩

theorem Serial.advance (serial : Serial start crowd whole ideal log) (number : Nat) :
    Grows start (crowd.advance number) log := by
  have orderly := serial.orderly
  rcases orderly.advance_cases number with
    stuck | ⟨request, stage, next, after, here, asked, _, _, moved, move⟩
  · rw [stuck]
    exact serial.stays
  · rw [moved]
    have fits := orderly.fits number stage here
    have accounted := serial.accounts number stage request here asked
    cases move with
    | @enters id purpose same free serves =>
      subst same
      have pursued : (Stage.enter id purpose).Serves request := serves
      have pursued' : (Stage.inside id purpose).Serves request := serves
      exact (serial.pass here asked pursued (orderly.enters here free) fun absent =>
        .pursued pursued' absent).stays
    | turns serves follows =>
      rw [serial.calm] at follows
      exact serial.turns here asked serves follows
    | writes answers pending closes nextFits keeps =>
      have written := orderly.writes here pending closes.pending? nextFits
        ⟨request, asked, .inr (.inl ⟨_, closes.answers⟩)⟩ keeps
      apply (serial.keep written asked rfl rfl ?_ ?_ (accounted.closing answers closes)).stays
      · intro line free
        exact serial.ground_lines here (Answers.not_flying answers) free
      · intro other found different there id member
        exact orderly.entry_apart here pending different there id member crowd.fleet
    | @leaves response id _ same closes =>
      subst same
      have answers : (Stage.leave id next).Answers response := closes
      have left := orderly.passes here rfl closes.pending? fits.2.1
        ⟨request, asked, .inr (.inl ⟨_, closes.answers⟩)⟩ fun _ => List.mem_cons_of_mem _
      apply (serial.keep left asked rfl rfl ?_ ?_ (accounted.closing answers closes)).stays
      · intro line free
        exact serial.ground_lines here (Answers.not_flying answers) free
      · exact fun _ _ _ _ id _ => .refl crowd.fleet (.slot id)
    | flies same standing sound kin flew nextFits =>
      subst same
      rw [serial.calm] at flew
      exact (serial.fly here asked standing sound kin flew nextFits).stays
    | @lands id outcomes matrix same standing =>
      subst same
      have closes : (Stage.leave id (.done (.batch (.of outcomes matrix)))).Closes _ := rfl
      have landed := orderly.passes here rfl rfl (Stage.leave_fits _ _)
        ⟨request, asked, .inr (.inl ⟨_, closes.answers⟩)⟩ fun _ held => held
      exact (serial.land here asked standing landed).stays

theorem Serial.submit (serial : Serial start crowd whole ideal log)
    (unlisted : request.isListing = false) :
    Serial start (crowd.submit request) whole ideal log where
  orderly := serial.orderly.submit request
  calm := serial.calm
  plain earlier member := by
    rcases List.mem_append.mp member with old | new
    · exact serial.plain earlier old
    · rw [List.mem_singleton.mp new]
      exact unlisted
  sound := serial.sound
  lastMatrix := serial.lastMatrix
  lastDrone := serial.lastDrone
  lines line free := by
    apply serial.lines
    intro other id outcomes ahead there
    apply free other id outcomes ahead
    obtain ⟨_, asked, _⟩ := serial.orderly.belongs other _ there
    have different : other ≠ crowd.requests.length :=
      Nat.ne_of_lt (List.getElem?_eq_some_iff.mp asked).1
    exact (Table.get?_insert _ _ _ _).trans ((if_neg different).trans there)
  accounts other found asked there same := by
    rcases insert_cases there with ⟨rfl, rfl⟩ | ⟨different, old⟩
    · have mine : asked = request := by simpa [Crowd.submit] using same.symm
      subst mine
      have pursued : (Stage.start asked).Serves asked := rfl
      refine .pursued pursued fun member => ?_
      exact Nat.lt_irrefl _ (serial.submitted _ member)
    · obtain ⟨earlier, asked', _⟩ := serial.orderly.belongs other found old
      have within := (List.getElem?_eq_some_iff.mp asked').1
      have before : crowd.requests[other]? = some asked := by
        simpa [Crowd.submit, List.getElem?_append_left within] using same
      exact serial.accounts other found asked old before
  replay := by
    apply serial.replay.mono
    intro number' earlier asked
    have within := (List.getElem?_eq_some_iff.mp asked).1
    simpa [Crowd.submit, List.getElem?_append_left within] using asked
  once := serial.once
  submitted other member := by
    simp only [Crowd.submit, List.length_append, List.length_singleton]
    exact Nat.lt_succ_of_lt (serial.submitted other member)

theorem Serial.hold (serial : Serial start crowd whole ideal log) (id : Nat) :
    Serial start (crowd.hold id) whole ideal log := by
  have orderly := serial.orderly.hold id
  unfold Crowd.hold at orderly ⊢
  split at orderly
  · rename_i possible
    rw [if_pos possible]
    exact { serial with orderly := orderly }
  · rename_i refused
    rw [if_neg refused]
    exact serial

/-- An event that neither calls off flying nor asks for a listing. -/
def Event.Plain : Event → Prop
  | .submit request => request.isListing = false
  | .ground => False
  | _ => True

theorem Serial.step (serial : Serial start crowd whole ideal log) {event : Event}
    (plain : event.Plain) : Grows start (crowd.step event) log := by
  cases event with
  | submit request => exact (serial.submit plain).stays
  | advance number => exact serial.advance number
  | hold id => exact (serial.hold id).stays
  | release id => exact Serial.stays { serial with orderly := serial.orderly.release id }
  | ground => exact plain.elim

/-- Over a run the log only grows at its end, so the log of every moment is a beginning of it. -/
theorem Serial.run (serial : Serial start crowd whole ideal log) {events : List Event}
    (plain : ∀ event ∈ events, event.Plain) :
    ∃ settled last more, Serial start (crowd.run events) settled last (log ++ more) ∧
      ∀ before after, events = before ++ after → ∃ settled last front back,
        more = front ++ back ∧ Serial start (crowd.run before) settled last (log ++ front) := by
  induction events generalizing crowd whole ideal log with
  | nil =>
    refine ⟨whole, ideal, [], by rwa [List.append_nil], ?_⟩
    intro before after split
    obtain ⟨rfl, rfl⟩ := List.append_eq_nil_iff.mp split.symm
    exact ⟨whole, ideal, [], [], rfl, by rwa [List.append_nil]⟩
  | cons event rest ih =>
    obtain ⟨settled, ideal', more, next⟩ := serial.step (plain event List.mem_cons_self)
    obtain ⟨settled', last, more', done, moments⟩ :=
      ih next fun later member => plain later (List.mem_cons_of_mem _ member)
    refine ⟨settled', last, more ++ more', by rw [← List.append_assoc]; exact done, ?_⟩
    intro before after split
    cases before with
    | nil => exact ⟨whole, ideal, [], more ++ more', rfl, by rwa [List.append_nil]⟩
    | cons first others =>
      obtain ⟨rfl, split'⟩ := List.cons.inj split
      obtain ⟨settled'', last', front, back, parts, moment⟩ := moments others after split'
      refine ⟨settled'', last', more ++ front, back, by rw [parts, List.append_assoc], ?_⟩
      rw [← List.append_assoc]
      exact moment

end Steps

end DroneFleet.Crowd
