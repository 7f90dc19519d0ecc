import DroneFleet.Proofs.Session.Attendance

/-!
The end of a session when the server stops. What is due when the word comes is still settled before the
session closes, unless a reply fails, and the session does close. Requests for drones to fly change
nothing any more, and neither do the bytes of a frame of which the rest does not come in.
-/
namespace DroneFleet.Attendance

variable {attendance : Attendance} {limit : Nat}

/-! ### Less and less is left to do -/

/-- What happens without anybody else, and without the peer. -/
inductive Event.Quiet : Event → Prop
  | take : Event.Quiet .take
  | reply (now : Nat) (carried : Bool) : Event.Quiet (.reply now carried)
  | notice : Event.Quiet .notice
  | advance (number : Nat) : Event.Quiet (.others (.advance number))

inductive Works : Attendance → Nat → Attendance → Prop
  | rest (attendance : Attendance) : Works attendance 0 attendance
  | step {attendance last : Attendance} {count : Nat} {event : Event} (quiet : event.Quiet)
      (changes : attendance.step event ≠ attendance) (works : Works (attendance.step event) count last) :
      Works attendance (count + 1) last

/-- The requests that have been made and those that the session can still take. -/
def ahead (attendance : Attendance) : List Request :=
  attendance.crowd.requests ++
    (Session.calls true
      (if attendance.session.isOpen then attendance.session.decoder.drain.1 else [])).map Prod.snd

def load (asked : List Request) (attendance : Attendance) : Nat :=
  attendance.crowd.effort asked + 2 * attendance.session.work + attendance.current.toList.length

theorem ahead_idle (idle : attendance.isIdle = true) :
    attendance.ahead = attendance.crowd.requests ++
      (Session.calls true attendance.session.decoder.drain.1).map Prod.snd := by
  rw [ahead, if_pos (isIdle_iff.mp idle).1]

theorem ahead_closed (closed : attendance.session.isOpen = false) {asked : List Request}
    (made : attendance.crowd.requests <+: asked) : attendance.ahead <+: asked := by
  rw [ahead, if_neg (by rw [closed]; exact Bool.false_ne_true)]
  rwa [Session.calls, List.filterMap_nil, List.map_nil, List.append_nil]

theorem work_open (isOpen : attendance.session.isOpen = true) :
    attendance.session.work = attendance.session.decoder.buffer.length + 1 := by
  rw [Session.work, if_pos isOpen]

theorem work_accepted {envelope : Envelope} {decoder : Frame.Decoder} (idle : attendance.isIdle = true)
    (taken : attendance.session.decoder.next? = some (.ok envelope, decoder)) :
    (attendance.session.accept decoder envelope).work < attendance.session.work := by
  have isOpen := (isIdle_iff.mp idle).1
  have shorter := Frame.Decoder.length_lt_of_next? taken
  rw [Session.work, Session.accept_isOpen, if_pos isOpen, Session.accept_decoder, work_open isOpen]
  omega

theorem ahead_accepted {envelope : Envelope} {decoder : Frame.Decoder} (idle : attendance.isIdle = true)
    (number : Nat) (crowd : Crowd) :
    { attendance with
      session := attendance.session.accept decoder envelope
      current := some ⟨envelope, number⟩
      crowd := crowd }.ahead =
      crowd.requests ++ (Session.calls true decoder.drain.1).map Prod.snd := by
  have isOpen : (attendance.session.accept decoder envelope).isOpen = true := by
    rw [Session.accept_isOpen, (isIdle_iff.mp idle).1]
  rw [ahead, if_pos isOpen, Session.accept_decoder]

theorem Kept.quiet_step (kept : attendance.Kept limit) {event : Event} (quiet : event.Quiet)
    {asked : List Request} (within : attendance.ahead <+: asked) :
    attendance.step event = attendance ∨ ((attendance.step event).ahead <+: asked ∧
      (attendance.step event).load asked < attendance.load asked) := by
  obtain ⟨whole, orderly⟩ := kept.orderly
  have made : attendance.crowd.requests <+: asked := (List.prefix_append _ _).trans within
  refine (attendance.step_cases event).elim .inl fun does => ?_
  generalize attendance.step event = next at does ⊢
  cases does with
  | reads | stops => cases quiet
  | @refuses fault decoder idle taken =>
    have before := work_open (isIdle_iff.mp idle).1
    have after : ({ attendance.session with decoder }.close : Session).work = 0 := rfl
    refine .inr ⟨ahead_closed rfl made, ?_⟩
    simp only [load, before, after]
    omega
  | @asks envelope decoder request idle taken wanted =>
    have less := work_accepted idle taken
    have vacant := (isIdle_iff.mp idle).2
    -- The request goes over from those that can be taken to those that have been made.
    rw [ahead_idle idle, Frame.Decoder.drain_of_ok taken, Session.calls, List.filterMap_cons, wanted,
      List.map_cons, List.append_cons] at within
    have same := orderly.submit_effort ((List.prefix_append _ _).trans within)
    refine .inr ⟨(ahead_accepted idle _ _).symm ▸ within, ?_⟩
    simp only [load, same, vacant, Option.toList_some, Option.toList_none, List.length_singleton,
      List.length_nil]
    omega
  | @errs envelope decoder response idle taken told =>
    have less := work_accepted idle taken
    have vacant := (isIdle_iff.mp idle).2
    rw [ahead_idle idle, Frame.Decoder.drain_of_ok taken, Session.calls, List.filterMap_cons, told] at within
    refine .inr ⟨(ahead_accepted idle _ _).symm ▸ within, ?_⟩
    simp only [load, vacant, Option.toList_some, Option.toList_none, List.length_singleton,
      List.length_nil]
    omega
  | @replies matter response now carried dealing answered =>
    rcases attendance.session.deliver_cases carried (Settled.answer ⟨matter, now, response, carried⟩) with
      sent | ⟨closed, _⟩
    · rw [sent]
      refine .inr ⟨within, ?_⟩
      simp only [load, dealing, Option.toList_some, Option.toList_none, List.length_singleton,
        List.length_nil]
      omega
    · rw [closed]
      have after : attendance.session.close.work = 0 := rfl
      refine .inr ⟨ahead_closed rfl made, ?_⟩
      simp only [load, dealing, after, Option.toList_some, Option.toList_none, List.length_singleton,
        List.length_nil]
      omega
  | closes reading =>
    have before := work_open (isIdle_iff.mp (isReading_iff.mp reading).1).1
    have after : attendance.session.close.work = 0 := rfl
    refine .inr ⟨ahead_closed rfl made, ?_⟩
    simp only [load, close, before, after]
    omega
  | others other =>
    cases quiet with
    | advance number =>
      rcases orderly.advance_cases number with stuck | ⟨_, _, _, _, here, _, unblocked, _⟩
      · exact .inl (by rw [Crowd.step, stuck])
      · have less := orderly.advance_effort here unblocked made
        have same : Attendance.ahead { attendance with crowd := attendance.crowd.advance number } =
            attendance.ahead := by rw [ahead, Crowd.advance_requests, ahead]
        refine .inr ⟨same ▸ within, ?_⟩
        simp only [load, Crowd.step]
        omega

theorem Works.bounded {count : Nat} {last : Attendance} (works : Works attendance count last)
    (kept : attendance.Kept limit) {asked : List Request} (within : attendance.ahead <+: asked) :
    count ≤ attendance.load asked := by
  induction works with
  | rest => exact Nat.zero_le _
  | step quiet changes _ ih =>
    obtain ⟨within, less⟩ := (kept.quiet_step quiet within).resolve_left changes
    have further := ih (kept.step _) within
    omega

/-- An open session that is to stop always has something to do, where no outsider holds a matrix. -/
theorem Kept.able (kept : attendance.Kept limit) (isOpen : attendance.session.isOpen = true)
    (stopping : attendance.stopping = true) (vacant : attendance.crowd.outside = []) :
    ∃ event : Event, event.Quiet ∧ attendance.step event ≠ attendance := by
  obtain ⟨whole, orderly⟩ := kept.orderly
  cases dealing : attendance.current with
  | none =>
    have idle := isIdle_iff.mpr ⟨isOpen, dealing⟩
    cases taken : attendance.session.decoder.next? with
    | none =>
      have reading := isReading_iff.mpr ⟨idle, taken⟩
      refine ⟨.notice, .notice, fun same => ?_⟩
      have closed := congrArg (fun attendance => attendance.session.isOpen) same
      simp only [Attendance.step, stopping, reading, Bool.and_true, if_true] at closed
      exact Bool.false_ne_true (closed.trans isOpen)
    | some found =>
      obtain ⟨result, decoder⟩ := found
      refine ⟨.take, .take, fun same => ?_⟩
      cases result with
      | error fault =>
        have closed := congrArg (fun attendance => attendance.session.isOpen) same
        simp only [Attendance.step, Attendance.take, idle, taken, if_true] at closed
        exact Bool.false_ne_true (closed.trans isOpen)
      | ok envelope =>
        have current := congrArg Attendance.current same
        simp only [Attendance.step, Attendance.take, idle, taken, if_true, dealing] at current
        cases current
  | some matter =>
    cases answered : matter.answer? attendance.crowd with
    | some response =>
      refine ⟨.reply 0 true, .reply 0 true, fun same => ?_⟩
      have current := congrArg Attendance.current same
      simp only [Attendance.step, Attendance.reply, dealing, answered] at current
      cases current
    | none =>
      cases asked : matter.envelope.payload with
      | response response =>
        rw [Matter.answer?, asked] at answered
        cases answered
      | request request =>
        obtain ⟨made, stage, here⟩ := kept.dealing matter dealing request asked
        have unanswered : ∀ response, stage ≠ .done response := by
          rintro response rfl
          rw [Matter.answer?, asked] at answered
          exact Option.some_ne_none _ ((Crowd.answer?_eq_some.mpr here).symm.trans answered)
        obtain ⟨other, found, there, unblocked⟩ := orderly.someone_able vacant here unanswered
        refine ⟨.others (.advance other), .advance other, fun same => ?_⟩
        have less := orderly.advance_effort there unblocked (List.prefix_refl _)
        have stuck : attendance.crowd.advance other = attendance.crowd := congrArg Attendance.crowd same
        rw [stuck] at less
        exact Nat.lt_irrefl _ less

theorem advance_outside (crowd : Crowd) (number : Nat) :
    (crowd.advance number).outside = crowd.outside := by
  unfold Crowd.advance
  split
  · rfl
  · split <;> rfl

theorem quiet_stays {event : Event} (quiet : event.Quiet) :
    (attendance.step event).stopping = attendance.stopping ∧
      (attendance.step event).crowd.outside = attendance.crowd.outside := by
  rcases attendance.step_cases event with same | does
  · rw [same]
    exact ⟨rfl, rfl⟩
  generalize attendance.step event = next at does ⊢
  cases does with
  | others other =>
    cases quiet with
    | advance number => exact ⟨rfl, advance_outside _ _⟩
  | stops => cases quiet
  | _ => exact ⟨rfl, rfl⟩

theorem Works.kept {count : Nat} {last : Attendance} (works : Works attendance count last)
    (kept : attendance.Kept limit) : last.Kept limit ∧ last.stopping = attendance.stopping ∧
      last.crowd.outside = attendance.crowd.outside := by
  induction works with
  | rest => exact ⟨kept, rfl, rfl⟩
  | step quiet changes _ ih =>
    obtain ⟨kept, stopping, outside⟩ := ih (kept.step _)
    obtain ⟨stoppingToo, outsideToo⟩ := quiet_stays quiet
    exact ⟨kept, stopping.trans stoppingToo, outside.trans outsideToo⟩

/-! ### Bytes of a frame that does not come in -/

def holding (attendance : Attendance) (buffer : List UInt8) : Attendance :=
  { attendance with session.decoder.buffer := buffer }

theorem accept_holding (session : Session) (buffer more : List UInt8) (envelope : Envelope) :
    { session with decoder.buffer := buffer }.accept ⟨session.decoder.limit, more⟩ envelope =
      { session.accept session.decoder envelope with decoder.buffer := more } := by
  unfold Session.accept Session.introduce
  dsimp only
  split <;> rfl

theorem deliver_holding (session : Session) (buffer : List UInt8) (carried : Bool) (answer : Envelope) :
    { session with decoder.buffer := buffer }.deliver carried answer =
      { session.deliver carried answer with decoder.buffer := buffer } := by
  unfold Session.deliver
  dsimp only
  split
  · split <;> rfl
  · rfl

theorem reply_holding (attendance : Attendance) (buffer : List UInt8) (now : Nat) (carried : Bool) :
    (attendance.holding buffer).reply now carried = (attendance.reply now carried).holding buffer := by
  unfold reply
  dsimp only [holding]
  split
  · rfl
  · split
    · rfl
    · rw [deliver_holding]

theorem reply_decoder (attendance : Attendance) (now : Nat) (carried : Bool) :
    (attendance.reply now carried).session.decoder = attendance.session.decoder := by
  unfold reply
  split
  · rfl
  · split
    · rfl
    · exact Session.deliver_decoder _ _ _

/-- The bytes behind some whole frames make no difference as long as they are not a whole one: whatever
they are, one thing comes of an event. -/
structure Behind (attendance : Attendance) (bodies : List (List UInt8)) (event : List UInt8 → Attendance)
    (next : Attendance) (left : List (List UInt8)) : Prop where
  limited : next.session.decoder.limit = attendance.session.decoder.limit
  fits : ∀ body ∈ left, body.length ≤ attendance.session.decoder.limit
  same : ∀ rest, Frame.Incomplete attendance.session.decoder.limit rest →
    event (bodies.flatMap Frame.framed ++ rest) = next.holding (left.flatMap Frame.framed ++ rest)

section Trimming

variable {bodies : List (List UInt8)}

theorem isIdle_holding (attendance : Attendance) (buffer : List UInt8) :
    (attendance.holding buffer).isIdle = attendance.isIdle := rfl

theorem next?_behind (small : attendance.session.decoder.limit < UInt32.size)
    (fits : ∀ body ∈ bodies, body.length ≤ attendance.session.decoder.limit) {rest : List UInt8}
    (short : Frame.Incomplete attendance.session.decoder.limit rest) :
    (attendance.holding (bodies.flatMap Frame.framed ++ rest)).session.decoder.next? =
      bodies.head?.map fun body => (Frame.decodeBody body,
        ⟨attendance.session.decoder.limit, bodies.tail.flatMap Frame.framed ++ rest⟩) := by
  cases bodies with
  | nil => exact Frame.Decoder.next?_incomplete short
  | cons body bodies =>
    rw [List.flatMap_cons, List.append_assoc]
    exact Frame.Decoder.next?_framed small (fits body List.mem_cons_self)

theorem take_behind (small : attendance.session.decoder.limit < UInt32.size)
    (fits : ∀ body ∈ bodies, body.length ≤ attendance.session.decoder.limit) :
    ∃ next left, Behind attendance bodies (fun buffer => (attendance.holding buffer).take) next left := by
  cases idle : attendance.isIdle with
  | false =>
    refine ⟨attendance, bodies, rfl, fits, fun rest _ => if_neg ?_⟩
    rw [isIdle_holding, idle]
    exact Bool.false_ne_true
  | true =>
    cases bodies with
    | nil =>
      refine ⟨attendance, [], rfl, fits, fun rest short => ?_⟩
      simp only [take, isIdle_holding, idle, if_true, next?_behind small fits short, List.head?_nil,
        Option.map_none]
    | cons body bodies =>
      have left := fun other member => fits other (List.mem_cons_of_mem _ member)
      cases read : Frame.decodeBody body with
      | error fault =>
        refine ⟨attendance.close, bodies, rfl, left, fun rest short => ?_⟩
        simp only [take, isIdle_holding, idle, if_true, next?_behind small fits short, List.head?_cons,
          Option.map_some, read, List.tail_cons]
        rfl
      | ok envelope =>
        refine ⟨{ attendance with
          session := attendance.session.accept attendance.session.decoder envelope
          current := some ⟨envelope, attendance.crowd.requests.length⟩
          crowd := attendance.crowd.ask envelope.payload }, bodies, ?_, left, fun rest short => ?_⟩
        · exact congrArg Frame.Decoder.limit (Session.accept_decoder _ _ _)
        · simp only [take, isIdle_holding, idle, if_true, next?_behind small fits short, List.head?_cons,
            Option.map_some, read, List.tail_cons]
          simp only [holding, accept_holding]

theorem close_behind (small : attendance.session.decoder.limit < UInt32.size)
    (fits : ∀ body ∈ bodies, body.length ≤ attendance.session.decoder.limit) (ready : Bool) :
    ∃ next left, Behind attendance bodies (fun buffer =>
      if ready && (attendance.holding buffer).isReading then (attendance.holding buffer).close
      else attendance.holding buffer) next left := by
  have reads {rest : List UInt8} (short : Frame.Incomplete attendance.session.decoder.limit rest) :
      (attendance.holding (bodies.flatMap Frame.framed ++ rest)).isReading =
        (attendance.isIdle && bodies.head?.isNone) := by
    rw [isReading, isIdle_holding, next?_behind small fits short, Option.isNone_map]
  cases leaves : ready && (attendance.isIdle && bodies.head?.isNone) with
  | false => exact ⟨attendance, bodies, rfl, fits, fun rest short => by simp only [reads short, leaves]; rfl⟩
  | true => exact ⟨attendance.close, bodies, rfl, fits, fun rest short => by simp only [reads short, leaves]; rfl⟩

/-- While no bytes come in, a session does the same whether or not those of an incomplete frame are
there. -/
theorem step_behind (small : attendance.session.decoder.limit < UInt32.size)
    (fits : ∀ body ∈ bodies, body.length ≤ attendance.session.decoder.limit) {event : Event}
    (silent : ∀ bytes, event ≠ .arrive bytes) :
    ∃ next left, Behind attendance bodies (fun buffer => (attendance.holding buffer).step event) next left := by
  cases event with
  | arrive bytes => exact absurd rfl (silent bytes)
  | take => exact take_behind small fits
  | reply now carried =>
    exact ⟨attendance.reply now carried, bodies, by rw [reply_decoder], fits,
      fun rest _ => reply_holding _ _ _ _⟩
  | notice => exact close_behind small fits attendance.stopping
  | leave => exact close_behind small fits true
  | others event =>
    exact ⟨{ attendance with crowd := attendance.crowd.step event }, bodies, rfl, fits, fun _ _ => rfl⟩
  | stop =>
    exact ⟨{ attendance with crowd := attendance.crowd.step .ground, stopping := true }, bodies, rfl, fits,
      fun _ _ => rfl⟩

theorem run_behind (small : attendance.session.decoder.limit < UInt32.size)
    (fits : ∀ body ∈ bodies, body.length ≤ attendance.session.decoder.limit) {events : List Event}
    (silent : ∀ bytes, .arrive bytes ∉ events) :
    ∃ next left, Behind attendance bodies (fun buffer => (attendance.holding buffer).run events) next left := by
  induction events generalizing attendance bodies with
  | nil => exact ⟨attendance, bodies, rfl, fits, fun _ _ => rfl⟩
  | cons event events ih =>
    have first : ∀ bytes, event ≠ .arrive bytes := fun bytes same =>
      silent bytes (same ▸ List.mem_cons_self)
    have later : ∀ bytes, .arrive bytes ∉ events := fun bytes member =>
      silent bytes (List.mem_cons_of_mem _ member)
    obtain ⟨next, left, limited, within, stepped⟩ := step_behind small fits first
    obtain ⟨last, kept, limitedToo, withinToo, went⟩ :=
      ih (limited ▸ small) (limited ▸ within) later
    refine ⟨last, kept, limitedToo.trans limited, limited ▸ withinToo, fun rest short => ?_⟩
    exact (congrArg (run · events) (stepped rest short)).trans (went rest (limited ▸ short))

end Trimming

/-! ### The end of a session -/

/-- A session that is told to stop while it is `known`, and is `final` at some later moment. -/
structure Concludes (limit : Nat) (known final : Attendance) : Prop where
  ordered : ∃ later, final.settled = known.settled ++ later ∧
    final.output = known.output ++ later.flatMap (Settled.frame limit) ∧
    (later.map Settled.envelope <+: known.due ∨ known.due <+: later.map Settled.envelope) ∧
    (final.session.isOpen = false → known.due <+: later.map Settled.envelope ∨
      ∃ front last, later = front ++ [last] ∧ last.Fails limit)
  answered : ∀ entry ∈ final.settled, Pursued final.crowd entry.matter ∧
    entry.matter.answer? final.crowd = some entry.response
  framed : ∀ entry ∈ final.settled, entry.Fails limit ∧ entry.frame limit = [] ∨
    ¬ entry.Fails limit ∧ entry.frame limit = Frame.framed (Frame.body entry.answer)
  finished : final.session.isOpen = false → final.current = none
  grounded : final.crowd.grounded = true
  closes : final.crowd.outside = [] → ∀ count last, Works final count last →
    count ≤ final.load final.ahead ∧
      (last.session.isOpen = true → ∃ event : Event, event.Quiet ∧ last.step event ≠ last)

theorem run_stopping (stopping : attendance.stopping = true) (events : List Event) :
    (attendance.run events).stopping = true := by
  induction events generalizing attendance with
  | nil => exact stopping
  | cons event rest ih =>
    refine ih ?_
    rcases attendance.step_cases event with same | does
    · rw [same]
      exact stopping
    · generalize attendance.step event = next at does ⊢
      cases does with
      | stops => rfl
      | _ => exact stopping

theorem run_keeps_grounded (grounded : attendance.crowd.grounded = true) (events : List Event) :
    (attendance.run events).crowd.grounded = true := by
  obtain ⟨others, went⟩ := attendance.run_crowd events
  rw [went]
  exact Crowd.run_stays_grounded grounded others

theorem Kept.concludes {known : Attendance} (kept : known.Kept limit) (after : List Event) :
    Concludes limit known (known.run (.stop :: after)) := by
  have last : (known.run (.stop :: after)).Kept limit := kept.run (.stop :: after)
  have stopping : (known.run (.stop :: after)).stopping = true :=
    @run_stopping (known.step .stop) rfl after
  refine ⟨?_, last.told, fun entry _ => entry.frame_cases limit, last.vacant, ?_, ?_⟩
  · obtain ⟨later, settled, output, dropped, due, fails⟩ := kept.serves (.stop :: after)
    have ordered := List.prefix_or_prefix_of_prefix (List.prefix_append _ _) due
    refine ⟨later, settled, output, ordered, fun closed => ?_⟩
    rw [due_closed closed (last.vacant closed)] at due
    refine fails.imp ?_ And.right
    rintro rfl
    simpa using due
  · exact @run_keeps_grounded (known.step .stop) rfl after
  · intro vacant count moment works
    obtain ⟨kept, still, outside⟩ := works.kept last
    exact ⟨works.bounded last (List.prefix_refl _), fun isOpen =>
      kept.able isOpen (still.trans stopping) (outside.trans vacant)⟩

theorem Kept.unheard (kept : attendance.Kept limit) {bodies : List (List UInt8)} {rest : List UInt8}
    (cut : Frame.Cut (min limit Frame.maxLength) attendance.session.decoder.buffer bodies rest)
    (short : Frame.Incomplete (min limit Frame.maxLength) rest) {events : List Event}
    (silent : ∀ bytes, .arrive bytes ∉ events) :
    let trimmed := (attendance.holding (bodies.flatMap Frame.framed)).run events
    (attendance.run events).crowd = trimmed.crowd ∧
      (attendance.run events).output = trimmed.output := by
  have small := kept.bounded ▸ Frame.min_maxLength_lt limit
  have nothing : Frame.Incomplete (min limit Frame.maxLength) [] := .inl (by decide)
  have whole : attendance.holding (bodies.flatMap Frame.framed ++ rest) = attendance := by
    rw [← cut.whole]
    rfl
  rw [← kept.bounded] at short nothing
  -- The same comes of the events with these bytes and with none in their place.
  obtain ⟨next, left, _, _, same⟩ := run_behind small (kept.bounded ▸ cut.fits) silent
  have full := same rest short
  have without := same [] nothing
  rw [whole] at full
  rw [List.append_nil] at without
  rw [full, without]
  exact ⟨rfl, rfl⟩

/-- A session is told that the server stops, at any moment, and the server has grounded all drones by
then. What is due is settled in order, all of it before the session closes, unless a reply fails; a reply
tells what became of its request and goes out in a frame, no request is left without one, and the session
has something to do until it is closed, up to a limit, where no outsider holds a matrix. At every moment
it does with a frame what it does by itself. From the moment at which drones are grounded, requests for
them to fly change nothing, and the bytes of a frame that does not come in whole never do, nor do they
make a difference to what is sent. -/
theorem stop_concludes {fleet : Fleet} (sound : fleet.Sound) (limit : Nat) (before after : List Event) :
    let events := before ++ .stop :: after
    let reached := (opened fleet limit).run
    Concludes limit (reached before) (reached events) ∧
    (∀ number request, (reached events).crowd.requests[number]? = some request →
      Accounted fleet limit events number request) ∧
    ∀ front back, events = front ++ back → (reached front).Agrees ∧
      ((reached front).crowd.grounded = true → ∀ number request,
        (reached front).crowd.requests[number]? = some request → request.commands = true →
          ((reached front).crowd.advance number).fleet = (reached front).crowd.fleet) ∧
      ((∀ bytes, .arrive bytes ∉ back) → ∀ bodies rest,
        Frame.Cut (min limit Frame.maxLength) (reached front).session.decoder.buffer bodies rest →
        Frame.Incomplete (min limit Frame.maxLength) rest →
          let trimmed := ((reached front).holding (bodies.flatMap Frame.framed)).run back
          (reached events).crowd = trimmed.crowd ∧ (reached events).output = trimmed.output) := by
  intro events reached
  have kept (moment : List Event) : (reached moment).Kept limit := (opened_kept sound limit).run moment
  refine ⟨?_, fun number request => accounted fleet limit events, fun front back split =>
    ⟨agrees _, ?_, ?_⟩⟩
  · have split : reached events = (reached before).run (.stop :: after) := run_append _ _ _
    rw [split]
    exact (kept before).concludes after
  · intro grounded number request
    exact (kept front).aloft.advance grounded
  · intro silent bodies rest cut short
    have moved : reached events = (reached front).run back := split ▸ run_append _ _ _
    rw [moved]
    exact (kept front).unheard cut short silent

/-- A matrix is asked for, and two bytes of another frame have come in. -/
def arriving : List Event :=
  [.arrive (Frame.framed (Frame.body Session.founding) ++ [0, 0]), .take]

/-- The matrix is made, this is told, and the session is closed. -/
def leaving : List Event :=
  [.others (.advance 0), .others (.advance 0), .reply 1700000000000 true, .notice]

theorem stop_concludes_leaving :
    Fleet.empty.Sound ∧
      ((opened .empty 300).run arriving).current.isSome = true ∧
      ((opened .empty 300).run (arriving ++ .stop :: leaving)).session.isOpen = false ∧
      ((opened .empty 300).run (arriving ++ .stop :: leaving)).settled.length = 1 ∧
      ((opened .empty 300).run (arriving ++ .stop :: leaving)).output =
        Session.sent [Session.reply 1700000000000 7 (.matrix ⟨1, ⟨4, 4⟩, []⟩)] ∧
      Concludes 300 ((opened .empty 300).run arriving)
        ((opened .empty 300).run (arriving ++ .stop :: leaving)) :=
  ⟨Fleet.empty_sound, by decide +kernel, by decide +kernel, by decide +kernel,
    by decide +kernel, (stop_concludes Fleet.empty_sound 300 arriving leaving).1⟩

end DroneFleet.Attendance
