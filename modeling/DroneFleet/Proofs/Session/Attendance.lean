import DroneFleet.Proofs.Crowd.Grounding
import DroneFleet.Proofs.Crowd.Listings
import DroneFleet.Proofs.Crowd.Progress
import DroneFleet.Proofs.Session.Transcript
import DroneFleet.Session.Attendance

/-!
What every step of a session among others preserves. What is due at some moment is settled in order,
until a reply fails (`Serves`); every request that a session has made is being dealt with or has been
replied to (`accounted`); and while the session is open there is something left to do, though less and
less (`Kept.able`, `Kept.step_load`).
-/
namespace DroneFleet.Attendance

variable {attendance next : Attendance} {limit : Nat}

/-! ### What can happen -/

inductive Does (attendance : Attendance) : Event → Attendance → Prop
  | reads {bytes : List UInt8} (reading : attendance.isReading = true) :
      Does attendance (.arrive bytes)
        { attendance with session.decoder := attendance.session.decoder.feed bytes }
  | refuses {fault : Frame.Fault} {decoder : Frame.Decoder} (idle : attendance.isIdle = true)
      (taken : attendance.session.decoder.next? = some (.error fault, decoder)) :
      Does attendance .take { attendance with session := { attendance.session with decoder }.close }
  | asks {envelope : Envelope} {decoder : Frame.Decoder} {request : Request}
      (idle : attendance.isIdle = true)
      (taken : attendance.session.decoder.next? = some (.ok envelope, decoder))
      (asked : envelope.payload = .request request) :
      Does attendance .take
        { attendance with
          session := attendance.session.accept decoder envelope
          current := some ⟨envelope, attendance.crowd.requests.length⟩
          crowd := attendance.crowd.submit request }
  | errs {envelope : Envelope} {decoder : Frame.Decoder} {response : Response}
      (idle : attendance.isIdle = true)
      (taken : attendance.session.decoder.next? = some (.ok envelope, decoder))
      (told : envelope.payload = .response response) :
      Does attendance .take
        { attendance with
          session := attendance.session.accept decoder envelope
          current := some ⟨envelope, attendance.crowd.requests.length⟩ }
  | replies {matter : Matter} {response : Response} {now : Nat} {carried : Bool}
      (dealing : attendance.current = some matter)
      (answered : matter.answer? attendance.crowd = some response) :
      Does attendance (.reply now carried)
        { attendance with
          session := attendance.session.deliver carried (Settled.answer ⟨matter, now, response, carried⟩)
          current := none
          settled := attendance.settled ++ [⟨matter, now, response, carried⟩]
          output := attendance.output ++
            Settled.frame attendance.session.limit ⟨matter, now, response, carried⟩ }
  | closes {event : Event} (reading : attendance.isReading = true) :
      Does attendance event attendance.close
  | others (event : Crowd.Event) :
      Does attendance (.others event) { attendance with crowd := attendance.crowd.step event }
  | stops : Does attendance .stop
      { attendance with crowd := attendance.crowd.step .ground, stopping := true }

theorem step_cases (attendance : Attendance) (event : Event) :
    attendance.step event = attendance ∨ Does attendance event (attendance.step event) := by
  cases event with
  | arrive bytes =>
    simp only [step, arrive]
    split
    · rename_i reading
      exact .inr (.reads reading)
    · exact .inl rfl
  | take =>
    simp only [step, take]
    split
    · rename_i idle
      split
      · exact .inl rfl
      · rename_i taken
        exact .inr (.refuses idle taken)
      · rename_i envelope decoder taken
        cases asked : envelope.payload with
        | request request => exact .inr (.asks idle taken asked)
        | response response => exact .inr (.errs idle taken asked)
    · exact .inl rfl
  | reply now carried =>
    simp only [step, reply]
    split
    · exact .inl rfl
    · rename_i matter dealing
      split
      · exact .inl rfl
      · rename_i response answered
        exact .inr (.replies dealing answered)
  | notice =>
    simp only [step]
    split
    · rename_i ready
      exact .inr (.closes (Bool.and_eq_true_iff.mp ready).2)
    · exact .inl rfl
  | leave =>
    simp only [step]
    split
    · rename_i reading
      exact .inr (.closes reading)
    · exact .inl rfl
  | others event => exact .inr (.others event)
  | stop => exact .inr .stops

theorem isIdle_iff : attendance.isIdle = true ↔
    attendance.session.isOpen = true ∧ attendance.current = none := by
  rw [isIdle, Bool.and_eq_true, Option.isNone_iff_eq_none]

theorem isReading_iff : attendance.isReading = true ↔
    attendance.isIdle = true ∧ attendance.session.decoder.next? = none := by
  rw [isReading, Bool.and_eq_true, Option.isNone_iff_eq_none]

end DroneFleet.Attendance

namespace DroneFleet

theorem Settled.frame_cases (limit : Nat) (settled : Settled) :
    settled.Fails limit ∧ settled.frame limit = [] ∨
      ¬ settled.Fails limit ∧
        settled.frame limit = Frame.framed (Frame.body settled.answer) := by
  rw [Fails, frame, Frame.encode_eq]
  cases settled.carried with
  | false => exact .inl ⟨.inl rfl, rfl⟩
  | true =>
    by_cases long : min limit Frame.maxLength < (Frame.body settled.answer).length
    · rw [if_pos long]
      exact .inl ⟨.inr ⟨_, rfl⟩, rfl⟩
    · rw [if_neg long]
      refine .inr ⟨?_, rfl⟩
      rintro (lost | ⟨fault, refused⟩)
      · cases lost
      · cases refused

end DroneFleet

namespace DroneFleet.Session

variable {session : Session} {carried : Bool} {answer : Envelope}

@[simp] theorem accept_limit (session : Session) (decoder : Frame.Decoder) (envelope : Envelope) :
    (session.accept decoder envelope).limit = session.limit := by
  rw [accept, introduce_limit]

@[simp] theorem accept_isOpen (session : Session) (decoder : Frame.Decoder) (envelope : Envelope) :
    (session.accept decoder envelope).isOpen = session.isOpen := by
  rw [accept, introduce_isOpen]

@[simp] theorem accept_decoder (session : Session) (decoder : Frame.Decoder) (envelope : Envelope) :
    (session.accept decoder envelope).decoder = decoder := by
  rw [accept, introduce_decoder]

@[simp] theorem deliver_limit (session : Session) (carried : Bool) (answer : Envelope) :
    (session.deliver carried answer).limit = session.limit := by
  unfold deliver
  split
  · split <;> rfl
  · rfl

@[simp] theorem deliver_decoder (session : Session) (carried : Bool) (answer : Envelope) :
    (session.deliver carried answer).decoder = session.decoder := by
  unfold deliver
  split
  · split <;> rfl
  · rfl

theorem deliver_cases (session : Session) (carried : Bool) (answer : Envelope) :
    session.deliver carried answer = session ∨
      session.deliver carried answer = session.close ∧
        (carried = false ∨ ∃ fault, Frame.encode session.limit answer = .error fault) := by
  unfold deliver
  split
  · cases carried with
    | false => exact .inr ⟨rfl, .inl rfl⟩
    | true => exact .inl rfl
  · rename_i fault refused
    exact .inr ⟨rfl, .inr ⟨fault, refused⟩⟩

end DroneFleet.Session

namespace DroneFleet.Attendance

variable {attendance : Attendance} {limit : Nat}

/-! ### A session that has the fleet for itself -/

theorem run_append (attendance : Attendance) (before after : List Event) :
    attendance.run (before ++ after) = (attendance.run before).run after :=
  List.foldl_append

theorem run_others (attendance : Attendance) (events : List Crowd.Event) :
    attendance.run (events.map .others) = { attendance with crowd := attendance.crowd.run events } := by
  induction events generalizing attendance with
  | nil => rfl
  | cons event rest ih => exact ih { attendance with crowd := attendance.crowd.step event }

/-- With its next frame a session does what it does by itself, if it is given the answer that some fleet
has for it. -/
def Agrees (attendance : Attendance) : Prop :=
  ∀ (envelope : Envelope) (decoder : Frame.Decoder) (others : List Crowd.Event) (now : Nat)
    (grounded : Bool) (fleet : Fleet), attendance.isIdle = true →
    attendance.session.decoder.next? = some (.ok envelope, decoder) →
    Matter.answer? ⟨envelope, attendance.crowd.requests.length⟩ (attendance.take.crowd.run others) =
      some (Session.respond grounded fleet envelope.payload).1 →
    let last := attendance.run (.take :: (others.map .others ++ [.reply now true]))
    ∃ bytes, last.output = attendance.output ++ bytes ∧
      attendance.session.step? now grounded fleet =
        some (bytes, (Session.respond grounded fleet envelope.payload).2, last.session)

theorem agrees (attendance : Attendance) : attendance.Agrees := by
  intro envelope decoder others now grounded fleet idle taken answered last
  have accepted : attendance.take.session = attendance.session.accept decoder envelope ∧
      attendance.take.current = some ⟨envelope, attendance.crowd.requests.length⟩ ∧
      attendance.take.output = attendance.output := by
    simp only [take, idle, taken, if_true, and_self]
  obtain ⟨session, current, output⟩ := accepted
  have replied : last =
      { attendance.take with crowd := attendance.take.crowd.run others }.reply now true := by
    rw [← run_others]
    exact run_append attendance.take _ _
  rw [replied, Session.step?_deliver (isIdle_iff.mp idle).1 taken]
  simp only [reply, current, answered, session, output]
  exact ⟨_, rfl, rfl⟩

/-! ### What the crowd sees of it -/

theorem step_crowd (attendance : Attendance) (event : Event) :
    ∃ events, (attendance.step event).crowd = attendance.crowd.run events := by
  rcases attendance.step_cases event with same | does
  · rw [same]
    exact ⟨[], rfl⟩
  · generalize attendance.step event = next at does ⊢
    cases does with
    | @asks _ _ request => exact ⟨[.submit request], rfl⟩
    | others event => exact ⟨[event], rfl⟩
    | stops => exact ⟨[.ground], rfl⟩
    | _ => exact ⟨[], rfl⟩

theorem run_crowd (attendance : Attendance) (events : List Event) :
    ∃ others, (attendance.run events).crowd = attendance.crowd.run others := by
  induction events generalizing attendance with
  | nil => exact ⟨[], rfl⟩
  | cons event rest ih =>
    obtain ⟨first, stepped⟩ := attendance.step_crowd event
    obtain ⟨later, went⟩ := ih (attendance.step event)
    refine ⟨first ++ later, ?_⟩
    rw [Crowd.run_append, ← stepped]
    exact went

def Pursued (crowd : Crowd) (matter : Matter) : Prop :=
  ∀ request, matter.envelope.payload = .request request →
    crowd.requests[matter.number]? = some request ∧
      ∃ stage, crowd.stages.get? matter.number = some stage

theorem Pursued.run {crowd : Crowd} {whole : Fleet} {matter : Matter} (pursued : Pursued crowd matter)
    (orderly : crowd.Orderly whole) (events : List Crowd.Event) : Pursued (crowd.run events) matter := by
  induction events generalizing crowd whole with
  | nil => exact pursued
  | cons event rest ih =>
    obtain ⟨settled, next⟩ := orderly.step event
    refine ih (fun request asked => ?_) next
    obtain ⟨made, stage, here⟩ := pursued request asked
    exact ⟨Crowd.step_asked made event, orderly.step_here here event⟩

theorem answer?_run {crowd : Crowd} {whole : Fleet} {matter : Matter} {response : Response}
    (answered : matter.answer? crowd = some response) (orderly : crowd.Orderly whole)
    (events : List Crowd.Event) : matter.answer? (crowd.run events) = some response := by
  unfold Matter.answer? at answered ⊢
  cases asked : matter.envelope.payload with
  | request request =>
    rw [asked] at answered
    exact orderly.run_answer answered events
  | response other =>
    rw [asked] at answered
    exact answered

/-! ### What stays so -/

structure Kept (limit : Nat) (attendance : Attendance) : Prop where
  limited : attendance.session.limit = limit
  bounded : attendance.session.decoder.limit = min limit Frame.maxLength
  vacant : attendance.session.isOpen = false → attendance.current = none
  orderly : ∃ whole, attendance.crowd.Orderly whole
  aloft : attendance.crowd.Aloft
  dealing : ∀ matter, attendance.current = some matter → Pursued attendance.crowd matter
  told : ∀ entry ∈ attendance.settled, Pursued attendance.crowd entry.matter ∧
    entry.matter.answer? attendance.crowd = some entry.response

theorem opened_kept {fleet : Fleet} (sound : fleet.Sound) (limit : Nat) :
    (opened fleet limit).Kept limit where
  limited := rfl
  bounded := rfl
  vacant closed := by cases closed
  orderly := ⟨fleet, Crowd.new_orderly sound⟩
  aloft := Crowd.new_aloft fleet
  dealing matter dealing := by cases dealing
  told entry member := by cases member

theorem Kept.crowd (kept : attendance.Kept limit) (events : List Crowd.Event) (stopping : Bool) :
    { attendance with crowd := attendance.crowd.run events, stopping := stopping }.Kept limit := by
  obtain ⟨whole, orderly⟩ := kept.orderly
  exact
    { limited := kept.limited
      bounded := kept.bounded
      vacant := kept.vacant
      orderly := orderly.run events
      aloft := orderly.aloft_run kept.aloft events
      dealing := fun matter dealing => (kept.dealing matter dealing).run orderly events
      told := fun entry member =>
        ⟨(kept.told entry member).1.run orderly events, answer?_run (kept.told entry member).2 orderly events⟩ }

theorem Kept.take (kept : attendance.Kept limit) {envelope : Envelope} {decoder : Frame.Decoder}
    (idle : attendance.isIdle = true)
    (taken : attendance.session.decoder.next? = some (.ok envelope, decoder)) (number : Nat)
    (pursued : Pursued attendance.crowd ⟨envelope, number⟩) :
    { attendance with
      session := attendance.session.accept decoder envelope
      current := some ⟨envelope, number⟩ }.Kept limit :=
  { kept with
    limited := (Session.accept_limit _ _ _).trans kept.limited
    bounded := by
      rw [Session.accept_decoder, Frame.Decoder.limit_of_next? taken]
      exact kept.bounded
    vacant := fun closed => by
      rw [Session.accept_isOpen, (isIdle_iff.mp idle).1] at closed
      cases closed
    dealing := fun matter dealing => Option.some.inj dealing ▸ pursued }

theorem Kept.step (kept : attendance.Kept limit) (event : Event) : (attendance.step event).Kept limit := by
  rcases attendance.step_cases event with same | does
  · rw [same]
    exact kept
  generalize attendance.step event = next at does
  cases does with
  | reads reading => exact { kept with bounded := kept.bounded }
  | refuses idle taken =>
    exact { kept with
      bounded := (Frame.Decoder.limit_of_next? taken).trans kept.bounded
      vacant := fun _ => (isIdle_iff.mp idle).2 }
  | @asks envelope decoder request idle taken asked =>
    have made := kept.crowd [.submit request] attendance.stopping
    refine made.take idle taken attendance.crowd.requests.length fun other same => ?_
    obtain rfl : request = other := Payload.request.inj (asked.symm.trans same)
    exact ⟨List.getElem?_concat_length, .start request, by
      rw [Crowd.run, List.foldl_cons, List.foldl_nil, Crowd.step, Crowd.submit, Crowd.moveTo,
        Table.get?_insert, if_pos rfl]⟩
  | errs idle taken told =>
    exact kept.take idle taken _ fun request asked => by
      rw [told] at asked
      cases asked
  | @replies matter response now carried dealing answered =>
    exact { kept with
      limited := (Session.deliver_limit _ _ _).trans kept.limited
      bounded := by
        rw [Session.deliver_decoder]
        exact kept.bounded
      vacant := fun _ => rfl
      dealing := fun _ dealing => by cases dealing
      told := fun entry member => by
        rcases List.mem_append.mp member with before | new
        · exact kept.told entry before
        · obtain rfl := List.mem_singleton.mp new
          exact ⟨kept.dealing matter dealing, answered⟩ }
  | closes reading =>
    exact { kept with vacant := fun _ => (isIdle_iff.mp (isReading_iff.mp reading).1).2 }
  | others event => exact kept.crowd [event] attendance.stopping
  | stops => exact kept.crowd [.ground] true

theorem Kept.run (kept : attendance.Kept limit) (events : List Event) :
    (attendance.run events).Kept limit := by
  induction events generalizing attendance with
  | nil => exact kept
  | cons event rest ih => exact ih (kept.step event)

/-! ### What is due -/

/-- Between two moments the replies were sent to what was due, in order, and it is due no longer, unless
the last of them failed. -/
structure Serves (limit : Nat) (before after : Attendance) (later : List Settled) : Prop where
  settled : after.settled = before.settled ++ later
  output : after.output = before.output ++ later.flatMap (Settled.frame limit)
  ordered : ∃ dropped, before.due <+: later.map Settled.envelope ++ (after.due ++ dropped) ∧
    (dropped = [] ∨ after.session.isOpen = false ∧ ∃ front last, later = front ++ [last] ∧ last.Fails limit)

theorem Serves.quietly {before after : Attendance} (settled : after.settled = before.settled)
    (output : after.output = before.output) (due : before.due <+: after.due) :
    Serves limit before after [] where
  settled := by rw [settled, List.append_nil]
  output := by rw [output, List.flatMap_nil, List.append_nil]
  ordered := ⟨[], by rwa [List.map_nil, List.nil_append, List.append_nil], .inl rfl⟩

theorem due_idle (idle : attendance.isIdle = true) :
    attendance.due = attendance.session.decoder.drain.1 := by
  obtain ⟨isOpen, vacant⟩ := isIdle_iff.mp idle
  rw [due, vacant, if_pos isOpen]
  rfl

theorem due_reading (reading : attendance.isReading = true) : attendance.due = [] := by
  obtain ⟨idle, nothing⟩ := isReading_iff.mp reading
  rw [due_idle idle, Frame.Decoder.drain_of_none nothing]

theorem due_closed (closed : attendance.session.isOpen = false) (vacant : attendance.current = none) :
    attendance.due = [] := by
  rw [due, vacant, if_neg (by rw [closed]; exact Bool.false_ne_true)]
  rfl

theorem due_accepted {envelope : Envelope} {decoder : Frame.Decoder} (idle : attendance.isIdle = true)
    (taken : attendance.session.decoder.next? = some (.ok envelope, decoder)) (number : Nat)
    (crowd : Crowd) :
    { attendance with
      session := attendance.session.accept decoder envelope
      current := some ⟨envelope, number⟩
      crowd := crowd }.due = attendance.due := by
  have isOpen := (isIdle_iff.mp idle).1
  rw [due_idle idle, Frame.Decoder.drain_of_ok taken, due]
  simp only [Session.accept_isOpen, isOpen, if_true, Session.accept_decoder]
  rfl

theorem Kept.serves_step (kept : attendance.Kept limit) (event : Event) :
    ∃ later, Serves limit attendance (attendance.step event) later := by
  rcases attendance.step_cases event with same | does
  · rw [same]
    exact ⟨[], .quietly rfl rfl (List.prefix_refl _)⟩
  generalize attendance.step event = next at does ⊢
  cases does with
  | reads reading => exact ⟨[], .quietly rfl rfl (due_reading reading ▸ List.nil_prefix)⟩
  | refuses idle taken =>
    refine ⟨[], .quietly rfl rfl ?_⟩
    rw [due_idle idle, Frame.Decoder.drain_of_error taken]
    exact List.nil_prefix
  | asks idle taken | errs idle taken =>
    refine ⟨[], .quietly rfl rfl ?_⟩
    rw [due_accepted idle taken]
  | @replies matter response now carried dealing answered =>
    have isOpen : attendance.session.isOpen = true := by
      cases closed : attendance.session.isOpen with
      | true => rfl
      | false =>
        rw [kept.vacant closed] at dealing
        cases dealing
    have owed : attendance.due = matter.envelope :: attendance.session.decoder.drain.1 := by
      rw [due, dealing, if_pos isOpen]
      rfl
    refine ⟨[⟨matter, now, response, carried⟩], rfl, ?_, ?_⟩
    · rw [List.flatMap_singleton, ← kept.limited]
    rw [owed]
    rcases attendance.session.deliver_cases carried (Settled.answer ⟨matter, now, response, carried⟩) with
      sent | ⟨closed, fails⟩
    · refine ⟨[], ?_, .inl rfl⟩
      rw [sent, due, if_pos isOpen, List.append_nil]
      exact List.prefix_refl _
    · rw [kept.limited] at fails
      rw [closed]
      exact ⟨_, List.prefix_refl _, .inr ⟨rfl, [], _, rfl, fails⟩⟩
  | closes reading => exact ⟨[], .quietly rfl rfl (due_reading reading ▸ List.nil_prefix)⟩
  | others | stops => exact ⟨[], .quietly rfl rfl (List.prefix_refl _)⟩

theorem closed_step (closed : attendance.session.isOpen = false) (vacant : attendance.current = none)
    (event : Event) :
    (attendance.step event).session = attendance.session ∧ (attendance.step event).current = none ∧
      (attendance.step event).settled = attendance.settled ∧
      (attendance.step event).output = attendance.output := by
  have awake : attendance.isIdle = false := by rw [isIdle, closed, Bool.false_and]
  have unread : attendance.isReading = false := by rw [isReading, awake, Bool.false_and]
  rcases attendance.step_cases event with same | does
  · rw [same]
    exact ⟨rfl, vacant, rfl, rfl⟩
  generalize attendance.step event = next at does ⊢
  cases does with
  | reads reading | closes reading =>
    rw [unread] at reading
    cases reading
  | refuses idle | asks idle | errs idle =>
    rw [awake] at idle
    cases idle
  | replies dealing =>
    rw [vacant] at dealing
    cases dealing
  | others | stops => exact ⟨rfl, vacant, rfl, rfl⟩

theorem closed_run (closed : attendance.session.isOpen = false) (vacant : attendance.current = none)
    (events : List Event) :
    (attendance.run events).session = attendance.session ∧ (attendance.run events).current = none ∧
      (attendance.run events).settled = attendance.settled ∧
      (attendance.run events).output = attendance.output := by
  induction events generalizing attendance with
  | nil => exact ⟨rfl, vacant, rfl, rfl⟩
  | cons event rest ih =>
    obtain ⟨session, current, settled, output⟩ := closed_step closed vacant event
    obtain ⟨sessions, currents, settleds, outputs⟩ := ih (by rw [session, closed]) current
    exact ⟨sessions.trans session, currents, settleds.trans settled, outputs.trans output⟩

theorem Kept.closed_run (kept : attendance.Kept limit) (closed : attendance.session.isOpen = false)
    (events : List Event) :
    (attendance.run events).session.isOpen = false ∧
      (attendance.run events).settled = attendance.settled ∧
      (attendance.run events).output = attendance.output ∧ attendance.due = [] ∧
      (attendance.run events).due = [] := by
  obtain ⟨session, current, settled, output⟩ :=
    Attendance.closed_run closed (kept.vacant closed) events
  have still : (attendance.run events).session.isOpen = false := by rw [session, closed]
  exact ⟨still, settled, output, due_closed closed (kept.vacant closed), due_closed still current⟩

/-- Up to the moment at which a reply fails, everything that is due is settled in order. -/
theorem Kept.serves (kept : attendance.Kept limit) (events : List Event) :
    ∃ later, Serves limit attendance (attendance.run events) later := by
  induction events generalizing attendance with
  | nil => exact ⟨[], .quietly rfl rfl (List.prefix_refl _)⟩
  | cons event rest ih =>
    obtain ⟨first, settled, output, dropped, due, fails⟩ := kept.serves_step event
    obtain ⟨second, settledToo, outputToo, lost, later, failsToo⟩ := ih (kept.step event)
    refine ⟨first ++ second, ?_, ?_, ?_⟩
    · rw [← List.append_assoc, ← settled]
      exact settledToo
    · rw [List.flatMap_append, ← List.append_assoc, ← output]
      exact outputToo
    -- Either nothing is lost by the first event, or it closes the session and nothing comes after it.
    rcases fails with rfl | ⟨closed, last⟩
    · refine ⟨lost, ?_, failsToo.imp_right ?_⟩
      · rw [List.append_nil] at due
        rw [List.map_append, List.append_assoc]
        exact due.trans ((List.prefix_append_right_inj _).mpr later)
      · rintro ⟨closed, before, last, rfl, fails⟩
        exact ⟨closed, first ++ before, last, (List.append_assoc _ _ _).symm, fails⟩
    · obtain ⟨still, same, _, nothing, quiet⟩ := (kept.step event).closed_run closed rest
      obtain rfl : second = [] := List.append_right_eq_self.mp (settledToo.symm.trans same)
      rw [nothing] at due
      rw [List.append_nil]
      refine ⟨dropped, ?_, .inr ⟨still, last⟩⟩
      rw [show Attendance.due (attendance.run (event :: rest)) = [] from quiet]
      exact due

/-! ### Who has made a request -/

theorem crowd_requests (crowd : Crowd) (event : Crowd.Event) :
    (crowd.step event).requests = crowd.requests ∨
      ∃ request, event = .submit request ∧ (crowd.step event).requests = crowd.requests ++ [request] := by
  cases event with
  | submit request => exact .inr ⟨request, rfl, rfl⟩
  | advance number => exact .inl (Crowd.advance_requests crowd number)
  | hold id =>
    simp only [Crowd.step, Crowd.hold]
    split <;> exact .inl rfl
  | release id | ground => exact .inl rfl

theorem getElem?_concat_cases {α : Type} {items : List α} {item other : α} {place : Nat}
    (here : (items ++ [item])[place]? = some other) :
    items[place]? = some other ∨ place = items.length ∧ item = other := by
  rw [List.getElem?_append] at here
  split at here
  · exact .inl here
  · rename_i beyond
    rw [List.getElem?_singleton] at here
    split at here
    · exact .inr ⟨by omega, Option.some.inj here⟩
    · cases here

def Holds (attendance : Attendance) (matter : Matter) : Prop :=
  attendance.current = some matter ∨ ∃ entry ∈ attendance.settled, entry.matter = matter

/-- A request was made by somebody else, or the session is dealing with it or has replied to it. -/
def Accounted (fleet : Fleet) (limit : Nat) (events : List Event) (number : Nat) (request : Request) : Prop :=
  (∃ front back, events = front ++ .others (.submit request) :: back ∧
    ((opened fleet limit).run front).crowd.requests.length = number) ∨
  ∃ matter : Matter, matter.number = number ∧ matter.envelope.payload = .request request ∧
    ((opened fleet limit).run events).Holds matter

theorem step_holds {matter : Matter} (holds : attendance.Holds matter) (event : Event) :
    (attendance.step event).Holds matter := by
  rcases attendance.step_cases event with same | does
  · rw [same]
    exact holds
  generalize attendance.step event = next at does ⊢
  cases does with
  | asks idle | errs idle =>
    rcases holds with dealing | settled
    · rw [(isIdle_iff.mp idle).2] at dealing
      cases dealing
    · exact .inr settled
  | replies dealing answered =>
    right
    rcases holds with held | ⟨entry, member, same⟩
    · rw [dealing] at held
      cases held
      exact ⟨_, List.mem_append_right _ (List.mem_singleton_self _), rfl⟩
    · exact ⟨entry, List.mem_append_left _ member, same⟩
  | _ => exact holds

theorem step_made {event : Event} {number : Nat} {request : Request}
    (made : (attendance.step event).crowd.requests[number]? = some request) :
    attendance.crowd.requests[number]? = some request ∨
    number = attendance.crowd.requests.length ∧ (event = .others (.submit request) ∨
      ∃ matter : Matter, matter.number = number ∧ matter.envelope.payload = .request request ∧
        (attendance.step event).Holds matter) := by
  rcases attendance.step_cases event with same | does
  · rw [same] at made
    exact .inl made
  generalize attendance.step event = next at does made ⊢
  cases does with
  | asks idle taken asked =>
    refine (getElem?_concat_cases made).imp_right ?_
    rintro ⟨rfl, rfl⟩
    exact ⟨rfl, .inr ⟨_, rfl, asked, .inl rfl⟩⟩
  | others event =>
    rcases crowd_requests attendance.crowd event with same | ⟨other, rfl, longer⟩
    · exact .inl (same ▸ made)
    · refine (getElem?_concat_cases (longer ▸ made)).imp_right ?_
      rintro ⟨rfl, rfl⟩
      exact ⟨rfl, .inl rfl⟩
  | _ => exact .inl made

theorem accounted (fleet : Fleet) (limit : Nat) (events : List Event) {number : Nat} {request : Request}
    (made : ((opened fleet limit).run events).crowd.requests[number]? = some request) :
    Accounted fleet limit events number request := by
  induction events using List.reverseRecOn generalizing number request with
  | nil => cases made
  | append_singleton events event ih =>
    have stepped : (opened fleet limit).run (events ++ [event]) =
        ((opened fleet limit).run events).step event := run_append _ _ _
    rw [stepped] at made
    rcases step_made made with known | ⟨numbered, rfl | ⟨matter, numbered', asked, holds⟩⟩
    · rcases ih known with ⟨front, back, rfl, length⟩ | ⟨matter, numbered, asked, holds⟩
      · exact .inl ⟨front, back ++ [event], by simp, length⟩
      · exact .inr ⟨matter, numbered, asked, stepped ▸ step_holds holds event⟩
    · exact .inl ⟨events, [], rfl, numbered.symm⟩
    · exact .inr ⟨matter, numbered', asked, stepped ▸ holds⟩

end DroneFleet.Attendance
