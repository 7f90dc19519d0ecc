import DroneFleet.Proofs.Contention.Settling

/-!
What one event does to the stages of all requests (`Kept.step_cases`): at most one request takes a step
of its own, and at most one takes a matrix that it has waited for. While all others rest nothing is
half written, so the fleet is sound at every step of a request that has still to do its deed. Where all
run as far as they get after each event, the run is cooperative (`script_cooperative`).
-/
namespace DroneFleet

theorem Stage.pending?_of_rests {stage : Stage} (rests : stage.rests = true) :
    stage.pending? = none := by
  cases stage <;> first | rfl | cases rests

namespace Contention

variable {contention before after : Contention} {requests : List Request} {fleet : Fleet}
  {number : Nat}

theorem Kept.sound (kept : contention.Kept requests)
    (quiet : ∀ number stage, contention.stages.get? number = some stage → stage.pending? = none) :
    contention.fleet.Sound := by
  obtain ⟨whole, orderly⟩ := kept.lawful.orderly
  have same : whole = contention.fleet := orderly.settles.fleet_eq quiet
  exact same ▸ orderly.sound

theorem GivesWay.rests {event : Event} (givesWay : contention.GivesWay event) {stage : Stage}
    (here : contention.stages.get? number = some stage) :
    stage.rests = true ∨ event = .pick number :=
  givesWay (number, stage) (Table.mem_entries.mpr here)

theorem Kept.sound_at (kept : contention.Kept requests) (givesWay : contention.GivesWay (.pick number))
    {stage : Stage} (here : contention.stages.get? number = some stage)
    (plain : stage.pending? = none) : contention.fleet.Sound := by
  apply kept.sound
  intro other found there
  rcases givesWay.rests there with rests | same
  · exact Stage.pending?_of_rests rests
  · cases same
    rw [here] at there
    cases there
    exact plain

/-! ### One event -/

def Given (stage next : Stage) : Prop :=
  next = stage ∨ ∃ id purpose, stage = .enter id purpose ∧ next = .inside id purpose

theorem Given.pending? {stage next : Stage} (given : Given stage next)
    (plain : stage.pending? = none) : next.pending? = none := by
  obtain rfl | ⟨id, purpose, rfl, rfl⟩ := given
  · exact plain
  · rfl

theorem Given.rests {stage next : Stage} (given : Given stage next) (rests : stage.rests = true) :
    next.rests = true := by
  obtain rfl | ⟨id, purpose, rfl, rfl⟩ := given
  · exact rests
  · rfl

/-- Nobody takes a step: a request is new, or is where it was, or has been given its matrix. -/
structure Rests (before : Contention) (event : Event) (after : Contention) : Prop where
  fleet : after.fleet = before.fleet
  stages : ∀ number next, after.stages.get? number = some next →
    (∃ request, event = .submit request ∧ next = .start request) ∨
    ∃ stage, before.stages.get? number = some stage ∧ Given stage next

structure Advances (before : Contention) (requests : List Request) (number : Nat)
    (request : Request) (stage next : Stage) (after : Contention) : Prop where
  asked : requests[number]? = some request
  here : before.stages.get? number = some stage
  step : stage.next before.grounded before.fleet = (next, after.fleet)
  move : Crowd.Move (before.crowd requests) request stage next after.fleet
  stages : ∀ other found, after.stages.get? other = some found →
    other = number ∧ Given next found ∨
    other ≠ number ∧ ∃ earlier, before.stages.get? other = some earlier ∧ Given earlier found

theorem Hands.given (hands : Hands before after) : after.fleet = before.fleet ∧
    ∀ number next, after.stages.get? number = some next →
      ∃ stage, before.stages.get? number = some stage ∧ Given stage next := by
  cases hands with
  | nobody same =>
    subst same
    exact ⟨rfl, fun number next there => ⟨next, there, .inl rfl⟩⟩
  | @somebody waiter id purpose here free taken ready =>
    have moved := (taken []).trans (advance_enter here free [])
    refine ⟨congrArg Crowd.fleet moved, ?_⟩
    intro number next there
    have stages : after.stages = before.stages.insert waiter (.inside id purpose) :=
      congrArg Crowd.stages moved
    rw [stages] at there
    rcases Crowd.insert_cases there with ⟨rfl, rfl⟩ | ⟨_, old⟩
    · exact ⟨_, here, .inr ⟨id, purpose, rfl, rfl⟩⟩
    · exact ⟨next, old, .inl rfl⟩

theorem Rests.of_same {event : Event} (fleet : after.fleet = before.fleet)
    (stages : after.stages = before.stages) : Rests before event after :=
  ⟨fleet, fun _ next there => .inr ⟨next, stages ▸ there, .inl rfl⟩⟩

theorem Kept.pick_cases (kept : contention.Kept requests) (number : Nat) :
    Rests contention (.pick number) (contention.pick number) ∨ ∃ request stage next,
      Advances contention requests number request stage next (contention.pick number) := by
  obtain ⟨whole, orderly⟩ := kept.lawful.orderly
  by_cases member : number ∈ contention.ready
  · cases (kept.queued.pick orderly member).2 with
    | rests _ _ same _ =>
      exact .inl (.of_same (congrArg Crowd.fleet (same [])) (congrArg Crowd.stages (same [])))
    | @moves stage moved here unblocked step ready hands =>
      obtain ⟨request, asked, _⟩ := orderly.belongs number stage here
      obtain ⟨next, after, stepped, move⟩ := orderly.moves here (unblocked requests) asked
      have reached := (step requests).trans (Crowd.advance_eq here (unblocked requests) stepped)
      have same : moved.fleet = after := congrArg Crowd.fleet reached
      have stages : moved.stages = contention.stages.insert number next :=
        congrArg Crowd.stages reached
      obtain ⟨kept, given⟩ := hands.given
      have final : (contention.pick number).fleet = after := kept.trans same
      refine .inr ⟨request, stage, next, asked, here, final.symm ▸ stepped, final.symm ▸ move, ?_⟩
      intro other found there
      obtain ⟨earlier, passed, taken⟩ := given other found there
      rw [stages] at passed
      rcases Crowd.insert_cases passed with ⟨rfl, rfl⟩ | ⟨different, old⟩
      · exact .inl ⟨rfl, taken⟩
      · exact .inr ⟨different, earlier, old, taken⟩
  · rw [Contention.pick, if_neg member]
    exact .inl (.of_same rfl rfl)

theorem Kept.step_cases (kept : contention.Kept requests) (event : Event) :
    Rests contention event (contention.step event) ∨ ∃ number request stage next,
      event = .pick number ∧
      Advances contention requests number request stage next (contention.step event) := by
  cases event with
  | submit request =>
    refine .inl ⟨rfl, ?_⟩
    intro number next there
    rcases Crowd.insert_cases there with ⟨_, rfl⟩ | ⟨_, old⟩
    · exact .inl ⟨request, rfl, rfl⟩
    · exact .inr ⟨next, old, .inl rfl⟩
  | pick number =>
    rcases kept.pick_cases number with rests | ⟨request, stage, next, advances⟩
    · exact .inl rests
    · exact .inr ⟨number, request, stage, next, rfl, advances⟩
  | hold id =>
    left
    rw [Contention.step, Contention.hold]
    split
    · exact .of_same rfl rfl
    · split <;> exact .of_same rfl rfl
  | release id =>
    obtain ⟨whole, orderly⟩ := kept.lawful.orderly
    obtain ⟨fleet, given⟩ := (kept.queued.release orderly id).2.given
    exact .inl ⟨fleet, fun number next there => .inr (given number next there)⟩
  | ground => exact .inl (.of_same rfl rfl)

/-! ### Runs -/

theorem cooperative_append {first second : List Event} :
    contention.Cooperative (first ++ second) ↔
      contention.Cooperative first ∧ (contention.play first).Cooperative second := by
  induction first generalizing contention with
  | nil => exact ⟨fun both => ⟨trivial, both⟩, And.right⟩
  | cons event rest ih =>
    simp only [List.cons_append, Cooperative, ih, and_assoc]
    rfl

def Led (contention : Contention) : Prop :=
  ∀ number stage, contention.stages.get? number = some stage →
    stage.rests = true ∨ contention.ready.head? = some number

theorem Led.givesWay {rest : List Nat} (led : contention.Led)
    (runs : contention.ready = number :: rest) : contention.GivesWay (.pick number) := by
  rintro ⟨other, stage⟩ member
  rcases led other stage (Table.mem_entries.mp member) with rests | first
  · exact .inl rests
  · rw [runs] at first
    cases first
    exact .inr rfl

theorem Led.of_rest {rest : List Nat} (led : contention.Led)
    (runs : contention.ready = number :: rest)
    (rests : ∀ stage, contention.stages.get? number = some stage → stage.rests = true)
    (ready : List Nat) (waiting : List (Nat × Nat)) :
    Led { contention with ready := ready, waiting := waiting } := by
  intro other stage here
  rcases led other stage here with still | first
  · exact .inl still
  · rw [runs] at first
    cases first
    exact .inl (rests stage here)

theorem Led.moveTo (led : contention.Led) {rest : List Nat} (runs : contention.ready = number :: rest)
    (fleet : Fleet) (stage : Stage) : Led ({ contention with fleet }.moveTo number stage) := by
  intro other found there
  rcases Crowd.insert_cases there with ⟨rfl, rfl⟩ | ⟨_, old⟩
  · exact .inr (congrArg List.head? runs)
  · exact led other found old

theorem Led.grant (led : contention.Led) {rest : List Nat} (runs : contention.ready = number :: rest)
    (id : Nat) : (contention.grant id).Led := by
  unfold Contention.grant
  split
  · exact led
  · split
    · intro other found there
      rcases Crowd.insert_cases there with ⟨rfl, rfl⟩ | ⟨_, old⟩
      · exact .inl rfl
      · rcases led other found old with rests | first
        · exact .inl rests
        · right
          rw [runs] at first ⊢
          exact first
    · exact led

theorem Led.tick (led : contention.Led) : contention.tick.Led := by
  unfold Contention.tick
  split
  · exact led
  · rename_i number rest runs
    split
    · rename_i absent
      refine led.of_rest runs ?_ rest contention.waiting
      intro stage here
      rw [absent] at here
      cases here
    · rename_i response here
      refine led.of_rest runs ?_ rest contention.waiting
      intro stage there
      rw [here] at there
      cases there
      rfl
    · rename_i id purpose here
      split
      · exact led.moveTo runs contention.fleet _
      · refine led.of_rest runs ?_ rest _
        intro stage there
        rw [here] at there
        cases there
        rfl
    · dsimp only
      split
      · exact (led.moveTo runs _ _).grant runs _
      · exact led.moveTo runs _ _

/-- To let each request run as far as it gets is cooperative. -/
theorem Led.run (led : contention.Led) (count : Nat) :
    ∃ picks, contention.run count = contention.play picks ∧ contention.Cooperative picks ∧
      made picks = [] := by
  induction count generalizing contention with
  | zero => exact ⟨[], rfl, trivial, rfl⟩
  | succ count ih =>
    cases runs : contention.ready with
    | nil => exact ⟨[], by rw [Contention.run, runs]; rfl, trivial, rfl⟩
    | cons number rest =>
      obtain ⟨picks, same, cooperative, none⟩ := ih led.tick
      rw [tick_eq_pick runs] at same cooperative
      refine ⟨.pick number :: picks, ?_, ⟨led.givesWay runs, cooperative⟩, none⟩
      rw [Contention.run, runs, tick_eq_pick runs, same]
      rfl

theorem Kept.all_rest (kept : contention.Kept requests) (rests : contention.ready = []) {stage : Stage}
    (here : contention.stages.get? number = some stage) : stage.rests = true := by
  rcases kept.queued.queued number stage here with ⟨response, rfl⟩ | ready | ⟨id, waits⟩
  · rfl
  · rw [rests] at ready
    cases ready
  · obtain ⟨⟨purpose, there⟩, _⟩ := kept.queued.waits number id waits
    rw [here] at there
    cases there
    rfl

theorem Kept.led_step (kept : contention.Kept requests) (rests : contention.ready = [])
    (event : Event) : (contention.step event).Led := by
  intro number next there
  left
  rcases kept.step_cases event with quiet | ⟨mover, _, _, _, rfl, _⟩
  · rcases quiet.stages number next there with ⟨_, _, rfl⟩ | ⟨stage, here, given⟩
    · rfl
    · exact given.rests (kept.all_rest rests here)
  · have stays : contention.step (.pick mover) = contention := by
      rw [Contention.step, Contention.pick, rests, if_neg List.not_mem_nil]
    rw [stays] at there
    exact kept.all_rest rests there

/-- A script is a cooperative run, after which nobody can go on. -/
theorem script_cooperative {fleet : Fleet} (sound : fleet.Sound) (script : List Event) :
    ∃ events, (new fleet).script script = (new fleet).play events ∧
      (new fleet).Cooperative events ∧ made events = made script ∧
      ((new fleet).script script).ready = [] := by
  induction script using List.reverseRecOn with
  | nil => exact ⟨[], rfl, trivial, rfl, rfl⟩
  | append_singleton script event ih =>
    obtain ⟨events, same, cooperative, asked, idle⟩ := ih
    have kept := play_kept sound events
    rw [same] at idle
    obtain ⟨picks, run, follows, none⟩ := (kept.led_step idle event).run
      (((new fleet).play events).step event).fuel
    have settled : (new fleet).script (script ++ [event]) =
        (((new fleet).play events).step event).settle := by
      rw [← same]
      exact List.foldl_append
    refine ⟨events ++ event :: picks, ?_, cooperative_append.mpr ⟨cooperative, ?_, follows⟩, ?_, ?_⟩
    · rw [settled, settle, run, play_append]
      rfl
    · intro entry member
      exact .inl (kept.all_rest idle (Table.mem_entries.mp member))
    · have parts : made (event :: picks) = event.made ++ made picks := rfl
      rw [made_append, made_append, parts, none, asked]
      rfl
    · rw [settled, ← play_snoc]
      exact (play_settle sound (events ++ [event])).2.1

end Contention

end DroneFleet
