import Mathlib
import DroneFleet.Proofs.Contention.Queues
import DroneFleet.Proofs.Crowd.Rounds

/-!
What every event of a contention keeps (`Contention.Kept`): as a crowd it stays in order, every request
stays in the queue where it belongs, and none is forgotten.
-/
namespace DroneFleet.Contention

variable {contention before after : Contention} {requests : List Request} {fleet : Fleet}
  {number : Nat}

structure Kept (contention : Contention) (requests : List Request) : Prop where
  lawful : (contention.crowd requests).Lawful
  queued : contention.Queued none
  submitted : contention.submitted = requests.length

theorem new_kept (sound : fleet.Sound) : (new fleet).Kept [] :=
  ⟨Crowd.new_lawful sound, new_queued fleet, rfl⟩

/-! ### What stays over an event -/

/-- The steps of requests leave alone what an outsider has done. -/
structure Same (before after : Contention) : Prop where
  outside : after.outside = before.outside
  submitted : after.submitted = before.submitted
  addressed : after.addressed = before.addressed

theorem grant_same (contention : Contention) (id : Nat) :
    Same contention (contention.grant id) := by
  unfold grant
  split
  · exact ⟨rfl, rfl, rfl⟩
  · split <;> exact ⟨rfl, rfl, rfl⟩

theorem tick_same (contention : Contention) : Same contention contention.tick := by
  unfold tick
  split
  · exact ⟨rfl, rfl, rfl⟩
  · split
    · exact ⟨rfl, rfl, rfl⟩
    · exact ⟨rfl, rfl, rfl⟩
    · split <;> exact ⟨rfl, rfl, rfl⟩
    · dsimp only
      split
      · exact { grant_same _ _ with }
      · exact ⟨rfl, rfl, rfl⟩

theorem pick_same (contention : Contention) (number : Nat) :
    Same contention (contention.pick number) := by
  unfold pick
  split
  · exact { tick_same _ with }
  · exact ⟨rfl, rfl, rfl⟩

theorem Hands.lawful (hands : Hands before after) (lawful : (before.crowd requests).Lawful) :
    (after.crowd requests).Lawful := by
  cases hands with
  | nobody same => exact same ▸ lawful
  | somebody _ _ taken _ =>
    rw [taken]
    exact lawful.advance _

theorem Picks.lawful (picks : Picks number before after) (lawful : (before.crowd requests).Lawful) :
    (after.crowd requests).Lawful := by
  cases picks with
  | rests _ _ same _ =>
    rw [same]
    exact lawful
  | @moves _ moved _ _ step _ hands =>
    apply hands.lawful
    rw [step]
    exact lawful.advance number

theorem Kept.pick (kept : contention.Kept requests) (number : Nat) :
    (contention.pick number).Kept requests := by
  by_cases member : number ∈ contention.ready
  · obtain ⟨whole, orderly⟩ := kept.lawful.orderly
    obtain ⟨queued, picks⟩ := kept.queued.pick orderly member
    exact ⟨picks.lawful kept.lawful, queued, (pick_same _ _).submitted.trans kept.submitted⟩
  · rw [Contention.pick, if_neg member]
    exact kept

theorem Kept.unmade (kept : contention.Kept requests) :
    contention.stages.get? contention.submitted = none := by
  obtain ⟨whole, orderly⟩ := kept.lawful.orderly
  cases here : contention.stages.get? contention.submitted with
  | none => rfl
  | some stage =>
    obtain ⟨request, made, _⟩ := orderly.belongs _ stage here
    rw [kept.submitted] at made
    exact absurd (List.getElem?_eq_some_iff.mp made).1 (Nat.lt_irrefl _)

theorem submit_crowd (kept : contention.Kept requests) (request : Request) :
    (contention.submit request).crowd (requests ++ [request]) =
      (contention.crowd requests).submit request := by
  simp only [submit, crowd, moveTo, Crowd.submit, Crowd.moveTo, kept.submitted]

theorem Kept.submit (kept : contention.Kept requests) (request : Request) :
    (contention.submit request).Kept (requests ++ [request]) := by
  refine ⟨?_, kept.queued.submit kept.unmade request, ?_⟩
  · rw [submit_crowd kept]
    exact kept.lawful.submit request
  · rw [List.length_append, ← kept.submitted]
    rfl

theorem Kept.hold (kept : contention.Kept requests) (id : Nat) :
    (contention.hold id).2.Kept requests := by
  refine ⟨?_, kept.queued.hold id, ?_⟩
  · rw [hold_crowd]
    exact kept.lawful.hold id
  · rw [← kept.submitted, Contention.hold]
    split
    · rfl
    · split <;> rfl

theorem Kept.release (kept : contention.Kept requests) (id : Nat) :
    (contention.release id).Kept requests := by
  obtain ⟨whole, orderly⟩ := kept.lawful.orderly
  obtain ⟨queued, hands⟩ := kept.queued.release orderly id
  refine ⟨hands.lawful (kept.lawful.release id), queued, ?_⟩
  rw [← kept.submitted, Contention.release]
  split
  · exact (grant_same _ id).submitted
  · rfl

theorem Kept.ground (kept : contention.Kept requests) : contention.ground.Kept requests :=
  ⟨kept.lawful.ground, { kept.queued with }, kept.submitted⟩

def Event.made (event : Event) : List Request := event.request?.toList

theorem Kept.step (kept : contention.Kept requests) (event : Event) :
    (contention.step event).Kept (requests ++ event.made) := by
  cases event with
  | submit request => exact kept.submit request
  | pick number => exact (List.append_nil requests).symm ▸ kept.pick number
  | hold id => exact (List.append_nil requests).symm ▸ kept.hold id
  | release id => exact (List.append_nil requests).symm ▸ kept.release id
  | ground => exact (List.append_nil requests).symm ▸ kept.ground

def made (events : List Event) : List Request := events.flatMap Event.made

theorem play_append (contention : Contention) (before after : List Event) :
    contention.play (before ++ after) = (contention.play before).play after :=
  List.foldl_append

theorem play_snoc (contention : Contention) (events : List Event) (event : Event) :
    contention.play (events ++ [event]) = (contention.play events).step event :=
  play_append contention events [event]

theorem made_append (before after : List Event) : made (before ++ after) = made before ++ made after :=
  List.flatMap_append

theorem Kept.play (kept : contention.Kept requests) (events : List Event) :
    (contention.play events).Kept (requests ++ made events) := by
  induction events generalizing contention requests with
  | nil => exact (List.append_nil requests).symm ▸ kept
  | cons event rest ih =>
    have later := ih (kept.step event)
    rw [List.append_assoc] at later
    exact later

theorem play_kept (sound : fleet.Sound) (events : List Event) :
    ((new fleet).play events).Kept (made events) :=
  (new_kept sound).play events

/-! ### What only grows -/

theorem Hands.built (hands : Hands before after) (lawful : (before.crowd requests).Lawful) {id : Nat}
    (built : before.fleet.Built id) : after.fleet.Built id := by
  cases hands with
  | nobody same => exact same ▸ built
  | @somebody waiter _ _ _ _ taken _ =>
    obtain ⟨whole, orderly⟩ := lawful.orderly
    have moved := orderly.advance_built waiter built
    rw [← taken] at moved
    exact moved

theorem Kept.step_built (kept : contention.Kept requests) (event : Event) {id : Nat}
    (built : contention.fleet.Built id) : (contention.step event).fleet.Built id := by
  obtain ⟨whole, orderly⟩ := kept.lawful.orderly
  cases event with
  | submit request => exact built
  | pick number =>
    rw [Contention.step]
    by_cases member : number ∈ contention.ready
    · have picks := (kept.queued.pick orderly member).2
      cases picks with
      | rests _ _ same _ =>
        have fleet : ((contention.pick number).crowd requests).fleet.Built id := by
          rw [same]
          exact built
        exact fleet
      | @moves _ moved _ _ step _ hands =>
        have lawful : (moved.crowd requests).Lawful := step requests ▸ kept.lawful.advance number
        have advanced := orderly.advance_built number built
        rw [← step] at advanced
        exact hands.built lawful advanced
    · rw [Contention.pick, if_neg member]
      exact built
  | hold id =>
    rw [Contention.step, Contention.hold]
    split
    · exact built
    · split <;> exact built
  | release id =>
    exact (kept.queued.release orderly id).2.built (kept.lawful.release id) built
  | ground => exact built

theorem Kept.play_built (kept : contention.Kept requests) (events : List Event) {id : Nat}
    (built : contention.fleet.Built id) : (contention.play events).fleet.Built id := by
  induction events generalizing contention requests with
  | nil => exact built
  | cons event rest ih => exact ih (kept.step event) (kept.step_built event built)

theorem step_addressed (contention : Contention) (event : Event) :
    (contention.step event).addressed =
      contention.addressed + (event.made.map Request.addressed).sum := by
  cases event with
  | submit request => exact congrArg _ (Nat.add_zero _).symm
  | pick number => exact (pick_same contention number).addressed
  | hold id =>
    rw [step, hold]
    split
    · rfl
    · split <;> rfl
  | release id =>
    rw [step, release]
    split
    · exact (grant_same _ id).addressed
    · rfl
  | ground => rfl

theorem play_addressed (contention : Contention) (events : List Event) :
    (contention.play events).addressed =
      contention.addressed + ((made events).map Request.addressed).sum := by
  induction events generalizing contention with
  | nil => rfl
  | cons event rest ih =>
    have parts : made (event :: rest) = event.made ++ made rest := rfl
    have played : contention.play (event :: rest) = (contention.step event).play rest := rfl
    rw [played, ih, step_addressed, parts, List.map_append, List.sum_append, Nat.add_assoc]

end DroneFleet.Contention
