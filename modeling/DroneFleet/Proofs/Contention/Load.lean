import DroneFleet.Proofs.Contention.Events
import DroneFleet.Proofs.Crowd.Progress

/-!
The steps that requests can still take (`load`). Every step is taken off them, and nothing puts them
up: what will be asked later counts from the start. So there is a `limit` to the steps of all requests
together that does not depend on who takes the next one.
-/
namespace DroneFleet.Contention

variable {contention before after : Contention} {requests asked : List Request} {number : Nat}

/-- The steps that can still be taken until all that will be asked has been answered. -/
def load (contention : Contention) (requests asked : List Request) : Nat :=
  (contention.crowd requests).effort asked + contention.ready.length +
    (asked.length - requests.length)

/-- To hand a matrix on takes a step off what is ahead of a request, and lets it run again. -/
theorem Hands.effort (hands : Hands before after) (lawful : (before.crowd requests).Lawful)
    (made : requests <+: asked) :
    (after.crowd requests).effort asked + after.ready.length ≤
      (before.crowd requests).effort asked + before.ready.length := by
  cases hands with
  | nobody same => exact same ▸ Nat.le_refl _
  | @somebody waiter id purpose here free taken ready =>
    obtain ⟨whole, orderly⟩ := lawful.orderly
    have unblocked : (before.crowd requests).blocks (.enter id purpose) = false := by
      have same : (before.crowd requests).isFree id = true := free
      simp [Crowd.blocks, same]
    have shorter := orderly.advance_effort here unblocked made
    rw [taken, ready, List.length_append, List.length_singleton]
    omega

theorem Picks.effort (picks : Picks number before after) (lawful : (before.crowd requests).Lawful)
    (made : requests <+: asked) :
    (after.crowd requests).effort asked + after.ready.length <
      (before.crowd requests).effort asked + before.ready.length := by
  cases picks with
  | rests _ _ same ready =>
    rw [same]
    exact Nat.add_lt_add_left ready _
  | @moves stage moved here unblocked step ready hands =>
    obtain ⟨whole, orderly⟩ := lawful.orderly
    have shorter := orderly.advance_effort here (unblocked requests) made
    have moves : (moved.crowd requests).Lawful := step requests ▸ lawful.advance number
    have handed := hands.effort moves made
    rw [step, ready] at handed
    omega

theorem Kept.pick_load (kept : contention.Kept requests) (made : requests <+: asked)
    (member : number ∈ contention.ready) :
    (contention.pick number).load requests asked < contention.load requests asked := by
  obtain ⟨whole, orderly⟩ := kept.lawful.orderly
  have shorter := (kept.queued.pick orderly member).2.effort kept.lawful made
  exact Nat.add_lt_add_right shorter _

theorem Kept.step_load (kept : contention.Kept requests) (event : Event)
    (made : requests ++ event.made <+: asked) :
    contention.taken event + (contention.step event).load (requests ++ event.made) asked ≤
      contention.load requests asked := by
  have earlier : requests <+: asked := (List.prefix_append _ _).trans made
  cases event with
  | submit request =>
    obtain ⟨whole, orderly⟩ := kept.lawful.orderly
    have same : ((contention.submit request).crowd (requests ++ [request])).effort asked =
        (contention.crowd requests).effort asked := by
      rw [submit_crowd kept]
      exact orderly.submit_effort made
    have ready : (contention.submit request).ready.length = contention.ready.length + 1 :=
      List.length_append
    have length := made.length_le
    simp only [Event.made, Event.request?, Option.toList_some, List.length_append,
      List.length_singleton] at length
    simp only [taken, Contention.step, load, Event.made, Event.request?, Option.toList_some, same,
      ready, List.length_append, List.length_singleton]
    omega
  | pick number =>
    have same : requests ++ Event.made (.pick number) = requests := List.append_nil _
    rw [same, taken, Contention.step]
    split
    · rename_i member
      rw [Nat.add_comm]
      exact kept.pick_load earlier member
    · rename_i absent
      rw [Contention.pick, if_neg absent, Nat.zero_add]
  | hold id =>
    have same : requests ++ Event.made (.hold id) = requests := List.append_nil _
    rw [same]
    simp only [taken, Contention.step, Nat.zero_add, Contention.hold]
    split
    · exact Nat.le_refl _
    · split <;> exact Nat.le_refl _
  | release id =>
    have same : requests ++ Event.made (.release id) = requests := List.append_nil _
    obtain ⟨whole, orderly⟩ := kept.lawful.orderly
    have handed := (kept.queued.release orderly id).2.effort (kept.lawful.release id) earlier
    rw [same]
    simp only [taken, Contention.step, Nat.zero_add]
    exact Nat.add_le_add_right handed _
  | ground =>
    have same : requests ++ Event.made .ground = requests := List.append_nil _
    rw [same]
    simp only [taken, Contention.step, Nat.zero_add]
    exact Nat.le_refl _

theorem Kept.play_load (kept : contention.Kept requests) (events : List Event)
    (within : requests ++ made events <+: asked) :
    contention.steps events + (contention.play events).load (requests ++ made events) asked ≤
      contention.load requests asked := by
  induction events generalizing contention requests with
  | nil =>
    have same : requests ++ made [] = requests := List.append_nil requests
    rw [same, steps, Nat.zero_add]
    exact Nat.le_refl _
  | cons event rest ih =>
    have parts : requests ++ made (event :: rest) = requests ++ event.made ++ made rest :=
      (List.append_assoc requests event.made (made rest)).symm
    rw [parts] at within ⊢
    have first := kept.step_load event ((List.prefix_append _ _).trans within)
    have later := ih (kept.step event) within
    have played : contention.play (event :: rest) = (contention.step event).play rest := rfl
    rw [steps, played]
    omega

def limit (fleet : Fleet) (requests : List Request) : Nat :=
  (requests.map Request.addressed).sum +
    requests.length * (13 * requests.length + 3 * fleet.listed.size + 16)

theorem new_load (fleet : Fleet) (asked : List Request) :
    (new fleet).load [] asked = limit fleet asked := by
  have costs : ∀ (count : Nat) (requests : List Request),
      (requests.map fun request => (Stage.start request).cost count fleet).sum =
        (requests.map Request.addressed).sum +
          requests.length * (13 * count + 3 * fleet.listed.size + 15) := by
    intro count requests
    induction requests with
    | nil => simp
    | cons request rest ih =>
      have first : (Stage.start request).cost count fleet =
          request.addressed + (13 * count + 3 * fleet.listed.size + 15) := by
        simp only [Stage.cost, Stage.span, Stage.detour, Stage.trust?, Stage.owes]
        omega
      rw [List.map_cons, List.sum_cons, ih, first, List.map_cons, List.sum_cons, List.length_cons,
        Nat.succ_mul rest.length]
      omega
  have effort : ((new fleet).crowd []).effort asked = _ := Crowd.new_effort fleet asked
  have ready : (new fleet).ready.length = 0 := rfl
  rw [load, effort, costs, ready, limit, List.length_nil, Nat.mul_add asked.length _ 16,
    Nat.mul_add asked.length _ 15]
  omega

end DroneFleet.Contention
