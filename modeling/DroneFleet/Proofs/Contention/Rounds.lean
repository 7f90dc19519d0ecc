import DroneFleet.Proofs.Contention.Events

/-!
Between two look-ups of one request, another request completes a move or a deletion of the drone
(`between_looks`).
-/
namespace DroneFleet.Contention

variable {contention before after : Contention} {requests : List Request} {number drone : Nat}

def LooksUp (contention : Contention) (number drone : Nat) : Prop :=
  number ∈ contention.ready ∧
    ∃ last wanted, contention.stages.get? number = some (.locate drone last wanted)

def Completes (contention : Contention) (request : Request) (number drone : Nat) : Prop :=
  number ∈ contention.ready ∧ ∃ stage, contention.stages.get? number = some stage ∧
    stage.Relocates contention.fleet request drone

theorem Hands.sure (hands : Hands before after) (lawful : (before.crowd requests).Lawful)
    (sure : (before.crowd requests).Sure number drone) :
    (after.crowd requests).Sure number drone := by
  cases hands with
  | nobody same => exact same ▸ sure
  | @somebody waiter id purpose here free taken ready =>
    obtain ⟨whole, orderly⟩ := lawful.orderly
    rw [taken]
    rcases orderly.advance_sure lawful.faithful sure waiter with
      still | ⟨_, found, request, there, _, relocates⟩
    · exact still
    · have same : some found = some (.enter id purpose) := there.symm.trans here
      cases same
      obtain ⟨_, _, _, clash, _⟩ := relocates
      cases clash

theorem Kept.look_sure (kept : contention.Kept requests) (looks : contention.LooksUp number drone) :
    ((contention.pick number).crowd requests).Sure number drone := by
  obtain ⟨whole, orderly⟩ := kept.lawful.orderly
  obtain ⟨member, last, wanted, here⟩ := looks
  have picks := (kept.queued.pick orderly member).2
  cases picks with
  | rests there blocked _ _ =>
    rw [here] at there
    cases there
    cases blocked requests
  | @moves _ moved _ _ step _ hands =>
    have lawful : (moved.crowd requests).Lawful := step requests ▸ kept.lawful.advance number
    apply hands.sure lawful
    rw [step]
    exact Crowd.look_sure here

theorem Kept.step_sure (kept : contention.Kept requests)
    (sure : (contention.crowd requests).Sure number drone) (event : Event) :
    ((contention.step event).crowd (requests ++ event.made)).Sure number drone ∨
    ∃ other request, event = .pick other ∧ other ≠ number ∧ requests[other]? = some request ∧
      contention.Completes request other drone := by
  obtain ⟨whole, orderly⟩ := kept.lawful.orderly
  cases event with
  | submit request =>
    obtain ⟨stage, here, steady⟩ := sure
    refine .inl ⟨stage, ?_, steady⟩
    have different : number ≠ contention.submitted := by
      rintro rfl
      have made : contention.stages.get? contention.submitted = some stage := here
      rw [kept.unmade] at made
      cases made
    exact (Table.get?_insert _ _ _ _).trans ((if_neg different).trans here)
  | pick other =>
    have same : requests ++ Event.made (.pick other) = requests := List.append_nil _
    rw [same]
    by_cases member : other ∈ contention.ready
    · have picks := (kept.queued.pick orderly member).2
      rw [Contention.step]
      cases picks with
      | rests _ _ same' _ =>
        rw [same']
        exact .inl sure
      | @moves _ moved _ _ step _ hands =>
        have lawful : (moved.crowd requests).Lawful := step requests ▸ kept.lawful.advance other
        rcases orderly.advance_sure kept.lawful.faithful sure other with
          still | ⟨different, found, request, there, asked, relocates⟩
        · rw [← step] at still
          exact .inl (hands.sure lawful still)
        · exact .inr ⟨other, request, rfl, different, asked, member, found, there, relocates⟩
    · rw [Contention.step, Contention.pick, if_neg member]
      exact .inl sure
  | hold id =>
    have same : requests ++ Event.made (.hold id) = requests := List.append_nil _
    rw [same, Contention.step, hold_crowd, Crowd.hold]
    split <;> exact .inl sure
  | release id =>
    have same : requests ++ Event.made (.release id) = requests := List.append_nil _
    have hands := (kept.queued.release orderly id).2
    rw [same, Contention.step]
    exact .inl (hands.sure (kept.lawful.release id) sure)
  | ground =>
    have same : requests ++ Event.made .ground = requests := List.append_nil _
    rw [same]
    exact .inl sure

/-- As long as no move and no deletion of the drone is completed, the request stays sure of it. -/
theorem Kept.play_sure (kept : contention.Kept requests)
    (sure : (contention.crowd requests).Sure number drone) (events : List Event) :
    ((contention.play events).crowd (requests ++ made events)).Sure number drone ∨
    ∃ early late other request, events = early ++ Event.pick other :: late ∧ other ≠ number ∧
      (requests ++ made early)[other]? = some request ∧
      (contention.play early).Completes request other drone := by
  induction events generalizing contention requests with
  | nil => exact .inl ((List.append_nil requests).symm ▸ sure)
  | cons event rest ih =>
    rcases kept.step_sure sure event with still | ⟨other, request, rfl, different, asked, completes⟩
    · rcases ih (kept.step event) still with last | ⟨early, late, other, request, rfl, different,
        asked, completes⟩
      · rw [List.append_assoc] at last
        exact .inl last
      · rw [List.append_assoc] at asked
        exact .inr ⟨event :: early, late, other, request, rfl, different, asked, completes⟩
    · refine .inr ⟨[], rest, other, request, rfl, different, ?_, completes⟩
      exact (congrArg (·[other]?) (List.append_nil requests)).trans asked

/-- A request that looks a drone up again does so after another request has completed a move or a
deletion of the drone, since it looked before. -/
theorem Kept.between_looks (kept : contention.Kept requests) {events : List Event} {again : Nat}
    (looks : contention.LooksUp number drone)
    (later : ((contention.pick number).play events).LooksUp number again) :
    ∃ early late other request, events = early ++ Event.pick other :: late ∧ other ≠ number ∧
      (requests ++ made early)[other]? = some request ∧
      ((contention.pick number).play early).Completes request other drone := by
  rcases (kept.pick number).play_sure (kept.look_sure looks) events with sure | completed
  · obtain ⟨stage, here, steady⟩ := sure
    obtain ⟨_, last, wanted, there⟩ := later
    have same : some stage = some (.locate again last wanted) := here.symm.trans there
    cases same
    exact absurd trivial steady.not_looks
  · exact completed

end DroneFleet.Contention
