import DroneFleet.Proofs.Contention.Rounds
import DroneFleet.Proofs.Contention.Settling

/-!
Every request is answered. Requests may be made at any time, an outsider may hold matrices as long as it
likes but does not wait for one, flying may be called off, and any request that can run may take the
next step.
-/
namespace DroneFleet.Contention

/-- What is promised of a run: where the outsider holds nothing, somebody is able to go on unless all
requests are answered; there is a limit to the steps of all requests, whatever their order; a request
looks its drone up again only after another has completed a move or a deletion of it; and when nothing
is held any more, every request is answered within the limit, whoever is chosen to run, and also within
the steps that `settle` allows. -/
structure Finishes (fleet : Fleet) (events : List Event) : Prop where
  able : ((new fleet).play events).outside = [] → ∀ number < (made events).length,
    ¬ ((new fleet).play events).Answered number → ∃ other, ((new fleet).play events).Able other
  steps : (new fleet).steps events ≤ limit fleet (made events)
  rounds : ∀ before between after number drone again,
    events = before ++ Event.pick number :: (between ++ Event.pick number :: after) →
    ((new fleet).play before).LooksUp number drone →
    ((new fleet).play (before ++ Event.pick number :: between)).LooksUp number again →
    ∃ early late other request, between = early ++ Event.pick other :: late ∧ other ≠ number ∧
      (made events)[other]? = some request ∧
      ((new fleet).play (before ++ Event.pick number :: early)).Completes request other drone
  answers : ((new fleet).play events).outside = [] → ∀ choose : Nat → Contention → Nat,
    (∀ time contention, contention.ready ≠ [] → choose time contention ∈ contention.ready) →
    ∀ number < (made events).length,
      (((new fleet).play events).follow choose (limit fleet (made events))).Answered number
  settles : ∀ number < (made events).length,
    ((new fleet).play events).releaseAll.settle.Answered number

/-- Every run over a sound fleet comes to an end, and every request to its answer. -/
theorem play_finishes {fleet : Fleet} (sound : fleet.Sound) (events : List Event) :
    Finishes fleet events := by
  have kept : ((new fleet).play events).Kept (made events) := (new_kept sound).play events
  have few := (new_kept sound).play_load events (List.prefix_refl _)
  rw [new_load] at few
  refine ⟨?_, Nat.le_of_add_right_le few, ?_, ?_, ?_⟩
  · intro vacant number asked unanswered
    exact kept.someone_able vacant asked unanswered
  · rintro before between after number drone again rfl looks later
    rw [play_append] at later
    have earlier : ((new fleet).play before).Kept (made before) := (new_kept sound).play before
    obtain ⟨early, late, other, request, rfl, different, asked, completes⟩ :=
      earlier.between_looks looks later
    refine ⟨early, late, other, request, rfl, different, ?_, ?_⟩
    · have parts : made (before ++ Event.pick number :: (early ++ Event.pick other :: late ++
          Event.pick number :: after)) = made before ++ made early ++ made (late ++ after) := by
        simp [made, Event.made, Event.request?]
      rw [parts, List.getElem?_append_left (List.getElem?_eq_some_iff.mp asked).1, asked]
    · rw [play_append]
      exact completes
  · intro vacant choose fair number asked
    obtain ⟨last, rests, outside⟩ := kept.follow fair (Nat.le_of_add_left_le few)
    exact last.answered rests (outside.trans vacant) asked
  · intro number asked
    -- To give everything back is to go on with the run.
    have releases := play_releases
      (((new fleet).play events).outside.mergeSort fun a b => a ≤ b) ((new fleet).play events)
    rw [← play_append] at releases
    have same : ((new fleet).play events).releaseAll = _ := releases.symm
    obtain ⟨last, rests, outside⟩ := play_settle sound (events ++ List.map Event.release
      (((new fleet).play events).outside.mergeSort fun a b => a ≤ b))
    rw [made_append, made_releases, List.append_nil, ← same] at last
    rw [← same] at rests outside
    exact last.answered rests (outside.trans (releaseAll_outside _)) asked

/-- A drone is to be moved to a matrix that an outsider holds, and somebody is about to look it up. -/
def asking : List Event :=
  List.flatten
    [[.submit (.createMatrix 4 4), .pick 0, .pick 0, .submit (.createMatrix 4 4), .pick 1, .pick 1,
      .submit (.createDrone ⟨"", "", ⟨0, 0, .north⟩, 1⟩)], List.replicate 6 (.pick 2),
      [.hold 2, .submit (.updateDrone 1 ⟨none, none, none, none, none, some 2⟩)],
      List.replicate 7 (.pick 3), [.submit (.getDrone 1), .pick 4]]

/-- The drone is moved while the other request waits where it was, and then turns back. -/
def moving : List Event :=
  List.flatten [List.replicate 3 (.pick 4), [.release 2], List.replicate 4 (.pick 3),
    List.replicate 2 (.pick 4)]

def finding : List Event := List.replicate 5 (.pick 4)

theorem play_finishes_finding :
    Fleet.empty.Sound ∧ ((new .empty).play asking).LooksUp 4 1 ∧
      ((new .empty).play (asking ++ Event.pick 4 :: moving)).LooksUp 4 1 ∧
      ((new .empty).play (asking ++ Event.pick 4 :: (moving ++ Event.pick 4 :: finding))).outside = [] ∧
      Finishes .empty (asking ++ Event.pick 4 :: (moving ++ Event.pick 4 :: finding)) :=
  ⟨Fleet.empty_sound, ⟨by decide, none, .look, rfl⟩, ⟨by decide, some 1, .look, rfl⟩,
    by decide, play_finishes Fleet.empty_sound _⟩

end DroneFleet.Contention
