import DroneFleet.Proofs.Contention.Load

/-!
What becomes of requests when no outsider holds a matrix any more. One of those that are unanswered is
able to go on, so they are all answered once the steps ahead have been taken (`Kept.follow`), and the
steps that `settle` allows are enough for that (`Kept.settle`).
-/
namespace DroneFleet.Contention

variable {contention : Contention} {requests : List Request} {fleet : Fleet} {number : Nat}

def Able (contention : Contention) (number : Nat) : Prop :=
  number ∈ contention.ready ∧ ∃ stage, contention.stages.get? number = some stage ∧
    (∀ response, stage ≠ .done response) ∧
    ∀ id purpose, stage = .enter id purpose → contention.isFree id = true

theorem mem_answers {response : Response} :
    (number, response) ∈ contention.answers ↔
      contention.stages.get? number = some (.done response) := by
  rw [answers, List.mem_filterMap]
  constructor
  · rintro ⟨⟨other, stage⟩, member, same⟩
    cases stage with
    | done given =>
      cases same
      exact Table.mem_entries.mp member
    | _ => cases same
  · intro here
    exact ⟨(number, .done response), Table.mem_entries.mpr here, rfl⟩

def Answered (contention : Contention) (number : Nat) : Prop :=
  ∃ response, (number, response) ∈ contention.answers

theorem Kept.someone_able (kept : contention.Kept requests) (vacant : contention.outside = [])
    (asked : number < requests.length) (unanswered : ¬ contention.Answered number) :
    ∃ other, contention.Able other := by
  obtain ⟨whole, orderly⟩ := kept.lawful.orderly
  obtain ⟨stage, here⟩ := kept.lawful.present number asked
  have pursued : ∀ response, stage ≠ .done response := by
    rintro response rfl
    exact unanswered ⟨response, mem_answers.mpr here⟩
  obtain ⟨other, found, there, unblocked⟩ := orderly.someone_able vacant here pursued
  have wants : ∀ id purpose, found = .enter id purpose → contention.isFree id = true := by
    rintro id purpose rfl
    have free : (contention.crowd requests).isFree id = true := by
      simpa [Crowd.blocks] using unblocked
    exact free
  have goes : ∀ response, found ≠ .done response := by
    rintro response rfl
    cases unblocked
  refine ⟨other, ?_, found, there, goes, wants⟩
  rcases kept.queued.queued other found there with ⟨response, done⟩ | ready | ⟨id, waits⟩
  · exact absurd done (goes response)
  · exact ready
  · -- Whoever waits, waits for a matrix that somebody has.
    obtain ⟨⟨purpose, there'⟩, taken⟩ := kept.queued.waits other id waits
    have same : some found = some (.enter id purpose) := there.symm.trans there'
    rw [wants id purpose (Option.some.inj same)] at taken
    simp at taken

/-! ### All steps ahead are taken -/

theorem follow_rest (choose : Nat → Contention → Nat) (count : Nat)
    (rests : contention.ready = []) : contention.follow choose count = contention := by
  induction count with
  | zero => rfl
  | succ count ih =>
    have stays : contention.pick (choose count contention) = contention := by
      rw [pick, rests, if_neg List.not_mem_nil]
    rw [follow, stays, ih]

/-- Whoever is chosen among those that can run, in the end nobody is left. -/
theorem Kept.follow (kept : contention.Kept requests) {choose : Nat → Contention → Nat}
    (fair : ∀ time contention, contention.ready ≠ [] → choose time contention ∈ contention.ready)
    {count : Nat} (enough : contention.load requests requests ≤ count) :
    (contention.follow choose count).Kept requests ∧
      (contention.follow choose count).ready = [] ∧
      (contention.follow choose count).outside = contention.outside := by
  induction count generalizing contention with
  | zero =>
    have none : contention.ready.length = 0 := by
      rw [load] at enough
      omega
    exact ⟨kept, List.length_eq_zero_iff.mp none, rfl⟩
  | succ count ih =>
    by_cases rests : contention.ready = []
    · rw [follow_rest choose _ rests]
      exact ⟨kept, rests, rfl⟩
    · have chosen := fair count contention rests
      have shorter := kept.pick_load (List.prefix_refl requests) chosen
      obtain ⟨last, none, outside⟩ := ih (kept.pick (choose count contention)) (by omega)
      exact ⟨last, none, outside.trans (pick_same _ _).outside⟩

theorem Kept.answered (kept : contention.Kept requests) (rests : contention.ready = [])
    (vacant : contention.outside = []) (asked : number < requests.length) :
    contention.Answered number := by
  by_contra unanswered
  obtain ⟨other, ready, _⟩ := kept.someone_able vacant asked unanswered
  rw [rests] at ready
  cases ready

/-! ### The steps that are allowed are enough -/

theorem tick_eq_pick {rest : List Nat} (runs : contention.ready = number :: rest) :
    contention.tick = contention.pick number := by
  have member : number ∈ contention.ready := runs ▸ List.mem_cons_self
  have same : number :: contention.ready.erase number = contention.ready := by
    rw [runs, List.erase_cons_head]
  rw [pick, if_pos member, same]

/-- To let each request run as far as it gets is to choose the first that can run, time and again. -/
theorem run_eq_follow (count : Nat) (contention : Contention) :
    contention.run count = contention.follow (fun _ contention => contention.ready.headD 0) count := by
  induction count generalizing contention with
  | zero => rfl
  | succ count ih =>
    rw [run, follow]
    cases runs : contention.ready with
    | nil =>
      have stays : contention.pick 0 = contention := by
        rw [pick, runs, if_neg List.not_mem_nil]
      rw [List.isEmpty_nil, if_pos rfl, List.headD_nil, stays, follow_rest _ _ runs]
    | cons number rest =>
      rw [List.isEmpty_cons, if_neg Bool.false_ne_true, List.headD_cons, ih, tick_eq_pick runs]

theorem limit_le_fuel (submitted : contention.submitted = requests.length)
    (addressed : contention.addressed = (requests.map Request.addressed).sum)
    (grown : fleet.listed.size ≤ contention.fleet.slots.size) :
    limit fleet requests ≤ contention.fuel := by
  have factor : 13 * requests.length + 3 * fleet.listed.size + 16 ≤
      64 * (requests.length + 2) +
        4 * (contention.fleet.slots.size + (requests.length + 2)) := by
    omega
  have product := Nat.mul_le_mul (Nat.le_add_right requests.length 2) factor
  have parts : (requests.length + 2) * (64 * (requests.length + 2) +
      4 * (contention.fleet.slots.size + (requests.length + 2))) =
      64 * (requests.length + 2) * (requests.length + 2) +
        4 * (requests.length + 2) * (contention.fleet.slots.size + (requests.length + 2)) := by
    rw [Nat.mul_add, Nat.mul_comm 4 (requests.length + 2), Nat.mul_assoc (requests.length + 2) 4,
      Nat.mul_comm (requests.length + 2) (64 * _)]
  rw [parts] at product
  simp only [limit, fuel, submitted, addressed]
  omega

theorem play_settle (sound : fleet.Sound) (events : List Event) :
    ((new fleet).play events).settle.Kept (made events) ∧
      ((new fleet).play events).settle.ready = [] ∧
      ((new fleet).play events).settle.outside = ((new fleet).play events).outside := by
  have kept : ((new fleet).play events).Kept (made events) := (new_kept sound).play events
  have few := (new_kept sound).play_load events (List.prefix_refl _)
  have grown : fleet.listed.size ≤ ((new fleet).play events).fleet.slots.size := by
    apply Table.size_le_of_subset
    intro id member
    have built : fleet.Built id := sound.shelved id (Table.contains_iff.mpr (Table.mem_keys.mp member))
    exact Table.mem_keys.mpr ((new_kept sound).play_built events built)
  have addressed := play_addressed (new fleet) events
  have enough := limit_le_fuel kept.submitted (addressed.trans (Nat.zero_add _)) grown
  have fair : ∀ (_ : Nat) (contention : Contention), contention.ready ≠ [] →
      contention.ready.headD 0 ∈ contention.ready := by
    intro _ contention some
    obtain ⟨first, rest, runs⟩ := List.exists_cons_of_ne_nil some
    rw [runs]
    exact List.mem_cons_self
  rw [settle, run_eq_follow]
  rw [new_load] at few
  exact kept.follow fair (Nat.le_trans (Nat.le_of_add_left_le few) enough)

/-! ### The outsider gives everything back -/

theorem release_outside (contention : Contention) (id : Nat) :
    (contention.release id).outside = contention.outside.erase id := by
  unfold release
  split
  · exact (grant_same _ id).outside
  · rename_i absent
    refine (List.erase_of_not_mem fun member => ?_).symm
    exact absent (List.contains_iff_mem.mpr member)

theorem play_releases (ids : List Nat) (contention : Contention) :
    contention.play (ids.map Event.release) = ids.foldl release contention := by
  rw [play, List.foldl_map]
  rfl

theorem releases_outside {ids : List Nat} (contention : Contention)
    (same : contention.outside.Perm ids) : (ids.foldl release contention).outside = [] := by
  induction ids generalizing contention with
  | nil => exact same.eq_nil
  | cons id rest ih =>
    apply ih
    rw [release_outside]
    exact (same.erase id).trans (by rw [List.erase_cons_head])

theorem releaseAll_outside (contention : Contention) : contention.releaseAll.outside = [] :=
  releases_outside contention (List.mergeSort_perm _ _).symm

theorem made_releases (ids : List Nat) : made (ids.map Event.release) = [] := by
  induction ids with
  | nil => rfl
  | cons id rest ih => exact ih

end DroneFleet.Contention
