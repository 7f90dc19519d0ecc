import Mathlib.Logic.Basic
import DroneFleet.Fleet.Schedule
import DroneFleet.Proofs.Crowd.Steps
import DroneFleet.Proofs.Fleet.Keeping

/-!
The two queues of a contention, and what it is as a crowd. A request that has not been answered can
run or waits for a matrix that somebody has (`Queued`); whatever happens is what can happen to a crowd,
where one step may be followed by another in which a request takes the matrix that it is given.
-/
namespace DroneFleet.Contention

def crowd (contention : Contention) (requests : List Request) : Crowd :=
  ⟨contention.fleet, contention.grounded, requests, contention.stages, contention.outside⟩

/-- Every request is in the queue where it belongs. `given` is a matrix that has just been given back;
it may be free although somebody waits for it. -/
structure Queued (contention : Contention) (given : Option Nat) : Prop where
  ready : contention.ready.Nodup
  waiting : contention.waiting.Nodup
  apart : ∀ number id, (number, id) ∈ contention.waiting → number ∉ contention.ready
  known : ∀ number ∈ contention.ready, ∃ stage, contention.stages.get? number = some stage
  waits : ∀ number id, (number, id) ∈ contention.waiting →
    (∃ purpose, contention.stages.get? number = some (.enter id purpose)) ∧
      (given = some id ∨ contention.isFree id = false)
  queued : ∀ number stage, contention.stages.get? number = some stage →
    (∃ response, stage = .done response) ∨ number ∈ contention.ready ∨
      ∃ id, (number, id) ∈ contention.waiting
  outside : contention.outside.Nodup

variable {contention : Contention} {requests : List Request} {whole : Fleet} {number id : Nat}
  {stage next : Stage} {given : Option Nat}

theorem new_queued (fleet : Fleet) : (new fleet).Queued none where
  ready := List.nodup_nil
  waiting := List.nodup_nil
  apart := by intro _ _ member; cases member
  known := by intro _ member; cases member
  waits := by intro _ _ member; cases member
  queued := by intro _ _ here; cases here
  outside := List.nodup_nil

theorem not_free_iff : contention.isFree id = false ↔ id ∈ contention.outside ∨
    ∃ number stage, contention.stages.get? number = some stage ∧ id ∈ stage.holds := by
  have free : contention.isFree id = true ↔ id ∉ contention.outside ∧
      ∀ number stage, contention.stages.get? number = some stage → id ∉ stage.holds :=
    (Crowd.isFree_iff : (contention.crowd []).isFree id = true ↔ _)
  rw [Bool.eq_false_iff, Ne, free, not_and_or, not_not]
  simp

theorem not_free_moveTo (taken : contention.isFree id = false)
    (here : contention.stages.get? number = some stage)
    (keeps : id ∈ stage.holds → id ∈ next.holds) : (contention.moveTo number next).isFree id = false := by
  rw [not_free_iff] at taken ⊢
  rcases taken with outside | ⟨other, found, there, held⟩
  · exact .inl outside
  · right
    by_cases same : other = number
    · subst same
      rw [here] at there
      cases there
      exact ⟨other, next, by rw [moveTo, Table.get?_insert, if_pos rfl], keeps held⟩
    · exact ⟨other, found, by rw [moveTo, Table.get?_insert, if_neg same, there], held⟩

theorem Queued.moveTo (queued : contention.Queued none)
    (here : contention.stages.get? number = some stage) (member : number ∈ contention.ready)
    (keeps : ∀ id ∈ stage.holds, id ∈ next.holds ∨ given = some id) :
    (contention.moveTo number next).Queued given where
  ready := queued.ready
  waiting := queued.waiting
  apart := queued.apart
  known := by
    intro other inside
    rw [Contention.moveTo, Table.get?_insert]
    split
    · exact ⟨next, rfl⟩
    · exact queued.known other inside
  waits := by
    intro other wanted inside
    have different : other ≠ number := by
      rintro rfl
      exact queued.apart other wanted inside member
    obtain ⟨⟨purpose, there⟩, taken⟩ := queued.waits other wanted inside
    refine ⟨⟨purpose, ?_⟩, ?_⟩
    · rw [Contention.moveTo, Table.get?_insert, if_neg different, there]
    · by_cases back : given = some wanted
      · exact .inl back
      · right
        apply not_free_moveTo (taken.resolve_left (by simp)) here
        exact fun held => (keeps wanted held).resolve_right back
  queued := by
    intro other found there
    rw [Contention.moveTo, Table.get?_insert] at there
    split at there
    · rename_i same
      subst same
      exact .inr (.inl member)
    · exact queued.queued other found there
  outside := queued.outside

/-! ### A matrix is handed on -/

inductive Hands (before after : Contention) : Prop
  | nobody (same : after = before)
  | somebody {number id : Nat} {purpose : Purpose}
      (here : before.stages.get? number = some (.enter id purpose))
      (free : before.isFree id = true)
      (taken : ∀ requests, after.crowd requests = (before.crowd requests).advance number)
      (ready : after.ready = before.ready ++ [number])

theorem advance_enter {purpose : Purpose}
    (here : contention.stages.get? number = some (.enter id purpose))
    (free : contention.isFree id = true) (requests : List Request) :
    (contention.crowd requests).advance number =
      (contention.moveTo number (.inside id purpose)).crowd requests := by
  have unblocked : (contention.crowd requests).blocks (.enter id purpose) = false := by
    have same : (contention.crowd requests).isFree id = true := free
    simp [Crowd.blocks, same]
  exact Crowd.advance_eq here unblocked rfl

theorem advance_next {after : Fleet} (here : contention.stages.get? number = some stage)
    (requests : List Request) (unblocked : (contention.crowd requests).blocks stage = false)
    (step : stage.next contention.grounded contention.fleet = (next, after)) :
    (contention.crowd requests).advance number =
      ({ contention with fleet := after }.moveTo number next).crowd requests :=
  Crowd.advance_eq here unblocked step

theorem Queued.serve (queued : contention.Queued (some id)) {purpose : Purpose}
    (here : contention.stages.get? number = some (.enter id purpose))
    (waited : (number, id) ∈ contention.waiting) :
    Queued { contention.moveTo number (.inside id purpose) with
      waiting := contention.waiting.erase (number, id)
      ready := contention.ready ++ [number] } none := by
  have gone : ∀ other wanted, (other, wanted) ∈ contention.waiting.erase (number, id) →
      other ≠ number := by
    rintro other wanted member rfl
    obtain ⟨⟨purpose', there⟩, _⟩ := queued.waits other wanted (List.mem_of_mem_erase member)
    rw [here] at there
    cases there
    exact queued.waiting.not_mem_erase member
  refine ⟨?_, queued.waiting.erase _, ?_, ?_, ?_, ?_, queued.outside⟩
  · apply List.nodup_append.mpr
    refine ⟨queued.ready, by simp, ?_⟩
    intro other member last inside
    cases List.mem_singleton.mp inside
    rintro rfl
    exact queued.apart other id waited member
  · intro other wanted member inside
    rcases List.mem_append.mp inside with old | last
    · exact queued.apart other wanted (List.mem_of_mem_erase member) old
    · exact gone other wanted member (List.mem_singleton.mp last)
  · intro other inside
    simp only [Contention.moveTo, Table.get?_insert]
    split
    · exact ⟨_, rfl⟩
    · rename_i different
      rcases List.mem_append.mp inside with old | last
      · exact queued.known other old
      · exact absurd (List.mem_singleton.mp last) different
  · intro other wanted member
    have different := gone other wanted member
    obtain ⟨⟨purpose', there⟩, taken⟩ := queued.waits other wanted (List.mem_of_mem_erase member)
    refine ⟨⟨purpose', ?_⟩, .inr ?_⟩
    · simp only [Contention.moveTo, Table.get?_insert, if_neg different, there]
    · have has : (contention.moveTo number (.inside id purpose)).isFree wanted = false := by
        rcases taken with same | taken
        · cases same
          refine not_free_iff.mpr (.inr ⟨number, .inside id purpose, ?_, List.mem_cons_self⟩)
          rw [Contention.moveTo, Table.get?_insert, if_pos rfl]
        · exact not_free_moveTo taken here (List.mem_cons_of_mem _)
      exact has
  · intro other found there
    simp only [Contention.moveTo, Table.get?_insert] at there
    split at there
    · rename_i same
      subst same
      exact .inr (.inl (List.mem_append_right _ (List.mem_singleton_self _)))
    · rename_i different
      rcases queued.queued other found there with done | runs | ⟨wanted, waits⟩
      · exact .inl done
      · exact .inr (.inl (List.mem_append_left _ runs))
      · refine .inr (.inr ⟨wanted, ?_⟩)
        apply (List.mem_erase_of_ne _).mpr waits
        rintro ⟨⟩
        exact different rfl

theorem Queued.grant (queued : contention.Queued (some id)) (free : contention.isFree id = true) :
    (contention.grant id).Queued none ∧ Hands contention (contention.grant id) := by
  rw [Contention.grant]
  split
  · rename_i nobody
    refine ⟨{ queued with waits := ?_ }, .nobody rfl⟩
    intro other wanted member
    obtain ⟨there, taken⟩ := queued.waits other wanted member
    refine ⟨there, .inr (taken.resolve_left ?_)⟩
    rintro ⟨⟩
    have different := List.find?_eq_none.mp nobody (other, id) member
    simp at different
  · rename_i first wanted found
    have same : wanted = id := by simpa using List.find?_some found
    subst same
    have waited := List.mem_of_find?_eq_some found
    obtain ⟨⟨purpose, here⟩, _⟩ := queued.waits first wanted waited
    rw [here]
    refine ⟨queued.serve here waited, .somebody here free ?_ rfl⟩
    intro requests
    exact (advance_enter here free requests).symm

/-! ### One step -/

/-- What comes of letting a request run for a step: it leaves the queue, or it moves, and a matrix that
it has given back is handed on. -/
inductive Picks (number : Nat) (before after : Contention) : Prop
  | rests {stage : Stage} (here : before.stages.get? number = some stage)
      (blocked : ∀ requests, (before.crowd requests).blocks stage = true)
      (same : ∀ requests, after.crowd requests = before.crowd requests)
      (ready : after.ready.length < before.ready.length)
  | moves {stage : Stage} {moved : Contention}
      (here : before.stages.get? number = some stage)
      (unblocked : ∀ requests, (before.crowd requests).blocks stage = false)
      (step : ∀ requests, moved.crowd requests = (before.crowd requests).advance number)
      (ready : moved.ready.length = before.ready.length) (hands : Hands moved after)

section Ticks

variable {rest : List Nat} (runs : contention.ready = number :: rest)

include runs

theorem tick_done {response : Response}
    (here : contention.stages.get? number = some (.done response)) :
    contention.tick = { contention with ready := rest } := by
  simp only [tick, runs, here]

theorem tick_enter {purpose : Purpose}
    (here : contention.stages.get? number = some (.enter id purpose))
    (free : contention.isFree id = true) :
    contention.tick = contention.moveTo number (.inside id purpose) := by
  simp only [tick, runs, here, free, if_true]

theorem tick_wait {purpose : Purpose}
    (here : contention.stages.get? number = some (.enter id purpose))
    (taken : contention.isFree id = false) :
    contention.tick =
      { contention with ready := rest, waiting := contention.waiting ++ [(number, id)] } := by
  simp only [tick, runs, here, taken, Bool.false_eq_true, if_false]

theorem tick_leave {after : Fleet}
    (here : contention.stages.get? number = some (.leave id next))
    (step : (Stage.leave id next).next contention.grounded contention.fleet = (next, after)) :
    contention.tick = ({ contention with fleet := after }.moveTo number next).grant id := by
  simp only [tick, runs, here, step]

theorem tick_move {after : Fleet} (here : contention.stages.get? number = some stage)
    (unanswered : ∀ response, stage ≠ .done response)
    (wants : ∀ id purpose, stage ≠ .enter id purpose)
    (keeps : ∀ id later, stage ≠ .leave id later)
    (step : stage.next contention.grounded contention.fleet = (next, after)) :
    contention.tick = { contention with fleet := after }.moveTo number next := by
  cases stage with
  | done response => exact absurd rfl (unanswered response)
  | enter id purpose => exact absurd rfl (wants id purpose)
  | leave id later => exact absurd rfl (keeps id later)
  | _ => simp only [tick, runs, here, step]

theorem Queued.retire {response : Response} (queued : contention.Queued none)
    (here : contention.stages.get? number = some (.done response)) :
    Queued { contention with ready := rest } none := by
  have fresh := queued.ready
  rw [runs, List.nodup_cons] at fresh
  have inside : ∀ other ∈ rest, other ∈ contention.ready := fun other member =>
    runs ▸ List.mem_cons_of_mem _ member
  refine ⟨fresh.2, queued.waiting, ?_, ?_, queued.waits, ?_, queued.outside⟩
  · exact fun other wanted waits member => queued.apart other wanted waits (inside other member)
  · exact fun other member => queued.known other (inside other member)
  · intro other found there
    rcases queued.queued other found there with done | ready | waits
    · exact .inl done
    · rw [runs] at ready
      rcases List.mem_cons.mp ready with rfl | later
      · rw [here] at there
        cases there
        exact .inl ⟨response, rfl⟩
      · exact .inr (.inl later)
    · exact .inr (.inr waits)

theorem Queued.wait {purpose : Purpose} (queued : contention.Queued none)
    (here : contention.stages.get? number = some (.enter id purpose))
    (taken : contention.isFree id = false) :
    Queued { contention with
      ready := rest
      waiting := contention.waiting ++ [(number, id)] } none := by
  have fresh := queued.ready
  rw [runs, List.nodup_cons] at fresh
  have inside : ∀ other ∈ rest, other ∈ contention.ready := fun other member =>
    runs ▸ List.mem_cons_of_mem _ member
  have first : number ∈ contention.ready := runs ▸ List.mem_cons_self
  refine ⟨fresh.2, ?_, ?_, ?_, ?_, ?_, queued.outside⟩
  · apply List.nodup_append.mpr
    refine ⟨queued.waiting, by simp, ?_⟩
    intro pair waits last member
    cases List.mem_singleton.mp member
    rintro rfl
    exact queued.apart number id waits first
  · intro other wanted waits member
    rcases List.mem_append.mp waits with old | new
    · exact queued.apart other wanted old (inside other member)
    · cases List.mem_singleton.mp new
      exact fresh.1 member
  · exact fun other member => queued.known other (inside other member)
  · intro other wanted waits
    rcases List.mem_append.mp waits with old | new
    · exact queued.waits other wanted old
    · cases List.mem_singleton.mp new
      exact ⟨⟨purpose, here⟩, .inr taken⟩
  · intro other found there
    rcases queued.queued other found there with done | ready | ⟨wanted, waits⟩
    · exact .inl done
    · rw [runs] at ready
      rcases List.mem_cons.mp ready with rfl | later
      · exact .inr (.inr ⟨id, List.mem_append_right _ (List.mem_singleton_self _)⟩)
      · exact .inr (.inl later)
    · exact .inr (.inr ⟨wanted, List.mem_append_left _ waits⟩)

theorem Queued.leave (queued : contention.Queued none)
    (orderly : (contention.crowd requests).Orderly whole)
    (here : contention.stages.get? number = some (.leave id next)) :
    (contention.moveTo number next).Queued (some id) ∧
      (contention.moveTo number next).isFree id = true := by
  have mine : id ∈ (Stage.leave id next).holds := List.mem_cons_self
  constructor
  · apply queued.moveTo here (runs ▸ List.mem_cons_self)
    intro other held
    rcases List.mem_cons.mp held with rfl | inside
    · exact .inr rfl
    · exact .inl inside
  · rw [← Bool.not_eq_false, not_free_iff]
    rintro (outside | ⟨other, found, there, held⟩)
    · exact orderly.outside number _ here id (Stage.reserves_of_holds mine) outside
    · rcases Crowd.insert_cases there with ⟨rfl, rfl⟩ | ⟨different, old⟩
      · exact (orderly.fits other _ here).2.2 held
      · exact orderly.apart number other _ found (Ne.symm different) here old id
          (Stage.reserves_of_holds mine) (Stage.reserves_of_holds held)

theorem Queued.proceed (queued : contention.Queued none) (firm : contention.fleet.Firm)
    (here : contention.stages.get? number = some stage)
    (unanswered : ∀ response, stage ≠ .done response)
    (wants : ∀ id purpose, stage ≠ .enter id purpose)
    (keeps : ∀ id later, stage ≠ .leave id later) :
    contention.tick.Queued none ∧ Picks number contention contention.tick := by
  have unblocked : ∀ requests, (contention.crowd requests).blocks stage = false := by
    intro requests
    cases stage with
    | done response => exact absurd rfl (unanswered response)
    | enter id purpose => exact absurd rfl (wants id purpose)
    | _ => rfl
  cases step : stage.next contention.grounded contention.fleet with
  | mk next after =>
    rw [tick_move runs here unanswered wants keeps step]
    constructor
    · have swapped : Queued { contention with fleet := after } none := { queued with }
      apply swapped.moveTo here (runs ▸ List.mem_cons_self)
      intro other held
      rcases Stage.next_holds contention.grounded firm stage other held with still | ⟨later, same⟩
      · rw [step] at still
        exact .inl still
      · exact absurd same (keeps other later)
    · have advanced : ∀ requests, ({ contention with fleet := after }.moveTo number next).crowd
          requests = (contention.crowd requests).advance number := fun requests =>
        (advance_next here requests (unblocked requests) step).symm
      exact .moves here unblocked advanced rfl (.nobody rfl)

theorem Queued.tick (queued : contention.Queued none)
    (orderly : (contention.crowd requests).Orderly whole) :
    contention.tick.Queued none ∧ Picks number contention contention.tick := by
  have first : number ∈ contention.ready := runs ▸ List.mem_cons_self
  have shorter : rest.length < contention.ready.length := by
    rw [runs]
    exact Nat.lt_succ_self _
  have firm : contention.fleet.Firm := orderly.firm
  obtain ⟨stage, here⟩ := queued.known number first
  cases stage with
  | done response =>
    rw [tick_done runs here]
    exact ⟨queued.retire runs here, .rests here (fun _ => rfl) (fun _ => rfl) shorter⟩
  | enter id purpose =>
    cases free : contention.isFree id with
    | true =>
      rw [tick_enter runs here free]
      refine ⟨?_, .moves here ?_ (fun requests => (advance_enter here free requests).symm) rfl
        (.nobody rfl)⟩
      · exact queued.moveTo here first fun other held => .inl (List.mem_cons_of_mem _ held)
      · intro requests
        have same : (contention.crowd requests).isFree id = true := free
        simp [Crowd.blocks, same]
    | false =>
      rw [tick_wait runs here free]
      refine ⟨queued.wait runs here free, .rests here ?_ (fun _ => rfl) shorter⟩
      intro requests
      have same : (contention.crowd requests).isFree id = false := free
      simp [Crowd.blocks, same]
  | leave id next =>
    obtain ⟨moved, free⟩ := queued.leave runs orderly here
    obtain ⟨granted, hands⟩ := moved.grant free
    have advanced : ∀ requests, (contention.moveTo number next).crowd requests =
        (contention.crowd requests).advance number := fun requests =>
      (advance_next here requests rfl rfl).symm
    rw [tick_leave runs here rfl]
    exact ⟨granted, .moves here (fun _ => rfl) advanced rfl hands⟩
  | _ => exact queued.proceed runs firm here (by simp) (by simp) (by simp)

end Ticks

theorem Queued.pick (queued : contention.Queued none)
    (orderly : (contention.crowd requests).Orderly whole) (member : number ∈ contention.ready) :
    (contention.pick number).Queued none ∧ Picks number contention (contention.pick number) := by
  have same := List.perm_cons_erase member
  have turned : Queued { contention with ready := number :: contention.ready.erase number } none := by
    refine ⟨same.nodup_iff.mp queued.ready, queued.waiting, ?_, ?_, queued.waits, ?_,
      queued.outside⟩
    · intro other wanted waits inside
      exact queued.apart other wanted waits (same.mem_iff.mpr inside)
    · intro other inside
      exact queued.known other (same.mem_iff.mpr inside)
    · intro other found there
      exact (queued.queued other found there).imp_right (Or.imp_left same.mem_iff.mp)
  have orderly' : (Contention.crowd { contention with
      ready := number :: contention.ready.erase number } requests).Orderly whole := orderly
  rw [Contention.pick, if_pos member]
  obtain ⟨ticked, picks⟩ := turned.tick rfl orderly'
  refine ⟨ticked, ?_⟩
  cases picks with
  | rests here blocked same' ready => exact .rests here blocked same' (same.length_eq ▸ ready)
  | moves here unblocked step ready hands =>
    exact .moves here unblocked step (ready.trans same.length_eq.symm) hands

/-! ### Other events -/

theorem Queued.submit (queued : contention.Queued none)
    (unmade : contention.stages.get? contention.submitted = none) (request : Request) :
    (contention.submit request).Queued none := by
  have different : ∀ {other stage}, contention.stages.get? other = some stage →
      other ≠ contention.submitted := by
    rintro other stage there rfl
    rw [unmade] at there
    cases there
  have stays : ∀ {other stage}, contention.stages.get? other = some stage →
      (contention.submit request).stages.get? other = some stage := by
    intro other stage there
    rw [Contention.submit, Contention.moveTo, Table.get?_insert, if_neg (different there), there]
  refine ⟨?_, queued.waiting, ?_, ?_, ?_, ?_, queued.outside⟩
  · apply List.nodup_append.mpr
    refine ⟨queued.ready, by simp, ?_⟩
    intro other member last inside
    cases List.mem_singleton.mp inside
    obtain ⟨stage, there⟩ := queued.known other member
    exact different there
  · intro other wanted waits inside
    rcases List.mem_append.mp inside with old | last
    · exact queued.apart other wanted waits old
    · obtain ⟨⟨purpose, there⟩, _⟩ := queued.waits other wanted waits
      exact different there (List.mem_singleton.mp last)
  · intro other inside
    rcases List.mem_append.mp inside with old | last
    · obtain ⟨stage, there⟩ := queued.known other old
      exact ⟨stage, stays there⟩
    · refine ⟨.start request, ?_⟩
      cases List.mem_singleton.mp last
      rw [Contention.submit, Contention.moveTo, Table.get?_insert, if_pos rfl]
  · intro other wanted waits
    obtain ⟨⟨purpose, there⟩, taken⟩ := queued.waits other wanted waits
    refine ⟨⟨purpose, stays there⟩, .inr ?_⟩
    rw [not_free_iff]
    rcases not_free_iff.mp (taken.resolve_left (by simp)) with outside | ⟨holder, found, there', held⟩
    · exact .inl outside
    · exact .inr ⟨holder, found, stays there', held⟩
  · intro other found there
    rcases Crowd.insert_cases there with ⟨rfl, _⟩ | ⟨_, old⟩
    · exact .inr (.inl (List.mem_append_right _ (List.mem_singleton_self _)))
    · exact (queued.queued other found old).imp_right (Or.imp_left (List.mem_append_left _))

theorem hold_crowd (contention : Contention) (id : Nat) (requests : List Request) :
    (contention.hold id).2.crowd requests = (contention.crowd requests).hold id := by
  have free : (contention.crowd requests).isFree id = contention.isFree id := rfl
  have found : (contention.crowd requests).fleet.matrix? id = contention.fleet.matrix? id := rfl
  rw [Contention.hold, Crowd.hold, free, found]
  cases contention.fleet.matrix? id with
  | none => rfl
  | some matrix => cases contention.isFree id <;> rfl

theorem Queued.hold (queued : contention.Queued none) (id : Nat) :
    (contention.hold id).2.Queued none := by
  rw [Contention.hold]
  split
  · exact queued
  · split
    · rename_i free
      have absent : id ∉ contention.outside := by
        intro member
        rw [not_free_iff.mpr (.inl member)] at free
        cases free
      refine { queued with waits := ?_, outside := List.nodup_cons.mpr ⟨absent, queued.outside⟩ }
      intro other wanted waits
      obtain ⟨there, taken⟩ := queued.waits other wanted waits
      refine ⟨there, .inr ?_⟩
      rw [not_free_iff]
      exact (not_free_iff.mp (taken.resolve_left (by simp))).imp_left (List.mem_cons_of_mem _)
    · exact queued

theorem Queued.release (queued : contention.Queued none)
    (orderly : (contention.crowd requests).Orderly whole) (id : Nat) :
    (contention.release id).Queued none ∧
      Hands { contention with outside := contention.outside.erase id } (contention.release id) := by
  rw [Contention.release]
  split
  · rename_i held
    have member : id ∈ contention.outside := List.contains_iff_mem.mp held
    have given : Queued { contention with outside := contention.outside.erase id } (some id) := by
      refine { queued with waits := ?_, outside := queued.outside.erase id }
      intro other wanted waits
      obtain ⟨there, taken⟩ := queued.waits other wanted waits
      refine ⟨there, ?_⟩
      by_cases same : wanted = id
      · exact .inl (congrArg some same.symm)
      · right
        rw [not_free_iff]
        exact (not_free_iff.mp (taken.resolve_left (by simp))).imp_left
          (List.mem_erase_of_ne same).mpr
    apply given.grant
    rw [← Bool.not_eq_false, not_free_iff]
    rintro (outside | ⟨other, found, there, holds⟩)
    · exact queued.outside.not_mem_erase outside
    · exact orderly.outside other found there id (Stage.reserves_of_holds holds) member
  · rename_i absent
    have same : contention.outside.erase id = contention.outside := by
      apply List.erase_of_not_mem
      intro member
      exact absent (List.contains_iff_mem.mpr member)
    rw [same]
    exact ⟨queued, .nobody rfl⟩

end DroneFleet.Contention
