import Mathlib
import DroneFleet.Proofs.Crowd.Steps
import DroneFleet.Proofs.Fleet.Effort
import DroneFleet.Proofs.Fleet.Keeping

/-!
Why a crowd comes to an end. Matrices are taken in the order of their numbers, so among the requests
that wait there is always one that nobody keeps waiting, unless an outsider does
(`Orderly.someone_able`). And every step leaves all requests together with less ahead of them
(`Orderly.advance_effort`): one that turns back to the directory does so because a drone has been moved
or deleted since.
-/
namespace DroneFleet.Crowd

variable {crowd : Crowd} {whole : Fleet} {number : Nat} {stage next : Stage} {request : Request}

/-! ### Nobody waits for ever -/

/-- Whoever holds a matrix is able to go on or waits for one with a higher number. -/
theorem Orderly.able_above (orderly : crowd.Orderly whole) (vacant : crowd.outside = [])
    {number id : Nat} {purpose : Purpose}
    (here : crowd.stages.get? number = some (.enter id purpose)) :
    ∃ other found, crowd.stages.get? other = some found ∧ crowd.blocks found = false := by
  cases free : crowd.isFree id with
  | true => exact ⟨number, _, here, by simp [blocks, free]⟩
  | false =>
    -- The matrix is wanted, so it has been built, and its number is bounded.
    obtain ⟨⟨slot, built⟩, _⟩ := orderly.fits number _ here
    have bounded := orderly.firm.numbered id slot built
    obtain ⟨other, found, there, held⟩ : ∃ other found,
        crowd.stages.get? other = some found ∧ id ∈ found.holds := by
      rw [Bool.eq_false_iff, Ne, isFree_iff, not_and_or, vacant] at free
      simpa using free
    by_cases waits : ∃ wanted purpose', found = .enter wanted purpose'
    · obtain ⟨wanted, purpose', rfl⟩ := waits
      have above : id < wanted := (orderly.fits other _ there).2.below id held
      exact orderly.able_above vacant there
    · refine ⟨other, found, there, ?_⟩
      cases found with
      | done response => cases held
      | enter wanted purpose' => exact absurd ⟨wanted, purpose', rfl⟩ waits
      | _ => rfl
termination_by crowd.fleet.lastMatrix + 1 - id
decreasing_by omega

/-- Where no outsider holds a matrix, some request is able to go on until all are answered. -/
theorem Orderly.someone_able (orderly : crowd.Orderly whole) (vacant : crowd.outside = [])
    (here : crowd.stages.get? number = some stage) (unanswered : ∀ response, stage ≠ .done response) :
    ∃ other found, crowd.stages.get? other = some found ∧ crowd.blocks found = false := by
  cases stage with
  | enter id purpose => exact orderly.able_above vacant here
  | done response => exact absurd rfl (unanswered response)
  | _ => exact ⟨number, _, here, rfl⟩

/-! ### Less and less is left to do -/

/-- The step of a request costs it at least one step of those ahead, and as much on top as it may cost
each of the others. -/
theorem Move.cost {after : Fleet} (move : Move crowd request stage next after)
    (orderly : crowd.Orderly whole) (here : crowd.stages.get? number = some stage) (count : Nat) :
    ∃ extra, (∀ other : Stage, other.cost count after ≤ other.cost count crowd.fleet + extra) ∧
      next.cost count after + extra * count < stage.cost count crowd.fleet := by
  have fits := orderly.fits number stage here
  cases move with
  | enters same _ _ =>
    subst same
    refine ⟨0, fun _ => Nat.le_refl _, ?_⟩
    rw [Nat.zero_mul, Nat.add_zero]
    exact Nat.add_lt_add_right (Nat.add_lt_add_right (Nat.lt_succ_self _) _) _
  | turns serves follows =>
    have turn : stage.Turn crowd.grounded request crowd.fleet next after := follows.turn
    refine ⟨0, ?_, ?_⟩
    · intro other
      cases turn with
      | does => exact Nat.le_of_eq (Stage.cost_perform _ count crowd.fleet other)
      | _ => exact Nat.le_refl _
    · rw [Nat.zero_mul, Nat.add_zero]
      exact follows.cost serves (orderly.clear here serves.pending?)
        (fun _ _ => orderly.listed_of_owner) count
  | @writes response entry next answers pending closes nextFits keeps =>
    refine ⟨13, fun other => Stage.cost_write entry count crowd.fleet other, ?_⟩
    have few := closes.span_le nextFits keeps (entry.write crowd.fleet).listed.size
    rw [closes.span] at few
    rw [answers.cost pending, closes.cost]
    omega
  | leaves same closes =>
    subst same
    refine ⟨0, fun _ => Nat.le_refl _, ?_⟩
    rw [Nat.zero_mul, Nat.add_zero]
    exact Nat.add_lt_add_right (Nat.add_lt_add_right (Nat.lt_succ_self _) _) _
  | flies same _ _ _ _ _ =>
    subst same
    refine ⟨0, fun other => Nat.le_of_eq (Stage.cost_congr rfl rfl count other), ?_⟩
    rw [Nat.zero_mul, Nat.add_zero]
    exact Nat.add_lt_add_right (Nat.add_lt_add_right (Nat.lt_succ_self _) _) _
  | lands same _ =>
    subst same
    exact ⟨0, fun _ => Nat.le_refl _, by simp [Stage.cost, Stage.span, Stage.detour, Stage.trust?,
      Stage.owes]⟩

/-- Where a request stands, if all that will ever be asked counts as asked from the start. -/
def stageOf? (crowd : Crowd) (asked : List Request) (number : Nat) : Option Stage :=
  (crowd.stages.get? number).or (asked[number]?.map .start)

def effort (crowd : Crowd) (asked : List Request) : Nat :=
  ∑ number ∈ Finset.range asked.length,
    (crowd.stageOf? asked number).elim 0 (Stage.cost asked.length crowd.fleet)

theorem sum_lt_sum_of_drop (extra : Nat) {count place : Nat} {before after : Nat → Nat}
    (inside : place < count)
    (others : ∀ number, number ≠ place → after number ≤ before number + extra)
    (drop : after place + extra * count < before place) :
    ∑ number ∈ Finset.range count, after number < ∑ number ∈ Finset.range count, before number := by
  have member := Finset.mem_range.mpr inside
  have rest : ∑ number ∈ (Finset.range count).erase place, after number ≤
      ∑ number ∈ (Finset.range count).erase place, before number + extra * count := by
    calc ∑ number ∈ (Finset.range count).erase place, after number
        ≤ ∑ number ∈ (Finset.range count).erase place, (before number + extra) :=
          Finset.sum_le_sum fun number other => others number (Finset.ne_of_mem_erase other)
      _ = ∑ number ∈ (Finset.range count).erase place, before number + (count - 1) * extra := by
          rw [Finset.sum_add_distrib, Finset.sum_const_nat fun _ _ => rfl,
            Finset.card_erase_of_mem member, Finset.card_range]
      _ ≤ ∑ number ∈ (Finset.range count).erase place, before number + extra * count := by
          rw [Nat.mul_comm extra count]
          exact Nat.add_le_add_left (Nat.mul_le_mul_right _ (Nat.sub_le count 1)) _
  rw [← Finset.add_sum_erase _ _ member, ← Finset.add_sum_erase _ before member]
  omega

theorem Orderly.advance_effort (orderly : crowd.Orderly whole)
    (here : crowd.stages.get? number = some stage) (unblocked : crowd.blocks stage = false)
    {asked : List Request} (made : crowd.requests <+: asked) :
    (crowd.advance number).effort asked < crowd.effort asked := by
  obtain ⟨request, wanted, _⟩ := orderly.belongs number stage here
  obtain ⟨next, after, step, move⟩ := orderly.moves here unblocked wanted
  obtain ⟨extra, others, drop⟩ := move.cost orderly here asked.length
  rw [advance_eq here unblocked step]
  have inside : number < asked.length :=
    Nat.lt_of_lt_of_le (List.getElem?_eq_some_iff.mp wanted).1 made.length_le
  apply sum_lt_sum_of_drop extra inside
  · intro other different
    simp only [stageOf?, moveTo, Table.get?_insert, if_neg different]
    cases crowd.stages.get? other with
    | some found => exact others found
    | none =>
      cases asked[other]? with
      | some later => exact others (.start later)
      | none => exact Nat.zero_le _
  · simpa [stageOf?, moveTo, Table.get?_insert, here] using drop

theorem Orderly.submit_effort (orderly : crowd.Orderly whole) {request : Request}
    {asked : List Request} (made : crowd.requests ++ [request] <+: asked) :
    (crowd.submit request).effort asked = crowd.effort asked := by
  have next : asked[crowd.requests.length]? = some request := by
    obtain ⟨later, rfl⟩ := made
    simp
  have unmade : crowd.stages.get? crowd.requests.length = none := by
    cases here : crowd.stages.get? crowd.requests.length with
    | none => rfl
    | some stage =>
      obtain ⟨_, wanted, _⟩ := orderly.belongs _ stage here
      simp at wanted
  apply Finset.sum_congr rfl
  intro number _
  simp only [stageOf?, Crowd.submit, moveTo, Table.get?_insert]
  split
  · rename_i same
    subst same
    rw [unmade, next]
    rfl
  · rfl

private theorem sum_range_getElem {α : Type} (items : List α) (weight : α → Nat) :
    ∑ place ∈ Finset.range items.length, items[place]?.elim 0 weight = (items.map weight).sum := by
  induction items with
  | nil => rfl
  | cons item rest ih => simp [Finset.sum_range_succ', ih, Nat.add_comm]

theorem new_effort (fleet : Fleet) (asked : List Request) :
    (new fleet).effort asked =
      (asked.map fun request => (Stage.start request).cost asked.length fleet).sum := by
  rw [← sum_range_getElem, effort]
  apply Finset.sum_congr rfl
  intro number _
  cases wanted : asked[number]? <;> simp [stageOf?, new, wanted]

end DroneFleet.Crowd
