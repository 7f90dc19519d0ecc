import DroneFleet.Proofs.Fleet.Lines

/-!
The steps of a request that has its answer: it writes its entry and gives back what it holds. And the
steps of a batch in flight, each of which is a deed of its own.
-/
namespace DroneFleet.Stage

variable {fleet : Fleet} {response : Response} {grounded : Bool}

theorem write_fits {next : Stage} (fits : next.Fits fleet) (plain : next.pending? = none)
    {entry : Entry} (apart : ∀ id ∈ next.holds, ¬ entry.Writes (.slot id)) :
    next.Fits (entry.write fleet) := by
  apply fits.frame
  · exact fun id built => entry.write_built built
  · intro id member
    rw [reserves_eq_holds plain] at member
    exact entry.write_other (apart id member) fleet
  · intro drone owner pending
    rw [plain] at pending
    cases pending

theorem Answers.write {stage : Stage} (answers : stage.Answers response) (fits : stage.Fits fleet)
    {entry : Entry} (pending : stage.pending? = some entry) :
    ∃ next, stage.next grounded fleet = (next, entry.write fleet) ∧ next.Closes response ∧
      next.Fits (entry.write fleet) ∧ ∀ id ∈ next.holds, id ∈ stage.holds := by
  cases stage with
  | publish matrix =>
    cases pending
    exact ⟨_, rfl, Eq.symm answers, trivial, by simp [holds]⟩
  | record drone owner next =>
    cases pending
    exact ⟨next, rfl, answers, write_fits fits.2.1 fits.1 (by simp [Entry.Writes]), by simp [holds]⟩
  | withdraw id next =>
    cases pending
    exact ⟨next, rfl, answers, write_fits fits.2.1 fits.1 (by simp [Entry.Writes]), by simp [holds]⟩
  | _ => cases pending

theorem Closes.leave {stage : Stage} (closes : stage.Closes response) :
    stage = done response ∨ ∃ id next, stage = leave id next ∧ next.Closes response := by
  cases stage with
  | done other => exact .inl (congrArg done closes)
  | leave id next => exact .inr ⟨id, next, rfl, closes⟩
  | _ => exact closes.elim

theorem Answers.closes {stage : Stage} (answers : stage.Answers response)
    (plain : stage.pending? = none) : stage.Closes response := by
  cases stage <;> first | exact answers | cases plain

theorem flying_done {id : Nat} {outcomes : List DroneOutcome} {matrix : Matrix}
    (standing : fleet.standing? id = some matrix) :
    (flying id outcomes []).next grounded fleet =
      (leave id (done (.batch (.of outcomes matrix))), fleet) := by
  simp only [next]
  rw [after_on (Handling.on_report standing outcomes)]
  rfl

theorem flying_next (firm : fleet.Firm) {id : Nat} {outcomes : List DroneOutcome} {plan : Plan}
    {ahead : List Plan} (fits : (flying id outcomes (plan :: ahead)).Fits fleet) :
    ∃ matrix outcome flown, fleet.standing? id = some matrix ∧ flown.Sound ∧ matrix.Kin flown ∧
      (∀ other : Fleet, other.standing? matrix.id = some matrix →
        (Handling.flyPlan grounded matrix.id plan).on other = (.ok outcome, other.store flown)) ∧
      (flying id outcomes (plan :: ahead)).next grounded fleet =
        (flying id (outcomes ++ [outcome]) ahead, fleet.store flown) ∧
      (flying id (outcomes ++ [outcome]) ahead).Fits (fleet.store flown) := by
  obtain ⟨matrix, standing, aboard⟩ := fits
  obtain ⟨name, sound⟩ := firm.standing standing
  subst name
  obtain ⟨outcome, flown, flownSound, kin, flew⟩ :=
    Handling.flyPlan_result grounded sound (aboard plan List.mem_cons_self)
  refine ⟨matrix, outcome, flown, standing, flownSound, kin, flew, ?_, flown, ?_, ?_⟩
  · simp only [next]
    rw [after_on (flew fleet standing)]
  · rw [Fleet.store_standing?, if_pos kin.id.symm]
  · intro other member
    exact (kin.owns _).trans (aboard other (List.mem_cons_of_mem _ member))

end DroneFleet.Stage
