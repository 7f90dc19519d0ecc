import DroneFleet.Proofs.Fleet.Turn

/-!
What a request goes by once the directory has sent it to a matrix (`Stage.trust?`). As long as the
directory says the same, no step turns the request back to look its drone up again (`Goes.steady`).
-/
namespace DroneFleet

def Purpose.trust? (id : Nat) : Purpose → Option (Nat × Nat)
  | home drone _ => some (drone, id)
  | targetFirst drone source _ => some (drone, source)
  | sourceAgain drone _ _ => some (drone, id)
  | _ => none

namespace Stage

def trust? : Stage → Option (Nat × Nat)
  | seek id purpose => purpose.trust? id
  | enter id purpose => purpose.trust? id
  | inside id purpose => purpose.trust? id
  | leave _ next => next.trust?
  | _ => none

/-- The request has still to look its drone up, if need be after it has given back what it holds. -/
def Looks : Stage → Prop
  | start _ => True
  | locate _ _ _ => True
  | leave _ next => next.Looks
  | _ => False

/-- The request has no need to look up a drone, and whatever it goes by is what the directory says of
this one. -/
structure Steady (fleet : Fleet) (drone : Nat) (stage : Stage) : Prop where
  not_looks : ¬ stage.Looks
  trusts : ∀ other id, stage.trust? = some (other, id) →
    other = drone ∧ fleet.owner? drone = some id

variable {fleet : Fleet} {stage next : Stage} {response : Response} {drone : Nat}

theorem steady_of_none (not_looks : ¬ stage.Looks) (nothing : stage.trust? = none) :
    stage.Steady fleet drone := by
  refine ⟨not_looks, ?_⟩
  intro other id relied
  rw [nothing] at relied
  cases relied

/-! ### A request that is being closed goes by nothing -/

theorem Closes.trust? (closes : stage.Closes response) : stage.trust? = none := by
  induction stage with
  | leave id next ih => exact ih closes
  | done other => rfl
  | _ => exact closes.elim

theorem Closes.not_looks (closes : stage.Closes response) : ¬ stage.Looks := by
  induction stage with
  | leave id next ih => exact ih closes
  | done other => exact id
  | _ => exact closes.elim

theorem Answers.trust? (answers : stage.Answers response) : stage.trust? = none := by
  cases stage with
  | leave id next =>
    have closes : next.Closes response := answers
    exact closes.trust?
  | publish matrix => rfl
  | record drone owner next => rfl
  | withdraw id next => rfl
  | done other => rfl
  | _ => exact answers.elim

theorem Answers.not_looks (answers : stage.Answers response) : ¬ stage.Looks := by
  cases stage with
  | leave id next =>
    have closes : next.Closes response := answers
    exact closes.not_looks
  | publish matrix => exact id
  | record drone owner next => exact id
  | withdraw gone next => exact id
  | done other => exact id
  | _ => exact answers.elim

theorem Answers.steady (answers : stage.Answers response) : stage.Steady fleet drone :=
  steady_of_none answers.not_looks answers.trust?

/-! ### A request that cannot find a matrix -/

theorem visit_trust? (listing : Listing) (seen : List MatrixView) (ahead : List Nat) :
    (visit listing seen ahead).trust? = none := by
  cases ahead <;> rfl

theorem visit_not_looks (listing : Listing) (seen : List MatrixView) (ahead : List Nat) :
    ¬ (visit listing seen ahead).Looks := by
  cases ahead <;> exact id

theorem missing_trust? (id : Nat) (purpose : Purpose) : (missing id purpose).trust? = none := by
  cases purpose <;> first | rfl | exact visit_trust? _ _ _

theorem missing_looks {id : Nat} {purpose : Purpose} (looks : (missing id purpose).Looks) :
    ∃ drone, purpose.trust? id = some (drone, id) := by
  cases purpose with
  | survey listing ahead seen => exact absurd looks (visit_not_looks listing seen ahead)
  | home drone errand => exact ⟨drone, rfl⟩
  | sourceAgain drone target changes => exact ⟨drone, rfl⟩
  | _ => exact looks.elim

/-- Nothing turns a request back to the directory while that still says what it has said. -/
theorem Goes.steady (goes : Goes fleet stage next) (clear : fleet.Clear stage.holds)
    (known : ∀ drone id, fleet.owner? drone = some id → fleet.listed.contains id = true)
    (steady : stage.Steady fleet drone) : next.Steady fleet drone := by
  cases goes with
  | starts plain => exact absurd trivial steady.not_looks
  | surveys listing => exact steady_of_none (visit_not_looks _ _ _) (visit_trust? _ _ _)
  | finds _ => exact ⟨id, steady.trusts⟩
  | @misses id purpose unlisted =>
    refine steady_of_none ?_ (missing_trust? id purpose)
    intro looks
    obtain ⟨other, relied⟩ := missing_looks looks
    rw [known drone id (steady.trusts other id relied).2] at unlisted
    cases unlisted
  | @finds_gone id purpose gone =>
    refine steady_of_none ?_ (missing_trust? id purpose)
    intro looks
    obtain ⟨other, relied⟩ := missing_looks looks
    exact clear.owner_ne List.mem_cons_self (by simp [gone]) (steady.trusts other id relied).2
  | views => exact steady_of_none (visit_not_looks _ _ _) (visit_trust? _ _ _)
  | @strays matrix other wanted standing absent =>
    obtain ⟨rfl, owned⟩ := steady.trusts other matrix.id rfl
    exact absurd owned (clear.owner_ne List.mem_cons_self (by simp [standing, absent]))
  | @restarts matrix other target changes standing absent =>
    obtain ⟨rfl, owned⟩ := steady.trusts other matrix.id rfl
    exact absurd owned (clear.owner_ne List.mem_cons_self (by simp [standing, absent]))
  | descends _ _ => exact ⟨id, steady.trusts⟩
  | returns => exact ⟨id, steady.trusts⟩
  | looks _ _ => exact absurd trivial steady.not_looks
  | leaves => exact ⟨steady.not_looks, steady.trusts⟩
  | _ => exact steady_of_none id rfl

end Stage

end DroneFleet
