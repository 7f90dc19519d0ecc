import DroneFleet.Proofs.Fleet.Turn

/-!
What a step of a request leaves as it is, whatever the step comes to: a matrix that is held stays held
until the step that gives it back, and the owner that a request has still to write is the one that it
was asked for.
-/
namespace DroneFleet.Stage

variable {grounded : Bool} {fleet : Fleet} {request : Request}

/-- The owner that a request has still to write comes of what was asked: a drone is deleted, moved to
the matrix named, or new on it. -/
def Rehomes (request : Request) : Stage → Prop
  | record drone owner next =>
    (owner = none ∧ request = .deleteDrone drone) ∨
    (∃ changes id, owner = some id ∧ changes.matrixId = some id ∧
      request = .updateDrone drone changes) ∨
    ∃ new, owner = some new.matrixId ∧ request = .createDrone new ∧ next.holds = [new.matrixId]
  | _ => True

def Relocates (fleet : Fleet) (request : Request) (drone : Nat) (stage : Stage) : Prop :=
  ∃ id owner next, stage = record drone owner next ∧ fleet.owner? drone = some id ∧
    owner ≠ some id ∧ (owner = none ∧ request = .deleteDrone drone ∨
      ∃ changes target, owner = some target ∧ changes.matrixId = some target ∧
        request = .updateDrone drone changes)

/-- An owner that differs from the one in the directory is not that of a new drone. -/
theorem Rehomes.relocates {drone id : Nat} {owner : Option Nat} {next : Stage}
    (rehomes : (record drone owner next).Rehomes request)
    (fits : (record drone owner next).Fits fleet) (known : fleet.owner? drone = some id)
    (differs : owner ≠ some id) : (record drone owner next).Relocates fleet request drone := by
  refine ⟨id, owner, next, rfl, known, differs, ?_⟩
  rcases rehomes with ⟨gone, asked⟩ | moved | ⟨new, there, _, held⟩
  · exact .inl ⟨gone, asked⟩
  · exact .inr moved
  · have member := (fits.2.2.2 id (.inr known)).1
    rw [held] at member
    exact absurd (there.trans (congrArg some (List.mem_singleton.mp member).symm)) differs

theorem rehomes_of_quiet {stage : Stage} (quiet : stage.pending? = none) :
    stage.Rehomes request := by
  cases stage with
  | record drone owner next => cases quiet
  | _ => trivial

theorem after_holds {α : Type} {work : Handling α} {next : Except Refusal α → Stage} {id : Nat}
    (all : ∀ result, id ∈ (next result).holds) : id ∈ (after work fleet next).1.holds :=
  all _

theorem after_rehomes {α : Type} {work : Handling α} {next : Except Refusal α → Stage}
    (all : ∀ result, (next result).Rehomes request) :
    (after work fleet next).1.Rehomes request :=
  all _

theorem muster_holds (matrix : Matrix) (plans : List Plan) :
    matrix.id ∈ (muster matrix plans).holds := by
  unfold muster
  split <;> simp [holds]

theorem errand_holds (matrix : Matrix) (drone : Nat) (wanted : Errand) :
    matrix.id ∈ (errand grounded fleet matrix drone wanted).1.holds := by
  cases wanted with
  | look => exact after_holds fun _ => List.mem_cons_self
  | remove =>
    apply after_holds
    intro result
    cases result <;> simp [holds]
  | fly commands => exact after_holds fun _ => List.mem_cons_self
  | lead plans => exact muster_holds matrix plans
  | change changes =>
    simp only [errand]
    split
    · exact after_holds fun _ => List.mem_cons_self
    · split <;> simp [holds, Purpose.held]

theorem move_holds (drone : Nat) (source target : Matrix) (changes : DroneChanges) :
    ∀ id, id = source.id ∨ id = target.id →
      id ∈ (move fleet drone source target changes).1.holds := by
  intro id named
  apply after_holds
  intro result
  cases result <;> simpa [holds, refused] using named.symm

theorem missing_holds (id : Nat) (purpose : Purpose) :
    ∀ other ∈ purpose.held, other ∈ (missing id purpose).holds := by
  intro other member
  cases purpose with
  | target drone source changes => simpa [missing, holds, refused, Purpose.held] using member
  | sourceAgain drone target changes => simpa [missing, holds, Purpose.held] using member
  | _ => cases member

theorem act_holds (firm : fleet.Firm) (matrix : Matrix) (purpose : Purpose) :
    ∀ id ∈ (inside matrix.id purpose).holds, id ∈ (act grounded fleet matrix purpose).1.holds := by
  intro id member
  cases purpose with
  | survey listing ahead seen =>
    cases List.mem_singleton.mp member
    exact List.mem_cons_self
  | resize bounds =>
    cases List.mem_singleton.mp member
    exact after_holds fun _ => List.mem_cons_self
  | delete =>
    cases List.mem_singleton.mp member
    apply after_holds
    intro result
    cases result <;> simp [holds]
  | enroll new =>
    cases List.mem_singleton.mp member
    apply after_holds
    intro result
    cases result <;> simp [holds]
  | home drone wanted =>
    cases List.mem_singleton.mp member
    simp only [act]
    split
    · exact errand_holds matrix drone wanted
    · exact List.mem_cons_self
  | target drone other changes =>
    simp only [act]
    split
    · rename_i source standing
      cases (firm.standing standing).1
      apply move_holds
      simpa [holds, Purpose.held, or_comm] using member
    · simpa [holds, refused, Purpose.held] using member
  | sourceAgain drone other changes =>
    have restarts : id ∈ (leave other (leave matrix.id
        (locate drone none (.change changes)))).holds := by
      simpa [holds, Purpose.held, or_comm] using member
    simp only [act]
    split
    · split
      · rename_i target standing
        cases (firm.standing standing).1
        apply move_holds
        simpa [holds, Purpose.held] using member
      · exact restarts
    · exact restarts
  | batch plans =>
    cases List.mem_singleton.mp member
    exact muster_holds matrix plans
  | _ => simpa [act, holds, Purpose.held] using member

theorem next_holds (grounded : Bool) (firm : fleet.Firm) (stage : Stage) :
    ∀ id ∈ stage.holds, id ∈ (stage.next grounded fleet).1.holds ∨
      ∃ later, stage = leave id later := by
  intro id member
  cases stage with
  | seek wanted purpose =>
    simp only [next]
    split
    · exact .inl member
    · exact .inl (missing_holds wanted purpose id member)
  | enter wanted purpose => exact .inl (List.mem_cons_of_mem _ member)
  | inside held purpose =>
    simp only [next]
    split
    · rename_i matrix standing
      cases (firm.standing standing).1
      exact .inl (act_holds firm matrix purpose id member)
    · rcases List.mem_cons.mp member with rfl | other
      · exact .inl List.mem_cons_self
      · exact .inl (List.mem_cons_of_mem _ (missing_holds held purpose id other))
  | record drone owner later => exact .inl member
  | withdraw gone later => exact .inl member
  | leave left later =>
    rcases List.mem_cons.mp member with rfl | other
    · exact .inr ⟨later, rfl⟩
    · exact .inl other
  | mismatch held drone =>
    cases List.mem_singleton.mp member
    simp only [next]
    split <;> simp [holds]
  | flying held outcomes ahead =>
    cases List.mem_singleton.mp member
    cases ahead with
    | nil => exact .inl (after_holds fun _ => List.mem_cons_self)
    | cons plan rest =>
      left
      apply after_holds
      intro result
      cases result <;> simp [holds]
  | _ => cases member

theorem move_rehomes {drone : Nat} {source target : Matrix} {changes : DroneChanges}
    (asked : request = .updateDrone drone changes) (goal : changes.matrixId = some target.id) :
    (move fleet drone source target changes).1.Rehomes request := by
  apply after_rehomes
  intro result
  cases result with
  | ok moved => exact .inr (.inl ⟨changes, target.id, rfl, goal, asked⟩)
  | error refusal => trivial

theorem errand_rehomes {matrix : Matrix} {drone : Nat} {wanted : Errand}
    (serves : wanted.Serves request drone) :
    (errand grounded fleet matrix drone wanted).1.Rehomes request := by
  cases wanted with
  | look => exact after_rehomes fun _ => trivial
  | remove =>
    apply after_rehomes
    intro result
    cases result with
    | ok removed => exact .inl ⟨rfl, serves⟩
    | error refusal => trivial
  | fly commands => exact after_rehomes fun _ => trivial
  | lead plans =>
    simp only [errand, muster]
    split <;> trivial
  | change changes =>
    simp only [errand]
    split
    · exact after_rehomes fun _ => trivial
    · split <;> trivial

theorem act_rehomes (firm : fleet.Firm) {matrix : Matrix} {purpose : Purpose}
    (serves : purpose.Serves request matrix.id) :
    (act grounded fleet matrix purpose).1.Rehomes request := by
  cases purpose with
  | resize bounds => exact after_rehomes fun _ => trivial
  | delete =>
    apply after_rehomes
    intro result
    cases result <;> trivial
  | enroll new =>
    apply after_rehomes
    intro result
    cases result with
    | ok drone => exact .inr (.inr ⟨new, by rw [serves.2], serves.1, by rw [serves.2]; rfl⟩)
    | error refusal => trivial
  | home drone wanted =>
    simp only [act]
    split
    · exact errand_rehomes serves
    · trivial
  | target drone other changes =>
    simp only [act]
    split
    · exact move_rehomes serves.1 serves.2
    · trivial
  | sourceAgain drone other changes =>
    simp only [act]
    split
    · split
      · rename_i target standing
        cases (firm.standing standing).1
        exact move_rehomes serves.1 serves.2
      · trivial
    · trivial
  | batch plans =>
    simp only [act, muster]
    split <;> trivial
  | _ => trivial

theorem visit_quiet (listing : Listing) (seen : List MatrixView) (ahead : List Nat) :
    (visit listing seen ahead).pending? = none := by
  cases ahead <;> rfl

theorem missing_quiet (id : Nat) (purpose : Purpose) : (missing id purpose).pending? = none := by
  cases purpose <;> first | rfl | exact visit_quiet _ _ _

theorem Passes.quiet {stage : Stage} (passes : stage.Passes request) : stage.pending? = none := by
  rcases passes with serves | ⟨_, _, closes⟩ | ⟨_, _, _, closes⟩
  · exact serves.pending?
  · exact closes.pending?
  · exact closes.pending?

theorem Serves.next_rehomes {stage : Stage} (serves : stage.Serves request) (grounded : Bool)
    (firm : fleet.Firm) :
    (stage.next grounded fleet).1.Rehomes request := by
  cases stage with
  | start other =>
    cases serves
    cases request with
    | createMatrix maxX maxY =>
      apply after_rehomes
      intro result
      cases result <;> trivial
    | _ =>
      simp only [next]
      exact rehomes_of_quiet (ofRequest_passes fleet _).1.quiet
  | survey listing => exact rehomes_of_quiet (visit_quiet listing [] _)
  | seek id purpose =>
    simp only [next]
    split
    · trivial
    · exact rehomes_of_quiet (missing_quiet id purpose)
  | enter id purpose => trivial
  | inside id purpose =>
    simp only [next]
    split
    · rename_i matrix standing
      cases (firm.standing standing).1
      exact act_rehomes firm serves
    · trivial
  | locate drone last wanted =>
    simp only [next]
    split
    · trivial
    · split <;> trivial
  | leave id later =>
    have pursued : later.Serves request := serves
    exact rehomes_of_quiet pursued.pending?
  | mismatch id drone =>
    simp only [next]
    split <;> trivial
  | _ => exact serves.elim

end DroneFleet.Stage
