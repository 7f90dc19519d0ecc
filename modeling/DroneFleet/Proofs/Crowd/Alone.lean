import DroneFleet.Proofs.Crowd.Steps
import DroneFleet.Proofs.Fleet.Grounded

/-!
A request for drones to fly that has the fleet for itself, while the word that no drone may start can
come at any moment between two of its steps. Until it has its drones together the word makes no
difference (`Stage.Leads`), and it comes so far unless something is wrong with it (`start_heads`).
-/
namespace DroneFleet

open Handling

namespace Stage

/-- A step of a request that has the fleet for itself. It would wait for nobody but itself. -/
def alone (grounded : Bool) (fleet : Fleet) : Stage → Stage × Fleet
  | enter id purpose =>
    if id ∈ purpose.held then (enter id purpose, fleet) else (inside id purpose, fleet)
  | stage => stage.next grounded fleet

def walk (stage : Stage) (fleet : Fleet) : List Bool → Stage × Fleet
  | [] => (stage, fleet)
  | grounded :: rest => (stage.alone grounded fleet).1.walk (stage.alone grounded fleet).2 rest

variable {fleet : Fleet} {stage next last : Stage} {limit more : Nat}

theorem walk_append (stage : Stage) (fleet : Fleet) (front back : List Bool) :
    stage.walk fleet (front ++ back) =
      (stage.walk fleet front).1.walk (stage.walk fleet front).2 back := by
  induction front generalizing stage fleet with
  | nil => rfl
  | cons grounded front ih => exact ih _ _

theorem walk_done (response : Response) (fleet : Fleet) (flags : List Bool) :
    (done response).walk fleet flags = (done response, fleet) := by
  induction flags with
  | nil => rfl
  | cons grounded rest ih => exact ih

/-- The next stage comes within some steps, which leave the fleet as it is, whether drones are
grounded or not. -/
def Leads (fleet : Fleet) (limit : Nat) (stage next : Stage) : Prop :=
  ∃ count ≤ limit, ∀ flags : List Bool, flags.length = count →
    stage.walk fleet flags = (next, fleet)

theorem Leads.refl (fleet : Fleet) (limit : Nat) (stage : Stage) : Leads fleet limit stage stage :=
  ⟨0, Nat.zero_le _, fun flags none => by rw [List.length_eq_zero_iff.mp none]; rfl⟩

theorem Leads.step (goes : ∀ grounded, stage.alone grounded fleet = (next, fleet))
    (leads : Leads fleet limit next last) : Leads fleet (limit + 1) stage last := by
  obtain ⟨count, within, walks⟩ := leads
  refine ⟨count + 1, Nat.succ_le_succ within, fun flags length => ?_⟩
  obtain ⟨grounded, rest, rfl⟩ := List.exists_cons_of_length_eq_add_one length
  rw [walk, goes]
  exact walks rest (Nat.succ.inj length)

theorem Leads.trans (first : Leads fleet limit stage next) (second : Leads fleet more next last) :
    Leads fleet (more + limit) stage last := by
  obtain ⟨count, within, walks⟩ := first
  obtain ⟨count', within', walks'⟩ := second
  refine ⟨count + count', by omega, fun flags length => ?_⟩
  have front : (flags.take count).length = count := by simp [length]
  have back : (flags.drop count).length = count' := by simp [length]
  rw [← List.take_append_drop count flags, walk_append, walks _ front]
  exact walks' _ back

theorem Leads.mono (leads : Leads fleet limit stage next) (less : limit ≤ more) :
    Leads fleet more stage next :=
  have ⟨count, within, walks⟩ := leads
  ⟨count, Nat.le_trans within less, walks⟩

theorem Leads.walk (leads : Leads fleet limit stage next) {flags : List Bool}
    (long : limit ≤ flags.length) :
    ∃ count ≤ limit, stage.walk fleet flags = next.walk fleet (flags.drop count) := by
  obtain ⟨count, within, walks⟩ := leads
  refine ⟨count, within, ?_⟩
  have front : (flags.take count).length = count := by
    rw [List.length_take, Nat.min_eq_left (Nat.le_trans within long)]
  conv_lhs => rw [← List.take_append_drop count flags, walk_append, walks _ front]

/-! ### Until the drones are together -/

/-- The stage comes to a refusal for the foremost of the reasons, and without a reason to a good
stage. -/
structure Heads (stage : Stage) (fleet : Fleet) (limit : Nat) (reasons : List Reason)
    (good : Stage → Prop) : Prop where
  refused : ∀ refusal, Foremost reasons refusal → Leads fleet limit stage (Stage.refused refusal)
  granted : (∀ refusal, ¬ Foremost reasons refusal) → ∃ next, Leads fleet limit stage next ∧ good next

theorem Heads.bind {front back : List Reason} {found good : Stage → Prop}
    (checks : stage.Heads fleet limit front found)
    (goesOn : ∀ next, found next → next.Heads fleet more back good) :
    stage.Heads fleet (more + limit) (front ++ back) good where
  refused refusal foremost := by
    rcases foremost_append.mp foremost with early | ⟨clear, late⟩
    · exact (checks.refused refusal early).mono (Nat.le_add_left _ _)
    · obtain ⟨next, leads, kept⟩ := checks.granted clear
      exact leads.trans ((goesOn next kept).refused refusal late)
  granted clear := by
    have early : ∀ refusal, ¬ Foremost front refusal :=
      fun refusal here => clear refusal (foremost_append.mpr (.inl here))
    obtain ⟨next, leads, kept⟩ := checks.granted early
    have late : ∀ refusal, ¬ Foremost back refusal :=
      fun refusal here => clear refusal (foremost_append.mpr (.inr ⟨early, here⟩))
    obtain ⟨last, leads', kept'⟩ := (goesOn next kept).granted late
    exact ⟨last, leads.trans leads', kept'⟩

theorem Heads.here {reasons : List Reason} {good : Stage → Prop}
    (judged : ∀ refusal, Foremost reasons refusal → stage = Stage.refused refusal)
    (passes : (∀ refusal, ¬ Foremost reasons refusal) → good stage) :
    stage.Heads fleet 0 reasons good where
  refused refusal foremost := judged refusal foremost ▸ .refl fleet 0 stage
  granted clear := ⟨stage, .refl fleet 0 stage, passes clear⟩

theorem seek_leads (sound : fleet.Sound) {matrix : Matrix}
    (standing : fleet.standing? matrix.id = some matrix) {purpose : Purpose}
    (free : purpose.held = [])
    (leads : Leads fleet limit (inside matrix.id purpose) last) :
    Leads fleet (limit + 2) (seek matrix.id purpose) last := by
  have listed := (sound.listing matrix.id).mpr ⟨matrix, standing⟩
  have finds : ∀ grounded, (seek matrix.id purpose).alone grounded fleet =
      (enter matrix.id purpose, fleet) := by
    intro grounded
    simp only [alone, Stage.next, listed, if_true]
  have takes : ∀ grounded, (enter matrix.id purpose).alone grounded fleet =
      (inside matrix.id purpose, fleet) := by
    intro grounded
    simp only [alone, free, List.not_mem_nil, if_false]
  exact .step finds (.step takes leads)

theorem seek_missing (sound : fleet.Sound) {id : Nat} (absent : fleet.matrix? id = none)
    (purpose : Purpose) : Leads fleet 1 (seek id purpose) (missing id purpose) := by
  have unlisted : fleet.listed.contains id = false := by
    rw [sound.matrix?_eq] at absent
    exact sound.unlisted absent
  refine .step (fun _ => ?_) (.refl fleet 0 _)
  simp only [alone, Stage.next, unlisted, Bool.false_eq_true, if_false]

theorem locate_leads (sound : fleet.Sound) {matrix : Matrix} {drone : Nat}
    (standing : fleet.standing? matrix.id = some matrix) (aboard : matrix.owns drone = true)
    {wanted : Errand} (leads : Leads fleet limit (inside matrix.id (.home drone wanted)) last) :
    Leads fleet (limit + 3) (locate drone none wanted) last := by
  have known := (sound.directory drone matrix.id).mpr ((Fleet.standing_houses standing).mpr aboard)
  refine .step (fun _ => ?_) (seek_leads sound standing rfl leads)
  simp only [alone, Stage.next, known]
  rfl

theorem locate_unowned {drone : Nat} (unowned : fleet.owner? drone = none) (wanted : Errand) :
    Leads fleet 1 (locate drone none wanted) (Stage.refused (.unknownDrone drone)) := by
  refine .step (fun _ => ?_) (.refl fleet 0 _)
  simp only [alone, Stage.next, unowned]

section Heads

variable {matrixId : Option Nat} {plans : List Plan}

theorem Heads.step {reasons : List Reason} {good : Stage → Prop}
    (goes : ∀ grounded, stage.alone grounded fleet = (next, fleet))
    (heads : next.Heads fleet limit reasons good) : stage.Heads fleet (limit + 1) reasons good where
  refused refusal foremost := .step goes (heads.refused refusal foremost)
  granted clear :=
    have ⟨last, leads, kept⟩ := heads.granted clear
    ⟨last, .step goes leads, kept⟩

/-- The way to the matrix that is named, or else to that of the first drone. -/
def gather (matrixId : Option Nat) (first : Nat) (plans : List Plan) : Stage :=
  match matrixId with
  | some id => seek id (.batch plans)
  | none => locate first none (.lead plans)

theorem gather_heads (sound : fleet.Sound) (matrixId : Option Nat) (first : Nat) (rest : List Nat)
    (plans : List Plan) :
    (gather matrixId first plans).Heads fleet 4 [Groundless fleet matrixId (first :: rest)]
      fun next => ∃ matrix, next = muster matrix plans ∧ fleet.standing? matrix.id = some matrix ∧
        Addresses fleet matrixId (first :: rest) matrix where
  refused refusal foremost := by
    cases foremost_singleton.mp foremost with
    | matrix missing => exact (seek_missing sound missing (.batch plans)).mono (by omega)
    | drone nowhere =>
      exact (locate_unowned (sound.nowhere.mp nowhere) (.lead plans)).mono (by omega)
  granted clear := by
    obtain ⟨matrix, _, _, _, standing, addressed⟩ := (ground_heeds sound matrixId).granted clear
    refine ⟨_, ?_, matrix, rfl, standing, addressed⟩
    cases addressed with
    | named found =>
      obtain rfl := (sound.standing (Fleet.standing_of_matrix? found)).1
      refine (seek_leads sound standing rfl (.step (fun _ => ?_) (.refl fleet 0 _))).mono (by omega)
      simp only [alone, Stage.next, standing, act]
    | implied _ aboard =>
      refine locate_leads sound standing aboard (.step (fun _ => ?_) (.refl fleet 0 _))
      simp only [alone, Stage.next, standing, act, aboard, if_true, errand]

theorem muster_heads (sound : fleet.Sound) {matrix : Matrix}
    (standing : fleet.standing? matrix.id = some matrix)
    (addressed : Addresses fleet matrixId (plans.map (·.droneId)) matrix) :
    (muster matrix plans).Heads fleet 2 [Strays fleet matrixId (plans.map (·.droneId))]
      fun next => next = flying matrix.id [] plans ∧
        ∀ plan ∈ plans, matrix.owns plan.droneId = true := by
  have checks := checkOwners_heeds sound standing addressed
  cases stranger : matrix.stranger? plans with
  | none =>
    have passed := on_checkOwners stranger fleet
    have ready : muster matrix plans = flying matrix.id [] plans := by simp only [muster, stranger]
    refine ⟨fun refusal foremost => ?_, fun clear => ?_⟩
    · cases (checks.refused refusal foremost).symm.trans passed
    · obtain ⟨_, _, _, _, aboard⟩ := checks.granted clear
      exact ⟨_, .refl fleet 2 _, ready, aboard⟩
  | some drone =>
    have failed : (checkOwners matrix plans).on fleet = _ := on_checkOwners_stranger stranger
    have apart : muster matrix plans = mismatch matrix.id drone := by simp only [muster, stranger]
    refine ⟨fun refusal foremost => ?_, fun clear => ?_⟩
    · cases (checks.refused refusal foremost).symm.trans failed
      rw [apart]
      have judges : ∀ grounded, (mismatch matrix.id drone).alone grounded fleet =
          (leave matrix.id (Stage.refused (stray fleet matrix.id drone)), fleet) := by
        intro grounded
        cases known : fleet.owner? drone <;> simp only [alone, Stage.next, stray, known]
      exact .step judges (.step (fun _ => rfl) (.refl fleet 0 _))
    · obtain ⟨_, _, passed, _⟩ := checks.granted clear
      cases passed.symm.trans failed

def Ready (fleet : Fleet) (matrixId : Option Nat) (plans : List Plan) (next : Stage) : Prop :=
  ∃ matrix, Mustered fleet matrixId plans matrix ∧ next = flying matrix.id [] plans

theorem ofPlans_heads (sound : fleet.Sound) (matrixId : Option Nat) (plans : List Plan) :
    (ofPlans matrixId plans).Heads fleet 6
      [Unmanned (plans.map (·.droneId)), Repeats (plans.map (·.droneId)),
        Groundless fleet matrixId (plans.map (·.droneId)),
        Strays fleet matrixId (plans.map (·.droneId))] (Ready fleet matrixId plans) := by
  have leads : (ofPlans matrixId plans).Heads fleet 0
      [Unmanned (plans.map (·.droneId)), Repeats (plans.map (·.droneId))] fun next =>
        ∃ first, Plan.leader plans = .ok first ∧ next = gather matrixId first plans := by
    refine .here (fun refusal foremost => ?_) fun clear => ?_
    · simp only [ofPlans, Plan.leader_judged.mpr foremost]
    · cases leader : Plan.leader plans with
      | error refusal => exact absurd (Plan.leader_judged.mp leader) (clear refusal)
      | ok first => exact ⟨first, rfl, by cases matrixId <;> simp only [ofPlans, leader, gather]⟩
  refine leads.bind ?_
  rintro _ ⟨first, leader, rfl⟩
  obtain ⟨distinct, rest, listed⟩ := Plan.leader_lists leader
  rw [listed]
  refine (gather_heads sound matrixId first rest plans).bind ?_
  rintro _ ⟨matrix, rfl, standing, addressed⟩
  rw [← listed] at addressed ⊢
  have musters := muster_heads sound standing addressed
  refine ⟨musters.refused, fun clear => ?_⟩
  obtain ⟨next, leads, ready, aboard⟩ := musters.granted clear
  exact ⟨next, leads, matrix, ⟨distinct, addressed, standing, aboard⟩, ready⟩

theorem read_heads {request : Request} {ids : List Nat}
    (several : request.several? = some (matrixId, ids)) :
    (ofRequest request).Heads fleet 0 [Unreadable request] fun next =>
      ∃ plans, request.Flies matrixId plans ∧ plans.map (·.droneId) = ids ∧
        next = ofPlans matrixId plans := by
  cases request with
  | matrixDroneCommands named droneIds input =>
    cases several
    refine .here (fun refusal foremost => ?_) fun clear => ?_
    · have failed := Plan.shared_judged.mpr (foremost_singleton.mp foremost)
      cases parsed : input.parse <;> rw [parsed] at failed <;> cases failed
      simp only [ofRequest, parsed]
    · cases parsed : input.parse with
      | error fault => exact absurd (foremost_singleton.mpr (.shared parsed)) (clear _)
      | ok commands =>
        exact ⟨Plan.shared ids commands, .inl ⟨ids, input, commands, rfl, parsed, rfl⟩,
          Plan.shared_droneIds ids commands, by simp only [ofRequest, parsed]⟩
  | batchCommands named entries =>
    cases several
    refine .here (fun refusal foremost => ?_) fun clear => ?_
    · have failed := Plan.ofEntries_judged.mpr (foremost_singleton.mp foremost)
      simp only [ofRequest, failed]
    · cases parsed : Plan.ofEntries entries with
      | error refusal =>
        exact absurd (foremost_singleton.mpr (Plan.ofEntries_judged.mp parsed)) (clear refusal)
      | ok plans =>
        exact ⟨plans, .inr ⟨entries, rfl, parsed⟩, Plan.ofEntries_droneIds parsed,
          by simp only [ofRequest, parsed]⟩
  | _ => cases several

theorem start_heads (sound : fleet.Sound) {request : Request} {ids : List Nat}
    (several : request.several? = some (matrixId, ids)) :
    (start request).Heads fleet 7 (reasons fleet request matrixId ids) fun next =>
      ∃ plans, request.Flies matrixId plans ∧ plans.map (·.droneId) = ids ∧
        Ready fleet matrixId plans next := by
  have begins : ∀ grounded, (start request).alone grounded fleet = (ofRequest request, fleet) := by
    intro grounded
    cases request <;> first | rfl | cases several
  refine .step begins ((read_heads several).bind ?_)
  rintro _ ⟨plans, flies, rfl, rfl⟩
  have heads := ofPlans_heads sound matrixId plans
  refine ⟨heads.refused, fun clear => ?_⟩
  obtain ⟨next, leads, ready⟩ := heads.granted clear
  exact ⟨next, leads, plans, flies, rfl, ready⟩

end Heads

end Stage

end DroneFleet
