import DroneFleet.Proofs.Crowd.Alone

/-!
What becomes of a request for drones to fly that has the fleet for itself. When it has its drones
together, the word that no drone may start comes before one of them, and those before that one have flown
(`Stage.walk_flying`). Then the request is answered (`Crowd.alone_fate`).
-/
namespace DroneFleet

open Handling

namespace Stage

open Fleet

variable {fleet : Fleet}

/-- Once it has come, the word that drones are grounded holds. -/
def Falling (flags : List Bool) : Prop :=
  flags.Pairwise fun first second => first = true → second = true

theorem walk_idle {matrix : Matrix} (standing : fleet.standing? matrix.id = some matrix)
    {flags : List Bool} (grounded : ∀ flag ∈ flags, flag = true) {plans : List Plan}
    (length : flags.length = plans.length) (told : List DroneOutcome) :
    (flying matrix.id told plans).walk fleet flags =
      (flying matrix.id (told ++ idle plans) [], fleet) := by
  induction plans generalizing flags told with
  | nil =>
    rw [List.length_eq_zero_iff.mp length]
    simp [walk, idle]
  | cons plan ahead ih =>
    obtain ⟨flag, rest, rfl⟩ := List.exists_cons_of_length_eq_add_one length
    have shorter : rest.length = ahead.length := by simpa using length
    obtain ⟨rfl, later⟩ := List.forall_mem_cons.mp grounded
    have goes : (flying matrix.id told (plan :: ahead)).alone true fleet =
        (flying matrix.id (told ++ [⟨plan.droneId, .notAttempted⟩]) ahead, fleet) := by
      simp only [alone, Stage.next, after_on (on_flyPlan_idle standing plan)]
    have remain := ih later shorter (told ++ [⟨plan.droneId, .notAttempted⟩])
    rw [List.append_assoc] at remain
    rw [walk, goes]
    exact remain

/-- One flag for each drone decides whether it starts. The first drone that does not is the one before
which the word has come, and no drone starts after it. -/
theorem walk_flying {matrix : Matrix} (sound : matrix.Sound)
    (standing : fleet.standing? matrix.id = some matrix) {plans : List Plan}
    (aboard : ∀ plan ∈ plans, matrix.owns plan.droneId = true) {flags : List Bool}
    (falling : Falling flags) (length : flags.length = plans.length) (told : List DroneOutcome) :
    ∃ count outcomes last, Sortie matrix plans count outcomes last ∧
      (true ∉ flags → count = plans.length) ∧
      (flying matrix.id told plans).walk fleet flags =
        (flying matrix.id (told ++ outcomes) [], fleet.store last) := by
  -- Each flight leaves another matrix, and another fleet, to the drones that come after it.
  induction plans generalizing matrix fleet flags told with
  | nil =>
    refine ⟨0, [], matrix, idle_sortie matrix [], fun _ => rfl, ?_⟩
    rw [List.length_eq_zero_iff.mp length, walk, List.append_nil, Fleet.store_self standing]
  | cons plan ahead ih =>
    obtain ⟨flag, rest, rfl⟩ := List.exists_cons_of_length_eq_add_one length
    have shorter : rest.length = ahead.length := by simpa using length
    obtain ⟨later, ordered⟩ := List.pairwise_cons.mp falling
    cases flag with
    | true =>
      have grounded : ∀ flag ∈ true :: rest, flag = true :=
        List.forall_mem_cons.mpr ⟨rfl, fun flag member => later flag member rfl⟩
      refine ⟨0, _, matrix, idle_sortie matrix (plan :: ahead),
        fun never => absurd List.mem_cons_self never, ?_⟩
      rw [walk_idle standing grounded length, Fleet.store_self standing]
    | false =>
      obtain ⟨id, commands⟩ := plan
      obtain ⟨drone, present⟩ := Matrix.owns_iff.mp (aboard _ List.mem_cons_self)
      obtain ⟨rfl, _⟩ := sound.named id drone present
      have ran := Matrix.run_eq_course sound present commands
      have ended := Matrix.course_pose? matrix drone.id drone.pose 0 commands
      generalize matrix.course drone.id drone.pose 0 commands = course at ran ended
      obtain ⟨outcome, pose⟩ := course
      obtain ⟨movedSound, kin⟩ := Matrix.run_keeps sound present ran
      have stored : (fleet.store (matrix.moved drone pose)).standing? (matrix.moved drone pose).id =
          some (matrix.moved drone pose) := by
        rw [Fleet.store_standing?, if_pos rfl]
      have flies : (flyPlan false matrix.id ⟨drone.id, commands⟩).on fleet =
          (.ok ⟨drone.id, outcome⟩, fleet.store (matrix.moved drone pose)) := by
        simp only [flyPlan, Handling.fly, on_bind, on_stored standing, Bool.false_eq_true, if_false,
          on_lift, ran, on_store, on_pure]
      have goes : (flying matrix.id told (⟨drone.id, commands⟩ :: ahead)).alone false fleet =
          (flying matrix.id (told ++ [⟨drone.id, outcome⟩]) ahead,
            fleet.store (matrix.moved drone pose)) := by
        simp only [alone, Stage.next, after_on flies]
      have aboard' : ∀ other ∈ ahead, (matrix.moved drone pose).owns other.droneId = true :=
        fun other member => (kin.owns _).trans (aboard other (List.mem_cons_of_mem _ member))
      obtain ⟨count, outcomes, last, sortie, all, walks⟩ :=
        ih movedSound stored aboard' ordered shorter (told ++ [⟨drone.id, outcome⟩])
      rw [List.append_assoc, Fleet.store_store _ sortie.flown.id_eq] at walks
      refine ⟨count + 1, _, last, .cons present ran ended sortie,
        fun never => congrArg Nat.succ (all (List.not_mem_of_not_mem_cons never)), ?_⟩
      rw [walk, goes]
      exact walks

theorem flying_leads {matrix : Matrix} (standing : fleet.standing? matrix.id = some matrix)
    (outcomes : List DroneOutcome) :
    Leads fleet 2 (flying matrix.id outcomes []) (done (.batch (.of outcomes matrix))) := by
  have tells : ∀ grounded, (flying matrix.id outcomes []).alone grounded fleet =
      (leave matrix.id (done (.batch (.of outcomes matrix))), fleet) := by
    intro grounded
    simp only [alone, Stage.next, after_on (on_report standing outcomes)]
    rfl
  exact .step tells (.step (fun _ => rfl) (.refl fleet 0 _))

/-- What becomes of a request for drones to fly: it is refused, as it would be with all drones
grounded, or its drones make a sortie, of which it is told. They have all flown if the word that drones
are grounded has never come. -/
inductive Fate (fleet : Fleet) (flags : List Bool) : Request → Response → Fleet → Prop
  | refused {request : Request} {refusal : Refusal}
      (refuses : ∀ grounded, fleet.dispatch grounded request = (.ofRefusal refusal, fleet)) :
      Fate fleet flags request (.ofRefusal refusal) fleet
  | single {id : Nat} {input : CommandInput} {commands : List Command} {matrix last : Matrix}
      {count : Nat} {outcome : Outcome} {record : Drone} (parsed : input.parse = .ok commands)
      (standing : fleet.standing? matrix.id = some matrix) (aboard : matrix.owns id = true)
      (sortie : Sortie matrix [⟨id, commands⟩] count [⟨id, outcome⟩] last)
      (known : last.drone? id = some record) :
      Fate fleet flags (.droneCommands id input) (.single ⟨outcome, record⟩) (fleet.store last)
  | several {request : Request} {matrixId : Option Nat} {plans : List Plan} {matrix last : Matrix}
      {count : Nat} {outcomes : List DroneOutcome} (flies : request.Flies matrixId plans)
      (mustered : Mustered fleet matrixId plans matrix)
      (sortie : Sortie matrix plans count outcomes last)
      (all : true ∉ flags → count = plans.length) :
      Fate fleet flags request (.batch (.of outcomes last)) (fleet.store last)

theorem Fate.sound {flags : List Bool} {request : Request} {response : Response} {after : Fleet}
    (fate : Fate fleet flags request response after) (sound : fleet.Sound) : after.Sound := by
  cases fate with
  | refused refuses => exact sound
  | single parsed standing aboard sortie known => exact sortie.sound sound standing
  | several flies mustered sortie all => exact sortie.sound sound mustered.standing

theorem Fate.mono {flags more : List Bool} {request : Request} {response : Response} {after : Fleet}
    (fate : Fate fleet more request response after) (fewer : true ∉ flags → true ∉ more) :
    Fate fleet flags request response after := by
  cases fate with
  | refused refuses => exact .refused refuses
  | single parsed standing aboard sortie known => exact .single parsed standing aboard sortie known
  | several flies mustered sortie all => exact .several flies mustered sortie fun never => all (fewer never)

theorem several_fate (sound : fleet.Sound) {request : Request} {matrixId : Option Nat}
    {ids : List Nat} (several : request.several? = some (matrixId, ids)) {flags : List Bool}
    (falling : Falling flags) (long : ids.length + 9 ≤ flags.length) :
    ∃ response after, (start request).walk fleet flags = (done response, after) ∧
      Fate fleet flags request response after := by
  have heads := start_heads sound several
  by_cases clear : ∀ refusal, ¬ Foremost (reasons fleet request matrixId ids) refusal
  · obtain ⟨_, leads, plans, flies, rfl, matrix, mustered, rfl⟩ := heads.granted clear
    rw [List.length_map] at long
    obtain ⟨count, within, reaches⟩ := leads.walk (Nat.le_trans (by omega) long)
    obtain ⟨turns, rest, split, length⟩ : ∃ turns rest, flags.drop count = turns ++ rest ∧
        turns.length = plans.length := by
      refine ⟨_, _, (List.take_append_drop plans.length (flags.drop count)).symm, ?_⟩
      rw [List.length_take, List.length_drop]
      omega
    have enough : 2 ≤ rest.length := by
      have total := congrArg List.length split
      rw [List.length_append, List.length_drop] at total
      omega
    have ordered : Falling (turns ++ rest) := split ▸ falling.sublist (List.drop_sublist count flags)
    have chosen : ∀ flag ∈ turns, flag ∈ flags := fun flag member =>
      List.mem_of_mem_drop (split ▸ List.mem_append_left rest member)
    obtain ⟨landed, outcomes, last, sortie, all, flies'⟩ :=
      walk_flying (sound.standing mustered.standing).2 mustered.standing mustered.aboard
        (ordered.sublist (List.sublist_append_left turns rest)) length []
    have stored : (fleet.store last).standing? last.id = some last := by
      rw [Fleet.store_standing?, if_pos rfl]
    obtain ⟨_, _, ends⟩ := (flying_leads stored outcomes).walk enough
    refine ⟨_, _, ?_, .several flies mustered sortie fun never => all (mt (chosen true) never)⟩
    rw [reaches, split, walk_append, flies', List.nil_append, ← sortie.flown.id_eq, ends, walk_done]
  · obtain ⟨refusal, foremost⟩ := not_forall_not.mp clear
    obtain ⟨count, _, reaches⟩ := (heads.refused refusal foremost).walk (Nat.le_trans (by omega) long)
    exact ⟨_, fleet, reaches.trans (walk_done _ fleet _),
      .refused fun _ => Fleet.dispatch_refuses sound several foremost⟩

theorem barred_leads {id : Nat} {input : CommandInput} {refusal : Refusal}
    (barred : Barred fleet id input refusal) :
    Leads fleet 2 (start (.droneCommands id input)) (Stage.refused refusal) := by
  cases barred with
  | unread parsed =>
    refine (Leads.step (fun _ => ?_) (.refl fleet 0 _)).mono (by omega)
    simp only [alone, Stage.next, ofRequest, parsed]
  | @unowned commands parsed unowned =>
    refine .step (fun _ => ?_) (locate_unowned unowned (.fly commands))
    simp only [alone, Stage.next, ofRequest, parsed]

theorem called_leads (sound : fleet.Sound) {id : Nat} {input : CommandInput} {commands : List Command}
    {matrix : Matrix} (called : Called fleet id input commands matrix) :
    Leads fleet 4 (start (.droneCommands id input)) (inside matrix.id (.home id (.fly commands))) := by
  refine .step (fun _ => ?_) (locate_leads sound called.standing called.aboard (.refl fleet 0 _))
  simp only [alone, Stage.next, ofRequest, called.parsed]

theorem single_fate (sound : fleet.Sound) (id : Nat) (input : CommandInput) {flags : List Bool}
    (long : 6 ≤ flags.length) : ∃ response after,
      (start (.droneCommands id input)).walk fleet flags = (done response, after) ∧
        Fate fleet flags (.droneCommands id input) response after := by
  rcases sound.single_judged id input with ⟨refusal, barred⟩ | ⟨commands, matrix, called⟩
  · obtain ⟨count, _, reaches⟩ := (barred_leads barred).walk (Nat.le_trans (by omega) long)
    exact ⟨_, fleet, reaches.trans (walk_done _ fleet _), .refused fun _ => barred.dispatch⟩
  · have ⟨parsed, standing, aboard⟩ := called
    obtain ⟨drone, present⟩ := Matrix.owns_iff.mp aboard
    obtain ⟨count, within, reaches⟩ := (called_leads sound called).walk (Nat.le_trans (by omega) long)
    obtain ⟨flag, flag', rest, split⟩ : ∃ flag flag' rest, flags.drop count = flag :: flag' :: rest := by
      have enough : 2 ≤ (flags.drop count).length := by
        rw [List.length_drop]
        omega
      match flags.drop count, enough with
      | flag :: flag' :: rest, _ => exact ⟨flag, flag', rest, rfl⟩
    obtain ⟨landed, outcome, last, sortie, record, known, flies⟩ :=
      flySingle_sortie (sound.standing standing).2 standing flag present commands
    have goes : (inside matrix.id (.home id (.fly commands))).alone flag fleet =
        (leave matrix.id (done (.single ⟨outcome, record⟩)), fleet.store last) := by
      simp only [alone, Stage.next, standing, act, aboard, if_true, errand, after_on flies]
      rfl
    refine ⟨_, _, ?_, .single parsed standing aboard sortie known⟩
    rw [reaches, split, walk, goes, walk]
    exact walk_done _ _ rest

theorem start_fate (sound : fleet.Sound) {request : Request} (commands : request.commands = true)
    {flags : List Bool} (falling : Falling flags) (long : request.addressed + 9 ≤ flags.length) :
    ∃ response after, (start request).walk fleet flags = (done response, after) ∧
      Fate fleet flags request response after := by
  cases request with
  | droneCommands id input => exact single_fate sound id input (Nat.le_trans (by omega) long)
  | matrixDroneCommands matrixId ids input => exact several_fate sound rfl falling long
  | batchCommands matrixId entries =>
    exact several_fate sound rfl falling (by rwa [List.length_map])
  | _ => cases commands

end Stage

namespace Crowd

open Stage

variable {crowd : Crowd} {stage : Stage}

inductive Event.Quiet : Event → Prop
  | advance : Event.Quiet (.advance 0)
  | ground : Event.Quiet .ground

/-- The word comes after seven steps. A request for three drones has then seen to two of them. -/
def interrupted : List Event :=
  List.replicate 7 (.advance 0) ++ .ground :: List.replicate 5 (.advance 0)

theorem interrupted_quiet : ∀ event ∈ interrupted, event.Quiet := by
  intro event member
  rcases List.mem_append.mp member with early | late
  · exact List.eq_of_mem_replicate early ▸ .advance
  · rcases List.mem_cons.mp late with rfl | after
    · exact .ground
    · exact List.eq_of_mem_replicate after ▸ .advance

def watch (grounded : Bool) : List Event → List Bool
  | [] => []
  | .ground :: rest => watch true rest
  | .advance _ :: rest => grounded :: watch grounded rest
  | _ :: rest => watch grounded rest

structure Lone (crowd : Crowd) (stage : Stage) : Prop where
  stages : crowd.stages = Table.empty.insert 0 stage
  outside : crowd.outside = []

theorem watch_grounded (events : List Event) : ∀ flag ∈ watch true events, flag = true := by
  induction events with
  | nil => nofun
  | cons event rest ih =>
    cases event with
    | advance number => exact List.forall_mem_cons.mpr ⟨rfl, ih⟩
    | _ => exact ih

theorem watch_falling (grounded : Bool) (events : List Event) : Falling (watch grounded events) := by
  induction events generalizing grounded with
  | nil => exact .nil
  | cons event rest ih =>
    cases event with
    | advance number =>
      refine List.pairwise_cons.mpr ⟨fun flag member raised => ?_, ih grounded⟩
      subst raised
      exact watch_grounded rest flag member
    | ground => exact ih true
    | _ => exact ih grounded

theorem Lone.advance (lone : crowd.Lone stage) :
    (crowd.advance 0).Lone (stage.alone crowd.grounded crowd.fleet).1 ∧
      (crowd.advance 0).fleet = (stage.alone crowd.grounded crowd.fleet).2 ∧
      (crowd.advance 0).grounded = crowd.grounded := by
  have here : crowd.stages.get? 0 = some stage := by
    rw [lone.stages, Table.get?_insert, if_pos rfl]
  have moves : ∀ next fleet,
      Lone ({ crowd with fleet }.moveTo 0 next) next := by
    intro next fleet
    exact ⟨by rw [moveTo, lone.stages, Table.insert_insert], lone.outside⟩
  have free : ∀ id, crowd.isFree id = true ↔ id ∉ stage.holds := by
    intro id
    rw [isFree_iff, lone.outside]
    constructor
    · exact fun ⟨_, free⟩ => free 0 stage here
    · refine fun free => ⟨List.not_mem_nil, fun number found there => ?_⟩
      rw [lone.stages, Table.get?_insert] at there
      split at there
      · exact Option.some.inj there ▸ free
      · cases there
  simp only [Crowd.advance, here]
  cases stage with
  | done response =>
    rw [blocks, if_pos rfl]
    exact ⟨lone, rfl, rfl⟩
  | enter id purpose =>
    by_cases held : id ∈ purpose.held
    · have stuck : crowd.isFree id = false := by
        refine Bool.eq_false_iff.mpr fun open' => (free id).mp open' held
      rw [blocks, stuck, Bool.not_false, if_pos rfl, alone, if_pos held]
      exact ⟨lone, rfl, rfl⟩
    · have goes : crowd.isFree id = true := (free id).mpr held
      rw [blocks, goes, Bool.not_true, if_neg Bool.false_ne_true, alone, if_neg held]
      exact ⟨moves _ _, rfl, rfl⟩
  | _ => exact ⟨moves _ _, rfl, rfl⟩

theorem Lone.run (lone : crowd.Lone stage) {events : List Event}
    (quiet : ∀ event ∈ events, event.Quiet) :
    (crowd.run events).Lone (stage.walk crowd.fleet (watch crowd.grounded events)).1 ∧
      (crowd.run events).fleet = (stage.walk crowd.fleet (watch crowd.grounded events)).2 := by
  induction events generalizing crowd stage with
  | nil => exact ⟨lone, rfl⟩
  | cons event rest ih =>
    obtain ⟨first, later⟩ := List.forall_mem_cons.mp quiet
    cases first with
    | ground => exact @ih { crowd with grounded := true } stage ⟨lone.stages, lone.outside⟩ later
    | advance =>
      obtain ⟨moved, left, same⟩ := lone.advance
      have goesOn := ih moved later
      rw [left, same] at goesOn
      exact goesOn

theorem watch_clear {events : List Event} (never : .ground ∉ events) : true ∉ watch false events := by
  induction events with
  | nil => exact List.not_mem_nil
  | cons event rest ih =>
    obtain ⟨other, later⟩ := not_or.mp (mt List.mem_cons.mpr never)
    cases event with
    | ground => exact absurd rfl other
    | advance number => simpa [watch] using ih later
    | _ => exact ih later

theorem watch_length (grounded : Bool) {events : List Event} (quiet : ∀ event ∈ events, event.Quiet) :
    (watch grounded events).length = events.count (.advance 0) := by
  induction events generalizing grounded with
  | nil => rfl
  | cons event rest ih =>
    obtain ⟨first, later⟩ := List.forall_mem_cons.mp quiet
    cases first with
    | ground => simpa [watch] using ih true later
    | advance => simpa [watch] using ih grounded later

/-- A request for drones to fly that has the fleet for itself is answered after enough steps; and
when it has been answered, its fate is in the answer and in the fleet. -/
theorem alone_fate {fleet : Fleet} (sound : fleet.Sound) {request : Request}
    (commands : request.commands = true) {events : List Event}
    (quiet : ∀ event ∈ events, event.Quiet) :
    (request.addressed + 9 ≤ events.count (.advance 0) →
      ∃ response, (((new fleet).submit request).run events).answer? 0 = some response) ∧
    ∀ response, (((new fleet).submit request).run events).answer? 0 = some response →
      Fate fleet (watch false events) request response (((new fleet).submit request).run events).fleet := by
  have lone : Lone ((new fleet).submit request) (start request) := ⟨rfl, rfl⟩
  obtain ⟨last, left⟩ := lone.run quiet
  have length := watch_length false quiet
  have falling := watch_falling false events
  rw [show ((new fleet).submit request).fleet = fleet from rfl,
    show ((new fleet).submit request).grounded = false from rfl] at last left
  generalize watch false events = flags at *
  generalize ((new fleet).submit request).run events = crowd at *
  have answer : ∀ response, crowd.answer? 0 = some response ↔
      ((start request).walk fleet flags).1 = done response := by
    intro response
    rw [answer?_eq_some, last.stages, Table.get?_insert, if_pos rfl, Option.some.injEq]
  simp only [answer]
  refine ⟨fun enough => ?_, fun response ended => ?_⟩
  · obtain ⟨response, after, walks, _⟩ := start_fate sound commands falling (length ▸ enough)
    exact ⟨response, by rw [walks]⟩
  · -- If the events end early, the request could still take steps; it has been answered, so they
    -- would change nothing.
    have longer : Falling (flags ++ List.replicate (request.addressed + 9) (flags.contains true)) :=
      List.pairwise_append.mpr ⟨falling, List.pairwise_replicate.mpr (.inr id), ?_⟩
    · obtain ⟨_, _, walks, fate⟩ := start_fate sound commands longer (by simp)
      rw [walk_append, ended, walk_done] at walks
      cases walks
      rw [left]
      exact fate.mono fun never => by simp [never]
    · intro flag member other late raised
      rw [List.eq_of_mem_replicate late]
      simpa [raised] using member

end Crowd

end DroneFleet
