import DroneFleet.Fleet.Contention
import DroneFleet.Proofs.Fleet.Records
import DroneFleet.Proofs.Fleet.Sorties

/-!
Requests for drones to fly, for the first of the drones only (`Sortie.dispatch_upTo`) and with all drones
grounded: such a request is judged as always, but changes nothing (`Fleet.dispatch_stilled`).
-/
namespace DroneFleet

open Handling

def Request.commands : Request → Bool
  | droneCommands _ _ => true
  | matrixDroneCommands _ _ _ => true
  | batchCommands _ _ => true
  | _ => false

theorem Request.several_commands {request : Request} {matrixId : Option Nat} {ids : List Nat}
    (several : request.several? = some (matrixId, ids)) :
    request.commands = true ∧ request.addressed = ids.length := by
  cases request with
  | matrixDroneCommands named droneIds input =>
    cases several
    exact ⟨rfl, rfl⟩
  | batchCommands named entries =>
    cases several
    exact ⟨rfl, (List.length_map _).symm⟩
  | _ => cases several

theorem Request.Flies.listed {request : Request} {matrixId named : Option Nat} {plans : List Plan}
    {ids : List Nat} (flies : request.Flies matrixId plans)
    (several : request.several? = some (named, ids)) : plans.map (·.droneId) = ids := by
  rcases flies with ⟨droneIds, input, commands, rfl, parsed, rfl⟩ | ⟨entries, rfl, parsed⟩
  · cases several
    exact Plan.shared_droneIds ids commands
  · cases several
    exact Plan.ofEntries_droneIds parsed

namespace Request

def upTo (count : Nat) : Request → Request
  | matrixDroneCommands matrixId droneIds input =>
    matrixDroneCommands matrixId (droneIds.take count) input
  | batchCommands matrixId entries => batchCommands matrixId (entries.take count)
  | request => request

end Request

theorem Plan.ofEntries_take {entries : List BatchEntry} {plans : List Plan}
    (parsed : ofEntries entries = .ok plans) (count : Nat) :
    ofEntries (entries.take count) = .ok (plans.take count) := by
  induction entries generalizing plans count with
  | nil =>
    cases parsed
    simp [ofEntries]
  | cons entry rest ih =>
    cases count with
    | zero => rfl
    | succ count =>
      simp only [ofEntries, bind, Except.bind] at parsed
      cases read : ofEntry entry with
      | error refusal => simp [read] at parsed
      | ok plan =>
        cases later : ofEntries rest with
        | error refusal => simp [read, later] at parsed
        | ok ahead =>
          simp only [read, later, pure, Except.pure, Except.ok.injEq] at parsed
          subst parsed
          simp only [List.take_succ_cons, ofEntries, read, ih later count, bind, Except.bind, pure,
            Except.pure]

theorem Request.Flies.upTo {request : Request} {matrixId : Option Nat} {plans : List Plan}
    (flies : request.Flies matrixId plans) (count : Nat) :
    (request.upTo count).Flies matrixId (plans.take count) := by
  rcases flies with ⟨droneIds, input, commands, rfl, parsed, rfl⟩ | ⟨entries, rfl, parsed⟩
  · exact .inl ⟨droneIds.take count, input, commands, rfl, parsed, by
      rw [Plan.shared, Plan.shared, List.map_take]⟩
  · exact .inr ⟨entries.take count, rfl, Plan.ofEntries_take parsed count⟩

theorem Addresses.upTo {fleet : Fleet} {matrixId : Option Nat} {ids : List Nat} {matrix : Matrix}
    {count : Nat} (addressed : Addresses fleet matrixId ids matrix) (some : 0 < count) :
    Addresses fleet matrixId (ids.take count) matrix := by
  cases addressed with
  | named found => exact .named found
  | implied standing aboard =>
    cases count with
    | zero => cases some
    | succ count => exact .implied standing aboard

theorem Repeats.not_nodup {ids : List Nat} {refusal : Refusal} (repeats : Repeats ids refusal) :
    ¬ ids.Nodup := by
  obtain @⟨before, after, id, _, known⟩ := repeats
  intro distinct
  exact (List.nodup_append.mp distinct).2.2 id known id List.mem_cons_self rfl

section Mustered

variable {fleet : Fleet} {matrixId : Option Nat} {plans : List Plan} {matrix last : Matrix}
  {outcomes : List DroneOutcome} {count : Nat}

theorem Mustered.upTo (mustered : Mustered fleet matrixId plans matrix) (some : 0 < count) :
    Mustered fleet matrixId (plans.take count) matrix where
  distinct := by
    rw [List.map_take]
    exact mustered.distinct.sublist (List.take_sublist count _)
  addressed := by
    rw [List.map_take]
    exact mustered.addressed.upTo some
  standing := mustered.standing
  aboard plan member := mustered.aboard plan (List.mem_of_mem_take member)

theorem Mustered.dispatch (mustered : Mustered fleet matrixId plans matrix) (sound : fleet.Sound)
    (manned : plans ≠ []) {request : Request} (flies : request.Flies matrixId plans) {grounded : Bool}
    (flown : Flown grounded matrix plans outcomes last) :
    fleet.dispatch grounded request = (.batch (.of outcomes last), fleet.store last) := by
  have stranger : matrix.stranger? plans = none := by
    simpa [Matrix.stranger?] using mustered.aboard
  cases leads : Plan.leader plans with
  | error refusal =>
    rcases Plan.leader_judged.mp leads with unmanned | ⟨_, repeats | none⟩
    · cases unlisted : plans.map (·.droneId) with
      | nil => exact absurd (List.map_eq_nil_iff.mp unlisted) manned
      | cons first rest =>
        rw [unlisted] at unmanned
        cases unmanned
    · exact absurd mustered.distinct repeats.not_nodup
    · exact none.2.elim
  | ok first =>
    refine Fleet.dispatch_flies flies (on_batch leads ?_ mustered.standing stranger flown)
    obtain ⟨_, rest, listed⟩ := Plan.leader_lists leads
    have addressed := mustered.addressed
    rw [listed] at addressed
    cases addressed with
    | named found => exact on_seek sound (Fleet.standing_of_matrix? found)
    | implied standing aboard => exact on_home sound standing aboard

theorem idle_filter (plans : List Plan) : (idle plans).filter (·.outcome.madeProgress) = [] := by
  refine List.filter_eq_nil_iff.mpr fun entry member => ?_
  obtain ⟨plan, _, rfl⟩ := List.mem_map.mp member
  exact Bool.false_ne_true

theorem idle_eq (plans : List Plan) :
    idle plans = (plans.map (·.droneId)).map fun id => ⟨id, .notAttempted⟩ := by
  rw [List.map_map]
  rfl

/-- What has been flown is what the request for the drones before the word came would have flown. -/
theorem Sortie.dispatch_upTo (sortie : Sortie matrix plans count outcomes last) (sound : fleet.Sound)
    (mustered : Mustered fleet matrixId plans matrix) {request : Request}
    (flies : request.Flies matrixId plans) (some : 0 < count) :
    fleet.dispatch false (request.upTo count) =
      (.batch ⟨outcomes.take count, (BatchReport.of outcomes last).drones⟩, fleet.store last) := by
  have manned : plans.take count ≠ [] := by
    refine List.ne_nil_of_length_pos ?_
    rw [List.length_take, Nat.min_eq_left sortie.within]
    exact some
  -- The drones that have not started add no records, so the report has those of the first drones.
  rw [(mustered.upTo some).dispatch sound manned (flies.upTo count) sortie.flown.flown]
  have same : (BatchReport.of (outcomes.take count) last).drones =
      (BatchReport.of outcomes last).drones := by
    conv_rhs => rw [← List.take_append_drop count outcomes, sortie.rest]
    simp only [BatchReport.of, List.filter_append, idle_filter, List.append_nil]
  rw [← same]
  rfl

theorem Sortie.unflown (sortie : Sortie matrix plans 0 outcomes last) : last = matrix := by
  have flown := sortie.flown
  rw [List.take_zero, List.take_zero] at flown
  cases flown
  rfl

end Mustered

namespace Fleet

inductive Barred (fleet : Fleet) (id : Nat) (input : CommandInput) : Reason
  | unread {fault : CommandFault} (parsed : input.parse = .error fault) :
      Barred fleet id input (.invalidCommand (some id) fault)
  | unowned {commands : List Command} (parsed : input.parse = .ok commands)
      (unowned : fleet.owner? id = none) : Barred fleet id input (.unknownDrone id)

structure Called (fleet : Fleet) (id : Nat) (input : CommandInput) (commands : List Command)
    (matrix : Matrix) : Prop where
  parsed : input.parse = .ok commands
  standing : fleet.standing? matrix.id = some matrix
  aboard : matrix.owns id = true

theorem Sound.single_judged {fleet : Fleet} (sound : fleet.Sound) (id : Nat) (input : CommandInput) :
    (∃ refusal, Barred fleet id input refusal) ∨
      ∃ commands matrix, Called fleet id input commands matrix := by
  cases parsed : input.parse with
  | error fault => exact .inl ⟨_, .unread parsed⟩
  | ok commands =>
    cases owned : fleet.owner? id with
    | none => exact .inl ⟨_, .unowned parsed owned⟩
    | some home =>
      obtain ⟨matrix, standing, _, aboard⟩ := sound.housed owned
      exact .inr ⟨commands, matrix, parsed, standing, aboard⟩

theorem Barred.dispatch {fleet : Fleet} {id : Nat} {input : CommandInput} {refusal : Refusal}
    (barred : Barred fleet id input refusal) {grounded : Bool} :
    fleet.dispatch grounded (.droneCommands id input) = (.ofRefusal refusal, fleet) := by
  apply dispatch_error
  cases barred with
  | unread parsed =>
    simp only [Request.handle, parsed]
    rfl
  | unowned parsed unowned =>
    simp only [Request.handle, parsed, on_refused (on_home_unowned unowned)]

theorem Called.dispatch {fleet after : Fleet} {id : Nat} {input : CommandInput}
    {commands : List Command} {matrix : Matrix} (called : Called fleet id input commands matrix)
    (sound : fleet.Sound) {grounded : Bool} {report : SingleReport}
    (done : (flySingle grounded matrix id commands).on fleet = (.ok report, after)) :
    fleet.dispatch grounded (.droneCommands id input) = (.single report, after) := by
  apply dispatch_eq
  simp only [Request.handle, called.parsed, on_ok (on_home sound called.standing called.aboard),
    on_ok done, on_pure]

inductive Idles (fleet : Fleet) : Request → Response → Prop
  | single {id : Nat} {input : CommandInput} {record : Drone} (known : fleet.drone? id = some record) :
      Idles fleet (.droneCommands id input) (.single ⟨.notAttempted, record⟩)
  | several {request : Request} {matrixId : Option Nat} {ids : List Nat}
      (several : request.several? = some (matrixId, ids)) :
      Idles fleet request (.batch ⟨ids.map fun id => ⟨id, .notAttempted⟩, []⟩)

/-- What a request does while all drones are grounded, compared with what it would do otherwise. -/
structure Stilled (fleet : Fleet) (request : Request) : Prop where
  others : request.commands = false → fleet.dispatch true request = fleet.dispatch false request
  unchanged : request.commands = true → (fleet.dispatch true request).2 = fleet
  refused : request.commands = true → (fleet.dispatch false request).1.isError = true →
    fleet.dispatch true request = fleet.dispatch false request
  granted : request.commands = true → (fleet.dispatch false request).1.isError = false →
    fleet.Idles request (fleet.dispatch true request).1

variable {fleet : Fleet}

theorem dispatch_others {request : Request} (other : request.commands = false) :
    fleet.dispatch true request = fleet.dispatch false request := by
  cases request with
  | droneCommands | matrixDroneCommands | batchCommands => cases other
  | _ => rfl

theorem Stilled.of_refused {request : Request} {refusal : Refusal}
    (refuses : ∀ grounded, fleet.dispatch grounded request = (.ofRefusal refusal, fleet)) :
    fleet.Stilled request where
  others := dispatch_others
  unchanged _ := by rw [refuses]
  refused _ _ := by rw [refuses, refuses]
  granted _ granted := by
    rw [refuses] at granted
    cases granted

theorem Stilled.of_idles {request : Request} {response : Response}
    (stays : fleet.dispatch true request = (response, fleet)) (idles : fleet.Idles request response)
    (granted : (fleet.dispatch false request).1.isError = false) : fleet.Stilled request where
  others := dispatch_others
  unchanged _ := by rw [stays]
  refused _ refused := by
    rw [granted] at refused
    cases refused
  granted _ _ := by rwa [stays]

theorem single_stilled (sound : fleet.Sound) (id : Nat) (input : CommandInput) :
    fleet.Stilled (.droneCommands id input) := by
  rcases sound.single_judged id input with ⟨refusal, barred⟩ | ⟨commands, matrix, called⟩
  · exact .of_refused fun _ => barred.dispatch
  · have ⟨_, standing, aboard⟩ := called
    obtain ⟨drone, present⟩ := Matrix.owns_iff.mp aboard
    obtain ⟨_, outcome, last, _, record, _, flies⟩ :=
      flySingle_sortie (sound.standing standing).2 standing false present commands
    have stays : (flySingle true matrix id commands).on fleet = (.ok ⟨.notAttempted, drone⟩, fleet) := by
      simp only [flySingle, Handling.fly, if_true, on_bind, on_pure, on_record present]
    refine .of_idles (called.dispatch sound stays) (.single (sound.recorded standing present)) ?_
    rw [called.dispatch sound flies]
    rfl

theorem several_stilled (sound : fleet.Sound) {request : Request} {matrixId : Option Nat}
    {ids : List Nat} (several : request.several? = some (matrixId, ids)) : fleet.Stilled request := by
  by_cases clear : ∀ refusal, ¬ Foremost (reasons fleet request matrixId ids) refusal
  · have carried : ∀ grounded, Carried grounded fleet request matrixId ids
        (fleet.dispatch grounded request).1 (fleet.dispatch grounded request).2 :=
      fun _ => dispatch_carried sound several clear
    obtain ⟨plans, matrix, outcomes, last, _, rfl, mustered, flown, answered, left⟩ := carried true
    obtain ⟨_, _, _, _, _, _, _, _, granted, _⟩ := carried false
    obtain ⟨rfl, rfl⟩ := (idle_flown matrix plans).unique flown
    refine .of_idles (Prod.ext answered (left.trans (store_self mustered.standing))) ?_ ?_
    · rw [BatchReport.of, idle_filter, idle_eq, List.filterMap_nil]
      exact .several several
    · rw [granted]
      rfl
  · obtain ⟨refusal, foremost⟩ := not_forall_not.mp clear
    exact .of_refused fun _ => dispatch_refuses sound several foremost

theorem dispatch_stilled (sound : fleet.Sound) (request : Request) : fleet.Stilled request := by
  cases request with
  | droneCommands id input => exact single_stilled sound id input
  | matrixDroneCommands matrixId ids input => exact several_stilled sound rfl
  | batchCommands matrixId entries => exact several_stilled sound rfl
  | _ => exact ⟨fun _ => rfl, nofun, nofun, nofun⟩

/-- Once all drones are grounded, a run of requests comes to what it would come to without those for
drones to fly. -/
theorem serve_stilled (sound : fleet.Sound) (requests : List Request) :
    fleet.serve (requests.map (true, ·)) =
      fleet.serve ((requests.filter fun request => !request.commands).map (false, ·)) := by
  induction requests generalizing fleet with
  | nil => rfl
  | cons request rest ih =>
    have stilled := dispatch_stilled sound request
    have next := ih (dispatch_sound sound true request)
    cases commands : request.commands with
    | true =>
      rw [stilled.unchanged commands] at next
      simp only [List.filter_cons, commands, Bool.not_true, Bool.false_eq_true, if_false]
      rw [← next, List.map_cons, serve, List.foldl_cons, stilled.unchanged commands]
      rfl
    | false =>
      simp only [List.filter_cons, commands, Bool.not_false, if_true, List.map_cons]
      rw [serve, List.foldl_cons, serve, List.foldl_cons, ← stilled.others commands]
      exact next

end Fleet

end DroneFleet
