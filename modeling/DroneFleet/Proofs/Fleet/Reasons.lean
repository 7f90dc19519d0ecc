import DroneFleet.Proofs.Fleet.Serving
import Mathlib.Data.List.Forall2

/-!
Why a request for several drones is refused. There are five reasons, each said here without regard to
the others, and the first of them that holds decides (`dispatch_several`). Work that makes one check
after another is refused for the foremost of its reasons (`Heeds.bind`); once all of them are through,
nothing that a drone then does is refused (`flights_on`).
-/
namespace DroneFleet

/-- What may be wrong with a request, with the refusals that it leads to. -/
abbrev Reason := Refusal → Prop

/-- The refusal is that of the first reason for which there is any. -/
def Foremost : List Reason → Refusal → Prop
  | [], _ => False
  | reason :: others, refusal =>
    reason refusal ∨ (∀ other, ¬ reason other) ∧ Foremost others refusal

theorem foremost_append {front back : List Reason} {refusal : Refusal} :
    Foremost (front ++ back) refusal ↔
      Foremost front refusal ∨ (∀ other, ¬ Foremost front other) ∧ Foremost back refusal := by
  induction front with
  | nil => simp [Foremost]
  | cons reason front ih =>
    simp only [List.cons_append, Foremost, ih, not_or, not_and, forall_and]
    by_cases clear : ∀ other, ¬ reason other
    · simp [clear]
    · simp [clear]

theorem foremost_singleton {reason : Reason} {refusal : Refusal} :
    Foremost [reason] refusal ↔ reason refusal := by
  simp [Foremost]

/-! ### A request for several drones -/

def Request.several? : Request → Option (Option Nat × List Nat)
  | matrixDroneCommands matrixId droneIds _ => some (matrixId, droneIds)
  | batchCommands matrixId entries => some (matrixId, entries.map (·.droneId))
  | _ => none

/-- A sequence cannot be read, the first of those that come with the request. A drone is named with it
only where each drone has a sequence of its own. -/
inductive Unreadable : Request → Reason
  | shared {matrixId : Option Nat} {droneIds : List Nat} {input : CommandInput}
      {fault : CommandFault} (unread : input.parse = .error fault) :
      Unreadable (.matrixDroneCommands matrixId droneIds input) (.invalidCommand none fault)
  | own {matrixId : Option Nat} {before after : List BatchEntry} {entry : BatchEntry}
      {fault : CommandFault} (read : ∀ other ∈ before, ∃ commands, other.commands.parse = .ok commands)
      (unread : entry.commands.parse = .error fault) :
      Unreadable (.batchCommands matrixId (before ++ entry :: after))
        (.invalidCommand (some entry.droneId) fault)

inductive Unmanned : List Nat → Reason
  | nobody : Unmanned [] (.invalidRequest "no drones addressed")

inductive Repeats : List Nat → Reason
  | again {before after : List Nat} {id : Nat} (fresh : before.Nodup) (known : id ∈ before) :
      Repeats (before ++ id :: after) (.duplicateDrone id)

inductive Groundless (fleet : Fleet) : Option Nat → List Nat → Reason
  | matrix {id : Nat} {ids : List Nat} (missing : fleet.matrix? id = none) :
      Groundless fleet (some id) ids (.unknownMatrix id)
  | drone {first : Nat} {ids : List Nat} (nowhere : ∀ id, ¬ fleet.Houses id first) :
      Groundless fleet none (first :: ids) (.unknownDrone first)

/-- The matrix that the request is for: the one that is named, or else the one that has the first
drone. -/
inductive Addresses (fleet : Fleet) : Option Nat → List Nat → Matrix → Prop
  | named {id : Nat} {ids : List Nat} {matrix : Matrix} (found : fleet.matrix? id = some matrix) :
      Addresses fleet (some id) ids matrix
  | implied {first : Nat} {ids : List Nat} {matrix : Matrix}
      (standing : fleet.standing? matrix.id = some matrix) (aboard : matrix.owns first = true) :
      Addresses fleet none (first :: ids) matrix

/-- A drone, the first of those listed, is not on the matrix that the request is for: it does not
exist, or another matrix has it. -/
inductive Strays (fleet : Fleet) (matrixId : Option Nat) : List Nat → Reason
  | nowhere {before after : List Nat} {id : Nat} {matrix : Matrix}
      (addressed : Addresses fleet matrixId (before ++ id :: after) matrix)
      (aboard : ∀ other ∈ before, matrix.owns other = true)
      (missing : ∀ home, ¬ fleet.Houses home id) :
      Strays fleet matrixId (before ++ id :: after) (.unknownDrone id)
  | elsewhere {before after : List Nat} {id home : Nat} {matrix : Matrix}
      (addressed : Addresses fleet matrixId (before ++ id :: after) matrix)
      (aboard : ∀ other ∈ before, matrix.owns other = true) (housed : fleet.Houses home id)
      (apart : home ≠ matrix.id) :
      Strays fleet matrixId (before ++ id :: after) (.matrixMismatch id matrix.id home)

/-- All that may be wrong with a request for several drones, in the order in which it counts. -/
def reasons (fleet : Fleet) (request : Request) (matrixId : Option Nat) (ids : List Nat) :
    List Reason :=
  [Unreadable request, Unmanned ids, Repeats ids, Groundless fleet matrixId ids,
    Strays fleet matrixId ids]

/-- Plans that can all be carried out: they are for different drones on one matrix, the one that is
meant. -/
structure Mustered (fleet : Fleet) (matrixId : Option Nat) (plans : List Plan) (matrix : Matrix) :
    Prop where
  distinct : (plans.map (·.droneId)).Nodup
  addressed : Addresses fleet matrixId (plans.map (·.droneId)) matrix
  standing : fleet.standing? matrix.id = some matrix
  aboard : ∀ plan ∈ plans, matrix.owns plan.droneId = true

/-! ### Checks one after another -/

namespace Handling

variable {α β : Type} {fleet : Fleet}

/-- The work is refused for the foremost of the reasons and changes nothing then; without a reason it
leaves something good. -/
structure Heeds (work : Handling α) (fleet : Fleet) (reasons : List Reason)
    (good : α → Fleet → Prop) : Prop where
  refused : ∀ refusal, Foremost reasons refusal → work.on fleet = (.error refusal, fleet)
  granted : (∀ refusal, ¬ Foremost reasons refusal) →
    ∃ value after, work.on fleet = (.ok value, after) ∧ good value after

theorem Heeds.bind {work : Handling α} {next : α → Handling β} {front back : List Reason}
    {found : α → Prop} {good : β → Fleet → Prop}
    (checks : work.Heeds fleet front fun value after => after = fleet ∧ found value)
    (goesOn : ∀ value, found value → (next value).Heeds fleet back good) :
    (work >>= next).Heeds fleet (front ++ back) good where
  refused refusal foremost := by
    rcases foremost_append.mp foremost with early | ⟨clear, late⟩
    · exact on_refused (checks.refused refusal early) next
    · obtain ⟨value, _, done, rfl, kept⟩ := checks.granted clear
      exact (on_ok done next).trans ((goesOn value kept).refused refusal late)
  granted clear := by
    have early : ∀ refusal, ¬ Foremost front refusal :=
      fun refusal here => clear refusal (foremost_append.mpr (.inl here))
    obtain ⟨value, _, done, rfl, kept⟩ := checks.granted early
    have late : ∀ refusal, ¬ Foremost back refusal :=
      fun refusal here => clear refusal (foremost_append.mpr (.inr ⟨early, here⟩))
    obtain ⟨last, final, done', kept'⟩ := (goesOn value kept).granted late
    exact ⟨last, final, (on_ok done next).trans done', kept'⟩

/-- What follows a change must not be refused. -/
theorem Heeds.finish {work : Handling α} {next : α → Handling β} {reasons : List Reason}
    {good : α → Fleet → Prop} {better : β → Fleet → Prop} (heeds : work.Heeds fleet reasons good)
    (returns : ∀ value after, good value after →
      ∃ last final, (next value).on after = (.ok last, final) ∧ better last final) :
    (work >>= next).Heeds fleet reasons better where
  refused refusal foremost := on_refused (heeds.refused refusal foremost) next
  granted clear := by
    obtain ⟨value, after, done, kept⟩ := heeds.granted clear
    obtain ⟨last, final, done', kept'⟩ := returns value after kept
    exact ⟨last, final, (on_ok done next).trans done', kept'⟩

theorem Heeds.check {work : Handling α} {reason : Reason} {good : α → Fleet → Prop}
    (fails : ∀ refusal, reason refusal → work.on fleet = (.error refusal, fleet))
    (passes : (∃ refusal, reason refusal) ∨
      ∃ value after, work.on fleet = (.ok value, after) ∧ good value after) :
    work.Heeds fleet [reason] good where
  refused refusal foremost := by
    rcases foremost with here | ⟨_, nothing⟩
    · exact fails refusal here
    · exact nothing.elim
  granted clear := by
    rcases passes with ⟨refusal, here⟩ | done
    · exact absurd (.inl here) (clear refusal)
    · exact done

theorem Heeds.lift {result : Except Refusal α} {front : List Reason}
    (judged : ∀ refusal, result = .error refusal ↔ Foremost front refusal) (fleet : Fleet) :
    (liftM result : Handling α).Heeds fleet front fun value after =>
      after = fleet ∧ result = .ok value where
  refused refusal foremost := by rw [on_lift, (judged refusal).mpr foremost]
  granted clear := by
    cases result with
    | error refusal => exact absurd ((judged refusal).mp rfl) (clear refusal)
    | ok value => exact ⟨value, fleet, rfl, rfl, rfl⟩

end Handling

/-! ### The five checks -/

namespace Plan

theorem repeated?_eq_some_iff {seen ids : List Nat} {id : Nat} :
    repeated? seen ids = some id ↔ ∃ before after, ids = before ++ id :: after ∧ before.Nodup ∧
      (∀ other ∈ before, other ∉ seen) ∧ (id ∈ seen ∨ id ∈ before) := by
  induction ids generalizing seen with
  | nil => simp [repeated?]
  | cons head rest ih =>
    by_cases met : head ∈ seen
    · rw [repeated?, if_pos met, Option.some.injEq]
      constructor
      · rintro rfl
        exact ⟨[], rest, rfl, List.nodup_nil, nofun, .inl met⟩
      · rintro ⟨_ | ⟨first, before⟩, after, whole, _, unseen, _⟩
        · exact (List.cons.inj whole).1
        · obtain ⟨rfl, _⟩ := List.cons.inj whole
          exact absurd met (unseen head List.mem_cons_self)
    · rw [repeated?, if_neg met, ih]
      constructor
      · rintro ⟨before, after, rfl, fresh, unseen, again⟩
        refine ⟨head :: before, after, rfl, List.nodup_cons.mpr ⟨fun inside => ?_, fresh⟩, ?_, ?_⟩
        · exact unseen head inside List.mem_cons_self
        · intro other member
          rcases List.mem_cons.mp member with rfl | inside
          · exact met
          · exact fun old => unseen other inside (List.mem_cons_of_mem _ old)
        · simpa [or_assoc, or_comm, or_left_comm] using again
      · rintro ⟨_ | ⟨first, before⟩, after, whole, fresh, unseen, again⟩
        · obtain ⟨rfl, _⟩ := List.cons.inj whole
          simp [met] at again
        · obtain ⟨rfl, rfl⟩ := List.cons.inj whole
          obtain ⟨alone, fresh⟩ := List.nodup_cons.mp fresh
          refine ⟨before, after, rfl, fresh, fun other inside known => ?_, ?_⟩
          · rcases List.mem_cons.mp known with rfl | old
            · exact alone inside
            · exact unseen other (List.mem_cons_of_mem _ inside) old
          · simpa [or_assoc, or_comm, or_left_comm] using again

theorem repeats_iff {ids : List Nat} {refusal : Refusal} :
    Repeats ids refusal ↔ ∃ id, repeated? [] ids = some id ∧ refusal = .duplicateDrone id := by
  simp only [repeated?_eq_some_iff]
  constructor
  · rintro @⟨before, after, id, fresh, known⟩
    exact ⟨id, ⟨before, after, rfl, fresh, nofun, .inr known⟩, rfl⟩
  · rintro ⟨id, ⟨before, after, rfl, fresh, _, known⟩, rfl⟩
    exact .again fresh (known.resolve_left List.not_mem_nil)

theorem leader_judged {plans : List Plan} {refusal : Refusal} :
    leader plans = .error refusal ↔
      Foremost [Unmanned (plans.map (·.droneId)), Repeats (plans.map (·.droneId))] refusal := by
  simp only [Foremost, repeats_iff]
  cases plans with
  | nil =>
    constructor
    · rintro ⟨⟩
      exact .inl .nobody
    · rintro (⟨⟨⟩⟩ | ⟨manned, _⟩)
      · rfl
      · exact absurd .nobody (manned _)
  | cons first rest =>
    have manned : ∀ other, ¬ Unmanned (first.droneId :: rest.map (·.droneId)) other := nofun
    simp only [leader, List.map_cons]
    cases repeated? [] (first.droneId :: rest.map (·.droneId)) with
    | none => simp [manned]
    | some id => simp [manned, eq_comm]

theorem nodup_of_repeated? {seen ids : List Nat} (fresh : repeated? seen ids = none) :
    ids.Nodup ∧ ∀ id ∈ ids, id ∉ seen := by
  induction ids generalizing seen with
  | nil => exact ⟨List.nodup_nil, nofun⟩
  | cons head rest ih =>
    rw [repeated?] at fresh
    split at fresh
    · cases fresh
    · rename_i unmet
      obtain ⟨distinct, apart⟩ := ih fresh
      refine ⟨List.nodup_cons.mpr ⟨fun inside => apart head inside List.mem_cons_self, distinct⟩, ?_⟩
      refine List.forall_mem_cons.mpr ⟨unmet, fun id inside known => ?_⟩
      exact apart id inside (List.mem_cons_of_mem _ known)

theorem leader_lists {plans : List Plan} {first : Nat} (leads : leader plans = .ok first) :
    (plans.map (·.droneId)).Nodup ∧ ∃ rest, plans.map (·.droneId) = first :: rest := by
  cases plans with
  | nil => cases leads
  | cons plan rest =>
    simp only [leader] at leads
    split at leads
    · cases leads
    · rename_i fresh
      cases leads
      exact ⟨(nodup_of_repeated? fresh).1, _, rfl⟩

theorem shared_droneIds (droneIds : List Nat) (commands : List Command) :
    (shared droneIds commands).map (·.droneId) = droneIds := by
  rw [shared, List.map_map]
  exact List.map_id droneIds

theorem shared_judged {matrixId : Option Nat} {droneIds : List Nat} {input : CommandInput}
    {refusal : Refusal} : input.parse.mapError (Refusal.invalidCommand none) = .error refusal ↔
      Unreadable (.matrixDroneCommands matrixId droneIds input) refusal := by
  constructor
  · intro failed
    cases parsed : input.parse with
    | error fault =>
      rw [parsed] at failed
      cases failed
      exact .shared parsed
    | ok commands =>
      rw [parsed] at failed
      cases failed
  · rintro (⟨unread⟩ | _)
    rw [unread]
    rfl

theorem ofEntries_judged {matrixId : Option Nat} {entries : List BatchEntry} {refusal : Refusal} :
    ofEntries entries = .error refusal ↔ Unreadable (.batchCommands matrixId entries) refusal := by
  constructor
  · intro failed
    induction entries generalizing refusal with
    | nil => cases failed
    | cons entry rest ih =>
      simp only [ofEntries, ofEntry, bind, Except.bind] at failed
      cases parsed : entry.commands.parse with
      | error fault =>
        rw [parsed] at failed
        cases failed
        exact @Unreadable.own matrixId [] rest entry fault nofun parsed
      | ok commands =>
        rw [parsed] at failed
        cases more : ofEntries rest with
        | ok plans => simp [more, pure, Except.pure] at failed
        | error other =>
          simp only [more] at failed
          cases failed
          obtain _ | @⟨_, before, after, bad, fault, read, unread⟩ := ih more
          exact @Unreadable.own matrixId (entry :: before) after bad fault
            (List.forall_mem_cons.mpr ⟨⟨commands, parsed⟩, read⟩) unread
  · rintro (_ | @⟨_, before, after, bad, fault, read, unread⟩)
    induction before with
    | nil => simp only [List.nil_append, ofEntries, ofEntry, unread, bind, Except.bind]
    | cons entry before ih =>
      obtain ⟨⟨commands, parsed⟩, read⟩ := List.forall_mem_cons.mp read
      simp only [List.cons_append, ofEntries, ofEntry, parsed, ih read, bind, Except.bind]

theorem ofEntries_reads {entries : List BatchEntry} {plans : List Plan}
    (parsed : ofEntries entries = .ok plans) :
    List.Forall₂ (fun plan entry => plan.droneId = entry.droneId ∧
      entry.commands.parse = .ok plan.commands) plans entries := by
  induction entries generalizing plans with
  | nil =>
    cases parsed
    exact .nil
  | cons entry rest ih =>
    simp only [ofEntries, ofEntry, bind, Except.bind] at parsed
    cases read : entry.commands.parse with
    | error fault => simp [read] at parsed
    | ok commands =>
      rw [read] at parsed
      cases more : ofEntries rest with
      | error refusal => simp [more] at parsed
      | ok ahead =>
        simp only [more] at parsed
        cases parsed
        exact .cons ⟨rfl, read⟩ (ih more)

theorem ofEntries_droneIds {entries : List BatchEntry} {plans : List Plan}
    (parsed : ofEntries entries = .ok plans) :
    plans.map (·.droneId) = entries.map (·.droneId) := by
  rw [← List.forall₂_eq_eq_eq, List.forall₂_map_left_iff, List.forall₂_map_right_iff]
  exact (ofEntries_reads parsed).imp fun _ _ reads => reads.1

end Plan

theorem Fleet.Sound.nowhere {fleet : Fleet} (sound : fleet.Sound) {drone : Nat} :
    (∀ id, ¬ fleet.Houses id drone) ↔ fleet.owner? drone = none := by
  simp only [← sound.directory, Option.eq_none_iff_forall_ne_some, ne_eq]

theorem Addresses.unique {fleet : Fleet} (sound : fleet.Sound) {matrixId : Option Nat}
    {ids : List Nat} {matrix other : Matrix} (one : Addresses fleet matrixId ids matrix)
    (two : Addresses fleet matrixId ids other) : other = matrix := by
  cases one with
  | named found =>
    obtain ⟨found'⟩ | _ := two
    exact Option.some.inj (found'.symm.trans found)
  | implied standing aboard =>
    obtain _ | ⟨standing', aboard'⟩ := two
    have same := sound.single _ _ _ ((Fleet.standing_houses standing').mpr aboard')
      ((Fleet.standing_houses standing).mpr aboard)
    rw [same, standing] at standing'
    exact (Option.some.inj standing').symm

namespace Handling

variable {α β : Type} {fleet : Fleet}

theorem ground_heeds (sound : fleet.Sound) (matrixId : Option Nat) {first : Nat} {rest : List Nat} :
    (ground matrixId first).Heeds fleet [Groundless fleet matrixId (first :: rest)]
      fun matrix after => after = fleet ∧ fleet.standing? matrix.id = some matrix ∧
        Addresses fleet matrixId (first :: rest) matrix := by
  cases matrixId with
  | some id =>
    apply Heeds.check
    · rintro _ ⟨missing⟩
      exact on_seek_missing missing
    · cases found : fleet.matrix? id with
      | none => exact .inl ⟨_, .matrix found⟩
      | some matrix =>
        have standing := Fleet.standing_of_matrix? found
        have name := (sound.standing standing).1
        exact .inr ⟨matrix, fleet, on_seek sound standing, rfl, name ▸ standing, .named found⟩
  | none =>
    apply Heeds.check
    · rintro _ (_ | ⟨nowhere⟩)
      exact on_home_unowned (sound.nowhere.mp nowhere)
    · cases known : fleet.owner? first with
      | none => exact .inl ⟨_, .drone (sound.nowhere.mpr known)⟩
      | some id =>
        obtain ⟨matrix, standing, _, aboard⟩ := sound.housed known
        exact .inr ⟨matrix, fleet, on_home sound standing aboard, rfl, standing,
          .implied standing aboard⟩

theorem stranger?_eq_some_iff {matrix : Matrix} {plans : List Plan} {id : Nat} :
    matrix.stranger? plans = some id ↔ matrix.owns id = false ∧ ∃ before after,
      plans.map (·.droneId) = before ++ id :: after ∧ ∀ other ∈ before, matrix.owns other = true := by
  simp only [Matrix.stranger?, List.find?_eq_some_iff_append, Bool.not_eq_true', Bool.not_not]

theorem checkOwners_heeds (sound : fleet.Sound) {matrixId : Option Nat} {plans : List Plan}
    {matrix : Matrix} (standing : fleet.standing? matrix.id = some matrix)
    (addressed : Addresses fleet matrixId (plans.map (·.droneId)) matrix) :
    (checkOwners matrix plans).Heeds fleet [Strays fleet matrixId (plans.map (·.droneId))]
      fun _ after => after = fleet ∧ ∀ plan ∈ plans, matrix.owns plan.droneId = true := by
  have housed : ∀ id, matrix.owns id = true → fleet.Houses matrix.id id :=
    fun id => (Fleet.standing_houses standing).mpr
  apply Heeds.check
  · intro refusal strays
    generalize listed : plans.map (·.droneId) = ids at strays addressed
    cases strays with
    | @nowhere before after id other addressed' aboard missing =>
      obtain rfl := addressed.unique sound addressed'
      have absent : other.owns id = false :=
        Bool.eq_false_iff.mpr fun inside => missing _ (housed id inside)
      rw [on_checkOwners_stranger (stranger?_eq_some_iff.mpr ⟨absent, before, after, listed, aboard⟩),
        stray, sound.nowhere.mp missing]
    | @elsewhere before after id home other addressed' aboard there apart =>
      obtain rfl := addressed.unique sound addressed'
      have absent : other.owns id = false :=
        Bool.eq_false_iff.mpr fun inside => apart (sound.single _ _ _ there (housed id inside))
      rw [on_checkOwners_stranger (stranger?_eq_some_iff.mpr ⟨absent, before, after, listed, aboard⟩),
        stray, (sound.directory id home).mpr there]
  · cases stranger : matrix.stranger? plans with
    | none =>
      refine .inr ⟨(), fleet, on_checkOwners stranger fleet, rfl, ?_⟩
      simpa [Matrix.stranger?] using stranger
    | some id =>
      obtain ⟨absent, before, after, listed, aboard⟩ := stranger?_eq_some_iff.mp stranger
      rw [listed] at addressed ⊢
      cases known : fleet.owner? id with
      | none => exact .inl ⟨_, .nowhere addressed aboard (sound.nowhere.mpr known)⟩
      | some home =>
        have there := (sound.directory id home).mp known
        refine .inl ⟨_, .elsewhere addressed aboard there ?_⟩
        rintro rfl
        rw [(Fleet.standing_houses standing).mp there] at absent
        cases absent

/-- Drones that are aboard may fly in any order and any number of times, some of them grounded: none of
them is refused. -/
theorem flights_on {matrix : Matrix} (sound : matrix.Sound) {flights : List (Bool × Plan)}
    (aboard : ∀ flight ∈ flights, matrix.owns flight.2.droneId = true) {fleet : Fleet}
    (standing : fleet.standing? matrix.id = some matrix) :
    ∃ outcomes last, (flights.mapM fun flight => flyPlan flight.1 matrix.id flight.2).on fleet =
      (.ok outcomes, fleet.store last) ∧ last.id = matrix.id := by
  induction flights generalizing matrix fleet with
  | nil => exact ⟨[], matrix, by rw [List.mapM_nil, on_pure, Fleet.store_self standing], rfl⟩
  | cons flight ahead ih =>
    obtain ⟨outcome, next, nextSound, kin, flew⟩ :=
      flyPlan_result flight.1 sound (aboard flight List.mem_cons_self)
    have stored : (fleet.store next).standing? next.id = some next := by
      rw [Fleet.store_standing?, if_pos rfl]
    obtain ⟨outcomes, last, done, same⟩ := ih nextSound
      (fun other member => (kin.owns _).trans (aboard other (List.mem_cons_of_mem _ member))) stored
    rw [kin.id] at done
    refine ⟨outcome :: outcomes, last, ?_, same.trans kin.id⟩
    rw [List.mapM_cons, on_ok (flew fleet standing), on_ok done, on_pure, Fleet.store_store _ same]

theorem batch_heeds (sound : fleet.Sound) (grounded : Bool) (matrixId : Option Nat)
    (plans : List Plan) :
    (batch grounded matrixId plans).Heeds fleet
      [Unmanned (plans.map (·.droneId)), Repeats (plans.map (·.droneId)),
        Groundless fleet matrixId (plans.map (·.droneId)),
        Strays fleet matrixId (plans.map (·.droneId))]
      fun report after => ∃ matrix outcomes last, Mustered fleet matrixId plans matrix ∧
        Flown grounded matrix plans outcomes last ∧ report = .of outcomes last ∧
        after = fleet.store last := by
  have steps : batch grounded matrixId plans = (do
      let first ← Plan.leader plans
      let matrix ← ground matrixId first
      checkOwners matrix plans
      report matrix.id (← plans.mapM (flyPlan grounded matrix.id))) := by
    cases matrixId <;> rfl
  rw [steps]
  refine (Heeds.lift (fun _ => Plan.leader_judged) fleet).bind fun first leads => ?_
  obtain ⟨distinct, rest, listed⟩ := Plan.leader_lists leads
  rw [listed]
  refine (ground_heeds sound matrixId).bind fun matrix ⟨standing, addressed⟩ => ?_
  rw [← listed] at addressed ⊢
  refine (checkOwners_heeds sound standing addressed).bind fun _ aboard => ?_
  constructor
  · exact fun refusal nothing => nothing.elim
  · intro _
    obtain ⟨outcomes, last, flown, _, _⟩ :=
      flown_exists grounded (sound.standing standing).2 aboard
    have stored : (fleet.store last).standing? matrix.id = some last := by
      rw [Fleet.store_standing?, if_pos flown.id_eq.symm]
    exact ⟨_, _, (on_ok (flown.on_mapM standing) _).trans (on_report stored outcomes), matrix,
      outcomes, last, ⟨distinct, addressed, standing, aboard⟩, flown, rfl, rfl⟩

def Carried (grounded : Bool) (fleet : Fleet) (request : Request) (matrixId : Option Nat)
    (ids : List Nat) (response : Response) (after : Fleet) : Prop :=
  ∃ plans matrix outcomes last, request.Flies matrixId plans ∧ plans.map (·.droneId) = ids ∧
    Mustered fleet matrixId plans matrix ∧ Flown grounded matrix plans outcomes last ∧
    response = .batch (.of outcomes last) ∧ after = fleet.store last

theorem read_heeds (sound : fleet.Sound) (grounded : Bool) {request : Request}
    {matrixId : Option Nat} {ids : List Nat} {plans : List Plan}
    (flies : request.Flies matrixId plans) (listed : plans.map (·.droneId) = ids) :
    (do return Response.batch (← batch grounded matrixId plans) : Handling Response).Heeds fleet
      [Unmanned ids, Repeats ids, Groundless fleet matrixId ids, Strays fleet matrixId ids]
      (Carried grounded fleet request matrixId ids) := by
  subst listed
  refine (batch_heeds sound grounded matrixId plans).finish ?_
  rintro report after ⟨matrix, outcomes, last, mustered, flown, rfl, rfl⟩
  exact ⟨_, _, rfl, plans, matrix, outcomes, last, flies, rfl, mustered, flown, rfl, rfl⟩

theorem handle_heeds (sound : fleet.Sound) (grounded : Bool) {request : Request}
    {matrixId : Option Nat} {ids : List Nat} (several : request.several? = some (matrixId, ids)) :
    (request.handle grounded).Heeds fleet (reasons fleet request matrixId ids)
      (Carried grounded fleet request matrixId ids) := by
  cases request with
  | matrixDroneCommands named droneIds input =>
    cases several
    have steps : (Request.matrixDroneCommands matrixId ids input).handle grounded = (do
        let commands ← input.parse.mapError (Refusal.invalidCommand none)
        return .batch (← batch grounded matrixId (Plan.shared ids commands))) := by
      simp only [Request.handle]
      cases input.parse <;> rfl
    rw [steps]
    refine (Heeds.lift (fun _ => Plan.shared_judged.trans foremost_singleton.symm) fleet).bind
      fun commands read => ?_
    have parsed : input.parse = .ok commands := by
      cases parsed : input.parse <;> rw [parsed] at read <;> cases read
      rfl
    exact read_heeds sound grounded (.inl ⟨ids, input, commands, rfl, parsed, rfl⟩)
      (Plan.shared_droneIds ids commands)
  | batchCommands named entries =>
    cases several
    refine (Heeds.lift (fun _ => Plan.ofEntries_judged.trans foremost_singleton.symm) fleet).bind
      fun plans parsed => ?_
    exact read_heeds sound grounded (.inr ⟨entries, rfl, parsed⟩) (Plan.ofEntries_droneIds parsed)
  | _ => cases several

end Handling

open Handling

namespace Fleet

theorem dispatch_refuses {fleet : Fleet} (sound : fleet.Sound) {grounded : Bool} {request : Request}
    {matrixId : Option Nat} {ids : List Nat} (several : request.several? = some (matrixId, ids))
    {refusal : Refusal} (foremost : Foremost (reasons fleet request matrixId ids) refusal) :
    fleet.dispatch grounded request = (.ofRefusal refusal, fleet) := by
  have same : ((request.handle grounded).run fleet).run = _ :=
    (handle_heeds sound grounded several).refused refusal foremost
  simp only [dispatch, same, Response.ofResult]

theorem dispatch_carried {fleet : Fleet} (sound : fleet.Sound) {grounded : Bool} {request : Request}
    {matrixId : Option Nat} {ids : List Nat} (several : request.several? = some (matrixId, ids))
    (clear : ∀ refusal, ¬ Foremost (reasons fleet request matrixId ids) refusal) :
    Carried grounded fleet request matrixId ids (fleet.dispatch grounded request).1
      (fleet.dispatch grounded request).2 := by
  obtain ⟨response, after, done, carried⟩ := (handle_heeds sound grounded several).granted clear
  rwa [dispatch_eq done]

/-- A request for several drones is refused just if something is wrong with it, with the refusal of
the first reason that holds, and then nothing has changed. In every other case it is answered with a
report; and then all its drones are on the matrix that is meant, so that none of them is refused in
flight, whichever of them have flown before it and whether they are grounded or not. -/
theorem dispatch_several {start : Fleet} (sound : start.Sound) (calls : List (Bool × Request))
    (grounded : Bool) {request : Request} {matrixId : Option Nat} {ids : List Nat}
    (several : request.several? = some (matrixId, ids)) :
    let fleet := start.serve calls
    ((fleet.dispatch grounded request).1.isError = true ↔
      ∃ refusal, Foremost (reasons fleet request matrixId ids) refusal) ∧
    (∀ refusal, Foremost (reasons fleet request matrixId ids) refusal →
      fleet.dispatch grounded request = (.ofRefusal refusal, fleet)) ∧
    ((∀ refusal, ¬ Foremost (reasons fleet request matrixId ids) refusal) →
      ∃ plans matrix report, request.Flies matrixId plans ∧ plans.map (·.droneId) = ids ∧
        Mustered fleet matrixId plans matrix ∧
        (fleet.dispatch grounded request).1 = .batch report ∧
        ∀ flights : List (Bool × Plan), (∀ flight ∈ flights, flight.2 ∈ plans) →
          ∃ outcomes after, (flights.mapM fun flight => flyPlan flight.1 matrix.id flight.2).on fleet =
            (.ok outcomes, after)) := by
  intro fleet
  have whole : fleet.Sound := serve_sound sound calls
  refine ⟨⟨fun refused => ?_, fun ⟨refusal, foremost⟩ => ?_⟩,
    fun refusal => dispatch_refuses whole several, fun clear => ?_⟩
  · refine Classical.byContradiction fun clear => ?_
    obtain ⟨_, _, _, _, _, _, _, _, answered, _⟩ :=
      dispatch_carried whole several (not_exists.mp clear)
    rw [answered] at refused
    cases refused
  · rw [dispatch_refuses whole several foremost]
    rfl
  · obtain ⟨plans, matrix, outcomes, last, flies, listed, mustered, _, answered, _⟩ :=
      dispatch_carried whole several clear
    refine ⟨plans, matrix, _, flies, listed, mustered, answered, fun flights chosen => ?_⟩
    obtain ⟨outcomes, last, flown, _⟩ := flights_on (whole.standing mustered.standing).2
      (fun flight member => mustered.aboard _ (chosen flight member)) mustered.standing
    exact ⟨outcomes, _, flown⟩

/-- Both drones of `corners` are to fly on the matrix of the first. -/
def straying : Request := .matrixDroneCommands none [1, 2] (.text "A")

theorem dispatch_several_straying :
    empty.Sound ∧ straying.several? = some (none, [1, 2]) ∧
      Foremost (reasons (empty.serve corners) straying none [1, 2]) (.matrixMismatch 2 1 2) ∧
      (empty.serve corners).dispatch false straying =
        (.ofRefusal (.matrixMismatch 2 1 2), empty.serve corners) := by
  have whole : (empty.serve corners).Sound := serve_sound empty_sound corners
  have first : (empty.serve corners).owner? 1 = some 1 := by decide +kernel
  have second : (empty.serve corners).owner? 2 = some 2 := by decide +kernel
  have read : CommandInput.parse (.text "A") = .ok [.advance] := rfl
  obtain ⟨matrix, standing, name, aboard⟩ := whole.housed first
  have strays : Strays (empty.serve corners) none [1, 2] (.matrixMismatch 2 matrix.id 2) :=
    @Strays.elsewhere _ none [1] [] 2 2 matrix (.implied standing aboard) (by simpa using aboard)
      ((whole.directory 2 2).mp second) (by rw [name]; decide)
  rw [name] at strays
  have foremost : Foremost (reasons (empty.serve corners) straying none [1, 2])
      (.matrixMismatch 2 1 2) := by
    refine .inr ⟨?_, .inr ⟨nofun, .inr ⟨?_, .inr ⟨?_, .inl strays⟩⟩⟩⟩
    · rintro _ ⟨unread⟩
      rw [read] at unread
      cases unread
    · intro refusal repeats
      obtain ⟨id, again, _⟩ := Plan.repeats_iff.mp repeats
      cases again
    · rintro _ (_ | ⟨nowhere⟩)
      exact nowhere 1 ((whole.directory 1 1).mp first)
  exact ⟨empty_sound, rfl, foremost,
    (dispatch_several empty_sound corners false rfl).2.1 _ foremost⟩

end Fleet

end DroneFleet
