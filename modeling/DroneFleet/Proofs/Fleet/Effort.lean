import DroneFleet.Fleet.Contention
import DroneFleet.Proofs.Fleet.Ending
import DroneFleet.Proofs.Fleet.Trust

/-!
How many steps a request can still take. If the directory keeps still it is at most `Stage.span`. A
request that the directory has sent to a matrix relies on what it read there (`Stage.trust?`): when
the drone has another owner by now it may have to look it up again, which costs a `Stage.detour`. No
step makes a request rely on an owner that the drone does not have, so every detour is the doing of an
entry that somebody has written since.
-/
namespace DroneFleet

namespace Errand

def span : Errand → Nat
  | change _ => 11
  | lead plans => plans.length + 4
  | _ => 3

theorem three_le_span (errand : Errand) : 3 ≤ errand.span := by
  cases errand <;> simp [span]

end Errand

namespace Purpose

def span : Purpose → Nat
  | survey _ ahead _ => 3 * ahead.length + 3
  | home _ errand => errand.span
  | target _ _ _ => 4
  | targetFirst _ _ _ => 7
  | sourceAgain _ _ _ => 4
  | batch plans => plans.length + 4
  | _ => 3

theorem held_le_span (purpose : Purpose) : purpose.held.length + 3 ≤ purpose.span := by
  cases purpose with
  | home drone errand => exact errand.three_le_span
  | _ => simp [held, span]

end Purpose

namespace Stage

/-- The steps ahead, with `listed` matrices on the list, if no drone changes its owner. -/
def span (listed : Nat) : Stage → Nat
  | start request => 3 * listed + request.addressed + 15
  | publish _ => 1
  | survey _ => 3 * listed + 2
  | seek _ purpose => purpose.span + 2
  | enter _ purpose => purpose.span + 1
  | inside _ purpose => purpose.span
  | locate _ _ errand => errand.span + 3
  | record _ _ next => next.span listed + 1
  | withdraw _ next => next.span listed + 1
  | leave _ next => next.span listed + 1
  | mismatch _ _ => 3
  | flying _ _ ahead => ahead.length + 2
  | done _ => 0

/-- The steps that come on top when the directory has changed. -/
def detour (fleet : Fleet) (stage : Stage) : Nat :=
  match stage.trust? with
  | some (drone, id) => if fleet.owner? drone = some id then 0 else 13
  | none => 0

def owes : Stage → Nat
  | leave _ next => next.owes
  | flying _ _ _ => 0
  | done _ => 0
  | _ => 1

variable {fleet : Fleet} {stage next : Stage} {request : Request} {response : Response}
  {listed : Nat}

theorem detour_of_none (nothing : stage.trust? = none) : stage.detour fleet = 0 := by
  rw [detour, nothing]

theorem detour_of_stale {drone id : Nat} (relied : stage.trust? = some (drone, id))
    (stale : fleet.owner? drone ≠ some id) : stage.detour fleet = 13 := by
  rw [detour, relied]
  exact if_neg stale

theorem detour_le (fleet : Fleet) (stage : Stage) : stage.detour fleet ≤ 13 := by
  rw [detour]
  split
  · split <;> decide
  · decide

/-! ### A request that is only being closed -/

theorem Closes.owes (closes : stage.Closes response) : stage.owes = 0 := by
  induction stage with
  | leave id next ih => exact ih closes
  | done other => rfl
  | _ => exact closes.elim

theorem Closes.span (closes : stage.Closes response) :
    stage.span listed = stage.holds.length := by
  induction stage with
  | leave id next ih => simp [Stage.span, holds, ih closes]
  | done other => rfl
  | _ => exact closes.elim

theorem Closes.nodup (closes : stage.Closes response) (fits : stage.Fits fleet) :
    stage.holds.Nodup := by
  induction stage with
  | leave id next ih => exact List.nodup_cons.mpr ⟨fits.2.2, ih closes fits.2.1⟩
  | done other => exact List.nodup_nil
  | _ => exact closes.elim

theorem Closes.span_le (closes : next.Closes response) (fits : next.Fits fleet)
    (keeps : ∀ id ∈ next.holds, id ∈ stage.holds) (listed : Nat) :
    next.span listed ≤ stage.holds.length := by
  rw [closes.span]
  exact (closes.nodup fits).length_le_of_subset keeps

/-! ### A request that is being pursued -/

theorem Serves.owes (serves : stage.Serves request) : stage.owes = 1 := by
  induction stage with
  | leave id next ih => exact ih serves
  | _ => first | rfl | exact serves.elim

theorem Serves.span (serves : stage.Serves request) (listed : Nat) :
    stage.holds.length + 2 ≤ stage.span listed := by
  induction stage with
  | seek id purpose =>
    have := purpose.held_le_span
    simp only [holds, Stage.span]
    omega
  | enter id purpose =>
    have := purpose.held_le_span
    simp only [holds, Stage.span]
    omega
  | inside id purpose =>
    have := purpose.held_le_span
    simp only [holds, List.length_cons, Stage.span]
    omega
  | leave id next ih => exact Nat.succ_le_succ (ih serves)
  | start other => simp [holds, Stage.span]
  | survey listing => simp [holds, Stage.span]
  | locate drone last errand => simp [holds, Stage.span]
  | mismatch id drone => simp [holds, Stage.span]
  | _ => exact serves.elim

theorem visit_span (listed : Nat) (listing : Listing) (seen : List MatrixView) (ahead : List Nat) :
    (visit listing seen ahead).span listed ≤ 3 * ahead.length + 1 := by
  cases ahead with
  | nil => exact Nat.zero_le _
  | cons id rest =>
    simp only [visit, Stage.span, Purpose.span, List.length_cons]
    omega

/-- A request that cannot find the matrix is done with it, or looks up again the drone for which it
came. -/
theorem missing_span (listed id : Nat) (purpose : Purpose) :
    (missing id purpose).span listed + 2 ≤ purpose.span ∨
    (∃ drone, purpose.trust? id = some (drone, id)) ∧
      (missing id purpose).span listed ≤ purpose.span + 11 := by
  cases purpose with
  | survey listing ahead seen =>
    left
    have := visit_span listed listing seen ahead
    simp only [missing, Purpose.span]
    omega
  | home drone errand => exact .inr ⟨⟨drone, rfl⟩, Nat.add_le_add_left (by decide) _⟩
  | sourceAgain drone target changes => exact .inr ⟨⟨drone, rfl⟩, Nat.le_refl _⟩
  | batch plans => exact .inl (Nat.le_add_left 2 (plans.length + 2))
  | _ =>
    left
    simp [missing, refused, Stage.span, Purpose.span]

theorem ofPlans_span (listed : Nat) (matrixId : Option Nat) (plans : List Plan) :
    (ofPlans matrixId plans).span listed ≤ plans.length + 7 := by
  unfold ofPlans
  split
  · exact Nat.zero_le _
  · split
    · exact Nat.le_succ _
    · exact Nat.le_refl _

theorem ofEntries_length {entries : List BatchEntry} {plans : List Plan}
    (parsed : Plan.ofEntries entries = .ok plans) : plans.length = entries.length := by
  induction entries generalizing plans with
  | nil =>
    cases parsed
    rfl
  | cons entry rest ih =>
    simp only [Plan.ofEntries, bind, Except.bind] at parsed
    split at parsed
    · cases parsed
    · split at parsed
      · cases parsed
      · rename_i more found
        cases parsed
        exact congrArg Nat.succ (ih found)

theorem ofRequest_span (plain : ∀ maxX maxY, request ≠ .createMatrix maxX maxY) :
    (ofRequest request).span listed < (start request).span listed := by
  cases request with
  | createMatrix maxX maxY => exact absurd rfl (plain maxX maxY)
  | droneCommands droneId input =>
    simp only [ofRequest]
    split <;> simp [refused, Stage.span, Errand.span, Request.addressed]
  | matrixDroneCommands matrixId droneIds input =>
    simp only [ofRequest]
    split
    · simp [refused, Stage.span]
    · rename_i commands _
      have := ofPlans_span listed matrixId (Plan.shared droneIds commands)
      have length : (Plan.shared droneIds commands).length = droneIds.length := List.length_map _
      simp only [Stage.span, Request.addressed]
      omega
  | batchCommands matrixId entries =>
    simp only [ofRequest]
    split
    · simp [refused, Stage.span]
    · rename_i plans parsed
      have := ofPlans_span listed matrixId plans
      have length := ofEntries_length parsed
      simp only [Stage.span, Request.addressed]
      omega
  | _ =>
    simp only [ofRequest, Stage.span, Purpose.span, Errand.span, Request.addressed]
    omega

theorem Opening.trust? {stage : Stage} (opening : stage.Opening) : stage.trust? = none := by
  cases opening with
  | @seeks id purpose direct => cases purpose <;> first | rfl | exact direct.elim
  | _ => rfl

theorem inside_stale (drone : Nat) {id : Nat} {purpose : Purpose}
    (clear : fleet.Clear (inside id purpose).holds) (relied : purpose.trust? id = some (drone, id))
    (absent : ∀ matrix, fleet.standing? id = some matrix → matrix.owns drone = false) :
    (inside id purpose).detour fleet = 13 :=
  detour_of_stale relied (clear.owner_ne List.mem_cons_self absent)

/-- Every step shortens what is ahead. Where it turns back to the directory, the matrix that it comes
from is not the one that the directory names now. -/
theorem Goes.span (goes : Goes fleet stage next) (clear : fleet.Clear stage.holds)
    (known : ∀ drone id, fleet.owner? drone = some id → fleet.listed.contains id = true) :
    next.span fleet.listed.size + next.detour fleet <
      stage.span fleet.listed.size + stage.detour fleet := by
  cases goes with
  | @starts request plain =>
    rw [detour_of_none (ofRequest_opening request).trust?]
    exact Nat.lt_of_lt_of_le (ofRequest_span plain) (Nat.le_add_right _ _)
  | surveys listing =>
    have := visit_span fleet.listed.size listing [] fleet.listed.keys
    rw [detour_of_none (visit_trust? listing [] _)]
    simp only [Stage.span, ← fleet.listed.length_keys] at this ⊢
    omega
  | finds _ => exact Nat.add_lt_add_right (Nat.lt_succ_self _) _
  | @misses id purpose unlisted =>
    rw [detour_of_none (missing_trust? id purpose)]
    rcases missing_span fleet.listed.size id purpose with
      short | ⟨⟨drone, relied⟩, short⟩
    · simp only [Stage.span]
      omega
    · have stale : fleet.owner? drone ≠ some id := by
        intro owned
        rw [known drone id owned] at unlisted
        cases unlisted
      have detour : (seek id purpose).detour fleet = 13 := detour_of_stale relied stale
      simp only [Stage.span, detour]
      omega
  | @finds_gone id purpose gone =>
    have detour : (leave id (missing id purpose)).detour fleet = 0 :=
      detour_of_none (missing_trust? id purpose)
    rcases missing_span fleet.listed.size id purpose with
      short | ⟨⟨drone, relied⟩, short⟩
    · simp only [Stage.span, detour]
      omega
    · have stale := inside_stale drone clear relied (by simp [gone])
      simp only [Stage.span, detour, stale]
      omega
  | @views matrix listing ahead seen =>
    have := visit_span fleet.listed.size listing (seen ++ [matrix.view]) ahead
    have detour : (leave matrix.id (visit listing (seen ++ [matrix.view]) ahead)).detour fleet = 0 :=
      detour_of_none (visit_trust? listing _ ahead)
    simp only [Stage.span, Purpose.span, detour]
    omega
  | @strays matrix drone wanted standing absent =>
    have stale := inside_stale drone clear rfl (by simp [standing, absent])
    have detour : (leave matrix.id (locate drone (some matrix.id) wanted)).detour fleet = 0 := rfl
    simp only [Stage.span, Purpose.span, detour, stale]
    omega
  | @climbs matrix drone target changes =>
    have detour : (seek target (.target drone matrix.id changes)).detour fleet = 0 := rfl
    simp only [Stage.span, Purpose.span, Errand.span, detour]
    omega
  | descends _ _ => exact Nat.add_lt_add_right (Nat.lt_succ_self 10) _
  | returns => exact Nat.add_lt_add_right (Nat.lt_succ_self 6) _
  | @restarts matrix drone target changes standing absent =>
    have stale := inside_stale drone clear rfl (by simp [standing, absent])
    have detour : (leave target (leave matrix.id (locate drone none (.change changes)))).detour
        fleet = 0 := rfl
    simp only [Stage.span, Purpose.span, Errand.span, detour, stale]
    omega
  | refuses_lead =>
    simp only [Stage.span, Purpose.span, Errand.span, detour, Stage.trust?]
    omega
  | refuses_batch =>
    simp only [Stage.span, Purpose.span, detour, Stage.trust?]
    omega
  | @looks drone owner last wanted owned _ =>
    have detour : (seek owner (.home drone wanted)).detour fleet = 0 := if_pos owned
    simp only [Stage.span, Purpose.span, detour]
    omega
  | leaves => exact Nat.add_lt_add_right (Nat.lt_succ_self _) _

/-! ### With the detours that it can still be the cause of -/

/-- What a request among `count` has ahead, and what its entry may add to what the others have. -/
def cost (count : Nat) (fleet : Fleet) (stage : Stage) : Nat :=
  stage.span fleet.listed.size + stage.detour fleet + 13 * count * stage.owes

theorem detour_congr {after : Fleet} (owners : after.owners = fleet.owners) (stage : Stage) :
    stage.detour after = stage.detour fleet := by
  have same : after.owner? = fleet.owner? := by
    funext drone
    rw [Fleet.owner?, Fleet.owner?, owners]
  rw [detour, detour, same]

theorem cost_congr {after : Fleet} (owners : after.owners = fleet.owners)
    (listed : after.listed = fleet.listed) (count : Nat) (stage : Stage) :
    stage.cost count after = stage.cost count fleet := by
  rw [cost, cost, detour_congr owners, listed]

theorem Closes.cost (closes : stage.Closes response) (count : Nat) (fleet : Fleet) :
    stage.cost count fleet = stage.holds.length := by
  simp [Stage.cost, closes.span, detour_of_none closes.trust?, closes.owes]

theorem span_mono {more : Nat} (few : listed ≤ more + 1) (stage : Stage) :
    stage.span listed ≤ stage.span more + 3 := by
  induction stage with
  | start request =>
    simp only [span]
    omega
  | survey listing =>
    simp only [span]
    omega
  | record drone owner next ih => exact Nat.succ_le_succ ih
  | withdraw id next ih => exact Nat.succ_le_succ ih
  | leave id next ih => exact Nat.succ_le_succ ih
  | _ => exact Nat.le_add_right _ _

/-- An entry sends a request on at most one detour more, or has it visit one matrix more. -/
theorem cost_write (entry : Entry) (count : Nat) (fleet : Fleet) (stage : Stage) :
    stage.cost count (entry.write fleet) ≤ stage.cost count fleet + 13 := by
  cases entry with
  | publish matrix =>
    have owners : (fleet.publish matrix).owners = fleet.owners := rfl
    have few := span_mono (fleet.listed.size_insert_le matrix.id ()) stage
    have listed : (fleet.publish matrix).listed = fleet.listed.insert matrix.id () := rfl
    simp only [cost, Entry.write, detour_congr owners, listed]
    omega
  | assign drone owner =>
    have listed : (fleet.assign drone owner).listed = fleet.listed := by
      cases owner <;> rfl
    have detours := detour_le (fleet.assign drone owner) stage
    simp only [cost, Entry.write, listed]
    omega
  | withdraw id =>
    have owners : (fleet.withdraw id).owners = fleet.owners := rfl
    have few := span_mono (Nat.le_succ_of_le (fleet.listed.size_erase_le id)) stage
    have listed : (fleet.withdraw id).listed = fleet.listed.erase id := rfl
    simp only [cost, Entry.write, detour_congr owners, listed]
    omega

theorem cost_perform (deed : Deed) (count : Nat) (fleet : Fleet) (stage : Stage) :
    stage.cost count (deed.perform fleet) = stage.cost count fleet := by
  apply cost_congr <;> cases deed <;> rfl

theorem Answers.cost (answers : stage.Answers response) {entry : Entry}
    (pending : stage.pending? = some entry) (count : Nat) (fleet : Fleet) :
    stage.cost count fleet = stage.holds.length + 1 + 13 * count := by
  cases stage with
  | publish matrix => simp [Stage.cost, Stage.span, holds, detour, Stage.trust?, Stage.owes]
  | record drone owner next =>
    have closes : next.Closes response := answers
    simp [Stage.cost, Stage.span, holds, detour, Stage.trust?, Stage.owes, closes.span]
  | withdraw id next =>
    have closes : next.Closes response := answers
    simp [Stage.cost, Stage.span, holds, detour, Stage.trust?, Stage.owes, closes.span]
  | _ => cases pending

theorem Answers.nodup (answers : stage.Answers response) (fits : stage.Fits fleet) :
    stage.holds.Nodup := by
  cases stage with
  | publish matrix => exact List.nodup_nil
  | record drone owner next =>
    have closes : next.Closes response := answers
    exact closes.nodup fits.2.1
  | withdraw id next =>
    have closes : next.Closes response := answers
    exact closes.nodup fits.2.1
  | leave id next =>
    have closes : (leave id next).Closes response := answers
    exact closes.nodup fits
  | done other => exact List.nodup_nil
  | _ => exact answers.elim

theorem Answers.cost_le (answers : next.Answers response) {after : Fleet} (fits : next.Fits after)
    (keeps : ∀ id ∈ next.holds, id ∈ stage.holds) (count : Nat) :
    next.cost count after ≤ stage.holds.length + 1 + 13 * count := by
  have few := (answers.nodup fits).length_le_of_subset keeps
  cases pending : next.pending? with
  | none =>
    rw [(answers.closes pending).cost]
    omega
  | some entry =>
    rw [answers.cost pending]
    omega

theorem Follows.keeps {grounded : Bool} {deed : Deed}
    (follows : Follows grounded request fleet stage (next, deed.perform fleet))
    (entry : next.pending? = deed.entry) : ∀ id ∈ next.holds, id ∈ stage.holds := by
  intro id member
  have claimed := follows.reserves id (reserves_of_holds member)
  cases deed with
  | found matrix =>
    cases next with
    | publish made => cases member
    | _ => cases entry
  | _ => exact claimed.resolve_right fun new => Nat.not_lt_of_le new.2 new.1

theorem Follows.cost {grounded : Bool} {after : Fleet}
    (follows : Follows grounded request fleet stage (next, after)) (serves : stage.Serves request)
    (clear : fleet.Clear stage.holds)
    (known : ∀ drone id, fleet.owner? drone = some id → fleet.listed.contains id = true)
    (count : Nat) : next.cost count after < stage.cost count fleet := by
  have turn : stage.Turn grounded request fleet next after := follows.turn
  have fits : next.Fits after := follows.fits
  have long := serves.span fleet.listed.size
  have pursued : stage.cost count fleet =
      stage.span fleet.listed.size + stage.detour fleet + 13 * count := by
    rw [Stage.cost, serves.owes, Nat.mul_one]
  cases turn with
  | goes goes serves' =>
    have shorter := goes.span clear known
    rw [pursued, Stage.cost, serves'.owes, Nat.mul_one]
    exact Nat.add_lt_add_right shorter _
  | refused closes _ =>
    have few := closes.answers.cost_le fits follows.stays count
    omega
  | told closes _ _ =>
    have few := closes.answers.cost_le fits follows.stays count
    omega
  | does _ entry answers _ _ =>
    have few := answers.cost_le fits (follows.keeps entry) count
    omega
  | @flies matrix plans origin _ _ =>
    have length : stage.span fleet.listed.size = plans.length + 4 := by
      rcases origin with rfl | ⟨drone, rfl⟩ <;> rfl
    simp only [length, Stage.cost, Stage.span, detour, Stage.trust?, Stage.owes]
    omega

end Stage

end DroneFleet
