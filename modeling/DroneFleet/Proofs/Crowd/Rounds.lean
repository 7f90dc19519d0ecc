import DroneFleet.Proofs.Crowd.Steps
import DroneFleet.Proofs.Fleet.Keeping
import DroneFleet.Proofs.Fleet.Trust

/-!
Why a request looks a drone up again. It goes by what it has read in the directory, and nothing but the
end of a move or of a deletion of this very drone makes that untrue (`Orderly.advance_sure`).
-/
namespace DroneFleet.Crowd

variable {crowd : Crowd} {whole : Fleet} {number drone : Nat} {stage next : Stage}
  {request : Request}

def Faithful (crowd : Crowd) : Prop :=
  ∀ number stage request, crowd.stages.get? number = some stage →
    crowd.requests[number]? = some request → stage.Rehomes request

theorem new_faithful (fleet : Fleet) : (new fleet).Faithful := by
  intro number stage request here
  cases here

theorem Orderly.faithful_advance (orderly : crowd.Orderly whole) (faithful : crowd.Faithful)
    (number : Nat) : (crowd.advance number).Faithful := by
  rcases orderly.advance_cases number with
    stuck | ⟨request, stage, next, after, here, asked, _, step, moved, move⟩
  · rw [stuck]
    exact faithful
  · rw [moved]
    intro other found wanted there asked'
    rcases insert_cases there with ⟨rfl, rfl⟩ | ⟨_, old⟩
    · have same : some request = some wanted := asked.symm.trans asked'
      cases same
      cases move with
      | enters => trivial
      | turns serves _ =>
        have came := serves.next_rehomes crowd.grounded orderly.firm
        rwa [step] at came
      | writes _ _ closes _ _ => exact Stage.rehomes_of_quiet closes.pending?
      | leaves _ closes => exact Stage.rehomes_of_quiet closes.pending?
      | flies => trivial
      | lands => trivial
    · exact faithful other found wanted old asked'

theorem Orderly.faithful_submit (orderly : crowd.Orderly whole) (faithful : crowd.Faithful)
    (request : Request) : (crowd.submit request).Faithful := by
  intro number stage wanted there asked
  rcases insert_cases there with ⟨_, rfl⟩ | ⟨_, old⟩
  · trivial
  · obtain ⟨earlier, asked', _⟩ := orderly.belongs number stage old
    have within := (List.getElem?_eq_some_iff.mp asked').1
    have same : crowd.requests[number]? = some wanted := by
      rw [← asked]
      exact (List.getElem?_append_left within).symm
    exact faithful number stage wanted old same

theorem Move.owner? {after : Fleet} (move : Move crowd request stage next after) (drone : Nat) :
    after.owner? drone = crowd.fleet.owner? drone ∨
      stage.pending? = some (.assign drone (after.owner? drone)) := by
  cases move with
  | turns serves follows =>
    have turn : stage.Turn crowd.grounded request crowd.fleet next after := follows.turn
    cases turn with
    | @does _ deed => exact .inl (by cases deed <;> rfl)
    | _ => exact .inl rfl
  | @writes response entry next answers pending closes fits keeps =>
    cases entry with
    | publish matrix => exact .inl rfl
    | assign written owner =>
      by_cases same : drone = written
      · subst same
        right
        rw [pending, Entry.write, Fleet.assign_owner?, if_pos rfl]
      · left
        rw [Entry.write, Fleet.assign_owner?, if_neg same]
    | withdraw id => exact .inl rfl
  | _ => exact .inl rfl

theorem Move.steady {after : Fleet} (move : Move crowd request stage next after)
    (orderly : crowd.Orderly whole) (here : crowd.stages.get? number = some stage)
    (steady : stage.Steady crowd.fleet drone) : next.Steady after drone := by
  cases move with
  | enters same _ _ =>
    subst same
    exact ⟨id, steady.trusts⟩
  | turns serves follows =>
    have turn : stage.Turn crowd.grounded request crowd.fleet next after := follows.turn
    cases turn with
    | goes goes _ =>
      exact goes.steady (orderly.clear here serves.pending?) (fun _ _ => orderly.listed_of_owner)
        steady
    | refused closes _ => exact closes.answers.steady
    | told closes _ _ => exact closes.answers.steady
    | does _ _ answers _ _ => exact answers.steady
    | flies => exact Stage.steady_of_none id rfl
  | writes _ _ closes _ _ => exact closes.answers.steady
  | leaves _ closes => exact closes.answers.steady
  | flies => exact Stage.steady_of_none id rfl
  | lands => exact Stage.steady_of_none id rfl

/-- The request has looked the drone up, if it had to, and goes by what the directory says of it. -/
def Sure (crowd : Crowd) (number drone : Nat) : Prop :=
  ∃ stage, crowd.stages.get? number = some stage ∧ stage.Steady crowd.fleet drone

/-- Whoever takes a step, a request stays sure of its drone unless that step completes a move or a
deletion of the drone. -/
theorem Orderly.advance_sure (orderly : crowd.Orderly whole) (faithful : crowd.Faithful)
    (sure : crowd.Sure number drone) (other : Nat) :
    (crowd.advance other).Sure number drone ∨
    other ≠ number ∧ ∃ found request, crowd.stages.get? other = some found ∧
      crowd.requests[other]? = some request ∧ found.Relocates crowd.fleet request drone := by
  obtain ⟨stage, here, steady⟩ := sure
  rcases orderly.advance_cases other with
    stuck | ⟨request, found, next, after, there, asked, _, _, moved, move⟩
  · rw [stuck]
    exact .inl ⟨stage, here, steady⟩
  · rw [moved]
    by_cases same : other = number
    · subst same
      rw [here] at there
      cases there
      refine .inl ⟨next, ?_, move.steady orderly here steady⟩
      rw [moveTo, Table.get?_insert, if_pos rfl]
    · have stays : ({ crowd with fleet := after }.moveTo other next).stages.get? number =
          some stage := by
        rw [moveTo, Table.get?_insert, if_neg (Ne.symm same), here]
      cases relied : stage.trust? with
      | none => exact .inl ⟨stage, stays, Stage.steady_of_none steady.not_looks relied⟩
      | some pair =>
        obtain ⟨same', id⟩ := pair
        obtain ⟨rfl, known⟩ := steady.trusts same' id relied
        by_cases changed : after.owner? same' = some id
        · refine .inl ⟨stage, stays, steady.not_looks, ?_⟩
          intro wanted id' trusts
          rw [relied] at trusts
          cases trusts
          exact ⟨rfl, changed⟩
        · refine .inr ⟨same, found, request, there, asked, ?_⟩
          have written := (move.owner? same').resolve_left fun old => changed (old.trans known)
          have rehomes := faithful other found request there asked
          have fits := orderly.fits other found there
          cases found with
          | record recorded owner later =>
            cases written
            exact rehomes.relocates fits known changed
          | _ => cases written

theorem look_sure {last : Option Nat} {wanted : Errand}
    (here : crowd.stages.get? number = some (.locate drone last wanted)) :
    (crowd.advance number).Sure number drone := by
  have stays : ∀ {next}, (Stage.locate drone last wanted).next crowd.grounded crowd.fleet =
      (next, crowd.fleet) → next.Steady crowd.fleet drone →
      (crowd.advance number).Sure number drone := by
    intro next step steady
    rw [advance_eq here rfl step]
    refine ⟨next, ?_, steady⟩
    rw [moveTo, Table.get?_insert, if_pos rfl]
  have closed : (Stage.refused (.unknownDrone drone)).Steady crowd.fleet drone :=
    Stage.steady_of_none id rfl
  cases known : crowd.fleet.owner? drone with
  | none => exact stays (by simp only [Stage.next, known]) closed
  | some owner =>
    by_cases missed : last = some owner
    · exact stays (by simp only [Stage.next, known, missed, if_true]) closed
    · have steady : (Stage.seek owner (.home drone wanted)).Steady crowd.fleet drone := by
        refine ⟨id, ?_⟩
        rintro other place ⟨⟩
        exact ⟨rfl, known⟩
      exact stays (by simp only [Stage.next, known, missed, if_false]) steady

/-- A crowd in order, with nothing to be written but what was asked for and no request forgotten. -/
structure Lawful (crowd : Crowd) : Prop where
  orderly : ∃ whole, crowd.Orderly whole
  faithful : crowd.Faithful
  present : ∀ number < crowd.requests.length, ∃ stage, crowd.stages.get? number = some stage

theorem new_lawful {fleet : Fleet} (sound : fleet.Sound) : (new fleet).Lawful :=
  ⟨⟨fleet, new_orderly sound⟩, new_faithful fleet, fun _ below => absurd below (Nat.not_lt_zero _)⟩

theorem Lawful.advance (lawful : crowd.Lawful) (number : Nat) : (crowd.advance number).Lawful := by
  obtain ⟨whole, orderly⟩ := lawful.orderly
  refine ⟨orderly.advance number, orderly.faithful_advance lawful.faithful number, ?_⟩
  intro other below
  rw [advance_requests] at below
  obtain ⟨stage, here⟩ := lawful.present other below
  exact orderly.step_here here (.advance number)

theorem Lawful.submit (lawful : crowd.Lawful) (request : Request) :
    (crowd.submit request).Lawful := by
  obtain ⟨whole, orderly⟩ := lawful.orderly
  refine ⟨⟨whole, orderly.submit request⟩, orderly.faithful_submit lawful.faithful request, ?_⟩
  intro other below
  by_cases earlier : other < crowd.requests.length
  · obtain ⟨stage, here⟩ := lawful.present other earlier
    exact orderly.step_here here (.submit request)
  · have last : other = crowd.requests.length := by
      simp only [Crowd.submit, List.length_append, List.length_singleton] at below
      omega
    refine ⟨.start request, ?_⟩
    rw [Crowd.submit, moveTo, Table.get?_insert, if_pos last]

theorem Lawful.hold (lawful : crowd.Lawful) (id : Nat) : (crowd.hold id).Lawful := by
  obtain ⟨whole, orderly⟩ := lawful.orderly
  refine ⟨⟨whole, orderly.hold id⟩, ?_, ?_⟩ <;> rw [Crowd.hold] <;> split
  · exact lawful.faithful
  · exact lawful.faithful
  · exact lawful.present
  · exact lawful.present

theorem Lawful.release (lawful : crowd.Lawful) (id : Nat) : (crowd.release id).Lawful := by
  obtain ⟨whole, orderly⟩ := lawful.orderly
  exact ⟨⟨whole, orderly.release id⟩, lawful.faithful, lawful.present⟩

theorem Lawful.ground (lawful : crowd.Lawful) : { crowd with grounded := true }.Lawful := by
  obtain ⟨whole, orderly⟩ := lawful.orderly
  exact ⟨⟨whole, { orderly with }⟩, lawful.faithful, lawful.present⟩

end DroneFleet.Crowd
