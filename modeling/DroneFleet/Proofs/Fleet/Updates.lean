import DroneFleet.Proofs.Fleet.Reasons
import DroneFleet.Proofs.Fleet.Records
import DroneFleet.Proofs.Matrix.Courses

/-!
Changes to one drone. They are carried out on the matrix that has the drone, or by taking the drone off
that matrix and placing it on another one. Either way a place is checked and then the record is written
with what is given in place of what was there (`on_revise`, `on_transfer`), so one rule holds for both
(`dispatch_update`).
-/
namespace DroneFleet

namespace DroneChanges

def applied (changes : DroneChanges) (drone : Drone) : Drone :=
  ⟨drone.id, changes.name.getD drone.name, changes.model.getD drone.model,
    changes.relocated drone.pose, changes.matrixId.getD drone.matrixId⟩

theorem relocated_of_stays {changes : DroneChanges} (stays : changes.relocates = false)
    (pose : Pose) : changes.relocated pose = pose := by
  obtain ⟨name, model, x, y, orientation, matrixId⟩ := changes
  simp only [relocates, Bool.or_eq_false_iff, Option.isSome_eq_false_iff, Option.isNone_iff_eq_none]
    at stays
  obtain ⟨⟨⟨rfl, rfl⟩, rfl⟩, rfl⟩ := stays
  rfl

end DroneChanges

/-! ### What may be wrong -/

inductive Unhoused (fleet : Fleet) (id : Nat) : Reason
  | drone (nowhere : ∀ home, ¬ fleet.Houses home id) : Unhoused fleet id (.unknownDrone id)

inductive Unbound (fleet : Fleet) (changes : DroneChanges) : Reason
  | matrix {home : Nat} (given : changes.matrixId = some home)
      (missing : fleet.matrix? home = none) : Unbound fleet changes (.unknownMatrix home)

inductive Outside (fleet : Fleet) (id : Nat) (changes : DroneChanges) : Reason
  | grid {old new : Drone} {target : Matrix} (known : fleet.drone? id = some old)
      (asked : changes.applied old = new) (found : fleet.matrix? new.matrixId = some target)
      (beyond : target.bounds.maxX < new.pose.x ∨ target.bounds.maxY < new.pose.y) :
      Outside fleet id changes
        (.invalidPlacement new.pose.x new.pose.y target.bounds.maxX target.bounds.maxY)

inductive Taken (fleet : Fleet) (id : Nat) (changes : DroneChanges) : Reason
  | place {old new other : Drone} (known : fleet.drone? id = some old)
      (asked : changes.applied old = new) (standing : fleet.drone? other.id = some other)
      (apart : other.id ≠ id) (home : other.matrixId = new.matrixId)
      (there : other.pose.cell = new.pose.cell) :
      Taken fleet id changes (.positionOccupied new.pose.x new.pose.y other.id)

/-- All that may be wrong with changes to a drone, in the order in which it counts. -/
def obstacles (fleet : Fleet) (id : Nat) (changes : DroneChanges) : List Reason :=
  [Unhoused fleet id, Unbound fleet changes, Outside fleet id changes, Taken fleet id changes]

namespace Matrix

variable {matrix : Matrix}

theorem checkPlacement_error_iff {pose : Pose} {ignoring : Option Nat} {refusal : Refusal} :
    matrix.checkPlacement pose ignoring = .error refusal ↔
      matrix.bounds.contains pose.cell = false ∧ refusal =
        .invalidPlacement pose.x pose.y matrix.bounds.maxX matrix.bounds.maxY ∨
      matrix.bounds.contains pose.cell = true ∧ ∃ other,
        matrix.occupant? pose.cell ignoring = some other ∧
          refusal = .positionOccupied pose.x pose.y other := by
  cases within : matrix.bounds.contains pose.cell with
  | false =>
    simp only [checkPlacement, Bounds.check, within, bind, Except.bind, Bool.false_eq_true, if_false,
      Except.error.injEq, true_and, false_and, or_false]
    exact eq_comm
  | true =>
    cases standing : matrix.occupant? pose.cell ignoring with
    | none => simp [checkPlacement, Bounds.check, within, standing, bind, Except.bind]
    | some other =>
      simp only [checkPlacement, Bounds.check, within, standing, bind, Except.bind, if_true,
        Except.error.injEq, Bool.true_eq_false, false_and, false_or, true_and, Option.some.injEq,
        exists_eq_left']
      exact eq_comm

theorem contains_eq_false_iff {bounds : Bounds} {pose : Pose} :
    bounds.contains pose.cell = false ↔ bounds.maxX < pose.x ∨ bounds.maxY < pose.y := by
  rw [Bounds.contains, Bool.and_eq_false_iff, decide_eq_false_iff_not, decide_eq_false_iff_not,
    UInt32.not_le, UInt32.not_le]
  rfl

theorem checkPlacement_absent (sound : matrix.Sound) {id : Nat} (absent : matrix.owns id = false)
    (pose : Pose) : matrix.checkPlacement pose none = matrix.checkPlacement pose (some id) := by
  have same : matrix.occupant? pose.cell none = matrix.occupant? pose.cell (some id) := by
    apply Option.ext
    intro other
    simp only [occupant?_eq_some_iff sound, ne_eq, reduceCtorEq, not_false_eq_true, true_and,
      Option.some.injEq]
    refine ⟨fun ⟨drone, present, there⟩ => ⟨?_, drone, present, there⟩, fun ⟨_, stands⟩ => stands⟩
    rintro rfl
    rw [owns_eq_false_iff.mp absent] at present
    cases present
  simp only [checkPlacement, same]

theorem replaced_replaced (matrix : Matrix) {first second third : Drone} (same : second.id = first.id)
    (same' : third.id = first.id) (place : third.pose.cell = second.pose.cell) :
    (matrix.replaced first second).replaced second third = matrix.replaced first third := by
  simp only [replaced, joined, without, same, same', place, Table.insert_erase, Table.insert_insert]

end Matrix

/-! ### One check and the writes after it -/

namespace Handling

variable {fleet : Fleet} {matrix source target : Matrix} {id : Nat} {old : Drone}
  {changes : DroneChanges}

theorem Heeds.congr {α : Type} {work other : Handling α} {reasons : List Reason}
    {good : α → Fleet → Prop} (same : work.on fleet = other.on fleet)
    (heeds : other.Heeds fleet reasons good) : work.Heeds fleet reasons good where
  refused refusal foremost := same.trans (heeds.refused refusal foremost)
  granted clear := same ▸ heeds.granted clear

theorem Heeds.imp {α : Type} {work : Handling α} {reasons : List Reason}
    {good better : α → Fleet → Prop} (heeds : work.Heeds fleet reasons good)
    (implies : ∀ value after, good value after → better value after) :
    work.Heeds fleet reasons better where
  refused := heeds.refused
  granted clear := by
    obtain ⟨value, after, done, kept⟩ := heeds.granted clear
    exact ⟨value, after, done, implies value after kept⟩

theorem Heeds.pass {α : Type} {work : Handling α} {reason : Reason} {reasons : List Reason}
    {good : α → Fleet → Prop} (never : ∀ refusal, ¬ reason refusal)
    (heeds : work.Heeds fleet reasons good) : work.Heeds fleet (reason :: reasons) good where
  refused refusal foremost := heeds.refused refusal
    (foremost.resolve_left (never refusal)).2
  granted clear := heeds.granted fun refusal foremost => clear refusal (.inr ⟨never, foremost⟩)

/-- The first of the two writes made in place. A drone that does not move passes the check, because it
stands where it stood. -/
theorem relocate_eq (sound : matrix.Sound) (present : matrix.drone? old.id = some old)
    (changes : DroneChanges) :
    (if changes.relocates then matrix.commitPose old.id (changes.relocated old.pose)
      else .ok matrix) =
    (matrix.checkPlacement (changes.relocated old.pose) (some old.id)).map fun _ =>
      matrix.replaced old { old with pose := changes.relocated old.pose } := by
  cases relocates : changes.relocates with
  | true => exact Matrix.commitPose_eq sound present _
  | false =>
    have pose := DroneChanges.relocated_of_stays relocates old.pose
    rw [pose, Matrix.own_place sound present rfl, Matrix.replaced_eq_moved,
      Matrix.moved_self sound present]
    rfl

theorem on_revise (sound : matrix.Sound) (present : matrix.drone? old.id = some old)
    (stays : changes.matrixId.getD matrix.id = matrix.id) :
    (revise matrix old.id changes).on fleet = (do
      matrix.checkPlacement (changes.applied old).pose (some old.id)
      store (matrix.replaced old (changes.applied old))
      return changes.applied old : Handling Drone).on fleet := by
  have home := (sound.named old.id old present).2
  have pose : (changes.applied old).pose = changes.relocated old.pose := rfl
  have steps : (revise matrix old.id changes).on fleet = (do
      let moved ← (if changes.relocates then matrix.commitPose old.id (changes.relocated old.pose)
        else .ok matrix : Except Refusal Matrix)
      store moved
      let renamed ← moved.rename old.id changes.name changes.model
      store renamed
      record renamed old.id : Handling Drone).on fleet := by
    cases relocates : changes.relocates <;>
      simp only [revise, on_bind, on_record present, relocates, if_true, Bool.false_eq_true, if_false,
        on_lift, on_pure]
  rw [steps, relocate_eq sound present changes, pose]
  cases checked : matrix.checkPlacement (changes.relocated old.pose) (some old.id) with
  | error refusal => simp only [on_bind, on_lift, Except.map]
  | ok _ =>
    -- The drone as it is between the two writes. It already stands where it will, so that the second
    -- write has nothing left to check.
    generalize moved : ({ old with pose := changes.relocated old.pose } : Drone) = between
    have same : between.id = old.id := moved ▸ rfl
    have betweenSound := Matrix.replaced_sound sound present same (moved ▸ rfl) (moved ▸ checked)
    have betweenPresent : (matrix.replaced old between).drone? old.id = some between := by
      rw [Matrix.replaced_drone? matrix same, if_pos rfl]
    have renamed := Matrix.rename_eq betweenSound betweenPresent changes.name changes.model
    have asked : changes.applied old = { between with
        name := changes.name.getD between.name, model := changes.model.getD between.model } := by
      rw [DroneChanges.applied, home, stays, ← moved, home]
    have second : (matrix.replaced old between).replaced between (changes.applied old) =
        matrix.replaced old (changes.applied old) :=
      Matrix.replaced_replaced matrix same rfl (by rw [asked])
    rw [← asked, second] at renamed
    have final : (matrix.replaced old (changes.applied old)).drone? old.id =
        some (changes.applied old) := by
      rw [Matrix.replaced_drone? matrix (show (changes.applied old).id = old.id from rfl), if_pos rfl]
    simp only [on_bind, on_lift, Except.map, on_store, renamed, on_record final, on_pure]
    rw [Fleet.store_store]
    rfl

theorem on_transfer (sound : source.Sound) (present : source.drone? old.id = some old)
    (absent : target.owns old.id = false) (goes : changes.matrixId = some target.id) :
    (transfer source target old.id changes).on fleet = (do
      target.checkPlacement (changes.applied old).pose none
      store (source.without old)
      store (target.joined (changes.applied old))
      return changes.applied old : Handling Drone).on fleet := by
  have asked : changes.applied old = ⟨old.id, changes.name.getD old.name,
      changes.model.getD old.model, changes.relocated old.pose, target.id⟩ := by
    rw [DroneChanges.applied, goes, Option.getD_some]
  have final : (target.joined (changes.applied old)).drone? old.id = some (changes.applied old) := by
    rw [Matrix.joined_drone?, asked, if_pos rfl]
  have pose : (changes.applied old).pose = changes.relocated old.pose := rfl
  rw [pose]
  cases checked : target.checkPlacement (changes.relocated old.pose) none with
  | error refusal => simp only [transfer, on_bind, on_record present, on_lift, checked]
  | ok _ =>
    have placed := Matrix.place_eq (changes.name.getD old.name) (changes.model.getD old.model)
      (changes.relocated old.pose) absent
    rw [checked, ← asked] at placed
    simp only [transfer, on_bind, on_record present, on_lift, checked, Matrix.remove?_eq sound,
      present, Option.map_some, on_store, placed, Except.map, on_record final, on_pure]

/-! ### The four checks -/

theorem outside_iff (known : fleet.drone? old.id = some old)
    (found : fleet.matrix? (changes.applied old).matrixId = some target) {refusal : Refusal} :
    Outside fleet old.id changes refusal ↔
      target.bounds.contains (changes.applied old).pose.cell = false ∧
        refusal = .invalidPlacement (changes.applied old).pose.x (changes.applied old).pose.y
          target.bounds.maxX target.bounds.maxY := by
  rw [Matrix.contains_eq_false_iff]
  constructor
  · rintro ⟨known', rfl, found', beyond⟩
    obtain rfl := Option.some.inj (known.symm.trans known')
    obtain rfl := Option.some.inj (found.symm.trans found')
    exact ⟨beyond, rfl⟩
  · rintro ⟨beyond, rfl⟩
    exact .grid known rfl found beyond

theorem taken_iff (sound : fleet.Sound) (known : fleet.drone? old.id = some old)
    (found : fleet.matrix? (changes.applied old).matrixId = some target) {refusal : Refusal} :
    Taken fleet old.id changes refusal ↔ ∃ other,
      target.occupant? (changes.applied old).pose.cell (some old.id) = some other ∧
        refusal =
          .positionOccupied (changes.applied old).pose.x (changes.applied old).pose.y other := by
  have standing := Fleet.standing_of_matrix? found
  obtain ⟨number, targetSound⟩ := sound.standing standing
  simp only [Matrix.occupant?_eq_some_iff targetSound]
  constructor
  · rintro ⟨known', rfl, known'', apart, home, there⟩
    obtain rfl := Option.some.inj (known.symm.trans known')
    obtain ⟨_, matrix, standing', present, same⟩ := sound.aboard known''
    rw [← same, home, standing] at standing'
    obtain rfl := Option.some.inj standing'
    exact ⟨_, ⟨fun same => apart (Option.some.inj same), _, present, there⟩, rfl⟩
  · rintro ⟨other, ⟨apart, drone, present, there⟩, rfl⟩
    obtain ⟨rfl, home⟩ := targetSound.named other drone present
    have known' := sound.recorded (number.symm ▸ standing) present
    exact .place known rfl known' (fun same => apart (congrArg some same)) (home.trans number) there

theorem placement_judged (sound : fleet.Sound) (known : fleet.drone? old.id = some old)
    (found : fleet.matrix? (changes.applied old).matrixId = some target) {refusal : Refusal} :
    target.checkPlacement (changes.applied old).pose (some old.id) = .error refusal ↔
      Foremost [Outside fleet old.id changes, Taken fleet old.id changes] refusal := by
  simp only [Foremost, and_false, or_false, Matrix.checkPlacement_error_iff,
    outside_iff known found, taken_iff sound known found]
  cases target.bounds.contains (changes.applied old).pose.cell <;> simp

end Handling

namespace Fleet

inductive Updated (fleet : Fleet) (old new : Drone) : Fleet → Prop
  | stayed {matrix : Matrix} (standing : fleet.standing? matrix.id = some matrix)
      (present : matrix.drone? old.id = some old) (home : new.matrixId = matrix.id) :
      Updated fleet old new (fleet.store (matrix.replaced old new))
  | went {source target : Matrix} (standing : fleet.standing? source.id = some source)
      (present : source.drone? old.id = some old)
      (standing' : fleet.standing? target.id = some target) (apart : target.id ≠ source.id)
      (home : new.matrixId = target.id) :
      Updated fleet old new
        (((fleet.store (source.without old)).store (target.joined new)).assign old.id
          (some target.id))

variable {fleet after : Fleet} {old new : Drone}

theorem Updated.owner? (updated : fleet.Updated old new after) (sound : fleet.Sound) (id : Nat) :
    after.owner? id = if id = old.id then some new.matrixId else fleet.owner? id := by
  cases updated with
  | @stayed matrix standing present home =>
    rw [store_owner?]
    split
    · rename_i here
      rw [here, home, sound.owned standing (Matrix.owns_iff.mpr ⟨old, present⟩)]
    · rfl
  | went standing present standing' apart home => rw [assign_owner?, home]; rfl

theorem Updated.drone? (updated : fleet.Updated old new after) (sound : fleet.Sound)
    (same : new.id = old.id) (id : Nat) :
    after.drone? id = if id = old.id then some new else fleet.drone? id := by
  cases updated with
  | @stayed matrix standing present home =>
    have found := sound.matrix? standing
    have written : (matrix.replaced old new).id = matrix.id := rfl
    have seen := Matrix.replaced_drone? matrix same id
    by_cases here : id = old.id
    · subst here
      rw [if_pos rfl, sound.stored_drone? standing written (Matrix.owns_iff.mpr ⟨old, present⟩), seen,
        if_pos rfl]
    · rw [if_neg here] at seen ⊢
      exact store_keeps found written seen
  | @went source target standing present standing' apart home =>
    have found := sound.matrix? standing
    have left : (source.without old).id = source.id := rfl
    have joined : (target.joined new).id = target.id := rfl
    have found' : (fleet.store (source.without old)).matrix? target.id = some target := by
      rw [store_matrix? found left, if_neg apart, sound.matrix? standing']
    have gone := Matrix.without_drone? source old id
    have seen := Matrix.joined_drone? target new id
    rw [same] at seen
    rw [assign_drone?]
    by_cases here : id = old.id
    · rw [if_pos here] at seen ⊢
      rw [if_pos here, Option.bind_some, store_matrix? found' joined, if_pos rfl, Option.bind_some, seen]
    · rw [if_neg here] at seen gone
      rw [if_neg here, if_neg here, store_keeps found' joined seen, store_keeps found left gone]

end Fleet

namespace Handling

variable {fleet : Fleet}

theorem home_heeds (sound : fleet.Sound) (id : Nat) :
    (home id).Heeds fleet [Unhoused fleet id] fun source after => after = fleet ∧
      fleet.standing? source.id = some source ∧ ∃ old, source.drone? id = some old := by
  apply Heeds.check
  · rintro _ ⟨nowhere⟩
    exact on_home_unowned (sound.nowhere.mp nowhere)
  · cases known : fleet.owner? id with
    | none => exact .inl ⟨_, .drone (sound.nowhere.mpr known)⟩
    | some owner =>
      obtain ⟨source, standing, _, aboard⟩ := sound.housed known
      exact .inr ⟨source, fleet, on_home sound standing aboard, rfl, standing,
        Matrix.owns_iff.mp aboard⟩

theorem seek_heeds (sound : fleet.Sound) {changes : DroneChanges} {there : Nat}
    (given : changes.matrixId = some there) :
    (seek there).Heeds fleet [Unbound fleet changes] fun target after =>
      after = fleet ∧ target.id = there ∧ fleet.standing? target.id = some target := by
  apply Heeds.check
  · rintro _ ⟨given', missing⟩
    obtain rfl := Option.some.inj (given.symm.trans given')
    exact on_seek_missing missing
  · cases found : fleet.matrix? there with
    | none => exact .inl ⟨_, .matrix given found⟩
    | some target =>
      have standing := Fleet.standing_of_matrix? found
      obtain rfl := (sound.standing standing).1
      exact .inr ⟨target, fleet, on_seek sound standing, rfl, rfl, standing⟩

variable {source target : Matrix} {old : Drone} {changes : DroneChanges}

theorem revise_heeds (sound : fleet.Sound) (standing : fleet.standing? source.id = some source)
    (present : source.drone? old.id = some old)
    (stays : changes.matrixId.getD source.id = source.id) :
    (revise source old.id changes).Heeds fleet
      [Unbound fleet changes, Outside fleet old.id changes, Taken fleet old.id changes]
      fun drone after => drone = changes.applied old ∧
        fleet.Updated old (changes.applied old) after := by
  have sourceSound := (sound.standing standing).2
  have home : (changes.applied old).matrixId = source.id := by
    rw [DroneChanges.applied, (sourceSound.named old.id old present).2, stays]
  have found : fleet.matrix? (changes.applied old).matrixId = some source :=
    home ▸ sound.matrix? standing
  have bound : ∀ refusal, ¬ Unbound fleet changes refusal := by
    rintro _ ⟨given, missing⟩
    rw [DroneChanges.applied, given, Option.getD_some, missing] at found
    cases found
  refine .pass bound (.congr (on_revise sourceSound present stays) ?_)
  refine (Heeds.lift (fun _ => ?_) fleet).finish ?_
  · exact placement_judged sound (sound.recorded standing present) found
  · rintro _ _ ⟨rfl, _⟩
    exact ⟨_, _, rfl, rfl, .stayed standing present home⟩

theorem transfer_heeds (sound : fleet.Sound) (standing : fleet.standing? source.id = some source)
    (present : source.drone? old.id = some old) (standing' : fleet.standing? target.id = some target)
    (given : changes.matrixId = some target.id) (apart : target.id ≠ source.id) :
    (transfer source target old.id changes).Heeds fleet
      [Outside fleet old.id changes, Taken fleet old.id changes]
      fun drone after => drone = changes.applied old ∧
        fleet.Updated old (changes.applied old) (after.assign old.id (some target.id)) := by
  have home : (changes.applied old).matrixId = target.id := by
    rw [DroneChanges.applied, given, Option.getD_some]
  have found : fleet.matrix? (changes.applied old).matrixId = some target :=
    home ▸ sound.matrix? standing'
  have absent : target.owns old.id = false := by
    refine Bool.eq_false_iff.mpr fun inside => apart ?_
    exact sound.single _ _ _ ((Fleet.standing_houses standing').mpr inside)
      ((Fleet.standing_houses standing).mpr (Matrix.owns_iff.mpr ⟨old, present⟩))
  refine .congr (on_transfer (sound.standing standing).2 present absent given) ?_
  rw [Matrix.checkPlacement_absent (sound.standing standing').2 absent]
  refine (Heeds.lift (fun _ => ?_) fleet).finish ?_
  · exact placement_judged sound (sound.recorded standing present) found
  · rintro _ _ ⟨rfl, _⟩
    exact ⟨_, _, rfl, rfl, .went standing present standing' apart home⟩

theorem update_heeds (sound : fleet.Sound) (id : Nat) (changes : DroneChanges) :
    (update id changes).Heeds fleet (obstacles fleet id changes) fun drone after =>
      ∃ old, fleet.drone? id = some old ∧ drone = changes.applied old ∧
        fleet.Updated old (changes.applied old) after := by
  refine (home_heeds sound id).bind fun source ⟨standing, old, present⟩ => ?_
  have known := sound.recorded standing present
  obtain ⟨rfl, _⟩ := (sound.standing standing).2.named id old present
  dsimp only
  split
  · rename_i stays
    exact (revise_heeds sound standing present stays).imp fun _ _ ⟨same, updated⟩ =>
      ⟨old, known, same, updated⟩
  · rename_i goes
    obtain ⟨there, given⟩ : ∃ there, changes.matrixId = some there := by
      refine Option.ne_none_iff_exists'.mp fun stays => goes ?_
      rw [stays, Option.getD_none]
    rw [given, Option.getD_some] at goes ⊢
    refine (seek_heeds sound given).bind fun target ⟨name, standing'⟩ => ?_
    subst name
    refine (transfer_heeds sound standing present standing' given goes).finish ?_
    rintro _ after ⟨rfl, updated⟩
    exact ⟨_, _, rfl, old, known, rfl, updated⟩

/-- To name the matrix that has the drone is to name none. -/
theorem on_update_home (sound : fleet.Sound) {home id : Nat} (housed : fleet.Houses home id)
    (changes : DroneChanges) :
    (update id { changes with matrixId := some home }).on fleet =
      (update id { changes with matrixId := none }).on fleet := by
  obtain ⟨source, standing, aboard⟩ := sound.standing_of_houses housed
  obtain ⟨rfl, sourceSound⟩ := sound.standing standing
  obtain ⟨old, present⟩ := Matrix.owns_iff.mp aboard
  obtain ⟨rfl, there⟩ := sourceSound.named id old present
  have found := on_home sound standing aboard
  have applied : DroneChanges.applied { changes with matrixId := some source.id } old =
      DroneChanges.applied { changes with matrixId := none } old := by
    simp only [DroneChanges.applied, there, Option.getD_some, Option.getD_none]
    rfl
  rw [update, update, on_ok found, on_ok found]
  simp only [Option.getD_some, Option.getD_none, if_true]
  rw [on_revise sourceSound present rfl, on_revise sourceSound present rfl, applied]

end Handling

open Handling

namespace Fleet

variable {fleet : Fleet}

def Changed (fleet : Fleet) (id : Nat) (changes : DroneChanges) (response : Response)
    (after : Fleet) : Prop :=
  ∃ old, fleet.drone? id = some old ∧ response = .drone (changes.applied old) ∧
    fleet.Updated old (changes.applied old) after

theorem updateDrone_heeds (sound : fleet.Sound) (grounded : Bool) (id : Nat)
    (changes : DroneChanges) :
    ((Request.updateDrone id changes).handle grounded).Heeds fleet (obstacles fleet id changes)
      (fleet.Changed id changes) := by
  refine (update_heeds sound id changes).finish ?_
  rintro _ after ⟨old, known, rfl, updated⟩
  exact ⟨_, _, rfl, old, known, rfl, updated⟩

theorem update_refuses (sound : fleet.Sound) (grounded : Bool) {id : Nat} {changes : DroneChanges}
    {refusal : Refusal} (foremost : Foremost (obstacles fleet id changes) refusal) :
    fleet.dispatch grounded (.updateDrone id changes) = (.ofRefusal refusal, fleet) :=
  dispatch_error ((updateDrone_heeds sound grounded id changes).refused refusal foremost)

theorem update_changed (sound : fleet.Sound) (grounded : Bool) {id : Nat} {changes : DroneChanges}
    (clear : ∀ refusal, ¬ Foremost (obstacles fleet id changes) refusal) :
    fleet.Changed id changes (fleet.dispatch grounded (.updateDrone id changes)).1
      (fleet.dispatch grounded (.updateDrone id changes)).2 := by
  obtain ⟨response, after, done, changed⟩ :=
    (updateDrone_heeds sound grounded id changes).granted clear
  rwa [dispatch_eq done]

/-- Nothing can be wrong with a new name or model, since the drone stands where it stood. -/
theorem rename_clear (sound : fleet.Sound) {home id : Nat} (housed : fleet.Houses home id)
    (name model : Option String) (refusal : Refusal) :
    ¬ Foremost (obstacles fleet id ⟨name, model, none, none, none, none⟩) refusal := by
  obtain ⟨old, known, _⟩ := sound.houses_iff.mp housed
  obtain ⟨rfl, matrix, standing, present, there⟩ := sound.aboard known
  have found : fleet.matrix? old.matrixId = some matrix := there ▸ sound.matrix? standing
  have free := Matrix.own_place (sound.standing standing).2 present (rfl : old.pose.cell = old.pose.cell)
  rintro (⟨⟨nowhere⟩⟩ | ⟨_, ⟨⟨⟨⟩, _⟩⟩ | ⟨_, foremost⟩⟩)
  · exact nowhere home housed
  · have failed := (@placement_judged fleet matrix old ⟨name, model, none, none, none, none⟩ sound known
      found refusal).mpr foremost
    cases failed.symm.trans free

theorem Updated.vacates {after : Fleet} {old new : Drone} (updated : fleet.Updated old new after)
    (sound : fleet.Sound) (sound' : after.Sound) (known : fleet.drone? old.id = some old)
    (same : new.id = old.id)
    (elsewhere : new.matrixId ≠ old.matrixId ∨ new.pose.cell ≠ old.pose.cell) :
    ∃ left, after.matrix? old.matrixId = some left ∧ left.occupant? old.pose.cell none = none := by
  obtain ⟨left, standing⟩ : ∃ left, after.standing? old.matrixId = some left := by
    obtain ⟨_, source, standing, present, there⟩ := sound.aboard known
    rw [there]
    cases updated with
    | @stayed matrix standing' present' home =>
      rw [store_standing?]
      split
      · exact ⟨_, rfl⟩
      · exact ⟨_, standing⟩
    | went standing' present' standing'' apart home =>
      rw [assign_standing?, store_standing?, store_standing?]
      split
      · exact ⟨_, rfl⟩
      · split
        · exact ⟨_, rfl⟩
        · exact ⟨_, standing⟩
  obtain ⟨number, leftSound⟩ := sound'.standing standing
  refine ⟨left, sound'.matrix? standing, Option.eq_none_iff_forall_ne_some.mpr ?_⟩
  intro other occupied
  obtain ⟨_, drone, present, stands⟩ := (Matrix.occupant?_eq_some_iff leftSound).mp occupied
  obtain ⟨rfl, home⟩ := leftSound.named other drone present
  have seen := sound'.recorded (number.symm ▸ standing) present
  rw [updated.drone? sound same] at seen
  split at seen
  · obtain rfl := Option.some.inj seen
    exact elsewhere.elim (fun moved => moved (home.trans number)) fun moved => moved stands
  · rename_i other
    obtain rfl := sound.apart known seen (home.trans number) stands
    exact other rfl

theorem Changed.settled {after : Fleet} {id : Nat} {changes : DroneChanges} {response : Response}
    (changed : fleet.Changed id changes response after) (sound : fleet.Sound) (sound' : after.Sound) :
    ∃ old new, fleet.drone? id = some old ∧ new = changes.applied old ∧ response = .drone new ∧
      after.drone? id = some new ∧ after.owner? id = some new.matrixId ∧
      (∀ home, after.Houses home id ↔ home = new.matrixId) ∧
      (new.matrixId ≠ old.matrixId ∨ new.pose.cell ≠ old.pose.cell →
        ∃ left, after.matrix? old.matrixId = some left ∧
          left.occupant? old.pose.cell none = none) := by
  obtain ⟨old, known, told, updated⟩ := changed
  obtain ⟨rfl, _⟩ := sound.aboard known
  have seen := updated.drone? sound rfl old.id
  have owned := updated.owner? sound old.id
  rw [if_pos rfl] at seen owned
  refine ⟨old, _, known, rfl, told, seen, owned, fun home => ?_, updated.vacates sound sound' known rfl⟩
  rw [← sound'.directory, owned, Option.some.injEq, eq_comm]

theorem update_home (sound : fleet.Sound) (grounded : Bool) {home id : Nat}
    (housed : fleet.Houses home id) (changes : DroneChanges) :
    fleet.dispatch grounded (.updateDrone id { changes with matrixId := some home }) =
      fleet.dispatch grounded (.updateDrone id { changes with matrixId := none }) := by
  have same := on_update_home sound housed changes
  have handled (request : Request) : fleet.dispatch grounded request =
    (.ofResult ((request.handle grounded).on fleet).1, ((request.handle grounded).on fleet).2) := rfl
  rw [handled, handled]
  simp only [Request.handle, on_bind, same]

/-- Changes to a drone are refused just if something is wrong with them, with the refusal of the first
reason that holds, and nothing has changed then; with a new name or model alone nothing is wrong. In
every other case the answer is the record with what is given in place of what was there. The drone is
then on the matrix that this names and on no other one, and the place that it has left is free. It is
all the same whether its own matrix is given or none. -/
theorem dispatch_update {start : Fleet} (sound : start.Sound) (calls : List (Bool × Request))
    (grounded : Bool) (id : Nat) (changes : DroneChanges) :
    let fleet := start.serve calls
    let (response, after) := fleet.dispatch grounded (.updateDrone id changes)
    (response.isError = true ↔ ∃ refusal, Foremost (obstacles fleet id changes) refusal) ∧
    (∀ refusal, Foremost (obstacles fleet id changes) refusal →
      (response, after) = (.ofRefusal refusal, fleet)) ∧
    (∀ home, fleet.Houses home id → ∀ name model, (fleet.dispatch grounded
      (.updateDrone id ⟨name, model, none, none, none, none⟩)).1.isError = false) ∧
    (response.isError = false → ∃ old new, fleet.drone? id = some old ∧
      new = changes.applied old ∧ response = .drone new ∧ after.drone? id = some new ∧
      after.owner? id = some new.matrixId ∧
      (∀ home, after.Houses home id ↔ home = new.matrixId) ∧
      (new.matrixId ≠ old.matrixId ∨ new.pose.cell ≠ old.pose.cell →
        ∃ left, after.matrix? old.matrixId = some left ∧ left.occupant? old.pose.cell none = none)) ∧
    ∀ home, fleet.Houses home id →
      fleet.dispatch grounded (.updateDrone id { changes with matrixId := some home }) =
        fleet.dispatch grounded (.updateDrone id { changes with matrixId := none }) := by
  intro fleet
  have whole : fleet.Sound := serve_sound sound calls
  have kept := dispatch_sound whole grounded (.updateDrone id changes)
  have refuses : ∀ refusal, Foremost (obstacles fleet id changes) refusal →
      fleet.dispatch grounded (.updateDrone id changes) = (.ofRefusal refusal, fleet) :=
    fun refusal => update_refuses whole grounded
  have grants : (∀ refusal, ¬ Foremost (obstacles fleet id changes) refusal) → fleet.Changed id changes
      (fleet.dispatch grounded (.updateDrone id changes)).1
      (fleet.dispatch grounded (.updateDrone id changes)).2 := update_changed whole grounded
  generalize fleet.dispatch grounded (.updateDrone id changes) = told at kept refuses grants
  obtain ⟨response, after⟩ := told
  refine ⟨⟨fun refused => ?_, fun ⟨refusal, foremost⟩ => ?_⟩, refuses, fun home housed name model => ?_,
    fun granted => ?_, fun home housed => update_home whole grounded housed changes⟩
  · refine Classical.byContradiction fun clear => ?_
    obtain ⟨old, _, rfl, _⟩ := grants (not_exists.mp clear)
    cases refused
  · cases refuses refusal foremost
    rfl
  · obtain ⟨old, _, told, _⟩ := update_changed whole grounded (rename_clear whole housed name model)
    rw [told]
    rfl
  · have clear : ∀ refusal, ¬ Foremost (obstacles fleet id changes) refusal := by
      intro refusal foremost
      cases refuses refusal foremost
      cases granted
    exact (grants clear).settled whole kept

/-- One of the drones of `corners` goes to a free place beside the other one. -/
def visiting : DroneChanges := ⟨none, some "guest", some 1, none, none, some 2⟩

theorem dispatch_update_visiting :
    empty.Sound ∧ ∃ after,
      (empty.serve corners).dispatch false (.updateDrone 1 visiting) =
        (.drone ⟨1, "", "guest", ⟨1, 0, .north⟩, 2⟩, after) ∧
      after.drone? 1 = some ⟨1, "", "guest", ⟨1, 0, .north⟩, 2⟩ ∧
      (∀ home, after.Houses home 1 ↔ home = 2) ∧
      ∃ left, after.matrix? 1 = some left ∧ left.occupant? ⟨0, 0⟩ none = none := by
  have granted : ((empty.serve corners).dispatch false (.updateDrone 1 visiting)).1.isError = false := by
    decide +kernel
  have before : (empty.serve corners).drone? 1 = some ⟨1, "", "", ⟨0, 0, .north⟩, 1⟩ := by
    decide +kernel
  obtain ⟨old, new, known, asked, told, seen, _, alone, vacated⟩ :=
    (dispatch_update empty_sound corners false 1 visiting).2.2.2.1 granted
  obtain rfl := Option.some.inj (before.symm.trans known)
  subst asked
  exact ⟨empty_sound, _, Prod.ext told rfl, seen, alone, vacated (.inl (by decide))⟩

end Fleet

end DroneFleet
