import DroneFleet.Proofs.Fleet.Dispatch

/-!
Requests one after another, each from a sound fleet on. A request is refused and leaves the fleet as
it is, or it is carried out and leaves the fleet sound (`Request.handle_ends`). The order of the steps
within a request is what decides: first it looks up what it needs, then one piece of work may be
refused, and nothing that comes after a change is refused any more.
-/
namespace DroneFleet

namespace Handling

variable {α β : Type} {fleet : Fleet} {grounded : Bool}

theorem on_refused {work : Handling α} {after : Fleet} {refusal : Refusal}
    (done : work.on fleet = (.error refusal, after)) (next : α → Handling β) :
    (work >>= next).on fleet = (.error refusal, after) := by
  rw [on_bind, done]

/-- The work is refused and has changed nothing, or it leaves something good. -/
def Ends (work : Handling α) (fleet : Fleet) (good : α → Fleet → Prop) : Prop :=
  (∃ refusal, work.on fleet = (.error refusal, fleet)) ∨
    ∃ value after, work.on fleet = (.ok value, after) ∧ good value after

def Finds (work : Handling α) (fleet : Fleet) (good : α → Prop) : Prop :=
  work.Ends fleet fun value after => after = fleet ∧ good value

theorem Ends.returns {work : Handling α} {good : α → Fleet → Prop} {value : α} {after : Fleet}
    (done : work.on fleet = (.ok value, after)) (kept : good value after) : work.Ends fleet good :=
  .inr ⟨value, after, done, kept⟩

theorem Ends.imp {work : Handling α} {good better : α → Fleet → Prop} (ends : work.Ends fleet good)
    (implies : ∀ value after, good value after → better value after) : work.Ends fleet better :=
  ends.imp_right fun ⟨value, after, done, kept⟩ => ⟨value, after, done, implies value after kept⟩

theorem Finds.imp {work : Handling α} {found other : α → Prop} (finds : work.Finds fleet found)
    (implies : ∀ value, found value → other value) : work.Finds fleet other :=
  Ends.imp finds fun value _ ⟨same, kept⟩ => ⟨same, implies value kept⟩

/-- What follows a look-up starts from the same fleet, so it may be refused too. -/
theorem Finds.bind {work : Handling α} {next : α → Handling β} {found : α → Prop}
    {good : β → Fleet → Prop} (finds : work.Finds fleet found)
    (ends : ∀ value, found value → (next value).Ends fleet good) :
    (work >>= next).Ends fleet good := by
  rcases finds with ⟨refusal, done⟩ | ⟨value, after, done, rfl, kept⟩
  · exact .inl ⟨refusal, on_refused done next⟩
  · rcases ends value kept with ⟨refusal, done'⟩ | ⟨last, final, done', kept'⟩
    · exact .inl ⟨refusal, (on_ok done next).trans done'⟩
    · exact .inr ⟨last, final, (on_ok done next).trans done', kept'⟩

/-- What follows a change must not be refused. -/
theorem Ends.finish {work : Handling α} {next : α → Handling β} {good : α → Fleet → Prop}
    {better : β → Fleet → Prop} (ends : work.Ends fleet good)
    (returns : ∀ value after, good value after →
      ∃ last final, (next value).on after = (.ok last, final) ∧ better last final) :
    (work >>= next).Ends fleet better := by
  rcases ends with ⟨refusal, done⟩ | ⟨value, after, done, kept⟩
  · exact .inl ⟨refusal, on_refused done next⟩
  · obtain ⟨last, final, done', kept'⟩ := returns value after kept
    exact .inr ⟨last, final, (on_ok done next).trans done', kept'⟩

/-! ### Look-ups -/

theorem on_seek_missing {id : Nat} (missing : fleet.matrix? id = none) :
    (seek id).on fleet = (.error (.unknownMatrix id), fleet) := by
  simp only [seek, on_bind, on_get, missing]
  rfl

theorem on_owner_unowned {drone : Nat} (unowned : fleet.owner? drone = none) :
    (owner drone).on fleet = (.error (.unknownDrone drone), fleet) := by
  simp only [owner, on_bind, on_get, unowned]
  rfl

theorem on_home_unowned {drone : Nat} (unowned : fleet.owner? drone = none) :
    (home drone).on fleet = (.error (.unknownDrone drone), fleet) := by
  simp only [home, on_bind, on_get, on_owner_unowned unowned]

def stray (fleet : Fleet) (id drone : Nat) : Refusal :=
  match fleet.owner? drone with
  | some owner => .matrixMismatch drone id owner
  | none => .unknownDrone drone

theorem on_checkOwners_stranger {matrix : Matrix} {plans : List Plan} {drone : Nat}
    (stranger : matrix.stranger? plans = some drone) :
    (checkOwners matrix plans).on fleet = (.error (stray fleet matrix.id drone), fleet) := by
  cases known : fleet.owner? drone with
  | none => simp only [checkOwners, stranger, on_bind, on_owner_unowned known, stray, known]
  | some id =>
    simp only [checkOwners, stranger, owner, on_bind, on_get, stray, known]
    rfl

theorem lift_finds (result : Except Refusal α) (fleet : Fleet) :
    (liftM result : Handling α).Finds fleet fun value => result = .ok value := by
  cases result with
  | error refusal => exact .inl ⟨refusal, rfl⟩
  | ok value => exact .inr ⟨value, fleet, rfl, rfl, rfl⟩

theorem seek_finds (firm : fleet.Firm) (id : Nat) :
    (seek id).Finds fleet fun matrix => matrix.id = id ∧ fleet.standing? matrix.id = some matrix := by
  cases found : fleet.matrix? id with
  | none => exact .inl ⟨.unknownMatrix id, on_seek_missing found⟩
  | some matrix =>
    have standing := Fleet.standing_of_matrix? found
    have name := (firm.standing standing).1
    refine .inr ⟨matrix, fleet, ?_, rfl, name, name ▸ standing⟩
    simp only [seek, on_bind, on_get, found]
    rfl

theorem home_finds (sound : fleet.Sound) (drone : Nat) :
    (home drone).Finds fleet fun matrix =>
      fleet.standing? matrix.id = some matrix ∧ matrix.owns drone = true := by
  cases known : fleet.owner? drone with
  | none => exact .inl ⟨.unknownDrone drone, on_home_unowned known⟩
  | some id =>
    obtain ⟨matrix, standing, aboard⟩ :=
      sound.standing_of_houses ((sound.directory drone id).mp known)
    have name := (sound.standing standing).1
    exact .inr ⟨matrix, fleet, on_home sound standing aboard, rfl, name ▸ standing, aboard⟩

theorem checkOwners_finds (matrix : Matrix) (plans : List Plan) (fleet : Fleet) :
    (checkOwners matrix plans).Finds fleet fun _ => matrix.stranger? plans = none := by
  cases stranger : matrix.stranger? plans with
  | none => exact .inr ⟨(), fleet, on_checkOwners stranger fleet, rfl, rfl⟩
  | some drone => exact .inl ⟨_, on_checkOwners_stranger stranger⟩

/-! ### Work on matrices that stand -/

variable {matrix : Matrix}

theorem does_on {held : List Nat} {work : Handling α} {value : α} {deed : Deed}
    (does : Does held fleet work value deed) : work.on fleet = (.ok value, deed.perform fleet) :=
  does fleet (Fleet.Alike.refl held fleet)

theorem stored_sound (sound : fleet.Sound) (standing : fleet.standing? matrix.id = some matrix)
    {changed : Matrix} (kin : matrix.Kin changed) (changedSound : changed.Sound) :
    (fleet.store changed).Sound := by
  have apt : Deed.Apt [changed.id] fleet (.revise changed) :=
    ⟨List.mem_cons_self, changedSound, matrix, kin.id ▸ standing, kin⟩
  exact Deed.complete_sound sound apt

theorem resize_ends (sound : fleet.Sound) (standing : fleet.standing? matrix.id = some matrix)
    (bounds : Bounds) : (resize matrix bounds).Ends fleet fun _ after => after.Sound := by
  rcases resize_result (sound.standing standing).2 bounds with
    ⟨refusal, _, refuses⟩ | ⟨resized, resizedSound, kin, does⟩
  · exact .inl ⟨refusal, refuses fleet⟩
  · exact .returns (does_on (does [] fleet)) (stored_sound sound standing kin resizedSound)

theorem retire_ends (sound : fleet.Sound) (standing : fleet.standing? matrix.id = some matrix) :
    (retire matrix).Ends fleet fun _ after => (after.withdraw matrix.id).Sound := by
  rcases retire_result matrix with ⟨refusal, _, refuses⟩ | ⟨deserted, does⟩
  · exact .inl ⟨refusal, refuses fleet⟩
  · have apt : Deed.Apt [matrix.id] fleet (.retire matrix) :=
      ⟨List.mem_cons_self, standing, deserted⟩
    exact .returns (does_on (does [matrix.id] fleet)) (Deed.complete_sound sound apt)

theorem enroll_ends (sound : fleet.Sound) (standing : fleet.standing? matrix.id = some matrix)
    (new : NewDrone) : (enroll matrix new).Ends fleet fun drone after =>
      (after.assign drone.id (some matrix.id)).Sound := by
  rcases enroll_result sound.toFirm standing new with
    ⟨refusal, _, refuses⟩ | ⟨drone, placed, number, same, placedSound, joins, does⟩
  · exact .inl ⟨refusal, refuses fleet⟩
  · have apt : Deed.Apt [placed.id] fleet (.enroll placed drone.id) :=
      ⟨List.mem_cons_self, placedSound, number, matrix, same ▸ standing, joins⟩
    have kept := Deed.complete_sound sound apt
    exact .returns (does_on (does [placed.id])) (same ▸ kept)

theorem discharge_ends (sound : fleet.Sound) (standing : fleet.standing? matrix.id = some matrix)
    {id : Nat} (aboard : matrix.owns id = true) :
    (discharge matrix id).Ends fleet fun _ after => (after.assign id none).Sound := by
  obtain ⟨drone, left, same, leftSound, leaves, does⟩ :=
    discharge_result (sound.standing standing).2 aboard
  have apt : Deed.Apt [left.id] fleet (.discharge left id) :=
    ⟨List.mem_cons_self, leftSound, matrix, same ▸ standing, aboard, leaves⟩
  exact .returns (does_on (does [left.id] fleet)) (Deed.complete_sound sound apt)

theorem revise_ends (sound : fleet.Sound) (standing : fleet.standing? matrix.id = some matrix)
    {id : Nat} (aboard : matrix.owns id = true) (changes : DroneChanges) :
    (revise matrix id changes).Ends fleet fun _ after => after.Sound := by
  rcases revise_result (sound.standing standing).2 aboard changes with
    ⟨refusal, _, refuses⟩ | ⟨drone, revised, revisedSound, kin, does⟩
  · exact .inl ⟨refusal, refuses fleet⟩
  · exact .returns (does_on (does [] fleet)) (stored_sound sound standing kin revisedSound)

theorem transfer_ends (sound : fleet.Sound) {source target : Matrix}
    (standing : fleet.standing? source.id = some source)
    (standing' : fleet.standing? target.id = some target) (apart : source.id ≠ target.id)
    {id : Nat} (aboard : source.owns id = true) (changes : DroneChanges) :
    (transfer source target id changes).Ends fleet fun _ after =>
      (after.assign id (some target.id)).Sound := by
  have absent : target.owns id = false := by
    cases inside : target.owns id with
    | false => rfl
    | true => exact absurd (sound.single _ _ _ ((Fleet.standing_houses standing).mpr aboard)
        ((Fleet.standing_houses standing').mpr inside)) apart
  rcases transfer_result (sound.standing standing).2 (sound.standing standing').2 aboard absent
      changes with
    ⟨refusal, _, refuses⟩ | ⟨drone, left, joined, same, same', leftSound, joinedSound, leaves, joins,
      does⟩
  · exact .inl ⟨refusal, refuses fleet⟩
  · have apt : Deed.Apt [left.id, joined.id] fleet (.transfer left joined id) :=
      ⟨by simp, by simp, by rwa [same, same'], leftSound, joinedSound, source, target,
        same ▸ standing, same' ▸ standing', aboard, leaves, joins⟩
    have kept := Deed.complete_sound sound apt
    exact .returns (does_on (does [left.id, joined.id] fleet)) (same' ▸ kept)

theorem flySingle_ends (sound : fleet.Sound) (standing : fleet.standing? matrix.id = some matrix)
    {id : Nat} (aboard : matrix.owns id = true) (commands : List Command) :
    (flySingle grounded matrix id commands).Ends fleet fun _ after => after.Sound := by
  obtain ⟨report, flown, flownSound, kin, flew⟩ :=
    flySingle_result grounded (sound.standing standing).2 aboard commands
  exact .returns (flew fleet standing) (stored_sound sound standing kin flownSound)

theorem ground_finds (sound : fleet.Sound) (matrixId : Option Nat) (first : Nat) :
    (ground matrixId first).Finds fleet fun matrix => fleet.standing? matrix.id = some matrix := by
  cases matrixId with
  | some id => exact (seek_finds sound.toFirm id).imp fun _ kept => kept.2
  | none => exact (home_finds sound first).imp fun _ kept => kept.1

/-- All drones are found aboard before the first one flies, and then none of them is refused. -/
theorem batch_ends (sound : fleet.Sound) (matrixId : Option Nat) (plans : List Plan) :
    (batch grounded matrixId plans).Ends fleet fun _ after => after.Sound := by
  cases leads : Plan.leader plans with
  | error refusal =>
    refine .inl ⟨refusal, ?_⟩
    unfold batch
    rw [on_bind, on_lift, leads]
  | ok first =>
    rw [batch_eq grounded leads]
    refine (ground_finds sound matrixId first).bind fun matrix standing => ?_
    refine (checkOwners_finds matrix plans fleet).bind fun _ none => ?_
    have aboard : ∀ plan ∈ plans, matrix.owns plan.droneId = true := by
      simpa [Matrix.stranger?] using none
    obtain ⟨outcomes, last, flown, lastSound, kin⟩ :=
      flown_exists grounded (sound.standing standing).2 aboard
    have stored : (fleet.store last).standing? matrix.id = some last := by
      rw [Fleet.store_standing?, if_pos flown.id_eq.symm]
    exact .returns ((on_ok (flown.on_mapM standing) _).trans (on_report stored outcomes))
      (stored_sound sound standing kin lastSound)

theorem update_ends (sound : fleet.Sound) (id : Nat) (changes : DroneChanges) :
    (update id changes).Ends fleet fun _ after => after.Sound := by
  refine (home_finds sound id).bind fun source ⟨standing, aboard⟩ => ?_
  dsimp only
  split
  · exact revise_ends sound standing aboard changes
  · rename_i apart
    refine (seek_finds sound.toFirm _).bind fun target ⟨name, standing'⟩ => ?_
    refine (transfer_ends sound standing standing' (fun same => apart (name.symm.trans same.symm))
      aboard changes).finish fun drone after kept => ?_
    exact ⟨drone, after.assign id (some (changes.matrixId.getD source.id)), rfl, name ▸ kept⟩

end Handling

open Handling

theorem Request.handle_ends {fleet : Fleet} (sound : fleet.Sound) (grounded : Bool)
    (request : Request) : (request.handle grounded).Ends fleet fun response after =>
      response.isError = false ∧ after.Sound := by
  cases request with
  | listMatrices => exact .returns rfl ⟨rfl, sound⟩
  | listDrones => exact .returns rfl ⟨rfl, sound⟩
  | getMatrix id =>
    exact (seek_finds sound.toFirm id).bind fun matrix _ => .returns rfl ⟨rfl, sound⟩
  | getDrone id =>
    refine (home_finds sound id).bind fun matrix ⟨_, aboard⟩ => ?_
    obtain ⟨drone, present⟩ := Matrix.owns_iff.mp aboard
    exact .returns (on_ok (on_record present fleet) _) ⟨rfl, sound⟩
  | createMatrix maxX maxY =>
    have does : Does [] fleet (found ⟨maxX, maxY⟩) _ _ := found_does ⟨maxX, maxY⟩
    have apt : Deed.Apt [] fleet (.found (.new (fleet.lastMatrix + 1) ⟨maxX, maxY⟩)) :=
      ⟨⟨maxX, maxY⟩, rfl⟩
    exact .returns (on_ok (does_on does) _) ⟨rfl, Deed.complete_sound sound apt⟩
  | updateMatrix id maxX maxY =>
    refine (seek_finds sound.toFirm id).bind fun matrix ⟨_, standing⟩ => ?_
    exact (resize_ends sound standing ⟨maxX, maxY⟩).finish fun view after kept =>
      ⟨.matrix view, after, rfl, rfl, kept⟩
  | deleteMatrix id =>
    refine (seek_finds sound.toFirm id).bind fun matrix ⟨name, standing⟩ => ?_
    exact (retire_ends sound standing).finish fun _ after kept =>
      ⟨.deleted id, after.withdraw id, rfl, rfl, name ▸ kept⟩
  | createDrone new =>
    refine (seek_finds sound.toFirm new.matrixId).bind fun matrix ⟨name, standing⟩ => ?_
    exact (enroll_ends sound standing new).finish fun drone after kept =>
      ⟨.drone drone, after.assign drone.id (some new.matrixId), rfl, rfl, name ▸ kept⟩
  | updateDrone id changes =>
    exact (update_ends sound id changes).finish fun drone after kept =>
      ⟨.drone drone, after, rfl, rfl, kept⟩
  | deleteDrone id =>
    refine (home_finds sound id).bind fun matrix ⟨standing, aboard⟩ => ?_
    exact (discharge_ends sound standing aboard).finish fun _ after kept =>
      ⟨.deleted id, after.assign id none, rfl, rfl, kept⟩
  | droneCommands droneId input =>
    cases parsed : input.parse with
    | error fault =>
      refine .inl ⟨.invalidCommand (some droneId) fault, ?_⟩
      simp only [handle, parsed]
      rfl
    | ok commands =>
      simp only [handle, parsed]
      refine (home_finds sound droneId).bind fun matrix ⟨standing, aboard⟩ => ?_
      exact (flySingle_ends sound standing aboard commands).finish fun report after kept =>
        ⟨.single report, after, rfl, rfl, kept⟩
  | matrixDroneCommands matrixId droneIds input =>
    cases parsed : input.parse with
    | error fault =>
      refine .inl ⟨.invalidCommand none fault, ?_⟩
      simp only [handle, parsed]
      rfl
    | ok commands =>
      simp only [handle, parsed]
      exact (batch_ends sound matrixId _).finish fun report after kept =>
        ⟨.batch report, after, rfl, rfl, kept⟩
  | batchCommands matrixId entries =>
    refine (lift_finds (Plan.ofEntries entries) fleet).bind fun plans _ => ?_
    exact (batch_ends sound matrixId plans).finish fun report after kept =>
      ⟨.batch report, after, rfl, rfl, kept⟩

namespace Fleet

/-- An answer is an error with nothing changed, or it is none and leaves a sound fleet. -/
theorem dispatch_cases {fleet : Fleet} (sound : fleet.Sound) (grounded : Bool) (request : Request) :
    (fleet.dispatch grounded request).2 = fleet ∨
      (fleet.dispatch grounded request).1.isError = false ∧
        (fleet.dispatch grounded request).2.Sound := by
  rcases Request.handle_ends sound grounded request with ⟨refusal, done⟩ | ⟨response, after, done, kept⟩
  · left
    exact congrArg Prod.snd done
  · right
    rw [dispatch_eq done]
    exact kept

theorem dispatch_sound {fleet : Fleet} (sound : fleet.Sound) (grounded : Bool) (request : Request) :
    (fleet.dispatch grounded request).2.Sound := by
  rcases dispatch_cases sound grounded request with same | ⟨_, kept⟩
  · rwa [same]
  · exact kept

theorem serve_sound {fleet : Fleet} (sound : fleet.Sound) (calls : List (Bool × Request)) :
    (fleet.serve calls).Sound := by
  induction calls generalizing fleet with
  | nil => exact sound
  | cons call rest ih => exact ih (dispatch_sound sound call.1 call.2)

/-- Whatever has been asked of a sound fleet, a request that is answered with an error leaves all of
it as it was, the counters too. -/
theorem dispatch_refused {start : Fleet} (sound : start.Sound) (calls : List (Bool × Request))
    (grounded : Bool) (request : Request)
    (refused : ((start.serve calls).dispatch grounded request).1.isError = true) :
    ((start.serve calls).dispatch grounded request).2 = start.serve calls := by
  rcases dispatch_cases (serve_sound sound calls) grounded request with same | ⟨granted, _⟩
  · exact same
  · rw [granted] at refused
    contradiction

/-- Two matrices with a drone each, both in the same corner. -/
def corners : List (Bool × Request) :=
  [(false, .createMatrix 4 4), (false, .createMatrix 4 4),
    (false, .createDrone ⟨"", "", ⟨0, 0, .north⟩, 1⟩),
    (false, .createDrone ⟨"", "", ⟨0, 0, .north⟩, 2⟩)]

/-- One of the drones is to go to the other matrix under another name. -/
def crowding : Request := .updateDrone 1 ⟨some "guest", none, none, none, none, some 2⟩

theorem dispatch_refused_crowding :
    empty.Sound ∧ ((empty.serve corners).dispatch false crowding).1.isError = true ∧
      ((empty.serve corners).dispatch false crowding).2 = empty.serve corners :=
  have refused : ((empty.serve corners).dispatch false crowding).1.isError = true := by
    decide +kernel
  ⟨empty_sound, refused, dispatch_refused empty_sound corners false crowding refused⟩

end Fleet

end DroneFleet
