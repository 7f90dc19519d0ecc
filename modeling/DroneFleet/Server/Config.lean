import DroneFleet.Fleet.Dispatch
import DroneFleet.Frame
import DroneFleet.SocketAddress
import DroneFleet.Toml.Reader

/-!
What a server is started with: its address, its limits and the matrices and drones that are there from
the beginning. The seeds are created one after another, like anything else, up to the first refusal.
-/
namespace DroneFleet

structure DroneSeed where
  name : String
  model : String
  pose : Pose
deriving DecidableEq, Repr

structure MatrixSeed where
  bounds : Bounds
  drones : List DroneSeed
deriving DecidableEq, Repr

structure ServerConfig where
  listenAddress : SocketAddress
  idleTimeoutSecs : Nat
  maxFrameBytes : Nat
  seeds : List MatrixSeed
deriving DecidableEq, Repr

inductive ConfigFault where
  | unreadable {reason : String}
  | malformed
  | invalid (field reason : String)
  | seed (index : Nat) (refusal : Refusal)
deriving DecidableEq, Repr

/-- What is wrong, in words. Of a malformed file it is not said where and how it is malformed. -/
def ConfigFault.message : ConfigFault → String
  | @unreadable reason => "Failed to read config file: " ++ reason
  | .malformed => "TOML parsing error"
  | .invalid field reason => "Invalid value for '" ++ field ++ "': " ++ reason
  | .seed index refusal =>
    "Seed matrix #" ++ toString index ++ " rejected: " ++ refusal.message

namespace Toml

def text? : Toml → Option String
  | text value => some value
  | _ => none

def natural? (limit : Nat) : Toml → Option Nat
  | integer value => if 0 ≤ value ∧ value ≤ limit then some value.toNat else none
  | _ => none

def word? (value : Toml) : Option UInt32 := (value.natural? Text.word32Limit).map UInt32.ofNat

def list? {α : Type} (read : Toml → Option α) : Toml → Option (List α)
  | array items _ => items.mapM read
  | _ => none

/-- The fields of a record, by name or in order. Other entries are of no interest. -/
def fields? (names : List String) : Toml → Option Entries
  | table _ entries => some entries
  | array items _ => some (names.zip items)
  | _ => none

def Entries.required {α : Type} (entries : Entries) (name : String) (read : Toml → Option α) :
    Option α :=
  (entries.lookup name).bind read

def Entries.withDefault {α : Type} (entries : Entries) (name : String) (default : α)
    (read : Toml → Option α) : Option α :=
  match entries.lookup name with
  | none => some default
  | some value => read value

/-- A direction by its label, or by a table with nothing but an empty value under its label. -/
def orientation? : Toml → Option Orientation
  | text label => Orientation.ofLabel? label
  | table _ [(label, value)] =>
    match value with
    | table _ [] => Orientation.ofLabel? label
    | array [] _ => Orientation.ofLabel? label
    | _ => none
  | _ => none

end Toml

open Toml

def DroneSeed.ofToml? (value : Toml) : Option DroneSeed := do
  let fields ← value.fields? ["name", "model", "x", "y", "orientation"]
  return ⟨← fields.required "name" text?, ← fields.withDefault "model" "" text?,
    ⟨← fields.required "x" word?, ← fields.required "y" word?,
      ← fields.required "orientation" orientation?⟩⟩

def MatrixSeed.ofToml? (value : Toml) : Option MatrixSeed := do
  let fields ← value.fields? ["max_x", "max_y", "drones"]
  return ⟨⟨← fields.required "max_x" word?, ← fields.required "max_y" word?⟩,
    ← fields.withDefault "drones" [] (list? DroneSeed.ofToml?)⟩

def seeds? (value : Toml) : Option (List MatrixSeed) := do
  let fields ← value.fields? ["matrices"]
  fields.withDefault "matrices" [] (list? MatrixSeed.ofToml?)

namespace ServerConfig

def default : ServerConfig := ⟨.v4 0 0 0 0 7070, 300, 1048576, []⟩

def ofToml? (value : Toml) : Option ServerConfig := do
  let fields ← value.fields? ["listen_addr", "idle_timeout_secs", "max_frame_bytes", "fleet"]
  return ⟨← fields.withDefault "listen_addr" default.listenAddress fun value =>
      value.text?.bind SocketAddress.parse?,
    ← fields.withDefault "idle_timeout_secs" default.idleTimeoutSecs (natural? Text.word64Limit),
    ← fields.withDefault "max_frame_bytes" default.maxFrameBytes (natural? Text.word32Limit),
    ← fields.withDefault "fleet" default.seeds seeds?⟩

def parse (text : String) : Except ConfigFault ServerConfig :=
  match (Toml.read? text).bind ofToml? with
  | some config => .ok config
  | none => .error .malformed

def validate (config : ServerConfig) : Except ConfigFault Unit :=
  if config.idleTimeoutSecs = 0 then
    .error (.invalid "idle_timeout_secs" "must be at least 1")
  else if config.maxFrameBytes = 0 ∨ Frame.maxLength < config.maxFrameBytes then
    .error (.invalid "max_frame_bytes"
      ("must be between 1 and " ++ toString Frame.maxLength))
  else .ok ()

end ServerConfig

namespace Handling

def plant (seed : MatrixSeed) : Handling Unit := do
  let matrix ← found seed.bounds
  modify fun fleet => fleet.publish matrix
  for drone in seed.drones do
    let placed ← enroll (← seek matrix.id) ⟨drone.name, drone.model, drone.pose, matrix.id⟩
    assign placed.id (some matrix.id)

end Handling

namespace Fleet

/-- Plants seeds, the first of which is numbered `index`. -/
def plant (fleet : Fleet) (index : Nat) : List MatrixSeed → Except ConfigFault Fleet
  | [] => .ok fleet
  | seed :: rest =>
    match ((Handling.plant seed).run fleet).run with
    | (.ok _, after) => after.plant (index + 1) rest
    | (.error refusal, _) => .error (.seed index refusal)

end Fleet

def ServerConfig.fleet (config : ServerConfig) : Except ConfigFault Fleet := do
  config.validate
  Fleet.empty.plant 0 config.seeds

end DroneFleet
