import DroneFleet.Matrix

/-!
A fleet: numbered matrices, a list of those that can still be found, and a directory that says which
matrix owns a drone. A matrix that is deleted leaves the list; its slot stays behind, marked as
retired, for those who already had it in hand.
-/
namespace DroneFleet

structure Slot where
  matrix : Matrix
  retired : Bool

/-- Matrices with their drones. Numbers are given out upwards and never twice. -/
structure Fleet where
  slots : Table Nat Slot
  listed : Table Nat Unit
  owners : Table Nat Nat
  lastMatrix : Nat
  lastDrone : Nat

namespace Fleet

def empty : Fleet := ⟨.empty, .empty, .empty, 0, 0⟩

instance : Inhabited Fleet := ⟨empty⟩

def standing? (fleet : Fleet) (id : Nat) : Option Matrix :=
  (fleet.slots.get? id).bind fun slot => if slot.retired then none else some slot.matrix

def matrix? (fleet : Fleet) (id : Nat) : Option Matrix :=
  (fleet.listed.get? id).bind fun _ => fleet.standing? id

def owner? (fleet : Fleet) (drone : Nat) : Option Nat := fleet.owners.get? drone

def matrices (fleet : Fleet) : List Matrix := fleet.listed.keys.filterMap fleet.standing?

def views (fleet : Fleet) : List MatrixView := fleet.matrices.map Matrix.view

/-- The drones of several matrices in the order of their numbers. -/
def roll (views : List MatrixView) : List Drone :=
  (views.flatMap (·.drones)).mergeSort fun a b => a.id ≤ b.id

def drones (fleet : Fleet) : List Drone := roll fleet.views

def store (fleet : Fleet) (matrix : Matrix) : Fleet :=
  { fleet with slots := fleet.slots.insert matrix.id ⟨matrix, false⟩ }

def publish (fleet : Fleet) (matrix : Matrix) : Fleet :=
  { fleet.store matrix with listed := fleet.listed.insert matrix.id () }

def retire (fleet : Fleet) (matrix : Matrix) : Fleet :=
  { fleet with slots := fleet.slots.insert matrix.id ⟨matrix, true⟩ }

def withdraw (fleet : Fleet) (id : Nat) : Fleet := { fleet with listed := fleet.listed.erase id }

/-- Writes into the directory which matrix owns a drone, or that none does. -/
def assign (fleet : Fleet) (drone : Nat) : Option Nat → Fleet
  | some owner => { fleet with owners := fleet.owners.insert drone owner }
  | none => { fleet with owners := fleet.owners.erase drone }

end Fleet

end DroneFleet
