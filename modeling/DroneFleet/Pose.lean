import DroneFleet.Text.Quoted

/-!
Where a drone is and which way it faces. One step ahead is computed in the integers; it is a cell
only while both coordinates are 32-bit words (`Pose.cellAhead`).
-/
namespace DroneFleet

/-- A compass direction, in the order of right turns. -/
inductive Orientation where
  | north
  | east
  | south
  | west
deriving DecidableEq, Repr

structure UnknownOrientation where
  label : String
deriving DecidableEq, Repr

def UnknownOrientation.message (unknown : UnknownOrientation) : String :=
  "Unknown orientation label: " ++ Text.quoted unknown.label

namespace Orientation

def right : Orientation → Orientation
  | north => east
  | east => south
  | south => west
  | west => north

def left : Orientation → Orientation
  | north => west
  | west => south
  | south => east
  | east => north

def offset : Orientation → Int × Int
  | north => (0, 1)
  | east => (1, 0)
  | south => (0, -1)
  | west => (-1, 0)

def label : Orientation → String
  | north => "N"
  | east => "E"
  | south => "S"
  | west => "W"

/-- West has two labels, of which only the first is ever written. -/
def ofLabel? : String → Option Orientation
  | "N" => some north
  | "E" => some east
  | "S" => some south
  | "W" => some west
  | "O" => some west
  | _ => none

def parse (label : String) : Except UnknownOrientation Orientation :=
  match ofLabel? label with
  | some orientation => .ok orientation
  | none => .error ⟨label⟩

theorem ofLabel?_label (orientation : Orientation) :
    ofLabel? orientation.label = some orientation := by
  cases orientation <;> rfl

end Orientation

structure Cell where
  x : UInt32
  y : UInt32
deriving DecidableEq, Repr

namespace Cell

instance : Ord Cell := ⟨compareLex (compareOn Cell.x) (compareOn Cell.y)⟩

instance : Std.TransOrd Cell :=
  inferInstanceAs (Std.TransCmp (compareLex (compareOn Cell.x) (compareOn Cell.y)))

instance : Std.LawfulEqOrd Cell where
  compare_self := Std.ReflCmp.compare_self
  eq_of_compare {a b} same := by
    obtain ⟨ax, ay⟩ := a
    obtain ⟨bx, byy⟩ := b
    simp only [compare, compareLex, Ordering.then_eq_eq] at same
    have hx : ax = bx := Std.LawfulEqCmp.eq_of_compare same.1
    have hy : ay = byy := Std.LawfulEqCmp.eq_of_compare same.2
    rw [hx, hy]

def word? (value : Int) : Option UInt32 :=
  if 0 ≤ value ∧ value < UInt32.size then some (UInt32.ofNat value.toNat) else none

def at? (x y : Int) : Option Cell := do
  return ⟨← word? x, ← word? y⟩

end Cell

structure Pose where
  x : UInt32
  y : UInt32
  orientation : Orientation
deriving DecidableEq, Repr

namespace Pose

def cell (pose : Pose) : Cell := ⟨pose.x, pose.y⟩

def turnedLeft (pose : Pose) : Pose := { pose with orientation := pose.orientation.left }

def turnedRight (pose : Pose) : Pose := { pose with orientation := pose.orientation.right }

def target (pose : Pose) : Int × Int :=
  (pose.x.toNat + pose.orientation.offset.1, pose.y.toNat + pose.orientation.offset.2)

/-- The cell one step ahead, unless a coordinate would leave the 32-bit words. -/
def cellAhead (pose : Pose) : Option Cell := Cell.at? pose.target.1 pose.target.2

def movedTo (pose : Pose) (cell : Cell) : Pose := ⟨cell.x, cell.y, pose.orientation⟩

def text (pose : Pose) : String :=
  "(" ++ toString pose.x.toNat ++ ", " ++ toString pose.y.toNat ++ ", " ++
    pose.orientation.label ++ ")"

end Pose

end DroneFleet
