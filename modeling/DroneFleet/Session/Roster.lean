import DroneFleet.SocketAddress

/-!
The clients that are connected, by address. A client is known by the first name that it gives, which
is empty until then.
-/
namespace DroneFleet

structure Roster where
  entries : List (SocketAddress × String)
deriving Repr

namespace Roster

def empty : Roster := ⟨[]⟩

def unregister (roster : Roster) (address : SocketAddress) : Roster :=
  ⟨roster.entries.filter (·.1 ≠ address)⟩

def register (roster : Roster) (address : SocketAddress) : Roster :=
  ⟨(roster.unregister address).entries ++ [(address, "")]⟩

/-- Notes a name for a connected address that has none. -/
def identify (roster : Roster) (address : SocketAddress) (name : String) : Roster :=
  ⟨roster.entries.map fun entry =>
    if entry.1 = address ∧ entry.2 = "" then (address, name) else entry⟩

def names (roster : Roster) : List String :=
  (roster.entries.map (·.2)).mergeSort fun a b => a ≤ b

def size (roster : Roster) : Nat := roster.entries.length

end Roster

end DroneFleet
