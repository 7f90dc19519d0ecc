import DroneFleet.Server.Config
import DroneFleet.Session.Basic
import DroneFleet.Session.Roster

/-!
A server: one fleet and the sessions of the clients that are connected to it.
-/
namespace DroneFleet

/-- A fleet being served. The roster has an entry for each session. -/
structure Server where
  limit : Nat
  fleet : Fleet
  grounded : Bool
  sessions : List (SocketAddress × Session)
  roster : Roster

namespace Server

def start (config : ServerConfig) : Except ConfigFault Server := do
  return ⟨config.maxFrameBytes, ← config.fleet, false, [], .empty⟩

def accept (server : Server) (address : SocketAddress) : Server :=
  { server with
    sessions := server.sessions.filter (·.1 ≠ address) ++ [(address, .new server.limit)]
    roster := server.roster.register address }

def dismiss (server : Server) (address : SocketAddress) : Server :=
  { server with
    sessions := server.sessions.filter (·.1 ≠ address)
    roster := server.roster.unregister address }

/-- Puts back what a session has become; a closed session is dismissed. -/
def update (server : Server) (address : SocketAddress) (session : Session) : Server :=
  if session.isOpen then
    { server with
      sessions := server.sessions.map fun entry =>
        if entry.1 = address then (address, session) else entry
      roster := server.roster.identify address session.clientId }
  else server.dismiss address

/-- Takes in bytes from a client; the bytes to send back come first. -/
def receive (server : Server) (now : Nat) (address : SocketAddress) (bytes : List UInt8) :
    List UInt8 × Server :=
  match server.sessions.lookup address with
  | none => ([], server)
  | some session =>
    let (replies, fleet, session) := session.receive server.grounded server.fleet ⟨fun _ => now, bytes⟩
    (replies, { server with fleet }.update address session)

/-- Stops: no drone starts any more, and every session answers what it has in hand before it is
closed. The last bytes for each client come first. -/
def stop (server : Server) (now : Nat) : List (SocketAddress × List UInt8) × Server :=
  server.sessions.foldl
    (fun (sent, server) (address, session) =>
      let (replies, fleet, _) := session.finish (fun _ => now) server.fleet
      (sent ++ [(address, replies)], { server with fleet }.dismiss address))
    ([], { server with grounded := true })

end Server

end DroneFleet
