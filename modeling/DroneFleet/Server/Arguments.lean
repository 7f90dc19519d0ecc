import DroneFleet.CommandLine.Parsing
import DroneFleet.Server.Config

/-!
The command line of the server: where its configuration is and what overrides it.
-/
namespace DroneFleet

open CommandLine

structure ServerArguments where
  configPath : Option String
  listen : Option SocketAddress
  verbose : Bool
deriving DecidableEq, Repr

namespace ServerArguments

def grammar : Grammar :=
  .leaf [.optional "config" .path, .optional "listen" .address, .flag "verbose"] []

def parse (words : List String) : Except Fault ServerArguments := do
  let parsed ← CommandLine.parse grammar words
  return ⟨parsed.text? "config", parsed.address? "listen", parsed.has "verbose"⟩

/-- The configuration that results, given what is in the file named by the arguments, or why nothing can
be read there: by default, because there is no such file. -/
def config (arguments : ServerArguments) (content : Option String)
    (reason : String := "No such file or directory (os error 2)") :
    Except ConfigFault ServerConfig := do
  let config ← match arguments.configPath, content with
    | none, _ => pure ServerConfig.default
    | some _, some text => ServerConfig.parse text
    | some _, none => throw (@ConfigFault.unreadable reason)
  return { config with listenAddress := arguments.listen.getD config.listenAddress }

end ServerArguments

end DroneFleet
