import DroneFleet.Console.Arguments
import DroneFleet.Console.Client
import DroneFleet.Console.Rendering
import DroneFleet.Server.Arguments
import DroneFleet.Server.Basic

/-!
The program, on the standard streams. As `serve` it starts a fleet and answers the frames of one client;
as `console` it sends one request, waits for the answer and shows it on the error stream, since the
other two are the connection. Connecting the streams of a console to those of a server is left to
whoever starts them, so that the options that say where the server is and how to reach it have no
effect here.
-/
namespace DroneFleet.Program

/-- The bytes that a decoder needs next, or fewer if the stream ends before. -/
def take (decoder : Frame.Decoder) : IO (List UInt8) := do
  return (← (← IO.getStdin).read (USize.ofNat decoder.wanted)).toList

def send (bytes : List UInt8) : IO Unit := do
  let output ← IO.getStdout
  output.write ⟨bytes.toArray⟩
  output.flush

def fail (message : String) : IO UInt32 := do
  IO.eprintln ("Error: " ++ message)
  return 1

def peer : SocketAddress := .v4 127 0 0 1 0

partial def attend (server : Server) : IO Unit := do
  match server.sessions.lookup peer with
  | none => return ()
  | some session =>
    let bytes ← take session.decoder
    let (replies, server) := server.receive (← IO.monoMsNow) peer bytes
    send replies
    if bytes.isEmpty then
      return ()
    else
      attend server

def configure (arguments : ServerArguments) : IO (Except ConfigFault ServerConfig) := do
  match arguments.configPath with
  | none => return arguments.config none
  | some path =>
    try return arguments.config (some (← IO.FS.readFile path))
    catch error => return arguments.config none (toString error)

def serve (words : List String) : IO UInt32 := do
  match ServerArguments.parse words with
  | .error fault => fail fault.message
  | .ok arguments =>
    match (← configure arguments).bind Server.start with
    | .error fault => fail fault.message
    | .ok server =>
      attend (server.accept peer)
      return 0

partial def await (sequenceId : Nat) (decoder : Frame.Decoder) : IO (Except CallFault Response) := do
  match Client.find sequenceId decoder with
  | (some result, _) => return result
  | (none, decoder) =>
    let bytes ← take decoder
    if bytes.isEmpty then
      return .error .closed
    else
      await sequenceId (decoder.feed bytes)

def ask (words : List String) : IO UInt32 := do
  match Console.Arguments.parse words with
  | .error fault => fail fault.message
  | .ok arguments =>
    let client := Client.new .default
    let envelope := client.envelope (← IO.monoMsNow) arguments.request
    match Frame.encode client.config.maxFrameBytes envelope with
    | .error fault => fail fault.message
    | .ok bytes =>
      send bytes
      match ← await envelope.header.sequenceId client.decoder with
      | .error fault => fail fault.message
      | .ok response =>
        IO.eprint (if arguments.json then response.toJson.prettyText ++ "\n" else response.rendered)
        match response.refused? with
        | some message => fail message
        | none => return 0

end DroneFleet.Program

def main : List String → IO UInt32
  | "serve" :: words => DroneFleet.Program.serve words
  | "console" :: words => DroneFleet.Program.ask words
  | _ => DroneFleet.Program.fail "serve or console is expected first"
