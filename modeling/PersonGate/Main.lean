import PersonGate.Cli.Run
import PersonGate.Service.Identifier
import PersonGate.System.EnvFile
import Std.Async.DNS
import Std.Async.TCP
import Std.Async.Timer
/-!
# The program

Gives the library what it needs from outside (arguments, variables, time, connections and random
bytes) and does what its answers say.
-/
namespace PersonGate.Program
open Std.Async

/-! ## Variables -/

/-- The variables of this process. -/
def processVariables : IO Environment := do
  try
    return Environment.ofBlock (← IO.FS.readBinFile "/proc/self/environ").toList
  catch _ =>
    return {}

/-- How many directories are searched for an environment file, this one included. -/
def searchDepth : Nat := 64

/-- The environment file of this directory or of the next one above that has one. -/
def environmentFile : IO (Option Text) := do
  for level in List.range searchDepth do
    try
      let bytes ← IO.FS.readBinFile (String.join (List.replicate level "../") ++ ".env")
      return (String.fromUTF8? bytes).map String.toList
    catch _ =>
      pure ()
  return none

/-- The variables of this process and of its environment file. -/
def environment : IO Environment := do
  let env ← processVariables
  match ← environmentFile with
  | some file => return EnvFile.load file env
  | none => return env

def randomBytes (count : Nat) : IO (List UInt8) := do
  return (← IO.getRandomBytes count.toUSize).toList

/-! ## Connections -/

/-- How many bytes are read at a time. -/
def chunk : UInt64 := 4096

/-- How many bytes of a head are read at most. -/
def headLimit : Nat := 65536

def address (host : Std.Net.IPAddr) (number : UInt16) : Std.Net.SocketAddress :=
  match host with
  | .v4 addr => .v4 ⟨addr, number⟩
  | .v6 addr => .v6 ⟨addr, number⟩

/-- The bytes that come in, up to the end of a head or of the connection. -/
def readHead (socket : TCP.Socket.Client) : Async Text := do
  let mut bytes : List UInt8 := []
  while bytes.length < headLimit && !Http.Wire.hasHead bytes do
    match ← socket.recv? chunk with
    | some more => bytes := bytes ++ more.toList
    | none => break
  return Http.Wire.ofBytes bytes

/-- A connection to the first of the addresses that takes one. -/
def connect (addresses : List Std.Net.IPAddr) (number : UInt16) :
    Async (Option TCP.Socket.Client) := do
  for host in addresses do
    try
      let socket ← TCP.Socket.Client.mk
      socket.connect (address host number)
      return some socket
    catch _ =>
      pure ()
  return none

/-- The reply to a request; encrypted connections are not to be had. -/
def send (request : SentRequest) : Async Reply := do
  let some destination := request.address? | return .broken
  let origin := destination.origin
  if origin.secure then return .broken
  try
    let addresses ← DNS.getAddrInfo (String.ofList origin.host) (toString origin.port.val)
    let some socket ← connect addresses.toList origin.port.val.toUInt16 | return .broken
    socket.send (String.ofList (request.wire destination)).toUTF8
    match Http.Wire.status? (← readHead socket) with
    | some status => return .status status
    | none => return .broken
  catch _ =>
    return .broken

def pause (span : Duration) : Async Unit :=
  sleep (.ofNat ((span.nanoseconds + Duration.millisecond - 1) / Duration.millisecond))

/-- What becomes of a request within a limit of time. -/
def receive (limit : Option Duration) (request : SentRequest) : Async Reception := do
  if !request.isSendable then return .refused
  let answer : Async (Option Reply) := do return some (← send request)
  let reply ← match limit with
    | none => answer
    | some span => Async.race answer do pause span; return none
  return match reply with
    | some reply => .answered reply
    | none => .held

/-! ## The service -/

/-- Answers the one request of a connection. -/
def serveOne (service : IO.Ref Service) (socket : TCP.Socket.Client) : Async Unit := do
  try
    let head ← readHead socket
    let id := Service.identifier (← randomBytes Service.identifierBytes)
    let response ← match Http.Wire.draft? head with
      | some draft => service.modifyGet fun s => (s.handleDraft id draft).swap
      | none => pure none
    socket.send (String.ofList (response.getD .malformed).wire).toUTF8
    socket.shutdown
  catch _ =>
    pure ()

partial def serveAll (service : IO.Ref Service) (server : TCP.Socket.Server) : Async Unit := do
  let socket ← server.accept
  background (serveOne service socket)
  serveAll service server

/-- How many connections may wait to be taken. -/
def backlog : UInt32 := 128

/-- A listener on every address of this machine, or why there is none. -/
def listener (number : UInt16) : IO (Except Text TCP.Socket.Server) := do
  try
    let server ← TCP.Socket.Server.mk
    server.bind (.v4 ⟨.ofParts 0 0 0 0, number⟩)
    server.listen backlog
    return .ok server
  catch e =>
    return .error (toString e).toList

/-! ## Commands -/

/-- Prints what a run has to say and gives its exit code. -/
def finish (run : Cli.Run) : IO UInt32 := do
  IO.print (String.ofList run.output)
  match run.ending with
  | .failed cause => IO.eprintln (String.ofList cause.message)
  | _ => pure ()
  return (run.ending.exitCode?.getD Cli.failureCode).toUInt32

/-- Waits, sends the request of an action, and reports its end. -/
def act (invocation : Cli.Invocation) (surroundings : Cli.Surroundings) (action : PersonAction) :
    IO UInt32 := do
  let config := invocation.clientConfig
  match invocation.request? surroundings.environment action with
  | none => finish (invocation.run surroundings)
  | some request =>
    let reception ← Async.block do
      pause config.actionDelay
      receive config.requestTimeout request
    finish (invocation.run { surroundings with endpoint := fun _ _ => reception })

/-- Names the tokens that a service made up. -/
def announce (surroundings : Cli.Surroundings) (config : ServiceConfig) : IO Unit := do
  if config.grants.isEmpty then
    for grant in Service.demoGrants surroundings.adminBytes surroundings.userBytes do
      IO.eprintln (String.ofList grant.token)

/-- Opens the configured port and serves there for good. -/
def serve (invocation : Cli.Invocation) (surroundings : Cli.Surroundings) : IO UInt32 := do
  match ServiceConfig.ofEnvironment surroundings.environment with
  | .error _ => finish (invocation.run surroundings)
  | .ok config =>
    match ← listener config.port.val.toUInt16 with
    | .error reason => finish (invocation.run { surroundings with ports := fun _ => some reason })
    | .ok server =>
      let run := invocation.run surroundings
      match run.ending with
      | .serving service =>
        announce surroundings config
        Async.block (serveAll (← IO.mkRef service) server)
      | _ => pure ()
      finish run

/-- Runs a command line. -/
def run (words : List String) : IO UInt32 := do
  let env ← environment
  match Cli.parse env (words.map fun word => OsText.ofText word.toList) with
  | .error e =>
    if e.toStderr then IO.eprintln Cli.usage else IO.println Cli.usage
    return e.exitCode.toUInt32
  | .ok invocation =>
    let surroundings : Cli.Surroundings :=
      ⟨env, .unreachable, fun _ => none, ← randomBytes Service.demoTokenBytes,
        ← randomBytes Service.demoTokenBytes⟩
    match invocation.command with
    | .act action => act invocation surroundings action
    | .serve => serve invocation surroundings
    | .nav _ | .panel => finish (invocation.run surroundings)

end PersonGate.Program

def main (words : List String) : IO UInt32 := PersonGate.Program.run words
