import CrossFilter.Backend.Http
import CrossFilter.Command.Run
import Std.Async.DNS
import Std.Async.TCP
import Std.Async.Timer

/-!
# The program

Runs the command that the arguments ask for, over network connections and a preference file. A
connection is unencrypted, carries one message and has to be opened within the time that the
settings allow; a server that can only be reached otherwise cannot be reached.
-/

namespace CrossFilter.Program

open Std.Async Std.Net Backend

/-! ## Connections -/

/-- Everything up to the end of a stream, behind what was received before. -/
partial def receiveAll (socket : TCP.Socket.Client) (received : ByteArray) : Async ByteArray := do
  match ← socket.recv? 65536 with
  | none => return received
  | some bytes => receiveAll socket (received ++ bytes)

def socketAddress (service : UInt16) : IPAddr → SocketAddress
  | .v4 addr => .v4 ⟨addr, service⟩
  | .v6 addr => .v6 ⟨addr, service⟩

/-- Fails once the given number of seconds is over. -/
def expire (seconds : Nat) : Async Unit := do
  sleep (.ofNat (1000 * seconds))
  throw (IO.userError "the connection took too long")

/-- A connection to the first address that takes one. -/
def connectFirst (service : UInt16) (timeout : Nat) : List IPAddr → Async TCP.Socket.Client
  | [] => throw (IO.userError "no address takes a connection")
  | address :: rest => do
    let socket ← TCP.Socket.Client.mk
    try
      Async.race (socket.connect (socketAddress service address)) (expire timeout)
      return socket
    catch e =>
      if rest.isEmpty then throw e else connectFirst service timeout rest

/-- Sends a message to a server and receives what it answers. -/
def exchange (timeout : Nat) (a : Authority) (msg : Message) : Async ByteArray := do
  let addresses ← DNS.getAddrInfo a.host (toString a.service)
  let socket ← connectFirst (.ofNat a.service) timeout addresses.toList
  socket.send (msg.transmission a).toUTF8
  receiveAll socket .empty

def send (settings : Settings) (msg : Message) : IO (Except String Reply) := do
  match Authority.ofUrl? msg.url with
  | none => return .error "the URL leads to no unencrypted server"
  | some a =>
    try
      let bytes ← (exchange settings.connectTimeout a msg).block
      match Reply.ofBytes? bytes.toList with
      | some reply => return .ok reply
      | none => return .error "the reply cannot be read"
    catch e => return .error e.toString

/-! ## Preferences -/

/-- The directory of a file that is named with one. -/
def directoryOf? (path : String) : Option String :=
  let directory := String.ofList (path.toList.reverse.dropWhile (· != '/')).reverse
  if directory = "" then none else some directory

def loadTab (settings : Settings) : IO Tab := do
  let text ← try some <$> IO.FS.readFile settings.preferencesPath catch _ => pure none
  return Preferences.tabOf text

def saveTab (settings : Settings) (tab : Tab) : IO (Except Failure Unit) := do
  try
    if let some directory := directoryOf? settings.preferencesPath then
      IO.FS.createDirAll directory
    IO.FS.writeFile settings.preferencesPath (Preferences.textOf tab)
    return .ok ()
  catch e => return .error (.storage e.toString)

/-! ## Running -/

def host : Command.Host IO where
  send := send
  loadTab := loadTab
  saveTab := saveTab

/-- The environment's values of the variables that settings are taken from. -/
def readVariables : IO (List (String × String)) :=
  Settings.variableNames.filterMapM fun name => do
    return (← IO.getEnv name).map (name, ·)

def report (args : List String) : IO Command.Report := do
  match Command.Invocation.ofArguments args with
  | .error stop => return .ofStop stop
  | .ok invocation =>
    let environment ← readVariables
    return .ofResult (← (Command.run host (environment.lookup ·) invocation).run)

end CrossFilter.Program

def main (args : List String) : IO UInt32 := do
  let report ← CrossFilter.Program.report args
  IO.print report.output
  IO.eprint report.complaint
  return .ofNat report.exitCode
