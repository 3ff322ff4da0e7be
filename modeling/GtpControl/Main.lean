import GtpControl.CommandLine
import Std.Async

/-! # The program on the machine that it is started on -/
namespace GtpControl.Machine
open Std.Async

/-! ## Addresses -/

def SocketAddress.toStd (address : SocketAddress) : Std.Net.SocketAddress :=
  match address.ip with
  | .v4 ip => .v4 ⟨⟨#v[ip.a, ip.b, ip.c, ip.d]⟩, address.port⟩
  | .v6 ip =>
    let groups := ip.groups.map UInt16.ofNat
    .v6 ⟨⟨Vector.ofFn fun i => groups.getD i 0⟩, address.port⟩

def SocketAddress.ofStd : Std.Net.SocketAddress → SocketAddress
  | .v4 address =>
    let octets := address.addr.octets
    ⟨.v4 ⟨octets[0], octets[1], octets[2], octets[3]⟩, address.port, 0⟩
  | .v6 address =>
    let octets := address.addr.segments.toList.flatMap Octets.ofUInt16
    ⟨.v6 ((Ipv6Address.ofOctets? octets).getD .unspecified), address.port, 0⟩

/-! ## Errors -/

def numbered (text : String) (code : UInt32) : String := s!"{text} (os error {code})"

/-- What the machine says about a failure. -/
def reason (error : IO.Error) : String :=
  match error with
  | .noFileOrDirectory _ code _ => numbered "No such file or directory" code
  | .permissionDenied _ code _ => numbered "Permission denied" code
  | .inappropriateType _ code details => numbered details code
  | .otherError code details => numbered details code
  | .resourceBusy code details => numbered details code
  | error => toString error

def attempt {α : Type} (action : IO α) : IO (Except String α) := do
  try return .ok (← action)
  catch e => return .error (reason e)

/-! ## The log -/

structure Log where
  /-- lines below this level are left out -/
  level : LogLevel := .info
  file : Option IO.FS.Handle := none

def LogLevel.rank : LogLevel → Nat
  | .trace => 0
  | .debug => 1
  | .info => 2
  | .warn => 3
  | .error => 4

def Log.write (log : Log) (level : LogLevel) (line : String) : IO Unit := do
  if LogLevel.rank log.level ≤ LogLevel.rank level then
    let entry := s!"{level.label} {line}\n"
    IO.print entry
    if let some file := log.file then
      file.putStr entry
      file.flush

/-! ## Datagrams -/

structure State where
  socket : IO.Ref (Option UDP.Socket)
  log : IO.Ref Log

namespace State

def openSocket (address : Std.Net.SocketAddress) (state : State) : IO Std.Net.SocketAddress := do
  let socket ← UDP.Socket.mk
  socket.bind address
  state.socket.set (some socket)
  socket.getSockName

def send (address : Std.Net.SocketAddress) (octets : Octets) (state : State) : IO Unit := do
  if let some socket ← state.socket.get then
    (socket.send ⟨octets.toArray⟩ (some address)).block

/-- Something that ends the wait for datagrams. -/
abbrev End := Async (Selector Unit)

def largestDatagram : UInt64 := 65536

/-- The next datagram, or none at the end. -/
def receive (stop : End) (state : State) : IO (Option (SocketAddress × Octets)) := do
  let some socket ← state.socket.get | return none
  let wait : Async (Option (SocketAddress × Octets)) := do
    Selectable.one #[
      .case (socket.recvSelector largestDatagram) fun (octets, sender) =>
        return sender.map fun sender => (SocketAddress.ofStd sender, octets.data.toList),
      .case (← stop) fun _ => return none]
  wait.block

/-- Hands datagrams over until the end, or until nothing is waited for any more. -/
partial def deliver (stop : End) (waiting : StateT Endpoint IO Bool)
    (take : SocketAddress → Octets → StateT Endpoint IO Unit) (state : State) :
    StateT Endpoint IO Unit := do
  if ← waiting then
    match ← (state.receive stop : IO _) with
    | some (sender, octets) =>
      take sender octets
      deliver stop waiting take state
    | none => pure ()

/-- Lets the machine do what an endpoint asks for. While a call waits, datagrams are handled. -/
def environment (state : State) : Endpoint.Environment IO :=
  let bare : Endpoint.Environment IO := {
    bind := fun address => attempt do
      return SocketAddress.ofStd (← state.openSocket (SocketAddress.toStd address))
    send := fun address octets => attempt (state.send (SocketAddress.toStd address) octets)
    log := fun level line => do (← state.log.get).write level line
    await := fun _ => pure ()
    custom := fun _ _ _ => pure (.ok ()) }
  { bare with
    await := fun ticket => do
      let timeout := (← get).settings.responseTimeout
      let start ← (IO.monoMsNow : BaseIO Nat)
      let stop : End := do
        let passed := (← (IO.monoMsNow : BaseIO Nat)) - start
        Selector.sleep (.ofNat (timeout.toNat - passed))
      let waiting : StateT Endpoint IO Bool := do
        return ((← get).pending.signals.lookup ticket).isNone
      let take (sender : SocketAddress) (octets : Octets) : StateT Endpoint IO Unit := do
        let _ ← (Endpoint.receive sender octets).within bare
      deliver stop waiting take state }

end State

/-! ## The host -/

def configDirectory : IO (Option String) := do
  if let some path ← IO.getEnv "XDG_CONFIG_HOME" then
    if path.startsWith "/" then return some path
  return (← IO.getEnv "HOME").map (· ++ "/.config")

/-- The whole content of a file. -/
def content (path : String) : IO Octets := do
  return (← IO.FS.readBinFile path).data.toList

def openLog (state : State) (level : LogLevel) (path : Option String) : IO Unit := do
  let file ← path.mapM fun path => IO.FS.Handle.mk path .append
  state.log.set { level, file }

def interrupted (waiter : Signal.Waiter) : State.End := return waiter.selector

def host (state : State) : CommandLine.Host IO where
  name := do
    try Std.Async.System.getHostName
    catch _ => return "unknown"
  seed := return .ofNat (← IO.rand 0 0xffffffff)
  configDirectory
  holds path := do
    try
      let _ ← IO.FS.Handle.mk path .read
      return true
    catch _ => return false
  load path := attempt (content path)
  save path content := attempt (IO.FS.writeFile path content)
  openLog level path := attempt (openLog state level path)
  print text := do
    IO.print text
    (← IO.getStdout).flush
  printError text := IO.eprint text
  clock := return (← IO.monoNanosNow) / 1000
  network := state.environment
  serve take := do
    let waiter ← (Signal.Waiter.mk .sigint false : IO _)
    state.deliver (interrupted waiter) (pure true) take

end GtpControl.Machine

open GtpControl in
def main (arguments : List String) : IO UInt32 := do
  let state : Machine.State := { socket := ← IO.mkRef none, log := ← IO.mkRef {} }
  return (← CommandLine.run (Machine.host state) arguments).toUInt32
