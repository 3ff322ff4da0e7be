import GtpControl.Endpoint.Gateway
import GtpControl.Text.Optional

/-! # Serving: what an endpoint does with the datagrams that reach it

Replies go to the calls that wait for them. All else, and replies that nobody waits for, goes to the
handler of the message type. Requests of older versions are told that the version is not
supported. -/
namespace GtpControl
open Endpoint Action
variable {m : Type → Type} [Monad m]

namespace Handler
open Element

/-- Handles a message of a peer. -/
def run (handler : Handler) (peer : SocketAddress) (message : Message) : Action m Unit :=
  match handler with
  | .echoRequest => do
    let counter := V2.ofRecovery (← get).settings.recovery
    respond peer message (.make .v2 .echoResponse {} [counter])
  | .echoResponse =>
    if message.kind = .echoResponse then
      let counter := (message.field? .recovery).bind fun element => (V2.recovery element).toOption
      log .debug (s!"Echo Response from {peer.toText} (sequence {message.sequence}, " ++
        s!"restart counter {Text.optional (counter.map toString)})")
    else pure ()
  | .versionNotSupported =>
    log .warn s!"{peer.toText} does not support GTPv2 (sequence {message.sequence})"
  | .createSession => Gateway.createSession peer message
  | .modifyBearer => Gateway.modifyBearer peer message
  | .deleteSession => Gateway.deleteSession peer message
  | .releaseAccessBearers => Gateway.releaseAccessBearers peer message
  | .ignore => pure ()
  | .refuse reason => throw (.handler reason)
  | .custom name => ofCustom name peer message

end Handler

namespace Endpoint

/-- The type of a Version Not Supported Indication. -/
def versionNotSupported : UInt8 := 3

/-- Answers requests of older versions, and drops all else. -/
def rejectVersion (peer : SocketAddress) (octets : Octets) (version : UInt8) : Action m Unit := do
  match Message.parseAny .lenient octets with
  | .ok request =>
    match request.version with
    | .v0 | .v1 => unless request.isReply do answer request
    | .prime => pure ()
    | .v2 => drop
  | .error _ => drop
where
  drop : Action m Unit :=
    emit (.parseFailed peer (CodecError.unsupportedVersion version).message)
  answer (request : Message) : Action m Unit := do
    let header := Header.make .v2 versionNotSupported { sequence := request.sequence }
    log .debug
      s!"Rejecting GTPv{request.version.number} {request.typeName} from {peer.toText}"
    try send peer (.ofElements header .generic [])
    catch e =>
      log .warn
        s!"Failed to send Version Not Supported Indication to {peer.toText}: {e.message}"

/-- Gives a reply to the call that waits for it. -/
def resolve (peer : SocketAddress) (message : Message) : Action m Match := do
  let (result, pending) := (← get).pending.resolve ⟨message.sequence, peer⟩ message
  modify ({ · with pending })
  return result

/-- What is left to handle of a datagram. -/
def accept (peer : SocketAddress) (octets : Octets) : Action m (Option (Handler × Message)) := do
  match Message.parse .v2 (← get).settings.lengthPolicy octets with
  | .error (.unsupportedVersion version) =>
    rejectVersion peer octets version
    return none
  | .error e =>
    emit (.parseFailed peer e.message)
    return none
  | .ok message =>
    log .trace
      s!"Received {message.typeName} (sequence {message.sequence}) from {peer.toText}"
    match ← if message.isReply then resolve peer message else pure .unmatched with
    | .resolved => return none
    | .duplicate =>
      emit (.duplicateReply peer message.type message.sequence)
      return none
    | .unmatched =>
      match (← get).handlers.get? message.type with
      | some handler => return some (handler, message)
      | none =>
        emit (.unhandled peer message.type)
        return none

/-- Runs a handler, and reports its failure. -/
def handle (handler : Handler) (peer : SocketAddress) (message : Message) : Action m Unit :=
  try handler.run peer message
  catch e => emit (.handlerFailed peer message.type e.message)

def dispatch (peer : SocketAddress) (octets : Octets) : Action m Unit := do
  if let some (handler, message) ← accept peer octets then handle handler peer message

/-! ## The life of a serving endpoint -/

/-- From here on datagrams are received. -/
def startServing : Action m SocketAddress := do
  let some bound := (← get).bound | throw .notListening
  emit (.started bound)
  return bound

/-- Takes in a datagram, as far as the buffer reaches. -/
def receive (peer : SocketAddress) (octets : Octets) : Action m Unit := do
  dispatch peer (octets.take (max 1 (← get).settings.bufferSize.toNat))

/-- After this no call waits, and none is opened any more. -/
def stopServing : Action m Unit := do
  modify close
  emit .stopped

/-- Stops because whoever had the endpoint serve wants no more of it. -/
def cancelServing : Action m Unit := do
  log .info s!"Serve loop on {(← get).localAddress.toText} cancelled"
  stopServing

end Endpoint
end GtpControl
