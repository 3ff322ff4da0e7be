import GtpControl.Endpoint.Serving

/-! # Procedures: requests of an endpoint, and what their replies do

A reply goes to the handler of its type if there is one. Otherwise the procedure applies the reply to
its session itself. -/
namespace GtpControl.Endpoint
open Endpoint.Action Catalog.V2 Element
variable {m : Type → Type} [Monad m]

/-- A request that has been sent. -/
structure Call where
  ticket : Ticket
  key : CallKey
  request : Message

structure Reply where
  peer : SocketAddress
  message : Message
  /-- the cause of the reply; echo responses have none -/
  cause : Option UInt8 := none

/-! ## Calls -/

/-- Draws a sequence number for a request and opens its call. -/
def openCall (peer : SocketAddress) (request : Message) : Action m Call := do
  if (← get).closed then throw .cancelled
  let sequence ← nextSequence
  let key : CallKey := ⟨sequence, peer⟩
  match (← get).pending.open? key with
  | some (ticket, pending) =>
    modify ({ · with pending })
    return { ticket, key, request := request.setSequence sequence }
  | none => throw .cancelled

def forget (call : Call) : Action m Unit :=
  modify fun endpoint => { endpoint with
    pending := endpoint.pending.forget call.key call.ticket }

/-- Sends the request of a call; a call whose request cannot be sent is given up. -/
def transmit (call : Call) : Action m Unit := do
  try send call.key.peer call.request
  catch e =>
    forget call
    throw e

/-- How a call has ended. One that has not been signalled has run out of time. -/
def finish (call : Call) : Action m Message := do
  let (signal, pending) := (← get).pending.collect call.ticket
  modify ({ · with pending })
  match signal with
  | some (.reply message) => return message
  | some .cancelled => throw .cancelled
  | none =>
    forget call
    let name := call.request.typeName
    log .debug
      s!"No reply to {name} (sequence {call.key.sequence}) from {call.key.peer.toText}"
    throw (.timeout name call.key.sequence)

/-- Sends a request under a fresh sequence number and waits for the reply. -/
def request (peer : SocketAddress) (message : Message) : Action m Message := do
  let call ← openCall peer message
  transmit call
  let environment ← read
  (environment.await call.ticket : StateT Endpoint m Unit)
  finish call

/-! ## Replies -/

/-- Gives a reply to the handler of its type. Whether there is one. -/
def deliver (peer : SocketAddress) (reply : Message) : Action m Bool := do
  match (← get).handlers.get? reply.type with
  | some handler =>
    handler.run peer reply
    return true
  | none => return false

/-- The name of messages of a kind. -/
def kindName (kind : Kind) : String := (kind.type?.map Version.v2.messageName).getD "Unknown"

def expectReply (kind : Kind) (reply : Message) : Action m Unit :=
  if reply.kind = kind then pure ()
  else throw (.unexpectedResponse (kindName kind) reply.typeName)

/-- The cause with which a response grants a request. -/
def acceptedCause (asked : Kind) (response : Message) : Except EndpointError UInt8 := do
  let some element := response.field? .cause | throw (.missingElement Code.cause)
  match V2.cause element with
  | .error e => throw (.codec e)
  | .ok cause =>
    if Version.v2.isAccepted cause then pure cause
    else throw (.causeNotAccepted (kindName asked) cause)

/-! ## Procedures -/

def echo (peer : SocketAddress) : Action m Reply := do
  let counter := V2.ofRecovery (← get).settings.recovery
  let message ← request peer (.make .v2 .echoRequest {} [counter])
  let _ ← deliver peer message
  expectReply .echoResponse message
  return { peer, message }

/-- The part of the creation of a session after its registration. -/
def confirmSession (peer : SocketAddress) (message : Message) (id : SessionId) :
    Action m Reply := do
  let message ← request peer message
  let handled ← deliver peer message
  expectReply .createSessionResponse message
  let cause ← acceptedCause .createSessionRequest message
  unless handled do
    editSession id (Session.applyCreated message)
    moveSession id Session.activate
  let imsi := ((← get).session id).subscriber.imsi.getD "unknown IMSI"
  log .info s!"Session for {imsi} created with {peer.toText}"
  return { peer, message, cause := some cause }

/-- Creates a session with a peer. An end point is allocated unless the elements name one. The
session is registered before the request is sent, and removed again if the request fails. -/
def createSession (peer : SocketAddress) (elements : List Element) :
    Action m (SessionId × Reply) := do
  let message := Message.make .v2 .createSessionRequest {} elements
  if (message.field? .imsi).isNone then throw (.missingElement Code.imsi)
  let message ←
    if (message.field? .senderFteidC).isSome then pure message
    else pure (message.put (← newAdvertisedFteid))
  let session ← Session.ofRequest peer message
  let some sender := message.field? .senderFteidC | throw (.missingElement Code.fteid)
  let (bound, session) := (Session.bindFteid sender).run session
  ofCoded bound
  let own ← V2.teid sender
  let id ← keepSession session
  register own id session
  try
    return (id, ← confirmSession peer message id)
  catch e =>
    dropSession id
    throw e

/-- Sends a request about a session to the end point of its peer. The reply, and whether a handler
had it. -/
def requestAbout (id : SessionId) (kind : Kind) (elements : List Element) :
    Action m (SocketAddress × Message × Bool) := do
  let peer := ((← get).session id).peer
  let teid ← Gateway.peerTeid id
  let message ← request peer (.make .v2 kind { teid := some teid } elements)
  return (peer, message, ← deliver peer message)

def modifyBearer (id : SessionId) (elements : List Element) : Action m Reply := do
  let (peer, message, handled) ← requestAbout id .modifyBearerRequest elements
  expectReply .modifyBearerResponse message
  let cause ← acceptedCause .modifyBearerRequest message
  unless handled do
    editSession id ((message.field .bearerContextsModified).forM Session.applyContext)
    moveSession id Session.resume
  return { peer, message, cause := some cause }

/-- Whether the peer has no such session any more. -/
def isGone : Except EndpointError UInt8 → Bool
  | .ok _ => true
  | .error (.causeNotAccepted _ cause) => cause == Cause.contextNotFound
  | .error _ => false

/-- Deletes a session. It is also removed here when the peer does not know it. -/
def deleteSession (id : SessionId) (elements : List Element) : Action m Reply := do
  let (peer, message, handled) ← requestAbout id .deleteSessionRequest elements
  expectReply .deleteSessionResponse message
  let result := acceptedCause .deleteSessionRequest message
  if !handled && isGone result then
    try moveSession id Session.deactivate catch _ => pure ()
    dropSession id
  return { peer, message, cause := some (← MonadExcept.ofExcept result) }

/-- Opens the socket of an endpoint that mostly talks to one peer, and starts serving. -/
def dial (peer : SocketAddress) : Action m Unit := do
  let _ ← listen
  modify ({ · with peer := some peer })
  let _ ← startServing

end GtpControl.Endpoint
