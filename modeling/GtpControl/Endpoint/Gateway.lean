import GtpControl.Endpoint.Action

/-! # The gateway's side of the session procedures

Requests about a tunnel end point that is unknown to their sender are answered with the cause that
says so, and create requests that lack a mandatory element with one that names the element. -/
namespace GtpControl.Endpoint.Gateway
open Endpoint.Action Catalog.V2 Element
variable {m : Type → Type} [Monad m]

/-- A response to the end point of a peer. -/
def response (kind : Kind) (teid : UInt32) (elements : List Element) : Message :=
  .make .v2 kind { teid := some teid } elements

/-- Refuses messages of other kinds. -/
def expect (kind : Kind) (message : Message) : Action m Unit :=
  if message.kind = kind then pure () else throw (.handler s!"unexpected {message.typeName}")

/-- The session that a request is about, if it belongs to the sender. -/
def find (peer : SocketAddress) (request : Message) : Action m (Option SessionId) := do
  match (← get).registry.lookupTeid (request.teid?.getD 0) peer with
  | .ok id => return some id
  | .error e =>
    log .debug s!"{request.typeName} for unknown session: {(EndpointError.session e).message}"
    return none

def answerUnknown (peer : SocketAddress) (request : Message) (kind : Kind) : Action m Unit :=
  respond peer request (response kind 0 [V2.ofCause Cause.contextNotFound])

/-- The end point of the peer of a session. -/
def peerTeid (id : SessionId) : Action m UInt32 := do
  let endpoint ← get
  (endpoint.session id).remoteTeid endpoint.interface

/-- Answers a create request that lacks an element, and fails. -/
def rejectIncomplete (peer : SocketAddress) (request : Message) (teid : UInt32)
    (missing : UInt8) : Action m Unit := do
  let offending ← Element.make .v2 missing 0 []
  let cause := V2.ofCauseWith Cause.mandatoryMissing false false false (some offending)
  respond peer request (response .createSessionResponse teid [cause])
  throw (.missingElement missing)

def createSession (peer : SocketAddress) (request : Message) : Action m Unit := do
  expect .createSessionRequest request
  let some sender := request.field? .senderFteidC
    | rejectIncomplete peer request 0 Code.fteid
  let remote ← V2.teid sender
  if (request.field? .imsi).isNone then
    rejectIncomplete peer request remote Code.imsi
  else
    let session ← Session.ofRequest peer request
    let session := session.setTeid (← V2.interfaceType sender) remote
    let fteid ← newAdvertisedFteid
    let own ← V2.teid fteid
    let session := session.setTeid (← get).interface own
    let grants := session.grants own
    let (applied, session) := (grants.forM Session.applyContext : Edit Session Unit).run session
    ofCoded applied
    let session ← session.activate
    let id ← keepSession session
    register own id session
    log .info (s!"Session for {session.subscriber.imsi.getD default} created by {peer.toText} " ++
      s!"(local TEID {teidText own})")
    let elements := [V2.ofCause Cause.accepted, fteid] ++ (request.field? .paa).toList ++ grants
    respond peer request (response .createSessionResponse remote elements)

def modifyBearer (peer : SocketAddress) (request : Message) : Action m Unit := do
  expect .modifyBearerRequest request
  let some id ← find peer request | answerUnknown peer request .modifyBearerResponse
  let remote ← peerTeid id
  let contexts ← editSession id (Session.applyModification request)
  moveSession id Session.resume
  respond peer request
    (response .modifyBearerResponse remote (V2.ofCause Cause.accepted :: contexts))

def deleteSession (peer : SocketAddress) (request : Message) : Action m Unit := do
  expect .deleteSessionRequest request
  let some id ← find peer request | answerUnknown peer request .deleteSessionResponse
  let remote ← peerTeid id
  moveSession id Session.deactivate
  dropSession id
  log .info s!"Session with {peer.toText} deleted (peer TEID {teidText remote})"
  respond peer request (response .deleteSessionResponse remote [V2.ofCause Cause.accepted])

def releaseAccessBearers (peer : SocketAddress) (request : Message) : Action m Unit := do
  expect .releaseAccessBearersRequest request
  let some id ← find peer request | answerUnknown peer request .releaseAccessBearersResponse
  let remote ← peerTeid id
  moveSession id Session.setIdle
  respond peer request (response .releaseAccessBearersResponse remote [V2.ofCause Cause.accepted])

end GtpControl.Endpoint.Gateway
