import GtpControl.Catalog.Cause
import GtpControl.Element.V2
import GtpControl.Message
import GtpControl.Session

/-! # What requests and responses say about sessions

Edits keep what they did before they failed. -/
namespace GtpControl
open Element Catalog.V2

/-- A change of a state that may fail half way. -/
abbrev Edit (σ α : Type) := ExceptT CodecError (StateM σ) α

/-- Works on a part of a state. -/
def Edit.within {σ τ α : Type} (part : τ) (put : τ → σ → σ) (edit : Edit τ α) : Edit σ α :=
  ExceptT.mk do
    let (result, part) := edit.run part
    modify (put part)
    return result

namespace Bearer

/-- Binds the end point that an element names. -/
def bindFteid (fteid : Element) : Edit Bearer Unit := do
  let interface ← V2.interfaceType fteid
  let teid ← V2.teid fteid
  modify (setTeid interface teid)

/-- Takes over what a bearer context says. -/
def fill (context : Element) : Edit Bearer Unit := do
  if let .ok child := context.findChild .v2 Code.ebi 0 then
    let ebi ← V2.ebi child
    modify fun bearer => { bearer with ebi }
  if let .ok child := context.findChild .v2 Code.bearerQos 0 then
    let qos ← V2.bearerQos child
    modify fun bearer => { bearer with qos }
  if let .ok child := context.findChild .v2 Code.chargingId 0 then
    let chargingId ← V2.chargingId child
    modify fun bearer => { bearer with chargingId }
  (context.children.filter (·.type == Code.fteid)).forM bindFteid

/-- A bearer that starts from the given one. -/
def filled (context : Element) (bearer : Bearer) : Coded Bearer :=
  match (fill context).run bearer with
  | (.ok (), bearer) => pure bearer
  | (.error e, _) => throw e

end Bearer

namespace Session

/-- The name of a bearer that is not the default one. -/
def bearerName (ebi : UInt8) : String := s!"bearer-{ebi}"

/-- The session that a create request describes, without end points. The first bearer to be created is
the default one. -/
def ofRequest (peer : SocketAddress) (request : Message) : Coded Session := do
  let plmn ← (request.field? .servingNetwork).mapM V2.servingNetwork
  let ratType ← (request.field? .ratType).mapM V2.ratType
  let report := (request.field? .uli).map (·.payload)
  let imsi ← (request.field? .imsi).mapM V2.imsi
  let msisdn ← (request.field? .msisdn).mapM V2.msisdn
  let imei ← (request.field? .mei).mapM V2.mei
  let apn := (← (request.field? .apn).mapM V2.apn).getD ""
  let bearer : Bearer := {
    apn
    subscriberIp := (request.field? .paa).bind fun paa => (V2.pdnAddress paa).toOption }
  let contexts := request.field .bearerContextsToBeCreated
  let defaultBearer ←
    match contexts with
    | first :: _ => bearer.filled first
    | [] => pure bearer
  let session : Session := {
    peer
    subscriber := { imsi, msisdn, imei, location := some { plmn, ratType, report } }
    defaultBearer }
  contexts.tail.foldlM
    (fun session context => do
      let bearer ← Bearer.filled context { apn }
      return session.setBearer (bearerName bearer.ebi) bearer)
    session

/-- Applies a bearer context to the bearer with its identity, or adds that bearer. -/
def applyContext (context : Element) : Edit Session Unit := do
  let child ← context.findChild .v2 Code.ebi 0
  let ebi ← V2.ebi child
  match (← get).bearerWithEbi? ebi with
  | some (name, bearer) => Edit.within bearer (setBearer name) (Bearer.fill context)
  | none =>
    let bearer ← Bearer.filled context {}
    modify (setBearer (bearerName ebi) bearer)

def bindFteid (fteid : Element) : Edit Session Unit := do
  let interface ← V2.interfaceType fteid
  let teid ← V2.teid fteid
  modify (setTeid interface teid)

/-- Applies what the peer answered to a create request. -/
def applyCreated (response : Message) : Edit Session Unit := do
  (response.field? .senderFteidC).forM bindFteid
  (response.field? .pgwS5s8FteidC).forM bindFteid
  if let some paa := response.field? .paa then
    let address ← V2.pdnAddress paa
    modify fun session =>
      { session with defaultBearer := { session.defaultBearer with subscriberIp := some address } }
  (response.field .bearerContextsCreated).forM applyContext

/-- Contexts that grant all bearers of a session under one charging identifier. -/
def grants (chargingId : UInt32) (session : Session) : List Element :=
  session.bearers.map fun (_, bearer) => V2.ofBearerContext [
    V2.ofEbi bearer.ebi, V2.ofCause Cause.accepted, V2.ofChargingId chargingId]

/-- Moves a subscriber whose place was known. -/
def relocate (request : Message) : Edit Session Unit := do
  let some location := (← get).subscriber.location | return
  let stated : Coded (Option UInt8) := (request.field? .ratType).mapM V2.ratType
  let location : Location := { location with
    ratType := (← stated).or location.ratType
    report := ((request.field? .uli).map (·.payload)).or location.report }
  modify fun session =>
    { session with subscriber := { session.subscriber with location := some location } }

/-- Applies a modify request. Its result are the contexts of the response. -/
def applyModification (request : Message) : Edit Session (List Element) := do
  let contexts ← (request.field .bearerContextsToBeModified).mapM fun context => do
    applyContext context
    let child ← context.findChild .v2 Code.ebi 0
    return V2.ofBearerContext [V2.ofEbi (← V2.ebi child), V2.ofCause Cause.accepted]
  relocate request
  return contexts

end Session
end GtpControl
