import GtpControl.Endpoint
import GtpControl.Endpoint.Error

/-! # Actions of an endpoint

An action reads and changes the endpoint, may fail, and reaches the outside through an environment.
What an action did to the endpoint before it failed stays done. -/
namespace GtpControl.Endpoint

/-- What surrounds an endpoint. Reasons for failures are texts of the surroundings. -/
structure Environment (m : Type → Type) where
  /-- opens a socket; its address may be more definite than the one asked for -/
  bind : SocketAddress → m (Except String SocketAddress)
  send : SocketAddress → Octets → m (Except String Unit)
  log : LogLevel → String → m Unit
  /-- lets the endpoint go on until a call is signalled or has waited too long -/
  await : Ticket → StateT Endpoint m Unit
  /-- what the user's handler of a name does with a message of a peer; it has the whole endpoint at
  its disposal, and may fail after all it has done -/
  custom : String → SocketAddress → Message → StateT Endpoint m (Except EndpointError Unit)

abbrev Action (m : Type → Type) : Type → Type :=
  ReaderT (Environment m) (ExceptT EndpointError (StateT Endpoint m))

namespace Action
variable {m : Type → Type} [Monad m] {α : Type}

/-- Runs an action in its surroundings. -/
def within (environment : Environment m) (action : Action m α) :
    StateT Endpoint m (Except EndpointError α) :=
  (action.run environment).run

/-- Something outside of the endpoint. -/
def outside (effect : Environment m → m α) : Action m α := do
  let environment ← read
  (effect environment : m α)

/-- What the user's handler of a name does. -/
def ofCustom (name : String) (peer : SocketAddress) (message : Message) : Action m Unit := do
  let environment ← read
  let result ← (environment.custom name peer message : StateT Endpoint m (Except EndpointError Unit))
  MonadExcept.ofExcept result

def ofCoded (result : Coded α) : Action m α := MonadExcept.ofExcept (result.mapError .codec)

def ofSession (result : Except SessionError α) : Action m α :=
  MonadExcept.ofExcept (result.mapError .session)

instance : MonadLift Coded (Action m) := ⟨ofCoded⟩

instance : MonadLift (Except SessionError) (Action m) := ⟨ofSession⟩

/-! ## Reports -/

def log (level : LogLevel) (line : String) : Action m Unit := outside (·.log level line)

/-- Reports an incident in the log and to who watches. -/
def emit (event : Event) : Action m Unit := do
  let (level, line) := event.logLine (← get).localAddress
  log level line
  modify (queueEvent event)

/-! ## Datagrams -/

/-- Opens the socket. -/
def listen : Action m SocketAddress := do
  let endpoint ← get
  if endpoint.bound.isSome then throw .alreadyListening
  match ← outside (·.bind endpoint.address) with
  | .ok bound =>
    modify ({ · with bound := some bound })
    log .info s!"GTPv2-C endpoint bound to {bound.toText}"
    return bound
  | .error reason => throw (.bind endpoint.address reason)

/-- Sends a message as it is. -/
def send (peer : SocketAddress) (message : Message) : Action m Unit := do
  if (← get).bound.isNone then throw .notListening
  let octets ← message.encode
  match ← outside (·.send peer octets) with
  | .ok () =>
    log .trace (s!"Sent {message.typeName} ({octets.length} bytes, " ++
      s!"sequence {message.sequence}) to {peer.toText}")
  | .error reason => throw (.io reason)

/-- Answers a request with a response that takes over its sequence number. -/
def respond (peer : SocketAddress) (request response : Message) : Action m Unit :=
  send peer (response.setSequence request.sequence)

/-! ## Sequence and end point numbers -/

def nextSequence : Action m UInt32 := do
  modify fun endpoint => { endpoint with sequence := endpoint.sequence.next }
  return .ofNat (← get).sequence

/-- Takes an end point number out of the pool that is not among the given ones. -/
def allocate (inUse : List UInt32) : Action m UInt32 := do
  match (← get).pool.allocate inUse.contains with
  | some (teid, pool) =>
    modify ({ · with pool })
    return teid
  | none => throw (.session .teidExhausted)

/-- An element that names a fresh end point at the given addresses. -/
def newFteid (v4 : Option Ipv4Address) (v6 : Option Ipv6Address) : Action m Element := do
  let inUse := (← get).registry.teids
  let teid ← allocate inUse
  return Element.V2.ofFteid (← get).interface teid v4 v6

/-- A fresh end point at the address of this endpoint. -/
def newAdvertisedFteid : Action m Element := do
  let (v4, v6) := (← get).advertised
  newFteid v4 v6

/-! ## Sessions and handlers -/

def keepSession (session : Session) : Action m SessionId :=
  modifyGet (Endpoint.addSession session)

/-- Registers a session that the endpoint keeps under an end point number. -/
def register (teid : UInt32) (id : SessionId) (session : Session) : Action m Unit := do
  modify fun endpoint => { endpoint with registry := endpoint.registry.register teid id session }
  log .debug s!"Registered TEID {teidText teid} for {session.peer.toText}"

def dropSession (id : SessionId) : Action m Unit := modify (Endpoint.removeSession id)

/-- Works on a session; an edit that fails may leave it half changed. -/
def editSession (id : SessionId) (edit : Edit Session α) : Action m α := do
  let (result, session) := edit.run ((← get).session id)
  modify (setSession id session)
  ofCoded result

/-- Moves a session on in its life. -/
def moveSession (id : SessionId) (step : Session → Except SessionError Session) :
    Action m Unit := do
  let session ← step ((← get).session id)
  modify (setSession id session)

def addHandler (type : UInt8) (handler : Handler) : Action m Unit := do
  modify fun endpoint => { endpoint with handlers := endpoint.handlers.insert type handler }
  log .debug s!"Handler registered for {Version.v2.messageName type}"

/-- Lets the endpoint answer the requests that a serving gateway gets. -/
def installGateway : Action m Unit := Handler.gateway.forM fun (type, handler) => addHandler type handler

end Action
end GtpControl.Endpoint
