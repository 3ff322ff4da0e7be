import GtpControl.Endpoint.Event
import GtpControl.Endpoint.Handler
import GtpControl.Endpoint.Pending
import GtpControl.Endpoint.Settings
import GtpControl.Session.Negotiation
import GtpControl.Session.Registry
import GtpControl.Text.Optional

/-! # Endpoints: one end of the control protocol, with its sessions and its open calls -/
namespace GtpControl

structure Endpoint where
  /-- the address to bind -/
  address : SocketAddress
  interface : UInt8
  settings : Endpoint.Settings
  /-- the address of the socket, once there is one -/
  bound : Option SocketAddress := none
  peer : Option SocketAddress := none
  /-- the sequence number given out last -/
  sequence : Sequence
  pool : TeidPool
  handlers : Bindings UInt8 Handler := Handler.standard
  registry : Registry := {}
  /-- every session made so far; a reference is a place in this list -/
  sessions : List Session := []
  pending : Pending := {}
  closed : Bool := false
  /-- events that nobody has looked at yet -/
  events : List Event := []
  /-- whether somebody watches the events -/
  watched : Bool := false

namespace Endpoint

/-- Sequence numbers and end point numbers both start from the seed. -/
def make (address : SocketAddress) (interface : UInt8) (seed : UInt32) (settings : Settings) :
    Endpoint where
  address
  interface
  settings
  sequence := .ofUInt32 seed
  pool := (TeidPool.ofRange settings.teidRange).withStart seed

def localAddress (endpoint : Endpoint) : SocketAddress := endpoint.bound.getD endpoint.address

/-- The address that peers are told; one that stands for all addresses is not told. -/
def advertised (endpoint : Endpoint) : Option Ipv4Address × Option Ipv6Address :=
  match endpoint.localAddress.ip with
  | .v4 ip => (if ip = .unspecified then none else some ip, none)
  | .v6 ip => (none, if ip = .unspecified then none else some ip)

/-- The state in one line. -/
def summary (endpoint : Endpoint) : String :=
  let peer := Text.optional (endpoint.peer.map (·.toText))
  s!"Conn \x7b local_addr: {endpoint.localAddress.toText}, peer_addr: {peer}, " ++
    s!"interface_type: {endpoint.interface}, closed: {endpoint.closed} \x7d"

/-! ## Sessions -/

def session? (id : SessionId) (endpoint : Endpoint) : Option Session := endpoint.sessions[id]?

/-- The session of a reference. References come from the list, so that none leads nowhere. -/
def session (id : SessionId) (endpoint : Endpoint) : Session := (endpoint.session? id).getD default

def setSession (id : SessionId) (session : Session) (endpoint : Endpoint) : Endpoint :=
  { endpoint with sessions := endpoint.sessions.set id session }

/-- Keeps a new session, which is not registered yet. -/
def addSession (session : Session) (endpoint : Endpoint) : SessionId × Endpoint :=
  (endpoint.sessions.length, { endpoint with sessions := endpoint.sessions ++ [session] })

def removeSession (id : SessionId) (endpoint : Endpoint) : Endpoint :=
  { endpoint with registry := endpoint.registry.remove id }

def sessionCount (endpoint : Endpoint) : Nat := endpoint.registry.count

def bearerCount (endpoint : Endpoint) : Nat := endpoint.registry.bearerCount endpoint.session?

/-! ## Handlers and events -/

def removeHandler (type : UInt8) (endpoint : Endpoint) : Bool × Endpoint :=
  (endpoint.handlers.contains type,
    { endpoint with handlers := endpoint.handlers.erase type })

/-- Whether the caller becomes the one who watches the events. -/
def watch (endpoint : Endpoint) : Bool × Endpoint := (!endpoint.watched, { endpoint with watched := true })

/-- Events are lost when too many of them wait. -/
def queueEvent (event : Event) (endpoint : Endpoint) : Endpoint :=
  if endpoint.events.length < max 1 endpoint.settings.eventCapacity.toNat then
    { endpoint with events := endpoint.events ++ [event] }
  else endpoint

/-- The events since the last look. -/
def takeEvents (endpoint : Endpoint) : List Event × Endpoint :=
  (endpoint.events, { endpoint with events := [] })

/-- Cancels all calls and refuses new ones. -/
def close (endpoint : Endpoint) : Endpoint :=
  { endpoint with closed := true, pending := endpoint.pending.cancelAll }

end Endpoint
end GtpControl
