import GtpControl.Session

/-! # The registry: sessions by tunnel end point number and by subscriber

Sessions change while they are registered, so the registry holds references to them. An entry keeps
the peer that its session belongs to, and no other peer finds the session by the number. -/
namespace GtpControl

/-- A reference to a session. -/
abbrev SessionId := Nat

structure TeidEntry where
  session : SessionId
  peer : SocketAddress
deriving DecidableEq, Repr

structure Registry where
  byTeid : Bindings UInt32 TeidEntry := {}
  byImsi : Bindings String SessionId := {}
deriving DecidableEq, Repr, Inhabited

namespace Registry

def isBound (id : SessionId) (registry : Registry) : Bool :=
  registry.byTeid.values.any (·.session == id)

def dropImsis (id : SessionId) (registry : Registry) : Registry :=
  { registry with byImsi := registry.byImsi.filter fun _ session => session != id }

/-- Binds a number to a session and indexes the session by its subscriber, if that is known. A
session that loses its last number by this is forgotten. -/
def register (teid : UInt32) (id : SessionId) (session : Session) (registry : Registry) :
    Registry :=
  let previous := registry.byTeid.get? teid
  let bound : Registry :=
    { byTeid := registry.byTeid.insert teid ⟨id, session.peer⟩
      byImsi :=
        match session.subscriber.imsi with
        | some imsi => registry.byImsi.insert imsi id
        | none => registry.byImsi }
  match previous with
  | some entry =>
    if entry.session = id || bound.isBound entry.session then bound
    else bound.dropImsis entry.session
  | none => bound

/-- The session with this number, for its own peer only; the port does not matter. -/
def lookupTeid (teid : UInt32) (peer : SocketAddress) (registry : Registry) :
    Except SessionError SessionId :=
  match registry.byTeid.get? teid with
  | some entry =>
    if entry.peer.ip = peer.ip then pure entry.session else throw (.notFound (.teid teid peer))
  | none => throw (.notFound (.teid teid peer))

def lookupImsi (imsi : String) (registry : Registry) : Except SessionError SessionId :=
  match registry.byImsi.get? imsi with
  | some id => pure id
  | none => throw (.notFound (.imsi imsi))

/-- The subscriber of the session with this number. -/
def imsiOfTeid (session? : SessionId → Option Session) (teid : UInt32) (peer : SocketAddress)
    (registry : Registry) : Except SessionError String := do
  let id ← registry.lookupTeid teid peer
  match (session? id).bind (·.subscriber.imsi) with
  | some imsi => pure imsi
  | none => throw (.notFound (.imsiOfTeid teid))

def containsTeid (teid : UInt32) (registry : Registry) : Bool := registry.byTeid.contains teid

def teids (registry : Registry) : List UInt32 := registry.byTeid.keys

/-- Removes a session from both indices. -/
def remove (id : SessionId) (registry : Registry) : Registry :=
  dropImsis id { registry with byTeid := registry.byTeid.filter fun _ entry => entry.session != id }

/-- The removed session, and the registry without it. -/
def removeImsi (imsi : String) (registry : Registry) : Except SessionError (SessionId × Registry) := do
  let id ← registry.lookupImsi imsi
  return (id, registry.remove id)

/-- The sessions that one of the indices leads to, each once. -/
def sessions (registry : Registry) : List SessionId :=
  (registry.byTeid.values.map (·.session) ++ registry.byImsi.values).eraseDups

/-- Bearers of all registered sessions. -/
def bearerCount (session? : SessionId → Option Session) (registry : Registry) : Nat :=
  total ((registry.sessions.filterMap session?).map (·.bearerCount))

def count (registry : Registry) : Nat := registry.sessions.length

end Registry
end GtpControl
