import GtpControl.Session.Bearer
import GtpControl.Session.Error
import GtpControl.Value.Plmn

/-! # Sessions: the state of one subscriber at one peer -/
namespace GtpControl

/-- Where a subscriber is attached. -/
structure Location where
  plmn : Option Plmn := none
  ratType : Option UInt8 := none
  /-- the reported location, as it came -/
  report : Option Octets := none
deriving DecidableEq, Repr, Inhabited

/-- What is known of a subscriber. -/
structure Subscriber where
  imsi : Option String := none
  msisdn : Option String := none
  imei : Option String := none
  location : Option Location := none
deriving DecidableEq, Repr, Inhabited

/-- A session always has its default bearer. -/
structure Session where
  peer : SocketAddress
  state : SessionState := .created
  subscriber : Subscriber := {}
  teids : TeidMap := {}
  defaultBearer : Bearer := {}
  /-- the other bearers, by name -/
  dedicated : Bindings String Bearer := {}
deriving DecidableEq, Repr, Inhabited

namespace Session

def isActive (session : Session) : Bool := session.state == .active

/-! ## Life cycle -/

/-- Only a session of a known subscriber becomes active. -/
def activate (session : Session) : Except SessionError Session :=
  if session.subscriber.imsi = none then throw .imsiMissing
  else if session.state = .inactive then throw (.invalidTransition .inactive .active)
  else pure { session with state := .active }

def setIdle (session : Session) : Except SessionError Session :=
  if session.state = .active then pure { session with state := .idle }
  else throw (.invalidTransition session.state .idle)

/-- Ends idling; other sessions stay as they are. -/
def resume (session : Session) : Except SessionError Session :=
  if session.state = .idle then session.activate else pure session

/-- There is no way back from here. -/
def deactivate (session : Session) : Except SessionError Session :=
  if session.state = .inactive then throw (.invalidTransition .inactive .inactive)
  else pure { session with state := .inactive }

/-! ## Tunnel end points of the control plane -/

def setTeid (interface : UInt8) (teid : UInt32) (session : Session) : Session :=
  { session with teids := session.teids.insert interface teid }

def teid (interface : UInt8) (session : Session) : Except SessionError UInt32 :=
  match session.teids.get? interface with
  | some teid => pure teid
  | none => throw (.teidNotFound interface)

/-- The first end point on an interface that is not ours. -/
def remoteTeid (localInterface : UInt8) (session : Session) : Except SessionError UInt32 :=
  match session.teids.entries.find? (·.1 ≠ localInterface) with
  | some (_, teid) => pure teid
  | none => throw (.notFound (.peerTeid localInterface))

/-! ## Bearers -/

def defaultName : String := "default"

/-- The default bearer first, then the others in the order in which they were added. -/
def bearers (session : Session) : List (String × Bearer) :=
  (defaultName, session.defaultBearer) :: session.dedicated.entries

def bearerCount (session : Session) : Nat := session.bearers.length

def bearer? (name : String) (session : Session) : Option Bearer :=
  if name = defaultName then some session.defaultBearer else session.dedicated.get? name

/-- The first bearer with this identity. -/
def bearerWithEbi? (ebi : UInt8) (session : Session) : Option (String × Bearer) :=
  session.bearers.find? (·.2.ebi = ebi)

/-- Adds a bearer, or replaces the one of the same name. -/
def setBearer (name : String) (bearer : Bearer) (session : Session) : Session :=
  if name = defaultName then { session with defaultBearer := bearer }
  else { session with dedicated := session.dedicated.insert name bearer }

/-- The default bearer stays. -/
def removeBearer (name : String) (session : Session) : Option Bearer × Session :=
  if name = defaultName then (none, session)
  else (session.dedicated.get? name, { session with dedicated := session.dedicated.erase name })

end Session
end GtpControl
