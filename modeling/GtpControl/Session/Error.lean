import GtpControl.Value.Address

/-! # Why an operation on sessions fails -/
namespace GtpControl

/-- Stages in the life of a session. -/
inductive SessionState where
  /-- not yet confirmed by the peer -/
  | created
  | active
  /-- without user plane, but kept -/
  | idle
  | inactive
deriving DecidableEq, Repr, Inhabited

def SessionState.label : SessionState → String
  | .created => "created"
  | .active => "active"
  | .idle => "idle"
  | .inactive => "inactive"

/-- What was looked for in vain. -/
inductive Missing where
  | teid (teid : UInt32) (peer : SocketAddress)
  | imsi (imsi : String)
  | imsiOfTeid (teid : UInt32)
  | peerTeid (localInterface : UInt8)
deriving DecidableEq, Repr

/-- An end point number with its eight digits. -/
def teidText (teid : UInt32) : String := hexPadded 8 teid.toNat

def Missing.message : Missing → String
  | .teid number peer => s!"TEID {teidText number} from {peer.toText}"
  | .imsi digits => s!"IMSI {digits}"
  | .imsiOfTeid number => s!"IMSI for TEID {teidText number}"
  | .peerTeid localInterface => s!"peer TEID besides interface type {localInterface}"

inductive SessionError where
  | notFound (what : Missing)
  | imsiMissing
  | invalidTransition (origin target : SessionState)
  | teidNotFound (interface : UInt8)
  | teidExhausted
deriving DecidableEq, Repr

def SessionError.message : SessionError → String
  | .notFound what => s!"Session not found: {what.message}"
  | .imsiMissing => "Session not activatable: IMSI is missing"
  | .invalidTransition origin target =>
    s!"Invalid session state transition: {origin.label} -> {target.label}"
  | .teidNotFound interface => s!"No TEID bound for interface type {interface}"
  | .teidExhausted => "TEID range exhausted"

end GtpControl
