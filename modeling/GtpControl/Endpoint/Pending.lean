import GtpControl.Message
import GtpControl.Session.Bindings
import GtpControl.Value.Address

/-! # Calls that wait for their reply

A call is found by the sequence number of its request and the address that the request went to, and
it is signalled at most once. The keys of the calls answered last are remembered, so that a reply
that is sent again is not taken for one that nobody asked for. Once closed, the table stays empty. -/
namespace GtpControl

/-- What a reply has in common with its request. -/
structure CallKey where
  sequence : UInt32
  peer : SocketAddress
deriving DecidableEq, Repr

/-- The number of a call, in the order of opening. -/
abbrev Ticket := Nat

/-- How a call ends, unless its time runs out. -/
inductive Resolution where
  | reply (message : Message)
  | cancelled
deriving DecidableEq, Repr

/-- What becomes of a reply. -/
inductive Match where
  /-- it ends a call -/
  | resolved
  /-- its call has its reply already -/
  | duplicate
  /-- there is no call -/
  | unmatched
deriving DecidableEq, Repr

structure Pending where
  waiting : Bindings CallKey Ticket := {}
  /-- the keys that are remembered -/
  answered : List CallKey := []
  /-- keys in the order in which they leave the memory -/
  order : List CallKey := []
  closed : Bool := false
  /-- calls opened so far -/
  opened : Nat := 0
  /-- signals that their calls have not seen yet -/
  signals : List (Ticket × Resolution) := []
deriving DecidableEq, Repr, Inhabited

namespace Pending

/-- How many answered calls are remembered. -/
def historySize : Nat := 1024

/-- Ends a call. -/
def signal (ticket : Ticket) (resolution : Resolution) (pending : Pending) : Pending :=
  { pending with signals := pending.signals ++ [(ticket, resolution)] }

/-- Opens a call, unless the table is closed. A call that waits under the same key is cancelled. -/
def open? (key : CallKey) (pending : Pending) : Option (Ticket × Pending) :=
  if pending.closed then none
  else
    let displaced :=
      match pending.waiting.get? key with
      | some ticket => pending.signal ticket .cancelled
      | none => pending
    some (pending.opened, { displaced with
      waiting := pending.waiting.insert key pending.opened
      answered := pending.answered.filter (· != key)
      opened := pending.opened + 1 })

/-- Remembers a key, and forgets the oldest ones beyond the size of the history. -/
def remember (key : CallKey) (pending : Pending) : Pending :=
  let known := pending.answered.contains key
  let answered := if known then pending.answered else key :: pending.answered
  let order := if known then pending.order else pending.order ++ [key]
  let surplus := order.take (order.length - historySize)
  { pending with
    answered := answered.filter (!surplus.contains ·)
    order := order.drop surplus.length }

/-- Gives a reply to the call that waits for it. -/
def resolve (key : CallKey) (message : Message) (pending : Pending) : Match × Pending :=
  match pending.waiting.get? key with
  | some ticket =>
    let answered := { pending with waiting := pending.waiting.erase key }.remember key
    (.resolved, answered.signal ticket (.reply message))
  | none => (if pending.answered.contains key then .duplicate else .unmatched, pending)

/-- Gives a call up. If another call waits under its key by now, that one is cancelled. -/
def forget (key : CallKey) (ticket : Ticket) (pending : Pending) : Pending :=
  let vacated := { pending with waiting := pending.waiting.erase key }
  match pending.waiting.get? key with
  | some holder => if holder = ticket then vacated else vacated.signal holder .cancelled
  | none => vacated

/-- Cancels all calls for good. -/
def cancelAll (pending : Pending) : Pending :=
  { pending with
    waiting := {}
    closed := true
    signals := pending.signals ++ pending.waiting.values.map (·, .cancelled) }

/-- Takes the signal of a call. -/
def collect (ticket : Ticket) (pending : Pending) : Option Resolution × Pending :=
  (pending.signals.lookup ticket,
    { pending with signals := pending.signals.filter (·.1 != ticket) })

end Pending
end GtpControl
