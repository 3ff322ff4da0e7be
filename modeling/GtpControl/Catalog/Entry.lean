import GtpControl.Version

/-! # What the type tables of the protocol versions hold -/
namespace GtpControl.Catalog

/-- A message type, and whether such a message answers another one. -/
structure MessageEntry where
  type : UInt8
  name : String
  isReply : Bool
deriving Repr

/-- How the payload of an element is delimited and read. -/
inductive Form where
  /-- exactly this many octets, without a length field -/
  | fixed (width : Nat)
  /-- a length field goes before it -/
  | sized
  /-- a length field goes before it, and it is a sequence of elements -/
  | grouped
deriving DecidableEq, Repr

structure ElementEntry where
  type : UInt8
  name : String
  form : Form
deriving Repr

end GtpControl.Catalog
