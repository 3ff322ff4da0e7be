import GtpControl.CodecError
import GtpControl.Text.Utf8

/-! # Access point names: dotted text, and labels with a length octet on the wire -/
namespace GtpControl.Apn

/-- The longest label, in octets. -/
def maxLabel : Nat := 63

/-- The parts of a text between dots; there is always at least one. -/
def labels : List Char → List (List Char)
  | [] => [[]]
  | c :: rest =>
    if c = '.' then [] :: labels rest
    else
      match labels rest with
      | [] => [[c]]
      | label :: more => (c :: label) :: more

def isLabel (label : List Char) : Bool := !label.isEmpty && (Text.utf8 label).length ≤ maxLabel

def encodeLabel (label : List Char) : Octets :=
  UInt8.ofNat (Text.utf8 label).length :: Text.utf8 label

/-- The empty name has no label and no octet. -/
def encode (apn : String) : Coded Octets :=
  if apn.isEmpty then pure []
  else if (labels apn.toList).all isLabel then pure ((labels apn.toList).flatMap encodeLabel)
  else throw (.malformed (.apnLabel apn))

/-- The octets of each label. -/
def split : Octets → Coded (List Octets)
  | [] => pure []
  | size :: rest =>
    if rest.length < size.toNat then throw (.invalidLength size.toNat rest.length)
    else return rest.take size.toNat :: (← split (rest.drop size.toNat))
termination_by octets => octets.length
decreasing_by simp only [List.length_cons, List.length_drop]; omega

/-- Labels that are not well-formed text are shown with replacement characters. -/
def decode (octets : Octets) : Coded String :=
  return ".".intercalate ((← split octets).map fun label => String.ofList (Text.decodeLossy label))

end GtpControl.Apn
