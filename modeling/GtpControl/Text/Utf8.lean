import GtpControl.Octets

/-! # UTF-8: encoding of characters, and a decoder that replaces ill-formed parts -/
namespace GtpControl.Text

def utf8 (chars : List Char) : Octets := chars.flatMap String.utf8EncodeChar

def replacement : Char := Char.ofNat 0xfffd

/-- A continuation octet between the bounds that the octets before it leave. -/
def isContinuation (low high o : UInt8) : Bool := low ≤ o && o ≤ high

/-- How many continuation octets a leading octet asks for, with the bounds of the first. -/
def continuations (lead : UInt8) : Option (Nat × UInt8 × UInt8) :=
  if lead < 0x80 then some (0, 0x80, 0xbf)
  else if lead < 0xc2 then none
  else if lead < 0xe0 then some (1, 0x80, 0xbf)
  else if lead = 0xe0 then some (2, 0xa0, 0xbf)
  else if lead = 0xed then some (2, 0x80, 0x9f)
  else if lead < 0xf0 then some (2, 0x80, 0xbf)
  else if lead = 0xf0 then some (3, 0x90, 0xbf)
  else if lead < 0xf4 then some (3, 0x80, 0xbf)
  else if lead = 0xf4 then some (3, 0x80, 0x8f)
  else none

/-- The scalar value bits of a leading octet that asks for `more` continuation octets. -/
def leadBits (more : Nat) (lead : UInt8) : Nat :=
  match more with
  | 0 => lead.toNat
  | 1 => lead.toNat % 32
  | 2 => lead.toNat % 16
  | _ => lead.toNat % 8

/-- Reads the continuation octets of one character; an octet that does not continue it is left. -/
def readContinuations : (more : Nat) → (low high : UInt8) → (value : Nat) → Octets → Option Char × Octets
  | 0, _, _, value, rest => (some (Char.ofNat value), rest)
  | _ + 1, _, _, _, [] => (none, [])
  | more + 1, low, high, value, o :: rest =>
    if isContinuation low high o then
      readContinuations more 0x80 0xbf (value * 64 + o.toNat % 64) rest
    else (none, o :: rest)

theorem length_readContinuations (more : Nat) (low high : UInt8) (value : Nat) (octets : Octets) :
    (readContinuations more low high value octets).2.length ≤ octets.length := by
  induction more generalizing low high value octets with
  | zero => simp [readContinuations]
  | succ more ih =>
    cases octets with
    | nil => simp [readContinuations]
    | cons o rest =>
      rw [readContinuations]
      split
      · exact Nat.le_trans (ih ..) (by simp)
      · simp

/-- The first character of an octet string, none for an ill-formed start, and what follows it. -/
def readChar (lead : UInt8) (rest : Octets) : Option Char × Octets :=
  match continuations lead with
  | none => (none, rest)
  | some (more, low, high) => readContinuations more low high (leadBits more lead) rest

theorem length_readChar (lead : UInt8) (rest : Octets) : (readChar lead rest).2.length ≤ rest.length := by
  unfold readChar
  split
  · simp
  · exact length_readContinuations ..

/-- Decodes a text, with one replacement character per longest ill-formed start of a character. -/
def decodeLossy : Octets → List Char
  | [] => []
  | lead :: rest =>
    have := length_readChar lead rest
    (readChar lead rest).1.getD replacement :: decodeLossy (readChar lead rest).2
termination_by octets => octets.length
decreasing_by simp only [List.length_cons]; omega

/-- Decodes a well-formed text. -/
def decode? : Octets → Option (List Char)
  | [] => some []
  | lead :: rest =>
    have := length_readChar lead rest
    match (readChar lead rest).1 with
    | none => none
    | some c => (decode? (readChar lead rest).2).map (c :: ·)
termination_by octets => octets.length
decreasing_by simp only [List.length_cons]; omega

end GtpControl.Text
