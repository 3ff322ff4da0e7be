import GtpControl.Octets
import GtpControl.Text.Glyphless

/-! # Quoted text: one escape rule for characters, texts and octet strings -/
namespace GtpControl.Text

/-- A character inside quotes; `quote` is the mark that has to be escaped. -/
def escape (quote c : Char) : List Char :=
  if c = '\x00' then ['\\', '0']
  else if c = '\t' then ['\\', 't']
  else if c = '\n' then ['\\', 'n']
  else if c = '\r' then ['\\', 'r']
  else if c = '\\' ∨ c = quote then ['\\', c]
  else if isGlyphless c then ['\\', 'u', '\x7b'] ++ Nat.toDigits 16 c.toNat ++ ['\x7d']
  else [c]

def quoteChar (c : Char) : String :=
  String.ofList (['\''] ++ escape '\'' c ++ ['\''])

def quote (text : String) : String :=
  String.ofList (['"'] ++ text.toList.flatMap (escape '"') ++ ['"'])

/-- An octet inside a quoted octet string: printable ASCII stands for itself. -/
def escapeOctet (o : UInt8) : List Char :=
  if o = 0 then ['\\', '0']
  else if o = 9 then ['\\', 't']
  else if o = 10 then ['\\', 'n']
  else if o = 13 then ['\\', 'r']
  else if o = 34 ∨ o = 92 then ['\\', Char.ofNat o.toNat]
  else if 0x20 ≤ o ∧ o < 0x7f then [Char.ofNat o.toNat]
  else ['\\', 'x'] ++ Octets.toHexChars [o]

def quoteOctets (octets : Octets) : String :=
  String.ofList (['b', '"'] ++ octets.flatMap escapeOctet ++ ['"'])

end GtpControl.Text
