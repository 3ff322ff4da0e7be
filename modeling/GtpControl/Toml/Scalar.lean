import GtpControl.Text.Numeral
import GtpControl.Toml.Reader
import GtpControl.Toml.Value

/-! # Strings, numbers, dates and truth values -/
namespace GtpControl.Toml
open Reader

/-! ## Blanks and comments -/

def isBlank (c : Char) : Bool := c == ' ' || c == '\t'

/-- Characters that may stand in text as they are. -/
def isPlain (c : Char) : Bool := c == '\t' || (' ' ≤ c && c != '\x7f')

def blanks : Reader Unit := do
  let _ ← takeWhile isBlank

def newline : Reader Unit := char '\n' <|> word "\r\n"

def comment : Reader Unit := do
  char '#'
  let _ ← takeWhile isPlain

/-- Blanks, and perhaps a comment, up to the end of the line. -/
def lineEnd : Reader Unit := do
  blanks
  let _ ← option comment
  newline <|> atEnd

/-- Blanks, comments and ends of lines. -/
def gap : Reader Unit := do
  let _ ← many ((do let _ ← satisfy isBlank) <|> newline <|> comment)

/-! ## Strings -/

/-- The number that digits of a base denote. -/
def ofDigits (base : Nat) (digits : List Char) : Nat :=
  digits.foldl (fun n c => n * base + (Text.digit? 16 c).getD 0) 0

/-- A character by its number, in this many hexadecimal digits. -/
def codePoint (digits : Nat) : Reader Char := do
  let n := ofDigits 16 (← count digits fun c => (Text.digit? 16 c).isSome)
  if h : n.isValidChar then return Char.ofNatAux n h else failure

/-- What stands for a character after a backslash. -/
def escape : Reader Char := do
  match ← satisfy fun _ => true with
  | 'b' => return '\x08'
  | 'f' => return '\x0c'
  | 'n' => return '\n'
  | 'r' => return '\r'
  | 't' => return '\t'
  | 'u' => codePoint 4
  | 'U' => codePoint 8
  | '\\' => return '\\'
  | '"' => return '"'
  | _ => failure

def escapable : Reader Char :=
  satisfy (fun c => isPlain c && c != '"' && c != '\\') <|> char '\\' *> escape

def literal : Reader Char := satisfy fun c => isPlain c && c != '\''

/-- A string on one line. -/
def lineString (quote : Char) (content : Reader Char) : Reader String := do
  char quote
  let text ← many content
  char quote
  return String.ofList text

def quotedLine : Reader String := lineString '"' escapable <|> lineString '\'' literal

/-- A backslash at the end of a line hides the blanks and lines up to the next text. -/
def continuation : Reader Unit := do
  char '\\'
  blanks
  newline
  let _ ← many ((do let _ ← satisfy isBlank) <|> newline)

/-- One or two quotes inside a string that three quotes end. -/
def innerQuotes (quote : Char) : Reader (List Char) := do
  let quotes ← takeWhile (· == quote)
  if quotes.isEmpty || 3 ≤ quotes.length then failure
  return quotes

/-- A string over several lines; one or two quotes may stand right before its end. -/
def blockString (quote : Char) (content : Reader (List Char)) : Reader String := do
  let _ ← count 3 (· == quote)
  let _ ← option newline
  let text ← many (content <|> (do newline; return ['\n']) <|> innerQuotes quote)
  let quotes ← takeWhile (· == quote)
  if quotes.length < 3 || 5 < quotes.length then failure
  return String.ofList (text.flatten ++ quotes.drop 3)

def string : Reader String :=
  blockString '"' ((do continuation; return []) <|> (do return [← escapable]))
    <|> blockString '\'' (do return [← literal])
    <|> quotedLine

/-! ## Numbers -/

def isDigit (c : Char) : Bool := '0' ≤ c && c ≤ '9'

/-- Digits, between any two of which there may be an underscore. -/
def digits (p : Char → Bool) : Reader (List Char) := do
  let first ← satisfy p
  return first :: (← many (satisfy p <|> char '_' *> satisfy p))

/-- Whether there is a minus sign. -/
def sign : Reader Bool := (do char '-'; return true) <|> (do let _ ← option (char '+'); return false)

/-- Decimal digits without leading zeros. -/
def wholeDigits : Reader (List Char) := (do char '0'; return ['0']) <|> digits isDigit

def signed (negative : Bool) (n : Nat) : Int := if negative then -n else n

/-- Whether a number of this many units of a power of ten is beyond all floating point numbers, which
end half way from the largest one to the next power of two. -/
def overflows (units : Nat) (exponent : Int) : Bool :=
  let digits := (Nat.toDigits 10 units).length
  if units = 0 ∨ (digits + exponent : Int) < 300 then false
  else if 310 < (digits + exponent : Int) then true
  else
    let limit := Nat.pow 2 1024 - Nat.pow 2 970
    match exponent with
    | .ofNat e => limit ≤ units * Nat.pow 10 e
    | .negSucc e => limit * Nat.pow 10 (e + 1) ≤ units

def exponentPart : Reader Int := do
  let _ ← satisfy fun c => c == 'e' || c == 'E'
  let negative ← sign
  return signed negative (ofDigits 10 (← digits isDigit))

/-- A number with a fraction, an exponent or both; only a positive one may not overflow. -/
def decimal : Reader Unit := do
  let negative ← sign
  let whole ← wholeDigits
  let fraction ← option (char '.' *> digits isDigit)
  let exponent ← option exponentPart
  if fraction.isNone && exponent.isNone then failure
  let fraction := fraction.getD []
  if !negative && overflows (ofDigits 10 (whole ++ fraction)) (exponent.getD 0 - fraction.length) then
    failure

def float : Reader Unit := decimal <|> (do let _ ← sign; word "inf" <|> word "nan")

/-- Integers have sixty-four bits. -/
def bounded (n : Int) : Reader Int :=
  if -0x8000000000000000 ≤ n ∧ n < 0x8000000000000000 then pure n else failure

/-- A marked numeral of another base than ten. -/
def based (mark : String) (base : Nat) : Reader Int := do
  word mark
  let text ← digits fun c => (Text.digit? base c).isSome
  bounded (ofDigits base text)

def integer : Reader Int :=
  based "0x" 16 <|> based "0o" 8 <|> based "0b" 2 <|> do
    let negative ← sign
    bounded (signed negative (ofDigits 10 (← wholeDigits)))

/-! ## Dates and times -/

/-- A number of exactly so many digits, between two bounds. -/
def within (width low high : Nat) : Reader Nat := do
  let n := ofDigits 10 (← count width isDigit)
  if low ≤ n && n ≤ high then return n else failure

def daysOf (year month : Nat) : Nat :=
  if month = 2 then
    if year % 4 = 0 ∧ (year % 100 ≠ 0 ∨ year % 400 = 0) then 29 else 28
  else if month ∈ [4, 6, 9, 11] then 30
  else 31

def date : Reader Unit := do
  let year ← within 4 0 9999
  char '-'
  let month ← within 2 1 12
  char '-'
  let _ ← within 2 1 (daysOf year month)

/-- A leap second is a sixty-first one. -/
def time : Reader Unit := do
  let _ ← within 2 0 23
  char ':'
  let _ ← within 2 0 59
  char ':'
  let _ ← within 2 0 60
  let _ ← option (do char '.'; let _ ← satisfy isDigit; takeWhile isDigit)

def zone : Reader Unit :=
  (do let _ ← satisfy fun c => c == 'Z' || c == 'z') <|> do
    let _ ← satisfy fun c => c == '+' || c == '-'
    let _ ← within 2 0 23
    char ':'
    let _ ← within 2 0 59

def datetime : Reader Unit :=
  (do
    date
    let _ ← option do
      let _ ← satisfy fun c => c == 'T' || c == 't' || c == ' '
      time
      option zone)
  <|> time

def boolean : Reader Bool := (do word "true"; return true) <|> (do word "false"; return false)

def scalar : Reader Value :=
  (.string <$> string) <|> (do datetime; return .datetime) <|> (do float; return .float)
    <|> (.integer <$> integer) <|> (.boolean <$> boolean)

end GtpControl.Toml
