/-! # Readers of text: what they take off its start, or nothing when they do not apply -/
namespace GtpControl.Toml

abbrev Reader := StateT (List Char) Option

namespace Reader
variable {α : Type}

def satisfy (p : Char → Bool) : Reader Char := do
  match ← get with
  | c :: rest => if p c then do set rest; return c else failure
  | [] => failure

def char (c : Char) : Reader Unit := do
  let _ ← satisfy (· == c)

def word (word : String) : Reader Unit := word.toList.forM char

def takeWhile (p : Char → Bool) : Reader (List Char) := do
  let text ← get
  set (text.dropWhile p)
  return text.takeWhile p

/-- Exactly this many characters of a class. -/
def count (n : Nat) (p : Char → Bool) : Reader (List Char) := (List.replicate n (satisfy p)).mapM id

def option (reader : Reader α) : Reader (Option α) := some <$> reader <|> pure none

def atEnd : Reader Unit := do
  if !(← get).isEmpty then failure

/-- At most this many items. -/
def manyWithin : Nat → Reader α → Reader (List α)
  | 0, _ => pure []
  | n + 1, item => do
    match ← option item with
    | some a => return a :: (← manyWithin n item)
    | none => pure []

/-- All items that follow; each takes at least one character. -/
def many (item : Reader α) : Reader (List α) := do manyWithin (← get).length item

/-- Items with a comma between them. -/
def separated (item : Reader α) : Reader (List α) := do
  match ← option item with
  | some first => return first :: (← many (char ',' *> item))
  | none => pure []

end Reader
end GtpControl.Toml
