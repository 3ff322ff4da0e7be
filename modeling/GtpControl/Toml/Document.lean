import GtpControl.Toml.Scalar
import GtpControl.Toml.Table

/-! # Documents: lines of keys with values, under headers -/
namespace GtpControl.Toml
open Reader

/-- Neither values nor tables nest as deep as this. -/
def depthLimit : Nat := 80

def isBareKey (c : Char) : Bool := c.isAlphanum || c == '_' || c == '-'

def simpleKey : Reader String :=
  quotedLine <|> (do return String.ofList ((← satisfy isBareKey) :: (← takeWhile isBareKey)))

/-- The tables of a dotted key, and the key in the last of them. -/
def dottedKey : Reader (List String × String) := do
  let part : Reader String := do
    blanks
    let key ← simpleKey
    blanks
    return key
  let first ← part
  let rest ← many (char '.' *> part)
  if depthLimit ≤ rest.length + 1 then failure
  return ((first :: rest).dropLast, rest.getLastD first)

/-- The items of an array, which may stand on several lines and end in a comma. -/
def arrayOf (item : Reader Value) : Reader Value := do
  char '['
  let items ← separated (do
    gap
    let value ← item
    gap
    return value)
  if !items.isEmpty then
    let _ ← option (char ',')
  gap
  char ']'
  return .array items

def entryOf (item : Reader Value) : Reader (List String × String × Value) := do
  let (path, key) ← dottedKey
  char '='
  blanks
  return (path, key, ← item)

/-- A table on one line. -/
def tableOf (item : Reader Value) : Reader Value := do
  char '\x7b'
  let entries ← separated (do
    let entry ← entryOf item
    blanks
    return entry)
  blanks
  char '\x7d'
  let table ← entries.foldlM (fun (table : Entries) (path, key, value) => table.insert path key value) []
  return .table (entriesToValues table)

/-- A value with this many levels below it. -/
def valueWithin : Nat → Reader Value
  | 0 => scalar
  | levels + 1 => scalar <|> arrayOf (valueWithin levels) <|> tableOf (valueWithin levels)

def value : Reader Value := valueWithin (depthLimit - 1)

inductive Line where
  | blank
  | entry (path : List String) (key : String) (value : Value)
  | table (path : List String) (key : String)
  | element (path : List String) (key : String)

def header : Reader Line :=
  (do
    word "[["
    let (path, key) ← dottedKey
    word "]]"
    return .element path key)
  <|> do
    char '['
    let (path, key) ← dottedKey
    char ']'
    return .table path key

def line : Reader Line := do
  if (← get).isEmpty then failure
  blanks
  let line ← header <|> (do let (path, key, value) ← entryOf value; return .entry path key value)
    <|> pure .blank
  lineEnd
  return line

/-- The tables so far, and the path of the one that keys are added to. -/
structure Progress where
  root : Entries := []
  current : List String := []

def Progress.add (progress : Progress) : Line → Option Progress
  | .blank => some progress
  | .entry path key value => do
    let root ← Entries.edit .implied (fun _ inner => inner.insert path key value) progress.current
      .header progress.root
    return { progress with root }
  | .table path key => do return ⟨← progress.root.openTable path key, path ++ [key]⟩
  | .element path key => do return ⟨← progress.root.openElement path key, path ++ [key]⟩

/-- The entries of a document; none if it is ill formed. A byte order mark may go before it. -/
def parse (text : String) : Option (List (String × Value)) := do
  let text := match text.toList with
    | '\uFEFF' :: rest => rest
    | text => text
  let (lines, rest) ← (many line).run text
  if !rest.isEmpty then none
  let progress ← lines.foldlM Progress.add {}
  return entriesToValues progress.root

end GtpControl.Toml
