import GtpControl.Octets

/-! # Printing settings as documents

A string is printed in the plainest of five forms that can hold it. -/
namespace GtpControl.Toml

/-- The length of the longest run of a character. -/
def longestRun (c : Char) (text : List Char) : Nat :=
  (text.foldl
    (fun (run, best) d =>
      let run := if d = c then run + 1 else 0
      (run, max run best))
    (0, 0)).2

/-- Control characters that have to be escaped; tabs and ends of lines need not be. -/
def isControl (c : Char) : Bool := (c < ' ' && c != '\t' && c != '\n') || c == '\x7f'

/-- A character inside a string with escapes. -/
def escapeChar (block : Bool) (c : Char) : List Char :=
  match c with
  | '\x08' => ['\\', 'b']
  | '\t' => ['\\', 't']
  | '\n' => if block then ['\n'] else ['\\', 'n']
  | '\x0c' => ['\\', 'f']
  | '\r' => ['\\', 'r']
  | '\\' => ['\\', '\\']
  | c =>
    if c < ' ' || c == '\x7f' then
      '\\' :: 'u' :: '0' :: '0' :: (Octets.toHexChars [.ofNat c.toNat]).map Char.toUpper
    else [c]

/-- Escapes text in which this many double quotes may stand in a row; `run` of them just did. -/
def escapeText (block : Bool) (quotes : Nat) : (run : Nat) → List Char → List Char
  | _, [] => []
  | run, '"' :: rest =>
    if run < quotes then '"' :: escapeText block quotes (run + 1) rest
    else '\\' :: '"' :: escapeText block quotes 0 rest
  | _, c :: rest =>
    let escaped := escapeChar block c
    escaped ++ escapeText block quotes 0 rest

def quote (text : String) : String :=
  let chars := text.toList
  let control := chars.any isControl
  let backslash := chars.contains '\\'
  let lines := chars.contains '\n'
  let doubles := longestRun '"' chars
  let singles := longestRun '\'' chars
  let block (mark : String) (content : List Char) : String :=
    mark ++ (if lines then "\n" else "") ++ String.ofList content ++ mark
  if !control && !backslash && doubles = 0 && !lines then
    "\"" ++ String.ofList (escapeText false 0 0 chars) ++ "\""
  else if !control && singles = 0 && !lines then "'" ++ text ++ "'"
  else if !control && !backslash && doubles ≤ 2 then block "\"\"\"" (escapeText true 2 0 chars)
  else if !control && singles ≤ 2 then block "'''" chars
  else if lines then block "\"\"\"" (escapeText true 2 0 chars)
  else "\"" ++ String.ofList (escapeText false 0 0 chars) ++ "\""

def quoteFlag (flag : Bool) : String := if flag then "true" else "false"

/-- One line per setting. -/
def printEntries (entries : List (String × String)) : String :=
  String.join (entries.map fun (key, value) => s!"{key} = {value}\n")

def printTable (name : String) (entries : List (String × String)) : String :=
  s!"[{name}]\n" ++ printEntries entries

end GtpControl.Toml
