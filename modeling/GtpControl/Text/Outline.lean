/-! # Outlines: nested values laid out over indented lines -/
namespace GtpControl.Text

/-- A value as it is shown: a word, a record, a constructor with arguments, or a list. -/
inductive Outline where
  | atom (text : String)
  | fields (name : String) (entries : List (String × Outline))
  | apply (name : String) (arguments : List Outline)
  | list (items : List Outline)

namespace Outline

def indent (depth : Nat) : String := String.ofList (List.replicate (4 * depth) ' ')

/-- Opening and closing marks around lines, each of which ends in a comma. -/
def block (depth : Nat) (opening closing : String) (lines : List String) : String :=
  if lines.isEmpty then opening ++ closing
  else
    opening ++ "\n" ++ String.join (lines.map fun line => indent (depth + 1) ++ line ++ ",\n")
      ++ indent depth ++ closing

mutual

def layOut (depth : Nat) : Outline → String
  | .atom text => text
  | .fields name entries =>
    if entries.isEmpty then name else block depth (name ++ " \x7b") "\x7d" (layOutEntries (depth + 1) entries)
  | .apply name arguments =>
    if arguments.isEmpty then name else block depth (name ++ "(") ")" (layOutAll (depth + 1) arguments)
  | .list items => block depth "[" "]" (layOutAll (depth + 1) items)

def layOutAll (depth : Nat) : List Outline → List String
  | [] => []
  | item :: rest => layOut depth item :: layOutAll depth rest

def layOutEntries (depth : Nat) : List (String × Outline) → List String
  | [] => []
  | (name, value) :: rest => (name ++ ": " ++ layOut depth value) :: layOutEntries depth rest

end

def ofNat (n : Nat) : Outline := .atom (toString n)

def ofOption {α : Type} (outline : α → Outline) : Option α → Outline
  | none => .atom "None"
  | some value => .apply "Some" [outline value]

end Outline
end GtpControl.Text
