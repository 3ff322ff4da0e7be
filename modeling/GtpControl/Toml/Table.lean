import GtpControl.Toml.Value

/-! # Tables under construction

A table is defined once: by its own header, by being on the way to another one, or by dotted keys. What
defined it decides what may still be added to it. -/
namespace GtpControl.Toml

inductive Origin where
  /-- has its own header -/
  | header
  /-- is named on the way to a header -/
  | implied
  /-- is named on the way to a key -/
  | dotted
deriving DecidableEq, Repr

inductive Node where
  | value (value : Value)
  | table (origin : Origin) (entries : List (String × Node))
  /-- an array of tables, of which only the last one can still grow -/
  | tables (done : List Node) (last : List (String × Node))

abbrev Entries := List (String × Node)

namespace Entries

/-- Replaces the node of a key, or adds one. -/
def set (key : String) (node : Node) : Entries → Entries
  | [] => [(key, node)]
  | entry :: rest => if entry.1 = key then (key, node) :: rest else entry :: set key node rest

/-- Edits the table at the end of a path, with tables of the given origin where there are none yet.
Dotted keys do not go into a table that has a header. -/
def edit (origin : Origin) (change : Origin → Entries → Option Entries) :
    List String → Origin → Entries → Option Entries
  | [], here, entries => change here entries
  | key :: path, _, entries => do
    let node ←
      match entries.lookup key with
      | none => return entries.set key (.table origin (← edit origin change path origin []))
      | some (.value _) => none
      | some (.table there inner) =>
        if origin = .dotted ∧ there = .header then none
        else some (.table there (← edit origin change path there inner))
      | some (.tables done last) => some (.tables done (← edit origin change path .header last))
    return entries.set key node

/-- Adds a key with a value. The last table of a dotted path must be one that dotted keys made. -/
def insert (path : List String) (key : String) (value : Value) (entries : Entries) :
    Option Entries :=
  edit .dotted
    (fun here inner =>
      if (here = .dotted ↔ path ≠ []) ∧ inner.lookup key = none then
        some (inner ++ [(key, .value value)])
      else none)
    path .header entries

/-- Starts a table with its header. -/
def openTable (path : List String) (key : String) (entries : Entries) : Option Entries :=
  edit .implied
    (fun _ inner =>
      match inner.lookup key with
      | none => some (inner ++ [(key, .table .header [])])
      | some (.table .implied held) => some (inner.set key (.table .header held))
      | some _ => none)
    path .header entries

/-- Starts one more table of an array. -/
def openElement (path : List String) (key : String) (entries : Entries) : Option Entries :=
  edit .implied
    (fun _ inner =>
      match inner.lookup key with
      | none => some (inner ++ [(key, .tables [] [])])
      | some (.tables done last) => some (inner.set key (.tables (done ++ [.table .header last]) []))
      | some _ => none)
    path .header entries

end Entries

mutual

/-- The finished value of a node. -/
def Node.toValue : Node → Value
  | .value value => value
  | .table _ entries => .table (entriesToValues entries)
  | .tables done last => .array (nodesToValues done ++ [.table (entriesToValues last)])

def entriesToValues : List (String × Node) → List (String × Value)
  | [] => []
  | (key, node) :: rest => (key, node.toValue) :: entriesToValues rest

def nodesToValues : List Node → List Value
  | [] => []
  | node :: rest => node.toValue :: nodesToValues rest

end

end GtpControl.Toml
