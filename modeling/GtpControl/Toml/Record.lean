import GtpControl.Toml.Value

/-! # Records: values whose parts are settings

A record is written as a table, or as an array of its parts in their order. Parts that are not known
are ignored. -/
namespace GtpControl.Toml

inductive Record where
  | named (entries : List (String × Value))
  | listed (items : List Value)

/-- A date counts as a table without any known part. -/
def Value.record? : Value → Option Record
  | .table entries => some (.named entries)
  | .array items => some (.listed items)
  | .datetime => some (.named [])
  | _ => none

namespace Record
variable {α : Type}

def part? (index : Nat) (name : String) : Record → Option Value
  | named entries => entries.lookup name
  | listed items => items[index]?

/-- A part that has a default. -/
def read (decode : Value → Option α) (default : α) (index : Nat) (name : String)
    (record : Record) : Option α :=
  match record.part? index name with
  | some value => decode value
  | none => some default

/-- A part that a table may leave out; a list may not. -/
def read? (decode : Value → Option α) (index : Nat) (name : String) (record : Record) :
    Option (Option α) :=
  match record.part? index name, record with
  | some value, _ => some <$> decode value
  | none, named _ => some none
  | none, listed _ => none

end Record

namespace Value

def string? : Value → Option String
  | .string text => some text
  | _ => none

def flag? : Value → Option Bool
  | .boolean flag => some flag
  | _ => none

/-- A number from zero up to a limit. -/
def nat? (limit : Nat) : Value → Option Nat
  | .integer n => if 0 ≤ n ∧ n ≤ limit then some n.toNat else none
  | _ => none

def uint8? (value : Value) : Option UInt8 := (value.nat? 0xff).map .ofNat

def uint16? (value : Value) : Option UInt16 := (value.nat? 0xffff).map .ofNat

def uint32? (value : Value) : Option UInt32 := (value.nat? 0xffffffff).map .ofNat

def uint64? (value : Value) : Option UInt64 := (value.nat? 0xffffffffffffffff).map .ofNat

/-- One of some choices by name: a string, or a table with that key and nothing under it. -/
def choice? {α : Type} (choices : List (String × α)) : Value → Option α
  | .string name => choices.lookup name
  | .table [(name, .table [])] => choices.lookup name
  | .table [(name, .array [])] => choices.lookup name
  | _ => none

end Value
end GtpControl.Toml
