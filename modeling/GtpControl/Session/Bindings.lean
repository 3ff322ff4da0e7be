/-! # Bindings: finite maps that keep the order in which keys came in -/
namespace GtpControl

structure Bindings (κ α : Type) where
  entries : List (κ × α) := []
deriving DecidableEq, Repr, Inhabited

namespace Bindings
variable {κ α : Type} [DecidableEq κ]

/-- Binds a key that is bound already in its old place, and a new one after all others. -/
def put (key : κ) (value : α) : List (κ × α) → List (κ × α)
  | [] => [(key, value)]
  | entry :: rest =>
    if entry.1 = key then (key, value) :: rest else entry :: put key value rest

def insert (key : κ) (value : α) (bindings : Bindings κ α) : Bindings κ α :=
  ⟨put key value bindings.entries⟩

def get? (key : κ) (bindings : Bindings κ α) : Option α := bindings.entries.lookup key

def contains (key : κ) (bindings : Bindings κ α) : Bool := (bindings.get? key).isSome

def erase (key : κ) (bindings : Bindings κ α) : Bindings κ α :=
  ⟨bindings.entries.eraseP (·.1 = key)⟩

/-- Changes the value of a key that is bound. -/
def modify (key : κ) (f : α → α) (bindings : Bindings κ α) : Bindings κ α :=
  match bindings.get? key with
  | some value => bindings.insert key (f value)
  | none => bindings

omit [DecidableEq κ] in
/-- Keeps the entries with a property. -/
def filter (p : κ → α → Bool) (bindings : Bindings κ α) : Bindings κ α :=
  ⟨bindings.entries.filter fun (key, value) => p key value⟩

omit [DecidableEq κ] in
def keys (bindings : Bindings κ α) : List κ := bindings.entries.map (·.1)

omit [DecidableEq κ] in
def values (bindings : Bindings κ α) : List α := bindings.entries.map (·.2)

omit [DecidableEq κ] in
def size (bindings : Bindings κ α) : Nat := bindings.entries.length

end Bindings

/-- Tunnel end point numbers by interface type. -/
abbrev TeidMap := Bindings UInt8 UInt32

end GtpControl
