/-! # Allocation of tunnel end point numbers

A pool walks round its range. Number zero, which means that there is no end point, is in no
range. -/
namespace GtpControl

structure TeidRange where
  first : UInt32 := 1
  last : UInt32 := 0xffffffff
deriving DecidableEq, Repr, Inhabited

structure TeidPool where
  first : UInt32
  last : UInt32
  /-- where the next search starts -/
  next : UInt32
  first_pos : 0 < first
  first_le_next : first ≤ next
  next_le_last : next ≤ last

namespace TeidPool

/-- The walk starts at the first number. Zero is left out of the range, and a range that ends before
it starts has one number. -/
def ofRange (range : TeidRange) : TeidPool :=
  let first := if range.first = 0 then 1 else range.first
  { first
    last := if first ≤ range.last then range.last else first
    next := first
    first_pos := by
      simp only [first]
      split
      · decide
      · next h => exact UInt32.pos_iff_ne_zero.2 h
    first_le_next := UInt32.le_refl _
    next_le_last := by
      split
      · assumption
      · exact UInt32.le_refl _ }

/-- The walk starts at the given number if the range has it. -/
def withStart (start : UInt32) (pool : TeidPool) : TeidPool :=
  if h : pool.first ≤ start ∧ start ≤ pool.last then
    { pool with next := start, first_le_next := h.1, next_le_last := h.2 }
  else pool

def size (pool : TeidPool) : Nat := pool.last.toNat - pool.first.toNat + 1

/-- One step of the walk. -/
def advance (pool : TeidPool) : TeidPool :=
  if h : pool.next = pool.last then
    { pool with
      next := pool.first
      first_le_next := UInt32.le_refl _
      next_le_last := UInt32.le_trans pool.first_le_next pool.next_le_last }
  else
    have step : (pool.next + 1).toNat = pool.next.toNat + 1 := by
      have := UInt32.le_iff_toNat_le.1 pool.next_le_last
      have := pool.last.toNat_lt
      have : pool.next.toNat ≠ pool.last.toNat := fun e => h (UInt32.toNat_inj.1 e)
      simp only [UInt32.toNat_add, UInt32.toNat_ofNat]
      omega
    { pool with
      next := pool.next + 1
      first_le_next := by
        have := UInt32.le_iff_toNat_le.1 pool.first_le_next
        rw [UInt32.le_iff_toNat_le]
        omega
      next_le_last := by
        have := UInt32.le_iff_toNat_le.1 pool.next_le_last
        have : pool.next.toNat ≠ pool.last.toNat := fun e => h (UInt32.toNat_inj.1 e)
        rw [UInt32.le_iff_toNat_le]
        omega }

/-- Looks at the given number of candidates. -/
def search (inUse : UInt32 → Bool) : Nat → TeidPool → Option (UInt32 × TeidPool)
  | 0, _ => none
  | n + 1, pool =>
    if inUse pool.next then search inUse n pool.advance else some (pool.next, pool.advance)

/-- The first number of the walk that is not in use, with the pool after it; none when a whole round
finds nothing. -/
def allocate (inUse : UInt32 → Bool) (pool : TeidPool) : Option (UInt32 × TeidPool) :=
  pool.search inUse pool.size

end TeidPool
end GtpControl
