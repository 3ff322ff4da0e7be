import GtpControl.Proofs.PoolWalk
import GtpControl.Proofs.Results

/-! # Fair allocation: a draw takes the first number on the way that is not in use

The numbers on the way of a walk are given by arithmetic alone. The loop that looks for one of them, on
machine words that may overflow, finds the same one, and after a round in vain stands where it started. -/
namespace GtpControl.TeidPool
variable {inUse : UInt32 → Bool} {pool pool' : TeidPool} {teid : UInt32}

/-! ## The way -/

/-- The number that the walk is at after so many steps, the range taken as a circle. -/
def upcoming (pool : TeidPool) (steps : Nat) : UInt32 :=
  .ofNat (pool.first.toNat + (pool.next.toNat - pool.first.toNat + steps) % pool.size)

theorem toNat_upcoming (pool : TeidPool) (steps : Nat) : (pool.upcoming steps).toNat =
    pool.first.toNat + (pool.next.toNat - pool.first.toNat + steps) % pool.size := by
  obtain ⟨_, _, _, _, hsize⟩ := bounds pool.has_next
  have hmod := Nat.mod_lt (pool.next.toNat - pool.first.toNat + steps) (by omega : 0 < pool.size)
  have hlt := pool.last.toNat_lt
  exact UInt32.toNat_ofNat_of_lt (show _ < 2 ^ 32 by omega)

theorem has_upcoming (pool : TeidPool) (steps : Nat) : pool.Has (pool.upcoming steps) := by
  obtain ⟨_, _, _, _, hsize⟩ := bounds pool.has_next
  have hmod := Nat.mod_lt (pool.next.toNat - pool.first.toNat + steps) (by omega : 0 < pool.size)
  constructor <;> rw [UInt32.le_iff_toNat_le, toNat_upcoming] <;> omega

@[simp] theorem upcoming_zero (pool : TeidPool) : pool.upcoming 0 = pool.next := by
  obtain ⟨_, _, _, _, hsize⟩ := bounds pool.has_next
  refine UInt32.toNat_inj.1 ?_
  rw [toNat_upcoming, Nat.add_zero, Nat.mod_eq_of_lt (by omega)]
  omega

@[simp] theorem upcoming_add_size (pool : TeidPool) (steps : Nat) :
    pool.upcoming (steps + pool.size) = pool.upcoming steps := by
  rw [upcoming, upcoming, ← Nat.add_assoc, Nat.add_mod_right]

/-- One step of the walk is one step on the way. -/
theorem upcoming_advance (pool : TeidPool) (steps : Nat) :
    pool.advance.upcoming steps = pool.upcoming (steps + 1) := by
  obtain ⟨_, _, _, _, hsize⟩ := bounds pool.has_next
  refine UInt32.toNat_inj.1 ?_
  rw [toNat_upcoming, toNat_upcoming, toNat_next_advance, first_advance, size_advance]
  congr 1
  split
  · next hl =>
    have hlast : pool.next.toNat = pool.last.toNat := congrArg UInt32.toNat hl
    have hround : pool.next.toNat - pool.first.toNat + (steps + 1) = steps + pool.size := by omega
    rw [hround, Nat.add_mod_right, Nat.sub_self, Nat.zero_add]
  · congr 1
    omega

/-- Within a round the way comes to every number once. -/
theorem upcoming_inj {i j : Nat} (hi : i < pool.size) (hj : j < pool.size)
    (h : pool.upcoming i = pool.upcoming j) : i = j := by
  obtain ⟨_, _, _, _, hsize⟩ := bounds pool.has_next
  have hn := congrArg UInt32.toNat h
  rw [toNat_upcoming, toNat_upcoming, Nat.add_left_cancel_iff] at hn
  have hmod : i % pool.size = j % pool.size := Nat.ModEq.add_left_cancel' _ hn
  rwa [Nat.mod_eq_of_lt hi, Nat.mod_eq_of_lt hj] at hmod

/-- A number is as far on the way as its distance says. -/
theorem upcoming_distance (has : pool.Has teid) : pool.upcoming (pool.distance teid) = teid := by
  obtain ⟨_, _, _, _, hsize⟩ := bounds has
  refine UInt32.toNat_inj.1 ?_
  rw [toNat_upcoming]
  unfold distance
  simp only [UInt32.le_iff_toNat_le]
  split
  · rw [Nat.mod_eq_of_lt (by omega)]
    omega
  · have hround : pool.next.toNat - pool.first.toNat + (teid.toNat + pool.size - pool.next.toNat) =
        teid.toNat - pool.first.toNat + pool.size := by omega
    rw [hround, Nat.add_mod_right, Nat.mod_eq_of_lt (by omega)]
    omega

theorem distance_upcoming {steps : Nat} (h : steps < pool.size) :
    pool.distance (pool.upcoming steps) = steps := by
  have has := has_upcoming pool steps
  exact upcoming_inj (distance_lt_size has) h (upcoming_distance has)

/-! ## The walk along the way -/

/-- A pool with its walk so many steps further. -/
def walked (pool : TeidPool) (steps : Nat) : TeidPool := advance^[steps] pool

@[simp] theorem walked_zero (pool : TeidPool) : pool.walked 0 = pool := rfl

theorem walked_advance (pool : TeidPool) (steps : Nat) :
    pool.advance.walked steps = pool.walked (steps + 1) := rfl

theorem walked_walked (pool : TeidPool) (steps more : Nat) :
    (pool.walked steps).walked more = pool.walked (steps + more) := by
  rw [walked, walked, walked, Nat.add_comm, Function.iterate_add_apply]

@[simp] theorem first_walked (pool : TeidPool) (steps : Nat) :
    (pool.walked steps).first = pool.first := by
  induction steps generalizing pool with
  | zero => rfl
  | succ steps ih => rw [← walked_advance, ih, first_advance]

@[simp] theorem last_walked (pool : TeidPool) (steps : Nat) :
    (pool.walked steps).last = pool.last := by
  induction steps generalizing pool with
  | zero => rfl
  | succ steps ih => rw [← walked_advance, ih, last_advance]

theorem upcoming_walked (pool : TeidPool) (steps more : Nat) :
    (pool.walked steps).upcoming more = pool.upcoming (steps + more) := by
  induction steps generalizing pool with
  | zero => rw [walked_zero, Nat.zero_add]
  | succ steps ih =>
    rw [← walked_advance, ih, upcoming_advance]
    congr 1
    omega

theorem next_walked (pool : TeidPool) (steps : Nat) :
    (pool.walked steps).next = pool.upcoming steps := by
  rw [← upcoming_zero, upcoming_walked, Nat.add_zero]

theorem eq_of_fields (first : pool'.first = pool.first) (last : pool'.last = pool.last)
    (next : pool'.next = pool.next) : pool' = pool := by
  cases pool
  cases pool'
  cases first
  cases last
  cases next
  rfl

/-- A whole round changes nothing. -/
@[simp] theorem walked_size (pool : TeidPool) : pool.walked pool.size = pool := by
  refine eq_of_fields (first_walked ..) (last_walked ..) ?_
  have hround := upcoming_add_size pool 0
  rw [Nat.zero_add, upcoming_zero] at hround
  rw [next_walked, hround]

/-! ## What a draw takes -/

/-- A search is a look along the way for a number that is not in use. -/
theorem search_eq (inUse : UInt32 → Bool) (pool : TeidPool) (n : Nat) : pool.search inUse n =
    ((List.range n).find? fun steps => !inUse (pool.upcoming steps)).map fun steps =>
      (pool.upcoming steps, pool.walked (steps + 1)) := by
  induction n generalizing pool with
  | zero => rfl
  | succ n ih =>
    rw [search, List.range_succ_eq_map, List.find?_cons, upcoming_zero]
    cases hu : inUse pool.next with
    | true =>
      simp only [if_true, Bool.not_true, ih, upcoming_advance, walked_advance, List.find?_map,
        Function.comp_def, Option.map_map]
    | false =>
      simp only [Bool.false_eq_true, if_false, Bool.not_false, Option.map_some, upcoming_zero]
      rfl

/-- A draw takes the first number on the way that is not in use, and moves just past it. -/
theorem allocate_eq_some : pool.allocate inUse = some (teid, pool') ↔ ∃ steps < pool.size,
    teid = pool.upcoming steps ∧ inUse teid = false ∧
      (∀ earlier < steps, inUse (pool.upcoming earlier) = true) ∧
      pool' = pool.walked (steps + 1) := by
  rw [allocate, search_eq]
  simp only [Option.map_eq_some_iff, List.find?_range_eq_some, List.mem_range, Bool.not_eq_true',
    Bool.not_not, Prod.mk.injEq]
  constructor
  · rintro ⟨steps, ⟨hfree, hlt, hearlier⟩, rfl, rfl⟩
    exact ⟨steps, hlt, rfl, hfree, hearlier, rfl⟩
  · rintro ⟨steps, hlt, rfl, hfree, hearlier, rfl⟩
    exact ⟨steps, ⟨hfree, hlt, hearlier⟩, rfl, rfl⟩

/-! ## Draws one after the other -/

/-- Numbers drawn one after the other while the same ones are in use, with the steps of the walk. -/
inductive Successive (inUse : UInt32 → Bool) : TeidPool → List UInt32 → Nat → TeidPool → Prop where
  | none (pool : TeidPool) : Successive inUse pool [] 0 pool
  | draw {pool pool' pool'' : TeidPool} {teid : UInt32} {teids : List UInt32} {steps : Nat}
    (ha : pool.allocate inUse = some (teid, pool'))
    (h : Successive inUse pool' teids steps pool'') :
    Successive inUse pool (teid :: teids) (pool.distance teid + 1 + steps) pool''

/-- What is drawn are the numbers on the way that are not in use. -/
theorem Successive.eq_filter {teids : List UInt32} {steps : Nat}
    (h : Successive inUse pool teids steps pool') :
    teids = ((List.range steps).map pool.upcoming).filter (fun teid => !inUse teid) ∧
      pool' = pool.walked steps := by
  induction h with
  | none pool => exact ⟨rfl, rfl⟩
  | @draw pool _ _ _ teids steps ha h ih =>
    obtain ⟨k, hk, rfl, hfree, hearlier, rfl⟩ := allocate_eq_some.1 ha
    obtain ⟨hteids, rfl⟩ := ih
    rw [distance_upcoming hk]
    refine ⟨?_, walked_walked ..⟩
    have hpassed : ((List.range k).map pool.upcoming).filter (fun teid => !inUse teid) = [] := by
      simpa [List.filter_eq_nil_iff] using hearlier
    have hway : (pool.walked (k + 1)).upcoming = fun more => pool.upcoming (k + 1 + more) :=
      funext (upcoming_walked pool (k + 1))
    rw [List.range_add, List.range_succ, List.map_append, List.map_append, List.filter_append,
      List.filter_append, hpassed, hteids, hway]
    simp [hfree, Function.comp_def]

/-- The walk stops where a number was drawn. -/
theorem Successive.free_of_pos {teids : List UInt32} {steps : Nat}
    (h : Successive inUse pool teids steps pool') (pos : 0 < steps) :
    inUse (pool.upcoming (steps - 1)) = false := by
  induction h with
  | none => cases pos
  | @draw pool _ _ _ teids more ha h ih =>
    obtain ⟨k, hk, rfl, hfree, -, rfl⟩ := allocate_eq_some.1 ha
    rw [distance_upcoming hk]
    rcases Nat.eq_zero_or_pos more with rfl | hmore
    · exact hfree
    · have hlast := ih hmore
      rwa [upcoming_walked, ← Nat.add_sub_assoc hmore] at hlast

/-- Draws are pairwise distinct exactly as long as the walk has not come full circle. -/
theorem Successive.nodup_iff {teids : List UInt32} {steps : Nat}
    (h : Successive inUse pool teids steps pool') : teids.Nodup ↔ steps ≤ pool.size := by
  have hteids := h.eq_filter.1
  constructor
  · intro hnodup
    by_contra hlt
    -- The last number that was drawn was drawn a round before, too.
    obtain ⟨last, rfl⟩ : ∃ last, steps = last + 1 + pool.size := ⟨steps - pool.size - 1, by omega⟩
    have hfree := h.free_of_pos (by omega)
    have hlast : last + 1 + pool.size - 1 = last + pool.size := by omega
    rw [hlast, upcoming_add_size] at hfree
    rw [hteids, List.range_add, List.map_append, List.filter_append] at hnodup
    refine (List.nodup_append.1 hnodup).2.2 (pool.upcoming last) ?_ (pool.upcoming last) ?_ rfl
    · simp only [List.mem_filter, List.mem_map, List.mem_range, hfree, Bool.not_false, and_true]
      exact ⟨last, by omega, rfl⟩
    · obtain ⟨_, _, _, _, hsize⟩ := bounds pool.has_next
      simp only [List.mem_filter, List.map_map, List.mem_map, List.mem_range, Function.comp_apply,
        hfree, Bool.not_false, and_true]
      have hround : last + 1 + (pool.size - 1) = last + pool.size := by omega
      exact ⟨pool.size - 1, by omega, by rw [hround, upcoming_add_size]⟩
  · intro hle
    rw [hteids]
    refine List.Nodup.filter _ (List.Nodup.map_on ?_ List.nodup_range)
    intro i hi j hj heq
    rw [List.mem_range] at hi hj
    exact upcoming_inj (by omega) (by omega) heq

end GtpControl.TeidPool

namespace GtpControl

/-! ## The loop on machine words -/

/-- Why there is no result: a word cannot hold it. -/
inductive Overflow where
  | overflow
deriving DecidableEq, Repr

abbrev Checked := Except Overflow

/-- What an allocator keeps: three words, of which nothing is known. -/
structure Cursor where
  first : UInt32
  last : UInt32
  next : UInt32
deriving DecidableEq, Repr

namespace Cursor
variable {range : TeidRange} {cursor : Cursor} {pool : TeidPool} {inUse : UInt32 → Bool}

def difference (a b : UInt32) : Checked UInt32 :=
  if b ≤ a then pure (a - b) else throw .overflow

def successor (a : UInt32) : Checked UInt32 :=
  if a.toNat + 1 < 2 ^ 32 then pure (a + 1) else throw .overflow

def longSuccessor (a : UInt64) : Checked UInt64 :=
  if a.toNat + 1 < 2 ^ 64 then pure (a + 1) else throw .overflow

/-- The range is cut so that it does not have zero, and has a number. -/
def ofRange (range : TeidRange) : Cursor :=
  let first := max range.first 1
  ⟨first, max range.last first, first⟩

/-- The walk starts at the seed if the range has it. -/
def ofSeed (range : TeidRange) (seed : UInt32) : Cursor :=
  let cursor := ofRange range
  if cursor.first ≤ seed ∧ seed ≤ cursor.last then { cursor with next := seed } else cursor

/-- How often the loop goes round at most. -/
def turns (cursor : Cursor) : Checked Nat := do
  let span ← difference cursor.last cursor.first
  return (← longSuccessor span.toUInt64).toNat

/-- One step of the walk, from the last number of the range to the first. -/
def step (cursor : Cursor) : Checked Cursor :=
  if cursor.next = cursor.last then pure { cursor with next := cursor.first }
  else do return { cursor with next := ← successor cursor.next }

/-- Each turn goes a step before it looks at the number that it leaves. -/
def loop (inUse : UInt32 → Bool) : Nat → Cursor → Checked (Option UInt32 × Cursor)
  | 0, cursor => pure (none, cursor)
  | turns + 1, cursor => do
    let moved ← cursor.step
    if inUse cursor.next then loop inUse turns moved else pure (some cursor.next, moved)

/-- The number that is given out, if there is one, and what the allocator keeps then. -/
def allocate (inUse : UInt32 → Bool) (cursor : Cursor) : Checked (Option UInt32 × Cursor) := do
  loop inUse (← cursor.turns) cursor

/-- What the allocator may keep after it was made for a range, with a seed or without. -/
inductive Reached (range : TeidRange) : Cursor → Prop where
  | ofRange : Reached range (ofRange range)
  | ofSeed (seed : UInt32) : Reached range (ofSeed range seed)
  | allocate {cursor cursor' : Cursor} {inUse : UInt32 → Bool} {teid : Option UInt32}
    (h : Reached range cursor) (ha : cursor.allocate inUse = .ok (teid, cursor')) :
    Reached range cursor'

/-- The words of a pool. -/
def ofPool (pool : TeidPool) : Cursor := ⟨pool.first, pool.last, pool.next⟩

@[simp] theorem first_ofPool (pool : TeidPool) : (ofPool pool).first = pool.first := rfl

@[simp] theorem last_ofPool (pool : TeidPool) : (ofPool pool).last = pool.last := rfl

@[simp] theorem next_ofPool (pool : TeidPool) : (ofPool pool).next = pool.next := rfl

theorem ofPool_inj {pool' : TeidPool} (h : ofPool pool' = ofPool pool) : pool' = pool :=
  TeidPool.eq_of_fields (congrArg first h) (congrArg last h) (congrArg next h)

/-- A step stays inside the words, as the last number of the range is one. -/
theorem step_ofPool (pool : TeidPool) : (ofPool pool).step = .ok (ofPool pool.advance) := by
  unfold step TeidPool.advance
  by_cases hl : pool.next = pool.last
  · rw [dif_pos hl]
    exact if_pos hl
  · have hne : pool.next.toNat ≠ pool.last.toNat := fun he => hl (UInt32.toNat_inj.1 he)
    have hle := UInt32.le_iff_toNat_le.1 pool.next_le_last
    have hlt := pool.last.toNat_lt
    have hnext : successor pool.next = .ok (pool.next + 1) := if_pos (by omega)
    rw [dif_neg hl, next_ofPool, last_ofPool, if_neg hl, hnext]
    rfl

/-- The loop finds what a search finds, and otherwise has walked as often as it went round. -/
theorem loop_ofPool (inUse : UInt32 → Bool) (pool : TeidPool) (turns : Nat) :
    loop inUse turns (ofPool pool) =
      .ok (match pool.search inUse turns with
        | some (teid, pool') => (some teid, ofPool pool')
        | none => (none, ofPool (pool.walked turns))) := by
  induction turns generalizing pool with
  | zero => rfl
  | succ turns ih =>
    rw [loop, TeidPool.search, step_ofPool, ok_bind, ih, TeidPool.walked_advance, next_ofPool]
    split <;> rfl

theorem turns_ofPool (pool : TeidPool) : (ofPool pool).turns = .ok pool.size := by
  obtain ⟨hle, _, _, _, hsize⟩ := TeidPool.bounds pool.has_next
  have hfirst : pool.first ≤ pool.last := UInt32.le_trans pool.first_le_next pool.next_le_last
  have hlt := pool.last.toNat_lt
  have hspan : (pool.last - pool.first).toNat = pool.last.toNat - pool.first.toNat :=
    UInt32.toNat_sub_of_le _ _ hfirst
  have hlong : (pool.last - pool.first).toUInt64.toNat = pool.last.toNat - pool.first.toNat := by
    rw [UInt32.toNat_toUInt64, hspan]
  rw [turns, first_ofPool, last_ofPool, difference, if_pos hfirst, pure_eq, ok_bind, longSuccessor,
    if_pos (by omega), pure_eq, ok_bind, pure_eq, UInt64.toNat_add, hlong, hsize]
  congr 1
  exact Nat.mod_eq_of_lt (by simp; omega)

/-- A draw by the loop is a draw from the pool; one in vain leaves all words as they were. -/
theorem allocate_ofPool (inUse : UInt32 → Bool) (pool : TeidPool) :
    (ofPool pool).allocate inUse =
      .ok (match pool.allocate inUse with
        | some (teid, pool') => (some teid, ofPool pool')
        | none => (none, ofPool pool)) := by
  rw [allocate, turns_ofPool, ok_bind, loop_ofPool, TeidPool.walked_size]
  rfl

/-! ## What is reached -/

private theorem max_eq (a b : UInt32) : max a b = if a ≤ b then b else a := rfl

theorem ofPool_ofRange (range : TeidRange) : ofPool (.ofRange range) = ofRange range := by
  have hfirst : (if range.first = 0 then 1 else range.first) = max range.first 1 := by
    simp only [max_eq, UInt32.le_iff_toNat_le, ← UInt32.toNat_inj]
    split <;> split <;> simp_all
    omega
  have hlast : ∀ first, (if first ≤ range.last then range.last else first) = max range.last first := by
    intro first
    simp only [max_eq, UInt32.le_iff_toNat_le, ← UInt32.toNat_inj]
    split <;> split <;> omega
  rw [ofRange, ← hfirst, ← hlast]
  rfl

theorem ofPool_withStart (range : TeidRange) (seed : UInt32) :
    ofPool ((TeidPool.ofRange range).withStart seed) = ofSeed range seed := by
  rw [ofSeed, ← ofPool_ofRange, TeidPool.withStart]
  by_cases h : (TeidPool.ofRange range).first ≤ seed ∧ seed ≤ (TeidPool.ofRange range).last
  · rw [dif_pos h]
    exact (if_pos h).symm
  · rw [dif_neg h]
    exact (if_neg h).symm

/-- Whatever the allocator keeps are the words of a pool of its range. -/
theorem Reached.exists_pool (h : Reached range cursor) : ∃ pool : TeidPool, ofPool pool = cursor ∧
    cursor.first = max range.first 1 ∧ cursor.last = max range.last cursor.first := by
  induction h with
  | ofRange => exact ⟨.ofRange range, ofPool_ofRange range, rfl, rfl⟩
  | ofSeed seed =>
    refine ⟨_, ofPool_withStart range seed, ?_⟩
    rw [Cursor.ofSeed]
    split <;> exact ⟨rfl, rfl⟩
  | @allocate cursor cursor' inUse teid h ha ih =>
    obtain ⟨pool, rfl, hfirst, hlast⟩ := ih
    rw [allocate_ofPool] at ha
    cases hp : pool.allocate inUse with
    | none =>
      rw [hp] at ha
      cases ha
      exact ⟨pool, rfl, hfirst, hlast⟩
    | some drawn =>
      obtain ⟨teid, pool'⟩ := drawn
      rw [hp] at ha
      cases ha
      have draws := TeidPool.draws_allocate hp
      refine ⟨pool', rfl, ?_⟩
      rw [first_ofPool, last_ofPool, draws.first, draws.last]
      exact ⟨hfirst, hlast⟩

/-- Whatever a pool was made of and has given out, its range is the one that was asked for, but without
zero and not empty, and the loop never overflows. It takes the first number on the way that is not in use
and moves just past it. It finds none exactly when all of the range are in use, and then nothing has
changed. What it takes is in the range and not zero, and numbers that are drawn one after the other are
pairwise distinct exactly as long as the walk has not come full circle. -/
theorem Reached.allocation (h : Reached range cursor) :
    ∃ pool : TeidPool, ofPool pool = cursor ∧
      cursor.first = max range.first 1 ∧ cursor.last = max range.last cursor.first ∧
      ∀ inUse : UInt32 → Bool,
        (cursor.allocate inUse = .ok (match pool.allocate inUse with
          | some (teid, pool') => (some teid, ofPool pool')
          | none => (none, cursor))) ∧
        (∀ teid pool', pool.allocate inUse = some (teid, pool') ↔ ∃ steps < pool.size,
          teid = pool.upcoming steps ∧ inUse teid = false ∧
            (∀ earlier < steps, inUse (pool.upcoming earlier) = true) ∧
            ofPool pool' = { cursor with next := pool.upcoming (steps + 1) }) ∧
        (pool.allocate inUse = none ↔ ∀ teid, pool.Has teid → inUse teid = true) ∧
        (∀ teid pool', pool.allocate inUse = some (teid, pool') → pool.Has teid ∧ teid ≠ 0) ∧
        ∀ teids steps pool', TeidPool.Successive inUse pool teids steps pool' →
          (teids.Nodup ↔ steps ≤ pool.size) := by
  obtain ⟨pool, rfl, hfirst, hlast⟩ := h.exists_pool
  refine ⟨pool, rfl, hfirst, hlast, fun inUse => ⟨allocate_ofPool inUse pool, ?_,
    TeidPool.allocate_eq_none, ?_, fun _ _ _ => TeidPool.Successive.nodup_iff⟩⟩
  · intro teid pool'
    have hmoved : ∀ steps, pool' = pool.walked steps ↔
        ofPool pool' = { ofPool pool with next := pool.upcoming steps } := by
      intro steps
      have hwalked : ofPool (pool.walked steps) =
          { ofPool pool with next := pool.upcoming steps } := by
        rw [ofPool, TeidPool.first_walked, TeidPool.last_walked, TeidPool.next_walked]
        rfl
      rw [← hwalked]
      exact ⟨congrArg ofPool, ofPool_inj⟩
    simp only [TeidPool.allocate_eq_some, hmoved]
  · intro teid pool' ha
    have draws := TeidPool.draws_allocate ha
    exact ⟨⟨draws.first_le, draws.le_last⟩, draws.ne_zero⟩

/-- The last two numbers that there are, with the walk at the very last. -/
private def top : TeidPool where
  first := 0xfffffffe
  last := 0xffffffff
  next := 0xffffffff
  first_pos := by decide
  first_le_next := by decide
  next_le_last := by decide

/-- The walk goes from the last word of all back to the first of the range. With both numbers free the
two draws of a round are distinct. -/
theorem Reached.allocation_top :
    Reached ⟨0xfffffffe, 0xffffffff⟩ (ofPool top) ∧
      (ofPool top).allocate (· == 0xffffffff) = .ok (some 0xfffffffe, ofPool top) ∧
      (ofPool top).allocate (fun _ => true) = .ok (none, ofPool top) ∧
      TeidPool.Successive (fun _ => false) top [0xffffffff, 0xfffffffe] 2 top ∧
      [(0xffffffff : UInt32), 0xfffffffe].Nodup := by
  have hreached : Reached ⟨0xfffffffe, 0xffffffff⟩ (ofPool top) := .ofSeed 0xffffffff
  obtain ⟨pool, hpool, -, -, h⟩ := hreached.allocation
  obtain rfl := ofPool_inj hpool
  obtain ⟨hloop, htakes, -⟩ := h (· == 0xffffffff)
  obtain ⟨hvain, -, hnone, -⟩ := h fun _ => true
  obtain ⟨-, hfree, -, -, hdistinct⟩ := h fun _ => false
  have hskips : top.allocate (· == 0xffffffff) = some (0xfffffffe, top) :=
    (htakes 0xfffffffe top).2 ⟨1, by decide, by decide, by decide, by decide, by decide⟩
  have hfirst : top.allocate (fun _ => false) = some (0xffffffff, top.advance) :=
    (hfree _ _).2 ⟨0, by decide, by decide, rfl, by decide, by decide⟩
  have hsecond : top.advance.allocate (fun _ => false) = some (0xfffffffe, top) :=
    TeidPool.allocate_eq_some.2 ⟨0, by decide, by decide, rfl, by decide, ofPool_inj (by decide)⟩
  have hround : TeidPool.Successive (fun _ => false) top [0xffffffff, 0xfffffffe] 2 top :=
    .draw hfirst (.draw hsecond (.none top))
  refine ⟨hreached, ?_, ?_, hround, (hdistinct _ _ _ hround).2 (by decide)⟩
  · rw [hloop, hskips]
  · rw [hvain, hnone.2 fun _ _ => rfl]

end Cursor
end GtpControl
