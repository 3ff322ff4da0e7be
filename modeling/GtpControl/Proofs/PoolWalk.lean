import GtpControl.Proofs.RegistryLaws
import Mathlib.Order.Interval.Finset.Nat

/-! # The walk of a pool: which number is drawn, and when it comes up again

Numbers are measured by their distance from where the next search starts. A draw takes the nearest
number that is not in use and leaves it at the far end of the walk. -/
namespace GtpControl.TeidPool
variable {inUse : UInt32 → Bool} {pool pool' : TeidPool} {teid other : UInt32}

/-- The number is in the range of the pool. -/
def Has (teid : UInt32) (pool : TeidPool) : Prop := pool.first ≤ teid ∧ teid ≤ pool.last

/-- Steps of the walk from its next number to a number of the range. -/
def distance (teid : UInt32) (pool : TeidPool) : Nat :=
  if pool.next ≤ teid then teid.toNat - pool.next.toNat
  else teid.toNat + pool.size - pool.next.toNat

theorem has_next (pool : TeidPool) : pool.Has pool.next := ⟨pool.first_le_next, pool.next_le_last⟩

@[simp] theorem has_advance : pool.advance.Has teid ↔ pool.Has teid := by
  simp [Has]

theorem size_congr (first : pool'.first = pool.first) (last : pool'.last = pool.last) :
    pool'.size = pool.size := by
  rw [size, size, first, last]

@[simp] theorem size_advance (pool : TeidPool) : pool.advance.size = pool.size :=
  size_congr (first_advance pool) (last_advance pool)

theorem toNat_next_advance (pool : TeidPool) :
    pool.advance.next.toNat =
      if pool.next = pool.last then pool.first.toNat else pool.next.toNat + 1 := by
  unfold advance
  split
  · rfl
  · next h =>
    have hne : pool.next.toNat ≠ pool.last.toNat := fun he => h (UInt32.toNat_inj.1 he)
    have hle := UInt32.le_iff_toNat_le.1 pool.next_le_last
    have hlt := pool.last.toNat_lt
    simp only [UInt32.toNat_add, UInt32.toNat_ofNat]
    omega

/-- The bounds of the range and the state of the walk, as natural numbers. -/
theorem bounds (has : pool.Has teid) :
    pool.first.toNat ≤ teid.toNat ∧ teid.toNat ≤ pool.last.toNat ∧
      pool.first.toNat ≤ pool.next.toNat ∧ pool.next.toNat ≤ pool.last.toNat ∧
      pool.size = pool.last.toNat - pool.first.toNat + 1 :=
  ⟨UInt32.le_iff_toNat_le.1 has.1, UInt32.le_iff_toNat_le.1 has.2,
    UInt32.le_iff_toNat_le.1 pool.first_le_next, UInt32.le_iff_toNat_le.1 pool.next_le_last, rfl⟩

theorem distance_lt_size (has : pool.Has teid) : pool.distance teid < pool.size := by
  obtain ⟨_, _, _, _, _⟩ := bounds has
  rw [distance]
  split
  · omega
  · next h =>
    rw [UInt32.le_iff_toNat_le] at h
    omega

theorem eq_of_distance (has : pool.Has teid) (has' : pool.Has other)
    (h : pool.distance teid = pool.distance other) : teid = other := by
  obtain ⟨_, _, _, _, _⟩ := bounds has
  obtain ⟨_, _, -, -, -⟩ := bounds has'
  refine UInt32.toNat_inj.1 ?_
  simp only [distance, UInt32.le_iff_toNat_le] at h
  split at h <;> split at h <;> omega

@[simp] theorem distance_next (pool : TeidPool) : pool.distance pool.next = 0 := by
  simp [distance]

/-- A step of the walk comes one nearer to all numbers but the one that it leaves. -/
theorem distance_advance (has : pool.Has teid) (h : teid ≠ pool.next) :
    pool.advance.distance teid + 1 = pool.distance teid := by
  obtain ⟨_, _, _, _, _⟩ := bounds has
  have hne : teid.toNat ≠ pool.next.toNat := fun he => h (UInt32.toNat_inj.1 he)
  simp only [distance, UInt32.le_iff_toNat_le, toNat_next_advance, size_advance]
  by_cases hl : pool.next = pool.last
  · have hlast : pool.next.toNat = pool.last.toNat := congrArg UInt32.toNat hl
    rw [if_pos hl]
    split <;> split <;> omega
  · rw [if_neg hl]
    split <;> split <;> omega

/-- The number that a step leaves comes up again after all others. -/
theorem distance_advance_next (pool : TeidPool) :
    pool.advance.distance pool.next + 1 = pool.size := by
  obtain ⟨_, _, _, _, _⟩ := bounds pool.has_next
  simp only [distance, UInt32.le_iff_toNat_le, toNat_next_advance, size_advance]
  by_cases hl : pool.next = pool.last
  · have hlast : pool.next.toNat = pool.last.toNat := congrArg UInt32.toNat hl
    rw [if_pos hl]
    split <;> omega
  · rw [if_neg hl]
    split <;> omega

/-- A range has a number beside any that are fewer than its own. -/
theorem exists_has_notMem {used : Finset UInt32} (h : used.card < pool.size) :
    ∃ teid, pool.Has teid ∧ teid ∉ used := by
  by_contra hall
  simp only [not_exists, not_and, not_not] at hall
  have hbounds := bounds pool.has_next
  have hlt := pool.last.toNat_lt
  have hsub : Finset.Icc pool.first.toNat pool.last.toNat ⊆ used.image UInt32.toNat := by
    intro n hn
    rw [Finset.mem_Icc] at hn
    have hsize : n < UInt32.size := Nat.lt_of_le_of_lt hn.2 hlt
    have ht : (UInt32.ofNat n).toNat = n := UInt32.toNat_ofNat_of_lt hsize
    refine Finset.mem_image.2 ⟨.ofNat n, hall _ ⟨?_, ?_⟩, ht⟩
    · rw [UInt32.le_iff_toNat_le, ht]
      exact hn.1
    · rw [UInt32.le_iff_toNat_le, ht]
      exact hn.2
  have hcard := (Finset.card_le_card hsub).trans Finset.card_image_le
  rw [Nat.card_Icc] at hcard
  omega

/-! ## Draws along the walk -/

/-- What a draw does to the distances: it takes the nearest free number, and what is beyond that comes
as much nearer. -/
structure Walks (inUse : UInt32 → Bool) (pool : TeidPool) (teid : UInt32) (pool' : TeidPool) :
    Prop extends Draws inUse pool teid pool' where
  nearest : ∀ other, pool.Has other → inUse other = false → pool.distance teid ≤ pool.distance other
  beyond : ∀ other, pool.Has other → pool.distance teid < pool.distance other →
    pool'.distance other + (pool.distance teid + 1) = pool.distance other
  farthest : pool'.distance teid + 1 = pool.size

private theorem walks_search {n : Nat} (h : pool.search inUse n = some (teid, pool')) :
    Walks inUse pool teid pool' := by
  induction n generalizing pool with
  | zero => simp [search] at h
  | succ n ih =>
    have draws := draws_search h
    have has : pool.Has teid := ⟨draws.first_le, draws.le_last⟩
    rw [search] at h
    cases hu : inUse pool.next with
    | true =>
      rw [hu, if_pos rfl] at h
      obtain ⟨-, hnearest, hbeyond, hfarthest⟩ := ih h
      have hskip : ∀ other, inUse other = false → other ≠ pool.next := by
        rintro other hfree rfl
        rw [hu] at hfree
        cases hfree
      have hteid := distance_advance has (hskip teid draws.free)
      refine ⟨draws, fun other has' hfree => ?_, fun other has' hlt => ?_, ?_⟩
      · have hother := distance_advance has' (hskip other hfree)
        have := hnearest other (has_advance.2 has') hfree
        omega
      · have hne : other ≠ pool.next := by
          rintro rfl
          rw [distance_next] at hlt
          omega
        have hother := distance_advance has' hne
        have := hbeyond other (has_advance.2 has') (by omega)
        omega
      · rw [hfarthest, size_advance]
    | false =>
      rw [hu, if_neg Bool.false_ne_true] at h
      cases h
      refine ⟨draws, fun other _ _ => ?_, fun other has' hlt => ?_, distance_advance_next pool⟩
      · rw [distance_next]
        omega
      · rw [distance_next] at hlt ⊢
        have hne : other ≠ pool.next := by
          rintro rfl
          rw [distance_next] at hlt
          omega
        exact distance_advance has' hne

theorem walks_allocate (h : pool.allocate inUse = some (teid, pool')) :
    Walks inUse pool teid pool' :=
  walks_search h

private theorem inUse_of_search {n : Nat} (h : pool.search inUse n = none) (has : pool.Has teid)
    (hn : pool.distance teid < n) : inUse teid = true := by
  induction n generalizing pool with
  | zero => omega
  | succ n ih =>
    rw [search] at h
    cases hu : inUse pool.next with
    | true =>
      rw [hu, if_pos rfl] at h
      by_cases he : teid = pool.next
      · rw [he]
        exact hu
      · have := distance_advance has he
        exact ih h (has_advance.2 has) (by omega)
    | false =>
      rw [hu, if_neg Bool.false_ne_true] at h
      cases h

/-- Nothing is drawn only when every number of the range is in use. -/
theorem allocate_eq_none : pool.allocate inUse = none ↔ ∀ teid, pool.Has teid → inUse teid = true := by
  constructor
  · intro h teid has
    exact inUse_of_search h has (distance_lt_size has)
  · intro h
    cases ha : pool.allocate inUse with
    | none => rfl
    | some found =>
      obtain ⟨teid, pool'⟩ := found
      have draws := draws_allocate ha
      have hused := h teid ⟨draws.first_le, draws.le_last⟩
      rw [draws.free] at hused
      cases hused

end GtpControl.TeidPool
