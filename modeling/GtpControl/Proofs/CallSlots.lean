import GtpControl.Endpoint.Procedure
import GtpControl.Proofs.CallTable

/-! # Slots: which calls have a place in the table of calls

A slot is the place of a call under its key. A call loses its slot when it is signalled, and a call
that has not been signalled has its slot. -/
namespace GtpControl

namespace Bindings
variable {κ α : Type} [DecidableEq κ] {bindings : Bindings κ α}

theorem Unique.erase (h : bindings.Unique) (key : κ) : (bindings.erase key).Unique :=
  List.Nodup.sublist (List.Sublist.map _ List.eraseP_sublist) h

theorem Unique.get?_erase (h : bindings.Unique) (key key' : κ) :
    (bindings.erase key).get? key' = if key' = key then none else bindings.get? key' := by
  obtain ⟨entries⟩ := bindings
  rw [Unique, keys] at h
  rw [Bindings.erase, get?, get?]
  dsimp only at h ⊢
  induction entries with
  | nil => simp
  | cons entry rest ih =>
    obtain ⟨bound, value⟩ := entry
    rw [List.map_cons, List.nodup_cons] at h
    by_cases hb : bound = key
    · subst hb
      rw [List.eraseP_cons_of_pos (by simp)]
      split
      · next he =>
        subst he
        refine List.lookup_eq_none_iff.2 fun other hm => bne_iff_ne.2 ?_
        rintro rfl
        exact h.1 (List.mem_map.2 ⟨other, hm, rfl⟩)
      · next he => rw [List.lookup_cons, beq_eq_false_iff_ne.2 he]
    · rw [List.eraseP_cons_of_neg (by simpa using hb), List.lookup_cons, List.lookup_cons, ih h.2]
      split
      · next he =>
        have hne : ¬key' = key := fun hk => hb ((beq_iff_eq.1 he).symm.trans hk)
        rw [if_neg hne]
      · rfl

end Bindings

namespace Pending
variable {pending next : Pending} {key : CallKey} {ticket : Ticket} {message : Message}

/-! ## Signals -/

/-- What a call has been signalled. -/
def signal? (ticket : Ticket) (pending : Pending) : Option Resolution :=
  pending.signals.lookup ticket

theorem collect_fst (ticket : Ticket) (pending : Pending) :
    (pending.collect ticket).1 = pending.signal? ticket := rfl

/-- One more call is signalled, or none. A second signal of one call is lost. -/
private theorem lookup_signals (signals : List (Ticket × Resolution)) (holder : Option Ticket)
    (resolution : Resolution) (ticket : Ticket) :
    (signals ++ holder.toList.map (·, resolution)).lookup ticket =
      (signals.lookup ticket).or (if holder = some ticket then some resolution else none) := by
  rw [List.lookup_append]
  congr 1
  cases holder with
  | none => rfl
  | some found =>
    by_cases h : found = ticket
    · simp [h]
    · have hb : (ticket == found) = false := beq_eq_false_iff_ne.2 (Ne.symm h)
      simp [h, List.lookup_cons, hb]

theorem signals_open (h : pending.open? key = some (ticket, next)) :
    next.signals = pending.signals ++ (pending.waiting.get? key).toList.map (·, .cancelled) := by
  rw [open?] at h
  split at h
  · cases h
  · cases hw : pending.waiting.get? key with
    | none =>
      simp only [hw] at h
      cases h
      simp
    | some displaced =>
      simp only [hw] at h
      cases h
      rfl

/-- A call that is opened takes the slot of another one under its key, which is cancelled. -/
theorem signal?_open (h : pending.open? key = some (ticket, next)) (other : Ticket) :
    next.signal? other = (pending.signal? other).or
      (if pending.waiting.get? key = some other then some .cancelled else none) := by
  rw [signal?, signal?, signals_open h, lookup_signals]

theorem signals_resolve (key : CallKey) (message : Message) (pending : Pending) :
    (pending.resolve key message).2.signals =
      pending.signals ++ (pending.waiting.get? key).toList.map (·, .reply message) := by
  rw [resolve]
  cases hw : pending.waiting.get? key with
  | none => simp
  | some waiter => rfl

theorem signal?_resolve (key : CallKey) (message : Message) (pending : Pending) (other : Ticket) :
    (pending.resolve key message).2.signal? other = (pending.signal? other).or
      (if pending.waiting.get? key = some other then some (.reply message) else none) := by
  rw [signal?, signal?, signals_resolve, lookup_signals]

theorem signal?_forget (key : CallKey) (ticket : Ticket) (pending : Pending) (other : Ticket) :
    (pending.forget key ticket).signal? other = (pending.signal? other).or
      (if pending.waiting.get? key = some other ∧ other ≠ ticket then some .cancelled else none) := by
  obtain ⟨-, -, -, hs⟩ := forget_spec key ticket pending
  rw [signal?, signal?, hs, lookup_signals]
  simp [Option.filter_eq_some_iff]

theorem signal?_cancelAll (pending : Pending) (other : Ticket) :
    pending.cancelAll.signal? other = (pending.signal? other).or
      (if other ∈ pending.waiting.values then some .cancelled else none) := by
  rw [signal?, cancelAll, List.lookup_append]
  congr 1
  induction pending.waiting.values with
  | nil => rfl
  | cons waiter rest ih =>
    rw [List.map_cons, List.lookup_cons, ih]
    by_cases h : other = waiter
    · simp [h]
    · simp [h, beq_eq_false_iff_ne.2 h]

theorem signal?_collect (ticket : Ticket) (pending : Pending) (other : Ticket) :
    (pending.collect ticket).2.signal? other =
      if other = ticket then none else pending.signal? other := by
  rw [signal?, signal?, collect]
  dsimp only
  induction pending.signals with
  | nil => simp
  | cons signal rest ih =>
    obtain ⟨found, resolution⟩ := signal
    by_cases hf : found = ticket
    · subst hf
      rw [List.filter_cons_of_neg (by simp), ih]
      split
      · rfl
      · next h => rw [List.lookup_cons, beq_eq_false_iff_ne.2 h]
    · rw [List.filter_cons_of_pos (by simpa using hf), List.lookup_cons, List.lookup_cons, ih]
      split
      · next h =>
        have hne : ¬other = ticket := fun ht => hf ((beq_iff_eq.1 h).symm.trans ht)
        rw [if_neg hne]
      · rfl

/-- A call that has not been signalled has nothing to collect. -/
theorem collect_of_signal?_eq_none (h : pending.signal? ticket = none) :
    (pending.collect ticket).2 = pending := by
  have hs : pending.signals.filter (·.1 != ticket) = pending.signals := by
    refine List.filter_eq_self.2 fun signal hm => ?_
    exact bne_iff_ne.2 (Ne.symm (bne_iff_ne.1 (List.lookup_eq_none_iff.1 h signal hm)))
  rw [collect, hs]

/-! ## Slots -/

theorem closed_of_open (h : pending.open? key = some (ticket, next)) :
    pending.closed = false ∧ next.closed = false := by
  rw [open?] at h
  split at h
  · cases h
  · next hc =>
    rw [Bool.not_eq_true] at hc
    cases hw : pending.waiting.get? key with
    | none =>
      simp only [hw] at h
      cases h
      exact ⟨hc, hc⟩
    | some displaced =>
      simp only [hw] at h
      cases h
      exact ⟨hc, hc⟩

/-- Calls are refused exactly when the table is closed. -/
theorem open?_eq_none : pending.open? key = none ↔ pending.closed = true := by
  rw [open?]
  split <;> simp [*]

/-- A reply frees its slot and changes no other. -/
theorem slots_resolve (h : pending.waiting.Unique) (key : CallKey) (message : Message) :
    (pending.resolve key message).2.waiting.Unique ∧
      (pending.resolve key message).2.opened = pending.opened ∧
      (pending.resolve key message).2.closed = pending.closed ∧
      ∀ key', (pending.resolve key message).2.waiting.get? key' =
        if key' = key then none else pending.waiting.get? key' := by
  rw [resolve]
  cases hw : pending.waiting.get? key with
  | none =>
    refine ⟨h, rfl, rfl, fun key' => ?_⟩
    by_cases he : key' = key
    · rw [if_pos he, he]
      exact hw
    · rw [if_neg he]
  | some waiter => exact ⟨h.erase key, rfl, rfl, h.get?_erase key⟩

open Endpoint (Call)
variable {ι : Type} {holder holder' : ι → Option Call} {call : Call} {i : ι}

/-- The calls of some requests and the slots of a table fit together. -/
structure Held (holder : ι → Option Call) (pending : Pending) : Prop where
  unique : pending.waiting.Unique
  numbered : pending.Numbered
  empty : pending.closed = true → pending.waiting = {}
  lt : ∀ i call, holder i = some call → call.ticket < pending.opened
  single : ∀ i j call other, holder i = some call → holder j = some other →
    call.ticket = other.ticket → i = j
  /-- a call that has not been signalled has its slot -/
  slot : ∀ i call, holder i = some call → pending.signal? call.ticket = none →
    pending.waiting.get? call.key = some call.ticket
  /-- a slot is that of such a call -/
  owner : ∀ key ticket, pending.waiting.get? key = some ticket → pending.signal? ticket = none ∧
    ∃ i call, holder i = some call ∧ call.key = key ∧ call.ticket = ticket

theorem held_empty (hh : ∀ i, holder i = none) : Held holder {} where
  unique := Bindings.unique_empty
  numbered := Reachable.empty.numbered
  empty _ := rfl
  lt i call hi := by simp [hh] at hi
  single i _ call _ hi := by simp [hh] at hi
  slot i call hi := by simp [hh] at hi
  owner _ _ h := by cases h

/-- No call has two slots. -/
theorem Held.key_eq (held : Held holder pending) {key' : CallKey}
    (h : pending.waiting.get? key = some ticket) (h' : pending.waiting.get? key' = some ticket) :
    key = key' := by
  obtain ⟨-, i, call, hi, hk, ht⟩ := held.owner key ticket h
  obtain ⟨-, j, other, hj, hk', ht'⟩ := held.owner key' ticket h'
  obtain rfl := held.single i j call other hi hj (ht.trans ht'.symm)
  cases hi.symm.trans hj
  exact hk.symm.trans hk'

/-- A call has no slot but the one under its key. -/
theorem Held.key_of_waiting (held : Held holder pending) (hi : holder i = some call)
    (h : pending.waiting.get? key = some call.ticket) : call.key = key := by
  obtain ⟨-, j, other, hj, hk, ht⟩ := held.owner key call.ticket h
  obtain rfl := held.single i j call other hi hj ht.symm
  cases hi.symm.trans hj
  exact hk

/-- A request that opens a call has its slot. -/
theorem Held.open [DecidableEq ι] (held : Held holder pending)
    (h : pending.open? call.key = some (call.ticket, next)) (hi : holder i = none)
    (hh : ∀ j, holder' j = if j = i then some call else holder j) : Held holder' next := by
  obtain ⟨ht, ho, hw, -⟩ := open?_eq_some h
  have hget : ∀ key, next.waiting.get? key =
      if key = call.key then some call.ticket else pending.waiting.get? key := fun key => by
    rw [hw, ht, Bindings.get?_insert]
  have hsignal := signal?_open h
  have hold : ∀ j other, holder' j = some other → j = i ∧ other = call ∨ j ≠ i ∧
      holder j = some other := fun j other hj => by
    rw [hh] at hj
    split at hj
    · next he =>
      cases hj
      exact .inl ⟨he, rfl⟩
    · next he => exact .inr ⟨he, hj⟩
  refine ⟨?_, numbered_of_open held.numbered h, fun hc => ?_, fun j other hj => ?_,
    fun j k other another hj hk he => ?_, fun j other hj hs => ?_, fun key ticket hg => ?_⟩
  · rw [hw]
    exact held.unique.insert ..
  · rw [(closed_of_open h).2] at hc
    cases hc
  · rw [ho]
    rcases hold j other hj with ⟨-, rfl⟩ | ⟨-, hj⟩
    · rw [ht]
      exact Nat.lt_succ_self _
    · exact Nat.lt_succ_of_lt (held.lt j other hj)
  · rcases hold j other hj with ⟨rfl, rfl⟩ | ⟨-, hj⟩ <;>
      rcases hold k another hk with ⟨rfl, rfl⟩ | ⟨-, hk⟩
    · rfl
    · exact absurd (he.symm.trans ht) (Nat.ne_of_lt (held.lt k another hk))
    · exact absurd (he.trans ht) (Nat.ne_of_lt (held.lt j other hj))
    · exact held.single j k other another hj hk he
  · rw [hget]
    rcases hold j other hj with ⟨rfl, rfl⟩ | ⟨-, hj⟩
    · exact if_pos rfl
    · rw [hsignal, Option.or_eq_none_iff] at hs
      have hslot := held.slot j other hj hs.1
      have hne : other.key ≠ call.key := fun he => by simp [← he, hslot] at hs
      rw [if_neg hne]
      exact hslot
  · rw [hget] at hg
    rw [hsignal, Option.or_eq_none_iff]
    split at hg
    · next he =>
      cases hg
      refine ⟨⟨?_, if_neg fun hw => ?_⟩, i, call, by rw [hh, if_pos rfl], he.symm, rfl⟩
      · refine List.lookup_eq_none_iff.2 fun signal hm => bne_iff_ne.2 ?_
        rw [ht]
        exact Nat.ne_of_gt (held.numbered.signals signal hm)
      · rw [ht] at hw
        exact Nat.lt_irrefl _ (held.numbered.waiting _ (Bindings.mem_values_of_get? hw))
    · next he =>
      obtain ⟨hs, j, other, hj, hk, htj⟩ := held.owner key ticket hg
      have hji : j ≠ i := by
        rintro rfl
        cases hi.symm.trans hj
      exact ⟨⟨hs, if_neg fun hg' => he (held.key_eq hg hg')⟩, j, other,
        by rw [hh, if_neg hji, hj], hk, htj⟩

/-- The slot under a key becomes free, and who had it is signalled or has given up. -/
private theorem Held.vacate (held : Held holder pending) (key : CallKey)
    (verdict : Ticket → Option Resolution)
    (unique : next.waiting.Unique) (numbered : next.Numbered) (opened : next.opened = pending.opened)
    (empty : next.closed = true → next.waiting = {})
    (hget : ∀ key', next.waiting.get? key' =
      if key' = key then none else pending.waiting.get? key')
    (hsignal : ∀ other, next.signal? other = (pending.signal? other).or
      (if pending.waiting.get? key = some other then verdict other else none))
    (hless : ∀ i call, holder' i = some call → holder i = some call ∧ verdict call.ticket ≠ none)
    (hmore : ∀ i call, holder i = some call → call.key ≠ key → holder' i = some call) :
    Held holder' next := by
  refine ⟨unique, numbered, empty, fun j other hj => ?_, fun j k other another hj hk =>
    held.single j k other another (hless j other hj).1 (hless k another hk).1,
    fun j other hj hs => ?_, fun key' ticket hg => ?_⟩
  · rw [opened]
    exact held.lt j other (hless j other hj).1
  · obtain ⟨hj, hv⟩ := hless j other hj
    rw [hsignal, Option.or_eq_none_iff] at hs
    have hslot := held.slot j other hj hs.1
    have hne : other.key ≠ key := by
      rintro rfl
      exact hv (by simpa [hslot] using hs.2)
    rw [hget, if_neg hne]
    exact hslot
  · rw [hget] at hg
    split at hg
    · cases hg
    · next hne =>
      obtain ⟨hs, j, other, hj, hk, ht⟩ := held.owner key' ticket hg
      refine ⟨?_, j, other, hmore j other hj (by rwa [hk]), hk, ht⟩
      rw [hsignal, hs, Option.none_or]
      exact if_neg fun hg' => hne (held.key_eq hg hg')

theorem Held.resolve (held : Held holder pending) (key : CallKey) (message : Message) :
    Held holder (pending.resolve key message).2 := by
  obtain ⟨unique, opened, closed, hget⟩ := slots_resolve held.unique key message
  refine held.vacate key (fun _ => some (.reply message)) unique
    (numbered_of_resolve held.numbered key message) opened (fun hc => ?_) hget
    (signal?_resolve key message pending) (fun i call hi => ⟨hi, by simp⟩) fun i call hi _ => hi
  have hnone := held.empty (closed ▸ hc)
  rw [Pending.resolve, hnone]
  exact hnone

/-- A request that gives its call up leaves no slot under its key. -/
theorem Held.forget [DecidableEq ι] (held : Held holder pending) (hi : holder i = some call)
    (hh : ∀ j, holder' j = if j = i then none else holder j) :
    Held holder' (pending.forget call.key call.ticket) := by
  obtain ⟨opened, closed, hw, -⟩ := forget_spec call.key call.ticket pending
  refine held.vacate call.key (fun other => if other = call.ticket then none else some .cancelled) ?_
    (numbered_of_forget held.numbered _ _) opened (fun hc => ?_) (fun key' => ?_)
    (fun other => ?_) (fun j other hj => ?_) fun j other hj hne => ?_
  · rw [hw]
    exact held.unique.erase _
  · rw [hw, held.empty (closed ▸ hc)]
    rfl
  · rw [hw, held.unique.get?_erase]
  · rw [signal?_forget]
    by_cases ht : other = call.ticket <;> simp [ht]
  · rw [hh] at hj
    split at hj
    · cases hj
    · next hne =>
      have ht : other.ticket ≠ call.ticket := fun he => hne (held.single j i other call hj hi he)
      exact ⟨hj, by simp [ht]⟩
  · rw [hh, if_neg]
    · exact hj
    · rintro rfl
      cases hi.symm.trans hj
      exact hne rfl

/-- A request that has seen the signal of its call is done with it. -/
theorem Held.collect [DecidableEq ι] (held : Held holder pending) (hi : holder i = some call)
    (hs : pending.signal? call.ticket ≠ none)
    (hh : ∀ j, holder' j = if j = i then none else holder j) :
    Held holder' (pending.collect call.ticket).2 := by
  have hold : ∀ j other, holder' j = some other → j ≠ i ∧ holder j = some other :=
    fun j other hj => by
      rw [hh] at hj
      split at hj
      · cases hj
      · next hne => exact ⟨hne, hj⟩
  refine ⟨held.unique, ⟨held.numbered.waiting, fun signal hm => ?_⟩, held.empty,
    fun j other hj => held.lt j other (hold j other hj).2,
    fun j k other another hj hk => held.single j k other another (hold j other hj).2
      (hold k another hk).2, fun j other hj hn => ?_, fun key ticket hg => ?_⟩
  · exact held.numbered.signals signal (List.mem_filter.1 hm).1
  · obtain ⟨hne, hj⟩ := hold j other hj
    have ht : other.ticket ≠ call.ticket := fun he => hne (held.single j i other call hj hi he)
    rw [signal?_collect, if_neg ht] at hn
    exact held.slot j other hj hn
  · obtain ⟨hn, j, other, hj, hk, ht⟩ := held.owner key ticket hg
    have hji : j ≠ i := by
      rintro rfl
      cases hi.symm.trans hj
      exact hs (ht ▸ hn)
    refine ⟨?_, j, other, by rw [hh, if_neg hji, hj], hk, ht⟩
    rw [signal?_collect, hn, ite_self]

theorem Held.cancelAll (held : Held holder pending) : Held holder pending.cancelAll := by
  refine ⟨Bindings.unique_empty, ?_, fun _ => rfl, held.lt, held.single, fun j other hj hn => ?_,
    fun key ticket hg => by cases hg⟩
  · refine ⟨fun _ ht => absurd ht List.not_mem_nil, fun signal hm => ?_⟩
    rcases List.mem_append.1 hm with hm | hm
    · exact held.numbered.signals signal hm
    · obtain ⟨ticket, ht, rfl⟩ := List.mem_map.1 hm
      exact held.numbered.waiting ticket ht
  · rw [signal?_cancelAll, Option.or_eq_none_iff] at hn
    have hslot := held.slot j other hj hn.1
    simp [Bindings.mem_values_of_get? hslot] at hn

end Pending
end GtpControl
