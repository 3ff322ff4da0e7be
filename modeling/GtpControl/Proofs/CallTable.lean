import GtpControl.Endpoint.Pending
import GtpControl.Proofs.RegistryLaws

/-! # The table of calls: no ticket is given out twice -/
namespace GtpControl

namespace Bindings
variable {κ α : Type} [DecidableEq κ]

theorem mem_values_insert {key : κ} {value value' : α} {bindings : Bindings κ α}
    (h : value' ∈ (bindings.insert key value).values) :
    value' = value ∨ value' ∈ bindings.values := by
  obtain ⟨entry, he, rfl⟩ := List.mem_map.1 h
  exact (mem_put he).imp (congrArg Prod.snd) (List.mem_map_of_mem (f := Prod.snd))

theorem mem_values_erase {key : κ} {value : α} {bindings : Bindings κ α}
    (h : value ∈ (bindings.erase key).values) : value ∈ bindings.values := by
  obtain ⟨entry, he, rfl⟩ := List.mem_map.1 h
  exact List.mem_map_of_mem (List.mem_of_mem_eraseP he)

theorem mem_values_of_get? {key : κ} {value : α} {bindings : Bindings κ α}
    (h : bindings.get? key = some value) : value ∈ bindings.values := by
  obtain ⟨front, back, he, -⟩ := List.lookup_eq_some_iff.1 h
  refine List.mem_map.2 ⟨(key, value), ?_, rfl⟩
  rw [he]
  exact List.mem_append_right _ List.mem_cons_self

end Bindings

namespace Pending
variable {pending next : Pending} {key : CallKey} {ticket : Ticket} {message : Message}

/-- Tables that come about by opening calls, and by answering, giving up, cancelling and collecting
them. -/
inductive Reachable : Pending → Prop
  | empty : Reachable {}
  | opened {pending next : Pending} {key : CallKey} {ticket : Ticket} (h : Reachable pending)
      (ho : pending.open? key = some (ticket, next)) : Reachable next
  | resolved {pending : Pending} (key : CallKey) (message : Message) (h : Reachable pending) :
      Reachable (pending.resolve key message).2
  | forgotten {pending : Pending} (key : CallKey) (ticket : Ticket) (h : Reachable pending) :
      Reachable (pending.forget key ticket)
  | cancelled {pending : Pending} (h : Reachable pending) : Reachable pending.cancelAll
  | collected {pending : Pending} (ticket : Ticket) (h : Reachable pending) :
      Reachable (pending.collect ticket).2

/-- Only calls that were opened wait or are signalled. -/
structure Numbered (pending : Pending) : Prop where
  waiting : ∀ ticket ∈ pending.waiting.values, ticket < pending.opened
  signals : ∀ signal ∈ pending.signals, signal.1 < pending.opened

/-- A call gets the next number, and at most one that waited before is cancelled. -/
theorem open?_eq_some (h : pending.open? key = some (ticket, next)) :
    ticket = pending.opened ∧ next.opened = pending.opened + 1 ∧
      next.waiting = pending.waiting.insert key pending.opened ∧
      (next.signals = pending.signals ∨ ∃ displaced, pending.waiting.get? key = some displaced ∧
        next.signals = pending.signals ++ [(displaced, .cancelled)]) := by
  rw [open?] at h
  split at h
  · cases h
  · cases hw : pending.waiting.get? key with
    | none =>
      simp only [hw] at h
      cases h
      exact ⟨rfl, rfl, rfl, .inl rfl⟩
    | some displaced =>
      simp only [hw] at h
      cases h
      exact ⟨rfl, rfl, rfl, .inr ⟨displaced, rfl, rfl⟩⟩

/-- A reply ends the call that waits for it, or changes nothing. -/
theorem resolve_spec (key : CallKey) (message : Message) (pending : Pending) :
    (pending.resolve key message).2 = pending ∨
      ∃ ticket, pending.waiting.get? key = some ticket ∧
        (pending.resolve key message).2.opened = pending.opened ∧
        (pending.resolve key message).2.waiting = pending.waiting.erase key ∧
        (pending.resolve key message).2.signals = pending.signals ++ [(ticket, .reply message)] := by
  rw [resolve]
  cases hw : pending.waiting.get? key with
  | none => exact .inl rfl
  | some ticket => exact .inr ⟨ticket, rfl, rfl, rfl, rfl⟩

/-- A reply that nobody waits for, and nobody has waited for, changes nothing. -/
theorem resolve_unmatched (key : CallKey) (message : Message) (pending : Pending)
    (h : (pending.resolve key message).1 = .unmatched) :
    (pending.resolve key message).2 = pending := by
  rw [resolve] at h ⊢
  cases hw : pending.waiting.get? key with
  | none => rfl
  | some ticket =>
    rw [hw] at h
    cases h

theorem numbered_of_open (hn : Numbered pending) (h : pending.open? key = some (ticket, next)) :
    Numbered next := by
  obtain ⟨-, ho, hw, hs⟩ := open?_eq_some h
  constructor
  · intro ticket' ht
    rw [ho]
    rw [hw] at ht
    rcases Bindings.mem_values_insert ht with rfl | ht
    · exact Nat.lt_succ_self _
    · exact Nat.lt_succ_of_lt (hn.waiting ticket' ht)
  · intro signal hsig
    rw [ho]
    rcases hs with hs | ⟨displaced, hd, hs⟩
    · rw [hs] at hsig
      exact Nat.lt_succ_of_lt (hn.signals signal hsig)
    · rw [hs, List.mem_append, List.mem_singleton] at hsig
      rcases hsig with hsig | rfl
      · exact Nat.lt_succ_of_lt (hn.signals signal hsig)
      · exact Nat.lt_succ_of_lt (hn.waiting displaced (Bindings.mem_values_of_get? hd))

theorem numbered_of_resolve (hn : Numbered pending) (key : CallKey) (message : Message) :
    Numbered (pending.resolve key message).2 := by
  rcases resolve_spec key message pending with h | ⟨ticket, ht, ho, hw, hs⟩
  · rw [h]
    exact hn
  · constructor
    · intro ticket' ht'
      rw [ho]
      rw [hw] at ht'
      exact hn.waiting ticket' (Bindings.mem_values_erase ht')
    · intro signal hsig
      rw [ho]
      rw [hs, List.mem_append, List.mem_singleton] at hsig
      rcases hsig with hsig | rfl
      · exact hn.signals signal hsig
      · exact hn.waiting ticket (Bindings.mem_values_of_get? ht)

/-- A call that is given up waits no more, and at most one that has taken its place is cancelled. -/
theorem forget_spec (key : CallKey) (ticket : Ticket) (pending : Pending) :
    (pending.forget key ticket).opened = pending.opened ∧
      (pending.forget key ticket).closed = pending.closed ∧
      (pending.forget key ticket).waiting = pending.waiting.erase key ∧
      (pending.forget key ticket).signals = pending.signals ++
        ((pending.waiting.get? key).filter (· ≠ ticket)).toList.map (·, .cancelled) := by
  rw [forget]
  cases hw : pending.waiting.get? key with
  | none => simp
  | some holder => by_cases hh : holder = ticket <;> simp [hh, signal, Option.filter]

theorem numbered_of_forget (hn : Numbered pending) (key : CallKey) (ticket : Ticket) :
    Numbered (pending.forget key ticket) := by
  obtain ⟨ho, -, hw, hs⟩ := forget_spec key ticket pending
  constructor
  · intro ticket' ht
    rw [hw] at ht
    rw [ho]
    exact hn.waiting ticket' (Bindings.mem_values_erase ht)
  · intro signal hsig
    rw [ho]
    rw [hs, List.mem_append] at hsig
    rcases hsig with hsig | hsig
    · exact hn.signals signal hsig
    · obtain ⟨holder, hh, rfl⟩ := List.mem_map.1 hsig
      have hget := (Option.filter_eq_some_iff.1 (Option.mem_toList.1 hh)).1
      exact hn.waiting holder (Bindings.mem_values_of_get? hget)

theorem Reachable.numbered (h : Reachable pending) : Numbered pending := by
  induction h with
  | empty => exact ⟨by simp [Bindings.values], by simp⟩
  | opened _ ho ih => exact numbered_of_open ih ho
  | resolved key message _ ih => exact numbered_of_resolve ih key message
  | forgotten key ticket _ ih => exact numbered_of_forget ih key ticket
  | cancelled _ ih =>
    refine ⟨by simp [cancelAll, Bindings.values], fun signal hs => ?_⟩
    rcases List.mem_append.1 hs with hs | hs
    · exact ih.signals signal hs
    · obtain ⟨ticket, ht, rfl⟩ := List.mem_map.1 hs
      exact ih.waiting ticket ht
  | collected ticket _ ih =>
    exact ⟨ih.waiting, fun signal hs => ih.signals signal (List.mem_filter.1 hs).1⟩

/-! ## Replies to a call -/

/-- Every reply that a call has been signalled is of the given kind. -/
def Answered (ticket : Ticket) (p : Message → Prop) (pending : Pending) : Prop :=
  ∀ message, (ticket, .reply message) ∈ pending.signals → p message

/-- A call that has just been opened has no reply. -/
theorem answered_of_open {p : Message → Prop} (hn : Numbered pending)
    (h : pending.open? key = some (ticket, next)) : Answered ticket p next := by
  obtain ⟨rfl, -, -, hs⟩ := open?_eq_some h
  intro message hm
  have hold : (pending.opened, .reply message) ∈ pending.signals := by
    rcases hs with hs | ⟨displaced, -, hs⟩
    · rwa [hs] at hm
    · rw [hs, List.mem_append, List.mem_singleton] at hm
      exact hm.resolve_right fun he => by cases he
  exact absurd (hn.signals _ hold) (Nat.lt_irrefl _)

theorem Answered.resolve {p : Message → Prop} (h : Answered ticket p pending) (key : CallKey)
    (hp : p message) : Answered ticket p (pending.resolve key message).2 := by
  intro message' hm
  rcases resolve_spec key message pending with he | ⟨_, -, -, -, hs⟩
  · rw [he] at hm
    exact h message' hm
  · rw [hs, List.mem_append, List.mem_singleton] at hm
    rcases hm with hm | he
    · exact h message' hm
    · cases he
      exact hp

theorem Answered.cancelAll {p : Message → Prop} (h : Answered ticket p pending) :
    Answered ticket p pending.cancelAll := by
  intro message hm
  rcases List.mem_append.1 hm with hm | hm
  · exact h message hm
  · obtain ⟨_, -, he⟩ := List.mem_map.1 hm
    cases he

theorem Answered.collect {p : Message → Prop} (h : Answered ticket p pending)
    (hc : (pending.collect ticket).1 = some (.reply message)) : p message := by
  obtain ⟨front, back, he, -⟩ := List.lookup_eq_some_iff.1 hc
  refine h message ?_
  rw [he]
  exact List.mem_append_right _ List.mem_cons_self

/-! ## The signal of a call -/

/-- A call that waits under a key and has not been signalled. -/
def Awaits (key : CallKey) (ticket : Ticket) (pending : Pending) : Prop :=
  pending.waiting.get? key = some ticket ∧ pending.signals.lookup ticket = none

theorem awaits_of_open (hn : Numbered pending) (h : pending.open? key = some (ticket, next)) :
    Awaits key ticket next := by
  obtain ⟨rfl, -, hw, hs⟩ := open?_eq_some h
  refine ⟨by rw [hw, Bindings.get?_insert, if_pos rfl], List.lookup_eq_none_iff.2 fun signal hm => ?_⟩
  have hlt : signal.1 < pending.opened := by
    rcases hs with hs | ⟨displaced, hd, hs⟩
    · rw [hs] at hm
      exact hn.signals signal hm
    · rw [hs, List.mem_append, List.mem_singleton] at hm
      rcases hm with hm | rfl
      · exact hn.signals signal hm
      · exact hn.waiting displaced (Bindings.mem_values_of_get? hd)
  exact bne_iff_ne.2 (Nat.ne_of_gt hlt)

/-- The call gets the reply. -/
theorem Awaits.lookup_resolve (h : Awaits key ticket pending) (message : Message) :
    (pending.resolve key message).2.signals.lookup ticket = some (.reply message) := by
  obtain ⟨hw, hs⟩ := h
  have hr : (pending.resolve key message).2.signals =
      pending.signals ++ [(ticket, .reply message)] := by
    rw [resolve, hw]
    rfl
  rw [hr, List.lookup_append, hs, Option.none_or, List.lookup_cons_self]

end Pending
end GtpControl
