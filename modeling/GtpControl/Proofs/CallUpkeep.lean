import GtpControl.Proofs.AnswerMemory

/-! # The upkeep of the table of calls

No key waits and is remembered at once, whoever is remembered has a place in the order in which keys are
forgotten, and this order does not outgrow its size. Each call that was opened is in one place: it waits,
it has been signalled, or it was given up. Once all calls are cancelled, none waits any more. -/
namespace GtpControl

namespace Bindings
variable {κ α : Type} [DecidableEq κ]

/-- A value that is put in takes the place of the one that its key had. -/
theorem perm_values_put (key : κ) (value : α) (entries : List (κ × α)) :
    ((put key value entries).map (·.2) ++ (entries.lookup key).toList).Perm
      (value :: entries.map (·.2)) := by
  induction entries with
  | nil => exact List.Perm.refl _
  | cons entry entries ih =>
    obtain ⟨bound, old⟩ := entry
    by_cases h : bound = key
    · subst h
      rw [put, if_pos rfl, List.lookup_cons_self]
      exact (List.perm_append_singleton old _).cons value
    · rw [put, if_neg h, List.lookup_cons, beq_eq_false_iff_ne.2 (Ne.symm h)]
      exact (ih.cons old).trans (List.Perm.swap value old _)

theorem perm_values_insert (key : κ) (value : α) (bindings : Bindings κ α) :
    ((bindings.insert key value).values ++ (bindings.get? key).toList).Perm
      (value :: bindings.values) :=
  perm_values_put key value bindings.entries

/-- A key that is taken out takes its value with it. -/
theorem perm_values_erase (key : κ) (bindings : Bindings κ α) :
    ((bindings.erase key).values ++ (bindings.get? key).toList).Perm bindings.values := by
  obtain ⟨entries⟩ := bindings
  rw [Bindings.erase, values, get?, values]
  induction entries with
  | nil => exact List.Perm.refl _
  | cons entry entries ih =>
    obtain ⟨bound, old⟩ := entry
    by_cases h : bound = key
    · subst h
      rw [List.eraseP_cons_of_pos (by simp), List.lookup_cons_self]
      exact List.perm_append_singleton old _
    · rw [List.eraseP_cons_of_neg (by simpa using h), List.lookup_cons,
        beq_eq_false_iff_ne.2 (Ne.symm h)]
      exact ih.cons old

end Bindings

namespace Pending
variable {pending : Pending} {key other : CallKey} {ticket : Ticket} {peer : SocketAddress}
  {message : Message} {answered order : List CallKey}

/-! ## Forgetting the oldest keys -/

/-- Forgets the oldest key as long as there are too many in the order. -/
def evict : (answered order : List CallKey) → List CallKey × List CallKey
  | answered, [] => (answered, [])
  | answered, oldest :: order =>
    if historySize < (oldest :: order).length then evict (answered.filter (· != oldest)) order
    else (answered, oldest :: order)

theorem evict_eq (answered order : List CallKey) :
    evict answered order =
      (answered.filter (!(order.take (order.length - historySize)).contains ·),
        order.drop (order.length - historySize)) := by
  induction order generalizing answered with
  | nil => simp [evict]
  | cons oldest order ih =>
    rw [evict]
    split
    · next h =>
      have hlen : (oldest :: order).length - historySize = order.length - historySize + 1 := by
        rw [List.length_cons] at h ⊢
        omega
      rw [ih, hlen, List.take_succ_cons, List.drop_succ_cons, List.filter_filter]
      refine Prod.ext (List.filter_congr fun key _ => ?_) rfl
      rw [List.contains_cons, Bool.not_or, Bool.and_comm]
      rfl
    · next h =>
      have hlen : (oldest :: order).length - historySize = 0 := by omega
      rw [hlen, List.take_zero, List.drop_zero]
      exact Prod.ext (List.filter_eq_self.2 fun _ _ => rfl).symm rfl

/-- Whoever is remembered after a turn has a place in the order still. -/
theorem evict_subset (h : answered ⊆ order) : (evict answered order).1 ⊆ (evict answered order).2 := by
  induction order generalizing answered with
  | nil => exact h
  | cons oldest order ih =>
    rw [evict]
    split
    · refine ih fun key hk => ?_
      obtain ⟨hk, hne⟩ := List.mem_filter.1 hk
      exact (List.mem_cons.1 (h hk)).resolve_left (bne_iff_ne.1 hne)
    · exact h

theorem length_evict (answered order : List CallKey) :
    (evict answered order).2.length ≤ historySize := by
  induction order generalizing answered with
  | nil => exact Nat.zero_le _
  | cons oldest order ih =>
    rw [evict]
    split
    · exact ih _
    · next h => exact Nat.le_of_not_lt h

theorem evict_answered (answered order : List CallKey) : (evict answered order).1 ⊆ answered := by
  rw [evict_eq]
  exact List.filter_subset_self _

/-- A key that is remembered is put last, and then the oldest keys are forgotten. -/
theorem remember_eq (key : CallKey) (pending : Pending) :
    pending.remember key =
      let order := if key ∈ pending.answered then pending.order else pending.order ++ [key]
      { pending with
        answered := (evict (pending.answered.insert key) order).1
        order := (evict (pending.answered.insert key) order).2 } := by
  simp only [remember, evict_eq, List.insert, List.contains_iff_mem,
    List.length_take_of_le (Nat.sub_le ..)]

/-! ## What is done to a table -/

inductive Act where
  | operates (operation : Operation)
  | cancelsAll

namespace Act

def apply : Act → Pending → Pending
  | .operates operation, pending => operation.apply pending
  | .cancelsAll, pending => pending.cancelAll

/-- The call that gives up its own slot. -/
def quit? : Act → Pending → Option Ticket
  | .operates (.forgets key ticket), pending => (pending.waiting.get? key).filter (· = ticket)
  | _, _ => none

end Act

/-- One act after the other. -/
def carryOut : List Act → Pending → Pending
  | [], pending => pending
  | act :: rest, pending => carryOut rest (act.apply pending)

/-- The calls that give up their slots, the earliest first. -/
def quits : List Act → Pending → List Ticket
  | [], _ => []
  | act :: rest, pending => (act.quit? pending).toList ++ quits rest (act.apply pending)

variable {act : Act} {acts : List Act} {given : List Ticket}

theorem carryOut_append (before since : List Act) (pending : Pending) :
    carryOut (before ++ since) pending = carryOut since (carryOut before pending) := by
  induction before generalizing pending with
  | nil => rfl
  | cons act rest ih => exact ih _

/-- A table is closed or opens the call. -/
theorem apply_opens (key : CallKey) (pending : Pending) :
    (pending.closed = true ∧ (Operation.opens key).apply pending = pending) ∨
      ∃ next, pending.open? key = some (pending.opened, next) ∧
        (Operation.opens key).apply pending = next ∧ pending.closed = false := by
  cases hc : pending.closed with
  | true =>
    have hnone : pending.open? key = none := open?_eq_none.2 hc
    exact .inl ⟨rfl, by simp only [Operation.apply, hnone]⟩
  | false =>
    obtain ⟨next, ho, -⟩ := open?_eq hc key
    exact .inr ⟨next, ho, by simp only [Operation.apply, ho], rfl⟩

/-! ## What is kept -/

/-- A table in good order. -/
structure Kempt (pending : Pending) : Prop where
  unique : pending.waiting.Unique
  apart : ∀ key ∈ pending.answered, pending.waiting.get? key = none
  queued : pending.answered ⊆ pending.order
  bounded : pending.order.length ≤ historySize
  vacant : pending.closed = true → pending.waiting = {}

theorem kempt_empty : Kempt {} :=
  ⟨Bindings.unique_empty, fun _ h => absurd h List.not_mem_nil, List.Subset.refl _, Nat.zero_le _,
    fun _ => rfl⟩

theorem Kempt.opens (kempt : Kempt pending) (key : CallKey) :
    Kempt ((Operation.opens key).apply pending) := by
  rcases apply_opens key pending with ⟨-, he⟩ | ⟨next, ho, he, hc⟩
  · rwa [he]
  obtain ⟨next, ho', hopen, hw, hq, ha⟩ := open?_eq hc key
  cases ho.symm.trans ho'
  rw [he]
  refine ⟨hw ▸ kempt.unique.insert .., fun other hm => ?_, fun other hm => ?_, hq ▸ kempt.bounded,
    fun hclosed => absurd (hopen.symm.trans hclosed) (by decide)⟩ <;>
    rw [ha, List.mem_filter, bne_iff_ne] at hm
  · rw [hw, Bindings.get?_insert, if_neg hm.2]
    exact kempt.apart other hm.1
  · rw [hq]
    exact kempt.queued hm.1

/-- A key that is answered is remembered. -/
theorem memory_resolve (h : pending.waiting.get? key = some ticket) (message : Message) :
    let order := if key ∈ pending.answered then pending.order else pending.order ++ [key]
    (pending.resolve key message).2.answered = (evict (pending.answered.insert key) order).1 ∧
      (pending.resolve key message).2.order = (evict (pending.answered.insert key) order).2 := by
  simp only [Pending.resolve, h, signal, remember_eq, and_self]

theorem Kempt.resolve (kempt : Kempt pending) (key : CallKey) (message : Message) :
    Kempt (pending.resolve key message).2 := by
  cases hw : pending.waiting.get? key with
  | none =>
    have hsame : (pending.resolve key message).2 = pending := by rw [Pending.resolve, hw]
    rwa [hsame]
  | some ticket =>
    obtain ⟨unique, -, closed, hget⟩ := slots_resolve kempt.unique key message
    obtain ⟨hanswered, horder⟩ := memory_resolve hw message
    have hqueued : pending.answered.insert key ⊆
        if key ∈ pending.answered then pending.order else pending.order ++ [key] := fun other hm => by
      split
      · next hknown =>
        rw [List.insert_of_mem hknown] at hm
        exact kempt.queued hm
      · rcases List.mem_insert_iff.1 hm with rfl | hm
        · exact List.mem_append_right _ List.mem_cons_self
        · exact List.mem_append_left _ (kempt.queued hm)
    refine ⟨unique, fun other hm => ?_, ?_, ?_, fun hc => ?_⟩
    · rw [hanswered] at hm
      rw [hget]
      rcases List.mem_insert_iff.1 (evict_answered _ _ hm) with rfl | hm
      · exact if_pos rfl
      · rw [kempt.apart other hm, ite_self]
    · rw [hanswered, horder]
      exact evict_subset hqueued
    · rw [horder]
      exact length_evict _ _
    · rw [kempt.vacant (closed ▸ hc)] at hw
      cases hw

theorem Kempt.forget (kempt : Kempt pending) (key : CallKey) (ticket : Ticket) :
    Kempt (pending.forget key ticket) := by
  obtain ⟨-, closed, hw, -⟩ := forget_spec key ticket pending
  obtain ⟨hq, ha⟩ := forget_memory key ticket pending
  refine ⟨hw ▸ kempt.unique.erase key, fun other hm => ?_, hq ▸ ha ▸ kempt.queued,
    hq ▸ kempt.bounded, fun hc => ?_⟩
  · rw [hw, kempt.unique.get?_erase, kempt.apart other (ha ▸ hm), ite_self]
  · rw [hw, kempt.vacant (closed ▸ hc)]
    rfl

theorem Kempt.cancelAll (kempt : Kempt pending) : Kempt pending.cancelAll :=
  ⟨Bindings.unique_empty, fun _ _ => rfl, kempt.queued, kempt.bounded, fun _ => rfl⟩

theorem Kempt.apply (kempt : Kempt pending) (act : Act) : Kempt (act.apply pending) := by
  match act with
  | .operates (.opens key) => exact kempt.opens key
  | .operates (.resolves peer message) => exact kempt.resolve _ message
  | .operates (.forgets key ticket) => exact kempt.forget key ticket
  | .cancelsAll => exact kempt.cancelAll

theorem Kempt.after (kempt : Kempt pending) (acts : List Act) : Kempt (carryOut acts pending) := by
  induction acts generalizing pending with
  | nil => exact kempt
  | cons act rest ih => exact ih (kempt.apply act)

/-! ## Where calls are -/

/-- Each call that was opened waits, or has been signalled, or has given up its slot. -/
def Accounted (given : List Ticket) (pending : Pending) : Prop :=
  (pending.waiting.values ++ pending.signals.map (·.1) ++ given).Perm (List.range pending.opened)

theorem accounted_empty : Accounted [] {} := List.Perm.refl _

theorem map_fst_signals (tickets : List Ticket) (resolution : Resolution) :
    (tickets.map (·, resolution)).map (·.1) = tickets := by
  rw [List.map_map]
  exact List.map_id _

theorem Accounted.opens (accounted : Accounted given pending) (key : CallKey) :
    Accounted given ((Operation.opens key).apply pending) := by
  rcases apply_opens key pending with ⟨-, he⟩ | ⟨next, ho, he, -⟩
  · rwa [he]
  obtain ⟨-, hopened, hw, -⟩ := open?_eq_some ho
  rw [he, Accounted, hopened, hw, signals_open ho, List.map_append, map_fst_signals, List.range_succ,
    List.perm_iff_count]
  intro ticket
  have h := accounted.count_eq ticket
  have hperm := (Bindings.perm_values_insert key pending.opened pending.waiting).count_eq ticket
  simp only [List.count_append, List.count_cons, List.count_nil] at h hperm ⊢
  omega

theorem Accounted.resolve (accounted : Accounted given pending) (key : CallKey) (message : Message) :
    Accounted given (pending.resolve key message).2 := by
  rcases resolve_spec key message pending with he | ⟨ticket, hw, hopened, hwaiting, hsignals⟩
  · rwa [he]
  rw [Accounted, hopened, hwaiting, hsignals, List.map_append, List.perm_iff_count]
  intro other
  have h := accounted.count_eq other
  have hperm := (Bindings.perm_values_erase key pending.waiting).count_eq other
  simp only [hw, Option.toList_some, List.map_cons, List.map_nil, List.count_append] at h hperm ⊢
  omega

theorem Accounted.forget (accounted : Accounted given pending) (key : CallKey) (ticket : Ticket) :
    Accounted (given ++ ((pending.waiting.get? key).filter (· = ticket)).toList)
      (pending.forget key ticket) := by
  obtain ⟨hopened, -, hwaiting, hsignals⟩ := forget_spec key ticket pending
  rw [Accounted, hopened, hwaiting, hsignals, List.map_append, map_fst_signals, List.perm_iff_count]
  intro other
  have h := accounted.count_eq other
  have hperm := (Bindings.perm_values_erase key pending.waiting).count_eq other
  have hparts : (pending.waiting.get? key).toList.count other =
      ((pending.waiting.get? key).filter (· ≠ ticket)).toList.count other +
        ((pending.waiting.get? key).filter (· = ticket)).toList.count other := by
    cases pending.waiting.get? key with
    | none => rfl
    | some holder => by_cases hh : holder = ticket <;> simp [Option.filter, hh]
  simp only [List.count_append] at h hperm ⊢
  omega

theorem Accounted.cancelAll (accounted : Accounted given pending) :
    Accounted given pending.cancelAll := by
  rw [Accounted, Pending.cancelAll, List.map_append, map_fst_signals]
  have hswap : (pending.signals.map (·.1) ++ pending.waiting.values).Perm
      (pending.waiting.values ++ pending.signals.map (·.1)) := List.perm_append_comm
  exact (hswap.append_right given).trans accounted

theorem Accounted.apply (accounted : Accounted given pending) (act : Act) :
    Accounted (given ++ (act.quit? pending).toList) (act.apply pending) := by
  match act with
  | .operates (.opens key) => exact (List.append_nil given).symm ▸ accounted.opens key
  | .operates (.resolves peer message) =>
    exact (List.append_nil given).symm ▸ accounted.resolve (message.callKey peer) message
  | .operates (.forgets key ticket) => exact accounted.forget key ticket
  | .cancelsAll => exact (List.append_nil given).symm ▸ accounted.cancelAll

theorem Accounted.after (accounted : Accounted given pending) (acts : List Act) :
    Accounted (given ++ quits acts pending) (carryOut acts pending) := by
  induction acts generalizing given pending with
  | nil => simpa [quits, carryOut] using accounted
  | cons act rest ih =>
    rw [quits, ← List.append_assoc]
    exact ih (accounted.apply act)

theorem closed_resolve (key : CallKey) (message : Message) (pending : Pending) :
    (pending.resolve key message).2.closed = pending.closed := by
  rw [resolve]
  cases pending.waiting.get? key <;> rfl

/-- A table that is closed stays closed. -/
theorem closed_apply (h : pending.closed = true) (act : Act) : (act.apply pending).closed = true := by
  match act with
  | .operates (.opens key) =>
    rcases apply_opens key pending with ⟨-, he⟩ | ⟨-, -, -, hc⟩
    · exact (congrArg closed he).trans h
    · exact absurd (h.symm.trans hc) (by decide)
  | .operates (.resolves peer message) => exact (closed_resolve _ message pending).trans h
  | .operates (.forgets key ticket) => exact (forget_spec key ticket pending).2.1.trans h
  | .cancelsAll => rfl

theorem closed_carryOut (h : pending.closed = true) (acts : List Act) :
    (carryOut acts pending).closed = true := by
  induction acts generalizing pending with
  | nil => exact h
  | cons act rest ih => exact ih (closed_apply h act)

theorem signals_opens (key : CallKey) (pending : Pending) :
    pending.signals <+: ((Operation.opens key).apply pending).signals := by
  rcases apply_opens key pending with ⟨-, he⟩ | ⟨next, ho, he, -⟩
  · rw [he]
  · rw [he, signals_open ho]
    exact List.prefix_append ..

/-- No signal is taken back. -/
theorem signals_apply (act : Act) (pending : Pending) :
    pending.signals <+: (act.apply pending).signals := by
  match act with
  | .operates (.opens key) => exact signals_opens key pending
  | .operates (.resolves peer message) =>
    exact signals_resolve (message.callKey peer) message pending ▸ List.prefix_append ..
  | .operates (.forgets key ticket) =>
    exact (forget_spec key ticket pending).2.2.2 ▸ List.prefix_append ..
  | .cancelsAll => exact List.prefix_append ..

theorem signals_carryOut (acts : List Act) (pending : Pending) :
    pending.signals <+: (carryOut acts pending).signals := by
  induction acts generalizing pending with
  | nil => exact List.prefix_refl _
  | cons act rest ih => exact (signals_apply act pending).trans (ih _)

/-- After any acts, no key waits and is remembered at once, every key that is remembered has a place in the
order, and the order does not outgrow its size. No call is ever signalled twice: each one that was opened
waits, or has been signalled, or has given up its slot. After all calls were cancelled, none waits. -/
theorem kempt_carryOut (acts : List Act) :
    let table := carryOut acts {}
    table.waiting.keys.Disjoint table.answered ∧
    table.answered ⊆ table.order ∧
    table.order.length ≤ historySize ∧
    (table.signals.map (·.1)).Nodup ∧
    (table.waiting.values ++ table.signals.map (·.1) ++ quits acts {}).Perm
      (List.range table.opened) ∧
    (∀ since, table.signals <+: (carryOut (acts ++ since) {}).signals) ∧
    ∀ since, (carryOut (acts ++ .cancelsAll :: since) {}).waiting = {} := by
  intro table
  have kempt : Kempt table := kempt_empty.after acts
  have accounted : Accounted (quits acts {}) table := accounted_empty.after acts
  refine ⟨fun key hw ha => ?_, kempt.queued, kempt.bounded, ?_, accounted, fun since => ?_,
    fun since => ?_⟩
  · exact Bindings.get?_eq_none.1 (kempt.apart key ha) hw
  · have hnodup := accounted.nodup_iff.2 List.nodup_range
    exact (List.nodup_append.1 (List.nodup_append.1 hnodup).1).2.1
  · rw [carryOut_append]
    exact signals_carryOut since table
  · rw [carryOut_append]
    exact ((kempt.apply .cancelsAll).after since).vacant (closed_carryOut rfl since)

end Pending
end GtpControl
