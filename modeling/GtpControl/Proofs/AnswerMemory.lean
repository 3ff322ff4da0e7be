import GtpControl.Proofs.CallSlots

/-! # The memory of answers: which replies are recognised when they come again

The keys of answers leave the memory in the order in which they were given. A key that is opened and
answered once more has two places in this order. When its first place is reached, the key is taken
for forgotten although its second place is still to come. -/
namespace GtpControl

/-- The key of the calls that a message of a peer is a reply to. -/
def Message.callKey (peer : SocketAddress) (message : Message) : CallKey := ⟨message.sequence, peer⟩

namespace Pending

/-- What is done to a table while it is open. -/
inductive Operation where
  | opens (key : CallKey)
  | resolves (peer : SocketAddress) (message : Message)
  | forgets (key : CallKey) (ticket : Ticket)
deriving DecidableEq

namespace Operation

def apply (operation : Operation) (pending : Pending) : Pending :=
  match operation with
  | .opens key =>
    match pending.open? key with
    | some (_, next) => next
    | none => pending
  | .resolves peer message => (pending.resolve (message.callKey peer) message).2
  | .forgets key ticket => pending.forget key ticket

/-- The key that is answered. -/
def answer? (operation : Operation) (pending : Pending) : Option CallKey :=
  match operation with
  | .resolves peer message =>
    if (pending.resolve (message.callKey peer) message).1 = .resolved then
      some (message.callKey peer)
    else none
  | .opens _ | .forgets .. => none

end Operation

/-- One operation after the other. -/
def run : List Operation → Pending → Pending
  | [], pending => pending
  | operation :: rest, pending => run rest (operation.apply pending)

/-- The keys that are answered, the earliest first. -/
def answers : List Operation → Pending → List CallKey
  | [], _ => []
  | operation :: rest, pending =>
    (operation.answer? pending).toList ++ answers rest (operation.apply pending)

variable {pending : Pending} {key other : CallKey} {ticket : Ticket} {peer : SocketAddress}
  {message : Message} {log earlier : List CallKey} {operation : Operation}

theorem run_append (before since : List Operation) (pending : Pending) :
    run (before ++ since) pending = run since (run before pending) := by
  induction before generalizing pending with
  | nil => rfl
  | cons operation rest ih => exact ih _

theorem answers_append (before since : List Operation) (pending : Pending) :
    answers (before ++ since) pending =
      answers before pending ++ answers since (run before pending) := by
  induction before generalizing pending with
  | nil => rfl
  | cons operation rest ih => simp only [List.cons_append, answers, run, ih, List.append_assoc]

/-! ## The order of answers -/

/-- The answers that are still remembered. -/
def recent (log : List CallKey) : List CallKey := log.drop (log.length - historySize)

/-- The answers that have left the memory. -/
def gone (log : List CallKey) : List CallKey := log.take (log.length - historySize)

/-- The answers that leave the memory when one more comes. -/
def leaving (log : List CallKey) (key : CallKey) : List CallKey :=
  (recent log ++ [key]).take ((recent log ++ [key]).length - historySize)

private theorem gone_append_recent (log : List CallKey) (key : CallKey) :
    gone log ++ (recent log ++ [key]) = log ++ [key] := by
  rw [← List.append_assoc, gone, recent, List.take_append_drop]

private theorem length_gone (log : List CallKey) (key : CallKey) :
    (log ++ [key]).length - historySize =
      (gone log).length + ((recent log ++ [key]).length - historySize) := by
  simp only [gone, recent, List.length_append, List.length_take, List.length_drop,
    List.length_singleton]
  omega

theorem gone_concat (log : List CallKey) (key : CallKey) :
    gone (log ++ [key]) = gone log ++ leaving log key := by
  rw [gone, length_gone, ← gone_append_recent log key, List.take_length_add_append, leaving]

theorem recent_concat (log : List CallKey) (key : CallKey) :
    recent (log ++ [key]) =
      (recent log ++ [key]).drop ((recent log ++ [key]).length - historySize) := by
  rw [recent, length_gone, ← gone_append_recent log key, List.drop_length_add_append]

/-- The answers of an open table. No call waits under a key that is remembered. -/
structure Kept (log : List CallKey) (pending : Pending) : Prop where
  unlocked : pending.closed = false
  unique : pending.waiting.Unique
  order : pending.order = recent log
  apart : ∀ key ticket, pending.waiting.get? key = some ticket → key ∉ pending.answered

theorem kept_empty : Kept [] {} := ⟨rfl, Bindings.unique_empty, rfl, fun _ _ h => by cases h⟩

/-- A key that is opened is not remembered any more, but keeps its place in the order. -/
theorem open?_eq (h : pending.closed = false) (key : CallKey) :
    ∃ next, pending.open? key = some (pending.opened, next) ∧ next.closed = false ∧
      next.waiting = pending.waiting.insert key pending.opened ∧ next.order = pending.order ∧
      next.answered = pending.answered.filter (· != key) := by
  rw [open?, h]
  cases hw : pending.waiting.get? key with
  | none => exact ⟨_, rfl, h, rfl, rfl, rfl⟩
  | some displaced => exact ⟨_, rfl, h, rfl, rfl, rfl⟩

theorem Kept.opens (kept : Kept log pending) (key : CallKey) :
    Kept log ((Operation.opens key).apply pending) := by
  obtain ⟨next, ho, hc, hw, hq, ha⟩ := open?_eq kept.unlocked key
  have happly : (Operation.opens key).apply pending = next := by simp only [Operation.apply, ho]
  rw [happly]
  refine ⟨hc, hw ▸ kept.unique.insert .., hq.trans kept.order, fun other ticket hget => ?_⟩
  rw [ha, List.mem_filter, bne_iff_ne]
  rintro ⟨hmem, hne⟩
  rw [hw, Bindings.get?_insert, if_neg hne] at hget
  exact kept.apart other ticket hget hmem

/-- A key that is answered takes the last place in the order. If too many are remembered then, the
first one is forgotten. -/
theorem Kept.resolve_of_waiting (kept : Kept log pending)
    (h : pending.waiting.get? (message.callKey peer) = some ticket) :
    (Operation.resolves peer message).answer? pending = some (message.callKey peer) ∧
      Kept (log ++ [message.callKey peer]) ((Operation.resolves peer message).apply pending) ∧
      ∀ key, key ∈ ((Operation.resolves peer message).apply pending).answered ↔
        (key = message.callKey peer ∨ key ∈ pending.answered) ∧
          key ∉ leaving log (message.callKey peer) := by
  have hnew : pending.answered.contains (message.callKey peer) = false := by
    simpa using kept.apart _ _ h
  obtain ⟨unique, -, closed, hget⟩ :=
    slots_resolve kept.unique (message.callKey peer) message
  have hanswered : (pending.resolve (message.callKey peer) message).2.answered =
      (message.callKey peer :: pending.answered).filter
        (!(leaving log (message.callKey peer)).contains ·) := by
    simp only [resolve, h, signal, remember, hnew, kept.order, leaving]
    rfl
  have hmem : ∀ key, key ∈ (pending.resolve (message.callKey peer) message).2.answered ↔
      (key = message.callKey peer ∨ key ∈ pending.answered) ∧
        key ∉ leaving log (message.callKey peer) := fun key => by
    rw [hanswered]
    simp
  refine ⟨?_, ⟨closed.trans kept.unlocked, unique, ?_, fun key ticket hk hm => ?_⟩, hmem⟩
  · simp [Operation.answer?, resolve, h]
  · show (pending.resolve (message.callKey peer) message).2.order = _
    simp only [resolve, h, signal, remember, hnew, kept.order, Bool.false_eq_true, if_false]
    rw [recent_concat, List.length_take_of_le (Nat.sub_le ..)]
  · have hk : (pending.resolve (message.callKey peer) message).2.waiting.get? key = some ticket := hk
    rw [hget] at hk
    split at hk
    · cases hk
    · next hne => exact ((hmem key).1 hm).1.elim hne (kept.apart key ticket hk)

/-- A message that nobody waits for changes nothing. -/
theorem resolve_of_not_waiting (h : pending.waiting.get? (message.callKey peer) = none) :
    (Operation.resolves peer message).answer? pending = none ∧
      (Operation.resolves peer message).apply pending = pending := by
  simp only [Operation.answer?, Operation.apply, resolve, h]
  split <;> simp

/-- A call that is given up leaves the memory as it is. -/
theorem forget_memory (key : CallKey) (ticket : Ticket) (pending : Pending) :
    (pending.forget key ticket).order = pending.order ∧
      (pending.forget key ticket).answered = pending.answered := by
  rw [forget]
  cases pending.waiting.get? key with
  | none => exact ⟨rfl, rfl⟩
  | some holder =>
    dsimp only
    split <;> exact ⟨rfl, rfl⟩

theorem Kept.forgets (kept : Kept log pending) (key : CallKey) (ticket : Ticket) :
    Kept log ((Operation.forgets key ticket).apply pending) := by
  obtain ⟨-, closed, hw, -⟩ := forget_spec key ticket pending
  obtain ⟨order, answered⟩ := forget_memory key ticket pending
  refine ⟨closed.trans kept.unlocked, hw ▸ kept.unique.erase key, order.trans kept.order,
    fun other holder hget => ?_⟩
  rw [Operation.apply, hw, kept.unique.get?_erase] at hget
  rw [Operation.apply, answered]
  split at hget
  · cases hget
  · exact kept.apart other holder hget

theorem Kept.apply (kept : Kept log pending) (operation : Operation) :
    Kept (log ++ (operation.answer? pending).toList) (operation.apply pending) := by
  cases operation with
  | opens key => simpa [Operation.answer?] using kept.opens key
  | resolves peer message =>
    cases h : pending.waiting.get? (message.callKey peer) with
    | none =>
      obtain ⟨ha, hp⟩ := resolve_of_not_waiting h
      rw [ha, hp]
      simpa using kept
    | some ticket =>
      obtain ⟨ha, kept, -⟩ := kept.resolve_of_waiting h
      rw [ha]
      exact kept
  | forgets key ticket => simpa [Operation.answer?] using kept.forgets key ticket

theorem Kept.after (kept : Kept log pending) (operations : List Operation) :
    Kept (log ++ answers operations pending) (run operations pending) := by
  induction operations generalizing log pending with
  | nil => simpa [answers, run] using kept
  | cons operation rest ih =>
    rw [answers, ← List.append_assoc]
    exact ih (kept.apply operation)

/-! ## A reply that comes again -/

/-- The answers that have left the memory since the log was this one. -/
def goneSince (earlier log : List CallKey) : List CallKey := (gone log).drop (gone earlier).length

/-- A key that was answered after the log was this one: it is remembered until it is among the
answers that have left the memory since. -/
structure Recalled (earlier : List CallKey) (key : CallKey) (log : List CallKey) (pending : Pending) :
    Prop where
  idle : pending.waiting.get? key = none
  le : (gone earlier).length ≤ (gone log).length
  mem : key ∈ pending.answered ↔ key ∉ goneSince earlier log

theorem Kept.recalled (kept : Kept log pending)
    (h : pending.waiting.get? (message.callKey peer) = some ticket) :
    Recalled log (message.callKey peer) (log ++ [message.callKey peer])
      ((Operation.resolves peer message).apply pending) := by
  obtain ⟨-, kept', hmem⟩ := kept.resolve_of_waiting h
  refine ⟨?_, ?_, ?_⟩
  · exact ((slots_resolve kept.unique _ message).2.2.2 _).trans (if_pos rfl)
  · rw [gone_concat, List.length_append]
    exact Nat.le_add_right ..
  · rw [hmem, goneSince, gone_concat, List.drop_left]
    simp

theorem Recalled.apply (recalled : Recalled earlier key log pending) (kept : Kept log pending)
    (h : operation ≠ .opens key) :
    Recalled earlier key (log ++ (operation.answer? pending).toList) (operation.apply pending) := by
  obtain ⟨idle, le, mem⟩ := recalled
  cases operation with
  | opens other =>
    obtain ⟨next, ho, -, hw, -, ha⟩ := open?_eq kept.unlocked other
    have hne : key ≠ other := fun he => h (he ▸ rfl)
    simp only [Operation.answer?, Option.toList_none, List.append_nil, Operation.apply, ho]
    refine ⟨?_, le, ?_⟩
    · rw [hw, Bindings.get?_insert, if_neg hne]
      exact idle
    · rw [ha, List.mem_filter, ← mem]
      simp [hne]
  | resolves peer message =>
    cases hw : pending.waiting.get? (message.callKey peer) with
    | none =>
      obtain ⟨ha, hp⟩ := resolve_of_not_waiting hw
      rw [ha, hp]
      simpa using ⟨idle, le, mem⟩
    | some ticket =>
      obtain ⟨ha, -, hmem⟩ := kept.resolve_of_waiting hw
      have hne : key ≠ message.callKey peer := by
        rintro rfl
        cases idle.symm.trans hw
      have hgone : goneSince earlier (log ++ [message.callKey peer]) =
          goneSince earlier log ++ leaving log (message.callKey peer) := by
        rw [goneSince, gone_concat, List.drop_append_of_le_length le, goneSince]
      rw [ha]
      refine ⟨?_, ?_, ?_⟩
      · rw [Operation.apply, (slots_resolve kept.unique _ message).2.2.2, if_neg hne]
        exact idle
      · rw [Option.toList_some, gone_concat, List.length_append]
        exact Nat.le_add_right_of_le le
      · rw [hmem, Option.toList_some, hgone, List.mem_append, not_or, ← mem]
        simp [hne]
  | forgets other ticket =>
    obtain ⟨-, -, hw, -⟩ := forget_spec other ticket pending
    obtain ⟨-, answered⟩ := forget_memory other ticket pending
    simp only [Operation.answer?, Option.toList_none, List.append_nil, Operation.apply]
    refine ⟨?_, le, answered ▸ mem⟩
    rw [hw, kept.unique.get?_erase, idle, ite_self]

theorem Recalled.after {operations : List Operation} (recalled : Recalled earlier key log pending)
    (kept : Kept log pending) (h : .opens key ∉ operations) :
    Recalled earlier key (log ++ answers operations pending) (run operations pending) := by
  induction operations generalizing log pending with
  | nil => simpa [answers, run] using recalled
  | cons operation rest ih =>
    rw [List.mem_cons, not_or] at h
    rw [answers, ← List.append_assoc]
    exact ih (recalled.apply kept (Ne.symm h.1)) (kept.apply operation) h.2

/-- An answer leaves the memory with the 1024th answer after it at the earliest. -/
theorem goneSince_subset_recent {later : List CallKey} (h : later.length < historySize) :
    goneSince log (log ++ [key] ++ later) ⊆ recent log := by
  have hle : (log ++ [key] ++ later).length - historySize ≤ log.length := by
    simp only [List.length_append, List.length_singleton]
    omega
  have hgone : gone (log ++ [key] ++ later) =
      log.take ((log ++ [key] ++ later).length - historySize) := by
    rw [gone, List.append_assoc, List.take_append_of_le_length (List.append_assoc .. ▸ hle)]
  rw [goneSince, hgone, gone, List.length_take_of_le (Nat.sub_le ..), List.drop_take]
  exact List.take_subset ..

/-- A reply that comes again is recognised exactly as long as its key is not among the answers that
have left the memory since; so it is if fewer than 1024 answers have been given since and the key was
not among the last 1024 answers before. -/
theorem resolve_again {before since : List Operation} {further : Message}
    (resolved : ((run before {}).resolve (message.callKey peer) message).1 = .resolved)
    (unopened : .opens (message.callKey peer) ∉ since)
    (same : further.sequence = message.sequence) :
    let table := run (before ++ .resolves peer message :: since) {}
    let log := answers (before ++ .resolves peer message :: since) {}
    table.resolve (further.callKey peer) further =
        (if message.callKey peer ∈ goneSince (answers before {}) log then .unmatched else .duplicate,
          table) ∧
      (message.callKey peer ∉ recent (answers before {}) →
        (answers since (run (before ++ [.resolves peer message]) {})).length < historySize →
        (table.resolve (further.callKey peer) further).1 = .duplicate) := by
  intro table log
  have kept := kept_empty.after before
  rw [List.nil_append] at kept
  obtain ⟨ticket, hw⟩ : ∃ ticket,
      (run before {}).waiting.get? (message.callKey peer) = some ticket := by
    refine Option.ne_none_iff_exists'.1 fun hn => ?_
    rw [resolve, hn] at resolved
    dsimp only at resolved
    split at resolved <;> cases resolved
  obtain ⟨ha, kept', -⟩ := kept.resolve_of_waiting hw
  have recalled := (kept.recalled hw).after kept' unopened
  have htable : table = run since ((Operation.resolves peer message).apply (run before {})) :=
    run_append ..
  have hlog : log = answers before {} ++ [message.callKey peer] ++
      answers since ((Operation.resolves peer message).apply (run before {})) := by
    rw [show log = _ from answers_append .., answers, ha, List.append_assoc]
    rfl
  rw [← htable, ← hlog] at recalled
  have hkey : further.callKey peer = message.callKey peer := by
    rw [Message.callKey, same, Message.callKey]
  have hresolve : table.resolve (further.callKey peer) further =
      (if message.callKey peer ∈ goneSince (answers before {}) log then .unmatched else .duplicate,
        table) := by
    rw [hkey, resolve, recalled.idle]
    simp only [List.contains_iff_mem, recalled.mem, ite_not]
  refine ⟨hresolve, fun hr hl => ?_⟩
  rw [hresolve, if_neg fun hm => hr ?_]
  rw [run_append] at hl
  exact goneSince_subset_recent hl (hlog ▸ hm)

private def answering (sequence : UInt32) : Message :=
  .make .v2 .echoResponse { sequence } []

private def answerer : SocketAddress := ⟨.v4 ⟨127, 0, 0, 10⟩, 2123, 0⟩

/-- A call that is opened and answered. -/
def exchange (peer : SocketAddress) (message : Message) : List Operation :=
  [.opens (message.callKey peer), .resolves peer message]

/-- A reply is recognised when it comes again after the one of another call. -/
theorem resolve_again_recent :
    let before := [.opens ((answering 1).callKey answerer)]
    let since := exchange answerer (answering 2)
    ((run before {}).resolve ((answering 1).callKey answerer) (answering 1)).1 = .resolved ∧
      .opens ((answering 1).callKey answerer) ∉ since ∧
      ((run (before ++ .resolves answerer (answering 1) :: since) {}).resolve
        ((answering 1).callKey answerer) (answering 1)).1 = .duplicate := by
  intro before since
  have resolved : ((run before {}).resolve ((answering 1).callKey answerer) (answering 1)).1 =
      .resolved := by decide
  have unopened : .opens ((answering 1).callKey answerer) ∉ since := by decide
  exact ⟨resolved, unopened, (resolve_again resolved unopened rfl).2 (by decide) (by decide)⟩

/-! ## A reply that is forgotten too early -/

theorem Kept.answers_exchange (kept : Kept log pending)
    (idle : ∀ key, pending.waiting.get? key = none) (peer : SocketAddress) (message : Message) :
    answers (exchange peer message) pending = [message.callKey peer] ∧
      ∀ key, (run (exchange peer message) pending).waiting.get? key = none := by
  obtain ⟨next, ho, -, hw, -⟩ := open?_eq kept.unlocked (message.callKey peer)
  have hopens : (Operation.opens (message.callKey peer)).apply pending = next := by
    simp only [Operation.apply, ho]
  have hslot : ∀ key, next.waiting.get? key =
      if key = message.callKey peer then some pending.opened else none := fun key => by
    rw [hw, Bindings.get?_insert, idle]
  have hkept := kept.opens (message.callKey peer)
  rw [hopens] at hkept
  obtain ⟨ha, hkept', -⟩ := hkept.resolve_of_waiting ((hslot _).trans (if_pos rfl))
  refine ⟨?_, fun key => ?_⟩
  · simp only [exchange, answers, hopens, ha]
    rfl
  · simp only [exchange, run, hopens]
    rw [Operation.apply, (slots_resolve hkept.unique _ message).2.2.2, hslot]
    split
    · rfl
    · rfl

theorem Kept.answers_exchanges (kept : Kept log pending)
    (idle : ∀ key, pending.waiting.get? key = none) (peer : SocketAddress)
    (messages : List Message) :
    answers (messages.flatMap (exchange peer)) pending = messages.map (·.callKey peer) := by
  induction messages generalizing log pending with
  | nil => rfl
  | cons message rest ih =>
    obtain ⟨ha, idle'⟩ := kept.answers_exchange idle peer message
    rw [List.flatMap_cons, answers_append, ha, ih (kept.after _) idle', List.map_cons]
    rfl

/-- A call that has just been opened is answered. -/
theorem Kept.waiting_opens (kept : Kept log pending) (key : CallKey) :
    ∃ ticket, ((Operation.opens key).apply pending).waiting.get? key = some ticket := by
  obtain ⟨next, ho, -, hw, -⟩ := open?_eq kept.unlocked key
  refine ⟨pending.opened, ?_⟩
  simp only [Operation.apply, ho]
  rw [hw, Bindings.get?_insert, if_pos rfl]

/-- When a key is opened and answered again while it is the first one of a full memory, its answer is
forgotten at once. -/
theorem Kept.resolve_first (kept : Kept log pending) {keys : List CallKey}
    (hlog : log = message.callKey peer :: keys) (full : log.length = historySize)
    (h : pending.waiting.get? (message.callKey peer) = some ticket) :
    (((Operation.resolves peer message).apply pending).resolve (message.callKey peer) message).1 =
      .unmatched := by
  obtain ⟨idle, -, mem⟩ := kept.recalled h
  have hrecent : recent log = log := by rw [recent, full, Nat.sub_self, List.drop_zero]
  have hgone : message.callKey peer ∈ goneSince log (log ++ [message.callKey peer]) := by
    rw [goneSince, gone_concat, List.drop_left, leaving, hrecent, List.length_append, full,
      List.length_singleton, Nat.add_sub_cancel_left, hlog, List.cons_append, List.take_succ_cons]
    exact List.mem_cons_self
  have hm : message.callKey peer ∉ ((Operation.resolves peer message).apply pending).answered :=
    fun hm => mem.1 hm hgone
  rw [resolve, idle]
  simp only [List.contains_iff_mem, hm, if_false]

/-- 1024 calls, one after the other, and one more under the key of the first. -/
private def history : List Operation :=
  ((List.range historySize).map fun n => answering (.ofNat n)).flatMap (exchange answerer) ++
    [.opens ((answering 0).callKey answerer)]

/-- Its reply is not recognised when it comes again, although no other has been answered since. -/
theorem unmatched_again :
    ((run history {}).resolve ((answering 0).callKey answerer) (answering 0)).1 = .resolved ∧
      ((run (history ++ [.resolves answerer (answering 0)]) {}).resolve
        ((answering 0).callKey answerer) (answering 0)).1 = .unmatched := by
  have kept := kept_empty.after history
  rw [List.nil_append] at kept
  let messages := (List.range historySize).map fun n => answering (.ofNat n)
  have before := kept_empty.after (messages.flatMap (exchange answerer))
  have hanswers : answers history {} = messages.map (·.callKey answerer) := by
    rw [history, answers_append, kept_empty.answers_exchanges (fun _ => rfl)]
    exact List.append_nil _
  have hrun : run history {} = (Operation.opens ((answering 0).callKey answerer)).apply
      (run (messages.flatMap (exchange answerer)) {}) := run_append ..
  obtain ⟨ticket, hw⟩ := before.waiting_opens ((answering 0).callKey answerer)
  rw [← hrun] at hw
  have first : answers history {} = (answering 0).callKey answerer ::
      ((List.range' 1 1023).map fun n => (answering (.ofNat n)).callKey answerer) := by
    rw [hanswers, List.map_map, show historySize = 1023 + 1 from rfl, List.range_eq_range']
    rfl
  refine ⟨by rw [resolve, hw], ?_⟩
  rw [run_append]
  exact kept.resolve_first first (by rw [hanswers]; simp [messages]) hw

end Pending
end GtpControl
