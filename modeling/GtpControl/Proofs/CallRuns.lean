import GtpControl.Endpoint.Procedure
import GtpControl.Proofs.ActionEffects
import GtpControl.Proofs.CallTable

/-! # Calls: what a request does to the endpoint that sends it, and where its reply comes from -/
namespace GtpControl.Endpoint
open Endpoint.Action
variable {σ τ : Type} {environment : Environment (StateM σ)} {endpoint : Endpoint} {world : σ}
  {state last : Endpoint × σ} {peer : SocketAddress} {message answer : Message} {call : Call}

/-- What is left when the wait for a call is over. -/
def waited (environment : Environment (StateM σ)) (ticket : Ticket) (state : Endpoint × σ) :
    Endpoint × σ :=
  let ran := ((environment.await ticket).run state.1).run state.2
  (ran.1.2, ran.2)

/-- A call is opened under the next number, unless the endpoint is closed or this number is taken. -/
theorem outcome_openCall (peer : SocketAddress) (message : Message) :
    outcome environment (openCall peer message) (endpoint, world) =
      if endpoint.closed then (.error .cancelled, endpoint, world)
      else
        match endpoint.pending.open? ⟨.ofNat endpoint.sequence.next, peer⟩ with
        | some (ticket, pending) =>
          (.ok ⟨ticket, ⟨.ofNat endpoint.sequence.next, peer⟩,
            message.setSequence (.ofNat endpoint.sequence.next)⟩,
            { endpoint with sequence := endpoint.sequence.next, pending }, world)
        | none => (.error .cancelled, { endpoint with sequence := endpoint.sequence.next }, world) := by
  simp only [openCall, nextSequence, outcome_bind, outcome_get, outcome_ite, outcome_throw,
    outcome_modify, outcome_pure]
  split
  · rfl
  · cases endpoint.pending.open? ⟨.ofNat endpoint.sequence.next, peer⟩ <;> rfl

/-- An endpoint that opens a call draws a number for it, or fails. -/
theorem openCall_cases (environment : Environment (StateM σ)) (endpoint : Endpoint) (world : σ)
    (peer : SocketAddress) (message : Message) :
    (∃ e last, outcome environment (openCall peer message) (endpoint, world) =
        (.error e, last, world)) ∨
      ∃ (call : Call) (sequence : Sequence) (pending : Pending),
        endpoint.pending.open? call.key = some (call.ticket, pending) ∧
        call.key = ⟨.ofNat sequence, peer⟩ ∧
        call.request = message.setSequence call.key.sequence ∧
        outcome environment (openCall peer message) (endpoint, world) =
          (.ok call, { endpoint with sequence, pending }, world) := by
  rw [outcome_openCall]
  split
  · exact .inl ⟨_, _, rfl⟩
  · cases ho : endpoint.pending.open? ⟨.ofNat endpoint.sequence.next, peer⟩ with
    | none => exact .inl ⟨_, _, rfl⟩
    | some found =>
      refine .inr ⟨⟨found.1, _, _⟩, endpoint.sequence.next, found.2, ho, rfl, rfl, rfl⟩

/-! ## Calls that end well -/

theorem openCall_eq_ok
    (h : outcome environment (openCall peer message) (endpoint, world) = (.ok call, last)) :
    ∃ sequence pending, endpoint.pending.open? call.key = some (call.ticket, pending) ∧
      call.key.peer = peer ∧ call.request = message.setSequence call.key.sequence ∧
      last = ({ endpoint with sequence, pending }, world) := by
  obtain ⟨e, next, ho⟩ | ⟨call', sequence, pending, hp, hk, hr, ho⟩ :=
    openCall_cases environment endpoint world peer message
  · cases h.symm.trans ho
  · cases h.symm.trans ho
    exact ⟨sequence, pending, hp, by rw [hk], hr, rfl⟩

theorem transmit_eq_ok {u : Unit}
    (h : outcome environment (transmit call) state = (.ok u, last)) :
    outcome environment (send call.key.peer call.request) state = (.ok u, last) := by
  rw [transmit, outcome_tryCatch] at h
  split at h
  · next he => rw [he, h]
  · simp [forget, outcome_bind] at h

theorem finish_eq_ok
    (h : outcome environment (finish call) (endpoint, world) = (.ok answer, last)) :
    (endpoint.pending.collect call.ticket).1 = some (.reply answer) ∧
      last = ({ endpoint with pending := (endpoint.pending.collect call.ticket).2 }, world) := by
  simp only [finish, outcome_bind, outcome_get, outcome_modify] at h
  split at h
  · next m hm =>
    cases h
    exact ⟨hm, rfl⟩
  · simp at h
  · simp [forget, log, outcome_bind] at h

/-- A call that has its reply has sent its request and has waited. -/
theorem request_eq_ok
    (h : outcome environment (request peer message) (endpoint, world) = (.ok answer, last)) :
    ∃ (call : Call) (sequence : Sequence) (pending : Pending) (sent : Endpoint × σ),
      endpoint.pending.open? call.key = some (call.ticket, pending) ∧
      call.request = message.setSequence call.key.sequence ∧
      outcome environment (send peer call.request) ({ endpoint with sequence, pending }, world) =
        (.ok (), sent) ∧
      ((waited environment call.ticket sent).1.pending.collect call.ticket).1 =
        some (.reply answer) ∧
      last = ({ (waited environment call.ticket sent).1 with
        pending := ((waited environment call.ticket sent).1.pending.collect call.ticket).2 },
          (waited environment call.ticket sent).2) := by
  obtain ⟨call, _, ho, h⟩ := outcome_bind_eq_ok.1 h
  obtain ⟨sequence, pending, hopen, rfl, hr, rfl⟩ := openCall_eq_ok ho
  obtain ⟨_, sent, hs, h⟩ := outcome_bind_eq_ok.1 h
  have hsent := transmit_eq_ok hs
  simp only [outcome_bind, outcome_read, outcome_lift] at h
  obtain ⟨hc, hl⟩ := finish_eq_ok h
  exact ⟨call, sequence, pending, sent, hopen, hr, hsent, hc, hl⟩

/-- If only replies of one sort reach the calls of an endpoint, a call gets such a reply. -/
theorem answered_of_request {p : Message → Prop} (numbered : endpoint.pending.Numbered)
    (hw : ∀ ticket next, next.1.handlers = endpoint.handlers → next.1.pending.Answered ticket p →
      (waited environment ticket next).1.pending.Answered ticket p)
    (h : outcome environment (request peer message) (endpoint, world) = (.ok answer, last)) :
    p answer := by
  obtain ⟨call, sequence, pending, sent, hopen, -, hs, hc, -⟩ := request_eq_ok h
  have hkept : sent.1 = { endpoint with sequence, pending } :=
    (keeps_send peer call.request : Keeps environment id _ _).of_outcome hs
  have hnone : pending.Answered call.ticket p := Pending.answered_of_open numbered hopen
  exact (hw call.ticket sent (by rw [hkept]) (by rw [hkept]; exact hnone)).collect hc

/-! ## What calls leave as it is -/

variable {part : Endpoint → τ}

theorem keeps_openCall (lasting : Lasting part) :
    Keeps environment part (openCall peer message) state := by
  refine keeps_get.bind fun _ next _ => keeps_ite (fun _ => keeps_throw _) fun _ => ?_
  have hnext : Keeps environment part (nextSequence : Action (StateM σ) UInt32) next :=
    (keeps_modify (lasting.sequence ..)).bind fun _ _ _ => keeps_get.bind fun _ _ _ => keeps_pure _
  refine hnext.bind fun sequence _ _ => keeps_get.bind fun endpoint _ _ => ?_
  cases endpoint.pending.open? ⟨sequence, peer⟩ with
  | none => exact keeps_throw _
  | some found => exact (keeps_modify (lasting.pending ..)).bind fun _ _ _ => keeps_pure _

theorem keeps_forget (lasting : Lasting part) (call : Call) :
    Keeps environment part (forget call) state :=
  keeps_modify (lasting.pending ..)

theorem keeps_transmit (lasting : Lasting part) :
    Keeps environment part (transmit call) state :=
  (keeps_send ..).tryCatch fun e _ _ => (keeps_forget lasting _).bind fun _ _ _ => keeps_throw e

theorem keeps_finish (lasting : Lasting part) : Keeps environment part (finish call) state := by
  refine keeps_get.bind fun endpoint _ _ => ?_
  cases endpoint.pending.collect call.ticket with
  | mk signal pending =>
    refine (keeps_modify (lasting.pending ..)).bind fun _ _ _ => ?_
    match signal with
    | some (.reply message) => exact keeps_pure _
    | some .cancelled => exact keeps_throw _
    | none =>
      exact (keeps_forget lasting _).bind fun _ _ _ => (keeps_log ..).bind fun _ _ _ => keeps_throw _

/-- A call leaves what has nothing to do with calls as it is, unless something happens to it during
the wait. -/
theorem keeps_request (lasting : Lasting part)
    (hw : ∀ ticket next, next.1.handlers = state.1.handlers →
      part (waited environment ticket next).1 = part next.1) :
    Keeps environment part (request peer message) state := by
  have handlers : Lasting Endpoint.handlers := ⟨fun _ _ => rfl, fun _ _ => rfl, fun _ _ => rfl⟩
  refine (keeps_openCall lasting).bind fun call opened ho => ?_
  refine (keeps_transmit lasting).bind fun _ sent hs => ?_
  have hh : sent.1.handlers = state.1.handlers :=
    ((keeps_transmit handlers).of_outcome hs).trans ((keeps_openCall handlers).of_outcome ho)
  refine keeps_read.bind fun _ next hr => ?_
  cases hr
  exact Keeps.bind (hw call.ticket sent hh) fun _ _ _ => keeps_finish lasting

end GtpControl.Endpoint
