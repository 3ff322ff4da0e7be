import GtpControl.Proofs.CallRuns
import GtpControl.Proofs.CallSlots
import GtpControl.Proofs.Reception

/-! # What the parts of a request, and the datagrams that arrive, do to the calls of an endpoint

None of this depends on what is written to the log. -/
namespace GtpControl

/-- What a request gives to its caller when its call has been signalled. -/
def Resolution.result : Resolution → Except EndpointError Message
  | .reply message => .ok message
  | .cancelled => .error .cancelled

namespace Endpoint
open Endpoint.Action
variable {σ : Type} {environment : Environment (StateM σ)} {endpoint : Endpoint} {world : σ}
  {call : Call} {last : Endpoint × σ} {e : EndpointError} {endpoint' : Endpoint} {world' : σ}

/-- What decides what happens to calls. -/
def callState (endpoint : Endpoint) : Pending × Sequence × Bool × Settings :=
  (endpoint.pending, endpoint.sequence, endpoint.closed, endpoint.settings)

theorem callState_eq_iff {other : Endpoint} :
    endpoint.callState = other.callState ↔ endpoint.pending = other.pending ∧
      endpoint.sequence = other.sequence ∧ endpoint.closed = other.closed ∧
      endpoint.settings = other.settings := by
  simp only [callState, Prod.mk.injEq]

/-! ## Sending -/

/-- Why a message is not sent: there is no socket, it cannot be encoded, or the socket refuses it. -/
def Unsent (e : EndpointError) : Prop :=
  e = .notListening ∨ (∃ e', e = .codec e') ∨ ∃ reason, e = .io reason

theorem Unsent.ne_cancelled (h : Unsent e) : e ≠ .cancelled := by
  rcases h with rfl | ⟨e', rfl⟩ | ⟨reason, rfl⟩ <;> exact nofun

theorem unsent_of_send {peer : SocketAddress} {message : Message} {state : Endpoint × σ}
    (h : outcome environment (send peer message) state = (.error e, last)) : Unsent e := by
  simp only [send, outcome_bind, outcome_get, outcome_ite, outcome_throw, outcome_coded] at h
  split at h
  · cases h
    exact .inl rfl
  · cases he : message.encode with
    | error e' =>
      rw [he] at h
      cases h
      exact .inr (.inl ⟨e', rfl⟩)
    | ok octets =>
      simp only [he, Except.mapError, outcome_outside] at h
      split at h
      · cases h
      · cases h
        exact .inr (.inr ⟨_, rfl⟩)

/-- A request that is sent leaves its endpoint as it is; if it cannot be sent, its call is given
up. -/
theorem transmit_cases (environment : Environment (StateM σ)) (call : Call) (endpoint : Endpoint)
    (world : σ) :
    (∃ world', outcome environment (transmit call) (endpoint, world) =
        (.ok (), endpoint, world')) ∨
      ∃ e world', Unsent e ∧ outcome environment (transmit call) (endpoint, world) =
        (.error e, { endpoint with pending := endpoint.pending.forget call.key call.ticket },
          world') := by
  have hkept : (outcome environment (send call.key.peer call.request) (endpoint, world)).2.1 =
      endpoint := (keeps_send .. : Keeps environment id _ _)
  rw [transmit, outcome_tryCatch]
  cases hs : outcome environment (send call.key.peer call.request) (endpoint, world) with
  | mk result next =>
    rw [hs] at hkept
    obtain ⟨_, world'⟩ := next
    obtain rfl : _ = endpoint := hkept
    cases result with
    | ok u => exact .inl ⟨world', rfl⟩
    | error e =>
      exact .inr ⟨e, world', unsent_of_send hs, rfl⟩

theorem endpoint_of_transmit_ok {u : Unit}
    (h : outcome environment (transmit call) (endpoint, world) = (.ok u, endpoint', world')) :
    endpoint' = endpoint := by
  obtain ⟨world', ho⟩ | ⟨e, world', -, ho⟩ := transmit_cases environment call endpoint world <;>
    cases h.symm.trans ho
  rfl

theorem endpoint_of_transmit_error
    (h : outcome environment (transmit call) (endpoint, world) = (.error e, endpoint', world')) :
    Unsent e ∧
      endpoint' = { endpoint with pending := endpoint.pending.forget call.key call.ticket } := by
  obtain ⟨world', ho⟩ | ⟨e, world', he, ho⟩ := transmit_cases environment call endpoint world <;>
    cases h.symm.trans ho
  exact ⟨he, rfl⟩

/-! ## Waiting -/

/-- A call that has been signalled ends so, and takes its signal away. -/
theorem outcome_finish_of_some {resolution : Resolution}
    (h : endpoint.pending.signal? call.ticket = some resolution) :
    outcome environment (finish call) (endpoint, world) =
      (resolution.result,
        { endpoint with pending := (endpoint.pending.collect call.ticket).2 }, world) := by
  have hc : endpoint.pending.collect call.ticket =
      (some resolution, (endpoint.pending.collect call.ticket).2) :=
    Prod.ext ((Pending.collect_fst ..).trans h) rfl
  simp only [finish, outcome_bind, outcome_get, outcome_modify]
  rw [hc]
  cases resolution <;> rfl

/-- So its result is that of its signal. -/
theorem finish_of_signalled {result : Except EndpointError Message}
    (signalled : endpoint.pending.signal? call.ticket ≠ none)
    (h : outcome environment (finish call) (endpoint, world) = (result, endpoint', world')) :
    ∃ resolution, endpoint.pending.signal? call.ticket = some resolution ∧
      result = resolution.result ∧
      endpoint' = { endpoint with pending := (endpoint.pending.collect call.ticket).2 } := by
  obtain ⟨resolution, hr⟩ := Option.ne_none_iff_exists'.1 signalled
  cases h.symm.trans (outcome_finish_of_some hr)
  exact ⟨resolution, hr, rfl, rfl⟩

/-- How a call ends whose time has run out. -/
def Call.timeout (call : Call) : EndpointError :=
  .timeout call.request.typeName call.key.sequence

/-- A call that has not been signalled has run out of time, and is given up. -/
theorem outcome_finish_of_none (environment : Environment (StateM σ)) (world : σ)
    (h : endpoint.pending.signal? call.ticket = none) :
    ∃ world', outcome environment (finish call) (endpoint, world) =
      (.error call.timeout,
        { endpoint with pending := endpoint.pending.forget call.key call.ticket }, world') := by
  have hc : endpoint.pending.collect call.ticket = (none, endpoint.pending) :=
    Prod.ext ((Pending.collect_fst ..).trans h) (Pending.collect_of_signal?_eq_none h)
  simp only [finish, outcome_bind, outcome_get, outcome_modify, hc, forget, log, outcome_outside,
    outcome_throw]
  exact ⟨_, rfl⟩

/-! ## Datagrams -/

/-- The reply that is read from a datagram. -/
def reply? (endpoint : Endpoint) (octets : Octets) : Option Message :=
  match Message.parse .v2 endpoint.settings.lengthPolicy (endpoint.seen octets) with
  | .ok message => if message.isReply then some message else none
  | .error _ => none

theorem reply?_congr {endpoint' : Endpoint} (h : endpoint'.settings = endpoint.settings)
    (octets : Octets) : endpoint'.reply? octets = endpoint.reply? octets := by
  rw [reply?, reply?, seen, seen, h]

/-- The calls when a datagram has come. -/
def heard (peer : SocketAddress) (octets : Octets) (endpoint : Endpoint) : Pending :=
  match endpoint.reply? octets with
  | some message => (endpoint.pending.resolve ⟨message.sequence, peer⟩ message).2
  | none => endpoint.pending

private theorem keeps_emit_callState {state : Endpoint × σ} (event : Event) :
    Keeps environment callState (emit event) state :=
  keeps_emit (fun _ _ => rfl) event

private theorem keeps_rejectVersion {state : Endpoint × σ} (peer : SocketAddress)
    (octets : Octets) (version : UInt8) :
    Keeps environment callState (rejectVersion peer octets version) state := by
  rw [rejectVersion]
  cases Message.parseAny .lenient octets with
  | error e => exact keeps_emit_callState _
  | ok request =>
    have hanswer : Keeps environment callState (rejectVersion.answer peer request) state :=
      (keeps_log ..).bind fun _ _ _ => (keeps_send ..).tryCatch fun _ _ _ => keeps_log ..
    dsimp only
    cases request.version with
    | v0 | v1 => exact keeps_ite (fun _ => keeps_pure _) fun _ => hanswer
    | prime => exact keeps_pure _
    | v2 => exact keeps_emit_callState _

/-- Looks for the handler of a message that is no reply to a call. -/
private def claim (peer : SocketAddress) (message : Message) :
    Action (StateM σ) (Option (Handler × Message)) := do
  match (← get).handlers.get? message.type with
  | some handler => return some (handler, message)
  | none =>
    emit (.unhandled peer message.type)
    return none

private theorem keeps_claim {state : Endpoint × σ} (peer : SocketAddress) (message : Message) :
    Keeps environment callState (claim peer message) state := by
  refine keeps_get.bind fun found _ _ => ?_
  cases found.handlers.get? message.type with
  | some handler => exact keeps_pure _
  | none => exact (keeps_emit_callState _).bind fun _ _ _ => keeps_pure _

/-- A datagram changes what decides about calls only as a reply to one. -/
theorem callState_accept (environment : Environment (StateM σ)) (peer : SocketAddress)
    (octets : Octets) (endpoint : Endpoint) (world : σ) :
    (outcome environment (accept peer (endpoint.seen octets)) (endpoint, world)).2.1.callState =
      { endpoint with pending := endpoint.heard peer octets }.callState := by
  rw [heard, reply?]
  simp only [accept]
  rw [outcome_bind, outcome_get]
  dsimp only
  cases Message.parse .v2 endpoint.settings.lengthPolicy (endpoint.seen octets) with
  | error e =>
    cases e with
    | unsupportedVersion version =>
      exact (keeps_rejectVersion ..).bind fun _ _ _ => keeps_pure _
    | _ => exact (keeps_emit_callState _).bind fun _ _ _ => keeps_pure _
  | ok message =>
    have hlog : outcome environment (log .trace
        s!"Received {message.typeName} (sequence {message.sequence}) from {peer.toText}")
          (endpoint, world) = (.ok (), endpoint, _) := outcome_outside ..
    simp only [outcome_bind, hlog]
    cases hr : message.isReply with
    | false =>
      simp only [Bool.false_eq_true, if_false]
      exact keeps_claim peer message
    | true =>
      simp only [if_true, resolve, outcome_bind, outcome_get, outcome_modify, outcome_pure]
      cases endpoint.pending.resolve ⟨message.sequence, peer⟩ message with
      | mk result pending =>
        cases result with
        | resolved => rfl
        | duplicate => exact (keeps_emit_callState _).bind fun _ _ _ => keeps_pure _
        | unmatched => exact keeps_claim peer message

end Endpoint
end GtpControl
