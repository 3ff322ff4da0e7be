import GtpControl.Proofs.ClientCreation
import GtpControl.Proofs.RequestTraffic

/-! # Closing: what becomes of requests when an endpoint has been closed

An endpoint is marked as closed first, and its calls are cancelled after that. In between requests
go on: those that passed the check before may still draw a number, and open a call until the table of
calls is closed as well. -/
namespace GtpControl.Endpoint
open Endpoint.Action

/-! ## A closed endpoint -/

section
variable {σ : Type} {environment : Environment (StateM σ)} {endpoint : Endpoint} {world : σ}

theorem outcome_request_closed (h : endpoint.closed = true) (peer : SocketAddress)
    (message : Message) :
    outcome environment (request peer message) (endpoint, world) =
      (.error .cancelled, endpoint, world) := by
  rw [request, outcome_bind, outcome_openCall, if_pos h]

/-- How a procedure about a session fails on a closed endpoint. -/
def refusal (id : SessionId) (endpoint : Endpoint) : EndpointError :=
  match (endpoint.session id).remoteTeid endpoint.interface with
  | .ok _ => .cancelled
  | .error e => .session e

theorem outcome_requestAbout_closed (h : endpoint.closed = true) (id : SessionId) (kind : Kind)
    (elements : List Element) :
    outcome environment (requestAbout id kind elements) (endpoint, world) =
      (.error (endpoint.refusal id), endpoint, world) := by
  simp only [requestAbout, outcome_bind, outcome_get, outcome_peerTeid, refusal]
  cases (endpoint.session id).remoteTeid endpoint.interface with
  | error e => rfl
  | ok remote => simp only [Except.mapError, outcome_request_closed h]

/-- What an endpoint does that makes no requests any more. A procedure that does not fail before its
request fails with it, and nothing is sent. -/
structure Refuses (environment : Environment (StateM σ)) (endpoint : Endpoint) (world : σ) :
    Prop where
  request : ∀ peer message, outcome environment (request peer message) (endpoint, world) =
    (.error .cancelled, endpoint, world)
  echo : ∀ peer, outcome environment (echo peer) (endpoint, world) =
    (.error .cancelled, endpoint, world)
  modifyBearer : ∀ id elements, outcome environment (modifyBearer id elements) (endpoint, world) =
    (.error (endpoint.refusal id), endpoint, world)
  deleteSession : ∀ id elements, outcome environment (deleteSession id elements) (endpoint, world) =
    (.error (endpoint.refusal id), endpoint, world)
  /-- the calls and the counter stay as they are -/
  createSession : ∀ peer elements, ∃ e last,
    outcome environment (createSession peer elements) (endpoint, world) = (.error e, last) ∧
    last.1.callState = endpoint.callState ∧ (Quiet environment → last.2 = world) ∧
    (e = .cancelled ∨ ∃ pool, last = ({ endpoint with pool }, world))

theorem refuses_of_closed (environment : Environment (StateM σ)) (world : σ)
    (h : endpoint.closed = true) : Refuses environment endpoint world where
  request := outcome_request_closed h
  echo peer := by simp only [Endpoint.echo, outcome_bind, outcome_get, outcome_request_closed h]
  modifyBearer id elements := by
    rw [Endpoint.modifyBearer, outcome_bind, outcome_requestAbout_closed h]
  deleteSession id elements := by
    rw [Endpoint.deleteSession, outcome_bind, outcome_requestAbout_closed h]
  createSession peer elements := by
    obtain ⟨e, pool, hc⟩ | ⟨proposal, pool, next, -, hn, hc⟩ :=
      createSession_cases environment endpoint world peer elements
    · exact ⟨e, _, hc, rfl, fun _ => rfl, .inr ⟨pool, rfl⟩⟩
    · have hclosed : (enrolled proposal.own proposal.session { endpoint with pool }).closed = true :=
        h
      rw [confirmSession_eq, outcome_bind, outcome_request_closed hclosed] at hc
      exact ⟨.cancelled, _, hc, rfl, hn, .inl rfl⟩

end

/-! ## Requests when the calls have been cancelled -/

/-- The request has not opened a call yet. -/
def Stage.Early : Stage → Prop
  | .idle | .admitted | .numbered .. => True
  | .opened _ | .sent _ | .lapsed _ | .ended .. => False

namespace Traffic
open Pending (Held)
variable {ι σ : Type} [DecidableEq ι] {environment : Environment (StateM σ)} {demand : ι → Demand}
  {sliced : Prop} {before traffic next last : Traffic ι σ} {i : ι} {opening : Opening}
  {resolution : Resolution} {endpoint : Endpoint} {world : σ}

variable (environment demand) in
/-- An endpoint that stops serving is marked as closed, and then its calls are cancelled. -/
theorem leads_stopServing (alone : sliced ∨ ∀ j, ¬(traffic.stage j).Midway) :
    ∃ before last, Step environment demand sliced traffic before ∧ before.stage = traffic.stage ∧
      before.endpoint.closed = true ∧
      (before.withCalls before.endpoint.pending.cancelAll).endpoint = traffic.endpoint.close ∧
      Leads environment demand sliced (before.withCalls before.endpoint.pending.cancelAll) last ∧
      (last.endpoint, last.world) =
        (outcome environment stopServing (traffic.endpoint, traffic.world)).2 := by
  let stopped := outcome environment (emit .stopped) (traffic.endpoint.close, traffic.world)
  have hkept : stopped.2.1.callState = traffic.endpoint.close.callState :=
    keeps_emit (fun _ _ => rfl) _
  refine ⟨_, _, .happens alone .closes, rfl, rfl, rfl,
    .single (.happens alone (@Happens.aside _ _ _ _ _ stopped.2.2 hkept)), ?_⟩
  rw [stopServing, outcome_bind, outcome_modify]
  rfl

/-- How the wait of a call ends when all calls are cancelled now. -/
def verdict (opening : Opening) (traffic : Traffic ι σ) : Resolution :=
  (traffic.endpoint.pending.signal? opening.call.ticket).getD .cancelled

omit [DecidableEq ι] in
/-- All calls that have no signal are cancelled. -/
theorem signal?_cancels (held : Held traffic.calls traffic.endpoint.pending)
    (h : (traffic.stage i).opening? = some opening) :
    traffic.endpoint.pending.cancelAll.signal? opening.call.ticket =
      some (traffic.verdict opening) := by
  rw [Pending.signal?_cancelAll, verdict]
  cases hs : traffic.endpoint.pending.signal? opening.call.ticket with
  | some resolution => rfl
  | none =>
    have hslot := held.slot i _ (calls_of_opening h) hs
    rw [if_pos (Bindings.mem_values_of_get? hslot)]
    rfl

/-- What becomes of a request whose call was open when the calls were cancelled: unless its datagram
cannot be sent, it ends as it is told. -/
inductive Wound (i : ι) (opening : Opening) (resolution : Resolution) (traffic : Traffic ι σ) : Prop
  | unsent (hi : traffic.stage i = .opened opening)
    (h : traffic.endpoint.pending.signal? opening.call.ticket = some resolution)
  | settled (h : traffic.Settled i opening resolution)
  | stranded {e : EndpointError} (unsent : Unsent e)
    (hi : traffic.stage i = .ended (some opening) (.error e))

private theorem Step.wound (step : Step environment demand sliced traffic next)
    (held : Held traffic.calls traffic.endpoint.pending)
    (h : traffic.Wound i opening resolution) : next.Wound i opening resolution := by
  cases h with
  | settled h => exact .settled (step.settled held h)
  | stranded unsent hi => exact .stranded unsent (Leads.ended (.single step) hi)
  | unsent hi hs =>
    have hsignal := step.signal_eq_some held (by rw [hi]; rfl) hs
    obtain hstay | ⟨after, stage, hstage, turn⟩ := step.turn_cases hi
    · exact .unsent hstay (hsignal (by rw [hstay]; rfl))
    · cases turn with
      | sends => exact .settled (.inl ⟨hstage, hsignal (by rw [hstage]; rfl)⟩)
      | strands h => exact .stranded (endpoint_of_transmit_error h).1 hstage

/-- A request that has no call yet gets none, and one that has not begun draws no number. -/
private theorem Step.early (step : Step environment demand sliced traffic next)
    (hc : traffic.endpoint.closed = true) (hp : traffic.endpoint.pending.closed = true)
    (h : (traffic.stage i).Early) :
    next.stage i = .ended none (.error .cancelled) ∨
      (next.stage i).Early ∧ (traffic.stage i = .idle → next.stage i = .idle) := by
  generalize hbefore : traffic.stage i = before at h
  obtain hstay | ⟨after, stage, hstage, turn⟩ := step.turn_cases hbefore
  · rw [hstay]
    exact .inr ⟨h, id⟩
  · rw [hstage]
    cases turn with
    | admits hopen => cases hopen.symm.trans hc
    | refuses | bounces => exact .inl rfl
    | numbers => exact .inr ⟨trivial, nofun⟩
    | opens ho =>
      rw [Pending.open?_eq_none.2 hp] at ho
      cases ho
    | sends | strands | ends | lapses | leaves => exact h.elim

/-- A request that has no call yet gets none any more. -/
private theorem Leads.early (run : Leads environment demand sliced traffic last)
    (held : Held traffic.calls traffic.endpoint.pending) (hc : traffic.endpoint.closed = true)
    (hp : traffic.endpoint.pending.closed = true) (h : (traffic.stage i).Early) :
    last.stage i = .ended none (.error .cancelled) ∨
      (last.stage i).Early ∧ (traffic.stage i = .idle → last.stage i = .idle) := by
  induction run with
  | refl => exact .inr ⟨h, id⟩
  | @tail middle last run step ih =>
    obtain ⟨onward, -⟩ := Leads.onward run held
    rcases ih with ended | ⟨early, idle⟩
    · exact .inl (Leads.ended (.single step) ended)
    · exact (step.early (onward.closed hc) (onward.calls hp) early).imp_right
        (And.imp_right (· ∘ idle))

private theorem Leads.wound (run : Leads environment demand sliced traffic last)
    (held : Held traffic.calls traffic.endpoint.pending)
    (h : traffic.Wound i opening resolution) : last.Wound i opening resolution := by
  induction run with
  | refl => exact h
  | tail run step ih => exact step.wound (Leads.onward run held).2 ih

/-- A request whose time has run out can only say so. -/
private theorem Leads.lapsed (run : Leads environment demand sliced traffic last)
    (h : traffic.stage i = .lapsed opening) :
    last.stage i = .lapsed opening ∨
      last.stage i = .ended (some opening) (.error opening.call.timeout) := by
  induction run with
  | refl => exact .inl h
  | @tail middle last run step ih =>
    rcases ih with hi | hi
    · obtain hstay | ⟨after, stage, hstage, turn⟩ := step.turn_cases hi
      · exact .inl hstay
      · cases turn
        exact .inr hstage
    · exact .inr (Leads.ended (.single step) hi)

/-- Closing is final. When an endpoint has been closed and its calls have been cancelled, each request
that waits ends with the reply that it has already, or cancelled; one whose call was open but not sent
ends so, too, or because it cannot be sent; one that had not opened a call yet never does. From then
on no call waits, and every further request is refused at once. -/
theorem Leads.final (fresh : endpoint.pending = {})
    (run : Leads environment demand sliced (quiet endpoint world) before)
    (closed : before.endpoint.closed = true)
    (later : Leads environment demand sliced
      (before.withCalls before.endpoint.pending.cancelAll) last) :
    last.endpoint.pending.waiting = {} ∧
    Refuses environment last.endpoint last.world ∧
    (∀ i opening, before.stage i = .sent opening →
      last.Destined environment demand i opening (before.verdict opening).result) ∧
    (∀ i opening, before.stage i = .lapsed opening → last.stage i = .lapsed opening ∨
      last.stage i = .ended (some opening) (.error opening.call.timeout)) ∧
    (∀ i opening, before.stage i = .opened opening → last.stage i = .opened opening ∨
      last.Destined environment demand i opening (before.verdict opening).result ∨
      ∃ e, Unsent e ∧ last.stage i = .ended (some opening) (.error e)) ∧
    ∀ i, (before.stage i).Early → last.stage i = .ended none (.error .cancelled) ∨
      (last.stage i).Early ∧ (before.stage i = .idle → last.stage i = .idle) := by
  have heldBefore := Leads.held fresh run
  have held : Held (before.withCalls before.endpoint.pending.cancelAll).calls
      before.endpoint.pending.cancelAll := heldBefore.cancelAll
  obtain ⟨onward, heldLast⟩ := Leads.onward later held
  have hverdict : ∀ i opening, (before.stage i).opening? = some opening →
      before.endpoint.pending.cancelAll.signal? opening.call.ticket =
        some (before.verdict opening) := fun _ _ h => signal?_cancels heldBefore h
  refine ⟨heldLast.empty (onward.calls rfl), refuses_of_closed _ _ (onward.closed closed),
    fun i opening hi => ?_, fun i opening hi => Leads.lapsed later hi, fun i opening hi => ?_,
    fun i early => ?_⟩
  · have hs := hverdict i opening (by rw [hi]; rfl)
    exact (Leads.settled later held (.inl ⟨hi, hs⟩)).destined
  · have hs := hverdict i opening (by rw [hi]; rfl)
    cases Leads.wound later held (.unsent hi hs) with
    | unsent hi => exact .inl hi
    | settled h => exact .inr (.inl h.destined)
    | stranded unsent hi => exact .inr (.inr ⟨_, unsent, hi⟩)
  · have h := Leads.early later held closed rfl (i := i) early
    exact h

/-- A request waits for its echo when the endpoint is closed. -/
theorem final_echoing :
    listening.pending = {} ∧ ∃ (before : Traffic Bool (List (SocketAddress × Octets)))
      (opening : Opening), Leads .recording echoing True (quiet listening []) before ∧
      before.endpoint.closed = true ∧ before.Waits false opening ∧
      ∀ last, Leads .recording echoing True
          (before.withCalls before.endpoint.pending.cancelAll) last →
        last.endpoint.pending.waiting = {} ∧
        last.Destined .recording echoing false opening (.error .cancelled) := by
  have fresh : listening.pending = {} := rfl
  obtain ⟨traffic, opening, sent, waits, -⟩ :=
    exists_waits echoing (quiet listening []) false (held_quiet fresh) rfl (.inl trivial) rfl rfl rfl
      (by decide +kernel)
  have run := sent.1.tail (.happens (.inl trivial) .closes)
  refine ⟨fresh, _, opening, run, rfl, waits, fun last later => ?_⟩
  obtain ⟨hw, -, hsent, -⟩ := Leads.final fresh run rfl later
  refine ⟨hw, ?_⟩
  have h := hsent false opening waits.1
  rwa [verdict, waits.2] at h

end Traffic
end GtpControl.Endpoint
