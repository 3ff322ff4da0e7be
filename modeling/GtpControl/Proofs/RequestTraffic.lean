import GtpControl.Proofs.CallEffects
import GtpControl.Proofs.GatewayService
import Mathlib.Logic.Function.Basic
import Mathlib.Logic.Relation

/-! # Traffic: requests side by side on one endpoint

A request passes the check whether the endpoint is closed, draws a number, opens its call, sends its
datagram and waits. Between any two of these steps other requests take theirs, numbers are drawn for
other purposes, datagrams arrive, and the endpoint is closed. -/
namespace GtpControl.Endpoint
open Endpoint.Action

/-- What a request asks for: a message of the second version for a peer. -/
structure Demand where
  peer : SocketAddress
  message : Message
  version : message.version = .v2

/-- A call of a request, with what had happened before it was opened. -/
structure Opening where
  call : Call
  /-- how many numbers had been drawn when this one had -/
  drawn : Nat
  /-- how many datagrams had arrived -/
  arrived : Nat

/-- How far a request has come. -/
inductive Stage where
  | idle
  /-- the endpoint was not closed -/
  | admitted
  | numbered (sequence : UInt32) (drawn : Nat)
  | opened (opening : Opening)
  | sent (opening : Opening)
  /-- its time has run out, but its call is still to be given up -/
  | lapsed (opening : Opening)
  | ended (opening : Option Opening) (result : Except EndpointError Message)

namespace Stage

/-- The call that the request has open. -/
def opening? : Stage → Option Opening
  | .opened opening | .sent opening | .lapsed opening => some opening
  | .idle | .admitted | .numbered .. | .ended .. => none

/-- The request is about to open or to give up its call. -/
def Midway : Stage → Prop
  | .numbered .. | .lapsed _ => True
  | .idle | .admitted | .opened _ | .sent _ | .ended .. => False

end Stage

/-- An endpoint and the requests on it. -/
structure Traffic (ι σ : Type) where
  endpoint : Endpoint
  world : σ
  stage : ι → Stage
  /-- how many numbers have been drawn -/
  drawn : Nat := 0
  /-- the datagrams that have arrived, with their senders -/
  arrived : List (SocketAddress × Octets) := []

namespace Traffic
variable {ι σ : Type} {environment : Environment (StateM σ)} {demand : ι → Demand}
  {sliced : Prop} {start traffic next last : Traffic ι σ} {i j : ι} {stage stage' : Stage}
  {opening : Opening}

/-- Nothing has been asked for yet. -/
def quiet (endpoint : Endpoint) (world : σ) : Traffic ι σ :=
  { endpoint, world, stage := fun _ => .idle }

/-- The endpoint and what surrounds it have become these. -/
def within (endpoint : Endpoint) (world : σ) (traffic : Traffic ι σ) : Traffic ι σ :=
  { traffic with endpoint, world }

/-- The next number is drawn. -/
def draw (traffic : Traffic ι σ) : Traffic ι σ :=
  { traffic with
    endpoint := { traffic.endpoint with sequence := traffic.endpoint.sequence.next }
    drawn := traffic.drawn + 1 }

/-- The table of calls has become this one. -/
def withCalls (pending : Pending) (traffic : Traffic ι σ) : Traffic ι σ :=
  { traffic with endpoint := { traffic.endpoint with pending } }

/-- A step of a request, from one stage to another. -/
inductive Turn (environment : Environment (StateM σ)) (demand : Demand) (traffic : Traffic ι σ) :
    Stage → Traffic ι σ → Stage → Prop
  | admits (h : traffic.endpoint.closed = false) :
    Turn environment demand traffic .idle traffic .admitted
  | refuses (h : traffic.endpoint.closed = true) :
    Turn environment demand traffic .idle traffic (.ended none (.error .cancelled))
  | numbers :
    Turn environment demand traffic .admitted traffic.draw
      (.numbered (.ofNat traffic.draw.endpoint.sequence) traffic.draw.drawn)
  | opens {sequence : UInt32} {drawn : Nat} {ticket : Ticket} {pending : Pending}
    (h : traffic.endpoint.pending.open? ⟨sequence, demand.peer⟩ = some (ticket, pending)) :
    Turn environment demand traffic (.numbered sequence drawn) (traffic.withCalls pending)
      (.opened ⟨⟨ticket, ⟨sequence, demand.peer⟩, demand.message.setSequence sequence⟩, drawn,
        traffic.arrived.length⟩)
  | bounces {sequence : UInt32} {drawn : Nat}
    (h : traffic.endpoint.pending.open? ⟨sequence, demand.peer⟩ = none) :
    Turn environment demand traffic (.numbered sequence drawn) traffic
      (.ended none (.error .cancelled))
  | sends {opening : Opening} {endpoint : Endpoint} {world : σ}
    (h : outcome environment (transmit opening.call) (traffic.endpoint, traffic.world) =
      (.ok (), endpoint, world)) :
    Turn environment demand traffic (.opened opening) (traffic.within endpoint world)
      (.sent opening)
  | strands {opening : Opening} {e : EndpointError} {endpoint : Endpoint} {world : σ}
    (h : outcome environment (transmit opening.call) (traffic.endpoint, traffic.world) =
      (.error e, endpoint, world)) :
    Turn environment demand traffic (.opened opening) (traffic.within endpoint world)
      (.ended (some opening) (.error e))
  | ends {opening : Opening} {result : Except EndpointError Message} {endpoint : Endpoint}
    {world : σ} (signalled : traffic.endpoint.pending.signal? opening.call.ticket ≠ none)
    (h : outcome environment (finish opening.call) (traffic.endpoint, traffic.world) =
      (result, endpoint, world)) :
    Turn environment demand traffic (.sent opening) (traffic.within endpoint world)
      (.ended (some opening) result)
  | lapses {opening : Opening}
    (h : traffic.endpoint.pending.signal? opening.call.ticket = none) :
    Turn environment demand traffic (.sent opening) traffic (.lapsed opening)
  | leaves {opening : Opening} :
    Turn environment demand traffic (.lapsed opening)
      (traffic.withCalls
        (traffic.endpoint.pending.forget opening.call.key opening.call.ticket))
      (.ended (some opening) (.error opening.call.timeout))

/-- A step that is none of a request: numbers are drawn for other purposes, datagrams arrive, the
endpoint is closed, its calls are cancelled then, and there is all that has to do with no call. -/
inductive Happens (environment : Environment (StateM σ)) (traffic : Traffic ι σ) :
    Traffic ι σ → Prop
  | draws : Happens environment traffic traffic.draw
  | arrives {peer : SocketAddress} {octets : Octets} {endpoint : Endpoint} {world : σ}
    {left : Except EndpointError (Option (Handler × Message))}
    (h : outcome environment (accept peer (traffic.endpoint.seen octets))
      (traffic.endpoint, traffic.world) = (left, endpoint, world)) :
    Happens environment traffic
      { traffic with endpoint, world, arrived := traffic.arrived ++ [(peer, octets)] }
  | closes : Happens environment traffic
      { traffic with endpoint := { traffic.endpoint with closed := true } }
  | cancels (h : traffic.endpoint.closed = true) :
    Happens environment traffic (traffic.withCalls traffic.endpoint.pending.cancelAll)
  | aside {endpoint : Endpoint} {world : σ} (h : endpoint.callState = traffic.endpoint.callState) :
    Happens environment traffic (traffic.within endpoint world)

variable [DecidableEq ι]

/-- A request has come to this stage. -/
def move (i : ι) (stage : Stage) (traffic : Traffic ι σ) : Traffic ι σ :=
  { traffic with stage := Function.update traffic.stage i stage }

/-- One step of one request, or one that is none of a request. Unless steps may come apart, no other
step comes between the draw of a number and the opening of its call, nor between the end of the time
of a call and its removal. -/
inductive Step (environment : Environment (StateM σ)) (demand : ι → Demand) (sliced : Prop)
    (traffic : Traffic ι σ) : Traffic ι σ → Prop
  | turns {i : ι} {stage : Stage} {next : Traffic ι σ}
    (alone : sliced ∨ ∀ j, j ≠ i → ¬(traffic.stage j).Midway)
    (h : Turn environment (demand i) traffic (traffic.stage i) next stage) :
    Step environment demand sliced traffic (next.move i stage)
  | happens {next : Traffic ι σ} (alone : sliced ∨ ∀ j, ¬(traffic.stage j).Midway)
    (h : Happens environment traffic next) : Step environment demand sliced traffic next

/-- Any number of steps lead from one state to another. -/
abbrev Leads (environment : Environment (StateM σ)) (demand : ι → Demand) (sliced : Prop) :
    Traffic ι σ → Traffic ι σ → Prop :=
  Relation.ReflTransGen (Step environment demand sliced)

@[simp] theorem stage_move (i j : ι) (stage : Stage) (traffic : Traffic ι σ) :
    (traffic.move i stage).stage j = if j = i then stage else traffic.stage j :=
  Function.update_apply ..

theorem stage_move_self (i : ι) (stage : Stage) (traffic : Traffic ι σ) :
    (traffic.move i stage).stage i = stage :=
  Function.update_self ..

@[simp] theorem endpoint_move (i : ι) (stage : Stage) (traffic : Traffic ι σ) :
    (traffic.move i stage).endpoint = traffic.endpoint := rfl

@[simp] theorem drawn_move (i : ι) (stage : Stage) (traffic : Traffic ι σ) :
    (traffic.move i stage).drawn = traffic.drawn := rfl

@[simp] theorem arrived_move (i : ι) (stage : Stage) (traffic : Traffic ι σ) :
    (traffic.move i stage).arrived = traffic.arrived := rfl

/-! ## Calls and slots -/

/-- The calls that the requests have open. -/
def calls (traffic : Traffic ι σ) (i : ι) : Option Call :=
  (traffic.stage i).opening?.map Opening.call

omit [DecidableEq ι] in
theorem calls_of_opening (h : (traffic.stage i).opening? = some opening) :
    traffic.calls i = some opening.call := by
  rw [calls, h, Option.map_some]

theorem calls_move (i j : ι) (stage : Stage) (traffic : Traffic ι σ) :
    (traffic.move i stage).calls j =
      if j = i then stage.opening?.map Opening.call else traffic.calls j := by
  rw [calls, stage_move]
  split <;> rfl

open Pending (Held)

omit [DecidableEq ι] in
/-- A step of a request moves no other one. -/
theorem Turn.stage_eq {demand : Demand}
    (turn : Turn environment demand traffic stage next stage') :
    next.stage = traffic.stage := by
  cases turn <;> rfl

omit [DecidableEq ι] in
theorem Turn.arrived_eq {demand : Demand}
    (turn : Turn environment demand traffic stage next stage') :
    next.arrived = traffic.arrived := by
  cases turn <;> rfl

/-- The calls and the slots still fit together when a request has taken a step. -/
theorem Turn.held (turn : Turn environment (demand i) traffic (traffic.stage i) next stage)
    (held : Held traffic.calls traffic.endpoint.pending) :
    Held (next.move i stage).calls next.endpoint.pending := by
  have hi : traffic.calls i = (traffic.stage i).opening?.map Opening.call := rfl
  have hh : ∀ j, (next.move i stage).calls j =
      if j = i then stage.opening?.map Opening.call else traffic.calls j := fun j => by
    rw [calls_move, calls, calls, turn.stage_eq]
  generalize (next.move i stage).calls = after at hh ⊢
  have same (h : stage.opening?.map Opening.call = (traffic.stage i).opening?.map Opening.call) :
      after = traffic.calls := funext fun j => by
    rw [hh, h]
    split
    · next he => rw [he, hi]
    · rfl
  generalize traffic.stage i = before at turn hi same
  cases turn with
  | admits | refuses | numbers | bounces | lapses =>
    rw [same rfl]
    exact held
  | sends h =>
    rw [same rfl, within, endpoint_of_transmit_ok h]
    exact held
  | opens h => exact held.open h hi hh
  | strands h =>
    rw [within, (endpoint_of_transmit_error h).2]
    exact held.forget hi hh
  | leaves => exact held.forget hi hh
  | ends signalled h =>
    obtain ⟨-, -, -, rfl⟩ := finish_of_signalled signalled h
    exact held.collect hi signalled hh

omit [DecidableEq ι] in
/-- What becomes of an endpoint when a datagram has arrived. -/
theorem endpoint_of_arrival {peer : SocketAddress} {octets : Octets} {endpoint : Endpoint} {world : σ}
    {left : Except EndpointError (Option (Handler × Message))}
    (h : outcome environment (accept peer (traffic.endpoint.seen octets))
      (traffic.endpoint, traffic.world) = (left, endpoint, world)) :
    endpoint.pending = traffic.endpoint.heard peer octets ∧
      endpoint.sequence = traffic.endpoint.sequence ∧
      endpoint.closed = traffic.endpoint.closed ∧
      endpoint.settings = traffic.endpoint.settings := by
  have hc := callState_accept environment peer octets traffic.endpoint traffic.world
  rw [h] at hc
  exact callState_eq_iff.1 hc

omit [DecidableEq ι] in
theorem Happens.held (happens : Happens environment traffic next)
    (held : Held traffic.calls traffic.endpoint.pending) :
    Held next.calls next.endpoint.pending := by
  cases happens with
  | draws | closes => exact held
  | @arrives peer octets endpoint world left h =>
    show Held traffic.calls endpoint.pending
    rw [(endpoint_of_arrival h).1, heard]
    split
    · exact held.resolve ..
    · exact held
  | cancels => exact held.cancelAll
  | @aside endpoint world h =>
    show Held traffic.calls endpoint.pending
    rw [(callState_eq_iff.1 h).1]
    exact held

/-- A step by which a datagram has arrived does to the requests what the datagram does to calls. -/
theorem Step.of_arrival {peer : SocketAddress} {octets : Octets}
    (step : Step environment demand sliced traffic next)
    (h : next.arrived = traffic.arrived ++ [(peer, octets)]) :
    next.stage = traffic.stage ∧ next.endpoint.pending = traffic.endpoint.heard peer octets := by
  have grown : ∀ arrived, arrived = traffic.arrived → arrived ≠ next.arrived := by
    rintro _ rfl
    simp [h]
  cases step with
  | turns _ turn => exact absurd rfl (grown _ turn.arrived_eq)
  | happens _ happens =>
    cases happens with
    | draws | closes | cancels | aside => exact absurd rfl (grown _ rfl)
    | arrives ha =>
      obtain ⟨rfl, rfl⟩ := Prod.mk.inj (List.cons.inj (List.append_cancel_left h)).1
      exact ⟨rfl, (endpoint_of_arrival ha).1⟩

theorem Step.held (step : Step environment demand sliced traffic next)
    (held : Held traffic.calls traffic.endpoint.pending) :
    Held next.calls next.endpoint.pending := by
  cases step with
  | turns _ turn => exact turn.held held
  | happens _ h => exact h.held held

omit [DecidableEq ι] in
theorem held_quiet {endpoint : Endpoint} {world : σ} (fresh : endpoint.pending = {}) :
    Held (quiet endpoint world : Traffic ι σ).calls
      (quiet endpoint world : Traffic ι σ).endpoint.pending := by
  rw [quiet, fresh]
  exact Pending.held_empty fun _ => rfl

/-- In every run the calls of the requests and the slots of the table fit together. -/
theorem Leads.held {endpoint : Endpoint} {world : σ} (fresh : endpoint.pending = {})
    (run : Leads environment demand sliced (quiet endpoint world) traffic) :
    Held traffic.calls traffic.endpoint.pending := by
  induction run with
  | refl => exact held_quiet fresh
  | tail _ step ih => exact step.held ih

/-! ## Signals -/

/-- Why a call of a request is signalled in a step. -/
inductive Cause (traffic next : Traffic ι σ) (i : ι) (opening : Opening) : Resolution → Prop
  /-- its reply has arrived -/
  | answered {octets : Octets} {message : Message}
    (arrival : next.arrived = traffic.arrived ++ [(opening.call.key.peer, octets)])
    (reply : traffic.endpoint.reply? octets = some message)
    (number : message.sequence = opening.call.key.sequence) :
    Cause traffic next i opening (.reply message)
  /-- another request has drawn the same number, and opens its call -/
  | overtaken {j : ι} {drawn : Nat}
    (h : traffic.stage j = .numbered opening.call.key.sequence drawn) :
    Cause traffic next i opening .cancelled
  /-- another request has lost the slot under the same key, and gives up what it takes for its own -/
  | ousted {j : ι} {other : Opening} (ne : j ≠ i) (key : other.call.key = opening.call.key)
    (signalled : traffic.endpoint.pending.signal? other.call.ticket ≠ none)
    (h : traffic.stage j = .lapsed other ∨ traffic.stage j = .opened other ∧
      ∃ e, Unsent e ∧ next.stage j = .ended (some other) (.error e)) :
    Cause traffic next i opening .cancelled
  | shut (h : next.endpoint.pending.closed = true) : Cause traffic next i opening .cancelled

omit [DecidableEq ι] in
/-- A call that gives up a slot that is not its own has lost its own one. -/
private theorem cause_of_forget {other : Opening}
    (held : Held traffic.calls traffic.endpoint.pending)
    (hi : (traffic.stage i).opening? = some opening)
    (hj : (traffic.stage j).opening? = some other) (ne : j ≠ i)
    (h : traffic.stage j = .lapsed other ∨ traffic.stage j = .opened other ∧
      ∃ e, Unsent e ∧ next.stage j = .ended (some other) (.error e))
    (hw : traffic.endpoint.pending.waiting.get? other.call.key = some opening.call.ticket) :
    Cause traffic next i opening .cancelled := by
  have signalled : traffic.endpoint.pending.signal? other.call.ticket ≠ none := fun hn => by
    have hslot := held.slot j _ (calls_of_opening hj) hn
    have ht : other.call.ticket = opening.call.ticket := Option.some.inj (hslot.symm.trans hw)
    exact ne (held.single j i _ _ (calls_of_opening hj) (calls_of_opening hi) ht)
  exact .ousted ne (held.key_of_waiting (calls_of_opening hi) hw).symm signalled h

/-- A signal that is there stays, and a new one is given if the condition holds. -/
private theorem eq_or_of_or {old new : Option Resolution} {c : Prop} [Decidable c]
    {resolution : Resolution} (h : new = old.or (if c then some resolution else none)) :
    new = old ∨ old = none ∧ new = some resolution ∧ c := by
  subst h
  cases old with
  | some found => exact .inl rfl
  | none =>
    by_cases hc : c
    · exact .inr ⟨rfl, by rw [if_pos hc, Option.none_or], hc⟩
    · exact .inl (by rw [if_neg hc, Option.none_or])

private theorem Turn.signal
    (turn : Turn environment (demand j) traffic (traffic.stage j) next stage)
    (held : Held traffic.calls traffic.endpoint.pending)
    (hi : (traffic.stage i).opening? = some opening)
    (hi' : ((next.move j stage).stage i).opening? = some opening) :
    next.endpoint.pending.signal? opening.call.ticket =
        traffic.endpoint.pending.signal? opening.call.ticket ∨
      traffic.endpoint.pending.signal? opening.call.ticket = none ∧ ∃ resolution,
        next.endpoint.pending.signal? opening.call.ticket = some resolution ∧
        Cause traffic (next.move j stage) i opening resolution := by
  have apart (h : stage.opening? = none) : j ≠ i := by
    rintro rfl
    rw [stage_move, if_pos rfl, h] at hi'
    cases hi'
  have hstage : (next.move j stage).stage j = stage := by rw [stage_move, if_pos rfl]
  generalize hj : traffic.stage j = before at turn
  cases turn with
  | admits | refuses | numbers | bounces | lapses => exact .inl rfl
  | sends h =>
    rw [within, endpoint_of_transmit_ok h]
    exact .inl rfl
  | @opens sequence drawn _ _ h =>
    refine (eq_or_of_or (Pending.signal?_open h _)).imp_right ?_
    rintro ⟨hn, hs, hw⟩
    have hk := held.key_of_waiting (calls_of_opening hi) hw
    have hnumbered : traffic.stage j = .numbered opening.call.key.sequence drawn := by rw [hj, hk]
    exact ⟨hn, _, hs, .overtaken hnumbered⟩
  | @strands other e _ _ h =>
    obtain ⟨unsent, hendpoint⟩ := endpoint_of_transmit_error h
    rw [within, hendpoint]
    refine (eq_or_of_or (Pending.signal?_forget ..)).imp_right ?_
    rintro ⟨hn, hs, hw, -⟩
    have hopen : (traffic.stage j).opening? = some other := by rw [hj]; rfl
    refine ⟨hn, _, hs, cause_of_forget held hi hopen (apart rfl) (.inr ⟨hj, e, unsent, ?_⟩) hw⟩
    rw [← hendpoint]
    exact hstage
  | @leaves other =>
    refine (eq_or_of_or (Pending.signal?_forget ..)).imp_right ?_
    rintro ⟨hn, hs, hw, -⟩
    have hopen : (traffic.stage j).opening? = some other := by rw [hj]; rfl
    exact ⟨hn, _, hs, cause_of_forget held hi hopen (apart rfl) (.inl hj) hw⟩
  | @ends other _ _ _ signalled h =>
    obtain ⟨-, -, -, rfl⟩ := finish_of_signalled signalled h
    refine .inl ?_
    have ht : opening.call.ticket ≠ other.call.ticket := fun ht =>
      apart rfl (held.single i j _ _ (calls_of_opening hi)
        (calls_of_opening (by rw [hj]; rfl)) ht).symm
    exact (Pending.signal?_collect ..).trans (if_neg ht)

omit [DecidableEq ι] in
private theorem Happens.signal (happens : Happens environment traffic next)
    (held : Held traffic.calls traffic.endpoint.pending)
    (hi : (traffic.stage i).opening? = some opening) :
    next.endpoint.pending.signal? opening.call.ticket =
        traffic.endpoint.pending.signal? opening.call.ticket ∨
      traffic.endpoint.pending.signal? opening.call.ticket = none ∧ ∃ resolution,
        next.endpoint.pending.signal? opening.call.ticket = some resolution ∧
        Cause traffic next i opening resolution := by
  cases happens with
  | draws | closes => exact .inl rfl
  | @arrives peer octets endpoint _ _ h =>
    obtain ⟨hp, -⟩ := endpoint_of_arrival h
    rw [hp, heard]
    cases hr : traffic.endpoint.reply? octets with
    | none => exact .inl rfl
    | some message =>
      refine (eq_or_of_or (Pending.signal?_resolve ..)).imp_right ?_
      rintro ⟨hn, hs, hw⟩
      have hk := held.key_of_waiting (calls_of_opening hi) hw
      refine ⟨hn, _, hs, .answered ?_ hr ?_⟩ <;> rw [hk]
  | cancels =>
    refine (eq_or_of_or (Pending.signal?_cancelAll ..)).imp_right ?_
    rintro ⟨hn, hs, -⟩
    exact ⟨hn, _, hs, .shut rfl⟩
  | @aside endpoint _ h =>
    refine .inl ?_
    show endpoint.pending.signal? _ = _
    rw [(callState_eq_iff.1 h).1]

/-- A call keeps its signal, and gets one only for a cause. -/
theorem Step.signal (step : Step environment demand sliced traffic next)
    (held : Held traffic.calls traffic.endpoint.pending)
    (hi : (traffic.stage i).opening? = some opening)
    (hi' : (next.stage i).opening? = some opening) :
    next.endpoint.pending.signal? opening.call.ticket =
        traffic.endpoint.pending.signal? opening.call.ticket ∨
      traffic.endpoint.pending.signal? opening.call.ticket = none ∧ ∃ resolution,
        next.endpoint.pending.signal? opening.call.ticket = some resolution ∧
        Cause traffic next i opening resolution := by
  cases step with
  | turns _ turn => exact turn.signal held hi hi'
  | happens _ h => exact h.signal held hi

/-- A call that has been signalled keeps its signal. -/
theorem Step.signal_eq_some {resolution : Resolution}
    (step : Step environment demand sliced traffic next)
    (held : Held traffic.calls traffic.endpoint.pending)
    (hi : (traffic.stage i).opening? = some opening)
    (hs : traffic.endpoint.pending.signal? opening.call.ticket = some resolution)
    (hi' : (next.stage i).opening? = some opening) :
    next.endpoint.pending.signal? opening.call.ticket = some resolution := by
  obtain h | ⟨hn, -⟩ := step.signal held hi hi'
  · exact h.trans hs
  · cases hn.symm.trans hs

/-! ## Stages -/

/-- A request stays where it is, unless the step is its own. -/
theorem Step.turn_of_stage_ne (step : Step environment demand sliced traffic next)
    (h : next.stage i ≠ traffic.stage i) :
    ∃ after, next = after.move i (next.stage i) ∧
      Turn environment (demand i) traffic (traffic.stage i) after (next.stage i) := by
  cases step with
  | @turns j stage after _ turn =>
    rw [stage_move, turn.stage_eq] at h
    have hij : i = j := by
      by_contra hij
      rw [if_neg hij] at h
      exact h rfl
    subst hij
    rw [stage_move, if_pos rfl]
    exact ⟨after, rfl, turn⟩
  | happens _ happens => cases happens <;> exact absurd rfl h

/-- A request stays at its stage, or takes a step from there. -/
theorem Step.turn_cases (step : Step environment demand sliced traffic next)
    (hi : traffic.stage i = stage) :
    next.stage i = stage ∨ ∃ after stage', next.stage i = stage' ∧
      Turn environment (demand i) traffic stage after stage' := by
  subst hi
  by_cases hstay : next.stage i = traffic.stage i
  · exact .inl hstay
  · obtain ⟨after, -, turn⟩ := step.turn_of_stage_ne hstay
    exact .inr ⟨after, _, rfl, turn⟩

/-- How a request has ended is final. -/
theorem Leads.ended {opening? : Option Opening} {result : Except EndpointError Message}
    (run : Leads environment demand sliced traffic last)
    (h : traffic.stage i = .ended opening? result) : last.stage i = .ended opening? result := by
  induction run with
  | refl => exact h
  | @tail middle last _ step ih =>
    obtain hstay | ⟨after, stage, -, turn⟩ := step.turn_cases ih
    · exact hstay
    · cases turn

/-- A call that has just been opened has no signal. -/
theorem Step.signal_of_opens (step : Step environment demand sliced traffic next)
    (held : Held traffic.calls traffic.endpoint.pending)
    (hi : (traffic.stage i).opening? ≠ some opening)
    (hi' : (next.stage i).opening? = some opening) :
    next.endpoint.pending.signal? opening.call.ticket = none := by
  have hheld := step.held held
  obtain ⟨after, hnext, turn⟩ := step.turn_of_stage_ne fun he => hi (he ▸ hi')
  have hendpoint : next.endpoint = after.endpoint := (congrArg Traffic.endpoint hnext).trans rfl
  rw [hendpoint] at hheld ⊢
  generalize traffic.stage i = before at turn hi
  generalize next.stage i = stage at turn hi'
  cases turn with
  | admits | refuses | numbers | bounces | strands | ends | leaves => cases hi'
  | sends | lapses => exact absurd hi' hi
  | @opens sequence drawn ticket pending h =>
    cases hi'
    obtain ⟨ht, -, hw, -⟩ := Pending.open?_eq_some h
    have hslot : pending.waiting.get? ⟨sequence, (demand i).peer⟩ = some ticket := by
      rw [hw, ht, Bindings.get?_insert, if_pos rfl]
    exact (hheld.owner _ _ hslot).1

/-! ## What lasts -/

/-- What no step takes back. -/
structure Onward (traffic next : Traffic ι σ) : Prop where
  settings : next.endpoint.settings = traffic.endpoint.settings
  arrived : traffic.arrived <+: next.arrived
  drawn : traffic.drawn ≤ next.drawn
  closed : traffic.endpoint.closed = true → next.endpoint.closed = true
  calls : traffic.endpoint.pending.closed = true → next.endpoint.pending.closed = true
  /-- the endpoint is closed before its table of calls is -/
  order : (traffic.endpoint.pending.closed = true → traffic.endpoint.closed = true) →
    next.endpoint.pending.closed = true → next.endpoint.closed = true

omit [DecidableEq ι] in
theorem Onward.rfl : Onward traffic traffic := ⟨Eq.refl _, List.prefix_rfl, le_rfl, id, id, id⟩

omit [DecidableEq ι] in
theorem Onward.trans (h : Onward traffic next) (h' : Onward next last) : Onward traffic last where
  settings := h'.settings.trans h.settings
  arrived := h.arrived.trans h'.arrived
  drawn := h.drawn.trans h'.drawn
  closed := h'.closed ∘ h.closed
  calls := h'.calls ∘ h.calls
  order := h'.order ∘ h.order

omit [DecidableEq ι] in
theorem Onward.closed_eq_false (h : Onward traffic next) (hc : next.endpoint.closed = false) :
    traffic.endpoint.closed = false := by
  cases hb : traffic.endpoint.closed with
  | false => rfl
  | true => exact (h.closed hb).symm.trans hc

omit [DecidableEq ι] in
private theorem Onward.of_open (settings : next.endpoint.settings = traffic.endpoint.settings)
    (arrived : traffic.arrived <+: next.arrived) (drawn : traffic.drawn ≤ next.drawn)
    (closed : next.endpoint.closed = traffic.endpoint.closed)
    (calls : next.endpoint.pending.closed = traffic.endpoint.pending.closed) :
    Onward traffic next :=
  ⟨settings, arrived, drawn, closed.trans, calls.trans,
    fun order h => closed.trans (order (calls.symm.trans h))⟩

omit [DecidableEq ι] in
private theorem Turn.onward {demand : Demand}
    (turn : Turn environment demand traffic stage next stage') : Onward traffic next := by
  have kept (pending : Pending) (h : pending.closed = traffic.endpoint.pending.closed) (world : σ) :
      Onward traffic (traffic.within { traffic.endpoint with pending } world) :=
    .of_open rfl List.prefix_rfl le_rfl rfl h
  cases turn with
  | admits | refuses | bounces | lapses => exact .of_open rfl List.prefix_rfl le_rfl rfl rfl
  | numbers => exact .of_open rfl List.prefix_rfl (Nat.le_succ _) rfl rfl
  | opens h =>
    obtain ⟨hc, hc'⟩ := Pending.closed_of_open h
    exact kept _ (hc'.trans hc.symm) _
  | sends h =>
    rw [endpoint_of_transmit_ok h]
    exact kept _ rfl _
  | strands h =>
    rw [(endpoint_of_transmit_error h).2]
    exact kept _ (Pending.forget_spec ..).2.1 _
  | leaves => exact kept _ (Pending.forget_spec ..).2.1 _
  | @ends opening _ _ _ signalled h =>
    obtain ⟨-, -, -, rfl⟩ := finish_of_signalled signalled h
    exact kept (traffic.endpoint.pending.collect opening.call.ticket).2 rfl _

omit [DecidableEq ι] in
private theorem Happens.onward
    (held : traffic.endpoint.pending.waiting.Unique)
    (happens : Happens environment traffic next) : Onward traffic next := by
  cases happens with
  | draws => exact .of_open rfl List.prefix_rfl (Nat.le_succ _) rfl rfl
  | @arrives peer octets endpoint _ _ h =>
    obtain ⟨hp, -, hc, hs⟩ := endpoint_of_arrival h
    refine .of_open hs (List.prefix_append ..) le_rfl hc ?_
    show endpoint.pending.closed = _
    rw [hp, heard]
    split
    · exact (Pending.slots_resolve held _ _).2.2.1
    · rfl
  | closes => exact ⟨rfl, List.prefix_rfl, le_rfl, fun _ => rfl, id, fun _ _ => rfl⟩
  | cancels h => exact ⟨rfl, List.prefix_rfl, le_rfl, id, fun _ => rfl, fun _ _ => h⟩
  | aside h =>
    obtain ⟨hp, -, hc, hs⟩ := callState_eq_iff.1 h
    exact .of_open hs List.prefix_rfl le_rfl hc (congrArg Pending.closed hp)

theorem Step.onward (step : Step environment demand sliced traffic next)
    (held : Held traffic.calls traffic.endpoint.pending) : Onward traffic next := by
  cases step with
  | turns _ turn =>
    obtain ⟨settings, arrived, drawn, closed, calls, order⟩ := turn.onward
    exact ⟨settings, arrived, drawn, closed, calls, order⟩
  | happens _ h => exact h.onward held.unique

theorem Leads.onward (run : Leads environment demand sliced traffic last)
    (held : Held traffic.calls traffic.endpoint.pending) :
    Onward traffic last ∧ Held last.calls last.endpoint.pending := by
  induction run with
  | refl => exact ⟨.rfl, held⟩
  | tail _ step ih => exact ⟨ih.1.trans (step.onward ih.2), step.held ih.2⟩

/-- In every run the endpoint is closed before its table of calls is. -/
theorem Leads.closed_of_calls {endpoint : Endpoint} {world : σ} (fresh : endpoint.pending = {})
    (run : Leads environment demand sliced (quiet endpoint world) traffic)
    (h : traffic.endpoint.pending.closed = true) : traffic.endpoint.closed = true := by
  refine (Leads.onward run (held_quiet fresh)).1.order (fun hc => ?_) h
  rw [quiet, fresh] at hc
  cases hc

/-! ## How a wait ends -/

/-- A request has been sent, and its wait is not over. -/
def Waits (i : ι) (opening : Opening) (traffic : Traffic ι σ) : Prop :=
  traffic.stage i = .sent opening ∧
    traffic.endpoint.pending.signal? opening.call.ticket = none

/-- A request that has been sent knows how its wait ends, or has ended so. -/
def Settled (i : ι) (opening : Opening) (resolution : Resolution) (traffic : Traffic ι σ) : Prop :=
  traffic.stage i = .sent opening ∧
      traffic.endpoint.pending.signal? opening.call.ticket = some resolution ∨
    traffic.stage i = .ended (some opening) resolution.result

omit [DecidableEq ι] in
/-- A request that has been sent and signalled can only end, and ends so. -/
theorem Turn.eq_ended {demand : Demand} {resolution : Resolution}
    (turn : Turn environment demand traffic (.sent opening) next stage)
    (h : traffic.endpoint.pending.signal? opening.call.ticket = some resolution) :
    stage = .ended (some opening) resolution.result := by
  cases turn with
  | ends _ hf =>
    cases hf.symm.trans (outcome_finish_of_some h)
    rfl
  | lapses hn => cases hn.symm.trans h

variable (environment) in
omit [DecidableEq ι] in
/-- And it can end. -/
theorem exists_turn_of_signal (demand : Demand) {resolution : Resolution}
    (h : traffic.endpoint.pending.signal? opening.call.ticket = some resolution) :
    ∃ next, Turn environment demand traffic (.sent opening) next
        (.ended (some opening) resolution.result) ∧
      next.endpoint.closed = traffic.endpoint.closed :=
  ⟨_, .ends (by rw [h]; exact nofun) (outcome_finish_of_some h), rfl⟩

theorem Step.settled {resolution : Resolution}
    (step : Step environment demand sliced traffic next)
    (held : Held traffic.calls traffic.endpoint.pending)
    (h : traffic.Settled i opening resolution) : next.Settled i opening resolution := by
  rcases h with ⟨hi, hs⟩ | hi
  · obtain hstay | ⟨after, stage, hstage, turn⟩ := step.turn_cases hi
    · exact .inl ⟨hstay, step.signal_eq_some held (by rw [hi]; rfl) hs (by rw [hstay]; rfl)⟩
    · exact .inr (hstage.trans (turn.eq_ended hs))
  · exact .inr (Leads.ended (.single step) hi)

/-- How the wait of a request ends is settled for good. -/
theorem Leads.settled {resolution : Resolution}
    (run : Leads environment demand sliced traffic last)
    (held : Held traffic.calls traffic.endpoint.pending)
    (h : traffic.Settled i opening resolution) : last.Settled i opening resolution := by
  induction run with
  | refl => exact h
  | tail run step ih => exact step.settled (Leads.onward run held).2 ih

/-- The request has ended so, or the only step that it can take ends it so. -/
def Destined (environment : Environment (StateM σ)) (demand : ι → Demand) (i : ι)
    (opening : Opening) (result : Except EndpointError Message) (traffic : Traffic ι σ) : Prop :=
  traffic.stage i = .ended (some opening) result ∨
    traffic.stage i = .sent opening ∧
      (∃ next, Turn environment (demand i) traffic (.sent opening) next
        (.ended (some opening) result)) ∧
      ∀ next stage, Turn environment (demand i) traffic (.sent opening) next stage →
        stage = .ended (some opening) result

omit [DecidableEq ι] in
theorem Settled.destined {resolution : Resolution} (h : traffic.Settled i opening resolution) :
    traffic.Destined environment demand i opening resolution.result := by
  rcases h with ⟨hi, hs⟩ | hi
  · obtain ⟨next, turn, -⟩ := exists_turn_of_signal environment (demand i) hs
    exact .inr ⟨hi, ⟨next, turn⟩, fun next stage turn => turn.eq_ended hs⟩
  · exact .inl hi

/-! ## Requests as they are made -/

/-- Steps of one request alone lead from one state to another. -/
def Proceeds (environment : Environment (StateM σ)) (demand : ι → Demand) (sliced : Prop) (i : ι)
    (traffic next : Traffic ι σ) : Prop :=
  Leads environment demand sliced traffic next ∧ ∀ j, j ≠ i → next.stage j = traffic.stage j

theorem Proceeds.turn (h : Proceeds environment demand sliced i traffic next)
    (apart : sliced ∨ ∀ j, j ≠ i → ¬(traffic.stage j).Midway) (hi : next.stage i = stage)
    {after : Traffic ι σ} (turn : Turn environment (demand i) next stage after stage') :
    Proceeds environment demand sliced i traffic (after.move i stage') := by
  subst hi
  refine ⟨h.1.tail (.turns (apart.imp_right fun ha j hj => ?_) turn), fun j hj => ?_⟩
  · rw [h.2 j hj]
    exact ha j hj
  · rw [stage_move, if_neg hj, turn.stage_eq]
    exact h.2 j hj

variable (environment demand) in
/-- A request opens its call under the next number. -/
theorem exists_opened {ticket : Ticket} {pending : Pending} (hi : traffic.stage i = .idle)
    (apart : sliced ∨ ∀ j, j ≠ i → ¬(traffic.stage j).Midway)
    (hopen : traffic.endpoint.closed = false)
    (ho : traffic.endpoint.pending.open? ⟨.ofNat traffic.endpoint.sequence.next, (demand i).peer⟩ =
      some (ticket, pending)) :
    ∃ next, Proceeds environment demand sliced i traffic next ∧
      next.stage i = .opened ⟨⟨ticket, ⟨.ofNat traffic.endpoint.sequence.next, (demand i).peer⟩,
        (demand i).message.setSequence (.ofNat traffic.endpoint.sequence.next)⟩, traffic.drawn + 1,
        traffic.arrived.length⟩ ∧
      next.endpoint =
        { traffic.endpoint with sequence := traffic.endpoint.sequence.next, pending } ∧
      next.world = traffic.world ∧ next.drawn = traffic.drawn + 1 ∧
      next.arrived = traffic.arrived := by
  have start : Proceeds environment demand sliced i traffic traffic := ⟨.refl, fun _ _ => rfl⟩
  have admitted := start.turn apart hi (.admits hopen)
  have numbered := admitted.turn apart (stage_move_self ..) .numbers
  have opened := numbered.turn apart (stage_move_self ..) (.opens ho)
  exact ⟨_, opened, stage_move_self .., rfl, rfl, rfl, rfl⟩

variable (environment demand) in
/-- What opens a call is such a run. -/
theorem proceeds_openCall (hi : traffic.stage i = .idle)
    (apart : sliced ∨ ∀ j, j ≠ i → ¬(traffic.stage j).Midway) :
    ∃ next, Proceeds environment demand sliced i traffic next ∧
      (next.endpoint, next.world) =
        (outcome environment (openCall (demand i).peer (demand i).message)
          (traffic.endpoint, traffic.world)).2 ∧
      match (outcome environment (openCall (demand i).peer (demand i).message)
        (traffic.endpoint, traffic.world)).1 with
      | .ok call => ∃ opening, opening.call = call ∧ next.stage i = .opened opening
      | .error e => next.stage i = .ended none (.error e) := by
  have start : Proceeds environment demand sliced i traffic traffic := ⟨.refl, fun _ _ => rfl⟩
  rw [outcome_openCall]
  by_cases hc : traffic.endpoint.closed = true
  · have refused := start.turn apart hi (.refuses hc)
    rw [if_pos hc]
    exact ⟨_, refused, rfl, stage_move_self ..⟩
  · have hopen : traffic.endpoint.closed = false := Bool.not_eq_true _ ▸ hc
    rw [if_neg hc]
    cases ho : traffic.endpoint.pending.open? ⟨.ofNat traffic.endpoint.sequence.next,
        (demand i).peer⟩ with
    | none =>
      have admitted := start.turn apart hi (.admits hopen)
      have numbered := admitted.turn apart (stage_move_self ..) .numbers
      have bounced := numbered.turn apart (stage_move_self ..) (.bounces ho)
      exact ⟨_, bounced, rfl, stage_move_self ..⟩
    | some found =>
      obtain ⟨next, opened, hstage, hendpoint, hworld, -⟩ :=
        exists_opened environment demand hi apart hopen ho
      exact ⟨next, opened, by rw [hendpoint, hworld], _, rfl, hstage⟩

variable (environment demand) in
/-- So is what ends a call. -/
theorem leads_finish (hi : traffic.stage i = .sent opening)
    (apart : sliced ∨ ∀ j, j ≠ i → ¬(traffic.stage j).Midway) :
    ∃ last, Leads environment demand sliced traffic last ∧
      (last.endpoint, last.world) =
        (outcome environment (finish opening.call) (traffic.endpoint, traffic.world)).2 ∧
      last.stage i = .ended (some opening)
        (outcome environment (finish opening.call) (traffic.endpoint, traffic.world)).1 := by
  have start : Proceeds environment demand sliced i traffic traffic := ⟨.refl, fun _ _ => rfl⟩
  cases hs : traffic.endpoint.pending.signal? opening.call.ticket with
  | some resolution =>
    have signalled : traffic.endpoint.pending.signal? opening.call.ticket ≠ none := by simp [hs]
    have ended := start.turn apart hi (.ends signalled (outcome_finish_of_some hs))
    rw [outcome_finish_of_some hs]
    exact ⟨_, ended.1, rfl, stage_move_self ..⟩
  | none =>
    obtain ⟨world, hf⟩ := outcome_finish_of_none environment traffic.world hs
    have lapsed := start.turn apart hi (.lapses hs)
    have left := lapsed.turn apart (stage_move_self ..) .leaves
    rw [hf]
    -- The log is written last, when the call has been given up.
    refine ⟨_, left.1.tail (.happens (apart.imp_right fun ha j => ?_)
      (@Happens.aside _ _ _ _ _ world rfl)), rfl, stage_move_self ..⟩
    by_cases hj : j = i
    · rw [hj, stage_move_self]
      exact id
    · rw [left.2 j hj]
      exact ha j hj

/-- A whole request is such a run, if what happens during its wait is one. -/
theorem leads_request (hi : traffic.stage i = .idle)
    (apart : sliced ∨ ∀ j, j ≠ i → ¬(traffic.stage j).Midway)
    (wait : ∀ opening sent, Proceeds environment demand sliced i traffic sent →
      sent.stage i = .sent opening → ∃ woken, Leads environment demand sliced sent woken ∧
        woken.stage i = .sent opening ∧ (sliced ∨ ∀ j, j ≠ i → ¬(woken.stage j).Midway) ∧
        (woken.endpoint, woken.world) =
          waited environment opening.call.ticket (sent.endpoint, sent.world)) :
    ∃ last opening?, Leads environment demand sliced traffic last ∧
      (last.endpoint, last.world) =
        (outcome environment (request (demand i).peer (demand i).message)
          (traffic.endpoint, traffic.world)).2 ∧
      last.stage i = .ended opening? (outcome environment
        (request (demand i).peer (demand i).message) (traffic.endpoint, traffic.world)).1 := by
  obtain ⟨next, run, hplace, hcall⟩ := proceeds_openCall environment demand hi apart
  rw [request, outcome_bind]
  cases ho : outcome environment (openCall (demand i).peer (demand i).message)
      (traffic.endpoint, traffic.world) with
  | mk result state =>
    rw [ho] at hplace hcall
    obtain rfl : _ = state := hplace
    cases result with
    | error e => exact ⟨next, none, run.1, rfl, hcall⟩
    | ok call =>
      obtain ⟨opening, rfl, hstage⟩ := hcall
      dsimp only
      rw [outcome_bind]
      obtain ⟨world, ht⟩ | ⟨e, world, unsent, ht⟩ :=
        transmit_cases environment opening.call next.endpoint next.world
      · have sent := run.turn apart hstage (.sends ht)
        obtain ⟨woken, waiting, hwoken, apart', hplace⟩ := wait opening _ sent (stage_move_self ..)
        obtain ⟨last, ending, hlast, hended⟩ := leads_finish environment demand hwoken
          apart'
        rw [ht]
        simp only [outcome_bind, outcome_read, outcome_lift]
        rw [hplace] at hlast hended
        exact ⟨last, _, (sent.1.trans waiting).trans ending, hlast, hended⟩
      · have stranded := run.turn apart hstage (.strands ht)
        rw [ht]
        exact ⟨_, _, stranded.1, rfl, stage_move_self ..⟩

omit [DecidableEq ι] in
theorem outcome_transmit_recording (call : Call) (endpoint : Endpoint)
    (sent : List (SocketAddress × Octets)) {octets : Octets}
    (bound : endpoint.bound.isSome = true) (he : call.request.encode = .ok octets) :
    outcome .recording (transmit call) (endpoint, sent) =
      (.ok (), endpoint, sent ++ [(call.key.peer, octets)]) := by
  rw [transmit, outcome_tryCatch, outcome_send_recording bound, he]

/-- Where every datagram is sent, a request that can be encoded gets as far as to its wait. -/
theorem exists_waits (demand : ι → Demand)
    (traffic : Traffic ι (List (SocketAddress × Octets))) (i : ι)
    (held : Held traffic.calls traffic.endpoint.pending) (hi : traffic.stage i = .idle)
    (apart : sliced ∨ ∀ j, j ≠ i → ¬(traffic.stage j).Midway)
    (hopen : traffic.endpoint.closed = false) (hcalls : traffic.endpoint.pending.closed = false)
    (bound : traffic.endpoint.bound.isSome = true)
    (encodes : ((demand i).message.setSequence
      (.ofNat traffic.endpoint.sequence.next)).encode.toOption.isSome = true) :
    ∃ next opening, Proceeds .recording demand sliced i traffic next ∧ next.Waits i opening ∧
      next.endpoint.closed = false ∧ next.endpoint.pending.closed = false ∧
      next.endpoint.settings = traffic.endpoint.settings ∧ next.drawn = traffic.drawn + 1 ∧
      next.arrived = traffic.arrived ∧
      opening.call.key = ⟨.ofNat traffic.endpoint.sequence.next, (demand i).peer⟩ ∧
      opening.arrived = traffic.arrived.length := by
  obtain ⟨octets, he⟩ : ∃ octets, ((demand i).message.setSequence
      (.ofNat traffic.endpoint.sequence.next)).encode = .ok octets := by
    cases he : ((demand i).message.setSequence (.ofNat traffic.endpoint.sequence.next)).encode with
    | ok octets => exact ⟨octets, rfl⟩
    | error e =>
      rw [he] at encodes
      cases encodes
  obtain ⟨⟨ticket, pending⟩, ho⟩ : ∃ found, traffic.endpoint.pending.open?
      ⟨.ofNat traffic.endpoint.sequence.next, (demand i).peer⟩ = some found :=
    Option.ne_none_iff_exists'.1 (mt Pending.open?_eq_none.1 (by rw [hcalls]; exact nofun))
  obtain ⟨next, opened, hstage, hendpoint, hworld, hdrawn, harrived⟩ :=
    exists_opened .recording demand hi apart hopen ho
  obtain ⟨ht, -, hw, -⟩ := Pending.open?_eq_some ho
  have hslot : next.endpoint.pending.waiting.get?
      ⟨.ofNat traffic.endpoint.sequence.next, (demand i).peer⟩ = some ticket := by
    rw [hendpoint, hw, ht, Bindings.get?_insert, if_pos rfl]
  have hsignal := ((Leads.onward opened.1 held).2.owner _ _ hslot).1
  have hsend := outcome_transmit_recording ⟨ticket, ⟨.ofNat traffic.endpoint.sequence.next,
      (demand i).peer⟩, (demand i).message.setSequence (.ofNat traffic.endpoint.sequence.next)⟩
    next.endpoint next.world (by rw [hendpoint]; exact bound) he
  have sent := opened.turn apart hstage (.sends hsend)
  have hclosed : next.endpoint.closed = false := by rw [hendpoint, hopen]
  have hcalls' : next.endpoint.pending.closed = false := by
    rw [hendpoint, (Pending.closed_of_open ho).2]
  have hsettings : next.endpoint.settings = traffic.endpoint.settings := by rw [hendpoint]
  exact ⟨_, _, sent, ⟨stage_move_self .., hsignal⟩, hclosed, hcalls', hsettings, hdrawn, harrived, rfl,
    rfl⟩

end Traffic

/-- A peer that answers echoes. -/
def echoer : SocketAddress := ⟨.v4 ⟨127, 0, 0, 10⟩, 2123, 0⟩

/-- Requests for echoes of one peer. -/
def echoing {ι : Type} : ι → Demand :=
  fun _ => ⟨echoer, .make .v2 .echoRequest {} [Element.V2.ofRecovery 0], rfl⟩

/-- An endpoint with a socket. -/
def listening : Endpoint :=
  let address : SocketAddress := ⟨.v4 ⟨127, 0, 0, 1⟩, 2123, 0⟩
  { make address 10 0 {} with bound := some address }

end GtpControl.Endpoint
