import GtpControl.Endpoint.Isolated
import GtpControl.Proofs.RequestAnswers
import GtpControl.Proofs.RequestNumbers

/-! # Correlation: which request a reply completes -/
namespace GtpControl.Endpoint.Traffic
open Endpoint.Action
open Pending (Held)
variable {ι σ : Type} [DecidableEq ι] {environment : Environment (StateM σ)} {demand : ι → Demand}
  {sliced : Prop} {traffic next last : Traffic ι σ} {i j : ι} {opening : Opening}
  {message : Message} {endpoint : Endpoint} {world : σ}

/-! ## Where replies come from -/

/-- The datagram of a request bears the number of its call. -/
theorem Leads.sequence_request (fresh : endpoint.pending = {})
    (run : Leads environment demand sliced (quiet endpoint world) traffic)
    (hi : (traffic.stage i).call? = some opening) :
    opening.call.request.sequence = opening.call.key.sequence := by
  have hn := ((Leads.counted run).number i _ _ (Stage.draw?_of_call? hi)).1
  rw [(Leads.stamped fresh run hi).request, hn]
  exact Message.sequence_setSequence_ofNat (demand i).version _

/-- The call of a request has got a reply, which the request may have seen already. -/
def Heard (i : ι) (opening : Opening) (message : Message) (traffic : Traffic ι σ) : Prop :=
  (traffic.stage i).opening? = some opening ∧
      traffic.endpoint.pending.signal? opening.call.ticket = some (.reply message) ∨
    traffic.stage i = .ended (some opening) (.ok message)

omit [DecidableEq ι] in
theorem Heard.call? (h : traffic.Heard i opening message) :
    (traffic.stage i).call? = some opening := by
  rcases h with ⟨hi, -⟩ | hi
  · exact Stage.call?_of_opening? hi
  · rw [hi]
    rfl

/-- A datagram has arrived in a step that is the reply to a call. -/
structure Arrival (opening : Opening) (message : Message) (octets : Octets)
    (traffic next : Traffic ι σ) : Prop where
  arrived : next.arrived = traffic.arrived ++ [(opening.call.key.peer, octets)]
  reply : traffic.endpoint.reply? octets = some message
  number : message.sequence = opening.call.key.sequence

/-- A request that has a reply had it before, or a datagram has just brought it. -/
private theorem Step.heard (step : Step environment demand sliced traffic next)
    (held : Held traffic.calls traffic.endpoint.pending) (h : next.Heard i opening message) :
    traffic.Heard i opening message ∨ (traffic.stage i).opening? = some opening ∧
      traffic.endpoint.pending.signal? opening.call.ticket = none ∧
      ∃ octets, Arrival opening message octets traffic next := by
  rcases h with ⟨hi', hs⟩ | hi'
  · by_cases hi : (traffic.stage i).opening? = some opening
    · obtain he | ⟨hn, resolution, hr, cause⟩ := step.signal held hi hi'
      · exact .inl (.inl ⟨hi, he.symm.trans hs⟩)
      · cases hr.symm.trans hs
        cases cause with
        | answered arrival reply number => exact .inr ⟨hi, hn, _, arrival, reply, number⟩
    · cases (step.signal_of_opens held hi hi').symm.trans hs
  · obtain hstay | ⟨after, stage, hstage, turn⟩ := step.turn_cases (i := i) rfl
    · exact .inl (.inr (hstay.symm.trans hi'))
    · obtain rfl := hstage.symm.trans hi'
      generalize hbefore : traffic.stage i = before at turn
      cases turn with
      | ends signalled hf =>
        obtain ⟨resolution, hr, hresult, -⟩ := finish_of_signalled signalled hf
        cases resolution with
        | cancelled => cases hresult
        | reply found =>
          cases hresult
          exact .inl (.inl ⟨by rw [hbefore]; rfl, hr⟩)

/-- Each reply that a request has is that of a datagram of its own, which arrived after its call was
opened. -/
structure Sourced (origin : ι → Nat) (traffic : Traffic ι σ) : Prop where
  source : ∀ i opening message, traffic.Heard i opening message →
    opening.arrived ≤ origin i ∧ ∃ octets,
      traffic.arrived[origin i]? = some (opening.call.key.peer, octets) ∧
      traffic.endpoint.reply? octets = some message ∧
      message.sequence = opening.call.key.sequence
  single : ∀ i j opening opening' message message', traffic.Heard i opening message →
    traffic.Heard j opening' message' → origin i = origin j → i = j

omit [DecidableEq ι] in
/-- A datagram does not answer two calls. -/
private theorem Arrival.eq {opening' : Opening} {message' : Message} {octets octets' : Octets}
    (held : Held traffic.calls traffic.endpoint.pending)
    (arrival : Arrival opening message octets traffic next)
    (arrival' : Arrival opening' message' octets' traffic next)
    (hi : (traffic.stage i).opening? = some opening)
    (hn : traffic.endpoint.pending.signal? opening.call.ticket = none)
    (hj : (traffic.stage j).opening? = some opening')
    (hn' : traffic.endpoint.pending.signal? opening'.call.ticket = none) : i = j := by
  have hlast := List.append_cancel_left (arrival.arrived.symm.trans arrival'.arrived)
  obtain ⟨hpeer, rfl⟩ := Prod.mk.inj (List.cons.inj hlast).1
  obtain rfl : message = message' := Option.some.inj (arrival.reply.symm.trans arrival'.reply)
  have hkey : opening.call.key = opening'.call.key := by
    have hsequence := arrival.number.symm.trans arrival'.number
    cases hk : opening.call.key
    cases hk' : opening'.call.key
    simp only [hk, hk'] at hpeer hsequence
    rw [hpeer, hsequence]
  have hslot := held.slot i _ (calls_of_opening hi) hn
  have hslot' := held.slot j _ (calls_of_opening hj) hn'
  rw [hkey, hslot'] at hslot
  exact held.single i j _ _ (calls_of_opening hi) (calls_of_opening hj) (Option.some.inj hslot).symm

open Classical in
private theorem Step.sourced {origin : ι → Nat}
    (step : Step environment demand sliced traffic next)
    (held : Held traffic.calls traffic.endpoint.pending)
    (hopened : ∀ i opening, (traffic.stage i).call? = some opening →
      opening.arrived ≤ traffic.arrived.length)
    (sourced : Sourced origin traffic) : ∃ origin', Sourced origin' next := by
  let known (i : ι) : Prop := ∃ opening message, traffic.Heard i opening message
  let origin' (i : ι) : Nat := if known i then origin i else traffic.arrived.length
  have onward := step.onward held
  have cases_heard : ∀ i opening message, next.Heard i opening message →
      traffic.Heard i opening message ∧ origin' i = origin i ∨
        (traffic.stage i).opening? = some opening ∧
        traffic.endpoint.pending.signal? opening.call.ticket = none ∧
        origin' i = traffic.arrived.length ∧
        ∃ octets, Arrival opening message octets traffic next := by
    intro i opening message h
    rcases step.heard held h with h | ⟨hi, hn, octets, arrival⟩
    · exact .inl ⟨h, if_pos ⟨opening, message, h⟩⟩
    · refine .inr ⟨hi, hn, if_neg ?_, octets, arrival⟩
      rintro ⟨opening', message', ⟨hi', hs⟩ | hi'⟩
      · cases hi.symm.trans hi'
        cases hn.symm.trans hs
      · rw [hi'] at hi
        cases hi
  have horigin : ∀ i opening message, traffic.Heard i opening message →
      origin i < traffic.arrived.length := by
    intro i opening message h
    obtain ⟨-, octets, hget, -⟩ := sourced.source i opening message h
    exact (List.getElem?_eq_some_iff.1 hget).1
  refine ⟨origin', ⟨fun i opening message h => ?_,
    fun i j opening opening' message message' h h' he => ?_⟩⟩
  · rcases cases_heard i opening message h with ⟨h, ho⟩ | ⟨hi, -, ho, octets, arrival⟩
    · obtain ⟨hle, octets, hget, hreply, hnumber⟩ := sourced.source i opening message h
      rw [ho]
      refine ⟨hle, octets, ?_, (reply?_congr onward.settings octets).trans hreply, hnumber⟩
      obtain ⟨rest, hrest⟩ := onward.arrived
      rw [← hrest, List.getElem?_append_left (List.getElem?_eq_some_iff.1 hget).1]
      exact hget
    · rw [ho]
      refine ⟨hopened i opening (Stage.call?_of_opening? hi), octets, ?_,
        (reply?_congr onward.settings octets).trans arrival.reply, arrival.number⟩
      rw [arrival.arrived, List.getElem?_concat_length]
  · rcases cases_heard i _ _ h with ⟨h, ho⟩ | ⟨hi, hn, ho, octets, arrival⟩ <;>
      rcases cases_heard j _ _ h' with ⟨h', ho'⟩ | ⟨hj, hn', ho', octets', arrival'⟩
    · exact sourced.single i j _ _ _ _ h h' (ho.symm.trans (he.trans ho'))
    · exact absurd (horigin i _ _ h) (by omega)
    · exact absurd (horigin j _ _ h') (by omega)
    · exact arrival.eq held arrival' hi hn hj hn'

/-- In every run each reply has its own datagram. -/
theorem Leads.sourced (fresh : endpoint.pending = {})
    (run : Leads environment demand sliced (quiet endpoint world) traffic) :
    ∃ origin, Sourced origin traffic := by
  induction run with
  | refl =>
    refine ⟨fun _ => 0, ⟨fun i _ _ h => ?_, fun i _ _ _ _ _ h => ?_⟩⟩ <;>
      rcases h with ⟨h, -⟩ | h <;> cases h
  | tail run step ih =>
    obtain ⟨origin, sourced⟩ := ih
    exact step.sourced (Leads.held fresh run)
      (fun _ _ hi => (Leads.stamped fresh run hi).arrived) sourced

/-! ## Calls that keep their slots -/

/-- A step in which the datagram of an earlier request is refused. The numbers have gone round since, and
a later one waits in the slot that the earlier one gives up, so that its call is cancelled. -/
structure Ousts (opening other : Opening) (i j : ι) (before after : Traffic ι σ) : Prop where
  opened : before.stage j = .opened other
  refused : ∃ e, Unsent e ∧ after.stage j = .ended (some other) (.error e)
  key : other.call.key = opening.call.key
  round : other.drawn + 0x1000000 ≤ opening.drawn
  waiting : (before.stage i).opening? = some opening ∧
    before.endpoint.pending.signal? opening.call.ticket = none
  cancelled : after.endpoint.pending.signal? opening.call.ticket = some .cancelled

/-- A run comes by such a step. -/
def Ousted (environment : Environment (StateM σ)) (demand : ι → Demand) (start : Traffic ι σ) (i : ι)
    (opening : Opening) (traffic : Traffic ι σ) : Prop :=
  ∃ before after j other, Leads environment demand False start before ∧
    Step environment demand False before after ∧ Leads environment demand False after traffic ∧
    Ousts opening other i j before after

/-- While no step comes between a draw and its call, nor between a timeout and its removal: a call is
cancelled only when the endpoint closes, when the numbers have gone round since its own, or when it is
ousted. -/
structure Orderly (environment : Environment (StateM σ)) (demand : ι → Demand)
    (start traffic : Traffic ι σ) : Prop where
  numbered : ∀ i sequence drawn, traffic.stage i = .numbered sequence drawn → drawn = traffic.drawn
  lapsed : ∀ i opening, traffic.stage i = .lapsed opening →
    traffic.endpoint.pending.signal? opening.call.ticket = none
  cancelled : ∀ i opening, (traffic.stage i).opening? = some opening →
    traffic.endpoint.pending.signal? opening.call.ticket = some .cancelled →
    traffic.endpoint.pending.closed = true ∨ opening.drawn + 0x1000000 ≤ traffic.drawn ∨
      Ousted environment demand start i opening traffic

/-- A request that is midway has just come there. -/
private theorem Step.turn_of_midway (step : Step environment demand False traffic next)
    (h : (next.stage i).Midway) :
    ∃ after, next = after.move i (next.stage i) ∧
      Turn environment (demand i) traffic (traffic.stage i) after (next.stage i) := by
  refine step.turn_of_stage_ne fun he => ?_
  rw [he] at h
  cases step with
  | @turns j stage after alone turn =>
    by_cases hij : i = j
    · subst hij
      rw [stage_move, if_pos rfl] at he
      rw [he] at turn
      generalize traffic.stage i = stay at turn
      -- Each step of a request leads to another stage.
      cases turn
    · exact (alone.resolve_left id) i hij h
  | happens alone _ => exact (alone.resolve_left id) i h

/-- A call whose slot another request takes, or gives up, is old or ousted. -/
private theorem Step.cancelled {start : Traffic ι σ} {first : Sequence}
    (run : Leads environment demand False start traffic)
    (step : Step environment demand False traffic next)
    (held : Held traffic.calls traffic.endpoint.pending) (counted : Counted first traffic)
    (orderly : Orderly environment demand start traffic)
    (hi : (traffic.stage i).opening? = some opening)
    (hn : traffic.endpoint.pending.signal? opening.call.ticket = none)
    (hs : next.endpoint.pending.signal? opening.call.ticket = some .cancelled)
    (cause : Cause traffic next i opening .cancelled) :
    next.endpoint.pending.closed = true ∨ opening.drawn + 0x1000000 ≤ next.drawn ∨
      Ousted environment demand start i opening next := by
  have hdraw := Stage.draw?_of_call? (Stage.call?_of_opening? hi)
  have hle := (step.onward held).drawn
  cases cause with
  | shut h => exact .inl h
  | @overtaken j drawn h =>
    have ne : i ≠ j := by
      rintro rfl
      rw [h] at hi
      cases hi
    have hj : (traffic.stage j).draw? = some (opening.call.key.sequence, drawn) := by
      rw [h]
      rfl
    have hbound := (counted.number i _ _ hdraw).2
    obtain rfl := orderly.numbered j _ _ h
    rcases counted.far hdraw hj ne with hfar | hfar
    · exact .inr (.inl (hfar.trans hle))
    · omega
  | @ousted j other ne key signalled h =>
    rcases h with h | ⟨h, refused⟩
    · exact absurd (orderly.lapsed j other h) signalled
    · have hj : (traffic.stage j).draw? = some (opening.call.key.sequence, other.drawn) := by
        rw [h, ← key]
        rfl
      have hbound := (counted.number j _ _ hj).2
      rcases counted.far hdraw hj ne.symm with hfar | hfar
      · exact .inr (.inl (hfar.trans (hbound.trans hle)))
      · exact .inr (.inr ⟨traffic, next, j, other, run, step, .refl,
          ⟨h, refused, key, hfar, ⟨hi, hn⟩, hs⟩⟩)

private theorem Step.orderly {start : Traffic ι σ} {first : Sequence}
    (run : Leads environment demand False start traffic)
    (step : Step environment demand False traffic next)
    (held : Held traffic.calls traffic.endpoint.pending) (counted : Counted first traffic)
    (orderly : Orderly environment demand start traffic) : Orderly environment demand start next := by
  have onward := step.onward held
  refine ⟨fun i sequence drawn hi => ?_, fun i opening hi => ?_, fun i opening hi' hs => ?_⟩
  · obtain ⟨after, hnext, turn⟩ := step.turn_of_midway (i := i) (by rw [hi]; trivial)
    have hdrawn : next.drawn = after.drawn := (congrArg Traffic.drawn hnext).trans rfl
    rw [hi] at turn
    generalize traffic.stage i = before at turn
    cases turn
    exact hdrawn.symm
  · obtain ⟨after, hnext, turn⟩ := step.turn_of_midway (i := i) (by rw [hi]; trivial)
    have hendpoint : next.endpoint = after.endpoint := (congrArg Traffic.endpoint hnext).trans rfl
    rw [hi] at turn
    generalize traffic.stage i = before at turn
    cases turn with
    | lapses h => exact hendpoint ▸ h
  · by_cases hi : (traffic.stage i).opening? = some opening
    · obtain he | ⟨hn, resolution, hr, cause⟩ := step.signal held hi hi'
      · rcases orderly.cancelled i opening hi (he.symm.trans hs) with
          hc | hle | ⟨before, after, j, other, front, ousting, back, ousts⟩
        · exact .inl (onward.calls hc)
        · exact .inr (.inl (hle.trans onward.drawn))
        · exact .inr (.inr ⟨before, after, j, other, front, ousting, back.tail step, ousts⟩)
      · cases hr.symm.trans hs
        exact step.cancelled run held counted orderly hi hn hr cause
    · cases (step.signal_of_opens held hi hi').symm.trans hs

private theorem Leads.orderly (fresh : endpoint.pending = {})
    (run : Leads environment demand False (quiet endpoint world) traffic) :
    Orderly environment demand (quiet endpoint world) traffic := by
  induction run with
  | refl => exact ⟨fun _ _ _ => nofun, fun _ _ => nofun, fun _ _ => nofun⟩
  | tail run step ih => exact step.orderly run (Leads.held fresh run) (Leads.counted run) ih

/-! ## Requests and their replies -/

/-- A request that has never had a call has been refused. -/
private theorem Leads.eq_cancelled {result : Except EndpointError Message}
    (run : Leads environment demand sliced (quiet endpoint world) traffic)
    (hi : traffic.stage i = .ended none result) : result = .error .cancelled := by
  induction run with
  | refl => cases hi
  | @tail middle traffic _ step ih =>
    obtain hstay | ⟨after, stage, hstage, turn⟩ := step.turn_cases (i := i) rfl
    · exact ih (hstay.symm.trans hi)
    · obtain rfl := hstage.symm.trans hi
      generalize middle.stage i = before at turn
      cases turn <;> rfl

/-- The wait of a request goes on while it has no reply, the endpoint is not closed and the numbers
have not gone round, unless it is ousted: then it is cancelled. -/
private theorem Leads.waits (fresh : endpoint.pending = {})
    (run : Leads environment demand False (quiet endpoint world) traffic)
    (hi : traffic.stage i = .sent opening) (hopen : traffic.endpoint.pending.closed = false)
    (window : traffic.drawn < opening.drawn + 0x1000000)
    (first : ∀ k octets message, opening.arrived ≤ k →
      traffic.arrived[k]? = some (opening.call.key.peer, octets) →
      traffic.endpoint.reply? octets = some message →
      message.sequence ≠ opening.call.key.sequence) :
    traffic.Waits i opening ∨ Ousted environment demand (quiet endpoint world) i opening traffic ∧
      traffic.Destined environment demand i opening (.error .cancelled) := by
  have hcall : (traffic.stage i).opening? = some opening := by rw [hi]; rfl
  cases hs : traffic.endpoint.pending.signal? opening.call.ticket with
  | none => exact .inl ⟨hi, hs⟩
  | some resolution =>
    refine .inr ?_
    cases resolution with
    | reply message =>
      obtain ⟨origin, sourced⟩ := Leads.sourced fresh run
      obtain ⟨hle, octets, hget, hreply, hnumber⟩ :=
        sourced.source i opening message (.inl ⟨hcall, hs⟩)
      exact absurd hnumber (first _ octets message hle hget hreply)
    | cancelled =>
      rcases (Leads.orderly fresh run).cancelled i opening hcall hs with hc | hle | ousted
      · rw [hopen] at hc
        cases hc
      · omega
      · exact ⟨ousted, Settled.destined (.inl ⟨hi, hs⟩)⟩

/-- A reply to a request that waits is for its call. -/
private theorem Waits.settled {octets : Octets} (waits : traffic.Waits i opening)
    (held : Held traffic.calls traffic.endpoint.pending)
    (step : Step environment demand sliced traffic next)
    (arrival : Arrival opening message octets traffic next) :
    next.Settled i opening (.reply message) := by
  obtain ⟨hi, hn⟩ := waits
  have hslot := held.slot i _ (calls_of_opening (by rw [hi]; rfl)) hn
  obtain ⟨hstage, hpending⟩ := step.of_arrival arrival.arrived
  refine .inl ⟨by rw [hstage, hi], ?_⟩
  have hkey : (⟨message.sequence, opening.call.key.peer⟩ : CallKey) = opening.call.key := by
    rw [arrival.number]
  rw [hpending, heard, arrival.reply]
  dsimp only
  rw [hkey, Pending.signal?_resolve, hn, if_pos hslot, Option.none_or]

/-- Requests and replies belong together. How a request has ended is final; each request that has
ended with a reply has a datagram of its own, which came from the peer of the request with the number
of its datagram after its call was opened; and the next such datagram completes a request that waits.
It waits at least until such a datagram has come, unless its time runs out, the endpoint is closed,
the numbers go round, or it is ousted, and so cancelled. -/
theorem Leads.correlated (fresh : endpoint.pending = {})
    (run : Leads environment demand False (quiet endpoint world) traffic) :
    (∀ i opening? result last, traffic.stage i = .ended opening? result →
      Leads environment demand False traffic last → last.stage i = .ended opening? result) ∧
    (∃ origin : ι → Nat,
      (∀ i opening? message, traffic.stage i = .ended opening? (.ok message) →
        ∃ opening octets, opening? = some opening ∧
          Stamped (demand i) traffic.arrived.length opening ∧ opening.arrived ≤ origin i ∧
          traffic.arrived[origin i]? = some ((demand i).peer, octets) ∧
          endpoint.reply? octets = some message ∧
          message.sequence = opening.call.request.sequence) ∧
      ∀ i j opening? opening?' message message',
        traffic.stage i = .ended opening? (.ok message) →
        traffic.stage j = .ended opening?' (.ok message') → origin i = origin j → i = j) ∧
    (∀ i opening next last octets message, traffic.Waits i opening →
      Step environment demand False traffic next →
      next.arrived = traffic.arrived ++ [((demand i).peer, octets)] →
      endpoint.reply? octets = some message → message.sequence = opening.call.request.sequence →
      Leads environment demand False next last →
      last.Destined environment demand i opening (.ok message)) ∧
    ∀ i opening, traffic.stage i = .sent opening → traffic.endpoint.pending.closed = false →
      traffic.drawn < opening.drawn + 0x1000000 →
      (∀ k octets message, opening.arrived ≤ k →
        traffic.arrived[k]? = some ((demand i).peer, octets) →
        endpoint.reply? octets = some message →
        message.sequence ≠ opening.call.request.sequence) →
      traffic.Waits i opening ∨ Ousted environment demand (quiet endpoint world) i opening traffic ∧
        traffic.Destined environment demand i opening (.error .cancelled) := by
  have hread : ∀ octets, traffic.endpoint.reply? octets = endpoint.reply? octets :=
    reply?_congr (Leads.onward run (held_quiet fresh)).1.settings
  have hbears : ∀ i opening, traffic.stage i = .sent opening →
      opening.call.key.peer = (demand i).peer ∧
        opening.call.request.sequence = opening.call.key.sequence := by
    intro i opening hi
    have hcall : (traffic.stage i).call? = some opening := by rw [hi]; rfl
    exact ⟨(Leads.stamped fresh run hcall).peer, Leads.sequence_request fresh run hcall⟩
  refine ⟨fun i opening? result last hi later => Leads.ended later hi, ?_,
    fun i opening next last octets message waits step arrived reply number later => ?_,
    fun i opening hi hopen window first => ?_⟩
  · obtain ⟨origin, sourced⟩ := Leads.sourced fresh run
    have hheard : ∀ i opening? message, traffic.stage i = .ended opening? (.ok message) →
        ∃ opening, opening? = some opening ∧ traffic.Heard i opening message := by
      intro i opening? message hi
      cases opening? with
      | none => cases Leads.eq_cancelled run hi
      | some opening => exact ⟨opening, rfl, .inr hi⟩
    refine ⟨origin, fun i opening? message hi => ?_,
      fun i j opening? opening?' message message' hi hj => ?_⟩
    · obtain ⟨opening, rfl, heard⟩ := hheard i opening? message hi
      obtain ⟨hle, octets, hget, hreply, hnumber⟩ := sourced.source i opening message heard
      have stamped := Leads.stamped fresh run heard.call?
      refine ⟨opening, octets, rfl, stamped, hle, ?_, (hread octets).symm.trans hreply, ?_⟩
      · rw [hget, stamped.peer]
      · rw [hnumber, Leads.sequence_request fresh run heard.call?]
    · obtain ⟨opening, rfl, heard⟩ := hheard i opening? message hi
      obtain ⟨opening', rfl, heard'⟩ := hheard j opening?' message' hj
      exact sourced.single i j opening opening' message message' heard heard'
  · obtain ⟨hpeer, hnumber⟩ := hbears i opening waits.1
    simp only [← hread, ← hpeer, hnumber] at arrived reply number
    have held := Leads.held fresh run
    have settled := waits.settled held step ⟨arrived, reply, number⟩
    exact (Leads.settled later (step.held held) settled).destined
  · obtain ⟨hpeer, hnumber⟩ := hbears i opening hi
    simp only [← hread, ← hpeer, hnumber] at first
    exact Leads.waits fresh run hi hopen window first

/-! A request for an echo, and its reply. -/

private def echoed : Octets := [0x40, 2, 0, 9, 0, 0, 1, 0, 3, 0, 1, 0, 0]

/-- The reply completes the request. -/
theorem correlated_echoing :
    listening.pending = {} ∧
      ∃ (traffic next : Traffic Unit (List (SocketAddress × Octets))) (opening : Opening)
        (message : Message),
        Leads .recording echoing False (quiet listening []) traffic ∧ traffic.Waits () opening ∧
        Step .recording echoing False traffic next ∧
        next.arrived = traffic.arrived ++ [(echoer, echoed)] ∧
        listening.reply? echoed = some message ∧
        message.sequence = opening.call.request.sequence ∧
        next.Destined .recording echoing () opening (.ok message) := by
  have fresh : listening.pending = {} := rfl
  obtain ⟨traffic, opening, sent, waits, -, -, -, -, -, hkey, -⟩ :=
    exists_waits echoing (quiet listening []) () (held_quiet fresh) rfl (.inr fun _ _ => id) rfl rfl
      rfl (by decide +kernel)
  have alone : ∀ j, ¬(traffic.stage j).Midway := fun j => by
    rw [waits.1]
    exact id
  obtain ⟨next, step, arrived⟩ : ∃ next, Step .recording echoing False traffic next ∧
      next.arrived = traffic.arrived ++ [(echoer, echoed)] :=
    ⟨_, .happens (.inr alone) (.arrives rfl), rfl⟩
  have hread : (listening.reply? echoed).map Message.sequence = some 1 := by decide +kernel
  obtain ⟨message, reply, hnumber⟩ := Option.map_eq_some_iff.1 hread
  have number : message.sequence = opening.call.request.sequence := by
    rw [hnumber, Leads.sequence_request fresh sent.1 (by rw [waits.1]; rfl), hkey]
    rfl
  have destined := (Leads.correlated fresh sent.1).2.2.1 () opening next next echoed message waits
    step arrived reply number .refl
  exact ⟨fresh, traffic, next, opening, message, sent.1, waits, step, arrived, reply, number,
    destined⟩

/-! Two requests for an echo. The datagram of the first one is refused when the numbers have gone round and
the second one waits. -/

/-- Surroundings that take datagrams while the network is up. -/
private def wavering : Environment (StateM Bool) where
  bind address := pure (.ok address)
  send _ _ := do return if ← get then .ok () else .error Environment.unreachable
  log _ _ := pure ()
  await _ := pure ()
  custom _ _ _ := pure (.ok ())

/-- A call of either request. -/
private def echoCall (ticket : Ticket) : Call :=
  ⟨ticket, ⟨1, echoer⟩, (echoing ()).message.setSequence 1⟩

/-- The endpoint after this number, with these calls. -/
private def calling (sequence : Sequence) (pending : Pending) : Endpoint :=
  { listening with sequence, pending }

/-- The first request has its slot, or the second one in its place. -/
private def occupied (tickets : Nat) : Pending where
  waiting := ⟨[(⟨1, echoer⟩, tickets)]⟩
  opened := tickets + 1
  signals := (List.range tickets).map (·, .cancelled)

private theorem transmit_wavering (ticket : Ticket) (up : Bool) (pending : Pending) :
    outcome wavering (transmit (echoCall ticket)) (calling 1 pending, up) =
      if up then (.ok (), calling 1 pending, up)
      else (.error (.io Environment.unreachable), calling 1 (pending.forget ⟨1, echoer⟩ ticket),
        up) := by
  have he : ((echoing ()).message.setSequence 1).encode =
      .ok [0x40, 1, 0, 9, 0, 0, 1, 0, 3, 0, 1, 0, 0] := by decide +kernel
  rw [transmit, outcome_tryCatch, outcome_send fun _ _ _ => rfl]
  simp only [echoCall, he]
  cases up <;> rfl

/-- The first request opens its call. -/
private theorem exists_asked : ∃ traffic : Traffic Bool Bool,
    Leads wavering echoing False (quiet listening true) traffic ∧
      traffic.stage false = .opened ⟨echoCall 0, 1, 0⟩ ∧ traffic.stage true = .idle ∧
      traffic.endpoint = calling 1 (occupied 0) ∧ traffic.world = true ∧ traffic.arrived = [] := by
  have idle : (quiet listening true : Traffic Bool Bool).stage false = .idle := rfl
  have apart : False ∨ ∀ j, j ≠ false → ¬((quiet listening true : Traffic Bool Bool).stage j).Midway :=
    .inr fun _ _ => id
  have ho : listening.pending.open? ⟨.ofNat listening.sequence.next, echoer⟩ = some (0, occupied 0) := by
    decide +kernel
  obtain ⟨asked, run, hasked, hendpoint, hworld, -, harrived⟩ :=
    exists_opened wavering echoing idle apart rfl ho
  exact ⟨asked, run.1, hasked, run.2 true (by decide), hendpoint, hworld, harrived⟩

/-- The second request sends its datagram when the numbers have gone round to that of the first one. -/
private theorem exists_sent {traffic : Traffic Bool Bool}
    (hfirst : traffic.stage false = .opened ⟨echoCall 0, 1, 0⟩) (hsecond : traffic.stage true = .idle)
    (hendpoint : traffic.endpoint = calling 0 (occupied 0)) (hworld : traffic.world = true) :
    ∃ next, Leads wavering echoing False traffic next ∧
      next.stage false = .opened ⟨echoCall 0, 1, 0⟩ ∧
      next.stage true = .sent ⟨echoCall 1, traffic.drawn + 1, traffic.arrived.length⟩ ∧
      next.endpoint = calling 1 (occupied 1) ∧ next.drawn = traffic.drawn + 1 ∧
      next.arrived = traffic.arrived := by
  have apart : False ∨ ∀ j, j ≠ true → ¬(traffic.stage j).Midway := by
    refine .inr fun j hj => ?_
    rw [Bool.eq_false_iff.2 hj, hfirst]
    exact id
  have ho : traffic.endpoint.pending.open? ⟨.ofNat traffic.endpoint.sequence.next, echoer⟩ =
      some (1, occupied 1) := by
    rw [hendpoint]
    decide +kernel
  obtain ⟨called, run, hcalled, hplace, hworld', hdrawn, harrived⟩ :=
    exists_opened wavering echoing hsecond apart (by rw [hendpoint]; rfl) ho
  have hplace' : (called.endpoint, called.world) = (calling 1 (occupied 1), true) := by
    rw [hplace, hworld', hworld, hendpoint]
    rfl
  have hcall : called.stage true = .opened ⟨echoCall 1, traffic.drawn + 1, traffic.arrived.length⟩ := by
    rw [hcalled, hendpoint]
    rfl
  have hsent : outcome wavering (transmit (echoCall 1)) (called.endpoint, called.world) =
      (.ok (), calling 1 (occupied 1), true) := by
    rw [hplace', transmit_wavering, if_pos rfl]
  have sent := run.turn apart hcall (.sends hsent)
  exact ⟨_, sent.1, (sent.2 false (by decide)).trans hfirst, stage_move_self .., rfl, hdrawn, harrived⟩

/-- The network goes down, and the first request gives up the slot that is that of the second one. -/
private theorem exists_refused {traffic : Traffic Bool Bool} {opening : Opening}
    (hfirst : traffic.stage false = .opened ⟨echoCall 0, 1, 0⟩)
    (hsecond : traffic.stage true = .sent opening)
    (hendpoint : traffic.endpoint = calling 1 (occupied 1)) :
    ∃ next, Leads wavering echoing False traffic next ∧ next.stage true = .sent opening ∧
      (∀ j, ¬(next.stage j).Midway) ∧
      next.endpoint = calling 1 ((occupied 1).forget ⟨1, echoer⟩ 0) ∧ next.drawn = traffic.drawn ∧
      next.arrived = traffic.arrived := by
  have alone : ∀ j, ¬(traffic.stage j).Midway :=
    Bool.forall_bool.2 ⟨by rw [hfirst]; exact id, by rw [hsecond]; exact id⟩
  have down : Step wavering echoing False traffic (traffic.within traffic.endpoint false) :=
    .happens (.inr alone) (.aside rfl)
  have start : Proceeds wavering echoing False false traffic (traffic.within traffic.endpoint false) :=
    ⟨.single down, fun _ _ => rfl⟩
  have hfails : outcome wavering (transmit (echoCall 0)) (traffic.endpoint, false) =
      (.error (.io Environment.unreachable), calling 1 ((occupied 1).forget ⟨1, echoer⟩ 0), false) := by
    rw [hendpoint, transmit_wavering, if_neg Bool.false_ne_true]
  have refused := start.turn (.inr fun j _ => alone j) hfirst (.strands hfails)
  have hstage := (refused.2 true (by decide)).trans hsecond
  exact ⟨_, refused.1, hstage,
    Bool.forall_bool.2 ⟨by rw [stage_move_self]; exact id, by rw [hstage]; exact id⟩, rfl, rfl, rfl⟩

/-- The datagram of an earlier request is refused while a later one waits in its slot, for less than a
round of the numbers. The echo that the later one has asked for does not complete it any more. -/
theorem correlated_refused :
    listening.pending = {} ∧
      ∃ (traffic next : Traffic Bool Bool) (opening : Opening) (message : Message),
        Leads wavering echoing False (quiet listening true) traffic ∧
        traffic.stage true = .sent opening ∧ traffic.endpoint.pending.closed = false ∧
        traffic.drawn < opening.drawn + 0x1000000 ∧ traffic.arrived = [] ∧
        Step wavering echoing False traffic next ∧ next.arrived = [(echoer, echoed)] ∧
        listening.reply? echoed = some message ∧
        message.sequence = opening.call.request.sequence ∧
        ∀ last, Leads wavering echoing False next last →
          last.Destined wavering echoing true opening (.error .cancelled) := by
  have fresh : listening.pending = {} := rfl
  obtain ⟨asked, run, hfirst, hsecond, hendpoint, hworld, harrived⟩ := exists_asked
  -- The numbers go round before the first request sends its datagram.
  have alone : ∀ j, ¬(asked.stage j).Midway :=
    Bool.forall_bool.2 ⟨by rw [hfirst]; exact id, by rw [hsecond]; exact id⟩
  obtain ⟨later, round, hstage, hround, hup, hsame⟩ : ∃ later : Traffic Bool Bool,
      Leads wavering echoing False asked later ∧ later.stage = asked.stage ∧
        later.endpoint = calling 0 (occupied 0) ∧ later.world = asked.world ∧
        later.arrived = asked.arrived := by
    obtain ⟨count, hzero⟩ : ∃ count, Sequence.after count 1 = 0 := ⟨0xffffff, by decide +kernel⟩
    refine ⟨asked.drawMany count, leads_drawMany wavering echoing (.inr alone) _, rfl, ?_, rfl, rfl⟩
    rw [drawMany, hendpoint]
    exact congrArg (calling · (occupied 0)) hzero
  rw [← hstage] at hfirst hsecond
  obtain ⟨called, sending, hopened, hsent, hcalled, hcount, hcame⟩ :=
    exists_sent hfirst hsecond hround (hup.trans hworld)
  obtain ⟨traffic, refusing, hwaits, calm, hrefused, hcount', hcame'⟩ :=
    exists_refused hopened hsent hcalled
  have run := ((run.trans round).trans sending).trans refusing
  have hnone : traffic.arrived = [] := hcame'.trans (hcame.trans (hsame.trans harrived))
  have hsignal : traffic.endpoint.pending.signal? 1 = some .cancelled := by
    rw [hrefused]
    decide
  -- Now the echo comes.
  obtain ⟨next, step, hcomes⟩ : ∃ next, Step wavering echoing False traffic next ∧
      next.arrived = traffic.arrived ++ [(echoer, echoed)] :=
    ⟨_, .happens (.inr calm) (.arrives rfl), rfl⟩
  have hread : (listening.reply? echoed).map Message.sequence = some 1 := by decide +kernel
  obtain ⟨message, reply, hnumber⟩ := Option.map_eq_some_iff.1 hread
  refine ⟨fresh, traffic, next, _, message, run, hwaits, ?_, ?_, hnone, step, ?_, reply, ?_,
    fun last later => ?_⟩
  · rw [hrefused]
    rfl
  · rw [hcount', hcount]
    exact Nat.lt_add_of_pos_right (by decide)
  · rw [hcomes, hnone]
    rfl
  · rw [hnumber]
    rfl
  · have held := Leads.held fresh run
    exact (Leads.settled ((Relation.ReflTransGen.single step).trans later) held
      (.inl ⟨hwaits, hsignal⟩)).destined

end GtpControl.Endpoint.Traffic
