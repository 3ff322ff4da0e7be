import GtpControl.Proofs.GatewayService
import GtpControl.Proofs.RequestNumbers

/-! # Reuse of numbers: what becomes of a request while the numbers go round

The counter gives out each number in its turn, whether or not a request still waits under it. A
request is safe from the others as long as fewer numbers have been drawn since its own than there
are. After that, the next request with its number and its peer takes its slot. -/
namespace GtpControl.Endpoint

/-- Which draw gave the number of a request that has not ended. -/
def Stage.live? : Stage → Option Nat
  | .numbered _ drawn => some drawn
  | .opened opening | .sent opening | .lapsed opening => some opening.drawn
  | .idle | .admitted | .ended .. => none

theorem Stage.live?_of_opening? {stage : Stage} {opening : Opening}
    (h : stage.opening? = some opening) : stage.live? = some opening.drawn := by
  cases stage <;> cases h <;> rfl

namespace Traffic
open Endpoint.Action
open Pending (Held)
variable {ι σ : Type} [DecidableEq ι] {environment : Environment (StateM σ)} {demand : ι → Demand}
  {sliced : Prop} {traffic next last : Traffic ι σ} {i j : ι} {opening : Opening}
  {endpoint : Endpoint} {world : σ} {first : Sequence}

/-! ## Requests that are faster than the counter -/

/-- The numbers have not gone round since that of any request that has not ended. -/
def Brisk (traffic : Traffic ι σ) : Prop :=
  ∀ i drawn, (traffic.stage i).live? = some drawn → traffic.drawn < drawn + 0x1000000

/-- Steps that find the requests brisk. -/
abbrev LeadsBriskly (environment : Environment (StateM σ)) (demand : ι → Demand) (sliced : Prop) :
    Traffic ι σ → Traffic ι σ → Prop :=
  Relation.ReflTransGen fun traffic next =>
    traffic.Brisk ∧ Step environment demand sliced traffic next

theorem LeadsBriskly.leads (run : LeadsBriskly environment demand sliced traffic last) :
    Leads environment demand sliced traffic last :=
  Relation.ReflTransGen.mono (fun _ _ h => h.2) _ _ run

omit [DecidableEq ι] in
/-- Two requests that have not ended have different numbers. -/
private theorem Brisk.eq (brisk : traffic.Brisk) (counted : Counted first traffic)
    {sequence : UInt32} {drawn drawn' : Nat}
    (hi : (traffic.stage i).draw? = some (sequence, drawn))
    (hi' : (traffic.stage i).live? = some drawn)
    (hj : (traffic.stage j).draw? = some (sequence, drawn'))
    (hj' : (traffic.stage j).live? = some drawn') : i = j := by
  by_contra ne
  have hlt := brisk i drawn hi'
  have hlt' := brisk j drawn' hj'
  have hle := (counted.number i _ _ hi).2
  have hle' := (counted.number j _ _ hj).2
  rcases counted.far hi hj ne with hfar | hfar <;> omega

omit [DecidableEq ι] in
/-- Calls of brisk requests are cancelled when the endpoint closes only. -/
private theorem Brisk.closed_of_cause (brisk : traffic.Brisk) (counted : Counted first traffic)
    (hi : (traffic.stage i).opening? = some opening)
    (cause : Cause traffic next i opening .cancelled) :
    next.endpoint.pending.closed = true := by
  have hdraw := Stage.draw?_of_call? (Stage.call?_of_opening? hi)
  have hlive := Stage.live?_of_opening? hi
  cases cause with
  | shut h => exact h
  | @overtaken j drawn h =>
    obtain rfl := brisk.eq counted (j := j) hdraw hlive (by rw [h]; rfl) (by rw [h]; rfl)
    rw [h] at hi
    cases hi
  | @ousted j other ne key signalled h =>
    have hj : (traffic.stage j).opening? = some other := by
      rcases h with h | ⟨h, -⟩ <;> rw [h] <;> rfl
    have hjdraw := Stage.draw?_of_call? (Stage.call?_of_opening? hj)
    rw [key] at hjdraw
    exact absurd (brisk.eq counted hdraw hlive hjdraw (Stage.live?_of_opening? hj)).symm ne

/-- No call is cancelled, and no request ends so. -/
structure Spared (traffic : Traffic ι σ) : Prop where
  calls : ∀ i opening, (traffic.stage i).opening? = some opening →
    traffic.endpoint.pending.signal? opening.call.ticket ≠ some .cancelled
  ended : ∀ i opening? result, traffic.stage i = .ended opening? result →
    result ≠ .error .cancelled

private theorem Step.spares (step : Step environment demand sliced traffic next)
    (held : Held traffic.calls traffic.endpoint.pending) (counted : Counted first traffic)
    (order : traffic.endpoint.pending.closed = true → traffic.endpoint.closed = true)
    (brisk : traffic.Brisk) (hopen : next.endpoint.closed = false) (spared : Spared traffic) :
    Spared next := by
  have onward := step.onward held
  have hbefore := onward.closed_eq_false hopen
  refine ⟨fun i opening hi' hs => ?_, fun i opening? result hi' => ?_⟩
  · by_cases hi : (traffic.stage i).opening? = some opening
    · obtain he | ⟨-, resolution, hr, cause⟩ := step.signal held hi hi'
      · exact spared.calls i opening hi (he.symm.trans hs)
      · cases hr.symm.trans hs
        rw [onward.order order (brisk.closed_of_cause counted hi cause)] at hopen
        cases hopen
    · cases (step.signal_of_opens held hi hi').symm.trans hs
  · obtain hstay | ⟨after, stage, hstage, turn⟩ := step.turn_cases (i := i) rfl
    · exact spared.ended i opening? result (hstay.symm.trans hi')
    · obtain rfl := hstage.symm.trans hi'
      generalize hbefore' : traffic.stage i = before at turn
      cases turn with
      | refuses h => cases hbefore.symm.trans h
      | bounces h => cases hbefore.symm.trans (order (Pending.open?_eq_none.1 h))
      | strands h =>
        exact fun he => (endpoint_of_transmit_error h).1.ne_cancelled (Except.error.inj he)
      | leaves => exact nofun
      | ends signalled h =>
        obtain ⟨resolution, hr, rfl, -⟩ := finish_of_signalled signalled h
        cases resolution with
        | reply message => exact nofun
        | cancelled => exact absurd hr (spared.calls i _ (by rw [hbefore']; rfl))

omit [DecidableEq ι] in
private theorem spared_quiet : Spared (quiet endpoint world : Traffic ι σ) :=
  ⟨fun _ _ => nofun, fun _ _ _ => nofun⟩

/-- How far a request that had been sent has come, if its call was not cancelled. -/
private def Served (i : ι) (opening : Opening) (traffic : Traffic ι σ) : Prop :=
  traffic.stage i = .sent opening ∨ traffic.stage i = .lapsed opening ∨
    ∃ result, traffic.stage i = .ended (some opening) result ∧
      ((∃ message, result = .ok message) ∨ result = .error opening.call.timeout)

private theorem Step.served (step : Step environment demand sliced traffic next)
    (spared : Spared traffic) (served : traffic.Served i opening) : next.Served i opening := by
  rcases served with hi | hi | ⟨result, hi, h⟩
  · obtain hstay | ⟨after, stage, hafter, turn⟩ := step.turn_cases hi
    · exact .inl hstay
    · cases turn with
      | lapses => exact .inr (.inl hafter)
      | @ends _ result _ _ signalled hf =>
        obtain ⟨resolution, hr, rfl, -⟩ := finish_of_signalled signalled hf
        cases resolution with
        | reply message => exact .inr (.inr ⟨_, hafter, .inl ⟨message, rfl⟩⟩)
        | cancelled => exact absurd hr (spared.calls i _ (by rw [hi]; rfl))
  · obtain hstay | ⟨after, stage, hafter, turn⟩ := step.turn_cases hi
    · exact .inr (.inl hstay)
    · cases turn
      exact .inr (.inr ⟨_, hafter, .inr rfl⟩)
  · exact .inr (.inr ⟨result, Leads.ended (.single step) hi, h⟩)

/-- While the endpoint is not closed and the requests are brisk, no request ends cancelled, and one
that has been sent ends with a reply, or when its time has run out. -/
theorem LeadsBriskly.spared (fresh : endpoint.pending = {}) (hopen : traffic.endpoint.closed = false)
    (run : LeadsBriskly environment demand sliced (quiet endpoint world) traffic) :
    (∀ i opening? result, traffic.stage i = .ended opening? result → result ≠ .error .cancelled) ∧
      ∀ i opening last, traffic.stage i = .sent opening → last.endpoint.closed = false →
        LeadsBriskly environment demand sliced traffic last →
        last.stage i = .sent opening ∨ last.stage i = .lapsed opening ∨
          ∃ result, last.stage i = .ended (some opening) result ∧
            ((∃ message, result = .ok message) ∨ result = .error opening.call.timeout) := by
  have hspared : ∀ {state}, LeadsBriskly environment demand sliced (quiet endpoint world) state →
      state.endpoint.closed = false → Spared state := by
    intro state run hclosed
    induction run with
    | refl => exact spared_quiet
    | @tail before state run step ih =>
      have run := LeadsBriskly.leads run
      have held := Leads.held fresh run
      have hbefore := (step.2.onward held).closed_eq_false hclosed
      exact step.2.spares held (Leads.counted run) (Leads.closed_of_calls fresh run) step.1 hclosed
        (ih hbefore)
  refine ⟨(hspared run hopen).ended, fun i opening last hi hlast later => ?_⟩
  suffices h : last.Served i opening from h
  induction later with
  | refl => exact .inl hi
  | @tail before last later step ih =>
    have held := Leads.held fresh (LeadsBriskly.leads (run.trans later))
    have hbefore := (step.2.onward held).closed_eq_false hlast
    exact step.2.served (hspared (run.trans later) hbefore) (ih hbefore)

/-- Until as many numbers have been drawn as there are, all requests are brisk. -/
theorem Leads.briskly (fresh : endpoint.pending = {})
    (run : Leads environment demand sliced (quiet endpoint world) last)
    (few : last.drawn < 0x1000000) :
    LeadsBriskly environment demand sliced (quiet endpoint world) last := by
  induction run with
  | refl => exact .refl
  | @tail before last run step ih =>
    have hle := (step.onward (Leads.held fresh run)).drawn
    exact (ih (hle.trans_lt few)).tail ⟨fun i drawn _ => by omega, step⟩

/-- A request that waits for its echo is not cancelled. -/
theorem spared_echoing :
    listening.pending = {} ∧ ∃ (traffic : Traffic Bool (List (SocketAddress × Octets)))
      (opening : Opening), traffic.endpoint.closed = false ∧
      LeadsBriskly .recording echoing True (quiet listening []) traffic ∧
      traffic.stage false = .sent opening ∧
      ∀ last, last.endpoint.closed = false → LeadsBriskly .recording echoing True traffic last →
        last.stage false = .sent opening ∨ last.stage false = .lapsed opening ∨
          ∃ result, last.stage false = .ended (some opening) result ∧
            ((∃ message, result = .ok message) ∨ result = .error opening.call.timeout) := by
  have fresh : listening.pending = {} := rfl
  obtain ⟨traffic, opening, sent, waits, hopen, -, -, hdrawn, -⟩ :=
    exists_waits echoing (quiet listening []) false (held_quiet fresh) rfl (.inl trivial) rfl rfl rfl
      (by decide +kernel)
  have brisk := Leads.briskly fresh sent.1 (by rw [hdrawn]; decide)
  exact ⟨fresh, traffic, opening, hopen, brisk, waits.1, fun last =>
    (LeadsBriskly.spared fresh hopen brisk).2 false opening last waits.1⟩

/-! ## Requests that are slower than the counter -/

omit [DecidableEq ι] in
/-- After enough draws the next number is that of a request once more. -/
private theorem Counted.exists_round (counted : Counted endpoint.sequence traffic)
    (hi : (traffic.stage i).call? = some opening) :
    ∃ count, UInt32.ofNat (traffic.drawMany count).endpoint.sequence.next =
      opening.call.key.sequence := by
  obtain ⟨hnumber, hle⟩ := counted.number i _ _ (Stage.draw?_of_call? hi)
  let count := opening.drawn + 0x1000000 * (traffic.drawn + 1) - 1 - traffic.drawn
  have hcount : traffic.drawn + count + 1 = opening.drawn + 0x1000000 * (traffic.drawn + 1) := by
    omega
  refine ⟨count, ?_⟩
  have hnext : (traffic.drawMany count).endpoint.sequence.next =
      endpoint.sequence.after (traffic.drawn + count + 1) := by
    have hafter : traffic.endpoint.sequence.after count =
        endpoint.sequence.after (traffic.drawn + count) := by
      rw [counted.counter]
      exact Sequence.after_after ..
    rw [drawMany, hafter, Sequence.next_after]
  rw [hnext, hcount, Sequence.after_add_mul, hnumber]

/-- A request that waits is lost when the numbers have gone round to a request to its peer. -/
theorem Leads.overtaken (fresh : endpoint.pending = {})
    (run : Leads environment demand False (quiet endpoint world) traffic)
    (waits : traffic.Waits i opening) (hj : traffic.stage j = .idle)
    (peer : (demand j).peer = (demand i).peer) (hopen : traffic.endpoint.closed = false)
    (alone : ∀ k, ¬(traffic.stage k).Midway) :
    ∃ last, Leads environment demand False traffic last ∧ last.endpoint.closed = false ∧
      last.stage i = .ended (some opening) (.error .cancelled) := by
  obtain ⟨hi, hn⟩ := waits
  have held := Leads.held fresh run
  have hcall : (traffic.stage i).call? = some opening := by rw [hi]; rfl
  obtain ⟨count, hnumber⟩ := (Leads.counted run).exists_round hcall
  have hslot := held.slot i _ (calls_of_opening (by rw [hi]; rfl)) hn
  have hkey : (⟨.ofNat (traffic.drawMany count).endpoint.sequence.next, (demand j).peer⟩ : CallKey) =
      opening.call.key := by
    rw [hnumber, peer, ← (Leads.stamped fresh run hcall).peer]
  have hcalls : traffic.endpoint.pending.closed ≠ true := fun hc => by
    cases hopen.symm.trans (Leads.closed_of_calls fresh run hc)
  obtain ⟨⟨ticket, pending⟩, ho⟩ : ∃ found, traffic.endpoint.pending.open?
      ⟨.ofNat (traffic.drawMany count).endpoint.sequence.next, (demand j).peer⟩ = some found :=
    Option.ne_none_iff_exists'.1 (mt Pending.open?_eq_none.1 hcalls)
  have hs : pending.signal? opening.call.ticket = some .cancelled := by
    rw [Pending.signal?_open ho, hn, hkey, if_pos hslot, Option.none_or]
  have hij : i ≠ j := by
    rintro rfl
    cases hi.symm.trans hj
  have drawn : Leads environment demand False traffic (traffic.drawMany count) :=
    leads_drawMany environment demand (.inr alone) count
  have hidle : (traffic.drawMany count).stage j = .idle := hj
  obtain ⟨next, opened, hnext, hendpoint, -⟩ :=
    exists_opened environment demand hidle (.inr fun k _ => alone k) hopen ho
  -- The request now finds that its call has been cancelled.
  have hcancelled : next.endpoint.pending.signal? opening.call.ticket = some .cancelled := by
    rw [hendpoint, hs]
  have hclosed : next.endpoint.closed = false := by
    rw [hendpoint]
    exact hopen
  have hstage : next.stage i = .sent opening := (opened.2 i hij).trans hi
  obtain ⟨last, cancelled, hlast⟩ := exists_turn_of_signal environment (demand i) hcancelled
  refine ⟨_, (drawn.trans opened.1).tail (.turns (.inr fun k hk => ?_) (hstage.symm ▸ cancelled)),
    hlast.trans hclosed, stage_move_self ..⟩
  by_cases hkj : k = j
  · rw [hkj, hnext]
    exact id
  · rw [opened.2 k hkj]
    exact alone k

/-- A request for an echo is cancelled, although the endpoint is never closed. -/
theorem cancelled_echoing :
    ∃ (last : Traffic Bool (List (SocketAddress × Octets))) (opening : Opening),
      Leads .recording echoing False (quiet listening []) last ∧ last.endpoint.closed = false ∧
        last.stage false = .ended (some opening) (.error .cancelled) := by
  have fresh : listening.pending = {} := rfl
  obtain ⟨traffic, opening, sent, waits, hopen, -⟩ :=
    exists_waits echoing (quiet listening []) false (held_quiet fresh) rfl (.inr fun _ _ => id) rfl
      rfl rfl (by decide +kernel)
  have hidle : traffic.stage true = .idle := sent.2 true nofun
  have alone : ∀ k, ¬(traffic.stage k).Midway := by
    rintro (_ | _)
    · rw [waits.1]
      exact id
    · rw [hidle]
      exact id
  obtain ⟨last, later, hlast, hcancelled⟩ := Leads.overtaken fresh sent.1 waits hidle rfl hopen alone
  exact ⟨last, opening, sent.1.trans later, hlast, hcancelled⟩

end Traffic
end GtpControl.Endpoint
