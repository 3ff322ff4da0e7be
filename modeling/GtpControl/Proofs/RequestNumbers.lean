import GtpControl.Proofs.RequestTraffic

/-! # The numbers of requests: whose they are, and when they come again

The numbers that an endpoint draws are counted. Two requests never have the same draw, and draws that
give the same number are at least as far apart as there are numbers. -/
namespace GtpControl

namespace Sequence
variable {sequence : Sequence} {a b : Nat}

/-- The number that is given out after so many more draws. -/
def after (count : Nat) (sequence : Sequence) : Sequence :=
  ⟨(sequence.val + count) % 0x1000000, Nat.mod_lt _ (by decide)⟩

@[simp] theorem after_zero : sequence.after 0 = sequence :=
  Fin.ext (Nat.mod_eq_of_lt sequence.isLt)

theorem after_after (count count' : Nat) :
    (sequence.after count).after count' = sequence.after (count + count') :=
  Fin.ext ((Nat.mod_add_mod ..).trans (by rw [Nat.add_assoc]; rfl))

@[simp] theorem next_after : (sequence.after a).next = sequence.after (a + 1) :=
  Fin.ext (Nat.mod_add_mod ..)

/-- The numbers go round. -/
theorem after_add_mul (count rounds : Nat) :
    sequence.after (count + 0x1000000 * rounds) = sequence.after count := by
  refine Fin.ext ?_
  show (sequence.val + (count + 0x1000000 * rounds)) % 0x1000000 = (sequence.val + count) % 0x1000000
  rw [← Nat.add_assoc, Nat.add_mul_mod_self_left]

/-- Draws that give the same number are far apart. -/
theorem far_of_after_eq (hlt : a < b)
    (h : UInt32.ofNat (sequence.after a) = UInt32.ofNat (sequence.after b)) :
    a + 0x1000000 ≤ b := by
  have hval : ∀ count, (UInt32.ofNat (sequence.after count)).toNat =
      (sequence.val + count) % 0x1000000 := fun count =>
    UInt32.toNat_ofNat_of_lt' ((sequence.after count).isLt.trans (by decide))
  have hmod := congrArg UInt32.toNat h
  rw [hval, hval] at hmod
  omega

end Sequence

namespace Endpoint

namespace Stage

/-- The call that the request has, or has had. -/
def call? : Stage → Option Opening
  | .opened opening | .sent opening | .lapsed opening => some opening
  | .ended opening _ => opening
  | .idle | .admitted | .numbered .. => none

/-- The number of the request, and which draw gave it. -/
def draw? : Stage → Option (UInt32 × Nat)
  | .numbered sequence drawn => some (sequence, drawn)
  | .opened opening | .sent opening | .lapsed opening =>
    some (opening.call.key.sequence, opening.drawn)
  | .ended opening _ => opening.map fun opening => (opening.call.key.sequence, opening.drawn)
  | .idle | .admitted => none

theorem call?_of_opening? {stage : Stage} {opening : Opening}
    (h : stage.opening? = some opening) : stage.call? = some opening := by
  cases stage <;> first | exact h | cases h

theorem draw?_of_call? {stage : Stage} {opening : Opening} (h : stage.call? = some opening) :
    stage.draw? = some (opening.call.key.sequence, opening.drawn) := by
  cases stage with
  | idle | admitted | numbered => cases h
  | opened | sent | lapsed =>
    cases h
    rfl
  | ended opening result =>
    obtain rfl : opening = some _ := h
    rfl

end Stage

namespace Traffic
open Pending (Held)
variable {ι σ : Type} {environment : Environment (StateM σ)} {demand : ι → Demand}
  {sliced : Prop} {traffic next : Traffic ι σ} {i j : ι} {stage stage' : Stage}
  {opening : Opening} {first : Sequence}

/-- The counter is where the draws have taken it, and the requests have their numbers from draws of
their own. -/
structure Counted (first : Sequence) (traffic : Traffic ι σ) : Prop where
  counter : traffic.endpoint.sequence = first.after traffic.drawn
  number : ∀ i sequence drawn, (traffic.stage i).draw? = some (sequence, drawn) →
    sequence = .ofNat (first.after drawn) ∧ drawn ≤ traffic.drawn
  single : ∀ i j sequence sequence' drawn, (traffic.stage i).draw? = some (sequence, drawn) →
    (traffic.stage j).draw? = some (sequence', drawn) → i = j

/-- A number goes round before it comes again. -/
theorem Counted.far (counted : Counted first traffic) {sequence : UInt32} {drawn drawn' : Nat}
    (hi : (traffic.stage i).draw? = some (sequence, drawn))
    (hj : (traffic.stage j).draw? = some (sequence, drawn')) (ne : i ≠ j) :
    drawn + 0x1000000 ≤ drawn' ∨ drawn' + 0x1000000 ≤ drawn := by
  have hsame := (counted.number i _ _ hi).1.symm.trans (counted.number j _ _ hj).1
  rcases Nat.lt_trichotomy drawn drawn' with hlt | rfl | hlt
  · exact .inl (Sequence.far_of_after_eq hlt hsame)
  · exact absurd (counted.single i j _ _ _ hi hj) ne
  · exact .inr (Sequence.far_of_after_eq hlt hsame.symm)

/-- A step of a request draws a number, or none is drawn and it keeps its own. -/
private theorem Turn.draw_cases {demand : Demand}
    (turn : Turn environment demand traffic stage next stage') :
    (next = traffic.draw ∧ stage'.draw? =
        some (.ofNat traffic.draw.endpoint.sequence, traffic.draw.drawn)) ∨
      next.endpoint.sequence = traffic.endpoint.sequence ∧ next.drawn = traffic.drawn ∧
        ∀ x, stage'.draw? = some x → stage.draw? = some x := by
  cases turn with
  | numbers => exact .inl ⟨rfl, rfl⟩
  | admits | refuses | bounces => exact .inr ⟨rfl, rfl, nofun⟩
  | opens | lapses | leaves => exact .inr ⟨rfl, rfl, fun _ => id⟩
  | sends h =>
    rw [endpoint_of_transmit_ok h]
    exact .inr ⟨rfl, rfl, fun _ => id⟩
  | strands h =>
    rw [(endpoint_of_transmit_error h).2]
    exact .inr ⟨rfl, rfl, fun _ => id⟩
  | ends signalled h =>
    obtain ⟨-, -, -, rfl⟩ := finish_of_signalled signalled h
    exact .inr ⟨rfl, rfl, fun _ => id⟩

private theorem Counted.draw (counted : Counted first traffic) :
    Counted first traffic.draw where
  counter := by
    show traffic.endpoint.sequence.next = first.after (traffic.drawn + 1)
    rw [counted.counter, Sequence.next_after]
  number i _ _ hi := (counted.number i _ _ hi).imp_right Nat.le_succ_of_le
  single := counted.single

private theorem Counted.happens (counted : Counted first traffic)
    (happens : Happens environment traffic next) : Counted first next := by
  cases happens with
  | draws => exact counted.draw
  | closes | cancels => exact ⟨counted.counter, counted.number, counted.single⟩
  | arrives h =>
    exact ⟨(endpoint_of_arrival h).2.1.trans counted.counter, counted.number, counted.single⟩
  | aside h =>
    exact ⟨(callState_eq_iff.1 h).2.1.trans counted.counter, counted.number, counted.single⟩

variable [DecidableEq ι]

private theorem Counted.turns (counted : Counted first traffic)
    (turn : Turn environment (demand i) traffic (traffic.stage i) next stage) :
    Counted first (next.move i stage) := by
  obtain ⟨rfl, hstage⟩ | ⟨hcounter, hdrawn, hstage⟩ := turn.draw_cases
  · have hfresh : ∀ j sequence drawn, ((traffic.draw.move i stage).stage j).draw? =
        some (sequence, drawn) → (j = i ∧ sequence = .ofNat (first.after traffic.draw.drawn) ∧
          drawn = traffic.draw.drawn) ∨ j ≠ i ∧
          (traffic.stage j).draw? = some (sequence, drawn) := fun j sequence drawn hj => by
      rw [stage_move] at hj
      split at hj
      · next he =>
        cases hstage.symm.trans hj
        exact .inl ⟨he, by rw [counted.draw.counter], rfl⟩
      · next he => exact .inr ⟨he, hj⟩
    refine ⟨counted.draw.counter, fun j sequence drawn hj => ?_,
      fun j k sequence sequence' drawn hj hk => ?_⟩
    · obtain ⟨-, rfl, rfl⟩ | ⟨-, hj⟩ := hfresh j sequence drawn hj
      · exact ⟨rfl, le_rfl⟩
      · exact counted.draw.number j _ _ hj
    · obtain ⟨hji, -, hd⟩ | ⟨-, hj'⟩ := hfresh j sequence drawn hj <;>
        obtain ⟨hki, -, hd'⟩ | ⟨-, hk'⟩ := hfresh k sequence' drawn hk
      · rw [hji, hki]
      · have hle := (counted.number k _ _ hk').2
        exact absurd (hd ▸ hle) (Nat.not_succ_le_self _)
      · have hle := (counted.number j _ _ hj').2
        exact absurd (hd' ▸ hle) (Nat.not_succ_le_self _)
      · exact counted.single j k _ _ _ hj' hk'
  · have hold : ∀ j x, ((next.move i stage).stage j).draw? = some x →
        (traffic.stage j).draw? = some x := fun j x hj => by
      rw [stage_move, turn.stage_eq] at hj
      split at hj
      · next he =>
        rw [he]
        exact hstage x hj
      · exact hj
    refine ⟨?_, fun j _ _ hj => ?_, fun j k _ _ _ hj hk =>
      counted.single j k _ _ _ (hold j _ hj) (hold k _ hk)⟩
    · rw [endpoint_move, drawn_move, hcounter, hdrawn]
      exact counted.counter
    · rw [drawn_move, hdrawn]
      exact counted.number j _ _ (hold j _ hj)

theorem Step.counted (step : Step environment demand sliced traffic next)
    (counted : Counted first traffic) : Counted first next := by
  cases step with
  | turns _ turn => exact counted.turns turn
  | happens _ h => exact counted.happens h

/-- In every run the numbers are counted. -/
theorem Leads.counted {endpoint : Endpoint} {world : σ}
    (run : Leads environment demand sliced (quiet endpoint world) traffic) :
    Counted endpoint.sequence traffic := by
  induction run with
  | refl => exact ⟨Sequence.after_zero.symm, fun _ _ _ => nofun, fun _ _ _ _ _ => nofun⟩
  | tail _ step ih => exact step.counted ih

/-! ## Draws for other purposes -/

/-- So many more numbers are drawn. -/
def drawMany (count : Nat) (traffic : Traffic ι σ) : Traffic ι σ :=
  { traffic with
    endpoint := { traffic.endpoint with sequence := traffic.endpoint.sequence.after count }
    drawn := traffic.drawn + count }

theorem leads_drawMany (environment : Environment (StateM σ)) (demand : ι → Demand)
    (alone : sliced ∨ ∀ j, ¬(traffic.stage j).Midway) (count : Nat) :
    Leads environment demand sliced traffic (traffic.drawMany count) := by
  induction count with
  | zero =>
    rw [drawMany, Sequence.after_zero]
    exact .refl
  | succ count ih =>
    have hdraw : (traffic.drawMany count).draw = traffic.drawMany (count + 1) := by
      simp only [draw, drawMany, Sequence.next_after, Nat.add_assoc]
    exact hdraw ▸ ih.tail (.happens alone .draws)

/-! ## What was sent -/

/-- A call is for the message and the peer of its request. -/
structure Stamped (demand : Demand) (arrivals : Nat) (opening : Opening) : Prop where
  peer : opening.call.key.peer = demand.peer
  request : opening.call.request = demand.message.setSequence opening.call.key.sequence
  arrived : opening.arrived ≤ arrivals

omit [DecidableEq ι] in
/-- A request keeps the call that it has, or opens one. -/
private theorem Turn.stamped {demand : Demand}
    (turn : Turn environment demand traffic stage next stage')
    (h : stage'.call? = some opening) :
    stage.call? = some opening ∨ Stamped demand traffic.arrived.length opening := by
  cases turn with
  | admits | refuses | numbers | bounces => cases h
  | opens =>
    cases h
    exact .inr ⟨rfl, rfl, le_rfl⟩
  | sends | strands | ends | lapses | leaves => exact .inl h

private theorem Step.stamped (step : Step environment demand sliced traffic next)
    (held : Held traffic.calls traffic.endpoint.pending)
    (h : ∀ i opening, (traffic.stage i).call? = some opening →
      Stamped (demand i) traffic.arrived.length opening)
    (hi : (next.stage i).call? = some opening) :
    Stamped (demand i) next.arrived.length opening := by
  have longer : Stamped (demand i) traffic.arrived.length opening →
      Stamped (demand i) next.arrived.length opening := fun stamped =>
    ⟨stamped.peer, stamped.request, stamped.arrived.trans (step.onward held).arrived.length_le⟩
  refine longer ?_
  obtain hstay | ⟨after, stage, hstage, turn⟩ := step.turn_cases (i := i) rfl
  · exact h i opening (hstay ▸ hi)
  · exact (turn.stamped (hstage ▸ hi)).elim (h i opening) id

/-- In every run the calls are for what the requests ask for. -/
theorem Leads.stamped {endpoint : Endpoint} {world : σ} (fresh : endpoint.pending = {})
    (run : Leads environment demand sliced (quiet endpoint world) traffic)
    (hi : (traffic.stage i).call? = some opening) :
    Stamped (demand i) traffic.arrived.length opening := by
  induction run generalizing i opening with
  | refl => cases hi
  | tail run step ih => exact step.stamped (Leads.held fresh run) (fun _ _ => ih) hi

end Traffic
end Endpoint
end GtpControl
