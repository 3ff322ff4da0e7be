import GtpControl.Session.Negotiation
import GtpControl.Proofs.Results

/-! # Runs of edits, step by step, and what they leave as it is -/
namespace GtpControl.Edit
variable {σ τ α β : Type} {state : σ} {part : σ → τ}

@[simp] theorem run_pure (a : α) : (pure a : Edit σ α).run state = (.ok a, state) := rfl

@[simp] theorem run_throw (e : CodecError) : (throw e : Edit σ α).run state = (.error e, state) := rfl

@[simp] theorem run_get : (get : Edit σ σ).run state = (.ok state, state) := rfl

@[simp] theorem run_modify (f : σ → σ) :
    (modify f : Edit σ PUnit).run state = (.ok ⟨⟩, f state) := rfl

theorem run_bind (edit : Edit σ α) (f : α → Edit σ β) :
    (edit >>= f).run state =
      match edit.run state with
      | (.ok a, state) => (f a).run state
      | (.error e, state) => (.error e, state) := by
  rw [ExceptT.run_bind]
  change StateT.run (edit.run >>= _) state = _
  rw [StateT.run_bind]
  cases h : edit.run state with
  | mk result state =>
    have h' : StateT.run edit.run _ = _ := h
    rw [h']
    cases result <;> rfl

@[simp] theorem run_lift (result : Coded α) :
    (liftM result : Edit σ α).run state = (result, state) := rfl

@[simp] theorem run_within (part : τ) (put : τ → σ → σ) (edit : Edit τ α) :
    (edit.within part put : Edit σ α).run state =
      ((edit.run part).1, put (edit.run part).2 state) := rfl

/-- An edit that ends well has ended its parts well. -/
theorem run_bind_eq_ok {edit : Edit σ α} {f : α → Edit σ β} {b : β} {last : σ} :
    (edit >>= f).run state = (.ok b, last) ↔
      ∃ a next, edit.run state = (.ok a, next) ∧ (f a).run next = (.ok b, last) := by
  rw [run_bind]
  constructor
  · intro h
    split at h
    · next a next he => exact ⟨a, next, he, h⟩
    · cases h
  · rintro ⟨a, next, he, h⟩
    rw [he]
    exact h

/-- What is collected along a list satisfies what each entry's result does. -/
theorem forall_of_mapM {f : α → Edit σ β} {p : β → Prop}
    (h : ∀ x state b next, (f x).run state = (.ok b, next) → p b) {xs : List α} {next : σ}
    {bs : List β} (hx : (xs.mapM f).run state = (.ok bs, next)) : ∀ b ∈ bs, p b := by
  induction xs generalizing state bs with
  | nil =>
    cases hx
    simp
  | cons x xs ih =>
    simp only [List.mapM_cons, run_bind_eq_ok] at hx
    obtain ⟨b, middle, hb, rest, _, hrest, hbs⟩ := hx
    cases hbs
    exact List.forall_mem_cons.2 ⟨h x state b middle hb, ih hrest⟩

/-! ## Parts of a state that an edit leaves as they are -/

/-- An edit that leaves a part of the state as it is. -/
def Preserves (part : σ → τ) (edit : Edit σ α) : Prop :=
  ∀ state, part (edit.run state).2 = part state

theorem preserves_lift (result : Coded α) : Preserves part (liftM result : Edit σ α) :=
  fun _ => rfl

theorem preserves_pure (a : α) : Preserves part (pure a : Edit σ α) := fun _ => rfl

theorem preserves_get : Preserves part (get : Edit σ σ) := fun _ => rfl

theorem preserves_modify {f : σ → σ} (h : ∀ state, part (f state) = part state) :
    Preserves part (modify f : Edit σ PUnit) :=
  h

theorem Preserves.bind {edit : Edit σ α} {f : α → Edit σ β} (h : Preserves part edit)
    (hf : ∀ a, Preserves part (f a)) : Preserves part (edit >>= f) := by
  intro state
  have hs := h state
  rw [run_bind]
  cases he : edit.run state with
  | mk result next =>
    rw [he] at hs
    cases result with
    | ok a => exact (hf a next).trans hs
    | error e => exact hs

theorem preserves_forM {γ : Type} {f : γ → Edit σ PUnit} (h : ∀ x, Preserves part (f x))
    (xs : List γ) : Preserves part (xs.forM f) := by
  induction xs with
  | nil => exact fun _ => rfl
  | cons x xs ih => exact (h x).bind fun _ => ih

theorem preserves_mapM {γ : Type} {f : γ → Edit σ α} (h : ∀ x, Preserves part (f x)) (xs : List γ) :
    Preserves part (xs.mapM f) := by
  induction xs with
  | nil => exact preserves_pure []
  | cons x xs ih =>
    rw [List.mapM_cons]
    exact (h x).bind fun _ => ih.bind fun _ => preserves_pure _

/-- Work on another part. -/
theorem preserves_within {ρ : Type} {other : ρ} {put : ρ → σ → σ}
    (h : ∀ other state, part (put other state) = part state) (edit : Edit ρ α) :
    Preserves part (edit.within other put) :=
  fun state => h _ state

/-- What a child says is taken over if there is such a child. -/
theorem preserves_optional {found : Coded Element} {read : Element → Coded α} {put : α → σ → σ}
    {rest : Edit σ β} (hp : ∀ a state, part (put a state) = part state)
    (hr : Preserves part rest) :
    Preserves part (match found with
      | .ok child => do
        let a ← read child
        modify (put a)
        rest
      | _ => rest) := by
  cases found with
  | ok child =>
    exact (preserves_lift _).bind fun a => (preserves_modify (hp a)).bind fun _ => hr
  | error e => exact hr

end GtpControl.Edit
