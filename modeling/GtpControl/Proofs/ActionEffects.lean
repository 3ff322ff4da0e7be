import GtpControl.Proofs.ActionRuns

/-! # Effects of actions: parts of an endpoint that an action leaves as they are, however it ends -/
namespace GtpControl.Endpoint.Action
variable {σ τ α β : Type} {environment : Environment (StateM σ)} {part : Endpoint → τ}
  {state : Endpoint × σ}

/-- An action that starts here leaves a part of the endpoint as it is. -/
def Keeps (environment : Environment (StateM σ)) (part : Endpoint → τ) (x : Action (StateM σ) α)
    (state : Endpoint × σ) : Prop :=
  part (outcome environment x state).2.1 = part state.1

theorem Keeps.of_outcome {x : Action (StateM σ) α} (h : Keeps environment part x state)
    {result : Except EndpointError α} {next : Endpoint × σ}
    (hx : outcome environment x state = (result, next)) : part next.1 = part state.1 := by
  rw [Keeps, hx] at h
  exact h

theorem keeps_pure (a : α) : Keeps environment part (pure a : Action (StateM σ) α) state := rfl

theorem keeps_throw (e : EndpointError) :
    Keeps environment part (throw e : Action (StateM σ) α) state := rfl

theorem keeps_get : Keeps environment part (get : Action (StateM σ) Endpoint) state := rfl

theorem keeps_read : Keeps environment part (read : Action (StateM σ) (Environment (StateM σ))) state :=
  rfl

theorem keeps_outside (effect : Environment (StateM σ) → StateM σ α) :
    Keeps environment part (outside effect) state := rfl

theorem keeps_except (result : Except EndpointError α) :
    Keeps environment part (liftM result : Action (StateM σ) α) state := by
  rw [Keeps, outcome_except]

theorem keeps_coded (result : Coded α) :
    Keeps environment part (liftM result : Action (StateM σ) α) state := by
  rw [Keeps, outcome_coded]

theorem keeps_modify {f : Endpoint → Endpoint} (h : part (f state.1) = part state.1) :
    Keeps environment part (modify f : Action (StateM σ) PUnit) state := h

/-- What comes second starts where the first part has ended well. -/
theorem Keeps.bind {x : Action (StateM σ) α} {f : α → Action (StateM σ) β}
    (h : Keeps environment part x state)
    (hf : ∀ a next, outcome environment x state = (.ok a, next) → Keeps environment part (f a) next) :
    Keeps environment part (x >>= f) state := by
  rw [Keeps] at h ⊢
  rw [outcome_bind]
  cases hx : outcome environment x state with
  | mk result next =>
    rw [hx] at h
    cases result with
    | ok a => exact (hf a next hx).trans h
    | error e => exact h

theorem Keeps.tryCatch {x : Action (StateM σ) α} {recover : EndpointError → Action (StateM σ) α}
    (h : Keeps environment part x state)
    (hr : ∀ e next, outcome environment x state = (.error e, next) →
      Keeps environment part (recover e) next) :
    Keeps environment part (tryCatch x recover) state := by
  rw [Keeps] at h ⊢
  rw [outcome_tryCatch]
  cases hx : outcome environment x state with
  | mk result next =>
    rw [hx] at h
    cases result with
    | ok a => exact h
    | error e => exact (hr e next hx).trans h

theorem keeps_ite {c : Prop} [Decidable c] {x y : Action (StateM σ) α}
    (hx : c → Keeps environment part x state) (hy : ¬c → Keeps environment part y state) :
    Keeps environment part (if c then x else y) state := by
  split
  · exact hx ‹c›
  · exact hy ‹¬c›

/-- Work on a session that fails leaves no less than work that does not. -/
theorem keeps_editSession {id : SessionId} (edit : Edit Session α)
    (h : ∀ session, part (state.1.setSession id session) = part state.1) :
    Keeps environment part (editSession id edit) state := by
  rw [Keeps, outcome_editSession]
  exact h _

theorem keeps_moveSession {id : SessionId} (step : Session → Except SessionError Session)
    (h : ∀ session, part (state.1.setSession id session) = part state.1) :
    Keeps environment part (moveSession id step) state := by
  rw [Keeps, outcome_moveSession]
  split
  · exact h _
  · rfl

/-! ## Reports and datagrams -/

theorem keeps_log (level : LogLevel) (line : String) :
    Keeps environment part (log level line) state :=
  keeps_outside _

/-- Messages leave the endpoint that sends them as it is. -/
theorem keeps_send (peer : SocketAddress) (message : Message) :
    Keeps environment part (send peer message) state := by
  refine keeps_get.bind fun endpoint next _ => ?_
  refine keeps_ite (fun _ => keeps_throw _) fun _ => ?_
  refine (keeps_coded _).bind fun octets next _ => ?_
  refine (keeps_outside _).bind fun result next _ => ?_
  cases result with
  | ok u => exact keeps_log ..
  | error reason => exact keeps_throw _

/-- An event leaves all but the events as it is. -/
theorem keeps_emit (events : ∀ endpoint events, part { endpoint with events } = part endpoint)
    (event : Event) : Keeps environment part (emit event) state := by
  refine keeps_get.bind fun endpoint next _ => ?_
  refine (keeps_log ..).bind fun _ next _ => keeps_modify ?_
  rw [queueEvent]
  split
  · exact events ..
  · rfl

/-- A part that has nothing to do with calls and events. -/
structure Lasting (part : Endpoint → τ) : Prop where
  events : ∀ endpoint events, part { endpoint with events } = part endpoint
  pending : ∀ endpoint pending, part { endpoint with pending } = part endpoint
  sequence : ∀ endpoint sequence, part { endpoint with sequence } = part endpoint

end GtpControl.Endpoint.Action
