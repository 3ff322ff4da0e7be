import GtpControl.Endpoint.Action
import GtpControl.Proofs.Results

/-! # Runs of actions, step by step -/
namespace GtpControl.Endpoint.Action
variable {σ α β : Type} {environment : Environment (StateM σ)} {state : Endpoint × σ}

/-- What an action gives and leaves, in surroundings that have a state of their own. -/
def outcome (environment : Environment (StateM σ)) (action : Action (StateM σ) α)
    (state : Endpoint × σ) : Except EndpointError α × Endpoint × σ :=
  let ran := ((action.within environment).run state.1).run state.2
  (ran.1.1, ran.1.2, ran.2)

@[simp] theorem outcome_pure (a : α) :
    outcome environment (pure a : Action (StateM σ) α) state = (.ok a, state) := rfl

theorem outcome_bind (x : Action (StateM σ) α) (f : α → Action (StateM σ) β) :
    outcome environment (x >>= f) state =
      match outcome environment x state with
      | (.ok a, state) => outcome environment (f a) state
      | (.error e, state) => (.error e, state) := by
  unfold outcome
  cases h : ((x.within environment).run state.1).run state.2 with
  | mk ran world =>
    obtain ⟨result, endpoint⟩ := ran
    have h' : ((ReaderT.run x environment).run.run state.1).run state.2 = _ := h
    simp only [within, ReaderT.run_bind, ExceptT.run_bind, StateT.run_bind, h']
    cases result <;> rfl

@[simp] theorem outcome_throw (e : EndpointError) :
    outcome environment (throw e : Action (StateM σ) α) state = (.error e, state) := rfl

@[simp] theorem outcome_get :
    outcome environment (get : Action (StateM σ) Endpoint) state = (.ok state.1, state) := rfl

@[simp] theorem outcome_modify (f : Endpoint → Endpoint) :
    outcome environment (modify f : Action (StateM σ) PUnit) state = (.ok ⟨⟩, f state.1, state.2) := rfl

@[simp] theorem outcome_modifyGet (f : Endpoint → α × Endpoint) :
    outcome environment (modifyGet f : Action (StateM σ) α) state = (.ok (f state.1).1, (f state.1).2, state.2) := rfl

@[simp] theorem outcome_read :
    outcome environment (read : Action (StateM σ) (Environment (StateM σ))) state =
      (.ok environment, state) := rfl

@[simp] theorem outcome_outside (effect : Environment (StateM σ) → StateM σ α) :
    outcome environment (outside effect) state =
      (.ok ((effect environment).run state.2).1, state.1, ((effect environment).run state.2).2) := rfl

@[simp] theorem outcome_ofCoded (result : Coded α) :
    outcome environment (ofCoded result) state = (result.mapError .codec, state) := by
  cases result <;> rfl

theorem outcome_tryCatch (x : Action (StateM σ) α) (h : EndpointError → Action (StateM σ) α) :
    outcome environment (tryCatch x h) state =
      match outcome environment x state with
      | (.ok a, state) => (.ok a, state)
      | (.error e, state) => outcome environment (h e) state := by
  unfold outcome
  cases hx : ((x.within environment).run state.1).run state.2 with
  | mk ran world =>
    obtain ⟨result, endpoint⟩ := ran
    have hx' : ((ReaderT.run x environment).run.run state.1).run state.2 = _ := hx
    simp only [within, ReaderT.run_tryCatch, ExceptT.run_tryCatch, StateT.run_bind, hx']
    cases result <;> rfl

/-- An action that ends well has ended its parts well. -/
theorem outcome_bind_eq_ok {x : Action (StateM σ) α} {f : α → Action (StateM σ) β} {b : β}
    {last : Endpoint × σ} :
    outcome environment (x >>= f) state = (.ok b, last) ↔
      ∃ a next, outcome environment x state = (.ok a, next) ∧
        outcome environment (f a) next = (.ok b, last) := by
  rw [outcome_bind]
  constructor
  · intro h
    split at h
    · next a next hx => exact ⟨a, next, hx, h⟩
    · cases h
  · rintro ⟨a, next, hx, h⟩
    rw [hx]
    exact h

theorem outcome_ite (c : Prop) [Decidable c] (x y : Action (StateM σ) α) :
    outcome environment (if c then x else y) state =
      if c then outcome environment x state else outcome environment y state := by
  split <;> rfl

@[simp] theorem outcome_coded (result : Coded α) :
    outcome environment (liftM result : Action (StateM σ) α) state =
      (result.mapError .codec, state) :=
  outcome_ofCoded result

@[simp] theorem outcome_session (result : Except SessionError α) :
    outcome environment (liftM result : Action (StateM σ) α) state =
      (result.mapError .session, state) := by
  cases result <;> rfl

@[simp] theorem outcome_except (result : Except EndpointError α) :
    outcome environment (liftM result : Action (StateM σ) α) state = (result, state) := by
  cases result <;> rfl

@[simp] theorem outcome_lift (x : StateT Endpoint (StateM σ) α) :
    outcome environment (liftM x : Action (StateM σ) α) state =
      (.ok ((x.run state.1).run state.2).1.1, ((x.run state.1).run state.2).1.2,
        ((x.run state.1).run state.2).2) := rfl

/-! ## The user's handlers -/

/-- What the user's handler of a name gives and leaves. -/
def handled (environment : Environment (StateM σ)) (name : String) (peer : SocketAddress)
    (message : Message) (state : Endpoint × σ) : Except EndpointError Unit × Endpoint × σ :=
  let ran := ((environment.custom name peer message).run state.1).run state.2
  (ran.1.1, ran.1.2, ran.2)

theorem outcome_ofCustom (name : String) (peer : SocketAddress) (message : Message) :
    outcome environment (ofCustom name peer message) state =
      handled environment name peer message state := by
  simp only [ofCustom, handled, outcome_bind, outcome_read, outcome_lift]
  cases (((environment.custom name peer message).run state.1).run state.2).1.1 <;> rfl

/-- The user's handlers lead from states with a property to such states. -/
def Handles (environment : Environment (StateM σ)) (p : Endpoint × σ → Prop) : Prop :=
  ∀ name peer message state, p state → p (handled environment name peer message state).2

/-! ## Work on sessions -/

theorem outcome_editSession (id : SessionId) (edit : Edit Session α) :
    outcome environment (editSession id edit) state =
      ((edit.run (state.1.session id)).1.mapError .codec,
        state.1.setSession id (edit.run (state.1.session id)).2, state.2) := by
  simp only [editSession, outcome_bind, outcome_get]
  cases edit.run (state.1.session id) with
  | mk result edited => simp only [outcome_bind, outcome_modify, outcome_ofCoded]

theorem outcome_moveSession (id : SessionId) (step : Session → Except SessionError Session) :
    outcome environment (moveSession id step) state =
      match step (state.1.session id) with
      | .ok session => (.ok (), state.1.setSession id session, state.2)
      | .error e => (.error (.session e), state) := by
  simp only [moveSession, outcome_bind, outcome_get, outcome_session]
  cases step (state.1.session id) <;> rfl

theorem session?_setSession {endpoint : Endpoint} {id : SessionId}
    (h : id < endpoint.sessions.length) (session : Session) :
    (endpoint.setSession id session).session? id = some session := by
  simp [session?, setSession, h]

/-! ## Surroundings that do not change by reports -/

/-- Writing to the log leaves the surroundings as they are. -/
def Quiet (environment : Environment (StateM σ)) : Prop :=
  ∀ level line world, ((environment.log level line).run world).2 = world

theorem outcome_log (hq : Quiet environment) (level : LogLevel) (line : String) :
    outcome environment (log level line) state = (.ok (), state) := by
  have hw := hq level line state.2
  simp only [log, outcome_outside, hw]

theorem outcome_emit (hq : Quiet environment) (event : Event) :
    outcome environment (emit event) state = (.ok (), state.1.queueEvent event, state.2) := by
  simp only [emit, outcome_bind, outcome_get, outcome_log hq, outcome_modify]

/-- A message that is sent changes nothing but the surroundings. -/
theorem outcome_send (hq : Quiet environment) (peer : SocketAddress) (message : Message) :
    outcome environment (send peer message) state =
      if state.1.bound.isNone then (.error .notListening, state)
      else
        match message.encode with
        | .error e => (.error (.codec e), state)
        | .ok octets =>
          match (environment.send peer octets).run state.2 with
          | (.ok (), world) => (.ok (), state.1, world)
          | (.error reason, world) => (.error (.io reason), state.1, world) := by
  simp only [send, outcome_bind, outcome_get, outcome_ite, outcome_throw]
  split
  · rfl
  · simp only [outcome_coded]
    cases message.encode with
    | error e => rfl
    | ok octets =>
      simp only [Except.mapError, outcome_outside]
      cases hs : (environment.send peer octets).run state.2 with
      | mk result world => cases result <;> simp [outcome_log hq]

end GtpControl.Endpoint.Action
