import GtpControl.Endpoint.Procedure
import GtpControl.Proofs.ClientCreation
import GtpControl.Proofs.GatewaySessions
import GtpControl.Proofs.Reception

/-! # Reachable states: what an endpoint comes to with its sessions

The steps are those at which other tasks may come in between, so that states in the middle of an
operation are among the reachable ones. -/
namespace GtpControl

/-! ## Sessions stay with their peer -/

namespace Session
variable {session next : Session}

/-- The peer of a session, and the tunnel end points of both sides. -/
def contact (session : Session) : SocketAddress × TeidMap := (session.peer, session.teids)

theorem steady_contact : Steady contact where
  bearer name bearer session := by
    rw [setBearer]
    split <;> rfl
  location _ _ := rfl

theorem contact_of_activate (h : session.activate = .ok next) : next.contact = session.contact := by
  obtain ⟨-, -, rfl⟩ := activate_eq_ok.1 h
  rfl

theorem contact_of_resume (h : session.resume = .ok next) : next.contact = session.contact := by
  rw [resume] at h
  split at h
  · exact contact_of_activate h
  · cases h
    rfl

theorem contact_of_setIdle (h : session.setIdle = .ok next) : next.contact = session.contact := by
  rw [setIdle] at h
  split at h <;> cases h
  rfl

theorem contact_of_deactivate (h : session.deactivate = .ok next) :
    next.contact = session.contact := by
  rw [deactivate] at h
  split at h <;> cases h
  rfl

theorem steady_peer : Steady peer where
  bearer name bearer session := congrArg Prod.fst (steady_contact.bearer name bearer session)
  location session location := congrArg Prod.fst (steady_contact.location session location)

/-- Applies what the answer to a create request says besides end points. -/
def applyGranted (response : Message) : Edit Session Unit := do
  if let some paa := response.field? .paa then
    let address ← Element.V2.pdnAddress paa
    modify fun session =>
      { session with defaultBearer := { session.defaultBearer with subscriberIp := some address } }
  (response.field .bearerContextsCreated).forM applyContext

theorem applyCreated_eq (response : Message) :
    applyCreated response = (do
      (response.field? .senderFteidC).forM bindFteid
      (response.field? .pgwS5s8FteidC).forM bindFteid
      applyGranted response) :=
  rfl

section
open Edit
variable {τ : Type} {part : Session → τ}

theorem preserves_applyGranted
    (bearer : ∀ name bearer session, part (setBearer name bearer session) = part session)
    (response : Message) : Preserves part (applyGranted response) := by
  have hcontexts := preserves_forM (preserves_applyContext bearer)
    (response.field .bearerContextsCreated)
  rw [applyGranted]
  cases response.field? .paa with
  | none => exact hcontexts
  | some paa =>
    refine (preserves_lift _).bind fun _ => Preserves.bind ?_ fun _ => hcontexts
    exact preserves_modify fun session => bearer defaultName _ session

theorem preserves_applyCreated (steady : Steady part)
    (teids : ∀ interface teid session, part (setTeid interface teid session) = part session)
    (response : Message) : Preserves part (applyCreated response) := by
  have hfteid : ∀ fteid, Preserves part (bindFteid fteid) := fun fteid =>
    (preserves_lift _).bind fun interface => (preserves_lift _).bind fun teid =>
      preserves_modify fun _ => teids interface teid _
  have hoption : ∀ found : Option Element, Preserves part (found.forM bindFteid) := by
    intro found
    cases found with
    | none => exact preserves_pure _
    | some fteid => exact hfteid fteid
  rw [applyCreated_eq]
  exact (hoption _).bind fun _ => (hoption _).bind fun _ =>
    preserves_applyGranted steady.bearer response

end

end Session

namespace Endpoint
open Endpoint.Action
variable {σ α β : Type} {environment : Environment (StateM σ)} {endpoint next : Endpoint}
  {state : Endpoint × σ} {id : SessionId} {peer : SocketAddress}
  {answer? : Option Message}

/-- The states that an endpoint comes to from its beginning. -/
inductive Reachable : Endpoint → Prop
  | made (address : SocketAddress) (interface : UInt8) (seed : UInt32) (settings : Settings) :
    Reachable (make address interface seed settings)
  /-- something happens that the sessions have nothing to do with -/
  | aside {endpoint next : Endpoint} (reachable : Reachable endpoint)
    (sessions : next.sessions = endpoint.sessions) (registry : next.registry = endpoint.registry) :
    Reachable next
  /-- a new session, which is not registered yet -/
  | kept {endpoint : Endpoint} (reachable : Reachable endpoint) (session : Session) :
    Reachable (endpoint.addSession session).2
  /-- a session changes, but stays with its peer -/
  | changed {endpoint : Endpoint} {id : SessionId} {session : Session}
    (reachable : Reachable endpoint) (peer : session.peer = (endpoint.session id).peer) :
    Reachable (endpoint.setSession id session)
  | registered {endpoint : Endpoint} {id : SessionId} {session : Session}
    (reachable : Reachable endpoint) (known : endpoint.session? id = some session) (teid : UInt32) :
    Reachable { endpoint with registry := endpoint.registry.register teid id session }
  | removed {endpoint : Endpoint} (reachable : Reachable endpoint) (id : SessionId) :
    Reachable (endpoint.removeSession id)

/-! ## Properties that last -/

/-- The sessions, and by what an endpoint finds them. -/
def tables (endpoint : Endpoint) : List Session × Registry × UInt8 :=
  (endpoint.sessions, endpoint.registry, endpoint.interface)

/-- A property that holds on whatever becomes of a session at its peer. -/
def Free (p : Endpoint × σ → Prop) (id : SessionId) : Prop :=
  ∀ (state : Endpoint × σ) (session : Session), p state →
    session.peer = (state.1.session id).peer → p (state.1.setSession id session, state.2)

/-- What happens while calls wait leads from states with a property to such states. -/
def Awaits (environment : Environment (StateM σ)) (p : Endpoint × σ → Prop) : Prop :=
  ∀ ticket state, p state → p (waited environment ticket state)

/-- Other tasks, which go on while calls wait, and the user's handlers lead from states with a property
to such states. -/
structure Others (environment : Environment (StateM σ)) (p : Endpoint × σ → Prop) : Prop where
  awaits : Awaits environment p
  custom : Handles environment p

/-- A property that holds on through all that an endpoint does. A session that is just being made may
yet change at will; others keep their end points. -/
structure Stable (environment : Environment (StateM σ)) (p : Endpoint × σ → Prop) : Prop where
  aside : ∀ (state : Endpoint × σ) (next : Endpoint), p state → next.tables = state.1.tables →
    p (next, state.2)
  sent : ∀ (state : Endpoint × σ) (peer : SocketAddress) (octets : Octets), p state →
    p (state.1, ((environment.send peer octets).run state.2).2)
  enrolled : ∀ (state : Endpoint × σ) (teid : UInt32) (session : Session), p state →
    p (state.1.enrolled teid session, state.2)
  fresh : ∀ state : Endpoint × σ, p state → Free p state.1.sessions.length
  changed : ∀ (state : Endpoint × σ) (id : SessionId) (session : Session), p state →
    session.contact = (state.1.session id).contact → p (state.1.setSession id session, state.2)
  removed : ∀ (state : Endpoint × σ) (id : SessionId), p state → p (state.1.removeSession id, state.2)
  custom : Handles environment p

/-- An action that leads from states with a property to such states, however it ends. -/
def Maintains (environment : Environment (StateM σ)) (p : Endpoint × σ → Prop)
    (x : Action (StateM σ) α) : Prop :=
  ∀ state, p state → p (outcome environment x state).2

variable {p : Endpoint × σ → Prop} {x : Action (StateM σ) α}

theorem of_outcome_bind {f : α → Action (StateM σ) β} {state : Endpoint × σ}
    (h : p (outcome environment x state).2) (hf : ∀ a, Maintains environment p (f a)) :
    p (outcome environment (x >>= f) state).2 := by
  rw [outcome_bind]
  cases hr : outcome environment x state with
  | mk result next =>
    rw [hr] at h
    cases result with
    | ok a => exact hf a next h
    | error e => exact h

theorem Maintains.bind {f : α → Action (StateM σ) β} (h : Maintains environment p x)
    (hf : ∀ a, Maintains environment p (f a)) : Maintains environment p (x >>= f) :=
  fun state hs => of_outcome_bind (h state hs) hf

theorem Maintains.tryCatch {recover : EndpointError → Action (StateM σ) α}
    (h : Maintains environment p x) (hr : ∀ e, Maintains environment p (recover e)) :
    Maintains environment p (tryCatch x recover) := by
  intro state hs
  have hx := h state hs
  rw [outcome_tryCatch]
  cases hrun : outcome environment x state with
  | mk result next =>
    rw [hrun] at hx
    cases result with
    | ok a => exact hx
    | error e => exact hr e next hx

theorem maintains_ite {c : Prop} [Decidable c] {y : Action (StateM σ) α}
    (hx : Maintains environment p x) (hy : Maintains environment p y) :
    Maintains environment p (if c then x else y) := by
  split
  · exact hx
  · exact hy

theorem maintains_pure (a : α) : Maintains environment p (pure a : Action (StateM σ) α) :=
  fun _ h => h

theorem maintains_throw (e : EndpointError) :
    Maintains environment p (throw e : Action (StateM σ) α) :=
  fun _ h => h

theorem maintains_get : Maintains environment p (get : Action (StateM σ) Endpoint) := fun _ h => h

theorem maintains_except (result : Except EndpointError α) :
    Maintains environment p (liftM result : Action (StateM σ) α) := fun state h => by
  rwa [outcome_except]

theorem maintains_log (hq : Quiet environment) (level : LogLevel) (line : String) :
    Maintains environment p (log level line) := fun state h => by
  rwa [outcome_log hq]

theorem maintains_expectReply (kind : Kind) (reply : Message) :
    Maintains environment p (expectReply kind reply) :=
  maintains_ite (maintains_pure _) (maintains_throw _)

namespace Stable

theorem modify (stable : Stable environment p) {f : Endpoint → Endpoint}
    (h : ∀ endpoint, (f endpoint).tables = endpoint.tables) :
    Maintains environment p (modify f : Action (StateM σ) PUnit) :=
  fun state hs => stable.aside state _ hs (h state.1)

theorem editSession (stable : Stable environment p) {edit : Edit Session α}
    (h : Edit.Preserves Session.contact edit) (id : SessionId) :
    Maintains environment p (editSession id edit) := by
  intro state hs
  rw [outcome_editSession]
  exact stable.changed state id _ hs (h _)

theorem moveSession (stable : Stable environment p)
    {step : Session → Except SessionError Session}
    (h : ∀ session next, step session = .ok next → next.contact = session.contact)
    (id : SessionId) : Maintains environment p (moveSession id step) := by
  intro state hs
  rw [outcome_moveSession]
  cases he : step (state.1.session id) with
  | ok next => exact stable.changed state id next hs (h _ _ he)
  | error e => exact hs

theorem dropSession (stable : Stable environment p) (id : SessionId) :
    Maintains environment p (dropSession id) :=
  fun state hs => stable.removed state id hs

theorem send (stable : Stable environment p) (hq : Quiet environment) (peer : SocketAddress)
    (message : Message) : Maintains environment p (send peer message) := by
  intro state hs
  rw [outcome_send hq]
  split
  · exact hs
  · cases message.encode with
    | error e => exact hs
    | ok octets =>
      have hsent := stable.sent state peer octets hs
      dsimp only
      cases hx : (environment.send peer octets).run state.2 with
      | mk result world =>
        rw [hx] at hsent
        cases result <;> exact hsent

/-! ### Handlers -/

/-- Whatever a handler does is made of these steps. -/
theorem reaction (stable : Stable environment p) {request : Message} {world : σ}
    (h : p (endpoint, world))
    (reaction : Reaction peer request endpoint next answer?) : p (next, world) := by
  have hedited : ∀ id (result : Coded (List Element)) edited,
      (Session.applyModification request).run (endpoint.session id) = (result, edited) →
        p (endpoint.setSession id edited, world) := by
    intro id result edited he
    have hc := Session.preserves_applyModification Session.steady_contact request
      (endpoint.session id)
    rw [he] at hc
    exact stable.changed _ id edited h hc
  cases reaction with
  | idle | echoed | incomplete | unknown => exact h
  | drawn => exact stable.aside _ _ h rfl
  | @created grant pool =>
    exact stable.enrolled _ grant.own grant.session (stable.aside _ { endpoint with pool } h rfl)
  | disturbed _ _ he => exact hedited _ _ _ he
  | modified _ _ _ he hs =>
    exact stable.changed _ _ _ (hedited _ _ _ he) (Session.contact_of_resume hs)
  | deleted _ _ _ hs =>
    exact stable.removed _ _ (stable.changed _ _ _ h (Session.contact_of_deactivate hs))
  | released _ _ _ hs => exact stable.changed _ _ _ h (Session.contact_of_setIdle hs)

theorem run (stable : Stable environment p) (hq : Quiet environment) (handler : Handler)
    (peer : SocketAddress) (message : Message) :
    Maintains environment p (handler.run peer message) := by
  rintro ⟨endpoint, world⟩ h
  obtain ⟨next, answer?, reacts⟩ | ⟨name, -, hrun⟩ :=
    run_cases hq handler peer message endpoint world
  · have hnext := stable.reaction h reacts.reaction
    rw [reacts.state]
    cases answer? with
    | none => exact hnext
    | some answer => exact stable.send hq _ _ _ hnext
  · rw [hrun]
    exact stable.custom name peer message _ h

theorem receive (stable : Stable environment p) (hq : Quiet environment) (peer : SocketAddress)
    (octets : Octets) : Maintains environment p (receive peer octets) := by
  rintro ⟨endpoint, world⟩ hs
  obtain ⟨events, h⟩ | ⟨sequence, h⟩ | ⟨message, -, ⟨events, h⟩ | ⟨handler, events, -, h⟩⟩ :=
    receive_cases hq endpoint world peer octets
  · rw [h]
    exact stable.aside _ _ hs rfl
  · have hsent := stable.send hq peer (indication sequence) _ hs
    have hkept : Keeps environment tables (Action.send peer (indication sequence))
        (endpoint, world) :=
      keeps_send ..
    rw [h]
    exact stable.aside _ _ hsent hkept.symm
  · rw [h]
    exact stable.aside _ _ hs rfl
  · rw [h]
    exact stable.aside _ _ (stable.run hq handler peer message _ hs) rfl

/-! ### Procedures -/

theorem openCall (stable : Stable environment p) (peer : SocketAddress) (message : Message) :
    Maintains environment p (openCall peer message) := by
  refine maintains_get.bind fun _ => maintains_ite (maintains_throw _) ?_
  have hnext : Maintains environment p (nextSequence : Action (StateM σ) UInt32) :=
    (stable.modify fun _ => by rfl).bind fun _ => maintains_get.bind fun _ => maintains_pure _
  refine hnext.bind fun sequence => maintains_get.bind fun endpoint => ?_
  cases endpoint.pending.open? ⟨sequence, peer⟩ with
  | none => exact maintains_throw _
  | some found => exact (stable.modify fun _ => by rfl).bind fun _ => maintains_pure _

theorem forget (stable : Stable environment p) (call : Call) :
    Maintains environment p (forget call) :=
  stable.modify fun _ => by rfl

theorem transmit (stable : Stable environment p) (hq : Quiet environment) (call : Call) :
    Maintains environment p (transmit call) :=
  (stable.send hq _ _).tryCatch fun e => (stable.forget _).bind fun _ => maintains_throw e

/-- Waits for the end of a call. -/
theorem conclude (stable : Stable environment p) (hq : Quiet environment)
    (hw : Awaits environment p) (call : Call) : Maintains environment p (do
      let environment ← read
      (environment.await call.ticket : StateT Endpoint (StateM σ) Unit)
      finish call) := by
  have hfinish : Maintains environment p (finish call) := by
    refine maintains_get.bind fun endpoint => ?_
    cases endpoint.pending.collect call.ticket with
    | mk signal pending =>
      dsimp only
      refine (stable.modify fun _ => by rfl).bind fun _ => ?_
      match signal with
      | some (.reply message) => exact maintains_pure _
      | some .cancelled => exact maintains_throw _
      | none =>
        exact (stable.forget _).bind fun _ => (maintains_log hq _ _).bind fun _ =>
          maintains_throw _
  have hwait : Maintains environment p
      (liftM (environment.await call.ticket) : Action (StateM σ) Unit) :=
    fun state hs => hw call.ticket state hs
  intro state hs
  rw [outcome_bind, outcome_read]
  exact (hwait.bind fun _ => hfinish) state hs

theorem request (stable : Stable environment p) (hq : Quiet environment)
    (hw : Awaits environment p) (peer : SocketAddress) (message : Message) :
    Maintains environment p (request peer message) :=
  (stable.openCall _ _).bind fun call => (stable.transmit hq call).bind fun _ =>
    stable.conclude hq hw call

theorem deliver (stable : Stable environment p) (hq : Quiet environment) (peer : SocketAddress)
    (reply : Message) : Maintains environment p (deliver peer reply) := by
  refine maintains_get.bind fun endpoint => ?_
  cases endpoint.handlers.get? reply.type with
  | none => exact maintains_pure _
  | some handler => exact (stable.run hq handler peer reply).bind fun _ => maintains_pure _

theorem echo (stable : Stable environment p) (hq : Quiet environment) (hw : Awaits environment p)
    (peer : SocketAddress) : Maintains environment p (echo peer) :=
  maintains_get.bind fun _ => (stable.request hq hw _ _).bind fun reply =>
    (stable.deliver hq _ reply).bind fun _ => (maintains_expectReply _ _).bind fun _ =>
      maintains_pure _

/-- The session that is confirmed changes, and no other does. -/
theorem confirmSession (stable : Stable environment p) (hq : Quiet environment)
    (hw : Awaits environment p) (id : SessionId) (free : Free p id) (peer : SocketAddress)
    (message : Message) : Maintains environment p (confirmSession peer message id) := by
  rw [confirmSession_eq]
  refine (stable.request hq hw _ _).bind fun reply => (stable.deliver hq _ _).bind fun handled => ?_
  refine (maintains_expectReply _ _).bind fun _ => (maintains_except _).bind fun cause => ?_
  have hreport : Maintains environment p (report peer id reply cause) := fun state hs => by
    rwa [outcome_report hq]
  have hedit : Maintains environment p
      (Action.editSession id (Session.applyCreated reply) : Action (StateM σ) Unit) := by
    intro state hs
    rw [outcome_editSession]
    exact free state _ hs (Session.preserves_applyCreated Session.steady_peer (fun _ _ _ => rfl)
      reply _)
  refine maintains_ite hreport (hedit.bind fun _ => ?_)
  exact (stable.moveSession (fun _ _ => Session.contact_of_activate) id).bind fun _ => hreport

theorem createSession (stable : Stable environment p) (hq : Quiet environment)
    (hw : Awaits environment p) (peer : SocketAddress) (elements : List Element) :
    Maintains environment p (createSession peer elements) := by
  have hsettled : ∀ id (ran : Except EndpointError Reply × Endpoint × σ), p ran.2 →
      p (settled id ran).2 := by
    rintro id ⟨result, last⟩ hlast
    cases result with
    | ok reply => exact hlast
    | error e => exact stable.removed _ id hlast
  rintro ⟨endpoint, world⟩ hs
  obtain ⟨e, pool, h⟩ | ⟨proposal, pool, _, -, hn, h⟩ :=
    createSession_cases environment endpoint world peer elements
  · rw [h]
    exact stable.aside _ _ hs rfl
  · cases hn hq
    have hpool : p ({ endpoint with pool }, world) := stable.aside _ _ hs rfl
    rw [h]
    exact hsettled _ _ (stable.confirmSession hq hw _ (stable.fresh _ hs) peer proposal.request _
      (stable.enrolled _ proposal.own proposal.session hpool))

theorem requestAbout (stable : Stable environment p) (hq : Quiet environment)
    (hw : Awaits environment p) (id : SessionId) (kind : Kind) (elements : List Element) :
    Maintains environment p (requestAbout id kind elements) := by
  have hteid : Maintains environment p (Gateway.peerTeid id : Action (StateM σ) UInt32) :=
    maintains_get.bind fun endpoint state hs => by rwa [outcome_session]
  exact maintains_get.bind fun _ => hteid.bind fun _ => (stable.request hq hw _ _).bind fun _ =>
    (stable.deliver hq _ _).bind fun _ => maintains_pure _

/-- A property that holds once a reply is there. -/
theorem of_modifyBearer (stable : Stable environment p) {state : Endpoint × σ} {id : SessionId}
    {elements : List Element}
    (h : p (outcome environment (Endpoint.requestAbout id .modifyBearerRequest elements) state).2) :
    p (outcome environment (modifyBearer id elements) state).2 := by
  refine of_outcome_bind h fun reply => ?_
  refine (maintains_expectReply _ _).bind fun _ => (maintains_except _).bind fun cause => ?_
  refine maintains_ite (maintains_pure _) ?_
  have hcontexts := Edit.preserves_forM
    (Session.preserves_applyContext Session.steady_contact.bearer)
    (reply.2.1.field .bearerContextsModified)
  refine (stable.editSession hcontexts id).bind fun _ => ?_
  exact (stable.moveSession (fun _ _ => Session.contact_of_resume) id).bind fun _ =>
    maintains_pure _

theorem modifyBearer (stable : Stable environment p) (hq : Quiet environment)
    (hw : Awaits environment p) (id : SessionId) (elements : List Element) :
    Maintains environment p (modifyBearer id elements) :=
  fun state hs => stable.of_modifyBearer (stable.requestAbout hq hw id _ elements state hs)

theorem of_deleteSession (stable : Stable environment p) {state : Endpoint × σ} {id : SessionId}
    {elements : List Element}
    (h : p (outcome environment (Endpoint.requestAbout id .deleteSessionRequest elements) state).2) :
    p (outcome environment (deleteSession id elements) state).2 := by
  refine of_outcome_bind h fun reply => (maintains_expectReply _ _).bind fun _ => ?_
  have hrest : ∀ result : Except EndpointError UInt8, Maintains environment p (do
      let cause ← MonadExcept.ofExcept result
      return ({ peer := reply.1, message := reply.2.1, cause := some cause } : Reply)) := by
    intro result
    cases result with
    | ok cause => exact maintains_pure _
    | error e => exact maintains_throw e
  refine maintains_ite ?_ (hrest _)
  have hend : Maintains environment p
      (MonadExcept.tryCatch (Action.moveSession id Session.deactivate) fun _ => pure () :
        Action (StateM σ) Unit) :=
    (stable.moveSession (fun _ _ => Session.contact_of_deactivate) id).tryCatch fun _ =>
      maintains_pure _
  exact hend.bind fun _ => (stable.dropSession id).bind fun _ => hrest _

theorem deleteSession (stable : Stable environment p) (hq : Quiet environment)
    (hw : Awaits environment p) (id : SessionId) (elements : List Element) :
    Maintains environment p (deleteSession id elements) :=
  fun state hs => stable.of_deleteSession (stable.requestAbout hq hw id _ elements state hs)

end Stable

/-! ## Reachable states last -/

namespace Reachable

theorem enrolled (reachable : Reachable endpoint) (teid : UInt32) (session : Session) :
    Reachable (endpoint.enrolled teid session) := by
  have known : (endpoint.addSession session).2.session? endpoint.sessions.length = some session :=
    session?_enrolled teid session endpoint
  exact (reachable.kept session).registered known teid

/-- All that an endpoint does leads from reachable states to reachable states, if all that the user's
handlers do does. -/
theorem stable (custom : Handles environment fun state => Reachable state.1) :
    Stable environment fun state => Reachable state.1 where
  aside _ _ reachable tables :=
    reachable.aside (congrArg Prod.fst tables) (congrArg (·.2.1) tables)
  sent _ _ _ reachable := reachable
  enrolled _ teid session reachable := reachable.enrolled teid session
  fresh _ _ _ _ reachable peer := reachable.changed peer
  changed _ _ _ reachable contact := reachable.changed (congrArg Prod.fst contact)
  removed _ id reachable := reachable.removed id
  custom

/-- What receives a datagram stays reachable. -/
theorem receive (reachable : Reachable endpoint) (hq : Quiet environment)
    (custom : Handles environment fun state => Reachable state.1) (world : σ)
    (peer : SocketAddress) (octets : Octets) :
    Reachable (outcome environment (receive peer octets) (endpoint, world)).2.1 :=
  (stable custom).receive hq peer octets (endpoint, world) reachable

end Reachable

end Endpoint
end GtpControl
