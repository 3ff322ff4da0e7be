import GtpControl.Proofs.FailedCreation
import GtpControl.Proofs.GatewayService
import GtpControl.Proofs.Reachability
import GtpControl.Proofs.SessionCreation

/-! # Requests about sessions: where they go

An endpoint does not keep the end point of a peer as such. It takes the first one of the session on
another interface than its own, and it depends on the interfaces in the create request and in its
answer whether that is the peer's. -/
namespace GtpControl
open Catalog.V2 Element

/-! ## The first end point on another interface -/

namespace Bindings
variable {κ α : Type} [DecidableEq κ] {key : κ} {entries : List (κ × α)} {entry : κ × α}
  {q : κ → Bool}

/-- An entry that is put is the first of its sort if all others of that sort have its key. -/
theorem find?_put_self (hq : q key = true) (value : α)
    (h : ∀ entry ∈ entries, q entry.1 = true → entry.1 = key) :
    (put key value entries).find? (fun entry => q entry.1) = some (key, value) := by
  induction entries with
  | nil => simp only [put, List.find?_cons, hq]
  | cons entry entries ih =>
    obtain ⟨hentry, hrest⟩ := List.forall_mem_cons.1 h
    rw [put]
    split
    · simp only [List.find?_cons, hq]
    · next hne =>
      have hother : q entry.1 = false := Bool.eq_false_iff.2 fun he => hne (hentry he)
      simp only [List.find?_cons, hother, ih hrest]

/-- The first entry of a sort stays the first when something is put under another key. -/
theorem find?_put_of_ne (h : entries.find? (fun entry => q entry.1) = some entry)
    (hne : entry.1 ≠ key) (value : α) :
    (put key value entries).find? (fun entry => q entry.1) = some entry := by
  induction entries with
  | nil => cases h
  | cons first entries ih =>
    rw [put]
    cases hq : q first.1 with
    | true =>
      simp only [List.find?_cons, hq, Option.some.injEq] at h
      subst h
      simp only [if_neg hne, List.find?_cons, hq]
    | false =>
      simp only [List.find?_cons, hq] at h
      split
      · next he => simp only [List.find?_cons, ← he, hq, h]
      · simp only [List.find?_cons, hq, ih h]

end Bindings

namespace Session
variable {interface : UInt8} {remote : UInt32} {session next : Session} {response : Message}
  {fteid : Element}

/-- The end point in an answer is the first on another interface than ours, unless the session has one
on a third interface, or the answer names another one on the same interface. -/
theorem remoteTeid_applyCreated (h : (applyCreated response).run session = (.ok (), next))
    (hs : response.field? .senderFteidC = some fteid) (ht : V2.teid fteid = .ok remote)
    (apart : V2.interfaceType fteid ≠ .ok interface)
    (own : ∀ entry ∈ session.teids.entries,
      entry.1 = interface ∨ V2.interfaceType fteid = .ok entry.1)
    (pgw : ∀ other ∈ response.field? .pgwS5s8FteidC,
      V2.interfaceType other ≠ V2.interfaceType fteid) :
    next.remoteTeid interface = .ok remote := by
  rw [applyCreated_eq, hs] at h
  obtain ⟨_, bound, hb, h⟩ := Edit.run_bind_eq_ok.1 h
  obtain ⟨_, both, hb', h⟩ := Edit.run_bind_eq_ok.1 h
  have hteids : next.teids = both.teids := by
    have hkept := preserves_applyGranted steady_standing.bearer response both
    rw [h] at hkept
    exact congrArg (·.2.2) hkept
  obtain ⟨far, remote', hi, ht', rfl⟩ := bindFteid_eq_ok.1 hb
  cases ht.symm.trans ht'
  rw [hi] at apart own pgw
  have hfar : (session.setTeid far remote).teids.entries.find? (·.1 ≠ interface) =
      some (far, remote) := by
    refine Bindings.find?_put_self (q := fun key => key ≠ interface)
      (decide_eq_true fun he => apart (by rw [he])) remote fun entry hm hq => ?_
    exact (Except.ok.inj ((own entry hm).resolve_left (of_decide_eq_true hq))).symm
  have hboth : both.teids.entries.find? (·.1 ≠ interface) = some (far, remote) := by
    cases hp : response.field? .pgwS5s8FteidC with
    | none =>
      rw [hp] at hb'
      cases hb'
      exact hfar
    | some other =>
      rw [hp] at hb'
      obtain ⟨interface', teid', hi', -, rfl⟩ := bindFteid_eq_ok.1 hb'
      refine Bindings.find?_put_of_ne (q := fun key => key ≠ interface) hfar (fun he => ?_) teid'
      exact pgw other hp (by rw [hi', ← he])
  rw [remoteTeid, hteids, hboth]
  rfl

theorem remoteTeid_of_contact (h : next.contact = session.contact) :
    next.remoteTeid interface = session.remoteTeid interface := by
  have hteids : next.teids = session.teids := congrArg Prod.snd h
  rw [remoteTeid, remoteTeid, hteids]

end Session

namespace Endpoint
open Endpoint.Action

/-! ## What stays of a session -/

/-- The interface of an endpoint, and peer and end points of one of its sessions. -/
structure Anchored (id : SessionId) (interface : UInt8) (contact : SocketAddress × TeidMap)
    (endpoint : Endpoint) : Prop where
  interface : endpoint.interface = interface
  session : ∃ session, endpoint.session? id = some session ∧ session.contact = contact

section
variable {σ : Type} {environment : Environment (StateM σ)} {endpoint next : Endpoint} {id : SessionId}
  {interface : UInt8} {contact : SocketAddress × TeidMap} {p : Endpoint × σ → Prop}

theorem Anchored.lt_length (anchored : Anchored id interface contact endpoint) :
    id < endpoint.sessions.length := by
  obtain ⟨session, hs, -⟩ := anchored.session
  exact (List.getElem?_eq_some_iff.1 hs).1

theorem Anchored.contact_eq (anchored : Anchored id interface contact endpoint) :
    (endpoint.session id).contact = contact := by
  obtain ⟨session, hs, hc⟩ := anchored.session
  rw [Endpoint.session, hs]
  exact hc

theorem Anchored.aside (anchored : Anchored id interface contact endpoint)
    (hs : next.sessions = endpoint.sessions) (hi : next.interface = endpoint.interface) :
    Anchored id interface contact next where
  interface := hi.trans anchored.interface
  session := by
    obtain ⟨session, h, hc⟩ := anchored.session
    exact ⟨session, by rwa [session?, hs], hc⟩

theorem Anchored.addSession (anchored : Anchored id interface contact endpoint) (session : Session) :
    Anchored id interface contact (endpoint.addSession session).2 where
  interface := anchored.interface
  session := by
    obtain ⟨kept, hs, hc⟩ := anchored.session
    exact ⟨kept, (List.getElem?_append_left anchored.lt_length).trans hs, hc⟩

/-- Any other session may change. -/
theorem Anchored.setSession (anchored : Anchored id interface contact endpoint) {other : SessionId}
    {session : Session} (h : other = id → session.contact = contact) :
    Anchored id interface contact (endpoint.setSession other session) where
  interface := anchored.interface
  session := exists_session?_setSession anchored.session h

/-- No procedure and no handler changes the end points of a session that has been made, if the user's
do not. -/
theorem stable_anchored
    (custom : Handles environment fun state => Anchored id interface contact state.1) :
    Stable environment fun state => Anchored id interface contact state.1 where
  aside _ _ anchored tables :=
    anchored.aside (congrArg Prod.fst tables) (congrArg (·.2.2) tables)
  sent _ _ _ anchored := anchored
  enrolled _ _ session anchored := (anchored.addSession session).aside rfl rfl
  fresh _ before _ _ anchored _ :=
    anchored.setSession fun he => absurd he (Nat.ne_of_gt before.lt_length)
  changed _ _ _ anchored hc := by
    refine anchored.setSession fun he => ?_
    subst he
    exact hc.trans anchored.contact_eq
  removed _ _ anchored := ⟨anchored.interface, anchored.session⟩
  custom

theorem stable_interface {interface : UInt8}
    (custom : Handles environment fun state => state.1.interface = interface) :
    Stable environment fun state => state.1.interface = interface where
  aside _ _ h tables := (congrArg (·.2.2) tables).trans h
  sent _ _ _ h := h
  enrolled _ _ _ h := h
  fresh _ _ _ _ h _ := h
  changed _ _ _ h _ := h
  removed _ _ h := h
  custom

/-- Datagrams that arrive do not end what lasts. -/
theorem Stable.awaits_during (stable : Stable environment p) (hq : Quiet environment)
    (incidents : List Incident) : Awaits (environment.during incidents) p := by
  intro ticket state hs
  change p (incidents.foldl (Incident.happen environment) state)
  induction incidents generalizing state with
  | nil => exact hs
  | cons incident incidents ih =>
    refine ih _ ?_
    cases incident with
    | datagram peer octets => exact stable.receive hq peer octets state hs
    | closed => exact stable.aside state state.1.close hs rfl

theorem Reaction.handlers {request : Message} {peer : SocketAddress} {answer? : Option Message}
    (reaction : Reaction peer request endpoint next answer?) :
    next.handlers = endpoint.handlers := by
  cases reaction <;> rfl

/-- Handlers are not installed by what arrives, if the user's handlers install none. -/
theorem Incident.handlers_happen (hq : Quiet environment)
    (custom : ∀ name peer message (state : Endpoint × σ),
      (handled environment name peer message state).2.1.handlers = state.1.handlers)
    (state : Endpoint × σ) (incident : Incident) :
    (incident.happen environment state).1.handlers = state.1.handlers := by
  cases incident with
  | closed => rfl
  | datagram peer octets =>
    rw [Incident.happen]
    obtain ⟨events, h⟩ | ⟨sequence, h⟩ | ⟨message, -, ⟨events, h⟩ | ⟨handler, events, -, h⟩⟩ :=
      receive_cases hq state.1 state.2 peer octets
    · rw [h]
    · rw [h]
    · rw [h]
    · rw [h]
      obtain ⟨after, answer?, reacts⟩ | ⟨name, -, hrun⟩ :=
        run_cases hq handler peer message state.1 state.2
      · exact (congrArg Endpoint.handlers reacts.leaves).trans reacts.reaction.handlers
      · dsimp only
        rw [hrun]
        exact custom name peer message state

theorem handlers_during (hq : Quiet environment)
    (custom : ∀ name peer message (state : Endpoint × σ),
      (handled environment name peer message state).2.1.handlers = state.1.handlers)
    (incidents : List Incident) (ticket : Ticket) (state : Endpoint × σ) :
    (waited (environment.during incidents) ticket state).1.handlers = state.1.handlers := by
  change (incidents.foldl (Incident.happen environment) state).1.handlers = _
  induction incidents generalizing state with
  | nil => rfl
  | cons incident incidents ih => exact (ih _).trans (incident.handlers_happen hq custom state)

end

/-! ## Surroundings that keep a record -/

/-- Surroundings that send every datagram and keep it on record. Other tasks and the user's handlers may
do what they like, but leave alone where the requests about one session go. -/
structure Spares (id : SessionId)
    (environment : Environment (StateM (List (SocketAddress × Octets)))) : Prop where
  quiet : Quiet environment
  send : ∀ peer octets sent,
    (environment.send peer octets).run sent = (.ok (), sent ++ [(peer, octets)])
  record : ∀ sent, Others environment fun state => sent <+: state.2
  interface : ∀ interface, Others environment fun state => state.1.interface = interface
  contact : ∀ contact, Others environment fun state =>
    ∃ session, state.1.session? id = some session ∧ session.contact = contact

variable {environment : Environment (StateM (List (SocketAddress × Octets)))} {id : SessionId}
  {interface : UInt8} {contact : SocketAddress × TeidMap} {client endpoint : Endpoint}
  {peer : SocketAddress} {remote : UInt32} {elements : List Element}
  {sent : List (SocketAddress × Octets)} {state last : Endpoint × List (SocketAddress × Octets)}

theorem Spares.anchored (spares : Spares id environment) :
    Others environment fun state => Anchored id interface contact state.1 where
  awaits ticket state anchored := ⟨(spares.interface _).awaits ticket state anchored.interface,
    (spares.contact _).awaits ticket state anchored.session⟩
  custom name peer message state anchored :=
    ⟨(spares.interface _).custom name peer message state anchored.interface,
      (spares.contact _).custom name peer message state anchored.session⟩

theorem Spares.stable_anchored (spares : Spares id environment) :
    Stable environment fun state => Anchored id interface contact state.1 :=
  Endpoint.stable_anchored spares.anchored.custom

theorem Spares.stable_record (spares : Spares id environment)
    (sent : List (SocketAddress × Octets)) : Stable environment fun state => sent <+: state.2 where
  aside _ _ h _ := h
  sent state peer octets h := by
    rw [spares.send]
    exact h.trans (List.prefix_append ..)
  enrolled _ _ _ h := h
  fresh _ _ _ _ h _ := h
  changed _ _ _ h _ := h
  removed _ _ h := h
  custom := (spares.record sent).custom

private theorem others_recording (p : Endpoint × List (SocketAddress × Octets) → Prop) :
    Others .recording p :=
  ⟨fun _ _ h => h, handles_recording p⟩

theorem spares_recording (id : SessionId) : Spares id .recording :=
  ⟨quiet_recording, fun _ _ _ => rfl, fun _ => others_recording _, fun _ => others_recording _,
    fun _ => others_recording _⟩

/-- Whatever datagrams arrive during a wait, and also if the endpoint is closed, the session is spared. -/
theorem Spares.during (spares : Spares id environment) (incidents : List Incident) :
    Spares id (environment.during incidents) where
  quiet := spares.quiet
  send := spares.send
  record sent :=
    ⟨(spares.stable_record sent).awaits_during spares.quiet incidents, (spares.record sent).custom⟩
  interface interface := ⟨(stable_interface (spares.interface interface).custom).awaits_during
    spares.quiet incidents, (spares.interface interface).custom⟩
  contact contact := ⟨fun ticket state h => (spares.stable_anchored.awaits_during spares.quiet
    incidents ticket state ⟨rfl, h⟩).session, (spares.contact contact).custom⟩

/-- What an endpoint comes to from one state on, by whatever it receives and does, also with a session
that its user has at hand. -/
inductive Later (id : SessionId) (start : Endpoint × List (SocketAddress × Octets)) :
    Endpoint × List (SocketAddress × Octets) → Prop
  | refl : Later id start start
  /-- something happens that the sessions have nothing to do with -/
  | aside {state : Endpoint × List (SocketAddress × Octets)} {next : Endpoint}
    {sent : List (SocketAddress × Octets)} (before : Later id start state)
    (sessions : next.sessions = state.1.sessions) (interface : next.interface = state.1.interface) :
    Later id start (next, sent)
  /-- a session changes, but for its peer and its end points -/
  | changed {state : Endpoint × List (SocketAddress × Octets)} {other : SessionId} {session : Session}
    (before : Later id start state) (contact : session.contact = (state.1.session other).contact) :
    Later id start (state.1.setSession other session, state.2)
  /-- a session is made anew, and not registered yet -/
  | kept {state : Endpoint × List (SocketAddress × Octets)} (before : Later id start state)
    (session : Session) : Later id start ((state.1.addSession session).2, state.2)
  | received {environment : Environment (StateM (List (SocketAddress × Octets)))}
    {state : Endpoint × List (SocketAddress × Octets)} (before : Later id start state)
    (spares : Spares id environment) (peer : SocketAddress) (octets : Octets) :
    Later id start (outcome environment (receive peer octets) state).2
  | echoed {environment : Environment (StateM (List (SocketAddress × Octets)))}
    {state : Endpoint × List (SocketAddress × Octets)} (before : Later id start state)
    (spares : Spares id environment) (peer : SocketAddress) :
    Later id start (outcome environment (echo peer) state).2
  | created {environment : Environment (StateM (List (SocketAddress × Octets)))}
    {state : Endpoint × List (SocketAddress × Octets)} (before : Later id start state)
    (spares : Spares id environment) (peer : SocketAddress) (elements : List Element) :
    Later id start (outcome environment (createSession peer elements) state).2
  | modified {environment : Environment (StateM (List (SocketAddress × Octets)))}
    {state : Endpoint × List (SocketAddress × Octets)} (before : Later id start state)
    (spares : Spares id environment) (other : SessionId) (elements : List Element) :
    Later id start (outcome environment (modifyBearer other elements) state).2
  | deleted {environment : Environment (StateM (List (SocketAddress × Octets)))}
    {state : Endpoint × List (SocketAddress × Octets)} (before : Later id start state)
    (spares : Spares id environment) (other : SessionId) (elements : List Element) :
    Later id start (outcome environment (deleteSession other elements) state).2

theorem Later.anchored (later : Later id last state)
    (anchored : Anchored id interface contact last.1) : Anchored id interface contact state.1 := by
  induction later with
  | refl => exact anchored
  | aside _ sessions interface ih => exact ih.aside sessions interface
  | changed _ hc ih =>
    exact (spares_recording id).stable_anchored.changed _ _ _ ih hc
  | kept _ session ih => exact ih.addSession session
  | received _ spares peer octets ih =>
    exact spares.stable_anchored.receive spares.quiet peer octets _ ih
  | echoed _ spares peer ih =>
    exact spares.stable_anchored.echo spares.quiet spares.anchored.awaits peer _ ih
  | created _ spares peer elements ih =>
    exact spares.stable_anchored.createSession spares.quiet spares.anchored.awaits peer elements _ ih
  | modified _ spares other elements ih =>
    exact spares.stable_anchored.modifyBearer spares.quiet spares.anchored.awaits other elements _ ih
  | deleted _ spares other elements ih =>
    exact spares.stable_anchored.deleteSession spares.quiet spares.anchored.awaits other elements _ ih

/-! ## What is sent -/

/-- The next request about a session with this end point. -/
def nextRequest (kind : Kind) (teid : UInt32) (elements : List Element) (endpoint : Endpoint) :
    Message :=
  (Message.make .v2 kind { teid := some teid } elements).setSequence (.ofNat endpoint.sequence.next)

theorem teid?_nextRequest {kind : Kind}
    (hk : kind ∈ [Kind.modifyBearerRequest, .deleteSessionRequest]) (teid : UInt32)
    (elements : List Element) (endpoint : Endpoint) :
    (endpoint.nextRequest kind teid elements).teid? = some teid := by
  rw [nextRequest, Message.teid?_setSequence, Message.teid?_make (by rintro rfl; simp at hk)
    (by rintro rfl; simp at hk), Option.getD_some]

/-- Nothing keeps an endpoint from sending its next request, and these are its octets. -/
structure CanSend (endpoint : Endpoint) (peer : SocketAddress) (request : Message)
    (octets : Octets) : Prop where
  opened : endpoint.closed = false
  bound : endpoint.bound.isSome = true
  free : (endpoint.pending.open? ⟨.ofNat endpoint.sequence.next, peer⟩).isSome = true
  octets : request.encode = .ok octets

/-- A run that sends a request to an end point of a peer before anything else, unless the endpoint
cannot send it at all. -/
structure Asks (peer : SocketAddress) (teid : UInt32) (kind : Kind) (elements : List Element)
    (state : Endpoint × List (SocketAddress × Octets))
    (ran : Except EndpointError Reply × Endpoint × List (SocketAddress × Octets)) : Prop where
  header : (state.1.nextRequest kind teid elements).teid? = some teid
  sent : ∀ octets, state.1.CanSend peer (state.1.nextRequest kind teid elements) octets →
    state.2 ++ [(peer, octets)] <+: ran.2.2
  unsent : (∀ octets, ¬state.1.CanSend peer (state.1.nextRequest kind teid elements) octets) →
    (∃ e, ran.1 = .error e) ∧ ran.2.2 = state.2

/-- A request leaves as soon as its call is open. -/
theorem Spares.sent_request (spares : Spares id environment) {message : Message} {octets : Octets}
    (can : endpoint.CanSend peer (message.setSequence (.ofNat endpoint.sequence.next)) octets) :
    sent ++ [(peer, octets)] <+:
      (outcome environment (request peer message) (endpoint, sent)).2.2 := by
  obtain ⟨⟨ticket, pending⟩, hopen⟩ := Option.isSome_iff_exists.1 can.free
  have hbound : endpoint.bound.isNone = false := by
    rw [← Option.not_isSome, can.bound, Bool.not_true]
  rw [request, outcome_bind, outcome_openCall, if_neg (by simp [can.opened]), hopen]
  refine of_outcome_bind (p := fun state => sent ++ [(peer, octets)] <+: state.2) ?_
    fun _ => (spares.stable_record _).conclude spares.quiet (spares.record _).awaits _
  simp only [transmit, outcome_tryCatch, outcome_send spares.quiet, hbound, can.octets, spares.send,
    if_neg Bool.false_ne_true, List.prefix_refl]

/-- A request that cannot be sent fails. -/
theorem outcome_request_unsent {σ : Type} {environment : Environment (StateM σ)} (world : σ)
    (hq : Quiet environment) {message : Message}
    (h : ∀ octets,
      ¬endpoint.CanSend peer (message.setSequence (.ofNat endpoint.sequence.next)) octets) :
    ∃ e next, outcome environment (request peer message) (endpoint, world) =
      (.error e, next, world) := by
  rw [request, outcome_bind, outcome_openCall]
  by_cases hc : endpoint.closed = true
  · rw [if_pos hc]
    exact ⟨_, _, rfl⟩
  rw [if_neg hc]
  cases ho : endpoint.pending.open? ⟨.ofNat endpoint.sequence.next, peer⟩ with
  | none => exact ⟨_, _, rfl⟩
  | some found =>
    obtain ⟨ticket, pending⟩ := found
    simp only [outcome_bind, transmit, outcome_tryCatch, outcome_send hq, forget, outcome_modify,
      outcome_throw]
    cases hb : endpoint.bound.isNone with
    | true => exact ⟨_, _, rfl⟩
    | false =>
      cases he : (message.setSequence (.ofNat endpoint.sequence.next)).encode with
      | error e => exact ⟨_, _, rfl⟩
      | ok octets =>
        have hbound : endpoint.bound.isSome = true := by
          rw [← Option.not_isNone, hb, Bool.not_false]
        exact absurd ⟨Bool.eq_false_iff.2 hc, hbound, by rw [ho, Option.isSome_some], he⟩ (h octets)

theorem outcome_requestAbout {σ : Type} {environment : Environment (StateM σ)} {world : σ}
    (hr : (endpoint.session id).remoteTeid endpoint.interface = .ok remote) (kind : Kind)
    (elements : List Element) :
    outcome environment (requestAbout id kind elements) (endpoint, world) =
      outcome environment (do
        let peer := (endpoint.session id).peer
        let message ← request peer (.make .v2 kind { teid := some remote } elements)
        return (peer, message, ← deliver peer message)) (endpoint, world) := by
  simp only [requestAbout, outcome_bind, outcome_get, outcome_peerTeid, hr, Except.mapError]

/-- Procedures about a session start with a request to the end point of its peer. -/
theorem Spares.asks (spares : Spares id environment) {kind : Kind} {remote : UInt32}
    {rest : SocketAddress × Message × Bool → Action (StateM (List (SocketAddress × Octets))) Reply}
    (hk : kind ∈ [.modifyBearerRequest, .deleteSessionRequest])
    (hr : (endpoint.session id).remoteTeid endpoint.interface = .ok remote)
    (hrest : ∀ {p}, Stable environment p →
      p (outcome environment (requestAbout id kind elements) (endpoint, sent)).2 →
        p (outcome environment (requestAbout id kind elements >>= rest) (endpoint, sent)).2) :
    Asks (endpoint.session id).peer remote kind elements (endpoint, sent)
      (outcome environment (requestAbout id kind elements >>= rest) (endpoint, sent)) where
  header := teid?_nextRequest hk remote elements endpoint
  sent octets can := by
    refine hrest (p := fun state => sent ++ [((endpoint.session id).peer, octets)] <+: state.2)
      (spares.stable_record _) ?_
    rw [outcome_requestAbout hr]
    refine of_outcome_bind (p := fun state => sent ++ [((endpoint.session id).peer, octets)] <+:
      state.2) (spares.sent_request can) fun reply => ?_
    exact ((spares.stable_record _).deliver spares.quiet _ reply).bind fun _ => maintains_pure _
  unsent h := by
    obtain ⟨e, next, hx⟩ := outcome_request_unsent sent spares.quiet h
    rw [outcome_bind, outcome_requestAbout hr, outcome_bind, hx]
    exact ⟨⟨e, rfl⟩, rfl⟩

theorem Spares.asks_modifyBearer (spares : Spares id environment)
    (hr : (endpoint.session id).remoteTeid endpoint.interface = .ok remote)
    (elements : List Element) (sent : List (SocketAddress × Octets)) :
    Asks (endpoint.session id).peer remote .modifyBearerRequest elements (endpoint, sent)
      (outcome environment (modifyBearer id elements) (endpoint, sent)) :=
  spares.asks (by simp) hr fun stable h => stable.of_modifyBearer h

theorem Spares.asks_deleteSession (spares : Spares id environment)
    (hr : (endpoint.session id).remoteTeid endpoint.interface = .ok remote)
    (elements : List Element) (sent : List (SocketAddress × Octets)) :
    Asks (endpoint.session id).peer remote .deleteSessionRequest elements (endpoint, sent)
      (outcome environment (deleteSession id elements) (endpoint, sent)) :=
  spares.asks (by simp) hr fun stable h => stable.of_deleteSession h

/-! ## From the creation of a session on -/

/-- The interfaces in the elements for a create request and in its answer tell the end point that the
answer names from all others. -/
structure TellsApart (interface : UInt8) (elements : List Element) (answer : Message)
    (fteid : Element) : Prop where
  apart : V2.interfaceType fteid ≠ .ok interface
  pgw : ∀ other ∈ answer.field? .pgwS5s8FteidC, V2.interfaceType other ≠ V2.interfaceType fteid
  /-- what the elements name is on the endpoint's interface or on that of its peer -/
  named : ∀ own ∈ (Message.make .v2 .createSessionRequest {} elements).field? .senderFteidC,
    V2.interfaceType own = .ok interface ∨ V2.interfaceType own = V2.interfaceType fteid
  /-- an end point that is not named is on the endpoint's interface if there is such a one -/
  drawn : (Message.make .v2 .createSessionRequest {} elements).field? .senderFteidC = none →
    interface < 64

/-- The end point with which a session is proposed is in no one's way. -/
private theorem Proposal.Fits.own_entry {proposal : Proposal} {answer : Message} {fteid : Element}
    (fits : proposal.Fits client peer elements)
    (apart : TellsApart client.interface elements answer fteid) :
    ∀ entry ∈ proposal.session.teids.entries,
      entry.1 = client.interface ∨ V2.interfaceType fteid = .ok entry.1 := by
  have hentries : proposal.session.teids.entries = [(proposal.interface, proposal.own)] := by
    rw [Proposal.session, Session.setTeid, Session.teids_ofRequest fits.described]
    rfl
  rw [hentries, List.forall_mem_singleton]
  have hi := fits.interface
  rcases fits.origin with hgiven | ⟨hn, -⟩
  · rcases apart.named proposal.sender hgiven with h | h
    · exact .inl (Except.ok.inj (hi.symm.trans h))
    · exact .inr (h.symm.trans hi)
  · obtain ⟨v4, v6, hsender⟩ := fits.drawn hn
    rw [hsender, interfaceType_ofFteid (apart.drawn hn)] at hi
    exact .inl (Except.ok.inj hi).symm

/-- A reply that confirms a session is the one that has come for its request. -/
private theorem message_confirmSession {σ : Type} {environment : Environment (StateM σ)}
    (hq : Quiet environment) {start last : Endpoint × σ} {request : Message} {reply : Reply}
    (h : outcome environment (confirmSession peer request id) start = (.ok reply, last)) :
    ∃ confirmed,
      outcome environment (Endpoint.request peer request) start = (.ok reply.message, confirmed) := by
  rw [confirmSession_eq] at h
  obtain ⟨answer, confirmed, hr, h⟩ := outcome_bind_eq_ok.1 h
  obtain ⟨handled, delivered, -, h⟩ := outcome_bind_eq_ok.1 h
  obtain ⟨_, expected, -, h⟩ := outcome_bind_eq_ok.1 h
  obtain ⟨cause, accepted, -, h⟩ := outcome_bind_eq_ok.1 h
  have hreport : ∀ state : Endpoint × σ,
      outcome environment (report peer id answer cause) state = (.ok reply, last) →
        reply.message = answer := by
    intro state h
    rw [outcome_report hq] at h
    cases h
    rfl
  have hanswer : reply.message = answer := by
    cases handled with
    | true => exact hreport _ h
    | false =>
      obtain ⟨_, _, -, h⟩ := outcome_bind_eq_ok.1 h
      obtain ⟨_, _, -, h⟩ := outcome_bind_eq_ok.1 h
      exact hreport _ h
  exact ⟨confirmed, hanswer ▸ hr⟩

/-- A session that has been created belongs to its peer, and the end point in the answer is the first
on another interface. -/
theorem anchored_createSession {reply : Reply} {fteid : Element}
    (spares : Spares client.sessions.length environment)
    (handlers : ∀ ticket state, (waited environment ticket state).1.handlers = state.1.handlers)
    (created : outcome environment (createSession peer elements) (client, sent) =
      (.ok (id, reply), last))
    (builtin : client.handlers.get? reply.message.type = none)
    (answered : reply.message.field? .senderFteidC = some fteid) (hr : V2.teid fteid = .ok remote)
    (apart : TellsApart client.interface elements reply.message fteid) :
    id = client.sessions.length ∧ ∃ session : Session,
      Anchored id client.interface session.contact last.1 ∧ session.peer = peer ∧
      session.remoteTeid client.interface = .ok remote := by
  obtain ⟨proposal, pool, fits, rfl, h⟩ := createSession_eq_ok spares.quiet created
  refine ⟨rfl, ?_⟩
  -- The session is as it was proposed when the answer comes.
  have hstart : Anchored client.sessions.length client.interface proposal.session.contact
      (enrolled proposal.own proposal.session { client with pool }) :=
    ⟨rfl, proposal.session, session?_enrolled .., rfl⟩
  have hhandlers : (enrolled proposal.own proposal.session { client with pool }).handlers =
      client.handlers := rfl
  generalize enrolled proposal.own proposal.session { client with pool } = start
    at h hstart hhandlers
  obtain ⟨confirmed, hrequest⟩ := message_confirmSession spares.quiet h
  have hconfirmed : Anchored client.sessions.length client.interface proposal.session.contact
      confirmed.1 := by
    have hkept := spares.stable_anchored.request spares.quiet spares.anchored.awaits peer
      proposal.request (start, sent) hstart
    rwa [hrequest] at hkept
  have hkept : confirmed.1.handlers = start.handlers :=
    (keeps_request ⟨fun _ _ => rfl, fun _ _ => rfl, fun _ _ => rfl⟩
      (fun ticket next _ => handlers ticket next)).of_outcome hrequest
  rw [← hhandlers, ← hkept] at builtin
  obtain ⟨-, edited, active, hedited, hactive, hlast, -⟩ :=
    confirmSession_eq_ok spares.quiet hrequest builtin hconfirmed.lt_length h
  have hcontact := Session.contact_of_activate hactive
  have hinterface : last.1.interface = client.interface := by
    have hinterface := spares.interface client.interface
    have hkept := (stable_interface hinterface.custom).confirmSession spares.quiet
      hinterface.awaits client.sessions.length (fun _ _ h _ => h) peer proposal.request
      (start, sent) hstart.interface
    rwa [h] at hkept
  refine ⟨active, ⟨hinterface, active, hlast, rfl⟩, ?_, ?_⟩
  · have hpeer := Session.preserves_applyCreated Session.steady_peer (fun _ _ _ => rfl)
      reply.message (confirmed.1.session client.sessions.length)
    rw [hedited] at hpeer
    have hproposed : proposal.described.peer = peer := Session.peer_of_ofRequest fits.described
    exact (congrArg Prod.fst hcontact).trans (hpeer.trans
      ((congrArg Prod.fst hconfirmed.contact_eq).trans hproposed))
  · rw [Session.remoteTeid_of_contact hcontact]
    have hteids : (confirmed.1.session client.sessions.length).teids = proposal.session.teids :=
      congrArg Prod.snd hconfirmed.contact_eq
    refine Session.remoteTeid_applyCreated hedited answered hr apart.apart ?_ apart.pgw
    rw [hteids]
    exact fits.own_entry apart

/-- Requests about a session that has been created go to its peer, with the end point that the peer has
answered with, if the interfaces tell it from the others. -/
theorem asks_createSession {reply : Reply} {fteid : Element}
    (spares : Spares client.sessions.length environment)
    (handlers : ∀ ticket state, (waited environment ticket state).1.handlers = state.1.handlers)
    (created : outcome environment (createSession peer elements) (client, sent) =
      (.ok (id, reply), last))
    (builtin : client.handlers.get? reply.message.type = none)
    (answered : reply.message.field? .senderFteidC = some fteid) (hr : V2.teid fteid = .ok remote)
    (apart : TellsApart client.interface elements reply.message fteid)
    (later : Later id last state) :
    (state.1.session id).peer = peer ∧
      ∀ {environment}, Spares id environment → ∀ elements,
        Asks peer remote .modifyBearerRequest elements state
          (outcome environment (modifyBearer id elements) state) ∧
        Asks peer remote .deleteSessionRequest elements state
          (outcome environment (deleteSession id elements) state) := by
  obtain ⟨-, session, anchored, rfl, hremote⟩ :=
    anchored_createSession spares handlers created builtin answered hr apart
  have hlater := later.anchored anchored
  have hpeer : (state.1.session id).peer = session.peer := congrArg Prod.fst hlater.contact_eq
  have hteid : (state.1.session id).remoteTeid state.1.interface = .ok remote := by
    rw [hlater.interface, Session.remoteTeid_of_contact hlater.contact_eq, hremote]
  rw [← hpeer]
  exact ⟨rfl, fun spares elements => ⟨spares.asks_modifyBearer hteid elements state.2,
    spares.asks_deleteSession hteid elements state.2⟩⟩

/-! A mobile's endpoint that creates a session in a core network, and its requests about that. -/

private def core : SocketAddress := ⟨.v4 ⟨127, 0, 0, 10⟩, 2123, 0⟩

private def mobile (interface : UInt8) : Endpoint :=
  { make ⟨.v4 ⟨127, 0, 0, 1⟩, 2123, 0⟩ interface 100 {} with
    bound := some ⟨.v4 ⟨127, 0, 0, 1⟩, 2123, 0⟩ }

private def caller : Element := plain .v2 Code.imsi 0 [0x00, 0x01, 0x01, 0, 0, 0, 0, 0xf1]

private def tunnelEnd (interface : UInt8) (teid : UInt32) : Element :=
  V2.ofFteid interface teid none none

/-- The end point of another gateway behind the one that answers. -/
private def farther (interface : UInt8) (teid : UInt32) : Element :=
  { tunnelEnd interface teid with inst := 1 }

private def grantedWith (ends : List Element) : Octets :=
  let answer := Gateway.response .createSessionResponse 100 (V2.ofCause Cause.accepted :: ends)
  (answer.setSequence 101).encode.toOption.getD []

private def approached (interface : UInt8) (elements ends : List Element) :
    Except EndpointError (SessionId × Reply) × Endpoint × List (SocketAddress × Octets) :=
  outcome (Environment.recording.during [.datagram core (grantedWith ends)])
    (createSession core elements) (mobile interface, [])

/-- To whom a datagram goes, and kind and end point of the message in it. -/
private def heading (datagram : SocketAddress × Octets) :
    SocketAddress × Option (Kind × Option UInt32) :=
  (datagram.1, (Message.parse .v2 .strict datagram.2).toOption.map fun message =>
    (message.kind, message.teid?))

/-- What a modification sends that follows the creation of a session. -/
private def following (last : Endpoint × List (SocketAddress × Octets)) :
    List (SocketAddress × Option (Kind × Option UInt32)) :=
  ((outcome .recording (modifyBearer 0 []) last).2.2.drop last.2.length).map heading

/-- A session is created, the client has no handler for the answer, and the peer has answered with the
end point 7. The next request about the session goes to this one. -/
private def Course (interface : UInt8) (elements ends : List Element) (teid : UInt32) : Prop :=
  ∃ reply last, approached interface elements ends = (.ok (0, reply), last) ∧
    (mobile interface).handlers.get? reply.message.type = none ∧
    (reply.message.field? .senderFteidC).map V2.teid = some (.ok 7) ∧
    following last = [(core, some (.modifyBearerRequest, some teid))]

/-- The same, as it is computed. -/
private def isCourse (interface : UInt8) (elements ends : List Element) (teid : UInt32) : Bool :=
  match approached interface elements ends with
  | (.ok (id, reply), last) =>
    id == 0 && ((mobile interface).handlers.get? reply.message.type).isNone &&
      (reply.message.field? .senderFteidC).map V2.teid == some (.ok 7) &&
      following last == [(core, some (.modifyBearerRequest, some teid))]
  | (.error _, _) => false

private theorem course_of_isCourse {interface : UInt8} {elements ends : List Element} {teid : UInt32}
    (h : isCourse interface elements ends teid = true) : Course interface elements ends teid := by
  rw [isCourse] at h
  cases hx : approached interface elements ends with
  | mk result last =>
    cases result with
    | error e =>
      rw [hx] at h
      cases h
    | ok created =>
      rw [hx] at h
      simp only [Bool.and_eq_true, beq_iff_eq, Option.isNone_iff_eq_none] at h
      obtain ⟨⟨⟨hid, hh⟩, hf⟩, hn⟩ := h
      exact ⟨created.2, last, by rw [hx, ← hid], hh, hf, hn⟩

/-- The client names its own end point, and the answer names another one behind the peer. A datagram
that cannot be read arrives before the session is modified. -/
theorem asks_createSession_farther :
    let elements := [caller, tunnelEnd 10 55]
    let ends := [tunnelEnd 11 7, farther 7 9]
    Spares 0 (Environment.recording.during [.datagram core (grantedWith ends)]) ∧
      ∃ reply last fteid, approached 10 elements ends = (.ok (0, reply), last) ∧
        (mobile 10).handlers.get? reply.message.type = none ∧
        reply.message.field? .senderFteidC = some fteid ∧ V2.teid fteid = .ok 7 ∧
        TellsApart 10 elements reply.message fteid ∧
        following last = [(core, some (.modifyBearerRequest, some 7))] ∧
        let state := (outcome .recording (receive core [0x48]) last).2
        Later 0 last state ∧ (state.1.session 0).peer = core ∧
          Asks core 7 .modifyBearerRequest [] state (outcome .recording (modifyBearer 0 []) state) ∧
          Asks core 7 .deleteSessionRequest [] state
            (outcome .recording (deleteSession 0 []) state) := by
  intro elements ends
  have spares : Spares (mobile 10).sessions.length
      (Environment.recording.during [.datagram core (grantedWith ends)]) :=
    (spares_recording 0).during _
  refine ⟨spares, ?_⟩
  obtain ⟨reply, last, created, builtin, hteid, hnext⟩ : Course 10 elements ends 7 :=
    course_of_isCourse (by decide +kernel)
  obtain ⟨fteid, answered, hr⟩ := Option.map_eq_some_iff.1 hteid
  have hinterfaces : (approached 10 elements ends).1.toOption.map (fun created =>
      ((created.2.message.field? .senderFteidC).map V2.interfaceType,
        (created.2.message.field? .pgwS5s8FteidC).map V2.interfaceType)) =
      some (some (.ok 11), some (.ok 7)) := by
    decide +kernel
  simp only [created, Except.toOption, Option.map_some, Option.some.injEq, Prod.mk.injEq,
    answered, Option.map_eq_some_iff] at hinterfaces
  obtain ⟨hfteid, other, hother, hpgw⟩ := hinterfaces
  have hown : (Message.make .v2 .createSessionRequest {} elements).field? .senderFteidC =
      some (tunnelEnd 10 55) := by
    decide +kernel
  have apart : TellsApart 10 elements reply.message fteid := by
    refine ⟨by simp [hfteid], fun found hf => ?_, fun own ho => .inl ?_, fun hn => ?_⟩
    · obtain rfl := Option.some.inj (hother.symm.trans hf)
      rw [hpgw, hfteid]
      decide
    · obtain rfl := Option.some.inj (hown.symm.trans ho)
      exact interfaceType_ofFteid (by decide) ..
    · cases hown.symm.trans hn
  have later : Later 0 last (outcome .recording (receive core [0x48]) last).2 :=
    .received .refl (spares_recording 0) core [0x48]
  obtain ⟨hpeer, asks⟩ := asks_createSession spares
    (handlers_during quiet_recording (fun _ _ _ _ => rfl) _) created builtin answered hr apart later
  exact ⟨reply, last, fteid, created, builtin, answered, hr, apart, hnext, later, hpeer,
    asks (spares_recording 0) []⟩

/-- The request goes elsewhere if the client's end point is on a third interface, if the peer's is on the
client's interface, if the answer names another one on the peer's interface, or if an F-TEID has no room
for the client's interface. -/
theorem astray_createSession :
    Course 11 [caller, tunnelEnd 6 100] [tunnelEnd 10 7] 100 ∧
      Course 10 [caller] [tunnelEnd 10 7, farther 11 100] 100 ∧
      Course 10 [caller] [tunnelEnd 11 7, farther 11 100] 100 ∧
      Course 74 [caller] [tunnelEnd 11 7] 100 := by
  refine ⟨?_, ?_, ?_, ?_⟩ <;> exact course_of_isCourse (by decide +kernel)

end Endpoint
end GtpControl
