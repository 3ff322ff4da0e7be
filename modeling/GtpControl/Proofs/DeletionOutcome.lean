import GtpControl.Proofs.SessionRequests

/-! # Outcomes of deletions: which replies end a session, and which leave everything as it was

Three things are decided apart: whether the reply is one to a delete request, whether the session
goes, and what the caller is told. A peer that does not know the session ends it, and yet the caller
is told that the request was refused. -/
namespace GtpControl.Endpoint
open Endpoint.Action Catalog.V2 Element

/-! ## Waits that leave replies and handlers alone -/

section
variable {σ : Type} {environment : Environment (StateM σ)}

/-- While calls wait, no handlers are installed or removed, and only replies are given to calls. -/
structure Attentive (environment : Environment (StateM σ)) : Prop where
  handlers : ∀ (ticket : Ticket) (state : Endpoint × σ),
    (waited environment ticket state).1.handlers = state.1.handlers
  replies : ∀ (ticket : Ticket) (state : Endpoint × σ),
    state.1.pending.Answered ticket Message.Replying →
      (waited environment ticket state).1.pending.Answered ticket Message.Replying

/-- Handlers have nothing to do with calls. -/
theorem Reaction.pending {request : Message} {peer : SocketAddress} {endpoint next : Endpoint}
    {answer? : Option Message} (reaction : Reaction peer request endpoint next answer?) :
    next.pending = endpoint.pending := by
  cases reaction <;> rfl

theorem Incident.answered_happen (hq : Quiet environment) {ticket : Ticket} {state : Endpoint × σ}
    (custom : Handles environment fun state => state.1.pending.Answered ticket Message.Replying)
    (h : state.1.pending.Answered ticket Message.Replying) (incident : Incident) :
    (incident.happen environment state).1.pending.Answered ticket Message.Replying := by
  cases incident with
  | closed => exact h.cancelAll
  | datagram peer octets =>
    rw [Incident.happen]
    obtain ⟨events, hr⟩ | ⟨sequence, hr⟩ | ⟨message, hp, ⟨events, hr⟩ | ⟨handler, events, -, hr⟩⟩ :=
      receive_cases hq state.1 state.2 peer octets
    · rwa [hr]
    · rwa [hr]
    · rw [hr]
      dsimp only
      rw [callsAfter]
      split
      · next hreply =>
        obtain ⟨hv, hk⟩ := Message.kind_of_parse hp
        rw [Message.isReply, hv] at hreply
        exact h.resolve _ ⟨hk, hreply⟩
      · exact h
    · rw [hr]
      dsimp only
      obtain ⟨after, answer?, reacts⟩ | ⟨name, -, hrun⟩ :=
        run_cases hq handler peer message state.1 state.2
      · rwa [reacts.leaves, reacts.reaction.pending]
      · rw [hrun]
        exact custom name peer message state h

/-- Whatever datagrams arrive, and also if the endpoint is closed. -/
theorem attentive_during (hq : Quiet environment)
    (handlers : ∀ name peer message (state : Endpoint × σ),
      (handled environment name peer message state).2.1.handlers = state.1.handlers)
    (replies : ∀ ticket, Handles environment fun state =>
      state.1.pending.Answered ticket Message.Replying) (incidents : List Incident) :
    Attentive (environment.during incidents) where
  handlers := handlers_during hq handlers incidents
  replies ticket state h := by
    change (incidents.foldl (Incident.happen environment) state).1.pending.Answered ticket _
    induction incidents generalizing state with
    | nil => exact h
    | cons incident incidents ih => exact ih _ (incident.answered_happen hq (replies ticket) h)

end

/-! ## The exchange and what follows it -/

/-- Sends a request about a session to the end point of its peer, and waits for the reply. -/
def askAbout {m : Type → Type} [Monad m] (id : SessionId) (kind : Kind) (elements : List Element) :
    Action m Message := do
  let peer := ((← get).session id).peer
  let teid ← Gateway.peerTeid id
  request peer (.make .v2 kind { teid := some teid } elements)

/-- What an endpoint does when the reply to a delete request has been delivered. -/
def takeLeave {m : Type → Type} [Monad m] (id : SessionId) (peer : SocketAddress)
    (message : Message) (handled : Bool) : Action m Reply := do
  expectReply .deleteSessionResponse message
  let result := acceptedCause .deleteSessionRequest message
  if !handled && isGone result then
    try moveSession id Session.deactivate catch _ => pure ()
    dropSession id
  return { peer, message, cause := some (← MonadExcept.ofExcept result) }

variable {σ : Type} {environment : Environment (StateM σ)} {endpoint : Endpoint} {world : σ}
  {id : SessionId} {elements : List Element} {peer : SocketAddress} {message : Message}

theorem outcome_deleteSession (id : SessionId) (elements : List Element) :
    outcome environment (deleteSession id elements) (endpoint, world) =
      outcome environment (do
        let message ← askAbout id .deleteSessionRequest elements
        let handled ← deliver (endpoint.session id).peer message
        takeLeave id (endpoint.session id).peer message handled) (endpoint, world) := by
  have h : (deleteSession id elements : Action (StateM σ) Reply) =
      requestAbout id .deleteSessionRequest elements >>= fun asked =>
        takeLeave id asked.1 asked.2.1 asked.2.2 := rfl
  simp only [h, requestAbout, askAbout, outcome_bind, outcome_get, outcome_peerTeid]
  cases (endpoint.session id).remoteTeid endpoint.interface with
  | error e => rfl
  | ok remote =>
    simp only [Except.mapError]
    cases outcome environment (request (endpoint.session id).peer
        (.make .v2 .deleteSessionRequest { teid := some remote } elements)) (endpoint, world) with
    | mk result next =>
      cases result with
      | error e => rfl
      | ok message =>
        dsimp only
        cases outcome environment (deliver (endpoint.session id).peer message) next with
        | mk result last => cases result <;> rfl

/-! ## Causes of replies -/

/-- What the cause of a reply says, if there is one and it can be read. -/
def statedCause? (reply : Message) : Option UInt8 :=
  (reply.field? .cause).bind fun element => (V2.cause element).toOption

theorem isAccepted_iff (cause : UInt8) :
    Version.v2.isAccepted cause = true ↔ 16 ≤ cause ∧ cause ≤ 63 := by
  rw [Version.isAccepted, Bool.and_eq_true, decide_eq_true_iff, decide_eq_true_iff,
    UInt8.lt_iff_toNat_lt, UInt8.le_iff_toNat_le, UInt8.le_iff_toNat_le]
  exact and_congr_right fun _ => Nat.lt_succ_iff

theorem acceptedCause_of_stated {cause : UInt8} (h : statedCause? message = some cause)
    (asked : Kind) :
    acceptedCause asked message =
      if Version.v2.isAccepted cause then .ok cause
      else .error (.causeNotAccepted (kindName asked) cause) := by
  obtain ⟨element, he, hc⟩ := Option.bind_eq_some_iff.1 h
  have hread : V2.cause element = .ok cause := by
    cases hr : V2.cause element with
    | error e =>
      rw [hr] at hc
      cases hc
    | ok found =>
      rw [hr] at hc
      exact congrArg Except.ok (Option.some.inj hc)
  simp only [acceptedCause, he, hread]
  rfl

/-- A reply without a legible cause is an error, and not one that says that a session is gone. -/
theorem acceptedCause_of_unstated (h : statedCause? message = none) (asked : Kind) :
    ∃ e, acceptedCause asked message = .error e ∧ isGone (.error e) = false := by
  cases he : message.field? .cause with
  | none => exact ⟨.missingElement Code.cause, by simp only [acceptedCause, he]; rfl, rfl⟩
  | some element =>
    cases hr : V2.cause element with
    | error e => exact ⟨.codec e, by simp only [acceptedCause, he, hr]; rfl, rfl⟩
    | ok cause =>
      rw [statedCause?, he, Option.bind_some, hr] at h
      cases h

theorem acceptedCause_eq_ok {asked : Kind} {cause : UInt8} :
    acceptedCause asked message = .ok cause ↔
      statedCause? message = some cause ∧ 16 ≤ cause ∧ cause ≤ 63 := by
  cases h : statedCause? message with
  | none =>
    obtain ⟨e, he, -⟩ := acceptedCause_of_unstated h asked
    simp [he]
  | some found =>
    rw [acceptedCause_of_stated h, ← isAccepted_iff]
    by_cases ha : Version.v2.isAccepted found = true
    · rw [if_pos ha, Except.ok.injEq, Option.some.injEq]
      exact ⟨fun he => ⟨he, he ▸ ha⟩, And.left⟩
    · rw [if_neg ha]
      refine ⟨nofun, ?_⟩
      rintro ⟨he, hc⟩
      exact absurd (Option.some.inj he ▸ hc) ha

/-- The reply is to a delete request, and it grants that or says that there is no such session. -/
structure Ends (reply : Message) : Prop where
  kind : reply.kind = .deleteSessionResponse
  cause : ∃ cause, statedCause? reply = some cause ∧
    (16 ≤ cause ∧ cause ≤ 63 ∨ cause = Cause.contextNotFound)

theorem isGone_acceptedCause {asked : Kind} :
    isGone (acceptedCause asked message) = true ↔ ∃ cause, statedCause? message = some cause ∧
      (16 ≤ cause ∧ cause ≤ 63 ∨ cause = Cause.contextNotFound) := by
  cases h : statedCause? message with
  | none =>
    obtain ⟨e, he, hgone⟩ := acceptedCause_of_unstated h asked
    simp [he, hgone]
  | some found =>
    rw [acceptedCause_of_stated h]
    simp only [Option.some.injEq, exists_eq_left', ← isAccepted_iff]
    by_cases ha : Version.v2.isAccepted found = true
    · simp [ha, isGone]
    · simp [ha, isGone]

/-! ## What is left of the session -/

theorem setSession_session (id : SessionId) (endpoint : Endpoint) :
    endpoint.setSession id (endpoint.session id) = endpoint := by
  cases h : endpoint.session? id with
  | none => rw [setSession, List.set_eq_of_length_le (List.getElem?_eq_none_iff.1 h)]
  | some session =>
    obtain ⟨hid, hs⟩ := List.getElem?_eq_some_iff.1 h
    rw [Endpoint.session, h, Option.getD_some, ← hs, setSession, List.set_getElem_self]

/-- The endpoint with a session that has ended, and that is registered no more. -/
def withEnded (id : SessionId) (endpoint : Endpoint) : Endpoint :=
  (endpoint.setSession id { endpoint.session id with state := .inactive }).removeSession id

/-- A session that is inactive already stays as it is. -/
theorem outcome_deactivated (id : SessionId) :
    outcome environment
        (tryCatch (moveSession id Session.deactivate) fun _ => pure ()) (endpoint, world) =
      (.ok (), endpoint.setSession id { endpoint.session id with state := .inactive }, world) := by
  rw [outcome_tryCatch, outcome_moveSession, Session.deactivate]
  by_cases h : (endpoint.session id).state = .inactive
  · rw [if_pos h]
    have hsame : { endpoint.session id with state := .inactive } = endpoint.session id := by
      rw [← h]
    rw [hsame, setSession_session]
    rfl
  · rw [if_neg h]
    rfl

/-- What is done and answered when no handler has had the reply. -/
theorem outcome_takeLeave (hk : message.kind = .deleteSessionResponse) :
    outcome environment (takeLeave id peer message false) (endpoint, world) =
      ((acceptedCause .deleteSessionRequest message).map fun cause =>
          { peer, message, cause := some cause },
        if isGone (acceptedCause .deleteSessionRequest message) then endpoint.withEnded id
        else endpoint, world) := by
  rw [takeLeave, outcome_bind, expectReply, if_pos hk, outcome_pure]
  dsimp only
  rw [Bool.not_false, Bool.true_and, outcome_ite]
  split
  · rw [outcome_bind, outcome_deactivated]
    dsimp only
    rw [outcome_bind, dropSession, outcome_modify]
    dsimp only
    rw [outcome_bind]
    cases acceptedCause .deleteSessionRequest message <;> rfl
  · rw [outcome_bind]
    cases acceptedCause .deleteSessionRequest message <;> rfl

/-- A reply to another request leaves the endpoint as its delivery does, and the caller gets an
error. -/
theorem outcome_takeLeave_of_kind_ne (hk : message.kind ≠ .deleteSessionResponse)
    (state : Endpoint × σ) :
    ∃ e, outcome environment (do
        let handled ← deliver peer message
        takeLeave id peer message handled) state =
      (.error e, (outcome environment (deliver peer message) state).2) := by
  rw [outcome_bind]
  cases outcome environment (deliver peer message) state with
  | mk result next =>
    cases result with
    | error e => exact ⟨e, rfl⟩
    | ok handled =>
      dsimp only
      rw [takeLeave, outcome_bind, expectReply, if_neg hk, outcome_throw]
      exact ⟨_, rfl⟩

/-- The type of the replies to delete requests. -/
theorem type_of_replying (replying : message.Replying)
    (hk : message.kind = .deleteSessionResponse) : message.type = 37 := by
  have h := Version.type?_of_kindOf replying.kind (by rw [hk]; nofun)
  rw [hk] at h
  exact (Option.some.inj h).symm

theorem outcome_askAbout (id : SessionId) (kind : Kind) (elements : List Element) :
    outcome environment (askAbout id kind elements) (endpoint, world) =
      match (endpoint.session id).remoteTeid endpoint.interface with
      | .ok remote =>
        outcome environment (request (endpoint.session id).peer
          (.make .v2 kind { teid := some remote } elements)) (endpoint, world)
      | .error e => (.error (.session e), endpoint, world) := by
  simp only [askAbout, outcome_bind, outcome_get, outcome_peerTeid]
  cases (endpoint.session id).remoteTeid endpoint.interface <;> rfl

/-- Who asks gets a reply as it was read, or none. -/
theorem replying_of_askAbout (attentive : Attentive environment)
    (calls : endpoint.pending.Reachable) {kind : Kind} {last : Endpoint × σ}
    (h : outcome environment (askAbout id kind elements) (endpoint, world) = (.ok message, last)) :
    message.Replying := by
  rw [outcome_askAbout] at h
  split at h
  · exact answered_of_request calls.numbered (fun ticket next _ => attentive.replies ticket next) h
  · cases h

/-- Asking changes no more of what has nothing to do with calls than the wait does. -/
theorem keeps_askAbout {τ : Type} {part : Endpoint → τ} (lasting : Lasting part)
    (hw : ∀ ticket next, part (waited environment ticket next).1 = part next.1) (kind : Kind) :
    Keeps environment part (askAbout id kind elements) (endpoint, world) := by
  rw [Keeps, outcome_askAbout]
  split
  · exact keeps_request lasting fun ticket next _ => hw ticket next
  · rfl

theorem handlers_of_askAbout (attentive : Attentive environment) {kind : Kind}
    {result : Except EndpointError Message} {last : Endpoint × σ}
    (h : outcome environment (askAbout id kind elements) (endpoint, world) = (result, last)) :
    last.1.handlers = endpoint.handlers :=
  (keeps_askAbout ⟨fun _ _ => rfl, fun _ _ => rfl, fun _ _ => rfl⟩ attentive.handlers _ :
    Keeps environment Endpoint.handlers _ _).of_outcome h

/-- The session has ended, and is found by no number and no subscriber any more. Nothing else has
changed. -/
structure Departed (id : SessionId) (before after : Endpoint) : Prop where
  left : after = before.withEnded id
  session : ∀ session, before.session? id = some session →
    after.session? id = some { session with state := .inactive }
  numbers : ∀ teid, ¬after.registry.Binds teid id
  subscribers : ∀ imsi, after.registry.lookupImsi imsi ≠ .ok id

theorem departed_withEnded (id : SessionId) (endpoint : Endpoint) :
    Departed id endpoint (endpoint.withEnded id) where
  left := rfl
  session session h := by
    have hid : id < endpoint.sessions.length := (List.getElem?_eq_some_iff.1 h).1
    have hsession : endpoint.session id = session := by rw [Endpoint.session, h, Option.getD_some]
    rw [withEnded, hsession]
    exact session?_setSession hid _
  numbers := Registry.not_binds_remove endpoint.registry id
  subscribers imsi h := by
    obtain ⟨front, back, he, -⟩ := List.lookup_eq_some_iff.1 (Registry.lookupImsi_eq_ok.1 h)
    have hm : (imsi, id) ∈ (endpoint.registry.remove id).byImsi.entries := by
      change (imsi, id) ∈ ((endpoint.withEnded id).registry).byImsi.entries
      rw [he]
      exact List.mem_append_right _ List.mem_cons_self
    simp [Registry.remove, Registry.dropImsis, Bindings.filter] at hm

/-- An exchange that fails is the end of the deletion. -/
theorem deleteSession_of_error {e : EndpointError} {last : Endpoint × σ}
    (h : outcome environment (askAbout id .deleteSessionRequest elements) (endpoint, world) =
      (.error e, last)) :
    outcome environment (deleteSession id elements) (endpoint, world) = (.error e, last) := by
  rw [outcome_deleteSession, outcome_bind, h]

/-- After an exchange that has brought a reply, its kind and its cause decide. -/
theorem deleteSession_of_reply (attentive : Attentive environment)
    (calls : endpoint.pending.Reachable) (unhandled : endpoint.handlers.get? 37 = none)
    {next : Endpoint} {world' : σ}
    (h : outcome environment (askAbout id .deleteSessionRequest elements) (endpoint, world) =
      (.ok message, next, world')) :
    (message.kind ≠ .deleteSessionResponse ∧ ∃ e,
        outcome environment (deleteSession id elements) (endpoint, world) = (.error e,
          (outcome environment (deliver (endpoint.session id).peer message) (next, world')).2)) ∨
      message.kind = .deleteSessionResponse ∧
        outcome environment (deleteSession id elements) (endpoint, world) =
          ((acceptedCause .deleteSessionRequest message).map fun cause =>
              { peer := (endpoint.session id).peer, message, cause := some cause },
            if isGone (acceptedCause .deleteSessionRequest message) then next.withEnded id
            else next, world') := by
  have replying := replying_of_askAbout attentive calls h
  rw [outcome_deleteSession, outcome_bind, h]
  by_cases hk : message.kind = .deleteSessionResponse
  · have hnone : next.handlers.get? message.type = none := by
      rw [handlers_of_askAbout attentive h, type_of_replying replying hk, unhandled]
    refine .inr ⟨hk, ?_⟩
    dsimp only
    rw [outcome_bind, outcome_deliver hnone]
    exact outcome_takeLeave hk
  · exact .inl ⟨hk, outcome_takeLeave_of_kind_ne hk _⟩

/-- The endpoint after a reply, for any kind and cause. -/
theorem left_of_reply (attentive : Attentive environment) (calls : endpoint.pending.Reachable)
    (unhandled : endpoint.handlers.get? 37 = none) {next : Endpoint} {world' : σ}
    (h : outcome environment (askAbout id .deleteSessionRequest elements) (endpoint, world) =
      (.ok message, next, world')) :
    (Ends message →
        (outcome environment (deleteSession id elements) (endpoint, world)).2.1 =
          next.withEnded id) ∧
      (¬Ends message →
        (outcome environment (deleteSession id elements) (endpoint, world)).2.1 =
          match endpoint.custom? message.type with
          | none => next
          | some name =>
            (handled environment name (endpoint.session id).peer message (next, world')).2.1) := by
  have replying := replying_of_askAbout attentive calls h
  have hcustom : next.custom? message.type = endpoint.custom? message.type := by
    rw [custom?, custom?, handlers_of_askAbout attentive h]
  obtain ⟨hk, e, hran⟩ | ⟨hk, hran⟩ := deleteSession_of_reply attentive calls unhandled h
  · rw [hran, left_deliver replying, hcustom]
    exact ⟨fun ends => absurd ends.kind hk, fun _ => rfl⟩
  · have hnone : endpoint.custom? message.type = none := by
      rw [custom?, type_of_replying replying hk, unhandled, Option.bind_none]
    rw [hran, hnone]
    refine ⟨fun ends => if_pos (isGone_acceptedCause.2 ends.cause), fun hn => if_neg fun hg => ?_⟩
    exact hn ⟨hk, isGone_acceptedCause.1 hg⟩

/-- Only a reply that grants the request is a success. -/
theorem deleteSession_eq_ok_iff (attentive : Attentive environment)
    (calls : endpoint.pending.Reachable) (unhandled : endpoint.handlers.get? 37 = none)
    {next : Endpoint} {world' : σ}
    (h : outcome environment (askAbout id .deleteSessionRequest elements) (endpoint, world) =
      (.ok message, next, world')) (reply : Reply) :
    (outcome environment (deleteSession id elements) (endpoint, world)).1 = .ok reply ↔
      message.kind = .deleteSessionResponse ∧ ∃ cause, statedCause? message = some cause ∧
        16 ≤ cause ∧ cause ≤ 63 ∧
        { peer := (endpoint.session id).peer, message, cause := some cause } = reply := by
  obtain ⟨hk, e, hran⟩ | ⟨hk, hran⟩ := deleteSession_of_reply attentive calls unhandled h
  · rw [hran]
    exact iff_of_false nofun fun hr => hk hr.1
  · have hmap : ∀ result : Except EndpointError UInt8,
        (result.map fun cause =>
          ({ peer := (endpoint.session id).peer, message, cause := some cause } : Reply)) =
            .ok reply ↔ ∃ cause, result = .ok cause ∧
              { peer := (endpoint.session id).peer, message, cause := some cause } = reply := by
      rintro (e | cause) <;> simp [Except.map]
    rw [hran, hmap]
    simp only [acceptedCause_eq_ok, hk, true_and, and_assoc]

/-- A reply that the user has a handler for does not end a session. -/
private theorem not_ends_of_custom (replying : message.Replying)
    (unhandled : endpoint.handlers.get? 37 = none) {name : String}
    (hc : endpoint.custom? message.type = some name) : ¬Ends message := fun ends => by
  rw [custom?, type_of_replying replying ends.kind, unhandled] at hc
  cases hc

/-- Whatever comes of the exchange: the session ends exactly when the reply is one to a delete
request that grants it or does not know the session, and otherwise all is left as the exchange has
left it, which is as it was unless others have worked on the tables meanwhile. A reply to another
request may go to a handler of the user, and then all is left as this leaves it. -/
theorem deletion_outcome (attentive : Attentive environment) (calls : endpoint.pending.Reachable)
    (unhandled : endpoint.handlers.get? 37 = none) (id : SessionId) (elements : List Element)
    (world : σ) :
    let asked := outcome environment (askAbout id .deleteSessionRequest elements) (endpoint, world)
    let ran := outcome environment (deleteSession id elements) (endpoint, world)
    ((∃ reply, asked.1 = .ok reply ∧ Ends reply) → Departed id asked.2.1 ran.2.1) ∧
      ((∀ reply, asked.1 = .ok reply → ¬Ends reply ∧ endpoint.custom? reply.type = none) →
        ran.2.1 = asked.2.1) ∧
      (∀ reply name, asked.1 = .ok reply → endpoint.custom? reply.type = some name →
        ran.2.1 = (handled environment name (endpoint.session id).peer reply asked.2).2.1) ∧
      (∀ reply, ran.1 = .ok reply ↔ ∃ message, asked.1 = .ok message ∧
        message.kind = .deleteSessionResponse ∧ ∃ cause, statedCause? message = some cause ∧
          16 ≤ cause ∧ cause ≤ 63 ∧
          { peer := (endpoint.session id).peer, message, cause := some cause } = reply) ∧
      ((∀ ticket next, (waited environment ticket next).1.tables = next.1.tables) →
        asked.2.1.tables = endpoint.tables) := by
  intro asked ran
  have hasked : ∀ {result}, asked.1 = result → asked = (result, asked.2.1, asked.2.2) :=
    fun hr => Prod.ext hr rfl
  refine ⟨?_, fun hn => ?_, fun reply name hr hc => ?_, fun reply => ?_, fun hw => ?_⟩
  · rintro ⟨reply, hr, ends⟩
    rw [(left_of_reply attentive calls unhandled (hasked hr)).1 ends]
    exact departed_withEnded id _
  · cases hr : asked.1 with
    | error e => exact congrArg (·.2.1) (deleteSession_of_error (hasked hr))
    | ok message =>
      obtain ⟨ends, hc⟩ := hn message hr
      have hleft := (left_of_reply attentive calls unhandled (hasked hr)).2 ends
      rwa [hc] at hleft
  · have replying := replying_of_askAbout attentive calls (hasked hr)
    have hleft := (left_of_reply attentive calls unhandled (hasked hr)).2
      (not_ends_of_custom replying unhandled hc)
    rwa [hc] at hleft
  · cases hr : asked.1 with
    | error e =>
      have hran : ran.1 = .error e := congrArg (·.1) (deleteSession_of_error (hasked hr))
      simp [hran]
    | ok message =>
      rw [deleteSession_eq_ok_iff attentive calls unhandled (hasked hr) reply]
      simp
  · exact keeps_askAbout ⟨fun _ _ => rfl, fun _ _ => rfl, fun _ _ => rfl⟩ hw _

/-! A client whose peer answers that it has no such session. -/

private def remainder : Session where
  peer := ⟨.v4 ⟨127, 0, 0, 10⟩, 2123, 0⟩
  state := .active
  subscriber := { imsi := some "001010000000001" }
  teids := ⟨[(10, 100), (11, 7)]⟩

private def leaver : Endpoint :=
  { make ⟨.v4 ⟨127, 0, 0, 1⟩, 2123, 0⟩ 10 100 {} with
    bound := some ⟨.v4 ⟨127, 0, 0, 1⟩, 2123, 0⟩
    sessions := [remainder]
    registry := Registry.after [.register 100 0 remainder] }

private def disowning : Environment (StateM (List (SocketAddress × Octets))) :=
  Environment.recording.during [.datagram remainder.peer
    [0x48, 37, 0, 14, 0, 0, 0, 100, 0, 0, 101, 0, 2, 0, 2, 0, 64, 0]]

/-- The session ends, though the deletion fails. -/
theorem deletion_outcome_leaver :
    let asked := outcome disowning (askAbout 0 .deleteSessionRequest []) (leaver, [])
    let ran := outcome disowning (deleteSession 0 []) (leaver, [])
    Attentive disowning ∧ leaver.pending.Reachable ∧ leaver.handlers.get? 37 = none ∧
      (∃ reply, asked.1 = .ok reply ∧ Ends reply) ∧ ran.1.toOption.isNone = true ∧
      ((∃ reply, asked.1 = .ok reply ∧ Ends reply) → Departed 0 asked.2.1 ran.2.1) ∧
      ((∀ reply, asked.1 = .ok reply → ¬Ends reply ∧ leaver.custom? reply.type = none) →
        ran.2.1 = asked.2.1) ∧
      (∀ reply name, asked.1 = .ok reply → leaver.custom? reply.type = some name →
        ran.2.1 = (handled disowning name (leaver.session 0).peer reply asked.2).2.1) ∧
      (∀ reply, ran.1 = .ok reply ↔ ∃ message, asked.1 = .ok message ∧
        message.kind = .deleteSessionResponse ∧ ∃ cause, statedCause? message = some cause ∧
          16 ≤ cause ∧ cause ≤ 63 ∧
          { peer := (leaver.session 0).peer, message, cause := some cause } = reply) ∧
      ((∀ ticket next, (waited disowning ticket next).1.tables = next.1.tables) →
        asked.2.1.tables = leaver.tables) := by
  intro asked ran
  have attentive : Attentive disowning :=
    attentive_during quiet_recording (fun _ _ _ _ => rfl) (fun _ => handles_recording _) _
  have calls : leaver.pending.Reachable := .empty
  have unhandled : leaver.handlers.get? 37 = none := by decide
  have heard : asked.1.toOption.map (fun reply => (reply.kind, statedCause? reply)) =
      some (.deleteSessionResponse, some 64) := by
    decide +kernel
  have ended : ∃ reply, asked.1 = .ok reply ∧ Ends reply := by
    cases hr : asked.1 with
    | error e =>
      rw [hr] at heard
      cases heard
    | ok reply =>
      rw [hr] at heard
      obtain ⟨hk, hc⟩ := Prod.mk.inj (Option.some.inj heard)
      exact ⟨reply, rfl, hk, 64, hc, .inr rfl⟩
  exact ⟨attentive, calls, unhandled, ended, by decide +kernel,
    deletion_outcome attentive calls unhandled 0 [] []⟩

/-- Surroundings in which the user's handlers give up the first session. -/
private def discarding : Environment (StateM (List (SocketAddress × Octets))) :=
  { Environment.recording with
    custom := fun _ _ _ endpoint sent => ((.ok (), endpoint.removeSession 0), sent) }

/-- The peer answers with a Create Session Response. -/
private def confusing : Environment (StateM (List (SocketAddress × Octets))) :=
  discarding.during [.datagram remainder.peer
    [0x48, 33, 0, 14, 0, 0, 0, 100, 0, 0, 101, 0, 2, 0, 2, 0, 16, 0]]

/-- The client with a handler of its user for Create Session Responses. -/
private def delegating : Endpoint :=
  { leaver with handlers := leaver.handlers.insert 33 (.custom "discard") }

/-- The reply is to another request and the exchange leaves the tables as they were, and yet the session
is registered no more: the user's handler has had the reply. -/
theorem deletion_outcome_delegating :
    let asked := outcome confusing (askAbout 0 .deleteSessionRequest []) (delegating, [])
    let ran := outcome confusing (deleteSession 0 []) (delegating, [])
    Attentive confusing ∧ delegating.pending.Reachable ∧ delegating.handlers.get? 37 = none ∧
      (∃ reply, asked.1 = .ok reply ∧ ¬Ends reply) ∧
      asked.2.1.tables = delegating.tables ∧ delegating.registry.Binds 100 0 ∧
      (∀ teid, ¬ran.2.1.registry.Binds teid 0) ∧
      (∀ imsi, ran.2.1.registry.lookupImsi imsi ≠ .ok 0) := by
  intro asked ran
  have attentive : Attentive confusing :=
    attentive_during (fun _ _ _ => rfl : Quiet discarding) (fun _ _ _ _ => rfl)
      (fun _ _ _ _ _ h => h) _
  have heard : asked.1.toOption.map (·.kind) = some .createSessionResponse := by decide +kernel
  have foreign : ∃ reply, asked.1 = .ok reply ∧ ¬Ends reply := by
    cases hr : asked.1 with
    | error e =>
      rw [hr] at heard
      cases heard
    | ok reply =>
      rw [hr] at heard
      refine ⟨reply, rfl, fun ends => ?_⟩
      cases ends.kind.symm.trans (Option.some.inj heard)
  have hregistry : ran.2.1.registry = {} := by decide +kernel
  refine ⟨attentive, .empty, by decide, foreign, by decide +kernel,
    ⟨⟨0, remainder.peer⟩, by decide, rfl⟩, fun teid hb => ?_, fun imsi hi => ?_⟩
  · rw [hregistry] at hb
    obtain ⟨entry, he, -⟩ := hb
    cases he
  · rw [hregistry] at hi
    cases hi

end GtpControl.Endpoint
