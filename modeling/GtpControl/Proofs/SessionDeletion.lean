import GtpControl.Proofs.PeerBoundary
import GtpControl.Proofs.RequestAnswers

/-! # Deletion: a client can end the sessions that it has created

A gateway finds the end point of a client as the first that is on another interface than its own. For a
client on another interface that is the end point of its create request, for as long as the session
lasts. -/
namespace GtpControl
open Catalog.V2 Element

namespace Session
variable {interface : UInt8} {remote : UInt32} {session next : Session}

/-- A session that may be deleted, and the end point that is told of it. -/
structure Closable (interface : UInt8) (remote : UInt32) (session : Session) : Prop where
  state : session.state = .active ∨ session.state = .idle
  remote : session.remoteTeid interface = .ok remote

theorem Closable.of_standing (closable : session.Closable interface remote)
    (h : next.standing = session.standing) : next.Closable interface remote := by
  obtain ⟨hstate, hrest⟩ := Prod.mk.inj h
  obtain ⟨-, hteids⟩ := Prod.mk.inj hrest
  refine ⟨hstate ▸ closable.state, ?_⟩
  rw [remoteTeid, hteids]
  exact closable.remote

theorem Closable.resume (closable : session.Closable interface remote)
    (h : session.resume = .ok next) : next.Closable interface remote := by
  rw [Session.resume] at h
  split at h
  · obtain ⟨-, -, rfl⟩ := activate_eq_ok.1 h
    exact ⟨.inl rfl, closable.remote⟩
  · cases h
    exact closable

theorem Closable.setIdle (closable : session.Closable interface remote)
    (h : session.setIdle = .ok next) : next.Closable interface remote := by
  rw [Session.setIdle] at h
  split at h
  · cases h
    exact ⟨.inr rfl, closable.remote⟩
  · cases h

theorem Closable.deactivate (closable : session.Closable interface remote) :
    session.deactivate = .ok { session with state := .inactive } := by
  refine if_neg fun h => ?_
  rcases closable.state with hs | hs <;> rw [h] at hs <;> cases hs

/-- Of two end points the one on the other interface is the peer's. -/
theorem remoteTeid_setTeid {described : Session} (h : described.teids = {}) {own : UInt32}
    {ownInterface : UInt8} (hne : interface ≠ ownInterface) :
    ((described.setTeid interface remote).setTeid ownInterface own).remoteTeid ownInterface =
      .ok remote := by
  have hentries : ((described.setTeid interface remote).setTeid ownInterface own).teids.entries =
      [(interface, remote), (ownInterface, own)] := by
    simp only [setTeid, h, Bindings.insert, Bindings.put, if_neg hne]
  rw [remoteTeid, hentries, List.find?_cons_of_pos (by simpa using hne)]
  rfl

end Session

namespace Endpoint
open Endpoint.Action
variable {endpoint next : Endpoint} {client peer : SocketAddress} {own remote : UInt32}
  {id : SessionId} {request : Message} {answer? : Option Message}

/-! ## Sessions that last -/

/-- A gateway has a session of a client under a number, and under no other, and can delete it. -/
structure Tenancy (client : SocketAddress) (own remote : UInt32) (id : SessionId)
    (endpoint : Endpoint) : Prop where
  bound : endpoint.bound.isSome = true
  gateway : endpoint.IsGateway
  coherent : endpoint.registry.Coherent
  entry : endpoint.registry.byTeid.get? own = some ⟨id, client⟩
  single : ∀ teid, endpoint.registry.Binds teid id → teid = own
  session : ∃ session, endpoint.session? id = some session ∧
    session.Closable endpoint.interface remote

theorem Tenancy.concerns_iff (tenancy : Tenancy client own remote id endpoint) :
    endpoint.Concerns peer request id ↔
      request.teid?.getD 0 = own ∧ peer.ip = client.ip := by
  rw [Concerns, Registry.lookupTeid_eq_ok]
  constructor
  · rintro ⟨entry, he, hid, hp⟩
    have hown := tenancy.single _ ⟨entry, he, hid⟩
    rw [hown, tenancy.entry] at he
    obtain rfl := Option.some.inj he
    exact ⟨hown, hp.symm⟩
  · rintro ⟨rfl, hp⟩
    exact ⟨_, tenancy.entry, rfl, hp.symm⟩

theorem Tenancy.lt_length (tenancy : Tenancy client own remote id endpoint) :
    id < endpoint.sessions.length := by
  obtain ⟨session, hs, -⟩ := tenancy.session
  exact (List.getElem?_eq_some_iff.1 hs).1

theorem Tenancy.closable (tenancy : Tenancy client own remote id endpoint) :
    (endpoint.session id).Closable endpoint.interface remote := by
  obtain ⟨session, hs, closable⟩ := tenancy.session
  rw [Endpoint.session, hs]
  exact closable

/-- Some session changes. The client's one may change too if it can still be deleted. -/
theorem Tenancy.setSession (tenancy : Tenancy client own remote id endpoint) {other : SessionId}
    {session : Session} (h : other = id → session.Closable endpoint.interface remote) :
    Tenancy client own remote id (endpoint.setSession other session) where
  bound := tenancy.bound
  gateway := tenancy.gateway
  coherent := tenancy.coherent
  entry := tenancy.entry
  single := tenancy.single
  session := exists_session?_setSession tenancy.session h

theorem Tenancy.removeSession (tenancy : Tenancy client own remote id endpoint) {other : SessionId}
    (h : id ≠ other) : Tenancy client own remote id (endpoint.removeSession other) where
  bound := tenancy.bound
  gateway := tenancy.gateway
  coherent := Registry.coherent_remove tenancy.coherent other
  entry := (Registry.get?_byTeid_remove tenancy.coherent.teids).2 ⟨tenancy.entry, h⟩
  single teid hb := tenancy.single teid ((Registry.binds_remove tenancy.coherent.teids).1 hb).1
  session := tenancy.session

/-- Others get other numbers. -/
theorem Tenancy.withGrant (tenancy : Tenancy client own remote id endpoint) {grant : Grant}
    {pool : TeidPool} (draws : endpoint.Draws grant.own pool) :
    Tenancy client own remote id (endpoint.withGrant grant pool) where
  bound := tenancy.bound
  gateway := tenancy.gateway
  coherent := Registry.coherent_register tenancy.coherent ..
  entry := (extends_withGrant draws).registry own _ tenancy.entry
  single teid hb := by
    rw [binds_withGrant] at hb
    split at hb
    · exact absurd hb (Nat.ne_of_lt tenancy.lt_length)
    · exact tenancy.single teid hb
  session := by
    obtain ⟨session, hs, closable⟩ := tenancy.session
    exact ⟨session, (extends_withGrant draws).sessions id session hs, closable⟩

theorem Tenancy.aside (tenancy : Tenancy client own remote id endpoint)
    (pool : TeidPool) (pending : Pending) (events : List Event) :
    Tenancy client own remote id { endpoint with pool, pending, events } :=
  ⟨tenancy.bound, tenancy.gateway, tenancy.coherent, tenancy.entry, tenancy.single, tenancy.session⟩

theorem Tenancy.apart (tenancy : Tenancy client own remote id endpoint) (apart : Apart endpoint next)
    (gateway : next.IsGateway) : Tenancy client own remote id next where
  bound := apart.bound tenancy.bound
  gateway := gateway
  coherent := apart.registry ▸ tenancy.coherent
  entry := apart.registry ▸ tenancy.entry
  single teid hb := tenancy.single teid (apart.registry ▸ hb)
  session := by
    rw [apart.interface, apart.sessions own id ⟨_, tenancy.entry, rfl⟩]
    exact tenancy.session

/-- Whatever a handler does, the client's session stays, unless it is asked to be deleted. -/
theorem Tenancy.reaction (tenancy : Tenancy client own remote id endpoint)
    (reaction : Reaction peer request endpoint next answer?)
    (other : request.kind = .deleteSessionRequest → ¬endpoint.Concerns peer request id) :
    Tenancy client own remote id next := by
  have hedited : ∀ id' (result : Coded (List Element)) edited,
      (Session.applyModification request).run (endpoint.session id') = (result, edited) →
        Tenancy client own remote id (endpoint.setSession id' edited) := by
    intro id' result edited he
    refine tenancy.setSession fun h => ?_
    subst h
    have hkept := Session.preserves_applyModification Session.steady_standing request
      (endpoint.session id')
    rw [he] at hkept
    exact tenancy.closable.of_standing hkept
  cases reaction with
  | idle | echoed | incomplete | unknown => exact tenancy
  | drawn => exact tenancy.aside ..
  | created _ draws => exact tenancy.withGrant draws
  | disturbed _ _ he => exact hedited _ _ _ he
  | modified _ _ _ he hs =>
    refine (hedited _ _ _ he).setSession fun h => ?_
    subst h
    exact (hedited _ _ _ he).closable.resume hs
  | @deleted id' _ _ hk concerns =>
    have hne : id ≠ id' := by
      rintro rfl
      exact other hk concerns
    exact (tenancy.setSession fun h => absurd h.symm hne).removeSession hne
  | released _ _ _ hs =>
    refine tenancy.setSession fun h => ?_
    subst h
    exact tenancy.closable.setIdle hs

/-- The datagram is a request of the client to delete the session that it has under the number. -/
def Deletes (endpoint : Endpoint) (client : SocketAddress) (own : UInt32) (peer : SocketAddress)
    (octets : Octets) : Prop :=
  ∃ request,
    Message.parse .v2 endpoint.settings.lengthPolicy (endpoint.seen octets) = .ok request ∧
    request.kind = .deleteSessionRequest ∧ request.teid?.getD 0 = own ∧ peer.ip = client.ip

/-- Whatever is received, the client's session stays, unless the client deletes it. -/
theorem Tenancy.received (tenancy : Tenancy client own remote id endpoint)
    (sent : List (SocketAddress × Octets)) (octets : Octets)
    (other : ¬endpoint.Deletes client own peer octets) :
    Tenancy client own remote id
      (outcome .recording (receive peer octets) (endpoint, sent)).2.1 := by
  obtain ⟨events, h⟩ | ⟨sequence, h⟩ | ⟨message, hp, ⟨events, h⟩ | ⟨handler, events, -, h⟩⟩ :=
    receive_cases quiet_recording endpoint sent peer octets
  -- It cannot be read, or is of another version, or is for a call, or goes to a handler.
  · rw [h]
    exact tenancy.aside ..
  · rw [h]
    exact tenancy
  · rw [h]
    exact tenancy.aside ..
  · rw [h]
    obtain ⟨next, answer?, reacts⟩ :=
      reacts_run quiet_recording idle_recording handler peer message endpoint sent
    rw [reacts.leaves]
    refine (tenancy.reaction reacts.reaction fun hk concerns => ?_).aside ..
    obtain ⟨hown, hip⟩ := tenancy.concerns_iff.1 concerns
    exact other ⟨message, hp, hk, hown, hip⟩

/-- What a gateway comes to from one state on by all that it receives, and by what else it does, while
the client does not delete the session that it has under the number. -/
inductive Meanwhile (client : SocketAddress) (own : UInt32)
    (start : Endpoint × List (SocketAddress × Octets)) :
    Endpoint × List (SocketAddress × Octets) → Prop
  | refl : Meanwhile client own start start
  | received {state : Endpoint × List (SocketAddress × Octets)}
    (before : Meanwhile client own start state) (peer : SocketAddress) (octets : Octets)
    (other : ¬state.1.Deletes client own peer octets) :
    Meanwhile client own start (outcome .recording (receive peer octets) state).2
  /-- the gateway, or a handler of its user, does something else, which has nothing to do with the
  sessions -/
  | apart {state next : Endpoint × List (SocketAddress × Octets)}
    (before : Meanwhile client own start state) (apart : Apart state.1 next.1)
    (gateway : state.1.IsGateway → next.1.IsGateway) : Meanwhile client own start next

theorem Meanwhile.tenancy {start later : Endpoint × List (SocketAddress × Octets)}
    (meanwhile : Meanwhile client own start later)
    (tenancy : Tenancy client own remote id start.1) : Tenancy client own remote id later.1 := by
  induction meanwhile with
  | refl => exact tenancy
  | @received state _ peer octets other ih => exact ih.received state.2 octets other
  | apart _ apart gateway ih => exact ih.apart apart (gateway ih.gateway)

/-! ## From the creation of a session on -/

/-- A create request is received, and is accepted with an end point of this number. -/
structure Admitted (state : Endpoint × List (SocketAddress × Octets)) (client : SocketAddress)
    (octets : Octets) (request : Message) (own : UInt32) : Prop where
  parsed : Message.parse .v2 state.1.settings.lengthPolicy (state.1.seen octets) = .ok request
  kind : request.kind = .createSessionRequest
  answered : ∃ octets' answer fteid,
    (outcome .recording (receive client octets) state).2.2 = state.2 ++ [(client, octets')] ∧
    Message.parse .v2 .strict octets' = .ok answer ∧
    answer.accepts .createSessionResponse = true ∧
    answer.field? .senderFteidC = some fteid ∧ V2.teid fteid = .ok own

/-- What a run of a handler has sent is its answer. -/
theorem Reacts.parse_of_sent {sent : List (SocketAddress × Octets)} {octets : Octets}
    {ran : Except EndpointError Unit × Endpoint × List (SocketAddress × Octets)}
    (reacts : Reacts .recording peer request (endpoint, sent) ran next answer?)
    (hb : next.bound.isSome = true) (sound : ∀ x ∈ request.elements, Element.Sound .v2 x)
    (h : ran.2.2 = sent ++ [(client, octets)]) :
    ∃ answer, answer? = some answer ∧
      Message.parse .v2 .strict octets = .ok (answer.setSequence request.sequence) := by
  have hsilent : sent ≠ sent ++ [(client, octets)] := by simp
  have hstate := congrArg Prod.snd reacts.state
  rw [h] at hstate
  cases answer? with
  | none => exact absurd hstate.symm hsilent
  | some answer =>
    obtain ⟨hsound, hv⟩ := reacts.reaction.sound sound
    obtain ⟨hsound, hv⟩ := hsound.setSequence hv request.sequence
    rw [answering, respond, outcome_send_recording hb] at hstate
    cases he : (answer.setSequence request.sequence).encode with
    | error e =>
      rw [he] at hstate
      exact absurd hstate.symm hsilent
    | ok octets' =>
      rw [he] at hstate
      obtain ⟨-, rfl⟩ := Prod.mk.inj (List.singleton_inj.1 (List.append_cancel_left hstate))
      exact ⟨answer, rfl, hsound.parse_v2 hv he .strict⟩

theorem Grant.Holds.closable {gateway : Endpoint} {grant : Grant}
    (holds : grant.Holds client request gateway) (hne : grant.interface ≠ gateway.interface) :
    grant.session.Closable gateway.interface grant.remote where
  state := holds.serves.state
  remote := by
    rw [Session.remoteTeid, holds.teids]
    exact Session.remoteTeid_setTeid (Session.teids_ofRequest holds.described) hne

/-- A session that is admitted lasts from then on, if its client is on another interface. -/
theorem Admitted.tenancy {sent : List (SocketAddress × Octets)} {octets : Octets}
    (admitted : Admitted (endpoint, sent) client octets request own)
    (reachable : Reachable endpoint) (bound : endpoint.bound.isSome = true)
    (gateway : endpoint.IsGateway)
    (apart : ∀ sender ∈ request.field? .senderFteidC,
      V2.interfaceType sender ≠ .ok endpoint.interface) :
    ∃ sender remote id, request.field? .senderFteidC = some sender ∧ V2.teid sender = .ok remote ∧
      Tenancy client own remote id
        (outcome .recording (receive client octets) (endpoint, sent)).2.1 := by
  obtain ⟨hp, hk, octets', answer, fteid, hsent, hanswer, haccepts, hfteid, hown⟩ := admitted
  obtain ⟨handler, hh, -, hrequest⟩ := gateway.takes hp (by rw [hk]; rfl)
  obtain ⟨events, hran⟩ := outcome_receive_request quiet_recording hp hrequest hh
  obtain ⟨next, answer?, reacts⟩ :=
    reacts_run quiet_recording idle_recording handler client request endpoint sent
  have hb : next.bound.isSome = true := by
    rw [reacts.reaction.bound]
    exact bound
  rw [hran] at hsent ⊢
  obtain ⟨answer', rfl, hparsed⟩ :=
    reacts.parse_of_sent hb (Message.sound_of_mem_of_parse hp) hsent
  obtain rfl := Except.ok.inj (hparsed.symm.trans hanswer)
  rw [accepts_setSequence] at haccepts
  obtain ⟨grant, pool, draws, hid, holds, hnext, hreply⟩ := reacts.reaction.granted haccepts
  -- The number in the answer is the one under which the session is registered.
  rw [Message.field?_setSequence, hreply, Grant.sender_reply (Message.type_of_paa hp hk)] at hfteid
  obtain rfl := Option.some.inj hfteid
  rw [teid_ofFteid] at hown
  obtain rfl := Except.ok.inj hown
  obtain ⟨sender, hs, hi, hr⟩ := holds.sender
  have hne : grant.interface ≠ endpoint.interface := by
    intro he
    rw [he] at hi
    exact apart sender hs hi
  have owned := reachable.owned
  rw [reacts.leaves, hnext]
  refine ⟨sender, grant.remote, grant.id, hs, hr, bound, gateway,
    Registry.coherent_register owned.coherent .., holds.bound, fun teid hteid => ?_,
    grant.session, holds.kept, holds.closable hne⟩
  have hbinds : (endpoint.withGrant grant pool).registry.Binds teid grant.id := hteid
  rw [binds_withGrant] at hbinds
  split at hbinds
  · next he => exact he
  · -- No number leads to a session that is not there yet.
    obtain ⟨entry, he, hsession⟩ := hbinds
    obtain ⟨session, hfound, -⟩ := owned.owner teid entry he
    rw [hsession, hid, session?, List.getElem?_eq_none (Nat.le_refl _)] at hfound
    cases hfound

/-! ## The end of a session -/

/-- A request to delete is accepted, by an answer to this end point, and the session is under no number
and no subscriber any more. -/
structure Dismissed (state : Endpoint × List (SocketAddress × Octets)) (peer : SocketAddress)
    (octets : Octets) (remote : UInt32) (id : SessionId) : Prop where
  answered : ∃ octets' answer,
    (outcome .recording (receive peer octets) state).2.2 = state.2 ++ [(peer, octets')] ∧
    Message.parse .v2 .strict octets' = .ok answer ∧
    answer.accepts .deleteSessionResponse = true ∧ answer.teid? = some remote
  numberless : ∀ teid,
    ¬(outcome .recording (receive peer octets) state).2.1.registry.Binds teid id
  unlisted : ∀ imsi,
    (outcome .recording (receive peer octets) state).2.1.registry.lookupImsi imsi ≠ .ok id

/-- An answer that holds nothing but a cause has room in a datagram. -/
theorem exists_encode_ofCause {kind : Kind} (hk : kind ∈ Kind.procedureResponses) (teid : UInt32)
    (cause : UInt8) (sequence : UInt32) :
    ∃ octets, ((Gateway.response kind teid [V2.ofCause cause]).setSequence sequence).encode =
      .ok octets := by
  simp only [Kind.procedureResponses, List.mem_cons, List.not_mem_nil, or_false] at hk
  rcases hk with rfl | rfl | rfl | rfl <;> exact ⟨_, rfl⟩

/-- The deletion of a session that a gateway has. -/
private theorem Tenancy.outcome_delete {σ : Type} {environment : Environment (StateM σ)}
    (tenancy : Tenancy client own remote id endpoint) (hq : Quiet environment) (world : σ)
    (hk : request.kind = .deleteSessionRequest) (concerns : endpoint.Concerns peer request id) :
    outcome environment (Handler.deleteSession.run peer request) (endpoint, world) =
      outcome environment (respond peer request
        (Gateway.response .deleteSessionResponse remote [V2.ofCause Cause.accepted]))
        ((endpoint.setSession id { endpoint.session id with state := .inactive }).removeSession id,
          world) := by
  have h : outcome environment (Handler.deleteSession.run peer request) (endpoint, world) =
      outcome environment (do
        moveSession id Session.deactivate
        dropSession id
        log .info s!"Session with {peer.toText} deleted (peer TEID {teidText remote})"
        respond peer request
          (Gateway.response .deleteSessionResponse remote [V2.ofCause Cause.accepted]))
        (endpoint, world) := by
    rw [Handler.run, Gateway.deleteSession]
    exact Eq.trans
      (outcome_reaching hq hk rfl (fun _ => rfl) concerns tenancy.closable.remote) rfl
  rw [h]
  rw [outcome_bind, outcome_moveSession, tenancy.closable.deactivate]
  dsimp only
  rw [outcome_bind, dropSession, outcome_modify]
  dsimp only
  rw [outcome_bind, outcome_log hq]

theorem Tenancy.dismissed (tenancy : Tenancy client own remote id endpoint)
    (sent : List (SocketAddress × Octets)) {octets : Octets}
    (deletes : endpoint.Deletes client own peer octets) :
    Dismissed (endpoint, sent) peer octets remote id := by
  obtain ⟨request, hp, hk, hown, hip⟩ := deletes
  have concerns : endpoint.Concerns peer request id := tenancy.concerns_iff.2 ⟨hown, hip⟩
  obtain ⟨handler, hh, hr, hrequest⟩ := tenancy.gateway.takes hp (by rw [hk]; rfl)
  obtain rfl : handler = .deleteSession := by
    rw [hk] at hr
    cases handler <;> cases hr
    rfl
  obtain ⟨events, hran⟩ := outcome_receive_request quiet_recording hp hrequest hh
  have hresponse : .deleteSessionResponse ∈ Kind.procedureResponses := by decide
  obtain ⟨ended, hended⟩ : ∃ ended, ended = (endpoint.setSession id
      { endpoint.session id with state := .inactive }).removeSession id := ⟨_, rfl⟩
  have hbound : ended.bound.isSome = true := by
    rw [hended]
    exact tenancy.bound
  have hdelete := tenancy.outcome_delete quiet_recording sent hk concerns
  rw [← hended] at hdelete
  have reacts : Reacts .recording peer request (endpoint, sent)
      (outcome .recording (respond peer request
        (Gateway.response .deleteSessionResponse remote [V2.ofCause Cause.accepted])) (ended, sent))
      ended (some (Gateway.response .deleteSessionResponse remote [V2.ofCause Cause.accepted])) := by
    rw [hended]
    exact reacts_respond (.deleted hk concerns tenancy.closable.remote tenancy.closable.deactivate)
  rw [← hdelete] at reacts
  obtain ⟨written, he⟩ := exists_encode_ofCause hresponse remote Cause.accepted request.sequence
  have writable : ∀ n, (outcome .recording (Handler.deleteSession.run peer request)
      (endpoint, sent)).1 ≠ .error (.codec (.tooLarge n)) := by
    intro n h
    rw [hdelete, respond, outcome_send_recording hbound, he] at h
    cases h
  obtain ⟨octets', hsent, hparsed⟩ :=
    reacts.sends hbound (Message.sound_of_mem_of_parse hp) writable
  have hregistry : (outcome .recording (receive peer octets) (endpoint, sent)).2.1.registry =
      endpoint.registry.remove id := by
    rw [hran, hsent, hended]
    rfl
  refine ⟨⟨octets', _, ?_, hparsed, ?_, ?_⟩, fun teid hb => ?_, fun imsi hi => ?_⟩
  · rw [hran, hsent]
  · rw [accepts_setSequence]
    exact accepts_ofCause hresponse ..
  · rw [Message.teid?_setSequence]
    exact teid?_response hresponse ..
  · rw [hregistry, Registry.binds_remove tenancy.coherent.teids] at hb
    exact hb.2 rfl
  · rw [hregistry, Registry.lookupImsi_eq_ok,
      Registry.get?_byImsi_remove tenancy.coherent.imsis] at hi
    exact hi.2 rfl

/-- A client that is on another interface than the gateway can end each session that it has created,
whatever else was received since: its request is accepted by an answer to the end point of its create
request, and the session is no longer registered. -/
theorem dismissed_receive {sent : List (SocketAddress × Octets)} {octets octets' : Octets}
    {later : Endpoint × List (SocketAddress × Octets)} (reachable : Reachable endpoint)
    (bound : endpoint.bound.isSome = true) (gateway : endpoint.IsGateway)
    (admitted : Admitted (endpoint, sent) client octets request own)
    (apart : ∀ sender ∈ request.field? .senderFteidC,
      V2.interfaceType sender ≠ .ok endpoint.interface)
    (meanwhile : Meanwhile client own (outcome .recording (receive client octets) (endpoint, sent)).2
      later)
    (deletes : later.1.Deletes client own peer octets') :
    ∃ sender remote id, request.field? .senderFteidC = some sender ∧ V2.teid sender = .ok remote ∧
      (outcome .recording (receive client octets) (endpoint, sent)).2.1.registry.lookupTeid own
        client = .ok id ∧
      later.1.registry.lookupTeid own peer = .ok id ∧ Dismissed later peer octets' remote id := by
  obtain ⟨sender, remote, id, hs, hr, tenancy⟩ := admitted.tenancy reachable bound gateway apart
  have lasting := meanwhile.tenancy tenancy
  have dismissed := lasting.dismissed later.2 deletes
  obtain ⟨_, -, -, -, hip⟩ := deletes
  exact ⟨sender, remote, id, hs, hr, Registry.lookupTeid_eq_ok.2 ⟨_, tenancy.entry, rfl, rfl⟩,
    Registry.lookupTeid_eq_ok.2 ⟨_, lasting.entry, rfl, hip.symm⟩, dismissed⟩

/-! A session is modified, released and deleted. -/

private def guest : SocketAddress := ⟨.v4 ⟨127, 0, 0, 1⟩, 2124, 0⟩

private def inn : Endpoint :=
  let address : SocketAddress := ⟨.v4 ⟨127, 0, 0, 10⟩, 2123, 0⟩
  { make address 11 7 {} with
    bound := some address
    handlers := ⟨Handler.standard.entries ++ Handler.gateway⟩ }

private theorem reachable_inn : Reachable inn :=
  (Reachable.made ⟨.v4 ⟨127, 0, 0, 10⟩, 2123, 0⟩ 11 7 {}).aside rfl rfl

/-- The request of a guest whose end point is on the given interface. -/
private def checkIn (interface : UInt8) : Message :=
  .make .v2 .createSessionRequest { sequence := 1 }
    [plain .v2 Code.imsi 0 [0x00, 0x01, 0x01, 0, 0, 0, 0, 0xf1], V2.ofFteid interface 100 none none,
      V2.ofBearerContext [V2.ofEbi 5]]

/-- A request about the first session of the inn. -/
private def concerning (kind : Kind) (elements : List Element) : Message :=
  .make .v2 kind { sequence := 2, teid := some 7 } elements

private def letter (message : Message) : Octets := message.encode.toOption.getD []

private def welcome : Message :=
  (Gateway.response .createSessionResponse 100 [V2.ofCause Cause.accepted,
    V2.ofFteid 11 7 (some ⟨127, 0, 0, 10⟩) none,
    V2.ofBearerContext [V2.ofEbi 5, V2.ofCause Cause.accepted, V2.ofChargingId 7]]).setSequence 1

private theorem admitted_checkIn {interface : UInt8} (h : interface = 10 ∨ interface = 11) :
    Admitted (inn, []) guest (letter (checkIn interface)) (checkIn interface) 7 := by
  rcases h with rfl | rfl
  all_goals exact ⟨by decide +kernel, rfl, letter welcome, welcome,
    V2.ofFteid 11 7 (some ⟨127, 0, 0, 10⟩) none, by decide +kernel, by decide +kernel,
    by decide +kernel, by decide +kernel, by decide +kernel⟩

/-- The inn with the guest, after these requests of the guest. -/
private def lodged (interface : UInt8) (requests : List Message) :
    Endpoint × List (SocketAddress × Octets) :=
  requests.foldl (fun state request => (outcome .recording (receive guest (letter request)) state).2)
    (outcome .recording (receive guest (letter (checkIn interface))) (inn, [])).2

private def visit : List Message :=
  [concerning .modifyBearerRequest [V2.ofBearerContext [V2.ofEbi 5, V2.ofChargingId 9]],
    concerning .releaseAccessBearersRequest []]

private def checkOut : Message := concerning .deleteSessionRequest []

private theorem deletes_checkOut {state : Endpoint × List (SocketAddress × Octets)}
    (h : Message.parse .v2 state.1.settings.lengthPolicy (state.1.seen (letter checkOut)) =
      .ok checkOut) : state.1.Deletes guest 7 guest (letter checkOut) :=
  ⟨checkOut, h, rfl, rfl, rfl⟩

/-- The idle session goes, and the guest is told. -/
theorem dismissed_receive_lodged :
    Reachable inn ∧ inn.bound.isSome = true ∧ inn.IsGateway ∧
      Admitted (inn, []) guest (letter (checkIn 10)) (checkIn 10) 7 ∧
      (∀ sender ∈ (checkIn 10).field? .senderFteidC, V2.interfaceType sender ≠ .ok inn.interface) ∧
      Meanwhile guest 7 (lodged 10 []) (lodged 10 visit) ∧
      (lodged 10 visit).1.Deletes guest 7 guest (letter checkOut) ∧
      ((lodged 10 visit).1.session 0).state = .idle ∧
      ∃ sender remote id, (checkIn 10).field? .senderFteidC = some sender ∧
        V2.teid sender = .ok remote ∧
        (lodged 10 []).1.registry.lookupTeid 7 guest = .ok id ∧
        (lodged 10 visit).1.registry.lookupTeid 7 guest = .ok id ∧
        Dismissed (lodged 10 visit) guest (letter checkOut) remote id := by
  have gateway : inn.IsGateway := by decide +kernel
  have admitted := admitted_checkIn (.inl rfl)
  have apart : ∀ sender ∈ (checkIn 10).field? .senderFteidC,
      V2.interfaceType sender ≠ .ok inn.interface := by
    rintro sender ⟨⟩
    decide +kernel
  have meanwhile : Meanwhile guest 7 (lodged 10 []) (lodged 10 visit) := by
    refine (Meanwhile.refl.received guest (letter visit[0]) ?_).received guest (letter visit[1]) ?_
    · rintro ⟨request, hp, hk, -⟩
      have hp' : Message.parse .v2 (lodged 10 []).1.settings.lengthPolicy
          ((lodged 10 []).1.seen (letter visit[0])) = .ok visit[0] := by decide +kernel
      cases hp.symm.trans hp'
      cases hk
    · rintro ⟨request, hp, hk, -⟩
      have hp' : Message.parse .v2 (lodged 10 [visit[0]]).1.settings.lengthPolicy
          ((lodged 10 [visit[0]]).1.seen (letter visit[1])) = .ok visit[1] := by decide +kernel
      cases hp.symm.trans hp'
      cases hk
  have deletes : (lodged 10 visit).1.Deletes guest 7 guest (letter checkOut) :=
    deletes_checkOut (by decide +kernel)
  exact ⟨reachable_inn, rfl, gateway, admitted, apart, meanwhile, deletes, by decide +kernel,
    dismissed_receive reachable_inn rfl gateway admitted apart meanwhile deletes⟩

/-- A guest on the interface of the inn is admitted too, but the inn finds no end point of the guest, so
that it neither answers nor lets the session go. -/
theorem undismissed_receive :
    let later := (outcome .recording (receive guest (letter checkOut)) (lodged 11 [])).2
    Reachable inn ∧ inn.bound.isSome = true ∧ inn.IsGateway ∧
      Admitted (inn, []) guest (letter (checkIn 11)) (checkIn 11) 7 ∧
      (lodged 11 []).1.Deletes guest 7 guest (letter checkOut) ∧
      later.2 = (lodged 11 []).2 ∧ later.1.registry.lookupTeid 7 guest = .ok 0 :=
  ⟨reachable_inn, rfl, by decide +kernel, admitted_checkIn (.inr rfl),
    deletes_checkOut (by decide +kernel), by decide +kernel, by decide +kernel⟩

end Endpoint
end GtpControl
