import GtpControl.Proofs.ClientCreation
import GtpControl.Proofs.Exchange
import GtpControl.Proofs.HandlerEffects

/-! # Creation of sessions: client and gateway agree on the session they have created -/
namespace GtpControl.Endpoint
open Endpoint.Action Catalog.V2 Element

/-! ## Calls that end well -/

section
variable {σ α : Type} {environment : Environment (StateM σ)} {endpoint : Endpoint} {world : σ}
  {last : Endpoint × σ}

/-- An answer that accepts the request is applied to the session. -/
theorem outcome_conclude (hq : Quiet environment) {peer : SocketAddress} {answer : Message} {id : SessionId}
    (hn : endpoint.handlers.get? answer.type = none) (hk : answer.kind = .createSessionResponse) {cause : UInt8}
    (ha : acceptedCause .createSessionRequest answer = .ok cause) :
    outcome environment (conclude peer id answer) (endpoint, world) =
      match (Session.applyCreated answer).run (endpoint.session id) with
      | (.error e, edited) => (.error (.codec e), endpoint.setSession id edited, world)
      | (.ok _, edited) =>
        match ((endpoint.setSession id edited).session id).activate with
        | .error e => (.error (.session e), endpoint.setSession id edited, world)
        | .ok active => (.ok { peer, message := answer, cause := some cause },
            (endpoint.setSession id edited).setSession id active, world) := by
  rw [conclude, outcome_bind, outcome_deliver hn]
  dsimp only
  rw [outcome_bind, expectReply, if_pos hk, outcome_pure]
  dsimp only
  rw [outcome_bind, outcome_except, ha]
  dsimp only
  rw [if_neg Bool.false_ne_true, outcome_bind, outcome_editSession]
  cases (Session.applyCreated answer).run (endpoint.session id) with
  | mk result edited =>
    cases result with
    | error e => rfl
    | ok u =>
      simp only [Except.mapError]
      rw [outcome_bind, outcome_moveSession]
      cases ((endpoint.setSession id edited).session id).activate with
      | error e => rfl
      | ok active => exact outcome_report hq ..

/-- A client that has come to the end with an answer has applied it to the session. -/
theorem conclude_eq_ok (hq : Quiet environment) {peer : SocketAddress} {answer : Message}
    {id : SessionId} {reply : Reply} (hn : endpoint.handlers.get? answer.type = none)
    (h : outcome environment (conclude peer id answer) (endpoint, world) = (.ok reply, last)) :
    reply.message = answer ∧ ∃ edited active,
      (Session.applyCreated answer).run (endpoint.session id) = (.ok (), edited) ∧
        ((endpoint.setSession id edited).session id).activate = .ok active ∧
        last = ((endpoint.setSession id edited).setSession id active, world) := by
  have hrun := h
  rw [conclude, outcome_bind, outcome_deliver hn] at hrun
  dsimp only at hrun
  obtain ⟨_, expected, hx, hrun⟩ := outcome_bind_eq_ok.1 hrun
  obtain ⟨cause, accepted, ha, -⟩ := outcome_bind_eq_ok.1 hrun
  rw [outcome_except] at ha
  have hk : answer.kind = .createSessionResponse := by
    by_contra hk
    rw [expectReply, if_neg hk] at hx
    cases hx
  rw [outcome_conclude hq hn hk (Prod.mk.inj ha).1] at h
  cases he : (Session.applyCreated answer).run (endpoint.session id) with
  | mk result edited =>
    rw [he] at h
    cases result with
    | error e => cases h
    | ok u =>
      dsimp only at h
      cases hactive : ((endpoint.setSession id edited).session id).activate with
      | error e =>
        rw [hactive] at h
        cases h
      | ok active =>
        rw [hactive] at h
        cases h
        exact ⟨rfl, edited, active, rfl, hactive, rfl⟩

/-- A client that has no handler for the answer applies it to the session. -/
theorem confirmSession_eq_ok (hq : Quiet environment) {peer : SocketAddress}
    {message answer : Message} {id : SessionId} {reply : Reply} {confirmed : Endpoint × σ}
    (hr : outcome environment (request peer message) (endpoint, world) = (.ok answer, confirmed))
    (hn : confirmed.1.handlers.get? answer.type = none) (hlt : id < confirmed.1.sessions.length)
    (h : outcome environment (confirmSession peer message id) (endpoint, world) = (.ok reply, last)) :
    reply.message = answer ∧ ∃ edited active,
      (Session.applyCreated answer).run (confirmed.1.session id) = (.ok (), edited) ∧
        edited.activate = .ok active ∧ last.1.session? id = some active ∧ last.2 = confirmed.2 := by
  rw [confirmSession_eq, outcome_bind, hr] at h
  obtain ⟨hmessage, edited, active, hedited, hactive, rfl⟩ := conclude_eq_ok hq hn h
  rw [Endpoint.session, session?_setSession hlt, Option.getD_some] at hactive
  have hlt' : id < (confirmed.1.setSession id edited).sessions.length := by
    simpa [setSession] using hlt
  exact ⟨hmessage, edited, active, hedited, hactive, session?_setSession hlt' active, rfl⟩

/-- A session that is created was proposed, and its peer has confirmed it. -/
theorem createSession_eq_ok (hq : Quiet environment) {peer : SocketAddress}
    {elements : List Element} {created : SessionId × Reply}
    (h : outcome environment (createSession peer elements) (endpoint, world) = (.ok created, last)) :
    ∃ (proposal : Proposal) (pool : TeidPool), proposal.Fits endpoint peer elements ∧
      created.1 = endpoint.sessions.length ∧
      outcome environment (confirmSession peer proposal.request created.1)
        (enrolled proposal.own proposal.session { endpoint with pool }, world) =
          (.ok created.2, last) := by
  obtain ⟨e, pool, hc⟩ | ⟨proposal, pool, next, fits, hn, hc⟩ :=
    createSession_cases environment endpoint world peer elements
  · cases h.symm.trans hc
  · cases hn hq
    rw [hc] at h
    cases hx : outcome environment (confirmSession peer proposal.request endpoint.sessions.length)
        (enrolled proposal.own proposal.session { endpoint with pool }, world) with
    | mk result after =>
      rw [hx] at h
      cases result with
      | error e => cases h
      | ok reply =>
        cases h
        exact ⟨proposal, pool, fits, rfl, hx⟩

end

variable {link : Link} {arrivals : List Arrival} {client gateway : Endpoint}

/-- A request is asked under any sequence number. -/
theorem Asked.setSequence {message : Message} (asked : Asked message) (sequence : UInt32) :
    Asked (message.setSequence sequence) where
  sound := (asked.sound.setSequence asked.version sequence).1
  version := (asked.sound.setSequence asked.version sequence).2
  type := (Message.type_setSequence sequence message).trans asked.type
  sender := asked.sender
  imsi := asked.imsi
  paa := asked.paa

/-- The reply to a create request is an answer that the gateway has granted. -/
theorem granted_of_request {message answer : Message} {last : Endpoint × Exchange}
    (waits : Waits link client) (serves : Serves link gateway) (asked : Asked message)
    (reachable : client.pending.Reachable)
    (h : link.run arrivals (request link.gateway message) client gateway = (.ok answer, last)) :
    ∃ number, last.1.handlers = client.handlers ∧ last.1.sessions = client.sessions ∧
      Granted link.client (message.setSequence number) last.2.gateway answer ∧
      Serves link last.2.gateway := by
  obtain ⟨call, sequence, pending, sent, hopen, hr, hsend, hc, rfl⟩ := request_eq_ok h
  obtain ⟨octets, he, hl, hs⟩ | ⟨e, hs⟩ :=
    Link.outcome_send call.request { client with sequence, pending } (⟨gateway, [], []⟩ : Exchange)
  · have hstart := hs.symm.trans hsend
    cases hstart
    have asked' : Asked call.request := hr ▸ asked.setSequence call.key.sequence
    have hnone := Pending.answered_of_open (p := Granted link.client call.request gateway)
      reachable.numbered hopen
    have waits' : Waits link { client with sequence, pending } := ⟨waits.handler, waits.whole⟩
    have first : Underway link call.request call.ticket { client with sequence, pending }
        ({ client with sequence, pending }, { gateway, requests := [octets] }) :=
      ⟨serves, List.forall_mem_singleton.2 ⟨he, hl⟩, by simp, pending, client.events, rfl, hnone⟩
    have final := first.arrive waits' asked' arrivals
    obtain ⟨pending', events, hclient, ha⟩ := final.client
    have hhandlers := congrArg Endpoint.handlers hclient
    have hsessions := congrArg Endpoint.sessions hclient
    refine ⟨call.key.sequence, hhandlers, hsessions, ?_, final.serves⟩
    rw [← hr]
    refine Pending.Answered.collect ?_ hc
    have hpending := congrArg Endpoint.pending hclient
    exact hpending ▸ ha
  · have hstart := hs.symm.trans hsend
    cases hstart

/-- What a client asks for is a create request of sound elements. -/
theorem Proposal.Fits.asked {proposal : Proposal} {elements : List Element}
    (fits : proposal.Fits client link.gateway elements)
    (hb : ∀ x ∈ elements, Element.Built .v2 x) : Asked proposal.request := by
  obtain ⟨added, hr, hadded⟩ := fits.request
  have hbuilt : ∀ x ∈ elements ++ added, Element.Built .v2 x := by
    intro x hx
    rcases List.mem_append.1 hx with hx | hx
    · exact hb x hx
    · exact hadded x hx
  have hversion : proposal.request.version = .v2 := by rw [hr, Message.version_make]
  have htype : proposal.request.type = 32 := by
    rw [hr, Message.type_make]
    rfl
  have hsound : proposal.request.Sound := by
    rw [hr]
    exact Message.sound_make (by decide) (fun x hx => sound_of_built (hbuilt x hx)) {}
  have hpaa : ∀ paa ∈ proposal.request.field? .paa, paa.type = Code.paa := by
    obtain ⟨header, hv, -, -, hmade⟩ := Message.exists_make_eq .v2 .createSessionRequest {}
      (elements ++ added)
    have hlayout : ∀ slot ∈ Version.v2.layout .createSessionRequest, slot.field = .paa →
        slot.type = Code.paa := by decide
    rw [← hv] at hlayout
    intro paa hm
    rw [hr, hmade] at hm
    exact Message.type_of_mem_field hlayout (List.mem_of_mem_head? hm)
  exact ⟨hsound, hversion, htype, by rw [fits.sender, Option.isSome_some], fits.imsi.1, hpaa⟩

/-- An answer leads a client to the session that the gateway has granted. -/
private theorem agreed_of_granted {request answer : Message} {number interface own}
    {described edited active : Session} {sender : Element} (asked : Asked request)
    (serves : Serves link gateway)
    (hg : Granted link.client (request.setSequence number) gateway answer)
    (hd : Session.ofRequest link.gateway request = .ok described)
    (hs : request.field? .senderFteidC = some sender) (hi : V2.interfaceType sender = .ok interface)
    (ho : V2.teid sender = .ok own)
    (he : (Session.applyCreated answer).run (described.setTeid interface own) = (.ok (), edited))
    (ha : edited.activate = .ok active) :
    ∃ fteid number granted session, answer.field? .senderFteidC = some fteid ∧
      V2.teid fteid = .ok number ∧
      gateway.registry.lookupTeid number link.client = .ok granted ∧
      gateway.session? granted = some session ∧
      active = session.movedTo link.gateway ∧ session.state = .active := by
  obtain ⟨grant, holds, rfl⟩ := hg
  have asked' := asked.setSequence number
  obtain ⟨sender', hs', hi', ho'⟩ := holds.sender
  rw [Message.field?_setSequence, hs] at hs'
  cases hs'
  cases hi.symm.trans hi'
  cases ho.symm.trans ho'
  -- Both sides describe the same session, each at its own peer.
  have hdescribed : described = grant.described.movedTo link.gateway := by
    have hm := Session.ofRequest_movedTo link.client link.gateway (request.setSequence number)
    rw [holds.described, Session.ofRequest_setSequence, hd] at hm
    exact Except.ok.inj hm
  rw [Session.applyCreated_setSequence, hdescribed] at he
  obtain ⟨hactive, hstate⟩ := holds.agreed asked'.paa serves.interface he ha
  refine ⟨V2.ofFteid gateway.interface grant.own grant.v4 grant.v6, grant.own, grant.id,
    grant.session, ?_, teid_ofFteid .., ?_, holds.kept, hactive, ?_⟩
  · rw [Message.field?_setSequence, Grant.sender_reply asked'.paa]
  · simp [Registry.lookupTeid, holds.bound]
  · rw [hactive] at hstate
    exact hstate

/-- A client that has created a session holds the one that the gateway has registered under the number
it answered with, whatever was lost, repeated or reordered on the way. Only their peers differ. -/
theorem session_createSession {elements : List Element} {id : SessionId} {reply : Reply}
    {last : Endpoint × Exchange} (built : ∀ x ∈ elements, Element.Built .v2 x)
    (waits : Waits link client) (serves : Serves link gateway)
    (reachable : client.pending.Reachable)
    (h : link.run arrivals (createSession link.gateway elements) client gateway =
      (.ok (id, reply), last)) :
    ∃ fteid number granted session, reply.message.field? .senderFteidC = some fteid ∧
      V2.teid fteid = .ok number ∧
      last.2.gateway.registry.lookupTeid number link.client = .ok granted ∧
      last.2.gateway.session? granted = some session ∧
      last.1.session? id = some (session.movedTo link.gateway) ∧ session.state = .active := by
  have hq : Quiet (link.clientSide fun state => arrivals.foldl link.arrive state) :=
    Link.quiet_socket _ _ _
  obtain ⟨proposal, pool, fits, hid, h₁⟩ := createSession_eq_ok hq h
  obtain ⟨answer, confirmed, hr, -⟩ := outcome_bind_eq_ok.1 h₁
  have asked := fits.asked built
  have waits' : Waits link (enrolled proposal.own proposal.session { client with pool }) :=
    ⟨waits.handler, waits.whole⟩
  obtain ⟨number, hhandlers, hsessions, hg, serves'⟩ :=
    granted_of_request waits' serves asked reachable hr
  have hn : confirmed.1.handlers.get? answer.type = none := by
    rw [hhandlers, (hg.sound (asked.setSequence number)).2.2]
    exact waits.handler
  have hkept : confirmed.1.session? id = some proposal.session := by
    have hid' : id = client.sessions.length := hid
    rw [session?, hsessions, hid']
    exact session?_enrolled proposal.own proposal.session { client with pool }
  have hlt : id < confirmed.1.sessions.length := (List.getElem?_eq_some_iff.1 hkept).1
  obtain ⟨rfl, edited, active, he, ha, hlast, hworld⟩ := confirmSession_eq_ok hq hr hn hlt h₁
  rw [session, hkept, Option.getD_some] at he
  obtain ⟨fteid, number, granted, session, hf, ht, hl, hk, rfl, hstate⟩ :=
    agreed_of_granted asked serves' hg fits.described fits.sender fits.interface fits.own he ha
  rw [hworld]
  exact ⟨fteid, number, granted, session, hf, ht, hl, hk, hlast, hstate⟩

/-! A client and a gateway on one machine, and a subscriber with one bearer. -/

private def loopback : Link where
  client := ⟨.v4 ⟨127, 0, 0, 1⟩, 2123, 0⟩
  gateway := ⟨.v4 ⟨127, 0, 0, 10⟩, 2123, 0⟩
  limit := 65507

private def asking (settings : Settings) : Endpoint :=
  { make loopback.client 10 100 settings with bound := some loopback.client }

private def granting : Endpoint :=
  { make loopback.gateway 11 7 {} with
    bound := some loopback.gateway
    handlers := ⟨Handler.standard.entries ++ Handler.gateway⟩ }

private def oneBearer : List Element :=
  [plain .v2 Code.imsi 0 [0x00, 0x01, 0x01, 0, 0, 0, 0, 0xf1], V2.ofBearerContext [V2.ofEbi 5]]

private theorem built_oneBearer : ∀ x ∈ oneBearer, Element.Built .v2 x := by
  have himsi : Element.make .v2 Code.imsi 0 [0x00, 0x01, 0x01, 0, 0, 0, 0, 0xf1] =
      .ok (plain .v2 Code.imsi 0 [0x00, 0x01, 0x01, 0, 0, 0, 0, 0xf1]) := rfl
  have hebi : Element.Built .v2 (V2.ofEbi 5) := .ofValue (V2.OfValue.ebi 5)
  simp only [oneBearer, List.forall_mem_cons]
  exact ⟨.made himsi, .grouped 0 rfl (List.forall_mem_singleton.2 hebi), by simp⟩

private def creation (settings : Settings) (arrivals : List Arrival) :
    Except EndpointError (SessionId × Reply) × Endpoint × Exchange :=
  loopback.run arrivals (createSession loopback.gateway oneBearer) (asking settings) granting

/-- The request arrives twice, and the gateway makes two sessions. The client holds the second, whose
answer is the first to arrive. -/
theorem session_createSession_repeated :
    ∃ reply last, creation {} [.request 0, .request 0, .reply 1, .reply 0] = (.ok (0, reply), last) ∧
      last.2.gateway.sessions.length = 2 ∧
      ∃ fteid number granted session, reply.message.field? .senderFteidC = some fteid ∧
        V2.teid fteid = .ok number ∧
        last.2.gateway.registry.lookupTeid number loopback.client = .ok granted ∧
        last.2.gateway.session? granted = some session ∧
        last.1.session? 0 = some (session.movedTo loopback.gateway) ∧ session.state = .active := by
  have hok : (creation {} [.request 0, .request 0, .reply 1, .reply 0]).1.toOption.map (·.1) =
      some 0 := by decide +kernel
  have htwo : (creation {} [.request 0, .request 0, .reply 1, .reply 0]).2.2.gateway.sessions.length =
      2 := by decide +kernel
  cases h : creation {} [.request 0, .request 0, .reply 1, .reply 0] with
  | mk result last =>
    rw [h] at hok htwo
    obtain ⟨⟨id, reply⟩, hr, rfl⟩ := Option.map_eq_some_iff.1 hok
    cases result with
    | error e => cases hr
    | ok created =>
      cases hr
      exact ⟨reply, last, rfl, htwo, session_createSession built_oneBearer ⟨rfl, .inl rfl⟩
        ⟨rfl, by decide, .inl rfl⟩ .empty h⟩

/-- A lenient client that looks at 31 octets of a datagram takes an answer without its bearers for a
whole one. Its bearer has no charging identifier, and that of the gateway has one. -/
theorem session_createSession_cut :
    (∀ x ∈ oneBearer, Element.Built .v2 x) ∧
      (asking { lengthPolicy := .lenient, bufferSize := 31 }).handlers.get? 33 = none ∧
      granting.handlers.get? 32 = some .createSession ∧
      (asking { lengthPolicy := .lenient, bufferSize := 31 }).interface < 64 ∧
      granting.interface < 64 ∧
      let ran := creation { lengthPolicy := .lenient, bufferSize := 31 } [.request 0, .reply 0]
      ran.1.toOption.map (·.1) = some 0 ∧
        (ran.2.2.gateway.registry.lookupTeid 7 loopback.client).toOption = some 0 ∧
        (ran.2.2.gateway.session? 0).map (·.defaultBearer.chargingId) = some 7 ∧
        (ran.2.1.session? 0).map (·.defaultBearer.chargingId) = some 0 :=
  ⟨built_oneBearer, by decide +kernel⟩

end GtpControl.Endpoint
