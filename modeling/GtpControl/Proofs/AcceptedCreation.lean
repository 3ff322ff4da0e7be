import GtpControl.Proofs.HeardAnswers

/-! # Accepted creations: what becomes of a session that the gateway has accepted

The client reads the address that the gateway only echoes. If that cannot be read, the gateway keeps a
session that the client has given up. -/
namespace GtpControl.Endpoint
open Endpoint.Action Catalog.V2 Element

variable {link : Link} {client gateway : Endpoint} {message answer : Message}
  {await : Endpoint × Exchange → Endpoint × Exchange}

/-! ## The call of a client -/

/-- A client fails before it has sent its request, or it has sent it and ends its call after all that
arrives. -/
theorem outcome_request (link : Link) (await : Endpoint × Exchange → Endpoint × Exchange)
    (message : Message) (client gateway : Endpoint) :
    let ran := outcome (link.clientSide await) (request link.gateway message) (client, { gateway })
    (∃ e last, ran = (.error e, last, { gateway })) ∨
      ∃ (call : Call) (sequence : Sequence) (pending : Pending) (sent : Octets),
        client.pending.open? call.key = some (call.ticket, pending) ∧
        call.key = ⟨.ofNat sequence, link.gateway⟩ ∧
        call.request = message.setSequence call.key.sequence ∧ call.request.encode = .ok sent ∧
        ran = outcome (link.clientSide await) (finish call)
          (await ({ client with sequence, pending }, { gateway, requests := [sent] })) := by
  intro ran
  have hq : Quiet (link.clientSide await) := Link.quiet_socket _ _ _
  have hran : ran = outcome (link.clientSide await) (request link.gateway message)
    (client, { gateway }) := rfl
  rw [request, outcome_bind] at hran
  obtain ⟨e, last, ho⟩ | ⟨call, sequence, pending, ho, hkey, hr, hopen⟩ :=
    openCall_cases (link.clientSide await) client { gateway } link.gateway message
  · rw [ho] at hran
    exact .inl ⟨e, last, hran⟩
  · rw [hopen] at hran
    dsimp only at hran
    rw [outcome_bind, transmit, outcome_tryCatch, hkey] at hran
    obtain ⟨sent, he, -, hs⟩ | ⟨e, hs⟩ := Link.outcome_send call.request
      { client with sequence, pending } (⟨gateway, [], []⟩ : Exchange)
    · rw [Link.clientSide, hs] at hran
      simp only [outcome_bind, outcome_read, outcome_lift] at hran
      exact .inr ⟨call, sequence, pending, sent, ho, hkey, hr, he, hran⟩
    · rw [Link.clientSide, hs] at hran
      simp only [forget, outcome_bind, outcome_modify, outcome_throw] at hran
      exact .inl ⟨e, _, hran⟩

section
variable {σ : Type} {environment : Environment (StateM σ)} {endpoint : Endpoint} {world : σ}
  {peer : SocketAddress} {id : SessionId} {call : Call}

/-- A call ends with the reply that it was signalled, or fails. -/
theorem finish_cases (hq : Quiet environment) (call : Call) (endpoint : Endpoint) (world : σ) :
    (∃ answer, endpoint.pending.signals.lookup call.ticket = some (.reply answer) ∧
        outcome environment (finish call) (endpoint, world) =
          (.ok answer, { endpoint with
            pending := (endpoint.pending.collect call.ticket).2 }, world)) ∨
      (∀ answer, endpoint.pending.signals.lookup call.ticket ≠ some (.reply answer)) ∧
        ∃ e last, outcome environment (finish call) (endpoint, world) = (.error e, last, world) := by
  simp only [finish, Pending.collect, outcome_bind, outcome_get, outcome_modify]
  cases endpoint.pending.signals.lookup call.ticket with
  | none =>
    refine .inr ⟨fun answer h => (by cases h), ?_⟩
    simp only [forget, outcome_bind, outcome_modify, outcome_log hq, outcome_throw]
    exact ⟨_, _, rfl⟩
  | some signal =>
    cases signal with
    | cancelled => exact .inr ⟨fun answer h => (by cases h), _, _, rfl⟩
    | reply answer => exact .inl ⟨answer, rfl, rfl⟩

/-- An answer without a handler does not reach the outside. -/
theorem world_conclude (hq : Quiet environment) (hn : endpoint.handlers.get? answer.type = none) :
    (outcome environment (conclude peer id answer) (endpoint, world)).2.2 = world := by
  by_cases hk : answer.kind = .createSessionResponse
  · cases ha : acceptedCause .createSessionRequest answer with
    | ok cause =>
      rw [outcome_conclude hq hn hk ha]
      split
      · rfl
      · split <;> rfl
    | error e =>
      rw [conclude, outcome_bind, outcome_deliver hn]
      dsimp only
      rw [outcome_bind, expectReply, if_pos hk, outcome_pure]
      dsimp only
      rw [outcome_bind, outcome_except, ha]
  · rw [conclude, outcome_bind, outcome_deliver hn]
    dsimp only
    rw [outcome_bind, expectReply, if_neg hk, outcome_throw]

end

/-! ## Answers of a gateway, as a client takes them -/

theorem acceptedCause_setSequence (asked : Kind) (sequence : UInt32) (response : Message) :
    acceptedCause asked (response.setSequence sequence) = acceptedCause asked response := rfl

namespace Grant
variable {request : Message} {grant : Grant}

theorem acceptedCause_reply (hp : ∀ paa ∈ request.field? .paa, paa.type = Code.paa) :
    acceptedCause .createSessionRequest (grant.reply gateway request) = .ok Cause.accepted := by
  have hcause : (grant.reply gateway request).field? .cause = some (V2.ofCause Cause.accepted) := by
    rw [Message.field?, field_reply hp]
    rfl
  rw [acceptedCause, hcause]
  rfl

/-- A client takes an answer to its end if it can read the address in it. -/
theorem completes_reply (hp : ∀ paa ∈ request.field? .paa, paa.type = Code.paa)
    (hr : ∀ paa ∈ request.field? .paa, paa.Reads V2.pdnAddress) :
    Edit.Completes (Session.applyCreated (grant.reply gateway request)) := by
  have hcontexts : Edit.Completes ((grant.contexts gateway).forM Session.applyContext) :=
    Edit.completes_forM fun context h => Session.completes_applyContext (Session.identified_grants h)
  rw [applyCreated_reply_eq hp]
  refine (Session.completes_bindFteid (namesFteid_ofFteid ..)).bind fun _ => ?_
  cases hpaa : request.field? .paa with
  | none => exact hcontexts
  | some paa =>
    obtain ⟨address, ha⟩ := hr paa hpaa
    exact Edit.completes_lift_bind ha ((Edit.completes_modify _).bind fun _ => hcontexts)

/-- It does not if it cannot. -/
theorem error_reply (hp : ∀ paa ∈ request.field? .paa, paa.type = Code.paa)
    (hr : ¬∀ paa ∈ request.field? .paa, paa.Reads V2.pdnAddress) (session : Session) :
    ∃ e edited, (Session.applyCreated (grant.reply gateway request)).run session =
      (.error e, edited) := by
  have hnames : Edit.Completes
      (Session.bindFteid (V2.ofFteid gateway.interface grant.own grant.v4 grant.v6)) :=
    Session.completes_bindFteid (namesFteid_ofFteid ..)
  obtain ⟨_, bound, hb⟩ := hnames session
  simp only [not_forall] at hr
  obtain ⟨paa, hpaa, hr⟩ := hr
  cases hd : V2.pdnAddress paa with
  | ok address => exact absurd ⟨address, hd⟩ hr
  | error e =>
    rw [applyCreated_reply_eq hp, Edit.run_bind, hb, Option.mem_def.1 hpaa]
    simp only [Edit.run_bind, Edit.run_lift, hd]
    exact ⟨e, bound, rfl⟩

end Grant

/-- A new session of a known subscriber becomes active with an answer that can be read to its end. -/
private theorem exists_active {session : Session} (hc : session.state = .created)
    (hi : session.subscriber.imsi ≠ none) (h : Edit.Completes (Session.applyCreated answer)) :
    ∃ edited active, (Session.applyCreated answer).run session = (.ok (), edited) ∧
      edited.activate = .ok active ∧ active.state = .active := by
  obtain ⟨_, edited, hedited⟩ := h session
  have steady : Session.Steady fun session : Session => (session.state, session.subscriber.imsi) :=
    ⟨fun name bearer session => by rw [Session.setBearer]; split <;> rfl, fun _ _ => rfl⟩
  have hkept := Session.preserves_applyCreated steady (fun _ _ _ => rfl) answer session
  rw [hedited] at hkept
  obtain ⟨hstate, himsi⟩ := Prod.mk.inj hkept
  exact ⟨edited, _, hedited, Session.activate_eq_ok.2 ⟨himsi ▸ hi, by rw [hstate, hc]; decide, rfl⟩, rfl⟩

section
variable {σ : Type} {environment : Environment (StateM σ)} {endpoint : Endpoint} {world : σ}
  {peer : SocketAddress} {id : SessionId} {session : Session} {request : Message} {grant : Grant}
  {number : UInt32}

/-- A client confirms its session with an answer that it can read to its end. -/
private theorem confirmed_of_reply (hq : Quiet environment)
    (hn : endpoint.handlers.get? answer.type = none)
    (hk : answer.kind = .createSessionResponse)
    (ha : answer = (grant.reply gateway request).setSequence number)
    (hp : ∀ paa ∈ request.field? .paa, paa.type = Code.paa)
    (hs : endpoint.session? id = some session) (hc : session.state = .created)
    (hi : session.subscriber.imsi ≠ none)
    (hr : ∀ paa ∈ answer.field? .paa, paa.Reads V2.pdnAddress) :
    ∃ last active, outcome environment (conclude peer id answer) (endpoint, world) =
        (.ok { peer, message := answer, cause := some Cause.accepted }, last, world) ∧
      last.session? id = some active ∧ active.state = .active ∧ last.registry = endpoint.registry := by
  rw [ha, Message.field?_setSequence, Grant.paa_reply hp] at hr
  have hcompletes : Edit.Completes (Session.applyCreated answer) := by
    rw [ha, Session.applyCreated_setSequence]
    exact Grant.completes_reply hp hr
  have hcause : acceptedCause .createSessionRequest answer = .ok Cause.accepted := by
    rw [ha, acceptedCause_setSequence, Grant.acceptedCause_reply hp]
  obtain ⟨edited, active, hedited, hactive, hstate⟩ :=
    exists_active hc hi hcompletes
  have hlt : id < endpoint.sessions.length := (List.getElem?_eq_some_iff.1 hs).1
  have hlt' : id < (endpoint.setSession id edited).sessions.length := by
    simpa [setSession] using hlt
  rw [outcome_conclude hq hn hk hcause, Endpoint.session, hs,
    Option.getD_some, hedited]
  dsimp only
  rw [Endpoint.session, session?_setSession hlt, Option.getD_some, hactive]
  exact ⟨_, active, rfl, session?_setSession hlt' active, hstate, rfl⟩

/-- It fails if it cannot read the address in it. -/
private theorem error_of_reply (hq : Quiet environment)
    (hn : endpoint.handlers.get? answer.type = none)
    (hk : answer.kind = .createSessionResponse)
    (ha : answer = (grant.reply gateway request).setSequence number)
    (hp : ∀ paa ∈ request.field? .paa, paa.type = Code.paa)
    (hr : ¬∀ paa ∈ answer.field? .paa, paa.Reads V2.pdnAddress) :
    ∃ e last, outcome environment (conclude peer id answer) (endpoint, world) =
      (.error (.codec e), last, world) := by
  rw [ha, Message.field?_setSequence, Grant.paa_reply hp] at hr
  obtain ⟨e, edited, he⟩ : ∃ e edited,
      (Session.applyCreated answer).run (endpoint.session id) = (.error e, edited) := by
    rw [ha, Session.applyCreated_setSequence]
    exact Grant.error_reply hp hr (endpoint.session id)
  have hcause : acceptedCause .createSessionRequest answer = .ok Cause.accepted := by
    rw [ha, acceptedCause_setSequence, Grant.acceptedCause_reply hp]
  rw [outcome_conclude hq hn hk hcause, he]
  exact ⟨e, _, rfl⟩

end

/-! ## Answers that are heard -/

variable {start : Endpoint} {arrivals : List Arrival} {octets : Octets} {elements : List Element}

/-- Nothing is heard of a gateway to which nothing was sent. -/
private theorem heard_of_silent (client gateway : Endpoint) (arrivals : List Arrival) :
    link.heard client { gateway } arrivals = none := by
  induction arrivals with
  | nil => rfl
  | cons arrival arrivals ih =>
    cases arrival with
    | request n => exact ih
    | reply n => simpa [Link.heard] using ih

/-- What is heard does not depend on the sessions and the calls of the client. -/
private theorem heard_congr (start client : Endpoint) (h : start.settings = client.settings)
    (exchange : Exchange) :
    link.heard start exchange arrivals = link.heard client exchange arrivals := by
  have hreads : start.reads = client.reads := by
    funext octets
    rw [reads, reads, seen, seen, h]
  induction arrivals generalizing exchange with
  | nil => rfl
  | cons arrival arrivals ih =>
    cases arrival with
    | request n =>
      rw [Link.heard, Link.heard, arrive_request link start client]
      exact ih _
    | reply n =>
      rw [Link.heard, Link.heard, hreads, ih exchange]

/-- When all has arrived, the client concludes with the answer that its call was signalled, if there is
one. It sends nothing more. -/
private theorem Conversing.concluded {environment : Environment (StateM Exchange)}
    (hq : Quiet environment) {request : Message} {sent : Octets} {call : Call}
    {state : Endpoint × Exchange} (h : Conversing link request sent call.ticket start state)
    (waits : start.handlers.get? 33 = none) (id : SessionId) :
    let ran := outcome environment (finish call >>= conclude link.gateway id) state
    ran.2.2 = state.2 ∧ ∀ answer, state.1.pending.signals.lookup call.ticket = some (.reply answer) →
      ∃ pending events, ran = outcome environment (conclude link.gateway id answer)
        ({ start with pending, events }, state.2) := by
  obtain ⟨client, exchange⟩ := state
  obtain ⟨pending, events, hclient, hanswered⟩ := h.client
  have hclient' : client = { start with pending, events } := hclient
  subst hclient'
  intro ran
  have hran : ran = outcome environment (finish call >>= conclude link.gateway id)
    ({ start with pending, events }, exchange) := rfl
  rw [outcome_bind] at hran
  obtain ⟨found, hfound, hfinish⟩ | ⟨hnone, e, last, hfinish⟩ :=
    finish_cases hq call { start with pending, events } exchange
  · have htype : found.type = 33 := hanswered.collect hfound
    rw [hfinish] at hran
    refine ⟨?_, fun answer ha => ?_⟩
    · rw [hran]
      exact world_conclude hq (htype ▸ waits)
    · obtain rfl : found = answer := by
        rw [hfound] at ha
        cases ha
        rfl
      exact ⟨_, events, hran⟩
  · rw [hfinish] at hran
    exact ⟨congrArg (·.2.2) hran, fun answer ha => absurd ha (hnone answer)⟩

/-- A client that hears an answer concludes with it. -/
private theorem concluded_of_heard {id : SessionId} (sound : message.Sound)
    (hv : message.version = .v2) (ht : message.type = 32) (waits : start.handlers.get? 33 = none)
    (serves : gateway.handlers.get? 32 = some .createSession)
    (reachable : start.pending.Reachable) :
    let environment := link.clientSide fun state => arrivals.foldl link.arrive state
    let ran := outcome environment (confirmSession link.gateway message id) (start, { gateway })
    link.heard start { gateway, requests := ran.2.2.requests } arrivals = some octets →
    Message.parse .v2 .strict octets = .ok answer →
    Message.parse .v2 start.settings.lengthPolicy (start.seen octets) = .ok answer →
    ∃ number confirmed exchange,
      ran = outcome environment (conclude link.gateway id answer) (confirmed, exchange) ∧
      confirmed.handlers = start.handlers ∧ confirmed.sessions = start.sessions ∧
      confirmed.registry = start.registry ∧ Responded link.client number exchange.gateway answer := by
  intro environment ran heard hw hp
  have hq : Quiet environment := Link.quiet_socket _ _ _
  have hran : ran = outcome environment (request link.gateway message >>= conclude link.gateway id)
    (start, { gateway }) := rfl
  rw [outcome_bind] at hran
  obtain ⟨e, last, h⟩ | ⟨call, sequence, pending, sent, ho, hkey, hr, he, h⟩ :=
    outcome_request link (fun state => arrivals.foldl link.arrive state) message start gateway
  · rw [h] at hran
    rw [hran, heard_of_silent] at heard
    cases heard
  · rw [h, ← outcome_bind] at hran
    have hnumber : call.request.sequence = .ofNat sequence := by
      rw [hr, hkey, Message.sequence_setSequence_ofNat hv]
    have posed : Posed call.request sent { start with sequence, pending } := by
      rw [hr] at he ⊢
      exact ⟨(sound.setSequence hv _).1, (sound.setSequence hv _).2,
        (Message.type_setSequence ..).trans ht, he, waits⟩
    have first : Conversing link call.request sent call.ticket { start with sequence, pending }
        ({ start with sequence, pending }, { gateway, requests := [sent] }) :=
      ⟨serves, rfl, by simp, pending, start.events, rfl,
        Pending.answered_of_open reachable.numbered ho⟩
    have awaits : pending.Awaits ⟨call.request.sequence, link.gateway⟩ call.ticket := by
      rw [hnumber, ← hkey]
      exact Pending.awaits_of_open reachable.numbered ho
    obtain ⟨final, -, -⟩ := first.run posed arrivals
    obtain ⟨hworld, hconclude⟩ := final.concluded hq waits id
    -- The request is all that the client has sent when it is done.
    rw [← hran] at hworld hconclude
    rw [hworld, final.requests] at heard
    replace heard := (heard_congr { start with sequence, pending } start rfl _).trans heard
    obtain ⟨hlookup, whole, responded, hwhole⟩ := first.signalled posed rfl awaits heard hp
    obtain rfl : whole = answer :=
      Except.ok.inj ((responded.sound.parse_v2 responded.version hwhole .strict).symm.trans hw)
    obtain ⟨pending', events, hend⟩ := hconclude _ hlookup
    exact ⟨_, _, _, hend, rfl, rfl, rfl, responded⟩

/-! ## Both halves of a session -/

/-- While a client creates a session, it hears this answer as a whole, before any other that it can
read. -/
def Link.Hears (link : Link) (arrivals : List Arrival) (elements : List Element)
    (client gateway : Endpoint) (answer : Message) : Prop :=
  let ran := link.run arrivals (createSession link.gateway elements) client gateway
  ∃ octets, link.heard client { gateway, requests := ran.2.2.requests } arrivals = some octets ∧
    Message.parse .v2 .strict octets = .ok answer ∧
    Message.parse .v2 client.settings.lengthPolicy (client.seen octets) = .ok answer

/-- A gateway has an active session of a client under the number that the answer names. -/
def HasGranted (gateway : Endpoint) (client : SocketAddress) (answer : Message) : Prop :=
  ∃ fteid number id session, answer.field? .senderFteidC = some fteid ∧
    V2.teid fteid = .ok number ∧ gateway.registry.lookupTeid number client = .ok id ∧
    gateway.session? id = some session ∧ session.state = .active

/-- A client has created a session with this answer, and has it, registered and active. -/
def HasConfirmed (peer : SocketAddress) (answer : Message)
    (result : Except EndpointError (SessionId × Reply)) (client : Endpoint) : Prop :=
  ∃ id reply session own, result = .ok (id, reply) ∧ reply.message = answer ∧
    client.session? id = some session ∧ session.state = .active ∧
    client.registry.lookupTeid own peer = .ok id

/-- A client has failed to read an answer, and has given its session up. -/
structure HasDropped (id : SessionId) (result : Except EndpointError (SessionId × Reply))
    (client : Endpoint) : Prop where
  result : ∃ e, result = .error (.codec e)
  registry : ∀ teid, ¬client.registry.Binds teid id

private theorem hasGranted_of_responded {number : UInt32}
    (responded : Responded link.client number gateway answer)
    (ha : answer.accepts .createSessionResponse = true) : gateway.HasGranted link.client answer := by
  obtain ⟨request, grant, holds, hp, hanswer⟩ := responded.granted ha
  refine ⟨V2.ofFteid gateway.interface grant.own grant.v4 grant.v6, grant.own, grant.id,
    grant.session, ?_, teid_ofFteid .., ?_, holds.kept, ?_⟩
  · rw [hanswer, Message.field?_setSequence, Grant.sender_reply hp]
  · simp [Registry.lookupTeid, holds.bound]
  · obtain ⟨applied, -, hactive⟩ := holds.applied
    obtain ⟨-, -, he⟩ := Session.activate_eq_ok.1 hactive
    rw [he]

/-- A client proposes a new session of a known subscriber. -/
theorem Proposal.Fits.fresh {proposal : Proposal} {peer : SocketAddress}
    (fits : proposal.Fits client peer elements) : proposal.session.state = .created ∧
      proposal.session.subscriber.imsi ≠ none ∧ proposal.session.peer = peer := by
  obtain ⟨element, hi⟩ := Option.isSome_iff_exists.1 fits.imsi.1
  obtain ⟨imsi, -, himsi⟩ := Session.imsi_ofRequest fits.described hi
  have hstate := Session.state_ofRequest fits.described
  have hpeer := Session.peer_of_ofRequest fits.described
  exact ⟨hstate, fun h => (by cases himsi.symm.trans h), hpeer⟩

private theorem world_settled {α : Type} (id : SessionId)
    (ran : Except EndpointError α × Endpoint × Exchange) : (settled id ran).2.2 = ran.2.2 := by
  obtain ⟨result, last⟩ := ran
  cases result <;> rfl

/-- A new session of a client, with its own number, belongs to the one that it asks. -/
private theorem lookupTeid_enrolled (own : UInt32) (session : Session) (endpoint : Endpoint) :
    (enrolled own session endpoint).registry.lookupTeid own session.peer =
      .ok endpoint.sessions.length :=
  Registry.lookupTeid_eq_ok.2
    ⟨_, (Registry.get?_register ..).trans (if_pos rfl), rfl, rfl⟩

/-- When a client hears an answer that accepts its request, the gateway has the session, active. If the
client can read the address that the gateway echoes, or there is none, it has the session as well.
Otherwise it gives its half up. -/
theorem whole_createSession (built : ∀ x ∈ elements, Element.Built .v2 x)
    (waits : client.handlers.get? 33 = none)
    (serves : gateway.handlers.get? 32 = some .createSession)
    (reachable : client.pending.Reachable)
    (hears : link.Hears arrivals elements client gateway answer)
    (accepted : answer.accepts .createSessionResponse = true) :
    let ran := link.run arrivals (createSession link.gateway elements) client gateway
    ran.2.2.gateway.HasGranted link.client answer ∧
      ((∀ paa ∈ answer.field? .paa, paa.Reads V2.pdnAddress) →
        HasConfirmed link.gateway answer ran.1 ran.2.1) ∧
      ((¬∀ paa ∈ answer.field? .paa, paa.Reads V2.pdnAddress) →
        HasDropped client.sessions.length ran.1 ran.2.1) := by
  intro ran
  have hq : Quiet (link.clientSide fun state => arrivals.foldl link.arrive state) :=
    Link.quiet_socket _ _ _
  obtain ⟨octets, heard, hw, hp⟩ := hears
  obtain ⟨e, pool, h⟩ | ⟨proposal, pool, _, fits, hn, h⟩ := createSession_cases
    (link.clientSide fun state => arrivals.foldl link.arrive state) client { gateway } link.gateway
    elements
  · rw [Link.run, h, heard_of_silent] at heard
    cases heard
  · cases hn hq
    have hran : ran = settled client.sessions.length _ := h
    rw [Link.run, h, world_settled] at heard
    have asked := fits.asked built
    obtain ⟨start, hstart⟩ : ∃ start, start =
      enrolled proposal.own proposal.session { client with pool } := ⟨_, rfl⟩
    have hsettings : start.settings = client.settings := by rw [hstart]; rfl
    have hwaits : start.handlers.get? 33 = none := by rw [hstart]; exact waits
    have hcalls : start.pending.Reachable := by rw [hstart]; exact reachable
    have hparse : Message.parse .v2 start.settings.lengthPolicy (start.seen octets) = .ok answer := by
      rw [seen, hsettings]
      exact hp
    rw [← hstart] at hran heard
    rw [← heard_congr start client hsettings] at heard
    obtain ⟨number, confirmed, exchange, hend, hhandlers, hsessions, hregistry, responded⟩ :=
      concluded_of_heard asked.sound asked.version asked.type hwaits serves hcalls heard hw hparse
    rw [hend] at hran
    have hnone : confirmed.handlers.get? answer.type = none := by
      rw [hhandlers, responded.type]
      exact hwaits
    have hkind : answer.kind = .createSessionResponse := by
      rw [Message.accepts, Bool.and_eq_true, beq_iff_eq] at accepted
      exact accepted.1
    obtain ⟨request, grant, holds, hpaa, hanswer⟩ := responded.granted accepted
    refine ⟨?_, fun hr => ?_, fun hr => ?_⟩
    · rw [hran, world_settled, world_conclude hq hnone]
      exact hasGranted_of_responded responded accepted
    · have hs : confirmed.session? client.sessions.length = some proposal.session := by
        rw [session?, hsessions, hstart]
        exact session?_enrolled proposal.own proposal.session { client with pool }
      obtain ⟨hstate, hknown, hpeer⟩ := fits.fresh
      obtain ⟨last, active, hlast, hactive, ha, hkept⟩ :=
        confirmed_of_reply hq hnone hkind hanswer hpaa hs hstate hknown hr
      rw [hran, hlast]
      refine ⟨_, _, active, proposal.own, rfl, rfl, hactive, ha, ?_⟩
      rw [settled, hkept, hregistry, hstart, ← hpeer]
      exact lookupTeid_enrolled proposal.own proposal.session { client with pool }
    · obtain ⟨e, last, hlast⟩ := error_of_reply hq hnone hkind hanswer hpaa hr
      rw [hran, hlast]
      exact ⟨⟨e, rfl⟩, Registry.not_binds_remove _ _⟩

/-! A client and a gateway on one machine, and a subscriber that asks for an address. -/

private def cable : Link where
  client := ⟨.v4 ⟨127, 0, 0, 1⟩, 2123, 0⟩
  gateway := ⟨.v4 ⟨127, 0, 0, 10⟩, 2123, 0⟩
  limit := 65507

private def dialling : Endpoint :=
  { make cable.client 10 100 {} with bound := some cable.client }

private def replying : Endpoint :=
  { make cable.gateway 11 7 {} with
    bound := some cable.gateway
    handlers := ⟨Handler.standard.entries ++ Handler.gateway⟩ }

private def addressed (address : Octets) : List Element :=
  [plain .v2 Code.imsi 0 [0x00, 0x01, 0x01, 0, 0, 0, 0, 0xf1], plain .v2 Code.paa 0 address,
    V2.ofBearerContext [V2.ofEbi 5]]

private theorem built_addressed {address : Octets}
    (h : Element.make .v2 Code.paa 0 address = .ok (plain .v2 Code.paa 0 address)) :
    ∀ x ∈ addressed address, Element.Built .v2 x := by
  have himsi : Element.make .v2 Code.imsi 0 [0x00, 0x01, 0x01, 0, 0, 0, 0, 0xf1] =
      .ok (plain .v2 Code.imsi 0 [0x00, 0x01, 0x01, 0, 0, 0, 0, 0xf1]) := rfl
  have hebi : Element.Built .v2 (V2.ofEbi 5) := .ofValue (V2.OfValue.ebi 5)
  simp only [addressed, List.forall_mem_cons]
  exact ⟨.made himsi, .made h, .grouped 0 rfl (List.forall_mem_singleton.2 hebi), by simp⟩

private def dialled (address : Octets) (arrivals : List Arrival) :
    Except EndpointError (SessionId × Reply) × Endpoint × Exchange :=
  cable.run arrivals (createSession cable.gateway (addressed address)) dialling replying

/-- The answer that is heard, if it is heard as a whole. -/
private def hearing (address : Octets) (arrivals : List Arrival) : Option Message := do
  let octets ← cable.heard dialling
    { gateway := replying, requests := (dialled address arrivals).2.2.requests } arrivals
  let answer ← (Message.parse .v2 .strict octets).toOption
  let seen ←
    (Message.parse .v2 dialling.settings.lengthPolicy (dialling.seen octets)).toOption
  if seen = answer then some answer else none

private theorem hears_of_hearing {address : Octets} {arrivals : List Arrival} {answer : Message}
    (h : hearing address arrivals = some answer) :
    cable.Hears arrivals (addressed address) dialling replying answer := by
  have hread : ∀ {result : Coded Message} {message}, result.toOption = some message →
      result = .ok message := by
    rintro (e | found) message hm
    · cases hm
    · cases hm
      rfl
  obtain ⟨octets, ho, h⟩ := Option.bind_eq_some_iff.1 h
  obtain ⟨whole, hw, h⟩ := Option.bind_eq_some_iff.1 h
  obtain ⟨seen, hs, h⟩ := Option.bind_eq_some_iff.1 h
  split at h
  · next he =>
    cases h
    exact ⟨octets, ho, hread hw, he ▸ hread hs⟩
  · cases h

/-- Whether the address in an answer can be read. -/
private def isLegible (answer : Message) : Option Bool :=
  (answer.field? .paa).map fun paa => (V2.pdnAddress paa).toOption.isSome

private theorem reads_iff_of_isLegible {answer : Message} {legible : Bool}
    (h : isLegible answer = some legible) :
    (∀ paa ∈ answer.field? .paa, paa.Reads V2.pdnAddress) ↔ legible = true := by
  obtain ⟨paa, hpaa, rfl⟩ := Option.map_eq_some_iff.1 h
  simp only [hpaa, Option.mem_some_iff, forall_eq', Element.Reads]
  cases V2.pdnAddress paa <;> simp [Except.toOption]

/-- The request arrives twice, and the gateway makes two sessions. The client has the second, whose answer
is the first that it hears. -/
theorem whole_createSession_addressed :
    let arrivals : List Arrival := [.request 0, .request 0, .reply 1, .reply 0]
    let ran := dialled [1, 10, 0, 0, 1] arrivals
    ∃ answer, cable.Hears arrivals (addressed [1, 10, 0, 0, 1]) dialling replying answer ∧
      answer.accepts .createSessionResponse = true ∧
      (∀ paa ∈ answer.field? .paa, paa.Reads V2.pdnAddress) ∧
      ran.2.2.gateway.HasGranted cable.client answer ∧
      HasConfirmed cable.gateway answer ran.1 ran.2.1 := by
  intro arrivals ran
  have hanswer : (hearing [1, 10, 0, 0, 1] arrivals).map (fun answer =>
      (answer.accepts .createSessionResponse, isLegible answer)) = some (true, some true) := by
    decide +kernel
  obtain ⟨answer, h, he⟩ := Option.map_eq_some_iff.1 hanswer
  obtain ⟨accepted, hlegible⟩ := Prod.mk.inj he
  have hears := hears_of_hearing h
  have hr := (reads_iff_of_isLegible hlegible).2 rfl
  obtain ⟨hgranted, hconfirmed, -⟩ :=
    whole_createSession (built_addressed rfl) rfl rfl .empty hears accepted
  exact ⟨answer, hears, accepted, hr, hgranted, hconfirmed hr⟩

/-- An address of type 4 is echoed by the gateway, which has an active session then. The client does not
know that type. It fails, and has no session. -/
theorem halfOpen_createSession :
    (∀ x ∈ addressed [4], Element.Built .v2 x) ∧ dialling.handlers.get? 33 = none ∧
      replying.handlers.get? 32 = some .createSession ∧ dialling.interface ≠ replying.interface ∧
      dialling.interface < 64 ∧ replying.interface < 64 ∧
      let arrivals : List Arrival := [.request 0, .reply 0]
      let ran := dialled [4] arrivals
      ∃ answer, cable.Hears arrivals (addressed [4]) dialling replying answer ∧
        answer.accepts .createSessionResponse = true ∧
        ran.2.2.gateway.HasGranted cable.client answer ∧
        ran.1.toOption.isNone = true ∧ ran.2.1.registry.count = 0 := by
  refine ⟨built_addressed rfl, rfl, rfl, by decide, by decide, by decide, ?_⟩
  intro arrivals ran
  have hanswer : (hearing [4] arrivals).map (fun answer =>
      (answer.accepts .createSessionResponse, (answer.field? .senderFteidC).map V2.teid)) =
        some (true, some (.ok 7)) := by
    decide +kernel
  obtain ⟨answer, h, he⟩ := Option.map_eq_some_iff.1 hanswer
  obtain ⟨accepted, hteid⟩ := Prod.mk.inj he
  obtain ⟨fteid, hfteid, hnumber⟩ := Option.map_eq_some_iff.1 hteid
  have hid : ran.2.2.gateway.registry.lookupTeid 7 cable.client = .ok 0 := by decide +kernel
  have hstate : (ran.2.2.gateway.session? 0).map (·.state) = some .active := by decide +kernel
  obtain ⟨session, hs, hactive⟩ := Option.map_eq_some_iff.1 hstate
  exact ⟨answer, hears_of_hearing h, accepted, ⟨fteid, 7, 0, session, hfteid, hnumber, hid, hs, hactive⟩,
    by decide +kernel, by decide +kernel⟩

end GtpControl.Endpoint
