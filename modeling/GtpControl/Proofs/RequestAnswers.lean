import GtpControl.Proofs.GatewayService
import GtpControl.Proofs.HandlerEffects
import GtpControl.Proofs.LegibleRequests
import GtpControl.Proofs.PoolWalk
import GtpControl.Proofs.Reachability

/-! # Answers to requests: each session request gets one

A gateway answers the requests that it can read, also when they come again, unless it has no number left,
the session does not know its peer's end point or may not be moved on, or the answer is too long. -/
namespace GtpControl
open Endpoint.Action Catalog.V2 Element

/-- What a request about a session is answered with. -/
def Kind.answer? : Kind → Option Kind
  | .createSessionRequest => some .createSessionResponse
  | .modifyBearerRequest => some .modifyBearerResponse
  | .deleteSessionRequest => some .deleteSessionResponse
  | .releaseAccessBearersRequest => some .releaseAccessBearersResponse
  | _ => none

namespace Message

theorem sequence_setSequence_ofNat {message : Message} (hv : message.version = .v2)
    (sequence : Sequence) : (message.setSequence (.ofNat sequence)).sequence = .ofNat sequence := by
  obtain ⟨header, _, _, _⟩ := message
  cases header with
  | v2 header =>
    have hlt : (sequence : Nat) < 2 ^ 32 := sequence.isLt.trans (by decide)
    have hback : Sequence.ofUInt32 (.ofNat sequence) = sequence := by
      refine Fin.ext ?_
      rw [Sequence.ofUInt32, UInt32.toNat_ofNat_of_lt' hlt]
      exact Nat.mod_eq_of_lt sequence.isLt
    exact congrArg (fun sequence : Sequence => UInt32.ofNat sequence) hback
  | _ => cases hv

/-- An answer takes the sequence number of its request. -/
theorem sequence_setSequence {request answer : Message} (hr : request.version = .v2)
    (ha : answer.version = .v2) : (answer.setSequence request.sequence).sequence = request.sequence := by
  obtain ⟨header, _, _, _⟩ := request
  cases header with
  | v2 header => exact sequence_setSequence_ofNat ha header.sequence
  | _ => cases hr

end Message

namespace Session
variable {session : Session}

/-- A request of this kind may move the session on. -/
def Allows (request : Kind) (session : Session) : Prop :=
  match request with
  | .modifyBearerRequest => session.state = .idle → session.subscriber.imsi ≠ none
  | .deleteSessionRequest => session.state ≠ .inactive
  | .releaseAccessBearersRequest => session.state = .active
  | _ => True

theorem exists_resumed (h : session.Allows .modifyBearerRequest) :
    ∃ next, session.resume = .ok next := by
  rw [resume]
  split
  · next hs =>
    have hactive : session.state ≠ .inactive := by
      rw [hs]
      decide
    exact ⟨_, activate_eq_ok.2 ⟨h hs, hactive, rfl⟩⟩
  · exact ⟨session, rfl⟩

end Session

namespace Endpoint
variable {σ : Type} {environment : Environment (StateM σ)} {peer : SocketAddress} {request : Message}
  {endpoint : Endpoint} {world : σ}

/-- A create request that names its sender and its subscriber. -/
structure Complete (request : Message) : Prop where
  kind : request.kind = .createSessionRequest
  sender : request.field? .senderFteidC ≠ none
  imsi : request.field? .imsi ≠ none

/-- All that a gateway reads of a request can be read. -/
structure Legible (endpoint : Endpoint) (peer : SocketAddress) (request : Message) : Prop where
  teid : request.kind = .createSessionRequest →
    ∀ sender ∈ request.field? .senderFteidC, sender.Reads V2.teid
  interface : Complete request →
    ∀ sender ∈ request.field? .senderFteidC, sender.Reads V2.interfaceType
  session : Complete request → Session.Describes request
  modification : request.kind = .modifyBearerRequest → ∀ id, endpoint.Concerns peer request id →
    Session.Modifies request (endpoint.session id)

/-- Nothing stands in the way of an answer: there is a number for a new session, and a session that is
there knows its peer's end point and may be moved on. -/
structure Answerable (endpoint : Endpoint) (peer : SocketAddress) (request : Message) : Prop where
  number : Complete request → ∃ teid, endpoint.pool.Has teid ∧ teid ∉ endpoint.registry.teids
  remote : request.kind ≠ .createSessionRequest → ∀ id, endpoint.Concerns peer request id →
    ∃ remote, (endpoint.session id).remoteTeid endpoint.interface = .ok remote
  allowed : ∀ id, endpoint.Concerns peer request id → (endpoint.session id).Allows request.kind

/-- The handlers of the gateway are in place. -/
def IsGateway (endpoint : Endpoint) : Prop :=
  ∀ entry ∈ Handler.gateway, endpoint.handlers.get? entry.1 = some entry.2

instance (endpoint : Endpoint) : Decidable endpoint.IsGateway :=
  inferInstanceAs (Decidable (∀ entry ∈ Handler.gateway,
    endpoint.handlers.get? entry.1 = some entry.2))

/-- What is received is answered once: its sender, and nobody else, is sent a response of this kind with
the sequence number of the request. -/
def Answered (state : Endpoint × List (SocketAddress × Octets)) (peer : SocketAddress)
    (octets : Octets) (request : Message) (kind : Kind) : Prop :=
  ∃ octets' answer,
    (outcome .recording (receive peer octets) state).2.2 = state.2 ++ [(peer, octets')] ∧
    Message.parse .v2 .strict octets' = .ok answer ∧ answer.kind = kind ∧
    answer.sequence = request.sequence

/-! ## Handlers that answer -/

theorem kind_response (kind : Kind) (teid : UInt32) (elements : List Element) :
    (Gateway.response kind teid elements).kind = kind := rfl

/-- A run of a handler that gives an answer of this kind. -/
def Answers (environment : Environment (StateM σ)) (peer : SocketAddress) (request : Message)
    (start : Endpoint × σ) (ran : Except EndpointError Unit × Endpoint × σ) (kind : Kind) : Prop :=
  ∃ next answer, Reacts environment peer request start ran next (some answer) ∧ answer.kind = kind

/-- Requests about sessions are answered if what is done with a session that is there is. -/
private theorem answers_about (hq : Quiet environment) {kind answer : Kind}
    (ha : answer ∈ [.modifyBearerResponse, .deleteSessionResponse, .releaseAccessBearersResponse])
    (hk : request.kind = kind) (hne : kind ≠ .createSessionRequest)
    (answerable : Answerable endpoint peer request)
    {found : Option SessionId → Action (StateM σ) Unit}
    {rest : SessionId → UInt32 → Action (StateM σ) Unit}
    (hn : found none = Gateway.answerUnknown peer request answer)
    (hs : ∀ id, found (some id) = Gateway.peerTeid id >>= rest id)
    (answers : ∀ id remote, endpoint.Concerns peer request id →
      (endpoint.session id).remoteTeid endpoint.interface = .ok remote →
      (endpoint.session id).Allows kind →
      Answers environment peer request (endpoint, world)
        (outcome environment (rest id remote) (endpoint, world)) answer) :
    Answers environment peer request (endpoint, world)
      (outcome environment
        (Gateway.expect kind request >>= fun _ => Gateway.find peer request >>= found)
        (endpoint, world)) answer := by
  obtain ⟨hu, h⟩ | ⟨id, concerns, h⟩ := outcome_about hq hk hn hs
  · rw [h]
    exact ⟨_, _, reacts_respond (.unknown ha hu), kind_response ..⟩
  · obtain ⟨remote, hremote⟩ := answerable.remote (hk ▸ hne) id concerns
    rw [h, hremote]
    exact answers id remote concerns hremote (hk ▸ answerable.allowed id concerns)

/-- What a modification does not touch is still there when the session is looked up again. -/
private theorem standing_setSession {id : SessionId} {edited : Session}
    (h : edited.standing = (endpoint.session id).standing) :
    ((endpoint.setSession id edited).session id).standing = (endpoint.session id).standing := by
  by_cases hid : id < endpoint.sessions.length
  · rw [session, session?_setSession hid]
    exact h
  · rw [setSession, List.set_eq_of_length_le (Nat.le_of_not_lt hid)]

private theorem answers_modifyBearer (hq : Quiet environment)
    (hk : request.kind = .modifyBearerRequest) (legible : Legible endpoint peer request)
    (answerable : Answerable endpoint peer request) :
    Answers environment peer request (endpoint, world)
      (outcome environment (Gateway.modifyBearer peer request) (endpoint, world))
      .modifyBearerResponse := by
  refine answers_about hq (by simp) hk (by decide) answerable rfl (fun _ => rfl)
    fun id remote concerns hr hallowed => ?_
  obtain ⟨contexts, edited, he⟩ := (legible.modification hk id concerns).exists_applied
  have hkept := Session.preserves_applyModification Session.steady_standing request
    (endpoint.session id)
  rw [he] at hkept
  have hagain : ((endpoint.setSession id edited).session id).Allows .modifyBearerRequest := by
    obtain ⟨hstate, hrest⟩ := Prod.mk.inj (standing_setSession hkept)
    obtain ⟨himsi, -⟩ := Prod.mk.inj hrest
    rw [Session.Allows, hstate, himsi]
    exact hallowed
  obtain ⟨resumed, hs⟩ := Session.exists_resumed hagain
  rw [outcome_bind, outcome_editSession, he]
  simp only [Except.mapError]
  rw [outcome_bind, outcome_moveSession, hs]
  exact ⟨_, _, reacts_respond (.modified hk concerns hr he hs), kind_response ..⟩

private theorem answers_deleteSession (hq : Quiet environment)
    (hk : request.kind = .deleteSessionRequest) (answerable : Answerable endpoint peer request) :
    Answers environment peer request (endpoint, world)
      (outcome environment (Gateway.deleteSession peer request) (endpoint, world))
      .deleteSessionResponse := by
  refine answers_about hq (by simp) hk (by decide) answerable rfl (fun _ => rfl)
    fun id remote concerns hr hallowed => ?_
  have hs : (endpoint.session id).deactivate =
      .ok { endpoint.session id with state := .inactive } := if_neg hallowed
  rw [outcome_bind, outcome_moveSession, hs]
  dsimp only
  rw [outcome_bind, dropSession, outcome_modify]
  dsimp only
  rw [outcome_bind, outcome_log hq]
  exact ⟨_, _, reacts_respond (.deleted hk concerns hr hs), kind_response ..⟩

private theorem answers_releaseAccessBearers (hq : Quiet environment)
    (hk : request.kind = .releaseAccessBearersRequest)
    (answerable : Answerable endpoint peer request) :
    Answers environment peer request (endpoint, world)
      (outcome environment (Gateway.releaseAccessBearers peer request) (endpoint, world))
      .releaseAccessBearersResponse := by
  refine answers_about hq (by simp) hk (by decide) answerable rfl (fun _ => rfl)
    fun id remote concerns hr hallowed => ?_
  have hs : (endpoint.session id).setIdle = .ok { endpoint.session id with state := .idle } :=
    if_pos hallowed
  rw [outcome_bind, outcome_moveSession, hs]
  exact ⟨_, _, reacts_respond (.released hk concerns hr hs), kind_response ..⟩

/-! ## Create requests -/

private theorem answers_rejectIncomplete (hk : request.kind = .createSessionRequest) (teid : UInt32)
    {missing : UInt8} {offending : Element} (ho : Element.make .v2 missing 0 [] = .ok offending) :
    Answers environment peer request (endpoint, world)
      (outcome environment (Gateway.rejectIncomplete peer request teid missing) (endpoint, world))
      .createSessionResponse := by
  rw [Gateway.rejectIncomplete, outcome_bind, outcome_coded, ho]
  exact ⟨_, _, reacts_refusal _ (.incomplete hk ho), kind_response ..⟩

private theorem answers_complete (hq : Quiet environment) (complete : Complete request)
    (legible : Legible endpoint peer request) (answerable : Answerable endpoint peer request) :
    Answers environment peer request (endpoint, world)
      (outcome environment (Gateway.createSession peer request) (endpoint, world))
      .createSessionResponse := by
  obtain ⟨sender, hs⟩ := Option.ne_none_iff_exists'.1 complete.sender
  obtain ⟨imsi, hi⟩ := Option.ne_none_iff_exists'.1 complete.imsi
  obtain ⟨remote, hremote⟩ := legible.teid complete.kind sender hs
  obtain ⟨interface, hinterface⟩ := legible.interface complete sender hs
  obtain ⟨described, hd⟩ := (legible.session complete).exists_session peer
  have hread := readCreation_eq_ok.2 ⟨hremote, hd, hinterface⟩
  obtain ⟨own, pool, hallocated⟩ : ∃ own pool,
      endpoint.pool.allocate endpoint.registry.teids.contains = some (own, pool) := by
    cases ha : endpoint.pool.allocate endpoint.registry.teids.contains with
    | some found => exact ⟨found.1, found.2, rfl⟩
    | none =>
      obtain ⟨teid, has, hfree⟩ := answerable.number complete
      have hused := TeidPool.allocate_eq_none.1 ha teid has
      exact absurd (List.contains_iff_mem.1 hused) hfree
  obtain ⟨session, happroved⟩ := exists_approved hd hi interface remote endpoint.interface own
  obtain ⟨applied, happlied, hactive⟩ := approve_eq_ok.1 happroved
  let grant : Grant := ⟨interface, remote, described, own, endpoint.advertised.1,
    endpoint.advertised.2, endpoint.sessions.length, session⟩
  have holds : grant.Holds peer request (endpoint.withGrant grant pool) :=
    holds_enrolled { endpoint with pool } grant rfl hd hs hinterface hremote happlied hactive
  have reaction : Reaction peer request endpoint (endpoint.withGrant grant pool)
      (some (grant.reply endpoint request)) :=
    .created complete.kind (TeidPool.draws_allocate hallocated) rfl holds
  have hran := outcome_createSession_eq hq peer endpoint world complete.kind hs (by rw [hi]; rfl)
  simp only [hread, hallocated, happroved] at hran
  rw [hran]
  exact ⟨_, _, reacts_respond reaction, kind_response ..⟩

private theorem answers_createSession (hq : Quiet environment)
    (hk : request.kind = .createSessionRequest) (legible : Legible endpoint peer request)
    (answerable : Answerable endpoint peer request) :
    Answers environment peer request (endpoint, world)
      (outcome environment (Gateway.createSession peer request) (endpoint, world))
      .createSessionResponse := by
  have hfteid : Element.make .v2 Code.fteid 0 [] = .ok (plain .v2 Code.fteid 0 []) := rfl
  have himsi : Element.make .v2 Code.imsi 0 [] = .ok (plain .v2 Code.imsi 0 []) := rfl
  cases hs : request.field? .senderFteidC with
  | none =>
    simp only [Gateway.createSession, Gateway.expect, if_pos hk, outcome_bind, outcome_pure, hs]
    exact answers_rejectIncomplete hk 0 hfteid
  | some sender =>
    obtain ⟨remote, hremote⟩ := legible.teid hk sender hs
    cases hi : request.field? .imsi with
    | none =>
      simp only [Gateway.createSession, Gateway.expect, if_pos hk, outcome_bind, outcome_pure, hs,
        outcome_coded, hremote, Except.mapError, hi, Option.isNone_none, if_true]
      exact answers_rejectIncomplete hk remote himsi
    | some imsi =>
      have complete : Complete request := ⟨hk, by simp [hs], by simp [hi]⟩
      exact answers_complete hq complete legible answerable

/-! ## Requests that are received -/

/-- A gateway has a handler for each kind of request about sessions. -/
private theorem exists_handler {request answer : Kind} (h : request.answer? = some answer) :
    ∃ entry ∈ Handler.gateway, request.type? = some entry.1 ∧
      entry.2.request? = some request ∧ Version.v2.isReply entry.1 = false := by
  unfold Kind.answer? at h
  split at h
  · exact ⟨(32, .createSession), by decide, rfl, rfl, by decide⟩
  · exact ⟨(34, .modifyBearer), by decide, rfl, rfl, by decide⟩
  · exact ⟨(36, .deleteSession), by decide, rfl, rfl, by decide⟩
  · exact ⟨(170, .releaseAccessBearers), by decide, rfl, rfl, by decide⟩
  · cases h

/-- A request about sessions that a gateway can read goes to the handler for it. -/
theorem IsGateway.takes {octets : Octets} {kind : Kind} (gateway : endpoint.IsGateway)
    (hp : Message.parse .v2 endpoint.settings.lengthPolicy (endpoint.seen octets) = .ok request)
    (hk : request.kind.answer? = some kind) :
    ∃ handler, endpoint.handlers.get? request.type = some handler ∧
      handler.request? = some request.kind ∧ request.isReply = false := by
  obtain ⟨⟨type, handler⟩, hm, ht, hr, hreply⟩ := exists_handler hk
  obtain ⟨hv, hkind⟩ := Message.kind_of_parse hp
  have hne : request.kind ≠ .generic := by
    intro h
    rw [h] at hk
    cases hk
  have htype : request.type = type :=
    Option.some.inj ((Version.type?_of_kindOf hkind hne).symm.trans ht)
  refine ⟨handler, htype ▸ gateway _ hm, hr, ?_⟩
  rw [Message.isReply, hv, htype]
  exact hreply

/-- The handler that takes a request answers it. -/
theorem answers_run (hq : Quiet environment) {handler : Handler} {kind answer : Kind}
    (hk : request.kind = kind) (hh : handler.request? = some kind) (ha : kind.answer? = some answer)
    (legible : Legible endpoint peer request) (answerable : Answerable endpoint peer request) :
    Answers environment peer request (endpoint, world)
      (outcome environment (handler.run peer request) (endpoint, world)) answer := by
  cases handler with
  | createSession =>
    cases hh
    cases ha
    exact answers_createSession hq hk legible answerable
  | modifyBearer =>
    cases hh
    cases ha
    exact answers_modifyBearer hq hk legible answerable
  | deleteSession =>
    cases hh
    cases ha
    exact answers_deleteSession hq hk answerable
  | releaseAccessBearers =>
    cases hh
    cases ha
    exact answers_releaseAccessBearers hq hk answerable
  | echoRequest | echoResponse | versionNotSupported | ignore | refuse | custom => cases hh

/-- A request about a session that a gateway receives is answered once, with a response of its kind
that has its sequence number, whatever was received before. -/
theorem answered_receive {octets : Octets} {sent : List (SocketAddress × Octets)} {kind : Kind}
    (bound : endpoint.bound.isSome = true) (gateway : endpoint.IsGateway)
    (hp : Message.parse .v2 endpoint.settings.lengthPolicy (endpoint.seen octets) = .ok request)
    (hk : request.kind.answer? = some kind) (legible : Legible endpoint peer request)
    (answerable : Answerable endpoint peer request) (writable : endpoint.Writable sent peer octets) :
    Answered (endpoint, sent) peer octets request kind := by
  obtain ⟨⟨type, handler⟩, hm, ht, hr, hreply⟩ := exists_handler hk
  obtain ⟨hv, hkind⟩ := Message.kind_of_parse hp
  have hne : request.kind ≠ .generic := by
    intro h
    rw [h] at hk
    cases hk
  have htype : request.type = type :=
    Option.some.inj ((Version.type?_of_kindOf hkind hne).symm.trans ht)
  have hh : endpoint.handlers.get? request.type = some handler := htype ▸ gateway _ hm
  have hrequest : request.isReply = false := by
    rw [Message.isReply, hv, htype]
    exact hreply
  obtain ⟨events, hreceived⟩ := outcome_receive_request quiet_recording hp hrequest hh
  obtain ⟨next, answer, reacts, hanswer⟩ :=
    answers_run quiet_recording rfl hr hk legible answerable
  have sound := Message.sound_of_mem_of_parse hp
  have hb : next.bound.isSome = true := by
    rw [reacts.reaction.bound]
    exact bound
  obtain ⟨octets', hran, hparsed⟩ := reacts.sends hb sound (writable request handler hp hh)
  refine ⟨octets', _, ?_, hparsed, hanswer,
    Message.sequence_setSequence hv (reacts.reaction.sound sound).2⟩
  rw [hreceived, hran]

/-! A subscriber attaches to a gateway, and its client asks again. -/

private def home : IpAddress := .v6 ⟨[0, 0, 0, 0, 0, 0, 0, 0, 0, 0, 0, 0, 0, 0, 0, 1], rfl⟩

private def roamer : SocketAddress := ⟨home, 2124, 0⟩

/-- A gateway with these numbers for its sessions. -/
private def station (teidRange : TeidRange) : Endpoint :=
  { make ⟨home, 2123, 0⟩ 11 7 { teidRange } with
    bound := some ⟨home, 2123, 0⟩
    handlers := ⟨Handler.standard.entries ++ Handler.gateway⟩ }

/-- The request of a client whose end point is on the given interface. -/
private def joining (interface : UInt8) : Message :=
  .make .v2 .createSessionRequest { sequence := 1 }
    [plain .v2 Code.imsi 0 [0x00, 0x01, 0x01, 0, 0, 0, 0, 0xf1], V2.ofFteid interface 100 none none,
      V2.ofBearerContext [V2.ofEbi 5]]

/-- A request about the first session that the gateway makes. -/
private def about (kind : Kind) : Message := .make .v2 kind { sequence := 2, teid := some 7 } []

private def wire (request : Message) : Octets := request.encode.toOption.getD []

private def after (endpoint : Endpoint) (requests : List Message) :
    Endpoint × List (SocketAddress × Octets) :=
  requests.foldl (fun state request => (outcome .recording (receive roamer (wire request)) state).2)
    (endpoint, [])

private theorem describes_joining (interface : UInt8) : Session.Describes (joining interface) where
  servingNetwork := by rintro element ⟨⟩
  ratType := by rintro element ⟨⟩
  imsi := by
    rintro element ⟨⟩
    exact ⟨_, rfl⟩
  msisdn := by rintro element ⟨⟩
  mei := by rintro element ⟨⟩
  apn := by rintro element ⟨⟩
  contexts := by
    refine List.forall_mem_singleton.2 (⟨?_, ?_, ?_, ?_⟩ :
      Bearer.Legible (V2.ofBearerContext [V2.ofEbi 5]))
    · rintro child ⟨⟩
      exact ⟨5, rfl⟩
    · rintro child ⟨⟩
    · rintro child ⟨⟩
    · exact List.forall_mem_singleton.2 fun h => absurd h (by decide)

private theorem legible_create {interface : UInt8} (hi : interface < 64)
    (hk : request.kind = .createSessionRequest)
    (hs : request.field? .senderFteidC = some (V2.ofFteid interface 100 none none))
    (describes : Session.Describes request) (endpoint : Endpoint) :
    Legible endpoint roamer request where
  teid := by
    rw [hs]
    rintro - sender ⟨⟩
    exact ⟨100, teid_ofFteid ..⟩
  interface := by
    rw [hs]
    rintro - sender ⟨⟩
    exact ⟨interface, interfaceType_ofFteid hi ..⟩
  session _ := describes
  modification h := by
    rw [hk] at h
    cases h

private theorem legible_joining {interface : UInt8} (h : interface < 64) (endpoint : Endpoint) :
    Legible endpoint roamer (joining interface) :=
  legible_create h rfl rfl (describes_joining interface) endpoint

/-- Nothing is read of requests without elements. -/
private theorem legible_about {kind : Kind} (h : kind ≠ .createSessionRequest)
    (endpoint : Endpoint) : Legible endpoint roamer (about kind) where
  teid hk := absurd hk h
  interface complete := absurd complete.kind h
  session complete := absurd complete.kind h
  modification := by
    rintro ⟨⟩ id -
    exact ⟨by rintro context ⟨⟩, by rintro - element ⟨⟩⟩

/-- The second request is answered as the first was, with a session of its own. -/
theorem answered_receive_again :
    let state := after (station {}) [joining 10]
    state.1.bound.isSome = true ∧ state.1.IsGateway ∧
      Message.parse .v2 state.1.settings.lengthPolicy (state.1.seen (wire (joining 10))) =
        .ok (joining 10) ∧
      (joining 10).kind.answer? = some .createSessionResponse ∧
      Legible state.1 roamer (joining 10) ∧ Answerable state.1 roamer (joining 10) ∧
      state.1.Writable state.2 roamer (wire (joining 10)) ∧
      Answered state roamer (wire (joining 10)) (joining 10) .createSessionResponse := by
  intro state
  have bound : state.1.bound.isSome = true := by decide +kernel
  have gateway : state.1.IsGateway := by decide +kernel
  have hp : Message.parse .v2 state.1.settings.lengthPolicy (state.1.seen (wire (joining 10))) =
      .ok (joining 10) := by decide +kernel
  have legible : Legible state.1 roamer (joining 10) := legible_joining (by decide) state.1
  have answerable : Answerable state.1 roamer (joining 10) :=
    ⟨fun _ => ⟨9, ⟨by decide +kernel, by decide +kernel⟩, by decide +kernel⟩,
      fun h => absurd rfl h, fun _ _ => trivial⟩
  have writable : state.1.Writable state.2 roamer (wire (joining 10)) := by
    intro message handler hm hh n h
    rw [hp] at hm
    cases hm
    have hcreate : state.1.handlers.get? (joining 10).type = some .createSession := by
      decide +kernel
    rw [hcreate] at hh
    cases hh
    have hok : (outcome .recording (Handler.createSession.run roamer (joining 10)) state).1.isOk =
        true := by decide +kernel
    rw [h] at hok
    cases hok
  exact ⟨bound, gateway, hp, rfl, legible, answerable, writable,
    answered_receive bound gateway hp rfl legible answerable writable⟩

/-! ## Requests that are not answered -/

/-- Octets of the header of a response, as far as they count. -/
theorem counted_response (teid sequence : UInt32) (elements : List Element) :
    ((Gateway.response .createSessionResponse teid elements).setSequence sequence).header.counted =
      8 := by
  simp only [Gateway.response, Message.make, Message.setSequence, Message.header_ofElements]
  rfl

theorem encodedSize_ofBearerContext (children : List Element) :
    (V2.ofBearerContext children).encodedSize .v2 = 4 + total (children.map (encodedSize .v2)) := by
  have hsize := total_map_length (octets .v2) children
  simp only [length_octets] at hsize
  exact (congrArg (4 + ·) hsize).symm

theorem encodedSize_of_mem_grants {chargingId : UInt32} {session : Session} {context : Element}
    (h : context ∈ session.grants chargingId) : context.encodedSize .v2 = 23 := by
  obtain ⟨bearer, -, rfl⟩ := List.mem_map.1 h
  have hcharging : (V2.ofChargingId chargingId).encodedSize .v2 = 8 := by
    obtain ⟨a, b, c, d, ho, -⟩ := Octets.exists_ofUInt32 chargingId
    rw [V2.ofChargingId, ho]
    rfl
  rw [encodedSize_ofBearerContext]
  simp only [List.map_cons, List.map_nil, total, hcharging]
  rfl

theorem le_encodedSize_ofFteid (interface : UInt8) (teid : UInt32) (v4 : Option Ipv4Address)
    (v6 : Option Ipv6Address) : 9 ≤ (V2.ofFteid interface teid v4 v6).encodedSize .v2 := by
  obtain ⟨a, b, c, d, ho, -⟩ := Octets.exists_ofUInt32 teid
  have hheader : headerSize .v2 Code.fteid = 4 := rfl
  rw [V2.ofFteid, ho]
  simp only [encodedSize, V2.ofPayload, plain, hheader, List.length_append, List.length_cons]
  omega

/-- The answer to a create request gives back the address that the request names, and has more. -/
theorem Grant.payloadSize_reply (gateway : Endpoint) (grant : Grant) {paa : Element}
    (h : request.field? .paa = some paa) :
    42 + paa.payload.length ≤ (grant.reply gateway request).payloadSize := by
  obtain ⟨header, hv, -, -, hm⟩ := Message.exists_make_eq .v2 .createSessionResponse
    { teid := some grant.remote }
    ([V2.ofCause Cause.accepted, V2.ofFteid gateway.interface grant.own grant.v4 grant.v6]
      ++ (request.field? .paa).toList ++ grant.contexts gateway)
  have hversion : ∀ elements,
      (Message.ofElements header .createSessionResponse elements).version = .v2 := fun _ => hv
  -- The default bearer is granted in any case.
  obtain ⟨context, contexts, hcontexts⟩ : ∃ context contexts,
      grant.contexts gateway = context :: contexts := ⟨_, _, rfl⟩
  have hcontext : context.encodedSize .v2 = 23 :=
    encodedSize_of_mem_grants (hcontexts ▸ List.mem_cons_self : context ∈ grant.contexts gateway)
  have hcause : (V2.ofCause Cause.accepted).encodedSize .v2 = 6 := rfl
  have hfteid := le_encodedSize_ofFteid gateway.interface grant.own grant.v4 grant.v6
  have hpaa : paa.encodedSize .v2 = 4 + paa.payload.length := rfl
  rw [Grant.reply, Gateway.response, hm, Message.payloadSize, hversion,
    total_perm ((Message.elements_ofElements_perm ..).map _), h]
  simp only [hcontexts, Option.toList_some, List.map_append, List.map_cons, List.map_nil,
    total_append, total, hcause, hpaa, hcontext]
  omega

/-- A create request that names an address of this many octets is not answered. -/
theorem silent_createSession {sent : List (SocketAddress × Octets)} {paa : Element}
    (bound : endpoint.bound.isSome = true) (complete : Complete request)
    (h : request.field? .paa = some paa) (large : maxLength < 50 + paa.payload.length) :
    (outcome .recording (Gateway.createSession peer request) (endpoint, sent)).2.2 = sent := by
  obtain ⟨sender, hs⟩ := Option.ne_none_iff_exists'.1 complete.sender
  obtain ⟨imsi, hi⟩ := Option.ne_none_iff_exists'.1 complete.imsi
  obtain ⟨e, hr⟩ | ⟨own, pool, -, ⟨e, hr⟩ | ⟨grant, -, -, -, hr⟩⟩ :=
    outcome_createSession quiet_recording peer endpoint sent complete.kind hs (by rw [hi]; rfl)
  · rw [hr]
  · rw [hr]
  · have hb : (endpoint.withGrant grant pool).bound.isSome = true := bound
    rw [hr, respond, outcome_send_recording hb]
    cases he : ((grant.reply endpoint request).setSequence request.sequence).encode with
    | error e => rfl
    | ok octets =>
      -- The header would have to count more than it can.
      obtain ⟨-, front, hf, -⟩ := Message.encode_eq_ok.1 he
      have hfits := Header.exists_encode.1 ⟨front, hf⟩
      have hcounted : ((grant.reply endpoint request).setSequence request.sequence).header.counted =
          8 := counted_response ..
      have hsame : ((grant.reply endpoint request).setSequence request.sequence).payloadSize =
          (grant.reply endpoint request).payloadSize := Message.payloadSize_setSequence ..
      have hsize := Grant.payloadSize_reply endpoint grant h
      omega

/-- A request that a gateway can read, and does not answer. -/
structure Unanswered (state : Endpoint × List (SocketAddress × Octets)) (peer : SocketAddress)
    (octets : Octets) (request : Message) : Prop where
  reachable : Reachable state.1
  bound : state.1.bound.isSome = true
  gateway : state.1.IsGateway
  parsed : Message.parse .v2 state.1.settings.lengthPolicy (state.1.seen octets) = .ok request
  kind : request.kind.answer? ≠ none
  legible : Legible state.1 peer request
  silent : (outcome .recording (receive peer octets) state).2.2 = state.2

private def laden (address : Octets) : Message :=
  .make .v2 .createSessionRequest { sequence := 1 }
    [plain .v2 Code.imsi 0 [0x00, 0x01, 0x01, 0, 0, 0, 0, 0xf1], V2.ofFteid 10 100 none none,
      V2.ofPayload Code.paa address]

/-- A request that names an address of this many octets can be sent. -/
private theorem exists_laden {address : Octets} (h : 33 + address.length ≤ maxLength) :
    ∃ octets, (laden address).encode = .ok octets ∧ octets.length = 37 + address.length ∧
      ∀ policy, Message.parse .v2 policy octets = .ok (laden address) := by
  have himsi : Element.make .v2 Code.imsi 0 [0x00, 0x01, 0x01, 0, 0, 0, 0, 0xf1] =
      .ok (plain .v2 Code.imsi 0 [0x00, 0x01, 0x01, 0, 0, 0, 0, 0xf1]) := rfl
  have hpaa : Element.make .v2 Code.paa 0 address = .ok (V2.ofPayload Code.paa address) := by
    rw [Element.make, if_neg (by omega)]
    rfl
  have hfteid : Element.Built .v2 (V2.ofFteid 10 100 none none) := .ofValue (V2.OfValue.fteid ..)
  have sound : (laden address).Sound := by
    refine Message.sound_make (by decide) ?_ _
    simp only [List.forall_mem_cons]
    exact ⟨sound_of_built (.made himsi), sound_of_built hfteid, sound_of_built (.made hpaa), by simp⟩
  have hv : (laden address).version = .v2 := Message.version_make ..
  have helements : (laden address).elements = [plain .v2 Code.imsi 0
      [0x00, 0x01, 0x01, 0, 0, 0, 0, 0xf1], V2.ofFteid 10 100 none none,
      V2.ofPayload Code.paa address] := rfl
  have hpayload : (laden address).payloadSize = 25 + address.length := by
    have hsizes : (laden address).payloadSize = 12 + (9 + (4 + address.length + 0)) := by
      rw [Message.payloadSize, helements, hv]
      rfl
    omega
  have hcounted : (laden address).header.counted = 8 := by
    simp only [laden, Message.make, Message.header_ofElements]
    rfl
  have hsize : (laden address).header.size = 12 := by
    simp only [laden, Message.make, Message.header_ofElements]
    rfl
  have fits : ∀ x ∈ (laden address).elements, Element.Fits (laden address).version x := by
    have hlengths : ∀ x ∈ (laden address).elements, x.payload.length ≤ maxLength := by
      rw [helements]
      simp only [List.forall_mem_cons]
      refine ⟨by decide, by decide, ?_, by simp⟩
      exact Nat.le_trans (Nat.le_add_left _ 33) h
    exact fun x hx _ => hlengths x hx
  obtain ⟨front, hf⟩ := Header.exists_encode.2 (by omega :
    (laden address).header.counted + (laden address).payloadSize ≤ maxLength)
  have he := Message.encode_eq_ok.2 ⟨fits, front, hf, rfl⟩
  refine ⟨_, he, ?_, fun policy => ?_⟩
  · rw [Message.length_encode he, Message.size]
    omega
  · exact sound.parse_v2 hv he policy

private theorem describes_laden (address : Octets) : Session.Describes (laden address) where
  servingNetwork := by rintro element ⟨⟩
  ratType := by rintro element ⟨⟩
  imsi := by
    rintro element ⟨⟩
    exact ⟨_, rfl⟩
  msisdn := by rintro element ⟨⟩
  mei := by rintro element ⟨⟩
  apn := by rintro element ⟨⟩
  contexts := by rintro context ⟨⟩

private theorem reachable_after (range : TeidRange) (requests : List Message) :
    Reachable (after (station range) requests).1 := by
  have hstation : Reachable (station range) :=
    (Reachable.made ⟨home, 2123, 0⟩ 11 7 { teidRange := range }).aside rfl rfl
  rw [after]
  generalize ([] : List (SocketAddress × Octets)) = sent
  generalize station range = endpoint at hstation ⊢
  induction requests generalizing endpoint sent with
  | nil => exact hstation
  | cons request requests ih =>
    exact ih _ _ (hstation.receive quiet_recording (handles_recording _) sent roamer
      (wire request))

private theorem unanswered_laden {address : Octets} (large : maxLength < 50 + address.length)
    (short : 37 + address.length ≤ maxLength) :
    Unanswered (station {}, []) roamer (wire (laden address)) (laden address) := by
  obtain ⟨octets, he, hlength, hparse⟩ := exists_laden (by omega : 33 + address.length ≤ maxLength)
  have hwire : wire (laden address) = octets := by rw [wire, he]; rfl
  have hseen : (station {}).seen octets = octets := by
    rw [seen]
    refine List.take_of_length_le ?_
    have hbuffer : max 1 (station {}).settings.bufferSize.toNat = maxLength := by decide +kernel
    omega
  have hp : Message.parse .v2 (station {}).settings.lengthPolicy ((station {}).seen octets) =
      .ok (laden address) := by rw [hseen, hparse]
  have complete : Complete (laden address) := ⟨rfl, Option.some_ne_none _, Option.some_ne_none _⟩
  have bound : (station {}).bound.isSome = true := rfl
  rw [hwire]
  have htype : (laden address).type = 32 := Message.type_make ..
  have hrequest : (laden address).isReply = false := by
    rw [Message.isReply, htype, show (laden address).version = .v2 from Message.version_make ..]
    decide
  have hh : (station {}).handlers.get? (laden address).type = some .createSession := by
    rw [htype]
    decide +kernel
  have hkind : (laden address).kind.answer? ≠ none := Option.some_ne_none Kind.createSessionResponse
  have legible : Legible (station {}) roamer (laden address) :=
    legible_create (by decide) rfl rfl (describes_laden address) (station {})
  have hpaa : (laden address).field? .paa = some (V2.ofPayload Code.paa address) := rfl
  have silent : (outcome .recording (Gateway.createSession roamer (laden address))
      (station {}, [])).2.2 = [] := silent_createSession bound complete hpaa large
  refine ⟨reachable_after {} [], bound, by decide +kernel, hp, hkind, legible, ?_⟩
  obtain ⟨events, hreceived⟩ := outcome_receive_request quiet_recording hp hrequest hh
  rw [hreceived]
  exact silent

/-- No number is left for a second session; the only end point that the session knows is the gateway's
own; the session idles already; the answer is too long for a message. -/
theorem unanswered_receive :
    Unanswered (after (station ⟨7, 7⟩) [joining 10]) roamer (wire (joining 10)) (joining 10) ∧
      Unanswered (after (station {}) [joining 11]) roamer (wire (about .modifyBearerRequest))
        (about .modifyBearerRequest) ∧
      Unanswered (after (station {}) [joining 10, about .releaseAccessBearersRequest]) roamer
        (wire (about .releaseAccessBearersRequest)) (about .releaseAccessBearersRequest) ∧
      Unanswered (station {}, []) roamer (wire (laden (List.replicate 65488 1)))
        (laden (List.replicate 65488 1)) := by
  refine ⟨⟨reachable_after .., ?_, ?_, ?_, ?_, legible_joining (by decide) _, ?_⟩,
    ⟨reachable_after .., ?_, ?_, ?_, ?_, legible_about (by decide) _, ?_⟩,
    ⟨reachable_after .., ?_, ?_, ?_, ?_, legible_about (by decide) _, ?_⟩,
    unanswered_laden (by rw [List.length_replicate]; decide) (by rw [List.length_replicate]; decide)⟩
  all_goals decide +kernel

end Endpoint
end GtpControl
