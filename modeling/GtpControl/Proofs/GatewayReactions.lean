import GtpControl.Endpoint.Serving
import GtpControl.Proofs.ActionEffects
import GtpControl.Proofs.GatewayCreation
import GtpControl.Proofs.MessageFraming

/-! # Reactions: what a handler does to the endpoint, and what it answers -/
namespace GtpControl.Endpoint
open Endpoint.Action Catalog.V2 Element
variable {σ : Type} {environment : Environment (StateM σ)} {peer : SocketAddress} {request : Message}
  {endpoint : Endpoint} {world : σ}

/-- The session that a request is about. -/
def Concerns (endpoint : Endpoint) (peer : SocketAddress) (request : Message) (id : SessionId) :
    Prop :=
  endpoint.registry.lookupTeid (request.teid?.getD 0) peer = .ok id

/-- The endpoint that a handler leaves, and its answer. -/
inductive Reaction (peer : SocketAddress) (request : Message) (endpoint : Endpoint) :
    Endpoint → Option Message → Prop
  | idle : Reaction peer request endpoint endpoint none
  | echoed : Reaction peer request endpoint endpoint
      (some (.make .v2 .echoResponse {} [V2.ofRecovery endpoint.settings.recovery]))
  /-- a create request lacks an element -/
  | incomplete {missing : UInt8} {teid : UInt32} {offending : Element}
    (hk : request.kind = .createSessionRequest)
    (ho : Element.make .v2 missing 0 [] = .ok offending) :
    Reaction peer request endpoint endpoint (some (Gateway.response .createSessionResponse teid
      [V2.ofCauseWith Cause.mandatoryMissing false false false (some offending)]))
  /-- a create request is given up after a number was drawn for it -/
  | drawn {own : UInt32} {pool : TeidPool} (hk : request.kind = .createSessionRequest)
    (draws : endpoint.Draws own pool) : Reaction peer request endpoint { endpoint with pool } none
  | created {grant : Grant} {pool : TeidPool} (hk : request.kind = .createSessionRequest)
    (draws : endpoint.Draws grant.own pool) (hid : grant.id = endpoint.sessions.length)
    (holds : grant.Holds peer request (endpoint.withGrant grant pool)) :
    Reaction peer request endpoint (endpoint.withGrant grant pool)
      (some (grant.reply endpoint request))
  /-- a request is about a session that its sender does not have -/
  | unknown {kind : Kind} (hk : kind ∈ [.modifyBearerResponse, .deleteSessionResponse,
      .releaseAccessBearersResponse]) (hu : ∀ id, ¬endpoint.Concerns peer request id) :
    Reaction peer request endpoint endpoint
      (some (Gateway.response kind 0 [V2.ofCause Cause.contextNotFound]))
  /-- a modification is given up half way -/
  | disturbed {id : SessionId} {result : Coded (List Element)} {edited : Session}
    (hk : request.kind = .modifyBearerRequest) (concerns : endpoint.Concerns peer request id)
    (he : (Session.applyModification request).run (endpoint.session id) = (result, edited)) :
    Reaction peer request endpoint (endpoint.setSession id edited) none
  | modified {id : SessionId} {contexts : List Element} {edited resumed : Session} {remote : UInt32}
    (hk : request.kind = .modifyBearerRequest) (concerns : endpoint.Concerns peer request id)
    (hr : (endpoint.session id).remoteTeid endpoint.interface = .ok remote)
    (he : (Session.applyModification request).run (endpoint.session id) = (.ok contexts, edited))
    (hs : ((endpoint.setSession id edited).session id).resume = .ok resumed) :
    Reaction peer request endpoint ((endpoint.setSession id edited).setSession id resumed)
      (some (Gateway.response .modifyBearerResponse remote (V2.ofCause Cause.accepted :: contexts)))
  | deleted {id : SessionId} {ended : Session} {remote : UInt32}
    (hk : request.kind = .deleteSessionRequest) (concerns : endpoint.Concerns peer request id)
    (hr : (endpoint.session id).remoteTeid endpoint.interface = .ok remote)
    (hs : (endpoint.session id).deactivate = .ok ended) :
    Reaction peer request endpoint ((endpoint.setSession id ended).removeSession id)
      (some (Gateway.response .deleteSessionResponse remote [V2.ofCause Cause.accepted]))
  | released {id : SessionId} {idle : Session} {remote : UInt32}
    (hk : request.kind = .releaseAccessBearersRequest) (concerns : endpoint.Concerns peer request id)
    (hr : (endpoint.session id).remoteTeid endpoint.interface = .ok remote)
    (hs : (endpoint.session id).setIdle = .ok idle) :
    Reaction peer request endpoint (endpoint.setSession id idle)
      (some (Gateway.response .releaseAccessBearersResponse remote [V2.ofCause Cause.accepted]))

/-- What is left when an answer has been sent, if there is one. -/
def answering (environment : Environment (StateM σ)) (peer : SocketAddress) (request : Message)
    (state : Endpoint × σ) : Option Message → Except EndpointError Unit × Endpoint × σ
  | some answer => outcome environment (respond peer request answer) state
  | none => (.ok (), state)

/-- A run of a handler is a reaction and the sending of its answer. It fails if that fails. -/
structure Reacts (environment : Environment (StateM σ)) (peer : SocketAddress) (request : Message)
    (start : Endpoint × σ) (ran : Except EndpointError Unit × Endpoint × σ) (next : Endpoint)
    (answer : Option Message) : Prop where
  reaction : Reaction peer request start.1 next answer
  state : ran.2 = (answering environment peer request (next, start.2) answer).2
  error : ∀ e, (answering environment peer request (next, start.2) answer).1 = .error e →
    ran.1 = .error e

/-- Answers leave the endpoint as the reaction has left it. -/
theorem Reacts.leaves {start : Endpoint × σ} {ran : Except EndpointError Unit × Endpoint × σ}
    {next : Endpoint} {answer : Option Message}
    (reacts : Reacts environment peer request start ran next answer) : ran.2.1 = next := by
  have hstate := congrArg Prod.fst reacts.state
  cases answer with
  | none => exact hstate
  | some answer => exact hstate.trans (keeps_send .. : Keeps environment id _ _)

/-- A handler that ends without an answer. -/
private theorem reacts_silent {result : Except EndpointError Unit} {next : Endpoint}
    (reaction : Reaction peer request endpoint next none) :
    Reacts environment peer request (endpoint, world) (result, next, world) next none :=
  ⟨reaction, rfl, fun _ h => by cases h⟩

/-- A handler that answers at its end. -/
theorem reacts_respond {next : Endpoint} {answer : Message}
    (reaction : Reaction peer request endpoint next (some answer)) :
    Reacts environment peer request (endpoint, world)
      (outcome environment (respond peer request answer) (next, world)) next (some answer) :=
  ⟨reaction, rfl, fun _ h => h⟩

/-- A handler that answers and then fails. -/
theorem reacts_refusal {next : Endpoint} {answer : Message} (e : EndpointError)
    (reaction : Reaction peer request endpoint next (some answer)) :
    Reacts environment peer request (endpoint, world)
      (outcome environment (respond peer request answer >>= fun _ => throw e) (next, world)) next
      (some answer) := by
  refine ⟨reaction, ?_, fun e' h => ?_⟩
  · rw [outcome_bind, answering]
    split
    · next hr => exact (congrArg Prod.snd hr).symm
    · next hr => exact (congrArg Prod.snd hr).symm
  · rw [answering] at h
    rw [outcome_bind]
    split
    · next hr =>
      rw [hr] at h
      cases h
    · next hr =>
      rw [hr] at h
      exact h

/-! ## Requests about sessions -/

private theorem outcome_find (hq : Quiet environment) (peer : SocketAddress) (request : Message)
    (endpoint : Endpoint) (world : σ) :
    (∃ id, endpoint.Concerns peer request id ∧
        outcome environment (Gateway.find peer request) (endpoint, world) =
          (.ok (some id), endpoint, world)) ∨
      (∀ id, ¬endpoint.Concerns peer request id) ∧
        outcome environment (Gateway.find peer request) (endpoint, world) =
          (.ok none, endpoint, world) := by
  simp only [Gateway.find, Concerns, outcome_bind, outcome_get]
  cases endpoint.registry.lookupTeid (request.teid?.getD 0) peer with
  | ok id => exact .inl ⟨id, rfl, rfl⟩
  | error e =>
    refine .inr ⟨fun id h => (by cases h), ?_⟩
    simp only [outcome_bind, outcome_log hq, outcome_pure]

theorem outcome_peerTeid (id : SessionId) :
    outcome environment (Gateway.peerTeid id) (endpoint, world) =
      (((endpoint.session id).remoteTeid endpoint.interface).mapError .session, endpoint, world) := by
  simp only [Gateway.peerTeid, outcome_bind, outcome_get, outcome_session]

/-- Handlers of requests about sessions say that there is no session, or go on with it and with the end
point of its peer. -/
theorem outcome_about (hq : Quiet environment) {kind answer : Kind}
    {found : Option SessionId → Action (StateM σ) Unit}
    {rest : SessionId → UInt32 → Action (StateM σ) Unit} (hk : request.kind = kind)
    (hn : found none = Gateway.answerUnknown peer request answer)
    (hs : ∀ id, found (some id) = Gateway.peerTeid id >>= rest id) :
    let ran := outcome environment
      (Gateway.expect kind request >>= fun _ => Gateway.find peer request >>= found) (endpoint, world)
    ((∀ id, ¬endpoint.Concerns peer request id) ∧
        ran = outcome environment (respond peer request
          (Gateway.response answer 0 [V2.ofCause Cause.contextNotFound])) (endpoint, world)) ∨
      ∃ id, endpoint.Concerns peer request id ∧
        ran = match (endpoint.session id).remoteTeid endpoint.interface with
          | .ok remote => outcome environment (rest id remote) (endpoint, world)
          | .error e => (.error (.session e), endpoint, world) := by
  dsimp only
  rw [Gateway.expect, if_pos hk, outcome_bind, outcome_pure]
  dsimp only
  rw [outcome_bind]
  obtain ⟨id, concerns, hf⟩ | ⟨hu, hf⟩ := outcome_find hq peer request endpoint world
  · refine .inr ⟨id, concerns, ?_⟩
    rw [hf]
    dsimp only
    rw [hs, outcome_bind, outcome_peerTeid]
    cases (endpoint.session id).remoteTeid endpoint.interface <;> rfl
  · refine .inl ⟨hu, ?_⟩
    rw [hf]
    dsimp only
    rw [hn]
    rfl

/-- A request about a session that is there goes on with it. -/
theorem outcome_concerning (hq : Quiet environment) {kind answer : Kind} {id : SessionId}
    {found : Option SessionId → Action (StateM σ) Unit}
    {rest : SessionId → UInt32 → Action (StateM σ) Unit} (hk : request.kind = kind)
    (hn : found none = Gateway.answerUnknown peer request answer)
    (hs : ∀ id, found (some id) = Gateway.peerTeid id >>= rest id)
    (concerns : endpoint.Concerns peer request id) :
    outcome environment
        (Gateway.expect kind request >>= fun _ => Gateway.find peer request >>= found)
        (endpoint, world) =
      match (endpoint.session id).remoteTeid endpoint.interface with
      | .ok remote => outcome environment (rest id remote) (endpoint, world)
      | .error e => (.error (.session e), endpoint, world) := by
  obtain ⟨hu, -⟩ | ⟨id', concerns', h⟩ := outcome_about hq hk hn hs
  · exact absurd concerns (hu id)
  · obtain rfl := Except.ok.inj (concerns.symm.trans concerns')
    exact h

/-- It does so if the end point of the peer is known. -/
theorem outcome_reaching (hq : Quiet environment) {kind answer : Kind} {id : SessionId}
    {remote : UInt32} {found : Option SessionId → Action (StateM σ) Unit}
    {rest : SessionId → UInt32 → Action (StateM σ) Unit} (hk : request.kind = kind)
    (hn : found none = Gateway.answerUnknown peer request answer)
    (hs : ∀ id, found (some id) = Gateway.peerTeid id >>= rest id)
    (concerns : endpoint.Concerns peer request id)
    (hr : (endpoint.session id).remoteTeid endpoint.interface = .ok remote) :
    outcome environment
        (Gateway.expect kind request >>= fun _ => Gateway.find peer request >>= found)
        (endpoint, world) =
      outcome environment (rest id remote) (endpoint, world) := by
  rw [outcome_concerning hq hk hn hs concerns, hr]

/-- They differ in what they do with a session that is there. -/
private theorem reacts_about (hq : Quiet environment) {kind answer : Kind}
    (ha : answer ∈ [.modifyBearerResponse, .deleteSessionResponse, .releaseAccessBearersResponse])
    {found : Option SessionId → Action (StateM σ) Unit}
    {rest : SessionId → UInt32 → Action (StateM σ) Unit}
    (hn : found none = Gateway.answerUnknown peer request answer)
    (hs : ∀ id, found (some id) = Gateway.peerTeid id >>= rest id)
    (reacts : ∀ id remote, request.kind = kind → endpoint.Concerns peer request id →
      (endpoint.session id).remoteTeid endpoint.interface = .ok remote →
      ∃ next answer, Reacts environment peer request (endpoint, world)
        (outcome environment (rest id remote) (endpoint, world)) next answer) :
    ∃ next answer, Reacts environment peer request (endpoint, world)
      (outcome environment
        (Gateway.expect kind request >>= fun _ => Gateway.find peer request >>= found)
        (endpoint, world)) next answer := by
  by_cases hk : request.kind = kind
  · obtain ⟨hu, h⟩ | ⟨id, concerns, h⟩ := outcome_about hq hk hn hs
    · rw [h]
      exact ⟨_, _, reacts_respond (.unknown ha hu)⟩
    · rw [h]
      cases hr : (endpoint.session id).remoteTeid endpoint.interface with
      | error e => exact ⟨_, _, reacts_silent .idle⟩
      | ok remote => exact reacts id remote hk concerns hr
  · rw [Gateway.expect, if_neg hk]
    exact ⟨_, _, reacts_silent .idle⟩

private theorem reacts_modifyBearer (hq : Quiet environment) (peer : SocketAddress)
    (request : Message) (endpoint : Endpoint) (world : σ) :
    ∃ next answer, Reacts environment peer request (endpoint, world)
      (outcome environment (Gateway.modifyBearer peer request) (endpoint, world)) next answer := by
  refine reacts_about hq (by simp) rfl (fun _ => rfl) fun id remote hk concerns hr => ?_
  rw [outcome_bind, outcome_editSession]
  cases he : (Session.applyModification request).run (endpoint.session id) with
  | mk result edited =>
    cases result with
    | error e => exact ⟨_, _, reacts_silent (.disturbed hk concerns he)⟩
    | ok contexts =>
      simp only [Except.mapError]
      rw [outcome_bind, outcome_moveSession]
      cases hs : ((endpoint.setSession id edited).session id).resume with
      | error e => exact ⟨_, _, reacts_silent (.disturbed hk concerns he)⟩
      | ok resumed => exact ⟨_, _, reacts_respond (.modified hk concerns hr he hs)⟩

private theorem reacts_deleteSession (hq : Quiet environment) (peer : SocketAddress)
    (request : Message) (endpoint : Endpoint) (world : σ) :
    ∃ next answer, Reacts environment peer request (endpoint, world)
      (outcome environment (Gateway.deleteSession peer request) (endpoint, world)) next answer := by
  refine reacts_about hq (by simp) rfl (fun _ => rfl) fun id remote hk concerns hr => ?_
  rw [outcome_bind, outcome_moveSession]
  cases hs : (endpoint.session id).deactivate with
  | error e => exact ⟨_, _, reacts_silent .idle⟩
  | ok ended =>
    dsimp only
    rw [outcome_bind, dropSession, outcome_modify]
    dsimp only
    rw [outcome_bind, outcome_log hq]
    exact ⟨_, _, reacts_respond (.deleted hk concerns hr hs)⟩

private theorem reacts_releaseAccessBearers (hq : Quiet environment) (peer : SocketAddress)
    (request : Message) (endpoint : Endpoint) (world : σ) :
    ∃ next answer, Reacts environment peer request (endpoint, world)
      (outcome environment (Gateway.releaseAccessBearers peer request) (endpoint, world))
        next answer := by
  refine reacts_about hq (by simp) rfl (fun _ => rfl) fun id remote hk concerns hr => ?_
  rw [outcome_bind, outcome_moveSession]
  cases hs : (endpoint.session id).setIdle with
  | error e => exact ⟨_, _, reacts_silent .idle⟩
  | ok idle => exact ⟨_, _, reacts_respond (.released hk concerns hr hs)⟩

/-! ## Create requests -/

/-- An endpoint that is asked to create a session keeps all that it has. -/
theorem Reaction.extends {next : Endpoint} {answer : Option Message}
    (reaction : Reaction peer request endpoint next answer)
    (hk : request.kind = .createSessionRequest) : Extends endpoint next := by
  cases reaction with
  | idle | echoed | incomplete | unknown => exact .refl endpoint
  | drawn => exact extends_pool ..
  | created _ draws => exact extends_withGrant draws
  | disturbed hk' | modified hk' | deleted hk' | released hk' =>
    rw [hk] at hk'
    cases hk'

private theorem type_createResponse (teid : UInt32) (elements : List Element) :
    (Gateway.response .createSessionResponse teid elements).type = 33 := by
  rw [Gateway.response, Message.type_make]
  rfl

private theorem reacts_rejectIncomplete (hk : request.kind = .createSessionRequest) (teid : UInt32)
    (missing : UInt8) :
    ∃ next answer, Reacts environment peer request (endpoint, world)
      (outcome environment (Gateway.rejectIncomplete peer request teid missing) (endpoint, world))
        next answer ∧ ∀ response ∈ answer, response.type = 33 := by
  rw [Gateway.rejectIncomplete, outcome_bind, outcome_coded]
  cases ho : Element.make .v2 missing 0 [] with
  | error e => exact ⟨_, _, reacts_silent .idle, by simp⟩
  | ok offending =>
    refine ⟨_, _, reacts_refusal _ (.incomplete hk ho), fun response hm => ?_⟩
    rw [← Option.mem_some_iff.1 hm, type_createResponse]

/-- A gateway answers create requests with create responses. -/
theorem reacts_createSession (hq : Quiet environment) (peer : SocketAddress)
    (request : Message) (endpoint : Endpoint) (world : σ) :
    ∃ next answer, Reacts environment peer request (endpoint, world)
      (outcome environment (Gateway.createSession peer request) (endpoint, world)) next answer ∧
        ∀ response ∈ answer, response.type = 33 := by
  by_cases hk : request.kind = .createSessionRequest
  · cases hs : request.field? .senderFteidC with
    | none =>
      simp only [Gateway.createSession, Gateway.expect, if_pos hk, outcome_bind, outcome_pure, hs]
      exact reacts_rejectIncomplete hk 0 Code.fteid
    | some sender =>
      cases hi : (request.field? .imsi).isNone with
      | true =>
        simp only [Gateway.createSession, Gateway.expect, if_pos hk, outcome_bind, outcome_pure, hs,
          outcome_coded]
        cases V2.teid sender with
        | error e => exact ⟨_, _, reacts_silent .idle, by simp⟩
        | ok remote =>
          simp only [Except.mapError, hi, if_true]
          exact reacts_rejectIncomplete hk remote Code.imsi
      | false =>
        obtain ⟨e, h⟩ | ⟨own, pool, draws, ⟨e, h⟩ | ⟨grant, rfl, hid, holds, h⟩⟩ :=
          outcome_createSession hq peer endpoint world hk hs hi
        · rw [h]
          exact ⟨_, _, reacts_silent .idle, by simp⟩
        · rw [h]
          exact ⟨_, _, reacts_silent (.drawn hk draws), by simp⟩
        · rw [h]
          refine ⟨_, _, reacts_respond (.created hk draws hid holds), fun response hm => ?_⟩
          rw [← Option.mem_some_iff.1 hm, Grant.reply, type_createResponse]
  · rw [Gateway.createSession, Gateway.expect, if_neg hk]
    exact ⟨_, _, reacts_silent .idle, by simp⟩

/-! ## All handlers -/

/-- The endpoint's own handlers react; those of the user do what they do. -/
theorem run_cases (hq : Quiet environment) (handler : Handler) (peer : SocketAddress)
    (request : Message) (endpoint : Endpoint) (world : σ) :
    (∃ next answer, Reacts environment peer request (endpoint, world)
        (outcome environment (handler.run peer request) (endpoint, world)) next answer) ∨
      ∃ name, handler = .custom name ∧
        outcome environment (handler.run peer request) (endpoint, world) =
          handled environment name peer request (endpoint, world) := by
  cases handler with
  | echoRequest =>
    rw [Handler.run, outcome_bind, outcome_get]
    exact .inl ⟨_, _, reacts_respond .echoed⟩
  | echoResponse =>
    rw [Handler.run, outcome_ite, outcome_log hq]
    split <;> exact .inl ⟨_, _, reacts_silent .idle⟩
  | versionNotSupported =>
    rw [Handler.run, outcome_log hq]
    exact .inl ⟨_, _, reacts_silent .idle⟩
  | createSession =>
    obtain ⟨next, answer, reacts, -⟩ := reacts_createSession hq peer request endpoint world
    exact .inl ⟨next, answer, reacts⟩
  | modifyBearer => exact .inl (reacts_modifyBearer hq peer request endpoint world)
  | deleteSession => exact .inl (reacts_deleteSession hq peer request endpoint world)
  | releaseAccessBearers => exact .inl (reacts_releaseAccessBearers hq peer request endpoint world)
  | ignore => exact .inl ⟨_, _, reacts_silent .idle⟩
  | refuse reason => exact .inl ⟨_, _, reacts_silent .idle⟩
  | custom name => exact .inr ⟨name, rfl, outcome_ofCustom ..⟩

/-- The user's handlers do nothing. -/
def Idle (environment : Environment (StateM σ)) : Prop :=
  ∀ name peer message state, handled environment name peer message state = (.ok (), state)

theorem reacts_run (hq : Quiet environment) (idle : Idle environment) (handler : Handler)
    (peer : SocketAddress) (request : Message) (endpoint : Endpoint) (world : σ) :
    ∃ next answer, Reacts environment peer request (endpoint, world)
      (outcome environment (handler.run peer request) (endpoint, world)) next answer := by
  obtain reacts | ⟨name, -, hrun⟩ := run_cases hq handler peer request endpoint world
  · exact reacts
  · rw [hrun, idle name]
    exact ⟨_, _, reacts_silent .idle⟩

end GtpControl.Endpoint
