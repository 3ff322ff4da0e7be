import GtpControl.Proofs.CallRuns
import GtpControl.Proofs.GatewayCreation
import GtpControl.Proofs.MessageFraming

/-! # Proposals: what a client makes of the elements for a create request -/
namespace GtpControl.Endpoint
open Endpoint.Action Catalog.V2 Element
variable {σ α : Type} {environment : Environment (StateM σ)} {endpoint : Endpoint} {world : σ}
  {peer : SocketAddress} {elements : List Element}

/-- A session as a client registers it before it asks for it. -/
structure Proposal where
  request : Message
  /-- the session as the request describes it -/
  described : Session
  /-- the element that names the client's end point -/
  sender : Element
  interface : UInt8
  own : UInt32

namespace Proposal

def session (proposal : Proposal) : Session :=
  proposal.described.setTeid proposal.interface proposal.own

/-- A proposal that a client makes of elements. Its end point is the one that they name, or one that
leads to no session yet. -/
structure Fits (endpoint : Endpoint) (peer : SocketAddress) (elements : List Element)
    (proposal : Proposal) : Prop where
  request : ∃ added, proposal.request =
      .make .v2 .createSessionRequest {} (elements ++ added) ∧ ∀ x ∈ added, Element.Built .v2 x
  imsi : (proposal.request.field? .imsi).isSome = true ∧ proposal.request.field? .imsi =
    (Message.make .v2 .createSessionRequest {} elements).field? .imsi
  described : Session.ofRequest peer proposal.request = .ok proposal.described
  sender : proposal.request.field? .senderFteidC = some proposal.sender
  interface : V2.interfaceType proposal.sender = .ok proposal.interface
  own : V2.teid proposal.sender = .ok proposal.own
  origin : (Message.make .v2 .createSessionRequest {} elements).field? .senderFteidC =
      some proposal.sender ∨
    (Message.make .v2 .createSessionRequest {} elements).field? .senderFteidC = none ∧
      proposal.own ∉ endpoint.registry.teids
  /-- an end point of its own is on the endpoint's interface -/
  drawn : (Message.make .v2 .createSessionRequest {} elements).field? .senderFteidC = none →
    ∃ v4 v6, proposal.sender = V2.ofFteid endpoint.interface proposal.own v4 v6

end Proposal

/-- What a client reports of a session that it has created, and gives back. -/
def report (peer : SocketAddress) (id : SessionId) (answer : Message) (cause : UInt8) :
    Action (StateM σ) Reply := do
  let imsi := ((← get).session id).subscriber.imsi.getD "unknown IMSI"
  log .info s!"Session for {imsi} created with {peer.toText}"
  return { peer, message := answer, cause := some cause }

theorem outcome_report (hq : Quiet environment) (id : SessionId) (answer : Message) (cause : UInt8) :
    outcome environment (report peer id answer cause) (endpoint, world) =
      (.ok { peer, message := answer, cause := some cause }, endpoint, world) := by
  simp only [report, outcome_bind, outcome_get, outcome_log hq, outcome_pure]

/-- What a client does with the answer to its create request. -/
def conclude (peer : SocketAddress) (id : SessionId) (answer : Message) :
    Action (StateM σ) Reply := do
  let handled ← deliver peer answer
  expectReply .createSessionResponse answer
  let cause ← acceptedCause .createSessionRequest answer
  unless handled do
    editSession id (Session.applyCreated answer)
    moveSession id Session.activate
  report peer id answer cause

theorem confirmSession_eq (peer : SocketAddress) (message : Message) (id : SessionId) :
    (confirmSession peer message id : Action (StateM σ) Reply) =
      request peer message >>= conclude peer id := rfl

/-- How the work for a session ends that is kept only if it goes well. -/
def settled (id : SessionId) :
    Except EndpointError α × Endpoint × σ → Except EndpointError (SessionId × α) × Endpoint × σ
  | (.ok a, last) => (.ok (id, a), last)
  | (.error e, last) => (.error e, last.1.removeSession id, last.2)

private theorem outcome_attempt (id : SessionId) (x : Action (StateM σ) α) (state : Endpoint × σ) :
    outcome environment (do
      try
        return (id, ← x)
      catch e =>
        dropSession id
        throw e) state =
      settled id (outcome environment x state) := by
  rw [outcome_bind, outcome_tryCatch, outcome_bind]
  cases outcome environment x state with
  | mk result last => cases result <;> rfl

/-- A client registers a session before it asks for it. -/
private theorem outcome_registered (environment : Environment (StateM σ)) (endpoint : Endpoint)
    (world : σ) (peer : SocketAddress) (request : Message) (own : UInt32) (session : Session) :
    ∃ next, (Quiet environment → next = world) ∧
      outcome environment (do
        let id ← keepSession session
        register own id session
        try
          return (id, ← confirmSession peer request id)
        catch e =>
          dropSession id
          throw e) (endpoint, world) =
        settled endpoint.sessions.length
          (outcome environment (confirmSession peer request endpoint.sessions.length)
            (endpoint.enrolled own session, next)) := by
  have hr : ∃ next, (Quiet environment → next = world) ∧
      outcome environment (register own endpoint.sessions.length session)
        ((endpoint.addSession session).2, world) =
          (.ok (), endpoint.enrolled own session, next) := by
    refine ⟨_, fun hq => hq .debug
      s!"Registered TEID {teidText own} for {session.peer.toText}" world, ?_⟩
    simp only [register, log, outcome_bind, outcome_modify, outcome_outside]
    rfl
  have hk : outcome environment (keepSession session) (endpoint, world) =
      (.ok endpoint.sessions.length, (endpoint.addSession session).2, world) := rfl
  obtain ⟨next, hn, hr⟩ := hr
  refine ⟨next, hn, ?_⟩
  rw [outcome_bind, hk]
  dsimp only
  rw [outcome_bind, hr]
  dsimp only
  exact outcome_attempt ..

/-- A client describes a session first. -/
private theorem outcome_described (environment : Environment (StateM σ)) (endpoint : Endpoint)
    (world : σ) (peer : SocketAddress) {request : Message} {sender : Element}
    (hs : request.field? .senderFteidC = some sender) :
    let ran := outcome environment (do
      let session ← Session.ofRequest peer request
      let some sender := request.field? .senderFteidC | throw (.missingElement Code.fteid)
      let (bound, session) := (Session.bindFteid sender).run session
      ofCoded bound
      let own ← V2.teid sender
      let id ← keepSession session
      register own id session
      try
        return (id, ← confirmSession peer request id)
      catch e =>
        dropSession id
        throw e) (endpoint, world)
    (∃ e, ran = (.error e, endpoint, world)) ∨
      ∃ described interface own next, Session.ofRequest peer request = .ok described ∧
        V2.interfaceType sender = .ok interface ∧ V2.teid sender = .ok own ∧
        (Quiet environment → next = world) ∧
        ran = settled endpoint.sessions.length
          (outcome environment (confirmSession peer request endpoint.sessions.length)
            (endpoint.enrolled own (described.setTeid interface own), next)) := by
  dsimp only
  rw [outcome_bind, outcome_coded]
  cases hd : Session.ofRequest peer request with
  | error e => exact .inl ⟨_, rfl⟩
  | ok described =>
    simp only [Except.mapError, hs]
    cases hb : (Session.bindFteid sender).run described with
    | mk bound session =>
      dsimp only
      rw [outcome_bind, outcome_ofCoded]
      cases bound with
      | error e => exact .inl ⟨_, rfl⟩
      | ok u =>
        obtain ⟨interface, own, hi, ho, rfl⟩ := Session.bindFteid_eq_ok.1 hb
        obtain ⟨next, hn, hr⟩ := outcome_registered environment endpoint world peer request own
          (described.setTeid interface own)
        refine .inr ⟨described, interface, own, next, rfl, hi, ho, hn, ?_⟩
        simp only [Except.mapError]
        rw [outcome_bind, outcome_coded, ho]
        exact hr

/-- A fresh end point takes the place of the one that the elements do not name. -/
private theorem field?_put_fteid {message : Message}
    (hm : Message.make .v2 .createSessionRequest {} elements = message) (interface : UInt8)
    (teid : UInt32) (v4 : Option Ipv4Address) (v6 : Option Ipv6Address)
    (hn : message.field? .senderFteidC = none) :
    (message.put (V2.ofFteid interface teid v4 v6)).field? .senderFteidC =
        some (V2.ofFteid interface teid v4 v6) ∧
      (message.put (V2.ofFteid interface teid v4 v6)).field? .imsi = message.field? .imsi := by
  have hslots : ∀ slot ∈ Version.v2.layout .createSessionRequest,
      slot.type = Code.fteid ∧ slot.inst.all (· == 0) = true → slot.field = .senderFteidC := by
    decide
  have haccepts : ∀ slot : Slot, slot.accepts (V2.ofFteid interface teid v4 v6) = true ↔
      slot.type = Code.fteid ∧ slot.inst.all (· == 0) = true := by
    intro slot
    rw [Slot.accepts, Bool.and_eq_true, beq_iff_eq, eq_comm]
    rfl
  subst hm
  have hput := Message.field_put_make {}
    ⟨.oneAt .senderFteidC Code.fteid 0, by decide, (haccepts _).2 ⟨rfl, rfl⟩⟩
    (fun slot hm ha => hslots slot hm ((haccepts slot).1 ha)) (List.head?_eq_none_iff.1 hn)
  rw [Message.field?, Message.field?, hput.1, hput.2 .imsi (by decide)]
  exact ⟨rfl, rfl⟩

/-- A client fails before it registers anything, or it registers a proposal and asks for it. If that
fails, the session is removed. -/
theorem createSession_cases (environment : Environment (StateM σ)) (endpoint : Endpoint) (world : σ)
    (peer : SocketAddress) (elements : List Element) :
    (∃ e pool, outcome environment (createSession peer elements) (endpoint, world) =
        (.error e, { endpoint with pool }, world)) ∨
      ∃ (proposal : Proposal) (pool : TeidPool) (next : σ),
        proposal.Fits endpoint peer elements ∧ (Quiet environment → next = world) ∧
        outcome environment (createSession peer elements) (endpoint, world) =
          settled endpoint.sessions.length
            (outcome environment (confirmSession peer proposal.request endpoint.sessions.length)
              (enrolled proposal.own proposal.session { endpoint with pool }, next)) := by
  rw [createSession]
  generalize hm : Message.make .v2 .createSessionRequest {} elements = message
  dsimp only
  rw [outcome_ite]
  split
  · exact .inl ⟨_, endpoint.pool, rfl⟩
  · next hi =>
    rw [Option.isNone_iff_eq_none, ← ne_eq, ← Option.isSome_iff_ne_none] at hi
    rw [outcome_ite]
    split
    · next hs =>
      obtain ⟨sender, hs⟩ := Option.isSome_iff_exists.1 hs
      rw [outcome_bind, outcome_pure]
      dsimp only
      obtain ⟨e, h⟩ | ⟨described, interface, own, next, hd, hif, ho, hn, h⟩ :=
        outcome_described environment endpoint world peer hs
      · exact .inl ⟨e, endpoint.pool, h⟩
      · refine .inr ⟨⟨message, described, sender, interface, own⟩, endpoint.pool, next, ?_, hn, h⟩
        subst hm
        exact ⟨⟨[], by rw [List.append_nil], by simp⟩, ⟨hi, rfl⟩, hd, hs, hif, ho, .inl hs,
          fun hn => by cases hn.symm.trans hs⟩
    · next hs =>
      rw [Bool.not_eq_true, Option.isSome_eq_false_iff, Option.isNone_iff_eq_none] at hs
      rw [outcome_bind]
      obtain ⟨e, hf⟩ | ⟨teid, pool, draws, hf⟩ :=
        outcome_newAdvertisedFteid environment endpoint world
      · rw [hf]
        exact .inl ⟨e, endpoint.pool, rfl⟩
      · rw [hf]
        dsimp only
        rw [outcome_bind, outcome_pure]
        dsimp only
        obtain ⟨hsender, himsi⟩ := field?_put_fteid hm endpoint.interface teid endpoint.advertised.1
          endpoint.advertised.2 hs
        have ht := teid_ofFteid endpoint.interface teid endpoint.advertised.1 endpoint.advertised.2
        have hb : Element.Built .v2 (V2.ofFteid endpoint.interface teid endpoint.advertised.1
          endpoint.advertised.2) := .ofValue (V2.OfValue.fteid ..)
        have hform : ∃ v4 v6, V2.ofFteid endpoint.interface teid endpoint.advertised.1
          endpoint.advertised.2 = V2.ofFteid endpoint.interface teid v4 v6 := ⟨_, _, rfl⟩
        generalize V2.ofFteid endpoint.interface teid endpoint.advertised.1 endpoint.advertised.2 =
          fteid at hsender himsi ht hb hform ⊢
        obtain ⟨e, h⟩ | ⟨described, interface, own, next, hd, hif, ho, hn, h⟩ :=
          outcome_described environment { endpoint with pool } world peer hsender
        · exact .inl ⟨e, pool, h⟩
        · refine .inr ⟨⟨message.put fteid, described, fteid, interface, own⟩, pool, next, ?_, hn, h⟩
          cases ht.symm.trans ho
          have hmade : message.put fteid =
              .make .v2 .createSessionRequest {} (elements ++ [fteid]) := by
            rw [← hm, Message.put_make]
          have hknown : ((message.put fteid).field? .imsi).isSome = true := by
            rw [himsi]
            exact hi
          rw [← hm] at hs
          replace himsi : (message.put fteid).field? .imsi =
              (Message.make .v2 .createSessionRequest {} elements).field? .imsi := by
            rw [himsi, hm]
          exact ⟨⟨[fteid], hmade, List.forall_mem_singleton.2 hb⟩,
            ⟨hknown, himsi⟩, hd, hsender, hif, ht, .inr ⟨hs, draws.notMem⟩, fun _ => hform⟩

end GtpControl.Endpoint
