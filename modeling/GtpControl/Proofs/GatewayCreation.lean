import GtpControl.Endpoint.Gateway
import GtpControl.Proofs.ActionRuns
import GtpControl.Proofs.OctetNumerals
import GtpControl.Proofs.RegistryLaws
import GtpControl.Proofs.SessionPeer

/-! # Grants: what a gateway makes of create requests -/
namespace GtpControl.Endpoint
open Endpoint.Action Catalog.V2 Element Octets
variable {σ : Type} {environment : Environment (StateM σ)} {endpoint : Endpoint} {world : σ}

/-- What an endpoint keeps while it answers create requests. -/
structure Extends (before after : Endpoint) : Prop where
  interface : after.interface = before.interface
  settings : after.settings = before.settings
  handlers : after.handlers = before.handlers
  sessions : ∀ id session, before.session? id = some session → after.session? id = some session
  registry : ∀ teid entry, before.registry.byTeid.get? teid = some entry →
    after.registry.byTeid.get? teid = some entry

theorem Extends.refl (endpoint : Endpoint) : Extends endpoint endpoint :=
  ⟨rfl, rfl, rfl, fun _ _ h => h, fun _ _ h => h⟩

theorem Extends.trans {first second third : Endpoint} (h : Extends first second)
    (h' : Extends second third) : Extends first third :=
  ⟨h'.interface.trans h.interface, h'.settings.trans h.settings, h'.handlers.trans h.handlers,
    fun id session hs => h'.sessions id session (h.sessions id session hs),
    fun teid entry he => h'.registry teid entry (h.registry teid entry he)⟩

theorem extends_events (endpoint : Endpoint) (events : List Event) :
    Extends endpoint { endpoint with events } :=
  ⟨rfl, rfl, rfl, fun _ _ h => h, fun _ _ h => h⟩

/-- A session that a gateway has made of a create request. -/
structure Grant where
  /-- interface and number of the client's end point -/
  interface : UInt8
  remote : UInt32
  /-- the session as the request describes it -/
  described : Session
  /-- the gateway's end point, and its addresses -/
  own : UInt32
  v4 : Option Ipv4Address
  v6 : Option Ipv6Address
  id : SessionId
  /-- the session as it was registered -/
  session : Session

namespace Grant

/-- The session with the end points of both sides. -/
def start (gateway : Endpoint) (grant : Grant) : Session :=
  (grant.described.setTeid grant.interface grant.remote).setTeid gateway.interface grant.own

def contexts (gateway : Endpoint) (grant : Grant) : List Element :=
  (grant.start gateway).grants grant.own

/-- The answer to the request. -/
def reply (gateway : Endpoint) (request : Message) (grant : Grant) : Message :=
  Gateway.response .createSessionResponse grant.remote
    ([V2.ofCause Cause.accepted, V2.ofFteid gateway.interface grant.own grant.v4 grant.v6]
      ++ (request.field? .paa).toList ++ grant.contexts gateway)

/-- A grant holds at a gateway that has its session under its number. -/
structure Holds (client : SocketAddress) (request : Message) (gateway : Endpoint)
    (grant : Grant) : Prop where
  described : Session.ofRequest client request = .ok grant.described
  sender : ∃ sender, request.field? .senderFteidC = some sender ∧
    V2.interfaceType sender = .ok grant.interface ∧ V2.teid sender = .ok grant.remote
  applied : ∃ applied, ((grant.contexts gateway).forM Session.applyContext : Edit Session Unit).run
    (grant.start gateway) = (.ok (), applied) ∧ applied.activate = .ok grant.session
  bound : gateway.registry.byTeid.get? grant.own = some ⟨grant.id, client⟩
  kept : gateway.session? grant.id = some grant.session

theorem start_congr {gateway gateway' : Endpoint} (h : gateway'.interface = gateway.interface)
    (grant : Grant) : grant.start gateway' = grant.start gateway := by
  rw [start, start, h]

/-- A grant holds for good. -/
theorem Holds.extends {client : SocketAddress} {request : Message} {gateway gateway' : Endpoint}
    {grant : Grant} (h : Holds client request gateway grant) (he : Extends gateway gateway') :
    Holds client request gateway' grant ∧ grant.reply gateway' request = grant.reply gateway request := by
  have hs := start_congr he.interface grant
  have hc : grant.contexts gateway' = grant.contexts gateway := by rw [contexts, contexts, hs]
  refine ⟨⟨h.described, h.sender, ?_, he.registry _ _ h.bound, he.sessions _ _ h.kept⟩, ?_⟩
  · rw [hs, hc]
    exact h.applied
  · rw [reply, reply, hc, he.interface]

end Grant

/-! ## End points -/

theorem teid_ofFteid (interface : UInt8) (teid : UInt32) (v4 : Option Ipv4Address)
    (v6 : Option Ipv6Address) : V2.teid (V2.ofFteid interface teid v4 v6) = .ok teid := by
  obtain ⟨a, b, c, d, ho, ht⟩ := exists_ofUInt32 teid
  simp [V2.teid, V2.ofFteid, V2.fteidParts, V2.ofPayload, plain, Element.expect, ho, ht]

private theorem masked_flags : ∀ interface : UInt8, interface < 64 → ∀ v4 v6 : Bool,
    ((interface &&& 63 ||| if v4 then 128 else 0) ||| if v6 then 64 else 0) &&& 63 = interface :=
  forall_octet (by decide +kernel)

theorem interfaceType_ofFteid {interface : UInt8} (h : interface < 64) (teid : UInt32)
    (v4 : Option Ipv4Address) (v6 : Option Ipv6Address) :
    V2.interfaceType (V2.ofFteid interface teid v4 v6) = .ok interface := by
  obtain ⟨a, b, c, d, ho, ht⟩ := exists_ofUInt32 teid
  simp [V2.interfaceType, V2.ofFteid, V2.fteidParts, V2.ofPayload, plain, Element.expect, ho]
  exact masked_flags interface h v4.isSome v6.isSome

/-- The pool of an endpoint gives out a number that is not in its registry. -/
def Draws (endpoint : Endpoint) (teid : UInt32) (pool : TeidPool) : Prop :=
  TeidPool.Draws endpoint.registry.teids.contains endpoint.pool teid pool

/-- A fresh end point has a number that is not in the registry. -/
theorem outcome_newAdvertisedFteid (environment : Environment (StateM σ)) (endpoint : Endpoint)
    (world : σ) :
    (∃ e, outcome environment newAdvertisedFteid (endpoint, world) =
        (.error e, endpoint, world)) ∨
      ∃ teid pool, endpoint.Draws teid pool ∧
        outcome environment newAdvertisedFteid (endpoint, world) =
          (.ok (V2.ofFteid endpoint.interface teid endpoint.advertised.1 endpoint.advertised.2),
            { endpoint with pool }, world) := by
  simp only [newAdvertisedFteid, newFteid, allocate, outcome_bind, outcome_get]
  cases ha : endpoint.pool.allocate endpoint.registry.teids.contains with
  | none => exact .inl ⟨_, rfl⟩
  | some found =>
    obtain ⟨teid, pool⟩ := found
    refine .inr ⟨teid, pool, TeidPool.draws_allocate ha, ?_⟩
    simp only [outcome_bind, outcome_modify, outcome_pure]

/-! ## New sessions -/

/-- An endpoint that keeps one more session, which is registered under a number. -/
def enrolled (teid : UInt32) (session : Session) (endpoint : Endpoint) : Endpoint :=
  { endpoint with
    sessions := endpoint.sessions ++ [session]
    registry := endpoint.registry.register teid endpoint.sessions.length session }

theorem session?_enrolled (teid : UInt32) (session : Session) (endpoint : Endpoint) :
    (endpoint.enrolled teid session).session? endpoint.sessions.length = some session := by
  simp [session?, enrolled]

theorem extends_enrolled {endpoint : Endpoint} {teid : UInt32}
    (h : teid ∉ endpoint.registry.teids) (session : Session) :
    Extends endpoint (endpoint.enrolled teid session) where
  interface := rfl
  settings := rfl
  handlers := rfl
  sessions id session' h' := by
    have hlt := (List.getElem?_eq_some_iff.1 h').1
    exact (List.getElem?_append_left hlt).trans h'
  registry teid' entry h' := by
    have hne : teid' ≠ teid := by
      rintro rfl
      rw [Bindings.get?_eq_none.2 h] at h'
      cases h'
    exact (Registry.get?_register ..).trans ((if_neg hne).trans h')

private theorem peer_of_applied {contexts : List Element} {start applied : Session}
    (h : (contexts.forM Session.applyContext : Edit Session Unit).run start = (.ok (), applied)) :
    applied.peer = start.peer := by
  have hp := (Session.uniform_forM Session.uniform_applyContext contexts).peer_run start
  rwa [h] at hp

/-- A grant holds from the moment on that its session is registered. -/
theorem holds_enrolled (gateway : Endpoint) (grant : Grant) {client : SocketAddress}
    {request : Message} {sender : Element} {applied : Session}
    (hid : grant.id = gateway.sessions.length)
    (hd : Session.ofRequest client request = .ok grant.described)
    (hs : request.field? .senderFteidC = some sender)
    (hi : V2.interfaceType sender = .ok grant.interface) (hr : V2.teid sender = .ok grant.remote)
    (hx : ((grant.contexts gateway).forM Session.applyContext : Edit Session Unit).run
      (grant.start gateway) = (.ok (), applied))
    (ha : applied.activate = .ok grant.session) :
    grant.Holds client request (gateway.enrolled grant.own grant.session) := by
  have hp : grant.session.peer = client := by
    obtain ⟨-, -, he⟩ := Session.activate_eq_ok.1 ha
    have hdescribed : grant.described.peer = client := Session.peer_of_ofRequest hd
    rw [he]
    exact (peer_of_applied hx).trans hdescribed
  refine ⟨hd, ⟨sender, hs, hi, hr⟩, ⟨applied, hx, ha⟩, ?_, ?_⟩
  · rw [enrolled, Registry.get?_register, if_pos rfl, hid, hp]
  · rw [hid]
    exact session?_enrolled ..

theorem extends_pool (endpoint : Endpoint) (pool : TeidPool) :
    Extends endpoint { endpoint with pool } :=
  ⟨rfl, rfl, rfl, fun _ _ h => h, fun _ _ h => h⟩

/-- A gateway with a new session, whose number it has drawn. -/
def withGrant (grant : Grant) (pool : TeidPool) (endpoint : Endpoint) : Endpoint :=
  enrolled grant.own grant.session { endpoint with pool }

theorem extends_withGrant {grant : Grant} {pool : TeidPool} (draws : endpoint.Draws grant.own pool) :
    Extends endpoint (endpoint.withGrant grant pool) := by
  have free : grant.own ∉ ({ endpoint with pool } : Endpoint).registry.teids := draws.notMem
  exact (extends_pool endpoint pool).trans (extends_enrolled free grant.session)

/-- What a gateway reads off a create request: the sender's end point and the session. -/
def readCreation (client : SocketAddress) (request : Message) (sender : Element) :
    Coded (UInt32 × Session × UInt8) := do
  let remote ← V2.teid sender
  let described ← Session.ofRequest client request
  let interface ← V2.interfaceType sender
  return (remote, described, interface)

theorem readCreation_eq_ok {client : SocketAddress} {request : Message} {sender : Element}
    {remote : UInt32} {described : Session} {interface : UInt8} :
    readCreation client request sender = .ok (remote, described, interface) ↔
      V2.teid sender = .ok remote ∧ Session.ofRequest client request = .ok described ∧
        V2.interfaceType sender = .ok interface := by
  simp [readCreation]

/-- A described session as a gateway registers it: with its own end point, with its grants applied, and
active. -/
def approve (interface : UInt8) (own : UInt32) (described : Session) : Except EndpointError Session :=
  let start := described.setTeid interface own
  match ((start.grants own).forM Session.applyContext : Edit Session Unit).run start with
  | (.ok (), applied) => applied.activate.mapError .session
  | (.error e, _) => .error (.codec e)

theorem approve_eq_ok {interface : UInt8} {own : UInt32} {described session : Session} :
    approve interface own described = .ok session ↔
      ∃ applied, (((described.setTeid interface own).grants own).forM Session.applyContext :
          Edit Session Unit).run (described.setTeid interface own) = (.ok (), applied) ∧
        applied.activate = .ok session := by
  rw [approve]
  cases (((described.setTeid interface own).grants own).forM Session.applyContext :
      Edit Session Unit).run (described.setTeid interface own) with
  | mk result applied =>
    cases result with
    | error e =>
      constructor
      · intro h
        cases h
      · rintro ⟨_, h, -⟩
        cases h
    | ok u =>
      constructor
      · intro h
        exact ⟨applied, rfl, mapError_eq_ok.1 h⟩
      · rintro ⟨_, h, ha⟩
        cases h
        exact mapError_eq_ok.2 ha

theorem peer_of_approve {interface : UInt8} {own : UInt32} {described session : Session}
    (h : approve interface own described = .ok session) : session.peer = described.peer := by
  obtain ⟨applied, happlied, hactive⟩ := approve_eq_ok.1 h
  have hpeer : applied.peer = (described.setTeid interface own).peer := peer_of_applied happlied
  obtain ⟨-, -, rfl⟩ := Session.activate_eq_ok.1 hactive
  exact hpeer

/-- What a gateway does with a create request that names a sender and a subscriber. -/
theorem outcome_createSession_eq (hq : Quiet environment) (client : SocketAddress)
    (endpoint : Endpoint) (world : σ) {request : Message} {sender : Element}
    (hk : request.kind = .createSessionRequest) (hs : request.field? .senderFteidC = some sender)
    (hi : (request.field? .imsi).isNone = false) :
    outcome environment (Gateway.createSession client request) (endpoint, world) =
      match readCreation client request sender with
      | .error e => (.error (.codec e), endpoint, world)
      | .ok (remote, described, interface) =>
        match endpoint.pool.allocate endpoint.registry.teids.contains with
        | none => (.error (.session .teidExhausted), endpoint, world)
        | some (own, pool) =>
          match approve endpoint.interface own (described.setTeid interface remote) with
          | .error e => (.error e, { endpoint with pool }, world)
          | .ok session =>
            let grant : Grant := ⟨interface, remote, described, own, endpoint.advertised.1,
              endpoint.advertised.2, endpoint.sessions.length, session⟩
            outcome environment (respond client request (grant.reply endpoint request))
              (endpoint.withGrant grant pool, world) := by
  simp only [Gateway.createSession, Gateway.expect, if_pos hk, outcome_bind, outcome_pure, hs,
    outcome_coded]
  cases hr : V2.teid sender with
  | error e => simp [readCreation, hr, Except.mapError]
  | ok remote =>
    simp only [Except.mapError, hi, Bool.false_eq_true, if_false, outcome_bind, outcome_coded]
    cases hd : Session.ofRequest client request with
    | error e => simp [readCreation, hr, hd]
    | ok described =>
      dsimp only
      cases hif : V2.interfaceType sender with
      | error e => simp [readCreation, hr, hd, hif]
      | ok interface =>
        simp only [readCreation, hr, hd, hif, ok_bind, pure_eq, newAdvertisedFteid, newFteid,
          allocate, outcome_bind, outcome_get]
        cases endpoint.pool.allocate endpoint.registry.teids.contains with
        | none => rfl
        | some found =>
          obtain ⟨own, pool⟩ := found
          simp only [outcome_bind, outcome_modify, outcome_pure, teid_ofFteid, approve]
          cases (((described.setTeid interface remote).setTeid endpoint.interface own).grants
              own).forM Session.applyContext |>.run
                ((described.setTeid interface remote).setTeid endpoint.interface own) with
          | mk result applied =>
            cases result with
            | error e => rfl
            | ok u =>
              simp only [outcome_ofCoded, outcome_bind, outcome_session, Except.mapError]
              cases applied.activate with
              | error e => rfl
              | ok session =>
                simp only [keepSession, register, outcome_bind, outcome_modifyGet, outcome_modify,
                  outcome_log hq]
                rfl

/-- A gateway fails and sends nothing, and may have drawn a number, or it answers with a grant that
holds. -/
theorem outcome_createSession (hq : Quiet environment) (client : SocketAddress)
    (endpoint : Endpoint) (world : σ) {request : Message}
    (hk : request.kind = .createSessionRequest) {sender : Element}
    (hs : request.field? .senderFteidC = some sender)
    (hi : (request.field? .imsi).isNone = false) :
    (∃ e, outcome environment (Gateway.createSession client request) (endpoint, world) =
        (.error e, endpoint, world)) ∨
      ∃ own pool, endpoint.Draws own pool ∧
        ((∃ e, outcome environment (Gateway.createSession client request) (endpoint, world) =
            (.error e, { endpoint with pool }, world)) ∨
          ∃ grant : Grant, grant.own = own ∧ grant.id = endpoint.sessions.length ∧
            grant.Holds client request (endpoint.withGrant grant pool) ∧
            outcome environment (Gateway.createSession client request) (endpoint, world) =
              outcome environment (respond client request (grant.reply endpoint request))
                (endpoint.withGrant grant pool, world)) := by
  rw [outcome_createSession_eq hq client endpoint world hk hs hi]
  cases hread : readCreation client request sender with
  | error e => exact .inl ⟨_, rfl⟩
  | ok read =>
    obtain ⟨remote, described, interface⟩ := read
    obtain ⟨hr, hd, hif⟩ := readCreation_eq_ok.1 hread
    cases ha : endpoint.pool.allocate endpoint.registry.teids.contains with
    | none => exact .inl ⟨_, rfl⟩
    | some found =>
      obtain ⟨own, pool⟩ := found
      refine .inr ⟨own, pool, TeidPool.draws_allocate ha, ?_⟩
      dsimp only
      cases hx : approve endpoint.interface own (described.setTeid interface remote) with
      | error e => exact .inl ⟨e, rfl⟩
      | ok session =>
        obtain ⟨applied, happlied, hactive⟩ := approve_eq_ok.1 hx
        have holds := holds_enrolled { endpoint with pool }
          ⟨interface, remote, described, own, endpoint.advertised.1, endpoint.advertised.2,
            endpoint.sessions.length, session⟩ rfl hd hs hif hr happlied hactive
        exact .inr ⟨_, rfl, rfl, holds, rfl⟩

end GtpControl.Endpoint
