import GtpControl.Proofs.BearerOrder
import GtpControl.Proofs.GatewayCreation
import GtpControl.Proofs.MessageFraming

/-! # Created sessions: what the answer to a create request makes of the client's session -/
namespace GtpControl

/-! ## The address of a subscriber -/

namespace Bearer
open Edit

theorem preserves_bindFteid (fteid : Element) : Preserves subscriberIp (bindFteid fteid) :=
  (preserves_lift _).bind fun _ => (preserves_lift _).bind fun _ => preserves_modify fun _ => rfl

/-- Contexts do not say where a subscriber is reached. -/
theorem preserves_fill (context : Element) : Preserves subscriberIp (fill context) := by
  have hfteids := preserves_forM preserves_bindFteid
    (context.children.filter (·.type == Catalog.V2.Code.fteid))
  exact preserves_optional (fun _ _ => rfl) (preserves_optional (fun _ _ => rfl)
    (preserves_optional (fun _ _ => rfl) hfteids))

theorem subscriberIp_filled {context : Element} {bearer bearer' : Bearer}
    (h : filled context bearer = .ok bearer') : bearer'.subscriberIp = bearer.subscriberIp := by
  have hp := preserves_fill context bearer
  rw [filled] at h
  split at h
  · next he =>
    cases h
    rwa [he] at hp
  · cases h

end Bearer

namespace Session

theorem bearerName_ne_default (ebi : UInt8) : bearerName ebi ≠ defaultName := by
  intro h
  have hd := congrArg (fun name : String => name.toList.head?) h
  simp only [bearerName, defaultName, String.toList_append, List.head?_append] at hd
  exact absurd hd (by simp [toString])

/-- Bearers that a request adds, each under the name of its identity. -/
private theorem added_of_contexts {apn : String} {contexts : List Element} {session next : Session}
    (h : contexts.foldlM
      (fun session context => do
        let bearer ← Bearer.filled context { apn }
        return session.setBearer (bearerName bearer.ebi) bearer) session =
      (.ok next : Coded Session)) :
    ∃ added : List Bearer,
      List.Forall₂ (fun context bearer => Bearer.filled context { apn } = .ok bearer)
        contexts added ∧
      next = { session with
        dedicated := session.dedicated.insertAll (added.map Bearer.named) } := by
  induction contexts generalizing session with
  | nil =>
    cases h
    exact ⟨[], .nil, rfl⟩
  | cons context contexts ih =>
    simp only [List.foldlM_cons, bind_eq_ok, pure_eq, Except.ok.injEq] at h
    obtain ⟨_, ⟨bearer, hbearer, rfl⟩, h⟩ := h
    obtain ⟨added, hadded, rfl⟩ := ih h
    refine ⟨bearer :: added, .cons hbearer hadded, ?_⟩
    rw [setBearer, if_neg (bearerName_ne_default _)]
    rfl

/-- The default bearer of a request before its context is read. -/
def openingBearer (apn : String) (request : Message) : Bearer where
  apn
  subscriberIp := (request.field? .paa).bind fun paa => (Element.V2.pdnAddress paa).toOption

section
variable {peer : SocketAddress} {request : Message} {session : Session}

/-- A session that is described: one of the peer for the subscriber of the request, with the first
context for the default bearer and the others for bearers under the names of their identities. -/
theorem described_ofRequest (h : ofRequest peer request = .ok session) :
    ∃ (apn : String) (subscriber : Subscriber) (own : Bearer) (added : List Bearer),
      (request.field? .imsi).mapM Element.V2.imsi = .ok subscriber.imsi ∧
      (match request.field .bearerContextsToBeCreated with
        | first :: _ => (openingBearer apn request).filled first = .ok own
        | [] => own = openingBearer apn request) ∧
      List.Forall₂ (fun context bearer => Bearer.filled context { apn } = .ok bearer)
        (request.field .bearerContextsToBeCreated).tail added ∧
      session = {
        peer
        subscriber
        defaultBearer := own
        dedicated := ({} : Bindings String Bearer).insertAll (added.map Bearer.named) } := by
  simp only [ofRequest, bind_eq_ok] at h
  obtain ⟨plmn, -, ratType, -, imsi, himsi, msisdn, -, imei, -, apn, -, h⟩ := h
  cases hc : request.field .bearerContextsToBeCreated with
  | nil =>
    rw [hc] at h
    obtain ⟨own, hown, h⟩ := bind_eq_ok.1 h
    obtain ⟨added, hadded, rfl⟩ := added_of_contexts h
    exact ⟨apn.getD "", _, own, added, himsi, (Except.ok.inj hown).symm, hadded, rfl⟩
  | cons first rest =>
    rw [hc] at h
    obtain ⟨own, hown, h⟩ := bind_eq_ok.1 h
    obtain ⟨added, hadded, rfl⟩ := added_of_contexts h
    exact ⟨apn.getD "", _, own, added, himsi, hown, hadded, rfl⟩

/-- The default bearer has the address that the request names, if it can be read. -/
theorem subscriberIp_ofRequest (h : ofRequest peer request = .ok session) :
    session.defaultBearer.subscriberIp =
      (request.field? .paa).bind fun paa => (Element.V2.pdnAddress paa).toOption := by
  obtain ⟨apn, subscriber, own, added, -, hown, -, rfl⟩ := described_ofRequest h
  split at hown
  · exact Bearer.subscriberIp_filled hown
  · rw [hown]
    rfl

/-- The subscriber is the one that the request names. -/
theorem imsi_ofRequest {element : Element} (h : ofRequest peer request = .ok session)
    (hi : request.field? .imsi = some element) :
    ∃ imsi, Element.V2.imsi element = .ok imsi ∧ session.subscriber.imsi = some imsi := by
  obtain ⟨apn, subscriber, own, added, himsi, -, -, rfl⟩ := described_ofRequest h
  rw [hi, Option.mapM_some] at himsi
  obtain ⟨imsi, hread, hsome⟩ := bind_eq_ok.1 himsi
  exact ⟨imsi, hread, (Except.ok.inj hsome).symm⟩

theorem state_ofRequest (h : ofRequest peer request = .ok session) : session.state = .created := by
  obtain ⟨_, _, _, _, -, -, -, rfl⟩ := described_ofRequest h
  rfl

/-- A session that is described has no end points yet. -/
theorem teids_ofRequest (h : ofRequest peer request = .ok session) : session.teids = {} := by
  obtain ⟨_, _, _, _, -, -, -, rfl⟩ := described_ofRequest h
  rfl

end

/-! Sequence numbers say nothing about sessions. -/

theorem ofRequest_setSequence (peer : SocketAddress) (sequence : UInt32) (request : Message) :
    ofRequest peer (request.setSequence sequence) = ofRequest peer request := rfl

theorem applyCreated_setSequence (sequence : UInt32) (response : Message) :
    applyCreated (response.setSequence sequence) = applyCreated response := rfl

end Session

end GtpControl

namespace GtpControl.Endpoint.Grant
open Catalog.V2 Element
variable {gateway : Endpoint} {request : Message} {grant : Grant} {client : SocketAddress}

theorem type_of_mem_contexts {context : Element} (h : context ∈ grant.contexts gateway) :
    context.type = Code.bearerContext ∧ context.inst = 0 := by
  simp only [contexts, Session.grants, List.mem_map] at h
  obtain ⟨bearer, -, rfl⟩ := h
  exact ⟨rfl, rfl⟩

/-- A gateway builds its answers of new elements and of one that the request holds. -/
theorem sound_reply (sound : ∀ x ∈ request.elements, Element.Sound .v2 x) :
    (grant.reply gateway request).Sound ∧ (grant.reply gateway request).version = .v2 := by
  have hebi : ∀ ebi, Element.Built .v2 (V2.ofEbi ebi) := fun ebi => .ofValue (V2.OfValue.ebi ebi)
  have hcause : ∀ cause, Element.Built .v2 (V2.ofCause cause) :=
    fun cause => .ofValue (V2.OfValue.cause cause)
  have hcharging : ∀ id, Element.Built .v2 (V2.ofChargingId id) :=
    fun id => .ofValue (V2.OfValue.chargingId id)
  have hfteid : Element.Built .v2 (V2.ofFteid gateway.interface grant.own grant.v4 grant.v6) :=
    .ofValue (V2.OfValue.fteid ..)
  have hpaa : ∀ paa ∈ (request.field? .paa).toList, Element.Sound .v2 paa := by
    intro paa h
    have hm := Message.mem_elements_of_mem_field (List.mem_of_mem_head? (Option.mem_toList.1 h))
    exact sound paa hm
  have hcontexts : ∀ context ∈ grant.contexts gateway, Element.Built .v2 context := by
    intro context h
    simp only [contexts, Session.grants, List.mem_map] at h
    obtain ⟨bearer, -, rfl⟩ := h
    refine .grouped 0 rfl ?_
    simp only [List.forall_mem_cons]
    exact ⟨hebi _, hcause _, hcharging _, by simp⟩
  rw [reply, Gateway.response]
  refine ⟨Message.sound_make (by decide) (fun x hx => ?_) _, Message.version_make ..⟩
  simp only [List.mem_append, List.mem_cons, List.not_mem_nil, or_false] at hx
  obtain ((rfl | rfl) | h) | h := hx
  · exact sound_of_built (hcause _)
  · exact sound_of_built hfteid
  · exact hpaa x h
  · exact sound_of_built (hcontexts x h)

/-- The slots of an answer, with what the gateway put into it. -/
def replySlots (gateway : Endpoint) (paa : Option Element) (grant : Grant) :
    List (Slot × List Element) := [
  (.one .cause Code.cause, [V2.ofCause Cause.accepted]),
  (.oneAt .senderFteidC Code.fteid 0, [V2.ofFteid gateway.interface grant.own grant.v4 grant.v6]),
  (.oneAt .pgwS5s8FteidC Code.fteid 1, []),
  (.one .paa Code.paa, paa.toList),
  (.one .apnRestriction Code.apnRestriction, []),
  (.one .ambr Code.ambr, []),
  (.one .linkedEbi Code.ebi, []),
  (.one .pco Code.pco, []),
  (.manyAt .bearerContextsCreated Code.bearerContext 0, grant.contexts gateway),
  (.manyAt .bearerContextsMarkedForRemoval Code.bearerContext 1, []),
  (.one .recovery Code.recovery, []),
  (.one .privateExtension Code.privateExtension, [])]

/-- A slot for elements of another type takes none of the contexts. -/
private theorem filled_of_type {slot : Slot} (h : slot.type ≠ Code.bearerContext) :
    slot.Filled [] (grant.contexts gateway) := by
  refine .empty fun x hx ha => ?_
  simp only [Slot.accepts, Bool.and_eq_true, beq_iff_eq] at ha
  exact h (ha.1.symm.trans (type_of_mem_contexts hx).1)

private theorem inOrder_replySlots (gateway : Endpoint) (grant : Grant) {paa : Option Element}
    (hp : ∀ x ∈ paa, x.type = Code.paa) :
    Slot.InOrder [] (grant.replySlots gateway paa) := by
  have hcreated : ∀ x ∈ grant.contexts gateway,
      (Slot.manyAt .bearerContextsCreated Code.bearerContext 0).accepts x = true := by
    intro x hx
    obtain ⟨ht, hi⟩ := type_of_mem_contexts hx
    simp [Slot.accepts, Slot.manyAt, ht, hi]
  simp only [replySlots, Slot.InOrder, Slot.ordered, List.flatMap_cons, List.flatMap_nil,
    List.append_nil, List.nil_append]
  refine ⟨.one rfl rfl, .one rfl rfl, ?_, ?_, filled_of_type (by decide), filled_of_type (by decide),
    filled_of_type (by decide), filled_of_type (by decide), .all rfl hcreated, .empty (by simp),
    .empty (by simp), .empty (by simp), trivial⟩
  · cases paa with
    | none => exact filled_of_type (by decide)
    | some paa =>
      refine .empty (List.forall_mem_cons.2 ⟨?_, (filled_of_type (by decide)).missed (.inr rfl)⟩)
      simp [Slot.accepts, Slot.oneAt, hp paa rfl, Code.paa, Code.fteid]
  · cases paa with
    | none => exact filled_of_type (by decide)
    | some paa => exact .one rfl (by simp [Slot.accepts, Slot.one, hp paa rfl])

/-- The address that a request names goes into its slot of the answer. -/
theorem fields_reply (hp : ∀ paa ∈ request.field? .paa, paa.type = Code.paa) :
    (grant.reply gateway request).fields = grant.replySlots gateway (request.field? .paa) := by
  have h := Slot.takeAll_of_inOrder (inOrder_replySlots gateway grant hp)
  have ho : Slot.ordered (grant.replySlots gateway (request.field? .paa), []) =
      [V2.ofCause Cause.accepted, V2.ofFteid gateway.interface grant.own grant.v4 grant.v6]
        ++ (request.field? .paa).toList ++ grant.contexts gateway := by
    simp [Slot.ordered, replySlots]
  have hl : Version.v2.layout .createSessionResponse =
      (grant.replySlots gateway (request.field? .paa)).map (·.1) := rfl
  rw [reply, Gateway.response, Message.fields_make, hl, ← ho, h]

theorem field_reply (hp : ∀ paa ∈ request.field? .paa, paa.type = Code.paa) (field : Field) :
    (grant.reply gateway request).field field =
      ((grant.replySlots gateway (request.field? .paa)).filter (·.1.field == field)).flatMap (·.2) := by
  rw [Message.field, fields_reply hp]

theorem sender_reply (hp : ∀ paa ∈ request.field? .paa, paa.type = Code.paa) :
    (grant.reply gateway request).field? .senderFteidC =
      some (V2.ofFteid gateway.interface grant.own grant.v4 grant.v6) := by
  rw [Message.field?, field_reply hp]
  rfl

theorem paa_reply (hp : ∀ paa ∈ request.field? .paa, paa.type = Code.paa) :
    (grant.reply gateway request).field? .paa = request.field? .paa := by
  rw [Message.field?, field_reply hp]
  cases request.field? .paa <;> rfl

/-- What a client does with an answer: it binds the end point of the gateway, reads the address that it
has asked for, and applies the contexts. -/
theorem applyCreated_reply_eq (hp : ∀ paa ∈ request.field? .paa, paa.type = Code.paa) :
    Session.applyCreated (grant.reply gateway request) = (do
      Session.bindFteid (V2.ofFteid gateway.interface grant.own grant.v4 grant.v6)
      if let some paa := request.field? .paa then
        let address ← V2.pdnAddress paa
        modify fun session => { session with
          defaultBearer := { session.defaultBearer with subscriberIp := some address } }
      (grant.contexts gateway).forM Session.applyContext) := by
  have hpgw : (grant.reply gateway request).field? .pgwS5s8FteidC = none := by
    rw [Message.field?, field_reply hp]
    rfl
  have hcontexts : (grant.reply gateway request).field .bearerContextsCreated =
      grant.contexts gateway := by
    rw [field_reply hp]
    simp [replySlots, Slot.one, Slot.oneAt, Slot.manyAt]
  rw [Session.applyCreated, sender_reply hp, hpgw, paa_reply hp, hcontexts]
  rfl

/-- What a client makes of an answer is what the gateway did before it answered: the end point of the
gateway is bound and all contexts are applied. The address is known already. -/
theorem applyCreated_reply (hp : ∀ paa ∈ request.field? .paa, paa.type = Code.paa)
    (hi : gateway.interface < 64) {session next : Session}
    (h : (Session.applyCreated (grant.reply gateway request)).run session = (.ok (), next))
    (ha : session.defaultBearer.subscriberIp =
      (request.field? .paa).bind fun paa => (V2.pdnAddress paa).toOption) :
    ((grant.contexts gateway).forM Session.applyContext : Edit Session Unit).run
      (session.setTeid gateway.interface grant.own) = (.ok (), next) := by
  have hb : (Session.bindFteid (V2.ofFteid gateway.interface grant.own grant.v4 grant.v6)).run
      session = (.ok (), session.setTeid gateway.interface grant.own) :=
    Session.bindFteid_eq_ok.2 ⟨_, _, interfaceType_ofFteid hi .., teid_ofFteid .., rfl⟩
  rw [applyCreated_reply_eq hp, Edit.run_bind, hb] at h
  cases hpaa : request.field? .paa with
  | none =>
    rw [hpaa] at h
    exact h
  | some paa =>
    rw [hpaa] at h ha
    simp only [Edit.run_bind, Edit.run_lift, Edit.run_modify] at h
    cases hd : V2.pdnAddress paa with
    | error e =>
      rw [hd] at h
      cases h
    | ok address =>
      have hsame : some address = session.defaultBearer.subscriberIp := by
        rw [ha, Option.bind_some, hd, Except.toOption]
      simp only [hd] at h
      rw [hsame] at h
      exact h

/-- The session at which a client arrives is the one that the gateway has granted. -/
theorem Holds.agreed (holds : grant.Holds client request gateway)
    (hp : ∀ paa ∈ request.field? .paa, paa.type = Code.paa) (hi : gateway.interface < 64)
    {peer : SocketAddress} {next active : Session}
    (hc : (Session.applyCreated (grant.reply gateway request)).run
      ((grant.described.setTeid grant.interface grant.remote).movedTo peer) = (.ok (), next))
    (ha : next.activate = .ok active) :
    active = grant.session.movedTo peer ∧ active.state = .active := by
  have hd := Session.subscriberIp_ofRequest holds.described
  have hg := applyCreated_reply hp hi hc hd
  obtain ⟨applied, happlied, hactive⟩ := holds.applied
  have hmoved := Session.uniform_forM Session.uniform_applyContext (grant.contexts gateway) peer
    (grant.start gateway)
  obtain ⟨-, -, rfl⟩ := Session.activate_eq_ok.1 ha
  obtain ⟨-, -, he⟩ := Session.activate_eq_ok.1 hactive
  have hnext : next = applied.movedTo peer := by
    rw [happlied] at hmoved
    exact (Prod.mk.inj (hg.symm.trans hmoved)).2
  exact ⟨by rw [hnext, he]; rfl, rfl⟩

end GtpControl.Endpoint.Grant
