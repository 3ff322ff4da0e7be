import GtpControl.Proofs.CreatedSession
import GtpControl.Proofs.GatewayReactions

/-! # Answers of a gateway, as they are read -/
namespace GtpControl
open Catalog.V2 Element

/-! ## What a response says -/

/-- The message is a response of this kind by which a request is accepted. -/
def Message.accepts (kind : Kind) (message : Message) : Bool :=
  message.kind == kind && message.cause? == some Cause.accepted

/-- What the session procedures answer with. -/
def Kind.procedureResponses : List Kind :=
  [.createSessionResponse, .modifyBearerResponse, .deleteSessionResponse,
    .releaseAccessBearersResponse]

/-- The address that a create request names is an element of the type for it. -/
theorem Message.type_of_paa {policy : LengthPolicy} {octets : Octets} {request : Message}
    (hp : Message.parse .v2 policy octets = .ok request) (hk : request.kind = .createSessionRequest) :
    ∀ paa ∈ request.field? .paa, paa.type = Code.paa := by
  obtain ⟨header, elements, hv, -, rfl⟩ := Message.exists_ofElements hp
  have hlayout : ∀ slot ∈ Version.v2.layout .createSessionRequest, slot.field = .paa →
      slot.type = Code.paa := by decide
  change Version.kindOf .v2 header.type = _ at hk
  rw [hk]
  rw [← hv] at hlayout
  exact fun paa hm => Message.type_of_mem_field hlayout (List.mem_of_mem_head? hm)

/-- The contexts of a response to a modification are new. -/
theorem Session.built_of_applyModification {request : Message} {session edited : Session}
    {contexts : List Element}
    (h : (Session.applyModification request).run session = (.ok contexts, edited)) :
    ∀ context ∈ contexts, Element.Built .v2 context := by
  simp only [applyModification, Edit.run_bind_eq_ok, Edit.run_pure] at h
  obtain ⟨_, _, hc, _, _, -, h⟩ := h
  cases h
  refine Edit.forall_of_mapM (fun context state made last hm => ?_) hc
  simp only [Edit.run_bind_eq_ok, Edit.run_pure] at hm
  obtain ⟨_, _, -, _, _, -, ebi, _, -, hm⟩ := hm
  cases hm
  refine .grouped 0 rfl ?_
  simp only [List.forall_mem_cons]
  exact ⟨.ofValue (V2.OfValue.ebi ebi), .ofValue (V2.OfValue.cause _), by simp⟩

namespace Endpoint
open Kind (procedureResponses)

/-- Responses have a slot for their cause, before all others. -/
private theorem layout_of_response : ∀ kind ∈ procedureResponses, kind ∈ Version.v2.kinds ∧
    (Version.v2.layout kind).head? = some (.one .cause Code.cause) := by
  decide

variable {kind : Kind} {peer : SocketAddress} {request answer : Message} {endpoint next : Endpoint}

/-- A response that starts with a cause has that cause. -/
theorem cause?_response (hk : kind ∈ procedureResponses) (teid : UInt32) {cause : Element}
    {code : UInt8} {marks : Octets} (ht : cause.type = Code.cause)
    (hp : cause.payload = code :: marks) (elements : List Element) :
    (Gateway.response kind teid (cause :: elements)).cause? = some code := by
  obtain ⟨header, hv, -, -, hm⟩ :=
    Message.exists_make_eq .v2 kind { teid := some teid } (cause :: elements)
  obtain ⟨slots, hl⟩ := List.head?_eq_some_iff.1 (layout_of_response kind hk).2
  have haccepts : (Slot.one .cause Code.cause).accepts cause = true := by
    simp [Slot.accepts, Slot.one, ht]
  have hfield : (Message.ofElements header kind (cause :: elements)).field? .cause = some cause := by
    rw [Message.field?, Message.field, Message.ofElements, hv, hl, Slot.takeAll_cons rfl haccepts]
    rfl
  have hcause : (Message.ofElements header kind (cause :: elements)).causeElement? = some cause := by
    simp only [procedureResponses, List.mem_cons, List.not_mem_nil, or_false] at hk
    rcases hk with rfl | rfl | rfl | rfl <;> exact hfield
  have hversion : (Message.ofElements header kind (cause :: elements)).version = .v2 := hv
  rw [Gateway.response, hm, Message.cause?, hcause, hversion, Option.bind_some, readUInt8,
    Element.expect]
  simp [Message.causeType, ht, hp, Except.toOption]

theorem accepts_response (hk : kind ∈ procedureResponses) (teid : UInt32) {cause : Element}
    {code : UInt8} {marks : Octets} (ht : cause.type = Code.cause)
    (hp : cause.payload = code :: marks) (elements : List Element) (kind' : Kind) :
    (Gateway.response kind teid (cause :: elements)).accepts kind' =
      (kind == kind' && code == Cause.accepted) := by
  rw [Message.accepts, cause?_response hk teid ht hp]
  rfl

theorem accepts_ofCause (hk : kind ∈ procedureResponses) (teid : UInt32) (cause : UInt8)
    (elements : List Element) (kind' : Kind) :
    (Gateway.response kind teid (V2.ofCause cause :: elements)).accepts kind' =
      (kind == kind' && cause == Cause.accepted) :=
  accepts_response hk teid rfl rfl elements kind'

theorem accepts_ofCauseWith (hk : kind ∈ procedureResponses) (teid : UInt32) (cause : UInt8)
    (connection bearer remote : Bool) (offending : Option Element) (elements : List Element)
    (kind' : Kind) :
    (Gateway.response kind teid
        (V2.ofCauseWith cause connection bearer remote offending :: elements)).accepts kind' =
      (kind == kind' && cause == Cause.accepted) :=
  accepts_response hk teid rfl rfl elements kind'

theorem accepts_reply (grant : Grant) (kind' : Kind) :
    (grant.reply endpoint request).accepts kind' = (.createSessionResponse == kind') := by
  have hk : .createSessionResponse ∈ procedureResponses := by decide
  have h := accepts_ofCause hk grant.remote Cause.accepted
    ([V2.ofFteid endpoint.interface grant.own grant.v4 grant.v6] ++ (request.field? .paa).toList ++
      grant.contexts endpoint) kind'
  rw [beq_self_eq_true, Bool.and_true] at h
  exact h

/-- An answer that accepts a creation comes with a grant. -/
theorem Reaction.granted (reaction : Reaction peer request endpoint next (some answer))
    (h : answer.accepts .createSessionResponse = true) :
    ∃ grant pool, endpoint.Draws grant.own pool ∧ grant.id = endpoint.sessions.length ∧
      grant.Holds peer request (endpoint.withGrant grant pool) ∧
      next = endpoint.withGrant grant pool ∧ answer = grant.reply endpoint request := by
  cases reaction with
  | created _ draws hid holds => exact ⟨_, _, draws, hid, holds, rfl, rfl⟩
  | echoed => cases h
  | incomplete =>
    rw [accepts_ofCauseWith (by decide)] at h
    exact absurd h (by decide)
  | unknown hk =>
    rw [accepts_ofCause (List.mem_cons_of_mem _ hk)] at h
    simp [Cause.contextNotFound, Cause.accepted] at h
  | modified | deleted | released =>
    rw [accepts_ofCause (by decide)] at h
    cases h

/-- A response goes to the end point that it was made for. -/
theorem teid?_response (hk : kind ∈ procedureResponses) (teid : UInt32) (elements : List Element) :
    (Gateway.response kind teid elements).teid? = some teid := by
  rw [Gateway.response, Message.teid?_make (by rintro rfl; simp [procedureResponses] at hk)
    (by rintro rfl; simp [procedureResponses] at hk), Option.getD_some]

/-! ## Answers are read as they were given -/

private theorem sound_response (hk : kind ∈ procedureResponses) (teid : UInt32)
    {elements : List Element} (he : ∀ x ∈ elements, Element.Sound .v2 x) :
    (Gateway.response kind teid elements).Sound ∧
      (Gateway.response kind teid elements).version = .v2 :=
  ⟨Message.sound_make (layout_of_response kind hk).1 he _, Message.version_make ..⟩

private theorem sound_of_value {element : Element} (h : V2.OfValue element) :
    Element.Sound .v2 element :=
  sound_of_ofValue h

/-- A gateway gives answers that are read back, if the request was read. -/
theorem Reaction.sound (reaction : Reaction peer request endpoint next (some answer))
    (sound : ∀ x ∈ request.elements, Element.Sound .v2 x) : answer.Sound ∧ answer.version = .v2 := by
  cases reaction with
  | echoed =>
    refine ⟨Message.sound_make (by decide) ?_ _, Message.version_make ..⟩
    simpa using sound_of_value (.recovery endpoint.settings.recovery)
  | incomplete =>
    refine sound_response (by decide) _ ?_
    simpa using sound_of_value (.causeWith ..)
  | created => exact Grant.sound_reply sound
  | unknown hk =>
    exact sound_response (List.mem_cons_of_mem _ hk) 0 (by simpa using sound_of_value (.cause _))
  | modified _ _ _ he =>
    refine sound_response (by decide) _ (List.forall_mem_cons.2 ⟨sound_of_value (.cause _), ?_⟩)
    exact fun x hx => sound_of_built (Session.built_of_applyModification he x hx)
  | deleted => exact sound_response (by decide) _ (by simpa using sound_of_value (.cause _))
  | released => exact sound_response (by decide) _ (by simpa using sound_of_value (.cause _))

end Endpoint
end GtpControl
