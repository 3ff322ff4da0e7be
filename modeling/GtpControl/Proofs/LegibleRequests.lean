import GtpControl.Proofs.CreatedSession
import GtpControl.Proofs.GatewaySessions

/-! # Legible requests: what can be read of them is read to the end

Edits fail when they read an element that holds no value of its type, and for no other reason. -/
namespace GtpControl
open Catalog.V2 Element

/-- The reader gets its value out of the element. -/
def Element.Reads {α : Type} (read : Element → Coded α) (element : Element) : Prop :=
  ∃ a, read element = .ok a

/-! ## Edits that end well -/

namespace Edit
variable {σ τ α β γ : Type}

/-- An edit that ends well from every state. -/
def Completes (edit : Edit σ α) : Prop := ∀ state, ∃ a next, edit.run state = (.ok a, next)

theorem completes_pure (a : α) : Completes (pure a : Edit σ α) := fun state => ⟨a, state, rfl⟩

theorem completes_get : Completes (get : Edit σ σ) := fun state => ⟨state, state, rfl⟩

theorem completes_modify (f : σ → σ) : Completes (modify f : Edit σ PUnit) :=
  fun state => ⟨⟨⟩, f state, rfl⟩

theorem Completes.bind {edit : Edit σ α} {f : α → Edit σ β} (h : Completes edit)
    (hf : ∀ a, Completes (f a)) : Completes (edit >>= f) := by
  intro state
  obtain ⟨a, next, hrun⟩ := h state
  obtain ⟨b, last, hlast⟩ := hf a next
  exact ⟨b, last, run_bind_eq_ok.2 ⟨a, next, hrun, hlast⟩⟩

/-- What is read is there for what goes on with it. -/
theorem completes_lift_bind {result : Coded α} {a : α} {f : α → Edit σ β} (h : result = .ok a)
    (hf : Completes (f a)) : Completes ((liftM result : Edit σ α) >>= f) := by
  intro state
  obtain ⟨b, last, hlast⟩ := hf state
  exact ⟨b, last, by rw [run_bind, run_lift, h]; exact hlast⟩

theorem completes_forM {f : γ → Edit σ PUnit} {xs : List γ} (h : ∀ x ∈ xs, Completes (f x)) :
    Completes (xs.forM f) := by
  induction xs with
  | nil => exact fun state => ⟨⟨⟩, state, rfl⟩
  | cons x xs ih =>
    rw [List.forall_mem_cons] at h
    exact h.1.bind fun _ => ih h.2

theorem completes_mapM {f : γ → Edit σ α} {xs : List γ} (h : ∀ x ∈ xs, Completes (f x)) :
    Completes (xs.mapM f) := by
  induction xs with
  | nil => exact completes_pure []
  | cons x xs ih =>
    rw [List.forall_mem_cons] at h
    rw [List.mapM_cons]
    exact h.1.bind fun _ => (ih h.2).bind fun _ => completes_pure _

theorem Completes.within {edit : Edit τ α} (h : Completes edit) (part : τ) (put : τ → σ → σ) :
    Completes (edit.within part put) := by
  intro state
  obtain ⟨a, next, hrun⟩ := h part
  exact ⟨a, put next state, by rw [run_within, hrun]⟩

/-- What a child says can be taken over if it can be read. -/
theorem completes_optional {found : Coded Element} {read : Element → Coded α} {put : α → σ → σ}
    {rest : Edit σ β} (h : ∀ child, found = .ok child → child.Reads read)
    (hr : Completes rest) :
    Completes (match found with
      | .ok child => do
        let a ← read child
        modify (put a)
        rest
      | _ => rest) := by
  cases found with
  | ok child =>
    obtain ⟨a, ha⟩ := h child rfl
    exact completes_lift_bind ha ((completes_modify (put a)).bind fun _ => hr)
  | error e => exact hr

end Edit

/-! ## Bearer contexts -/

/-- The end point that an element names can be read. -/
def Element.NamesFteid (fteid : Element) : Prop :=
  fteid.Reads V2.interfaceType ∧ fteid.Reads V2.teid

/-- All children of a bearer context that are read can be read. -/
structure Bearer.Legible (context : Element) : Prop where
  ebi : ∀ child, context.findChild .v2 Code.ebi 0 = .ok child → child.Reads V2.ebi
  qos : ∀ child, context.findChild .v2 Code.bearerQos 0 = .ok child → child.Reads V2.bearerQos
  chargingId : ∀ child, context.findChild .v2 Code.chargingId 0 = .ok child →
    child.Reads V2.chargingId
  fteids : ∀ child ∈ context.children, child.type = Code.fteid → child.NamesFteid

namespace Bearer
variable {context : Element}

theorem completes_bindFteid {fteid : Element} (h : fteid.NamesFteid) :
    Edit.Completes (bindFteid fteid) := by
  obtain ⟨⟨interface, hi⟩, teid, ht⟩ := h
  exact Edit.completes_lift_bind hi (Edit.completes_lift_bind ht (Edit.completes_modify _))

theorem Legible.completes_fill (legible : Legible context) : Edit.Completes (fill context) := by
  have hfteids : Edit.Completes
      ((context.children.filter (·.type == Code.fteid)).forM bindFteid) := by
    refine Edit.completes_forM fun fteid hm => completes_bindFteid ?_
    obtain ⟨hm, ht⟩ := List.mem_filter.1 hm
    exact legible.fteids fteid hm (beq_iff_eq.1 ht)
  exact Edit.completes_optional legible.ebi (Edit.completes_optional legible.qos
    (Edit.completes_optional legible.chargingId hfteids))

theorem Legible.exists_filled (legible : Legible context) (bearer : Bearer) :
    ∃ bearer', filled context bearer = .ok bearer' := by
  obtain ⟨_, bearer', h⟩ := legible.completes_fill bearer
  exact ⟨bearer', by rw [filled, h]; rfl⟩

end Bearer

/-- A bearer context that says which bearer it is for, and can be read. -/
structure Bearer.Identified (context : Element) : Prop where
  legible : Legible context
  ebi : ∃ child, context.findChild .v2 Code.ebi 0 = .ok child

namespace Session
variable {request : Message} {context : Element}

theorem completes_bindFteid {fteid : Element} (h : fteid.NamesFteid) :
    Edit.Completes (bindFteid fteid) := by
  obtain ⟨⟨interface, hi⟩, teid, ht⟩ := h
  exact Edit.completes_lift_bind hi (Edit.completes_lift_bind ht (Edit.completes_modify _))

theorem completes_applyContext (identified : Bearer.Identified context) :
    Edit.Completes (applyContext context) := by
  obtain ⟨legible, child, hchild⟩ := identified
  obtain ⟨ebi, hebi⟩ := legible.ebi child hchild
  refine Edit.completes_lift_bind hchild (Edit.completes_lift_bind hebi ?_)
  refine Edit.completes_get.bind fun session => ?_
  cases session.bearerWithEbi? ebi with
  | some found => exact legible.completes_fill.within _ _
  | none =>
    obtain ⟨bearer, hb⟩ := legible.exists_filled {}
    exact Edit.completes_lift_bind hb (Edit.completes_modify _)

theorem completes_modifyContext (identified : Bearer.Identified context) :
    Edit.Completes (modifyContext context) := by
  obtain ⟨child, hchild⟩ := identified.ebi
  obtain ⟨ebi, hebi⟩ := identified.legible.ebi child hchild
  exact (completes_applyContext identified).bind fun _ => Edit.completes_lift_bind hchild
    (Edit.completes_lift_bind hebi (Edit.completes_pure _))

/-- Whether it is known where the subscriber is. -/
def isLocated (session : Session) : Bool := session.subscriber.location.isSome

theorem isLocated_setBearer (name : String) (bearer : Bearer) (session : Session) :
    (setBearer name bearer session).isLocated = session.isLocated := by
  rw [setBearer]
  split <;> rfl

/-- The contexts of a modification can be applied, and so can its access type if there is a location
that it changes. -/
structure Modifies (request : Message) (session : Session) : Prop where
  contexts : ∀ context ∈ request.field .bearerContextsToBeModified, Bearer.Identified context
  ratType : session.isLocated = true →
    ∀ element ∈ request.field? .ratType, element.Reads V2.ratType

/-- A value that is there can be read, or there is none. -/
theorem exists_mapM {α : Type} {read : Element → Coded α} {found : Option Element}
    (h : ∀ element ∈ found, element.Reads read) : ∃ a, found.mapM read = .ok a := by
  cases found with
  | none => exact ⟨none, rfl⟩
  | some element =>
    obtain ⟨a, ha⟩ := h element rfl
    exact ⟨some a, by rw [Option.mapM_some, ha]; rfl⟩

theorem exists_relocated {session : Session}
    (h : session.isLocated = true → ∀ element ∈ request.field? .ratType, element.Reads V2.ratType) :
    ∃ edited, (relocate request).run session = (.ok (), edited) := by
  rw [isLocated] at h
  rw [relocate, Edit.run_bind, Edit.run_get]
  cases hl : session.subscriber.location with
  | none => exact ⟨session, by simp only [hl]; rfl⟩
  | some location =>
    obtain ⟨ratType, hr⟩ := exists_mapM (h (by rw [hl]; rfl))
    simp only [hl, hr]
    exact ⟨_, rfl⟩

theorem Modifies.exists_applied {session : Session} (modifies : Modifies request session) :
    ∃ contexts edited, (applyModification request).run session = (.ok contexts, edited) := by
  obtain ⟨contexts, next, hnext⟩ := Edit.completes_mapM
    (fun context hm => completes_modifyContext (modifies.contexts context hm)) session
  have hlocated := Edit.preserves_mapM (preserves_modifyContext isLocated_setBearer)
    (request.field .bearerContextsToBeModified) session
  rw [hnext] at hlocated
  obtain ⟨edited, hedited⟩ := exists_relocated fun h => modifies.ratType (hlocated ▸ h)
  rw [applyModification_eq]
  exact ⟨contexts, edited, Edit.run_bind_eq_ok.2 ⟨contexts, next, hnext,
    Edit.run_bind_eq_ok.2 ⟨(), edited, hedited, rfl⟩⟩⟩

/-! ## Descriptions of sessions -/

/-- All that a create request says of its session can be read. -/
structure Describes (request : Message) : Prop where
  servingNetwork : ∀ element ∈ request.field? .servingNetwork, element.Reads V2.servingNetwork
  ratType : ∀ element ∈ request.field? .ratType, element.Reads V2.ratType
  imsi : ∀ element ∈ request.field? .imsi, element.Reads V2.imsi
  msisdn : ∀ element ∈ request.field? .msisdn, element.Reads V2.msisdn
  mei : ∀ element ∈ request.field? .mei, element.Reads V2.mei
  apn : ∀ element ∈ request.field? .apn, element.Reads V2.apn
  contexts : ∀ context ∈ request.field .bearerContextsToBeCreated, Bearer.Legible context

/-- Bearers that can be read can be added. -/
private theorem exists_added (apn : String) {contexts : List Element}
    (h : ∀ context ∈ contexts, Bearer.Legible context) (session : Session) :
    ∃ session', contexts.foldlM
      (fun session context => do
        let bearer ← Bearer.filled context { apn }
        return session.setBearer (bearerName bearer.ebi) bearer) session =
      (.ok session' : Coded Session) := by
  induction contexts generalizing session with
  | nil => exact ⟨session, rfl⟩
  | cons context contexts ih =>
    rw [List.forall_mem_cons] at h
    obtain ⟨bearer, hb⟩ := h.1.exists_filled { apn }
    obtain ⟨session', hs⟩ := ih h.2 (session.setBearer (bearerName bearer.ebi) bearer)
    exact ⟨session', by rw [List.foldlM_cons, hb]; exact hs⟩

theorem Describes.exists_session (describes : Describes request) (peer : SocketAddress) :
    ∃ session, ofRequest peer request = .ok session := by
  obtain ⟨plmn, hplmn⟩ := exists_mapM describes.servingNetwork
  obtain ⟨ratType, hratType⟩ := exists_mapM describes.ratType
  obtain ⟨imsi, himsi⟩ := exists_mapM describes.imsi
  obtain ⟨msisdn, hmsisdn⟩ := exists_mapM describes.msisdn
  obtain ⟨mei, hmei⟩ := exists_mapM describes.mei
  obtain ⟨apn, hapn⟩ := exists_mapM describes.apn
  have hcontexts := describes.contexts
  simp only [ofRequest, hplmn, hratType, himsi, hmsisdn, hmei, hapn, ok_bind]
  revert hcontexts
  cases request.field .bearerContextsToBeCreated with
  | nil =>
    intro hcontexts
    exact exists_added (apn.getD "") hcontexts _
  | cons first contexts =>
    intro hcontexts
    rw [List.forall_mem_cons] at hcontexts
    obtain ⟨bearer, hb⟩ := hcontexts.1.exists_filled {
      apn := apn.getD ""
      subscriberIp := (request.field? .paa).bind fun paa => (V2.pdnAddress paa).toOption }
    have hadded := exists_added (apn.getD "") hcontexts.2
      { peer
        subscriber := {
          imsi, msisdn, imei := mei
          location := some { plmn, ratType, report := (request.field? .uli).map (·.payload) } }
        defaultBearer := bearer }
    obtain ⟨session', hs⟩ := hadded
    exact ⟨session', bind_eq_ok.2 ⟨bearer, hb, hs⟩⟩

/-! ## Grants -/

/-- Grants are for a bearer each, and can be read. -/
theorem identified_grants {chargingId : UInt32} {session : Session} {context : Element}
    (h : context ∈ session.grants chargingId) : Bearer.Identified context := by
  obtain ⟨bearer, -, rfl⟩ := List.mem_map.1 h
  have hebi : (V2.ofEbi bearer.2.ebi).Reads V2.ebi := ⟨_, rfl⟩
  have hcharging : (V2.ofChargingId chargingId).Reads V2.chargingId := by
    obtain ⟨a, b, c, d, ho, -⟩ := Octets.exists_ofUInt32 chargingId
    exact ⟨_, by rw [V2.ofChargingId, ho]; rfl⟩
  refine ⟨⟨?_, ?_, ?_, ?_⟩, V2.ofEbi bearer.2.ebi, rfl⟩
  · rintro child ⟨⟩
    exact hebi
  · rintro child ⟨⟩
  · rintro child ⟨⟩
    exact hcharging
  · intro child hm ht
    have hcodes : child.type ∈ [Code.ebi, Code.cause, Code.chargingId] := List.mem_map_of_mem hm
    rw [ht] at hcodes
    exact absurd hcodes (by decide)

end Session

/-- New end points can be read. -/
theorem Element.namesFteid_ofFteid (interface : UInt8) (teid : UInt32) (v4 : Option Ipv4Address)
    (v6 : Option Ipv6Address) : (V2.ofFteid interface teid v4 v6).NamesFteid := by
  refine ⟨?_, teid, Endpoint.teid_ofFteid ..⟩
  obtain ⟨a, b, c, d, ho, -⟩ := Octets.exists_ofUInt32 teid
  exact ⟨_, by simp [V2.interfaceType, V2.ofFteid, V2.fteidParts, V2.ofPayload, plain,
    Element.expect, ho]; rfl⟩

namespace Endpoint

private theorem exists_approved_of_known {described : Session} (interface : UInt8) (own : UInt32)
    (himsi : described.subscriber.imsi ≠ none) (hstate : described.state ≠ .inactive) :
    ∃ session, approve interface own described = .ok session := by
  have hcompletes : Edit.Completes
      (((described.setTeid interface own).grants own).forM Session.applyContext) :=
    Edit.completes_forM fun context h => Session.completes_applyContext (Session.identified_grants h)
  obtain ⟨_, applied, happlied⟩ := hcompletes (described.setTeid interface own)
  have hkept := Edit.preserves_forM
    (Session.preserves_applyContext Session.steady_standing.bearer)
    ((described.setTeid interface own).grants own) (described.setTeid interface own)
  rw [happlied] at hkept
  obtain ⟨hs, hrest⟩ := Prod.mk.inj hkept
  obtain ⟨hi, -⟩ := Prod.mk.inj hrest
  exact ⟨_, approve_eq_ok.2 ⟨applied, happlied, Session.activate_eq_ok.2
    ⟨hi ▸ himsi, hs ▸ hstate, rfl⟩⟩⟩

/-- The session that a request describes is approved if the request names its subscriber. -/
theorem exists_approved {peer : SocketAddress} {request : Message} {described : Session}
    {imsi : Element} (hd : Session.ofRequest peer request = .ok described)
    (hi : request.field? .imsi = some imsi) (interface : UInt8) (remote : UInt32)
    (ownInterface : UInt8) (own : UInt32) :
    ∃ session, approve ownInterface own (described.setTeid interface remote) = .ok session := by
  obtain ⟨number, -, hnumber⟩ := Session.imsi_ofRequest hd hi
  have hknown : (described.setTeid interface remote).subscriber.imsi ≠ none := by
    rw [Session.setTeid, hnumber]
    exact Option.some_ne_none _
  have hfresh : (described.setTeid interface remote).state ≠ .inactive := by
    rw [Session.setTeid, Session.state_ofRequest hd]
    decide
  exact exists_approved_of_known ownInterface own hknown hfresh

end Endpoint
end GtpControl
