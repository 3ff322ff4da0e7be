import GtpControl.Proofs.RequestAnswers

/-! # Modifications: how much of a modify request is done when it fails

Contexts are applied in place, one after the other, and nothing takes them back. What is at stake are
the bearers: all else of a session changes at the end or not at all. -/
namespace GtpControl
open Catalog.V2 Element

namespace Edit
variable {σ α β : Type} {state last : σ} {e : CodecError}

theorem run_bind_eq_error {edit : Edit σ α} {f : α → Edit σ β} :
    (edit >>= f).run state = (.error e, last) ↔
      edit.run state = (.error e, last) ∨
        ∃ a next, edit.run state = (.ok a, next) ∧ (f a).run next = (.error e, last) := by
  rw [run_bind]
  constructor
  · intro h
    split at h
    · next a next he => exact .inr ⟨a, next, he, h⟩
    · next he =>
      cases h
      exact .inl he
  · rintro (he | ⟨a, next, he, h⟩)
    · rw [he]
    · rw [he]
      exact h

/-- Work along a list that fails has been done up to the entry that fails. -/
theorem exists_of_run_mapM_eq_error {f : α → Edit σ β} {xs : List α}
    (h : (xs.mapM f).run state = (.error e, last)) :
    ∃ done x rest bs next, xs = done ++ x :: rest ∧ (done.mapM f).run state = (.ok bs, next) ∧
      (f x).run next = (.error e, last) := by
  induction xs generalizing state with
  | nil => cases h
  | cons x xs ih =>
    simp only [List.mapM_cons, run_bind_eq_error] at h
    obtain h | ⟨b, middle, hb, h | ⟨bs, next, -, h⟩⟩ := h
    · exact ⟨[], x, xs, [], state, rfl, rfl, h⟩
    · obtain ⟨done, y, rest, bs, next, rfl, hdone, hy⟩ := ih h
      refine ⟨x :: done, y, rest, b :: bs, next, rfl, ?_, hy⟩
      rw [List.mapM_cons, run_bind_eq_ok]
      exact ⟨b, middle, hb, run_bind_eq_ok.2 ⟨bs, next, hdone, rfl⟩⟩
    · cases h

end Edit

/-! ## Contexts, one after the other -/

/-- The identity of the bearer that a context is for. -/
def Bearer.identity (context : Element) : Coded UInt8 := do
  V2.ebi (← context.findChild .v2 Code.ebi 0)

namespace Session
variable {request : Message} {context : Element} {session next last : Session} {e : CodecError}

theorem applyContext_eq (context : Element) :
    applyContext context = (do
      let ebi ← Bearer.identity context
      match (← get).bearerWithEbi? ebi with
      | some (name, bearer) => Edit.within bearer (setBearer name) (Bearer.fill context)
      | none =>
        let bearer ← Bearer.filled context {}
        modify (setBearer (bearerName ebi) bearer)) := by
  rw [applyContext, Bearer.identity]
  cases context.findChild .v2 Code.ebi 0 <;> rfl

/-- A context is granted by one for the same bearer. -/
def Grants (context granted : Element) : Prop :=
  ∃ ebi, Bearer.identity context = .ok ebi ∧
    granted = V2.ofBearerContext [V2.ofEbi ebi, V2.ofCause Cause.accepted]

theorem modifyContext_eq (context : Element) :
    modifyContext context = (do
      applyContext context
      let ebi ← Bearer.identity context
      return V2.ofBearerContext [V2.ofEbi ebi, V2.ofCause Cause.accepted]) := by
  rw [modifyContext, Bearer.identity]
  cases context.findChild .v2 Code.ebi 0 <;> rfl

theorem modifyContext_eq_ok {granted : Element} :
    (modifyContext context).run session = (.ok granted, next) ↔
      (applyContext context).run session = (.ok (), next) ∧ Grants context granted := by
  simp only [modifyContext_eq, Edit.run_bind_eq_ok, Edit.run_lift, Edit.run_pure]
  constructor
  · rintro ⟨_, _, happlied, ebi, _, hebi, h⟩
    obtain ⟨hidentity, rfl⟩ := Prod.mk.inj hebi
    obtain ⟨hgranted, rfl⟩ := Prod.mk.inj h
    exact ⟨happlied, ebi, hidentity, (Except.ok.inj hgranted).symm⟩
  · rintro ⟨happlied, ebi, hidentity, rfl⟩
    exact ⟨(), next, happlied, ebi, next, by rw [hidentity], rfl⟩

/-- A context that cannot be modified cannot be applied: its identity is read first. -/
theorem modifyContext_eq_error :
    (modifyContext context).run session = (.error e, last) ↔
      (applyContext context).run session = (.error e, last) := by
  simp only [modifyContext_eq, Edit.run_bind_eq_error, Edit.run_lift, Edit.run_pure]
  constructor
  · rintro (h | ⟨_, next, happlied, h | ⟨_, _, -, h⟩⟩)
    · exact h
    · rw [applyContext_eq, Edit.run_bind, Edit.run_lift, (Prod.mk.inj h).1] at happlied
      cases happlied
    · cases h
  · exact .inl

/-- Contexts that are modified are applied, and each is granted. -/
theorem forall₂_of_run_mapM {contexts granted : List Element}
    (h : (contexts.mapM modifyContext).run session = (.ok granted, next)) :
    (contexts.forM applyContext : Edit Session Unit).run session = (.ok (), next) ∧
      List.Forall₂ Grants contexts granted := by
  induction contexts generalizing session granted with
  | nil =>
    cases h
    exact ⟨rfl, .nil⟩
  | cons context contexts ih =>
    simp only [List.mapM_cons, Edit.run_bind_eq_ok] at h
    obtain ⟨first, middle, hfirst, rest, _, hrest, h⟩ := h
    cases h
    obtain ⟨happlied, hgrants⟩ := modifyContext_eq_ok.1 hfirst
    obtain ⟨hforM, hforall⟩ := ih hrest
    exact ⟨Edit.run_bind_eq_ok.2 ⟨(), middle, happlied, hforM⟩, .cons hgrants hforall⟩

theorem grants_of_applyModification {granted : List Element}
    (h : (applyModification request).run session = (.ok granted, last)) :
    List.Forall₂ Grants (request.field .bearerContextsToBeModified) granted := by
  simp only [applyModification_eq, Edit.run_bind_eq_ok] at h
  obtain ⟨_, _, happlied, _, _, -, h⟩ := h
  cases h
  exact (forall₂_of_run_mapM happlied).2

theorem named_of_grants {contexts granted : List Element} (h : List.Forall₂ Grants contexts granted) :
    ∀ x ∈ granted, x.type = Code.bearerContext ∧ x.inst = 0 := by
  induction h with
  | nil => simp
  | cons grants _ ih =>
    obtain ⟨ebi, -, rfl⟩ := grants
    exact List.forall_mem_cons.2 ⟨⟨rfl, rfl⟩, ih⟩

/-! ## Modifications that are given up -/

/-- The contexts of a request before this one are applied. -/
def AppliedUpTo (context : Element) (request : Message) (session next : Session) : Prop :=
  ∃ done rest, request.field .bearerContextsToBeModified = done ++ context :: rest ∧
    (done.forM applyContext : Edit Session Unit).run session = (.ok (), next)

/-- What is left of a session by a modification that fails with an error. -/
inductive Halted (request : Message) (session : Session) (e : CodecError) : Session → Prop
  /-- a context does not say which bearer it is for -/
  | unidentified {context : Element} {next : Session}
    (before : AppliedUpTo context request session next) (he : Bearer.identity context = .error e) :
    Halted request session e next
  /-- a bearer cannot be added, as its context cannot be read -/
  | unadded {context : Element} {next : Session} {ebi : UInt8}
    (before : AppliedUpTo context request session next) (hi : Bearer.identity context = .ok ebi)
    (hn : next.bearerWithEbi? ebi = none) (he : Bearer.filled context {} = .error e) :
    Halted request session e next
  /-- a bearer keeps what was read of its context before the child that cannot be read -/
  | unfinished {context : Element} {next : Session} {ebi : UInt8} {name : String}
    {bearer half : Bearer} (before : AppliedUpTo context request session next)
    (hi : Bearer.identity context = .ok ebi) (hb : next.bearerWithEbi? ebi = some (name, bearer))
    (he : (Bearer.fill context).run bearer = (.error e, half)) :
    Halted request session e (next.setBearer name half)
  /-- all contexts are applied, but the access type cannot be read -/
  | unlocated {next : Session} {ratType : Element}
    (contexts : ((request.field .bearerContextsToBeModified).forM applyContext :
      Edit Session Unit).run session = (.ok (), next)) (hl : next.isLocated = true)
    (hr : request.field? .ratType = some ratType) (he : V2.ratType ratType = .error e) :
    Halted request session e next

private theorem halted_of_applyContext (before : AppliedUpTo context request session next)
    (h : (applyContext context).run next = (.error e, last)) : Halted request session e last := by
  rw [applyContext_eq, Edit.run_bind, Edit.run_lift] at h
  cases hi : Bearer.identity context with
  | error e =>
    rw [hi] at h
    cases h
    exact .unidentified before hi
  | ok ebi =>
    rw [hi] at h
    dsimp only at h
    rw [Edit.run_bind, Edit.run_get] at h
    dsimp only at h
    cases hb : next.bearerWithEbi? ebi with
    | some found =>
      obtain ⟨name, bearer⟩ := found
      simp only [hb, Edit.run_within] at h
      obtain ⟨he, rfl⟩ := Prod.mk.inj h
      exact .unfinished before hi hb (Prod.ext he rfl)
    | none =>
      simp only [hb, Edit.run_bind_eq_error, Edit.run_lift] at h
      obtain h | ⟨_, _, -, h⟩ := h
      · obtain ⟨he, rfl⟩ := Prod.mk.inj h
        exact .unadded before hi hb he
      · cases h

private theorem unlocated_of_relocate
    (h : (relocate request).run session = (.error e, last)) :
    last = session ∧ session.isLocated = true ∧
      ∃ ratType, request.field? .ratType = some ratType ∧ V2.ratType ratType = .error e := by
  rw [relocate, Edit.run_bind, Edit.run_get] at h
  dsimp only at h
  cases hl : session.subscriber.location with
  | none =>
    rw [hl] at h
    cases h
  | some location =>
    simp only [hl, Edit.run_bind_eq_error, Edit.run_lift] at h
    obtain h | ⟨_, _, -, h⟩ := h
    · obtain ⟨he, rfl⟩ := Prod.mk.inj h
      cases hr : request.field? .ratType with
      | none =>
        rw [hr] at he
        cases he
      | some ratType =>
        rw [hr, Option.mapM_some] at he
        refine ⟨rfl, by rw [isLocated, hl]; rfl, ratType, rfl, ?_⟩
        cases hread : V2.ratType ratType with
        | ok a =>
          rw [hread] at he
          cases he
        | error e' =>
          rw [hread] at he
          cases he
          rfl
    · cases h

/-- A modification that fails is given up at a context, or after all of them. -/
theorem halted_of_applyModification
    (h : (applyModification request).run session = (.error e, last)) :
    Halted request session e last := by
  rw [applyModification_eq] at h
  simp only [Edit.run_bind_eq_error, Edit.run_pure] at h
  obtain h | ⟨_, next, happlied, h | ⟨_, _, -, h⟩⟩ := h
  · obtain ⟨done, context, rest, _, next, hfield, hdone, hcontext⟩ :=
      Edit.exists_of_run_mapM_eq_error h
    exact halted_of_applyContext ⟨done, rest, hfield, (forall₂_of_run_mapM hdone).1⟩
      (modifyContext_eq_error.1 hcontext)
  · obtain ⟨rfl, hl, ratType, hr, he⟩ := unlocated_of_relocate h
    exact .unlocated (forall₂_of_run_mapM happlied).1 hl hr he
  · cases h

/-- All of a session but its bearers. -/
def unmodified (session : Session) : SocketAddress × SessionState × Subscriber × TeidMap :=
  (session.peer, session.state, session.subscriber, session.teids)

theorem unmodified_setBearer (name : String) (bearer : Bearer) (session : Session) :
    (setBearer name bearer session).unmodified = session.unmodified := by
  rw [setBearer]
  split <;> rfl

theorem unmodified_of_forM {contexts : List Element}
    (h : (contexts.forM applyContext : Edit Session Unit).run session = (.ok (), next)) :
    next.unmodified = session.unmodified := by
  have hkept := Edit.preserves_forM (preserves_applyContext unmodified_setBearer) contexts session
  rwa [h] at hkept

/-- A modification that is given up has changed bearers and nothing else. -/
theorem Halted.unmodified (halted : Halted request session e last) :
    last.unmodified = session.unmodified := by
  cases halted with
  | unidentified before | unadded before =>
    obtain ⟨_, _, -, happlied⟩ := before
    exact unmodified_of_forM happlied
  | unfinished before =>
    obtain ⟨_, _, -, happlied⟩ := before
    exact (unmodified_setBearer ..).trans (unmodified_of_forM happlied)
  | unlocated contexts => exact unmodified_of_forM contexts

end Session

namespace Endpoint
open Endpoint.Action
variable {σ : Type} {environment : Environment (StateM σ)} {peer : SocketAddress} {request : Message}
  {endpoint : Endpoint} {id : SessionId} {session : Session}

/-! ## The answer to a modification that is done -/

/-- The slots of the answer. -/
private def modifiedSlots (contexts : List Element) : List (Slot × List Element) := [
  (.one .cause Code.cause, [V2.ofCause Cause.accepted]),
  (.one .msisdn Code.msisdn, []),
  (.one .linkedEbi Code.ebi, []),
  (.one .apnRestriction Code.apnRestriction, []),
  (.one .pco Code.pco, []),
  (.manyAt .bearerContextsModified Code.bearerContext 0, contexts),
  (.manyAt .bearerContextsMarkedForRemoval Code.bearerContext 1, []),
  (.one .recovery Code.recovery, []),
  (.one .indication Code.indication, []),
  (.one .privateExtension Code.privateExtension, [])]

private theorem inOrder_modifiedSlots {contexts : List Element}
    (h : ∀ x ∈ contexts, x.type = Code.bearerContext ∧ x.inst = 0) :
    Slot.InOrder [] (modifiedSlots contexts) := by
  have hother : ∀ slot : Slot, slot.type ≠ Code.bearerContext → slot.Filled [] contexts := by
    refine fun slot hs => .empty fun x hx ha => ?_
    simp only [Slot.accepts, Bool.and_eq_true, beq_iff_eq] at ha
    exact hs (ha.1.symm.trans (h x hx).1)
  have hmodified : ∀ x ∈ contexts,
      (Slot.manyAt .bearerContextsModified Code.bearerContext 0).accepts x = true := by
    intro x hx
    obtain ⟨ht, hi⟩ := h x hx
    simp [Slot.accepts, Slot.manyAt, ht, hi]
  simp only [modifiedSlots, Slot.InOrder, Slot.ordered, List.flatMap_cons, List.flatMap_nil,
    List.append_nil, List.nil_append]
  exact ⟨.one rfl rfl, hother _ (by decide), hother _ (by decide), hother _ (by decide),
    hother _ (by decide), .all rfl hmodified, .empty (by simp), .empty (by simp), .empty (by simp),
    .empty (by simp), trivial⟩

/-- The contexts of the answer are found in it again. -/
theorem field_modified (remote : UInt32) {contexts : List Element}
    (h : ∀ x ∈ contexts, x.type = Code.bearerContext ∧ x.inst = 0) :
    (Gateway.response .modifyBearerResponse remote (V2.ofCause Cause.accepted :: contexts)).field
      .bearerContextsModified = contexts := by
  have hfields : (Gateway.response .modifyBearerResponse remote
      (V2.ofCause Cause.accepted :: contexts)).fields = modifiedSlots contexts := by
    have ho : Slot.ordered (modifiedSlots contexts, []) = V2.ofCause Cause.accepted :: contexts := by
      simp [Slot.ordered, modifiedSlots]
    have hl : Version.v2.layout .modifyBearerResponse = (modifiedSlots contexts).map (·.1) := rfl
    rw [Gateway.response, Message.fields_make, hl, ← ho,
      Slot.takeAll_of_inOrder (inOrder_modifiedSlots h)]
  rw [Message.field, hfields]
  simp [modifiedSlots, Slot.one, Slot.manyAt]

/-! ## How a modification ends -/

/-- The end of a run of the modification of a session, which is left as it is given last. -/
inductive Modification (environment : Environment (StateM σ)) (peer : SocketAddress)
    (request : Message) (id : SessionId) (session : Session) (start : Endpoint × σ)
    (ran : Except EndpointError Unit × Endpoint × σ) : Session → Prop
  /-- the end point of the peer is not known, and nothing is done -/
  | unreachable {e : SessionError} (hr : session.remoteTeid start.1.interface = .error e)
    (ran_eq : ran = (.error (.session e), start)) :
    Modification environment peer request id session start ran session
  /-- all is done, and answered with one context for each that was asked for -/
  | whole {contexts : List Element} {edited resumed : Session} {remote : UInt32} {answer : Message}
    (hr : session.remoteTeid start.1.interface = .ok remote)
    (he : (Session.applyModification request).run session = (.ok contexts, edited))
    (hs : edited.resume = .ok resumed) (teid : answer.teid? = some remote)
    (accepts : answer.accepts .modifyBearerResponse = true)
    (grants : List.Forall₂ Session.Grants (request.field .bearerContextsToBeModified)
      (answer.field .bearerContextsModified))
    (ran_eq : ran = outcome environment (respond peer request answer)
      (start.1.setSession id resumed, start.2)) :
    Modification environment peer request id session start ran resumed
  /-- something cannot be read, and nothing is sent -/
  | halted {last : Session} {e : CodecError} (unreadable : ¬Session.Modifies request session)
    (halted : Session.Halted request session e last) (same : last.unmodified = session.unmodified)
    (ran_eq : ran = (.error (.codec e), start.1.setSession id last, start.2)) :
    Modification environment peer request id session start ran last
  /-- all is done, but nobody knows who the subscriber of the session is, and it goes on idling -/
  | asleep {contexts : List Element} {edited : Session} (idle : session.state = .idle)
    (unknown : session.subscriber.imsi = none)
    (he : (Session.applyModification request).run session = (.ok contexts, edited))
    (ran_eq : ran = (.error (.session .imsiMissing), start.1.setSession id edited, start.2)) :
    Modification environment peer request id session start ran edited

theorem setSession_self (known : endpoint.session? id = some session) :
    endpoint.setSession id session = endpoint := by
  obtain ⟨hid, rfl⟩ := List.getElem?_eq_some_iff.1 known
  rw [setSession, List.set_getElem_self]

theorem setSession_setSession (id : SessionId) (session session' : Session) (endpoint : Endpoint) :
    (endpoint.setSession id session).setSession id session' = endpoint.setSession id session' := by
  simp only [setSession, List.set_set]

/-- A session that is not resumed idles, and it is not known whose it is. -/
private theorem asleep_of_resume {e : SessionError} (h : session.resume = .error e) :
    session.state = .idle ∧ session.subscriber.imsi = none ∧ e = .imsiMissing := by
  rw [Session.resume] at h
  split at h
  · next hs =>
    rw [Session.activate] at h
    split at h
    · next hi =>
      cases h
      exact ⟨hs, hi, rfl⟩
    · split at h
      · next hd =>
        rw [hs] at hd
        cases hd
      · cases h
  · cases h

/-- A modification of a session that is there, from where its peer's end point is looked up. -/
private theorem outcome_modifyBearer (hq : Quiet environment)
    (hk : request.kind = .modifyBearerRequest) (concerns : endpoint.Concerns peer request id)
    (world : σ) :
    outcome environment (Handler.modifyBearer.run peer request) (endpoint, world) =
      match (endpoint.session id).remoteTeid endpoint.interface with
      | .ok remote => outcome environment (do
          let contexts ← editSession id (Session.applyModification request)
          moveSession id Session.resume
          respond peer request (Gateway.response .modifyBearerResponse remote
            (V2.ofCause Cause.accepted :: contexts))) (endpoint, world)
      | .error e => (.error (.session e), endpoint, world) := by
  rw [Handler.run, Gateway.modifyBearer]
  exact Eq.trans (outcome_concerning hq hk rfl (fun _ => rfl) concerns) rfl

/-- Whatever a modify request for a registered session says: all of it is done and answered, or
something in it cannot be read, and then no more than bearers have changed, each up to where the reading
has come. -/
theorem modification_run (hq : Quiet environment) (hk : request.kind = .modifyBearerRequest)
    (known : endpoint.session? id = some session) (concerns : endpoint.Concerns peer request id)
    (world : σ) :
    ∃ last, (outcome environment (Handler.modifyBearer.run peer request) (endpoint, world)).2.1 =
        endpoint.setSession id last ∧
      Modification environment peer request id session (endpoint, world)
        (outcome environment (Handler.modifyBearer.run peer request) (endpoint, world)) last := by
  have hsession : endpoint.session id = session := by rw [Endpoint.session, known]; rfl
  have hid : id < endpoint.sessions.length := (List.getElem?_eq_some_iff.1 known).1
  have h := outcome_modifyBearer hq hk concerns world
  rw [hsession] at h
  cases hr : session.remoteTeid endpoint.interface with
  | error e =>
    rw [hr] at h
    exact ⟨session, by rw [h, setSession_self known], .unreachable hr h⟩
  | ok remote =>
    rw [hr] at h
    dsimp only at h
    rw [outcome_bind, outcome_editSession, hsession] at h
    cases he : (Session.applyModification request).run session with
    | mk result edited =>
      rw [he] at h
      cases result with
      | error e =>
        have halted := Session.halted_of_applyModification he
        refine ⟨edited, congrArg (·.2.1) h, .halted (fun modifies => ?_) halted halted.unmodified h⟩
        obtain ⟨_, _, happlied⟩ := modifies.exists_applied
        rw [he] at happlied
        cases happlied
      | ok contexts =>
        have hagain : (endpoint.setSession id edited).session id = edited := by
          rw [Endpoint.session, session?_setSession hid]
          rfl
        simp only [Except.mapError] at h
        rw [outcome_bind, outcome_moveSession, hagain] at h
        cases hs : edited.resume with
        | error e =>
          obtain ⟨hidle, hunknown, rfl⟩ := asleep_of_resume hs
          have hkept := Session.preserves_applyModification Session.steady_standing request session
          rw [he] at hkept
          obtain ⟨hstate, hrest⟩ := Prod.mk.inj hkept
          obtain ⟨himsi, -⟩ := Prod.mk.inj hrest
          rw [hs] at h
          exact ⟨edited, congrArg (·.2.1) h,
            .asleep (hstate ▸ hidle) (himsi ▸ hunknown) he h⟩
        | ok resumed =>
          have hresponse : .modifyBearerResponse ∈ Kind.procedureResponses := by decide
          rw [hs] at h
          dsimp only at h
          rw [setSession_setSession] at h
          refine ⟨resumed, ?_, .whole hr he hs (teid?_response hresponse ..)
            (accepts_ofCause hresponse ..) ?_ h⟩
          · rw [h]
            exact (keeps_send .. : Keeps environment (fun endpoint => endpoint) _ _)
          · have hgrants := Session.grants_of_applyModification he
            rw [field_modified remote (Session.named_of_grants hgrants)]
            exact hgrants

/-! A session is modified by two contexts, of which the second does not say which bearer it is for. -/

private def tenant : SocketAddress := ⟨.v4 ⟨127, 0, 0, 1⟩, 2124, 0⟩

private def lodge : Endpoint :=
  let address : SocketAddress := ⟨.v4 ⟨127, 0, 0, 10⟩, 2123, 0⟩
  { make address 11 7 {} with
    bound := some address
    handlers := ⟨Handler.standard.entries ++ Handler.gateway⟩ }

private def entering : Message :=
  .make .v2 .createSessionRequest { sequence := 1 }
    [plain .v2 Code.imsi 0 [0x00, 0x01, 0x01, 0, 0, 0, 0, 0xf1], V2.ofFteid 10 100 none none,
      V2.ofBearerContext [V2.ofEbi 5]]

/-- The gateway with the session. -/
private def lodging : Endpoint × List (SocketAddress × Octets) :=
  (outcome .recording (receive tenant (entering.encode.toOption.getD [])) (lodge, [])).2

private def rearranging : Message :=
  .make .v2 .modifyBearerRequest { sequence := 2, teid := some 7 }
    [V2.ofBearerContext [V2.ofEbi 5, V2.ofChargingId 99], V2.ofBearerContext [V2.ofChargingId 10]]

/-- The modification ends one way or another. -/
theorem modification_run_rearranging :
    Quiet .recording ∧ rearranging.kind = .modifyBearerRequest ∧
      lodging.1.session? 0 = some (lodging.1.session 0) ∧
      lodging.1.Concerns tenant rearranging 0 ∧
      ∃ last, (outcome .recording (Handler.modifyBearer.run tenant rearranging) lodging).2.1 =
          lodging.1.setSession 0 last ∧
        Modification .recording tenant rearranging 0 (lodging.1.session 0) lodging
          (outcome .recording (Handler.modifyBearer.run tenant rearranging) lodging) last := by
  have known : lodging.1.session? 0 = some (lodging.1.session 0) := by decide +kernel
  have concerns : lodging.1.Concerns tenant rearranging 0 := by
    rw [Concerns]
    decide +kernel
  exact ⟨quiet_recording, rfl, known, concerns,
    modification_run quiet_recording rfl known concerns lodging.2⟩

/-- The request is refused for its second context, nothing is sent, and yet the charging identifier of
the first one is that of the bearer from then on. -/
theorem halfway_run :
    let ran := outcome .recording (Handler.modifyBearer.run tenant rearranging) lodging
    Reachable lodging.1 ∧ rearranging.kind = .modifyBearerRequest ∧
      lodging.1.Concerns tenant rearranging 0 ∧
      ran.1 = .error (.codec (.notFound Code.ebi 0)) ∧ ran.2.2 = lodging.2 ∧
      (lodging.1.session 0).defaultBearer.chargingId = 7 ∧
      (ran.2.1.session 0).defaultBearer.chargingId = 99 ∧
      ran.2.1.session 0 ≠ lodging.1.session 0 := by
  intro ran
  have opened : Reachable lodge :=
    (Reachable.made ⟨.v4 ⟨127, 0, 0, 10⟩, 2123, 0⟩ 11 7 {}).aside rfl rfl
  have reachable : Reachable lodging.1 :=
    opened.receive quiet_recording (handles_recording _) [] tenant _
  have concerns : lodging.1.Concerns tenant rearranging 0 := by
    rw [Concerns]
    decide +kernel
  exact ⟨reachable, rfl, concerns, by decide +kernel, by decide +kernel, by decide +kernel,
    by decide +kernel, by decide +kernel⟩

end Endpoint
end GtpControl
