import GtpControl.Proofs.GatewayAnswers

/-! # Sessions of a gateway, through all that it receives -/
namespace GtpControl
open Catalog.V2 Element

/-! ## What requests leave of a session -/

namespace Session
open Edit

/-- A part of a session to which neither bearers nor locations belong. -/
structure Steady {τ : Type} (part : Session → τ) : Prop where
  bearer : ∀ name bearer session, part (setBearer name bearer session) = part session
  location : ∀ session location,
    part { session with subscriber := { session.subscriber with location } } = part session

/-- What modifications leave as it is. -/
def standing (session : Session) : SessionState × Option String × TeidMap :=
  (session.state, session.subscriber.imsi, session.teids)

theorem steady_standing : Steady standing where
  bearer name bearer session := by
    rw [setBearer]
    split <;> rfl
  location _ _ := rfl

variable {τ : Type} {part : Session → τ}

theorem preserves_applyContext
    (bearer : ∀ name bearer session, part (setBearer name bearer session) = part session)
    (context : Element) : Preserves part (applyContext context) := by
  refine (preserves_lift _).bind fun child => (preserves_lift _).bind fun ebi => ?_
  refine preserves_get.bind fun session => ?_
  cases session.bearerWithEbi? ebi with
  | some found => exact preserves_within (bearer found.1) _
  | none => exact (preserves_lift _).bind fun added => preserves_modify (bearer _ added)

theorem preserves_relocate (steady : Steady part) (request : Message) :
    Preserves part (relocate request) := by
  refine preserves_get.bind fun session => ?_
  cases session.subscriber.location with
  | some location =>
    exact (preserves_lift _).bind fun stated => preserves_modify fun session =>
      steady.location session _
  | none => exact preserves_pure ()

/-- Applies a context of a modification, and grants it. -/
def modifyContext (context : Element) : Edit Session Element := do
  applyContext context
  let child ← context.findChild .v2 Code.ebi 0
  return V2.ofBearerContext [V2.ofEbi (← V2.ebi child), V2.ofCause Cause.accepted]

theorem applyModification_eq (request : Message) :
    applyModification request = (do
      let contexts ← (request.field .bearerContextsToBeModified).mapM modifyContext
      relocate request
      return contexts) :=
  rfl

theorem preserves_modifyContext
    (bearer : ∀ name bearer session, part (setBearer name bearer session) = part session)
    (context : Element) : Preserves part (modifyContext context) :=
  (preserves_applyContext bearer context).bind fun _ => (preserves_lift _).bind fun _ =>
    (preserves_lift _).bind fun _ => preserves_pure _

theorem preserves_applyModification (steady : Steady part) (request : Message) :
    Preserves part (applyModification request) := by
  rw [applyModification_eq]
  exact (preserves_mapM (preserves_modifyContext steady.bearer) _).bind fun _ =>
    (preserves_relocate steady request).bind fun _ => preserves_pure _

/-- A session in use: it is active or idle, its subscriber is known, and it has this number on the
gateway's side. -/
structure Serves (interface : UInt8) (teid : UInt32) (session : Session) : Prop where
  state : session.state = .active ∨ session.state = .idle
  imsi : session.subscriber.imsi ≠ none
  own : session.teid interface = .ok teid

variable {interface : UInt8} {teid : UInt32} {session next : Session}

theorem Serves.of_standing (serves : session.Serves interface teid)
    (h : next.standing = session.standing) : next.Serves interface teid := by
  obtain ⟨hstate, hrest⟩ := Prod.mk.inj h
  obtain ⟨himsi, hteids⟩ := Prod.mk.inj hrest
  refine ⟨hstate ▸ serves.state, himsi ▸ serves.imsi, ?_⟩
  rw [Session.teid, hteids]
  exact serves.own

theorem Serves.setIdle (serves : session.Serves interface teid) (h : session.setIdle = .ok next) :
    next.Serves interface teid := by
  rw [Session.setIdle] at h
  split at h
  · cases h
    exact ⟨.inr rfl, serves.imsi, serves.own⟩
  · cases h

theorem Serves.resume (serves : session.Serves interface teid) (h : session.resume = .ok next) :
    next.Serves interface teid := by
  rw [Session.resume] at h
  split at h
  · obtain ⟨-, -, rfl⟩ := activate_eq_ok.1 h
    exact ⟨.inl rfl, serves.imsi, serves.own⟩
  · cases h
    exact serves

end Session

namespace Endpoint
open Endpoint.Action

/-- A grant gives its session the end points of both sides. -/
theorem Grant.Holds.teids {peer : SocketAddress} {request : Message} {gateway : Endpoint}
    {grant : Grant} (holds : grant.Holds peer request gateway) :
    grant.session.teids = (grant.start gateway).teids := by
  obtain ⟨applied, happlied, hactive⟩ := holds.applied
  obtain ⟨-, -, he⟩ := Session.activate_eq_ok.1 hactive
  have hkept := Edit.preserves_forM
    (Session.preserves_applyContext Session.steady_standing.bearer) (grant.contexts gateway)
    (grant.start gateway)
  rw [happlied] at hkept
  rw [he]
  exact congrArg (·.2.2) hkept

/-- The session of a grant is in use from the start. -/
theorem Grant.Holds.serves {peer : SocketAddress} {request : Message} {gateway : Endpoint}
    {grant : Grant} (holds : grant.Holds peer request gateway) :
    grant.session.Serves gateway.interface grant.own := by
  have hteids := holds.teids
  obtain ⟨applied, -, hactive⟩ := holds.applied
  obtain ⟨himsi, -, he⟩ := Session.activate_eq_ok.1 hactive
  refine ⟨.inl (by rw [he]), by rwa [he], ?_⟩
  rw [Session.teid]
  simp only [hteids, start, Session.setTeid, Bindings.get?_insert, if_true]
  rfl

/-! ## Order among the sessions -/

/-- Every session that is registered is in use, under one number, which is from the pool. -/
structure Orderly (endpoint : Endpoint) : Prop where
  coherent : endpoint.registry.Coherent
  single : ∀ id teid teid', endpoint.registry.Binds teid id → endpoint.registry.Binds teid' id →
    teid' = teid
  serves : ∀ teid id, endpoint.registry.Binds teid id →
    ∃ session, endpoint.session? id = some session ∧ session.Serves endpoint.interface teid
  range : ∀ teid id, endpoint.registry.Binds teid id →
    teid ≠ 0 ∧ endpoint.pool.first ≤ teid ∧ teid ≤ endpoint.pool.last

/-- What has nothing to do with the registered sessions has happened to an endpoint. -/
structure Apart (before after : Endpoint) : Prop where
  interface : after.interface = before.interface
  registry : after.registry = before.registry
  sessions : ∀ teid id, before.registry.Binds teid id → after.session? id = before.session? id
  first : after.pool.first = before.pool.first
  last : after.pool.last = before.pool.last
  bound : before.bound.isSome = true → after.bound.isSome = true

variable {peer : SocketAddress} {request answer : Message} {endpoint next : Endpoint}
  {answer? : Option Message} {id : SessionId} {session : Session} {teid : UInt32}

theorem Apart.refl (endpoint : Endpoint) : Apart endpoint endpoint :=
  ⟨rfl, rfl, fun _ _ _ => rfl, rfl, rfl, id⟩

theorem orderly_of_empty (h : endpoint.registry = {}) : endpoint.Orderly := by
  have hnone : ∀ teid id, ¬endpoint.registry.Binds teid id := fun teid id hb => by
    rw [h] at hb
    obtain ⟨entry, he, -⟩ := hb
    cases he
  refine ⟨?_, fun id teid _ hb => absurd hb (hnone teid id),
    fun teid id hb => absurd hb (hnone teid id), fun teid id hb => absurd hb (hnone teid id)⟩
  rw [h]
  exact Registry.coherent_empty

theorem Orderly.apart (orderly : endpoint.Orderly) (h : Apart endpoint next) : next.Orderly where
  coherent := by
    rw [h.registry]
    exact orderly.coherent
  single := by
    rw [h.registry]
    exact orderly.single
  serves teid id hb := by
    rw [h.registry] at hb
    rw [h.sessions teid id hb, h.interface]
    exact orderly.serves teid id hb
  range := by
    rw [h.registry, h.first, h.last]
    exact orderly.range

theorem Orderly.fresh (orderly : endpoint.Orderly) (teid : UInt32) :
    ¬endpoint.registry.Binds teid endpoint.sessions.length := by
  intro hb
  obtain ⟨session, hs, -⟩ := orderly.serves teid _ hb
  rw [session?, List.getElem?_eq_none (Nat.le_refl _)] at hs
  cases hs

/-- A session that a request is about is there, and in use. -/
theorem Orderly.of_concerns (orderly : endpoint.Orderly)
    (concerns : endpoint.Concerns peer request id) :
    ∃ teid, endpoint.registry.Binds teid id ∧ ∀ teid', endpoint.registry.Binds teid' id →
      (endpoint.session id).Serves endpoint.interface teid' := by
  obtain ⟨entry, he, rfl, -⟩ := Registry.lookupTeid_eq_ok.1 concerns
  have hb : endpoint.registry.Binds (request.teid?.getD 0) entry.session := ⟨entry, he, rfl⟩
  obtain ⟨session, hs, serves⟩ := orderly.serves _ _ hb
  refine ⟨_, hb, fun teid' hb' => ?_⟩
  rw [orderly.single _ _ _ hb hb', Endpoint.session, hs]
  exact serves

theorem session?_setSession_of_ne {id' : SessionId} (h : id' ≠ id) (session : Session)
    (endpoint : Endpoint) : (endpoint.setSession id session).session? id' = endpoint.session? id' :=
  List.getElem?_set_ne h.symm

/-- What holds of a session holds on if it does of what takes the session's place. -/
theorem exists_session?_setSession {q : Session → Prop} {other : SessionId}
    (h : ∃ kept, endpoint.session? id = some kept ∧ q kept) (hq : other = id → q session) :
    ∃ kept, (endpoint.setSession other session).session? id = some kept ∧ q kept := by
  obtain ⟨kept, hs, hk⟩ := h
  by_cases he : other = id
  · subst he
    exact ⟨session, session?_setSession (List.getElem?_eq_some_iff.1 hs).1 session, hq rfl⟩
  · rw [session?_setSession_of_ne (Ne.symm he)]
    exact ⟨kept, hs, hk⟩

/-- A session that stays in use may change. -/
theorem Orderly.setSession (orderly : endpoint.Orderly)
    (h : ∀ teid, endpoint.registry.Binds teid id → session.Serves endpoint.interface teid) :
    (endpoint.setSession id session).Orderly where
  coherent := orderly.coherent
  single := orderly.single
  serves teid id' hb := exists_session?_setSession (orderly.serves teid id' hb) fun he => by
    subst he
    exact h teid hb
  range := orderly.range

theorem Orderly.removeSession (orderly : endpoint.Orderly) (id : SessionId) (session : Session) :
    ((endpoint.setSession id session).removeSession id).Orderly where
  coherent := Registry.coherent_remove orderly.coherent id
  single id' teid teid' hb hb' :=
    orderly.single id' teid teid' ((Registry.binds_remove orderly.coherent.teids).1 hb).1
      ((Registry.binds_remove orderly.coherent.teids).1 hb').1
  serves teid id' hb := by
    obtain ⟨hb, hne⟩ := (Registry.binds_remove orderly.coherent.teids).1 hb
    have hs : ((endpoint.setSession id session).removeSession id).session? id' =
        endpoint.session? id' := session?_setSession_of_ne hne session endpoint
    rw [hs]
    exact orderly.serves teid id' hb
  range teid id' hb := orderly.range teid id' ((Registry.binds_remove orderly.coherent.teids).1 hb).1

theorem binds_withGrant (grant : Grant) (pool : TeidPool) (endpoint : Endpoint) (teid : UInt32)
    (id : SessionId) :
    (endpoint.withGrant grant pool).registry.Binds teid id ↔
      if teid = grant.own then id = endpoint.sessions.length else endpoint.registry.Binds teid id :=
  Registry.binds_register _

/-- A new session joins under the number that was drawn for it. -/
theorem Orderly.withGrant (orderly : endpoint.Orderly) {grant : Grant} {pool : TeidPool}
    (draws : endpoint.Draws grant.own pool)
    (serves : grant.session.Serves endpoint.interface grant.own) :
    (endpoint.withGrant grant pool).Orderly where
  coherent := Registry.coherent_register orderly.coherent ..
  single id teid teid' hb hb' := by
    rw [binds_withGrant] at hb hb'
    split at hb <;> split at hb'
    · next h h' => rw [h, h']
    · rw [hb] at hb'
      exact absurd hb' (orderly.fresh teid')
    · rw [hb'] at hb
      exact absurd hb (orderly.fresh teid)
    · exact orderly.single id teid teid' hb hb'
  serves teid id hb := by
    rw [binds_withGrant] at hb
    split at hb
    · next h =>
      rw [hb, h]
      exact ⟨grant.session, session?_enrolled .., serves⟩
    · obtain ⟨session, hs, hserves⟩ := orderly.serves teid id hb
      exact ⟨session, (extends_withGrant draws).sessions id session hs, hserves⟩
  range teid id hb := by
    have hpool : (endpoint.withGrant grant pool).pool = pool := rfl
    rw [hpool, draws.first, draws.last]
    rw [binds_withGrant] at hb
    split at hb
    · next h =>
      rw [h]
      exact ⟨draws.ne_zero, draws.first_le, draws.le_last⟩
    · exact orderly.range teid id hb

theorem Orderly.sessionCount_withGrant (orderly : endpoint.Orderly) {grant : Grant} {pool : TeidPool}
    (draws : endpoint.Draws grant.own pool) :
    (endpoint.withGrant grant pool).sessionCount = endpoint.sessionCount + 1 :=
  Registry.count_register orderly.coherent draws.notMem orderly.fresh grant.session

theorem Orderly.sessionCount_removeSession (orderly : endpoint.Orderly)
    (hb : endpoint.registry.Binds teid id) (session : Session) :
    ((endpoint.setSession id session).removeSession id).sessionCount + 1 = endpoint.sessionCount :=
  Registry.count_remove orderly.coherent hb

/-! ## What reactions do to the order, and to the number of sessions -/

theorem apart_pool (endpoint : Endpoint) {pool : TeidPool} (h : pool.first = endpoint.pool.first)
    (h' : pool.last = endpoint.pool.last) : Apart endpoint { endpoint with pool } :=
  ⟨rfl, rfl, fun _ _ _ => rfl, h, h', id⟩

/-- A modification, finished or not, leaves a session in use. -/
private theorem Orderly.edited (orderly : endpoint.Orderly)
    (concerns : endpoint.Concerns peer request id) {result : Coded (List Element)} {edited : Session}
    (he : (Session.applyModification request).run (endpoint.session id) = (result, edited)) :
    (endpoint.setSession id edited).Orderly := by
  obtain ⟨-, -, serves⟩ := orderly.of_concerns concerns
  have hkept := Session.preserves_applyModification Session.steady_standing request
    (endpoint.session id)
  rw [he] at hkept
  exact orderly.setSession fun teid hb => (serves teid hb).of_standing hkept

/-- Whatever a handler does, the sessions stay in order. -/
theorem Orderly.reaction (orderly : endpoint.Orderly)
    (reaction : Reaction peer request endpoint next answer?) : next.Orderly := by
  cases reaction with
  | idle | echoed | incomplete | unknown => exact orderly
  | drawn _ draws => exact orderly.apart (apart_pool endpoint draws.first draws.last)
  | created _ draws _ holds => exact orderly.withGrant draws holds.serves
  | disturbed _ concerns he => exact orderly.edited concerns he
  | modified _ concerns _ he hs =>
    -- The session is looked up again once it is edited, under the same number.
    have edited := orderly.edited concerns he
    obtain ⟨-, -, serves⟩ := edited.of_concerns concerns
    exact edited.setSession fun teid hb => (serves teid hb).resume hs
  | deleted => exact orderly.removeSession _ _
  | released _ concerns _ hs =>
    obtain ⟨-, -, serves⟩ := orderly.of_concerns concerns
    exact orderly.setSession fun teid hb => (serves teid hb).setIdle hs

theorem Reaction.bound (reaction : Reaction peer request endpoint next answer?) :
    next.bound = endpoint.bound := by
  cases reaction <;> rfl

/-- A session comes with an answer that accepts its creation, and goes with one that accepts its
deletion. -/
theorem Reaction.count (reaction : Reaction peer request endpoint next answer?)
    (orderly : endpoint.Orderly) :
    next.sessionCount + answer?.toList.countP (Message.accepts .deleteSessionResponse) =
      endpoint.sessionCount + answer?.toList.countP (Message.accepts .createSessionResponse) := by
  cases reaction with
  | idle | echoed | drawn | disturbed => rfl
  | incomplete =>
    have hk : .createSessionResponse ∈ Kind.procedureResponses := by decide
    simp +decide [accepts_ofCauseWith hk]
  | created _ draws hid holds =>
    simpa +decide [accepts_reply] using orderly.sessionCount_withGrant draws
  | unknown hk => simp +decide [accepts_ofCause (List.mem_cons_of_mem _ hk)]
  | modified =>
    have hk : .modifyBearerResponse ∈ Kind.procedureResponses := by decide
    change endpoint.sessionCount + _ = _
    simp +decide [accepts_ofCause hk]
  | deleted _ concerns =>
    have hk : .deleteSessionResponse ∈ Kind.procedureResponses := by decide
    obtain ⟨_, hb, -⟩ := orderly.of_concerns concerns
    simpa +decide [accepts_ofCause hk] using orderly.sessionCount_removeSession hb _
  | released =>
    have hk : .releaseAccessBearersResponse ∈ Kind.procedureResponses := by decide
    change endpoint.sessionCount + _ = _
    simp +decide [accepts_ofCause hk]

end Endpoint
end GtpControl
