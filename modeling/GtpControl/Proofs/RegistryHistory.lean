import GtpControl.Proofs.RegistryLaws

/-! # Histories of registries: what the indices say about the operations before

A registry is what the operations on it have made of it. A number leads to the session of its last
registration, unless that session has been removed since. A subscriber leads to the session that was
registered last for it, as long as that session has a number; no other session takes its place. -/
namespace GtpControl.Registry

/-- What is done to a registry. A session is given as it is when it is registered. -/
inductive Operation where
  | register (teid : UInt32) (id : SessionId) (session : Session)
  | remove (id : SessionId)
  | removeImsi (imsi : String)

namespace Operation

def apply (registry : Registry) : Operation → Registry
  | register teid id session => registry.register teid id session
  | remove id => registry.remove id
  | removeImsi imsi =>
    match registry.removeImsi imsi with
    | .ok (_, registry) => registry
    | .error _ => registry

/-- The session that an operation removes. -/
def removed? (registry : Registry) : Operation → Option SessionId
  | register .. => none
  | remove id => some id
  | removeImsi imsi => (registry.lookupImsi imsi).toOption

/-- An operation registers a session, or removes one, or changes nothing. -/
theorem apply_cases (operation : Operation) (registry : Registry) :
    (∃ teid id session, operation = register teid id session) ∨
      (∀ teid id session, operation ≠ register teid id session) ∧
        ((∃ id, operation.removed? registry = some id ∧
            operation.apply registry = registry.remove id) ∨
          operation.removed? registry = none ∧ operation.apply registry = registry) := by
  cases operation with
  | register teid id session => exact .inl ⟨teid, id, session, rfl⟩
  | remove id => exact .inr ⟨by simp, .inl ⟨id, rfl, rfl⟩⟩
  | removeImsi imsi =>
    refine .inr ⟨by simp, ?_⟩
    simp only [removed?, apply, Registry.removeImsi]
    cases registry.lookupImsi imsi with
    | ok id => exact .inl ⟨id, rfl, rfl⟩
    | error e => exact .inr ⟨rfl, rfl⟩

end Operation

/-- The registry after these operations, of which the last one comes first. -/
def after : List Operation → Registry
  | [] => {}
  | operation :: earlier => operation.apply (after earlier)

theorem coherent_after (history : List Operation) : (after history).Coherent := by
  induction history with
  | nil => exact coherent_empty
  | cons operation earlier ih =>
    obtain ⟨teid, id, session, rfl⟩ | ⟨-, ⟨id, -, h⟩ | ⟨-, h⟩⟩ :=
      operation.apply_cases (after earlier)
    · exact coherent_register ih teid id session
    · rw [after, h]
      exact coherent_remove ih id
    · rw [after, h]
      exact ih

/-! ## What a history says -/

/-- No session changes its subscriber or its peer. -/
def Steady (imsi : SessionId → Option String) (peer : SessionId → SocketAddress)
    (history : List Operation) : Prop :=
  ∀ teid id session, .register teid id session ∈ history →
    session.subscriber.imsi = imsi id ∧ session.peer = peer id

/-- The last registration of the number was one of this session, which has not been removed since. -/
inductive Held (teid : UInt32) (id : SessionId) : List Operation → Prop
  | registered (session : Session) (earlier : List Operation) :
    Held teid id (.register teid id session :: earlier)
  | kept {operation : Operation} {earlier : List Operation} (held : Held teid id earlier)
    (other : ∀ id' session, operation ≠ .register teid id' session)
    (left : operation.removed? (after earlier) ≠ some id) : Held teid id (operation :: earlier)

/-- The session that was registered last for a subscriber, removed or not. -/
def latest (imsi : String) : List Operation → Option SessionId
  | [] => none
  | .register _ id session :: earlier =>
    if session.subscriber.imsi = some imsi then some id else latest imsi earlier
  | _ :: earlier => latest imsi earlier

variable {imsiOf : SessionId → Option String} {peerOf : SessionId → SocketAddress}
  {history earlier : List Operation} {operation : Operation} {teid : UInt32} {id : SessionId}
  {imsi : String}

theorem Steady.tail (h : Steady imsiOf peerOf (operation :: earlier)) :
    Steady imsiOf peerOf earlier :=
  fun teid id session hm => h teid id session (List.mem_cons_of_mem _ hm)

theorem latest_of_removal (h : ∀ teid id session, operation ≠ .register teid id session) :
    latest imsi (operation :: earlier) = latest imsi earlier := by
  cases operation with
  | register teid id session => exact absurd rfl (h teid id session)
  | remove | removeImsi => rfl

theorem imsi_of_latest (steady : Steady imsiOf peerOf history) (h : latest imsi history = some id) :
    imsiOf id = some imsi := by
  induction history with
  | nil => cases h
  | cons operation earlier ih =>
    cases operation with
    | register teid id' session =>
      rw [latest] at h
      split at h
      · next hs =>
        cases h
        rw [← (steady teid id session List.mem_cons_self).1, hs]
      · exact ih steady.tail h
    | remove | removeImsi => exact ih steady.tail h

private theorem held_register {teid' : UInt32} {id' : SessionId} {session : Session} :
    Held teid id (.register teid' id' session :: earlier) ↔
      if teid = teid' then id = id' else Held teid id earlier := by
  split
  · next ht =>
    subst ht
    constructor
    · rintro (_ | ⟨-, other, -⟩)
      · rfl
      · exact absurd rfl (other id' session)
    · rintro rfl
      exact .registered session earlier
  · next ht =>
    constructor
    · rintro (_ | ⟨held, -, -⟩)
      · exact absurd rfl ht
      · exact held
    · intro held
      exact .kept held (fun _ _ he => ht (by cases he; rfl)) (by simp [Operation.removed?])

private theorem held_of_removal (h : ∀ teid id session, operation ≠ .register teid id session) :
    Held teid id (operation :: earlier) ↔
      Held teid id earlier ∧ operation.removed? (after earlier) ≠ some id := by
  constructor
  · rintro (⟨session, -⟩ | ⟨held, -, left⟩)
    · exact absurd rfl (h teid id session)
    · exact ⟨held, left⟩
  · rintro ⟨held, left⟩
    exact .kept held (h teid) left

/-! ## Numbers -/

/-- The entry of a number is that of its last registration. -/
theorem get?_byTeid_after (steady : Steady imsiOf peerOf history) {entry : TeidEntry} :
    (after history).byTeid.get? teid = some entry ↔
      Held teid entry.session history ∧ entry.peer = peerOf entry.session := by
  induction history generalizing entry with
  | nil =>
    constructor
    · intro h
      cases h
    · rintro ⟨⟨⟩, -⟩
  | cons operation earlier ih =>
    have ih := @ih steady.tail
    obtain ⟨teid', id', session, rfl⟩ | ⟨hr, ⟨id', ho, h⟩ | ⟨ho, h⟩⟩ :=
      operation.apply_cases (after earlier)
    · have hpeer : session.peer = peerOf id' := (steady teid' id' session List.mem_cons_self).2
      rw [after, Operation.apply, get?_register, held_register]
      split
      · obtain ⟨found, peer⟩ := entry
        simp only [Option.some.injEq, TeidEntry.mk.injEq, hpeer]
        constructor
        · rintro ⟨rfl, rfl⟩
          exact ⟨rfl, rfl⟩
        · rintro ⟨rfl, rfl⟩
          exact ⟨rfl, rfl⟩
      · exact ih
    · rw [after, h, get?_byTeid_remove (coherent_after earlier).teids, held_of_removal hr, ih, ho,
        and_right_comm, ne_eq, ne_eq, Option.some.injEq, eq_comm (a := id')]
    · rw [after, h, held_of_removal hr, ih, ho]
      simp

theorem binds_after (steady : Steady imsiOf peerOf history) :
    (after history).Binds teid id ↔ Held teid id history := by
  constructor
  · rintro ⟨entry, he, rfl⟩
    exact ((get?_byTeid_after steady).1 he).1
  · intro held
    exact ⟨⟨id, peerOf id⟩, (get?_byTeid_after steady).2 ⟨held, rfl⟩, rfl⟩

/-! ## Subscribers -/

/-- A subscriber leads to the session that was registered last for it, as long as that one has a
number. -/
theorem get?_byImsi_after (steady : Steady imsiOf peerOf history) :
    (after history).byImsi.get? imsi = some id ↔
      latest imsi history = some id ∧ ∃ teid, (after history).Binds teid id := by
  induction history with
  | nil =>
    constructor
    · intro h
      cases h
    · rintro ⟨⟨⟩, -⟩
  | cons operation earlier ih =>
    have ih := ih steady.tail
    have coherent := coherent_after earlier
    obtain ⟨teid', id', session, rfl⟩ | ⟨hr, ⟨id', -, h⟩ | ⟨-, h⟩⟩ :=
      operation.apply_cases (after earlier)
    · have hsession := (steady teid' id' session List.mem_cons_self).1
      rw [after, Operation.apply, get?_byImsi_register coherent, latest]
      refine and_congr_left fun hb => ?_
      split
      · rw [Option.some.injEq, eq_comm]
      · next hi =>
        -- A session of this subscriber is not the new one, so it had its number before.
        rw [ih, and_iff_left_of_imp]
        intro hl
        obtain ⟨teid, hb⟩ := hb
        rw [binds_register] at hb
        split at hb
        · rw [hb] at hl
          exact absurd (hsession.trans (imsi_of_latest steady.tail hl)) hi
        · exact ⟨teid, hb⟩
    · have hunique := coherent.teids
      rw [after, h, get?_byImsi_remove coherent.imsis, ih, latest_of_removal hr, and_assoc]
      simp only [binds_remove hunique, exists_and_right]
    · rw [after, h, latest_of_removal hr, ih]

/-- A session with a number has been registered for its subscriber, if not as the last one. -/
theorem exists_latest (steady : Steady imsiOf peerOf history)
    (hb : ∃ teid, (after history).Binds teid id) (hi : imsiOf id = some imsi) :
    ∃ last, latest imsi history = some last := by
  obtain ⟨teid, hb⟩ := hb
  have held := (binds_after steady).1 hb
  clear hb
  induction held with
  | registered session earlier =>
    have hs := (steady teid id session List.mem_cons_self).1
    exact ⟨id, by rw [latest, hs, if_pos hi]⟩
  | @kept operation earlier _ _ _ ih =>
    obtain ⟨last, hl⟩ := ih steady.tail
    cases operation with
    | register teid' id' session =>
      rw [latest]
      split
      · exact ⟨id', rfl⟩
      · exact ⟨last, hl⟩
    | remove | removeImsi => exact ⟨last, hl⟩

/-- For a session with a number, its subscriber leads to the session that was registered last for
it, if that one has a number, and nowhere otherwise. -/
theorem lookupImsi_after (steady : Steady imsiOf peerOf history)
    (hb : ∃ teid, (after history).Binds teid id) (hi : imsiOf id = some imsi) :
    ∃ last, latest imsi history = some last ∧ imsiOf last = some imsi ∧
      ((∃ teid, (after history).Binds teid last) → (after history).lookupImsi imsi = .ok last) ∧
      ((¬∃ teid, (after history).Binds teid last) →
        (after history).lookupImsi imsi = .error (.notFound (.imsi imsi))) := by
  obtain ⟨last, hl⟩ := exists_latest steady hb hi
  refine ⟨last, hl, imsi_of_latest steady hl, fun hlast => ?_, fun hlast => ?_⟩
  · exact lookupImsi_eq_ok.2 ((get?_byImsi_after steady).2 ⟨hl, hlast⟩)
  · refine lookupImsi_eq_error (Option.eq_none_iff_forall_ne_some.2 fun found hf => ?_)
    obtain ⟨hl', hfound⟩ := (get?_byImsi_after steady).1 hf
    cases hl.symm.trans hl'
    exact hlast hfound

/-! A subscriber who attaches twice, and whose second session is removed. -/

private def attached : Session where
  peer := ⟨.v4 ⟨192, 0, 2, 1⟩, 2123, 0⟩
  subscriber := { imsi := some "001010000000001" }

private def reattached : List Operation := [.register 2 1 attached, .register 1 0 attached]

private theorem steady_reattached :
    Steady (fun _ => attached.subscriber.imsi) (fun _ => attached.peer) reattached := by
  intro teid id session h
  simp only [reattached, List.mem_cons, List.not_mem_nil, or_false] at h
  rcases h with h | h <;> cases h <;> exact ⟨rfl, rfl⟩

/-- The first of two sessions leads to the second by its subscriber. -/
theorem lookupImsi_after_reattached :
    (after reattached).Binds 1 0 ∧ (after reattached).lookupImsi "001010000000001" = .ok 1 ∧
      ∃ last, latest "001010000000001" reattached = some last ∧
        attached.subscriber.imsi = some "001010000000001" ∧
        ((∃ teid, (after reattached).Binds teid last) →
          (after reattached).lookupImsi "001010000000001" = .ok last) ∧
        ((¬∃ teid, (after reattached).Binds teid last) →
          (after reattached).lookupImsi "001010000000001" =
            .error (.notFound (.imsi "001010000000001"))) := by
  have hb : (after reattached).Binds 1 0 := ⟨⟨0, attached.peer⟩, by decide, rfl⟩
  exact ⟨hb, by decide, lookupImsi_after steady_reattached ⟨1, hb⟩ rfl⟩

/-- When the second session is removed, the first still has its number, but is not found by its
subscriber. -/
theorem lookupImsi_after_detached :
    (∃ teid, (after (.remove 1 :: reattached)).Binds teid 0) ∧
      attached.subscriber.imsi = some "001010000000001" ∧
      ∀ id, (after (.remove 1 :: reattached)).lookupImsi "001010000000001" ≠ .ok id := by
  refine ⟨⟨1, ⟨0, attached.peer⟩, by decide, rfl⟩, rfl, fun id h => ?_⟩
  have hn : (after (.remove 1 :: reattached)).lookupImsi "001010000000001" =
      .error (.notFound (.imsi "001010000000001")) := by decide
  rw [hn] at h
  cases h

/-! ## All lookups -/

/-- What the lookups of a registry say about its history. -/
structure Consistent (imsiOf : SessionId → Option String) (peerOf : SessionId → SocketAddress)
    (history : List Operation) : Prop where
  /-- sessions that are found by a subscriber have a number -/
  numbered : ∀ imsi id, (after history).lookupImsi imsi = .ok id →
    ∃ teid, (after history).Binds teid id
  /-- and it is their subscriber -/
  subscriber : ∀ imsi id, (after history).lookupImsi imsi = .ok id → imsiOf id = some imsi
  /-- a number leads the peer of the session that holds it there, and nobody else -/
  held : ∀ teid peer id, (after history).lookupTeid teid peer = .ok id ↔
    Held teid id history ∧ (peerOf id).ip = peer.ip
  /-- a session that is removed is not found any more -/
  unreachable : ∀ (operation : Operation) id, operation.removed? (after history) = some id →
    (∀ teid peer, (operation.apply (after history)).lookupTeid teid peer ≠ .ok id) ∧
      ∀ imsi, (operation.apply (after history)).lookupImsi imsi ≠ .ok id
  /-- and no other session loses a number by that, or gets one -/
  others : ∀ (operation : Operation) id, operation.removed? (after history) = some id →
    ∀ teid entry, entry.session ≠ id →
      ((operation.apply (after history)).byTeid.get? teid = some entry ↔
        (after history).byTeid.get? teid = some entry)
  /-- the sessions with a number are counted, each once -/
  counted : (after history).count = {id | ∃ teid, (after history).Binds teid id}.ncard

/-- An operation that removes a session is a removal of it. -/
private theorem apply_of_removed {registry : Registry} (h : operation.removed? registry = some id) :
    operation.apply registry = registry.remove id := by
  obtain ⟨teid, id', session, rfl⟩ | ⟨-, ⟨id', ho, hr⟩ | ⟨ho, -⟩⟩ := operation.apply_cases registry
  · cases h
  · cases h.symm.trans ho
    exact hr
  · cases h.symm.trans ho

/-- Whatever is done to a registry, its lookups stay consistent. -/
theorem consistent_after (steady : Steady imsiOf peerOf history) :
    Consistent imsiOf peerOf history := by
  have coherent := coherent_after history
  refine ⟨fun imsi id h => ?_, fun imsi id h => ?_, fun teid peer id => ?_, fun operation id h => ?_,
    fun operation id h teid entry hne => ?_, count_eq_ncard coherent⟩
  · exact coherent.bound imsi id (lookupImsi_eq_ok.1 h)
  · exact imsi_of_latest steady ((get?_byImsi_after steady).1 (lookupImsi_eq_ok.1 h)).1
  · simp only [lookupTeid_eq_ok, get?_byTeid_after steady]
    constructor
    · rintro ⟨entry, ⟨held, hp⟩, rfl, hip⟩
      exact ⟨held, hp ▸ hip⟩
    · rintro ⟨held, hip⟩
      exact ⟨⟨id, peerOf id⟩, ⟨held, rfl⟩, rfl, hip⟩
  · rw [apply_of_removed h]
    refine ⟨fun teid peer hl => ?_, fun imsi hl => ?_⟩
    · obtain ⟨entry, he, hs, -⟩ := lookupTeid_eq_ok.1 hl
      exact ((get?_byTeid_remove coherent.teids).1 he).2 hs
    · exact ((get?_byImsi_remove coherent.imsis).1 (lookupImsi_eq_ok.1 hl)).2 rfl
  · rw [apply_of_removed h, get?_byTeid_remove coherent.teids, and_iff_left hne]

/-- A number is taken over, and the session that has lost it is gone. -/
theorem consistent_after_takeover :
    let history : List Operation := [.register 1 1 attached, .register 1 0 attached]
    (after history).lookupTeid 1 attached.peer = .ok 1 ∧ (after history).count = 1 ∧
      Consistent (fun _ => attached.subscriber.imsi) (fun _ => attached.peer) history := by
  refine ⟨by decide, by decide +kernel, consistent_after fun teid id session h => ?_⟩
  simp only [List.mem_cons, List.not_mem_nil, or_false] at h
  rcases h with h | h <;> cases h <;> exact ⟨rfl, rfl⟩

end GtpControl.Registry
