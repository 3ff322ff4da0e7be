import GtpControl.Session.Registry
import GtpControl.Session.TeidPool
import Mathlib.Data.Set.Card
import GtpControl.Proofs.Results

/-! # Laws of bindings, registries and pools of end point numbers -/
namespace GtpControl

namespace Bindings
variable {κ α : Type} [DecidableEq κ]

private theorem lookup_put (key key' : κ) (value : α) (entries : List (κ × α)) :
    (put key value entries).lookup key' = if key' = key then some value else entries.lookup key' := by
  by_cases h : key' = key
  · subst h
    rw [if_pos rfl]
    induction entries with
    | nil => simp [put]
    | cons entry rest ih =>
      obtain ⟨k, a⟩ := entry
      by_cases hk : k = key'
      · simp [put, hk]
      · have hb : (key' == k) = false := beq_eq_false_iff_ne.2 fun he => hk he.symm
        simp [put, hk, List.lookup_cons, hb, ih]
  · have hb : (key' == key) = false := beq_eq_false_iff_ne.2 h
    rw [if_neg h]
    induction entries with
    | nil => simp [put, List.lookup_cons, hb]
    | cons entry rest ih =>
      obtain ⟨k, a⟩ := entry
      by_cases hk : k = key
      · subst hk
        simp [put, List.lookup_cons, hb]
      · simp only [put, hk, if_false, List.lookup_cons, ih]

theorem get?_insert (key key' : κ) (value : α) (bindings : Bindings κ α) :
    (bindings.insert key value).get? key' =
      if key' = key then some value else bindings.get? key' :=
  lookup_put ..

theorem get?_eq_none {key : κ} {bindings : Bindings κ α} :
    bindings.get? key = none ↔ key ∉ bindings.keys := by
  rw [get?, keys]
  rw [List.lookup_eq_none_iff]
  simp only [List.mem_map, not_exists, not_and, bne_iff_ne, ne_eq, eq_comm (a := key)]

theorem mem_put {key : κ} {value : α} {entries : List (κ × α)} {entry : κ × α}
    (h : entry ∈ put key value entries) : entry = (key, value) ∨ entry ∈ entries := by
  induction entries with
  | nil => exact .inl (List.mem_singleton.1 h)
  | cons first rest ih =>
    rw [put] at h
    split at h
    · exact (List.mem_cons.1 h).imp_right (List.mem_cons_of_mem _)
    · rcases List.mem_cons.1 h with rfl | h
      · exact .inr List.mem_cons_self
      · exact (ih h).imp_right (List.mem_cons_of_mem _)

/-! ## Bindings that bind no key twice -/

/-- No key is bound twice. -/
def Unique (bindings : Bindings κ α) : Prop := bindings.keys.Nodup

omit [DecidableEq κ] in
@[simp] theorem unique_empty : ({} : Bindings κ α).Unique := List.nodup_nil

variable {key : κ} {value : α} {bindings : Bindings κ α}

theorem Unique.get?_eq_some (h : bindings.Unique) :
    bindings.get? key = some value ↔ (key, value) ∈ bindings.entries := by
  rw [get?, List.lookup_eq_some_iff]
  constructor
  · rintro ⟨front, back, he, -⟩
    rw [he]
    exact List.mem_append_right _ List.mem_cons_self
  · intro hm
    obtain ⟨front, back, he⟩ := List.append_of_mem hm
    refine ⟨front, back, he, fun entry hentry => ?_⟩
    have hkeys : (front.map (·.1) ++ key :: back.map (·.1)).Nodup := by
      simpa [Unique, keys, he] using h
    have hne := (List.nodup_append.1 hkeys).2.2 entry.1 (List.mem_map_of_mem hentry) key
      List.mem_cons_self
    exact bne_iff_ne.2 hne.symm

theorem keys_put (key : κ) (value : α) (entries : List (κ × α)) :
    (put key value entries).map (·.1) =
      if key ∈ entries.map (·.1) then entries.map (·.1) else entries.map (·.1) ++ [key] := by
  induction entries with
  | nil => rfl
  | cons entry rest ih =>
    by_cases hk : entry.1 = key
    · simp [put, hk]
    · have hne : ¬key = entry.1 := fun h => hk h.symm
      simp only [put, hk, if_false, List.map_cons, ih, List.mem_cons, hne, false_or]
      split <;> simp

theorem Unique.insert (h : bindings.Unique) (key : κ) (value : α) :
    (bindings.insert key value).Unique := by
  rw [Unique, keys, Bindings.insert, keys_put]
  split
  · exact h
  · next hn =>
    refine List.nodup_append.2 ⟨h, by simp, fun k hk k' hk' => ?_⟩
    rintro rfl
    rw [List.mem_singleton.1 hk'] at hk
    exact hn hk

omit [DecidableEq κ] in
theorem Unique.filter (h : bindings.Unique) (p : κ → α → Bool) : (bindings.filter p).Unique :=
  List.Nodup.sublist (List.Sublist.map _ List.filter_sublist) h

theorem Unique.get?_filter (h : bindings.Unique) (p : κ → α → Bool) :
    (bindings.filter p).get? key = some value ↔
      bindings.get? key = some value ∧ p key value = true := by
  rw [(h.filter p).get?_eq_some, h.get?_eq_some]
  simp [Bindings.filter, List.mem_filter]

/-- A key that is not bound yet is bound after all others. -/
theorem entries_insert (h : key ∉ bindings.keys) (value : α) :
    (bindings.insert key value).entries = bindings.entries ++ [(key, value)] := by
  obtain ⟨entries⟩ := bindings
  rw [keys] at h
  rw [Bindings.insert]
  induction entries with
  | nil => rfl
  | cons entry rest ih =>
    rw [List.map_cons, List.mem_cons, not_or] at h
    have hne : ¬entry.1 = key := fun he => h.1 he.symm
    have hrest : put key value rest = rest ++ [(key, value)] := ih h.2
    simp only [put, hne, if_false, hrest, List.cons_append]

end Bindings

namespace Registry

/-- The index of subscribers with a session that is being registered. -/
private def indexed (id : SessionId) (session : Session) (registry : Registry) :
    Bindings String SessionId :=
  match session.subscriber.imsi with
  | some imsi => registry.byImsi.insert imsi id
  | none => registry.byImsi

/-- A registry with one more registration, before anything is forgotten. -/
private def enlisted (teid : UInt32) (id : SessionId) (session : Session) (registry : Registry) :
    Registry :=
  ⟨registry.byTeid.insert teid ⟨id, session.peer⟩, registry.indexed id session⟩

private theorem register_eq (teid : UInt32) (id : SessionId) (session : Session)
    (registry : Registry) :
    registry.register teid id session =
      match registry.byTeid.get? teid with
      | some entry =>
        if entry.session = id || (registry.enlisted teid id session).isBound entry.session then
          registry.enlisted teid id session
        else (registry.enlisted teid id session).dropImsis entry.session
      | none => registry.enlisted teid id session :=
  rfl

@[simp] theorem byTeid_register (teid : UInt32) (id : SessionId) (session : Session)
    (registry : Registry) :
    (registry.register teid id session).byTeid = registry.byTeid.insert teid ⟨id, session.peer⟩ := by
  rw [register_eq]
  split
  · split <;> rfl
  · rfl

/-- A registration changes the entry of its own number only. -/
theorem get?_register (teid : UInt32) (id : SessionId) (session : Session) (registry : Registry)
    (teid' : UInt32) :
    (registry.register teid id session).byTeid.get? teid' =
      if teid' = teid then some ⟨id, session.peer⟩ else registry.byTeid.get? teid' := by
  rw [byTeid_register, Bindings.get?_insert]

/-! ## Numbers and the sessions they lead to -/

/-- The number leads to the session. -/
def Binds (teid : UInt32) (id : SessionId) (registry : Registry) : Prop :=
  ∃ entry, registry.byTeid.get? teid = some entry ∧ entry.session = id

variable {registry : Registry} {teid : UInt32} {id : SessionId} {imsi : String}

theorem lookupTeid_eq_ok {peer : SocketAddress} :
    registry.lookupTeid teid peer = .ok id ↔
      ∃ entry, registry.byTeid.get? teid = some entry ∧ entry.session = id ∧
        entry.peer.ip = peer.ip := by
  rw [lookupTeid]
  cases registry.byTeid.get? teid with
  | none => simp
  | some entry =>
    by_cases hp : entry.peer.ip = peer.ip <;> simp [hp]

theorem lookupImsi_eq_ok : registry.lookupImsi imsi = .ok id ↔ registry.byImsi.get? imsi = some id := by
  rw [lookupImsi]
  cases registry.byImsi.get? imsi <;> simp

theorem lookupImsi_eq_error (h : registry.byImsi.get? imsi = none) :
    registry.lookupImsi imsi = .error (.notFound (.imsi imsi)) := by
  rw [lookupImsi, h]
  rfl

theorem isBound_eq_true (h : registry.byTeid.Unique) :
    registry.isBound id = true ↔ ∃ teid, registry.Binds teid id := by
  simp only [isBound, Bindings.values, List.any_map, List.any_eq_true, Function.comp_apply,
    beq_iff_eq, Binds, h.get?_eq_some, Prod.exists]

/-- A number that is bound leads to its new session from then on. -/
theorem binds_register {teid' : UInt32} {id' : SessionId} (session : Session) :
    (registry.register teid id session).Binds teid' id' ↔
      if teid' = teid then id' = id else registry.Binds teid' id' := by
  rw [Binds, get?_register]
  split
  · simp [eq_comm]
  · rfl

/-! ## Registries whose indices agree -/

/-- Each number and each subscriber leads to one session, and sessions that are found by their
subscriber have a number. -/
structure Coherent (registry : Registry) : Prop where
  teids : registry.byTeid.Unique
  imsis : registry.byImsi.Unique
  bound : ∀ imsi id, registry.byImsi.get? imsi = some id → ∃ teid, registry.Binds teid id

theorem coherent_empty : Coherent {} :=
  ⟨Bindings.unique_empty, Bindings.unique_empty, fun _ _ h => by cases h⟩

private theorem get?_indexed (session : Session) {found : SessionId} :
    (registry.indexed id session).get? imsi = some found ↔
      if session.subscriber.imsi = some imsi then found = id
      else registry.byImsi.get? imsi = some found := by
  rw [indexed]
  cases session.subscriber.imsi with
  | none => simp
  | some own =>
    by_cases h : imsi = own
    · simp [Bindings.get?_insert, h, eq_comm]
    · have h' : ¬own = imsi := fun he => h he.symm
      simp [Bindings.get?_insert, h, h']

private theorem unique_indexed (h : registry.byImsi.Unique) (session : Session) :
    (registry.indexed id session).Unique := by
  rw [indexed]
  split
  · exact h.insert ..
  · exact h

/-- A session is left in the index, or it is the one that has lost its last number. -/
private theorem byImsi_register (teid : UInt32) (id : SessionId) (session : Session)
    (registry : Registry) :
    ((registry.register teid id session).byImsi = registry.indexed id session ∧
      ∀ entry, registry.byTeid.get? teid = some entry → entry.session = id ∨
        (registry.register teid id session).isBound entry.session = true) ∨
    ∃ entry, registry.byTeid.get? teid = some entry ∧ entry.session ≠ id ∧
      (registry.register teid id session).isBound entry.session = false ∧
      (registry.register teid id session).byImsi =
        (registry.indexed id session).filter fun _ session => session != entry.session := by
  have hb : ∀ loser, (registry.register teid id session).isBound loser =
      (registry.enlisted teid id session).isBound loser := fun loser => by
    rw [isBound, byTeid_register]
    rfl
  simp only [hb]
  cases hp : registry.byTeid.get? teid with
  | none =>
    refine .inl ⟨?_, by simp⟩
    rw [register_eq, hp]
    rfl
  | some entry =>
    by_cases hk : (entry.session = id ||
        (registry.enlisted teid id session).isBound entry.session) = true
    · refine .inl ⟨?_, ?_⟩
      · rw [register_eq, hp]
        simp only [hk, if_true]
        rfl
      · rintro _ ⟨⟩
        simpa using hk
    · refine .inr ⟨entry, rfl, ?_⟩
      have hn : entry.session ≠ id ∧
          (registry.enlisted teid id session).isBound entry.session = false := by
        simpa using hk
      refine ⟨hn.1, hn.2, ?_⟩
      rw [register_eq, hp]
      simp only [hk]
      rfl

/-- After a registration the index holds the new session, and of the old ones those that still have a
number. -/
theorem get?_byImsi_register (coherent : registry.Coherent) (session : Session)
    {found : SessionId} :
    (registry.register teid id session).byImsi.get? imsi = some found ↔
      (if session.subscriber.imsi = some imsi then found = id
        else registry.byImsi.get? imsi = some found) ∧
      ∃ teid', (registry.register teid id session).Binds teid' found := by
  have hunique : (registry.register teid id session).byTeid.Unique := by
    rw [byTeid_register]
    exact coherent.teids.insert ..
  have hnew : ∃ teid', (registry.register teid id session).Binds teid' id :=
    ⟨teid, (binds_register session).2 (by simp)⟩
  -- A session that was in the index had a number; it still has, unless that one was taken from it.
  have hold : registry.byImsi.get? imsi = some found →
      (∃ teid', (registry.register teid id session).Binds teid' found) ∨
        registry.Binds teid found := by
    intro h
    obtain ⟨teid', hb⟩ := coherent.bound imsi found h
    by_cases ht : teid' = teid
    · exact .inr (ht ▸ hb)
    · exact .inl ⟨teid', (binds_register session).2 (by rwa [if_neg ht])⟩
  rcases byImsi_register teid id session registry with ⟨he, hk⟩ | ⟨entry, hp, hne, hb, he⟩
  · rw [he, get?_indexed]
    refine ⟨fun h => ⟨h, ?_⟩, And.left⟩
    split at h
    · rw [h]
      exact hnew
    · rcases hold h with hb | ⟨entry, hp, rfl⟩
      · exact hb
      · rcases hk entry hp with hs | hs
        · rw [hs]
          exact hnew
        · exact (isBound_eq_true hunique).1 hs
  · have hlost : ¬∃ teid', (registry.register teid id session).Binds teid' entry.session := by
      rw [← isBound_eq_true hunique, hb]
      simp
    rw [he, (unique_indexed coherent.imsis session).get?_filter, get?_indexed, bne_iff_ne]
    refine and_congr_right fun h => ⟨fun hf => ?_, fun hf => ?_⟩
    · split at h
      · rw [h]
        exact hnew
      · rcases hold h with hb | ⟨entry', hp', rfl⟩
        · exact hb
        · cases hp.symm.trans hp'
          exact absurd rfl hf
    · rintro rfl
      exact hlost hf

theorem coherent_register (coherent : registry.Coherent) (teid : UInt32) (id : SessionId)
    (session : Session) : (registry.register teid id session).Coherent where
  teids := by
    rw [byTeid_register]
    exact coherent.teids.insert ..
  imsis := by
    rcases byImsi_register teid id session registry with ⟨he, -⟩ | ⟨_, -, -, -, he⟩
    · rw [he]
      exact unique_indexed coherent.imsis session
    · rw [he]
      exact (unique_indexed coherent.imsis session).filter _
  bound _ _ h := ((get?_byImsi_register coherent session).1 h).2

/-! ## Removal -/

/-- No number is left to a session that was removed. -/
theorem not_binds_remove (registry : Registry) (id : SessionId) (teid : UInt32) :
    ¬(registry.remove id).Binds teid id := by
  rintro ⟨entry, he, rfl⟩
  obtain ⟨front, back, hentries, -⟩ := List.lookup_eq_some_iff.1 he
  have hm : (teid, entry) ∈ (registry.remove entry.session).byTeid.entries := by
    rw [hentries]
    exact List.mem_append_right _ List.mem_cons_self
  simp only [remove, dropImsis, Bindings.filter, List.mem_filter, bne_iff_ne] at hm
  exact hm.2 rfl

theorem get?_byTeid_remove (h : registry.byTeid.Unique) {entry : TeidEntry} :
    (registry.remove id).byTeid.get? teid = some entry ↔
      registry.byTeid.get? teid = some entry ∧ entry.session ≠ id := by
  simp only [remove, dropImsis, h.get?_filter, bne_iff_ne]

theorem get?_byImsi_remove (h : registry.byImsi.Unique) {found : SessionId} :
    (registry.remove id).byImsi.get? imsi = some found ↔
      registry.byImsi.get? imsi = some found ∧ found ≠ id := by
  simp only [remove, dropImsis, h.get?_filter, bne_iff_ne]

/-- Removing a session takes its numbers away and no others. -/
theorem binds_remove (h : registry.byTeid.Unique) {id' : SessionId} :
    (registry.remove id).Binds teid id' ↔ registry.Binds teid id' ∧ id' ≠ id := by
  simp only [Binds, get?_byTeid_remove h]
  constructor
  · rintro ⟨entry, ⟨he, hne⟩, rfl⟩
    exact ⟨⟨entry, he, rfl⟩, hne⟩
  · rintro ⟨⟨entry, he, rfl⟩, hne⟩
    exact ⟨entry, ⟨he, hne⟩, rfl⟩

theorem coherent_remove (coherent : registry.Coherent) (id : SessionId) :
    (registry.remove id).Coherent where
  teids := coherent.teids.filter _
  imsis := coherent.imsis.filter _
  bound imsi found h := by
    obtain ⟨hi, hne⟩ := (get?_byImsi_remove coherent.imsis).1 h
    obtain ⟨teid, hb⟩ := coherent.bound imsi found hi
    exact ⟨teid, (binds_remove coherent.teids).2 ⟨hb, hne⟩⟩

/-! ## The sessions of a registry -/

theorem nodup_eraseDups {α : Type} [DecidableEq α] (xs : List α) : xs.eraseDups.Nodup := by
  induction hn : xs.length using Nat.strong_induction_on generalizing xs with
  | _ n ih =>
    cases xs with
    | nil => simp
    | cons x xs =>
      rw [List.eraseDups_cons, List.nodup_cons]
      have hl : (xs.filter fun y => !y == x).length < n := by
        rw [← hn, List.length_cons]
        exact Nat.lt_succ_of_le (List.length_filter_le ..)
      refine ⟨?_, ih _ hl _ rfl⟩
      simp [List.mem_eraseDups]

theorem mem_sessions (coherent : registry.Coherent) :
    id ∈ registry.sessions ↔ ∃ teid, registry.Binds teid id := by
  have hnumbers : id ∈ registry.byTeid.values.map (·.session) ↔ ∃ teid, registry.Binds teid id := by
    rw [← isBound_eq_true coherent.teids]
    simp [isBound, List.any_eq_true]
  rw [sessions, List.mem_eraseDups, List.mem_append, hnumbers, or_iff_left_of_imp]
  intro h
  obtain ⟨⟨imsi, found⟩, hm, rfl⟩ := List.mem_map.1 h
  exact coherent.bound imsi found (coherent.imsis.get?_eq_some.2 hm)

/-- The registry counts the sessions that have a number. -/
theorem count_eq_ncard (coherent : registry.Coherent) :
    registry.count = {id | ∃ teid, registry.Binds teid id}.ncard := by
  have hset : {id | ∃ teid, registry.Binds teid id} = ↑registry.sessions.toFinset := by
    ext id
    simp [mem_sessions coherent]
  have hnodup : registry.sessions.Nodup := nodup_eraseDups _
  rw [hset, Set.ncard_coe_finset, List.toFinset_card_of_nodup hnodup, count]

private theorem finite_bound (coherent : registry.Coherent) :
    {id | ∃ teid, registry.Binds teid id}.Finite :=
  (List.finite_toSet registry.sessions).subset fun _ h => (mem_sessions coherent).2 h

/-- A session that gets its first number is counted. -/
theorem count_register (coherent : registry.Coherent) (free : teid ∉ registry.teids)
    (fresh : ∀ teid', ¬registry.Binds teid' id) (session : Session) :
    (registry.register teid id session).count = registry.count + 1 := by
  have hset : {found | ∃ teid', (registry.register teid id session).Binds teid' found} =
      insert id {found | ∃ teid', registry.Binds teid' found} := by
    ext found
    simp only [Set.mem_ofPred_eq, Set.mem_insert_iff, binds_register]
    constructor
    · rintro ⟨teid', hb⟩
      split at hb
      · exact .inl hb
      · exact .inr ⟨teid', hb⟩
    · rintro (rfl | ⟨teid', hb⟩)
      · exact ⟨teid, by rw [if_pos rfl]⟩
      · refine ⟨teid', ?_⟩
        -- The number was free, so it is not the one by which the session was found.
        have hne : teid' ≠ teid := by
          rintro rfl
          obtain ⟨entry, he, -⟩ := hb
          rw [Bindings.get?_eq_none.2 free] at he
          cases he
        rwa [if_neg hne]
  have hnew : id ∉ {found | ∃ teid', registry.Binds teid' found} := fun ⟨teid', hb⟩ => fresh teid' hb
  rw [count_eq_ncard (coherent_register coherent ..), hset,
    Set.ncard_insert_of_notMem hnew (finite_bound coherent), count_eq_ncard coherent]

/-- A session that had a number is not counted any more once it is removed. -/
theorem count_remove (coherent : registry.Coherent) (hb : registry.Binds teid id) :
    (registry.remove id).count + 1 = registry.count := by
  have hset : {found | ∃ teid', (registry.remove id).Binds teid' found} =
      {found | ∃ teid', registry.Binds teid' found} \ {id} := by
    ext found
    simp only [Set.mem_ofPred_eq, Set.mem_sdiff, Set.mem_singleton_iff, binds_remove coherent.teids,
      exists_and_right]
  have hmem : id ∈ {found | ∃ teid', registry.Binds teid' found} := ⟨teid, hb⟩
  rw [count_eq_ncard (coherent_remove coherent id), hset, count_eq_ncard coherent,
    Set.ncard_sdiff_singleton_add_one hmem (finite_bound coherent)]

/-! ## Registrations that are withdrawn -/

/-- What is left when a session has been registered under a number and removed again: the number and
the subscriber lead nowhere, and sessions that had no other number are not found by theirs. -/
structure Withdrawn (own : UInt32) (imsi : String) (before after : Registry) : Prop where
  numbers : ∀ teid entry, after.byTeid.get? teid = some entry ↔
    teid ≠ own ∧ before.byTeid.get? teid = some entry
  subscribers : ∀ imsi' id, after.lookupImsi imsi' = .ok id ↔
    before.lookupImsi imsi' = .ok id ∧ imsi' ≠ imsi ∧ ∃ teid, teid ≠ own ∧ before.Binds teid id
  /-- neither had led anywhere before -/
  untouched : own ∉ before.teids → before.byImsi.get? imsi = none → after = before

/-- A session without a number has no entry. -/
private theorem filter_of_unbound (coherent : registry.Coherent)
    (fresh : ∀ teid, ¬registry.Binds teid id) :
    registry.byTeid.entries.filter (fun entry => entry.2.session != id) = registry.byTeid.entries ∧
      registry.byImsi.entries.filter (fun entry => entry.2 != id) = registry.byImsi.entries := by
  constructor
  · refine List.filter_eq_self.2 fun entry hm => bne_iff_ne.2 ?_
    rintro rfl
    exact fresh entry.1 ⟨entry.2, coherent.teids.get?_eq_some.2 hm, rfl⟩
  · refine List.filter_eq_self.2 fun entry hm => bne_iff_ne.2 ?_
    rintro rfl
    obtain ⟨teid, hb⟩ := coherent.bound entry.1 entry.2 (coherent.imsis.get?_eq_some.2 hm)
    exact fresh teid hb

theorem withdrawn_register (coherent : registry.Coherent) (fresh : ∀ teid, ¬registry.Binds teid id)
    (own : UInt32) {session : Session} (hi : session.subscriber.imsi = some imsi) :
    Withdrawn own imsi registry ((registry.register own id session).remove id) := by
  have coherent' := coherent_register coherent own id session
  refine ⟨fun teid entry => ?_, fun imsi' found => ?_, fun hown hnone => ?_⟩
  · rw [get?_byTeid_remove coherent'.teids, get?_register]
    split
    · next he =>
      constructor
      · rintro ⟨⟨⟩, hne⟩
        exact absurd rfl hne
      · rintro ⟨hne, -⟩
        exact absurd he hne
    · next hne =>
      rw [and_comm (a := teid ≠ own)]
      refine and_congr_right fun he => ⟨fun _ => hne, fun _ => ?_⟩
      rintro rfl
      exact fresh teid ⟨entry, he, rfl⟩
  · rw [lookupImsi_eq_ok, lookupImsi_eq_ok, get?_byImsi_remove coherent'.imsis,
      get?_byImsi_register coherent, hi]
    constructor
    · rintro ⟨⟨hf, teid, hb⟩, hne⟩
      rw [binds_register] at hb
      split at hf
      · exact absurd hf hne
      · next hs =>
        split at hb
        · exact absurd hb hne
        · next ht => exact ⟨hf, fun h => hs (congrArg some h.symm), teid, ht, hb⟩
    · rintro ⟨hf, hs, teid, ht, hb⟩
      have hne : found ≠ id := by
        rintro rfl
        exact fresh teid hb
      refine ⟨⟨?_, teid, (binds_register session).2 ?_⟩, hne⟩
      · rwa [if_neg fun h => hs (Option.some.inj h).symm]
      · rwa [if_neg ht]
  · obtain ⟨hteids, himsis⟩ := filter_of_unbound coherent fresh
    have hkey : imsi ∉ registry.byImsi.keys := Bindings.get?_eq_none.1 hnone
    rw [register_eq, Bindings.get?_eq_none.2 hown]
    simp only [remove, dropImsis, enlisted, indexed, hi, Bindings.filter,
      Bindings.entries_insert hown, Bindings.entries_insert hkey, List.filter_append, hteids, himsis]
    simp

end Registry

namespace TeidPool
variable {inUse : UInt32 → Bool} {pool pool' : TeidPool} {teid : UInt32}

@[simp] theorem first_advance (pool : TeidPool) : pool.advance.first = pool.first := by
  unfold advance
  split <;> rfl

@[simp] theorem last_advance (pool : TeidPool) : pool.advance.last = pool.last := by
  unfold advance
  split <;> rfl

/-- A number that is given out is not in use, and in the range of the pool. -/
structure Draws (inUse : UInt32 → Bool) (pool : TeidPool) (teid : UInt32) (pool' : TeidPool) :
    Prop where
  free : inUse teid = false
  first_le : pool.first ≤ teid
  le_last : teid ≤ pool.last
  first : pool'.first = pool.first
  last : pool'.last = pool.last

theorem draws_search {n : Nat} (h : pool.search inUse n = some (teid, pool')) :
    Draws inUse pool teid pool' := by
  induction n generalizing pool with
  | zero => simp [search] at h
  | succ n ih =>
    rw [search] at h
    cases hu : inUse pool.next with
    | true =>
      rw [hu] at h
      obtain ⟨hfree, hfirst, hlast, hf, hl⟩ := ih h
      rw [first_advance] at hfirst hf
      rw [last_advance] at hlast hl
      exact ⟨hfree, hfirst, hlast, hf, hl⟩
    | false =>
      rw [hu] at h
      cases h
      exact ⟨hu, pool.first_le_next, pool.next_le_last, first_advance pool, last_advance pool⟩

theorem draws_allocate (h : pool.allocate inUse = some (teid, pool')) :
    Draws inUse pool teid pool' :=
  draws_search h

/-- A number that is drawn beside those of a list is none of them. -/
theorem Draws.notMem {teids : List UInt32} (draws : Draws teids.contains pool teid pool') :
    teid ∉ teids := by
  intro h
  have hfree := draws.free
  rw [List.contains_iff_mem.2 h] at hfree
  cases hfree

/-- No pool gives out zero. -/
theorem Draws.ne_zero (draws : Draws inUse pool teid pool') : teid ≠ 0 := by
  rintro rfl
  exact absurd (UInt32.lt_of_lt_of_le pool.first_pos draws.first_le) (UInt32.lt_irrefl 0)

end TeidPool
end GtpControl
