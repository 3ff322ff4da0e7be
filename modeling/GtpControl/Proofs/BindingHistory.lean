import GtpControl.Proofs.CallSlots
import GtpControl.Proofs.SessionLife

/-! # Histories of bindings: what any changes lead to, and in which order

Bindings stand in a plain list that is changed in place. What a key is bound to, and where it stands, is
said by the changes alone: the last change to a key decides what it is bound to, and the keys stand in
the order in which they came. -/
namespace GtpControl

namespace Bindings

/-- A list that ends with an entry is taken apart at this entry or before it. -/
theorem concat_eq_append_cons {β : Type} {xs front back : List β} {x y : β} :
    xs ++ [x] = front ++ y :: back ↔
      (front = xs ∧ y = x ∧ back = []) ∨ ∃ back', back = back' ++ [x] ∧ xs = front ++ y :: back' := by
  constructor
  · intro h
    rcases List.eq_nil_or_concat back with rfl | ⟨back, z, rfl⟩
    · obtain ⟨hfront, hx⟩ := List.append_inj' h rfl
      exact .inl ⟨hfront.symm, (List.singleton_inj.1 hx).symm, rfl⟩
    · rw [List.concat_eq_append, ← List.cons_append, ← List.append_assoc] at h
      obtain ⟨rfl, hx⟩ := List.append_inj' h rfl
      exact .inr ⟨back, List.singleton_inj.1 hx ▸ List.concat_eq_append, rfl⟩
  · rintro (⟨rfl, rfl, rfl⟩ | ⟨back, rfl, rfl⟩)
    · rfl
    · rw [List.append_assoc, List.cons_append]

/-! ## Histories -/

inductive Change (κ α : Type) where
  | insert (key : κ) (value : α)
  | remove (key : κ)
deriving DecidableEq

def Change.key {κ α : Type} : Change κ α → κ
  | .insert key _ => key
  | .remove key => key

variable {κ α : Type} {changes : List (Change κ α)} {change : Change κ α} {key other : κ} {value : α}
  {time later : Nat}

/-- The last change to the key is that it is inserted with the value. -/
def Bound (changes : List (Change κ α)) (key : κ) (value : α) : Prop :=
  ∃ before since, changes = before ++ .insert key value :: since ∧
    ∀ change ∈ since, change.key ≠ key

/-- At the time, the key is inserted when it is not bound, and it is not removed any more. -/
def Arrives (changes : List (Change κ α)) (key : κ) (time : Nat) : Prop :=
  ∃ before value since, changes = before ++ .insert key value :: since ∧ before.length = time ∧
    (∀ old, ¬Bound before key old) ∧ .remove key ∉ since

/-- The first key came before the second one. -/
def Earlier (changes : List (Change κ α)) (key other : κ) : Prop :=
  ∃ time later, Arrives changes key time ∧ Arrives changes other later ∧ time < later

theorem not_bound_nil : ¬Bound ([] : List (Change κ α)) key value := by
  rintro ⟨before, since, he, -⟩
  exact absurd he.symm (List.append_ne_nil_of_right_ne_nil before (List.cons_ne_nil _ _))

theorem not_arrives_nil : ¬Arrives ([] : List (Change κ α)) key time := by
  rintro ⟨before, value, since, he, -⟩
  exact absurd he.symm (List.append_ne_nil_of_right_ne_nil before (List.cons_ne_nil _ _))

/-- A change decides about its own key and about no other. -/
theorem bound_concat :
    Bound (changes ++ [change]) key value ↔
      change = .insert key value ∨ change.key ≠ key ∧ Bound changes key value := by
  simp only [Bound, concat_eq_append_cons]
  constructor
  · rintro ⟨before, since, ⟨rfl, rfl, rfl⟩ | ⟨since, rfl, rfl⟩, hsince⟩
    · exact .inl rfl
    · rw [List.forall_mem_append, List.forall_mem_singleton] at hsince
      exact .inr ⟨hsince.2, before, since, rfl, hsince.1⟩
  · rintro (rfl | ⟨hne, before, since, rfl, hsince⟩)
    · exact ⟨changes, [], .inl ⟨rfl, rfl, rfl⟩, List.forall_mem_nil _⟩
    · refine ⟨before, since ++ [change], .inr ⟨since, rfl, rfl⟩, ?_⟩
      rw [List.forall_mem_append, List.forall_mem_singleton]
      exact ⟨hsince, hne⟩

/-- A key that is not bound comes when it is inserted, and one that has come stays until it is removed. -/
theorem arrives_concat :
    Arrives (changes ++ [change]) key time ↔
      (time = changes.length ∧ (∃ value, change = .insert key value) ∧ ∀ old, ¬Bound changes key old) ∨
        change ≠ .remove key ∧ Arrives changes key time := by
  simp only [Arrives, concat_eq_append_cons]
  constructor
  · rintro ⟨before, value, since, ⟨rfl, rfl, rfl⟩ | ⟨since, rfl, rfl⟩, rfl, habsent, hsince⟩
    · exact .inl ⟨rfl, ⟨value, rfl⟩, habsent⟩
    · rw [List.mem_append, List.mem_singleton, not_or] at hsince
      exact .inr ⟨Ne.symm hsince.2, before, value, since, rfl, rfl, habsent, hsince.1⟩
  · rintro (⟨rfl, ⟨value, rfl⟩, habsent⟩ | ⟨hne, before, value, since, rfl, rfl, habsent, hsince⟩)
    · exact ⟨changes, value, [], .inl ⟨rfl, rfl, rfl⟩, rfl, habsent, List.not_mem_nil⟩
    · refine ⟨before, value, since ++ [change], .inr ⟨since, rfl, rfl⟩, rfl, habsent, ?_⟩
      rw [List.mem_append, List.mem_singleton, not_or]
      exact ⟨hsince, Ne.symm hne⟩

theorem Arrives.lt_length (h : Arrives changes key time) : time < changes.length := by
  obtain ⟨before, value, since, rfl, rfl, -⟩ := h
  simp

/-- A key that has come is bound. -/
theorem Arrives.bound (h : Arrives changes key time) : ∃ value, Bound changes key value := by
  induction changes using List.reverseRecOn generalizing time with
  | nil => exact absurd h not_arrives_nil
  | append_singleton changes change ih =>
    rcases arrives_concat.1 h with ⟨-, ⟨value, rfl⟩, -⟩ | ⟨hne, h⟩
    · exact ⟨value, bound_concat.2 (.inl rfl)⟩
    · obtain ⟨value, hb⟩ := ih h
      by_cases hk : change.key = key
      · cases change with
        | insert bound new => exact ⟨new, bound_concat.2 (.inl (hk ▸ rfl))⟩
        | remove gone => exact absurd (hk ▸ rfl) hne
      · exact ⟨value, bound_concat.2 (.inr ⟨hk, hb⟩)⟩

/-- A key that is bound has come. -/
theorem Bound.arrives (h : Bound changes key value) : ∃ time, Arrives changes key time := by
  induction changes using List.reverseRecOn generalizing value with
  | nil => exact absurd h not_bound_nil
  | append_singleton changes change ih =>
    rcases bound_concat.1 h with rfl | ⟨hne, h⟩
    · by_cases hold : ∃ old, Bound changes key old
      · obtain ⟨old, hold⟩ := hold
        obtain ⟨time, ha⟩ := ih hold
        exact ⟨time, arrives_concat.2 (.inr ⟨by simp, ha⟩)⟩
      · exact ⟨_, arrives_concat.2 (.inl ⟨rfl, ⟨value, rfl⟩, not_exists.1 hold⟩)⟩
    · obtain ⟨time, ha⟩ := ih h
      exact ⟨time, arrives_concat.2 (.inr ⟨fun he => hne (he ▸ rfl), ha⟩)⟩

/-- There is one time only at which a key has come. -/
theorem Arrives.time_eq (h : Arrives changes key time) (h' : Arrives changes key later) :
    time = later := by
  induction changes using List.reverseRecOn with
  | nil => exact absurd h not_arrives_nil
  | append_singleton changes change ih =>
    rcases arrives_concat.1 h with ⟨rfl, -, habsent⟩ | ⟨-, h⟩ <;>
      rcases arrives_concat.1 h' with ⟨rfl, -, habsent'⟩ | ⟨-, h'⟩
    · rfl
    · obtain ⟨value, hb⟩ := h'.bound
      exact absurd hb (habsent value)
    · obtain ⟨value, hb⟩ := h.bound
      exact absurd hb (habsent' value)
    · exact ih h h'

/-- The order of two keys stays until one of them is removed. -/
theorem Earlier.concat (h : Earlier changes key other) (hkey : change ≠ .remove key)
    (hother : change ≠ .remove other) : Earlier (changes ++ [change]) key other := by
  obtain ⟨time, later, ha, ha', hlt⟩ := h
  exact ⟨time, later, arrives_concat.2 (.inr ⟨hkey, ha⟩), arrives_concat.2 (.inr ⟨hother, ha'⟩), hlt⟩

/-! ## Lists that are changed in place -/

variable [DecidableEq κ]

/-- Changes a list at the place of the key, or after all others; the answer is the value that was
there. -/
def Change.perform : Change κ α → Bindings κ α → Option α × Bindings κ α
  | .insert key value, ⟨entries⟩ =>
    match entries.findIdx? (·.1 = key) with
    | some place =>
      (entries[place]?.map (·.2), ⟨entries.modify place fun entry => (entry.1, value)⟩)
    | none => (none, ⟨entries ++ [(key, value)]⟩)
  | .remove key, ⟨entries⟩ =>
    match entries.findIdx? (·.1 = key) with
    | some place => (entries[place]?.map (·.2), ⟨entries.eraseIdx place⟩)
    | none => (none, ⟨entries⟩)

/-- What the changes lead to, one after the other. -/
def after (changes : List (Change κ α)) : Bindings κ α :=
  changes.foldl (fun bindings change => (change.perform bindings).2) {}

theorem bind_findIdx? (key : κ) (entries : List (κ × α)) :
    ((entries.findIdx? (·.1 = key)).bind fun place => entries[place]?.map (·.2)) =
      entries.lookup key := by
  induction entries with
  | nil => rfl
  | cons entry entries ih =>
    obtain ⟨bound, value⟩ := entry
    rw [List.findIdx?_cons, List.lookup_cons]
    by_cases h : bound = key
    · simp [h]
    · have hb : (key == bound) = false := beq_eq_false_iff_ne.2 (Ne.symm h)
      simp [h, hb, ← ih, Option.bind_map]

/-- The answer to a change is what the key was bound to. -/
theorem perform_insert (key : κ) (value : α) (bindings : Bindings κ α) :
    (Change.insert key value).perform bindings = (bindings.get? key, bindings.insert key value) := by
  obtain ⟨entries⟩ := bindings
  rw [Change.perform, get?, ← bind_findIdx?, Bindings.insert, ← Roster.upsert_eq_put, Roster.upsert]
  dsimp only
  cases entries.findIdx? (·.1 = key) <;> rfl

theorem perform_remove (key : κ) (bindings : Bindings κ α) :
    (Change.remove key).perform bindings = (bindings.get? key, bindings.erase key) := by
  obtain ⟨entries⟩ := bindings
  rw [Change.perform, get?, ← bind_findIdx?, erase, List.eraseP_eq_eraseIdx]
  dsimp only
  cases entries.findIdx? (·.1 = key) <;> rfl

theorem after_insert (changes : List (Change κ α)) (key : κ) (value : α) :
    after (changes ++ [.insert key value]) = (after changes).insert key value := by
  rw [after, List.foldl_concat, ← after, perform_insert]

theorem after_remove (changes : List (Change κ α)) (key : κ) :
    after (changes ++ [.remove key]) = (after changes).erase key := by
  rw [after, List.foldl_concat, ← after, perform_remove]

/-! ## What histories lead to -/

theorem unique_after (changes : List (Change κ α)) : (after changes).Unique := by
  induction changes using List.reverseRecOn with
  | nil => exact unique_empty
  | append_singleton changes change ih =>
    cases change with
    | insert key value => exact after_insert changes key value ▸ ih.insert key value
    | remove key => exact after_remove changes key ▸ ih.erase key

/-- The last change to a key decides. -/
theorem get?_after : (after changes).get? key = some value ↔ Bound changes key value := by
  induction changes using List.reverseRecOn generalizing value with
  | nil => exact iff_of_false (by simp [after, get?]) not_bound_nil
  | append_singleton changes change ih =>
    rw [bound_concat]
    cases change with
    | insert bound new =>
      rw [after_insert, get?_insert]
      by_cases hk : key = bound
      · subst hk
        simp [Change.key, eq_comm]
      · have hne : bound ≠ key := Ne.symm hk
        simp [Change.key, hk, hne, ih]
    | remove gone =>
      rw [after_remove, (unique_after changes).get?_erase]
      by_cases hk : key = gone
      · simp [Change.key, hk]
      · have hne : gone ≠ key := Ne.symm hk
        simp [Change.key, hk, hne, ih]

theorem mem_keys_after : key ∈ (after changes).keys ↔ ∃ value, Bound changes key value := by
  simp only [← get?_after, ← Option.ne_none_iff_exists', ne_eq, get?_eq_none, not_not]

theorem mem_entries_after : (key, value) ∈ (after changes).entries ↔ Bound changes key value := by
  rw [← (unique_after changes).get?_eq_some, get?_after]

/-- The keys stand in the order in which they came. -/
theorem pairwise_after (changes : List (Change κ α)) :
    (after changes).keys.Pairwise (Earlier changes) := by
  induction changes using List.reverseRecOn with
  | nil => exact List.Pairwise.nil
  | append_singleton changes change ih =>
    cases change with
    | insert key value =>
      have hkept : (after changes).keys.Pairwise (Earlier (changes ++ [.insert key value])) :=
        ih.imp fun h => h.concat (by simp) (by simp)
      rw [after_insert, keys, Bindings.insert, keys_put, ← keys]
      split
      · exact hkept
      · next hnew =>
        refine List.pairwise_append.2 ⟨hkept, List.pairwise_singleton _ _, fun old hold k hk => ?_⟩
        rw [List.mem_singleton.1 hk]
        obtain ⟨bound, hbound⟩ := mem_keys_after.1 hold
        obtain ⟨time, ha⟩ := hbound.arrives
        have habsent : ∀ value, ¬Bound changes key value := fun value hb =>
          hnew (mem_keys_after.2 ⟨value, hb⟩)
        exact ⟨time, changes.length, arrives_concat.2 (.inr ⟨by simp, ha⟩),
          arrives_concat.2 (.inl ⟨rfl, ⟨value, rfl⟩, habsent⟩), ha.lt_length⟩
    | remove key =>
      have hgone : key ∉ ((after changes).erase key).keys := by
        rw [← get?_eq_none, (unique_after changes).get?_erase, if_pos rfl]
      have hsublist : ((after changes).erase key).keys.Sublist (after changes).keys :=
        List.eraseP_sublist.map _
      rw [after_remove]
      refine (ih.sublist hsublist).imp_of_mem fun hk hother h => h.concat ?_ ?_
      · rintro ⟨⟩
        exact hgone hk
      · rintro ⟨⟩
        exact hgone hother

/-- After any changes, no key is bound twice; what a key is bound to is what it was last inserted with, if
it has not been removed since; the answer to a change is what the key was bound to before; and the keys
that are bound stand in the order in which they came. -/
theorem bindings_of_history (changes : List (Change κ α)) :
    let bindings := after changes
    bindings.keys.Nodup ∧
    (∀ key value, bindings.get? key = some value ↔ Bound changes key value) ∧
    (∀ key value, (Change.insert key value).perform bindings =
      (bindings.get? key, bindings.insert key value)) ∧
    (∀ key, (Change.remove key).perform bindings = (bindings.get? key, bindings.erase key)) ∧
    (∀ key value, (key, value) ∈ bindings.entries ↔ Bound changes key value) ∧
    (∀ key, (∃ value, Bound changes key value) ↔ ∃! time, Arrives changes key time) ∧
    bindings.keys.Pairwise (Earlier changes) := by
  refine ⟨unique_after changes, fun _ _ => get?_after, fun key value => perform_insert key value _,
    fun key => perform_remove key _, fun _ _ => mem_entries_after, fun key => ⟨?_, ?_⟩,
    pairwise_after changes⟩
  · rintro ⟨value, hbound⟩
    obtain ⟨time, ha⟩ := hbound.arrives
    exact ⟨time, ha, fun later ha' => ha'.time_eq ha⟩
  · rintro ⟨time, ha, -⟩
    exact ha.bound

/-- A key that is bound again keeps its place, and one that was removed loses it. -/
example :
    (after [.insert 10 100, .insert 7 70, .insert 10 101] : TeidMap).entries = [(10, 101), (7, 70)] ∧
      (after [.insert 10 100, .insert 7 70, .remove 10, .insert 10 101] : TeidMap).entries =
        [(7, 70), (10, 101)] := by decide

/-! ## The first key besides another one -/

variable {avoided : κ}

/-- The first entry of another key than the one to avoid is that of the other key that came first. -/
theorem first_of_find?_after
    (h : (after changes).entries.find? (·.1 ≠ avoided) = some (key, value)) :
    key ≠ avoided ∧ Bound changes key value ∧
      ∀ other old, other ≠ avoided → other ≠ key → Bound changes other old →
        Earlier changes key other := by
  have hbound := mem_entries_after.1 (List.mem_of_find?_eq_some h)
  obtain ⟨hne, front, back, he, hfront⟩ := List.find?_eq_some_iff_append.1 h
  refine ⟨by simpa using hne, hbound, fun other old havoid hother ho => ?_⟩
  have hpairs := pairwise_after changes
  have hm := mem_entries_after.2 ho
  rw [keys, he, List.map_append, List.map_cons] at hpairs
  rw [he, List.mem_append, List.mem_cons] at hm
  rcases hm with hm | hm | hm
  · exact absurd (hfront _ hm) (by simpa using havoid)
  · exact absurd (congrArg Prod.fst hm) hother
  · have hbehind := (List.pairwise_cons.1 (List.pairwise_append.1 hpairs).2.1).1
    exact hbehind other (List.mem_map_of_mem hm)

theorem find?_after :
    (after changes).entries.find? (·.1 ≠ avoided) = some (key, value) ↔
      key ≠ avoided ∧ Bound changes key value ∧
        ∀ other old, other ≠ avoided → other ≠ key → Bound changes other old →
          Earlier changes key other := by
  refine ⟨first_of_find?_after, fun ⟨hne, hbound, hfirst⟩ => ?_⟩
  cases hf : (after changes).entries.find? (·.1 ≠ avoided) with
  | none =>
    have hlocal := List.find?_eq_none.1 hf _ (mem_entries_after.2 hbound)
    exact absurd hne (by simpa using hlocal)
  | some entry =>
    obtain ⟨found, old⟩ := entry
    obtain ⟨hne', hbound', hfirst'⟩ := first_of_find?_after hf
    have hkey : found = key := by
      by_contra hk
      obtain ⟨time, later, hfound, hkey, hlt⟩ := hfirst' key value hne (Ne.symm hk) hbound
      obtain ⟨later', time', hkey', hfound', hlt'⟩ := hfirst found old hne' hk hbound'
      rw [hkey.time_eq hkey', hfound.time_eq hfound'] at hlt
      exact Nat.lt_asymm hlt hlt'
    subst hkey
    have hvalue := (get?_after.2 hbound').symm.trans (get?_after.2 hbound)
    rw [Option.some.inj hvalue]

end Bindings

namespace Session

/-- The peer's end point is the one on the interface that came first besides our own. -/
theorem remoteTeid_of_history {session : Session} {changes : List (Bindings.Change UInt8 UInt32)}
    {localInterface : UInt8} {teid : UInt32} (h : session.teids = Bindings.after changes) :
    session.remoteTeid localInterface = .ok teid ↔
      ∃ interface, interface ≠ localInterface ∧ Bindings.Bound changes interface teid ∧
        ∀ other old, other ≠ localInterface → other ≠ interface → Bindings.Bound changes other old →
          Bindings.Earlier changes interface other := by
  have hfound : session.remoteTeid localInterface = .ok teid ↔
      ∃ interface, session.teids.entries.find? (·.1 ≠ localInterface) = some (interface, teid) := by
    rw [remoteTeid]
    cases session.teids.entries.find? (·.1 ≠ localInterface) with
    | none => simp
    | some entry => simp [Prod.ext_iff]
  simp only [hfound, h, Bindings.find?_after]

end Session
end GtpControl
