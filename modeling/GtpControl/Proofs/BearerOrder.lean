import GtpControl.Session.Negotiation
import GtpControl.Proofs.RegistryLaws

/-! # Bearers in their order: where one is put, found and taken out -/
namespace GtpControl

namespace Bindings
variable {κ α : Type} [DecidableEq κ] {key : κ} {front entries : List (κ × α)}

/-- The first entry of a key is overwritten where it stands. -/
theorem put_split (h : key ∉ front.map (·.1)) (old new : α) (back : List (κ × α)) :
    put key new (front ++ (key, old) :: back) = front ++ (key, new) :: back := by
  induction front with
  | nil => simp [put]
  | cons entry front ih =>
    rw [List.map_cons, List.mem_cons, not_or] at h
    have hne : ¬entry.1 = key := fun he => h.1 he.symm
    simp only [List.cons_append, put, if_neg hne, ih h.2]

theorem put_of_notMem (h : key ∉ entries.map (·.1)) (value : α) :
    put key value entries = entries ++ [(key, value)] := by
  have hnew : key ∉ (⟨entries⟩ : Bindings κ α).keys := h
  exact entries_insert hnew value

theorem exists_of_lookup_eq_some {value : α} (h : entries.lookup key = some value) :
    ∃ front back, entries = front ++ (key, value) :: back ∧ key ∉ front.map (·.1) := by
  obtain ⟨front, back, he, hfront⟩ := List.lookup_eq_some_iff.1 h
  refine ⟨front, back, he, fun hm => ?_⟩
  obtain ⟨entry, hentry, rfl⟩ := List.mem_map.1 hm
  exact absurd rfl (bne_iff_ne.1 (hfront entry hentry))

theorem notMem_of_lookup_eq_none (h : entries.lookup key = none) : key ∉ entries.map (·.1) := by
  have hnone : (⟨entries⟩ : Bindings κ α).get? key = none := h
  exact get?_eq_none.1 hnone

theorem nodup_put (h : (entries.map (·.1)).Nodup) (key : κ) (value : α) :
    ((put key value entries).map (·.1)).Nodup := by
  have unique : (⟨entries⟩ : Bindings κ α).Unique := h
  exact unique.insert key value

/-- Binds one key after the other. -/
def insertAll (entries : List (κ × α)) (bindings : Bindings κ α) : Bindings κ α :=
  entries.foldl (fun bindings (key, value) => bindings.insert key value) bindings

end Bindings

/-- A bearer under the name of its identity. -/
def Bearer.named (bearer : Bearer) : String × Bearer := (Session.bearerName bearer.ebi, bearer)

namespace Session
variable {session : Session} {name : String}

theorem bearers_setBearer (name : String) (bearer : Bearer) (session : Session) :
    (session.setBearer name bearer).bearers = Bindings.put name bearer session.bearers := by
  by_cases h : name = defaultName
  · subst h
    simp [setBearer, bearers, Bindings.put]
  · have hne : ¬defaultName = name := fun he => h he.symm
    simp [setBearer, bearers, Bindings.put, Bindings.insert, h, hne]

theorem bearer?_eq_lookup (name : String) (session : Session) :
    session.bearer? name = session.bearers.lookup name := by
  by_cases h : name = defaultName
  · subst h
    simp [bearer?, bearers]
  · have hb : (name == defaultName) = false := beq_eq_false_iff_ne.2 h
    rw [bearer?, if_neg h, bearers, List.lookup_cons, hb]
    rfl

theorem bearers_removeBearer (h : name ≠ defaultName) :
    (session.removeBearer name).2.bearers = session.bearers.eraseP (·.1 = name) := by
  have hne : ¬defaultName = name := fun he => h he.symm
  simp [removeBearer, bearers, Bindings.erase, h, hne]

/-- Bearers with different identities have different names. -/
theorem bearerName_inj {ebi ebi' : UInt8} : bearerName ebi = bearerName ebi' ↔ ebi = ebi' := by
  refine ⟨fun h => ?_, congrArg _⟩
  have hdigits : Nat.toDigits 10 ebi.toNat = Nat.toDigits 10 ebi'.toNat := by
    have htoList : ∀ n : UInt8, (toString n).toList = Nat.toDigits 10 n.toNat := fun _ =>
      String.toList_ofList
    have h := congrArg String.toList ((String.append_right_inj _).1 h)
    rwa [htoList, htoList] at h
  have hread := congrArg (Nat.ofDigitChars 10 · 0) hdigits
  simp only [Nat.ofDigitChars_toDigits (by decide : 1 < 10) (by decide)] at hread
  exact UInt8.toNat_inj.1 hread

/-- No name and no interface is used twice. -/
structure Tidy (session : Session) : Prop where
  names : (session.bearers.map (·.1)).Nodup
  interfaces : session.teids.Unique

theorem Tidy.setBearer (tidy : session.Tidy) (name : String) (bearer : Bearer) :
    (session.setBearer name bearer).Tidy where
  names := by
    rw [bearers_setBearer]
    exact Bindings.nodup_put tidy.names name bearer
  interfaces := by
    rw [Session.setBearer]
    split <;> exact tidy.interfaces

/-- A bearer that is there is exchanged in its place. -/
theorem Tidy.bearers_setBearer (tidy : session.Tidy) {front back : List (String × Bearer)}
    {old : Bearer} (h : session.bearers = front ++ (name, old) :: back) (new : Bearer) :
    (session.setBearer name new).bearers = front ++ (name, new) :: back := by
  have hnames : (front.map (·.1) ++ name :: back.map (·.1)).Nodup := by
    simpa [h] using tidy.names
  have hfront : name ∉ front.map (·.1) := fun hm =>
    (List.nodup_append.1 hnames).2.2 name hm name List.mem_cons_self rfl
  rw [Session.bearers_setBearer, h, Bindings.put_split hfront]

theorem Tidy.setTeid (tidy : session.Tidy) (interface : UInt8) (teid : UInt32) :
    (session.setTeid interface teid).Tidy :=
  ⟨tidy.names, tidy.interfaces.insert interface teid⟩

theorem Tidy.removeBearer (tidy : session.Tidy) (name : String) :
    (session.removeBearer name).2.Tidy := by
  by_cases h : name = defaultName
  · rwa [Session.removeBearer, if_pos h]
  · refine ⟨?_, ?_⟩
    · rw [bearers_removeBearer h]
      exact tidy.names.sublist (List.eraseP_sublist.map _)
    · rw [Session.removeBearer, if_neg h]
      exact tidy.interfaces

end Session
end GtpControl
