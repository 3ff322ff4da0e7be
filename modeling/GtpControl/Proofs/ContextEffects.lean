import GtpControl.Proofs.Modification
import GtpControl.Proofs.RequestedBearers

/-! # Contexts that are applied: each touches the bearer with its identity only

A bearer is found by its identity and added under a name. That nothing is overwritten rests on the
names: they say which identity a bearer has. -/
namespace GtpControl
open Catalog.V2 Element

/-! ## The identity of a bearer that is filled -/
namespace Bearer
open Edit

private theorem preserves_ebi_bindFteid (fteid : Element) : Preserves ebi (bindFteid fteid) :=
  (preserves_lift _).bind fun _ => (preserves_lift _).bind fun _ => preserves_modify fun _ => rfl

/-- However far the reading of a context comes, the bearer has its identity. -/
theorem ebi_run_fill {context : Element} {ebi : UInt8} (h : identity context = .ok ebi)
    (bearer : Bearer) : ((fill context).run bearer).2.ebi = ebi := by
  obtain ⟨child, hchild, hebi⟩ := bind_eq_ok.1 h
  have hfteids := preserves_forM preserves_ebi_bindFteid
    (context.children.filter (·.type == Code.fteid))
  rw [fill, hchild]
  dsimp only
  rw [run_bind, run_lift, hebi]
  dsimp only
  rw [run_bind, run_modify]
  refine (?_ : Preserves Bearer.ebi _) { bearer with ebi }
  exact preserves_optional (fun _ _ => rfl) (preserves_optional (fun _ _ => rfl) hfteids)

theorem ebi_filled {context : Element} {ebi : UInt8} (h : identity context = .ok ebi)
    {bearer bearer' : Bearer} (hf : filled context bearer = .ok bearer') : bearer'.ebi = ebi := by
  have hebi := ebi_run_fill h bearer
  rw [filled] at hf
  split at hf
  · next he =>
    cases hf
    rwa [he] at hebi
  · cases hf

end Bearer

namespace Session
variable {session next : Session} {context : Element}

/-! ## Names that say which identity a bearer has -/

/-- Bearers other than the default one have the names of their identities. -/
structure Labelled (session : Session) : Prop where
  names : ∀ entry ∈ session.dedicated.entries, entry.1 = bearerName entry.2.ebi
  tidy : session.Tidy

theorem Labelled.name_cases (labelled : session.Labelled) {name : String} {bearer : Bearer}
    (h : (name, bearer) ∈ session.bearers) :
    name = defaultName ∨ name = bearerName bearer.ebi := by
  rcases List.mem_cons.1 h with h | h
  · exact .inl (congrArg Prod.fst h)
  · exact .inr (labelled.names _ h)

theorem Labelled.ebi_eq (labelled : session.Labelled) {ebi : UInt8} {bearer : Bearer}
    (h : (bearerName ebi, bearer) ∈ session.bearers) : bearer.ebi = ebi := by
  rcases labelled.name_cases h with h | h
  · exact absurd h (bearerName_ne_default ebi)
  · exact (bearerName_inj.1 h).symm

theorem Labelled.setBearer (labelled : session.Labelled) {name : String} {bearer : Bearer}
    (h : name = defaultName ∨ name = bearerName bearer.ebi) :
    (session.setBearer name bearer).Labelled := by
  refine ⟨fun entry hm => ?_, labelled.tidy.setBearer name bearer⟩
  rw [Session.setBearer] at hm
  split at hm
  · exact labelled.names entry hm
  · next hne =>
    rcases Bindings.mem_put hm with rfl | hm
    · exact h.resolve_left hne
    · exact labelled.names entry hm

theorem labelled_ofRequest {peer : SocketAddress} {request : Message}
    (h : ofRequest peer request = .ok session) : session.Labelled := by
  obtain ⟨_, _, own, added, -, -, -, rfl⟩ := described_ofRequest h
  obtain ⟨kept, -, hentries⟩ := Bearer.exists_kept added
  have hnames : ∀ entry ∈
      (({} : Bindings String Bearer).insertAll (added.map Bearer.named)).entries,
        entry.1 = bearerName entry.2.ebi := by
    intro entry hm
    rw [hentries] at hm
    obtain ⟨bearer, -, rfl⟩ := List.mem_map.1 hm
    rfl
  refine ⟨hnames, List.nodup_cons.2 ⟨fun hm => ?_, Bindings.unique_insertAll _⟩,
    Bindings.unique_empty⟩
  obtain ⟨entry, hentry, he⟩ := List.mem_map.1 hm
  exact bearerName_ne_default _ ((hnames entry hentry).symm.trans he)

/-! ## What a context changes -/

/-- Bearers before and after a context has been applied that is for one identity. -/
inductive Applied (context : Element) (ebi : UInt8) (bearers : List (String × Bearer)) :
    List (String × Bearer) → Prop
  /-- the first bearer with the identity has changed in its place -/
  | changed {front back : List (String × Bearer)} {name : String} {old new : Bearer}
    (split : bearers = front ++ (name, old) :: back)
    (first : ∀ entry ∈ front, entry.2.ebi ≠ ebi) (before : old.ebi = ebi)
    (filled : (Bearer.fill context).run old = (.ok (), new)) (after : new.ebi = ebi) :
    Applied context ebi bearers (front ++ (name, new) :: back)
  /-- no bearer had the identity, and one that has it stands at the end -/
  | added {new : Bearer} (unknown : ∀ entry ∈ bearers, entry.2.ebi ≠ ebi)
    (filled : Bearer.filled context {} = .ok new) (after : new.ebi = ebi) :
    Applied context ebi bearers (bearers ++ [(bearerName ebi, new)])

section
variable {ebi : UInt8} {before after : List (String × Bearer)}

theorem Applied.others (h : Applied context ebi before after) :
    after.filter (·.2.ebi ≠ ebi) = before.filter (·.2.ebi ≠ ebi) := by
  cases h with
  | changed hsplit _ hold _ hnew => simp [hsplit, hold, hnew]
  | added _ _ hnew => simp [hnew]

theorem Applied.names (h : Applied context ebi before after) :
    before.map (·.1) <+: after.map (·.1) := by
  cases h with
  | changed hsplit => simp [hsplit]
  | added => simp

theorem Applied.length_iff (h : Applied context ebi before after) :
    after.length = before.length + 1 ↔ ∀ entry ∈ before, entry.2.ebi ≠ ebi := by
  cases h with
  | @changed front back name old _ hsplit _ hold =>
    have hmem : (name, old) ∈ before := by
      rw [hsplit]
      exact List.mem_append_right _ List.mem_cons_self
    exact iff_of_false (by simp [hsplit]) fun hunknown => hunknown _ hmem hold
  | added hunknown => simpa using hunknown

end

/-- The ways in which the application of a context can go. -/
private theorem applyContext_cases (context : Element) (session : Session) :
    (∃ e, Bearer.identity context = .error e ∧
      (applyContext context).run session = (.error e, session)) ∨
    ∃ ebi, Bearer.identity context = .ok ebi ∧
      ((∃ name old, session.bearerWithEbi? ebi = some (name, old) ∧
          (applyContext context).run session = (((Bearer.fill context).run old).1,
            session.setBearer name ((Bearer.fill context).run old).2)) ∨
        session.bearerWithEbi? ebi = none ∧
          ((∃ e, Bearer.filled context {} = .error e ∧
              (applyContext context).run session = (.error e, session)) ∨
            ∃ new, Bearer.filled context {} = .ok new ∧
              (applyContext context).run session =
                (.ok (), session.setBearer (bearerName ebi) new))) := by
  rw [applyContext_eq, Edit.run_bind, Edit.run_lift]
  cases hi : Bearer.identity context with
  | error e => exact .inl ⟨e, rfl, rfl⟩
  | ok ebi =>
    refine .inr ⟨ebi, rfl, ?_⟩
    dsimp only
    rw [Edit.run_bind, Edit.run_get]
    dsimp only
    cases hb : session.bearerWithEbi? ebi with
    | some found =>
      obtain ⟨name, old⟩ := found
      exact .inl ⟨name, old, rfl, Edit.run_within ..⟩
    | none =>
      refine .inr ⟨rfl, ?_⟩
      dsimp only
      rw [Edit.run_bind, Edit.run_lift]
      cases hf : Bearer.filled context {} with
      | error e => exact .inl ⟨e, rfl, rfl⟩
      | ok new => exact .inr ⟨new, rfl, rfl⟩

/-- A bearer that is found has a name that says its identity, unless it is the default one. -/
private theorem Labelled.found_cases (labelled : session.Labelled) {ebi : UInt8} {name : String}
    {old : Bearer} (h : session.bearerWithEbi? ebi = some (name, old)) :
    name = defaultName ∨ name = bearerName ebi := by
  have hebi : old.ebi = ebi := by simpa using List.find?_some h
  exact hebi ▸ labelled.name_cases (List.mem_of_find?_eq_some h)

theorem Labelled.applyContext (labelled : session.Labelled) (context : Element) :
    ((applyContext context).run session).2.Labelled := by
  obtain ⟨e, -, h⟩ | ⟨ebi, hi, ⟨name, old, hb, h⟩ | ⟨-, ⟨e, -, h⟩ | ⟨new, hf, h⟩⟩⟩ :=
    applyContext_cases context session
  · rwa [h]
  · rw [h]
    refine labelled.setBearer ?_
    rw [Bearer.ebi_run_fill hi]
    exact labelled.found_cases hb
  · rwa [h]
  · rw [h]
    exact labelled.setBearer (.inr (by rw [Bearer.ebi_filled hi hf]))

/-- A context that is applied changes the first bearer with its identity, or adds one. -/
theorem Labelled.applied (labelled : session.Labelled)
    (h : (Session.applyContext context).run session = (.ok (), next)) :
    ∃ ebi, Bearer.identity context = .ok ebi ∧ next.unmodified = session.unmodified ∧
      Applied context ebi session.bearers next.bearers := by
  obtain ⟨e, -, hrun⟩ | ⟨ebi, hi, hcases⟩ := applyContext_cases context session
  · rw [hrun] at h
    cases h
  · refine ⟨ebi, hi, ?_⟩
    obtain ⟨name, old, hb, hrun⟩ | ⟨hb, ⟨e, -, hrun⟩ | ⟨new, hf, hrun⟩⟩ := hcases
    · rw [hrun] at h
      obtain ⟨hok, rfl⟩ := Prod.mk.inj h
      obtain ⟨hp, front, back, hsplit, hfront⟩ := List.find?_eq_some_iff_append.1 hb
      refine ⟨unmodified_setBearer .., ?_⟩
      rw [labelled.tidy.bearers_setBearer hsplit]
      exact .changed hsplit (by simpa using hfront) (by simpa using hp) (Prod.ext hok rfl)
        (Bearer.ebi_run_fill hi old)
    · rw [hrun] at h
      cases h
    · rw [hrun] at h
      obtain ⟨-, rfl⟩ := Prod.mk.inj h
      have hunknown : ∀ entry ∈ session.bearers, entry.2.ebi ≠ ebi := by
        simpa using List.find?_eq_none.1 hb
      -- A bearer that had the name already would have the identity.
      have hname : bearerName ebi ∉ session.bearers.map (·.1) := by
        intro hm
        obtain ⟨⟨name, bearer⟩, hentry, rfl⟩ := List.mem_map.1 hm
        exact hunknown _ hentry (labelled.ebi_eq hentry)
      refine ⟨unmodified_setBearer .., ?_⟩
      rw [bearers_setBearer, Bindings.put_of_notMem hname]
      exact .added hunknown hf (Bearer.ebi_filled hi hf)

/-- Sessions that come from a create request by contexts that are applied, also such that fail. -/
inductive Negotiated : Session → Prop
  | described {peer : SocketAddress} {request : Message} {session : Session}
    (h : ofRequest peer request = .ok session) : Negotiated session
  | applied {session : Session} (h : Negotiated session) (context : Element) :
    Negotiated ((applyContext context).run session).2

theorem Negotiated.labelled (h : Negotiated session) : session.Labelled := by
  induction h with
  | described h => exact labelled_ofRequest h
  | applied _ context ih => exact ih.applyContext context

/-- In a session that has been negotiated, names say which identity a bearer has, and each further
context that is applied changes the first bearer with its identity or adds one, and nothing else. -/
theorem applied_of_negotiated (negotiated : Negotiated session) :
    (∀ ebi bearer, (bearerName ebi, bearer) ∈ session.bearers → bearer.ebi = ebi) ∧
      ∀ context next, (applyContext context).run session = (.ok (), next) →
        ∃ ebi, Bearer.identity context = .ok ebi ∧ next.unmodified = session.unmodified ∧
          Applied context ebi session.bearers next.bearers ∧
          next.bearers.filter (·.2.ebi ≠ ebi) = session.bearers.filter (·.2.ebi ≠ ebi) ∧
          session.bearers.map (·.1) <+: next.bearers.map (·.1) ∧
          (next.bearerCount = session.bearerCount + 1 ↔
            ∀ entry ∈ session.bearers, entry.2.ebi ≠ ebi) := by
  refine ⟨fun _ _ => negotiated.labelled.ebi_eq, fun context next h => ?_⟩
  obtain ⟨ebi, hi, hkept, happlied⟩ := negotiated.labelled.applied h
  exact ⟨ebi, hi, hkept, happlied, happlied.others, happlied.names, happlied.length_iff⟩

/-! A session with three bearers, of which one was added by a context. -/

private def petition : Message :=
  .make .v2 .createSessionRequest { sequence := 1 }
    [plain .v2 Code.imsi 0 [0x00, 0x01, 0x01, 0, 0, 0, 0, 0xf1],
      V2.ofBearerContext [V2.ofEbi 5], V2.ofBearerContext [V2.ofEbi 6]]

private def petitioned : Session :=
  (ofRequest ⟨.v4 ⟨127, 0, 0, 1⟩, 2123, 0⟩ petition).toOption.getD default

private def supplemented : Session :=
  ((applyContext (V2.ofBearerContext [V2.ofEbi 7])).run petitioned).2

/-- Two further contexts can be applied to it: for a bearer that is there, and for a new one. -/
theorem applied_of_negotiated_supplemented :
    Negotiated supplemented ∧
      (∀ ebi ∈ [6, 8],
        ((applyContext (V2.ofBearerContext [V2.ofEbi ebi])).run supplemented).1 = .ok ()) ∧
      (∀ ebi bearer, (bearerName ebi, bearer) ∈ supplemented.bearers → bearer.ebi = ebi) ∧
      ∀ context next, (applyContext context).run supplemented = (.ok (), next) →
        ∃ ebi, Bearer.identity context = .ok ebi ∧ next.unmodified = supplemented.unmodified ∧
          Applied context ebi supplemented.bearers next.bearers ∧
          next.bearers.filter (·.2.ebi ≠ ebi) = supplemented.bearers.filter (·.2.ebi ≠ ebi) ∧
          supplemented.bearers.map (·.1) <+: next.bearers.map (·.1) ∧
          (next.bearerCount = supplemented.bearerCount + 1 ↔
            ∀ entry ∈ supplemented.bearers, entry.2.ebi ≠ ebi) := by
  have described : ofRequest ⟨.v4 ⟨127, 0, 0, 1⟩, 2123, 0⟩ petition = .ok petitioned := by
    decide +kernel
  have negotiated : Negotiated supplemented := (Negotiated.described described).applied _
  exact ⟨negotiated, by decide +kernel, applied_of_negotiated negotiated⟩

end Session
end GtpControl
