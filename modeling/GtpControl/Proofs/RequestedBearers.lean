import GtpControl.Proofs.BearerOrder
import GtpControl.Proofs.CreatedSession

/-! # Requested bearers: what becomes of the contexts of a create request

The first context is for the default bearer. The others are for bearers that are named by their
identity, so that of several with one identity only the last is kept. -/
namespace GtpControl
open Catalog.V2 Element

/-! ## Lists without repetitions -/
section
variable {α β : Type} [DecidableEq α] [DecidableEq β]

/-- A further entry is new, or it is left out. -/
theorem eraseDups_concat (xs : List α) (x : α) :
    (xs ++ [x]).eraseDups = if x ∈ xs then xs.eraseDups else xs.eraseDups ++ [x] := by
  rw [List.eraseDups_append]
  split
  · next h => simp [List.removeAll, h]
  · next h => simp [List.removeAll, h, List.eraseDups_cons]

theorem eraseDups_map {f : α → β} (hf : ∀ x y, f x = f y → x = y) (xs : List α) :
    (xs.map f).eraseDups = xs.eraseDups.map f := by
  induction xs using List.reverseRecOn with
  | nil => rfl
  | append_singleton xs x ih =>
    have hm : f x ∈ xs.map f ↔ x ∈ xs :=
      ⟨fun h => by
        obtain ⟨y, hy, he⟩ := List.mem_map.1 h
        exact hf y x he ▸ hy, List.mem_map_of_mem⟩
    rw [List.map_append, List.map_singleton, eraseDups_concat, eraseDups_concat, ih]
    simp only [hm]
    split
    · rfl
    · rw [List.map_append, List.map_singleton]

theorem eraseDups_sublist (xs : List α) : xs.eraseDups.Sublist xs := by
  induction xs using List.reverseRecOn with
  | nil => exact List.Sublist.refl []
  | append_singleton xs x ih =>
    rw [eraseDups_concat]
    split
    · exact ih.trans (List.sublist_append_left ..)
    · exact ih.append_right [x]

theorem length_eraseDups_eq_iff {xs : List α} : xs.eraseDups.length = xs.length ↔ xs.Nodup := by
  constructor
  · intro h
    rw [← (eraseDups_sublist xs).eq_of_length h]
    exact Registry.nodup_eraseDups xs
  · intro h
    induction xs using List.reverseRecOn with
    | nil => rfl
    | append_singleton xs x ih =>
      obtain ⟨hxs, -, hx⟩ := List.nodup_append.1 h
      have hne : x ∉ xs := fun hm => hx x hm x List.mem_cons_self rfl
      rw [eraseDups_concat, if_neg hne, List.length_append, List.length_append, ih hxs]

end

namespace Bindings
variable {κ α : Type} [DecidableEq κ]

/-- The last value of a key counts. -/
theorem get?_insertAll (entries : List (κ × α)) (bindings : Bindings κ α) (key : κ) :
    (bindings.insertAll entries).get? key =
      (entries.reverse.lookup key).or (bindings.get? key) := by
  induction entries generalizing bindings with
  | nil => rfl
  | cons entry entries ih =>
    have hlast : (bindings.insert entry.1 entry.2).get? key =
        (List.lookup key [entry]).or (bindings.get? key) := by
      rw [get?_insert, List.lookup_cons]
      by_cases h : key = entry.1
      · simp [h]
      · have hb : (key == entry.1) = false := beq_eq_false_iff_ne.2 h
        simp [h, hb]
    rw [List.reverse_cons, List.lookup_append, Option.or_assoc, ← hlast]
    exact ih _

/-- Keys stand where they came first. -/
theorem keys_insertAll (entries : List (κ × α)) :
    (({} : Bindings κ α).insertAll entries).keys = (entries.map (·.1)).eraseDups := by
  induction entries using List.reverseRecOn with
  | nil => rfl
  | append_singleton entries entry ih =>
    have hfold : ({} : Bindings κ α).insertAll (entries ++ [entry]) =
        (({} : Bindings κ α).insertAll entries).insert entry.1 entry.2 := List.foldl_concat ..
    have hkeys := keys_put entry.1 entry.2 (({} : Bindings κ α).insertAll entries).entries
    rw [keys] at ih ⊢
    rw [hfold, insert, hkeys, ih, List.map_append, List.map_singleton, eraseDups_concat]
    simp only [List.mem_eraseDups]

theorem unique_insertAll (entries : List (κ × α)) :
    (({} : Bindings κ α).insertAll entries).Unique := by
  rw [Unique, keys_insertAll]
  exact Registry.nodup_eraseDups _

end Bindings

/-! ## Bearers with one identity -/
namespace Bearer

/-- Of bearers with one identity the last is kept, where the first came. -/
structure Kept (added kept : List Bearer) : Prop where
  ebis : kept.map (·.ebi) = (added.map (·.ebi)).eraseDups
  last : ∀ bearer ∈ kept, added.reverse.find? (·.ebi = bearer.ebi) = some bearer

variable {added kept : List Bearer}

theorem Kept.length_eq_iff (h : Kept added kept) :
    kept.length = added.length ↔ (added.map (·.ebi)).Nodup := by
  rw [← length_eraseDups_eq_iff, ← h.ebis, List.length_map, List.length_map]

theorem Kept.mem (h : Kept added kept) {bearer : Bearer} (hm : bearer ∈ kept) : bearer ∈ added :=
  List.mem_reverse.1 (List.mem_of_find?_eq_some (h.last bearer hm))

/-- If all have identities of their own, all are kept. -/
theorem Kept.eq_of_nodup (h : Kept added kept) (hn : (added.map (·.ebi)).Nodup) :
    kept = added := by
  have hebis : kept.map (·.ebi) = added.map (·.ebi) := by
    rw [h.ebis]
    exact (eraseDups_sublist _).eq_of_length (length_eraseDups_eq_iff.2 hn)
  refine List.ext_getElem (h.length_eq_iff.2 hn) fun i hi hi' => ?_
  have hsame : kept[i].ebi = added[i].ebi := by
    simpa [hi, hi'] using congrArg (·[i]?) hebis
  exact List.inj_on_of_nodup_map hn (h.mem (List.getElem_mem hi)) (List.getElem_mem hi') hsame

theorem lookup_map_named (ebi : UInt8) (bearers : List Bearer) :
    (bearers.map named).lookup (Session.bearerName ebi) = bearers.find? (·.ebi = ebi) := by
  induction bearers with
  | nil => rfl
  | cons bearer bearers ih =>
    by_cases h : bearer.ebi = ebi
    · simp [named, h]
    · have hb : (Session.bearerName ebi == Session.bearerName bearer.ebi) = false :=
        beq_eq_false_iff_ne.2 fun he => h (Session.bearerName_inj.1 he).symm
      rw [List.map_cons, named, List.lookup_cons, hb, List.find?_cons_of_neg (by simpa using h)]
      exact ih

/-- Bearers that are added under the names of their identities. -/
theorem exists_kept (added : List Bearer) :
    ∃ kept, Kept added kept ∧
      (({} : Bindings String Bearer).insertAll (added.map named)).entries = kept.map named := by
  generalize hb : ({} : Bindings String Bearer).insertAll (added.map named) = bindings
  have hlast : ∀ entry ∈ bindings.entries,
      (added.reverse.map named).lookup entry.1 = some entry.2 := by
    intro entry hm
    subst hb
    rw [← (Bindings.unique_insertAll _).get?_eq_some, Bindings.get?_insertAll,
      ← List.map_reverse] at hm
    simpa [Bindings.get?] using hm
  have hnamed : ∀ entry ∈ bindings.entries, named entry.2 = entry := by
    intro entry hm
    obtain ⟨front, back, he, -⟩ := List.lookup_eq_some_iff.1 (hlast entry hm)
    have hmem : entry ∈ added.reverse.map named := by
      rw [he]
      exact List.mem_append_right _ List.mem_cons_self
    obtain ⟨bearer, -, rfl⟩ := List.mem_map.1 hmem
    rfl
  have hentries : (bindings.entries.map (·.2)).map named = bindings.entries := by
    rw [List.map_map]
    exact (List.map_congr_left hnamed).trans (List.map_id _)
  refine ⟨bindings.entries.map (·.2), ⟨?_, ?_⟩, hentries.symm⟩
  · have hkeys : bindings.keys = (added.map (·.ebi)).eraseDups.map Session.bearerName := by
      rw [← eraseDups_map fun _ _ => Session.bearerName_inj.1, ← hb, Bindings.keys_insertAll,
        List.map_map, List.map_map]
      rfl
    refine List.map_injective_iff.2 (fun _ _ => Session.bearerName_inj.1) ?_
    rw [← hkeys, List.map_map, List.map_map, Bindings.keys]
    exact List.map_congr_left fun entry hm => congrArg Prod.fst (hnamed entry hm)
  · intro bearer hm
    obtain ⟨entry, hentry, rfl⟩ := List.mem_map.1 hm
    have h := hlast entry hentry
    rw [← hnamed entry hentry] at h
    rwa [← lookup_map_named]

end Bearer

/-! ## What a context says -/

/-- A value is that of the child of this type, or it is left as it was if there is no such child. -/
def Element.Says {α : Type} (context : Element) (type : UInt8) (read : Element → Coded α)
    (before after : α) : Prop :=
  match context.findChild .v2 type 0 with
  | .ok child => read child = .ok after
  | .error _ => after = before

/-- An element names an end point and the interface that it is for. -/
def Element.NamesEnd (fteid : Element) (entry : UInt8 × UInt32) : Prop :=
  V2.interfaceType fteid = .ok entry.1 ∧ V2.teid fteid = .ok entry.2

namespace Bearer

/-- A bearer holds what a context says. Of several end points for one interface, the last counts. -/
structure Carries (context : Element) (bearer : Bearer) : Prop where
  ebi : context.Says Code.ebi V2.ebi 0 bearer.ebi
  qos : context.Says Code.bearerQos V2.bearerQos {} bearer.qos
  chargingId : context.Says Code.chargingId V2.chargingId 0 bearer.chargingId
  teids : ∃ ends, List.Forall₂ Element.NamesEnd
      (context.children.filter (·.type == Code.fteid)) ends ∧
    bearer.teids.keys = (ends.map (·.1)).eraseDups ∧
    ∀ interface, bearer.teids.get? interface = ends.reverse.lookup interface

/-- A child that is there is read and taken over; otherwise the work goes on at once. -/
private theorem exists_says {α : Type} (part : Bearer → α) {context : Element} {type : UInt8}
    {read : Element → Coded α} {put : α → Bearer → Bearer}
    {rest : Edit Bearer Unit} {bearer last : Bearer} (hput : put (part bearer) bearer = bearer)
    (h : (match context.findChild .v2 type 0 with
      | .ok child => do
        let a ← read child
        modify (put a)
        rest
      | _ => rest : Edit Bearer Unit).run bearer = (.ok (), last)) :
    ∃ a, context.Says type read (part bearer) a ∧ rest.run (put a bearer) = (.ok (), last) := by
  simp only [Element.Says]
  cases hfound : context.findChild .v2 type 0 with
  | error e =>
    rw [hfound] at h
    exact ⟨part bearer, rfl, hput.symm ▸ h⟩
  | ok child =>
    simp only [hfound, Edit.run_bind_eq_ok, Edit.run_lift, Edit.run_modify] at h
    obtain ⟨a, _, hread, _, _, hmodify, hrest⟩ := h
    obtain ⟨ha, rfl⟩ := Prod.mk.inj hread
    obtain ⟨-, rfl⟩ := Prod.mk.inj hmodify
    exact ⟨a, ha, hrest⟩

private theorem exists_ends {fteids : List Element} {bearer last : Bearer}
    (h : (fteids.forM bindFteid : Edit Bearer Unit).run bearer = (.ok (), last)) :
    ∃ ends, List.Forall₂ Element.NamesEnd fteids ends ∧
      last = { bearer with teids := bearer.teids.insertAll ends } := by
  induction fteids generalizing bearer with
  | nil =>
    cases h
    exact ⟨[], .nil, rfl⟩
  | cons fteid fteids ih =>
    obtain ⟨_, _, hfirst, h⟩ := Edit.run_bind_eq_ok.1 h
    simp only [bindFteid, Edit.run_bind_eq_ok, Edit.run_lift, Edit.run_modify] at hfirst
    obtain ⟨interface, _, hi, teid, _, ht, hmodify⟩ := hfirst
    obtain ⟨hinterface, rfl⟩ := Prod.mk.inj hi
    obtain ⟨hteid, rfl⟩ := Prod.mk.inj ht
    obtain ⟨-, rfl⟩ := Prod.mk.inj hmodify
    obtain ⟨ends, hends, rfl⟩ := ih h
    exact ⟨(interface, teid) :: ends, .cons ⟨hinterface, hteid⟩ hends, rfl⟩

/-- A bearer about which nothing was said before. -/
structure Blank (bearer : Bearer) : Prop where
  ebi : bearer.ebi = 0
  qos : bearer.qos = {}
  chargingId : bearer.chargingId = 0
  teids : bearer.teids = {}

theorem Blank.carries {context : Element} {blank bearer : Bearer} (h : blank.Blank)
    (hfilled : filled context blank = .ok bearer) : Carries context bearer := by
  have hrun : (fill context).run blank = (.ok (), bearer) := by
    rw [filled] at hfilled
    split at hfilled
    · next he =>
      cases hfilled
      exact he
    · cases hfilled
  obtain ⟨ebi, hebi, hrun⟩ := exists_says Bearer.ebi rfl hrun
  obtain ⟨qos, hqos, hrun⟩ := exists_says Bearer.qos rfl hrun
  obtain ⟨chargingId, hchargingId, hrun⟩ := exists_says Bearer.chargingId rfl hrun
  obtain ⟨ends, hends, rfl⟩ := exists_ends hrun
  rw [h.ebi] at hebi
  rw [h.qos] at hqos
  rw [h.chargingId] at hchargingId
  refine ⟨hebi, hqos, hchargingId, ends, hends, ?_, fun interface => ?_⟩
  · rw [h.teids]
    exact Bindings.keys_insertAll ends
  · rw [h.teids, Bindings.get?_insertAll]
    exact Option.or_none

end Bearer

/-! ## Sessions that are described -/
namespace Session
variable {peer : SocketAddress} {request : Message} {session : Session} {first : Element}
  {rest : List Element}

/-- The first context of a request is carried by the default bearer, and each further one by a
bearer of its own as long as none has the same identity. Of those with one identity the last is
kept, in the place of the first. -/
theorem bearers_ofRequest (h : ofRequest peer request = .ok session)
    (hc : request.field .bearerContextsToBeCreated = first :: rest) :
    ∃ own added kept, List.Forall₂ Bearer.Carries (first :: rest) (own :: added) ∧
      session.bearers = (defaultName, own) :: kept.map Bearer.named ∧
      Bearer.Kept added kept ∧
      (session.bearerCount = (first :: rest).length ↔ (added.map (·.ebi)).Nodup) ∧
      ((added.map (·.ebi)).Nodup → kept = added) := by
  obtain ⟨apn, _, own, added, -, hown, hadded, hsession⟩ := described_ofRequest h
  rw [hc] at hown hadded
  obtain ⟨kept, hkept, hentries⟩ := Bearer.exists_kept added
  have hopening : (openingBearer apn request).Blank := ⟨rfl, rfl, rfl, rfl⟩
  have hblank : ({ apn } : Bearer).Blank := ⟨rfl, rfl, rfl, rfl⟩
  have hall : List.Forall₂ Bearer.Carries (first :: rest) (own :: added) :=
    .cons (hopening.carries hown) (hadded.imp fun _ _ => hblank.carries)
  have hbearers : session.bearers = (defaultName, own) :: kept.map Bearer.named := by
    rw [hsession, bearers, ← hentries]
  have hcount : session.bearerCount = (first :: rest).length ↔ kept.length = added.length := by
    rw [bearerCount, hbearers, hall.length_eq]
    simp
  exact ⟨own, added, kept, hall, hbearers, hkept, hcount.trans hkept.length_eq_iff,
    hkept.eq_of_nodup⟩

private def applicant : SocketAddress := ⟨.v4 ⟨127, 0, 0, 1⟩, 2123, 0⟩

/-- A request for bearers, each with what its context says of it. -/
private def requesting (contexts : List (List Element)) : Message :=
  .make .v2 .createSessionRequest { sequence := 1 }
    (plain .v2 Code.imsi 0 [0x00, 0x01, 0x01, 0, 0, 0, 0, 0xf1] :: contexts.map V2.ofBearerContext)

private def threefold : Message := requesting [[V2.ofEbi 5], [V2.ofEbi 6], [V2.ofEbi 7]]

/-- Three contexts for three bearers. -/
theorem bearers_ofRequest_threefold :
    ∃ session first rest, ofRequest applicant threefold = .ok session ∧
      threefold.field .bearerContextsToBeCreated = first :: rest ∧
      ∃ own added kept, List.Forall₂ Bearer.Carries (first :: rest) (own :: added) ∧
        session.bearers = (defaultName, own) :: kept.map Bearer.named ∧
        Bearer.Kept added kept ∧
        (session.bearerCount = (first :: rest).length ↔ (added.map (·.ebi)).Nodup) ∧
        ((added.map (·.ebi)).Nodup → kept = added) := by
  have h : ofRequest applicant threefold =
      .ok ((ofRequest applicant threefold).toOption.getD default) := by decide +kernel
  have hc : threefold.field .bearerContextsToBeCreated = V2.ofBearerContext [V2.ofEbi 5] ::
      [V2.ofBearerContext [V2.ofEbi 6], V2.ofBearerContext [V2.ofEbi 7]] := by decide +kernel
  exact ⟨_, _, _, h, hc, bearers_ofRequest h hc⟩

/-- Three contexts, of which two are for one bearer, give two bearers. A context with two end points
for one interface gives a bearer that has the second of them only. -/
theorem bearers_ofRequest_merged :
    let merged := requesting [[V2.ofEbi 5], [V2.ofEbi 6, V2.ofChargingId 1],
      [V2.ofEbi 6, V2.ofChargingId 2]]
    let forked := requesting [[V2.ofEbi 5, V2.ofFteid 2 1 none none, V2.ofFteid 2 3 none none]]
    (∃ session, ofRequest applicant merged = .ok session ∧
      (merged.field .bearerContextsToBeCreated).length = 3 ∧ session.bearerCount = 2 ∧
      session.bearers.map (·.2.chargingId) = [0, 2]) ∧
    ∃ session, ofRequest applicant forked = .ok session ∧
      (forked.field .bearerContextsToBeCreated).length = 1 ∧
      session.defaultBearer.teids.entries = [(2, 3)] := by
  intro merged forked
  exact ⟨⟨(ofRequest applicant merged).toOption.getD default, by decide +kernel, by decide +kernel,
    by decide +kernel, by decide +kernel⟩, (ofRequest applicant forked).toOption.getD default,
    by decide +kernel, by decide +kernel, by decide +kernel⟩

end Session
end GtpControl
