import GtpControl.Message.Slot
import GtpControl.Proofs.FirstMatch

/-! # Slotting: no element is lost, elements of one name keep their order, and elements in the order of
their slots go back into them -/
namespace GtpControl.Slot
variable {slot : Slot} {taken left elements : List Element}

/-! ## One slot -/

/-- A slot holds what it accepts, not more than it has room for, and misses no element for which it
has room. -/
structure Filled (slot : Slot) (taken left : List Element) : Prop where
  accepted : ∀ x ∈ taken, slot.accepts x = true
  single : slot.repeated = false → taken.length ≤ 1
  missed : slot.repeated = true ∨ taken = [] → ∀ x ∈ left, ¬slot.accepts x = true

theorem take_spec (slot : Slot) (elements : List Element) :
    Filled slot (slot.take elements).1 (slot.take elements).2 ∧
      ((slot.take elements).1 ++ (slot.take elements).2).Perm elements := by
  rw [take]
  cases hr : slot.repeated with
  | true =>
    simp only [if_true, List.partition_eq_filter_filter]
    refine ⟨⟨by simp, by simp [hr], by simp⟩, ?_⟩
    exact List.filter_append_perm slot.accepts elements
  | false =>
    simp only [Bool.false_eq_true, if_false]
    cases ht : Element.takeFirst slot.accepts elements with
    | none =>
      have hn := Element.takeFirst_eq_none.1 ht
      exact ⟨⟨by simp, by simp, fun _ => hn⟩, List.Perm.refl _⟩
    | some found =>
      obtain ⟨x, rest⟩ := found
      have hx := List.find?_some (Element.takeFirst_eq_some.1 ht).1
      exact ⟨⟨by simpa using hx, by simp, by simp [hr]⟩, Element.perm_of_takeFirst ht⟩

/-- What a slot holds is taken again when it is put before what was left. -/
theorem Filled.take_append (h : Filled slot taken left) :
    slot.take (taken ++ left) = (taken, left) := by
  rw [take]
  cases hr : slot.repeated with
  | true =>
    have hm := h.missed (.inl hr)
    simp only [if_true, List.partition_eq_filter_filter, List.filter_append]
    rw [List.filter_eq_self.2 h.accepted, List.filter_eq_nil_iff.2 hm, List.append_nil,
      List.filter_eq_nil_iff.2, List.nil_append, List.filter_eq_self.2]
    · simpa using hm
    · simpa using h.accepted
  | false =>
    simp only [Bool.false_eq_true, if_false]
    match taken, h with
    | [], h =>
      have hn := Element.takeFirst_eq_none.2 (h.missed (.inr rfl))
      simp [hn]
    | [x], h =>
      have hx := h.accepted x List.mem_cons_self
      simp [Element.takeFirst, hx]
    | _ :: _ :: _, h => simpa using h.single hr

theorem Filled.perm {left' : List Element} (h : Filled slot taken left) (hp : left'.Perm left) :
    Filled slot taken left' :=
  ⟨h.accepted, h.single, fun hm x hx => h.missed hm x (hp.subset hx)⟩

theorem Filled.empty (h : ∀ x ∈ left, ¬slot.accepts x = true) : Filled slot [] left :=
  ⟨by simp, by simp, fun _ => h⟩

theorem Filled.one {x : Element} (hr : slot.repeated = false) (hx : slot.accepts x = true) :
    Filled slot [x] left :=
  ⟨by simpa using hx, by simp, by simp [hr]⟩

theorem Filled.all (hr : slot.repeated = true) (ht : ∀ x ∈ taken, slot.accepts x = true) :
    Filled slot taken [] :=
  ⟨ht, by simp [hr], by simp⟩

/-! ## All slots of a layout -/

/-- The elements of slots, and the others, in the order in which they are sent. -/
def ordered (filled : List (Slot × List Element) × List Element) : List Element :=
  filled.1.flatMap (·.2) ++ filled.2

theorem ordered_takeAll_cons (slot : Slot) (slots : List Slot) (elements : List Element) :
    ordered (takeAll (slot :: slots) elements) =
      (slot.take elements).1 ++ ordered (takeAll slots (slot.take elements).2) := by
  simp [ordered, takeAll]

theorem ordered_takeAll_perm (slots : List Slot) (elements : List Element) :
    (ordered (takeAll slots elements)).Perm elements := by
  induction slots generalizing elements with
  | nil => exact List.Perm.refl _
  | cons slot slots ih =>
    rw [ordered_takeAll_cons]
    exact ((ih _).append_left _).trans (take_spec slot elements).2

/-- Elements that are in the order of their slots are slotted as they were. -/
theorem takeAll_ordered (slots : List Slot) (elements : List Element) :
    takeAll slots (ordered (takeAll slots elements)) = takeAll slots elements := by
  induction slots generalizing elements with
  | nil => rfl
  | cons slot slots ih =>
    have hf := (take_spec slot elements).1.perm (ordered_takeAll_perm slots (slot.take elements).2)
    rw [ordered_takeAll_cons, takeAll, hf.take_append]
    simp only [ih, takeAll]

/-- An element that comes first goes into the first slot if that accepts it. -/
theorem takeAll_cons (hr : slot.repeated = false) {x : Element} (hx : slot.accepts x = true)
    (slots : List Slot) (elements : List Element) :
    takeAll (slot :: slots) (x :: elements) =
      ((slot, [x]) :: (takeAll slots elements).1, (takeAll slots elements).2) := by
  have ht : slot.take ([x] ++ elements) = ([x], elements) := (Filled.one hr hx).take_append
  rw [takeAll, ← List.singleton_append, ht]

theorem slots_takeAll (slots : List Slot) (elements : List Element) :
    (takeAll slots elements).1.map (·.1) = slots := by
  induction slots generalizing elements with
  | nil => rfl
  | cons slot slots ih => simp only [takeAll, List.map_cons, ih]

/-- Slots hold what they accept. -/
theorem accepts_of_mem_takeAll {slots : List Slot} {entry : Slot × List Element}
    (h : entry ∈ (takeAll slots elements).1) :
    entry.1 ∈ slots ∧ ∀ x ∈ entry.2, entry.1.accepts x = true := by
  induction slots generalizing elements with
  | nil => cases h
  | cons slot slots ih =>
    rw [takeAll, List.mem_cons] at h
    rcases h with rfl | h
    · exact ⟨List.mem_cons_self, (take_spec slot elements).1.accepted⟩
    · obtain ⟨hm, ha⟩ := ih h
      exact ⟨List.mem_cons_of_mem _ hm, ha⟩

/-- Every slot holds what it should of all that is sent from it on. -/
def InOrder (additional : List Element) : List (Slot × List Element) → Prop
  | [] => True
  | (slot, held) :: filled =>
    Filled slot held (ordered (filled, additional)) ∧ InOrder additional filled

theorem takeAll_of_inOrder {filled : List (Slot × List Element)} {additional : List Element}
    (h : InOrder additional filled) :
    takeAll (filled.map (·.1)) (ordered (filled, additional)) = (filled, additional) := by
  induction filled with
  | nil => rfl
  | cons first filled ih =>
    obtain ⟨slot, held⟩ := first
    obtain ⟨hf, hrest⟩ := h
    have ht : slot.take (held ++ ordered (filled, additional)) =
        (held, ordered (filled, additional)) := hf.take_append
    have ho : ordered ((slot, held) :: filled, additional) =
        held ++ ordered (filled, additional) := by simp [ordered]
    rw [ho, List.map_cons, takeAll, ht]
    simp only [ih hrest]

/-! ## Order -/

/-- Elements of which a slot accepts all or none stay in their order. -/
theorem filter_take {p : Element → Bool} {accepted : Bool}
    (hp : ∀ x, p x = true → slot.accepts x = accepted) (elements : List Element) :
    ((slot.take elements).1 ++ (slot.take elements).2).filter p = elements.filter p := by
  rw [take]
  cases hr : slot.repeated with
  | true =>
    simp only [if_true, List.partition_eq_filter_filter, List.filter_append, List.filter_filter]
    have hin : ∀ x, (p x && slot.accepts x) = (p x && accepted) := fun x => by
      cases h : p x <;> simp [hp, h]
    have hout : ∀ x, (p x && !slot.accepts x) = (p x && !accepted) := fun x => by
      cases h : p x <;> simp [hp, h]
    cases accepted <;> simp [hin, hout]
  | false =>
    simp only [Bool.false_eq_true, if_false]
    cases ht : Element.takeFirst slot.accepts elements with
    | none => rfl
    | some found =>
      obtain ⟨x, rest⟩ := found
      obtain ⟨hx, rfl⟩ := Element.takeFirst_eq_some.1 ht
      obtain ⟨hax, before, after, rfl, hb⟩ := List.find?_eq_some_iff_append.1 hx
      have hbefore : ∀ y ∈ before, ¬slot.accepts y = true := by simpa using hb
      rw [List.eraseP_append_right _ hbefore, List.eraseP_cons_of_pos hax]
      simp only [List.singleton_append, List.filter_cons, List.filter_append]
      split
      · next hpx =>
        -- If it is one of them, it is the first: the slot accepts nothing that goes before it.
        have hnil : before.filter p = [] := List.filter_eq_nil_iff.2 fun y hy hpy =>
          hbefore y hy ((hp y hpy).trans ((hp x hpx).symm.trans hax))
        rw [hnil, List.nil_append, List.nil_append]
      · rfl

/-- Elements of one type and instance are sent in the order in which they were slotted. -/
theorem filter_ordered_takeAll (slots : List Slot) (elements : List Element) (type inst : UInt8) :
    (ordered (takeAll slots elements)).filter (fun x => x.type == type && x.inst == inst) =
      elements.filter fun x => x.type == type && x.inst == inst := by
  induction slots generalizing elements with
  | nil => rfl
  | cons slot slots ih =>
    rw [ordered_takeAll_cons, List.filter_append, ih, ← List.filter_append]
    -- Whether a slot accepts an element is decided by type and instance.
    have hp : ∀ x : Element, (x.type == type && x.inst == inst) = true →
        slot.accepts x = slot.accepts ⟨type, inst, [], []⟩ := fun x hx => by
      simp only [Bool.and_eq_true, beq_iff_eq] at hx
      rw [accepts, accepts, hx.1, hx.2]
    exact filter_take hp elements

/-! ## One more element -/

private theorem take_append_one (slot : Slot) (elements : List Element) (x : Element) :
    slot.take (elements ++ [x]) =
      if slot.accepts x && (slot.repeated || (slot.take elements).1.isEmpty) then
        ((slot.take elements).1 ++ [x], (slot.take elements).2)
      else ((slot.take elements).1, (slot.take elements).2 ++ [x]) := by
  unfold take
  cases hr : slot.repeated with
  | true =>
    cases hx : slot.accepts x <;> simp [List.partition_eq_filter_filter, hx]
  | false =>
    simp only [Bool.false_eq_true, if_false, Bool.false_or, Element.takeFirst_eq,
      List.find?_append, List.eraseP_append]
    cases hf : elements.find? slot.accepts with
    | some y =>
      have hm := List.mem_of_find?_eq_some hf
      have hy := List.find?_some hf
      simp [List.any_eq_true.2 ⟨y, hm, hy⟩]
    | none =>
      have hn : elements.any slot.accepts = false := by
        simpa using hf
      cases hx : slot.accepts x <;> simp [hn, hx]

/-- An element is put into one slot that accepts it, after those that are there. -/
theorem put?_eq_some {x : Element} {filled filled' : List (Slot × List Element)}
    (h : put? x filled = some filled') :
    ∃ front slot held back, filled = front ++ (slot, held) :: back ∧ slot.accepts x = true ∧
      filled' = front ++ (slot, held ++ [x]) :: back := by
  induction filled generalizing filled' with
  | nil => cases h
  | cons entry filled ih =>
    obtain ⟨slot, held⟩ := entry
    rw [put?] at h
    split at h
    · next hx =>
      cases h
      exact ⟨[], slot, held, filled, rfl, (Bool.and_eq_true_iff.1 hx).1, rfl⟩
    · obtain ⟨rest, hr, rfl⟩ := Option.map_eq_some_iff.1 h
      obtain ⟨front, slot', held', back, rfl, ha, rfl⟩ := ih hr
      exact ⟨(slot, held) :: front, slot', held', back, rfl, ha, rfl⟩

/-- A slot that is empty takes an element that it accepts, if none before it does. -/
theorem exists_put? {x : Element} {filled : List (Slot × List Element)}
    (hm : (slot, []) ∈ filled) (ha : slot.accepts x = true) :
    ∃ filled', put? x filled = some filled' := by
  induction filled with
  | nil => cases hm
  | cons entry filled ih =>
    obtain ⟨slot', held⟩ := entry
    rw [put?]
    split
    · exact ⟨_, rfl⟩
    · next hn =>
      rcases List.mem_cons.1 hm with he | hm
      · cases he
        simp [ha] at hn
      · obtain ⟨filled', h⟩ := ih hm
        exact ⟨_, by rw [h, Option.map_some]⟩

/-- Slotting one more element is putting it among those that are slotted. -/
theorem takeAll_append_one (slots : List Slot) (elements : List Element) (x : Element) :
    takeAll slots (elements ++ [x]) =
      match put? x (takeAll slots elements).1 with
      | some filled => (filled, (takeAll slots elements).2)
      | none => ((takeAll slots elements).1, (takeAll slots elements).2 ++ [x]) := by
  induction slots generalizing elements with
  | nil => rfl
  | cons slot slots ih =>
    simp only [takeAll, take_append_one, put?]
    split
    · rfl
    · rw [ih]
      cases put? x (takeAll slots (slot.take elements).2).1 <;> rfl

end GtpControl.Slot
