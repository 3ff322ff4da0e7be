import GtpControl.Element.Group

/-! # Taking the first match out of a list, in terms of finding and erasing -/
namespace GtpControl.Element
variable {α : Type} {p : α → Bool}

theorem takeFirst_eq (p : α → Bool) (xs : List α) :
    takeFirst p xs = (xs.find? p).map fun x => (x, xs.eraseP p) := by
  induction xs with
  | nil => rfl
  | cons x xs ih =>
    cases hp : p x with
    | true => simp [takeFirst, hp]
    | false => simp [takeFirst, hp, ih, Function.comp_def]

theorem takeFirst_eq_some {xs rest : List α} {x : α} :
    takeFirst p xs = some (x, rest) ↔ xs.find? p = some x ∧ rest = xs.eraseP p := by
  simp only [takeFirst_eq, Option.map_eq_some_iff, Prod.mk.injEq]
  constructor
  · rintro ⟨_, hx, rfl, rfl⟩
    exact ⟨hx, rfl⟩
  · rintro ⟨hx, rfl⟩
    exact ⟨x, hx, rfl, rfl⟩

theorem takeFirst_eq_none {xs : List α} : takeFirst p xs = none ↔ ∀ x ∈ xs, ¬p x := by
  rw [takeFirst_eq, Option.map_eq_none_iff, List.find?_eq_none]

/-- The match and the rest are together the list. -/
theorem perm_of_takeFirst {xs rest : List α} {x : α} (h : takeFirst p xs = some (x, rest)) :
    (x :: rest).Perm xs := by
  obtain ⟨hx, rfl⟩ := takeFirst_eq_some.1 h
  obtain ⟨hp, before, after, rfl, hb⟩ := List.find?_eq_some_iff_append.1 hx
  have hbefore : ∀ y ∈ before, ¬p y := by simpa using hb
  rw [List.eraseP_append_right _ hbefore, List.eraseP_cons_of_pos hp]
  exact List.perm_middle.symm

end GtpControl.Element
