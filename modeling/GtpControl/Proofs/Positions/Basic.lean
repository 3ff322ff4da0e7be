import GtpControl.Proofs.OctetNumerals
import GtpControl.Proofs.Results
import GtpControl.Version

/-! # Reading by position

A reader that goes by positions looks at single octets and cuts pieces out of its input. A position
outside the input is a fault of the reader and not an answer: it is told apart from the refusals that
are meant for the sender. -/
namespace GtpControl

inductive Fault where
  /-- the input is refused -/
  | refused (e : CodecError)
  /-- the reader reached outside the input -/
  | outside
deriving DecidableEq, Repr

/-- The result of a reader that goes by positions. -/
abbrev Reached := Except Fault

/-- A reader by position gives the answer of another reader, and reaches nothing outside its input. -/
structure Stays {α : Type} (reached : Reached α) (answer : Coded α) : Prop where
  inside : reached ≠ .error .outside
  agrees : reached = answer.mapError .refused

namespace Reached

/-- A check or a computation that looks at no octet. -/
def answer {α : Type} (x : Coded α) : Reached α := x.mapError .refused

def refuse {α : Type} (e : CodecError) : Reached α := throw (.refused e)

/-- The octet at a position. -/
def octet (data : Octets) (i : Nat) : Reached UInt8 :=
  match data[i]? with
  | some o => pure o
  | none => throw .outside

/-- The number of two octets from a position. -/
def uint16At (data : Octets) (offset : Nat) : Reached UInt16 :=
  return Octets.uint16 [← octet data offset, ← octet data (offset + 1)]

/-- The number of four octets from a position. -/
def uint32At (data : Octets) (offset : Nat) : Reached UInt32 :=
  return Octets.uint32 [← octet data offset, ← octet data (offset + 1), ← octet data (offset + 2),
    ← octet data (offset + 3)]

/-- The octets from one position to another. -/
def slice (data : Octets) (start stop : Nat) : Reached Octets :=
  if start ≤ stop ∧ stop ≤ data.length then pure ((data.take stop).drop start) else throw .outside

/-- The octets from a position on. -/
def tail (data : Octets) (start : Nat) : Reached Octets := slice data start data.length

/-- Octets that have to be so many. -/
def sized (size : Nat) (octets : Octets) : Reached Octets :=
  if octets.length = size then pure octets else throw .outside

/-- What is left after so many octets. -/
def advance (n : Nat) (data : Octets) : Reached Octets :=
  if n ≤ data.length then pure (data.drop n) else throw .outside

/-- A difference, which must not be negative. -/
def minus (a b : Nat) : Reached Nat := if b ≤ a then pure (a - b) else throw .outside

section
variable {α β : Type} {data front rest : Octets} {i n start stop : Nat}

@[simp] theorem answer_ok (a : α) : answer (.ok a) = .ok a := rfl

@[simp] theorem answer_error (e : CodecError) :
    (answer (.error e) : Reached α) = .error (.refused e) := rfl

@[simp] theorem answer_bind (x : Coded α) (f : α → Coded β) :
    answer (x >>= f) = answer x >>= fun a => answer (f a) := by
  cases x <;> rfl

@[simp] theorem refuse_eq (e : CodecError) : (refuse e : Reached α) = .error (.refused e) := rfl

theorem stays (x : Coded α) : Stays (answer x) x := by
  refine ⟨?_, rfl⟩
  cases x <;> simp

theorem stays_of_eq {reached : Reached α} {x : Coded α} (h : reached = answer x) :
    Stays reached x := h ▸ stays x

@[simp] theorem octet_cons_zero (o : UInt8) : octet (o :: rest) 0 = .ok o := rfl

@[simp] theorem octet_cons_succ (o : UInt8) (i : Nat) :
    octet (o :: rest) (i + 1) = octet rest i := rfl

theorem octet_of_drop {o : UInt8} (h : data.drop i = o :: rest) : octet data i = .ok o := by
  have hi : data[i]? = some o := by
    rw [← List.head?_drop, h]
    rfl
  rw [octet, hi]
  rfl

theorem octet_of_take_drop {o : UInt8} (h : (data.take stop).drop i = o :: rest) :
    octet data i = .ok o := by
  rw [List.drop_take] at h
  match hd : data.drop i with
  | [] => simp [hd] at h
  | first :: following =>
    match hs : stop - i with
    | 0 => simp [hs] at h
    | n + 1 =>
      rw [hs, hd, List.take_succ_cons, List.cons.injEq] at h
      exact octet_of_drop (hd.trans (by rw [h.1]))

theorem slice_eq (h : start ≤ stop) (h' : stop ≤ data.length) :
    slice data start stop = .ok ((data.take stop).drop start) := if_pos ⟨h, h'⟩

theorem tail_eq (h : start ≤ data.length) : tail data start = .ok (data.drop start) := by
  rw [tail, slice_eq h (Nat.le_refl _), List.take_length]

theorem slice_of_drop (h : (data.take stop).drop start = front ++ rest)
    (hs : start + front.length ≤ stop) (hd : stop ≤ data.length) :
    slice data start (start + front.length) = .ok front := by
  have htake : data.take (start + front.length) = (data.take stop).take (start + front.length) := by
    rw [List.take_take, Nat.min_eq_left hs]
  rw [slice_eq (Nat.le_add_right ..) (hs.trans hd), htake, ← List.take_drop, h, List.take_left]

theorem advance_eq (h : n ≤ data.length) : advance n data = .ok (data.drop n) := if_pos h

theorem minus_eq {a b : Nat} (h : b ≤ a) : minus a b = .ok (a - b) := if_pos h

theorem split_eq (h : n ≤ data.length) :
    Octets.split? n data = some (data.take n, data.drop n) :=
  if_pos (List.length_take_of_le h)

theorem ensured (h : n ≤ data.length) : answer (ensureSize data.length n) = .ok () := by
  rw [ensureSize, if_neg (Nat.not_lt.2 h)]
  rfl

theorem length_front (h : front.length = n) (rest : Octets) : n ≤ (front ++ rest).length := by
  rw [List.length_append, h]
  exact Nat.le_add_right ..

/-- Octets of a size go apart at it. -/
theorem exists_front (h : ¬data.length < n) :
    ∃ front rest, data = front ++ rest ∧ front.length = n :=
  ⟨data.take n, data.drop n, (List.take_append_drop n data).symm,
    List.length_take_of_le (Nat.le_of_not_lt h)⟩

end
end Reached
end GtpControl
