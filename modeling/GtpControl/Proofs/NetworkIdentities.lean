import GtpControl.Proofs.DigitStrings
import GtpControl.Value.Plmn

/-! # Network identities: which octets are read as the network that they are written for

The reader shows nibbles in decimal, so one that is no digit takes two characters. A country code of more
than three characters cannot be written again. A network code can: a digit and a nibble that is none are shown
as three digits, and if the third nibble is the filler, they are taken for those of another network. -/
namespace GtpControl.Plmn
open Tbcd
variable {plmn : Plmn} {octets again rest : Octets} {a b c : UInt8} {more : List Nat} {x y z : Nat}

/-! ## Nibbles in decimal -/

/-- The digits that a nibble is shown with. -/
def shown (n : Nat) : List Nat := if n < 10 then [n] else [1, n - 10]

theorem toList_toString : ∀ n < 16, (toString n).toList = (shown n).map digitChar := by decide

theorem shown_lt : ∀ n < 16, ∀ d ∈ shown n, d < 10 := by decide

theorem shown_of_lt (h : x < 10) : shown x = [x] := if_pos h

theorem length_shown (n : Nat) : (shown n).length = if n < 10 then 1 else 2 := by
  rw [shown]
  split <;> rfl

/-- The third nibble of a network code, which is not there when it is the filler. -/
def third (n : Nat) : List Nat := if n = filler then [] else [n]

theorem third_filler : third filler = [] := rfl

theorem third_of_ne (h : x ≠ filler) : third x = [x] := if_neg h

theorem length_third_le (n : Nat) : (third n).length ≤ 1 := by
  rw [third]
  split
  case isTrue => exact Nat.zero_le 1
  case isFalse => exact Nat.le_refl 1

theorem headD_third (n : Nat) : (third n).headD filler = n := by
  rw [third]
  split
  case isTrue h => exact h.symm
  case isFalse => rfl

/-- A digit is not taken for the filler. -/
theorem third_headD (hl : more.length ≤ 1) (h : ∀ n ∈ more, n < 10) :
    third (more.headD filler) = more := by
  match more, hl with
  | [], _ => rfl
  | [n], _ => exact third_of_ne (Nat.ne_of_lt (Nat.lt_trans (h n List.mem_cons_self) (by decide)))

/-- The digits that are shown as the country code. -/
def countryDigits (a b : UInt8) : List Nat :=
  shown (a.toNat % 16) ++ shown (a.toNat / 16) ++ shown (b.toNat % 16)

/-- What is shown as the network code: two nibbles in decimal, and a third one that is not the filler as
one character. -/
def networkNibbles (b c : UInt8) : List Nat :=
  shown (c.toNat % 16) ++ shown (c.toNat / 16) ++ third (b.toNat / 16)

theorem countryDigits_lt (a b : UInt8) : ∀ d ∈ countryDigits a b, d < 10 := by
  simp only [countryDigits, List.forall_mem_append]
  exact ⟨⟨shown_lt _ (low_lt a), shown_lt _ (high_lt a)⟩, shown_lt _ (low_lt b)⟩

theorem networkNibbles_lt (b c : UInt8) : ∀ n ∈ networkNibbles b c, n < 16 := by
  have hlow := shown_lt _ (low_lt c)
  have hhigh := shown_lt _ (high_lt c)
  simp only [networkNibbles, List.forall_mem_append]
  refine ⟨⟨fun n hn => ?_, fun n hn => ?_⟩, ?_⟩
  · exact Nat.lt_trans (hlow n hn) (by decide)
  · exact Nat.lt_trans (hhigh n hn) (by decide)
  · rw [third]
    split
    case isTrue => exact List.forall_mem_nil _
    case isFalse => exact List.forall_mem_singleton.2 (high_lt b)

theorem countryDigits_of_lt (h : a.toNat % 16 < 10 ∧ a.toNat / 16 < 10 ∧ b.toNat % 16 < 10) :
    countryDigits a b = [a.toNat % 16, a.toNat / 16, b.toNat % 16] := by
  rw [countryDigits, shown_of_lt h.1, shown_of_lt h.2.1, shown_of_lt h.2.2]
  rfl

theorem networkNibbles_of_lt (h : c.toNat % 16 < 10 ∧ c.toNat / 16 < 10) :
    networkNibbles b c = c.toNat % 16 :: c.toNat / 16 :: third (b.toNat / 16) := by
  rw [networkNibbles, shown_of_lt h.1, shown_of_lt h.2]
  rfl

theorem decode_cons (a b c : UInt8) (rest : Octets) :
    ∃ plmn, decode (a :: b :: c :: rest) = .ok plmn ∧
      plmn.mcc.toList = (countryDigits a b).map digitChar ∧
      plmn.mnc.toList = (networkNibbles b c).map digitChar := by
  refine ⟨_, rfl, ?_, ?_⟩
  · simp only [countryDigits, List.map_append, ← toList_toString _ (low_lt _),
      ← toList_toString _ (high_lt _), ← String.toList_append]
  · simp only [networkNibbles, third, List.map_append, ← toList_toString _ (low_lt _),
      ← toList_toString _ (high_lt _), ← String.toList_append]
    split <;> simp

/-! ## Writing -/

/-- Three digits of country and three nibbles of network, in the order of the octets. -/
def triple (c1 c2 c3 n1 n2 n3 : Nat) : Octets :=
  [.ofNat (c2 * 16 + c1), .ofNat (n3 * 16 + c3), .ofNat (n2 * 16 + n1)]

theorem encode_eq_ok :
    encode plmn = .ok octets ↔
      ∃ c1 c2 c3 n1 n2 more, digits plmn.mcc = .ok [c1, c2, c3] ∧
        digits plmn.mnc = .ok (n1 :: n2 :: more) ∧ more.length ≤ 1 ∧
        octets = triple c1 c2 c3 n1 n2 (more.headD filler) := by
  simp only [encode, bind_eq_ok]
  constructor
  · rintro ⟨mcc, hmcc, mnc, hmnc, h⟩
    split at h
    · next c1 c2 c3 n1 n2 =>
      exact ⟨c1, c2, c3, n1, n2, [], hmcc, hmnc, Nat.zero_le _, (Except.ok.inj h).symm⟩
    · next c1 c2 c3 n1 n2 n3 =>
      exact ⟨c1, c2, c3, n1, n2, [n3], hmcc, hmnc, Nat.le_refl _, (Except.ok.inj h).symm⟩
    · cases h
  · rintro ⟨c1, c2, c3, n1, n2, more, hmcc, hmnc, hmore, rfl⟩
    refine ⟨_, hmcc, _, hmnc, ?_⟩
    cases more with
    | nil => rfl
    | cons n3 rest =>
      cases List.length_eq_zero_iff.1 (Nat.le_zero.1 (Nat.le_of_succ_le_succ hmore))
      rfl

theorem shown_eq_three {c1 c2 c3 : Nat} (h : shown x ++ shown y ++ shown z = [c1, c2, c3]) :
    x < 10 ∧ y < 10 ∧ z < 10 := by
  have hl := congrArg List.length h
  simp only [List.length_append, length_shown, List.length_cons, List.length_nil] at hl
  split_ifs at hl <;> omega

/-! ## Reading and writing again -/

/-- Three digits of country, and two or three of network. -/
def Legible (octets : Octets) : Prop :=
  match nibbles (octets.take 3) with
  | [c1, c2, c3, n3, n1, n2] =>
    (c1 < 10 ∧ c2 < 10 ∧ c3 < 10) ∧ (n1 < 10 ∧ n2 < 10) ∧ (n3 < 10 ∨ n3 = filler)
  | _ => False

/-- Three digits of country and two nibbles of network, of which only one is a digit. -/
def Misread (octets : Octets) : Prop :=
  match nibbles (octets.take 3) with
  | [c1, c2, c3, n3, n1, n2] =>
    (c1 < 10 ∧ c2 < 10 ∧ c3 < 10) ∧ n3 = filler ∧ (n1 < 10 ↔ ¬ n2 < 10)
  | _ => False

/-- What was read is written again exactly when it shows three digits of country and two or three of
network. -/
theorem encode_decoded (hd : decode (a :: b :: c :: rest) = .ok plmn) :
    encode plmn = .ok again ↔
      ∃ c1 c2 c3 n1 n2 more, [c1, c2, c3] = countryDigits a b ∧
        ((∀ n ∈ networkNibbles b c, n < 10) ∧ n1 :: n2 :: more = networkNibbles b c) ∧
        more.length ≤ 1 ∧ again = triple c1 c2 c3 n1 n2 (more.headD filler) := by
  obtain ⟨plmn', hd', hmcc, hmnc⟩ := decode_cons a b c rest
  cases hd.symm.trans hd'
  have hcountry := countryDigits_lt a b
  simp only [encode_eq_ok, digits_of_nibbles hmnc (networkNibbles_lt b c),
    digits_of_nibbles hmcc fun d hm => Nat.lt_trans (hcountry d hm) (by decide),
    iff_true_intro hcountry, true_and]

theorem legible_or_misread (hd : decode (a :: b :: c :: rest) = .ok plmn)
    (he : encode plmn = .ok again) :
    Legible (a :: b :: c :: rest) ∨ Misread (a :: b :: c :: rest) := by
  obtain ⟨c1, c2, c3, n1, n2, more, hcountry, ⟨hdigits, hnetwork⟩, hmore, -⟩ :=
    (encode_decoded hd).1 he
  have hc := shown_eq_three hcountry.symm
  have hl := congrArg List.length hnetwork
  simp only [networkNibbles, List.length_append, length_shown, List.length_cons] at hl
  by_cases hfiller : b.toNat / 16 = filler
  · rw [hfiller, third_filler, List.length_nil] at hl
    by_cases hboth : c.toNat % 16 < 10 ∧ c.toNat / 16 < 10
    · exact .inl ⟨hc, hboth, .inr hfiller⟩
    · -- Two nibbles that are none are shown as four digits.
      refine .inr ⟨hc, hfiller, ?_⟩
      split_ifs at hl <;> omega
  · have hthird : b.toNat / 16 < 10 := by
      refine hdigits _ (List.mem_append_right _ ?_)
      rw [third_of_ne hfiller]
      exact List.mem_singleton_self _
    rw [third_of_ne hfiller, List.length_singleton] at hl
    have hboth : c.toNat % 16 < 10 ∧ c.toNat / 16 < 10 := by
      split_ifs at hl <;> omega
    exact .inl ⟨hc, hboth, .inl hthird⟩

/-- Legible octets are written again as they were. -/
theorem encode_of_legible (hd : decode (a :: b :: c :: rest) = .ok plmn)
    (h : Legible (a :: b :: c :: rest)) : encode plmn = .ok [a, b, c] := by
  obtain ⟨hcountry, hnetwork, hthird⟩ := h
  refine (encode_decoded hd).2 ⟨_, _, _, _, _, _, (countryDigits_of_lt hcountry).symm,
    ⟨?_, (networkNibbles_of_lt hnetwork).symm⟩, length_third_le _, ?_⟩
  · rw [networkNibbles_of_lt hnetwork, List.forall_mem_cons, List.forall_mem_cons, third]
    refine ⟨hnetwork.1, hnetwork.2, ?_⟩
    split
    case isTrue => exact List.forall_mem_nil _
    case isFalse hne => exact List.forall_mem_singleton.2 (hthird.resolve_right hne)
  · rw [headD_third, triple, ofNat_nibbles, ofNat_nibbles, ofNat_nibbles]

/-- Misread octets are written again with a third digit in the place of the filler. -/
theorem encode_of_misread (hd : decode (a :: b :: c :: rest) = .ok plmn)
    (h : Misread (a :: b :: c :: rest)) : ∃ again, encode plmn = .ok again ∧ again ≠ [a, b, c] := by
  obtain ⟨hcountry, hfiller, hone⟩ := h
  have hnetwork : networkNibbles b c = shown (c.toNat % 16) ++ shown (c.toNat / 16) := by
    rw [networkNibbles, hfiller, third_filler, List.append_nil]
  have hlt : ∀ n ∈ networkNibbles b c, n < 10 := by
    rw [hnetwork, List.forall_mem_append]
    exact ⟨shown_lt _ (low_lt c), shown_lt _ (high_lt c)⟩
  have hlength : (networkNibbles b c).length = 3 := by
    rw [hnetwork, List.length_append, length_shown, length_shown]
    split_ifs <;> omega
  obtain ⟨n1, n2, n3, hthree⟩ := List.length_eq_three.1 hlength
  have hn3 : n3 < 10 := hlt n3 (by simp [hthree])
  refine ⟨_, (encode_decoded hd).2 ⟨_, _, _, n1, n2, [n3], (countryDigits_of_lt hcountry).symm,
    ⟨hlt, hthree.symm⟩, Nat.le_refl _, rfl⟩, fun h => ?_⟩
  -- The third digit stands where the filler was.
  have hb : UInt8.ofNat (n3 * 16 + b.toNat % 16) = b := by
    injection h with _ h
    injection h
  have hhigh := ((ofNat_eq_iff (low_lt b) (by omega) b).1 hb).2
  rw [hfiller, filler] at hhigh
  omega

/-! ## Writing and reading -/

/-- Three digits of country and the nibbles of a network code are shown as they are. -/
theorem decode_triple {c1 c2 c3 n1 n2 : Nat} (hc : ∀ d ∈ [c1, c2, c3], d < 10)
    (hn : ∀ n ∈ n1 :: n2 :: more, n < 10) (hl : more.length ≤ 1) :
    ∃ plmn, decode (triple c1 c2 c3 n1 n2 (more.headD filler)) = .ok plmn ∧
      plmn.mcc.toList = [c1, c2, c3].map digitChar ∧
      plmn.mnc.toList = (n1 :: n2 :: more).map digitChar := by
  obtain ⟨h1, h2, h3, -⟩ : c1 < 10 ∧ c2 < 10 ∧ c3 < 10 ∧ True := by simpa using hc
  obtain ⟨h4, h5, hmore⟩ : n1 < 10 ∧ n2 < 10 ∧ ∀ n ∈ more, n < 10 := by simpa using hn
  have h6 : more.headD filler < 16 := by
    match more with
    | [] => decide
    | n3 :: _ => exact Nat.lt_trans (hmore n3 List.mem_cons_self) (by decide)
  obtain ⟨plmn, hd, hmcc, hmnc⟩ := decode_cons (.ofNat (c2 * 16 + c1))
    (.ofNat (more.headD filler * 16 + c3)) (.ofNat (n2 * 16 + n1)) []
  have ha := (ofNat_eq_iff (show c1 < 16 by omega) (show c2 < 16 by omega) _).1 rfl
  have hb := (ofNat_eq_iff (show c3 < 16 by omega) h6 _).1 rfl
  have hc := (ofNat_eq_iff (show n1 < 16 by omega) (show n2 < 16 by omega) _).1 rfl
  rw [countryDigits_of_lt (by omega), ha.1, ha.2, hb.1] at hmcc
  rw [networkNibbles_of_lt (by omega), hc.1, hc.2, hb.2, third_headD hl hmore] at hmnc
  exact ⟨plmn, hd, hmcc, hmnc⟩

/-- What is written is read as the network that it was written for. -/
theorem decode_encoded (h : encode plmn = .ok octets) :
    octets.length = 3 ∧ decode octets = .ok plmn := by
  obtain ⟨c1, c2, c3, n1, n2, more, hmcc, hmnc, hmore, rfl⟩ := encode_eq_ok.1 h
  obtain ⟨hcountry, hcchars⟩ := toList_of_digits hmcc
  obtain ⟨hnetwork, hnchars⟩ := toList_of_digits hmnc
  obtain ⟨plmn', hd, hmcc', hmnc'⟩ := decode_triple hcountry hnetwork hmore
  rw [hcchars, String.toList_inj] at hmcc'
  rw [hnchars, String.toList_inj] at hmnc'
  refine ⟨rfl, hd.trans (congrArg Except.ok ?_)⟩
  cases plmn
  cases plmn'
  exact congrArg₂ mk hmcc' hmnc'

theorem decode_eq_ok_iff (octets : Octets) :
    (∃ plmn, decode octets = .ok plmn) ↔ 3 ≤ octets.length := by
  match octets with
  | [] | [_] | [_, _] => exact iff_of_false (fun ⟨_, h⟩ => nomatch h) (by simp)
  | a :: b :: c :: rest =>
    obtain ⟨plmn, hd, -⟩ := decode_cons a b c rest
    exact iff_of_true ⟨plmn, hd⟩ (Nat.le_add_left ..)

/-- Octets are read as a network when there are three of them. It is written again as those three exactly
when they are legible, and as other octets exactly when they are misread; in all other cases it cannot be
written. What is written for a network is read as that network. -/
theorem network_of_decoded (octets : Octets) (plmn : Plmn) :
    ((∃ plmn, decode octets = .ok plmn) ↔ 3 ≤ octets.length) ∧
    (decode octets = .ok plmn →
      (encode plmn = .ok (octets.take 3) ↔ Legible octets) ∧
      ((∃ again, encode plmn = .ok again ∧ again ≠ octets.take 3) ↔ Misread octets)) ∧
    (encode plmn = .ok octets → octets.length = 3 ∧ decode octets = .ok plmn) := by
  refine ⟨decode_eq_ok_iff octets, fun hd => ?_, decode_encoded⟩
  match octets with
  | [] | [_] | [_, _] => cases hd
  | a :: b :: c :: rest =>
    refine ⟨⟨fun he => ?_, encode_of_legible hd⟩, ⟨?_, encode_of_misread hd⟩⟩
    · refine (legible_or_misread hd he).resolve_right fun hm => ?_
      obtain ⟨again, ha, hne⟩ := encode_of_misread hd hm
      exact hne (Except.ok.inj (ha.symm.trans he))
    · rintro ⟨again, he, hne⟩
      refine (legible_or_misread hd he).resolve_left fun hl => hne ?_
      exact Except.ok.inj (he.symm.trans (encode_of_legible hd hl))

/-- A third digit stands in the place of the filler. After a digit one and a nibble ten there is none, and they
are shown as `110`. -/
theorem network_of_decoded_three_digits :
    decode [0x13, 0x00, 0x14, 0xff] = .ok ⟨"310", "410"⟩ ∧ Legible [0x13, 0x00, 0x14, 0xff] ∧
      encode ⟨"310", "410"⟩ = .ok [0x13, 0x00, 0x14] ∧
    decode [0x00, 0xf1, 0xa1] = .ok ⟨"001", "110"⟩ ∧ Misread [0x00, 0xf1, 0xa1] ∧
      ∃ again, encode ⟨"001", "110"⟩ = .ok again ∧ again ≠ [0x00, 0xf1, 0xa1] := by
  have hd : decode [0x13, 0x00, 0x14, 0xff] = .ok ⟨"310", "410"⟩ := by decide
  have hd' : decode [0x00, 0xf1, 0xa1] = .ok ⟨"001", "110"⟩ := by decide
  have hl : Legible [0x13, 0x00, 0x14, 0xff] := by simp [Legible, nibbles]
  have hm : Misread [0x00, 0xf1, 0xa1] := by simp [Misread, nibbles, filler]
  exact ⟨hd, hl, ((network_of_decoded _ _).2.1 hd).1.2 hl, hd', hm,
    ((network_of_decoded _ _).2.1 hd').2.2 hm⟩

/-- Octets with a nibble that is no digit are read as the network 001-110 and are not what is written for
it. -/
theorem other_network :
    decode [0x00, 0xf1, 0xa1] = .ok ⟨"001", "110"⟩ ∧ encode ⟨"001", "110"⟩ = .ok [0x00, 0x01, 0x11] ∧
      ¬ ∀ octets plmn again, decode octets = .ok plmn → encode plmn = .ok again →
        again = octets.take 3 := by
  have hd : decode [0x00, 0xf1, 0xa1] = .ok ⟨"001", "110"⟩ := by decide
  have he : encode ⟨"001", "110"⟩ = .ok [0x00, 0x01, 0x11] := by decide
  exact ⟨hd, he, fun h => absurd (h _ _ _ hd he) (by decide)⟩

end GtpControl.Plmn
