import GtpControl.CommandLine.HexText
import GtpControl.Proofs.DigitStrings
import GtpControl.Proofs.Utf8

/-! # Typed datagrams: which texts are read, and as which octets

What is left of a text without blanks and colons is read in pairs of hexadecimal digits, and the octets
show the digits that were typed. A plus sign passes for a leading zero, so a text is read although it has
a character that is no digit. -/
namespace GtpControl.HexText
variable {c : Char} {chars : List Char} {first second o : UInt8} {octets typed : Octets}
  {low high : UInt8} {n : Nat}

/-- Blanks and colons. -/
def fillers : List Char := ['\t', '\n', '\x0c', '\r', ' ', ':']

/-- What is left of a text without blanks and colons. -/
def bare (text : String) : List Char := text.toList.filter (· ∉ fillers)

def IsDigit (c : Char) : Prop := c ∈ "0123456789abcdefABCDEF".toList

instance : DecidablePred IsDigit := fun _ => inferInstanceAs (Decidable (_ ∈ _))

/-- Pairs, of which the second character is a digit, and the first one a digit or a plus sign. -/
def Paired : List Char → Prop
  | [] => True
  | [_] => False
  | a :: b :: rest => (IsDigit a ∨ a = '+') ∧ IsDigit b ∧ Paired rest

/-- The digit that a character stands for: a plus sign stands for a zero. -/
def shown (c : Char) : Char := if c = '+' then '0' else c.toLower

/-! ## Characters and octets -/

theorem toNat_lt_of_mem_fillers (h : c ∈ fillers) : c.toNat < 128 := by
  have hall : fillers.all (·.toNat < 128) = true := by decide
  exact of_decide_eq_true (List.all_eq_true.1 hall c h)

theorem toNat_lt_of_isDigit (h : IsDigit c) : c.toNat < 128 := by
  have hall : "0123456789abcdefABCDEF".toList.all (·.toNat < 128) = true := by decide
  exact of_decide_eq_true (List.all_eq_true.1 hall c h)

/-- The character that has the number of an octet. -/
def char (o : UInt8) : Char := .ofNat o.toNat

theorem toNat_ofNat (h : n < 0xd800) : (Char.ofNat n).toNat = n := by
  rw [Char.ofNat, dif_pos (Or.inl h)]
  exact UInt32.toNat_ofNatLT

theorem toNat_char (o : UInt8) : (char o).toNat = o.toNat :=
  toNat_ofNat (Nat.lt_trans o.toNat_lt (by decide))

theorem utf8EncodeChar_of_lt (h : c.toNat < 128) :
    ∃ o, String.utf8EncodeChar c = [o] ∧ char o = c := by
  refine ⟨.ofNat c.toNat, ?_, ?_⟩
  · rw [String.utf8EncodeChar]
    exact if_pos (show c.val.toNat ≤ 127 from Nat.le_of_lt_succ h)
  · have ho : (UInt8.ofNat c.toNat).toNat = c.toNat :=
      UInt8.toNat_ofNat_of_lt' (show c.toNat < 256 by omega)
    rw [char, ho, Char.ofNat_toNat]

/-- All octets of a character that is not below 128 are at least 128. -/
theorem le_of_mem_utf8EncodeChar (h : 128 ≤ c.toNat) (ho : o ∈ String.utf8EncodeChar c) :
    128 ≤ o.toNat := by
  have hc : ¬c.val.toNat ≤ 127 := fun hle => absurd (Nat.le_trans h hle) (by decide)
  rw [String.utf8EncodeChar] at ho
  generalize c.val.toNat = v at hc ho
  simp only [hc, if_false] at ho
  split_ifs at ho <;> simp only [List.mem_cons, List.not_mem_nil, or_false] at ho <;>
    rcases ho with rfl | rfl | rfl | rfl <;> rw [UInt8.toNat_ofNat'] <;> omega

theorem isFiller_iff (o : UInt8) : isFiller o = true ↔ char o ∈ fillers := by
  revert o
  exact forall_octet (by decide +kernel)

/-- Blanks and colons may be left out as octets or as characters. -/
theorem filter_utf8EncodeChar (c : Char) :
    (String.utf8EncodeChar c).filter (!isFiller ·) =
      if c ∈ fillers then [] else String.utf8EncodeChar c := by
  by_cases hc : c.toNat < 128
  · obtain ⟨o, ho, rfl⟩ := utf8EncodeChar_of_lt hc
    rw [ho, List.filter_singleton]
    by_cases hm : char o ∈ fillers
    · rw [if_pos hm, (isFiller_iff _).2 hm]
      rfl
    · rw [if_neg hm, Bool.eq_false_iff.2 (mt (isFiller_iff _).1 hm)]
      rfl
  · rw [if_neg fun hm => hc (toNat_lt_of_mem_fillers hm)]
    refine List.filter_eq_self.2 fun o ho => ?_
    have hle := le_of_mem_utf8EncodeChar (Nat.le_of_not_lt hc) ho
    rw [Bool.not_eq_true', ← Bool.not_eq_true, isFiller_iff]
    intro hm
    have hlt := toNat_lt_of_mem_fillers hm
    rw [toNat_char] at hlt
    exact Nat.not_lt_of_le hle hlt

theorem filter_utf8 (chars : List Char) :
    (Text.utf8 chars).filter (!isFiller ·) = Text.utf8 (chars.filter (· ∉ fillers)) := by
  induction chars with
  | nil => rfl
  | cons c chars ih =>
    rw [Text.utf8_cons, List.filter_append, ih, filter_utf8EncodeChar, List.filter_cons]
    by_cases h : c ∈ fillers <;> simp [h]

/-! ## Pairs of octets -/

theorem digit?_spec (o : UInt8) :
    (digit? o = none ∧ ¬IsDigit (char o)) ∨
      ∃ n < 16, digit? o = some n ∧ IsDigit (char o) ∧ Octets.hexDigit n = shown (char o) := by
  revert o
  exact forall_octet (by decide +kernel)

theorem char_eq_plus (o : UInt8) : char o = '+' ↔ o = plus := by
  revert o
  exact forall_octet (by decide +kernel)

/-- The value of the first octet of a pair. -/
def leading? (o : UInt8) : Option Nat := if o = plus then some 0 else digit? o

theorem leading?_spec (o : UInt8) :
    (leading? o = none ∧ ¬(IsDigit (char o) ∨ char o = '+')) ∨
      ∃ n < 16, leading? o = some n ∧ (IsDigit (char o) ∨ char o = '+') ∧
        Octets.hexDigit n = shown (char o) := by
  rw [leading?]
  by_cases hp : o = plus
  · have hc := (char_eq_plus o).2 hp
    rw [if_pos hp, hc]
    exact .inr ⟨0, by decide, rfl, .inr rfl, rfl⟩
  · have hc := mt (char_eq_plus o).1 hp
    rw [if_neg hp]
    rcases digit?_spec o with ⟨hn, hd⟩ | ⟨n, hlt, hn, hd, hs⟩
    · exact .inl ⟨hn, not_or.2 ⟨hd, hc⟩⟩
    · exact .inr ⟨n, hlt, hn, .inl hd, hs⟩

theorem digits?_eq (first second : UInt8) :
    digits? first second =
      (leading? first).bind fun high => (digit? second).map fun low => .ofNat (high * 16 + low) := by
  rw [digits?, leading?]
  split <;> cases digit? second <;> rfl

theorem hexDigit_inj :
    ∀ m < 16, ∀ n < 16, Octets.hexDigit m = Octets.hexDigit n → m = n := by decide

/-- Two characters denote the octet that is shown as they are. -/
theorem digits?_eq_some :
    digits? first second = some o ↔
      (IsDigit (char first) ∨ char first = '+') ∧ IsDigit (char second) ∧
        Octets.hexDigit (o.toNat / 16) = shown (char first) ∧
        Octets.hexDigit (o.toNat % 16) = shown (char second) := by
  rw [digits?_eq]
  rcases leading?_spec first with ⟨hf, hn⟩ | ⟨high, hh, hf, hd, hshown⟩
  · simp [hf, hn]
  rcases digit?_spec second with ⟨hs, hn⟩ | ⟨low, hl, hs, hd', hshown'⟩
  · simp [hs, hn]
  rw [hf, hs, Option.bind_some, Option.map_some, Option.some_inj, Tbcd.ofNat_eq_iff hl hh,
    ← hshown, ← hshown']
  constructor
  · rintro ⟨rfl, rfl⟩
    exact ⟨hd, hd', rfl, rfl⟩
  · rintro ⟨-, -, h1, h2⟩
    exact ⟨hexDigit_inj _ (Tbcd.low_lt o) _ hl h2, hexDigit_inj _ (Tbcd.high_lt o) _ hh h1⟩

theorem continuations_char (h : (char o).toNat < 128) :
    Text.continuations o = some (0, 0x80, 0xbf) :=
  Text.continuations_one (toNat_char o).symm h

/-- A pair of octets is read exactly when it is two digits; then it is a text. -/
theorem pair_eq_ok : pair first second = .ok o ↔ digits? first second = some o := by
  constructor
  · intro h
    unfold pair at h
    split at h
    · cases h
    · split at h
      · cases h
      · cases hd : digits? first second with
        | none => simp [hd] at h
        | some octet => simpa [hd] using h
      · cases h
    · split at h <;> cases h
  · intro h
    obtain ⟨hf, hs, -⟩ := digits?_eq_some.1 h
    have hfirst : (char first).toNat < 128 :=
      hf.elim toNat_lt_of_isDigit fun hp => hp ▸ by decide
    rw [pair, continuations_char hfirst, continuations_char (toNat_lt_of_isDigit hs), h]
    rfl

/-! ## Pairs as texts -/

/-- The octet that hexadecimal digits denote; a plus sign may go before them. -/
def numeral? (text : List Char) : Option UInt8 :=
  let digits := match text with
    | '+' :: digits => digits
    | digits => digits
  if digits.isEmpty then none
  else do
    let n := (← digits.mapM (Text.digit? 16)).foldl (fun n value => n * 16 + value) 0
    if n < 256 then some (.ofNat n) else none

theorem lt_of_digit? (h : digit? o = some n) : n < 16 := by
  rw [digit?, Text.digit?] at h
  exact of_decide_eq_true (Option.filter_eq_some_iff.1 h).2

theorem numeral?_pair (first second : UInt8) :
    numeral? [char first, char second] = digits? first second := by
  have hdigit : ∀ o, Text.digit? 16 (char o) = digit? o := fun _ => rfl
  rw [digits?_eq, leading?]
  by_cases hp : first = plus
  · rw [(char_eq_plus first).2 hp, if_pos hp]
    cases hs : digit? second with
    | none => simp [numeral?, hdigit, hs]
    | some low =>
      have hl := lt_of_digit? hs
      simp [numeral?, hdigit, hs]
      omega
  · have hc := mt (char_eq_plus first).1 hp
    rw [if_neg hp]
    cases hf : digit? first with
    | none => simp [numeral?, hc, hdigit, hf]
    | some high =>
      cases hs : digit? second with
      | none => simp [numeral?, hc, hdigit, hf, hs]
      | some low =>
        have hh := lt_of_digit? hf
        have hl := lt_of_digit? hs
        simp [numeral?, hc, hdigit, hf, hs]
        omega

theorem numeral?_singleton (h : 128 ≤ c.toNat) : numeral? [c] = none := by
  have hp : c ≠ '+' := by
    rintro rfl
    exact absurd h (by decide)
  have hd : Text.digit? 16 c = none := by
    rw [Text.digit?, if_neg (by omega), if_neg (by omega), if_neg (by omega)]
    rfl
  simp [numeral?, hp, hd]

/-- Two octets that are one character. -/
theorem numeral?_continued (h : Text.continuations first = some (1, low, high)) (second : UInt8) :
    numeral? [.ofNat (first.toNat % 32 * 64 + second.toNat % 64)] = none := by
  have hfirst : 194 ≤ first.toNat ∧ first.toNat < 224 := by
    simp only [Text.continuations, UInt8.lt_iff_toNat_lt, UInt8.reduceToNat] at h
    split_ifs at h <;> simp_all
  refine numeral?_singleton ?_
  rw [toNat_ofNat (by omega)]
  omega

/-- A pair of octets is read when it is a text and this text is a numeral. -/
theorem toOption_pair (first second : UInt8) :
    (pair first second).toOption = (Text.decode? [first, second]).bind numeral? := by
  rw [pair, Text.decode?, Text.readChar]
  rcases hf : Text.continuations first with _ | ⟨_ | _ | more, low, high⟩
  case none => rfl
  case some.zero =>
    simp only [Text.readContinuations, Text.leadBits, Text.decode?, Text.readChar]
    rcases hs : Text.continuations second with _ | ⟨_ | more, low, high⟩
    · rfl
    · have hpair := numeral?_pair first second
      simp only [char] at hpair
      simp only [Text.readContinuations, Text.decode?, Option.map_some, Option.bind_some, hpair]
      cases digits? first second <;> rfl
    · rfl
  case some.succ.zero =>
    simp only [Text.readContinuations, Text.leadBits]
    split
    · simp only [Text.decode?, Option.map_some, Option.bind_some, numeral?_continued hf]
      rfl
    · rfl
  case some.succ.succ =>
    simp only [Text.readContinuations]
    split <;> rfl

/-! ## Texts -/

theorem toHexChars_eq_nil : octets.toHexChars = [] ↔ octets = [] := by
  cases octets <;> simp [Octets.toHexChars]

theorem toHexChars_eq_cons {a b : Char} {rest : List Char} :
    octets.toHexChars = a :: b :: rest ↔
      ∃ o more, octets = o :: more ∧
        (Octets.hexDigit (o.toNat / 16) = a ∧ Octets.hexDigit (o.toNat % 16) = b) ∧
        Octets.toHexChars more = rest := by
  cases octets <;> simp [Octets.toHexChars, and_assoc]

/-- An even number of octets is read exactly when their characters are pairs of digits, and as the octets
that show them. -/
theorem pairs_eq_ok :
    (typed.length % 2 = 0 ∧ pairs typed = .ok octets) ↔
      Paired (typed.map char) ∧ octets.toHexChars = (typed.map char).map shown := by
  induction typed using pairs.induct generalizing octets with
  | case1 first second rest ih =>
    have hlen : (first :: second :: rest).length % 2 = rest.length % 2 := by
      simp only [List.length_cons]
      omega
    simp only [hlen, pairs, bind_eq_ok, pure_eq, Except.ok.injEq, pair_eq_ok, digits?_eq_some,
      List.map_cons, Paired, toHexChars_eq_cons]
    constructor
    · rintro ⟨heven, o, ⟨hf, hs, ho⟩, more, hm, rfl⟩
      obtain ⟨hp, hshown⟩ := ih.1 ⟨heven, hm⟩
      exact ⟨⟨hf, hs, hp⟩, o, more, rfl, ho, hshown⟩
    · rintro ⟨⟨hf, hs, hp⟩, o, more, rfl, ho, hshown⟩
      obtain ⟨heven, hm⟩ := ih.2 ⟨hp, hshown⟩
      exact ⟨heven, o, ⟨hf, hs, ho⟩, more, hm, rfl⟩
  | case2 short hshort =>
    cases short with
    | nil =>
      rw [List.map_nil, List.map_nil, toHexChars_eq_nil]
      constructor
      · rintro ⟨-, h⟩
        exact ⟨trivial, (Except.ok.inj h).symm⟩
      · rintro ⟨-, rfl⟩
        exact ⟨rfl, rfl⟩
    | cons first rest =>
      cases rest with
      | nil => simp [Paired]
      | cons second rest => exact absurd rfl (hshort first second rest)

/-- Characters below 128 have the octets with their numbers. -/
theorem map_char_utf8 (h : ∀ c ∈ chars, c.toNat < 128) : (Text.utf8 chars).map char = chars := by
  induction chars with
  | nil => rfl
  | cons c chars ih =>
    rw [List.forall_mem_cons] at h
    obtain ⟨o, ho, hc⟩ := utf8EncodeChar_of_lt h.1
    rw [Text.utf8_cons, ho, List.singleton_append, List.map_cons, ih h.2, hc]

theorem Paired.toNat_lt (h : Paired chars) : ∀ c ∈ chars, c.toNat < 128 := by
  induction chars using Paired.induct with
  | case1 => exact List.forall_mem_nil _
  | case2 c => exact h.elim
  | case3 a b rest ih =>
    obtain ⟨ha, hb, hrest⟩ := h
    rw [List.forall_mem_cons, List.forall_mem_cons]
    exact ⟨ha.elim toNat_lt_of_isDigit fun hp => hp ▸ by decide, toNat_lt_of_isDigit hb, ih hrest⟩

/-- The octets of a text are pairs of digits only if its characters are. -/
theorem map_char_utf8_of_paired (h : Paired ((Text.utf8 chars).map char)) :
    (Text.utf8 chars).map char = chars := by
  refine map_char_utf8 fun c hc => Nat.lt_of_not_le fun hle => ?_
  obtain ⟨lead, tails, hoctets, -⟩ := Text.readChar_utf8EncodeChar c []
  have hlead : lead ∈ String.utf8EncodeChar c := hoctets ▸ List.mem_cons_self
  have hmem : char lead ∈ (Text.utf8 chars).map char :=
    List.mem_map_of_mem (List.mem_flatMap_of_mem hc hlead)
  have hlt := h.toNat_lt _ hmem
  rw [toNat_char] at hlt
  exact Nat.not_lt_of_le (le_of_mem_utf8EncodeChar hle hlead) hlt

theorem decode_eq_ok {text : String} :
    decode text = .ok octets ↔
      Paired (bare text) ∧ octets.toHexChars = (bare text).map shown := by
  have hdecode : decode text = .ok octets ↔ (Text.utf8 (bare text)).length % 2 = 0 ∧
      pairs (Text.utf8 (bare text)) = .ok octets := by
    rw [decode, filter_utf8, ← bare]
    split <;> simp_all
  rw [hdecode, pairs_eq_ok]
  constructor
  · rintro ⟨hp, hs⟩
    have hchars := map_char_utf8_of_paired hp
    rw [hchars] at hp hs
    exact ⟨hp, hs⟩
  · rintro ⟨hp, hs⟩
    rw [map_char_utf8 hp.toNat_lt]
    exact ⟨hp, hs⟩

/-! ## Which texts are read -/

theorem exists_hexDigit (h : IsDigit c) : ∃ n < 16, Octets.hexDigit n = shown c := by
  obtain ⟨o, -, rfl⟩ := utf8EncodeChar_of_lt (toNat_lt_of_isDigit h)
  rcases digit?_spec o with ⟨-, hn⟩ | ⟨n, hlt, -, -, hs⟩
  · exact absurd h hn
  · exact ⟨n, hlt, hs⟩

/-- Digits in pairs show some octets. -/
theorem Paired.exists_octets (h : Paired chars) :
    ∃ octets : Octets, octets.toHexChars = chars.map shown := by
  induction chars using Paired.induct with
  | case1 => exact ⟨[], rfl⟩
  | case2 c => exact h.elim
  | case3 a b rest ih =>
    obtain ⟨ha, hb, hrest⟩ := h
    obtain ⟨more, hmore⟩ := ih hrest
    obtain ⟨high, hh, hhigh⟩ : ∃ n < 16, Octets.hexDigit n = shown a :=
      ha.elim exists_hexDigit fun hp => hp ▸ ⟨0, by decide, rfl⟩
    obtain ⟨low, hl, hlow⟩ := exists_hexDigit hb
    obtain ⟨hmod, hdiv⟩ := (Tbcd.ofNat_eq_iff hl hh _).1 rfl
    refine ⟨.ofNat (high * 16 + low) :: more, toHexChars_eq_cons.2 ⟨_, more, rfl, ⟨?_, ?_⟩, hmore⟩⟩
    · rw [hdiv, hhigh]
    · rw [hmod, hlow]

/-- Without a plus sign, pairs of digits are an even number of digits. -/
theorem paired_iff (h : '+' ∉ chars) :
    Paired chars ↔ chars.length % 2 = 0 ∧ ∀ c ∈ chars, IsDigit c := by
  induction chars using Paired.induct with
  | case1 => simp [Paired]
  | case2 c => simp [Paired]
  | case3 a b rest ih =>
    have hlen : (a :: b :: rest).length % 2 = rest.length % 2 := by
      simp only [List.length_cons]
      omega
    rw [List.mem_cons, List.mem_cons, not_or, not_or] at h
    obtain ⟨ha, -, hrest⟩ := h
    rw [Paired, ih hrest, hlen, List.forall_mem_cons, List.forall_mem_cons,
      or_iff_left (Ne.symm ha)]
    tauto

theorem map_shown (h : '+' ∉ chars) : chars.map shown = chars.map Char.toLower :=
  List.map_congr_left fun c hc => if_neg fun he : c = '+' => h (he ▸ hc)

/-- A text is read exactly when it is left with pairs of digits, and as the octets that show these digits in
lower case; but a plus sign passes for a leading zero. A text without a plus sign is read exactly when it
is left with an even number of digits and nothing else. -/
theorem octets_of_typed (text : String) :
    ((∃ octets, decode text = .ok octets) ↔ Paired (bare text)) ∧
    (∀ octets, decode text = .ok octets ↔
      Paired (bare text) ∧ octets.toHexChars = (bare text).map shown) ∧
    ('+' ∉ bare text →
      ((∃ octets, decode text = .ok octets) ↔
        (bare text).length % 2 = 0 ∧ ∀ c ∈ bare text, IsDigit c) ∧
      ∀ octets, decode text = .ok octets → octets.toHexChars = (bare text).map Char.toLower) := by
  have accepted : (∃ octets, decode text = .ok octets) ↔ Paired (bare text) := by
    constructor
    · rintro ⟨octets, h⟩
      exact (decode_eq_ok.1 h).1
    · intro h
      obtain ⟨octets, hshown⟩ := h.exists_octets
      exact ⟨octets, decode_eq_ok.2 ⟨h, hshown⟩⟩
  refine ⟨accepted, fun octets => decode_eq_ok, fun hplus => ⟨?_, fun octets h => ?_⟩⟩
  · exact accepted.trans (paired_iff hplus)
  · rw [← map_shown hplus]
    exact (decode_eq_ok.1 h).2

/-- Digits of both cases are read as octets, and three digits are not. -/
theorem octets_of_typed_mixed :
    '+' ∉ bare "4E f0:00 0c" ∧ (∃ octets, decode "4E f0:00 0c" = .ok octets ∧
      octets.toHexChars = "4ef0000c".toList) ∧
    '+' ∉ bare "4e f" ∧ ¬∃ octets, decode "4e f" = .ok octets := by
  have hmixed : '+' ∉ bare "4E f0:00 0c" := by decide
  have hhalf : '+' ∉ bare "4e f" := by decide
  obtain ⟨accepted, hlower⟩ := (octets_of_typed "4E f0:00 0c").2.2 hmixed
  have hall : (bare "4E f0:00 0c").all (IsDigit ·) = true := by decide
  have hdigits := List.all_eq_true.1 hall
  obtain ⟨octets, h⟩ := accepted.2 ⟨by decide, fun c hc => of_decide_eq_true (hdigits c hc)⟩
  refine ⟨hmixed, ⟨octets, h, (hlower octets h).trans (by decide)⟩, hhalf, fun h => ?_⟩
  exact absurd (((octets_of_typed "4e f").2.2 hhalf).1.1 h).1 (by decide)

/-- A text with a character that is neither a digit nor left out is read. -/
theorem signed_octet :
    decode "4e f0 00 02 00 05 7e +1" = .ok [0x4e, 0xf0, 0x00, 0x02, 0x00, 0x05, 0x7e, 0x01] ∧
      ¬∀ text, (∃ octets, decode text = .ok octets) →
        (bare text).length % 2 = 0 ∧ ∀ c ∈ bare text, IsDigit c := by
  have h : decode "4e f0 00 02 00 05 7e +1" =
      .ok [0x4e, 0xf0, 0x00, 0x02, 0x00, 0x05, 0x7e, 0x01] := by decide
  refine ⟨h, fun hall => ?_⟩
  have hdigit := (hall _ ⟨_, h⟩).2 '+' (by decide)
  exact absurd hdigit (by decide)

end GtpControl.HexText
