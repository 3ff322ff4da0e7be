import GtpControl.Element.V0
import GtpControl.Element.V1
import GtpControl.Proofs.TunnelIdentifiers

/-! # Subscriber identities of a fixed width: which texts fit elements and tunnel identifiers

An element of either version has sixteen nibbles for the digits, and a tunnel identifier has fifteen, as its
last one is the access point's. All three refuse a text with another character for the same reason, and a text
that is too long as well, but elements take sixteen digits. -/
namespace GtpControl.Imsi
open Tbcd Element
variable {imsi : String} {nsapi : UInt8} {ds : List Nat} {e : CodecError}

/-! ## Elements -/

theorem paddedImsi_eq (h : digits imsi = .ok ds) :
    paddedImsi imsi =
      if 16 < ds.length then .error (.malformed (.imsiTooLong imsi)) else .ok (filled 8 ds) := by
  have hlimit : 8 < (pack ds).length ↔ 16 < ds.length := by
    rw [length_pack]
    omega
  rw [paddedImsi, encode_of_digits h, ok_bind]
  simp only [hlimit]
  split <;> rfl

theorem paddedImsi_of_error (h : digits imsi = .error e) : paddedImsi imsi = .error e := by
  rw [paddedImsi, encode_of_digits_eq_error h]
  rfl

/-- Filled up digits are read from an element of any version as they were. -/
theorem readDigits_filled (h : digits imsi = .ok ds) (hl : ds.length ≤ 16) (version : Version)
    (type : UInt8) : readDigits type 8 (plain version type 0 (filled 8 ds)) = .ok imsi := by
  have hexpect : expect type (plain version type 0 (filled 8 ds)) = .ok (filled 8 ds) := if_pos rfl
  rw [readDigits, hexpect, ok_bind, ensureSize, length_filled hl, if_neg (Nat.lt_irrefl 8), pure_eq,
    ok_bind, decode_filled h hl, pure_eq]

/-! ## All three -/

/-- Elements of both versions are made of the text, and it is read from them again. -/
def FitsElements (imsi : String) : Prop :=
  (∃ element, V0.ofImsi imsi = .ok element ∧ V0.imsi element = .ok imsi) ∧
    ∃ element, V1.ofImsi imsi = .ok element ∧ V1.imsi element = .ok imsi

/-- A tunnel identifier is made of the text, and it is read from that again. -/
def FitsTunnel (imsi : String) (nsapi : UInt8) : Prop :=
  ∃ tid, TunnelId.encode imsi nsapi = .ok tid ∧ (TunnelId.parts tid).1 = imsi

/-- The text is malformed for elements of both versions and for tunnel identifiers, in one way. -/
def Refused (imsi : String) (nsapi : UInt8) : Prop :=
  ∃ what, V0.ofImsi imsi = .error (.malformed what) ∧ V1.ofImsi imsi = .error (.malformed what) ∧
    TunnelId.encode imsi nsapi = .error (.malformed what)

theorem fitsElements_of_digits (h : digits imsi = .ok ds) (hl : ds.length ≤ 16) :
    FitsElements imsi := by
  have hpadded : paddedImsi imsi = .ok (filled 8 ds) :=
    (paddedImsi_eq h).trans (if_neg (Nat.not_lt.2 hl))
  refine ⟨⟨_, ?_, readDigits_filled h hl .v0 _⟩, _, ?_, readDigits_filled h hl .v1 _⟩
  · rw [V0.ofImsi, hpadded]
    rfl
  · rw [V1.ofImsi, hpadded]
    rfl

theorem fitsTunnel_of_digits (h : digits imsi = .ok ds) (hl : ds.length ≤ 15) (nsapi : UInt8) :
    FitsTunnel imsi nsapi := by
  obtain ⟨tid, he, -⟩ := TunnelId.nibbles_of_digits h hl nsapi
  exact ⟨tid, he, congrArg Prod.fst (TunnelId.parts_encode he)⟩

/-- Elements refuse what they cannot fill up. -/
theorem refused_of_paddedImsi {what : Malformation} (hp : paddedImsi imsi = .error (.malformed what))
    (ht : TunnelId.encode imsi nsapi = .error (.malformed what)) : Refused imsi nsapi := by
  refine ⟨what, ?_, ?_, ht⟩
  · rw [V0.ofImsi, hp]
    rfl
  · rw [V1.ofImsi, hp]
    rfl

theorem refused_of_error (h : digits imsi = .error e) (nsapi : UInt8) : Refused imsi nsapi := by
  obtain ⟨c, rfl⟩ := malformed_of_digits_eq_error h
  refine refused_of_paddedImsi (paddedImsi_of_error h) ?_
  rw [TunnelId.encode, encode_of_digits_eq_error h]
  rfl

theorem tunnel_of_long (h : digits imsi = .ok ds) (hl : 15 < ds.length) (nsapi : UInt8) :
    TunnelId.encode imsi nsapi = .error (.malformed (.imsiTooLong imsi)) :=
  (TunnelId.encode_eq h nsapi).trans (if_pos hl)

theorem refused_of_long (h : digits imsi = .ok ds) (hl : 16 < ds.length) (nsapi : UInt8) :
    Refused imsi nsapi :=
  refused_of_paddedImsi ((paddedImsi_eq h).trans (if_pos hl)) (tunnel_of_long h (by omega) nsapi)

/-- What is refused fits neither. -/
theorem not_fits_of_refused (h : Refused imsi nsapi) : ¬ FitsElements imsi ∧ ¬ FitsTunnel imsi nsapi := by
  obtain ⟨what, h0, -, ht⟩ := h
  constructor
  · rintro ⟨⟨element, hf, -⟩, -⟩
    cases h0.symm.trans hf
  · rintro ⟨tid, hf, -⟩
    cases ht.symm.trans hf

/-- Texts of at most fifteen digits fit elements and tunnel identifiers, and are read again as they were;
all three refuse those of more than sixteen characters and those with a character that is no digit. Between
them, sixteen digits fit elements and are too long for a tunnel identifier. -/
theorem width_limits (imsi : String) (nsapi : UInt8) :
    (FitsElements imsi ∧ FitsTunnel imsi nsapi ↔
      imsi.length ≤ 15 ∧ ∀ c ∈ imsi.toList, c.isDigit = true) ∧
    (Refused imsi nsapi ↔ ¬ (imsi.length ≤ 16 ∧ ∀ c ∈ imsi.toList, c.isDigit = true)) ∧
    (imsi.length = 16 ∧ (∀ c ∈ imsi.toList, c.isDigit = true) → FitsElements imsi ∧
      TunnelId.encode imsi nsapi = .error (.malformed (.imsiTooLong imsi))) := by
  cases hdigits : digits imsi with
  | error e =>
    have hrefused := refused_of_error hdigits nsapi
    have hsome : ¬ ∀ c ∈ imsi.toList, c.isDigit = true := fun h => by
      cases hdigits.symm.trans (digits_eq_ok.2 ⟨h, rfl⟩)
    exact ⟨iff_of_false (fun h => (not_fits_of_refused hrefused).2 h.2) fun h => hsome h.2,
      iff_of_true hrefused fun h => hsome h.2, fun h => absurd h.2 hsome⟩
  | ok ds =>
    have hall := (digits_eq_ok.1 hdigits).1
    rw [← length_of_digits hdigits]
    rcases Nat.lt_trichotomy ds.length 16 with hlt | heq | hgt
    · have hfits := fitsElements_of_digits hdigits (Nat.le_of_lt hlt)
      have htunnel := fitsTunnel_of_digits hdigits (Nat.le_of_lt_succ hlt) nsapi
      exact ⟨iff_of_true ⟨hfits, htunnel⟩ ⟨Nat.le_of_lt_succ hlt, hall⟩,
        iff_of_false (fun h => (not_fits_of_refused h).1 hfits) (not_not_intro ⟨Nat.le_of_lt hlt, hall⟩),
        fun h => absurd h.1 (Nat.ne_of_lt hlt)⟩
    · have hfits := fitsElements_of_digits hdigits (Nat.le_of_eq heq)
      have hlong := tunnel_of_long hdigits (by omega) nsapi
      refine ⟨iff_of_false ?_ fun h => by omega,
        iff_of_false (fun h => (not_fits_of_refused h).1 hfits) (not_not_intro ⟨Nat.le_of_eq heq, hall⟩),
        fun _ => ⟨hfits, hlong⟩⟩
      rintro ⟨-, tid, h, -⟩
      cases hlong.symm.trans h
    · have hrefused := refused_of_long hdigits hgt nsapi
      exact ⟨iff_of_false (fun h => (not_fits_of_refused hrefused).1 h.1) fun h => by omega,
        iff_of_true hrefused fun h => by omega, fun h => absurd h.1 (Nat.ne_of_gt hgt)⟩

/-- Fifteen digits fit, seventeen are refused, and sixteen are neither. -/
theorem width_limits_around :
    (FitsElements "123456789012345" ∧ FitsTunnel "123456789012345" 5) ∧
      Refused "12345678901234567" 5 ∧ FitsElements "1234567890123456" ∧
      TunnelId.encode "1234567890123456" 5 =
        .error (.malformed (.imsiTooLong "1234567890123456")) :=
  ⟨(width_limits "123456789012345" 5).1.2 ⟨by decide, List.all_eq_true.1 (by decide)⟩,
    (width_limits "12345678901234567" 5).2.1.2 fun h => absurd h.1 (by decide),
    (width_limits "1234567890123456" 5).2.2 ⟨by decide, List.all_eq_true.1 (by decide)⟩⟩

/-- Sixteen digits are taken by elements of both versions and refused for a tunnel identifier. -/
theorem sixteen_digits :
    (∃ element, V0.ofImsi "1234567890123456" = .ok element ∧
      V0.imsi element = .ok "1234567890123456") ∧
    (∃ element, V1.ofImsi "1234567890123456" = .ok element ∧
      V1.imsi element = .ok "1234567890123456") ∧
    TunnelId.encode "1234567890123456" 5 =
      .error (.malformed (.imsiTooLong "1234567890123456")) :=
  ⟨⟨_, rfl, rfl⟩, ⟨_, rfl, rfl⟩, rfl⟩

end GtpControl.Imsi
