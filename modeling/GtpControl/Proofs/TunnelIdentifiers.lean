import GtpControl.Proofs.DigitStrings
import GtpControl.Proofs.Utf8
import GtpControl.Value.TunnelId

/-! # Tunnel identifiers: a subscriber and an access point, and the identifiers that are made of them

Fifteen nibbles have the digits of the subscriber and then fillers, and the last nibble has the access point.
An identifier is read up to the first of the fifteen nibbles that is no digit. What was read makes the same
identifier again when all nibbles from there on are fillers. -/
namespace GtpControl.TunnelId
open Tbcd
variable {imsi : String} {nsapi : UInt8} {tid : UInt64} {octets : Octets} {ds ns : List Nat} {n x : Nat}

/-! ## The last nibble -/

theorem setLastNibble_concat (n : Nat) (front : Octets) (o : UInt8) :
    setLastNibble n (front ++ [o]) = front ++ [UInt8.ofNat (n % 16 * 16 + o.toNat % 16)] := by
  rw [setLastNibble, List.length_append, List.length_singleton, Nat.add_sub_cancel]
  induction front with
  | nil => rfl
  | cons a front ih =>
    rw [List.cons_append, List.length_cons, List.modify_succ_cons, ih, List.cons_append]

@[simp] theorem length_setLastNibble (n : Nat) (octets : Octets) :
    (setLastNibble n octets).length = octets.length :=
  List.length_modify ..

/-- The last nibble is the high one of the last octet. -/
theorem exists_last (h : nibbles octets = ns ++ [x]) :
    ∃ front o, octets = front ++ [o] ∧ ns = nibbles front ++ [o.toNat % 16] ∧ x = o.toNat / 16 := by
  rcases List.eq_nil_or_concat octets with rfl | ⟨front, o, rfl⟩
  · exact absurd h.symm (by simp [nibbles])
  · rw [List.concat_eq_append, nibbles_append, nibbles_cons] at h
    have happend : nibbles front ++ [o.toNat % 16] ++ [o.toNat / 16] = ns ++ [x] := by
      rw [← h, List.append_assoc]
      rfl
    obtain ⟨hns, hx⟩ := List.append_inj' happend rfl
    exact ⟨front, o, List.concat_eq_append, hns.symm, (List.singleton_inj.1 hx).symm⟩

theorem nibbles_setLastNibble (h : nibbles octets = ns ++ [x]) (n : Nat) :
    nibbles (setLastNibble n octets) = ns ++ [n % 16] := by
  obtain ⟨front, o, rfl, rfl, -⟩ := exists_last h
  rw [setLastNibble_concat, nibbles_append, List.append_assoc,
    nibbles_octet (low_lt o) (Nat.mod_lt n (by decide))]
  rfl

/-- Fifteen nibbles and the last one. -/
theorem exists_nibbles (tid : UInt64) :
    ∃ ns x, nibbles (Octets.ofUInt64 tid) = ns ++ [x] ∧ ns.length = 15 := by
  have hlength : (nibbles (Octets.ofUInt64 tid)).length = 16 := by
    rw [length_nibbles, Octets.length_ofUInt64]
  rcases List.eq_nil_or_concat (nibbles (Octets.ofUInt64 tid)) with h | ⟨ns, x, h⟩
  · rw [h] at hlength
    cases hlength
  · rw [List.concat_eq_append] at h
    rw [h, List.length_append] at hlength
    exact ⟨ns, x, h, Nat.succ.inj hlength⟩

/-! ## Reading -/

/-- The subscriber is read from all nibbles but the last, and the access point from that one. -/
theorem parts_eq (h : nibbles (Octets.ofUInt64 tid) = ns ++ [x]) :
    parts tid = (String.ofList ((ns.takeWhile (· < 10)).map digitChar), x) := by
  have hleading : leading (setLastNibble filler (Octets.ofUInt64 tid)) = ns.takeWhile (· < 10) := by
    rw [leading, nibbles_setLastNibble h]
    exact takeWhile_filled ns 1
  obtain ⟨front, o, hoctets, -, rfl⟩ := exists_last h
  rw [parts, decode_eq, hleading, hoctets, List.getLastD_concat]

/-! ## Writing -/

theorem utf8ByteSize_of_digits (h : digits imsi = .ok ds) : imsi.utf8ByteSize = ds.length := by
  obtain ⟨hdigits, rfl⟩ := digits_eq_ok.1 h
  have hone : ∀ c ∈ imsi.toList, (String.utf8EncodeChar c).length = 1 := fun c hc => by
    have hdigit := isDigit_iff.1 (hdigits c hc)
    rw [String.length_utf8EncodeChar, Char.utf8Size_eq_one_iff, UInt32.le_iff_toNat_le]
    exact Nat.le_trans hdigit.2 (by decide)
  rw [← imsi.ofList_toList, ← Text.length_utf8, Text.utf8, List.length_flatMap,
    List.map_congr_left hone, String.ofList_toList, List.length_map]
  simp

/-- The size in octets leaves room for sixteen digits, and the size of the text for fifteen. -/
theorem encode_eq (h : digits imsi = .ok ds) (nsapi : UInt8) :
    encode imsi nsapi =
      if 15 < ds.length then .error (.malformed (.imsiTooLong imsi))
      else .ok (Octets.uint64 (setLastNibble nsapi.toNat (filled size ds))) := by
  have hlimit : size < (pack ds).length ∨ 15 < imsi.utf8ByteSize ↔ 15 < ds.length := by
    rw [length_pack, utf8ByteSize_of_digits h, size]
    omega
  rw [encode, encode_of_digits h, ok_bind]
  simp only [hlimit]
  split <;> rfl

/-- The digits, fillers up to the fifteenth nibble, and the access point. -/
theorem nibbles_of_digits (h : digits imsi = .ok ds) (hl : ds.length ≤ 15) (nsapi : UInt8) :
    ∃ tid, encode imsi nsapi = .ok tid ∧
      nibbles (Octets.ofUInt64 tid) =
        ds ++ List.replicate (15 - ds.length) filler ++ [nsapi.toNat % 16] := by
  have hsize : ds.length ≤ 2 * size := Nat.le_trans hl (by decide)
  have hfilled : nibbles (filled size ds) =
      ds ++ List.replicate (15 - ds.length) filler ++ [filler] := by
    have hone : 2 * size - ds.length = 15 - ds.length + 1 := by
      rw [size]
      omega
    rw [nibbles_filled (toList_of_digits h).1 hsize, hone, List.replicate_succ', List.append_assoc]
  refine ⟨_, (encode_eq h nsapi).trans (if_neg (by omega)), ?_⟩
  have hlength : (setLastNibble nsapi.toNat (filled size ds)).length = 8 := by
    rw [length_setLastNibble, length_filled hsize, size]
  rw [Octets.ofUInt64_uint64_of_length hlength, nibbles_setLastNibble hfilled]

/-- Only digits make an identifier. -/
theorem digits_of_encode (h : encode imsi nsapi = .ok tid) :
    ∃ ds, digits imsi = .ok ds ∧ ds.length ≤ 15 := by
  have hdigits : ∃ ds, digits imsi = .ok ds := by
    rw [encode, bind_eq_ok] at h
    obtain ⟨octets, ho, -⟩ := h
    exact ⟨_, digits_eq_ok.2 ⟨(encode_eq_ok.1 ho).1, rfl⟩⟩
  obtain ⟨ds, hds⟩ := hdigits
  refine ⟨ds, hds, Nat.le_of_not_lt fun hlong => ?_⟩
  rw [encode_eq hds, if_pos hlong] at h
  cases h

theorem parts_encode (h : encode imsi nsapi = .ok tid) : parts tid = (imsi, nsapi.toNat % 16) := by
  obtain ⟨ds, hds, hl⟩ := digits_of_encode h
  obtain ⟨tid', h', hnibbles⟩ := nibbles_of_digits hds hl nsapi
  cases h.symm.trans h'
  rw [parts_eq hnibbles, takeWhile_filled, takeWhile_of_lt (toList_of_digits hds).1,
    ofList_of_digits hds]

/-- Identifiers are told apart by their nibbles. -/
theorem nibbles_inj {tid tid' : UInt64} :
    nibbles (Octets.ofUInt64 tid) = nibbles (Octets.ofUInt64 tid') ↔ tid = tid' := by
  constructor
  · intro h
    rw [← Octets.uint64_ofUInt64 tid, nibbles_injective h, Octets.uint64_ofUInt64]
  · rintro rfl
    rfl

/-- The start of some nibbles, filled up to their number, is all of them when nothing but fillers follows
it. -/
theorem filled_eq_iff (h : ds <+: ns) :
    ds ++ List.replicate (ns.length - ds.length) filler = ns ↔
      ∀ n ∈ ns.drop ds.length, n = filler := by
  obtain ⟨rest, rfl⟩ := h
  rw [List.length_append, Nat.add_sub_cancel_left, List.drop_left, List.append_cancel_left_eq, eq_comm,
    List.eq_replicate_iff, and_iff_right rfl]

/-- What is read of an identifier makes one. -/
theorem encode_parts (tid : UInt64) :
    ∃ again, encode (parts tid).1 (.ofNat (parts tid).2) = .ok again ∧
      (again = tid ↔ ∀ n ∈ ((nibbles (Octets.ofUInt64 tid)).take 15).drop (parts tid).1.length,
        n = filler) := by
  obtain ⟨ns, x, hns, hl⟩ := exists_nibbles tid
  have hx : x < 16 := nibbles_lt (Octets.ofUInt64 tid) x (by simp [hns])
  have hrun : ns.takeWhile (· < 10) <+: ns := List.takeWhile_prefix _
  have hdigits := digits_ofList (takeWhile_lt ns)
  have hlast : (UInt8.ofNat x).toNat % 16 = x := by
    rw [UInt8.toNat_ofNat']
    omega
  obtain ⟨again, he, hagain⟩ := nibbles_of_digits hdigits (hl ▸ hrun.length_le) (.ofNat x)
  rw [parts_eq hns]
  refine ⟨again, he, ?_⟩
  rw [← nibbles_inj, hagain, hns, hlast, List.append_left_inj, List.take_left' hl, String.length_ofList,
    List.length_map, ← hl]
  exact filled_eq_iff hrun

/-- An identifier is made of at most fifteen digits and of nothing else, and it is read as those digits and
the last four bits of the access point. What is read of any identifier makes an identifier, and that one
exactly when all of the first fifteen nibbles after the digits are fillers. -/
theorem exact_identifier :
    (∀ imsi nsapi,
      ((∃ tid, encode imsi nsapi = .ok tid) ↔
        imsi.length ≤ 15 ∧ ∀ c ∈ imsi.toList, c.isDigit = true) ∧
      ∀ tid, encode imsi nsapi = .ok tid → parts tid = (imsi, nsapi.toNat % 16)) ∧
    ∀ tid, ∃ again, encode (parts tid).1 (.ofNat (parts tid).2) = .ok again ∧
      (again = tid ↔ ∀ n ∈ ((nibbles (Octets.ofUInt64 tid)).take 15).drop (parts tid).1.length,
        n = filler) := by
  refine ⟨fun imsi nsapi => ⟨⟨?_, ?_⟩, fun tid => parts_encode⟩, encode_parts⟩
  · rintro ⟨tid, h⟩
    obtain ⟨ds, hds, hl⟩ := digits_of_encode h
    rw [length_of_digits hds] at hl
    exact ⟨hl, (digits_eq_ok.1 hds).1⟩
  · rintro ⟨hl, hdigits⟩
    have hds := digits_eq_ok.2 ⟨hdigits, rfl⟩
    rw [← length_of_digits hds] at hl
    obtain ⟨tid, h, -⟩ := nibbles_of_digits hds hl nsapi
    exact ⟨tid, h⟩

/-- Fifteen digits leave no filler, and the access point is not read as a digit. Nibbles after the first one
that is no digit are lost. -/
theorem exact_identifier_full :
    encode "123456789012345" 0x25 = .ok 0x2143658709214355 ∧
      parts 0x2143658709214355 = ("123456789012345", 5) ∧
    parts 0x21af000000000005 = ("12", 0) ∧ encode "12" 0 = .ok 0x21ffffffffffff0f ∧
      ¬ ∀ n ∈ ((nibbles (Octets.ofUInt64 0x21af000000000005)).take 15).drop 2, n = filler := by
  have he : encode "123456789012345" 0x25 = .ok 0x2143658709214355 := by decide +kernel
  have hparts : parts 0x21af000000000005 = ("12", 0) := by decide +kernel
  have he' : encode "12" 0 = .ok 0x21ffffffffffff0f := by decide +kernel
  refine ⟨he, (exact_identifier.1 _ _).2 _ he, hparts, he', ?_⟩
  obtain ⟨again, hagain, hsame⟩ := exact_identifier.2 0x21af000000000005
  rw [hparts] at hagain hsame
  cases he'.symm.trans hagain
  exact fun h => absurd (hsame.2 h) (by decide)

end GtpControl.TunnelId
