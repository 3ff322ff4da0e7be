import GtpControl.Proofs.ElementOrigins

/-! # End points and qualities of service on the wire

An end point has its addresses after each other, and flags in front that say which of them there are. A
quality of service is packed into bits and into rates of five octets. Both are read back from what is
written, down to the bits that there is room for. A payload that is cut off is never misread: the fields
that are whole are read as before, and the others are refused. -/
namespace GtpControl
open Catalog.V2

/-! ## Rates -/

namespace Qos

/-- One octet more is a shift and a union. -/
private theorem ofNat_shifted (n : Nat) (o : UInt8) :
    UInt64.ofNat (n * 256 + o.toNat) = (UInt64.ofNat n <<< 8) ||| o.toUInt64 := by
  have ho : o.toNat < 2 ^ 8 := o.toNat_lt
  have hshift : (UInt64.ofNat n <<< 8).toNat = 2 ^ 8 * (n % 2 ^ 56) := by
    rw [UInt64.toNat_shiftLeft, UInt64.toNat_ofNat', Nat.shiftLeft_eq]
    simp
    omega
  apply UInt64.toNat_inj.1
  rw [UInt64.toNat_or, UInt8.toNat_toUInt64, hshift, ← Nat.two_pow_add_eq_or_of_lt ho,
    UInt64.toNat_ofNat']
  omega

/-- A number put together in a word of 64 bits, octet by octet. -/
def assemble (octets : Octets) : UInt64 :=
  octets.foldl (fun (n : UInt64) o => (n <<< 8) ||| o.toUInt64) 0

theorem uint64_eq_assemble (octets : Octets) : Octets.uint64 octets = assemble octets := by
  have h (n : Nat) : UInt64.ofNat (octets.foldl (fun n o => n * 256 + o.toNat) n) =
      octets.foldl (fun (n : UInt64) o => (n <<< 8) ||| o.toUInt64) (.ofNat n) := by
    induction octets generalizing n with
    | nil => rfl
    | cons o rest ih => rw [List.foldl_cons, List.foldl_cons, ih, ofNat_shifted]
  exact h 0

/-- The rates of a list lie behind each other, and each has lost its three highest octets. -/
theorem rateAt_flatMap {rates : List UInt64} {place : Nat} {rate : UInt64}
    (h : rates[place]? = some rate) :
    rateAt place (rates.flatMap fun rate => Octets.ofNat 5 rate.toNat) =
      .ofNat (rate.toNat % 2 ^ 40) := by
  induction rates generalizing place with
  | nil => simp at h
  | cons first rates ih =>
    have hfirst : (Octets.ofNat 5 first.toNat).length = 5 := Octets.length_ofNat ..
    cases place with
    | zero =>
      cases h
      rw [rateAt, List.flatMap_cons, Nat.mul_zero, List.drop_zero, Octets.split?_append hfirst]
      simp only [Octets.uint64, Octets.toNat_ofNat_mod]
      rfl
    | succ place =>
      have hdrop : 5 * (place + 1) = (Octets.ofNat 5 first.toNat).length + 5 * place := by omega
      rw [← ih (by simpa using h), rateAt, rateAt, List.flatMap_cons, hdrop,
        List.drop_length_add_append]

/-! ## Priorities -/

/-- The octet of the allocation priority. -/
def priority (level : UInt8) (capability vulnerability : Bool) : UInt8 :=
  ((level &&& 0x0f) <<< 2) ||| (if capability then 0 else 0x40) ||| (if vulnerability then 0 else 0x01)

theorem level_priority (level : UInt8) (capability vulnerability : Bool) :
    levelOf (priority level capability vulnerability) = level % 16 := by
  revert level
  cases capability <;> cases vulnerability <;> exact forall_octet (by decide +kernel)

theorem capability_priority (level : UInt8) (capability vulnerability : Bool) :
    (priority level capability vulnerability &&& 0x40 == 0) = capability := by
  revert level
  cases capability <;> cases vulnerability <;> exact forall_octet (by decide +kernel)

theorem vulnerability_priority (level : UInt8) (capability vulnerability : Bool) :
    (priority level capability vulnerability &&& 0x01 == 0) = vulnerability := by
  revert level
  cases capability <;> cases vulnerability <;> exact forall_octet (by decide +kernel)

/-- What there is room for on the wire: four bits for the level, and forty for each rate. -/
def reduced (qos : Qos) : Qos := { qos with
  priorityLevel := qos.priorityLevel % 16
  mbrUplink := .ofNat (qos.mbrUplink.toNat % 2 ^ 40)
  mbrDownlink := .ofNat (qos.mbrDownlink.toNat % 2 ^ 40)
  gbrUplink := .ofNat (qos.gbrUplink.toNat % 2 ^ 40)
  gbrDownlink := .ofNat (qos.gbrDownlink.toNat % 2 ^ 40) }

end Qos

/-! ## Flags of end points -/

namespace Fteid

/-- The first octet of an end point. -/
def flags (interface : UInt8) (v4 v6 : Bool) : UInt8 :=
  (interface &&& 0x3f) ||| (if v4 then 0x80 else 0) ||| (if v6 then 0x40 else 0)

theorem interface_flags (interface : UInt8) (v4 v6 : Bool) :
    flags interface v4 v6 &&& 0x3f = interface % 64 := by
  revert interface
  cases v4 <;> cases v6 <;> exact forall_octet (by decide +kernel)

theorem v4_flags (interface : UInt8) (v4 v6 : Bool) :
    flags interface v4 v6 &&& 0x80 = 0 ↔ v4 = false := by
  revert interface
  cases v4 <;> cases v6 <;> exact forall_octet (by decide +kernel)

theorem v6_flags (interface : UInt8) (v4 v6 : Bool) :
    flags interface v4 v6 &&& 0x40 = 0 ↔ v6 = false := by
  revert interface
  cases v4 <;> cases v6 <;> exact forall_octet (by decide +kernel)

/-- Where the IPv4 address ends, or the number of the end point if there is no such address. -/
def endV4 (flags : UInt8) : Nat := if flags &&& 0x80 = 0 then 5 else 9

/-- Where the IPv6 address ends, or the number of the end point if there is no such address. -/
def endV6 (flags : UInt8) : Nat := if flags &&& 0x40 = 0 then 5 else endV4 flags + 16

/-- A field is refused exactly when the payload ends before it does, with the octets that are missed:
those of the number if that is not whole, and else those of the field. -/
def RefusesCut {α : Type} (stop size : Nat) (answer : Coded α) : Prop :=
  ∀ e, answer = .error e ↔ size < stop ∧ e = .tooShort (if size < 5 then 5 else stop) size

end Fteid

namespace Element
open Fteid

/-- The element with no more than the first octets of its payload. -/
def cutTo (n : Nat) (element : Element) : Element :=
  { element with payload := element.payload.take n }

theorem expect_cutTo (type : UInt8) (n : Nat) (element : Element) :
    (element.cutTo n).expect type = (element.expect type).map (·.take n) := by
  rw [expect, expect]
  by_cases h : element.type = type
  · rw [if_pos h, if_pos (show (element.cutTo n).type = type from h)]
    rfl
  · rw [if_neg h, if_neg (show ¬(element.cutTo n).type = type from h)]
    rfl

/-- The value that is read from a payload that is cut off is read from the whole one. -/
def Unmisled {α : Type} (read : Element → Coded α) : Prop :=
  ∀ element n value, read (element.cutTo n) = .ok value → read element = .ok value

namespace V2
variable {element : Element} {octets : Octets} {e : CodecError}

/-! ## Addresses in a payload -/

theorem addressV6_append (before : Nat) (address : Ipv6Address) (rest : Octets) :
    addressV6 before (address.octets ++ rest) = .ok address := by
  have htake : (address.octets ++ rest).take 16 = address.octets := by
    rw [← address.size_eq, List.take_left]
  rw [addressV6, htake, Ipv6Address.ofOctets?, dif_pos address.size_eq]
  rfl

theorem addressV4_eq_error {before : Nat} :
    addressV4 before octets = .error e ↔
      octets.length < 4 ∧ e = .tooShort (before + 4) (before + octets.length) := by
  match octets with
  | [] | [_] | [_, _] | [_, _, _] => simp [addressV4, eq_comm]
  | a :: b :: c :: d :: rest => simp [addressV4]

theorem addressV6_eq_error {before : Nat} :
    addressV6 before octets = .error e ↔
      octets.length < 16 ∧ e = .tooShort (before + 16) (before + octets.length) := by
  rw [addressV6, Ipv6Address.ofOctets?]
  by_cases hlt : octets.length < 16
  · have hshort : (octets.take 16).length ≠ 16 := by
      rw [List.length_take]
      omega
    rw [dif_neg hshort]
    simp [hlt, eq_comm]
  · rw [dif_pos (List.length_take_of_le (Nat.le_of_not_lt hlt))]
    simp [hlt]

/-- An address that is there is there whatever goes after it. -/
theorem addressV4_extended {before : Nat} {address : Ipv4Address}
    (h : addressV4 before octets = .ok address) (more : Octets) :
    addressV4 before (octets ++ more) = .ok address := by
  match octets with
  | [] | [_] | [_, _] | [_, _, _] => cases h
  | a :: b :: c :: d :: rest => exact h

theorem addressV6_extended {before : Nat} {address : Ipv6Address}
    (h : addressV6 before octets = .ok address) (more : Octets) :
    addressV6 before (octets ++ more) = .ok address := by
  have hlong : 16 ≤ octets.length := by
    by_contra hlt
    rw [addressV6_eq_error.2 ⟨Nat.lt_of_not_le hlt, rfl⟩] at h
    cases h
  rw [addressV6] at h ⊢
  rw [List.take_append_of_le_length hlong]
  split at h
  · exact h
  · cases h

/-! ## The parts of an end point -/

theorem fteidParts_ofFteid (interface : UInt8) (teid : UInt32) (v4 : Option Ipv4Address)
    (v6 : Option Ipv6Address) :
    fteidParts (ofFteid interface teid v4 v6) = .ok (flags interface v4.isSome v6.isSome, teid,
      (v4.map Ipv4Address.octets).getD [] ++ (v6.map Ipv6Address.octets).getD []) := by
  obtain ⟨a, b, c, d, hteid, hread⟩ := Octets.exists_ofUInt32 teid
  rw [fteidParts, expect, if_pos (by rfl)]
  simp only [ofFteid, ofPayload, plain, hteid, List.cons_append, List.nil_append, pure_eq, ok_bind,
    hread]
  rfl

theorem fteidParts_short (ht : element.type = Code.fteid) (h : element.payload.length < 5) :
    fteidParts element = .error (.tooShort 5 element.payload.length) := by
  rw [fteidParts, expect, if_pos ht]
  match hp : element.payload with
  | [] | [_] | [_, _] | [_, _, _] | [_, _, _, _] => rfl
  | a :: b :: c :: d :: f :: rest =>
    rw [hp] at h
    simp only [List.length_cons] at h
    omega

theorem exists_fteidParts (ht : element.type = Code.fteid) (h : ¬element.payload.length < 5) :
    ∃ teid addresses, element.payload.length = 5 + addresses.length ∧
      fteidParts element = .ok (element.payload.headD 0, teid, addresses) := by
  rw [fteidParts, expect, if_pos ht]
  match hp : element.payload with
  | [] | [_] | [_, _] | [_, _, _] | [_, _, _, _] => simp [hp] at h
  | flags :: a :: b :: c :: d :: addresses =>
    exact ⟨Octets.uint32 [a, b, c, d], addresses, Nat.add_comm addresses.length 5, rfl⟩

/-- What was left after a cut lies at the start of the whole payload. -/
theorem fteidParts_of_cut {n : Nat} {flags : UInt8} {number : UInt32} {addresses : Octets}
    (h : fteidParts (element.cutTo n) = .ok (flags, number, addresses)) :
    ∃ more, fteidParts element = .ok (flags, number, addresses ++ more) := by
  rw [fteidParts, expect_cutTo] at h
  rw [fteidParts]
  cases hx : element.expect Code.fteid with
  | error e =>
    rw [hx] at h
    cases h
  | ok payload =>
    rw [hx, Except.map, ok_bind] at h
    rw [ok_bind, ← List.take_append_drop n payload]
    match hcut : payload.take n with
    | [] | [_] | [_, _] | [_, _, _] | [_, _, _, _] => simp [hcut] at h
    | first :: a :: b :: c :: d :: rest =>
      rw [hcut] at h
      cases h
      exact ⟨payload.drop n, rfl⟩

/-! ## Reading a whole end point -/

section
variable (interface : UInt8) (number : UInt32) (v4 : Option Ipv4Address) (v6 : Option Ipv6Address)

theorem interfaceType_ofFteid :
    interfaceType (ofFteid interface number v4 v6) = .ok (interface % 64) := by
  rw [interfaceType, fteidParts_ofFteid, ok_bind, interface_flags]
  rfl

theorem teid_ofFteid : teid (ofFteid interface number v4 v6) = .ok number := by
  rw [teid, fteidParts_ofFteid]
  rfl

theorem fteidV4_ofFteid : fteidV4 (ofFteid interface number v4 v6) = .ok v4 := by
  rw [fteidV4, fteidParts_ofFteid, ok_bind]
  simp only [v4_flags]
  cases v4 with
  | none => rfl
  | some address => rfl

theorem fteidV6_ofFteid : fteidV6 (ofFteid interface number v4 v6) = .ok v6 := by
  rw [fteidV6, fteidParts_ofFteid, ok_bind]
  simp only [v4_flags, v6_flags]
  cases v6 with
  | none => rfl
  | some address =>
    have haddress (before : Nat) : addressV6 before address.octets = .ok address := by
      rw [← List.append_nil address.octets, addressV6_append]
    cases v4 with
    | none => simp [haddress]
    | some first =>
      have hfirst : first.octets.length = 4 := rfl
      have hsplit := Octets.split?_append hfirst address.octets
      simp [haddress, hsplit]

end

/-! ## Reading an end point that is cut off

All four readers work on the parts, so it is enough to know what they do with addresses that are cut
off. -/

section
variable {α : Type} {read : UInt8 × UInt32 × Octets → Coded α}

theorem refusesCut_of_parts {stop : UInt8 → Nat} (hstop : ∀ flags, 5 ≤ stop flags)
    (hread : ∀ flags number addresses e, read (flags, number, addresses) = .error e ↔
      5 + addresses.length < stop flags ∧ e = .tooShort (stop flags) (5 + addresses.length))
    (ht : element.type = Code.fteid) :
    RefusesCut (stop (element.payload.headD 0)) element.payload.length
      (fteidParts element >>= read) := by
  intro e
  have hflags := hstop (element.payload.headD 0)
  by_cases hshort : element.payload.length < 5
  · rw [fteidParts_short ht hshort, error_bind, if_pos hshort, Except.error.injEq, eq_comm]
    exact ⟨fun he => ⟨hshort.trans_le hflags, he⟩, And.right⟩
  · obtain ⟨number, addresses, hlength, hparts⟩ := exists_fteidParts ht hshort
    rw [hparts, ok_bind, hread, if_neg hshort, hlength]

theorem unmisled_of_parts
    (hread : ∀ flags number addresses more value, read (flags, number, addresses) = .ok value →
      read (flags, number, addresses ++ more) = .ok value) :
    Unmisled fun element => fteidParts element >>= read := by
  intro element n value h
  obtain ⟨⟨flags, number, addresses⟩, hparts, hvalue⟩ := bind_eq_ok.1 h
  obtain ⟨more, hwhole⟩ := fteidParts_of_cut hparts
  exact bind_eq_ok.2 ⟨_, hwhole, hread flags number addresses more value hvalue⟩

end

theorem refusesCut_interfaceType (ht : element.type = Code.fteid) :
    RefusesCut 5 element.payload.length (interfaceType element) :=
  refusesCut_of_parts (fun _ => Nat.le_refl 5) (fun _ _ _ _ => by simp) ht

theorem refusesCut_teid (ht : element.type = Code.fteid) :
    RefusesCut 5 element.payload.length (teid element) :=
  refusesCut_of_parts (fun _ => Nat.le_refl 5) (fun _ _ _ _ => by simp) ht

theorem refusesCut_fteidV4 (ht : element.type = Code.fteid) :
    RefusesCut (endV4 (element.payload.headD 0)) element.payload.length (fteidV4 element) := by
  refine refusesCut_of_parts (fun flags => ?_) (fun flags number addresses e => ?_) ht
  · rw [endV4]
    split <;> omega
  · have hcut : 5 + addresses.length < 9 ↔ addresses.length < 4 := by omega
    by_cases hv4 : flags &&& 0x80 = 0
    · simp [hv4, endV4]
    · simp [hv4, endV4, bind_eq_error, addressV4_eq_error, hcut]

theorem refusesCut_fteidV6 (ht : element.type = Code.fteid) :
    RefusesCut (endV6 (element.payload.headD 0)) element.payload.length (fteidV6 element) := by
  refine refusesCut_of_parts (fun flags => ?_) (fun flags number addresses e => ?_) ht
  · rw [endV6, endV4]
    split
    · exact Nat.le_refl 5
    · split <;> omega
  · by_cases hv6 : flags &&& 0x40 = 0
    · simp [hv6, endV6]
    · by_cases hv4 : flags &&& 0x80 = 0
      · have hcut : 5 + addresses.length < 21 ↔ addresses.length < 16 := by omega
        simp [hv6, hv4, endV6, endV4, bind_eq_error, addressV6_eq_error, hcut]
      · cases hs : Octets.split? 4 addresses with
        | none =>
          have hfew := Octets.split?_eq_none.1 hs
          have hcut : 5 + addresses.length < 25 := by omega
          simp [hv6, hv4, endV6, endV4, hs, hcut, eq_comm]
        | some pair =>
          obtain ⟨first, rest⟩ := pair
          obtain ⟨rfl, hfirst⟩ := Octets.split?_eq_some.1 hs
          have hlength : 5 + (first ++ rest).length = 9 + rest.length := by
            rw [List.length_append]
            omega
          have hcut : 9 + rest.length < 25 ↔ rest.length < 16 := by omega
          rw [hlength]
          simp [hv6, hv4, endV6, endV4, hs, bind_eq_error, addressV6_eq_error, hcut]

theorem unmisled_interfaceType : Unmisled interfaceType :=
  unmisled_of_parts fun _ _ _ _ _ h => h

theorem unmisled_teid : Unmisled teid := unmisled_of_parts fun _ _ _ _ _ h => h

theorem unmisled_fteidV4 : Unmisled fteidV4 := by
  refine unmisled_of_parts fun flags number addresses more value h => ?_
  by_cases hv4 : flags &&& 0x80 = 0
  · simpa [hv4] using h
  · simp only [hv4, if_false, bind_eq_ok, pure_eq, Except.ok.injEq] at h ⊢
    obtain ⟨address, ha, rfl⟩ := h
    exact ⟨address, addressV4_extended ha more, rfl⟩

theorem unmisled_fteidV6 : Unmisled fteidV6 := by
  refine unmisled_of_parts fun flags number addresses more value h => ?_
  by_cases hv6 : flags &&& 0x40 = 0
  · simpa [hv6] using h
  · by_cases hv4 : flags &&& 0x80 = 0
    · simp only [hv6, hv4, if_false, if_true, bind_eq_ok, pure_eq, Except.ok.injEq] at h ⊢
      obtain ⟨address, ha, rfl⟩ := h
      exact ⟨address, addressV6_extended ha more, rfl⟩
    · cases hs : Octets.split? 4 addresses with
      | none => simp [hv6, hv4, hs] at h
      | some pair =>
        obtain ⟨first, rest⟩ := pair
        obtain ⟨rfl, hfirst⟩ := Octets.split?_eq_some.1 hs
        simp only [hv6, hv4, hs, List.append_assoc, Octets.split?_append hfirst, if_false,
          bind_eq_ok, pure_eq, Except.ok.injEq] at h ⊢
        obtain ⟨address, ha, rfl⟩ := h
        exact ⟨address, addressV6_extended ha more, rfl⟩

/-! ## Qualities of service -/

theorem bearerQos_ofBearerQos (qos : Qos) : bearerQos (ofBearerQos qos) = .ok qos.reduced := by
  have hrate (place : Nat) {rate : UInt64}
      (h : [qos.mbrUplink, qos.mbrDownlink, qos.gbrUplink, qos.gbrDownlink][place]? = some rate) :=
    Qos.rateAt_flatMap h
  have hread : bearerQos (ofBearerQos qos) = .ok (Qos.ofOctets
      (Qos.priority qos.priorityLevel qos.preemptionCapability qos.preemptionVulnerability) qos.qci
      ([qos.mbrUplink, qos.mbrDownlink, qos.gbrUplink, qos.gbrDownlink].flatMap
        fun rate => Octets.ofNat 5 rate.toNat)) := rfl
  rw [hread, Qos.ofOctets, Qos.level_priority, Qos.capability_priority, Qos.vulnerability_priority,
    hrate 0 rfl, hrate 1 rfl, hrate 2 rfl, hrate 3 rfl, Qos.reduced]

/-- An end point is written and read back with six bits of the interface type, its number, and the
addresses that it was given. Whatever the payload of an end point, each field is refused exactly when
the payload ends before it does, and a cut changes no value that can still be read. A quality of service
is written and read back with all that there is room for; its rates are put together in a word. -/
theorem values_survive :
    (∀ interface number v4 v6,
      (∃ octets, encode .v2 (ofFteid interface number v4 v6) = .ok octets ∧
        ∀ tail, decode .v2 (octets ++ tail) = .ok (ofFteid interface number v4 v6, tail)) ∧
      interfaceType (ofFteid interface number v4 v6) = .ok (interface % 64) ∧
      teid (ofFteid interface number v4 v6) = .ok number ∧
      fteidV4 (ofFteid interface number v4 v6) = .ok v4 ∧
      fteidV6 (ofFteid interface number v4 v6) = .ok v6) ∧
    (∀ element, element.type = Code.fteid →
      RefusesCut 5 element.payload.length (interfaceType element) ∧
      RefusesCut 5 element.payload.length (teid element) ∧
      RefusesCut (endV4 (element.payload.headD 0)) element.payload.length (fteidV4 element) ∧
      RefusesCut (endV6 (element.payload.headD 0)) element.payload.length (fteidV6 element)) ∧
    (Unmisled interfaceType ∧ Unmisled teid ∧ Unmisled fteidV4 ∧ Unmisled fteidV6) ∧
    (∀ qos,
      (∃ octets, encode .v2 (ofBearerQos qos) = .ok octets ∧
        ∀ tail, decode .v2 (octets ++ tail) = .ok (ofBearerQos qos, tail)) ∧
      bearerQos (ofBearerQos qos) = .ok qos.reduced) ∧
    ∀ place rates, Qos.rateAt place rates =
      match Octets.split? 5 (rates.drop (5 * place)) with
      | some (rate, _) => Qos.assemble rate
      | none => 0 := by
  refine ⟨fun interface number v4 v6 => ⟨?_, ?_, ?_, ?_, ?_⟩, fun element ht => ?_, ?_,
    fun qos => ⟨?_, ?_⟩, fun place rates => ?_⟩
  · have hsize : (ofFteid interface number v4 v6).payload.length ≤ maxLength := by
      cases v4 <;> cases v6 <;> simp [ofFteid, ofPayload, plain, maxLength, Ipv4Address.octets,
        Ipv6Address.size_eq]
    exact exists_encoding (.ofValue (OfValue.fteid ..)) fun _ => hsize
  · exact interfaceType_ofFteid interface number v4 v6
  · exact teid_ofFteid interface number v4 v6
  · exact fteidV4_ofFteid interface number v4 v6
  · exact fteidV6_ofFteid interface number v4 v6
  · exact ⟨refusesCut_interfaceType ht, refusesCut_teid ht, refusesCut_fteidV4 ht,
      refusesCut_fteidV6 ht⟩
  · exact ⟨unmisled_interfaceType, unmisled_teid, unmisled_fteidV4, unmisled_fteidV6⟩
  · have hsize : (ofBearerQos qos).payload.length = 22 := rfl
    exact exists_encoding (.ofValue (OfValue.bearerQos qos)) fun _ => hsize ▸ by decide
  · exact bearerQos_ofBearerQos qos
  · rw [Qos.rateAt]
    cases Octets.split? 5 (rates.drop (5 * place)) with
    | none => rfl
    | some pair => exact Qos.uint64_eq_assemble pair.1

/-- An end point that is cut off in its IPv6 address is refused there, with the octets that all of it
takes, and one that is cut off in its number is refused altogether; a rate of more than forty bits and a
level of more than four are reduced. -/
theorem values_survive_cut :
    fteidV6 ⟨87, 0, [0xcb, 0, 0, 0, 7, 192, 0, 2, 1, 0x20, 1], []⟩ = .error (.tooShort 25 11) ∧
    fteidV4 ⟨87, 3, [0xcb, 0, 0, 0], []⟩ = .error (.tooShort 5 4) ∧
    bearerQos (ofBearerQos { qci := 5, priorityLevel := 19, mbrUplink := 0x10000000003e8 }) =
      .ok { qci := 5, priorityLevel := 3, mbrUplink := 0x3e8 } := by
  have hv6 := values_survive.2.1 ⟨87, 0, [0xcb, 0, 0, 0, 7, 192, 0, 2, 1, 0x20, 1], []⟩ rfl
  have hv4 := values_survive.2.1 ⟨87, 3, [0xcb, 0, 0, 0], []⟩ rfl
  refine ⟨(hv6.2.2.2 _).2 ⟨by decide, by decide⟩, (hv4.2.2.1 _).2 ⟨by decide, by decide⟩, ?_⟩
  have hqos := values_survive.2.2.2.1
    { qci := 5, priorityLevel := 19, mbrUplink := 0x10000000003e8 }
  exact hqos.2.trans (congrArg Except.ok (by decide))

end V2
end Element
end GtpControl
