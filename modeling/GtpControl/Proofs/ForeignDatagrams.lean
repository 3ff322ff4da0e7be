import GtpControl.Endpoint.Procedure
import GtpControl.Proofs.GatewayService

/-! # Foreign datagrams: what becomes of datagrams that are not of GTPv2

The version of a datagram is told in two places. Detection looks for the marks of GTP' before it looks
at the version number, and an endpoint looks at the number only. -/
namespace GtpControl
open Endpoint.Action Endpoint Element

/-! ## Two readings of the first octet -/

/-- First octets that have the marks of GTP' and the number of GTPv2: those of GTP' in its current
version, with a short and with a long header. -/
def sharedFlags : List UInt8 := [0x4e, 0x4f]

/-- Detection and the number in the first octet agree on what is GTPv2, but for the shared octets. -/
theorem Version.ofFlags_eq_v2_iff : ∀ flags : UInt8,
    Version.ofFlags flags = .ok .v2 ↔ flags >>> 5 = 2 ∧ flags ∉ sharedFlags :=
  forall_octet (by decide +kernel)

/-- A datagram of another version has no header of this one, unless it starts with a shared octet. -/
theorem V2Header.error_of_foreign {octets : Octets} (policy : LengthPolicy)
    (foreign : Version.detect octets ≠ .ok .v2) (unshared : ∀ flags ∈ octets.head?, flags ∉ sharedFlags) :
    ∃ e, V2Header.parse policy octets = .error e := by
  cases hp : V2Header.parse policy octets with
  | error e => exact ⟨e, rfl⟩
  | ok parsed =>
    obtain ⟨header, payload⟩ := parsed
    have hflags := (V2Header.unpacked_of_parse hp).flags
    obtain ⟨more, rfl⟩ := List.head?_eq_some_iff.1 hflags
    have hv2 : Version.ofFlags header.flags = .ok .v2 :=
      (Version.ofFlags_eq_v2_iff _).2 ⟨header.version_flags, unshared _ hflags⟩
    exact absurd hv2 foreign

namespace Endpoint
variable {σ : Type} {environment : Environment (StateM σ)} {endpoint : Endpoint} {world : σ}
  {peer : SocketAddress} {octets : Octets}

/-! ## Datagrams that are not taken in -/

/-- The datagram is no reply to a call and gets to no handler: all that it leaves in the endpoint is
an event. -/
def TurnsAway (environment : Environment (StateM σ)) (peer : SocketAddress) (octets : Octets)
    (endpoint : Endpoint) (world : σ) : Prop :=
  ∃ events world',
    outcome environment (accept peer octets) (endpoint, world) =
      (.ok none, { endpoint with events }, world') ∧
    outcome environment (dispatch peer octets) (endpoint, world) =
      (.ok (), { endpoint with events }, world')

/-- What is not accepted is not handled. -/
theorem turnsAway_of_accept {events : List Event} {world' : σ}
    (h : outcome environment (accept peer octets) (endpoint, world) =
      (.ok none, { endpoint with events }, world')) : TurnsAway environment peer octets endpoint world := by
  refine ⟨events, world', h, ?_⟩
  rw [dispatch, outcome_bind, h]
  rfl

/-- A datagram that cannot be read is dropped, or its sender is told that its version is not
supported. -/
theorem turnsAway_of_error (hq : Quiet environment) {e : CodecError}
    (hp : Message.parse .v2 endpoint.settings.lengthPolicy octets = .error e) :
    TurnsAway environment peer octets endpoint world := by
  obtain ⟨events, ha⟩ | ⟨version, request, -, -, -, -, ha⟩ | ⟨message, hm, -⟩ :=
    accept_cases hq endpoint world peer octets
  · exact turnsAway_of_accept ha
  · exact ⟨endpoint.events, _, ha, by rw [dispatch, outcome_bind, ha]; rfl⟩
  · cases hp.symm.trans hm

/-- Whatever state an endpoint is in, a datagram of another version is turned away, unless it starts
with an octet that GTP' and GTPv2 share. -/
theorem turnsAway_of_foreign (hq : Quiet environment) (foreign : Version.detect octets ≠ .ok .v2)
    (unshared : ∀ flags ∈ octets.head?, flags ∉ sharedFlags) (peer : SocketAddress)
    (endpoint : Endpoint) (world : σ) : TurnsAway environment peer octets endpoint world := by
  obtain ⟨e, he⟩ := V2Header.error_of_foreign endpoint.settings.lengthPolicy foreign unshared
  have hp : Message.parse .v2 endpoint.settings.lengthPolicy octets = .error e := by
    simp only [Message.parse, Message.parseParts, Header.parse, he]
    rfl
  exact turnsAway_of_error hq hp

/-! Echoes of GTP' that hold a private extension have room for the longer header of GTPv2. -/

private def charger : SocketAddress := ⟨.v4 ⟨127, 0, 0, 1⟩, 3386, 0⟩

private def chargerEcho (kind : Kind) : Octets :=
  ((Message.make .prime kind { sequence := 1 }
    [plain .prime Catalog.Prime.Code.privateExtension 0 [0, 1, 2, 3, 4]]).encode).toOption.getD []

/-- An endpoint that waits for an echo of the charger. -/
private def calling : Endpoint × List (SocketAddress × Octets) :=
  let listening : Endpoint := { make ⟨.v4 ⟨127, 0, 0, 10⟩, 2123, 0⟩ 11 0x050000 {} with
    bound := some ⟨.v4 ⟨127, 0, 0, 10⟩, 2123, 0⟩ }
  (outcome .recording (openCall charger (.make .v2 .echoRequest {} [])) (listening, [])).2

private def olderEcho : Octets :=
  ((Message.make .v1 .echoRequest { sequence := 1 } []).encode).toOption.getD []

/-- An echo request of GTPv1 is turned away, although a call waits. -/
theorem turnsAway_of_foreign_older :
    Version.detect olderEcho ≠ .ok .v2 ∧ (∀ flags ∈ olderEcho.head?, flags ∉ sharedFlags) ∧
      TurnsAway .recording charger olderEcho calling.1 calling.2 := by
  have foreign : Version.detect olderEcho ≠ .ok .v2 := by decide +kernel
  have unshared : ∀ flags ∈ olderEcho.head?, flags ∉ sharedFlags := by decide +kernel
  exact ⟨foreign, unshared, turnsAway_of_foreign quiet_recording foreign unshared ..⟩

private def afterEcho (kind : Kind) : Endpoint × List (SocketAddress × Octets) :=
  (outcome .recording (dispatch charger (chargerEcho kind)) calling).2

private def isPrime (octets : Octets) : Bool :=
  match Version.detect octets, Message.parseAny .strict octets with
  | .ok .prime, .ok message => message.version == .prime
  | _, _ => false

private theorem detect_of_isPrime {octets : Octets} (h : isPrime octets = true) :
    Version.detect octets = .ok .prime := by
  rw [isPrime] at h
  split at h
  · assumption
  · cases h

/-- An echo request of GTP' is answered in GTPv2, and an echo response of GTP' ends a call. -/
theorem not_turnsAway_of_prime :
    (Version.detect (chargerEcho .echoRequest) = .ok .prime ∧
      ¬TurnsAway .recording charger (chargerEcho .echoRequest) calling.1 calling.2 ∧
      (afterEcho .echoRequest).2.length = calling.2.length + 1) ∧
    Version.detect (chargerEcho .echoResponse) = .ok .prime ∧
      ¬TurnsAway .recording charger (chargerEcho .echoResponse) calling.1 calling.2 ∧
      calling.1.pending.waiting.size = 1 ∧ (afterEcho .echoResponse).1.pending.waiting.size = 0 := by
  refine ⟨⟨?_, fun h => ?_, ?_⟩, ?_, fun h => ?_, ?_, ?_⟩
  · exact detect_of_isPrime (by decide +kernel)
  · obtain ⟨events, world', h, -⟩ := h
    have hsome : (outcome .recording (accept charger (chargerEcho .echoRequest)) calling).1.toOption.any
        Option.isSome = true := by decide +kernel
    rw [h] at hsome
    cases hsome
  · decide +kernel
  · exact detect_of_isPrime (by decide +kernel)
  · obtain ⟨events, world', h, -⟩ := h
    have hcalls : (outcome .recording (accept charger (chargerEcho .echoResponse))
        calling).2.1.pending ≠ calling.1.pending := by decide +kernel
    rw [h] at hcalls
    exact hcalls rfl
  · decide +kernel
  · decide +kernel

end Endpoint
end GtpControl
