import GtpControl.Proofs.ClientCreation
import GtpControl.Proofs.CreatedSession
import GtpControl.Proofs.HandlerEffects
import GtpControl.Proofs.RegistryHistory

/-! # Failed creations: what is left in the registry of a client whose create request has failed

The session is registered before the request leaves, and removed when the request fails. Its
registration may have taken a number and a subscriber from sessions of before, and these do not get
them back. -/
namespace GtpControl.Endpoint
open Endpoint.Action Catalog.V2 Element
variable {σ : Type} {environment : Environment (StateM σ)}

/-! ## Waiting undisturbed -/

/-- No other procedure has to do with the registry while calls wait, nor do the user's handlers, and
only replies end calls. -/
structure Undisturbed (environment : Environment (StateM σ)) (handlers : Bindings UInt8 Handler) :
    Prop where
  registry : ∀ (ticket : Ticket) (state : Endpoint × σ), state.1.handlers = handlers →
    (waited environment ticket state).1.registry = state.1.registry
  replies : ∀ (ticket : Ticket) (state : Endpoint × σ), state.1.handlers = handlers →
    state.1.pending.Answered ticket Message.Replying →
      (waited environment ticket state).1.pending.Answered ticket Message.Replying
  custom : ∀ name peer message (state : Endpoint × σ),
    (handled environment name peer message state).2.1.registry = state.1.registry

/-- What may happen to an endpoint while it waits. -/
inductive Incident where
  | datagram (peer : SocketAddress) (octets : Octets)
  | closed

def Incident.happen (environment : Environment (StateM σ)) (state : Endpoint × σ) :
    Incident → Endpoint × σ
  | .datagram peer octets => (outcome environment (receive peer octets) state).2
  | .closed => (state.1.close, state.2)

/-- Surroundings in which these incidents happen during each wait. -/
def Environment.during (environment : Environment (StateM σ)) (incidents : List Incident) :
    Environment (StateM σ) :=
  { environment with
    await := fun _ endpoint world =>
      let last := incidents.foldl (Incident.happen environment) (endpoint, world)
      (((), last.1), last.2) }

/-- What incidents leave as it is at an endpoint that serves no requests about sessions. -/
private structure Idles (before after : Endpoint) : Prop where
  handlers : after.handlers = before.handlers
  registry : after.registry = before.registry
  replies : ∀ ticket, before.pending.Answered ticket Message.Replying →
    after.pending.Answered ticket Message.Replying

private theorem Incident.idles (hq : Quiet environment) {state : Endpoint × σ}
    (hh : ∀ handler ∈ state.1.handlers.values, handler.custom? = none ∧ handler.request? = none)
    (incident : Incident) :
    Idles state.1 (incident.happen environment state).1 := by
  cases incident with
  | closed => exact ⟨rfl, rfl, fun _ h => h.cancelAll⟩
  | datagram peer octets =>
    rw [Incident.happen]
    obtain ⟨events, hr⟩ | ⟨sequence, hr⟩ | ⟨message, hp, ⟨events, hr⟩ | ⟨handler, events, hg, hr⟩⟩ :=
      receive_cases hq state.1 state.2 peer octets
    · rw [hr]
      exact ⟨rfl, rfl, fun _ h => h⟩
    · rw [hr]
      exact ⟨rfl, rfl, fun _ h => h⟩
    · rw [hr]
      refine ⟨rfl, rfl, fun ticket h => ?_⟩
      dsimp only
      rw [callsAfter]
      split
      · next hreply =>
        obtain ⟨hv, hk⟩ := Message.kind_of_parse hp
        rw [Message.isReply, hv] at hreply
        exact h.resolve _ ⟨hk, hreply⟩
      · exact h
    · obtain ⟨own, hn⟩ := hh handler (Bindings.mem_values_of_get? hg)
      have hkept : (outcome environment (handler.run peer message) state).2.1 = state.1 :=
        (keeps_run own (by simp [hn]) : Keeps environment id _ _)
      rw [hr]
      dsimp only
      rw [hkept]
      exact ⟨rfl, rfl, fun _ h => h⟩

private theorem idles_foldl (hq : Quiet environment) (incidents : List Incident)
    (state : Endpoint × σ)
    (hh : ∀ handler ∈ state.1.handlers.values, handler.custom? = none ∧ handler.request? = none) :
    Idles state.1 (incidents.foldl (Incident.happen environment) state).1 := by
  induction incidents generalizing state with
  | nil => exact ⟨rfl, rfl, fun _ h => h⟩
  | cons incident incidents ih =>
    have first := incident.idles hq hh
    have rest := ih (incident.happen environment state) (by rw [first.handlers]; exact hh)
    exact ⟨rest.handlers.trans first.handlers, rest.registry.trans first.registry,
      fun ticket h => rest.replies ticket (first.replies ticket h)⟩

/-- Whatever datagrams arrive, and also if the endpoint is closed, an endpoint that serves no requests
about sessions waits undisturbed. -/
theorem undisturbed_during (hq : Quiet environment) {handlers : Bindings UInt8 Handler}
    (hh : ∀ handler ∈ handlers.values, handler.custom? = none ∧ handler.request? = none)
    (custom : ∀ name peer message (state : Endpoint × σ),
      (handled environment name peer message state).2.1.registry = state.1.registry)
    (incidents : List Incident) :
    Undisturbed (environment.during incidents) handlers := by
  have idles : ∀ ticket (state : Endpoint × σ), state.1.handlers = handlers →
      Idles state.1 (waited (environment.during incidents) ticket state).1 := by
    rintro ticket state rfl
    exact idles_foldl hq incidents state hh
  exact ⟨fun ticket state hs => (idles ticket state hs).registry,
    fun ticket state hs => (idles ticket state hs).replies ticket, custom⟩

/-! ## What a failed call leaves -/

variable {endpoint : Endpoint} {world : σ} {peer : SocketAddress} {elements : List Element}
  {last : Endpoint × σ}

/-- Calls and registry have come about by operations on them, and the registered sessions are among
those that the endpoint has made. -/
structure WellKept (endpoint : Endpoint) : Prop where
  calls : endpoint.pending.Reachable
  registry : ∃ history, endpoint.registry = Registry.after history
  sessions : ∀ teid id, endpoint.registry.Binds teid id → id < endpoint.sessions.length

/-- Number and subscriber under which an endpoint registers the session that elements ask for. A
number that the elements do not name leads nowhere yet. -/
structure Designates (endpoint : Endpoint) (elements : List Element) (own : UInt32)
    (imsi : String) : Prop where
  own : (∃ sender, (Message.make .v2 .createSessionRequest {} elements).field? .senderFteidC =
      some sender ∧ V2.teid sender = .ok own) ∨
    (Message.make .v2 .createSessionRequest {} elements).field? .senderFteidC = none ∧
      own ∉ endpoint.registry.teids
  imsi : ∃ element, (Message.make .v2 .createSessionRequest {} elements).field? .imsi =
    some element ∧ V2.imsi element = .ok imsi

/-- A registered session has the number and the subscriber that the elements ask for. -/
theorem Proposal.Fits.designates {proposal : Proposal} (fits : proposal.Fits endpoint peer elements) :
    ∃ imsi, proposal.session.subscriber.imsi = some imsi ∧
      Designates endpoint elements proposal.own imsi := by
  obtain ⟨element, hi⟩ := Option.isSome_iff_exists.1 fits.imsi.1
  obtain ⟨imsi, hread, hs⟩ := Session.imsi_ofRequest fits.described hi
  rw [fits.imsi.2] at hi
  refine ⟨imsi, hs, ?_, element, hi, hread⟩
  rcases fits.origin with hgiven | hdrawn
  · exact .inl ⟨proposal.sender, hgiven, fits.own⟩
  · exact .inr hdrawn

/-- Asking for a session leaves the registry as it is. -/
theorem keeps_confirmSession {state : Endpoint × σ}
    (undisturbed : Undisturbed environment state.1.handlers)
    (numbered : state.1.pending.Numbered) (message : Message) (id : SessionId) :
    Keeps environment Endpoint.registry (confirmSession peer message id) state := by
  have lasting : Lasting Endpoint.registry := ⟨fun _ _ => rfl, fun _ _ => rfl, fun _ _ => rfl⟩
  refine (keeps_request lasting undisturbed.registry).bind fun reply _ hr => ?_
  have replying : reply.Replying := answered_of_request numbered undisturbed.replies hr
  refine (keeps_deliver replying fun name => undisturbed.custom name _ _ _).bind fun handled _ _ => ?_
  refine (keeps_ite (fun _ => keeps_pure _) fun _ => keeps_throw _).bind fun _ _ _ => ?_
  refine (keeps_except _).bind fun cause _ _ => ?_
  have hreport : ∀ next, Keeps environment Endpoint.registry (report peer id reply cause) next :=
    fun next => keeps_get.bind fun _ _ _ => (keeps_log ..).bind fun _ _ _ => keeps_pure _
  refine keeps_ite (fun _ => hreport _) fun _ => ?_
  refine (keeps_editSession _ fun _ => rfl).bind fun _ _ _ => ?_
  exact (keeps_moveSession _ fun _ => rfl).bind fun _ _ _ => hreport _

/-- After a failed call, if nothing else was done in between, the registry is as it was before, or
as it was but for the number and the subscriber of the session that was asked for. -/
theorem registry_createSession_error {e : EndpointError} (kept : endpoint.WellKept)
    (undisturbed : Undisturbed environment endpoint.handlers)
    (h : outcome environment (createSession peer elements) (endpoint, world) = (.error e, last)) :
    last.1.registry = endpoint.registry ∨ ∃ own imsi, Designates endpoint elements own imsi ∧
      Registry.Withdrawn own imsi endpoint.registry last.1.registry := by
  obtain ⟨e', pool, hc⟩ | ⟨proposal, pool, next, fits, -, hc⟩ :=
    createSession_cases environment endpoint world peer elements
  · cases h.symm.trans hc
    exact .inl rfl
  · obtain ⟨imsi, hi, designates⟩ := fits.designates
    refine .inr ⟨proposal.own, imsi, designates, ?_⟩
    have hkept : Keeps environment Endpoint.registry
        (confirmSession peer proposal.request endpoint.sessions.length)
        (enrolled proposal.own proposal.session { endpoint with pool }, next) :=
      keeps_confirmSession undisturbed kept.calls.numbered _ _
    obtain ⟨history, hhistory⟩ := kept.registry
    have coherent : endpoint.registry.Coherent := hhistory ▸ Registry.coherent_after history
    have fresh : ∀ teid, ¬endpoint.registry.Binds teid endpoint.sessions.length :=
      fun teid hb => Nat.lt_irrefl _ (kept.sessions teid _ hb)
    rw [hc] at h
    rw [Keeps] at hkept
    cases hx : outcome environment (confirmSession peer proposal.request endpoint.sessions.length)
        (enrolled proposal.own proposal.session { endpoint with pool }, next) with
    | mk result after =>
      rw [hx] at h hkept
      cases result with
      | ok reply => cases h
      | error e' =>
        cases h
        dsimp only [removeSession] at hkept ⊢
        rw [hkept]
        exact Registry.withdrawn_register coherent fresh proposal.own hi

/-! A client with one session, whose gateway has no resources for another. -/

private def mme : SocketAddress := ⟨.v4 ⟨127, 0, 0, 1⟩, 2123, 0⟩

private def sgw : SocketAddress := ⟨.v4 ⟨127, 0, 0, 10⟩, 2123, 0⟩

private def established (imsi : String) : Session where
  peer := sgw
  state := .active
  subscriber := { imsi := some imsi }

private def client (imsi : String) : Endpoint :=
  { make mme 10 100 {} with
    bound := some mme
    sessions := [established imsi]
    registry := Registry.after [.register 7 0 (established imsi)] }

private theorem wellKept_client (imsi : String) : (client imsi).WellKept := by
  refine ⟨.empty, ⟨_, rfl⟩, fun teid id hb => ?_⟩
  have hbound : (client imsi).registry.Binds teid id ↔ _ := Registry.binds_register _
  rw [hbound] at hb
  split at hb
  · rw [hb]
    exact Nat.zero_lt_one
  · obtain ⟨entry, he, -⟩ := hb
    cases he

/-- The answer that there are no resources. -/
private def noResources : Octets := [0x48, 33, 0, 14, 0, 0, 0, 100, 0, 0, 101, 0, 2, 0, 2, 0, 73, 0]

/-- Surroundings in which nothing happens. -/
private def still : Environment (StateM Unit) where
  bind address := pure (.ok address)
  send _ _ := pure (.ok ())
  log _ _ := pure ()
  await _ := pure ()
  custom _ _ _ := pure (.ok ())

private def refusing : Environment (StateM Unit) := still.during [.datagram sgw noResources]

private theorem undisturbed_refusing (imsi : String) :
    Undisturbed refusing (client imsi).handlers := by
  have hh : ∀ handler ∈ Handler.standard.values,
      handler.custom? = none ∧ handler.request? = none := by decide
  exact undisturbed_during (fun _ _ _ => rfl) hh (fun _ _ _ _ => rfl) _

private def wanted : List Element := [plain .v2 Code.imsi 0 [0x00, 0x01, 0x01, 0, 0, 0, 0, 0xf1]]

/-- What becomes of a call for the first subscriber, by a client that has a session of this one. -/
private def refused (imsi : String) : Except EndpointError (SessionId × Reply) × Endpoint × Unit :=
  outcome refusing (createSession sgw wanted) (client imsi, ())

/-- A session of another subscriber stays as it is registered. -/
theorem registry_createSession_error_refused :
    ∃ e last, refused "001010000000002" = (.error e, last) ∧
      last.1.registry.lookupImsi "001010000000002" = .ok 0 ∧
      (last.1.registry = (client "001010000000002").registry ∨ ∃ own imsi,
        Designates (client "001010000000002") wanted own imsi ∧
          Registry.Withdrawn own imsi (client "001010000000002").registry last.1.registry) := by
  have hfails : (refused "001010000000002").1.toOption.isNone = true := by decide +kernel
  have hfound : (refused "001010000000002").2.1.registry.lookupImsi "001010000000002" = .ok 0 := by
    decide +kernel
  cases h : refused "001010000000002" with
  | mk result last =>
    rw [h] at hfails hfound
    cases result with
    | ok created => cases hfails
    | error e =>
      exact ⟨e, last, rfl, hfound,
        registry_createSession_error (wellKept_client _) (undisturbed_refusing _) h⟩

/-- A session of the same subscriber keeps its number, but is not found by the subscriber any more. -/
theorem registry_createSession_error_reattached :
    (client "001010000000001").WellKept ∧
      Undisturbed refusing (client "001010000000001").handlers ∧
      (refused "001010000000001").1.toOption.isNone = true ∧
      (client "001010000000001").registry.lookupImsi "001010000000001" = .ok 0 ∧
      (refused "001010000000001").2.1.registry.lookupImsi "001010000000001" =
        .error (.notFound (.imsi "001010000000001")) :=
  ⟨wellKept_client _, undisturbed_refusing _, by decide +kernel⟩

end GtpControl.Endpoint
