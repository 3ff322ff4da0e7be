import GtpControl.Proofs.RequestAnswers
import GtpControl.Proofs.SessionCreation

/-! # Heard answers: the call of a client ends with the first answer that it can read

Neither side needs to see datagrams as a whole. The beginning of a datagram has its header, which says
whose call it is for. -/
namespace GtpControl.Endpoint
open Endpoint.Action Catalog.V2 Element

/-- The endpoint makes a message of what it sees of a datagram. -/
def reads (endpoint : Endpoint) (octets : Octets) : Bool :=
  (Message.parse .v2 endpoint.settings.lengthPolicy (endpoint.seen octets)).toOption.isSome

/-- The first datagram that a client can read of those that arrive there. -/
def Link.heard (link : Link) (client : Endpoint) : Exchange → List Arrival → Option Octets
  | _, [] => none
  | exchange, .request n :: arrivals =>
    link.heard client (link.arrive (client, exchange) (.request n)).2 arrivals
  | exchange, .reply n :: arrivals =>
    (exchange.replies[n]?.filter client.reads).or (link.heard client exchange arrivals)

variable {link : Link} {client gateway start : Endpoint} {exchange : Exchange}
  {request answer : Message} {octets sent : Octets} {arrivals : List Arrival} {sequence : UInt32}
  {ticket : Ticket} {state : Endpoint × Exchange}

theorem reads_eq_true (h : client.reads octets = true) :
    ∃ message, Message.parse .v2 client.settings.lengthPolicy (client.seen octets) = .ok message := by
  rw [reads] at h
  cases hp : Message.parse .v2 client.settings.lengthPolicy (client.seen octets) with
  | error e =>
    rw [hp] at h
    cases h
  | ok message => exact ⟨message, rfl⟩

theorem reads_eq_false (h : client.reads octets = false) :
    ∃ e, Message.parse .v2 client.settings.lengthPolicy (client.seen octets) = .error e := by
  rw [reads] at h
  cases hp : Message.parse .v2 client.settings.lengthPolicy (client.seen octets) with
  | error e => exact ⟨e, rfl⟩
  | ok message =>
    rw [hp] at h
    cases h

/-- What was written is of this version, however little an endpoint sees of it. -/
theorem supported_of_seen {endpoint : Endpoint} {message : Message} {e : CodecError}
    (hw : Message.parse .v2 .strict octets = .ok message)
    (he : Message.parse .v2 endpoint.settings.lengthPolicy (endpoint.seen octets) = .error e)
    (number : UInt8) : e ≠ .unsupportedVersion number := by
  rintro rfl
  exact Message.supported_of_parse_take (Nat.lt_of_lt_of_le Nat.one_pos (Nat.le_max_left ..)) hw
    number he

/-! ## Requests that arrive -/

/-- A response to a create request with this sequence number. If it accepts the request, there is a
grant behind it. -/
structure Responded (client : SocketAddress) (sequence : UInt32) (gateway : Endpoint)
    (answer : Message) : Prop where
  sound : answer.Sound
  version : answer.version = .v2
  type : answer.type = 33
  sequence : answer.sequence = sequence
  granted : answer.accepts .createSessionResponse = true → ∃ (request : Message) (grant : Grant),
    grant.Holds client request gateway ∧ (∀ paa ∈ request.field? .paa, paa.type = Code.paa) ∧
      answer = (grant.reply gateway request).setSequence request.sequence

theorem Responded.extends {gateway gateway' : Endpoint} {client : SocketAddress}
    (h : Responded client sequence gateway answer) (he : Extends gateway gateway') :
    Responded client sequence gateway' answer where
  sound := h.sound
  version := h.version
  type := h.type
  sequence := h.sequence
  granted ha := by
    obtain ⟨request, grant, holds, hp, rfl⟩ := h.granted ha
    obtain ⟨holds', hr⟩ := holds.extends he
    exact ⟨request, grant, holds', hp, by rw [hr]⟩

/-- What a gateway answers to a create request is a response to it. -/
private theorem responded_of_reaction {next : Endpoint} {client : SocketAddress}
    (reaction : Reaction client request gateway next (some answer)) (ht : answer.type = 33)
    (hr : request.version = .v2) (sound : ∀ x ∈ request.elements, Element.Sound .v2 x)
    (hp : ∀ paa ∈ request.field? .paa, paa.type = Code.paa) :
    Responded client request.sequence next (answer.setSequence request.sequence) where
  sound := ((reaction.sound sound).1.setSequence (reaction.sound sound).2 _).1
  version := ((reaction.sound sound).1.setSequence (reaction.sound sound).2 _).2
  type := (Message.type_setSequence ..).trans ht
  sequence := Message.sequence_setSequence hr (reaction.sound sound).2
  granted ha := by
    rw [accepts_setSequence] at ha
    obtain ⟨grant, pool, -, -, holds, hnext, hreply⟩ := reaction.granted ha
    rw [hnext, hreply]
    exact ⟨request, grant, holds, hp, rfl⟩

/-- A gateway that gets a create request, or the beginning of one, sends at most a response to it. -/
theorem gateway_responds (hh : gateway.handlers.get? 32 = some .createSession)
    (sound : request.Sound) (hv : request.version = .v2) (ht : request.type = 32)
    (he : request.encode = .ok octets) (replies : List Octets) :
    ∃ gateway', Extends gateway gateway' ∧
      ((outcome link.gatewaySide (receive link.client octets) (gateway, replies)).2 =
          (gateway', replies) ∨
        ∃ answer sent, Responded link.client request.sequence gateway' answer ∧
          answer.encode = .ok sent ∧
          (outcome link.gatewaySide (receive link.client octets) (gateway, replies)).2 =
            (gateway', replies ++ [sent])) := by
  have hq : Quiet link.gatewaySide := Link.quiet_socket _ _ _
  have hw := sound.parse_v2 hv he .strict
  cases hp : Message.parse .v2 gateway.settings.lengthPolicy (gateway.seen octets) with
  | error e =>
    obtain ⟨events, hrun⟩ := outcome_receive_error hq hp (supported_of_seen hw hp)
    rw [hrun]
    exact ⟨_, extends_events gateway events, .inl rfl⟩
  | ok found =>
    -- The gateway may see less of the request than was sent, but it sees its header.
    have hheader := Message.header_of_parse_take hw hp
    obtain ⟨hversion, hkind⟩ := Message.kind_of_parse hp
    have htype : found.type = 32 := by
      rw [Message.type, hheader]
      exact ht
    have hsequence : found.sequence = request.sequence := by
      rw [Message.sequence, hheader]
      rfl
    have hreply : found.isReply = false := by
      rw [Message.isReply, hversion, htype]
      decide
    have hcreate : found.kind = .createSessionRequest := by
      rw [← hkind, htype]
      decide
    obtain ⟨events, hrun⟩ := outcome_receive_request hq hp hreply (htype ▸ hh)
    obtain ⟨next, answer?, reacts, hresponse⟩ :=
      reacts_createSession hq link.client found gateway replies
    have hext := (reacts.reaction.extends hcreate).trans (extends_events next events)
    have hstate := reacts.state
    rw [hrun, Handler.run, hstate]
    cases answer? with
    | none => exact ⟨_, hext, .inl rfl⟩
    | some answer =>
      have responded := responded_of_reaction reacts.reaction (hresponse answer rfl) hversion
        (Message.sound_of_mem_of_parse hp) (Message.type_of_paa hp hcreate)
      rw [hsequence] at responded
      rw [answering, respond, hsequence]
      obtain ⟨written, hwritten, -, hs⟩ | ⟨e, hs⟩ :=
        Link.outcome_send (answer.setSequence request.sequence) next replies
      · rw [Link.gatewaySide, hs]
        exact ⟨_, hext, .inr ⟨_, written, responded.extends (extends_events next events),
          hwritten, rfl⟩⟩
      · rw [Link.gatewaySide, hs]
        exact ⟨_, hext, .inl rfl⟩

/-! ## Answers that arrive -/

/-- A client that cannot read a response drops it. -/
theorem client_drops (client : Endpoint) (responded : Responded link.client sequence gateway answer)
    (he : answer.encode = .ok octets) (h : client.reads octets = false) (exchange : Exchange) :
    ∃ events, (outcome (link.clientSide id) (receive link.gateway octets) (client, exchange)).2 =
      ({ client with events }, exchange) := by
  have hq : Quiet (link.clientSide id) := Link.quiet_socket _ _ _
  have hw := responded.sound.parse_v2 responded.version he .strict
  obtain ⟨e, hp⟩ := reads_eq_false h
  obtain ⟨events, hrun⟩ := outcome_receive_error hq hp (supported_of_seen hw hp)
  exact ⟨events, congrArg Prod.snd hrun⟩

/-- What a client reads of a response ends the call that it is for. -/
theorem client_resolves (client : Endpoint) (hh : client.handlers.get? 33 = none)
    (responded : Responded link.client sequence gateway answer) (he : answer.encode = .ok octets)
    {message : Message}
    (hp : Message.parse .v2 client.settings.lengthPolicy (client.seen octets) = .ok message)
    (exchange : Exchange) :
    message.type = 33 ∧ ∃ events,
      (outcome (link.clientSide id) (receive link.gateway octets) (client, exchange)).2 =
        ({ client with
          pending := (client.pending.resolve ⟨sequence, link.gateway⟩ message).2, events }, exchange) := by
  have hq : Quiet (link.clientSide id) := Link.quiet_socket _ _ _
  have hw := responded.sound.parse_v2 responded.version he .strict
  have hheader := Message.header_of_parse_take hw hp
  have htype : message.type = 33 := by
    rw [Message.type, hheader]
    exact responded.type
  have hsequence : message.sequence = sequence := by
    rw [Message.sequence, hheader]
    exact responded.sequence
  have hreply : message.isReply = true := by
    rw [Message.isReply, (Message.kind_of_parse hp).1, htype]
    decide
  obtain ⟨events, hrun⟩ := outcome_receive_reply hq hp hreply (htype ▸ hh)
  rw [hsequence] at hrun
  exact ⟨htype, events, congrArg Prod.snd hrun⟩

/-! ## Conversations -/

/-- A client has sent a create request as this datagram, and leaves the response to its call. -/
structure Posed (request : Message) (sent : Octets) (start : Endpoint) : Prop where
  sound : request.Sound
  version : request.version = .v2
  type : request.type = 32
  encode : request.encode = .ok sent
  handler : start.handlers.get? 33 = none

/-- What holds from then on: nothing else reaches the gateway, it sends responses only, and the call of
the client is signalled responses only. -/
structure Conversing (link : Link) (request : Message) (sent : Octets) (ticket : Ticket)
    (start : Endpoint) (state : Endpoint × Exchange) : Prop where
  handler : state.2.gateway.handlers.get? 32 = some .createSession
  requests : state.2.requests = [sent]
  replies : ∀ octets ∈ state.2.replies, ∃ answer,
    Responded link.client request.sequence state.2.gateway answer ∧ answer.encode = .ok octets
  client : ∃ pending events, state.1 = { start with pending, events } ∧
    pending.Answered ticket (·.type = 33)

private theorem conversing_request (h : Conversing link request sent ticket start state)
    (posed : Posed request sent start) (n : Nat) :
    Conversing link request sent ticket start (link.arrive state (.request n)) ∧
      (link.arrive state (.request n)).1 = state.1 ∧
      Extends state.2.gateway (link.arrive state (.request n)).2.gateway := by
  obtain ⟨client, exchange⟩ := state
  simp only [Link.arrive]
  cases hn : exchange.requests[n]? with
  | none => exact ⟨h, rfl, .refl _⟩
  | some octets =>
    have hrequests : exchange.requests = [sent] := h.requests
    have hsent : octets = sent := by
      have hm := List.mem_of_getElem? hn
      rw [hrequests] at hm
      exact List.mem_singleton.1 hm
    subst hsent
    have hserves : exchange.gateway.handlers.get? 32 = some .createSession := h.handler
    obtain ⟨next, hext, hrun⟩ := gateway_responds hserves posed.sound posed.version posed.type
      posed.encode exchange.replies
    have hhandler : next.handlers.get? 32 = some .createSession := by
      rw [hext.handlers]
      exact hserves
    -- What was granted before stays so.
    have hreplies : ∀ octets ∈ exchange.replies, ∃ answer,
        Responded link.client request.sequence next answer ∧ answer.encode = .ok octets := by
      intro octets ho
      obtain ⟨answer, responded, he⟩ := h.replies octets ho
      exact ⟨answer, responded.extends hext, he⟩
    simp only
    rcases hrun with hrun | ⟨answer, written, responded, he, hrun⟩
    · rw [hrun]
      exact ⟨⟨hhandler, hrequests, hreplies, h.client⟩, trivial, hext⟩
    · rw [hrun]
      refine ⟨⟨hhandler, hrequests, fun octets ho => ?_, h.client⟩, trivial, hext⟩
      rcases List.mem_append.1 ho with ho | ho
      · exact hreplies octets ho
      · rw [List.mem_singleton.1 ho]
        exact ⟨answer, responded, he⟩

/-- A datagram that arrives at the client is read as a response and ends the call that waits, or it
changes nothing. -/
private theorem conversing_reply (h : Conversing link request sent ticket start state)
    (posed : Posed request sent start) (n : Nat) :
    Conversing link request sent ticket start (link.arrive state (.reply n)) ∧
      (link.arrive state (.reply n)).2 = state.2 ∧
      (state.2.replies[n]?.filter start.reads = none ∧
          (link.arrive state (.reply n)).1.pending = state.1.pending ∨
        ∃ octets message, state.2.replies[n]?.filter start.reads = some octets ∧
          octets ∈ state.2.replies ∧
          Message.parse .v2 start.settings.lengthPolicy (start.seen octets) = .ok message ∧
          (link.arrive state (.reply n)).1.pending =
            (state.1.pending.resolve ⟨request.sequence, link.gateway⟩ message).2) := by
  obtain ⟨client, exchange⟩ := state
  obtain ⟨pending, events, hc, ha⟩ := h.client
  have hc' : client = { start with pending, events } := hc
  subst hc'
  simp only [Link.arrive]
  cases hn : exchange.replies[n]? with
  | none => exact ⟨h, rfl, .inl ⟨rfl, rfl⟩⟩
  | some octets =>
    have hm : octets ∈ exchange.replies := List.mem_of_getElem? hn
    obtain ⟨answer, responded, he⟩ := h.replies octets hm
    rw [Option.filter_some]
    cases hr : start.reads octets with
    | false =>
      obtain ⟨events', hrun⟩ := client_drops { start with pending, events } responded he hr
        exchange
      simp only
      rw [hrun]
      exact ⟨⟨h.handler, h.requests, h.replies, pending, events', rfl, ha⟩, rfl, .inl ⟨rfl, rfl⟩⟩
    | true =>
      obtain ⟨message, hp⟩ := reads_eq_true hr
      obtain ⟨htype, events', hrun⟩ := client_resolves { start with pending, events }
        posed.handler responded he hp exchange
      simp only
      rw [hrun]
      exact ⟨⟨h.handler, h.requests, h.replies, _, events', rfl, ha.resolve _ htype⟩, rfl,
        .inr ⟨octets, message, rfl, hm, hp, rfl⟩⟩

/-- Whatever arrives, what was signalled stays, and so does what the gateway has granted. -/
theorem Conversing.run (posed : Posed request sent start) (arrivals : List Arrival)
    (h : Conversing link request sent ticket start state) :
    Conversing link request sent ticket start (arrivals.foldl link.arrive state) ∧
      Extends state.2.gateway (arrivals.foldl link.arrive state).2.gateway ∧
      ∃ more, (arrivals.foldl link.arrive state).1.pending.signals =
        state.1.pending.signals ++ more := by
  induction arrivals generalizing state with
  | nil => exact ⟨h, .refl _, [], (List.append_nil _).symm⟩
  | cons arrival arrivals ih =>
    obtain ⟨hnext, hext, more, hmore⟩ :
        Conversing link request sent ticket start (link.arrive state arrival) ∧
          Extends state.2.gateway (link.arrive state arrival).2.gateway ∧
          ∃ more, (link.arrive state arrival).1.pending.signals =
            state.1.pending.signals ++ more := by
      cases arrival with
      | request n =>
        obtain ⟨hnext, hsame, hext⟩ := conversing_request h posed n
        exact ⟨hnext, hext, [], by rw [hsame, List.append_nil]⟩
      | reply n =>
        obtain ⟨hnext, hsame, ⟨-, hp⟩ | ⟨_, message, -, -, -, hp⟩⟩ := conversing_reply h posed n
        · exact ⟨hnext, hsame ▸ .refl _, [], by rw [hp, List.append_nil]⟩
        · refine ⟨hnext, hsame ▸ .refl _, ?_⟩
          rw [hp]
          obtain hr | ⟨ticket', -, -, -, hr⟩ := Pending.resolve_spec
            ⟨request.sequence, link.gateway⟩ message state.1.pending
          · exact ⟨[], by rw [hr, List.append_nil]⟩
          · exact ⟨_, hr⟩
    obtain ⟨hlast, hext', more', hmore'⟩ := ih hnext
    exact ⟨hlast, hext.trans hext', more ++ more', by
      rw [List.foldl_cons, hmore', hmore, List.append_assoc]⟩

/-- What arrives at the gateway has nothing to do with the client. -/
theorem arrive_request (link : Link) (client client' : Endpoint) (exchange : Exchange)
    (n : Nat) : (link.arrive (client, exchange) (.request n)).2 =
      (link.arrive (client', exchange) (.request n)).2 := by
  simp only [Link.arrive]
  cases exchange.requests[n]? <;> rfl

/-- The call of a client ends with the first response that the client can read. -/
theorem Conversing.signalled (posed : Posed request sent start) {key : CallKey}
    (hkey : key = ⟨request.sequence, link.gateway⟩)
    (h : Conversing link request sent ticket start state)
    (awaits : state.1.pending.Awaits key ticket)
    (heard : link.heard start state.2 arrivals = some octets)
    (hp : Message.parse .v2 start.settings.lengthPolicy (start.seen octets) = .ok answer) :
    (arrivals.foldl link.arrive state).1.pending.signals.lookup ticket = some (.reply answer) ∧
      ∃ whole, Responded link.client request.sequence
        (arrivals.foldl link.arrive state).2.gateway whole ∧ whole.encode = .ok octets := by
  induction arrivals generalizing state with
  | nil => cases heard
  | cons arrival arrivals ih =>
    cases arrival with
    | request n =>
      obtain ⟨hnext, hsame, -⟩ := conversing_request h posed n
      rw [← hsame] at awaits
      rw [Link.heard, arrive_request link start state.1] at heard
      exact ih hnext awaits heard
    | reply n =>
      rw [Link.heard] at heard
      obtain ⟨hnext, hsame, ⟨hf, hpending⟩ | ⟨octets', message, hf, hm, hp', hpending⟩⟩ :=
        conversing_reply h posed n
      · rw [hf, Option.none_or, ← hsame] at heard
        rw [← hpending] at awaits
        exact ih hnext awaits heard
      · rw [hf, Option.some_or] at heard
        obtain rfl := Option.some.inj heard
        obtain rfl := Except.ok.inj (hp'.symm.trans hp)
        obtain ⟨-, hext, more, hmore⟩ := hnext.run posed arrivals
        obtain ⟨whole, responded, he⟩ := h.replies _ hm
        rw [hsame] at hext
        refine ⟨?_, whole, responded.extends hext, he⟩
        rw [List.foldl_cons, hmore, hpending, ← hkey, List.lookup_append, awaits.lookup_resolve,
          Option.some_or]

end GtpControl.Endpoint
