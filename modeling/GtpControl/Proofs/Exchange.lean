import GtpControl.Proofs.CallTable
import GtpControl.Proofs.CreatedSession
import GtpControl.Proofs.Reception

/-! # Exchanges: a client and a gateway, and the datagrams between them

The network may lose, repeat and reorder datagrams, and it carries none that is too long. -/
namespace GtpControl.Endpoint
open Endpoint.Action Catalog.V2 Element

/-- The addresses of a client and a gateway, and the size of the longest datagram between them. -/
structure Link where
  client : SocketAddress
  gateway : SocketAddress
  limit : Nat

/-- The gateway, and all datagrams that were sent to it and by it. They stay there when they arrive,
so each may arrive again. -/
structure Exchange where
  gateway : Endpoint
  requests : List Octets := []
  replies : List Octets := []

/-- A datagram that arrives, by its place among those that were sent. -/
inductive Arrival where
  | request (n : Nat)
  | reply (n : Nat)

namespace Link

def tooLong : String := "Message too long (os error 90)"

/-- A socket that hands the datagrams for one address to the network. -/
def socket {σ : Type} (link : Link) (far : SocketAddress) (hand : Octets → σ → σ)
    (await : Ticket → StateT Endpoint (StateM σ) Unit) : Environment (StateM σ) where
  bind address := pure (.ok address)
  send peer octets := do
    if link.limit < octets.length then return .error tooLong
    if peer = far then modify (hand octets)
    return .ok ()
  log _ _ := pure ()
  await
  custom _ _ _ := pure (.ok ())

/-- The surroundings of the gateway, which has no calls of its own. -/
def gatewaySide (link : Link) : Environment (StateM (List Octets)) :=
  link.socket link.client (fun octets replies => replies ++ [octets]) fun _ => pure ()

/-- The surroundings of the client, which does something else while it waits. -/
def clientSide (link : Link) (await : Endpoint × Exchange → Endpoint × Exchange) :
    Environment (StateM Exchange) :=
  link.socket link.gateway
    (fun octets exchange => { exchange with requests := exchange.requests ++ [octets] })
    fun _ client exchange => (((), (await (client, exchange)).1), (await (client, exchange)).2)

/-- A datagram arrives at the gateway, or at the client. -/
def arrive (link : Link) : Endpoint × Exchange → Arrival → Endpoint × Exchange
  | (client, exchange), .request n =>
    match exchange.requests[n]? with
    | some octets =>
      let next :=
        (outcome link.gatewaySide (receive link.client octets) (exchange.gateway, exchange.replies)).2
      (client, { exchange with gateway := next.1, replies := next.2 })
    | none => (client, exchange)
  | (client, exchange), .reply n =>
    match exchange.replies[n]? with
    | some octets => (outcome (link.clientSide id) (receive link.gateway octets) (client, exchange)).2
    | none => (client, exchange)

/-- What an action of the client gives while these datagrams arrive during its call. -/
def run {α : Type} (link : Link) (arrivals : List Arrival) (action : Action (StateM Exchange) α)
    (client gateway : Endpoint) : Except EndpointError α × Endpoint × Exchange :=
  outcome (link.clientSide fun state => arrivals.foldl link.arrive state) action (client, { gateway })

variable {link : Link}

theorem quiet_socket {σ : Type} (far : SocketAddress) (hand : Octets → σ → σ)
    (await : Ticket → StateT Endpoint (StateM σ) Unit) : Quiet (link.socket far hand await) :=
  fun _ _ _ => rfl

/-- Only what is not too long is sent. -/
theorem send_socket {σ : Type} {far : SocketAddress} {hand : Octets → σ → σ}
    {await : Ticket → StateT Endpoint (StateM σ) Unit} (octets : Octets) (world : σ) :
    ((link.socket far hand await).send far octets).run world =
      if link.limit < octets.length then (.error tooLong, world) else (.ok (), hand octets world) := by
  simp only [socket]
  split <;> simp <;> rfl

/-- A message is handed to the network, or its sender fails and nothing has happened. -/
theorem outcome_send {σ : Type} {far : SocketAddress} {hand : Octets → σ → σ}
    {await : Ticket → StateT Endpoint (StateM σ) Unit} (message : Message) (endpoint : Endpoint)
    (world : σ) :
    (∃ sent, message.encode = .ok sent ∧ sent.length ≤ link.limit ∧
      outcome (link.socket far hand await) (send far message) (endpoint, world) =
        (.ok (), endpoint, hand sent world)) ∨
      ∃ e, outcome (link.socket far hand await) (send far message) (endpoint, world) =
        (.error e, endpoint, world) := by
  rw [Action.outcome_send (quiet_socket far hand await)]
  split
  · exact .inr ⟨_, rfl⟩
  · cases he : message.encode with
    | error e => exact .inr ⟨_, rfl⟩
    | ok sent =>
      simp only [send_socket]
      by_cases hl : link.limit < sent.length
      · rw [if_pos hl]
        exact .inr ⟨_, rfl⟩
      · rw [if_neg hl]
        exact .inl ⟨sent, rfl, Nat.le_of_not_lt hl, rfl⟩

end Link

/-! ## Requests that arrive -/

/-- A create request as a client sends it. -/
structure Asked (request : Message) : Prop where
  sound : request.Sound
  version : request.version = .v2
  type : request.type = 32
  sender : (request.field? .senderFteidC).isSome = true
  imsi : (request.field? .imsi).isSome = true
  paa : ∀ paa ∈ request.field? .paa, paa.type = Code.paa

/-- A gateway that answers create requests, and takes datagrams as a whole. -/
structure Serves (link : Link) (gateway : Endpoint) : Prop where
  handler : gateway.handlers.get? 32 = some .createSession
  interface : gateway.interface < 64
  whole : gateway.TakesWhole link.limit

theorem Serves.extends {link : Link} {gateway gateway' : Endpoint} (h : Serves link gateway)
    (he : Extends gateway gateway') : Serves link gateway' where
  handler := by rw [he.handlers, h.handler]
  interface := by rw [he.interface]; exact h.interface
  whole := by rw [TakesWhole, he.settings]; exact h.whole

/-- An answer that a gateway gives, or has given, to a request. -/
def Granted (client : SocketAddress) (request : Message) (gateway : Endpoint)
    (answer : Message) : Prop :=
  ∃ grant : Grant, grant.Holds client request gateway ∧
    answer = (grant.reply gateway request).setSequence request.sequence

theorem Granted.extends {client : SocketAddress} {request answer : Message}
    {gateway gateway' : Endpoint} (h : Granted client request gateway answer)
    (he : Extends gateway gateway') : Granted client request gateway' answer := by
  obtain ⟨grant, holds, rfl⟩ := h
  obtain ⟨holds', hr⟩ := holds.extends he
  exact ⟨grant, holds', by rw [hr]⟩

variable {link : Link} {request answer : Message} {octets : Octets} {gateway : Endpoint}

/-- A gateway that gets a request may fail and send nothing. Otherwise it sends an answer. -/
theorem gateway_receive (serves : Serves link gateway) (asked : Asked request)
    (he : request.encode = .ok octets) (hl : octets.length ≤ link.limit) (replies : List Octets) :
    ∃ gateway', Extends gateway gateway' ∧
      ((outcome link.gatewaySide (receive link.client octets) (gateway, replies)).2 =
          (gateway', replies) ∨
        ∃ answer sent, Granted link.client request gateway' answer ∧ answer.encode = .ok sent ∧
          sent.length ≤ link.limit ∧
          (outcome link.gatewaySide (receive link.client octets) (gateway, replies)).2 =
            (gateway', replies ++ [sent])) := by
  have hq : Quiet link.gatewaySide := Link.quiet_socket _ _ _
  rcases parse_seen serves.whole asked.sound asked.version he hl with hp | ⟨needed, available, hp⟩
  · have hreply : request.isReply = false := by
      rw [Message.isReply, asked.version, asked.type]
      decide
    have hkind : request.kind = .createSessionRequest := by
      rw [← asked.sound.kind, asked.version, asked.type]
      decide
    have hh : gateway.handlers.get? request.type = some .createSession := by
      rw [asked.type, serves.handler]
    obtain ⟨sender, hs⟩ := Option.isSome_iff_exists.1 asked.sender
    have hi : (request.field? .imsi).isNone = false := by
      simpa using asked.imsi
    obtain ⟨events, hrun⟩ := outcome_receive_request hq hp hreply hh
    obtain ⟨e, hc⟩ | ⟨own, pool, draws, ⟨e, hc⟩ | ⟨grant, rfl, -, holds, hc⟩⟩ :=
      outcome_createSession hq _ _ _ hkind hs hi
    · rw [hrun, Handler.run, hc]
      exact ⟨_, extends_events gateway events, .inl rfl⟩
    · rw [hrun, Handler.run, hc]
      exact ⟨_, (extends_pool gateway pool).trans (extends_events _ events), .inl rfl⟩
    · have hlast := (extends_withGrant draws).trans (extends_events _ events)
      have hgranted : Granted link.client request
          { gateway.withGrant grant pool with events } _ :=
        Granted.extends ⟨grant, holds, rfl⟩ (extends_events _ events)
      rw [hrun, Handler.run, hc]
      obtain ⟨sent, hsent, hlimit, hr⟩ | ⟨e, hr⟩ :=
        Link.outcome_send _ (gateway.withGrant grant pool) replies
      · rw [respond, Link.gatewaySide, hr]
        exact ⟨_, hlast, .inr ⟨_, sent, hgranted, hsent, hlimit, rfl⟩⟩
      · rw [respond, Link.gatewaySide, hr]
        exact ⟨_, hlast, .inl rfl⟩
  · obtain ⟨events, hrun⟩ := outcome_receive_error hq hp (by simp)
    rw [hrun]
    exact ⟨_, extends_events gateway events, .inl rfl⟩

/-! ## Answers that arrive -/

/-- A client that leaves the answers to its calls, and takes datagrams as a whole. -/
structure Waits (link : Link) (client : Endpoint) : Prop where
  handler : client.handlers.get? 33 = none
  whole : client.TakesWhole link.limit

theorem Granted.sound (h : Granted link.client request gateway answer) (asked : Asked request) :
    answer.Sound ∧ answer.version = .v2 ∧ answer.type = 33 := by
  obtain ⟨grant, -, rfl⟩ := h
  have helements : ∀ x ∈ request.elements, Element.Sound .v2 x := by
    rw [← asked.version]
    exact asked.sound.elements
  obtain ⟨hs, hv⟩ := Grant.sound_reply helements
  obtain ⟨hs', hv'⟩ := hs.setSequence hv request.sequence
  refine ⟨hs', hv', ?_⟩
  rw [Message.type_setSequence, Grant.reply, Gateway.response, Message.type_make]
  rfl

/-- An answer that reaches a client may end a call there. -/
theorem client_receive {client : Endpoint} (waits : Waits link client) (asked : Asked request)
    (hg : Granted link.client request gateway answer) (he : answer.encode = .ok octets)
    (hl : octets.length ≤ link.limit) (exchange : Exchange) :
    ∃ pending events, (outcome (link.clientSide id) (receive link.gateway octets)
        (client, exchange)).2 = ({ client with pending, events }, exchange) ∧
      (pending = client.pending ∨ ∃ key, pending = (client.pending.resolve key answer).2) := by
  have hq : Quiet (link.clientSide id) := Link.quiet_socket _ _ _
  obtain ⟨sound, hv, ht⟩ := hg.sound asked
  rcases parse_seen waits.whole sound hv he hl with hp | ⟨needed, available, hp⟩
  · have hreply : answer.isReply = true := by
      rw [Message.isReply, hv, ht]
      decide
    have hh : client.handlers.get? answer.type = none := by
      rw [ht, waits.handler]
    obtain ⟨events, hrun⟩ := outcome_receive_reply hq hp hreply hh
    exact ⟨_, events, congrArg Prod.snd hrun, .inr ⟨_, rfl⟩⟩
  · obtain ⟨events, hrun⟩ := outcome_receive_error hq hp (by simp)
    exact ⟨_, events, congrArg Prod.snd hrun, .inl rfl⟩

/-! ## Exchanges over time -/

/-- What holds of an exchange from the call of a client on: only the request and answers to it were
sent, and the client has only been signalled such answers. -/
structure Underway (link : Link) (request : Message) (ticket : Ticket) (start : Endpoint)
    (state : Endpoint × Exchange) : Prop where
  serves : Serves link state.2.gateway
  requests : ∀ octets ∈ state.2.requests, request.encode = .ok octets ∧ octets.length ≤ link.limit
  replies : ∀ octets ∈ state.2.replies, octets.length ≤ link.limit ∧
    ∃ answer, Granted link.client request state.2.gateway answer ∧ answer.encode = .ok octets
  client : ∃ pending events, state.1 = { start with pending, events } ∧
    pending.Answered ticket (Granted link.client request state.2.gateway)

variable {ticket : Ticket} {start : Endpoint} {state : Endpoint × Exchange}

private theorem underway_request (h : Underway link request ticket start state)
    (asked : Asked request) (n : Nat) :
    Underway link request ticket start (link.arrive state (.request n)) := by
  obtain ⟨client, exchange⟩ := state
  simp only [Link.arrive]
  cases hn : exchange.requests[n]? with
  | none => exact h
  | some octets =>
    obtain ⟨he, hl⟩ := h.requests octets (List.mem_of_getElem? hn)
    obtain ⟨pending, events, hc, ha⟩ := h.client
    have serves : Serves link exchange.gateway := h.serves
    obtain ⟨next, hext, hrun⟩ := gateway_receive serves asked he hl exchange.replies
    -- What was granted before stays so.
    have hold : ∀ answer, Granted link.client request exchange.gateway answer →
        Granted link.client request next answer := fun answer hg => hg.extends hext
    have hreplies : ∀ octets ∈ exchange.replies, octets.length ≤ link.limit ∧
        ∃ answer, Granted link.client request next answer ∧ answer.encode = .ok octets := by
      intro octets ho
      obtain ⟨hl, answer, hg, he⟩ := h.replies octets ho
      exact ⟨hl, answer, hold answer hg, he⟩
    have hclient : ∃ pending events, client = { start with pending, events } ∧
        pending.Answered ticket (Granted link.client request next) :=
      ⟨pending, events, hc, fun message hm => hold message (ha message hm)⟩
    simp only
    rcases hrun with hrun | ⟨answer, sent, hg, he, hl, hrun⟩
    · rw [hrun]
      exact ⟨serves.extends hext, h.requests, hreplies, hclient⟩
    · rw [hrun]
      refine ⟨serves.extends hext, h.requests, ?_, hclient⟩
      intro octets ho
      rcases List.mem_append.1 ho with ho | ho
      · exact hreplies octets ho
      · rw [List.mem_singleton.1 ho]
        exact ⟨hl, answer, hg, he⟩

private theorem underway_reply (h : Underway link request ticket start state)
    (waits : Waits link start) (asked : Asked request) (n : Nat) :
    Underway link request ticket start (link.arrive state (.reply n)) := by
  obtain ⟨client, exchange⟩ := state
  simp only [Link.arrive]
  cases hn : exchange.replies[n]? with
  | none => exact h
  | some octets =>
    obtain ⟨hl, answer, hg, he⟩ := h.replies octets (List.mem_of_getElem? hn)
    obtain ⟨pending, events, hc, ha⟩ := h.client
    have hc' : client = { start with pending, events } := hc
    subst hc'
    have waits' : Waits link { start with pending, events } := ⟨waits.handler, waits.whole⟩
    obtain ⟨pending', events', hrun, hp⟩ := client_receive waits' asked hg he hl exchange
    simp only
    rw [hrun]
    refine ⟨h.serves, h.requests, h.replies, pending', events', rfl, ?_⟩
    rcases hp with rfl | ⟨key, rfl⟩
    · exact ha
    · exact ha.resolve key hg

/-- Whatever arrives when, and how often. -/
theorem Underway.arrive (h : Underway link request ticket start state) (waits : Waits link start)
    (asked : Asked request) (arrivals : List Arrival) :
    Underway link request ticket start (arrivals.foldl link.arrive state) := by
  induction arrivals generalizing state with
  | nil => exact h
  | cons arrival arrivals ih =>
    cases arrival with
    | request n => exact ih (underway_request h asked n)
    | reply n => exact ih (underway_reply h waits asked n)

end GtpControl.Endpoint
