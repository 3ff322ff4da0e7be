import GtpControl.Proofs.RequestAnswers

/-! # Provoked answers: a datagram is answered once at most, and an answer is not answered

What is sent because of a datagram goes back to its sender, and it is a reply. Replies end calls or get to
handlers that send nothing, so that endpoints do not go on answering each other. -/
namespace GtpControl
open Endpoint.Action

namespace Message

theorem isReply_make (kind : Kind) (values : Header.Values) (elements : List Element) :
    (make .v2 kind values elements).isReply = Version.v2.isReply (kind.type?.getD 0) := by
  rw [isReply, version_make, type_make]

theorem isReply_setSequence {message : Message} (hv : message.version = .v2) (sequence : UInt32) :
    (message.setSequence sequence).isReply = message.isReply := by
  obtain ⟨header, _, _, _⟩ := message
  cases header with
  | v2 header => rfl
  | _ => cases hv

/-- Older versions have shorter sequence numbers. -/
theorem sequence_lt {message : Message} (h : message.version ∈ [.v0, .v1]) :
    message.sequence.toNat < 2 ^ 24 := by
  obtain ⟨header, _, _, _⟩ := message
  cases header with
  | v0 header | v1 header => exact header.sequence.toNat_lt.trans (by decide)
  | v2 header | prime header => simp [version, Header.version] at h

end Message

/-- Surroundings in which every datagram that the network is given is kept on record, whether the network
takes it or not. -/
def Endpoint.Environment.offering (network : SocketAddress → Octets → Except String Unit) :
    Environment (StateM (List (SocketAddress × Octets))) where
  bind address := pure (.ok address)
  send peer octets := do
    modify (· ++ [(peer, octets)])
    return network peer octets
  log _ _ := pure ()
  await _ := pure ()
  custom _ _ _ := pure (.ok ())

namespace Endpoint
variable {network : SocketAddress → Octets → Except String Unit} {peer : SocketAddress}
  {request answer message : Message} {endpoint next later : Endpoint} {octets : Octets}
  {sent : List (SocketAddress × Octets)}

theorem quiet_offering (network : SocketAddress → Octets → Except String Unit) :
    Quiet (.offering network) := fun _ _ _ => rfl

theorem idle_offering (network : SocketAddress → Octets → Except String Unit) :
    Idle (.offering network) := fun _ _ _ _ => rfl

/-! ## Endpoints and what is sent by them -/

/-- The handlers are those that every endpoint has, and those of a gateway. -/
def Staffed (endpoint : Endpoint) : Prop :=
  ∀ type, endpoint.handlers.get? type = (Handler.standard.entries ++ Handler.gateway).lookup type

/-- The message that a datagram is taken for. One of another version is read once more, to be refused. -/
def decoded? (endpoint : Endpoint) (octets : Octets) : Option Message :=
  match Message.parse .v2 endpoint.settings.lengthPolicy (endpoint.seen octets) with
  | .ok message => some message
  | .error (.unsupportedVersion _) => (Message.parseAny .lenient (endpoint.seen octets)).toOption
  | .error _ => none

/-- What is sent because of a datagram: when it is taken in, when a handler gets its message, and when a
procedure gets the reply that it waits for. A handler and a procedure go on later, and by then the endpoint
may have come to any state. -/
inductive Provokes (network : SocketAddress → Octets → Except String Unit) (peer : SocketAddress)
    (octets : Octets) (endpoint : Endpoint) : List (SocketAddress × Octets) → Prop
  | accepted {result : Except EndpointError (Option (Handler × Message))} {next : Endpoint}
    {sent : List (SocketAddress × Octets)}
    (ha : outcome (.offering network) (accept peer (endpoint.seen octets)) (endpoint, []) =
      (result, next, sent)) : Provokes network peer octets endpoint sent
  | handled {handler : Handler} {message : Message} {next : Endpoint}
    {sent : List (SocketAddress × Octets)}
    (ha : outcome (.offering network) (accept peer (endpoint.seen octets)) (endpoint, []) =
      (.ok (some (handler, message)), next, sent)) (later : Endpoint) :
    Provokes network peer octets endpoint
      (outcome (.offering network) (handle handler peer message) (later, sent)).2.2
  | delivered {message : Message} {next : Endpoint} {sent : List (SocketAddress × Octets)}
    (hp : Message.parse .v2 endpoint.settings.lengthPolicy (endpoint.seen octets) = .ok message)
    (he : endpoint.expects peer message = true)
    (ha : outcome (.offering network) (accept peer (endpoint.seen octets)) (endpoint, []) =
      (.ok none, next, sent)) {later : Endpoint} (staffed : later.Staffed) :
    Provokes network peer octets endpoint
      (outcome (.offering network) (deliver peer message) (later, sent)).2.2

/-- Nothing is sent, or one datagram to the peer, which is read as a reply to the request. -/
def RepliesOnce (peer : SocketAddress) (request : Message) (sent : List (SocketAddress × Octets)) :
    Prop :=
  sent = [] ∨ ∃ octets answer, sent = [(peer, octets)] ∧
    (∀ policy, Message.parse .v2 policy octets = .ok answer) ∧ answer.isReply = true ∧
    answer.sequence = request.sequence

/-! ## Staff -/

/-- The handlers of a gateway go to those that an endpoint starts with. -/
theorem staffed_installGateway {σ : Type} {environment : Environment (StateM σ)}
    (hq : Quiet environment) (state : Endpoint × σ) (hh : state.1.handlers = Handler.standard) :
    (outcome environment installGateway state).2.1.Staffed := by
  have hrun : outcome environment installGateway state = (.ok (), { state.1 with
      handlers := Handler.gateway.foldl (fun handlers entry => handlers.insert entry.1 entry.2)
        state.1.handlers }, state.2) := by
    simp only [installGateway, Handler.gateway, List.forM_eq_forM, List.forM_cons, List.forM_nil,
      addHandler, outcome_bind, outcome_modify, outcome_log hq, outcome_pure, List.foldl_cons,
      List.foldl_nil]
  rw [hrun, hh]
  exact fun _ => rfl

private theorem staff_of_reply : ∀ entry ∈ Handler.standard.entries ++ Handler.gateway,
    Version.v2.isReply entry.1 = true →
      entry.2 = .echoResponse ∨ entry.2 = .versionNotSupported := by
  decide +kernel

/-- Who handles replies only takes note of them. -/
theorem Staffed.of_reply (staffed : endpoint.Staffed) {type : UInt8} {handler : Handler}
    (hh : endpoint.handlers.get? type = some handler) (hr : Version.v2.isReply type = true) :
    handler = .echoResponse ∨ handler = .versionNotSupported := by
  rw [staffed type] at hh
  obtain ⟨front, back, he, -⟩ := List.lookup_eq_some_iff.1 hh
  exact staff_of_reply (type, handler) (he ▸ List.mem_append_right front List.mem_cons_self) hr

theorem silent_run {handler : Handler} (h : handler = .echoResponse ∨ handler = .versionNotSupported)
    (peer : SocketAddress) (message : Message) (state : Endpoint × List (SocketAddress × Octets)) :
    (outcome (.offering network) (handler.run peer message) state).2 = state := by
  obtain rfl | rfl := h
  · rw [Handler.run, outcome_ite, outcome_log (quiet_offering network)]
    split <;> rfl
  · rw [Handler.run, outcome_log (quiet_offering network)]

/-- A reply that a procedure gives to a handler provokes nothing. -/
theorem Staffed.deliver (staffed : endpoint.Staffed) (hr : Version.v2.isReply message.type = true)
    (peer : SocketAddress) (sent : List (SocketAddress × Octets)) :
    (outcome (.offering network) (deliver peer message) (endpoint, sent)).2.2 = sent := by
  rw [Endpoint.deliver, outcome_bind, outcome_get]
  dsimp only
  cases hh : endpoint.handlers.get? message.type with
  | none => rfl
  | some handler =>
    have hrun : (outcome (.offering network) (handler.run peer message) (endpoint, sent)).2 = _ :=
      silent_run (staffed.of_reply hh hr) peer message (endpoint, sent)
    dsimp only
    rw [outcome_bind]
    split
    · next he =>
      rw [he] at hrun
      exact congrArg Prod.snd hrun
    · next he =>
      rw [he] at hrun
      exact congrArg Prod.snd hrun

/-! ## Answers -/

theorem isReply_indication (sequence : UInt32) : (indication sequence).isReply = true := by
  have htype : Version.v2.isReply versionNotSupported = true := by decide
  exact htype

theorem sequence_indication {sequence : UInt32} (h : sequence.toNat < 2 ^ 24) :
    (indication sequence).sequence = sequence := by
  have hmod : (Sequence.ofUInt32 sequence).val = sequence.toNat := Nat.mod_eq_of_lt h
  have hs : (indication sequence).sequence = .ofNat (Sequence.ofUInt32 sequence) := rfl
  rw [hs, hmod, UInt32.ofNat_toNat]

private theorem isReply_of_kind : ∀ kind ∈ [Kind.createSessionResponse, .modifyBearerResponse,
    .deleteSessionResponse, .releaseAccessBearersResponse],
    Version.v2.isReply (kind.type?.getD 0) = true := by
  decide

theorem isReply_response {kind : Kind} (h : kind ∈ [.createSessionResponse, .modifyBearerResponse,
    .deleteSessionResponse, .releaseAccessBearersResponse]) (teid : UInt32) (elements : List Element) :
    (Gateway.response kind teid elements).isReply = true := by
  rw [Gateway.response, Message.isReply_make]
  exact isReply_of_kind kind h

/-- All that handlers answer is a reply. -/
theorem Reaction.isReply (reaction : Reaction peer request endpoint next (some answer)) :
    answer.isReply = true := by
  cases reaction with
  | echoed =>
    rw [Message.isReply_make]
    decide
  | incomplete | created => exact isReply_response (by decide) _ _
  | unknown hk => exact isReply_response (List.mem_cons_of_mem _ hk) 0 _
  | modified | deleted | released => exact isReply_response (by decide) _ _

theorem repliesOnce_send (sound : answer.Sound) (hv : answer.version = .v2)
    (hr : answer.isReply = true) (hs : answer.sequence = request.sequence) (endpoint : Endpoint) :
    RepliesOnce peer request
      (outcome (.offering network) (send peer answer) (endpoint, [])).2.2 := by
  rw [outcome_send (quiet_offering network)]
  split
  · exact .inl rfl
  · cases he : answer.encode with
    | error e => exact .inl rfl
    | ok octets =>
      refine .inr ⟨octets, answer, ?_, sound.parse_v2 hv he, hr, hs⟩
      have hsend : ((Environment.offering network).send peer octets).run [] =
          (network peer octets, [(peer, octets)]) := rfl
      dsimp only
      rw [hsend]
      cases network peer octets <;> rfl

/-- A handler answers a request that was read. -/
theorem repliesOnce_run {policy : LengthPolicy} (hp : Message.parse .v2 policy octets = .ok request)
    (handler : Handler) (peer : SocketAddress) (endpoint : Endpoint) :
    RepliesOnce peer request
      (outcome (.offering network) (handler.run peer request) (endpoint, [])).2.2 := by
  obtain ⟨next, answer?, reacts⟩ :=
    reacts_run (quiet_offering network) (idle_offering network) handler peer request endpoint []
  rw [reacts.state]
  cases answer? with
  | none => exact .inl rfl
  | some answer =>
    obtain ⟨sound, hv⟩ := reacts.reaction.sound (Message.sound_of_mem_of_parse hp)
    obtain ⟨hsound, hversion⟩ := sound.setSequence hv request.sequence
    refine repliesOnce_send hsound hversion ?_ ?_ next
    · rw [Message.isReply_setSequence hv]
      exact reacts.reaction.isReply
    · exact Message.sequence_setSequence (Message.kind_of_parse hp).1 hv

/-! ## Datagrams that are taken in -/

theorem decoded?_of_parse
    (hp : Message.parse .v2 endpoint.settings.lengthPolicy (endpoint.seen octets) = .ok message) :
    endpoint.decoded? octets = some message := by
  rw [decoded?, hp]

private theorem repliesOnce_indication (hv : request.version ∈ [.v0, .v1]) (peer : SocketAddress)
    (endpoint : Endpoint) :
    RepliesOnce peer request
      (outcome (.offering network) (send peer (indication request.sequence)) (endpoint, [])).2.2 :=
  repliesOnce_send (sound_indication _) rfl (isReply_indication _)
    (sequence_indication (Message.sequence_lt hv)) endpoint

/-- A handler that gets a message answers it, unless that is a reply. -/
private theorem repliesOnce_handle (staffed : endpoint.Staffed)
    (hp : Message.parse .v2 endpoint.settings.lengthPolicy (endpoint.seen octets) = .ok message)
    {handler : Handler} (hh : endpoint.handlers.get? message.type = some handler)
    (peer : SocketAddress) (later : Endpoint) :
    let sent := (outcome (.offering network) (handle handler peer message) (later, [])).2.2
    sent = [] ∨ message.isReply = false ∧ RepliesOnce peer message sent := by
  intro sent
  have hsent : sent = (outcome (.offering network) (handler.run peer message) (later, [])).2.2 := by
    obtain ⟨events, hhandle⟩ :=
      @outcome_handle _ _ later [] (quiet_offering network) handler peer message
    dsimp only [sent]
    rw [hhandle]
  rw [hsent]
  -- Replies that no call waits for get to handlers too.
  cases hr : message.isReply with
  | false => exact .inr ⟨rfl, repliesOnce_run hp handler peer later⟩
  | true =>
    rw [Message.isReply, (Message.kind_of_parse hp).1] at hr
    rw [silent_run (staffed.of_reply hh hr)]
    exact .inl rfl

/-- What a datagram provokes is one reply at most, and nothing if it is a reply itself. -/
theorem Provokes.cases (provokes : Provokes network peer octets endpoint sent)
    (staffed : endpoint.Staffed) :
    sent = [] ∨ ∃ request, endpoint.decoded? octets = some request ∧ request.isReply = false ∧
      RepliesOnce peer request sent := by
  have hcases := accept_cases (quiet_offering network) endpoint [] peer (endpoint.seen octets)
  cases provokes with
  | accepted ha =>
    rw [ha] at hcases
    obtain ⟨events, h⟩ | ⟨version, request, hp, hany, hv, hr, h⟩ |
      ⟨message, -, ⟨events, h⟩ | ⟨handler, -, -, h⟩⟩ := hcases
    · cases h
      exact .inl rfl
    · refine .inr ⟨request, ?_, hr, ?_⟩
      · rw [decoded?, hp]
        dsimp only
        rw [hany]
        rfl
      · cases h
        exact repliesOnce_indication hv peer endpoint
    · cases h
      exact .inl rfl
    · cases h
      exact .inl rfl
  | handled ha later =>
    rw [ha] at hcases
    obtain ⟨events, h⟩ | ⟨version, request, -, -, -, -, h⟩ |
      ⟨message, hp, ⟨events, h⟩ | ⟨handler, -, hh, h⟩⟩ := hcases
    · cases h
    · cases h
    · cases h
    · cases h
      refine (repliesOnce_handle staffed hp hh peer later).imp_right fun ⟨hr, hreplies⟩ => ?_
      exact ⟨_, decoded?_of_parse hp, hr, hreplies⟩
  | delivered hp he ha hlater =>
    rw [ha] at hcases
    rw [expects, Bool.and_eq_true, Message.isReply, (Message.kind_of_parse hp).1] at he
    rw [hlater.deliver he.1]
    obtain ⟨events, h⟩ | ⟨version, request, hversion, -, -, -, -⟩ |
      ⟨message, -, ⟨events, h⟩ | ⟨handler, -, -, h⟩⟩ := hcases
    · cases h
      exact .inl rfl
    · cases hp.symm.trans hversion
    · cases h
      exact .inl rfl
    · cases h

/-- An endpoint that takes a datagram in and runs the handler at once. -/
theorem provokes_receive (network : SocketAddress → Octets → Except String Unit) (peer : SocketAddress)
    (octets : Octets) (endpoint : Endpoint) : Provokes network peer octets endpoint
      (outcome (.offering network) (receive peer octets) (endpoint, [])).2.2 := by
  rw [outcome_receive]
  cases ha : outcome (.offering network) (accept peer (endpoint.seen octets)) (endpoint, []) with
  | mk result state =>
    obtain ⟨next, sent⟩ := state
    match result with
    | .error e => exact .accepted ha
    | .ok none => exact .accepted ha
    | .ok (some (handler, message)) => exact .handled ha next

/-! ## Datagrams that go back and forth -/

/-- Whether the octets are a reply. -/
def isAnswer (octets : Octets) : Bool :=
  match Message.parse .v2 .strict octets with
  | .ok message => message.isReply
  | .error _ => false

/-- An endpoint that can read a reply takes it for one, even if it looks at the beginning only. -/
theorem isReply_of_isAnswer (h : isAnswer octets = true) (hd : endpoint.decoded? octets = some message) :
    message.isReply = true := by
  rw [isAnswer] at h
  cases hp : Message.parse .v2 .strict octets with
  | error e =>
    rw [hp] at h
    cases h
  | ok answer =>
    rw [hp] at h
    have hn : 0 < max 1 endpoint.settings.bufferSize.toNat := by omega
    rw [decoded?, seen] at hd
    -- Only the header matters, and the beginning of a message has the header of the whole.
    split at hd
    · next hseen =>
      cases hd
      rw [Message.isReply, Message.version, Message.type, Message.header_of_parse_take hp hseen]
      exact h
    · next hseen => exact absurd hseen (Message.supported_of_parse_take hn hp _)
    · cases hd

/-- How often a datagram and what it provokes can be delivered. -/
def reach (octets : Octets) : Nat := if isAnswer octets then 1 else 2

theorem one_le_reach (octets : Octets) : 1 ≤ reach octets := by
  rw [reach]
  split <;> omega

/-- What is provoked reaches less far than what provokes it. -/
theorem Provokes.reach_lt (provokes : Provokes network peer octets endpoint sent)
    (staffed : endpoint.Staffed) : total (sent.map (reach ·.2)) < reach octets := by
  obtain rfl | ⟨request, hd, hr, rfl | ⟨octets', answer, rfl, hp, ha, -⟩⟩ := provokes.cases staffed
  · exact one_le_reach octets
  · exact one_le_reach octets
  · have hasked : isAnswer octets = false := by
      cases h : isAnswer octets with
      | false => rfl
      | true => exact (isReply_of_isAnswer h hd).symm.trans hr
    have hanswer : isAnswer octets' = true := by
      rw [isAnswer, hp]
      exact ha
    simp [total, reach, hasked, hanswer]

/-- Datagrams on their way between endpoints of one kind. How many have been delivered so far, and how
many were sent without being provoked; a datagram that comes twice is taken for another one of these. Each
may be delivered to any of the endpoints, in any state. -/
inductive Volley : (delivered unprovoked : Nat) → (flying : List Octets) → Prop
  | quiet : Volley 0 0 []
  | launched {delivered unprovoked : Nat} {flying : List Octets}
    (volley : Volley delivered unprovoked flying) (octets : Octets) :
    Volley delivered (unprovoked + 1) (octets :: flying)
  | lost {delivered unprovoked : Nat} {octets : Octets} {before after : List Octets}
    (volley : Volley delivered unprovoked (before ++ octets :: after)) :
    Volley delivered unprovoked (before ++ after)
  | arrived {delivered unprovoked : Nat} {octets : Octets} {before after : List Octets}
    {network : SocketAddress → Octets → Except String Unit} {peer : SocketAddress}
    {endpoint : Endpoint} {sent : List (SocketAddress × Octets)}
    (volley : Volley delivered unprovoked (before ++ octets :: after)) (staffed : endpoint.Staffed)
    (provokes : Provokes network peer octets endpoint sent) :
    Volley (delivered + 1) unprovoked (before ++ after ++ sent.map (·.2))

/-- Deliveries use up the reach of what is sent without being provoked. -/
theorem Volley.reach_le {delivered unprovoked : Nat} {flying : List Octets}
    (volley : Volley delivered unprovoked flying) :
    delivered + total (flying.map reach) ≤ 2 * unprovoked := by
  induction volley with
  | quiet => exact Nat.le_refl 0
  | launched _ octets ih =>
    have hreach : reach octets ≤ 2 := by
      rw [reach]
      split <;> omega
    simp only [List.map_cons, total]
    omega
  | lost _ ih =>
    simp only [List.map_append, List.map_cons, total_append, total] at ih ⊢
    omega
  | arrived _ staffed provokes ih =>
    have hlt := provokes.reach_lt staffed
    simp only [List.map_append, List.map_cons, List.map_map, total_append, total,
      Function.comp_def] at ih hlt ⊢
    omega

theorem length_le_total_reach (flying : List Octets) : flying.length ≤ total (flying.map reach) := by
  induction flying with
  | nil => exact Nat.le_refl 0
  | cons octets flying ih =>
    have := one_le_reach octets
    simp only [List.map_cons, List.length_cons, total]
    omega

/-- Because of a datagram, an endpoint with these handlers sends one datagram at most. It goes back to where
the other came from, and is a reply with the sequence number of what the other was taken for. If that is a
reply itself, nothing is sent. So endpoints of this kind do not go on answering each other: there are at
most two deliveries for each datagram that was sent without being provoked. -/
theorem provoked_answers :
    (∀ network peer octets endpoint sent, Staffed endpoint →
      Provokes network peer octets endpoint sent →
      sent.length ≤ 1 ∧
      (∀ datagram ∈ sent, datagram.1 = peer ∧ ∃ request answer,
        endpoint.decoded? octets = some request ∧
        (∀ policy, Message.parse .v2 policy datagram.2 = .ok answer) ∧ answer.isReply = true ∧
        answer.sequence = request.sequence) ∧
      ∀ message, endpoint.decoded? octets = some message → message.isReply = true → sent = []) ∧
    ∀ delivered unprovoked flying, Volley delivered unprovoked flying →
      delivered + flying.length ≤ 2 * unprovoked := by
  constructor
  · intro network peer octets endpoint sent staffed provokes
    obtain rfl | ⟨request, hd, hr, rfl | ⟨octets', answer, rfl, hp, ha, hs⟩⟩ := provokes.cases staffed
    · simp
    · simp
    · refine ⟨Nat.le_refl 1, ?_, fun message hm hreply => ?_⟩
      · rw [List.forall_mem_singleton]
        exact ⟨rfl, request, answer, hd, hp, ha, hs⟩
      · rw [hd] at hm
        cases hm
        rw [hr] at hreply
        cases hreply
  · intro delivered unprovoked flying volley
    have hreach := volley.reach_le
    have hlength := length_le_total_reach flying
    omega

/-! Two gateways, and an echo request of an older version. -/

private def near : SocketAddress := ⟨.v4 ⟨127, 0, 0, 1⟩, 2123, 0⟩

private def far : SocketAddress := ⟨.v4 ⟨127, 0, 0, 10⟩, 2123, 0⟩

private def gatewayAt (address : SocketAddress) : Endpoint :=
  (outcome .recording installGateway ({ make address 11 7 {} with bound := some address }, [])).2.1

private def olderRequest : Octets :=
  ((Message.make .v1 .echoRequest { sequence := 9 } []).encode).toOption.getD []

private def rejection : Octets := ((indication 9).encode).toOption.getD []

/-- What a gateway sends when it receives a datagram and every datagram gets through. -/
private def sentBy (address peer : SocketAddress) (octets : Octets) : List (SocketAddress × Octets) :=
  (outcome (.offering fun _ _ => .ok ()) (receive peer octets) (gatewayAt address, [])).2.2

/-- One tells the other that the version is not supported, and nothing is sent after that. -/
theorem provoked_answers_older :
    (gatewayAt near).Staffed ∧ (gatewayAt far).Staffed ∧
    sentBy near far olderRequest = [(far, rejection)] ∧
    (∀ datagram ∈ [(far, rejection)], datagram.1 = far ∧ ∃ request answer,
      (gatewayAt near).decoded? olderRequest = some request ∧
      (∀ policy, Message.parse .v2 policy datagram.2 = .ok answer) ∧ answer.isReply = true ∧
      answer.sequence = request.sequence) ∧
    (gatewayAt far).decoded? rejection = some (indication 9) ∧ (indication 9).isReply = true ∧
    sentBy far near rejection = [] ∧ Volley 2 1 [] ∧ 2 + ([] : List Octets).length ≤ 2 * 1 := by
  obtain ⟨honce, hbound⟩ := provoked_answers
  have hnear : (gatewayAt near).Staffed := staffed_installGateway quiet_recording _ rfl
  have hfar : (gatewayAt far).Staffed := staffed_installGateway quiet_recording _ rfl
  have hsent : sentBy near far olderRequest = [(far, rejection)] := by decide +kernel
  have hprovokes : Provokes (fun _ _ => .ok ()) far olderRequest (gatewayAt near) [(far, rejection)] :=
    hsent ▸ provokes_receive _ far olderRequest (gatewayAt near)
  have hd : (gatewayAt far).decoded? rejection = some (indication 9) := by decide +kernel
  have hr : (indication 9).isReply = true := isReply_indication 9
  have hanswered : Provokes (fun _ _ => .ok ()) near rejection (gatewayAt far) (sentBy far near rejection) :=
    provokes_receive _ near rejection (gatewayAt far)
  have hsilent : sentBy far near rejection = [] :=
    (honce _ _ _ _ _ hfar hanswered).2.2 (indication 9) hd hr
  have volley : Volley 2 1 [] := by
    have hasked : Volley 0 1 ([] ++ olderRequest :: []) := .launched .quiet olderRequest
    have hrefused : Volley 1 1 ([] ++ rejection :: []) := hasked.arrived hnear hprovokes
    rw [hsilent] at hanswered
    exact hrefused.arrived hfar hanswered
  exact ⟨hnear, hfar, hsent, (honce _ _ _ _ _ hnear hprovokes).2.1, hd, hr, hsilent, volley,
    hbound 2 1 [] volley⟩

end Endpoint
end GtpControl
