import GtpControl.Proofs.GatewayService
import GtpControl.Proofs.Reachability

/-! # The boundary between peers: no datagram touches the sessions of another peer

An entry of the registry keeps the peer of its session. Requests find entries of their own peer only,
and new sessions get numbers that have no entry. -/
namespace GtpControl.Endpoint
open Endpoint.Action Catalog.V2 Element
variable {σ : Type} {environment : Environment (StateM σ)} {endpoint next : Endpoint}
  {id other : SessionId} {session : Session} {peer : SocketAddress} {request : Message}
  {answer? : Option Message}

/-! ## Whose the sessions are -/

/-- The indices of the registry agree, and each entry names the peer of its session. -/
structure Owned (endpoint : Endpoint) : Prop where
  coherent : endpoint.registry.Coherent
  owner : ∀ teid entry, endpoint.registry.byTeid.get? teid = some entry →
    ∃ session, endpoint.session? entry.session = some session ∧ session.peer = entry.peer

/-- Entries keep their owner when all sessions stay with their peers. -/
private theorem Owned.carried (owned : endpoint.Owned) (coherent : next.registry.Coherent)
    (entries : ∀ teid entry, next.registry.byTeid.get? teid = some entry →
      endpoint.registry.byTeid.get? teid = some entry)
    (peers : ∀ id session, endpoint.session? id = some session →
      ∃ session', next.session? id = some session' ∧ session'.peer = session.peer) : next.Owned where
  coherent := coherent
  owner teid entry he := by
    obtain ⟨session, hs, hp⟩ := owned.owner teid entry (entries teid entry he)
    obtain ⟨session', hs', hp'⟩ := peers _ session hs
    exact ⟨session', hs', hp'.trans hp⟩

private theorem Owned.registered (owned : endpoint.Owned) (known : endpoint.session? id = some session)
    (teid : UInt32) :
    Owned { endpoint with registry := endpoint.registry.register teid id session } where
  coherent := Registry.coherent_register owned.coherent ..
  owner teid' entry he := by
    dsimp only at he
    rw [Registry.get?_register] at he
    split at he
    · cases he
      exact ⟨session, known, rfl⟩
    · exact owned.owner teid' entry he

private theorem session?_changed (hid : other = id → session.peer = (endpoint.session id).peer)
    {found : Session} (h : endpoint.session? other = some found) :
    ∃ found', (endpoint.setSession id session).session? other = some found' ∧
      found'.peer = found.peer := by
  refine exists_session?_setSession ⟨found, h, rfl⟩ fun he => (hid he.symm).trans ?_
  rw [he, Endpoint.session, h, Option.getD_some]

theorem Reachable.owned (reachable : Reachable endpoint) : endpoint.Owned := by
  induction reachable with
  | made => exact ⟨Registry.coherent_empty, fun teid entry he => by cases he⟩
  | aside _ sessions registry ih =>
    refine ih.carried (registry ▸ ih.coherent) (fun teid entry he => registry ▸ he) fun id session hs => ?_
    exact ⟨session, by rwa [session?, sessions], rfl⟩
  | kept _ session ih =>
    refine ih.carried ih.coherent (fun _ _ he => he) fun id found hs => ⟨found, ?_, rfl⟩
    exact (List.getElem?_append_left (List.getElem?_eq_some_iff.1 hs).1).trans hs
  | changed _ peer ih =>
    exact ih.carried ih.coherent (fun _ _ he => he) fun _ _ => session?_changed fun _ => peer
  | registered _ known teid ih => exact ih.registered known teid
  | removed _ id ih =>
    refine ih.carried (Registry.coherent_remove ih.coherent id) (fun teid entry he => ?_)
      fun _ session hs => ⟨session, hs, rfl⟩
    exact ((Registry.get?_byTeid_remove ih.coherent.teids).1 he).1

/-! ## What a peer does not touch -/

/-- A session and the numbers under which it is registered are as they were. -/
structure Untouched (before after : Endpoint) (id : SessionId) : Prop where
  session : after.session? id = before.session? id
  numbers : ∀ teid entry, entry.session = id →
    (after.registry.byTeid.get? teid = some entry ↔ before.registry.byTeid.get? teid = some entry)

theorem Untouched.of_tables (sessions : next.sessions = endpoint.sessions)
    (registry : next.registry = endpoint.registry) : Untouched endpoint next id where
  session := by rw [session?, session?, sessions]
  numbers _ _ _ := by rw [registry]

theorem Untouched.trans {last : Endpoint} (h : Untouched endpoint next id)
    (h' : Untouched next last id) : Untouched endpoint last id where
  session := h'.session.trans h.session
  numbers teid entry he := (h'.numbers teid entry he).trans (h.numbers teid entry he)

/-- A request is about a session of its sender. -/
theorem Owned.ne_of_concerns (owned : endpoint.Owned) (concerns : endpoint.Concerns peer request id)
    (known : endpoint.session? other = some session) (foreign : session.peer.ip ≠ peer.ip) :
    other ≠ id := by
  rintro rfl
  obtain ⟨entry, he, rfl, hp⟩ := Registry.lookupTeid_eq_ok.1 concerns
  obtain ⟨found, hs, hpeer⟩ := owned.owner _ entry he
  cases known.symm.trans hs
  exact foreign (hpeer ▸ hp)

theorem untouched_setSession (h : other ≠ id) (session : Session) (endpoint : Endpoint) :
    Untouched endpoint (endpoint.setSession id session) other where
  session := session?_setSession_of_ne h session endpoint
  numbers _ _ _ := Iff.rfl

theorem untouched_removeSession (unique : endpoint.registry.byTeid.Unique) (h : other ≠ id) :
    Untouched endpoint (endpoint.removeSession id) other where
  session := rfl
  numbers teid entry he := by
    subst he
    exact (Registry.get?_byTeid_remove unique).trans (and_iff_left h)

/-- A new session takes no number that another session has. -/
theorem untouched_withGrant {grant : Grant} {pool : TeidPool} (draws : endpoint.Draws grant.own pool)
    (known : endpoint.session? id = some session) :
    Untouched endpoint (endpoint.withGrant grant pool) id where
  session := ((extends_withGrant draws).sessions id session known).trans known.symm
  numbers teid entry he := by
    subst he
    have hlt : entry.session < endpoint.sessions.length := (List.getElem?_eq_some_iff.1 known).1
    have hget := Registry.get?_register grant.own endpoint.sessions.length grant.session
      endpoint.registry teid
    rw [withGrant, enrolled]
    dsimp only
    rw [hget]
    split
    · next ht =>
      rw [ht, Bindings.get?_eq_none.2 draws.notMem]
      refine ⟨fun h => ?_, fun h => by cases h⟩
      cases h
      exact absurd hlt (Nat.lt_irrefl _)
    · rfl

/-- Whatever a handler does for a peer, the sessions of other peers are as they were. -/
theorem Owned.untouched (owned : endpoint.Owned)
    (reaction : Reaction peer request endpoint next answer?)
    (known : endpoint.session? id = some session) (foreign : session.peer.ip ≠ peer.ip) :
    Untouched endpoint next id := by
  cases reaction with
  | idle | echoed | incomplete | unknown | drawn => exact .of_tables rfl rfl
  | created _ draws => exact untouched_withGrant draws known
  | disturbed _ concerns =>
    exact untouched_setSession (owned.ne_of_concerns concerns known foreign) _ _
  | modified _ concerns =>
    have hne := owned.ne_of_concerns concerns known foreign
    exact (untouched_setSession hne _ _).trans (untouched_setSession hne _ _)
  | deleted _ concerns =>
    have hne := owned.ne_of_concerns concerns known foreign
    exact (untouched_setSession hne _ _).trans (untouched_removeSession owned.coherent.teids hne)
  | released _ concerns =>
    exact untouched_setSession (owned.ne_of_concerns concerns known foreign) _ _

/-- Whatever state an endpoint has come to and whatever datagram a peer sends, a registered session of
another peer is as it was when the datagram has been handled, and so are its numbers. Of the user's
handlers, if there are any, this is presupposed. -/
theorem untouched_receive (hq : Quiet environment) (reachable : Reachable endpoint) (world : σ)
    (peer : SocketAddress) (octets : Octets) (registered : id ∈ endpoint.registry.sessions)
    (custom : ∀ name, .custom name ∈ endpoint.handlers.values → ∀ message,
      Untouched endpoint (handled environment name peer message (endpoint, world)).2.1 id) :
    ∃ session, endpoint.session? id = some session ∧
      (session.peer.ip ≠ peer.ip →
        Untouched endpoint (outcome environment (receive peer octets) (endpoint, world)).2.1 id) := by
  have owned := reachable.owned
  obtain ⟨teid, entry, he, rfl⟩ := (Registry.mem_sessions owned.coherent).1 registered
  obtain ⟨session, known, -⟩ := owned.owner teid entry he
  refine ⟨session, known, fun foreign => ?_⟩
  obtain ⟨events, h⟩ | ⟨sequence, h⟩ | ⟨message, -, ⟨events, h⟩ | ⟨handler, events, hg, h⟩⟩ :=
    receive_cases hq endpoint world peer octets
  -- It cannot be read, or is of another version, or is for a call, or goes to a handler.
  · rw [h]
    exact .of_tables rfl rfl
  · rw [h]
    exact .of_tables rfl rfl
  · rw [h]
    exact .of_tables rfl rfl
  · rw [h]
    have huntouched : Untouched endpoint
        (outcome environment (handler.run peer message) (endpoint, world)).2.1 entry.session := by
      obtain ⟨next, answer?, reacts⟩ | ⟨name, rfl, hrun⟩ :=
        run_cases hq handler peer message endpoint world
      · rw [reacts.leaves]
        exact owned.untouched reacts.reaction known foreign
      · rw [hrun]
        exact custom name (Bindings.mem_values_of_get? hg) message
    exact huntouched.trans (.of_tables rfl rfl)

/-! A peer asks for the deletion of a session that another peer has. -/

private def resident : SocketAddress := ⟨.v4 ⟨127, 0, 0, 1⟩, 2123, 0⟩

private def intruder : SocketAddress := ⟨.v4 ⟨127, 0, 0, 2⟩, 2123, 0⟩

private def hosting : Endpoint :=
  { make ⟨.v4 ⟨127, 0, 0, 10⟩, 2123, 0⟩ 11 7 {} with
    bound := some ⟨.v4 ⟨127, 0, 0, 10⟩, 2123, 0⟩
    handlers := ⟨Handler.standard.entries ++ Handler.gateway⟩ }

private def moveIn : Octets :=
  ((Message.make .v2 .createSessionRequest { sequence := 1 }
    [plain .v2 Code.imsi 0 [0x00, 0x01, 0x01, 0, 0, 0, 0, 0xf1], V2.ofFteid 10 100 none none,
      V2.ofBearerContext [V2.ofEbi 5]]).encode).toOption.getD []

private def eviction : Octets :=
  ((Message.make .v2 .deleteSessionRequest { sequence := 2, teid := some 7 }
    []).encode).toOption.getD []

/-- The endpoint with the session of the resident. -/
private def occupied : Endpoint × List (SocketAddress × Octets) :=
  (outcome .recording (receive resident moveIn) (hosting, [])).2

private theorem reachable_occupied : Reachable occupied.1 :=
  ((Reachable.made ⟨.v4 ⟨127, 0, 0, 10⟩, 2123, 0⟩ 11 7 {}).aside rfl rfl : Reachable hosting).receive
    quiet_recording (handles_recording _) [] resident moveIn

/-- The session stays with its number, although the endpoint answers. -/
theorem untouched_receive_intruder :
    Quiet .recording ∧ Reachable occupied.1 ∧ 0 ∈ occupied.1.registry.sessions ∧
      (outcome .recording (receive intruder eviction) occupied).2.2.length = occupied.2.length + 1 ∧
      ∃ session, occupied.1.session? 0 = some session ∧ session.peer.ip ≠ intruder.ip ∧
        Untouched occupied.1 (outcome .recording (receive intruder eviction) occupied).2.1 0 := by
  have registered : 0 ∈ occupied.1.registry.sessions := by decide +kernel
  obtain ⟨session, hs, huntouched⟩ := untouched_receive quiet_recording reachable_occupied
    occupied.2 intruder eviction registered fun _ _ _ => .of_tables rfl rfl
  have foreign : (occupied.1.session 0).peer.ip ≠ intruder.ip := by decide +kernel
  rw [Endpoint.session, hs, Option.getD_some] at foreign
  exact ⟨quiet_recording, reachable_occupied, registered, by decide +kernel, session, hs, foreign,
    huntouched foreign⟩

end GtpControl.Endpoint
