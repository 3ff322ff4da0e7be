import GtpControl.Proofs.EditRuns

/-! # Sessions at other peers: what is done to a session does not depend on whose it is -/
namespace GtpControl

/-! ## Edits that do not look at the peer -/

namespace Session
variable {α β : Type}

/-- The same session at another peer. -/
def movedTo (peer : SocketAddress) (session : Session) : Session := { session with peer }

/-- An edit is uniform when it does the same to a session wherever the peer is. -/
def Uniform (edit : Edit Session α) : Prop :=
  ∀ peer session, edit.run (session.movedTo peer) =
    ((edit.run session).1, (edit.run session).2.movedTo peer)

theorem uniform_lift (result : Coded α) : Uniform (liftM result : Edit Session α) :=
  fun _ _ => rfl

theorem uniform_modify {f : Session → Session}
    (h : ∀ peer session, f (session.movedTo peer) = (f session).movedTo peer) :
    Uniform (modify f : Edit Session PUnit) := by
  intro peer session
  rw [Edit.run_modify, Edit.run_modify, h]

theorem Uniform.bind {edit : Edit Session α} {f : α → Edit Session β} (h : Uniform edit)
    (hf : ∀ a, Uniform (f a)) : Uniform (edit >>= f) := by
  intro peer session
  rw [Edit.run_bind, Edit.run_bind, h peer session]
  cases he : edit.run session with
  | mk result next =>
    cases result with
    | ok a => exact hf a peer next
    | error e => rfl

theorem uniform_get_bind {f : Session → Edit Session α}
    (h : ∀ peer session, f (session.movedTo peer) = f session) (hf : ∀ session, Uniform (f session)) :
    Uniform (get >>= f) := by
  intro peer session
  rw [Edit.run_bind, Edit.run_bind, Edit.run_get, Edit.run_get]
  simp only [h]
  exact hf session peer session

theorem uniform_within {τ : Type} {part : τ} {put : τ → Session → Session} (edit : Edit τ α)
    (h : ∀ part peer session, put part (session.movedTo peer) = (put part session).movedTo peer) :
    Uniform (edit.within part put) := by
  intro peer session
  rw [Edit.run_within, Edit.run_within, h]

theorem uniform_forM {γ : Type} {f : γ → Edit Session PUnit} (h : ∀ x, Uniform (f x))
    (xs : List γ) : Uniform (xs.forM f) := by
  induction xs with
  | nil => exact fun _ _ => rfl
  | cons x xs ih => exact (h x).bind fun _ => ih

/-- A uniform edit leaves the session where it is. -/
theorem Uniform.peer_run {edit : Edit Session α} (h : Uniform edit) (session : Session) :
    (edit.run session).2.peer = session.peer :=
  congrArg (·.2.peer) (h session.peer session)

theorem movedTo_setBearer (name : String) (bearer : Bearer) (peer : SocketAddress)
    (session : Session) :
    setBearer name bearer (session.movedTo peer) = (setBearer name bearer session).movedTo peer := by
  unfold setBearer
  split <;> rfl

theorem uniform_applyContext (context : Element) : Uniform (applyContext context) := by
  refine (uniform_lift _).bind fun child => (uniform_lift _).bind fun ebi => ?_
  refine uniform_get_bind (fun _ _ => rfl) fun session => ?_
  cases session.bearerWithEbi? ebi with
  | some found => exact uniform_within _ (movedTo_setBearer found.1)
  | none => exact (uniform_lift _).bind fun bearer => uniform_modify (movedTo_setBearer _ bearer)

/-- An end point is bound if its element says both its interface and its number. -/
theorem bindFteid_eq_ok {fteid : Element} {session next : Session} :
    (bindFteid fteid).run session = (.ok (), next) ↔
      ∃ interface teid, Element.V2.interfaceType fteid = .ok interface ∧
        Element.V2.teid fteid = .ok teid ∧ next = session.setTeid interface teid := by
  simp only [bindFteid, Edit.run_bind_eq_ok, Edit.run_lift, Edit.run_modify]
  constructor
  · rintro ⟨interface, _, hi, teid, _, ht, h⟩
    obtain ⟨hinterface, rfl⟩ := Prod.mk.inj hi
    obtain ⟨hteid, rfl⟩ := Prod.mk.inj ht
    exact ⟨interface, teid, hinterface, hteid, (Prod.mk.inj h).2.symm⟩
  · rintro ⟨interface, teid, hi, ht, rfl⟩
    exact ⟨interface, session, by rw [hi], teid, session, by rw [ht], rfl⟩

/-! ## Sessions that requests describe -/

private theorem foldlM_movedTo {γ : Type} {f : Session → γ → Coded Session} {peer : SocketAddress}
    (h : ∀ session x, f (session.movedTo peer) x = movedTo peer <$> f session x)
    (xs : List γ) {session moved : Session} (hm : moved = session.movedTo peer) :
    xs.foldlM f moved = movedTo peer <$> xs.foldlM f session := by
  induction xs generalizing session moved with
  | nil => exact congrArg Except.ok hm
  | cons x xs ih =>
    rw [List.foldlM_cons, List.foldlM_cons, hm, h]
    cases f session x with
    | ok next => exact ih rfl
    | error e => rfl

/-- The step by which a request adds its bearers. -/
private def addBearer (apn : String) (session : Session) (context : Element) : Coded Session := do
  let bearer ← Bearer.filled context { apn }
  return session.setBearer (bearerName bearer.ebi) bearer

private theorem addBearer_movedTo (apn : String) (peer : SocketAddress) (session : Session)
    (context : Element) :
    addBearer apn (session.movedTo peer) context = movedTo peer <$> addBearer apn session context := by
  unfold addBearer
  cases Bearer.filled context { apn } with
  | ok bearer => exact congrArg Except.ok (movedTo_setBearer ..)
  | error e => rfl

/-- A request describes the same session to each of its readers. -/
theorem ofRequest_movedTo (peer peer' : SocketAddress) (request : Message) :
    ofRequest peer' request = movedTo peer' <$> ofRequest peer request := by
  unfold ofRequest
  simp only [map_bind]
  refine bind_congr (m := Coded) fun plmn => ?_
  refine bind_congr (m := Coded) fun ratType => ?_
  refine bind_congr (m := Coded) fun imsi => ?_
  refine bind_congr (m := Coded) fun msisdn => ?_
  refine bind_congr (m := Coded) fun imei => ?_
  refine bind_congr (m := Coded) fun apn => ?_
  generalize request.field .bearerContextsToBeCreated = contexts
  cases contexts with
  | nil =>
    simp only [map_bind]
    refine bind_congr (m := Coded) fun bearer => ?_
    exact foldlM_movedTo (addBearer_movedTo (apn.getD "") peer') _ rfl
  | cons first rest =>
    simp only [map_bind]
    refine bind_congr (m := Coded) fun bearer => ?_
    exact foldlM_movedTo (addBearer_movedTo (apn.getD "") peer') _ rfl

theorem peer_of_ofRequest {peer : SocketAddress} {request : Message} {session : Session}
    (h : ofRequest peer request = .ok session) : session.peer = peer := by
  have hm := ofRequest_movedTo peer peer request
  rw [h] at hm
  exact congrArg Session.peer (Except.ok.inj hm)

/-! ## Activation -/

/-- A session that becomes active has a subscriber and changes in nothing else. -/
theorem activate_eq_ok {session active : Session} :
    session.activate = .ok active ↔ session.subscriber.imsi ≠ none ∧ session.state ≠ .inactive ∧
      active = { session with state := .active } := by
  rw [activate]
  split
  · next h => simp [h]
  · next h =>
    split
    · next h' => simp [h']
    · next h' => simp [h, h', eq_comm]

end Session
end GtpControl
