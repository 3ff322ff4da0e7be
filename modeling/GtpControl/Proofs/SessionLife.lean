import GtpControl.Proofs.BearerOrder

/-! # The life of a session: what holds after any operations on it

Beside the sessions stands the record that is changed in place, with the default bearer among the
others. An operation on it could fail half way; none does. -/
namespace GtpControl

/-- The ways from one stage to another. None leads back from the last. -/
inductive SessionState.Moves : SessionState → SessionState → Prop
  | confirmed : Moves .created .active
  | released : Moves .active .idle
  | resumed : Moves .idle .active
  | ended {state : SessionState} (h : state ≠ .inactive) : Moves state .inactive

theorem SessionState.Moves.ne_inactive {state next : SessionState} (h : state.Moves next) :
    state ≠ .inactive := by
  cases h with
  | confirmed | released | resumed => nofun
  | ended h => exact h

/-- What is done to a session. Whoever is handed a bearer or the subscriber changes it at will. -/
inductive Session.Operation where
  | activate
  | setIdle
  | deactivate
  | setTeid (interface : UInt8) (teid : UInt32)
  | setBearer (name : String) (bearer : Bearer)
  | removeBearer (name : String)
  | changeBearer (name : String) (change : Bearer → Bearer)
  | changeDefault (change : Bearer → Bearer)
  | changeWithEbi (ebi : UInt8) (change : Bearer → Bearer)
  | changeSubscriber (change : Subscriber → Subscriber)

/-- An operation tells which bearer it has removed or changed. -/
abbrev Session.Answer := Except SessionError (Option Bearer)

/-- Operations one after the other, with their answers. -/
def Session.Operation.runAll {σ : Type} (perform : Session.Operation → σ → Session.Answer × σ) :
    List Session.Operation → σ → List Session.Answer × σ
  | [], state => ([], state)
  | operation :: operations, state =>
    let (answer, next) := perform operation state
    let (answers, last) := runAll perform operations next
    (answer :: answers, last)

/-! ## Records that are changed in place -/

/-- A session with all its bearers in one list. -/
structure Roster where
  peer : SocketAddress
  state : SessionState
  subscriber : Subscriber
  teids : List (UInt8 × UInt32)
  bearers : List (String × Bearer)

namespace Roster
open Session (Operation Answer defaultName)

abbrev Change (α : Type) := ExceptT SessionError (StateM Roster) α

def opened (peer : SocketAddress) (subscriber : Subscriber) : Roster :=
  ⟨peer, .created, subscriber, [], [(defaultName, {})]⟩

def activate : Change Unit := do
  if (← get).subscriber.imsi.isNone then throw .imsiMissing
  match (← get).state with
  | .created | .idle | .active => modify ({ · with state := .active })
  | origin => throw (.invalidTransition origin .active)

def transition (allowed : List SessionState) (target : SessionState) : Change Unit := do
  let origin := (← get).state
  if !allowed.contains origin then throw (.invalidTransition origin target)
  modify ({ · with state := target })

/-- Overwrites the first value of a key where it stands, or adds the key after all others. -/
def upsert {κ α : Type} [DecidableEq κ] (key : κ) (value : α)
    (entries : List (κ × α)) : List (κ × α) :=
  match entries.findIdx? (·.1 = key) with
  | some place => entries.modify place fun entry => (entry.1, value)
  | none => entries ++ [(key, value)]

/-- Changes the first bearer with a property where it stands. -/
def changeFirst (p : String × Bearer → Bool) (change : Bearer → Bearer) :
    Change (Option Bearer) := do
  let bearers := (← get).bearers
  match bearers.findIdx? p with
  | none => return none
  | some place =>
    modify ({ · with bearers := bearers.modify place fun (name, bearer) => (name, change bearer) })
    return bearers[place]?.map (·.2)

def removeBearer (name : String) : Change (Option Bearer) := do
  if name = defaultName then return none
  let bearers := (← get).bearers
  match bearers.findIdx? (·.1 = name) with
  | none => return none
  | some place =>
    modify ({ · with bearers := bearers.eraseIdx place })
    return bearers[place]?.map (·.2)

def change : Operation → Change (Option Bearer)
  | .activate => activate *> pure none
  | .setIdle => transition [.active] .idle *> pure none
  | .deactivate => transition [.created, .active, .idle] .inactive *> pure none
  | .setTeid interface teid => do
    modify fun roster => { roster with teids := upsert interface teid roster.teids }
    return none
  | .setBearer name bearer => do
    modify fun roster => { roster with bearers := upsert name bearer roster.bearers }
    return none
  | .removeBearer name => removeBearer name
  | .changeBearer name change => changeFirst (·.1 = name) change
  | .changeDefault change => changeFirst (·.1 = defaultName) change
  | .changeWithEbi ebi change => changeFirst (·.2.ebi = ebi) change
  | .changeSubscriber change => do
    modify fun roster => { roster with subscriber := change roster.subscriber }
    return none

def perform (operation : Operation) (roster : Roster) : Answer × Roster :=
  (change operation).run roster

/-- The default bearer is the first, and no name and no interface is used twice. -/
structure Orderly (roster : Roster) : Prop where
  default_first : ∃ bearer, roster.bearers.head? = some (defaultName, bearer)
  names : (roster.bearers.map (·.1)).Nodup
  interfaces : (roster.teids.map (·.1)).Nodup

theorem run_get {α : Type} (f : Roster → Change α) (roster : Roster) :
    (get >>= f : Change α).run roster = (f roster).run roster := rfl

theorem upsert_eq_put {κ α : Type} [DecidableEq κ] (key : κ) (value : α)
    (entries : List (κ × α)) : upsert key value entries = Bindings.put key value entries := by
  induction entries with
  | nil => rfl
  | cons entry entries ih =>
    by_cases h : entry.1 = key
    · simp [upsert, Bindings.put, List.findIdx?_cons, h]
    · rw [Bindings.put, if_neg h, ← ih, upsert, upsert]
      cases hf : entries.findIdx? (·.1 = key) <;> simp [List.findIdx?_cons, h, hf]

variable {roster : Roster} {p : String × Bearer → Bool} {front back : List (String × Bearer)}
  {name : String} {bearer : Bearer}

private theorem findIdx?_split (hfront : ∀ y ∈ front, ¬p y) (hp : p (name, bearer)) :
    (front ++ (name, bearer) :: back).findIdx? p = some front.length := by
  have hnone : front.findIdx? p = none := by simpa using hfront
  simp [List.findIdx?_append, hnone, List.findIdx?_cons, hp]

theorem run_changeFirst (he : roster.bearers = front ++ (name, bearer) :: back)
    (hfront : ∀ y ∈ front, ¬p y) (hp : p (name, bearer)) (change : Bearer → Bearer) :
    (changeFirst p change).run roster =
      (.ok (some bearer), { roster with bearers := front ++ (name, change bearer) :: back }) := by
  have hmodify : (front ++ (name, bearer) :: back).modify front.length
      (fun (name, bearer) => (name, change bearer)) = front ++ (name, change bearer) :: back := by
    simp [List.modify_eq_take_cons_drop]
  have hfound : (front ++ (name, bearer) :: back)[front.length]?.map (·.2) = some bearer := by simp
  rw [changeFirst, run_get, he]
  dsimp only
  rw [findIdx?_split hfront hp]
  dsimp only
  rw [hmodify, hfound]
  rfl

theorem run_changeFirst_of_none (h : ∀ entry ∈ roster.bearers, ¬p entry)
    (change : Bearer → Bearer) : (changeFirst p change).run roster = (.ok none, roster) := by
  have hnone : roster.bearers.findIdx? p = none := by simpa using h
  rw [changeFirst, run_get]
  dsimp only
  rw [hnone]
  rfl

private theorem not_of_notMem (h : name ∉ front.map (·.1)) :
    ∀ entry ∈ front, ¬decide (entry.1 = name) = true := by
  intro entry hentry he
  rw [← of_decide_eq_true he] at h
  exact h (List.mem_map_of_mem hentry)

theorem run_removeBearer (h : name ≠ defaultName) (roster : Roster) :
    (removeBearer name).run roster = (.ok (roster.bearers.lookup name),
      { roster with bearers := roster.bearers.eraseP (·.1 = name) }) := by
  rw [removeBearer, if_neg h, run_get, List.eraseP_eq_eraseIdx]
  dsimp only
  cases hl : roster.bearers.lookup name with
  | none =>
    have hnone : roster.bearers.findIdx? (·.1 = name) = none := by
      simpa using not_of_notMem (Bindings.notMem_of_lookup_eq_none hl)
    rw [hnone]
    rfl
  | some bearer =>
    obtain ⟨front, back, he, hfront⟩ := Bindings.exists_of_lookup_eq_some hl
    have hsplit : roster.bearers.findIdx? (·.1 = name) = some front.length := by
      rw [he]
      exact findIdx?_split (not_of_notMem hfront) (by simp)
    have hfound : roster.bearers[front.length]?.map (·.2) = some bearer := by simp [he]
    rw [hsplit]
    dsimp only
    rw [hfound]
    rfl

end Roster

/-! ## Sessions that go through the same -/
namespace Session
open SessionState (Moves)

/-- A session as such a record. -/
def roster (session : Session) : Roster :=
  ⟨session.peer, session.state, session.subscriber, session.teids.entries, session.bearers⟩

/-- A stage that cannot be reached is not entered. -/
private def entered (session : Session) : Except SessionError Session → Answer × Session
  | .ok next => (.ok none, next)
  | .error e => (.error e, session)

def Operation.perform : Operation → Session → Answer × Session
  | .activate, session => session.entered session.activate
  | .setIdle, session => session.entered session.setIdle
  | .deactivate, session => session.entered session.deactivate
  | .setTeid interface teid, session => (.ok none, session.setTeid interface teid)
  | .setBearer name bearer, session => (.ok none, session.setBearer name bearer)
  | .removeBearer name, session =>
    (.ok (session.removeBearer name).1, (session.removeBearer name).2)
  | .changeBearer name change, session =>
    match session.bearer? name with
    | some bearer => (.ok (some bearer), session.setBearer name (change bearer))
    | none => (.ok none, session)
  | .changeDefault change, session =>
    (.ok (some session.defaultBearer),
      { session with defaultBearer := change session.defaultBearer })
  | .changeWithEbi ebi change, session =>
    match session.bearerWithEbi? ebi with
    | some (name, bearer) => (.ok (some bearer), session.setBearer name (change bearer))
    | none => (.ok none, session)
  | .changeSubscriber change, session =>
    (.ok none, { session with subscriber := change session.subscriber })

variable {session : Session}

private theorem roster_setBearer (name : String) (bearer : Bearer) (session : Session) :
    (session.setBearer name bearer).roster =
      { session.roster with bearers := (session.setBearer name bearer).bearers } := by
  rw [roster, setBearer]
  split <;> rfl

/-- A bearer that is changed where it stands is exchanged under its name. -/
private theorem changeFirst_roster (tidy : session.Tidy) {p : String × Bearer → Bool}
    {front back : List (String × Bearer)} {name : String} {bearer : Bearer}
    (he : session.bearers = front ++ (name, bearer) :: back) (hfront : ∀ entry ∈ front, ¬p entry)
    (hp : p (name, bearer)) (change : Bearer → Bearer) :
    (Roster.changeFirst p change).run session.roster =
      (.ok (some bearer), (session.setBearer name (change bearer)).roster) := by
  rw [Roster.run_changeFirst he hfront hp, roster_setBearer, tidy.bearers_setBearer he]

/-- What is done in place is what the session does, and nothing is used twice from then on. -/
theorem perform_roster (tidy : session.Tidy) (operation : Operation) :
    Roster.perform operation session.roster =
        ((operation.perform session).1, (operation.perform session).2.roster) ∧
      (operation.perform session).2.Tidy := by
  cases operation with
  | activate =>
    obtain ⟨peer, state, ⟨imsi, _⟩, _⟩ := session
    refine ⟨?_, ?_⟩
    · cases imsi <;> cases state <;> rfl
    · cases imsi <;> cases state <;> exact ⟨tidy.names, tidy.interfaces⟩
  | setIdle =>
    obtain ⟨peer, state, _⟩ := session
    refine ⟨?_, ?_⟩
    · cases state <;> rfl
    · cases state <;> exact ⟨tidy.names, tidy.interfaces⟩
  | deactivate =>
    obtain ⟨peer, state, _⟩ := session
    refine ⟨?_, ?_⟩
    · cases state <;> rfl
    · cases state <;> exact ⟨tidy.names, tidy.interfaces⟩
  | setTeid interface teid =>
    refine ⟨?_, tidy.setTeid interface teid⟩
    have h := Roster.upsert_eq_put interface teid session.teids.entries
    exact Prod.ext rfl (congrArg (Roster.mk session.peer session.state session.subscriber ·
      session.bearers) h)
  | setBearer name bearer =>
    refine ⟨?_, tidy.setBearer name bearer⟩
    have h := Roster.upsert_eq_put name bearer session.bearers
    rw [Operation.perform, roster_setBearer, bearers_setBearer, ← h]
    rfl
  | removeBearer name =>
    refine ⟨?_, tidy.removeBearer name⟩
    by_cases h : name = defaultName
    · subst h
      rfl
    · have hrun := Roster.run_removeBearer h session.roster
      have hroster : (session.removeBearer name).2.roster =
          { session.roster with bearers := session.bearers.eraseP (·.1 = name) } := by
        rw [← bearers_removeBearer h, removeBearer, if_neg h]
        rfl
      have hremoved : (session.removeBearer name).1 = session.bearers.lookup name := by
        rw [← bearer?_eq_lookup, removeBearer, bearer?, if_neg h, if_neg h]
      rw [Operation.perform, hroster, hremoved]
      exact hrun
  | changeBearer name change =>
    rw [Operation.perform]
    cases hb : session.bearer? name with
    | none =>
      rw [bearer?_eq_lookup] at hb
      have hnone := Bindings.notMem_of_lookup_eq_none hb
      exact ⟨Roster.run_changeFirst_of_none (Roster.not_of_notMem hnone) change, tidy⟩
    | some bearer =>
      rw [bearer?_eq_lookup] at hb
      obtain ⟨front, back, he, hfront⟩ := Bindings.exists_of_lookup_eq_some hb
      exact ⟨changeFirst_roster tidy he (Roster.not_of_notMem hfront) (by simp) change,
        tidy.setBearer name _⟩
  | changeDefault change =>
    have he : session.bearers =
        [] ++ (defaultName, session.defaultBearer) :: session.dedicated.entries := rfl
    exact ⟨changeFirst_roster tidy he (by simp) (by simp) change, tidy.setBearer defaultName _⟩
  | changeWithEbi ebi change =>
    rw [Operation.perform]
    cases hb : session.bearerWithEbi? ebi with
    | none =>
      have hnone : ∀ entry ∈ session.bearers, ¬decide (entry.2.ebi = ebi) = true :=
        List.find?_eq_none.1 hb
      exact ⟨Roster.run_changeFirst_of_none hnone change, tidy⟩
    | some found =>
      obtain ⟨name, bearer⟩ := found
      obtain ⟨hp, front, back, he, hfront⟩ := List.find?_eq_some_iff_append.1 hb
      exact ⟨changeFirst_roster tidy he (by simpa using hfront) hp change, tidy.setBearer name _⟩
  | changeSubscriber change => exact ⟨rfl, tidy.names, tidy.interfaces⟩

/-- What a run does in place is what it does to the session. -/
theorem runAll_roster (tidy : session.Tidy) (operations : List Operation) :
    let ran := Operation.runAll Operation.perform operations session
    Operation.runAll Roster.perform operations session.roster = (ran.1, ran.2.roster) ∧
      ran.2.Tidy := by
  induction operations generalizing session with
  | nil => exact ⟨rfl, tidy⟩
  | cons operation operations ih =>
    obtain ⟨hstep, htidy⟩ := perform_roster tidy operation
    obtain ⟨hrest, hlast⟩ := ih htidy
    refine ⟨?_, hlast⟩
    rw [Operation.runAll, hstep]
    dsimp only
    rw [hrest]
    rfl

/-! ## Stages -/

/-- An operation leaves the stage as it is or moves on, to activity only for a known subscriber. -/
theorem moves_perform (operation : Operation) (session : Session) :
    (operation.perform session).2.state = session.state ∨
      Moves session.state (operation.perform session).2.state ∧
        ((operation.perform session).2.state = .active → session.subscriber.imsi ≠ none) := by
  have hbearer : ∀ name bearer, (session.setBearer name bearer).state = session.state :=
    fun name bearer => congrArg Roster.state (roster_setBearer name bearer session)
  cases operation with
  | activate =>
    obtain ⟨_, state, ⟨imsi, _⟩, _⟩ := session
    cases imsi with
    | none => exact .inl rfl
    | some imsi =>
      cases state with
      | created => exact .inr ⟨.confirmed, fun _ => Option.some_ne_none imsi⟩
      | active => exact .inl rfl
      | idle => exact .inr ⟨.resumed, fun _ => Option.some_ne_none imsi⟩
      | inactive => exact .inl rfl
  | setIdle =>
    obtain ⟨_, state, _⟩ := session
    cases state with
    | active => exact .inr ⟨.released, nofun⟩
    | created | idle | inactive => exact .inl rfl
  | deactivate =>
    obtain ⟨_, state, _⟩ := session
    cases state with
    | inactive => exact .inl rfl
    | created | active | idle => exact .inr ⟨.ended nofun, nofun⟩
  | setBearer name bearer => exact .inl (hbearer name bearer)
  | removeBearer name =>
    rw [Operation.perform, removeBearer]
    split <;> exact .inl rfl
  | changeBearer name change =>
    rw [Operation.perform]
    split
    · exact .inl (hbearer ..)
    · exact .inl rfl
  | changeWithEbi ebi change =>
    rw [Operation.perform]
    split
    · exact .inl (hbearer ..)
    · exact .inl rfl
  | setTeid | changeDefault | changeSubscriber => exact .inl rfl

theorem unchanged_of_perform_eq_error {operation : Operation} {e : SessionError}
    (h : (operation.perform session).1 = .error e) : (operation.perform session).2 = session := by
  have hentered : ∀ result, (session.entered result).1 = .error e →
      (session.entered result).2 = session := by
    rintro (e' | next) he
    · rfl
    · cases he
  cases operation with
  | activate | setIdle | deactivate => exact hentered _ h
  | setTeid | setBearer | removeBearer | changeDefault | changeSubscriber => cases h
  | changeBearer | changeWithEbi =>
    rw [Operation.perform] at h
    split at h <;> cases h

/-- No operation brings a session back. -/
theorem inactive_runAll (h : session.state = .inactive) (operations : List Operation) :
    (Operation.runAll Operation.perform operations session).2.state = .inactive := by
  induction operations generalizing session with
  | nil => exact h
  | cons operation operations ih =>
    have hnext : (operation.perform session).2.state = .inactive := by
      obtain hsame | ⟨hmoves, -⟩ := moves_perform operation session
      · rw [hsame, h]
      · exact absurd h hmoves.ne_inactive
    exact ih hnext

/-- From its opening on, whatever is done to it, a session has its default bearer first and uses no
name and no interface twice. Each further operation keeps to the ways between stages, and changes
nothing if it fails. -/
theorem orderly_runAll (peer : SocketAddress) (subscriber : Subscriber)
    (operations : List Operation) :
    let ran := Operation.runAll Operation.perform operations { peer, subscriber }
    Operation.runAll Roster.perform operations (Roster.opened peer subscriber) =
        (ran.1, ran.2.roster) ∧
      ran.2.roster.Orderly ∧
      (∀ operation : Operation,
        let done := operation.perform ran.2
        Roster.perform operation ran.2.roster = (done.1, done.2.roster) ∧
          (done.2.state = ran.2.state ∨ Moves ran.2.state done.2.state ∧
            (done.2.state = .active → ran.2.subscriber.imsi ≠ none)) ∧
          ∀ e, done.1 = .error e → done.2 = ran.2) ∧
      (ran.2.state = .inactive → ∀ later : List Operation,
        (Operation.runAll Operation.perform later ran.2).2.state = .inactive) := by
  intro ran
  have tidy : ({ peer, subscriber } : Session).Tidy :=
    ⟨List.nodup_singleton _, Bindings.unique_empty⟩
  obtain ⟨hran, hlast⟩ := runAll_roster tidy operations
  refine ⟨hran, ⟨⟨_, rfl⟩, hlast.names, hlast.interfaces⟩, fun operation => ⟨?_, ?_, ?_⟩, ?_⟩
  · exact (perform_roster hlast operation).1
  · exact moves_perform operation ran.2
  · exact fun e => unchanged_of_perform_eq_error
  · exact inactive_runAll

end Session
end GtpControl
