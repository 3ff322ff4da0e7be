import GtpControl.Proofs.LegibleRequests
import GtpControl.Proofs.PoolWalk
import Mathlib.Logic.Function.Basic

/-! # Concurrent creation: tasks that create sessions side by side

A task reads which numbers are registered, then draws one that was not, and registers its session last.
Between these steps other tasks take theirs, so a number that is drawn and not registered yet is not
seen by them. It is not drawn twice as long as the walk does not come round to it. -/
namespace GtpControl

namespace Registry
variable {registry : Registry} {teid own : UInt32} {id : SessionId}

theorem mem_teids_iff : teid ∈ registry.teids ↔ ∃ entry, registry.byTeid.get? teid = some entry := by
  rw [← Option.isSome_iff_exists, Option.isSome_iff_ne_none, ne_eq, Bindings.get?_eq_none, not_not]
  rfl

theorem mem_teids_register (session : Session) :
    teid ∈ (registry.register own id session).teids ↔ teid = own ∨ teid ∈ registry.teids := by
  rw [mem_teids_iff, mem_teids_iff, get?_register]
  split <;> simp [*]

end Registry

namespace Endpoint
open Endpoint.Action

/-! ## Tasks and their steps -/

/-- How far a task has come. -/
inductive Progress where
  | arrived
  /-- it has read which numbers are registered -/
  | looked (inUse : List UInt32)
  | drawn (own : UInt32)
  /-- its session is registered -/
  | enrolled (own : UInt32) (id : SessionId)
  /-- there was no number for it -/
  | refused
deriving DecidableEq, Repr

/-- The number that a task has. -/
def Progress.own? : Progress → Option UInt32
  | .drawn own | .enrolled own _ => some own
  | .arrived | .looked _ | .refused => none

/-- An endpoint and the tasks on it. -/
structure Crowd (ι : Type) where
  endpoint : Endpoint
  progress : ι → Progress

namespace Crowd
variable {ι : Type} [DecidableEq ι] {client : ι → SocketAddress} {spare : Crowd ι → Prop}
  {start : Endpoint} {crowd next : Crowd ι} {i j : ι} {teid own : UInt32}

/-- A task has come further, and has left the endpoint like this. -/
def advance (i : ι) (progress : Progress) (endpoint : Endpoint) (crowd : Crowd ι) : Crowd ι :=
  ⟨endpoint, Function.update crowd.progress i progress⟩

/-- One step of one task, or of something that creates and deletes no sessions. Draws are made under
a condition. -/
inductive Step (client : ι → SocketAddress) (spare : Crowd ι → Prop) (crowd : Crowd ι) :
    Crowd ι → Prop
  | looks {i : ι} (h : crowd.progress i = .arrived) :
    Step client spare crowd
      (crowd.advance i (.looked crowd.endpoint.registry.teids) crowd.endpoint)
  | draws {i : ι} {inUse : List UInt32} {own : UInt32} {pool : TeidPool} (room : spare crowd)
    (h : crowd.progress i = .looked inUse)
    (ha : crowd.endpoint.pool.allocate inUse.contains = some (own, pool)) :
    Step client spare crowd (crowd.advance i (.drawn own) { crowd.endpoint with pool })
  | fails {i : ι} {inUse : List UInt32} (h : crowd.progress i = .looked inUse)
    (ha : crowd.endpoint.pool.allocate inUse.contains = none) :
    Step client spare crowd (crowd.advance i .refused crowd.endpoint)
  | enrolls {i : ι} {own : UInt32} {session : Session} (h : crowd.progress i = .drawn own)
    (peer : session.peer = client i) :
    Step client spare crowd (crowd.advance i (.enrolled own crowd.endpoint.sessions.length)
      (crowd.endpoint.enrolled own session))
  | aside {endpoint : Endpoint} (registry : endpoint.registry = crowd.endpoint.registry)
    (pool : endpoint.pool = crowd.endpoint.pool) :
    Step client spare crowd ⟨endpoint, crowd.progress⟩

/-- What any number of tasks make of an endpoint, in any order of their steps. -/
inductive Run (client : ι → SocketAddress) (spare : Crowd ι → Prop) (start : Endpoint) :
    Crowd ι → Prop
  | start : Run client spare start ⟨start, fun _ => .arrived⟩
  | step {crowd next : Crowd ι} (run : Run client spare start crowd)
    (step : Step client spare crowd next) : Run client spare start next

/-! ## The numbers that tasks have -/

/-- The task has drawn this number. -/
def Has (i : ι) (own : UInt32) (crowd : Crowd ι) : Prop := (crowd.progress i).own? = some own

omit [DecidableEq ι] in
theorem has_of_drawn (h : crowd.progress i = .drawn own) : crowd.Has i own := by
  rw [Has, h, Progress.own?]

omit [DecidableEq ι] in
theorem has_of_enrolled {id : SessionId} (h : crowd.progress i = .enrolled own id) :
    crowd.Has i own := by
  rw [Has, h, Progress.own?]

theorem progress_advance (i j : ι) (progress : Progress) (endpoint : Endpoint) (crowd : Crowd ι) :
    (crowd.advance i progress endpoint).progress j =
      if j = i then progress else crowd.progress j :=
  Function.update_apply ..

theorem progress_advance_self (i : ι) (progress : Progress) (endpoint : Endpoint)
    (crowd : Crowd ι) : (crowd.advance i progress endpoint).progress i = progress :=
  Function.update_self ..

theorem endpoint_advance (i : ι) (progress : Progress) (endpoint : Endpoint) (crowd : Crowd ι) :
    (crowd.advance i progress endpoint).endpoint = endpoint := rfl

/-- Steps that give a task no other number give no task another one. -/
theorem has_advance {progress : Progress} (endpoint : Endpoint)
    (h : progress.own? = (crowd.progress i).own?) :
    (crowd.advance i progress endpoint).Has j own ↔ crowd.Has j own := by
  rw [Has, Has, progress_advance]
  split
  · next he => rw [he, h]
  · rfl

/-- A task that draws has the number that it has drawn. -/
theorem has_advance_drawn (endpoint : Endpoint) :
    (crowd.advance i (.drawn own) endpoint).Has j teid ↔
      if j = i then teid = own else crowd.Has j teid := by
  rw [Has, progress_advance]
  split
  · simp [Progress.own?, eq_comm]
  · rfl

omit [DecidableEq ι] in
/-- A number is left that is not registered, and that no task is about to register. -/
def Roomy (crowd : Crowd ι) : Prop :=
  ∃ teid, crowd.endpoint.pool.Has teid ∧ teid ∉ crowd.endpoint.registry.teids ∧
    ∀ i, crowd.progress i ≠ .drawn teid

/-! ## Whose the numbers are -/

/-- The numbers of tasks are their own, and so far away on the walk that all free ones come first. -/
structure Ledger (client : ι → SocketAddress) (start : Endpoint) (crowd : Crowd ι) : Prop where
  size : crowd.endpoint.pool.size = start.pool.size
  kept : ∀ teid entry, start.registry.byTeid.get? teid = some entry →
    crowd.endpoint.registry.byTeid.get? teid = some entry
  bound : ∀ i own id, crowd.progress i = .enrolled own id →
    crowd.endpoint.registry.byTeid.get? own = some ⟨id, client i⟩
  origin : ∀ teid ∈ crowd.endpoint.registry.teids,
    teid ∈ start.registry.teids ∨ ∃ i, crowd.Has i teid
  fresh : ∀ i own, crowd.Has i own → own ∉ start.registry.teids ∧ crowd.endpoint.pool.Has own
  single : ∀ i j own, crowd.Has i own → crowd.Has j own → i = j
  /-- what a task has read is old, but not older than the start -/
  seen : ∀ i inUse, crowd.progress i = .looked inUse → start.registry.teids ⊆ inUse ∧
    inUse ⊆ crowd.endpoint.registry.teids
  ahead : ∀ teid, crowd.endpoint.pool.Has teid → teid ∉ start.registry.teids →
    (∀ i, ¬crowd.Has i teid) → ∀ i own, crowd.Has i own →
      crowd.endpoint.pool.distance teid < crowd.endpoint.pool.distance own

omit [DecidableEq ι] in
theorem ledger_start (client : ι → SocketAddress) (start : Endpoint) :
    Ledger client start ⟨start, fun _ => .arrived⟩ where
  size := rfl
  kept _ _ h := h
  bound _ _ _ h := by cases h
  origin teid h := .inl h
  fresh _ _ h := by cases h
  single _ _ _ h := by cases h
  seen _ _ h := by cases h
  ahead _ _ _ _ _ _ h := by cases h

/-- Tasks that get no number and register nothing leave the numbers as they are. -/
private theorem Ledger.unmoved (ledger : Ledger client start crowd) {progress : Progress}
    (hown : progress.own? = (crowd.progress i).own?)
    (hseen : ∀ inUse, progress = .looked inUse → start.registry.teids ⊆ inUse ∧
      inUse ⊆ crowd.endpoint.registry.teids)
    (henrolled : ∀ own id, progress ≠ .enrolled own id) :
    Ledger client start (crowd.advance i progress crowd.endpoint) := by
  have same : ∀ j own, (crowd.advance i progress crowd.endpoint).Has j own ↔ crowd.Has j own :=
    fun j own => has_advance _ hown
  refine ⟨ledger.size, ledger.kept, fun j own id hj => ?_, fun teid ht => ?_, fun j own hj => ?_,
    fun j k own hj hk => ?_, fun j inUse hj => ?_, fun teid has hstart hnone j own hj => ?_⟩
  · rw [progress_advance] at hj
    split at hj
    · exact absurd hj (henrolled own id)
    · exact ledger.bound j own id hj
  · simp only [same]
    exact ledger.origin teid ht
  · exact ledger.fresh j own ((same j own).1 hj)
  · exact ledger.single j k own ((same j own).1 hj) ((same k own).1 hk)
  · rw [progress_advance] at hj
    split at hj
    · exact hseen inUse hj
    · exact ledger.seen j inUse hj
  · simp only [same] at hnone hj
    exact ledger.ahead teid has hstart hnone j own hj

omit [DecidableEq ι] in
private theorem Ledger.aside (ledger : Ledger client start crowd) {endpoint : Endpoint}
    (registry : endpoint.registry = crowd.endpoint.registry)
    (pool : endpoint.pool = crowd.endpoint.pool) :
    Ledger client start ⟨endpoint, crowd.progress⟩ := by
  refine ⟨?_, ?_, ?_, ?_, ?_, ledger.single, ?_, ?_⟩ <;> simp only [registry, pool]
  · exact ledger.size
  · exact ledger.kept
  · exact ledger.bound
  · exact ledger.origin
  · exact ledger.fresh
  · exact ledger.seen
  · exact ledger.ahead

/-- A registration makes the number of its task lead to the session. -/
private theorem Ledger.enrolls (ledger : Ledger client start crowd) {session : Session}
    (h : crowd.progress i = .drawn own) (peer : session.peer = client i) :
    Ledger client start (crowd.advance i (.enrolled own crowd.endpoint.sessions.length)
      (crowd.endpoint.enrolled own session)) := by
  have hi := has_of_drawn h
  have same : ∀ j teid, (crowd.advance i (.enrolled own crowd.endpoint.sessions.length)
      (crowd.endpoint.enrolled own session)).Has j teid ↔ crowd.Has j teid :=
    fun j teid => has_advance _ (by rw [h]; rfl)
  have hget : ∀ teid, (crowd.endpoint.enrolled own session).registry.byTeid.get? teid =
      if teid = own then some ⟨crowd.endpoint.sessions.length, client i⟩
      else crowd.endpoint.registry.byTeid.get? teid := fun teid => by
    rw [← peer]
    exact Registry.get?_register ..
  refine ⟨ledger.size, fun teid entry he => ?_, fun j own' id hj => ?_, fun teid ht => ?_,
    fun j own' hj => ?_, fun j k own' hj hk => ?_, fun j inUse hj => ?_,
    fun teid has hstart hnone j own' hj => ?_⟩
  · have hne : teid ≠ own := by
      rintro rfl
      exact (ledger.fresh i teid hi).1 (Registry.mem_teids_iff.2 ⟨entry, he⟩)
    exact (hget teid).trans ((if_neg hne).trans (ledger.kept teid entry he))
  · rw [progress_advance] at hj
    split at hj
    · next hji =>
      cases hj
      rw [hji]
      exact (hget own).trans (if_pos rfl)
    · next hji =>
      have hne : own' ≠ own := by
        rintro rfl
        exact hji (ledger.single j i own' (has_of_enrolled hj) hi)
      exact (hget own').trans ((if_neg hne).trans (ledger.bound j own' id hj))
  · simp only [same]
    rcases (Registry.mem_teids_register session).1 ht with rfl | ht
    · exact .inr ⟨i, hi⟩
    · exact ledger.origin teid ht
  · exact ledger.fresh j own' ((same j own').1 hj)
  · exact ledger.single j k own' ((same j own').1 hj) ((same k own').1 hk)
  · rw [progress_advance] at hj
    split at hj
    · cases hj
    · obtain ⟨hstart, hregistry⟩ := ledger.seen j inUse hj
      refine ⟨hstart, fun teid ht => ?_⟩
      exact (Registry.mem_teids_register session).2 (.inr (hregistry ht))
  · simp only [same] at hnone hj
    exact ledger.ahead teid has hstart hnone j own' hj

omit [DecidableEq ι] in
/-- A number that is left is nobody's. -/
private theorem Ledger.not_has (ledger : Ledger client start crowd)
    (hfree : teid ∉ crowd.endpoint.registry.teids) (hdrawn : ∀ i, crowd.progress i ≠ .drawn teid)
    (i : ι) : ¬crowd.Has i teid := by
  intro hi
  rw [Has] at hi
  cases hp : crowd.progress i with
  | drawn own =>
    rw [hp] at hi
    cases hi
    exact hdrawn i hp
  | enrolled own id =>
    rw [hp] at hi
    cases hi
    exact hfree (Registry.mem_teids_iff.2 ⟨_, ledger.bound i teid id hp⟩)
  | arrived | looked | refused =>
    rw [hp] at hi
    cases hi

omit [DecidableEq ι] in
/-- While a number is left, a draw gives one that nobody has, however old the list that it avoids. -/
private theorem Ledger.not_has_drawn (ledger : Ledger client start crowd) (room : Roomy crowd)
    {inUse : List UInt32} {pool : TeidPool} (h : crowd.progress i = .looked inUse)
    (walks : crowd.endpoint.pool.Walks inUse.contains own pool) (j : ι) : ¬crowd.Has j own := by
  intro hj
  obtain ⟨teid, has, hfree, hdrawn⟩ := room
  obtain ⟨hstart, hregistry⟩ := ledger.seen i inUse h
  have hnear : crowd.endpoint.pool.distance own ≤ crowd.endpoint.pool.distance teid :=
    walks.nearest teid has (by simpa using fun ht => hfree (hregistry ht))
  have hfar := ledger.ahead teid has (fun ht => hfree (hregistry (hstart ht)))
    (ledger.not_has hfree hdrawn) j own hj
  omega

/-- A draw gives its task a number of its own, and leaves the free numbers ahead. -/
private theorem Ledger.draws (ledger : Ledger client start crowd) (room : Roomy crowd)
    {inUse : List UInt32} {pool : TeidPool} (h : crowd.progress i = .looked inUse)
    (walks : crowd.endpoint.pool.Walks inUse.contains own pool) :
    Ledger client start (crowd.advance i (.drawn own) { crowd.endpoint with pool }) := by
  have hown := ledger.not_has_drawn room h walks
  have hpool : ∀ teid, pool.Has teid ↔ crowd.endpoint.pool.Has teid := fun teid => by
    rw [TeidPool.Has, TeidPool.Has, walks.first, walks.last]
  have has : crowd.endpoint.pool.Has own := ⟨walks.first_le, walks.le_last⟩
  have hnone : ∀ teid, ¬crowd.Has i teid := fun teid hi => by
    rw [Has, h] at hi
    cases hi
  have hdrawn : ∀ j teid, (crowd.advance i (.drawn own) { crowd.endpoint with pool }).Has j teid ↔
      if j = i then teid = own else crowd.Has j teid := fun j teid => has_advance_drawn _
  obtain ⟨hstart, hregistry⟩ := ledger.seen i inUse h
  refine ⟨?_, ledger.kept, fun j own' id hj => ?_, fun teid ht => ?_, fun j own' hj => ?_,
    fun j k own' hj hk => ?_, fun j inUse' hj => ?_, fun teid has' hfresh hfree j own' hj => ?_⟩
  · exact (TeidPool.size_congr walks.first walks.last).trans ledger.size
  · rw [progress_advance] at hj
    split at hj
    · cases hj
    · exact ledger.bound j own' id hj
  · obtain ht | ⟨j, hj⟩ := ledger.origin teid ht
    · exact .inl ht
    · refine .inr ⟨j, (hdrawn j teid).2 ?_⟩
      rw [if_neg fun hji : j = i => hnone teid (hji ▸ hj)]
      exact hj
  · rw [hdrawn] at hj
    split at hj
    · rw [hj]
      exact ⟨fun ht => walks.notMem (hstart ht), (hpool own).2 has⟩
    · obtain ⟨hnew, has'⟩ := ledger.fresh j own' hj
      exact ⟨hnew, (hpool own').2 has'⟩
  · rw [hdrawn] at hj hk
    split at hj <;> split at hk
    · next hji hki => rw [hji, hki]
    · exact absurd (hj ▸ hk) (hown k)
    · exact absurd (hk ▸ hj) (hown j)
    · exact ledger.single j k own' hj hk
  · rw [progress_advance] at hj
    split at hj
    · cases hj
    · exact ledger.seen j inUse' hj
  · -- The draw has not gone beyond the free number, so it brings it nearer by as much as the others.
    have has'' := (hpool teid).1 has'
    have hne : own ≠ teid := fun he => hfree i ((hdrawn i teid).2 (by rw [if_pos rfl, he]))
    have hnobody : ∀ k, ¬crowd.Has k teid := fun k hk =>
      hfree k ((hdrawn k teid).2 (by
        rw [if_neg fun hki : k = i => hnone teid (hki ▸ hk)]
        exact hk))
    have hunused : teid ∉ inUse := fun ht => by
      obtain ht | ⟨k, hk⟩ := ledger.origin teid (hregistry ht)
      · exact hfresh ht
      · exact hnobody k hk
    have hnear := walks.nearest teid has'' (by simpa using hunused)
    have hdiffer : crowd.endpoint.pool.distance own ≠ crowd.endpoint.pool.distance teid :=
      fun he => hne (TeidPool.eq_of_distance has has'' he)
    have hteid := walks.beyond teid has'' (by omega)
    have hsize := TeidPool.distance_lt_size has''
    have hfarthest := walks.farthest
    rw [hdrawn] at hj
    split at hj
    · rw [hj]
      dsimp only [advance]
      omega
    · have hbehind := ledger.ahead teid has'' hfresh hnobody j own' hj
      have hother := walks.beyond own' (ledger.fresh j own' hj).2 (by omega)
      dsimp only [advance]
      omega

/-- No step that draws while there is room brings the numbers into disorder. -/
theorem Ledger.step (ledger : Ledger client start crowd) (step : Step client Roomy crowd next) :
    Ledger client start next := by
  cases step with
  | looks h =>
    refine ledger.unmoved (by rw [h]; rfl) (fun inUse he => ?_) fun _ _ he => by cases he
    cases he
    refine ⟨fun teid ht => ?_, List.Subset.refl _⟩
    obtain ⟨entry, he⟩ := Registry.mem_teids_iff.1 ht
    exact Registry.mem_teids_iff.2 ⟨entry, ledger.kept teid entry he⟩
  | draws room h ha => exact ledger.draws room h (TeidPool.walks_allocate ha)
  | fails h =>
    exact ledger.unmoved (by rw [h]; rfl) (fun _ he => by cases he) fun _ _ he => by cases he
  | enrolls h peer => exact ledger.enrolls h peer
  | aside registry pool => exact ledger.aside registry pool

theorem Run.ledger (run : Run client Roomy start crowd) : Ledger client start crowd := by
  induction run with
  | start => exact ledger_start client start
  | step _ step ih => exact ih.step step

/-- If no task draws unless a number is left, all tasks have different numbers, each session is found
under its number, and no session that was there loses its own. -/
theorem distinct_of_run (run : Run client Roomy start crowd) :
    (∀ i j own own' id id', i ≠ j → crowd.progress i = .enrolled own id →
      crowd.progress j = .enrolled own' id' → own ≠ own') ∧
    (∀ i own id, crowd.progress i = .enrolled own id →
      crowd.endpoint.registry.byTeid.get? own = some ⟨id, client i⟩) ∧
    ∀ teid entry, start.registry.byTeid.get? teid = some entry →
      crowd.endpoint.registry.byTeid.get? teid = some entry := by
  have ledger := run.ledger
  refine ⟨fun i j own own' id id' hne hi hj he => hne ?_, ledger.bound, ledger.kept⟩
  subst he
  exact ledger.single i j own (has_of_enrolled hi) (has_of_enrolled hj)

/-! ## Ranges that are large enough -/

/-- The condition under which draws are made may be replaced by one that holds when they are made. -/
theorem Step.under {spare' : Crowd ι → Prop} (step : Step client spare crowd next)
    (h : ∀ i inUse, crowd.progress i = .looked inUse → spare' crowd) :
    Step client spare' crowd next := by
  cases step with
  | looks h' => exact .looks h'
  | draws _ h' ha => exact .draws (h _ _ h') h' ha
  | fails h' ha => exact .fails h' ha
  | enrolls h' peer => exact .enrolls h' peer
  | aside registry pool => exact .aside registry pool

/-- A number is left for a task without one if the range has one for each session and each task. -/
private theorem Ledger.roomy [Fintype ι] (ledger : Ledger client start crowd)
    (large : start.registry.teids.length + Fintype.card ι ≤ start.pool.size)
    (hi : (crowd.progress i).own? = none) : Roomy crowd := by
  let others := (Finset.univ.erase i).image fun j => (crowd.progress j).own?.getD 0
  have hothers : others.card ≤ Fintype.card ι - 1 := by
    have hcard : others.card ≤ (Finset.univ.erase i).card := Finset.card_image_le
    rwa [Finset.card_erase_of_mem (Finset.mem_univ i), Finset.card_univ] at hcard
  have hpositive : 0 < Fintype.card ι := Fintype.card_pos_iff.2 ⟨i⟩
  have hused : (start.registry.teids.toFinset ∪ others).card < crowd.endpoint.pool.size := by
    have hunion := Finset.card_union_le start.registry.teids.toFinset others
    have hstart := List.toFinset_card_le start.registry.teids
    rw [ledger.size]
    omega
  obtain ⟨teid, has, hnot⟩ := TeidPool.exists_has_notMem hused
  rw [Finset.mem_union, not_or, List.mem_toFinset] at hnot
  have hnobody : ∀ j, ¬crowd.Has j teid := by
    intro j hj
    refine hnot.2 (Finset.mem_image.2 ⟨j, Finset.mem_erase.2 ⟨?_, Finset.mem_univ j⟩, ?_⟩)
    · rintro rfl
      rw [Has, hi] at hj
      cases hj
    · rw [hj, Option.getD_some]
  refine ⟨teid, has, fun ht => ?_, fun j hj => hnobody j (has_of_drawn hj)⟩
  obtain ht | ⟨j, hj⟩ := ledger.origin teid ht
  · exact hnot.1 ht
  · exact hnobody j hj

/-- Tasks never draw without room if the range has a number for each session and for each of them. -/
theorem Run.roomy [Fintype ι]
    (large : start.registry.teids.length + Fintype.card ι ≤ start.pool.size)
    (run : Run client spare start crowd) : Run client Roomy start crowd := by
  induction run with
  | start => exact .start
  | step _ step ih =>
    exact ih.step (step.under fun i inUse h => ih.ledger.roomy large (by rw [h]; rfl))

/-! ## Schedules -/

/-- A task takes its next step. Its session depends on the number that it gets. -/
def go (session : ι → UInt32 → Session) (crowd : Crowd ι) (i : ι) : Crowd ι :=
  match crowd.progress i with
  | .arrived => crowd.advance i (.looked crowd.endpoint.registry.teids) crowd.endpoint
  | .looked inUse =>
    match crowd.endpoint.pool.allocate inUse.contains with
    | some (own, pool) => crowd.advance i (.drawn own) { crowd.endpoint with pool }
    | none => crowd.advance i .refused crowd.endpoint
  | .drawn own =>
    crowd.advance i (.enrolled own crowd.endpoint.sessions.length)
      (crowd.endpoint.enrolled own (session i own))
  | .enrolled _ _ | .refused => crowd

variable {session : ι → UInt32 → Session}

theorem go_of_arrived (h : crowd.progress i = .arrived) :
    go session crowd i =
      crowd.advance i (.looked crowd.endpoint.registry.teids) crowd.endpoint := by
  rw [go, h]

theorem go_of_looked {inUse : List UInt32} (h : crowd.progress i = .looked inUse) :
    go session crowd i =
      match crowd.endpoint.pool.allocate inUse.contains with
      | some (own, pool) => crowd.advance i (.drawn own) { crowd.endpoint with pool }
      | none => crowd.advance i .refused crowd.endpoint := by
  rw [go, h]

theorem go_of_drawn (h : crowd.progress i = .drawn own) :
    go session crowd i = crowd.advance i (.enrolled own crowd.endpoint.sessions.length)
      (crowd.endpoint.enrolled own (session i own)) := by
  rw [go, h]

theorem go_of_refused (h : crowd.progress i = .refused) : go session crowd i = crowd := by
  rw [go, h]

/-- What tasks come to that take their steps in this order. -/
theorem run_foldl_go (peer : ∀ i own, (session i own).peer = client i)
    (run : Run client (fun _ => True) start crowd) (schedule : List ι) :
    Run client (fun _ => True) start (schedule.foldl (go session) crowd) := by
  induction schedule generalizing crowd with
  | nil => exact run
  | cons i schedule ih =>
    refine ih ?_
    rw [go]
    split
    · next h => exact run.step (.looks h)
    · next h =>
      split
      · next ha => exact run.step (.draws trivial h ha)
      · next ha => exact run.step (.fails h ha)
    · next h => exact run.step (.enrolls h (peer i _))
    · exact run
    · exact run

/-- A create request that is handled on its own takes the steps of one task. -/
theorem endpoint_createSession {σ : Type} {environment : Environment (StateM σ)}
    (hq : Quiet environment) (world : σ) {request : Message} {sender imsi : Element}
    {remote : UInt32} {described : Session} {interface : UInt8}
    (hk : request.kind = .createSessionRequest) (hs : request.field? .senderFteidC = some sender)
    (hi : request.field? .imsi = some imsi)
    (hread : readCreation (client i) request sender = .ok (remote, described, interface))
    (h : crowd.progress i = .arrived) :
    ∃ session : UInt32 → Session, (∀ own, (session own).peer = client i) ∧
      (outcome environment (Gateway.createSession (client i) request)
        (crowd.endpoint, world)).2.1 =
          ([i, i, i].foldl (go fun _ => session) crowd).endpoint := by
  obtain ⟨-, hd, -⟩ := readCreation_eq_ok.1 hread
  choose session hsession using exists_approved hd hi interface remote crowd.endpoint.interface
  have hdescribed : described.peer = client i := Session.peer_of_ofRequest hd
  have hpeer : (described.setTeid interface remote).peer = client i := hdescribed
  refine ⟨session, fun own => (peer_of_approve (hsession own)).trans hpeer, ?_⟩
  rw [outcome_createSession_eq hq (client i) crowd.endpoint world hk hs (by rw [hi]; rfl), hread,
    List.foldl_cons, go_of_arrived h, List.foldl_cons, go_of_looked (progress_advance_self ..)]
  dsimp only [endpoint_advance]
  cases crowd.endpoint.pool.allocate crowd.endpoint.registry.teids.contains with
  | none => rw [List.foldl_cons, go_of_refused (progress_advance_self ..)]; rfl
  | some found =>
    obtain ⟨own, pool⟩ := found
    have hkept : ∀ (answer : Message) (state : Endpoint × σ),
        (outcome environment (respond (client i) request answer) state).2.1 = state.1 :=
      fun answer state => (keeps_send .. : Keeps environment id _ _)
    dsimp only
    rw [hsession, List.foldl_cons, go_of_drawn (progress_advance_self ..)]
    exact hkept ..

/-! Two tasks, of which the second reads early and draws late. -/

private def pair : Bool → SocketAddress
  | false => ⟨.v4 ⟨127, 0, 0, 1⟩, 2123, 0⟩
  | true => ⟨.v4 ⟨127, 0, 0, 2⟩, 2123, 0⟩

private def bare (i : Bool) (_ : UInt32) : Session := { peer := pair i }

private def late (range : TeidRange) : Crowd Bool :=
  [true, false, false, false, true, true].foldl (go bare)
    ⟨make ⟨.v4 ⟨127, 0, 0, 10⟩, 2123, 0⟩ 11 0 { teidRange := range }, fun _ => .arrived⟩

private theorem run_late (range : TeidRange) : Run pair (fun _ => True)
    (make ⟨.v4 ⟨127, 0, 0, 10⟩, 2123, 0⟩ 11 0 { teidRange := range }) (late range) :=
  run_foldl_go (fun _ _ => rfl : ∀ i own, (bare i own).peer = pair i) .start _

/-- In a range of two numbers each task gets one of its own. -/
theorem distinct_of_run_late :
    Run pair Roomy (make ⟨.v4 ⟨127, 0, 0, 10⟩, 2123, 0⟩ 11 0 { teidRange := ⟨5, 6⟩ }) (late ⟨5, 6⟩) ∧
      (late ⟨5, 6⟩).progress false = .enrolled 5 0 ∧ (late ⟨5, 6⟩).progress true = .enrolled 6 1 ∧
      (5 : UInt32) ≠ 6 ∧
      (late ⟨5, 6⟩).endpoint.registry.byTeid.get? 5 = some ⟨0, pair false⟩ ∧
      (late ⟨5, 6⟩).endpoint.registry.byTeid.get? 6 = some ⟨1, pair true⟩ := by
  have run := (run_late ⟨5, 6⟩).roomy (by decide)
  have first : (late ⟨5, 6⟩).progress false = .enrolled 5 0 := by decide +kernel
  have second : (late ⟨5, 6⟩).progress true = .enrolled 6 1 := by decide +kernel
  obtain ⟨distinct, bound, -⟩ := distinct_of_run run
  exact ⟨run, first, second, distinct false true _ _ _ _ Bool.false_ne_true first second,
    bound _ _ _ first, bound _ _ _ second⟩

/-- In a range of one number the second task draws the number of the first, which is registered by
then, and takes it over. -/
theorem shared_of_run_late :
    Run pair (fun _ => True) (make ⟨.v4 ⟨127, 0, 0, 10⟩, 2123, 0⟩ 11 0 { teidRange := ⟨5, 5⟩ })
        (late ⟨5, 5⟩) ∧
      (late ⟨5, 5⟩).progress false = .enrolled 5 0 ∧ (late ⟨5, 5⟩).progress true = .enrolled 5 1 ∧
      (late ⟨5, 5⟩).endpoint.registry.byTeid.get? 5 = some ⟨1, pair true⟩ :=
  ⟨run_late ⟨5, 5⟩, by decide +kernel⟩

end Crowd
end Endpoint
end GtpControl
