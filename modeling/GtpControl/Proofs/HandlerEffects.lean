import GtpControl.Endpoint.Procedure
import GtpControl.Proofs.ActionEffects
import GtpControl.Proofs.Reception

/-! # Effects of handlers: only requests about sessions change what an endpoint knows of sessions -/
namespace GtpControl

/-- The requests that a handler takes, if it works on sessions. -/
def Handler.request? : Handler → Option Kind
  | .createSession => some .createSessionRequest
  | .modifyBearer => some .modifyBearerRequest
  | .deleteSession => some .deleteSessionRequest
  | .releaseAccessBearers => some .releaseAccessBearersRequest
  | .echoRequest | .echoResponse | .versionNotSupported | .ignore | .refuse _ | .custom _ => none

/-- The name of a handler of the user. -/
def Handler.custom? : Handler → Option String
  | .custom name => some name
  | _ => none

theorem Handler.eq_custom {handler : Handler} {name : String} (h : handler.custom? = some name) :
    handler = .custom name := by
  cases handler <;> cases h
  rfl

/-- A reply as it is read: its kind is that of its type, and its type is that of a reply. -/
structure Message.Replying (message : Message) : Prop where
  kind : Version.v2.kindOf message.type = message.kind
  reply : Version.v2.isReply message.type = true

/-- No handler takes a reply for a request about a session. -/
theorem Message.Replying.request?_ne {message : Message} (replying : message.Replying)
    (handler : Handler) : handler.request? ≠ some message.kind := by
  intro h
  have htype : ∀ kind, handler.request? = some kind →
      ∃ type, kind.type? = some type ∧ Version.v2.isReply type = false := by
    cases handler <;> simp +decide [Handler.request?, Kind.type?]
  obtain ⟨type, ht, hr⟩ := htype message.kind h
  have hk : message.kind ≠ .generic := by
    intro hk
    rw [hk] at ht
    cases ht
  rw [Version.type?_of_kindOf replying.kind hk] at ht
  cases ht
  rw [replying.reply] at hr
  cases hr

namespace Endpoint
open Endpoint.Action
variable {σ τ : Type} {environment : Environment (StateM σ)} {part : Endpoint → τ}
  {state : Endpoint × σ} {peer : SocketAddress} {message : Message}

/-- A handler that expects another kind of message ends at once. -/
private theorem keeps_refused {kind : Kind} {rest : Unit → Action (StateM σ) Unit}
    (h : message.kind ≠ kind) :
    Keeps environment part (Gateway.expect kind message >>= rest) state := by
  rw [Gateway.expect, if_neg h]
  exact (keeps_throw _).bind fun _ _ hx => by cases hx

/-- The user's handler that takes messages of a type. -/
def custom? (endpoint : Endpoint) (type : UInt8) : Option String :=
  (endpoint.handlers.get? type).bind Handler.custom?

/-- Handlers of the endpoint's own leave it as it is if they do not take the message for a request
about a session. -/
theorem keeps_run {handler : Handler} (own : handler.custom? = none)
    (h : handler.request? ≠ some message.kind) :
    Keeps environment part (handler.run peer message) state := by
  have hne : ∀ kind, handler.request? = some kind → message.kind ≠ kind := by
    rintro kind hk rfl
    exact h hk
  cases handler with
  | echoRequest => exact keeps_get.bind fun _ _ _ => keeps_send ..
  | echoResponse => exact keeps_ite (fun _ => keeps_log ..) fun _ => keeps_pure _
  | versionNotSupported => exact keeps_log ..
  | createSession => exact keeps_refused (hne _ rfl)
  | modifyBearer => exact keeps_refused (hne _ rfl)
  | deleteSession => exact keeps_refused (hne _ rfl)
  | releaseAccessBearers => exact keeps_refused (hne _ rfl)
  | ignore => exact keeps_pure _
  | refuse reason => exact keeps_throw _
  | custom name => cases own

/-- A reply that no handler takes is left to the caller. -/
theorem outcome_deliver (h : state.1.handlers.get? message.type = none) :
    outcome environment (deliver peer message) state = (.ok false, state) := by
  simp only [deliver, outcome_bind, outcome_get, h, outcome_pure]

/-- What is delivered leaves the endpoint as its handler does. -/
private theorem left_deliver_run {handler : Handler}
    (h : state.1.handlers.get? message.type = some handler) :
    (outcome environment (deliver peer message) state).2.1 =
      (outcome environment (handler.run peer message) state).2.1 := by
  rw [deliver, outcome_bind, outcome_get]
  dsimp only
  rw [h]
  dsimp only
  rw [outcome_bind]
  cases outcome environment (handler.run peer message) state with
  | mk result next => cases result <;> rfl

/-- A delivered reply leaves the endpoint as it is, or as the user's handler leaves it that takes it. -/
theorem left_deliver (replying : message.Replying) :
    (outcome environment (deliver peer message) state).2.1 =
      match state.1.custom? message.type with
      | none => state.1
      | some name => (handled environment name peer message state).2.1 := by
  rw [custom?]
  cases h : state.1.handlers.get? message.type with
  | none => rw [outcome_deliver h, Option.bind_none]
  | some handler =>
    rw [left_deliver_run h, Option.bind_some]
    cases hn : handler.custom? with
    | none => exact (keeps_run hn (replying.request?_ne handler) : Keeps environment id _ _)
    | some name =>
      obtain rfl := Handler.eq_custom hn
      rw [Handler.run, outcome_ofCustom]

/-- A delivered reply leaves a part of the endpoint as it is if the user's handlers do. -/
theorem keeps_deliver (replying : message.Replying)
    (custom : ∀ name, part (handled environment name peer message state).2.1 = part state.1) :
    Keeps environment part (deliver peer message) state := by
  rw [Keeps, left_deliver replying]
  cases state.1.custom? message.type with
  | none => rfl
  | some name => exact custom name

end Endpoint
end GtpControl
