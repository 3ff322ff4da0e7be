import GtpControl.Session.Bindings

/-! # Handlers: what an endpoint does with the messages of one type -/
namespace GtpControl

inductive Handler where
  /-- answers with the restart counter -/
  | echoRequest
  /-- takes note of a response that nobody waits for -/
  | echoResponse
  | versionNotSupported
  | createSession
  | modifyBearer
  | deleteSession
  | releaseAccessBearers
  /-- takes messages and does nothing -/
  | ignore
  /-- refuses all messages -/
  | refuse (reason : String)
  /-- does what the user of the endpoint has put under this name -/
  | custom (name : String)
deriving DecidableEq, Repr

namespace Handler

/-- What every endpoint handles, by message type. -/
def standard : Bindings UInt8 Handler :=
  ⟨[(1, echoRequest), (2, echoResponse), (3, versionNotSupported)]⟩

/-- The requests that a serving gateway answers, by message type. -/
def gateway : List (UInt8 × Handler) :=
  [(32, createSession), (34, modifyBearer), (36, deleteSession), (170, releaseAccessBearers)]

end Handler
end GtpControl
