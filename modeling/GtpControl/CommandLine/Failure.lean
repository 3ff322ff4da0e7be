import GtpControl.CommandLine.HexText
import GtpControl.Config
import GtpControl.Endpoint.Error

/-! # Why a command fails -/
namespace GtpControl.CommandLine

inductive Failure where
  | config (error : ConfigError)
  | endpoint (error : EndpointError)
  | codec (error : CodecError)
  | hex (fault : HexText.Fault)
  | file (reason : String)
  | noDatagram
  | noPeer
  | unresolved (peer : String)
deriving DecidableEq, Repr

namespace Failure

def message : Failure → String
  | .config error => error.message
  | .endpoint error => error.message
  | .codec error => error.message
  | .hex fault => fault.message
  | .file reason => reason
  | .noDatagram => "Give the datagram as hex or with --file"
  | .noPeer => "Please specify a peer or set gtpc.peer in the configuration"
  | .unresolved peer => s!"Could not resolve host: {peer}"

/-- The error that the failure goes back to. -/
def origin? : Failure → Option String
  | .config error => error.origin?
  | .endpoint error => error.origin?
  | _ => none

/-- What the user is told. -/
def report (failure : Failure) : String :=
  let cause := (failure.origin?.map fun origin => s!"\nCaused by:\n    {origin}\n").getD ""
  s!"Error: {failure.message}\n{cause}"

end Failure
end GtpControl.CommandLine
