import GtpControl.Endpoint.Settings
import GtpControl.Value.AddressText

/-! # Configuration of a node -/
namespace GtpControl

/-- The port of the control protocol. -/
def controlPort : UInt16 := 2123

/-- The interface type of a serving gateway towards a mobility management entity. -/
def servingGatewayInterface : UInt8 := 11

namespace Config

structure General where
  name : String
  verbose : Bool := false
  logFile : Option String := none
deriving DecidableEq, Repr

/-- The endpoint of the node. -/
structure Node where
  bindAddress : String := "0.0.0.0"
  port : UInt16 := controlPort
  interfaceType : UInt8 := servingGatewayInterface
  /-- the peer of client commands that name none -/
  peer : Option String := none
  responseTimeout : UInt64 := 3000
  lengthPolicy : LengthPolicy := .strict
  recovery : UInt8 := 0
  teidFirst : UInt32 := 1
  teidLast : UInt32 := 0xffffffff
  eventCapacity : UInt64 := 256
  bufferSize : UInt64 := 65535
deriving DecidableEq, Repr

end Config

structure Config where
  general : Config.General
  node : Config.Node := {}
deriving DecidableEq, Repr

/-- Why there is no usable configuration. -/
inductive ConfigError where
  | notFound (path : String)
  | unreadable (reason : String)
  | illFormed
  | invalidAddress (text : String)
deriving DecidableEq, Repr

def ConfigError.message : ConfigError → String
  | .notFound path => s!"Config file not found: {path}"
  | .unreadable reason => s!"IO error: {reason}"
  | .illFormed => "Parse error: TOML parse error"
  | .invalidAddress text => s!"Invalid address: {text}"

/-- What the error goes back to, where that is an error of its own. -/
def ConfigError.origin? : ConfigError → Option String
  | .unreadable reason => some reason
  | .illFormed => some "TOML parse error"
  | .notFound _ | .invalidAddress _ => none

namespace Config

/-- Without a file all settings have their defaults, and the node is named after its host. -/
def ofHost (hostName : String) : Config := { general := { name := hostName } }

def sample : Config where
  general := { name := "sgw-c-1" }
  node := { peer := some "192.0.2.10:2123", recovery := 1 }

/-- The address that the node listens on. -/
def Node.bindAddr (node : Node) : Except ConfigError SocketAddress :=
  match IpAddress.ofText? node.bindAddress with
  | some ip => pure { ip, port := node.port }
  | none => throw (.invalidAddress node.bindAddress)

def Node.settings (node : Node) : Endpoint.Settings where
  responseTimeout := node.responseTimeout
  lengthPolicy := node.lengthPolicy
  recovery := node.recovery
  teidRange := ⟨node.teidFirst, node.teidLast⟩
  eventCapacity := node.eventCapacity
  bufferSize := node.bufferSize

end Config
end GtpControl
