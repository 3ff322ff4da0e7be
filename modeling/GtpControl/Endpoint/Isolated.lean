import GtpControl.Endpoint.Action

/-! # Surroundings without a way out

Sockets are opened at the addresses of the machine itself, and no datagram leaves. -/
namespace GtpControl.Endpoint.Environment

/-- The addresses of a machine on its own, and those that stand for all of them. -/
def isOwn : IpAddress → Bool
  | .v4 ip => ip.a = 127 || ip = .unspecified
  | .v6 ip => ip.octets.dropLast.all (· = 0) && ip.octets.getLastD 0 ≤ 1

def noSuchAddress : String := "Cannot assign requested address (os error 99)"

def unreachable : String := "Network is unreachable (os error 101)"

/-- The port of sockets that ask for any. -/
def anyPort : UInt16 := 49152

def isolated {m : Type → Type} [Monad m] (log : LogLevel → String → m Unit) : Environment m where
  bind address :=
    pure (if isOwn address.ip then
        .ok { address with port := if address.port = 0 then anyPort else address.port }
      else .error noSuchAddress)
  send _ _ := pure (.error unreachable)
  log
  await _ := pure ()
  custom _ _ _ := pure (.ok ())

end GtpControl.Endpoint.Environment
