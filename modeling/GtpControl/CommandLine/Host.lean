import GtpControl.Endpoint.Action

/-! # Hosts: what a program is given by the machine it runs on -/
namespace GtpControl.CommandLine

/-- Reasons for failures are texts of the host. -/
structure Host (m : Type → Type) where
  name : m String
  /-- where the numbers of a client start, which differs between runs -/
  seed : m UInt32
  /-- where users keep configurations -/
  configDirectory : m (Option String)
  /-- whether there is a file or a directory -/
  holds : (path : String) → m Bool
  load : (path : String) → m (Except String Octets)
  save : (path content : String) → m (Except String Unit)
  /-- starts the log with its least level, and adds it to a file if one is given -/
  openLog : LogLevel → (path : Option String) → m (Except String Unit)
  print : String → m Unit
  printError : String → m Unit
  /-- microseconds since some moment -/
  clock : m Nat
  network : Endpoint.Environment m
  /-- hands over each datagram that arrives, until the user interrupts the program -/
  serve : (SocketAddress → Octets → StateT Endpoint m Unit) → StateT Endpoint m Unit

end GtpControl.CommandLine
