import GtpControl.CommandLine.Failure
import GtpControl.CommandLine.Host
import GtpControl.CommandLine.Invocation
import GtpControl.CommandLine.Report
import GtpControl.Config.Document
import GtpControl.Value.PeerText

/-! # The program: commands carried out on a host -/
namespace GtpControl.CommandLine
open Endpoint (Action)
open Endpoint.Action (listen installGateway log)
variable {m : Type → Type} [Monad m] {α : Type}

abbrev Task (m : Type → Type) := ExceptT Failure m

/-- A result that fails in its own way. -/
def orFail {ε : Type} {n : Type → Type} [Monad n] [MonadExcept Failure n]
    (failure : ε → Failure) (result : Except ε α) : n α :=
  MonadExcept.ofExcept (result.mapError failure)

/-! ## Configuration -/

/-- Reads the configuration of a file that is there. -/
def readConfig (host : Host m) (path : String) : Task m Config := do
  let octets ← orFail (fun reason => .config (.unreadable reason)) (← host.load path)
  orFail .config (Config.decode (← host.name) octets)

/-- Where a configuration is looked for, first the user's own. -/
def configPaths (host : Host m) : Task m (List String) := do
  let own := (← host.configDirectory).map (· ++ "/gtpc/config.toml")
  return own.toList ++ ["./gtpc.toml", "./config.toml"]

/-- The first of the files that is there. -/
def firstFile? (host : Host m) : List String → Task m (Option String)
  | [] => return none
  | path :: rest => do
    if ← host.holds path then return some path
    firstFile? host rest

/-- A file that the user names must be there and well-formed. Else the first file that is there is
taken, or the defaults if it is not well-formed. -/
def loadConfig (host : Host m) (given : Option String) : Task m Config := do
  match given with
  | some path =>
    if !(← host.holds path) then throw (.config (.notFound path))
    readConfig host path
  | none =>
    let standard := Config.ofHost (← host.name)
    let some path ← firstFile? host (← configPaths host) | return standard
    try readConfig host path
    catch _ => return standard

def showConfig (host : Host m) (config : Config) : Task m Unit :=
  host.print (lines [config.print])

def writeSample (host : Host m) (output : Option String) : Task m Unit := do
  let sample := Config.sample.print
  match output with
  | some path =>
    orFail .file (← host.save path sample)
    host.print (lines [s!"Configuration written to: {path}"])
  | none => host.print (lines [sample])

/-! ## Datagrams -/

def readDatagram (host : Host m) (hex file : Option String) : Task m Octets := do
  match hex, file with
  | _, some path => orFail .file (← host.load path)
  | some hex, none => orFail .hex (HexText.decode hex)
  | none, none => throw .noDatagram

def decodeDatagram (host : Host m) (octets : Octets) (policy : LengthPolicy) : Task m Unit := do
  let message ← orFail .codec (Message.parseAny policy octets)
  host.print (messageReport message)

/-! ## Endpoints -/

/-- Work with an endpoint. The endpoint keeps what was done before a failure. -/
abbrev Work (m : Type → Type) := ExceptT Failure (StateT Endpoint m)

/-- Does work with an endpoint that is not needed afterwards. -/
def Work.on (endpoint : Endpoint) (work : Work m α) : Task m α :=
  ExceptT.mk (work.run.run' endpoint)

def act (host : Host m) (action : Action m α) : Work m α := do
  orFail .endpoint (← (action.within host.network : StateT Endpoint m _))

/-- Prints what users are told of the events so far. -/
def tellEvents (host : Host m) : StateT Endpoint m Unit := do
  let events ← modifyGet Endpoint.takeEvents
  (events.filterMap notice?).forM fun notice => host.print (lines [notice])

/-- Takes datagrams in until the user interrupts the program. -/
def attend (host : Host m) : Work m Unit := do
  let receive (peer : SocketAddress) (octets : Octets) : StateT Endpoint m Unit := do
    let _ ← (Endpoint.receive peer octets).within host.network
    tellEvents host
  (host.serve receive : StateT Endpoint m Unit)

def serve (host : Host m) (config : Config) (port : Option UInt16) (gateway : Bool) :
    Task m Unit := do
  let node := { config.node with port := port.getD config.node.port }
  let address ← orFail .config node.bindAddr
  let name := config.general.name
  Work.on (Endpoint.make address node.interfaceType 1 node.settings) do
    modify (·.watch.2)
    let bound ← act host listen
    if gateway then act host installGateway
    act host (log .info s!"Starting gtpc '{name}' on {bound.toText}")
    let _ ← act host Endpoint.startServing
    host.print (banner name (← get) gateway)
    attend host
    host.print (lines ["", "Shutting down..."])
    act host Endpoint.cancelServing
    let endpoint ← get
    host.print (lines
      [s!"{endpoint.sessionCount} sessions, {endpoint.bearerCount} bearers at shutdown"])
    act host (log .info "Endpoint stopped")

/-- The interface type of a mobility management entity towards a serving gateway. -/
def mobilityInterface : UInt8 := 10

/-- Works with an endpoint of its own that talks to one peer, by default the configured one. -/
def withClient (host : Host m) (config : Config) (peer : Option String) (interface : UInt8)
    (work : SocketAddress → Work m Unit) : Task m Unit := do
  let some peer := peer.or config.node.peer | throw .noPeer
  let some remote := SocketAddress.ofPeer? controlPort peer | throw (.unresolved peer)
  let address ← orFail .config config.node.bindAddr
  let endpoint := Endpoint.make { address with port := 0 } interface (← host.seed)
    config.node.settings
  Work.on endpoint do
    act host (Endpoint.dial remote)
    work remote

/-- One echo request; a failure is reported and does no harm. -/
def echoOnce (host : Host m) (peer : SocketAddress) : Work m Unit := do
  let start ← host.clock
  try
    let reply ← act host (Endpoint.echo peer)
    host.print (echoReport reply ((← host.clock) - start))
  catch failure =>
    host.print (lines [s!"Echo to {peer.toText} failed: {failure.message}"])

def echo (host : Host m) (config : Config) (peer : Option String) (count : Nat) : Task m Unit :=
  withClient host config peer config.node.interfaceType fun peer =>
    count.forM fun _ _ => echoOnce host peer

/-- The elements of the request for a session with one IPv4 bearer. -/
def Subscription.elements (subscription : Subscription) : Coded (List Element) := do
  let imsi ← Element.V2.ofImsi subscription.imsi
  let apn ← Element.V2.ofApn subscription.apn
  let msisdn ← subscription.msisdn.mapM Element.V2.ofMsisdn
  let eutran : UInt8 := 6
  let qos : Qos := {
    qci := 9, priorityLevel := 2, preemptionCapability := true, preemptionVulnerability := true }
  return [imsi, Element.V2.ofRatType eutran, apn, Element.V2.ofPdnType Element.V2.ipv4Pdn,
    Element.V2.ofPaaV4 .unspecified,
    Element.V2.ofBearerContext
      [Element.V2.ofEbi subscription.ebi, Element.V2.ofBearerQos qos]] ++ msisdn.toList

def createSession (host : Host m) (config : Config) (peer : Option String)
    (subscription : Subscription) (delete : Bool) : Task m Unit :=
  withClient host config peer mobilityInterface fun peer => do
    let elements ← orFail .codec subscription.elements
    let (id, reply) ← act host (Endpoint.createSession peer elements)
    host.print (sessionReport ((← get).session id) reply)
    if delete then
      let reply ← act host (Endpoint.deleteSession id [Element.V2.ofEbi subscription.ebi])
      host.print (lines [s!"Session deleted (cause {causeText reply})"])

/-! ## The program -/

def carryOut (host : Host m) (config : Config) : Command → Task m Unit
  | .serve port gateway => serve host config port gateway
  | .echo peer count => echo host config peer count
  | .createSession peer subscription delete => createSession host config peer subscription delete
  | .decode hex file policy => do
    decodeDatagram host (← readDatagram host hex file) policy
  | .showConfig => showConfig host config
  | .sampleConfig output => writeSample host output

/-- Reads the configuration, starts the log, and carries out the command. -/
def perform (host : Host m) (invocation : Invocation) : Task m Unit := do
  let config ← loadConfig host invocation.config
  let level := if invocation.verbose || config.general.verbose then .debug else .info
  orFail .file (← host.openLog level config.general.logFile)
  carryOut host config invocation.command

def versionText : String := lines ["gtpc 0.1.0"]

def helpText : String :=
  lines ["Usage: gtpc [OPTIONS] <COMMAND>", "",
    "Commands: " ++ String.intercalate ", " (Invocation.helpName :: Invocation.commandNames)]

/-- Runs the program. The result is its exit code. -/
def run (host : Host m) (arguments : List String) : m UInt8 := do
  match Invocation.parse arguments with
  | .error .help =>
    host.print helpText
    return 0
  | .error .version =>
    host.print versionText
    return 0
  | .error .misuse =>
    host.printError helpText
    return 2
  | .ok invocation =>
    match ← (perform host invocation).run with
    | .ok () => return 0
    | .error failure =>
      host.printError failure.report
      return 1

end GtpControl.CommandLine
