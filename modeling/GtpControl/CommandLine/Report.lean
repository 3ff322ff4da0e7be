import GtpControl.Config
import GtpControl.Endpoint.Procedure
import GtpControl.Message.Listing

/-! # What commands print -/
namespace GtpControl.CommandLine

def lines (texts : List String) : String := String.join (texts.map (· ++ "\n"))

/-- All that is known about a datagram. -/
def messageReport (message : Message) : String :=
  lines ([
      s!"Version: {message.version.label}",
      s!"Message: {message.typeName} ({message.type})",
      s!"Sequence: {message.sequence}"]
    ++ (message.teid?.map fun teid => s!"TEID: {teidText teid}").toList
    ++ (message.cause?.map fun cause => s!"Cause: {cause}").toList
    ++ [message.listing]
    ++ if message.version = .v2 ∧ message.kind = .generic then
        [s!"{message.additional.length} IEs not decoded into fields"]
      else [])

def rule : String := "========================================"

/-- What an endpoint that starts to serve says about itself. -/
def banner (name : String) (endpoint : Endpoint) (gateway : Bool) : String :=
  let responder := if gateway then "on" else "off"
  lines ["", rule, "  gtpc endpoint running", rule,
    s!"  Node: {name}",
    s!"  Address: {endpoint.localAddress.toText}",
    s!"  Interface type: {endpoint.interface}",
    s!"  Session responder: {responder}",
    rule, "", "Press Ctrl+C to stop.", ""]

/-- Events that users are told of. -/
def notice? : Event → Option String
  | .handlerFailed peer type reason =>
    some s!"! {Version.v2.messageName type} from {peer.toText}: {reason}"
  | .parseFailed peer reason => some s!"! Undecodable datagram from {peer.toText}: {reason}"
  | _ => none

/-- A duration in milliseconds, with one place. -/
def milliseconds (microseconds : Nat) : String :=
  let tenths := (microseconds + 50) / 100
  s!"{tenths / 10}.{tenths % 10}"

def echoReport (reply : Endpoint.Reply) (microseconds : Nat) : String :=
  let message := reply.message
  let counter := (message.field? .recovery).bind fun e => (Element.V2.recovery e).toOption
  let counter := (counter.map toString).getD "-"
  lines [s!"Echo Response from {reply.peer.toText}: sequence={message.sequence} " ++
    s!"restart_counter={counter} time={milliseconds microseconds}ms"]

def causeText (reply : Endpoint.Reply) : String := Text.optional (reply.cause.map toString)

def sessionReport (session : Session) (reply : Endpoint.Reply) : String :=
  let imsi := session.subscriber.imsi.getD "-"
  lines ([
      s!"Session created with {reply.peer.toText} (cause {causeText reply})",
      s!"  IMSI: {imsi}",
      s!"  State: {session.state.label}"]
    ++ session.teids.entries.map (fun (interface, teid) =>
      s!"  TEID {teidText teid} on interface type {interface}")
    ++ (session.defaultBearer.subscriberIp.map fun ip =>
      s!"  Subscriber address: {ip.toText}").toList)

end GtpControl.CommandLine
