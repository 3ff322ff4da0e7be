import GtpControl.Config
import GtpControl.Text.Utf8
import GtpControl.Toml.Document
import GtpControl.Toml.Printer
import GtpControl.Toml.Record

/-! # Configurations as documents -/
namespace GtpControl
open Toml (Value Record printEntries printTable quote quoteFlag)

def lengthPolicies : List (String × LengthPolicy) := [("strict", .strict), ("lenient", .lenient)]

def LengthPolicy.settingName : LengthPolicy → String
  | .strict => "strict"
  | .lenient => "lenient"

namespace Config

def General.ofRecord (hostName : String) (record : Record) : Option General := do
  return {
    name := ← record.read Value.string? hostName 0 "name"
    verbose := ← record.read Value.flag? false 1 "verbose"
    logFile := ← record.read? Value.string? 2 "log_file" }

def Node.ofRecord (record : Record) : Option Node := do
  let unset : Node := {}
  return {
    bindAddress := ← record.read Value.string? unset.bindAddress 0 "bind_address"
    port := ← record.read Value.uint16? unset.port 1 "port"
    interfaceType := ← record.read Value.uint8? unset.interfaceType 2 "interface_type"
    peer := ← record.read? Value.string? 3 "peer"
    responseTimeout := ← record.read Value.uint64? unset.responseTimeout 4 "response_timeout_ms"
    lengthPolicy :=
      ← record.read (Value.choice? lengthPolicies) unset.lengthPolicy 5 "length_policy"
    recovery := ← record.read Value.uint8? unset.recovery 6 "recovery"
    teidFirst := ← record.read Value.uint32? unset.teidFirst 7 "teid_first"
    teidLast := ← record.read Value.uint32? unset.teidLast 8 "teid_last"
    eventCapacity := ← record.read Value.uint64? unset.eventCapacity 9 "event_capacity"
    bufferSize := ← record.read Value.uint64? unset.bufferSize 10 "recv_buffer_size" }

/-- The configuration that a document holds; what it leaves out has its default. -/
def read (hostName document : String) : Except ConfigError Config :=
  let config : Option Config := do
    let root := Record.named (← Toml.parse document)
    return {
      general := ← record (General.ofRecord hostName) (ofHost hostName).general 0 "general" root
      node := ← record Node.ofRecord {} 1 "gtpc" root }
  match config with
  | some config => pure config
  | none => throw .illFormed
where
  record {α : Type} (ofRecord : Record → Option α) (default : α) : Nat → String → Record → Option α :=
    Record.read (fun value => value.record?.bind ofRecord) default

/-- The configuration that a file holds, which must be text. -/
def decode (hostName : String) (octets : Octets) : Except ConfigError Config :=
  match Text.decode? octets with
  | some document => read hostName (String.ofList document)
  | none => throw (.unreadable "stream did not contain valid UTF-8")

/-- The document for a configuration. -/
def print (config : Config) : String :=
  let general := config.general
  let node := config.node
  printTable "general" ([
      ("name", quote general.name),
      ("verbose", quoteFlag general.verbose)]
    ++ (general.logFile.map fun path => ("log_file", quote path)).toList)
  ++ "\n" ++ printTable "gtpc" ([
      ("bind_address", quote node.bindAddress),
      ("port", toString node.port),
      ("interface_type", toString node.interfaceType)]
    ++ (node.peer.map fun peer => ("peer", quote peer)).toList ++ [
      ("response_timeout_ms", toString node.responseTimeout),
      ("length_policy", quote node.lengthPolicy.settingName),
      ("recovery", toString node.recovery),
      ("teid_first", toString node.teidFirst),
      ("teid_last", toString node.teidLast),
      ("event_capacity", toString node.eventCapacity),
      ("recv_buffer_size", toString node.bufferSize)])

end Config

namespace Endpoint.Settings

def ofRecord (record : Record) : Option Settings := do
  let unset : Settings := {}
  return {
    responseTimeout := ← record.read Value.uint64? unset.responseTimeout 0 "response_timeout"
    lengthPolicy :=
      ← record.read (Value.choice? lengthPolicies) unset.lengthPolicy 1 "length_policy"
    recovery := ← record.read Value.uint8? unset.recovery 2 "recovery"
    teidRange := ← record.read range? unset.teidRange 3 "teid_range"
    eventCapacity := ← record.read Value.uint64? unset.eventCapacity 4 "event_capacity"
    bufferSize := ← record.read Value.uint64? unset.bufferSize 5 "recv_buffer_size" }
where
  /-- Both ends are needed. -/
  range? (value : Value) : Option TeidRange := do
    let record ← value.record?
    return ⟨← (← record.part? 0 "first").uint32?, ← (← record.part? 1 "last").uint32?⟩

/-- Settings of an endpoint in a document of their own. -/
def read (document : String) : Except ConfigError Settings :=
  match (Toml.parse document).bind fun entries => ofRecord (.named entries) with
  | some settings => pure settings
  | none => throw .illFormed

def print (settings : Settings) : String :=
  printEntries [
    ("response_timeout", toString settings.responseTimeout),
    ("length_policy", quote settings.lengthPolicy.settingName),
    ("recovery", toString settings.recovery),
    ("event_capacity", toString settings.eventCapacity),
    ("recv_buffer_size", toString settings.bufferSize)]
  ++ "\n" ++ printTable "teid_range" [
    ("first", toString settings.teidRange.first),
    ("last", toString settings.teidRange.last)]

end Endpoint.Settings
end GtpControl
