import GtpControl.CommandLine.Words
import GtpControl.Version

/-! # Invocations: what a command line asks for -/
namespace GtpControl.CommandLine

/-- The session that a user wants. -/
structure Subscription where
  imsi : String
  msisdn : Option String := none
  apn : String := "internet"
  ebi : UInt8 := 5
deriving Repr

inductive Command where
  /-- answers echo requests and, as a gateway, session requests -/
  | serve (port : Option UInt16) (gateway : Bool)
  | echo (peer : Option String) (count : Nat)
  | createSession (peer : Option String) (subscription : Subscription) (delete : Bool)
  /-- lists a datagram; a file goes before digits -/
  | decode (hex file : Option String) (policy : LengthPolicy)
  | showConfig
  | sampleConfig (output : Option String)
deriving Repr

structure Invocation where
  config : Option String := none
  verbose : Bool := false
  command : Command
deriving Repr

namespace Invocation

def help : OptionSpec := ⟨"help", some 'h', .stop .help⟩

/-- Options that all commands have, and that may also stand before the command. -/
def common : List OptionSpec :=
  [⟨"config", some 'c', .path⟩, ⟨"verbose", some 'v', .flag⟩, help]

/-- What may follow each command. -/
def commands : List (String × Grammar) := [
  ("serve", { options := common ++ [
    ⟨"port", some 'p', .number 0xffff⟩, ⟨"no-responder", none, .flag⟩] }),
  ("echo", { maxOperands := 1, options := common ++ [⟨"count", some 'n', .number 0xffffffff⟩] }),
  ("create-session", { maxOperands := 1, options := common ++ [
    ⟨"imsi", none, .text⟩, ⟨"msisdn", none, .text⟩, ⟨"apn", none, .text⟩,
    ⟨"ebi", none, .number 0xff⟩, ⟨"delete", none, .flag⟩] }),
  ("decode", { maxOperands := 1, options := common ++ [
    ⟨"file", some 'f', .path⟩, ⟨"lenient", none, .flag⟩] }),
  ("config", { options := common ++ [
    ⟨"generate", none, .flag⟩, ⟨"output", some 'o', .path⟩] })]

def commandNames : List String := commands.map (·.1)

/-- The command that asks for help, about a command or in general. -/
def helpName : String := "help"

def grammar : Grammar where
  options := common ++ [⟨"version", some 'V', .stop .version⟩]
  commands := helpName :: commandNames

/-- The command of this name. -/
def commandOf (name : String) (words : Words) : Except Stop Command :=
  let peer := words.operand?
  match name with
  | "serve" =>
    pure (.serve ((words.number? "port").map .ofNat) (!words.flag "no-responder"))
  | "echo" => pure (.echo peer ((words.number? "count").getD 1))
  | "create-session" =>
    match words.value? "imsi" with
    | none => throw .misuse
    | some imsi =>
      let standard : Subscription := { imsi }
      let subscription : Subscription := { standard with
        msisdn := words.value? "msisdn"
        apn := (words.value? "apn").getD standard.apn
        ebi := ((words.number? "ebi").map .ofNat).getD standard.ebi }
      pure (.createSession peer subscription (words.flag "delete"))
  | "decode" =>
    pure (.decode words.operand? (words.value? "file")
      (if words.flag "lenient" then .lenient else .strict))
  | "config" =>
    pure (if words.flag "generate" then .sampleConfig (words.value? "output") else .showConfig)
  | _ => throw .misuse

/-- Help is there for commands only. -/
def helpStop : List String → Stop
  | [] => .help
  | [name] => if name = helpName || commandNames.contains name then .help else .misuse
  | _ => .misuse

/-- A common option after the command goes before the same one in front of it. -/
def parse (arguments : List String) : Except Stop Invocation := do
  match ← grammar.sort {} arguments with
  | (_, none) => throw .misuse
  | (outer, some (name, rest)) =>
    match commands.lookup name with
    | none => throw (helpStop rest)
    | some grammar =>
      let (inner, _) ← grammar.sort {} rest
      return {
        config := (inner.value? "config").or (outer.value? "config")
        verbose := inner.flag "verbose" || outer.flag "verbose"
        command := ← commandOf name inner }

end Invocation
end GtpControl.CommandLine
