import GtpControl.Text.Numeral

/-! # Words of a command line, sorted into options and operands

An option is written with two dashes and its name, or with one dash and its letter. Its value is the
next word, or follows an equals sign or the letter. Letters may share a dash. After a word of two
dashes all words are operands. No option is given twice. -/
namespace GtpControl.CommandLine

/-- Why there is nothing to carry out. -/
inductive Stop where
  | help
  | version
  | misuse
deriving DecidableEq, Repr

/-- What an option says. -/
inductive Argument where
  | flag
  | text
  /-- text that is not empty -/
  | path
  | number (limit : Nat)
  /-- ends the reading of the command line -/
  | stop (reason : Stop)
deriving DecidableEq, Repr

structure OptionSpec where
  name : String
  letter : Option Char := none
  argument : Argument := .text
deriving Repr

/-- What has been read of a command line. -/
structure Words where
  options : List (String × String) := []
  operands : List String := []
deriving Repr, Inhabited

/-- Words that a command line may hold. -/
structure Grammar where
  options : List OptionSpec
  maxOperands : Nat := 0
  /-- words that end this part of the line -/
  commands : List String := []

/-- A number with an optional sign. None is below zero. -/
def number? (limit : Nat) (text : String) : Option Nat :=
  match text.toList with
  | '-' :: digits => if digits.head? = some '+' then none else Text.unsigned? 0 digits
  | digits => Text.unsigned? limit digits

/-- Whether a word is an option, or ends the options. -/
def isOption (word : String) : Bool := word.toList.head? = some '-' && word ≠ "-"

namespace Words

def flag (name : String) (words : Words) : Bool := (words.options.lookup name).isSome

def value? (name : String) (words : Words) : Option String := words.options.lookup name

def number? (name : String) (words : Words) : Option Nat :=
  (words.value? name).bind (CommandLine.number? 0xffffffffffffffff)

def operand? (words : Words) : Option String := words.operands.head?

def addOption (spec : OptionSpec) (value : String) (words : Words) : Except Stop Words := do
  match spec.argument with
  | .stop reason => throw reason
  | .path => if value.isEmpty then throw .misuse
  | .number limit => if (CommandLine.number? limit value).isNone then throw .misuse
  | .flag | .text => pure ()
  if words.flag spec.name then throw .misuse
  return { words with options := words.options ++ [(spec.name, value)] }

def addOperand (grammar : Grammar) (words : Words) (word : String) : Except Stop Words :=
  if words.operands.length < grammar.maxOperands then
    pure { words with operands := words.operands ++ [word] }
  else throw .misuse

end Words

/-- Whether an option has no value. -/
def OptionSpec.isBare (spec : OptionSpec) : Bool :=
  match spec.argument with
  | .flag | .stop _ => true
  | .text | .path | .number _ => false

namespace Grammar

def named (grammar : Grammar) (name : String) : Except Stop OptionSpec :=
  (grammar.options.find? (·.name == name)).elim (throw .misuse) pure

def lettered (grammar : Grammar) (letter : Char) : Except Stop OptionSpec :=
  (grammar.options.find? (·.letter == some letter)).elim (throw .misuse) pure

/-- Reads the letters after one dash. The last one may be left without its value. -/
def letters (grammar : Grammar) (words : Words) :
    List Char → Except Stop (Words × Option OptionSpec)
  | [] => return (words, none)
  | letter :: rest => do
    let spec ← grammar.lettered letter
    if spec.isBare then letters grammar (← words.addOption spec "") rest
    else
      match rest with
      | [] => return (words, some spec)
      | '=' :: value => return (← words.addOption spec (String.ofList value), none)
      | value => return (← words.addOption spec (String.ofList value), none)

/-- Reads what follows two dashes. -/
def long (grammar : Grammar) (words : Words) (text : List Char) :
    Except Stop (Words × Option OptionSpec) := do
  let name := text.takeWhile (· ≠ '=')
  let spec ← grammar.named (String.ofList name)
  match text.drop name.length, spec.isBare with
  | [], true => return (← words.addOption spec "", none)
  | [], false => return (words, some spec)
  | _ :: _, true => throw .misuse
  | _ :: value, false => return (← words.addOption spec (String.ofList value), none)

/-- Reads words up to a command, which is returned with the words after it. -/
def sort (grammar : Grammar) (words : Words) :
    List String → Except Stop (Words × Option (String × List String))
  | [] => return (words, none)
  | word :: rest => do
    if word = "--" then return (← rest.foldlM (Words.addOperand grammar) words, none)
    else if isOption word then
      let (words, waiting) ←
        match word.toList with
        | '-' :: '-' :: text => grammar.long words text
        | text => grammar.letters words text.tail
      match waiting, rest with
      | none, rest => sort grammar words rest
      | some _, [] => throw .misuse
      | some spec, value :: rest =>
        if isOption value then throw .misuse
        else sort grammar (← words.addOption spec value) rest
    else if grammar.commands.isEmpty then sort grammar (← words.addOperand grammar word) rest
    else if grammar.commands.contains word then return (words, some (word, rest))
    else throw .misuse

end Grammar
end GtpControl.CommandLine
