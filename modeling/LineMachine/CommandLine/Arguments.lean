import LineMachine.Definition.Settings

/-!
# `LineMachine.CommandLine.Arguments`: what is asked for

Words are read from the left. An option is settled when the next one comes, or
an argument, or the end; a word that asks for help ends the reading. The
options in front of a command and those behind it are counted apart.

* `Command` is a command with its options, `Invocation` adds the options that
  all commands share, and `Wish` is an invocation or a wish for information.
* `UsageError` is what can be wrong.
* `Scan` is a list of words under way, `Scan.step` takes one word.
* `Wish.ofWords` reads a list of words.
-/

set_option autoImplicit false

namespace LineMachine.CommandLine

/-- How the result of a run is written. -/
inductive ReportFormat where
  | text
  | json
deriving Repr, DecidableEq

/-- A command with its options. -/
inductive Command where
  | run (table input : String) (format : ReportFormat) (trace : Bool) (decoding : Option Decoding)
  | check (table : String)
deriving Repr, DecidableEq

/-- The path of the table definition. -/
def Command.table : Command → String
  | .run table _ _ _ _ => table
  | .check table => table

/-- A command, and the options that all commands share. -/
structure Invocation where
  config : Option String
  logLevel : Option String
  command : Command
deriving Repr, DecidableEq

/-- What is asked for. -/
inductive Wish where
  | invocation (i : Invocation)
  | help
  | version
deriving Repr, DecidableEq

/-- An option. -/
inductive OptionName where
  | config
  | logLevel
  | format
  | decoding
  | trace
  | help
  | version
deriving Repr, DecidableEq

namespace OptionName

/-- The name behind two hyphens. -/
def long : OptionName → String
  | .config => "config"
  | .logLevel => "log-level"
  | .format => "format"
  | .decoding => "decoding"
  | .trace => "trace"
  | .help => "help"
  | .version => "version"

/-- The letter behind one hyphen. -/
def short? : OptionName → Option Char
  | .config => some 'c'
  | .format => some 'f'
  | .help => some 'h'
  | .version => some 'V'
  | _ => none

/-- Whether a value belongs to the option. -/
def takesValue : OptionName → Bool
  | .config => true
  | .logLevel => true
  | .format => true
  | .decoding => true
  | _ => false

/-- The values that the option may have, if not all. -/
def allowed? : OptionName → Option (List String)
  | .format => some ["text", "json"]
  | .decoding => some (Decoding.all.map Decoding.name)
  | _ => none

end OptionName

/-- What can be wrong with a list of words. -/
inductive UsageError where
  | unknownOption (word : String)
  | missingValue (o : OptionName)
  | uselessValue (o : OptionName)
  | invalidValue (o : OptionName) (value : String)
  | repeated (o : OptionName)
  | unexpected (word : String)
  | missingArgument
  | missingCommand
deriving Repr, DecidableEq

/-- What the error says. -/
def UsageError.message : UsageError → String
  | .unknownOption word => s!"unexpected argument '{word}'"
  | .missingValue o => s!"a value is required for '--{o.long}'"
  | .uselessValue o => s!"unexpected value for '--{o.long}'"
  | .invalidValue o value => s!"invalid value '{value}' for '--{o.long}'"
  | .repeated o => s!"the argument '--{o.long}' cannot be used multiple times"
  | .unexpected word => s!"unexpected argument '{word}'"
  | .missingArgument => "required arguments were not provided"
  | .missingCommand => "a command is required"

/-- Why the reading ends early. -/
inductive Stop where
  | help
  | version
  | wrong (e : UsageError)
deriving Repr, DecidableEq

/-- What may stand in a list of words. -/
structure Grammar where
  options : List OptionName
  /-- the words that end the list, where another one begins -/
  commands : List String
  /-- the number of arguments -/
  arguments : Nat

/-- The words in front of a command. -/
def Grammar.top : Grammar := ⟨[.config, .logLevel, .help, .version], ["run", "check", "help"], 0⟩

/-- The words behind `run`. -/
def Grammar.run : Grammar := ⟨[.config, .logLevel, .format, .trace, .decoding, .help], [], 2⟩

/-- The words behind `check`. -/
def Grammar.check : Grammar := ⟨[.config, .logLevel, .help], [], 1⟩

/-- An option that is not settled. -/
inductive Pending where
  | none
  /-- its value is to come -/
  | awaiting (o : OptionName)
  | complete (o : OptionName) (value : String)
deriving Repr, DecidableEq

/-- What was read of a list of words. -/
structure Scan where
  /-- the options with their values, the last one first -/
  options : List (OptionName × String)
  /-- the arguments, the last one first -/
  arguments : List String
  pending : Pending
  /-- whether all words to come are arguments -/
  onlyArguments : Bool
deriving Repr, DecidableEq

namespace Scan

/-- Nothing was read. -/
def empty : Scan := ⟨[], [], .none, false⟩

/-- The value of an option. -/
def value? (s : Scan) (o : OptionName) : Option String := s.options.lookup o

/-- One more option with its value. -/
def store (s : Scan) (o : OptionName) (value : String) : Except Stop Scan :=
  if (s.value? o).isSome then .error (.wrong (.repeated o))
  else if (o.allowed?).any fun values => value ∉ values then .error (.wrong (.invalidValue o value))
  else .ok { s with options := (o, value) :: s.options }

/-- Settles the pending option. -/
def settle (s : Scan) : Except Stop Scan :=
  match s.pending with
  | .none => .ok s
  | .awaiting o => .error (.wrong (.missingValue o))
  | .complete o value => { s with pending := .none }.store o value

/-- An option whose value stands in the same word. -/
def attached (s : Scan) (o : OptionName) (value : String) : Except Stop Scan := do
  let s ← s.settle
  s.store o value

/-- An option alone in its word. -/
def alone (s : Scan) (o : OptionName) : Except Stop Scan := do
  let s ← s.settle
  match o with
  | .help => .error .help
  | .version => .error .version
  | _ => if o.takesValue then .ok { s with pending := .awaiting o } else s.store o ""

/-- A word that begins with two hyphens, without these. -/
def longOption (g : Grammar) (s : Scan) (body : String) : Except Stop Scan :=
  let name := body.toList.takeWhile fun c => c ≠ '='
  let value? := match body.toList.drop name.length with
    | '=' :: value => some (String.ofList value)
    | _ => none
  match g.options.find? fun o => o.long = String.ofList name with
  | none => .error (.wrong (.unknownOption ("--" ++ body)))
  | some o =>
    match value? with
    | none => s.alone o
    | some value =>
      if o.takesValue then s.attached o value else .error (.wrong (.uselessValue o))

/-- A word that begins with one hyphen: a letter, and maybe a value. -/
def shortOption (g : Grammar) (s : Scan) (letter : Char) (behind : List Char) : Except Stop Scan :=
  match g.options.find? fun o => o.short? = some letter with
  | none => .error (.wrong (.unknownOption (String.ofList ['-', letter])))
  | some o =>
    if o.takesValue then
      match behind with
      | [] => s.alone o
      | '=' :: value => s.attached o (String.ofList value)
      | value => s.attached o (String.ofList value)
    else s.alone o

/-- An argument. -/
def argument (g : Grammar) (s : Scan) (word : String) : Except Stop Scan := do
  if s.arguments.length < g.arguments then
    let s ← s.settle
    .ok { s with arguments := word :: s.arguments }
  else .error (.wrong (.unexpected word))

/-- A word that is no option: the value of one, or an argument. -/
def plain (g : Grammar) (s : Scan) (word : String) : Except Stop Scan :=
  match s.pending with
  | .awaiting o => .ok { s with pending := .complete o word }
  | _ => s.argument g word

/-- One more word. -/
def step (g : Grammar) (s : Scan) (word : String) : Except Stop Scan :=
  if s.onlyArguments then s.argument g word
  else
    match word.toList with
    | ['-', '-'] => .ok { s with onlyArguments := true }
    | '-' :: '-' :: body => s.longOption g (String.ofList body)
    | '-' :: letter :: behind => s.shortOption g letter behind
    | _ => s.plain g word

/-- Whether a word begins a new list. -/
def isCommand (g : Grammar) (s : Scan) (word : String) : Bool :=
  let awaiting := match s.pending with
    | .awaiting _ => true
    | _ => false
  !s.onlyArguments && !awaiting && word ∈ g.commands

/-- Reads words up to a command; the result is that and the words behind. -/
def words (g : Grammar) : List String → Scan → Except Stop (Scan × Option (String × List String))
  | [], s => .ok (s, none)
  | word :: rest, s =>
    if s.isCommand g word then .ok (s, some (word, rest))
    else
      match s.step g word with
      | .error stop => .error stop
      | .ok s => words g rest s

end Scan

/-- Reads the words behind a command. -/
def scanCommand (g : Grammar) (rest : List String) : Except Stop Scan := do
  let (s, _) ← Scan.words g rest Scan.empty
  let s ← s.settle
  if s.arguments.length < g.arguments then .error (.wrong .missingArgument) else .ok s

/-- The command `run` with its words. -/
def runCommand (s : Scan) : Except Stop Command :=
  match s.arguments with
  | [input, table] =>
    let format := if s.value? .format = some "json" then ReportFormat.json else .text
    let decoding := (s.value? .decoding).bind Decoding.ofName?
    .ok (.run table input format (s.value? .trace).isSome decoding)
  | _ => .error (.wrong .missingArgument)

/-- The command `check` with its words. -/
def checkCommand (s : Scan) : Except Stop Command :=
  match s.arguments with
  | [table] => .ok (.check table)
  | _ => .error (.wrong .missingArgument)

/-- Reads the words behind `help`: at most the name of one command. -/
def helpFor : List String → Stop
  | [] => .help
  | name :: rest =>
    match rest with
    | [] => if name ∈ Grammar.top.commands then .help else .wrong (.unexpected name)
    | more :: _ => .wrong (.unexpected (if name ∈ Grammar.top.commands then more else name))

/-- Reads a command and the words behind it. -/
def readCommand (name : String) (rest : List String) : Except Stop (Scan × Command) := do
  match name with
  | "run" =>
    let s ← scanCommand .run rest
    .ok (s, ← runCommand s)
  | "check" =>
    let s ← scanCommand .check rest
    .ok (s, ← checkCommand s)
  | _ => .error (helpFor rest)

/-- Reads an invocation. An option that all commands share counts behind the
command, if it is there, and in front of it if not. -/
def readInvocation (list : List String) : Except Stop Invocation := do
  let (top, found) ← Scan.words .top list Scan.empty
  match found with
  | none =>
    let _ ← top.settle
    .error (.wrong .missingCommand)
  | some (name, rest) =>
    let (s, command) ← readCommand name rest
    let top ← top.settle
    let shared (o : OptionName) : Option String := (s.value? o).or (top.value? o)
    .ok ⟨shared .config, shared .logLevel, command⟩

/-- Reads a list of words. -/
def Wish.ofWords (list : List String) : Except UsageError Wish :=
  match readInvocation list with
  | .ok i => .ok (.invocation i)
  | .error .help => .ok .help
  | .error .version => .ok .version
  | .error (.wrong e) => .error e

end LineMachine.CommandLine
