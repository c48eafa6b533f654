import LineMachine.CommandLine.Notice
import LineMachine.CommandLine.Report
import LineMachine.Config.Loader
import LineMachine.Definition.File

/-!
# `LineMachine.CommandLine.Run`: the commands

A command reads its configuration, begins the log, reads its table, and does
its work. The first thing that goes wrong ends it, with nothing printed.

* `World` is what a command can read, `Exit` is what it leaves behind.
* `loadConfig` and `loadTable` are the common beginning.
* `runCommand` and `checkCommand` are the commands.
* `execute` carries out a list of words.
-/

set_option autoImplicit false

namespace LineMachine.CommandLine

/-- What a command can read. -/
structure World where
  file : String → FileContent
  stdin : List UInt8

/-- What a command leaves behind. -/
structure Exit where
  code : Nat
  stdout : String
  notices : List Notice
  logFormat : LogFormat
  /-- what is said at the end, if something went wrong -/
  failure : Option String

namespace Exit

/-- What is written to standard error. -/
def stderr (e : Exit) : String :=
  String.join (e.notices.map fun n => lineOf (e.logFormat.line n)) ++
    (e.failure.map lineOf).getD ""

/-- An end without a log. -/
def plain (code : Nat) (stdout : String) (failure : Option String) : Exit :=
  ⟨code, stdout, [], .compact, failure⟩

end Exit

/-! ### Configuration -/

/-- The configuration file with a name, or with that name and the extension
`toml`. -/
def configFile (w : World) (name : String) : FileContent :=
  match w.file name with
  | .bytes content => .bytes content
  | _ =>
    match w.file (name ++ ".toml") with
    | .bytes content => .bytes content
    | _ => .missing

/-- The loader with an override, if there is one. -/
def overrideWith (name : String) (value : Option String) (l : Loader) :
    Except ConfigError Loader :=
  match value with
  | none => .ok l
  | some text => l.setOverride name (.text text)

/-- The decoding that a command asks for. -/
def Command.decoding : Command → Option Decoding
  | .run _ _ _ _ decoding => decoding
  | .check _ => none

/-- The configuration of an invocation: the defaults, the file, the options. -/
def loadConfig (w : World) (i : Invocation) : Except ConfigError Config := do
  let l := match i.config with
    | none => Loader.new
    | some name => Loader.new.withFile (configFile w name)
  let l ← overrideWith "log.level" i.logLevel l
  let l ← overrideWith "parse.decoding" (i.command.decoding.map Decoding.name) l
  l.load

/-! ### Tables and inputs -/

/-- The table of a command, and the reports about it. -/
def loadTable (w : World) (path : String) (c : Config) :
    Except DefinitionError (Table Events) × List Report :=
  match TableDefinition.ofFile path (w.file path) with
  | .error e => (.error e, [])
  | .ok d => d.build c.validation

/-- The name that means standard input. -/
def stdinName : String := "-"

/-- The input with a name, or what is said when it cannot be opened. A
directory can be opened, but not read. -/
def openInput (w : World) (name : String) : Except String Text.Source :=
  if name = stdinName then .ok ⟨w.stdin, none⟩
  else
    match w.file name with
    | .bytes content => .ok ⟨content, none⟩
    | .directory => .ok ⟨[], some FileContent.directoryMessage⟩
    | .missing => .error FileContent.missingMessage

/-- The parse of an input from the start. -/
def startEngine (t : Table Events) (c : Config) (trace : Bool) : Engine Events :=
  let engine := Engine.start t c.parse Events.empty
  if trace then engine.recording else engine

/-- Parses an input. The ready-made actions never save a state and take one
back on the same line, so a line tries no more states than are saved when it
comes, and one more. -/
def parseInput (source : Text.Source) (engine : Engine Events) : Answer Events Summary :=
  match engine.parseSource 0 source with
  | some answer => answer
  | none => (.error (.io "out of steps"), engine)

/-! ### Commands -/

/-- What a command did: its notices, and its text or what went wrong. -/
abbrev Account := List Notice × Except String String

/-- Parses an input and reports the result. -/
def runInput (c : Config) (t : Table Events) (input : String) (source : Text.Source)
    (format : ReportFormat) (trace : Bool) : Account :=
  let (result, engine) := parseInput source (startEngine t c trace)
  let notices := Notice.parsing input c.parse :: engine.log.toList.map .machine
  match result with
  | .error e => (notices, .error s!"Parse error in {input}: {e.message}")
  | .ok summary => (notices, .ok (runReport format engine.data summary))

/-- Does the work of a command on its table. -/
def work (w : World) (c : Config) (t : Table Events) : Command → Account
  | .check _ => ([], .ok (tableText t))
  | .run _ input format trace _ =>
    match openInput w input with
    | .error message => ([], .error s!"Failed to open {input}: {message}")
    | .ok source => runInput c t input source format trace

/-- Reads the table of a command and does its work. -/
def tableWork (w : World) (c : Config) (command : Command) : Account :=
  let (table, reports) := loadTable w command.table c
  let notices := Notice.loading command.table c.validation :: reports.map .machine
  match table with
  | .error e => (notices, .error s!"Table error in {command.table}: {e.message}")
  | .ok t =>
    let (more, result) := work w c t command
    (notices ++ more, result)

/-- An invocation whose configuration is at fault. -/
def configFailure (message : String) : Exit :=
  .plain 1 "" (some ("Configuration error: " ++ message))

/-- Carries out an invocation. -/
def invoke (w : World) (i : Invocation) : Exit :=
  match loadConfig w i with
  | .error e => configFailure e.message
  | .ok c =>
    match LogFilter.ofConfig c.log with
    | .error name => configFailure s!"invalid log level `{name}`"
    | .ok filter =>
      let (notices, result) := tableWork w c i.command
      let told := notices.filter filter.admits
      match result with
      | .error message => ⟨1, "", told, c.log.format, some message⟩
      | .ok stdout => ⟨0, stdout, told, c.log.format, none⟩

/-- The name of the program and its version. -/
def versionText : String := "linestate 0.1.0\n"

/-- How the program is used. -/
def usageText : String :=
  "Run table-driven line parsers over text files\n\n" ++
  "Usage: linestate [OPTIONS] <COMMAND>\n\n" ++
  "Commands:\n" ++
  "  run <table> <input>  Parse an input file with a transition table\n" ++
  "  check <table>        Build a transition table and report its states and transitions\n" ++
  "  help                 Print this message\n\n" ++
  "Options:\n" ++
  "  -c, --config <config>        TOML configuration file layered over the defaults\n" ++
  "      --log-level <log-level>  Log level: off, error, warn, info, debug, trace\n" ++
  "  -h, --help                   Print help\n" ++
  "  -V, --version                Print version\n\n" ++
  "Options of run:\n" ++
  "  -f, --format <format>      Output format: text, json\n" ++
  "      --trace                Print every (line, from, to) step\n" ++
  "      --decoding <decoding>  How input bytes become text: utf8, utf8-lossy, raw\n"

/-- Carries out a list of words. -/
def execute (w : World) (words : List String) : Exit :=
  match Wish.ofWords words with
  | .ok .help => .plain 0 usageText none
  | .ok .version => .plain 0 versionText none
  | .ok (.invocation i) => invoke w i
  | .error e => .plain 2 "" (some ("error: " ++ e.message ++ "\n\n" ++ usageText))

/-- The files that a list of words may read. -/
def filesOf (words : List String) : List String :=
  match Wish.ofWords words with
  | .ok (.invocation i) =>
    let configs := match i.config with
      | none => []
      | some name => [name, name ++ ".toml"]
    match i.command with
    | .run table input _ _ _ => configs ++ [table, input]
    | .check table => configs ++ [table]
  | _ => []

/-- Whether a list of words reads standard input. -/
def readsStdin (words : List String) : Bool :=
  match Wish.ofWords words with
  | .ok (.invocation ⟨_, _, .run _ input _ _ _⟩) => input = stdinName
  | _ => false

end LineMachine.CommandLine
