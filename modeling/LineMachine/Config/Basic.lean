import LineMachine.Config.Value
import LineMachine.Definition.Settings

/-!
# `LineMachine.Config.Basic`: the configuration of the tools

* `Config` holds all settings.
* `LogConfig.levelFor` is the level for a part of the machine.
* `Config.defaults` are the settings that hold when none are given, as a
  value over which others are laid.
* `Config.ofValue` converts a value.
-/

set_option autoImplicit false

namespace LineMachine

/-- How the lines of the log look. -/
inductive LogFormat where
  | pretty
  | compact
  | json
deriving Repr, DecidableEq

namespace LogFormat

/-- The name of the format. -/
def name : LogFormat → String
  | .pretty => "pretty"
  | .compact => "compact"
  | .json => "json"

/-- All formats. -/
def all : List LogFormat := [.pretty, .compact, .json]

end LogFormat

/-- What is logged. Levels are texts here; whether they name a level is seen
when the log begins. -/
structure LogConfig where
  level : String
  /-- the level while tables are built -/
  table : Option String
  /-- the level while lines are parsed -/
  engine : Option String
  format : LogFormat
deriving Repr, DecidableEq

/-- The level for a part of the machine: its own, or the one for all. -/
def LogConfig.levelFor (c : LogConfig) (target : String) : String :=
  if target = Report.tableTarget then c.table.getD c.level
  else if target = Report.engineTarget then c.engine.getD c.level
  else c.level

/-- All settings. -/
structure Config where
  /-- applies to tables that do not choose a validation -/
  validation : Validation
  parse : ParseOptions
  log : LogConfig
deriving Repr, DecidableEq

/-- Why there is no configuration. -/
inductive ConfigError where
  /-- a setting has no valid name -/
  | path (name : String)
  /-- a file cannot be read -/
  | fileRead (message : String)
  /-- a file is no TOML -/
  | fileParse (fault : Toml.Fault)
  /-- a setting has no valid value, or none at all -/
  | value (name : String)
deriving Repr, DecidableEq

/-- What the error says. -/
def ConfigError.message : ConfigError → String
  | .path name => s!"invalid setting name `{name}`"
  | .fileRead message => message
  | .fileParse fault => fault.message
  | .value name => s!"invalid value for `{name}`"

namespace Config

/-- The settings that hold when none are given. -/
def defaults : Value :=
  .table [
    ("table", .table [("validation", .text "strict")]),
    ("parse", .table [("decoding", .text "utf8"), ("require_empty_stack", .flag false),
      ("trace", .flag false)]),
    ("log", .table [("level", .text "warn"), ("format", .text "compact")])]

/-- A group of settings. -/
structure Group where
  name : String
  settings : List (String × Value)

/-- The group with a name, whose settings have the given names. -/
def group (root : Value) (name : String) (settings : List String) : Except ConfigError Group :=
  match (root.entries.lookup name).bind (Value.fields? settings) with
  | some found => .ok ⟨name, found⟩
  | none => .error (.value name)

namespace Group

/-- A setting that must be there. -/
def required {α : Type} (g : Group) (read : Value → Option α) (name : String) :
    Except ConfigError α :=
  match (g.settings.lookup name).bind read with
  | some a => .ok a
  | none => .error (.value (g.name ++ "." ++ name))

/-- A setting that has a default. -/
def withDefault {α : Type} (g : Group) (read : Value → Option α) (name : String) (default : α) :
    Except ConfigError α :=
  match g.settings.lookup name with
  | none => .ok default
  | some _ => g.required read name

/-- A setting that may be absent, or explicitly nothing. -/
def optional {α : Type} (g : Group) (read : Value → Option α) (name : String) :
    Except ConfigError (Option α) :=
  match g.settings.lookup name with
  | none => .ok none
  | some .nil => .ok none
  | some _ => (g.required read name).map some

end Group

/-- The group of the settings of a parse. -/
def parseOptions (g : Group) : Except ConfigError ParseOptions := do
  let decoding ← g.withDefault (Value.choice? Decoding.all Decoding.name) "decoding" .utf8
  let requireEmptyStack ← g.withDefault Value.flag? "require_empty_stack" false
  let trace ← g.withDefault Value.flag? "trace" false
  .ok ⟨decoding, requireEmptyStack, trace⟩

/-- The group of the settings of the log. -/
def logConfig (g : Group) : Except ConfigError LogConfig := do
  let level ← g.required Value.text? "level"
  let table ← g.optional Value.text? "table"
  let engine ← g.optional Value.text? "engine"
  let format ← g.required (Value.choice? LogFormat.all LogFormat.name) "format"
  .ok ⟨level, table, engine, format⟩

/-- Converts a value. -/
def ofValue (root : Value) : Except ConfigError Config := do
  let table ← group root "table" ["validation"]
  let validation ← table.required (Value.choice? Validation.all Validation.name) "validation"
  let parse ← group root "parse" ["decoding", "require_empty_stack", "trace"]
  let log ← group root "log" ["level", "table", "engine", "format"]
  .ok ⟨validation, ← parseOptions parse, ← logConfig log⟩

end Config

end LineMachine
