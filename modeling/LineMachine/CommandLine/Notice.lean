import LineMachine.Config.Basic
import LineMachine.Json.Value
import LineMachine.Machine.Inspect

/-!
# `LineMachine.CommandLine.Notice`: the lines of the log

* `Notice` is what the log tells: what the machine reports, and what the
  commands do.
* `levelLimit?` reads the name of a level.
* `LogFilter` says which notices are told.
* `LogFormat.line` writes a notice.
-/

set_option autoImplicit false

namespace LineMachine

/-- The decoding as it is shown in the log. -/
def Decoding.inspect : Decoding → String
  | .utf8 => "Utf8"
  | .utf8Lossy => "Utf8Lossy"
  | .raw => "Raw"

/-- The validation as it is shown in the log. -/
def Validation.inspect : Validation → String
  | .strict => "Strict"
  | .lenient => "Lenient"

/-- The settings of a parse as they are shown in the log. -/
def ParseOptions.inspect (o : ParseOptions) : String :=
  inspectFields "ParseOptions" [("decoding", o.decoding.inspect),
    ("require_empty_stack", toString o.requireEmptyStack), ("trace", toString o.trace)]

namespace CommandLine

/-- What the log tells. -/
inductive Notice where
  /-- a table definition is about to be read -/
  | loading (path : String) (validation : Validation)
  /-- an input is about to be parsed -/
  | parsing (input : String) (options : ParseOptions)
  | machine (r : Report)

namespace Notice

/-- The part of the program that runs the commands. -/
def commandTarget : String := "linestate::cli"

/-- The weight of the notice. -/
def level : Notice → Level
  | .loading _ _ => .debug
  | .parsing _ _ => .debug
  | .machine r => r.level

/-- Where the notice comes from. -/
def target : Notice → String
  | .loading _ _ => commandTarget
  | .parsing _ _ => commandTarget
  | .machine r => r.target

/-- What the notice says. -/
def message : Notice → String
  | .loading _ _ => "loading table"
  | .parsing _ _ => "parsing"
  | .machine r => r.message

/-- The details of the notice. -/
def fields : Notice → List (String × FieldValue)
  | .loading path validation =>
    [("path", .quoted path), ("validation", .text validation.inspect)]
  | .parsing input options => [("input", .text input), ("options", .text options.inspect)]
  | .machine r => r.fields

end Notice

/-! ### Levels -/

/-- Notices of this level and of heavier ones are told; without a level none
are. -/
abbrev LevelLimit := Option Level

/-- The limits by number. -/
def numberedLimits : List LevelLimit :=
  [none, some .error, some .warn, some .info, some .debug, some .trace]

/-- The number that digits stand for, which a plus may precede. -/
def levelNumber? (name : String) : Option Nat :=
  let digits := match name.toList with
    | '+' :: rest => rest
    | cs => cs
  if digits.isEmpty || !digits.all Char.isDigit then none
  else some (digits.foldl (fun n d => 10 * n + (d.toNat - '0'.toNat)) 0)

/-- The name in small letters. -/
def levelWord? : String → Option LevelLimit
  | "" => some (some .error)
  | "off" => some none
  | "error" => some (some .error)
  | "warn" => some (some .warn)
  | "info" => some (some .info)
  | "debug" => some (some .debug)
  | "trace" => some (some .trace)
  | _ => none

/-- The limit with a name or number. -/
def levelLimit? (name : String) : Option LevelLimit :=
  match levelNumber? name with
  | some n => numberedLimits[n]?
  | none => levelWord? (name.map Char.toLower)

/-- Which notices are told, by where they come from. -/
structure LogFilter where
  table : LevelLimit
  engine : LevelLimit
  command : LevelLimit
deriving Repr, DecidableEq

namespace LogFilter

/-- A limit, or the name that is none. -/
def limit (name : String) : Except String LevelLimit :=
  match levelLimit? name with
  | some l => .ok l
  | none => .error name

/-- The limits that a configuration names. The one for all is read first. -/
def ofConfig (c : LogConfig) : Except String LogFilter := do
  let _ ← limit c.level
  let table ← limit (c.levelFor Report.tableTarget)
  let engine ← limit (c.levelFor Report.engineTarget)
  let command ← limit (c.levelFor Notice.commandTarget)
  .ok ⟨table, engine, command⟩

/-- The limit for a target. -/
def limitFor (f : LogFilter) (target : String) : LevelLimit :=
  if target = Report.tableTarget then f.table
  else if target = Report.engineTarget then f.engine
  else f.command

/-- Whether a notice is told. -/
def admits (f : LogFilter) (n : Notice) : Bool :=
  (f.limitFor n.target).any fun l => n.level.rank ≤ l.rank

end LogFilter

/-! ### Formats -/

/-- The value of a field on a line. -/
def fieldText : FieldValue → String
  | .count n => toString n
  | .text s => s
  | .quoted s => Text.quote s

/-- The value of a field as JSON. -/
def fieldJson : FieldValue → Json
  | .count n => .int n
  | .text s => .string s
  | .quoted s => .string s

/-- A name with blanks in front, five characters wide. -/
def levelLabel (l : Level) : String :=
  String.ofList (List.replicate (5 - l.label.length) ' ') ++ l.label

/-- The notice on one line. -/
def Notice.compact (n : Notice) : String :=
  levelLabel n.level ++ " " ++ n.target ++ ": " ++
    " ".intercalate (n.message :: n.fields.map fun (name, v) => name ++ "=" ++ fieldText v)

/-- The notice with its fields behind commas. -/
def Notice.pretty (n : Notice) : String :=
  "  " ++ levelLabel n.level ++ " " ++ n.target ++ ": " ++
    ", ".intercalate (n.message :: n.fields.map fun (name, v) => name ++ ": " ++ fieldText v)

/-- The notice as JSON. -/
def Notice.toJson (n : Notice) : Json :=
  .object [("level", .string n.level.label),
    ("fields", .object (("message", .string n.message) ::
      n.fields.map fun (name, v) => (name, fieldJson v))),
    ("target", .string n.target)]

end CommandLine

/-- The notice in a format. -/
def LogFormat.line : LogFormat → CommandLine.Notice → String
  | .pretty, n => n.pretty
  | .compact, n => n.compact
  | .json, n => n.toJson.render

end LineMachine
