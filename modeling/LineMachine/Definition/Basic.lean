import LineMachine.Machine.Builtin
import LineMachine.Regex.Basic

/-!
# `LineMachine.Definition.Basic`: tables written as data

* `RuleDefinition` and `TableDefinition` are tables as users write them.
* `DefinitionError` is what can be wrong with one.
* `TableDefinition.toBuilder` compiles the patterns.
* `TableDefinition.build` makes the table with the ready-made actions.
-/

set_option autoImplicit false

namespace LineMachine

/-- A rule as data. A rule with neither a literal nor an expression matches
every line. -/
structure RuleDefinition where
  state : String
  literal : Option String
  regex : Option String
  next : Option String
  action : Option String
deriving Repr, DecidableEq

/-- A table as data. -/
structure TableDefinition where
  initial : Option String
  validation : Option Validation
  rules : List RuleDefinition
deriving Repr, DecidableEq

/-- How JSON text fails to be a definition. -/
inductive JsonFailure where
  | malformed
  | truncated
  | data (message : String)
deriving Repr, DecidableEq

/-- What can be wrong with a definition. Rules are counted from 1. -/
inductive DefinitionError where
  /-- the file could not be read -/
  | io (message : String)
  /-- the text is no definition in YAML -/
  | yaml
  /-- the text is no definition in JSON -/
  | json (failure : JsonFailure)
  /-- an expression cannot be read -/
  | invalidRegex (rule : Nat) (state : String) (fault : Regex.Fault)
  /-- a rule has two patterns -/
  | ambiguousPattern (rule : Nat) (state : String)
  | build (e : BuildError)
deriving Repr, DecidableEq

/-- What is wrong with a text that is no expression. -/
def Regex.Fault.message : Regex.Fault → String
  | .groupUnclosed => "unclosed group"
  | .groupUnopened => "unopened group"
  | .groupNameInvalid => "invalid capture group name"
  | .groupNameDuplicate => "duplicate capture group name"
  | .lookAroundUnsupported => "look-around is not supported"
  | .backreferenceUnsupported => "backreferences are not supported"
  | .flagUnrecognized => "unrecognized flag"
  | .flagDuplicate => "duplicate flag"
  | .flagDangling => "dangling flag negation operator"
  | .flagsUnclosed => "expected flag but got end of regex"
  | .repetitionMissing => "repetition operator missing expression"
  | .repetitionCountUnclosed => "unclosed counted repetition"
  | .repetitionCountInvalid => "invalid repetition count range"
  | .decimalInvalid => "invalid decimal"
  | .escapeUnrecognized => "unrecognized escape sequence"
  | .escapeUnfinished => "incomplete escape sequence"
  | .hexInvalid => "invalid hexadecimal escape"
  | .wordBoundaryUnrecognized => "unrecognized word boundary"
  | .classUnclosed => "unclosed character class"
  | .classRangeInvalid => "invalid character class range"
  | .classItemInvalid => "invalid escape sequence in character class"
  | .propertyUnknown => "Unicode property not found"
  | .propertyNotAllowed => "Unicode not allowed here"
  | .notCharacters => "pattern can match invalid UTF-8"
  | .nestedTooDeep => "exceeded the maximum nesting depth"
  | .tooLarge => "compiled expression exceeds the size limit"

/-- What the error says. -/
def DefinitionError.message : DefinitionError → String
  | .io message => s!"failed to read table definition: {message}"
  | .yaml => "invalid YAML table definition: not a table definition"
  | .json .malformed => "invalid JSON table definition: syntax error"
  | .json .truncated => "invalid JSON table definition: unexpected end of text"
  | .json (.data message) => s!"invalid JSON table definition: {message}"
  | .invalidRegex rule state fault =>
    s!"rule {rule} (state `{state}`): invalid regex: {fault.message}"
  | .ambiguousPattern rule state =>
    s!"rule {rule} (state `{state}`): `literal` and `regex` are mutually exclusive"
  | .build e => e.message

namespace RuleDefinition

/-- The pattern of rule number `number`. -/
def pattern (r : RuleDefinition) (number : Nat) : Except DefinitionError Pattern :=
  match r.literal, r.regex with
  | some _, some _ => .error (.ambiguousPattern number r.state)
  | some text, none => .ok (.literal text)
  | none, some source =>
    match Regex.compile source with
    | .ok regex => .ok (.regex regex)
    | .error fault => .error (.invalidRegex number r.state fault)
  | none, none => .ok .any

/-- Rule number `number` with its pattern compiled. -/
def compile (r : RuleDefinition) (number : Nat) : Except DefinitionError Rule := do
  let pattern ← r.pattern number
  .ok ⟨r.state, pattern, r.next, r.action⟩

end RuleDefinition

namespace TableDefinition

/-- The rules with their patterns compiled, counted from `number` on. -/
def compileFrom (number : Nat) : List RuleDefinition → Except DefinitionError (List Rule)
  | [] => .ok []
  | r :: rest => do
    let rule ← r.compile number
    let more ← compileFrom (number + 1) rest
    .ok (rule :: more)

/-- The declaration without actions. `fallback` applies when the definition
names no validation. -/
def toBuilder {δ : Type} (d : TableDefinition) (fallback : Validation) :
    Except DefinitionError (TableBuilder δ) := do
  let rules ← compileFrom 1 d.rules
  .ok ⟨rules, [], d.initial, d.validation.getD fallback⟩

/-- The table with the ready-made actions, and the reports about it. -/
def build (d : TableDefinition) (fallback : Validation) :
    Except DefinitionError (Table Events) × List Report :=
  match (d.toBuilder fallback : Except DefinitionError (TableBuilder Events)) with
  | .error e => (.error e, [])
  | .ok b =>
    match ({ b with actions := builtins } : TableBuilder Events).build with
    | (.error e, log) => (.error (.build e), log)
    | (.ok table, log) => (.ok table, log)

end TableDefinition

end LineMachine
