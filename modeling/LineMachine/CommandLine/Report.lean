import LineMachine.CommandLine.Arguments
import LineMachine.Json.Value
import LineMachine.Machine.Builtin

/-!
# `LineMachine.CommandLine.Report`: what the commands print

* `runText` and `runJson` are the two forms of the result of a run.
* `tableText` lists the states of a table.
-/

set_option autoImplicit false

namespace LineMachine.CommandLine

/-- A line of text. -/
def lineOf (text : String) : String := text ++ "\n"

/-! ### Runs -/

/-- A recorded match: its columns with tabs between them. -/
def eventLine (e : Event) : String :=
  lineOf ("\t".intercalate (toString e.lineno :: e.state :: e.action :: e.groups))

/-- The states left on the stack, if there are any. -/
def stackLine (stack : List String) : String :=
  if stack.isEmpty then "" else lineOf ("stack: " ++ ", ".intercalate stack)

/-- The recorded steps, if they were recorded. -/
def traceLines : Option Trace → String
  | none => ""
  | some t => lineOf "trace:" ++ t.display

/-- The summary of a run. -/
def summaryText (s : Summary) : String :=
  lineOf ("final state: " ++ s.finalState) ++ lineOf ("lines: " ++ toString s.lines) ++
    stackLine s.stack ++ traceLines s.trace

/-- The result of a run as lines of text. -/
def runText (events : Events) (s : Summary) : String :=
  String.join (events.toList.map eventLine) ++ summaryText s

/-- A recorded match as JSON. -/
def eventJson (e : Event) : Json :=
  .object [("lineno", .int e.lineno), ("action", .string e.action), ("state", .string e.state),
    ("groups", .array (e.groups.map .string))]

/-- The recorded steps as JSON. -/
def traceJson : Option Trace → Json
  | none => .null
  | some t => .array (t.toList.map fun step =>
    .object [("lineno", .int step.lineno), ("from", .string step.source),
      ("to", .string step.destination)])

/-- The summary of a run as JSON. -/
def summaryJson (s : Summary) : Json :=
  .object [("final_state", .string s.finalState), ("lines", .int s.lines),
    ("stack", .array (s.stack.map .string)), ("trace", traceJson s.trace)]

/-- The result of a run as JSON. -/
def runJson (events : Events) (s : Summary) : Json :=
  .object [("events", .array (events.toList.map eventJson)), ("summary", summaryJson s)]

/-- The result of a run in a format. -/
def runReport : ReportFormat → Events → Summary → String
  | .text, events, s => runText events s
  | .json, events, s => lineOf (runJson events s).pretty

/-! ### Tables -/

/-- A transition: its test, where it leads, and its action. -/
def transitionLine {δ : Type} (t : Table δ) (tr : Transition δ) : String :=
  let action := match tr.action with
    | none => ""
    | some bound => " [" ++ bound.name ++ "]"
  lineOf ("  " ++ tr.pattern.display ++ " -> " ++ t.nameOf tr.destination ++ action)

/-- A state with its transitions. -/
def stateLines {δ : Type} (t : Table δ) (s : State δ) : String :=
  lineOf s.name ++ String.join (s.transitions.map (transitionLine t))

/-- A warning about a transition that can never be taken. Transitions are
counted from 1. -/
def shadowedLine {δ : Type} (t : Table δ) (s : Shadowed) : String :=
  lineOf (s!"warning: state `{t.nameOf s.state}` transition {s.index + 1} is unreachable " ++
    s!"after catch-all transition {s.catchAll + 1}")

/-- The states of a table, and the warnings about it. -/
def tableText {δ : Type} (t : Table δ) : String :=
  lineOf ("initial: " ++ t.nameOf t.initial) ++
    lineOf s!"states: {t.states.length}, transitions: {t.transitionCount}" ++
    String.join (t.states.map (stateLines t)) ++ String.join (t.shadowed.map (shadowedLine t))

end LineMachine.CommandLine
