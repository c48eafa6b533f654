import LineMachine.Machine.Table
import LineMachine.Machine.Trace
import LineMachine.Text.Decoding
import LineMachine.Text.Lines

/-!
# `LineMachine.Machine.Engine`: one parse of one input

* `ParseOptions` are the settings of a parse; `Summary` is what it found.
* `Engine` is a parse under way: a table, and where the parse stands.
* `Engine.feed` consumes one line.
* `Engine.finish` ends the parse.
* `Engine.parse` and `Engine.parseSource` consume an input and finish.

A line is given as many states to try as are saved when it comes, and one
more. Actions that save states while they take others back may need
`extra` states on top; the result is `none` when these do not suffice.
-/

set_option autoImplicit false

namespace LineMachine

/-- The settings of a parse. -/
structure ParseOptions where
  decoding : Decoding
  /-- whether states left on the stack are an error -/
  requireEmptyStack : Bool
  /-- whether the steps are recorded -/
  trace : Bool
deriving Repr, DecidableEq

/-- The settings that hold when none are given. -/
def ParseOptions.default : ParseOptions := ⟨.utf8, false, false⟩

/-- What a finished parse found. -/
structure Summary where
  finalState : String
  lines : Nat
  /-- the states left on the stack, bottom first -/
  stack : List String
  trace : Option Trace
deriving Repr, DecidableEq

/-- A parse under way. -/
structure Engine (δ : Type) where
  table : Table δ
  options : ParseOptions
  current : StateId
  stack : ContextStack
  /-- the last line, without its end -/
  line : String
  /-- how many lines came so far -/
  lineno : Nat
  trace : Option Trace
  /-- what the actions collect -/
  data : δ
  /-- the reports so far, oldest first -/
  log : Array Report

/-- What an operation found, and the parse behind it. -/
abbrev Answer (δ α : Type) := Except ParseError α × Engine δ

namespace Engine

variable {δ : Type}

/-- A parse that is about to begin. -/
def start (table : Table δ) (options : ParseOptions) (data : δ) : Engine δ where
  table := table
  options := options
  current := table.initial
  stack := ContextStack.empty
  line := ""
  lineno := 0
  trace := if options.trace then some Trace.empty else none
  data := data
  log := #[]

/-- The parse with its steps recorded from here on. What was recorded before
is kept. -/
def recording (e : Engine δ) : Engine δ :=
  { e with
    options := { e.options with trace := true }
    trace := some (e.trace.getD Trace.empty) }

/-- The name of the present state. -/
def currentName (e : Engine δ) : String := e.table.nameOf e.current

/-- The parse with a new line to consume. -/
def take (e : Engine δ) (line : String) : Engine δ :=
  { e with lineno := e.lineno + 1, line := Text.stripTerminator line }

/-- The parse after its line led to `next`. -/
def settle (e : Engine δ) (next : StateId) : Engine δ :=
  let source := e.table.nameOf e.current
  let destination := e.table.nameOf next
  { e with
    current := next
    trace := e.trace.map fun t => t.record ⟨e.lineno, source, destination⟩
    log := e.log.push (.stepped e.lineno source destination) }

/-- The parse with what the actions changed. -/
def withWork (e : Engine δ) (w : Work δ) : Engine δ :=
  { e with stack := w.stack, data := w.data, log := w.log }

/-- Consumes one line. After an error the present state and the trace are as
before, but the line counts. -/
def feed (extra : Nat) (line : String) (e : Engine δ) : Option (Answer δ StateId) :=
  let e := e.take line
  let budget := e.stack.depth + 1 + extra
  match e.table.resolve ⟨e.line, e.lineno⟩ budget e.current ⟨e.stack, e.data, e.log⟩ with
  | none => none
  | some (.error fault, w) => some (.error fault, e.withWork w)
  | some (.ok next, w) => some (.ok next, (e.withWork w).settle next)

/-- Ends the parse. -/
def finish (e : Engine δ) : Answer δ Summary :=
  let stack := e.stack.bottomUp.map e.table.nameOf
  if !stack.isEmpty && e.options.requireEmptyStack then
    (.error (.unbalancedStack stack.length stack), e)
  else
    let leftover := if stack.isEmpty then #[] else #[Report.leftover stack.length stack]
    let log := e.log ++ leftover ++ #[Report.finished e.lineno e.currentName]
    (.ok ⟨e.currentName, e.lineno, stack, e.trace⟩, { e with log })

/-- Consumes lines until one fails, and finishes if none does. -/
def parse (extra : Nat) : List String → Engine δ → Option (Answer δ Summary)
  | [], e => some e.finish
  | line :: rest, e =>
    match e.feed extra line with
    | none => none
    | some (.error fault, e) => some (.error fault, e)
    | some (.ok _, e) => e.parse extra rest

/-- Consumes what a reader delivers, line by line, and finishes. -/
def parseItems (extra : Nat) :
    List (Except String (List UInt8)) → Engine δ → Option (Answer δ Summary)
  | [], e => some e.finish
  | .error message :: _, e => some (.error (.io message), e)
  | .ok bytes :: rest, e =>
    match e.options.decoding.decode bytes with
    | none => some (.error (.decode (e.lineno + 1)), e)
    | some text =>
      match e.feed extra text with
      | none => none
      | some (.error fault, e) => some (.error fault, e)
      | some (.ok _, e) => e.parseItems extra rest

/-- Consumes the lines of an input in the decoding of the options, and
finishes. -/
def parseSource (extra : Nat) (source : Text.Source) (e : Engine δ) :
    Option (Answer δ Summary) :=
  e.parseItems extra source.lines

end Engine

end LineMachine
