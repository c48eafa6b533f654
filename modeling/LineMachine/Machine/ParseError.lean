import LineMachine.Machine.StateId

/-!
# `LineMachine.Machine.ParseError`: why a parse ends early

* `ActionFailure` is an error that an action raises on its own account.
* `ParseError` lists all causes.
* `message`, `kind`, `lineno?`, `actionMessage?` and `causes` describe one.
-/

set_option autoImplicit false

namespace LineMachine

/-- An error that an action raises on its own account. -/
inductive ActionFailure where
  /-- the line is not allowed in the state -/
  | rejected (lineno : Nat) (state line : String)
  /-- any other failure, with the failures that caused it -/
  | custom (message : String) (causes : List String)
deriving Repr, DecidableEq

/-- What the failure says. -/
def ActionFailure.message : ActionFailure → String
  | .rejected lineno state line => s!"line {lineno}: rejected in state `{state}`: {line}"
  | .custom message _ => message

/-- What caused the failure, outermost first. -/
def ActionFailure.causes : ActionFailure → List String
  | .rejected _ _ _ => []
  | .custom _ causes => causes

/-- The kinds of parse errors. -/
inductive ErrorKind where
  | unmatchedLine
  | stackDiscipline
  | action
  | input
deriving Repr, DecidableEq

/-- Why a parse ends early. -/
inductive ParseError where
  /-- no transition of the state matches the line -/
  | unmatchedLine (lineno : Nat) (state line : String)
  /-- a state was to be resumed and none was saved -/
  | emptyStack (lineno : Nat) (line : String)
  /-- the input ended while states were saved -/
  | unbalancedStack (depth : Nat) (states : List String)
  /-- an action chose a state that the table does not have -/
  | unknownState (lineno : Nat) (state : StateId)
  /-- the line is not well-formed text -/
  | decode (lineno : Nat)
  /-- the input could not be read -/
  | io (message : String)
  | action (failure : ActionFailure)
deriving Repr, DecidableEq

namespace ParseError

/-- What the error says. -/
def message : ParseError → String
  | .unmatchedLine lineno state line =>
    s!"line {lineno}: no transition from state `{state}` matches: {line}"
  | .emptyStack lineno line => s!"line {lineno}: pop on empty context stack: {line}"
  | .unbalancedStack depth states =>
    let names := ", ".intercalate states
    s!"input ended with {depth} state(s) on the context stack: {names}"
  | .unknownState lineno state =>
    s!"line {lineno}: action chose state {state.display}, which is not part of this table"
  | .decode lineno => s!"line {lineno}: input is not valid UTF-8"
  | .io message => s!"failed to read input: {message}"
  | .action failure => failure.message

/-- The kind of the error. A state that is not in the table is the mistake
of an action. -/
def kind : ParseError → ErrorKind
  | .unmatchedLine _ _ _ => .unmatchedLine
  | .emptyStack _ _ => .stackDiscipline
  | .unbalancedStack _ _ => .stackDiscipline
  | .unknownState _ _ => .action
  | .decode _ => .input
  | .io _ => .input
  | .action _ => .action

/-- The number of the line that the error is about, if it is about one. -/
def lineno? : ParseError → Option Nat
  | .unmatchedLine lineno _ _ => some lineno
  | .emptyStack lineno _ => some lineno
  | .unknownState lineno _ => some lineno
  | .decode lineno => some lineno
  | _ => none

/-- What the action said, if an action raised the error. -/
def actionMessage? : ParseError → Option String
  | .action failure => some failure.message
  | _ => none

/-- The chain of causes below the error, outermost first. -/
def causes : ParseError → List String
  | .io message => [message]
  | .action failure => failure.causes
  | _ => []

end ParseError

end LineMachine
