import LineMachine.Machine.TableBuilder

/-!
# `LineMachine.Machine.Builtin`: ready-made actions

* `push` saves the state, `pop` goes back to the last saved one, `fail`
  refuses the line.
* `emit` records the match as an `Event`, and `enter` also saves the state.
* `builtins` lists all five under their names.
-/

set_option autoImplicit false

namespace LineMachine

/-- A match that was recorded. -/
structure Event where
  lineno : Nat
  action : String
  state : String
  groups : List String
deriving Repr, DecidableEq

/-- The recorded matches, oldest first. -/
structure Events where
  toArray : Array Event
deriving Repr, DecidableEq

namespace Events

/-- Nothing was recorded. -/
def empty : Events := ⟨#[]⟩

/-- One more match. -/
def push (events : Events) (event : Event) : Events := ⟨events.toArray.push event⟩

/-- The matches, oldest first. -/
def toList (events : Events) : List Event := events.toArray.toList

/-- The number of matches. -/
def size (events : Events) : Nat := events.toArray.size

/-- Whether nothing was recorded. -/
def isEmpty (events : Events) : Bool := events.toArray.isEmpty

end Events

namespace Builtin

variable {δ : Type}

/-- Saves the state whose transition matched. -/
def push : Action δ := fun site _ => .push site.source (.done none)

/-- Goes back to the last saved state, where the line is tried again. -/
def pop : Action δ := fun _ _ =>
  .pop fun
    | .ok id => .done (some id)
    | .error e => .fail e

/-- Refuses the line. -/
def fail : Action δ := fun site _ =>
  .fail (.action (.rejected site.lineno (site.nameOf site.source) site.line))

/-- The record of a match under the name of an action. -/
def eventOf (name : String) (site : Site) (captures : Captures) : Event :=
  ⟨site.lineno, name, site.nameOf site.source, captures.toTexts⟩

/-- Records the match. -/
def emit : Action Events := fun site captures =>
  .data (fun events => events.push (eventOf "emit" site captures)) fun _ => .done none

/-- Records the match and saves the state. -/
def enter : Action Events := fun site captures =>
  .data (fun events => events.push (eventOf "enter" site captures)) fun _ =>
    .push site.source (.done none)

end Builtin

/-- The ready-made actions under the names that definitions use. -/
def builtins : List (String × Action Events) :=
  [("emit", Builtin.emit), ("push", Builtin.push), ("enter", Builtin.enter),
    ("pop", Builtin.pop), ("fail", Builtin.fail)]

end LineMachine
