/-!
# `LineMachine.Machine.Trace`: the steps of a parse

* `Step` is one line that was consumed.
* `Trace` is the list of them, oldest first.
* `Trace.display` shows one step on each line.
-/

set_option autoImplicit false

namespace LineMachine

/-- A line that was consumed, and the states before and behind it. -/
structure Step where
  lineno : Nat
  source : String
  destination : String
deriving Repr, DecidableEq, Inhabited

/-- The steps of a parse, oldest first. -/
structure Trace where
  steps : Array Step
deriving Repr, DecidableEq, Inhabited

namespace Trace

/-- No step was made. -/
def empty : Trace := ⟨#[]⟩

/-- The trace with one more step. -/
def record (t : Trace) (step : Step) : Trace := ⟨t.steps.push step⟩

/-- The steps, oldest first. -/
def toList (t : Trace) : List Step := t.steps.toList

/-- The number of steps. -/
def size (t : Trace) : Nat := t.steps.size

/-- Whether there is no step. -/
def isEmpty (t : Trace) : Bool := t.steps.isEmpty

/-- The states that the steps led to. -/
def destinations (t : Trace) : List String := t.toList.map Step.destination

/-- One line for each step. -/
def display (t : Trace) : String :=
  String.join (t.toList.map fun step => s!"{step.lineno}: {step.source} -> {step.destination}\n")

end Trace

end LineMachine
