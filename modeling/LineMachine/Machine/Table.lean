import LineMachine.Machine.Action

/-!
# `LineMachine.Machine.Table`: states and transitions

* `Transition`, `State` and `Table` are the declared graph.
* `lookup`, `get?` and `nameOf` find states.
* `Table.shadowed` lists the transitions that an earlier catch-all hides.
* `Table.stepState` tries the transitions of one state on a line.
* `Table.resolve` consumes a line: as long as an action takes a saved state
  back, the same line is tried again in the state that was chosen.

A table may choose states without end, so `resolve` is told how many states
it may try.
-/

set_option autoImplicit false

namespace LineMachine

/-- An action under the name that it is bound by. -/
structure BoundAction (δ : Type) where
  name : String
  run : Action δ

/-- A test on the line, what runs when it passes, and where it leads. -/
structure Transition (δ : Type) where
  pattern : Pattern
  action : Option (BoundAction δ)
  destination : StateId

/-- A state and its transitions, in the order in which they are tried. -/
structure State (δ : Type) where
  id : StateId
  name : String
  transitions : List (Transition δ)

/-- A transition that can never be taken: an earlier one of the same state
matches every line. Positions count from 0. -/
structure Shadowed where
  state : StateId
  index : Nat
  catchAll : Nat
deriving Repr, DecidableEq

/-- A graph of states, and the one where a parse begins. -/
structure Table (δ : Type) where
  states : List (State δ)
  initial : StateId

/-- A line while it is consumed. -/
structure Line where
  text : String
  number : Nat
deriving Repr, DecidableEq

/-- What a matching transition leads to. -/
inductive Outcome where
  /-- the line is consumed -/
  | settled (next : StateId)
  /-- the line is tried again -/
  | resumed (next : StateId)
deriving Repr, DecidableEq

/-- The state that the outcome names. -/
def Outcome.next : Outcome → StateId
  | .settled next => next
  | .resumed next => next

namespace State

variable {δ : Type}

/-- The position of the first transition that matches every line. -/
def catchAll? (s : State δ) : Option Nat :=
  s.transitions.findIdx? fun t => t.pattern.isAny

/-- The transitions behind the first one that matches every line. -/
def shadowed (s : State δ) : List Shadowed :=
  match s.catchAll? with
  | none => []
  | some first =>
    (List.range' (first + 1) (s.transitions.length - (first + 1))).map fun index =>
      ⟨s.id, index, first⟩

/-- The first transition that matches a line, with its position. -/
def firstMatch? (line : String) : List (Transition δ) → Nat → Option (Nat × Transition δ × Captures)
  | [], _ => none
  | t :: rest, index =>
    match t.pattern.matches? line with
    | some captures => some (index, t, captures)
    | none => firstMatch? line rest (index + 1)

end State

namespace Table

variable {δ : Type}

/-- The state with a number. -/
def get? (t : Table δ) (id : StateId) : Option (State δ) := t.states[id.index]?

/-- Whether the table has a state with this number. -/
def has (t : Table δ) (id : StateId) : Bool := id.index < t.states.length

/-- The state with a name. -/
def lookup (t : Table δ) (name : String) : Option StateId :=
  (t.states.findIdx? fun s => s.name = name).map StateId.mk

/-- The name that is shown for a number that the table does not have. -/
def unknownName : String := "<unknown>"

/-- The name of a state, also of one that the table does not have. -/
def nameOf (t : Table δ) (id : StateId) : String :=
  match t.get? id with
  | some s => s.name
  | none => unknownName

/-- The number of transitions of all states. -/
def transitionCount (t : Table δ) : Nat :=
  t.states.foldl (fun n s => n + s.transitions.length) 0

/-- The transitions that can never be taken. -/
def shadowed (t : Table δ) : List Shadowed := t.states.flatMap State.shadowed

/-- What an action of a transition of `source` knows. -/
def site (t : Table δ) (line : Line) (source destination : StateId) : Site :=
  ⟨source, destination, line.text, line.number, t.lookup, t.nameOf⟩

/-- Takes a transition that matched. Without an action the line is consumed;
an action may choose the next state, and one that took a saved state has the
line tried again. -/
def fire (t : Table δ) (line : Line) (source : StateId) (tr : Transition δ) (captures : Captures)
    (w : Work δ) : Except ParseError Outcome × Work δ :=
  match tr.action with
  | none => (.ok (.settled tr.destination), w)
  | some bound =>
    let ended := (bound.run (t.site line source tr.destination) captures).run
      (t.site line source tr.destination) false w
    match ended.result with
    | .error e => (.error e, ended.work)
    | .ok chosen =>
      let next := chosen.getD tr.destination
      (.ok (if ended.popped then .resumed next else .settled next), ended.work)

/-- Takes the first transition of a state that matches the line. -/
def stepState (t : Table δ) (line : Line) (s : State δ) (w : Work δ) :
    Except ParseError Outcome × Work δ :=
  match State.firstMatch? line.text s.transitions 0 with
  | none => (.error (.unmatchedLine line.number s.name line.text), w)
  | some (rule, tr, captures) =>
    match t.fire line s.id tr captures w with
    | (.error e, w) => (.error e, w)
    | (.ok outcome, w) =>
      (.ok outcome, { w with log := w.log.push (.matched line.number s.name rule tr.pattern) })

/-- Consumes a line from a state on, trying at most `budget` states. The
result is the state behind the line, or `none` when more states were to be
tried. -/
def resolve (t : Table δ) (line : Line) :
    Nat → StateId → Work δ → Option (Except ParseError StateId × Work δ)
  | 0, _, _ => none
  | budget + 1, current, w =>
    match t.get? current with
    | none => some (.error (.unknownState line.number current), w)
    | some s =>
      match t.stepState line s w with
      | (.error e, w) => some (.error e, w)
      | (.ok outcome, w) =>
        if t.has outcome.next then
          match outcome with
          | .settled next => some (.ok next, w)
          | .resumed next => t.resolve line budget next w
        else some (.error (.unknownState line.number outcome.next), w)

end Table

end LineMachine
