import LineMachine.Machine.Builtin
import LineMachine.Proofs.Machine.Resolve

/-!
# `LineMachine.Proofs.Builtin.Kind`: what the ready-made actions do

A definition can bind five actions only. `Builtin.Kind` names them, and
`Transition.IsBuiltin` says that a transition binds none or one of them.

* `Builtin.Kind.ofName?_name`: the name of an action tells which one it is.
* `Table.fire_none` and the lemmas for the other kinds give the outcome of a
  transition for each kind, with the stack, the events and the reports behind
  it. No later proof runs a script.
-/

set_option autoImplicit false

namespace LineMachine

namespace Builtin

/-- The ready-made actions. -/
inductive Kind where
  | emit
  | push
  | enter
  | pop
  | fail
deriving Repr, DecidableEq

namespace Kind

/-- The name that definitions use. -/
def name : Kind → String
  | .emit => "emit"
  | .push => "push"
  | .enter => "enter"
  | .pop => "pop"
  | .fail => "fail"

/-- What runs. -/
def action : Kind → Action Events
  | .emit => Builtin.emit
  | .push => Builtin.push
  | .enter => Builtin.enter
  | .pop => Builtin.pop
  | .fail => Builtin.fail

/-- The action under its name. -/
def bound (k : Kind) : BoundAction Events := ⟨k.name, k.action⟩

/-- All of them, in the order in which they are registered. -/
def all : List Kind := [.emit, .push, .enter, .pop, .fail]

/-- The action with a name. -/
def ofName? (name : String) : Option Kind := all.find? fun k => k.name = name

/-- The name of an action tells which one it is: no two members of `Kind.all` share one. The
reading of a definition and the account of its log both go by the names. -/
theorem ofName?_name (k : Kind) : ofName? k.name = some k := by
  cases k <;> decide

/-- The registered actions `builtins` are those of `Kind.all` under their names, in this order. It
ties what a definition can bind to the cases of `Kind`. -/
theorem builtins_eq : builtins = all.map fun k => (k.name, k.action) := rfl

end Kind

end Builtin

/-- The transition binds no action or a ready-made one. -/
def Transition.IsBuiltin (tr : Transition Events) : Prop :=
  tr.action = none ∨ ∃ k : Builtin.Kind, tr.action = some k.bound

/-- The kind of action that the transition binds, told by its name. -/
def Transition.kind? (tr : Transition Events) : Option Builtin.Kind :=
  tr.action.bind fun bound => Builtin.Kind.ofName? bound.name

/-- A transition that binds no action has no kind, so `Transition.kind?` is `none` exactly where
`Table.fire_none` says what happens. -/
theorem Transition.kind?_of_none {tr : Transition Events} (h : tr.action = none) :
    tr.kind? = none := by
  simp [kind?, h]

/-- A transition that binds a ready-made action has the kind of this action. Lemmas by kinds
(`event?`, `move`) are computed from the bound action by this. -/
theorem Transition.kind?_of_bound {tr : Transition Events} {k : Builtin.Kind}
    (h : tr.action = some k.bound) : tr.kind? = some k := by
  rw [kind?, h]
  exact k.ofName?_name

/-- Where only ready-made actions are bound, the name of the action tells what is bound. Without
`Transition.IsBuiltin` an action of another kind could have one of their names. -/
theorem Transition.IsBuiltin.kind?_eq_some_iff {tr : Transition Events} (h : tr.IsBuiltin)
    (k : Builtin.Kind) : tr.kind? = some k ↔ tr.action = some k.bound := by
  refine ⟨fun hkind => ?_, Transition.kind?_of_bound⟩
  rcases h with hnone | ⟨k', hk'⟩
  · rw [Transition.kind?_of_none hnone] at hkind
    cases hkind
  · rw [Transition.kind?_of_bound hk', Option.some.injEq] at hkind
    rw [hk', hkind]

namespace Table

variable {t : Table Events} {line : Line} {source : StateId} {tr : Transition Events}
  {captures : Captures} {w : Work Events}

open Builtin (Kind eventOf)

/-- A transition without an action settles on its destination and changes nothing. It is the only
case of `Table.fire` in which no script runs. -/
theorem fire_none (h : tr.action = none) :
    t.fire line source tr captures w = (.ok (.settled tr.destination), w) := by
  simp [fire, h]

/-- The action `Kind.emit` adds one event to the data and settles on the destination of the table.
The stack and the log stay as they are. -/
theorem fire_emit (h : tr.action = some Kind.emit.bound) :
    t.fire line source tr captures w = (.ok (.settled tr.destination),
      { w with
          data := w.data.push (eventOf "emit" (t.site line source tr.destination) captures) }) := by
  simp [fire, h, Kind.bound, Kind.action, Builtin.emit, Script.run]

/-- The action `Kind.push` saves the state whose transition matched, reports it, and settles on
the destination of the table. It adds no event. -/
theorem fire_push (h : tr.action = some Kind.push.bound) :
    t.fire line source tr captures w = (.ok (.settled tr.destination),
      { w with
          stack := w.stack.push source
          log :=
            w.log.push (.pushed line.number (t.nameOf source) (w.stack.push source).depth) }) := by
  simp [fire, h, Kind.bound, Kind.action, Builtin.push, Script.run, site]

/-- The action `Kind.enter` adds one event and saves the state whose transition matched, in this
order, and settles on the destination of the table. -/
theorem fire_enter (h : tr.action = some Kind.enter.bound) :
    t.fire line source tr captures w = (.ok (.settled tr.destination),
      { stack := w.stack.push source
        data := w.data.push (eventOf "enter" (t.site line source tr.destination) captures)
        log :=
          w.log.push (.pushed line.number (t.nameOf source) (w.stack.push source).depth) }) := by
  simp [fire, h, Kind.bound, Kind.action, Builtin.enter, Script.run, site]

/-- The action `Kind.fail` refuses the line with the name of the state, and changes nothing. The
error carries the line and its number, as it was handed to the action. -/
theorem fire_fail (h : tr.action = some Kind.fail.bound) :
    t.fire line source tr captures w =
      (.error (.action (.rejected line.number (t.nameOf source) line.text)), w) := by
  simp [fire, h, Kind.bound, Kind.action, Builtin.fail, Script.run, site]

/-- The action `Kind.pop` fails when no state is saved, with the `emptyStack` error of the line.
Nothing changes, since there is nothing to take. -/
theorem fire_pop_nil (h : tr.action = some Kind.pop.bound) (hstack : w.stack.topDown = []) :
    t.fire line source tr captures w = (.error (.emptyStack line.number line.text), w) := by
  simp [fire, h, Kind.bound, Kind.action, Builtin.pop, Script.run, site, ContextStack.pop?, hstack]

/-- The action `Kind.pop` takes the last saved state, whatever destination the table gives. It is
the only ready-made action whose outcome is `resumed`, so only it has a line tried again. -/
theorem fire_pop_cons {top : StateId} {rest : List StateId}
    (h : tr.action = some Kind.pop.bound) (hstack : w.stack.topDown = top :: rest) :
    t.fire line source tr captures w = (.ok (.resumed top),
      { w with
          stack := ⟨rest⟩
          log := w.log.push (.popped line.number (t.nameOf top) rest.length) }) := by
  simp [fire, h, Kind.bound, Kind.action, Builtin.pop, Script.run, site, ContextStack.pop?, hstack,
    ContextStack.depth]

end Table

end LineMachine
