import LineMachine.Machine.ContextStack
import LineMachine.Machine.Log
import LineMachine.Machine.ParseError

/-!
# `LineMachine.Machine.Action`: what runs when a transition matches

An action is a finite program over a few primitives: it may look at and
change the data of the parse, save states, take saved states back, ask how
many there are, and end with a state of its choice or an error.

* `Script` is such a program, with `bind` to put programs together.
* `Site` is what an action knows before it starts.
* `Action` gives the program for a site and the captures of the match.
* `Work` is what a program can change; `Script.run` runs it.
-/

set_option autoImplicit false

namespace LineMachine

/-- A finite program over data of type `δ` with a result of type `α`. -/
inductive Script (δ α : Type) where
  /-- end with a result -/
  | done (result : α)
  /-- end with an error -/
  | fail (e : ParseError)
  /-- change the data and look at them -/
  | data (change : δ → δ) (next : δ → Script δ α)
  /-- ask for the number of saved states -/
  | depth (next : Nat → Script δ α)
  /-- save a state -/
  | push (id : StateId) (next : Script δ α)
  /-- take the last saved state; the program goes on if there is none -/
  | pop (next : Except ParseError StateId → Script δ α)

namespace Script

variable {δ α β : Type}

/-- Goes on with `f` on the result. -/
def bind (s : Script δ α) (f : α → Script δ β) : Script δ β :=
  match s with
  | .done result => f result
  | .fail e => .fail e
  | .data change next => .data change fun d => (next d).bind f
  | .depth next => .depth fun n => (next n).bind f
  | .push id next => .push id (next.bind f)
  | .pop next => .pop fun r => (next r).bind f

instance : Monad (Script δ) where
  pure := .done
  bind := Script.bind

/-- Changes the data. -/
def modify (change : δ → δ) : Script δ Unit := .data change fun _ => .done ()

/-- The data. -/
def get : Script δ δ := .data id .done

/-- Saves a state. -/
def save (id : StateId) : Script δ Unit := .push id (.done ())

/-- Takes the last saved state, or tells that there is none. -/
def pop? : Script δ (Except ParseError StateId) := .pop .done

/-- Takes the last saved state and fails if there is none. -/
def resume : Script δ StateId :=
  .pop fun
    | .ok id => .done id
    | .error e => .fail e

end Script

/-- What an action knows before it starts. -/
structure Site where
  /-- the state whose transition matched -/
  source : StateId
  /-- the destination that the table gives -/
  destination : StateId
  /-- the line, without its end -/
  line : String
  /-- the number of the line, from 1 on -/
  lineno : Nat
  /-- the state with a name -/
  lookup : String → Option StateId
  /-- the name of a state, also of one that the table does not have -/
  nameOf : StateId → String

/-- What runs when a transition matches. The result is the next state, or
`none` for the destination that the table gives. -/
abbrev Action (δ : Type) := Site → Captures → Script δ (Option StateId)

/-- What actions can change, and the reports so far. -/
structure Work (δ : Type) where
  stack : ContextStack
  data : δ
  log : Array Report

/-- How a program ended, and whether it took a saved state. -/
structure ScriptEnd (δ α : Type) where
  result : Except ParseError α
  popped : Bool
  work : Work δ

/-- Runs a program. `popped` tells whether a saved state was taken before. -/
def Script.run {δ α : Type} (site : Site) :
    Script δ α → Bool → Work δ → ScriptEnd δ α
  | .done result, popped, w => ⟨.ok result, popped, w⟩
  | .fail e, popped, w => ⟨.error e, popped, w⟩
  | .data change next, popped, w =>
    let data := change w.data
    (next data).run site popped { w with data }
  | .depth next, popped, w => (next w.stack.depth).run site popped w
  | .push id next, popped, w =>
    let stack := w.stack.push id
    let report := Report.pushed site.lineno (site.nameOf id) stack.depth
    next.run site popped { w with stack, log := w.log.push report }
  | .pop next, popped, w =>
    match w.stack.pop? with
    | none => (next (.error (.emptyStack site.lineno site.line))).run site popped w
    | some (id, stack) =>
      let report := Report.popped site.lineno (site.nameOf id) stack.depth
      (next (.ok id)).run site true { w with stack, log := w.log.push report }

end LineMachine
