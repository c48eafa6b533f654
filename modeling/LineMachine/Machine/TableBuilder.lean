import LineMachine.Machine.Table

/-!
# `LineMachine.Machine.TableBuilder`: tables from declared rules

A table is declared by rules, each with a source state, a pattern, and
maybe a destination and an action. The source states are numbered in the
order in which they first occur.

* `Rule` is one row of the declaration.
* `TableBuilder` collects rules, named actions and settings.
* `BuildError` lists what can be wrong with them.
* `TableBuilder.build` makes the table and the reports about it.
-/

set_option autoImplicit false

namespace LineMachine

/-- What becomes of a destination without rules of its own. -/
inductive Validation where
  /-- it is an error -/
  | strict
  /-- it becomes a state without transitions -/
  | lenient
deriving Repr, DecidableEq, Inhabited

/-- One row of the declaration. Without a destination the machine stays in
the state. -/
structure Rule where
  state : String
  pattern : Pattern
  destination : Option String
  action : Option String

/-- What can be wrong with a declaration. -/
inductive BuildError where
  | empty
  | duplicateAction (action : String)
  | danglingDestination (state destination : String)
  | unknownInitial (state : String)
  | unknownAction (state action : String)
deriving Repr, DecidableEq

/-- What the error says. -/
def BuildError.message : BuildError → String
  | .empty => "transition table has no rules"
  | .duplicateAction action => s!"action `{action}` is registered more than once"
  | .danglingDestination state destination =>
    s!"state `{state}` transitions to undeclared state `{destination}`"
  | .unknownInitial state => s!"initial state `{state}` has no rules"
  | .unknownAction state action => s!"state `{state}` binds unknown action `{action}`"

/-- A declaration in the making. -/
structure TableBuilder (δ : Type) where
  rules : List Rule
  actions : List (String × Action δ)
  initial : Option String
  validation : Validation

namespace TableBuilder

variable {δ : Type}

/-- Nothing is declared. -/
def empty : TableBuilder δ := ⟨[], [], none, .strict⟩

/-- Registers an action under a name. -/
def addAction (b : TableBuilder δ) (name : String) (action : Action δ) : TableBuilder δ :=
  { b with actions := b.actions ++ [(name, action)] }

/-- Declares one more rule. -/
def addRule (b : TableBuilder δ) (rule : Rule) : TableBuilder δ :=
  { b with rules := b.rules ++ [rule] }

/-- Declares more rules, in order. -/
def addRules (b : TableBuilder δ) (rules : List Rule) : TableBuilder δ :=
  { b with rules := b.rules ++ rules }

/-- Sets the state where a parse begins. -/
def setInitial (b : TableBuilder δ) (state : String) : TableBuilder δ :=
  { b with initial := some state }

/-- Sets what becomes of destinations without rules. -/
def setValidation (b : TableBuilder δ) (validation : Validation) : TableBuilder δ :=
  { b with validation }

/-- The first element that repeats an earlier one. -/
def firstRepeated? (seen : List String) : List String → Option String
  | [] => none
  | name :: rest => if name ∈ seen then some name else firstRepeated? (name :: seen) rest

/-- The names that do not occur in `seen`, each once, in order of first
occurrence. -/
def distinct (seen : List String) : List String → List String
  | [] => []
  | name :: rest =>
    if name ∈ seen then distinct seen rest else name :: distinct (name :: seen) rest

/-- The states with rules, in order of first declaration. -/
def sources (b : TableBuilder δ) : List String := distinct [] (b.rules.map Rule.state)

/-- The rules that lead to a state without rules, with that state. -/
def dangling (b : TableBuilder δ) : List (String × String) :=
  b.rules.filterMap fun rule =>
    rule.destination.bind fun destination =>
      if destination ∈ b.sources then none else some (rule.state, destination)

/-- The rules that are the first to mention a state without rules, with that
state. -/
def placeholderRules (seen : List String) : List (String × String) → List (String × String)
  | [] => []
  | (state, destination) :: rest =>
    if destination ∈ seen then placeholderRules seen rest
    else (state, destination) :: placeholderRules (destination :: seen) rest

/-- The first mentions of the states without rules. -/
def placeholders (b : TableBuilder δ) : List (String × String) := placeholderRules [] b.dangling

/-- The names of all states, in the order of their numbers: those with rules
first, then those without. -/
def stateNames (b : TableBuilder δ) : List String := b.sources ++ b.placeholders.map Prod.snd

/-- The number of the state with a name. -/
def idOf (names : List String) (name : String) : StateId := ⟨names.idxOf name⟩

/-- The state where a parse begins: the one that was set, which must have
rules, or else that of the first rule. -/
def initialState (b : TableBuilder δ) (first : Rule) : Except BuildError String :=
  match b.initial with
  | none => .ok first.state
  | some name => if name ∈ b.sources then .ok name else .error (.unknownInitial name)

/-- The action that a rule binds. -/
def bindAction (b : TableBuilder δ) (rule : Rule) : Except BuildError (Option (BoundAction δ)) :=
  match rule.action with
  | none => .ok none
  | some name =>
    match b.actions.find? fun row => row.1 = name with
    | some row => .ok (some ⟨name, row.2⟩)
    | none => .error (.unknownAction rule.state name)

/-- The transition that a rule declares. -/
def bindRule (b : TableBuilder δ) (names : List String) (rule : Rule) :
    Except BuildError (Transition δ) := do
  let action ← b.bindAction rule
  .ok ⟨rule.pattern, action, idOf names (rule.destination.getD rule.state)⟩

/-- The transitions of all rules, each with its source state. -/
def bindRules (b : TableBuilder δ) (names : List String) :
    List Rule → Except BuildError (List (String × Transition δ))
  | [] => .ok []
  | rule :: rest => do
    let transition ← b.bindRule names rule
    let more ← b.bindRules names rest
    .ok ((rule.state, transition) :: more)

/-- The states with these names, numbered from `next` on, each with its
transitions in order. -/
def makeStates (bound : List (String × Transition δ)) : Nat → List String → List (State δ)
  | _, [] => []
  | next, name :: rest =>
    ⟨⟨next⟩, name, (bound.filter fun row => row.1 = name).map Prod.snd⟩ ::
      makeStates bound (next + 1) rest

/-- The table of the rules, once the destinations are known to be in
order. -/
def assemble (b : TableBuilder δ) (first : Rule) : Except BuildError (Table δ) := do
  let initial ← b.initialState first
  let bound ← b.bindRules b.stateNames b.rules
  .ok ⟨makeStates bound 0 b.stateNames, idOf b.stateNames initial⟩

/-- The reports about the transitions of a table that can never be taken. -/
def shadowReports (t : Table δ) : List Report :=
  t.states.flatMap fun s =>
    s.shadowed.filterMap fun sh =>
      s.transitions[sh.index]?.map fun tr => .shadowed s.name sh.index tr.pattern sh.catchAll

/-- The reports about a complete table. -/
def tableReports (t : Table δ) : List Report :=
  shadowReports t ++ [.built t.states.length t.transitionCount (t.nameOf t.initial)]

/-- The reports about the states that were added for want of rules. -/
def placeholderReports (b : TableBuilder δ) : List Report :=
  b.placeholders.map fun row => .placeholder row.1 row.2

/-- Makes the table, with the reports about it. Faults are looked for in a
fixed order: no rules, an action registered twice, a destination without
rules where these are required, the initial state, an action that was never
registered. -/
def build (b : TableBuilder δ) : Except BuildError (Table δ) × List Report :=
  match b.rules with
  | [] => (.error .empty, [])
  | first :: _ =>
    match firstRepeated? [] (b.actions.map Prod.fst) with
    | some name => (.error (.duplicateAction name), [])
    | none =>
      match b.validation, b.dangling with
      | .strict, (state, destination) :: _ => (.error (.danglingDestination state destination), [])
      | _, _ =>
        match b.assemble first with
        | .error e => (.error e, b.placeholderReports)
        | .ok t => (.ok t, b.placeholderReports ++ tableReports t)

end TableBuilder

end LineMachine
