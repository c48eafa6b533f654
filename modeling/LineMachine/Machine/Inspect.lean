import LineMachine.Machine.Table

/-!
# `LineMachine.Machine.Inspect`: tables in full detail

* `Transition.inspect`, `State.inspect` and `Table.inspect` write out every
  field of a value, with its name.
-/

set_option autoImplicit false

namespace LineMachine

/-- A value with named fields. -/
def inspectFields (kind : String) (fields : List (String × String)) : String :=
  kind ++ " \x7b " ++ ", ".intercalate (fields.map fun row => row.1 ++ ": " ++ row.2) ++ " \x7d"

/-- A list in brackets. -/
def inspectList (items : List String) : String := "[" ++ ", ".intercalate items ++ "]"

variable {δ : Type}

/-- A transition with all its fields. -/
def Transition.inspect (t : Transition δ) : String :=
  let action := match t.action with
    | none => "None"
    | some bound => "Some(" ++ Text.quote bound.name ++ ")"
  inspectFields "Transition"
    [("pattern", t.pattern.inspect), ("action", action), ("destination", t.destination.inspect)]

/-- A state with all its fields. -/
def State.inspect (s : State δ) : String :=
  inspectFields "State"
    [("id", s.id.inspect), ("name", Text.quote s.name),
      ("transitions", inspectList (s.transitions.map Transition.inspect))]

/-- A table with all its fields. -/
def Table.inspect (t : Table δ) : String :=
  inspectFields "Table"
    [("initial", t.initial.inspect), ("states", inspectList (t.states.map State.inspect))]

end LineMachine
