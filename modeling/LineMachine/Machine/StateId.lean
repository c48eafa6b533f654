/-!
# `LineMachine.Machine.StateId`: numbers of states

* `StateId` is the position of a state in its table. It means something for
  that table only.
-/

set_option autoImplicit false

namespace LineMachine

/-- The position of a state in its table. -/
structure StateId where
  index : Nat
deriving Repr, DecidableEq, Inhabited

namespace StateId

/-- The number as shown to users. -/
def display (id : StateId) : String := s!"#{id.index}"

/-- The number with its kind. -/
def inspect (id : StateId) : String := s!"StateId({id.index})"

end StateId

end LineMachine
