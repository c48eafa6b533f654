import LineMachine.Machine.StateId

/-!
# `LineMachine.Machine.ContextStack`: states to come back to

* `ContextStack` is a stack of states.
* `push`, `pop?` and `peek?` work on its top; `bottomUp` is its view from
  the bottom.
-/

set_option autoImplicit false

namespace LineMachine

/-- The states that were saved, the last one first. -/
structure ContextStack where
  topDown : List StateId
deriving Repr, DecidableEq, Inhabited

namespace ContextStack

/-- No state is saved. -/
def empty : ContextStack := ⟨[]⟩

/-- Saves a state. -/
def push (s : ContextStack) (id : StateId) : ContextStack := ⟨id :: s.topDown⟩

/-- Takes the last saved state. -/
def pop? (s : ContextStack) : Option (StateId × ContextStack) :=
  match s.topDown with
  | [] => none
  | top :: rest => some (top, ⟨rest⟩)

/-- The last saved state. -/
def peek? (s : ContextStack) : Option StateId := s.topDown.head?

/-- The number of saved states. -/
def depth (s : ContextStack) : Nat := s.topDown.length

/-- Whether no state is saved. -/
def isEmpty (s : ContextStack) : Bool := s.topDown.isEmpty

/-- The saved states, the first one first. -/
def bottomUp (s : ContextStack) : List StateId := s.topDown.reverse

end ContextStack

end LineMachine
