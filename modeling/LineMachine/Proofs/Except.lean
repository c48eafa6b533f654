/-!
# `LineMachine.Proofs.Except`: steps that may end in an error

A definition, a configuration and the options of a command are all read in steps, and the first
error ends the reading. When it ends well, so did every step.

* `bind_eq_ok_iff` takes such a computation apart at its first step. Both the reader of records
  and the one of settings are taken apart by it, one step after the other.
* `map_eq_ok_iff` is the same for a result that is only changed.
* `eq_ok_of_toOption` gets a good result back from an `Option`. Where a result is compared by
  evaluation, only values have to be compared then, and no errors.
-/

set_option autoImplicit false

namespace LineMachine

variable {ε α β : Type} {x : Except ε α}

/-- A computation `x >>= f` ends well exactly if `x` does and `f` ends well on what `x` gives. No
error of either part is a good result, so the type `ε` of the errors does not matter. -/
theorem bind_eq_ok_iff {f : α → Except ε β} {b : β} :
    x >>= f = .ok b ↔ ∃ a, x = .ok a ∧ f a = .ok b := by
  cases x <;> simp [bind, Except.bind]

/-- A mapped result is good exactly if `x` is, and then it is the image of what `x` gives. -/
theorem map_eq_ok_iff {f : α → β} {b : β} : x.map f = .ok b ↔ ∃ a, x = .ok a ∧ f a = b := by
  cases x <;> simp [Except.map]

/-- A computation ends well exactly if `Except.toOption` keeps its result. So it can be decided
whether it does, also where results cannot be compared. -/
theorem exists_eq_ok_iff : (∃ a, x = .ok a) ↔ x.toOption.isSome = true := by
  cases x <;> simp [Except.toOption]

/-- A result that `Except.toOption` keeps is a good one. The evaluation of a whole command on
concrete files ends in such an `Option`, so that it compares values and never errors. -/
theorem eq_ok_of_toOption {a : α} (h : x.toOption = some a) : x = .ok a := by
  cases x with
  | error fault => cases h
  | ok b => exact congrArg Except.ok (Option.some.inj h)

end LineMachine
