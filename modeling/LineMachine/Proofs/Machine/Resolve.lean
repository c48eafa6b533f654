import LineMachine.Machine.Table

/-!
# `LineMachine.Proofs.Machine.Resolve`: one line, state by state

`Table.resolve` tries one state after the other. The lemmas here say once what
one such try can do, so that later proofs do not open `resolve` again.

* `State.firstMatch?_eq_none_iff` and `State.firstMatch?_eq_some` say which
  transition is taken, and `State.firstMatch?_append_of_some` that transitions
  behind it play no part. `State.mem_shadowed_iff` says which ones are shadowed.
* `Table.resolve_of_error`, `resolve_of_settled`, `resolve_of_resumed` and
  `resolve_of_foreign` are the four ways in which one try ends.
* `Table.resolve_invariant` carries what every try keeps through a line.
* `Table.resolve_add`: a finished answer does not depend on the budget.
* `Table.Passes` relates the points that a line comes through, and
  `Table.resolve_of_passes` leads an answer back from a later point to an
  earlier one.
-/

set_option autoImplicit false

namespace LineMachine

variable {δ : Type}

namespace State

/-- No transition is taken exactly when no pattern passes the line. The position `k` from which
`State.firstMatch?` counts plays no part, so the induction over the transitions leaves it open. -/
theorem firstMatch?_eq_none_iff (line : String) (trs : List (Transition δ)) (k : Nat) :
    firstMatch? line trs k = none ↔ ∀ tr ∈ trs, tr.pattern.matches? line = none := by
  induction trs generalizing k with
  | nil => simp [firstMatch?]
  | cons tr rest ih =>
    simp only [firstMatch?, List.mem_cons, forall_eq_or_imp]
    cases h : tr.pattern.matches? line with
    | none => simpa using ih (k + 1)
    | some captures => simp

/-- The transition that `State.firstMatch?` takes: its pattern passes the line, and no pattern
before it does. Every later fact about positions and captures is read off this one. -/
theorem firstMatch?_eq_some {line : String} {trs : List (Transition δ)} {k rule : Nat}
    {tr : Transition δ} {captures : Captures}
    (h : firstMatch? line trs k = some (rule, tr, captures)) :
    ∃ before after, trs = before ++ tr :: after ∧ rule = k + before.length ∧
      tr.pattern.matches? line = some captures ∧
      ∀ earlier ∈ before, earlier.pattern.matches? line = none := by
  induction trs generalizing k with
  | nil => simp [firstMatch?] at h
  | cons first rest ih =>
    simp only [firstMatch?] at h
    cases hfirst : first.pattern.matches? line with
    | some found =>
      simp only [hfirst, Option.some.injEq, Prod.mk.injEq] at h
      obtain ⟨rfl, rfl, rfl⟩ := h
      exact ⟨[], rest, rfl, rfl, hfirst, by simp⟩
    | none =>
      simp only [hfirst] at h
      obtain ⟨before, after, rfl, rfl, hmatch, hnone⟩ := ih h
      refine ⟨first :: before, after, rfl, ?_, hmatch, ?_⟩
      · rw [List.length_cons]
        omega
      · rintro earlier (_ | ⟨_, hmem⟩)
        · exact hfirst
        · exact hnone earlier hmem

/-- Transitions behind the one that `State.firstMatch?` takes change nothing. This is why appended
rules (`Table.Continues.follows`) leave every line alone that was matched without them. -/
theorem firstMatch?_append_of_some {line : String} {trs : List (Transition δ)} {k : Nat}
    {found : Nat × Transition δ × Captures} (more : List (Transition δ))
    (h : firstMatch? line trs k = some found) : firstMatch? line (trs ++ more) k = some found := by
  induction trs generalizing k with
  | nil => simp [firstMatch?] at h
  | cons tr rest ih =>
    rw [List.cons_append]
    simp only [firstMatch?] at h ⊢
    cases hmatch : tr.pattern.matches? line with
    | some captures =>
      rw [hmatch] at h
      exact h
    | none =>
      rw [hmatch] at h
      exact ih h

/-- The transition that `State.firstMatch?` takes is one of the state, so that what holds of all
transitions of a table, such as `Transition.IsBuiltin`, holds of it. -/
theorem mem_of_firstMatch? {line : String} {trs : List (Transition δ)} {k rule : Nat}
    {tr : Transition δ} {captures : Captures}
    (h : firstMatch? line trs k = some (rule, tr, captures)) : tr ∈ trs := by
  obtain ⟨before, after, rfl, -⟩ := firstMatch?_eq_some h
  simp

/-- A transition is in `State.shadowed` exactly when it stands behind the first one that matches
every line by its form. Reports of a build and the removal of shadowed rules both rest on this. -/
theorem mem_shadowed_iff {s : State δ} {sh : Shadowed} :
    sh ∈ s.shadowed ↔ sh.state = s.id ∧ s.catchAll? = some sh.catchAll ∧
      sh.catchAll < sh.index ∧ sh.index < s.transitions.length := by
  obtain ⟨state, index, catchAll⟩ := sh
  unfold shadowed
  cases hfirst : s.catchAll? with
  | none => simp
  | some first =>
    simp only [List.mem_map, List.mem_range'_1, Shadowed.mk.injEq, Option.some.injEq]
    constructor
    · rintro ⟨i, hi, rfl, rfl, rfl⟩
      exact ⟨rfl, rfl, by omega, by omega⟩
    · rintro ⟨rfl, rfl, hlow, hhigh⟩
      exact ⟨index, by omega, rfl, rfl, rfl⟩

end State

namespace Table

variable {t : Table δ} {line : Line} {s : State δ} {id next : StateId} {w w' : Work δ}

/-! ### The states of a table -/

/-- The test `Table.has` on a number agrees with the search `Table.get?`: the table has a state
exactly when the search finds it. Proofs get the state itself from a test by this. -/
theorem has_iff (t : Table δ) (id : StateId) : t.has id = true ↔ ∃ s, t.get? id = some s := by
  simp only [has, get?, decide_eq_true_eq]
  constructor
  · exact fun h => ⟨_, List.getElem?_eq_getElem h⟩
  · rintro ⟨s, h⟩
    exact (List.getElem?_eq_some_iff.mp h).1

/-- A state that `Table.get?` finds is one that `Table.has` knows, which is the direction of
`has_iff` that is needed most. -/
theorem has_of_get? (h : t.get? id = some s) : t.has id = true := (has_iff t id).mpr ⟨s, h⟩

/-- A state that `Table.get?` finds is among `Table.states`, so that what a build says about all
states of the table can be used for it. -/
theorem mem_of_get? (h : t.get? id = some s) : s ∈ t.states := List.mem_of_getElem? h

/-- The name that `Table.nameOf` shows for a number is the name of its state, and not
`Table.unknownName`, as soon as the table has the state. -/
theorem nameOf_of_get? (h : t.get? id = some s) : t.nameOf id = s.name := by
  simp [nameOf, h]

/-! ### One try -/

/-- A line that no transition of the state passes ends the step as an `unmatchedLine` error, which
names the state and the line. The stack, the data and the log are as before. -/
theorem stepState_of_none (h : State.firstMatch? line.text s.transitions 0 = none) :
    t.stepState line s w = (.error (.unmatchedLine line.number s.name line.text), w) := by
  simp [stepState, h]

/-- An action that fails ends the step with its own error. What it changed before it failed is
kept, and no match is reported, since `Table.stepState` reports behind the action only. -/
theorem stepState_of_fire_error {rule : Nat} {tr : Transition δ} {captures : Captures}
    {e : ParseError} (h : State.firstMatch? line.text s.transitions 0 = some (rule, tr, captures))
    (hfire : t.fire line s.id tr captures w = (.error e, w')) :
    t.stepState line s w = (.error e, w') := by
  simp [stepState, h, hfire]

/-- A transition that could be taken is reported after its action ran. The report stands behind
those of the action, which is the order that `Engine.log_accounts` describes. -/
theorem stepState_of_fire_ok {rule : Nat} {tr : Transition δ} {captures : Captures}
    {outcome : Outcome}
    (h : State.firstMatch? line.text s.transitions 0 = some (rule, tr, captures))
    (hfire : t.fire line s.id tr captures w = (.ok outcome, w')) :
    t.stepState line s w = (.ok outcome,
      { w' with log := w'.log.push (.matched line.number s.name rule tr.pattern) }) := by
  simp [stepState, h, hfire]

/-- A step that fails ends the line in `Table.resolve` with the error of the step, whatever budget
is left. The work `w'` of the failing step is kept. -/
theorem resolve_of_error {e : ParseError} (budget : Nat) (hs : t.get? id = some s)
    (h : t.stepState line s w = (.error e, w')) :
    t.resolve line (budget + 1) id w = some (.error e, w') := by
  simp [resolve, hs, h]

/-- A step that settles on a state of the table ends the line there. This is the only way in which
`Table.resolve` comes to a good result. -/
theorem resolve_of_settled (budget : Nat) (hs : t.get? id = some s)
    (h : t.stepState line s w = (.ok (.settled next), w')) (hnext : t.has next = true) :
    t.resolve line (budget + 1) id w = some (.ok next, w') := by
  simp [resolve, hs, h, Outcome.next, hnext]

/-- A step that took a saved state of the table has the same line tried again there, with one try
less. This is the recursion of `Table.resolve`, and the only one. -/
theorem resolve_of_resumed (budget : Nat) (hs : t.get? id = some s)
    (h : t.stepState line s w = (.ok (.resumed next), w')) (hnext : t.has next = true) :
    t.resolve line (budget + 1) id w = t.resolve line budget next w' := by
  simp [resolve, hs, h, Outcome.next, hnext]

/-- A choice outside of the table ends the line as an `unknownState` error with the chosen
number. `Outcome.next` covers both kinds of choice, so it does not matter whether a saved state
was taken. -/
theorem resolve_of_foreign {outcome : Outcome} (budget : Nat) (hs : t.get? id = some s)
    (h : t.stepState line s w = (.ok outcome, w')) (hnext : t.has outcome.next = false) :
    t.resolve line (budget + 1) id w =
      some (.error (.unknownState line.number outcome.next), w') := by
  simp [resolve, hs, h, hnext]

/-- The four ways in which a finished answer of `Table.resolve` can come about: an error of the
step, a state that it settles on, one that it resumes, or one that is not in the table. Proofs
that go along a line use this in place of the definition. -/
theorem resolve_cases {budget : Nat} {answer : Except ParseError StateId × Work δ}
    (hs : t.get? id = some s) (h : t.resolve line (budget + 1) id w = some answer) :
    (∃ e w', t.stepState line s w = (.error e, w') ∧ answer = (.error e, w')) ∨
    (∃ next w', t.stepState line s w = (.ok (.settled next), w') ∧ t.has next = true ∧
      answer = (.ok next, w')) ∨
    (∃ next w', t.stepState line s w = (.ok (.resumed next), w') ∧ t.has next = true ∧
      t.resolve line budget next w' = some answer) ∨
    (∃ outcome w', t.stepState line s w = (.ok outcome, w') ∧ t.has outcome.next = false ∧
      answer = (.error (.unknownState line.number outcome.next), w')) := by
  rcases hstep : t.stepState line s w with ⟨result, w'⟩
  cases result with
  | error e =>
    rw [resolve_of_error budget hs hstep] at h
    exact .inl ⟨e, w', rfl, (Option.some.inj h).symm⟩
  | ok outcome =>
    cases hnext : t.has outcome.next with
    | false =>
      rw [resolve_of_foreign budget hs hstep hnext] at h
      exact .inr (.inr (.inr ⟨outcome, w', rfl, hnext, (Option.some.inj h).symm⟩))
    | true =>
      cases outcome with
      | settled next =>
        rw [resolve_of_settled budget hs hstep hnext] at h
        exact .inr (.inl ⟨next, w', rfl, hnext, (Option.some.inj h).symm⟩)
      | resumed next =>
        rw [resolve_of_resumed budget hs hstep hnext] at h
        exact .inr (.inr (.inl ⟨next, w', rfl, hnext, h⟩))

/-- What every try keeps, a line keeps, however it ends. The property `P` speaks of the work
alone, and `step` has to show it for `Table.stepState` in any state. -/
theorem resolve_invariant {P : Work δ → Prop} {budget : Nat}
    {result : Except ParseError StateId} (h : t.resolve line budget id w = some (result, w'))
    (step : ∀ (s : State δ) (w : Work δ), P w → P (t.stepState line s w).2) (hw : P w) : P w' := by
  induction budget generalizing id w with
  | zero => simp [resolve] at h
  | succ budget ih =>
    cases hs : t.get? id with
    | none =>
      simp only [resolve, hs, Option.some.injEq, Prod.mk.injEq] at h
      exact h.2 ▸ hw
    | some s =>
      have htry := step s w hw
      -- Only a resumed state is tried again, and the work behind the try has the property.
      rcases resolve_cases hs h with ⟨e, v, hstep, hanswer⟩ | ⟨next, v, hstep, -, hanswer⟩ |
        ⟨next, v, hstep, -, hrest⟩ | ⟨outcome, v, hstep, -, hanswer⟩
      all_goals rw [hstep] at htry
      · cases hanswer
        exact htry
      · cases hanswer
        exact htry
      · exact ih hrest htry
      · cases hanswer
        exact htry

/-- A finished answer does not depend on the budget, since the tries that are left are never
looked at. `Table.resolve_unique` follows, and runs with different budgets can be compared. -/
theorem resolve_add {budget : Nat} {answer : Except ParseError StateId × Work δ} (more : Nat)
    (h : t.resolve line budget id w = some answer) :
    t.resolve line (budget + more) id w = some answer := by
  induction budget generalizing id w with
  | zero => simp [resolve] at h
  | succ budget ih =>
    rw [Nat.succ_add]
    cases hs : t.get? id with
    | none =>
      simp only [resolve, hs] at h ⊢
      exact h
    | some s =>
      rcases resolve_cases hs h with ⟨e, w', hstep, rfl⟩ | ⟨next, w', hstep, hnext, rfl⟩ |
        ⟨next, w', hstep, hnext, hrest⟩ | ⟨outcome, w', hstep, hnext, rfl⟩
      · exact resolve_of_error _ hs hstep
      · exact resolve_of_settled _ hs hstep hnext
      · rw [resolve_of_resumed _ hs hstep hnext]
        exact ih hrest
      · exact resolve_of_foreign _ hs hstep hnext

/-- Two finished answers for the same line are the same, also with different budgets. Both are
answers for the larger budget by `resolve_add`. -/
theorem resolve_unique {budget budget' : Nat} {answer answer' : Except ParseError StateId × Work δ}
    (h : t.resolve line budget id w = some answer)
    (h' : t.resolve line budget' id w = some answer') : answer = answer' := by
  have hl := resolve_add budget' h
  have hr := resolve_add budget h'
  rw [Nat.add_comm budget' budget] at hr
  exact Option.some.inj (hl.symm.trans hr)

/-! ### The points that a line comes through -/

/-- The line comes from one state, with what the actions changed so far, to
another one: every step between them took a saved state back. -/
inductive Passes (t : Table δ) (line : Line) : StateId → Work δ → StateId → Work δ → Prop where
  /-- the point where the line is -/
  | here (id : StateId) (w : Work δ) : Passes t line id w id w
  /-- one more state is tried -/
  | resume {id next last : StateId} {s : State δ} {w w' w'' : Work δ}
      (found : t.get? id = some s) (step : t.stepState line s w = (.ok (.resumed next), w'))
      (inside : t.has next = true) (rest : Passes t line next w' last w'') :
      Passes t line id w last w''

/-- What the line comes to from a later point, it comes to from an earlier one, with a larger
budget. The induction is on `Table.Passes`, and each step of it needs one try more. -/
theorem resolve_of_passes {last : StateId} {budget : Nat}
    {answer : Except ParseError StateId × Work δ} (hp : t.Passes line id w last w')
    (h : t.resolve line budget last w' = some answer) :
    ∃ more, t.resolve line (budget + more) id w = some answer := by
  induction hp with
  | here id w => exact ⟨0, h⟩
  | resume found step inside rest ih =>
    obtain ⟨more, hmore⟩ := ih h
    refine ⟨more + 1, ?_⟩
    rw [← Nat.add_assoc, resolve_of_resumed _ found step inside]
    exact hmore

end Table

end LineMachine
