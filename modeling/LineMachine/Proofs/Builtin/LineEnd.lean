import LineMachine.Proofs.Builtin.Unwinding

/-!
# `LineMachine.Proofs.Builtin.LineEnd`: how a line ends

With the ready-made actions a line goes back to saved states for a while and
then ends, in a state that takes it or with an error.

* `Table.Unwinds` relates where a line starts to a state that it comes to by
  going back, with the saved states that are left.
* `Table.Ends` lists the ways in which it ends there, with the saved states
  behind the line.
* `Table.stepState_ends`: one try ends the line or goes back to the last saved
  state, so every line ends (`Table.exists_resolve`). `Table.resolve_induction` is
  the induction over the tries of a line, and `Table.resolve_ends` follows: the loop
  first unwinds and then ends.
* `Table.Unwinds.unwind_eq` and `Table.Ends.result_eq`: conversely, where a line
  unwinds and how it ends there determine its result.
* `Table.HasRules` says that a state has transitions, and `Table.Ends.hasRules`
  that only such states are saved.
-/

set_option autoImplicit false

namespace LineMachine

namespace Table

open Builtin (Kind)

/-- A line comes from one state to another one by going back. Each state on the
way but the last takes it with `pop`, and each time the last saved state is
taken. The lists are the saved states before and behind, the last one first. -/
inductive Unwinds (t : Table Events) (line : Line) :
    StateId → List StateId → StateId → List StateId → Prop where
  /-- the line stays where it is -/
  | here (id : StateId) (stack : List StateId) : Unwinds t line id stack id stack
  /-- the first transition that passes the line goes back -/
  | back {id top last : StateId} {stack rest : List StateId} {tr : Transition Events}
      {captures : Captures} (taken : t.rule? line id = some (tr, captures))
      (bound : tr.action = some Kind.pop.bound) (more : Unwinds t line top stack last rest) :
      Unwinds t line id (top :: stack) last rest

/-- How a line ends in a state: the result, and the saved states behind it.

- `unmatched`: no transition passes the line;
- `settled`: the first one that does binds no action or `emit`;
- `saved`: it binds `push` or `enter`, which save the state;
- `rejected`: it binds `fail`;
- `exhausted`: it binds `pop`, and no saved state is left. -/
inductive Ends (t : Table Events) (line : Line) (id : StateId) (stack : List StateId) :
    Except ParseError StateId → List StateId → Prop where
  | unmatched (untaken : t.rule? line id = none) :
      Ends t line id stack (.error (.unmatchedLine line.number (t.nameOf id) line.text)) stack
  | settled {tr : Transition Events} {captures : Captures}
      (taken : t.rule? line id = some (tr, captures))
      (bound : tr.action = none ∨ tr.action = some Kind.emit.bound) :
      Ends t line id stack (.ok tr.destination) stack
  | saved {tr : Transition Events} {captures : Captures}
      (taken : t.rule? line id = some (tr, captures))
      (bound : tr.action = some Kind.push.bound ∨ tr.action = some Kind.enter.bound) :
      Ends t line id stack (.ok tr.destination) (id :: stack)
  | rejected {tr : Transition Events} {captures : Captures}
      (taken : t.rule? line id = some (tr, captures)) (bound : tr.action = some Kind.fail.bound) :
      Ends t line id stack (.error (.action (.rejected line.number (t.nameOf id) line.text))) stack
  | exhausted {tr : Transition Events} {captures : Captures}
      (taken : t.rule? line id = some (tr, captures)) (bound : tr.action = some Kind.pop.bound)
      (empty : stack = []) : Ends t line id stack (.error (.emptyStack line.number line.text)) stack

variable {t : Table Events} {line : Line} {id : StateId} {tr : Transition Events}
  {captures : Captures}

/-! ### The transition that is taken -/

/-- The transition that `Table.rule?` finds is one of the state, and the state is one of the
table. -/
theorem mem_of_rule? (h : t.rule? line id = some (tr, captures)) :
    ∃ s, t.get? id = some s ∧ tr ∈ s.transitions := by
  obtain ⟨s, hs, hfirst⟩ := Option.bind_eq_some_iff.mp h
  obtain ⟨taken, htaken, hmatch⟩ := List.exists_of_findSome?_eq_some hfirst
  obtain ⟨_, -, hpair⟩ := Option.map_eq_some_iff.mp hmatch
  cases hpair
  exact ⟨s, hs, htaken⟩

/-- No transition of a state is taken exactly when no pattern passes the line, as
`firstMatch?_eq_none_iff` says of the search with positions. -/
theorem rule?_eq_none_iff {s : State Events} (hs : t.get? id = some s) :
    t.rule? line id = none ↔ ∀ tr ∈ s.transitions, tr.pattern.matches? line.text = none := by
  rw [rule?_eq hs, Option.map_eq_none_iff, State.firstMatch?_eq_none_iff]

/-- In a table that is `Table.Standard`, the transition that is taken binds a ready-made action or
none. So the cases of a line are those of `Builtin.Kind`. -/
theorem Standard.isBuiltin_of_rule? (ht : t.Standard) (h : t.rule? line id = some (tr, captures)) :
    tr.IsBuiltin := by
  obtain ⟨s, hs, htr⟩ := mem_of_rule? h
  exact ht.builtin s (mem_of_get? hs) tr htr

/-- Where a line ends well, it leads to a state of the table: `Table.Ends` settles on the
destination of a transition, and in a well-formed table these are all states of it. -/
theorem Ends.has {next : StateId} {stack stack' : List StateId} (ht : t.Standard)
    (h : t.Ends line id stack (.ok next) stack') : t.has next = true := by
  have hdest : ∀ {tr captures}, t.rule? line id = some (tr, captures) →
      t.has tr.destination = true := by
    intro tr captures hrule
    obtain ⟨s, hs, htr⟩ := mem_of_rule? hrule
    exact ht.destination s (mem_of_get? hs) tr htr
  cases h with
  | settled taken => exact hdest taken
  | saved taken => exact hdest taken

/-! ### One try, and the loop -/

/-- One try of `Table.stepState` ends the line in the state as `Table.Ends` says, or it goes back
to the last saved one. The cases are the kinds of actions, and for `pop` whether anything is
saved. -/
theorem stepState_ends (ht : t.Standard) (line : Line) {s : State Events}
    (hs : t.get? id = some s) (w : Work Events) :
    (∃ result w', t.stepState line s w = (result.map .settled, w') ∧
      t.Ends line id w.stack.topDown result w'.stack.topDown) ∨
    ∃ top tr captures w', t.rule? line id = some (tr, captures) ∧
      tr.action = some Kind.pop.bound ∧ t.stepState line s w = (.ok (.resumed top), w') ∧
      w.stack.topDown = top :: w'.stack.topDown := by
  have hid : s.id = id := ht.numbered id s hs
  have hname : t.nameOf id = s.name := nameOf_of_get? hs
  have hrule : t.rule? line id = (State.firstMatch? line.text s.transitions 0).map Prod.snd :=
    rule?_eq hs
  cases hfirst : State.firstMatch? line.text s.transitions 0 with
  | none =>
    rw [hfirst] at hrule
    refine .inl ⟨.error _, w, stepState_of_none hfirst, ?_⟩
    rw [← hname]
    exact .unmatched hrule
  | some found =>
    obtain ⟨rule, tr, captures⟩ := found
    rw [hfirst] at hrule
    rcases ht.isBuiltin_of_rule? hrule with hnone | ⟨k, hk⟩
    · exact .inl ⟨.ok _, _, stepState_of_fire_ok hfirst (fire_none hnone),
        .settled hrule (.inl hnone)⟩
    · -- The state that a try saves or names is told by its own number.
      cases k with
      | emit =>
        exact .inl ⟨.ok _, _, stepState_of_fire_ok hfirst (fire_emit hk),
          .settled hrule (.inr hk)⟩
      | push =>
        refine .inl ⟨.ok _, _, stepState_of_fire_ok hfirst (fire_push hk), ?_⟩
        rw [hid]
        exact .saved hrule (.inl hk)
      | enter =>
        refine .inl ⟨.ok _, _, stepState_of_fire_ok hfirst (fire_enter hk), ?_⟩
        rw [hid]
        exact .saved hrule (.inr hk)
      | fail =>
        refine .inl ⟨.error _, _, stepState_of_fire_error hfirst (fire_fail hk), ?_⟩
        rw [hid]
        exact .rejected hrule hk
      | pop =>
        -- Only here does the stack decide: without a saved state the line ends.
        cases hstack : w.stack.topDown with
        | nil =>
          refine .inl ⟨.error _, _, stepState_of_fire_error hfirst (fire_pop_nil hk hstack), ?_⟩
          rw [hstack]
          exact .exhausted hrule hk rfl
        | cons top rest =>
          exact .inr ⟨top, tr, captures, _, hrule, hk,
            stepState_of_fire_ok hfirst (fire_pop_cons hk hstack), rfl⟩

/-- A try that takes a saved state takes the last one, and it takes one only. Among the cases of
`stepState_ends` it is the only one whose outcome is `resumed`. -/
theorem stack_of_resumed (ht : t.Standard) {s : State Events} {w w' : Work Events}
    {next : StateId} (hs : t.get? id = some s)
    (h : t.stepState line s w = (.ok (.resumed next), w')) :
    w.stack.topDown = next :: w'.stack.topDown := by
  rcases stepState_ends ht line hs w with ⟨result, v, hstep, -⟩ |
    ⟨top, tr, captures, v, -, -, hstep, hstack⟩
  · rw [hstep] at h
    cases result <;> cases h
  · rw [hstep] at h
    cases h
    exact hstack

/-- A line ends, whatever is saved: each state that is taken back leaves one less. It may end over
a number that the table does not have, since the stack is not restricted here. -/
theorem exists_resolve (ht : t.Standard) (line : Line) (id : StateId) {budget : Nat}
    {w : Work Events} (hbudget : w.stack.topDown.length < budget) :
    ∃ found, t.resolve line budget id w = some found := by
  induction budget generalizing id w with
  | zero => omega
  | succ budget ih =>
    cases hs : t.get? id with
    | none =>
      rw [resolve, hs]
      exact ⟨_, rfl⟩
    | some s =>
      rcases hstep : t.stepState line s w with ⟨_ | outcome, v⟩
      · exact ⟨_, resolve_of_error budget hs hstep⟩
      · cases hnext : t.has outcome.next with
        | false => exact ⟨_, resolve_of_foreign budget hs hstep hnext⟩
        | true =>
          cases outcome with
          | settled next => exact ⟨_, resolve_of_settled budget hs hstep hnext⟩
          | resumed next =>
            rw [resolve_of_resumed budget hs hstep hnext]
            -- The saved state that was taken back pays for this try.
            rw [stack_of_resumed ht hs hstep, List.length_cons] at hbudget
            exact ih next (by omega)

/-- What holds of every line that starts in the table, with states of the table saved. The
induction is on the number of tries: a try that goes back leaves a shorter stack, so one more try
than there are saved states is enough. The cases are those of `stepState_ends`. -/
@[elab_as_elim]
theorem resolve_induction (ht : t.Standard) (line : Line)
    {motive : Nat → StateId → Work Events → Prop}
    (ends : ∀ {budget : Nat} {id : StateId} {s : State Events} {w w' : Work Events}
      {result : Except ParseError StateId}, t.get? id = some s →
      t.stepState line s w = (result.map .settled, w') →
      t.Ends line id w.stack.topDown result w'.stack.topDown → motive (budget + 1) id w)
    (back : ∀ {budget : Nat} {id top : StateId} {s : State Events} {w w' : Work Events}
      {tr : Transition Events} {captures : Captures}, t.get? id = some s →
      t.rule? line id = some (tr, captures) → tr.action = some Kind.pop.bound →
      t.stepState line s w = (.ok (.resumed top), w') →
      w.stack.topDown = top :: w'.stack.topDown → t.has top = true →
      motive budget top w' → motive (budget + 1) id w)
    (budget : Nat) (id : StateId) (w : Work Events) (hbudget : w.stack.topDown.length < budget)
    (hid : t.has id = true) (hstack : ∀ saved ∈ w.stack.topDown, t.has saved = true) :
    motive budget id w := by
  induction budget generalizing id w with
  | zero => omega
  | succ budget ih =>
    obtain ⟨s, hs⟩ := (has_iff t id).mp hid
    rcases stepState_ends ht line hs w with ⟨result, w', hstep, hends⟩ |
      ⟨top, tr, captures, w', hrule, hpop, hstep, hsplit⟩
    · exact ends hs hstep hends
    · -- The line goes on in the last saved state, which is one of the table.
      rw [hsplit] at hbudget hstack
      have htop : t.has top = true := hstack top List.mem_cons_self
      have hshorter : w'.stack.topDown.length < budget := by
        rw [List.length_cons] at hbudget
        omega
      exact back hs hrule hpop hstep hsplit htop (ih top w' hshorter htop
        fun saved hmem => hstack saved (List.mem_cons_of_mem top hmem))

/-- The loop `Table.resolve` goes back for a while, as `Table.Unwinds` says, and then ends as
`Table.Ends` says. It is `resolve_induction` with one relation built up in each case. -/
theorem resolve_ends (ht : t.Standard) (line : Line) (budget : Nat) (id : StateId)
    (w : Work Events) (hbudget : w.stack.topDown.length < budget) (hid : t.has id = true)
    (hstack : ∀ saved ∈ w.stack.topDown, t.has saved = true) :
    ∃ result w' last rest, t.resolve line budget id w = some (result, w') ∧
      t.Unwinds line id w.stack.topDown last rest ∧
      t.Ends line last rest result w'.stack.topDown := by
  refine resolve_induction ht line ?_ ?_ budget id w hbudget hid hstack
  · intro budget id s w w' result hs hstep hends
    refine ⟨result, w', id, w.stack.topDown, ?_, .here id _, hends⟩
    cases result with
    | error fault => exact resolve_of_error budget hs hstep
    | ok next => exact resolve_of_settled budget hs hstep (hends.has ht)
  · rintro budget id top s w w' tr captures hs hrule hpop hstep hsplit htop
      ⟨result, w'', last, rest, hresolve, hunwinds, hends⟩
    rw [hsplit]
    refine ⟨result, w'', last, rest, ?_, .back hrule hpop hunwinds, hends⟩
    rw [resolve_of_resumed budget hs hstep htop, hresolve]

/-! ### The recursion -/

/-- The recursion `Table.unwind` on the saved states goes back in the same way as `Table.Unwinds`,
so its value at the start is the one at the state where the line ends. -/
theorem Unwinds.unwind_eq {last : StateId} {stack rest : List StateId}
    (h : t.Unwinds line id stack last rest) (events : List Event) :
    t.unwind line stack id events = t.unwind line rest last events := by
  induction h with
  | here id stack => rfl
  | back taken bound _ ih =>
    rw [unwind.eq_def, taken]
    simp only [Transition.kind?_of_bound bound]
    exact ih

/-- How a line ends in a state is the result of `Table.unwind` there. With `Unwinds.unwind_eq` the
result of the whole line is determined by where it goes back to. -/
theorem Ends.result_eq {result : Except ParseError StateId} {stack stack' : List StateId}
    (h : t.Ends line id stack result stack') (events : List Event) :
    (t.unwind line stack id events).result = result := by
  rw [unwind.eq_def]
  cases h with
  | unmatched untaken => rw [untaken]
  | settled taken bound =>
    rw [taken]
    rcases bound with hnone | hemit
    · simp only [Transition.kind?_of_none hnone]
    · simp only [Transition.kind?_of_bound hemit]
  | saved taken bound =>
    rw [taken]
    rcases bound with hpush | henter
    · simp only [Transition.kind?_of_bound hpush]
    · simp only [Transition.kind?_of_bound henter]
  | rejected taken bound =>
    rw [taken]
    simp only [Transition.kind?_of_bound bound]
  | exhausted taken bound hempty =>
    rw [taken, hempty]
    simp only [Transition.kind?_of_bound bound]

/-! ### What is saved -/

/-- The number is that of a state with transitions. -/
def HasRules (t : Table Events) (id : StateId) : Prop :=
  ∃ s, t.get? id = some s ∧ s.transitions ≠ []

/-- A state with transitions is a state of the table, which is all that the loop asks of a saved
one. -/
theorem HasRules.has (h : t.HasRules id) : t.has id = true := by
  obtain ⟨s, hs, -⟩ := h
  exact has_of_get? hs

/-- A state in which `Table.rule?` finds a transition has one. This is why only states with
transitions are ever saved. -/
theorem hasRules_of_rule? (h : t.rule? line id = some (tr, captures)) : t.HasRules id := by
  obtain ⟨s, hs, htr⟩ := mem_of_rule? h
  exact ⟨s, hs, List.ne_nil_of_mem htr⟩

/-- Going back only takes saved states: those that are left are the lower ones from before, in the
same order. -/
theorem Unwinds.suffix {last : StateId} {stack rest : List StateId}
    (h : t.Unwinds line id stack last rest) : rest <:+ stack := by
  induction h with
  | here id stack => exact List.suffix_rfl
  | back _ _ _ ih => exact ih.trans (List.suffix_cons _ _)

/-- A line that starts in the table, with states of the table saved, stays there while it goes
back. The state where it ends has a name to show, then. -/
theorem Unwinds.has {last : StateId} {stack rest : List StateId}
    (h : t.Unwinds line id stack last rest) (hid : t.has id = true)
    (hstack : ∀ saved ∈ stack, t.has saved = true) : t.has last = true := by
  induction h with
  | here id stack => exact hid
  | back _ _ _ ih =>
    exact ih (hstack _ List.mem_cons_self)
      fun saved hmem => hstack saved (List.mem_cons_of_mem _ hmem)

/-- Where a line ends, the saved states are those that it left, and at most the state itself,
which has transitions by `hasRules_of_rule?`. So `Engine.Sound` is kept by a line. -/
theorem Ends.hasRules {result : Except ParseError StateId} {stack stack' : List StateId}
    (h : t.Ends line id stack result stack') (hstack : ∀ saved ∈ stack, t.HasRules saved) :
    ∀ saved ∈ stack', t.HasRules saved := by
  cases h with
  | saved taken =>
    intro saved hmem
    rcases List.mem_cons.mp hmem with rfl | hold
    · exact hasRules_of_rule? taken
    · exact hstack saved hold
  | unmatched | settled | rejected | exhausted => exact hstack

end Table

end LineMachine
