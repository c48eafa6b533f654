import LineMachine.Proofs.Definition.Build

/-!
# `LineMachine.Proofs.Builtin.Unwinding`: a line as a recursion on the stack

With the ready-made actions, a line that goes back to saved states is best read
as a recursion on the stack. `Table.unwind` is that reading: it looks up the
first transition of a state, and only `pop` calls it again, with the last saved
state and the rest of the stack.

`Table.resolve` works differently: it is a loop that is told after each try
whether a state was taken. `Table.stepState_unwind` compares one try with one
unfolding of the recursion, and `Table.resolve_unwind` the whole loop.
`TableDefinition.resolve_eq_unwind` states the result for every table of a
definition: the loop ends, and the result, the stack and the events are those
of the recursion.
-/

set_option autoImplicit false

namespace LineMachine

/-- How a line ends: in a state or with an error, and with which saved states,
the last one first, and which events. -/
structure Unwound where
  result : Except ParseError StateId
  stack : List StateId
  events : List Event

namespace Table

open Builtin (Kind)

/-- The first transition of a state, in the order of declaration, whose pattern
passes the line. -/
def rule? (t : Table Events) (line : Line) (current : StateId) :
    Option (Transition Events × Captures) :=
  (t.get? current).bind fun s =>
    s.transitions.findSome? fun tr =>
      (tr.pattern.matches? line.text).map fun captures => (tr, captures)

/-- The event of a match in a state under the name of an action. -/
def eventFor (t : Table Events) (line : Line) (current : StateId) (k : Kind)
    (captures : Captures) : Event :=
  ⟨line.number, k.name, t.nameOf current, captures.toTexts⟩

/-- A line that comes to the state `current`. The transition decides:

- without an action the line ends in the destination;
- `emit` records the match, `push` saves the state, `enter` does both, and the
  line ends in the destination;
- `fail` refuses the line;
- `pop` takes the last saved state and goes on there with the same line. Its
  destination plays no part. -/
def unwind (t : Table Events) (line : Line) (stack : List StateId) (current : StateId)
    (events : List Event) : Unwound :=
  match t.rule? line current with
  | none => ⟨.error (.unmatchedLine line.number (t.nameOf current) line.text), stack, events⟩
  | some (tr, captures) =>
    match tr.kind? with
    | none => ⟨.ok tr.destination, stack, events⟩
    | some .emit =>
      ⟨.ok tr.destination, stack, events ++ [t.eventFor line current .emit captures]⟩
    | some .push => ⟨.ok tr.destination, current :: stack, events⟩
    | some .enter =>
      ⟨.ok tr.destination, current :: stack, events ++ [t.eventFor line current .enter captures]⟩
    | some .fail =>
      ⟨.error (.action (.rejected line.number (t.nameOf current) line.text)), stack, events⟩
    | some .pop =>
      match stack with
      | [] => ⟨.error (.emptyStack line.number line.text), [], events⟩
      | top :: rest => t.unwind line rest top events

variable {t : Table Events} {line : Line} {s : State Events} {id : StateId} {w : Work Events}

/-- The transition that a try takes with `State.firstMatch?` is the first one that passes. The
recursion does not count positions, so they are dropped from the result. -/
theorem findSome?_eq_firstMatch? (text : String) (trs : List (Transition Events)) (k : Nat) :
    (trs.findSome? fun tr => (tr.pattern.matches? text).map fun captures => (tr, captures)) =
      (State.firstMatch? text trs k).map Prod.snd := by
  induction trs generalizing k with
  | nil => rfl
  | cons tr rest ih =>
    rw [List.findSome?_cons, State.firstMatch?]
    cases tr.pattern.matches? text with
    | none => exact ih (k + 1)
    | some captures => rfl

/-- In a state of the table, `Table.rule?` is what `State.firstMatch?` finds, without the
position. It is where the recursion and the loop look at the same transition. -/
theorem rule?_eq (hs : t.get? id = some s) :
    t.rule? line id = (State.firstMatch? line.text s.transitions 0).map Prod.snd := by
  rw [rule?, hs]
  exact findSome?_eq_firstMatch? line.text s.transitions 0

/-- One try of `Table.stepState` and one unfolding of `Table.unwind`. Both settle in the same
state of the table, or both fail with the same error, or both go on with the last saved state and
the rest of the stack. -/
theorem stepState_unwind (line : Line) (w : Work Events) (ht : t.Standard)
    (hs : t.get? id = some s) :
    (∃ (next : StateId) (w' : Work Events),
      t.stepState line s w = (.ok (.settled next), w') ∧ t.has next = true ∧
      t.unwind line w.stack.topDown id w.data.toList =
        ⟨.ok next, w'.stack.topDown, w'.data.toList⟩) ∨
    (∃ (fault : ParseError) (w' : Work Events),
      t.stepState line s w = (.error fault, w') ∧
      t.unwind line w.stack.topDown id w.data.toList =
        ⟨.error fault, w'.stack.topDown, w'.data.toList⟩) ∨
    (∃ (top : StateId) (rest : List StateId) (w' : Work Events),
      w.stack.topDown = top :: rest ∧
      t.stepState line s w = (.ok (.resumed top), w') ∧
      w'.stack.topDown = rest ∧ w'.data = w.data ∧
      t.unwind line w.stack.topDown id w.data.toList = t.unwind line rest top w.data.toList) := by
  have hid : s.id = id := ht.numbered id s hs
  have hname : t.nameOf id = s.name := nameOf_of_get? hs
  have hrule : t.rule? line id = (State.firstMatch? line.text s.transitions 0).map Prod.snd :=
    rule?_eq hs
  cases hfirst : State.firstMatch? line.text s.transitions 0 with
  | none =>
    rw [hfirst] at hrule
    refine .inr (.inl ⟨_, w, stepState_of_none hfirst, ?_⟩)
    rw [unwind.eq_def, hrule, hname]
    rfl
  | some found =>
    obtain ⟨rule, tr, captures⟩ := found
    rw [hfirst] at hrule
    have hmem : tr ∈ s.transitions := State.mem_of_firstMatch? hfirst
    have hdest : t.has tr.destination = true := ht.destination s (mem_of_get? hs) tr hmem
    rcases ht.builtin s (mem_of_get? hs) tr hmem with hnone | ⟨k, hk⟩
    · refine .inl ⟨_, _, stepState_of_fire_ok hfirst (fire_none hnone), hdest, ?_⟩
      rw [unwind.eq_def, hrule]
      simp [Transition.kind?_of_none hnone]
    · have hkind : tr.kind? = some k := Transition.kind?_of_bound hk
      -- Three actions keep the declared destination. The loop reports each match
      -- behind the action, which the recursion does not see.
      cases k with
      | emit =>
        refine .inl ⟨_, _, stepState_of_fire_ok hfirst (fire_emit hk), hdest, ?_⟩
        rw [unwind.eq_def, hrule]
        simp [hkind, Events.toList, Events.push, Builtin.eventOf, eventFor, site, Kind.name, hid]
      | push =>
        refine .inl ⟨_, _, stepState_of_fire_ok hfirst (fire_push hk), hdest, ?_⟩
        rw [unwind.eq_def, hrule]
        simp [hkind, ContextStack.push, hid]
      | enter =>
        refine .inl ⟨_, _, stepState_of_fire_ok hfirst (fire_enter hk), hdest, ?_⟩
        rw [unwind.eq_def, hrule]
        simp [hkind, ContextStack.push, Events.toList, Events.push, Builtin.eventOf, eventFor, site,
          Kind.name, hid]
      | fail =>
        refine .inr (.inl ⟨_, _, stepState_of_fire_error hfirst (fire_fail hk), ?_⟩)
        rw [unwind.eq_def, hrule]
        simp [hkind, hid]
      | pop =>
        -- Only here does the stack decide: without a saved state the line fails.
        cases hstack : w.stack.topDown with
        | nil =>
          refine .inr (.inl ⟨_, _, stepState_of_fire_error hfirst (fire_pop_nil hk hstack), ?_⟩)
          rw [unwind.eq_def, hrule, hstack]
          simp [hkind]
        | cons top rest =>
          refine .inr (.inr ⟨top, rest, _, rfl,
            stepState_of_fire_ok hfirst (fire_pop_cons hk hstack), rfl, rfl, ?_⟩)
          rw [unwind.eq_def, hrule]
          simp [hkind]

/-- The loop `Table.resolve` ends as the recursion `Table.unwind` does. The induction is on the
number of tries: a try that takes a state leaves a shorter stack, so one more try than there are
saved states is enough. -/
theorem resolve_unwind (ht : t.Standard) (line : Line) (stack : List StateId) (budget : Nat)
    (hbudget : stack.length < budget) (start : StateId) (w : Work Events)
    (hstart : t.has start = true) (hstack : ∀ id ∈ stack, t.has id = true)
    (hw : w.stack.topDown = stack) :
    ∃ w', t.resolve line budget start w =
        some ((t.unwind line stack start w.data.toList).result, w') ∧
      w'.stack.topDown = (t.unwind line stack start w.data.toList).stack ∧
      w'.data.toList = (t.unwind line stack start w.data.toList).events := by
  induction budget generalizing stack start w with
  | zero => omega
  | succ budget ih =>
    obtain ⟨s, hs⟩ := (has_iff t start).mp hstart
    rcases stepState_unwind line w ht hs with ⟨next, w', hstep, hnext, hunwind⟩ |
      ⟨fault, w', hstep, hunwind⟩ | ⟨top, rest, w', htop, hstep, hrest, hdata, hunwind⟩
    · rw [hw] at hunwind
      rw [hunwind]
      exact ⟨w', resolve_of_settled budget hs hstep hnext, rfl, rfl⟩
    · rw [hw] at hunwind
      rw [hunwind]
      exact ⟨w', resolve_of_error budget hs hstep, rfl, rfl⟩
    · -- The line goes on in the last saved state, which is one of the table.
      have hsplit : stack = top :: rest := hw.symm.trans htop
      subst hsplit
      have hinside : t.has top = true := hstack top List.mem_cons_self
      have hshorter : rest.length < budget := by
        rw [List.length_cons] at hbudget
        omega
      rw [hw] at hunwind
      rw [hunwind, resolve_of_resumed budget hs hstep hinside, ← hdata]
      exact ih rest hshorter top w' hinside
        (fun id hid => hstack id (List.mem_cons_of_mem top hid)) hrest

end Table

namespace TableDefinition

/-- A line in a table of a definition. It may start in any state of the table, with any states of
the table on the stack. When the loop `Table.resolve` is allowed one more try than there are saved
states, it ends, and the result, the stack and the events are those of the recursion
`Table.unwind`. -/
theorem resolve_eq_unwind {d : TableDefinition} {fallback : Validation} {t : Table Events}
    {log : List Report} (h : d.build fallback = (.ok t, log)) (line : Line) (start : StateId)
    (hstart : t.has start = true) (stack : ContextStack)
    (hstack : ∀ id ∈ stack.topDown, t.has id = true) (events : Events) (reports : Array Report)
    (budget : Nat) (hbudget : stack.depth < budget) :
    ∃ reports', t.resolve line budget start ⟨stack, events, reports⟩ =
      some ((t.unwind line stack.topDown start events.toList).result,
        ⟨⟨(t.unwind line stack.topDown start events.toList).stack⟩,
          ⟨(t.unwind line stack.topDown start events.toList).events.toArray⟩, reports'⟩) := by
  obtain ⟨w', hresolve, hstack', hdata'⟩ := Table.resolve_unwind (standard_of_build h) line
    stack.topDown budget hbudget start ⟨stack, events, reports⟩ hstart hstack rfl
  refine ⟨w'.log, ?_⟩
  rw [hresolve, ← hstack', ← hdata']
  rfl

/-- Three states. `leaf` and `inner` go back on every line that they do not
know, `outer` records such a line. -/
def nestedBlocks : TableDefinition where
  initial := none
  validation := none
  rules :=
    [⟨"outer", some "open", none, some "inner", some "push"⟩,
      ⟨"outer", none, none, none, some "emit"⟩,
      ⟨"inner", some "open", none, some "leaf", some "push"⟩,
      ⟨"inner", none, none, some "leaf", some "pop"⟩,
      ⟨"leaf", none, none, some "leaf", some "pop"⟩]

/-- A line of the table that `nestedBlocks` builds, which leaves two levels at once and is
recorded in the outermost one. The budget is three tries, one more than the two saved states. -/
theorem resolve_eq_unwind_nestedBlocks :
    ∃ t log, nestedBlocks.build .strict = (.ok t, log) ∧ ∃ reports,
      t.resolve ⟨"end", 7⟩ 3 ⟨2⟩ ⟨⟨[⟨1⟩, ⟨0⟩]⟩, Events.empty, #[]⟩ =
        some (.ok ⟨0⟩, ⟨⟨[]⟩, ⟨#[⟨7, "emit", "outer", []⟩]⟩, reports⟩) := by
  refine ⟨_, _, rfl, ?_⟩
  exact @resolve_eq_unwind nestedBlocks .strict _ _ rfl ⟨"end", 7⟩ ⟨2⟩ (by decide)
    ⟨[⟨1⟩, ⟨0⟩]⟩ (by decide) Events.empty #[] 3 (by decide)

end TableDefinition

end LineMachine
