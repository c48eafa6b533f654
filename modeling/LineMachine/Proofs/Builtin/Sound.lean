import LineMachine.Proofs.Builtin.LineEnd
import LineMachine.Proofs.Machine.Safety

/-!
# `LineMachine.Proofs.Builtin.Sound`: what every line keeps

With arbitrary actions the saved states can be any numbers. With the ready-made
ones they cannot: a state is saved only when one of its transitions is taken.

`Engine.Sound` is the invariant: the present state and the saved ones belong to
the table, the saved ones have transitions, and the recorded steps name states
of the table.

* `Engine.Sound.feed` carries it over one line. The line always has an answer,
  and the lemma also tells where and how it ends.
* `Engine.Sound.of_reaches` carries it over every run, lines that fail included,
  and `Engine.Sound.hasRules_of_passes` to every point between two tries.
-/

set_option autoImplicit false

namespace LineMachine

/-- A trace with one more step has this step and those from before. The field `Sound.trace` speaks
of all steps, without their order. -/
theorem Trace.mem_record {t : Trace} {new step : Step} :
    step ∈ (t.record new).toList ↔ step ∈ t.toList ∨ step = new := by
  simp [record, toList]

namespace Table

variable {t : Table Events} {line : Line} {id last : StateId} {w w' : Work Events}

/-- The table has a state with this name. -/
def IsName (t : Table Events) (name : String) : Prop := ∃ s ∈ t.states, s.name = name

/-- The name that is shown for a state of the table is a name of the table in the sense of
`Table.IsName`. -/
theorem isName_of_has (h : t.has id = true) : t.IsName (t.nameOf id) := by
  obtain ⟨s, hs⟩ := (has_iff t id).mp h
  exact ⟨s, mem_of_get? hs, (nameOf_of_get? hs).symm⟩

/-- The points that a line comes through only take saved states. With the ready-made actions a
line that is tried again has saved nothing, by `stack_of_resumed`. -/
theorem Passes.suffix (ht : t.Standard) (h : t.Passes line id w last w') :
    w'.stack.topDown <:+ w.stack.topDown := by
  induction h with
  | here id w => exact List.suffix_rfl
  | resume found step _ _ ih =>
    rw [stack_of_resumed ht found step]
    exact ih.trans (List.suffix_cons _ _)

end Table

namespace Engine

open Table (Unwinds Ends)

/-- What every line keeps:

- `standard`: the table is well-formed and binds ready-made actions only;
- `current`: the present state is one of the table;
- `stack`: the saved states are states of the table with transitions;
- `trace`: the recorded steps name states of the table. -/
structure Sound (e : Engine Events) : Prop where
  standard : e.table.Standard
  current : e.table.has e.current = true
  stack : ∀ id ∈ e.stack.topDown, e.table.HasRules id
  trace : ∀ trace, e.trace = some trace → ∀ step ∈ trace.toList,
    e.table.IsName step.source ∧ e.table.IsName step.destination

variable {e e' : Engine Events}

/-- A parse begins as `Engine.Sound` asks for: nothing is saved or recorded, and `Table.Standard`
has the initial state in the table. -/
theorem sound_start {t : Table Events} (ht : t.Standard) (options : ParseOptions)
    (events : Events) : (start t options events).Sound where
  standard := ht
  current := ht.initial
  stack := by
    intro id hmem
    cases hmem
  trace := by
    intro trace htrace step hstep
    unfold start at htrace
    dsimp only at htrace
    split at htrace
    · cases htrace
      cases hstep
    · cases htrace

/-- The saved states of a sound parse are states of the table, since they even have transitions.
Only this much is needed for a line to find its way back. -/
theorem Sound.has_of_mem (h : e.Sound) : ∀ id ∈ e.stack.topDown, e.table.has id = true :=
  fun id hmem => (h.stack id hmem).has

/-- A line in a sound parse has an answer: it goes back to some state, as `Table.Unwinds` says,
and ends there in one of the ways of `Table.Ends`. The parse behind it is sound again. -/
theorem Sound.feed (h : e.Sound) (extra : Nat) (text : String) :
    ∃ result e' last rest, e.feed extra text = some (result, e') ∧ e'.Sound ∧
      e.table.Unwinds (e.lineOf text) e.current e.stack.topDown last rest ∧
      e.table.Ends (e.lineOf text) last rest result e'.stack.topDown := by
  obtain ⟨result, w, last, rest, hresolve, hunwinds, hends⟩ :=
    Table.resolve_ends h.standard (e.lineOf text) (e.budget extra) e.current e.work
      (e.length_lt_budget extra) h.current h.has_of_mem
  have hfeed : e.feed extra text = some (e.answer text (result, w)) := feed_of_resolve hresolve
  have hsaved : ∀ id ∈ w.stack.topDown, e.table.HasRules id :=
    hends.hasRules fun saved hmem => h.stack saved (hunwinds.suffix.mem hmem)
  cases result with
  | error fault =>
    exact ⟨_, _, last, rest, hfeed, ⟨h.standard, h.current, hsaved, h.trace⟩, hunwinds, hends⟩
  | ok next =>
    have hnext : e.table.has next = true := hends.has h.standard
    refine ⟨_, _, last, rest, hfeed, ⟨h.standard, hnext, hsaved, ?_⟩, hunwinds, hends⟩
    -- Only a line that is consumed is recorded, with the two states around it.
    intro trace htrace step hstep
    obtain ⟨before, hbefore, rfl⟩ := Option.map_eq_some_iff.mp htrace
    rcases Trace.mem_record.mp hstep with hold | rfl
    · exact h.trace before hbefore step hold
    · exact ⟨Table.isName_of_has h.current, Table.isName_of_has hnext⟩

/-- Conversely, where a line can go back and how it ends there is its answer. The recursion
`Table.unwind` gives the same result for both, so there is no other. -/
theorem Sound.feed_of_ends (h : e.Sound) (extra : Nat) {text : String} {last : StateId}
    {rest stack : List StateId} {result : Except ParseError StateId}
    (hunwinds : e.table.Unwinds (e.lineOf text) e.current e.stack.topDown last rest)
    (hends : e.table.Ends (e.lineOf text) last rest result stack) :
    ∃ e', e.feed extra text = some (result, e') := by
  obtain ⟨w, hresolve, -, -⟩ := Table.resolve_unwind h.standard (e.lineOf text) e.stack.topDown
    (e.budget extra) (e.length_lt_budget extra) e.current e.work h.current h.has_of_mem rfl
  have hresult :
      (e.table.unwind (e.lineOf text) e.stack.topDown e.current e.work.data.toList).result =
        result := by
    rw [hunwinds.unwind_eq]
    exact hends.result_eq _
  rw [hresult] at hresolve
  refine ⟨(e.answer text (result, w)).2, ?_⟩
  rw [feed_of_resolve hresolve]
  cases result <;> rfl

/-- A line keeps `Engine.Sound`, whatever its answer is. It is `Sound.feed` for an answer that is
given. -/
theorem Sound.of_feed {extra : Nat} {text : String} {result : Except ParseError StateId}
    (h : e.Sound) (hfeed : e.feed extra text = some (result, e')) : e'.Sound := by
  obtain ⟨result', e'', last, rest, hfeed', hsound, -, -⟩ := h.feed extra text
  rw [hfeed'] at hfeed
  cases hfeed
  exact hsound

/-- Every run keeps `Engine.Sound`, also one with lines that fail, by `Reaches.invariant`. -/
theorem Sound.of_reaches (h : e.Sound) (hr : e.Reaches e') : e'.Sound :=
  hr.invariant (fun _ _ _ _ _ he hfeed => he.of_feed hfeed) h

/-- Also between two tries of one line the saved states have transitions, since the points of
`Table.Passes` have only some of those from before the line. -/
theorem Sound.hasRules_of_passes (h : e.Sound) {text : String} {last : StateId} {w : Work Events}
    (hp : e.table.Passes (e.lineOf text) e.current e.work last w) :
    ∀ id ∈ w.stack.topDown, e.table.HasRules id :=
  fun id hmem => h.stack id ((hp.suffix h.standard).mem hmem)

/-- No line of a sound parse ends with a choice outside of the table: `unknownState` is none of
the errors that `Table.Ends` has. -/
theorem Sound.exists_feed (h : e.Sound) (extra : Nat) (text : String) :
    ∃ result e', e.feed extra text = some (result, e') ∧
      ∀ (number : Nat) (id : StateId), result ≠ .error (.unknownState number id) := by
  obtain ⟨result, e', last, rest, hfeed, -, -, hends⟩ := h.feed extra text
  refine ⟨result, e', hfeed, ?_⟩
  rintro number id rfl
  cases hends

end Engine

end LineMachine
