import LineMachine.Proofs.Builtin.Sound
import LineMachine.Proofs.Definition.Outcome

/-!
# `LineMachine.Proofs.Definition.CatchAll`: tables that know every line

A rule without a pattern matches every line, wherever it stands among the rules of its state. If
every state has one, no line is unmatched. What can still go wrong is what rules ask for: `fail`
refuses a line, and `pop` needs a saved state.

* `Table.CatchesAll` says that every state has such a transition, and `Table.Binds` that some
  transition binds an action. `TableDefinition.carried_of_build` reads both off the rules.
* `Table.CatchesAll.ends`: a line can end in three ways only, in any state that it comes to.
* `Engine.Sound.feed_of_catchesAll` is the step over one line. It rests on the invariant that the
  present state and the saved ones are states of the table, so that a line which goes back always
  comes to a state that knows it.
* `Engine.Sound.parse_of_catchesAll` is the induction over the lines.
* `TableDefinition.catchAll_total` states the result for every table of a definition.
-/

set_option autoImplicit false

namespace LineMachine

open Builtin (Kind)

/-! ### Rules and transitions -/

namespace TableDefinition

variable {number : Nat} {rules : List RuleDefinition} {rows : List Rule}

/-- Rules that compile mean the rows that they compile to, in the sense of `RuleDefinition.IsRow`.
Other rows they cannot mean, as compiling gives one result. -/
theorem isRow_of_compileFrom (h : compileFrom number rules = .ok rows) :
    List.Forall₂ RuleDefinition.IsRow rules rows := by
  have hflawless : ∀ e, ¬ FirstFlawFrom number rules e := by
    intro e hflaw
    rw [compileFrom_eq_error_iff.mpr hflaw] at h
    cases h
  obtain ⟨rows', hrows⟩ := exists_rows hflawless
  obtain rfl : rows' = rows := Except.ok.inj ((compileFrom_eq_ok hrows).symm.trans h)
  exact hrows

variable {d : TableDefinition} {fallback : Validation} {t : Table Events} {log : List Report}

/-- A rule of a state is one of its transitions, and each of these is a rule. They have the same
pattern and bind the same name. It goes through the rows, by `isRow_of_compileFrom` and the way a
table is built. -/
theorem carried_of_build (h : d.build fallback = (.ok t, log)) {s : State Events}
    (hs : s ∈ t.states) :
    (∀ r ∈ d.rules, r.state = s.name → ∃ tr ∈ s.transitions,
      r.IsPattern tr.pattern ∧ tr.action.map BoundAction.name = r.action) ∧
    ∀ tr ∈ s.transitions, ∃ r ∈ d.rules, r.state = s.name ∧
      r.IsPattern tr.pattern ∧ tr.action.map BoundAction.name = r.action := by
  obtain ⟨rows, hcompile, hbuild⟩ := builder_of_build h
  have hrows : List.Forall₂ RuleDefinition.IsRow d.rules rows := isRow_of_compileFrom hcompile
  have htransitions := (TableBuilder.declaredGraph_of_build hbuild).1.transitions s hs
  constructor
  · intro r hr hstate
    obtain ⟨i, hi⟩ := List.mem_iff_getElem?.mp hr
    obtain ⟨row, hrow, hmeans⟩ := getElem?_of_forall₂ hrows hi
    -- The row is among those that are dealt out to the state.
    have hmem : row ∈ rows.filter fun row => row.state = s.name :=
      List.mem_filter.mpr ⟨List.mem_of_getElem? hrow, by simp [hmeans.state, hstate]⟩
    obtain ⟨j, hj⟩ := List.mem_iff_getElem?.mp hmem
    obtain ⟨tr, htr, hcarries⟩ := getElem?_of_forall₂ htransitions hj
    refine ⟨tr, List.mem_of_getElem? htr, ?_, hcarries.action.trans hmeans.action⟩
    rw [hcarries.pattern]
    exact hmeans.pattern
  · intro tr htr
    obtain ⟨row, hrow, hcarries⟩ := exists_left_of_forall₂ htransitions htr
    obtain ⟨hmem, hstate⟩ := List.mem_filter.mp hrow
    obtain ⟨r, hr, hmeans⟩ := exists_left_of_forall₂ hrows hmem
    refine ⟨r, hr, ?_, ?_, hcarries.action.trans hmeans.action⟩
    · rw [← hmeans.state]
      simpa using hstate
    · rw [hcarries.pattern]
      exact hmeans.pattern

end TableDefinition

/-! ### Tables -/

namespace Table

/-- Every state has a transition that every line passes. -/
def CatchesAll (t : Table Events) : Prop := ∀ s ∈ t.states, ∃ tr ∈ s.transitions, tr.pattern = .any

/-- Some transition binds the action. -/
def Binds (t : Table Events) (k : Kind) : Prop :=
  ∃ s ∈ t.states, ∃ tr ∈ s.transitions, tr.action = some k.bound

variable {t : Table Events} {line : Line} {id : StateId}

/-- An action that a line comes to is bound in the table, so where `Table.Binds` fails for a kind,
no line ends by it. -/
theorem binds_of_rule? {tr : Transition Events} {captures : Captures} {k : Kind}
    (h : t.rule? line id = some (tr, captures)) (hk : tr.action = some k.bound) : t.Binds k := by
  obtain ⟨s, hs, htr⟩ := mem_of_rule? h
  exact ⟨s, mem_of_get? hs, tr, htr, hk⟩

/-- Some transition passes the line, the catch-all if no other one does. Where it stands among the
transitions of its state does not matter to `Table.rule?`. -/
theorem CatchesAll.rule?_ne_none (ht : t.CatchesAll) (line : Line) (hid : t.has id = true) :
    t.rule? line id ≠ none := by
  intro hnone
  obtain ⟨s, hs⟩ := (has_iff t id).mp hid
  obtain ⟨tr, htr, hany⟩ := ht s (mem_of_get? hs)
  have huntaken := (rule?_eq_none_iff hs).mp hnone tr htr
  rw [hany] at huntaken
  cases huntaken

/-- In a state that knows every line, a line is consumed, or a transition refuses it or finds no
saved state. Of the cases of `Table.Ends` the unmatched one is gone. -/
theorem CatchesAll.ends (ht : t.CatchesAll) (hid : t.has id = true) {stack stack' : List StateId}
    {result : Except ParseError StateId} (h : t.Ends line id stack result stack') :
    (∃ next, result = .ok next) ∨
      (t.Binds .pop ∧ result = .error (.emptyStack line.number line.text)) ∨
      t.Binds .fail ∧
        result = .error (.action (.rejected line.number (t.nameOf id) line.text)) := by
  cases h with
  | unmatched untaken => exact absurd untaken (ht.rule?_ne_none line hid)
  | settled taken bound => exact .inl ⟨_, rfl⟩
  | saved taken bound => exact .inl ⟨_, rfl⟩
  | rejected taken bound => exact .inr (.inr ⟨binds_of_rule? taken bound, rfl⟩)
  | exhausted taken bound => exact .inr (.inl ⟨binds_of_rule? taken bound, rfl⟩)

end Table

namespace TableDefinition

variable {d : TableDefinition} {fallback : Validation} {t : Table Events} {log : List Report}

/-- A rule without a pattern for every state is a catch-all in every state. That such a rule means
the pattern `any` is `IsPattern.eq_any_iff`. -/
theorem catchesAll_of_build (h : d.build fallback = (.ok t, log))
    (hcatch : ∀ s ∈ t.states, ∃ r ∈ d.rules, r.state = s.name ∧ r.literal = none ∧ r.regex = none) :
    t.CatchesAll := by
  intro s hs
  obtain ⟨r, hr, hstate, hpattern⟩ := hcatch s hs
  obtain ⟨tr, htr, hmeans, -⟩ := (carried_of_build h hs).1 r hr hstate
  exact ⟨tr, htr, hmeans.eq_any_iff.mpr hpattern⟩

/-- An action that is bound in the table is bound by a rule, under the name of its kind. So a
condition on the names in the rules excludes what `Table.Binds` says. -/
theorem exists_rule_of_binds (h : d.build fallback = (.ok t, log)) {k : Kind} (hk : t.Binds k) :
    ∃ r ∈ d.rules, r.action = some k.name := by
  obtain ⟨s, hs, tr, htr, hbound⟩ := hk
  obtain ⟨r, hr, -, -, haction⟩ := (carried_of_build h hs).2 tr htr
  rw [hbound] at haction
  exact ⟨r, hr, haction.symm⟩

end TableDefinition

/-! ### Runs -/

namespace Engine

variable {e e' : Engine Events} {extra : Nat}

/-- A line has an answer and is not unmatched. Wherever it goes back to, it comes to a state that
knows it, since the saved states of a sound parse are states of the table. -/
theorem Sound.feed_of_catchesAll (h : e.Sound) (ht : e.table.CatchesAll) (extra : Nat)
    (text : String) :
    ∃ result e', e.feed extra text = some (result, e') ∧
      ((∃ next, result = .ok next) ∨
        (e.table.Binds .pop ∧ ∃ number line, result = .error (.emptyStack number line)) ∨
        e.table.Binds .fail ∧
          ∃ number state line, result = .error (.action (.rejected number state line))) := by
  obtain ⟨result, e', last, rest, hfeed, -, hunwinds, hends⟩ := h.feed extra text
  have hlast : e.table.has last = true := hunwinds.has h.current h.has_of_mem
  refine ⟨result, e', hfeed, ?_⟩
  rcases ht.ends hlast hends with hok | ⟨hbinds, hresult⟩ | ⟨hbinds, hresult⟩
  · exact .inl hok
  · exact .inr (.inl ⟨hbinds, _, _, hresult⟩)
  · exact .inr (.inr ⟨hbinds, _, _, _, hresult⟩)

/-- How a parse over so many lines can end when every state knows every line:

- `consumed`: all lines are consumed, and the summary counts them;
- `exhausted`: a state is to be resumed and none is saved, which takes a rule that binds `pop`;
- `rejected`: a rule that binds `fail` refuses a line;
- `unbalanced`: states are left and must not be. -/
inductive EndsTotal (e : Engine Events) (count : Nat) : Except ParseError Summary → Prop where
  | consumed {summary : Summary} (counted : summary.lines = e.lineno + count) :
      EndsTotal e count (.ok summary)
  | exhausted {number : Nat} {line : String} (binds : e.table.Binds .pop) :
      EndsTotal e count (.error (.emptyStack number line))
  | rejected {number : Nat} {state line : String} (binds : e.table.Binds .fail) :
      EndsTotal e count (.error (.action (.rejected number state line)))
  | unbalanced {depth : Nat} {states : List String}
      (required : e.options.requireEmptyStack = true) :
      EndsTotal e count (.error (.unbalancedStack depth states))

/-- The step over a line that is consumed: it counts in the summary, and the errors of
`Engine.EndsTotal` say nothing about the number of lines. -/
theorem EndsTotal.cons {text : String} {next : StateId} {count : Nat}
    {result : Except ParseError Summary} (hfeed : e.feed extra text = some (.ok next, e'))
    (h : e'.EndsTotal count result) : e.EndsTotal (count + 1) result := by
  have htable : e'.table = e.table := table_of_feed hfeed
  cases h with
  | consumed counted =>
    refine .consumed ?_
    rw [counted, lineno_of_feed hfeed]
    omega
  | exhausted binds => exact .exhausted (htable ▸ binds)
  | rejected binds => exact .rejected (htable ▸ binds)
  | unbalanced required => exact .unbalanced (options_of_feed hfeed ▸ required)

/-- A parse over lines of text ends as `Engine.EndsTotal` says. The induction is on the lines: the
invariant holds behind each line that is consumed, so the next one comes to a state that knows it
again. -/
theorem Sound.parse_of_catchesAll (h : e.Sound) (ht : e.table.CatchesAll) (extra : Nat)
    (lines : List String) :
    ∃ result e', e.parse extra lines = some (result, e') ∧ e.EndsTotal lines.length result := by
  induction lines generalizing e with
  | nil =>
    rcases e.finish_cases with ⟨hrequired, -, hend⟩ | ⟨-, log, hend⟩
    · exact ⟨_, _, congrArg some hend, .unbalanced hrequired⟩
    · exact ⟨_, _, congrArg some hend, .consumed rfl⟩
  | cons text more ih =>
    obtain ⟨result, e', hfeed, hresult⟩ := h.feed_of_catchesAll ht extra text
    rcases hresult with ⟨next, rfl⟩ | ⟨hbinds, number, line, rfl⟩ |
      ⟨hbinds, number, state, line, rfl⟩
    · have ht' : e'.table.CatchesAll := table_of_feed hfeed ▸ ht
      obtain ⟨result, e'', hparse, hends⟩ := ih (h.of_feed hfeed) ht'
      exact ⟨result, e'', (parse_of_ok hfeed).trans hparse, hends.cons hfeed⟩
    · exact ⟨_, e', parse_of_error hfeed, .exhausted hbinds⟩
    · exact ⟨_, e', parse_of_error hfeed, .rejected hbinds⟩

end Engine

namespace TableDefinition

open Engine (start)

/-- Catch-alls make a table total. Take any table of a definition in which every state has a rule
with neither a literal nor an expression, at any place among its rules.

- Behind any lines, failed ones included, the next line has an answer and is not unmatched,
  whatever states it goes back to. A parse over lines of text ends, and not on an unmatched line.
- If no rule binds `fail`, a parse fails only for want of a saved state, or, where none may be
  left, over states that are.
- If no rule binds `pop` or `fail`, and states may be left, a parse over any lines succeeds and
  counts all of them. -/
theorem catchAll_total {d : TableDefinition} {fallback : Validation} {t : Table Events}
    {log : List Report} (h : d.build fallback = (.ok t, log))
    (hcatch : ∀ s ∈ t.states, ∃ r ∈ d.rules, r.state = s.name ∧ r.literal = none ∧ r.regex = none)
    (options : ParseOptions) (events : Events) (extra : Nat) :
    (∀ e, (start t options events).Reaches e → ∀ (extra : Nat) (text : String),
      ∃ result e', e.feed extra text = some (result, e') ∧
        ∀ number state line, result ≠ .error (.unmatchedLine number state line)) ∧
    ∀ lines : List String, ∃ result e',
      (start t options events).parse extra lines = some (result, e') ∧
      (∀ number state line, result ≠ .error (.unmatchedLine number state line)) ∧
      ((∀ r ∈ d.rules, r.action ≠ some "fail") → ∀ fault, result = .error fault →
        (∃ number line, fault = .emptyStack number line) ∨
          options.requireEmptyStack = true ∧
            ∃ depth states, fault = .unbalancedStack depth states) ∧
      ((∀ r ∈ d.rules, r.action ≠ some "pop" ∧ r.action ≠ some "fail") →
        options.requireEmptyStack = false →
          ∃ summary, result = .ok summary ∧ summary.lines = lines.length) := by
  have hstart : (start t options events).Sound :=
    Engine.sound_start (standard_of_build h) options events
  have ht : t.CatchesAll := catchesAll_of_build h hcatch
  constructor
  · intro e hreaches extra text
    have htable : e.table = t := hreaches.table_eq
    obtain ⟨result, e', hfeed, hresult⟩ :=
      (hstart.of_reaches hreaches).feed_of_catchesAll (htable ▸ ht) extra text
    refine ⟨result, e', hfeed, ?_⟩
    rcases hresult with ⟨next, rfl⟩ | ⟨-, _, _, rfl⟩ | ⟨-, _, _, _, rfl⟩ <;>
      exact nofun
  · intro lines
    obtain ⟨result, e', hparse, hends⟩ := hstart.parse_of_catchesAll ht extra lines
    refine ⟨result, e', hparse, ?_, ?_, ?_⟩
    -- None of the four ends of a parse is an unmatched line.
    · cases hends <;> exact nofun
    -- A line that is rejected has a rule that binds `fail` as its cause.
    · intro hnofail fault hfault
      cases hends with
      | consumed counted => cases hfault
      | exhausted binds =>
        cases hfault
        exact .inl ⟨_, _, rfl⟩
      | rejected binds =>
        obtain ⟨r, hr, haction⟩ := exists_rule_of_binds h binds
        exact absurd haction (hnofail r hr)
      | unbalanced required =>
        cases hfault
        exact .inr ⟨required, _, _, rfl⟩
    -- Three of the ends need a rule or a setting that is not there. The good one is left.
    · intro hneither hallowed
      cases hends with
      | consumed counted => exact ⟨_, rfl, counted.trans (Nat.zero_add _)⟩
      | exhausted binds =>
        obtain ⟨r, hr, haction⟩ := exists_rule_of_binds h binds
        exact absurd haction (hneither r hr).1
      | rejected binds =>
        obtain ⟨r, hr, haction⟩ := exists_rule_of_binds h binds
        exact absurd haction (hneither r hr).2
      | unbalanced required =>
        rw [show options.requireEmptyStack = true from required] at hallowed
        cases hallowed

/-- Blocks that end on any line but one, inside and outside. -/
def eagerEnds : TableDefinition where
  initial := none
  validation := none
  rules :=
    [⟨"outside", some "open", none, some "inside", some "push"⟩,
      ⟨"outside", none, none, none, some "pop"⟩,
      ⟨"inside", none, none, none, some "pop"⟩]

/-- Blocks that never end. -/
def openBlocks : TableDefinition where
  initial := none
  validation := none
  rules :=
    [⟨"outside", some "open", none, some "inside", some "push"⟩,
      ⟨"outside", none, none, none, none⟩,
      ⟨"inside", none, none, none, some "enter"⟩]

/-- In `eagerEnds` a line goes back to a state which knows it, but finds no saved state there. In
`openBlocks` a parse consumes every line and leaves saved states. -/
theorem catchAll_total_blocks :
    (∃ t log, eagerEnds.build .strict = (.ok t, log) ∧
      (∀ s ∈ t.states, ∃ r ∈ eagerEnds.rules,
        r.state = s.name ∧ r.literal = none ∧ r.regex = none) ∧
      ∃ fault e', (start t ParseOptions.default Events.empty).parse 0 ["open", "x"] =
        some (.error fault, e') ∧ ∃ number line, fault = .emptyStack number line) ∧
    ∃ t log, openBlocks.build .strict = (.ok t, log) ∧
      (∀ s ∈ t.states, ∃ r ∈ openBlocks.rules,
        r.state = s.name ∧ r.literal = none ∧ r.regex = none) ∧
      ∃ summary e', (start t ParseOptions.default Events.empty).parse 0 ["x", "open", "y"] =
        some (.ok summary, e') ∧ summary.lines = 3 := by
  constructor
  · refine ⟨_, _, rfl, by decide, ?_⟩
    obtain ⟨result, e', hparse, -, hfails, -⟩ :=
      (@catchAll_total eagerEnds .strict _ _ rfl (by decide) ParseOptions.default Events.empty 0).2
        ["open", "x"]
    obtain ⟨fault, rfl⟩ : ∃ fault, result = .error fault := by
      cases hparse
      exact ⟨_, rfl⟩
    rcases hfails (by decide) fault rfl with hempty | ⟨hrequired, -⟩
    · exact ⟨fault, e', hparse, hempty⟩
    · cases hrequired
  · refine ⟨_, _, rfl, by decide, ?_⟩
    obtain ⟨result, e', hparse, -, -, hsucceeds⟩ :=
      (@catchAll_total openBlocks .strict _ _ rfl (by decide) ParseOptions.default Events.empty 0).2
        ["x", "open", "y"]
    obtain ⟨summary, rfl, hlines⟩ := hsucceeds (by decide) rfl
    exact ⟨summary, e', hparse, hlines⟩

end TableDefinition

end LineMachine
