import LineMachine.Proofs.Builtin.Sound

/-!
# `LineMachine.Proofs.Builtin.Fault`: errors say the truth

A parse over lines of text that fails names a line, a state or the saved states.
This module says what the error tells about the run, and that it is true.

* `Engine.ComesTo`: a line of the input is reached, all lines before it being
  consumed, and goes back to some state.
* `Engine.Explains` lists the four causes of a failure, each with the error that
  it is reported by. `Engine.Explains.cause_eq`: the error tells the cause.
* `Engine.Explains.cons` lifts an explanation over a line that is consumed, and
  `Engine.Sound.explains_parse` is the induction over the lines. Conversely,
  `Engine.Explains.parse_eq`: what is explained does happen.
* `TableDefinition.parse_explained` states the result for every table of a
  definition. It also says that no other error comes about, that only states with
  transitions are ever saved, and that all names that are shown are names of
  states: `Table.unknownName` never stands in for one.
-/

set_option autoImplicit false

namespace LineMachine

/-- The names of states that the error shows. -/
def ParseError.stateNames : ParseError → List String
  | .unmatchedLine _ state _ => [state]
  | .unbalancedStack _ states => states
  | .action (.rejected _ state _) => [state]
  | _ => []

/-- The names of states that a summary shows. -/
def Summary.stateNames (s : Summary) : List String :=
  s.finalState :: s.stack ++
    s.trace.toList.flatMap fun trace => trace.toList.flatMap fun step =>
      [step.source, step.destination]

/-- Why a parse over lines of text fails. -/
inductive Cause where
  /-- a state does not know the line -/
  | unmatched
  /-- a state is to be resumed and none is saved -/
  | exhausted
  /-- a transition refuses the line -/
  | rejected
  /-- the input ends while states are saved -/
  | unbalanced
deriving Repr, DecidableEq

/-- The cause that an error reports. -/
def Cause.of? : ParseError → Option Cause
  | .unmatchedLine _ _ _ => some .unmatched
  | .emptyStack _ _ => some .exhausted
  | .action (.rejected _ _ _) => some .rejected
  | .unbalancedStack _ _ => some .unbalanced
  | _ => none

namespace Engine

open Builtin (Kind)
open Table (Unwinds Ends)

/-- The lines are consumed up to some line of the input. That line starts in the
state behind them, and comes to the state `last` by going back. The states in `rest`
are still saved then. The line stands there without its end, and its number counts
the lines before it. -/
def ComesTo (e : Engine Events) (extra : Nat) (lines : List String) (line : Line)
    (last : StateId) (rest : List StateId) : Prop :=
  ∃ before text after e', lines = before ++ text :: after ∧ e.Consumes extra before e' ∧
    line = ⟨Text.stripTerminator text, e.lineno + before.length + 1⟩ ∧
    e.table.Unwinds line e'.current e'.stack.topDown last rest

/-- Why a parse over these lines fails, and with which error:

- `unmatched`: a line comes to a state none of whose transitions passes it;
- `exhausted`: a line comes to a state where the first transition that passes goes
  back, and all saved states have been taken;
- `rejected`: a line comes to a state where the first transition that passes
  refuses it;
- `unbalanced`: all lines are consumed, no state may be left, and some are. The
  error names them, the first one first, and tells how many they are. -/
inductive Explains (e : Engine Events) (extra : Nat) (lines : List String) :
    Cause → ParseError → Prop where
  | unmatched {line : Line} {last : StateId} {rest : List StateId} {s : State Events}
      (comes : e.ComesTo extra lines line last rest) (found : e.table.get? last = some s)
      (untaken : ∀ tr ∈ s.transitions, tr.pattern.matches? line.text = none) :
      Explains e extra lines .unmatched (.unmatchedLine line.number s.name line.text)
  | exhausted {line : Line} {last : StateId} {tr : Transition Events} {captures : Captures}
      (comes : e.ComesTo extra lines line last [])
      (taken : e.table.rule? line last = some (tr, captures))
      (bound : tr.action = some Kind.pop.bound) :
      Explains e extra lines .exhausted (.emptyStack line.number line.text)
  | rejected {line : Line} {last : StateId} {rest : List StateId} {s : State Events}
      {tr : Transition Events} {captures : Captures}
      (comes : e.ComesTo extra lines line last rest) (found : e.table.get? last = some s)
      (taken : e.table.rule? line last = some (tr, captures))
      (bound : tr.action = some Kind.fail.bound) :
      Explains e extra lines .rejected (.action (.rejected line.number s.name line.text))
  | unbalanced {e' : Engine Events} {states : List String}
      (consumed : e.Consumes extra lines e') (required : e.options.requireEmptyStack = true)
      (named : states = e'.stack.bottomUp.map e.table.nameOf) (left : 0 < states.length) :
      Explains e extra lines .unbalanced (.unbalancedStack states.length states)

variable {e e' : Engine Events} {extra : Nat} {text : String} {lines : List String} {line : Line}
  {last next : StateId} {rest : List StateId} {cause : Cause} {fault : ParseError}

/-- The error tells the cause, since each case of `Engine.Explains` has an error of its own. So an
error has one cause at most. -/
theorem Explains.cause_eq (h : e.Explains extra lines cause fault) :
    Cause.of? fault = some cause := by
  cases h <;> rfl

/-! ### Behind a line that is consumed -/

/-- A line that is come to behind a consumed line is come to from before it. Its number stays the
same, because the consumed line counts. -/
theorem ComesTo.cons (hfeed : e.feed extra text = some (.ok next, e'))
    (h : e'.ComesTo extra lines line last rest) :
    e.ComesTo extra (text :: lines) line last rest := by
  obtain ⟨before, text', after, e'', rfl, hconsumes, hline, hunwinds⟩ := h
  refine ⟨text :: before, text', after, e'', rfl, .cons hfeed hconsumes, ?_, ?_⟩
  · -- The number of the line counts the one in front as well.
    rw [hline, lineno_of_feed hfeed, List.length_cons, Line.mk.injEq]
    exact ⟨rfl, by omega⟩
  · rw [← table_of_feed hfeed]
    exact hunwinds

/-- What explains the failure of the rest explains that of the whole. Each case of
`Engine.Explains` is lifted by `ComesTo.cons`, or by one more line that is consumed. -/
theorem Explains.cons (hfeed : e.feed extra text = some (.ok next, e'))
    (h : e'.Explains extra lines cause fault) : e.Explains extra (text :: lines) cause fault := by
  have htable : e'.table = e.table := table_of_feed hfeed
  cases h with
  | unmatched comes found untaken =>
    exact .unmatched (comes.cons hfeed) (htable ▸ found) untaken
  | exhausted comes taken bound =>
    exact .exhausted (comes.cons hfeed) (htable ▸ taken) bound
  | rejected comes found taken bound =>
    exact .rejected (comes.cons hfeed) (htable ▸ found) (htable ▸ taken) bound
  | unbalanced consumed required named left =>
    rw [options_of_feed hfeed] at required
    exact .unbalanced (.cons hfeed consumed) required (htable ▸ named) left

/-! ### The line that fails -/

/-- The first line is come to at once. Where it goes back to is where `Table.Unwinds` leads from
the present state. -/
theorem comesTo_first (more : List String)
    (h : e.table.Unwinds (e.lineOf text) e.current e.stack.topDown last rest) :
    e.ComesTo extra (text :: more) (e.lineOf text) last rest :=
  ⟨[], text, more, e, rfl, .nil e, rfl, h⟩

/-- A line that fails is explained by how it ends: of the cases of `Table.Ends` only those with an
error are left, and each is one of `Engine.Explains`. -/
theorem Sound.explains_first (h : e.Sound) {stack : List StateId} (more : List String)
    (hunwinds : e.table.Unwinds (e.lineOf text) e.current e.stack.topDown last rest)
    (hends : e.table.Ends (e.lineOf text) last rest (.error fault) stack) :
    ∃ cause, e.Explains extra (text :: more) cause fault := by
  have hcomes : e.ComesTo extra (text :: more) (e.lineOf text) last rest :=
    comesTo_first more hunwinds
  have hlast : e.table.has last = true := hunwinds.has h.current h.has_of_mem
  obtain ⟨s, hs⟩ := (Table.has_iff e.table last).mp hlast
  have hname : e.table.nameOf last = s.name := Table.nameOf_of_get? hs
  -- A line that is taken does not fail, so three of the ends are left.
  cases hends with
  | unmatched untaken =>
    rw [hname]
    exact ⟨.unmatched, .unmatched hcomes hs ((Table.rule?_eq_none_iff hs).mp untaken)⟩
  | rejected taken bound =>
    rw [hname]
    exact ⟨.rejected, .rejected hcomes hs taken bound⟩
  | exhausted taken bound hempty =>
    subst hempty
    exact ⟨.exhausted, .exhausted hcomes taken bound⟩

/-! ### What follows from an explanation -/

/-- Lines that are consumed keep `Engine.Sound`. The lines behind them can be looked at as if the
parse began there. -/
theorem Sound.of_consumes (h : e.Sound) (hconsumes : e.Consumes extra lines e') : e'.Sound := by
  induction hconsumes with
  | nil e => exact h
  | cons line _ ih => exact ih (h.of_feed line)

/-- A line that comes to a state and fails there ends the parse with this error. The lines before
it are taken off by `Consumes.parse_append`, and the line itself has its answer by
`Sound.feed_of_ends`. -/
theorem ComesTo.parse_eq (h : e.ComesTo extra lines line last rest) (he : e.Sound)
    {stack : List StateId} (hends : e.table.Ends line last rest (.error fault) stack) :
    ∃ e', e.parse extra lines = some (.error fault, e') := by
  obtain ⟨before, text, after, e', rfl, hconsumes, rfl, hunwinds⟩ := h
  have hline : e'.lineOf text = ⟨Text.stripTerminator text, e.lineno + before.length + 1⟩ := by
    rw [lineOf, hconsumes.lineno_eq]
  rw [← hconsumes.table_eq, ← hline] at hunwinds hends
  obtain ⟨e'', hfeed⟩ := (he.of_consumes hconsumes).feed_of_ends extra hunwinds hends
  refine ⟨e'', ?_⟩
  rw [hconsumes.parse_append, parse_of_error hfeed]

/-- What is explained does happen. With `Sound.explains_parse` the cases of `Engine.Explains` are
exactly the ways in which a parse over lines of text fails. -/
theorem Explains.parse_eq (h : e.Explains extra lines cause fault) (he : e.Sound) :
    ∃ e', e.parse extra lines = some (.error fault, e') := by
  cases h with
  | @unmatched line last rest s comes found untaken =>
    have hends := @Ends.unmatched e.table line last rest
      ((Table.rule?_eq_none_iff found).mpr untaken)
    rw [Table.nameOf_of_get? found] at hends
    exact comes.parse_eq he hends
  | exhausted comes taken bound => exact comes.parse_eq he (.exhausted taken bound rfl)
  | @rejected line last rest s tr captures comes found taken bound =>
    have hends := @Ends.rejected e.table line last rest tr captures taken bound
    rw [Table.nameOf_of_get? found] at hends
    exact comes.parse_eq he hends
  | @unbalanced e' states consumed required named left =>
    have hfinish : e.parse extra lines = some e'.finish := by
      have happend := consumed.parse_append []
      rw [List.append_nil] at happend
      exact happend
    have hstates : states = e'.summary.stack := by
      rw [named, ← consumed.table_eq]
      rfl
    subst hstates
    rw [hfinish]
    rcases e'.finish_cases with ⟨-, -, hend⟩ | ⟨hempty, -⟩
    · rw [hend, e'.length_stack_summary]
      exact ⟨e', rfl⟩
    · -- With no state left there is no name to show.
      rw [consumed.options_eq] at hempty
      rw [e'.length_stack_summary, ContextStack.depth, hempty required] at left
      cases left

/-! ### Names -/

/-- The saved states are shown by their names, since all of them are states of the table. No
`Table.unknownName` is among them. -/
theorem Sound.isName_of_stack (h : e.Sound) :
    ∀ name ∈ e.stack.bottomUp.map e.table.nameOf, e.table.IsName name := by
  intro name hmem
  obtain ⟨id, hid, rfl⟩ := List.mem_map.mp hmem
  exact Table.isName_of_has (h.has_of_mem id (List.mem_reverse.mp hid))

/-- An error that is explained shows names of states only. The state in it was come to on a line,
and those of an unbalanced stack are saved ones. -/
theorem Explains.isName (h : e.Explains extra lines cause fault) (he : e.Sound) :
    ∀ name ∈ fault.stateNames, e.table.IsName name := by
  intro name hmem
  cases h with
  | unmatched comes found untaken =>
    cases List.mem_singleton.mp hmem
    exact ⟨_, Table.mem_of_get? found, rfl⟩
  | rejected comes found taken bound =>
    cases List.mem_singleton.mp hmem
    exact ⟨_, Table.mem_of_get? found, rfl⟩
  | exhausted comes taken bound => cases hmem
  | @unbalanced e' states consumed required named left =>
    have hname : name ∈ e'.stack.bottomUp.map e'.table.nameOf := by
      rw [consumed.table_eq, ← named]
      exact hmem
    rw [← consumed.table_eq]
    exact (he.of_consumes consumed).isName_of_stack name hname

/-- A summary shows names of states only: the final state, the saved ones, and those of the trace,
of which `Engine.Sound` keeps each. -/
theorem Sound.isName_of_summary (h : e.Sound) :
    ∀ name ∈ e.summary.stateNames, e.table.IsName name := by
  intro name hmem
  rcases List.mem_append.mp hmem with hstate | hstep
  · rcases List.mem_cons.mp hstate with rfl | hstack
    · exact Table.isName_of_has h.current
    · exact h.isName_of_stack name hstack
  · obtain ⟨trace, htrace, hstep⟩ := List.mem_flatMap.mp hstep
    obtain ⟨step, hstep, hname⟩ := List.mem_flatMap.mp hstep
    have hnames := h.trace trace (Option.mem_toList.mp htrace) step hstep
    simp only [List.mem_cons, List.not_mem_nil, or_false] at hname
    rcases hname with rfl | rfl
    · exact hnames.1
    · exact hnames.2

/-! ### The run -/

/-- The end of the input fails only over states that are left, which is the case `unbalanced` of
`Engine.Explains`. A summary shows names by `Sound.isName_of_summary`. -/
theorem Sound.explains_finish (h : e.Sound) (extra : Nat) :
    (∀ fault, e.finish.1 = .error fault → ∃ cause, e.Explains extra [] cause fault) ∧
      ∀ summary, e.finish.1 = .ok summary → ∀ name ∈ summary.stateNames, e.table.IsName name := by
  rcases e.finish_cases with ⟨hrequired, hleft, hend⟩ | ⟨-, log, hend⟩
  · rw [hend]
    constructor
    · intro fault hfault
      cases hfault
      rw [← e.length_stack_summary]
      refine ⟨.unbalanced, .unbalanced (.nil e) hrequired rfl ?_⟩
      rw [e.length_stack_summary]
      exact List.length_pos_of_ne_nil hleft
    · intro summary hok
      cases hok
  · rw [hend]
    constructor
    · intro fault hfault
      cases hfault
    · intro summary hok
      cases hok
      exact h.isName_of_summary

/-- A parse over lines of text ends, an error is explained by `Engine.Explains`, and a summary
shows names of states only. The induction is on the lines: those before the one that fails are
consumed, and the invariant holds behind them. -/
theorem Sound.explains_parse (h : e.Sound) (extra : Nat) (lines : List String) :
    ∃ result e', e.parse extra lines = some (result, e') ∧
      (∀ fault, result = .error fault → ∃ cause, e.Explains extra lines cause fault) ∧
      ∀ summary, result = .ok summary → ∀ name ∈ summary.stateNames, e.table.IsName name := by
  induction lines generalizing e with
  | nil =>
    obtain ⟨hfault, hok⟩ := h.explains_finish extra
    exact ⟨_, _, rfl, hfault, hok⟩
  | cons text more ih =>
    obtain ⟨result, e', last, rest, hfeed, hsound, hunwinds, hends⟩ := h.feed extra text
    cases result with
    | error fault =>
      refine ⟨_, _, parse_of_error hfeed, ?_, ?_⟩
      · intro fault' hfault
        cases hfault
        exact h.explains_first more hunwinds hends
      · intro summary hok
        cases hok
    | ok next =>
      -- The line is consumed, and what explains the rest explains the whole.
      obtain ⟨result, e'', hparse, hfault, hok⟩ := ih hsound
      refine ⟨result, e'', ?_, ?_, ?_⟩
      · rw [parse_of_ok hfeed, hparse]
      · intro fault hresult
        obtain ⟨cause, hexplains⟩ := hfault fault hresult
        exact ⟨cause, hexplains.cons hfeed⟩
      · rw [table_of_feed hfeed] at hok
        exact hok

end Engine

namespace TableDefinition

open Engine (start)

/-- Errors say the truth. Take any table of a definition, any settings and any lines of text.

- The parse ends, and it fails with an error exactly when one of the four causes of
  `Engine.Explains` explains the error, and then no other cause does. All names of states in an
  error or in a summary are names that the table has, and no stand-in for a number that it does
  not have.
- Behind any lines, failed ones included, and between any two tries of the next line, every saved
  state is a state of the table with transitions. The next line never ends with a choice outside
  of the table. -/
theorem parse_explained {d : TableDefinition} {fallback : Validation} {t : Table Events}
    {log : List Report} (h : d.build fallback = (.ok t, log)) (options : ParseOptions)
    (events : Events) (extra : Nat) :
    (∀ lines : List String, ∃ result e',
      (start t options events).parse extra lines = some (result, e') ∧
      (∀ fault, result = .error fault ↔
        ∃! cause, (start t options events).Explains extra lines cause fault) ∧
      (∀ fault, result = .error fault → ∀ name ∈ fault.stateNames, t.IsName name) ∧
      ∀ summary, result = .ok summary → ∀ name ∈ summary.stateNames, t.IsName name) ∧
    ∀ e : Engine Events, (start t options events).Reaches e →
      (∀ id ∈ e.stack.topDown, t.HasRules id) ∧
      (∀ (text : String) (last : StateId) (w : Work Events),
        t.Passes (e.lineOf text) e.current e.work last w → ∀ id ∈ w.stack.topDown, t.HasRules id) ∧
      ∀ (extra : Nat) (text : String), ∃ result e', e.feed extra text = some (result, e') ∧
        ∀ (number : Nat) (id : StateId), result ≠ .error (.unknownState number id) := by
  have hstart : (start t options events).Sound :=
    Engine.sound_start (standard_of_build h) options events
  constructor
  · intro lines
    obtain ⟨result, e', hparse, hfault, hok⟩ := hstart.explains_parse extra lines
    refine ⟨result, e', hparse, fun fault => ⟨?_, ?_⟩, ?_, hok⟩
    · intro hresult
      obtain ⟨cause, hexplains⟩ := hfault fault hresult
      refine ⟨cause, hexplains, ?_⟩
      -- Two causes of one error are both the one that it tells.
      intro other hother
      exact Option.some.inj (hother.cause_eq.symm.trans hexplains.cause_eq)
    · rintro ⟨cause, hexplains, -⟩
      obtain ⟨e'', hparse'⟩ := hexplains.parse_eq hstart
      rw [hparse] at hparse'
      cases hparse'
      rfl
    · intro fault hresult
      obtain ⟨cause, hexplains⟩ := hfault fault hresult
      exact hexplains.isName hstart
  · intro e hreaches
    have hsound : e.Sound := hstart.of_reaches hreaches
    have htable : e.table = t := hreaches.table_eq
    refine ⟨?_, ?_, hsound.exists_feed⟩
    · rw [← htable]
      exact hsound.stack
    · intro text last w hpasses
      rw [← htable] at hpasses ⊢
      exact hsound.hasRules_of_passes hpasses

/-- Blocks that can be nested, with a line that is refused outside of them. -/
def brackets : TableDefinition where
  initial := none
  validation := none
  rules :=
    [⟨"outside", some "open", none, some "inside", some "push"⟩,
      ⟨"outside", some "forbidden", none, none, some "fail"⟩,
      ⟨"inside", some "open", none, none, some "push"⟩,
      ⟨"inside", some "close", none, none, some "pop"⟩]

/-- A line of the table that `brackets` builds. It leaves two blocks at once and is not known
behind them, so the cause is `unmatched` in the outermost state. -/
theorem parse_explained_brackets :
    ∃ t log, brackets.build .strict = (.ok t, log) ∧
      ∃! cause, (start t ParseOptions.default Events.empty).Explains 0 ["open", "open", "close"]
        cause (.unmatchedLine 3 "outside" "close") := by
  refine ⟨_, _, rfl, ?_⟩
  obtain ⟨result, e', hparse, hfault, -⟩ :=
    (@parse_explained brackets .strict _ _ rfl ParseOptions.default Events.empty 0).1
      ["open", "open", "close"]
  have hresult : result = .error (.unmatchedLine 3 "outside" "close") := by
    cases hparse
    rfl
  exact (hfault _).mp hresult

end TableDefinition

end LineMachine
