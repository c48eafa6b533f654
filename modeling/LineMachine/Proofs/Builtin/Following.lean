import LineMachine.Proofs.Builtin.Unwinding
import LineMachine.Proofs.Machine.Feed

/-!
# `LineMachine.Proofs.Builtin.Following`: one table follows another

Two tables can number the same states differently. Names are what stays, so a
run in one table is compared with a run in the other one by the names of the
states: `Table.SameName` relates two numbers, each read in its own table.

`Table.Follows loose t t'` says that where `t` takes a transition, `t'` takes
one that is alike in the state of the same name, at the same position. With
`loose`, `t'` may also take lines that `t` does not know.

The relation goes up level by level. `Table.fire_follows` is about one
transition, with one case for each ready-made action, `Table.resolve_follows`
about one line, by induction on the states that it may try, and
`Engine.Alike.feed_follows` about one line of a parse.
`Engine.Alike.parse_follows` and `Engine.Alike.parseItems_follows` are about a
whole run: it ends, and the other run repeats it, with the same summary or the
same error, the same events and the same reports. The one exception, with
`loose`, is a run that ends on a line that `t` does not know. Without `loose`
there is no exception: `Table.Follows.runsAlike`.
-/

set_option autoImplicit false

namespace LineMachine

/-- Two results of one kind: the same error, or two values that are related. -/
inductive Agree {α : Type} (R : α → α → Prop) :
    Except ParseError α → Except ParseError α → Prop where
  | error (fault : ParseError) : Agree R (.error fault) (.error fault)
  | ok {a b : α} (h : R a b) : Agree R (.ok a) (.ok b)

/-- Two outcomes of one kind, with numbers that are related. -/
inductive Outcome.Alike (R : StateId → StateId → Prop) : Outcome → Outcome → Prop where
  | settled {a b : StateId} (h : R a b) : Alike R (.settled a) (.settled b)
  | resumed {a b : StateId} (h : R a b) : Alike R (.resumed a) (.resumed b)

namespace Table

/-- Two numbers of states that have one name, each in its own table. -/
def SameName (t t' : Table Events) (id id' : StateId) : Prop :=
  ∃ s s', t.get? id = some s ∧ t'.get? id' = some s' ∧ s.name = s'.name

/-- Two transitions with one pattern and one action that lead to states of one
name. -/
structure AlikeTransitions (t t' : Table Events) (tr tr' : Transition Events) : Prop where
  pattern : tr'.pattern = tr.pattern
  action : tr'.action = tr.action
  destination : t.SameName t' tr.destination tr'.destination

/-- What the actions can change is the same but for the numbers of the saved
states. -/
structure AlikeWork (t t' : Table Events) (w w' : Work Events) : Prop where
  stack : List.Forall₂ (t.SameName t') w.stack.topDown w'.stack.topDown
  data : w'.data = w.data
  log : w'.log = w.log

/-- The second table does what the first one does, in states of the same names:

- `initial`: both begin in states of one name;
- `taken`: where the first one takes a transition, the second one takes one that
  is alike, at the same position;
- `untaken`: where the first one takes none, the second one takes none either,
  unless the comparison is `loose`. -/
structure Follows (loose : Prop) (t t' : Table Events) : Prop where
  standard : t.Standard
  standard' : t'.Standard
  initial : t.SameName t' t.initial t'.initial
  taken : ∀ (id id' : StateId) (s s' : State Events), t.get? id = some s → t'.get? id' = some s' →
    s.name = s'.name → ∀ (text : String) (rule : Nat) (tr : Transition Events)
      (captures : Captures), State.firstMatch? text s.transitions 0 = some (rule, tr, captures) →
      ∃ tr', State.firstMatch? text s'.transitions 0 = some (rule, tr', captures) ∧
        t.AlikeTransitions t' tr tr'
  untaken : ∀ (id id' : StateId) (s s' : State Events), t.get? id = some s →
    t'.get? id' = some s' → s.name = s'.name → ∀ text : String,
      State.firstMatch? text s.transitions 0 = none →
      loose ∨ State.firstMatch? text s'.transitions 0 = none

variable {t t' : Table Events} {loose : Prop} {id id' : StateId} {w w' : Work Events}

/-! ### Names -/

/-- A number that has a namesake is one of its table. The lists of saved states in
`Table.AlikeWork` have no other numbers. -/
theorem SameName.has (h : t.SameName t' id id') : t.has id = true := by
  obtain ⟨s, s', hs, -, -⟩ := h
  exact has_of_get? hs

/-- The namesake is a number of the other table. The loop `Table.resolve` asks for this in both
runs. -/
theorem SameName.has' (h : t.SameName t' id id') : t'.has id' = true := by
  obtain ⟨s, s', -, hs', -⟩ := h
  exact has_of_get? hs'

/-- Numbers of the same name are shown alike. Errors, events and reports have names and no
numbers, so they are equal and not only related. -/
theorem SameName.nameOf_eq (h : t.SameName t' id id') : t'.nameOf id' = t.nameOf id := by
  obtain ⟨s, s', hs, hs', hname⟩ := h
  rw [nameOf_of_get? hs, nameOf_of_get? hs', hname]

/-- Stacks that are related show the same names, state by state. So do the summary and the error
about an unbalanced stack. -/
theorem map_nameOf_eq {ids ids' : List StateId} (h : List.Forall₂ (t.SameName t') ids ids') :
    ids'.map t'.nameOf = ids.map t.nameOf := by
  induction h with
  | nil => rfl
  | cons hid _ ih => rw [List.map_cons, List.map_cons, hid.nameOf_eq, ih]

/-- Stacks that are related have states of the table only, by `SameName.has`. This is what the
line of the first run needs to come to an end. -/
theorem has_of_forall₂ {ids ids' : List StateId} (h : List.Forall₂ (t.SameName t') ids ids') :
    ∀ id ∈ ids, t.has id = true := by
  induction h with
  | nil => simp
  | cons hid _ ih =>
    intro id hmem
    rcases List.mem_cons.mp hmem with rfl | hrest
    · exact hid.has
    · exact ih id hrest

/-! ### One transition -/

/-- Alike transitions of states of one name have the same effect. There is one case for each kind
of action, and for `pop` the saved states decide, which are related one by one. -/
theorem fire_follows {tr tr' : Transition Events} (line : Line) (captures : Captures)
    (htr : tr.IsBuiltin) (halike : t.AlikeTransitions t' tr tr') (hid : t.SameName t' id id')
    (hw : t.AlikeWork t' w w') :
    ∃ r r' v v', t.fire line id tr captures w = (r, v) ∧
      t'.fire line id' tr' captures w' = (r', v') ∧
      Agree (Outcome.Alike (t.SameName t')) r r' ∧ t.AlikeWork t' v v' := by
  obtain ⟨hstack, hdata, hlog⟩ := hw
  have hdest := halike.destination
  have hname : t'.nameOf id' = t.nameOf id := hid.nameOf_eq
  have hdepth : (w'.stack.push id').depth = (w.stack.push id).depth :=
    congrArg (· + 1) hstack.length_eq.symm
  -- Events, reports and errors show names and depths only, never numbers.
  rcases htr with hnone | ⟨k, hk⟩
  · refine ⟨_, _, _, _, fire_none hnone, fire_none (halike.action.trans hnone),
      .ok (.settled hdest), hstack, hdata, hlog⟩
  · have hk' := halike.action.trans hk
    cases k with
    | emit =>
      refine ⟨_, _, _, _, fire_emit hk, fire_emit hk', .ok (.settled hdest), hstack, ?_, hlog⟩
      simp [Builtin.eventOf, site, hname, hdata]
    | push =>
      refine ⟨_, _, _, _, fire_push hk, fire_push hk', .ok (.settled hdest), .cons hid hstack,
        hdata, ?_⟩
      simp [hname, hlog, hdepth]
    | enter =>
      refine ⟨_, _, _, _, fire_enter hk, fire_enter hk', .ok (.settled hdest), .cons hid hstack,
        ?_, ?_⟩
      · simp [Builtin.eventOf, site, hname, hdata]
      · simp [hname, hlog, hdepth]
    | fail =>
      refine ⟨_, _, _, _, fire_fail hk, fire_fail hk', ?_, hstack, hdata, hlog⟩
      rw [hname]
      exact .error _
    | pop =>
      cases hs : w.stack.topDown with
      | nil =>
        rw [hs] at hstack
        have hs' : w'.stack.topDown = [] := List.forall₂_nil_left_iff.mp hstack
        exact ⟨_, _, _, _, fire_pop_nil hk hs, fire_pop_nil hk' hs', .error _,
          ⟨by rw [hs, hs']; exact .nil, hdata, hlog⟩⟩
      | cons top rest =>
        rw [hs] at hstack
        obtain ⟨top', rest', htop, hrest, hs'⟩ := List.forall₂_cons_left_iff.mp hstack
        refine ⟨_, _, _, _, fire_pop_cons hk hs, fire_pop_cons hk' hs', .ok (.resumed htop), hrest,
          hdata, ?_⟩
        simp [htop.nameOf_eq, hlog, hrest.length_eq]

/-! ### One state -/

/-- One try in each table. Either the first table does not know the line, or both tries have the
same effect by `fire_follows`. The report of the match is the same, as the position of the
transition is. -/
theorem stepState_follows {s s' : State Events} (line : Line) (h : t.Follows loose t')
    (hs : t.get? id = some s) (hs' : t'.get? id' = some s') (hname : s.name = s'.name)
    (hw : t.AlikeWork t' w w') :
    (loose ∧ t.stepState line s w = (.error (.unmatchedLine line.number s.name line.text), w)) ∨
    ∃ r r' v v', t.stepState line s w = (r, v) ∧ t'.stepState line s' w' = (r', v') ∧
      Agree (Outcome.Alike (t.SameName t')) r r' ∧ t.AlikeWork t' v v' := by
  have hid : s.id = id := h.standard.numbered id s hs
  have hid' : s'.id = id' := h.standard'.numbered id' s' hs'
  -- The two states take the same position, or the first one takes none.
  cases hfirst : State.firstMatch? line.text s.transitions 0 with
  | none =>
    have hstep : t.stepState line s w =
        (.error (.unmatchedLine line.number s.name line.text), w) := stepState_of_none hfirst
    rcases h.untaken id id' s s' hs hs' hname line.text hfirst with hloose | hnone
    · exact .inl ⟨hloose, hstep⟩
    · have hstep' := stepState_of_none hnone (t := t') (w := w')
      rw [← hname] at hstep'
      exact .inr ⟨_, _, _, _, hstep, hstep', .error _, hw⟩
  | some found =>
    obtain ⟨rule, tr, captures⟩ := found
    obtain ⟨tr', hfirst', halike⟩ :=
      h.taken id id' s s' hs hs' hname line.text rule tr captures hfirst
    have hbuiltin := h.standard.builtin s (mem_of_get? hs) tr (State.mem_of_firstMatch? hfirst)
    have hsame : t.SameName t' s.id s'.id := by
      rw [hid, hid']
      exact ⟨s, s', hs, hs', hname⟩
    obtain ⟨r, r', v, v', hfire, hfire', hagree, hv⟩ :=
      fire_follows line captures hbuiltin halike hsame hw
    refine .inr ?_
    cases hagree with
    | error fault =>
      exact ⟨_, _, _, _, stepState_of_fire_error hfirst hfire,
        stepState_of_fire_error hfirst' hfire', .error fault, hv⟩
    | ok houtcome =>
      refine ⟨_, _, _, _, stepState_of_fire_ok hfirst hfire, stepState_of_fire_ok hfirst' hfire',
        .ok houtcome, hv.stack, hv.data, ?_⟩
      simp [hv.log, hname, halike.pattern]

/-! ### One line -/

/-- The result is the error about a line that a state does not know. -/
def Unknown {α : Type} (r : Except ParseError α) : Prop :=
  ∃ number name text, r = .error (.unmatchedLine number name text)

/-- The second table ends the line as the first one does, if `Table.Follows` holds. The induction
is on the number of states that may be tried: a state that is taken back in one table has the name
of the one that is taken back in the other. -/
theorem resolve_follows (line : Line) (budget : Nat) (h : t.Follows loose t')
    (hid : t.SameName t' id id') (hw : t.AlikeWork t' w w') {r : Except ParseError StateId}
    {v : Work Events} (hr : t.resolve line budget id w = some (r, v)) :
    (loose ∧ Unknown r) ∨
    ∃ r' v', t'.resolve line budget id' w' = some (r', v') ∧
      Agree (t.SameName t') r r' ∧ t.AlikeWork t' v v' := by
  induction budget generalizing id id' w w' with
  | zero => simp [resolve] at hr
  | succ budget ih =>
    obtain ⟨s, s', hs, hs', hname⟩ := hid
    rcases stepState_follows line h hs hs' hname hw with
      ⟨hloose, hstep⟩ | ⟨q, q', u, u', hstep, hstep', hagree, hu⟩
    · rw [resolve_of_error budget hs hstep] at hr
      cases hr
      exact .inl ⟨hloose, _, _, _, rfl⟩
    · cases hagree with
      | error fault =>
        rw [resolve_of_error budget hs hstep] at hr
        cases hr
        exact .inr ⟨_, _, resolve_of_error budget hs' hstep', .error fault, hu⟩
      | ok houtcome =>
        cases houtcome with
        | settled hnext =>
          rw [resolve_of_settled budget hs hstep hnext.has] at hr
          cases hr
          exact .inr ⟨_, _, resolve_of_settled budget hs' hstep' hnext.has', .ok hnext, hu⟩
        | resumed hnext =>
          -- Both lines go on with one try less, in states of one name.
          rw [resolve_of_resumed budget hs hstep hnext.has] at hr
          rw [resolve_of_resumed budget hs' hstep' hnext.has']
          exact ih hnext hu hr

end Table

namespace Engine

open Table (Unknown)

/-- Two parses that stand at the same place, by the names of the states. -/
structure Alike (loose : Prop) (e e' : Engine Events) : Prop where
  tables : e.table.Follows loose e'.table
  options : e'.options = e.options
  current : e.table.SameName e'.table e.current e'.current
  lineno : e'.lineno = e.lineno
  trace : e'.trace = e.trace
  work : e.table.AlikeWork e'.table e.work e'.work

variable {loose : Prop} {e e' : Engine Events}

/-- Two parses that are about to begin stand at the same place in the sense of `Engine.Alike`,
since their initial states have one name and nothing is saved. -/
theorem alike_start {t t' : Table Events} (h : t.Follows loose t') (options : ParseOptions)
    (events : Events) : (start t options events).Alike loose (start t' options events) :=
  ⟨h, rfl, h.initial, rfl, rfl, ⟨.nil, rfl, rfl⟩⟩

/-! ### One line of a parse -/

/-- With the ready-made actions every line ends: each state that is taken back leaves one saved
state less. The answer is that of `Table.unwind`, and the budget is large enough. -/
theorem Alike.exists_resolve_eq (h : e.Alike loose e') (extra : Nat) (text : String) :
    ∃ answer, e.table.resolve (e.lineOf text) (e.budget extra) e.current e.work = some answer := by
  obtain ⟨w, hresolve, -, -⟩ := Table.resolve_unwind h.tables.standard (e.lineOf text)
    e.stack.topDown (e.budget extra) (e.length_lt_budget extra) e.current e.work h.current.has
    (Table.has_of_forall₂ h.work.stack) rfl
  exact ⟨_, hresolve⟩

/-- A line of a parse ends, and the other parse takes it in the same way, or the first table does
not know it. Behind it both stand at the same place again. -/
theorem Alike.feed_follows (h : e.Alike loose e') (extra : Nat) (text : String) :
    ∃ r f, e.feed extra text = some (r, f) ∧
      ((loose ∧ Unknown r) ∨
        ∃ r' f', e'.feed extra text = some (r', f') ∧
          Agree (e.table.SameName e'.table) r r' ∧ f.Alike loose f') := by
  obtain ⟨⟨r, v⟩, hresolve⟩ := h.exists_resolve_eq extra text
  have hline : e'.lineOf text = e.lineOf text := by
    rw [lineOf, lineOf, h.lineno]
  -- The stacks are equally deep, so both lines may try equally many states.
  have hbudget : e'.budget extra = e.budget extra := by
    have hlength : e.stack.topDown.length = e'.stack.topDown.length := h.work.stack.length_eq
    show e'.stack.topDown.length + 1 + extra = e.stack.topDown.length + 1 + extra
    omega
  have hfeed : e.feed extra text = some (e.answer text (r, v)) := feed_of_resolve hresolve
  rcases Table.resolve_follows (e.lineOf text) (e.budget extra) h.tables h.current h.work hresolve
    with ⟨hloose, number, name, line, rfl⟩ | ⟨r', v', hresolve', hagree, hv⟩
  · exact ⟨_, _, hfeed, .inl ⟨hloose, number, name, line, rfl⟩⟩
  · have hfeed' : e'.feed extra text = some (e'.answer text (r', v')) := by
      rw [feed_eq, hline, hbudget, hresolve']
      rfl
    cases hagree with
    | error fault =>
      refine ⟨_, _, hfeed, .inr ⟨_, _, hfeed', .error fault, ?_⟩⟩
      exact ⟨h.tables, h.options, h.current, congrArg (· + 1) h.lineno, h.trace, hv⟩
    | @ok next next' hnext =>
      have hsource : e'.table.nameOf e'.current = e.table.nameOf e.current := h.current.nameOf_eq
      have hdest : e'.table.nameOf next' = e.table.nameOf next := hnext.nameOf_eq
      refine ⟨_, _, hfeed, .inr ⟨_, _, hfeed', .ok hnext, ?_⟩⟩
      refine ⟨h.tables, h.options, hnext, congrArg (· + 1) h.lineno, ?_, hv.stack, hv.data, ?_⟩
      · simp [settle, withWork, take, h.trace, h.lineno, hsource, hdest]
      · show v'.log.push (.stepped (e'.lineno + 1) (e'.table.nameOf e'.current) _) =
          v.log.push (.stepped (e.lineno + 1) (e.table.nameOf e.current) _)
        rw [hv.log, h.lineno, hsource]
        exact congrArg (fun name => v.log.push (.stepped _ _ name)) hdest

/-! ### Runs -/

/-- The run ends on a line that its table does not know. -/
def EndsUnknown (answer : Option (Answer Events Summary)) : Prop :=
  ∃ r e, answer = some (r, e) ∧ Unknown r

/-- Both runs end, with the same summary or the same error, and leave the same
events and the same reports. -/
def Repeats (answer answer' : Option (Answer Events Summary)) : Prop :=
  ∃ r e e', answer = some (r, e) ∧ answer' = some (r, e') ∧ e'.data = e.data ∧ e'.log = e.log

/-- Parses that stand at the same place end in the same way, with equal summaries or equal errors,
since `Engine.finish` shows states by name. -/
theorem Alike.finish_follows (h : e.Alike loose e') : Repeats (some e.finish) (some e'.finish) := by
  have hdata : e'.data = e.data := h.work.data
  have hlog : e'.log = e.log := h.work.log
  have hname : e'.currentName = e.currentName := h.current.nameOf_eq
  have hstack : e'.stack.bottomUp.map e'.table.nameOf = e.stack.bottomUp.map e.table.nameOf := by
    rw [ContextStack.bottomUp, ContextStack.bottomUp, List.map_reverse, List.map_reverse]
    exact congrArg List.reverse (Table.map_nameOf_eq h.work.stack)
  unfold finish
  simp only [hstack, hname, h.options, h.lineno, h.trace, hlog]
  split
  · exact ⟨_, _, _, rfl, rfl, hdata, hlog⟩
  · exact ⟨_, _, _, rfl, rfl, hdata, rfl⟩

/-- A run over lines of text gives the same in both parses, or ends on a line that the first table
does not know. The induction is on the lines, with `Engine.Alike` before each. -/
theorem Alike.parse_follows (h : e.Alike loose e') (extra : Nat) (lines : List String) :
    (loose ∧ EndsUnknown (e.parse extra lines)) ∨
      Repeats (e.parse extra lines) (e'.parse extra lines) := by
  induction lines generalizing e e' with
  | nil => exact .inr h.finish_follows
  | cons text rest ih =>
    obtain ⟨r, f, hfeed, ⟨hloose, number, name, line, rfl⟩ | ⟨r', f', hfeed', hagree, hf⟩⟩ :=
      h.feed_follows extra text
    · exact .inl ⟨hloose, _, f, parse_of_error hfeed, _, _, _, rfl⟩
    · cases hagree with
      | error fault =>
        exact .inr ⟨_, f, f', parse_of_error hfeed, parse_of_error hfeed', hf.work.data,
          hf.work.log⟩
      | ok hnext =>
        rw [parse_of_ok hfeed, parse_of_ok hfeed']
        exact ih hf

/-- A run over what a reader delivers gives the same in both parses, as in `Alike.parse_follows`.
The settings are equal, so both decode a line to the same text or refuse it. -/
theorem Alike.parseItems_follows (h : e.Alike loose e') (extra : Nat)
    (items : List (Except String (List UInt8))) :
    (loose ∧ EndsUnknown (e.parseItems extra items)) ∨
      Repeats (e.parseItems extra items) (e'.parseItems extra items) := by
  induction items generalizing e e' with
  | nil => exact .inr h.finish_follows
  | cons item rest ih =>
    cases item with
    | error message => exact .inr ⟨_, e, e', rfl, rfl, h.work.data, h.work.log⟩
    | ok bytes =>
      cases hdecode : e.options.decoding.decode bytes with
      | none =>
        -- Both refuse the line, under the same number.
        have hdecode' : e'.options.decoding.decode bytes = none := by
          rw [h.options]
          exact hdecode
        refine .inr ⟨_, e, e', parseItems_of_undecoded hdecode, ?_, h.work.data, h.work.log⟩
        rw [parseItems_of_undecoded hdecode', h.lineno]
      | some text =>
        have hdecode' : e'.options.decoding.decode bytes = some text := by
          rw [h.options]
          exact hdecode
        obtain ⟨r, f, hfeed, ⟨hloose, number, name, line, rfl⟩ | ⟨r', f', hfeed', hagree, hf⟩⟩ :=
          h.feed_follows extra text
        · exact .inl ⟨hloose, _, f, parseItems_of_error hdecode hfeed, _, _, _, rfl⟩
        · cases hagree with
          | error fault =>
            exact .inr ⟨_, f, f', parseItems_of_error hdecode hfeed,
              parseItems_of_error hdecode' hfeed', hf.work.data, hf.work.log⟩
          | ok hnext =>
            rw [parseItems_of_ok hdecode hfeed, parseItems_of_ok hdecode' hfeed']
            exact ih hf

/-- The comparison `Engine.Repeats` goes both ways, because it asks for equal results. -/
theorem Repeats.symm {answer answer' : Option (Answer Events Summary)}
    (h : Repeats answer answer') : Repeats answer' answer := by
  obtain ⟨r, e, e', hrun, hrun', hdata, hlog⟩ := h
  exact ⟨r, e', e, hrun', hrun, hdata.symm, hlog.symm⟩

end Engine

namespace Table

open Engine (start Repeats)

/-- Every run gives the same in both tables, over lines of text and over bytes,
with any settings: it ends, with the same summary or the same error, the same
events and the same reports, in which every match is told with its state, its
position and its pattern. -/
def RunsAlike (t t' : Table Events) : Prop :=
  ∀ (options : ParseOptions) (events : Events) (extra : Nat),
    (∀ lines : List String, Repeats ((start t options events).parse extra lines)
      ((start t' options events).parse extra lines)) ∧
    ∀ source : Text.Source, Repeats ((start t options events).parseSource extra source)
      ((start t' options events).parseSource extra source)

variable {t t' : Table Events}

/-- Two tables run alike in either order, by `Repeats.symm` for every run. -/
theorem RunsAlike.symm (h : t.RunsAlike t') : t'.RunsAlike t := by
  intro options events extra
  obtain ⟨hlines, hsource⟩ := h options events extra
  exact ⟨fun lines => (hlines lines).symm, fun source => (hsource source).symm⟩

/-- A table that follows another one, and knows no other lines, runs alike. With `loose` false the
exception of `Alike.parse_follows` cannot occur. -/
theorem Follows.runsAlike (h : t.Follows False t') : t.RunsAlike t' := by
  intro options events extra
  have hstart := Engine.alike_start h options events
  constructor
  · intro lines
    exact (hstart.parse_follows extra lines).resolve_left fun hloose => hloose.1
  · intro source
    exact (hstart.parseItems_follows extra source.lines).resolve_left fun hloose => hloose.1

end Table

end LineMachine
