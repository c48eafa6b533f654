import LineMachine.Machine.Engine
import LineMachine.Proofs.Machine.Resolve

/-!
# `LineMachine.Proofs.Machine.Feed`: what one line does to a parse

`Engine.feed` consumes a line and `Engine.parse` a list of them. The lemmas
here say once what one line can do, so that later proofs about runs do not open
`feed` again.

* `Engine.feed_eq`, `Engine.feed_of_resolve` and `Engine.feed_cases`: a line fails
  or leads to a state, as `Table.resolve` says.
* `Engine.table_of_feed` and `Engine.options_of_feed`: the table and the
  settings never change. `Engine.feed_mapOptions`: a line does not depend on the settings.
* `Engine.finish_cases`: a parse ends with its `Engine.summary`, or fails over
  the states that are left.
* `Engine.parse_of_error`, `Engine.parse_of_ok` and their companions for read
  items unfold a run by one line. `Engine.parseItems_induction` is the induction
  over a run of read items that has ended.
* `Engine.Reaches` relates a parse to what it becomes by feeding lines, failing
  ones included, and `Engine.Reaches.invariant` carries what every line keeps
  through such a run. `Engine.Consumes` is a run in which no line fails, and
  `Engine.Consumes.parse_append` says that a parse goes on behind it.
-/

set_option autoImplicit false

namespace LineMachine

variable {δ : Type}

namespace Engine

variable {e e' : Engine δ} {extra : Nat} {text : String} {w : Work δ}

/-- The line that is consumed next, when this text comes. -/
def lineOf (e : Engine δ) (text : String) : Line := ⟨Text.stripTerminator text, e.lineno + 1⟩

/-- What the actions find. -/
def work (e : Engine δ) : Work δ := ⟨e.stack, e.data, e.log⟩

/-- How many states a line may try. -/
def budget (e : Engine δ) (extra : Nat) : Nat := e.stack.depth + 1 + extra

/-- The answer to a line, from the end of the tries. -/
def answer (e : Engine δ) (text : String) : Except ParseError StateId × Work δ → Answer δ StateId
  | (.error fault, w) => (.error fault, (e.take text).withWork w)
  | (.ok next, w) => (.ok next, ((e.take text).withWork w).settle next)

/-! ### One line -/

/-- What `Engine.feed` does with a line is `Table.resolve` from the present state, with
`Engine.budget` tries, and then `Engine.answer`. All that is known of a line comes from this
equation. -/
theorem feed_eq (e : Engine δ) (extra : Nat) (text : String) :
    e.feed extra text =
      (e.table.resolve (e.lineOf text) (e.budget extra) e.current e.work).map (e.answer text) := by
  rcases h : e.table.resolve (e.lineOf text) (e.budget extra) e.current e.work with
    _ | ⟨_ | next, w⟩
  all_goals
    simp only [lineOf, budget, work] at h
    simp [feed, take, h, answer]

/-- An answer that `Table.resolve` finds for the line is the answer of `Engine.feed`, put into the
parse by `Engine.answer`. It serves the proofs that build an answer, as `feed_cases` serves those
that have one. -/
theorem feed_of_resolve {found : Except ParseError StateId × Work δ}
    (h : e.table.resolve (e.lineOf text) (e.budget extra) e.current e.work = some found) :
    e.feed extra text = some (e.answer text found) := by
  rw [feed_eq, h]
  rfl

/-- A line may try one more state than are saved when it comes. Hence `Engine.budget` suffices for
a table whose tries shorten the stack, even if `extra` is zero. -/
theorem length_lt_budget (e : Engine δ) (extra : Nat) :
    e.work.stack.topDown.length < e.budget extra := by
  show e.stack.topDown.length < e.stack.topDown.length + 1 + extra
  omega

/-- What can come of a line. It fails and leaves the parse where it stood, with what the actions
changed, or it leads to a state and `Engine.settle` records the step. -/
theorem feed_cases {result : Except ParseError StateId}
    (h : e.feed extra text = some (result, e')) :
    ∃ w, e.table.resolve (e.lineOf text) (e.budget extra) e.current e.work = some (result, w) ∧
      ((∃ fault, result = .error fault ∧ e' = (e.take text).withWork w) ∨
        ∃ next, result = .ok next ∧ e' = ((e.take text).withWork w).settle next) := by
  rw [feed_eq, Option.map_eq_some_iff] at h
  obtain ⟨⟨result', w⟩, hresolve, hanswer⟩ := h
  cases result' with
  | error fault =>
    cases hanswer
    exact ⟨w, hresolve, .inl ⟨fault, rfl, rfl⟩⟩
  | ok next =>
    cases hanswer
    exact ⟨w, hresolve, .inr ⟨next, rfl, rfl⟩⟩

/-- No line changes the table of a parse, be it consumed or refused. Hence all that is known of
the table at the start can be used wherever the parse stands. -/
theorem table_of_feed {result : Except ParseError StateId}
    (h : e.feed extra text = some (result, e')) : e'.table = e.table := by
  obtain ⟨w, -, ⟨fault, -, rfl⟩ | ⟨next, -, rfl⟩⟩ := feed_cases h <;> rfl

/-- No line changes the settings of a parse, so the decoding and the requirement on the stack are
those of `Engine.start` up to the end of the input. -/
theorem options_of_feed {result : Except ParseError StateId}
    (h : e.feed extra text = some (result, e')) : e'.options = e.options := by
  obtain ⟨w, -, ⟨fault, -, rfl⟩ | ⟨next, -, rfl⟩⟩ := feed_cases h <;> rfl

/-- The parse with other settings. -/
def mapOptions (e : Engine δ) (f : ParseOptions → ParseOptions) : Engine δ :=
  { e with options := f e.options }

/-- A line does the same in all settings: `Engine.feed` looks at none of them. The decoding is
used before it and the requirement on the stack behind it (`feed_decodedAs`, `feed_requiring`). -/
theorem feed_mapOptions (e : Engine δ) (f : ParseOptions → ParseOptions) (extra : Nat)
    (text : String) :
    (e.mapOptions f).feed extra text =
      (e.feed extra text).map fun answer => (answer.1, answer.2.mapOptions f) := by
  have hanswer : ∀ found, (e.mapOptions f).answer text found =
      ((e.answer text found).1, (e.answer text found).2.mapOptions f) := by
    rintro ⟨_ | _, w⟩ <;> rfl
  rw [feed_eq, feed_eq, Option.map_map, funext hanswer]
  rfl

/-- Every line counts, whether it fails or not, because `Engine.take` counts it before any state
is tried. Line numbers in errors and events rest on this. -/
theorem lineno_of_feed {result : Except ParseError StateId}
    (h : e.feed extra text = some (result, e')) : e'.lineno = e.lineno + 1 := by
  obtain ⟨w, -, ⟨fault, -, rfl⟩ | ⟨next, -, rfl⟩⟩ := feed_cases h <;> rfl

/-! ### The end -/

/-- What a parse found so far. -/
def summary (e : Engine δ) : Summary :=
  ⟨e.currentName, e.lineno, e.stack.bottomUp.map e.table.nameOf, e.trace⟩

/-- Every saved state is shown by one name, also a number that the table does not have. So the
length in an `unbalancedStack` error is the depth of the stack. -/
theorem length_stack_summary (e : Engine δ) : e.summary.stack.length = e.stack.depth := by
  simp [summary, ContextStack.bottomUp, ContextStack.depth]

/-- What `Engine.finish` makes of a parse: an error if states are left that must not be, and else
the summary with some more reports. The data, the stack and the trace stay in both cases. -/
theorem finish_cases (e : Engine δ) :
    (e.options.requireEmptyStack = true ∧ e.stack.topDown ≠ [] ∧
      e.finish = (.error (.unbalancedStack e.stack.depth e.summary.stack), e)) ∨
    ((e.options.requireEmptyStack = true → e.stack.topDown = []) ∧
      ∃ log, e.finish = (.ok e.summary, { e with log })) := by
  have hlength : (e.stack.bottomUp.map e.table.nameOf).length = e.stack.depth :=
    e.length_stack_summary
  by_cases hrequired : e.options.requireEmptyStack = true
  · by_cases hempty : e.stack.topDown = []
    · refine .inr ⟨fun _ => hempty, ?_⟩
      simp [finish, summary, ContextStack.bottomUp, hempty]
    · refine .inl ⟨hrequired, hempty, ?_⟩
      simp [finish, summary, hrequired, hlength]
      simp [ContextStack.bottomUp, hempty]
  · refine .inr ⟨fun h => absurd h hrequired, ?_⟩
    simp [finish, summary, hrequired]

/-! ### One line of a run -/

/-- A line without an answer leaves `Engine.parse` without one. For tables of definitions this
never happens (`Table.terminates`). -/
theorem parse_of_none {rest : List String} (h : e.feed extra text = none) :
    e.parse extra (text :: rest) = none := by
  simp [parse, h]

/-- The first line that fails ends `Engine.parse` with its error, and the lines behind it are not
looked at. The parse that is left is the one behind the failing line. -/
theorem parse_of_error {fault : ParseError} {rest : List String}
    (h : e.feed extra text = some (.error fault, e')) :
    e.parse extra (text :: rest) = some (.error fault, e') := by
  simp [parse, h]

/-- A line that leads to a state is taken off the front of the lines, and `Engine.parse` goes on
with the others. Together with `parse_of_error` this unfolds every run. -/
theorem parse_of_ok {next : StateId} {rest : List String}
    (h : e.feed extra text = some (.ok next, e')) :
    e.parse extra (text :: rest) = e'.parse extra rest := by
  simp [parse, h]

section Items

variable {bytes : List UInt8} {rest : List (Except String (List UInt8))}

/-- A line that cannot be decoded ends the run of `Engine.parseItems`. The error has the number
that the line would have had, and the line itself was not counted. -/
theorem parseItems_of_undecoded (h : e.options.decoding.decode bytes = none) :
    e.parseItems extra (.ok bytes :: rest) = some (.error (.decode (e.lineno + 1)), e) := by
  simp [parseItems, h]

/-- A decoded line without an answer leaves `Engine.parseItems` without one, as in
`parse_of_none`. -/
theorem parseItems_of_none (hdecode : e.options.decoding.decode bytes = some text)
    (h : e.feed extra text = none) : e.parseItems extra (.ok bytes :: rest) = none := by
  simp [parseItems, hdecode, h]

/-- A decoded line that fails ends `Engine.parseItems` with its error, and nothing more is read,
not even a failure of the reader. -/
theorem parseItems_of_error {fault : ParseError}
    (hdecode : e.options.decoding.decode bytes = some text)
    (h : e.feed extra text = some (.error fault, e')) :
    e.parseItems extra (.ok bytes :: rest) = some (.error fault, e') := by
  simp [parseItems, hdecode, h]

/-- A decoded line that leads to a state is taken off the front, and `Engine.parseItems` goes on.
With the other lemmas of this section it unfolds a run over bytes as `parse_of_ok` does over
texts. -/
theorem parseItems_of_ok {next : StateId} (hdecode : e.options.decoding.decode bytes = some text)
    (h : e.feed extra text = some (.ok next, e')) :
    e.parseItems extra (.ok bytes :: rest) = e'.parseItems extra rest := by
  simp [parseItems, hdecode, h]

/-- A run over items that has ended, taken apart along the items. It ended behind the last item,
at a failure of the reader, at a line that does not decode or at one whose text fails; with every
other line it went on. What is shown of all runs that end, as in `logsAs_of_parseItems`, is shown
in these five cases. -/
@[elab_as_elim]
theorem parseItems_induction {answer : Answer δ Summary}
    {motive : Engine δ → List (Except String (List UInt8)) → Prop}
    (finished : ∀ {e : Engine δ}, e.finish = answer → motive e [])
    (broken : ∀ {e : Engine δ} {message : String} {rest : List (Except String (List UInt8))},
      (.error (.io message), e) = answer → motive e (.error message :: rest))
    (undecoded : ∀ {e : Engine δ} {bytes : List UInt8}
      {rest : List (Except String (List UInt8))}, e.options.decoding.decode bytes = none →
      (.error (.decode (e.lineno + 1)), e) = answer → motive e (.ok bytes :: rest))
    (failed : ∀ {e e' : Engine δ} {bytes : List UInt8} {text : String} {fault : ParseError}
      {rest : List (Except String (List UInt8))}, e.options.decoding.decode bytes = some text →
      e.feed extra text = some (.error fault, e') → (.error fault, e') = answer →
      motive e (.ok bytes :: rest))
    (line : ∀ {e e' : Engine δ} {bytes : List UInt8} {text : String} {next : StateId}
      {rest : List (Except String (List UInt8))}, e.options.decoding.decode bytes = some text →
      e.feed extra text = some (.ok next, e') → motive e' rest → motive e (.ok bytes :: rest))
    {e : Engine δ} {items : List (Except String (List UInt8))}
    (h : e.parseItems extra items = some answer) : motive e items := by
  induction items generalizing e with
  | nil => exact finished (Option.some.inj h)
  | cons item rest ih =>
    cases item with
    | error message => exact broken (Option.some.inj h)
    | ok bytes =>
      cases hdecode : e.options.decoding.decode bytes with
      | none =>
        rw [parseItems_of_undecoded hdecode] at h
        exact undecoded hdecode (Option.some.inj h)
      | some text =>
        rcases hfeed : e.feed extra text with _ | ⟨fault | next, e'⟩
        · rw [parseItems_of_none hdecode hfeed] at h
          cases h
        · rw [parseItems_of_error hdecode hfeed] at h
          exact failed hdecode hfeed (Option.some.inj h)
        · rw [parseItems_of_ok hdecode hfeed] at h
          exact line hdecode hfeed (ih h)

end Items

/-! ### Runs -/

/-- The parse becomes another one by feeding lines. A run goes on behind a line
that fails. -/
inductive Reaches (e : Engine δ) : Engine δ → Prop where
  /-- no line -/
  | refl : Reaches e e
  /-- one more line, with an answer of either kind -/
  | feed {e' e'' : Engine δ} {extra : Nat} {text : String} {result : Except ParseError StateId}
      (before : Reaches e e') (line : e'.feed extra text = some (result, e'')) : Reaches e e''

/-- What every line keeps holds after every run. The induction is on `Engine.Reaches`, so lines
that fail are among those for which `step` has to show it. -/
theorem Reaches.invariant {P : Engine δ → Prop} (h : e.Reaches e')
    (step : ∀ (e : Engine δ) (extra : Nat) (text : String) (result : Except ParseError StateId)
      (e' : Engine δ), P e → e.feed extra text = some (result, e') → P e') (he : P e) : P e' := by
  induction h with
  | refl => exact he
  | feed _ line ih => exact step _ _ _ _ _ ih line

/-- No run changes the table, by `table_of_feed` for each of its lines. Facts about the table of a
start are facts about every parse that is reached. -/
theorem Reaches.table_eq (h : e.Reaches e') : e'.table = e.table := by
  induction h with
  | refl => rfl
  | feed _ line ih => exact (table_of_feed line).trans ih

/-- The parse consumes lines, one after the other, and none of them fails. -/
inductive Consumes (extra : Nat) : Engine δ → List String → Engine δ → Prop where
  /-- no line -/
  | nil (e : Engine δ) : Consumes extra e [] e
  /-- a line that leads to a state, and more lines -/
  | cons {e e' e'' : Engine δ} {text : String} {rest : List String} {next : StateId}
      (line : e.feed extra text = some (.ok next, e')) (more : Consumes extra e' rest e'') :
      Consumes extra e (text :: rest) e''

/-- Lines that are consumed count, one for each of them. The number of a line is told from its
place in the input by this. -/
theorem Consumes.lineno_eq {lines : List String} (h : e.Consumes extra lines e') :
    e'.lineno = e.lineno + lines.length := by
  induction h with
  | nil e => rfl
  | cons line _ ih =>
    rw [ih, lineno_of_feed line, List.length_cons]
    omega

/-- No run changes the settings, by `options_of_feed`, so the lines of an input are all decoded in
the same way. -/
theorem Consumes.options_eq {lines : List String} (h : e.Consumes extra lines e') :
    e'.options = e.options := by
  induction h with
  | nil e => rfl
  | cons line _ ih => exact ih.trans (options_of_feed line)

/-- A parse goes on behind the lines that `Engine.Consumes` takes. What it comes to on more lines
is what the parse behind them comes to, so runs can be cut anywhere before the first failure. -/
theorem Consumes.parse_append {lines : List String} (h : e.Consumes extra lines e')
    (more : List String) : e.parse extra (lines ++ more) = e'.parse extra more := by
  induction h with
  | nil e => rfl
  | cons line _ ih => rw [List.cons_append, parse_of_ok line, ih]

/-- No run without failures changes the table, by `table_of_feed`. It is stated beside
`Reaches.table_eq`, because the two kinds of runs are different relations. -/
theorem Consumes.table_eq {lines : List String} (h : e.Consumes extra lines e') :
    e'.table = e.table := by
  induction h with
  | nil e => rfl
  | cons line _ ih => exact ih.trans (table_of_feed line)

end Engine

end LineMachine
