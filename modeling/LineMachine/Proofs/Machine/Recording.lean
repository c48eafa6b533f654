import LineMachine.Proofs.Machine.Operation
import Mathlib.Data.List.Chain

/-!
# `LineMachine.Proofs.Machine.Recording`: the trace is the history

A trace can be asked for by the settings, or later by the owner. From then on it holds
a step for every line that is consumed, and none for a line that fails, although that
line counts.

* `Turn.steps` reads the steps off what the owner did and what came of it, without
  looking at a trace.
* `TraceHistory` says that the trace is these steps, and what follows from it: every
  step begins where the one before it ended.
* `Leads` is a path through names. `Engine.leads_of_performAll` says that the steps are
  one, from the state in which the recording began to the present one.
* `Engine.untraced` forgets the trace and whether there is one. The lemmas
  `Engine.feed_untraced` and `Engine.performAll_untraced` say that a parse which forgets
  it does the same as before.
* `Engine.recorded_history` states both results for every run.
-/

set_option autoImplicit false

namespace LineMachine

variable {δ : Type}

/-! ### The steps of a run -/

/-- The steps that a run should have left: one for each line that led to a state since
the steps are recorded. `on` says whether they are recorded from the beginning, and
`lines` is how many lines came before. A line that fails counts. -/
def Turn.steps (on : Bool) (lines : Nat) : List (Turn δ) → List Step
  | [] => []
  | turn :: rest =>
    match turn.operation, turn.result with
    | .recording, _ => Turn.steps true lines rest
    | .data _, _ => Turn.steps on lines rest
    | .feed _ _, some (.ok _) =>
      if on then
        ⟨lines + 1, turn.before.currentName, turn.after.currentName⟩ ::
          Turn.steps on (lines + 1) rest
      else Turn.steps on (lines + 1) rest
    | .feed _ _, _ => Turn.steps on (lines + 1) rest

/-- The turn at which the recording begins, if it was not on before. -/
def Turn.beginning? (turns : List (Turn δ)) : Option (Turn δ) :=
  turns.find? fun turn => turn.operation.isRecording

/-- Each step begins where the one before it ended, and they lead from the first name to
the second. -/
inductive Leads : String → List Step → String → Prop where
  /-- no step -/
  | nil (name : String) : Leads name [] name
  /-- a step, and more of them from where it leads -/
  | cons (lineno : Nat) {source middle destination : String} {rest : List Step}
      (more : Leads middle rest destination) :
      Leads source (⟨lineno, source, middle⟩ :: rest) destination

namespace Leads

variable {source destination : String} {steps : List Step}

/-- The first step of a path begins at the name that `Leads` starts from. For a trace this is the
state in which the recording began. -/
theorem head (h : Leads source steps destination) : ∀ step ∈ steps.head?, step.source = source := by
  cases h with
  | nil => simp
  | cons => simp

/-- The last step of a path ends at the name that `Leads` comes to. For a trace this is the final
state of the summary. -/
theorem getLast (h : Leads source steps destination) :
    ∀ step ∈ steps.getLast?, step.destination = destination := by
  induction h with
  | nil => simp
  | cons lineno more ih =>
    cases more with
    | nil => simp
    | cons => exact ih

/-- Each step of a path begins where the one before it ended. `TraceHistory.linked` is this chain
for the steps that were recorded. -/
theorem isChain (h : Leads source steps destination) :
    steps.IsChain fun step next => next.source = step.destination := by
  induction h with
  | nil => exact .nil
  | cons lineno more ih =>
    cases more with
    | nil => exact .singleton _
    | cons => exact .cons_cons rfl ih

end Leads

namespace Engine

variable {e e' last : Engine δ} {ops : List (Operation δ)} {turns : List (Turn δ)}

/-- The steps that are recorded, the first one first. -/
def recorded (e : Engine δ) : List Step := e.trace.elim [] Trace.toList

/-! ### What one operation adds to the trace -/

/-- A line that fails records nothing, and the present state stays, since `Engine.settle` runs
behind a good answer only. -/
theorem feed_error_trace {extra : Nat} {text : String} {fault : ParseError}
    (h : e.feed extra text = some (.error fault, e')) :
    e'.trace = e.trace ∧ e'.currentName = e.currentName := by
  obtain ⟨w, -, ⟨fault', -, rfl⟩ | ⟨next, hok, -⟩⟩ := feed_cases h
  · exact ⟨rfl, rfl⟩
  · cases hok

/-- A line that leads to a state records one step, if steps are recorded. It has the number of the
line and the names of the present state before and behind it, as `Turn.steps` reads them off. -/
theorem feed_ok_trace {extra : Nat} {text : String} {next : StateId}
    (h : e.feed extra text = some (.ok next, e')) :
    e'.trace = e.trace.map fun trace =>
      trace.record ⟨e.lineno + 1, e.currentName, e'.currentName⟩ := by
  obtain ⟨w, -, ⟨fault, herror, -⟩ | ⟨next', -, rfl⟩⟩ := feed_cases h
  · cases herror
  · rfl

/-- What was recorded before is kept when the owner asks for a record by `Engine.recording`, also
if there was no trace: then nothing was recorded, and the new trace is empty. -/
theorem recorded_recording (e : Engine δ) : e.recording.recorded = e.recorded := by
  cases h : e.trace <;> simp [recorded, recording, h, Trace.empty, Trace.toList]

/-- The trace of a run is the one from before with `Turn.steps` behind it, and there is one if
there was one or some turn asked for it. The induction is on the operations. -/
theorem recorded_of_performAll (h : e.performAll ops = some (turns, last)) :
    last.trace.isSome = (e.trace.isSome || (Turn.beginning? turns).isSome) ∧
      last.recorded = e.recorded ++ Turn.steps e.trace.isSome e.lineno turns := by
  induction ops generalizing e turns with
  | nil =>
    cases h
    simp [Turn.steps, Turn.beginning?]
  | cons op rest ih =>
    obtain ⟨turn, more, hturn, hmore, rfl⟩ := performAll_cons h
    obtain ⟨hsome, hrecorded⟩ := ih hmore
    rw [hsome, hrecorded]
    -- A line records its step if it succeeds and there is a trace; the other turns record none.
    rcases perform_cases hturn with ⟨extra, text, result, e', -, hfeed, rfl⟩ | ⟨-, rfl⟩ |
      ⟨change, -, rfl⟩
    · dsimp only
      rw [lineno_of_feed hfeed]
      cases result with
      | error fault =>
        obtain ⟨htrace, -⟩ := feed_error_trace hfeed
        simp [recorded, htrace, Turn.steps, Turn.beginning?, Operation.isRecording]
      | ok next =>
        have htrace := feed_ok_trace hfeed
        cases hon : e.trace with
        | none => simp [recorded, htrace, hon, Turn.steps, Turn.beginning?, Operation.isRecording]
        | some trace =>
          simp [recorded, htrace, hon, Turn.steps, Turn.beginning?, Operation.isRecording,
            Trace.record, Trace.toList]
    · refine ⟨by simp [recording, Turn.beginning?, Operation.isRecording], ?_⟩
      rw [recorded_recording]
      rfl
    · simp [recorded, Turn.steps, Turn.beginning?, Operation.isRecording]

/-- What is recorded is never dropped later: the steps of each parse in a run are the first ones
of the last parse. It is `recorded_of_performAll` for the turns behind that parse. -/
theorem recorded_isPrefix (h : e.performAll ops = some (turns, last)) :
    ∀ turn ∈ turns, turn.before.recorded <+: last.recorded := by
  induction ops generalizing e turns with
  | nil =>
    cases h
    simp
  | cons op rest ih =>
    obtain ⟨turn, more, hturn, hmore, rfl⟩ := performAll_cons h
    intro turn' hmem
    rcases List.mem_cons.mp hmem with rfl | hmem
    · rw [(turn_of_perform hturn).1, (recorded_of_performAll h).2]
      exact List.prefix_append _ _
    · exact ih hmore turn' hmem

/-! ### The steps are a path -/

/-- While steps are recorded, they lead from the present state before the run to the one behind it
in the sense of `Leads`. Operations other than a line, and lines that fail, keep the present
state. -/
theorem leads_of_performAll (h : e.performAll ops = some (turns, last)) (lines : Nat) :
    Leads e.currentName (Turn.steps true lines turns) last.currentName := by
  induction ops generalizing e turns lines with
  | nil =>
    cases h
    exact .nil _
  | cons op rest ih =>
    obtain ⟨turn, more, hturn, hmore, rfl⟩ := performAll_cons h
    rcases perform_cases hturn with ⟨extra, text, result, e', -, hfeed, rfl⟩ | ⟨-, rfl⟩ |
      ⟨change, -, rfl⟩
    · cases result with
      | error fault =>
        rw [← (feed_error_trace hfeed).2]
        exact ih hmore (lines + 1)
      | ok next => exact .cons _ (ih hmore (lines + 1))
    · exact ih hmore lines
    · exact ih hmore lines

/-- From the first turn that asks for it on, `Turn.steps` lead to the present state behind the
run. If no turn asks, there are no steps and nothing is said. -/
theorem leads_of_beginning (h : e.performAll ops = some (turns, last)) (lines : Nat) :
    Leads ((Turn.beginning? turns).elim last.currentName fun turn => turn.before.currentName)
      (Turn.steps false lines turns) last.currentName := by
  induction ops generalizing e turns lines with
  | nil =>
    cases h
    exact .nil _
  | cons op rest ih =>
    obtain ⟨turn, more, hturn, hmore, rfl⟩ := performAll_cons h
    rcases perform_cases hturn with ⟨extra, text, result, e', -, -, rfl⟩ | ⟨-, rfl⟩ |
      ⟨change, -, rfl⟩
    · cases result with
      | error fault => exact ih hmore (lines + 1)
      | ok next => exact ih hmore (lines + 1)
    · exact leads_of_performAll hmore lines
    · exact ih hmore lines

/-! ### The trace changes nothing -/

/-- The parse without its trace, and without the wish for one. -/
def untraced (e : Engine δ) : Engine δ :=
  { e with options := { e.options with trace := false }, trace := none }

end Engine

/-- The turn of a parse that has no trace. -/
def Turn.untraced (turn : Turn δ) : Turn δ :=
  { turn with before := turn.before.untraced, after := turn.after.untraced }

/-- What else the owner does than have steps recorded. -/
def Operation.unrecorded (ops : List (Operation δ)) : List (Operation δ) :=
  ops.filter fun op => !op.isRecording

/-- The turns in which the owner did something else than have steps recorded, of a parse that
has no trace. -/
def Turn.unrecorded (turns : List (Turn δ)) : List (Turn δ) :=
  (turns.filter fun turn => !turn.operation.isRecording).map Turn.untraced

/-- The summary without its trace. -/
def Summary.untraced (summary : Summary) : Summary := { summary with trace := none }

namespace Engine

variable {e e' last : Engine δ} {ops : List (Operation δ)} {turns : List (Turn δ)}

/-- Asking for the trace is forgotten by `Engine.untraced`, so turns of this kind can be left out
in `performAll_untraced`. -/
@[simp] theorem untraced_recording (e : Engine δ) : e.recording.untraced = e.untraced := rfl

/-- The settings decide only whether there is a trace at the beginning. Parses that begin with it
and without it are the same for `Engine.untraced`, which is how runs of both are compared. -/
theorem untraced_start (t : Table δ) (options : ParseOptions) (on : Bool) (data : δ) :
    (start t { options with trace := on } data).untraced = (start t options data).untraced :=
  rfl

/-- A line has the same result without the trace, and does the same. `Engine.feed` hands the table
neither the trace nor the settings. -/
theorem feed_untraced (e : Engine δ) (extra : Nat) (text : String) :
    e.untraced.feed extra text =
      (e.feed extra text).map fun answer => (answer.1, answer.2.untraced) := by
  have hanswer : ∀ found, e.untraced.answer text found =
      ((e.answer text found).1, (e.answer text found).2.untraced) := by
    rintro ⟨_ | _, w⟩ <;> rfl
  rw [feed_eq, feed_eq, Option.map_map, funext hanswer]
  rfl

/-- An operation that does not ask for the trace is done alike without one. For a line this is
`feed_untraced`, and a change of the data has nothing to do with it. -/
theorem perform_untraced (e : Engine δ) {op : Operation δ} (h : op.isRecording = false) :
    e.untraced.perform op = (e.perform op).map Turn.untraced := by
  cases op with
  | feed extra text =>
    rw [perform, perform, feed_untraced, Option.map_map, Option.map_map]
    rfl
  | recording => cases h
  | data change => rfl

/-- A run without the trace does the same, and need not be asked to record: the operations of this
kind are filtered out by `Operation.unrecorded`, and their turns by `Turn.unrecorded`. -/
theorem performAll_untraced (e : Engine δ) (ops : List (Operation δ)) :
    e.untraced.performAll (Operation.unrecorded ops) =
      (e.performAll ops).map fun run => (Turn.unrecorded run.1, run.2.untraced) := by
  induction ops generalizing e with
  | nil => rfl
  | cons op rest ih =>
    rw [performAll_cons_eq, Operation.unrecorded, List.filter_cons]
    -- A call for recording is left out, and without the trace it would change nothing.
    cases hop : op.isRecording with
    | true =>
      cases op with
      | recording =>
        rw [if_neg (by simp), ← untraced_recording, ← Operation.unrecorded, ih e.recording]
        simp [perform, Turn.unrecorded, Operation.isRecording, Function.comp_def]
      | feed extra text => cases hop
      | data change => cases hop
    | false =>
      rw [if_pos (by rfl), performAll_cons_eq, perform_untraced e hop]
      rcases hturn : e.perform op with _ | turn
      · rfl
      · have hkept : turn.operation.isRecording = false := by
          rw [(turn_of_perform hturn).2, hop]
        have hrest := ih turn.after
        rw [Operation.unrecorded] at hrest
        simp [Turn.untraced, Turn.unrecorded, hkept, hrest, Function.comp_def]

/-- The end of a parse is the same without the trace, but for the trace in the summary. The
requirement on the stack is not touched by `Engine.untraced`. -/
theorem finish_untraced (e : Engine δ) :
    e.untraced.finish = (e.finish.1.map Summary.untraced, e.finish.2.untraced) := by
  by_cases h : !(e.stack.bottomUp.map e.table.nameOf).isEmpty && e.options.requireEmptyStack
  · have hend : e.finish = _ := if_pos h
    have huntraced : e.untraced.finish = _ := if_pos h
    rw [hend, huntraced]
    rfl
  · have hend : e.finish = _ := if_neg h
    have huntraced : e.untraced.finish = _ := if_neg h
    rw [hend, huntraced]
    rfl

/-! ### A run -/

/-- The trace behind a run is the history of the run. -/
structure TraceHistory (t : Table δ) (options : ParseOptions) (turns : List (Turn δ))
    (e : Engine δ) : Prop where
  /-- there is a trace if the settings or the owner asked for one -/
  present : e.trace.isSome = (options.trace || (Turn.beginning? turns).isSome)
  /-- it has a step for every line that was consumed since then, and no other -/
  complete : e.recorded = Turn.steps options.trace 0 turns
  /-- every step begins where the one before it ended -/
  linked : e.recorded.IsChain fun step next => next.source = step.destination
  /-- recorded from the beginning, the first step begins in the initial state -/
  first : options.trace = true → ∀ step ∈ e.recorded.head?, step.source = t.nameOf t.initial
  /-- recorded later, it begins in the state that was the present one then -/
  begun : options.trace = false → ∀ turn ∈ Turn.beginning? turns,
    ∀ step ∈ e.recorded.head?, step.source = turn.before.currentName
  /-- the summary has the trace, and its final state is where the last step leads -/
  last : ∀ summary, e.finish.1 = .ok summary → summary.trace = e.trace ∧
    ∀ step ∈ e.recorded.getLast?, summary.finalState = step.destination
  /-- asking for the trace changes nothing in it -/
  kept : ∀ turn ∈ turns, turn.operation.isRecording = true →
    turn.after.recorded = turn.before.recorded
  /-- no step is dropped later -/
  grows : ∀ turn ∈ turns, turn.before.recorded <+: e.recorded

/-- Behind every run the trace is the history of the run. The fields of `TraceHistory` come from
`recorded_of_performAll`, and those about the order of the steps from `leads_of_performAll` and
`leads_of_beginning`. -/
theorem traceHistory_of_performAll {t : Table δ} {options : ParseOptions} {data : δ}
    (h : (start t options data).performAll ops = some (turns, e)) :
    TraceHistory t options turns e := by
  obtain ⟨hpresent, hrecorded⟩ := recorded_of_performAll h
  have hon : (start t options data).trace.isSome = options.trace := by
    cases htrace : options.trace <;> simp [start, htrace]
  have hnothing : (start t options data).recorded = [] := by
    cases htrace : options.trace <;> simp [start, recorded, htrace, Trace.toList, Trace.empty]
  rw [hon, hnothing, List.nil_append] at hrecorded
  -- The steps are a path to the present state, wherever the recording began.
  have hleads : ∃ source, Leads source e.recorded e.currentName ∧
      (options.trace = true → source = t.nameOf t.initial) ∧
      (options.trace = false → ∀ turn ∈ Turn.beginning? turns,
        source = turn.before.currentName) := by
    rw [hrecorded]
    show ∃ source, Leads source (Turn.steps options.trace 0 turns) e.currentName ∧ _
    cases htrace : options.trace with
    | true => exact ⟨_, leads_of_performAll h 0, fun _ => rfl, nofun⟩
    | false =>
      refine ⟨_, leads_of_beginning h 0, nofun, ?_⟩
      rintro - turn hturn
      rw [Option.mem_def.mp hturn]
      rfl
  obtain ⟨source, hleads, hfirst, hbegun⟩ := hleads
  refine ⟨hon ▸ hpresent, hrecorded, hleads.isChain, ?_, ?_, ?_, ?_, recorded_isPrefix h⟩
  · intro htrace step hstep
    exact (hleads.head step hstep).trans (hfirst htrace)
  · intro htrace turn hturn step hstep
    exact (hleads.head step hstep).trans (hbegun htrace turn hturn)
  · intro summary hok
    rcases e.finish_cases with ⟨-, -, hend⟩ | ⟨-, log, hend⟩
    · rw [hend] at hok
      cases hok
    · rw [hend] at hok
      cases hok
      exact ⟨rfl, fun step hstep => (hleads.getLast step hstep).symm⟩
  · intro turn hmem hrecording
    rcases perform_cases (perform_of_mem h turn hmem) with ⟨_, _, _, _, hop, -, -⟩ |
      ⟨-, hturn⟩ | ⟨_, hop, -⟩
    · rw [hop] at hrecording
      cases hrecording
    · rw [congrArg Turn.after hturn]
      exact recorded_recording turn.before
    · rw [hop] at hrecording
      cases hrecording

/-- The trace is the history, and it changes nothing. Take any table with any actions, and do
anything with a parse: feed it lines, failing ones included, have it recorded at any point and
again, or change its data. The trace is exactly the steps that were made since the recording began
(`TraceHistory`). A parse of the same data that is recorded from another point on, or never, gives
the same answers, does the same to the stack and the data, and ends with the same summary, but for
the trace. -/
theorem recorded_history (t : Table δ) (options : ParseOptions) (data : δ)
    (ops : List (Operation δ)) (turns : List (Turn δ)) (e : Engine δ)
    (h : (start t options data).performAll ops = some (turns, e)) :
    TraceHistory t options turns e ∧
      ∀ (on : Bool) (ops' : List (Operation δ)),
        Operation.unrecorded ops' = Operation.unrecorded ops →
        ∃ turns' e',
          (start t { options with trace := on } data).performAll ops' = some (turns', e') ∧
            Turn.unrecorded turns' = Turn.unrecorded turns ∧ e'.untraced = e.untraced ∧
            e'.finish.1.map Summary.untraced = e.finish.1.map Summary.untraced := by
  refine ⟨traceHistory_of_performAll h, ?_⟩
  intro on ops' hops
  have hsame := performAll_untraced (start t { options with trace := on } data) ops'
  rw [untraced_start, hops, performAll_untraced, h] at hsame
  obtain ⟨⟨turns', e'⟩, hrun, hpair⟩ := Option.map_eq_some_iff.mp hsame.symm
  obtain ⟨hturns, he⟩ := Prod.mk.inj hpair
  refine ⟨turns', e', hrun, hturns, he, ?_⟩
  have hend := finish_untraced e'
  rw [he, finish_untraced] at hend
  exact (congrArg Prod.fst hend).symm

/-- Two states. Each consumes one line only, and `on` counts it. -/
def lamp : Table Nat where
  states :=
    [⟨⟨0⟩, "off", [⟨.literal "press", none, ⟨1⟩⟩]⟩,
      ⟨⟨1⟩, "on",
        [⟨.literal "release", some ⟨"count", fun _ _ => .data (· + 1) fun _ => .done none⟩, ⟨0⟩⟩]⟩]
  initial := ⟨0⟩

/-- A run of the table `lamp`, recorded from the third operation on and asked for again: the
first line is missing, the two lines that fail count, and the same run without a trace counts
the same. -/
theorem recorded_history_lamp :
    ∃ turns e, (start lamp ParseOptions.default 0).performAll
        [.feed 0 "press", .feed 0 "press", .recording, .feed 0 "release", .feed 0 "release",
          .recording, .feed 0 "press"] = some (turns, e) ∧
      e.recorded = [⟨3, "on", "off"⟩, ⟨5, "off", "on"⟩] ∧ e.data = 1 ∧
      ∃ turns' e', (start lamp ParseOptions.default 0).performAll
          [.feed 0 "press", .feed 0 "press", .feed 0 "release", .feed 0 "release",
            .feed 0 "press"] = some (turns', e') ∧ e'.untraced = e.untraced := by
  obtain ⟨⟨turns, e⟩, hrun⟩ : ∃ run, (start lamp ParseOptions.default 0).performAll
      [.feed 0 "press", .feed 0 "press", .recording, .feed 0 "release", .feed 0 "release",
        .recording, .feed 0 "press"] = some run := ⟨_, rfl⟩
  obtain ⟨history, same⟩ := recorded_history lamp ParseOptions.default 0 _ turns e hrun
  obtain ⟨turns', e', hrun', -, hsame, -⟩ := same false
    [.feed 0 "press", .feed 0 "press", .feed 0 "release", .feed 0 "release", .feed 0 "press"]
    (by simp [Operation.unrecorded, Operation.isRecording])
  refine ⟨turns, e, hrun, ?_, ?_, turns', e', hrun', hsame⟩
  · rw [history.complete]
    cases hrun
    rfl
  · cases hrun
    rfl

end Engine

end LineMachine
