import LineMachine.Proofs.Builtin.Events
import LineMachine.Proofs.Machine.Operation

/-!
# `LineMachine.Proofs.Builtin.Failure`: what a failing line leaves behind

A line can fail in a state that it came to by going back, after the line was counted and
saved states were taken. What was taken stays taken; nothing else changes.

* `Engine.Sound.of_performAll`: whatever the owner of a parse does with it, it stays sound.
* `Engine.LeavesBehind` lists what a line that fails leaves of a parse, and
  `Engine.Sound.leavesBehind` says that every such line leaves it.
* `Engine.Sound.parse_of_failure`: a parse that fails at a line leaves the events of a parse
  over the lines before it.
* `TableDefinition.failing_line_leaves` states both results for every table of a definition.
-/

set_option autoImplicit false

namespace LineMachine

namespace Engine

variable {e e' last : Engine Events} {extra : Nat} {text : String} {fault : ParseError}

/-! ### What the owner does -/

/-- What the owner does keeps `Engine.Sound`. The recorded steps are kept by a new record and not
touched by a change of the data. -/
theorem Sound.of_perform (h : e.Sound) {op : Operation Events} {turn : Turn Events}
    (hturn : e.perform op = some turn) : turn.after.Sound := by
  rcases perform_cases hturn with ⟨extra, text, result, e', -, hfeed, rfl⟩ | ⟨-, rfl⟩ |
    ⟨change, -, rfl⟩
  · exact h.of_feed hfeed
  · refine ⟨h.standard, h.current, h.stack, ?_⟩
    -- What was recorded before is kept, and a new trace has no steps.
    intro trace htrace step hstep
    obtain rfl := Option.some.inj htrace
    cases hbefore : e.trace with
    | none =>
      rw [hbefore] at hstep
      cases hstep
    | some before =>
      rw [hbefore] at hstep
      exact h.trace before hbefore step hstep
  · exact ⟨h.standard, h.current, h.stack, h.trace⟩

/-- Whatever the owner does, a sound parse stays sound, by `invariant_of_performAll`. Lines that
fail are among the operations. -/
theorem Sound.of_performAll (h : e.Sound) {ops : List (Operation Events)}
    {turns : List (Turn Events)} (hrun : e.performAll ops = some (turns, last)) : last.Sound :=
  invariant_of_performAll hrun (fun _ _ _ he hturn => he.of_perform hturn) h

/-! ### The line that fails -/

/-- What is left of a parse behind a line that fails:

- `current`, `trace`, `data`: the present state, the recorded steps and the events are as
  before;
- `lineno`, `line`: the line counts, and it is the last line, without its end;
- `tries`: all tries of the line but the last took a saved state back, and the last one
  failed;
- `stack`: the saved states that are left are those that were there before, from the first
  one on. So many are gone as tries of the line took one. -/
structure LeavesBehind (e : Engine Events) (extra : Nat) (text : String) (fault : ParseError)
    (e' : Engine Events) : Prop where
  current : e'.current = e.current
  trace : e'.trace = e.trace
  data : e'.data = e.data
  lineno : e'.lineno = e.lineno + 1
  line : e'.line = Text.stripTerminator text
  tries : ∃ front last, e.tries extra text = front ++ [last] ∧
    (∀ p ∈ front, p.move = .pop) ∧ last.result = .error fault
  stack : ∃ removed, e.stack.bottomUp = e'.stack.bottomUp ++ removed ∧
    removed.length = (e.tries extra text).countP fun p => p.move = .pop

/-- In a parse of a definition every line that fails leaves just `Engine.LeavesBehind`. The tries
before the last one took saved states, and the last one changed nothing. -/
theorem Sound.leavesBehind (h : e.Sound) (hfeed : e.feed extra text = some (.error fault, e')) :
    e.LeavesBehind extra text fault e' := by
  obtain ⟨front, last, result, w, htries, hfeed', hends⟩ := h.feed_endsOn extra text
  rw [hfeed] at hfeed'
  cases result with
  | ok next => cases hfeed'
  | error fault' =>
    cases hfeed'
    -- The tries in front took these states, and the last one left the rest as it was.
    obtain ⟨states, hstates, hlength⟩ := hends.stack
    have hleft : w.stack.topDown = last.before := hends.ends.of_error.1
    have hdata : w.data.toList = e.data.toList := by
      rw [hends.data, hends.event?_of_error]
      exact List.append_nil _
    exact {
      current := rfl
      trace := rfl
      data := congrArg Events.mk (Array.toList_inj.mp hdata)
      lineno := rfl
      line := rfl
      tries := ⟨front, last, htries, hends.pops, hends.result⟩
      stack := by
        refine ⟨states.reverse, ?_, ?_⟩
        · show e.stack.topDown.reverse = w.stack.topDown.reverse ++ states.reverse
          rw [hleft, ← List.reverse_append, ← hstates]
          rfl
        · rw [htries, hends.countP_pop, List.length_reverse, hlength] }

/-- A parse that fails at a line, whatever stands behind it, leaves the events that a parse over
the lines before it leaves. Neither the failing line nor `Engine.finish` changes the events. -/
theorem Sound.parse_of_failure {mid : Engine Events} (h : e.Sound) {before : List String}
    (hconsumes : e.Consumes extra before mid)
    (hfeed : mid.feed extra text = some (.error fault, e')) (more : List String) :
    e.parse extra (before ++ text :: more) = some (.error fault, e') ∧
      ∃ result behind, e.parse extra before = some (result, behind) ∧ e'.data = behind.data := by
  have hbefore : e.parse extra before = some mid.finish := by
    simpa [parse] using hconsumes.parse_append []
  refine ⟨?_, mid.finish.1, mid.finish.2, hbefore, ?_⟩
  · rw [hconsumes.parse_append, parse_of_error hfeed]
  · rw [data_finish]
    exact ((h.of_consumes hconsumes).leavesBehind hfeed).data

end Engine

namespace TableDefinition

open Engine (start)

/-- What a failing line leaves behind. Take any table of a definition, any settings and any
events so far.

- Let the owner do anything with the parse: feed it lines, failing ones included, have it
  recorded, or change the events. If the next line fails, it leaves behind what
  `Engine.LeavesBehind` says: the line counts and is the last line, some of the saved states
  are gone from the top, one for each `pop` on the line that did not fail, and all else is
  as before.
- If a parse over lines of text consumes some lines and fails at the next one, it ends with
  that error, and the events are those of a parse over the lines before it. -/
theorem failing_line_leaves {d : TableDefinition} {fallback : Validation} {t : Table Events}
    {log : List Report} (h : d.build fallback = (.ok t, log)) (options : ParseOptions)
    (events : Events) (extra : Nat) :
    (∀ (ops : List (Operation Events)) (turns : List (Turn Events)) (e : Engine Events),
      (start t options events).performAll ops = some (turns, e) →
      ∀ (text : String) (fault : ParseError) (e' : Engine Events),
        e.feed extra text = some (.error fault, e') → e.LeavesBehind extra text fault e') ∧
    ∀ (before : List String) (text : String) (more : List String) (mid : Engine Events)
      (fault : ParseError) (e' : Engine Events),
      (start t options events).Consumes extra before mid →
      mid.feed extra text = some (.error fault, e') →
      (start t options events).parse extra (before ++ text :: more) = some (.error fault, e') ∧
        ∃ result behind, (start t options events).parse extra before = some (result, behind) ∧
          e'.data = behind.data := by
  have hstart : (start t options events).Sound :=
    Engine.sound_start (standard_of_build h) options events
  constructor
  · intro ops turns e hrun text fault e' hfeed
    exact (hstart.of_performAll hrun).leavesBehind hfeed
  · intro before text more mid fault e' hconsumes hfeed
    exact hstart.parse_of_failure hconsumes hfeed more

/-- Three levels. The innermost one goes back on every line, the middle one knows lines that
open a level only. -/
def threeLevels : TableDefinition where
  initial := none
  validation := none
  rules :=
    [⟨"outer", some "open", none, some "middle", some "enter"⟩,
      ⟨"middle", some "open", none, some "inner", some "enter"⟩,
      ⟨"inner", none, none, none, some "pop"⟩]

/-- The third line goes back to the middle level of `threeLevels` and fails there. One of two
saved states is left, and a parse over these lines and more ends with the events of the first
two. -/
theorem failing_line_leaves_threeLevels :
    ∃ t log, threeLevels.build .strict = (.ok t, log) ∧
      (∃ turns e e', (start t ParseOptions.default Events.empty).performAll
          [.feed 0 "open", .recording, .feed 0 "open"] = some (turns, e) ∧
        e.feed 0 "x\r\n" = some (.error (.unmatchedLine 3 "middle" "x"), e') ∧
        e.stack.bottomUp = [⟨0⟩, ⟨1⟩] ∧ e'.stack.bottomUp = [⟨0⟩] ∧
        e.LeavesBehind 0 "x\r\n" (.unmatchedLine 3 "middle" "x") e') ∧
      ∃ e' result behind, (start t ParseOptions.default Events.empty).parse 0
          ["open", "open", "x", "open"] = some (.error (.unmatchedLine 3 "middle" "x"), e') ∧
        (start t ParseOptions.default Events.empty).parse 0 ["open", "open"] =
          some (result, behind) ∧
        e'.data = behind.data ∧ behind.data.toList.map Event.lineno = [1, 2] := by
  refine ⟨_, _, rfl, ⟨_, _, _, rfl, rfl, rfl, rfl, ?_⟩, ?_⟩
  · exact (@failing_line_leaves threeLevels .strict _ _ rfl ParseOptions.default Events.empty 0).1
      [.feed 0 "open", .recording, .feed 0 "open"] _ _ rfl "x\r\n" _ _ rfl
  · obtain ⟨hparse, result, behind, hbehind, hdata⟩ :=
      (@failing_line_leaves threeLevels .strict _ _ rfl ParseOptions.default Events.empty 0).2
        ["open", "open"] "x" ["open"] _ _ _ (.cons rfl (.cons rfl (.nil _))) rfl
    refine ⟨_, result, behind, hparse, hbehind, hdata, ?_⟩
    cases hbehind
    rfl

end TableDefinition

end LineMachine
