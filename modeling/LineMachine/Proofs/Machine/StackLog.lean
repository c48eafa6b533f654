import LineMachine.Proofs.Machine.Operation

/-!
# `LineMachine.Proofs.Machine.StackLog`: the log replays the stack

Every state that is saved or taken back is reported. This module reads these
reports as someone would who has the log and nothing else, and gets the saved
states back.

* `Report.stackReport?` picks the reports out of a log by their level, their target
  and what they say, and reads the name and the depth off their fields.
* `Report.replay?` replays them on a list of names. It fails if a state is taken from
  an empty list, or under another name than the one that is last, or if a depth is
  not the length of the list.
* `Work.Logged`: replaying the log gives the names of the saved states, the first one
  first. The lemmas `Script.run_logged`, `Table.fire_logged`, `Table.stepState_logged`,
  `Table.resolve_logged` and `Engine.feed_logged` carry this over an action, whatever it
  does, and over a line, whether it fails or not.
* `Engine.replay_log` states the result for every run.
-/

set_option autoImplicit false

namespace LineMachine

variable {δ : Type}

/-- What a report says about the saved states. -/
inductive StackReport where
  /-- a state was saved; this many are saved now -/
  | saved (state : String) (depth : Nat)
  /-- a state was taken back; this many are left -/
  | taken (state : String) (depth : Nat)
deriving Repr, DecidableEq

/-- Replays the report on the names of the saved states, the first one first. -/
def StackReport.after? (r : StackReport) (names : List String) : Option (List String) :=
  match r with
  | .saved state depth => if depth = names.length + 1 then some (names ++ [state]) else none
  | .taken state depth =>
    if names.getLast? = some state ∧ depth + 1 = names.length then some names.dropLast else none

namespace Report

/-- Reads a report about the saved states by what is shown of it: it is one of the
debug reports of the parse that say "push" or "pop". -/
def stackReport? (r : Report) : Option StackReport :=
  if r.level = .debug ∧ r.target = engineTarget then
    match r.fields.lookup "state", r.fields.lookup "depth" with
    | some (.text state), some (.count depth) =>
      if r.message = "push" then some (.saved state depth)
      else if r.message = "pop" then some (.taken state depth)
      else none
    | _, _ => none
  else none

/-- Replays a log, beginning with no names. -/
def replay? (log : List Report) : Option (List String) :=
  (log.filterMap stackReport?).foldlM (fun names r => r.after? names) []

/-- The report of a saved state is read as what it says. It is a computation on the level, the
target and the fields of `Report.pushed`. -/
theorem stackReport?_pushed (lineno : Nat) (state : String) (depth : Nat) :
    (pushed lineno state depth).stackReport? = some (.saved state depth) := rfl

/-- The report of a state that was taken back is read as what it says, from the fields of
`Report.popped`. -/
theorem stackReport?_popped (lineno : Nat) (state : String) (depth : Nat) :
    (popped lineno state depth).stackReport? = some (.taken state depth) := rfl

/-- A report about something else changes nothing in `Report.replay?`. Matches, steps and the
reports of the end are all of this kind. -/
theorem replay?_concat_of_none {log : List Report} {r : Report} (h : r.stackReport? = none) :
    replay? (log ++ [r]) = replay? log := by
  rw [replay?, List.filterMap_append, List.filterMap_cons_none h, List.filterMap_nil,
    List.append_nil, replay?]

/-- One more report about the saved states is replayed on what came before it. The log grows at
its end, and `Report.replay?` folds from its beginning, so this is the step of all inductions
here. -/
theorem replay?_concat_of_some {log : List Report} {r : Report} {s : StackReport}
    (h : r.stackReport? = some s) : replay? (log ++ [r]) = (replay? log).bind s.after? := by
  rw [replay?, List.filterMap_append, List.filterMap_cons_some h, List.filterMap_nil,
    List.foldlM_append, replay?]
  simp

end Report

/-! ### An action -/

/-- Replaying the log gives the names of the saved states. -/
def Work.Logged (nameOf : StateId → String) (w : Work δ) : Prop :=
  Report.replay? w.log.toList = some (w.stack.bottomUp.map nameOf)

namespace Work.Logged

variable {nameOf : StateId → String} {w : Work δ}

/-- A report about something else keeps `Work.Logged`, since neither the stack nor the replay
changes. -/
theorem report (h : w.Logged nameOf) {r : Report} (hr : r.stackReport? = none) :
    Work.Logged nameOf { w with log := w.log.push r } := by
  rw [Work.Logged, Array.toList_push, Report.replay?_concat_of_none hr]
  exact h

/-- A state that is saved and reported keeps `Work.Logged`. The depth in the report is the length
behind the push, as `StackReport.after?` asks for. -/
theorem push (h : w.Logged nameOf) (lineno : Nat) (id : StateId) :
    Work.Logged nameOf { w with
      stack := w.stack.push id
      log := w.log.push (.pushed lineno (nameOf id) (w.stack.push id).depth) } := by
  rw [Work.Logged, Array.toList_push,
    Report.replay?_concat_of_some (Report.stackReport?_pushed _ _ _), h]
  simp [StackReport.after?, ContextStack.push, ContextStack.depth, ContextStack.bottomUp]

/-- A state that is taken and reported keeps `Work.Logged`. The name in the report has to be the
last one of the replay, which it is because the replay gave the names of the stack. -/
theorem pop (h : w.Logged nameOf) (lineno : Nat) {id : StateId} {stack : ContextStack}
    (htop : w.stack.pop? = some (id, stack)) :
    Work.Logged nameOf { w with
      stack := stack
      log := w.log.push (.popped lineno (nameOf id) stack.depth) } := by
  have hsaved : w.stack.topDown = id :: stack.topDown := by
    unfold ContextStack.pop? at htop
    split at htop
    · cases htop
    · rename_i top rest hlist
      cases htop
      exact hlist
  rw [Work.Logged, Array.toList_push,
    Report.replay?_concat_of_some (Report.stackReport?_popped _ _ _), h]
  simp [StackReport.after?, ContextStack.depth, ContextStack.bottomUp, hsaved]

end Work.Logged

/-- Whatever an action does, and however it ends, `Work.Logged` stays. The induction is on the
program: only two of its steps touch the saved states, and each of them reports. -/
theorem Script.run_logged {α : Type} (site : Site) (s : Script δ α) (popped : Bool) (w : Work δ)
    (h : w.Logged site.nameOf) : (s.run site popped w).work.Logged site.nameOf := by
  induction s generalizing popped w with
  | done result => exact h
  | fail e => exact h
  | data change next ih => exact ih _ popped _ h
  | depth next ih => exact ih _ popped w h
  | push id next ih => exact ih popped _ (h.push site.lineno id)
  | pop next ih =>
    rw [Script.run]
    cases htop : w.stack.pop? with
    | none => exact ih _ popped w h
    | some taken =>
      obtain ⟨id, stack⟩ := taken
      exact ih _ true _ (h.pop site.lineno htop)

/-! ### A line -/

namespace Table

variable {t : Table δ} {line : Line} {w w' : Work δ}

/-- A transition that is taken keeps `Work.Logged`, by `Script.run_logged` if it has an action.
The names are those of the table, which is what `Table.site` hands to the action. -/
theorem fire_logged (t : Table δ) (line : Line) (source : StateId) (tr : Transition δ)
    (captures : Captures) (h : w.Logged t.nameOf) :
    (t.fire line source tr captures w).2.Logged t.nameOf := by
  unfold fire
  cases tr.action with
  | none => exact h
  | some bound =>
    have hrun := Script.run_logged (t.site line source tr.destination)
      (bound.run (t.site line source tr.destination) captures) false w h
    dsimp only
    split
    · exact hrun
    · exact hrun

/-- A step keeps `Work.Logged`, whether it fails or not. Behind an action that does not fail it
reports the match, and this is no report about the saved states. -/
theorem stepState_logged (t : Table δ) (line : Line) (s : State δ) (h : w.Logged t.nameOf) :
    (t.stepState line s w).2.Logged t.nameOf := by
  unfold stepState
  split
  · exact h
  · rename_i rule tr captures hfirst
    have hfire := fire_logged t line s.id tr captures h
    split
    · rename_i e w' hend
      rw [hend] at hfire
      exact hfire
    · rename_i outcome w' hend
      rw [hend] at hfire
      exact hfire.report rfl

/-- All states that a line tries keep `Work.Logged`, by `Table.resolve_invariant`. The line may
fail between two of them. -/
theorem resolve_logged {budget : Nat} {id : StateId} {result : Except ParseError StateId}
    (hr : t.resolve line budget id w = some (result, w')) (h : w.Logged t.nameOf) :
    w'.Logged t.nameOf :=
  resolve_invariant hr (fun s _ hw => stepState_logged t line s hw) h

end Table

/-! ### A run -/

namespace Engine

variable {e e' last : Engine δ}

/-- Consuming a line, or failing on it, keeps the log and the stack together. If the line leads to
a state, `Engine.settle` reports the step, which says nothing about the stack. -/
theorem feed_logged {extra : Nat} {text : String} {result : Except ParseError StateId}
    (hfeed : e.feed extra text = some (result, e')) (h : e.work.Logged e.table.nameOf) :
    e'.work.Logged e'.table.nameOf := by
  obtain ⟨w, hresolve, ⟨fault, rfl, rfl⟩ | ⟨next, rfl, rfl⟩⟩ := feed_cases hfeed
  · exact Table.resolve_logged hresolve h
  · exact (Table.resolve_logged hresolve h).report rfl

/-- Every operation keeps `Work.Logged`. The owner can change the data and have the steps
recorded, and neither of these touches the stack or the log. -/
theorem perform_logged {op : Operation δ} {turn : Turn δ} (hturn : e.perform op = some turn)
    (h : e.work.Logged e.table.nameOf) : turn.after.work.Logged turn.after.table.nameOf := by
  rcases perform_cases hturn with ⟨extra, text, result, e', -, hfeed, rfl⟩ | ⟨-, rfl⟩ |
    ⟨change, -, rfl⟩
  · exact feed_logged hfeed h
  · exact h
  · exact h

/-- The end of a parse reports what is left and that it is finished, but `Report.stackReport?`
reads neither as a report about the saved states. So the replay of the log is the same behind
`Engine.finish`. -/
theorem replay?_finish (e : Engine δ) :
    Report.replay? e.finish.2.log.toList = Report.replay? e.log.toList := by
  unfold finish
  dsimp only
  split
  · rfl
  · rw [Array.toList_append, Report.replay?_concat_of_none rfl, Array.toList_append]
    split
    · rw [List.append_nil]
    · exact Report.replay?_concat_of_none rfl

/-- The log replays the stack. Take any table with any actions, and do anything with a parse: feed
it lines, failing ones included, have it recorded, or change its data. At every point
`Report.replay?` goes through and ends with the names of the saved states, the first one first:
nothing is taken from an empty list, every report names the state that it takes, and every depth
is the length behind the report. The end of the parse shows the same names, in the summary or in
the error. -/
theorem replay_log (t : Table δ) (options : ParseOptions) (data : δ)
    (ops : List (Operation δ)) (turns : List (Turn δ)) (e : Engine δ)
    (h : (start t options data).performAll ops = some (turns, e)) :
    Report.replay? e.log.toList = some (e.stack.bottomUp.map t.nameOf) ∧
      (∀ summary, e.finish.1 = .ok summary →
        Report.replay? e.finish.2.log.toList = some summary.stack) ∧
      ∀ depth states, e.finish.1 = .error (.unbalancedStack depth states) →
        Report.replay? e.finish.2.log.toList = some states := by
  have htable : e.table = t := table_of_performAll h
  have hlogged : e.work.Logged e.table.nameOf :=
    invariant_of_performAll (P := fun e => e.work.Logged e.table.nameOf) h
      (fun _ _ _ he hturn => perform_logged hturn he) rfl
  have hreplay : Report.replay? e.log.toList = some (e.stack.bottomUp.map e.table.nameOf) :=
    hlogged
  -- The end reports no change of the stack, so it replays to the same names.
  rw [replay?_finish, ← htable]
  refine ⟨hreplay, ?_, ?_⟩
  · intro summary hok
    rcases e.finish_cases with ⟨-, -, hend⟩ | ⟨-, log, hend⟩
    · rw [hend] at hok
      cases hok
    · rw [hend] at hok
      cases hok
      exact hreplay
  · intro depth states herror
    rcases e.finish_cases with ⟨-, -, hend⟩ | ⟨-, log, hend⟩
    · rw [hend] at herror
      cases herror
      exact hreplay
    · rw [hend] at herror
      cases herror

/-- Two states. `save` saves three times, once a number that the table does not have,
`bad` fails behind a state that it saved, and `drop` takes more states than there are and
does not mind. -/
def clutter : Table Unit where
  states :=
    [⟨⟨0⟩, "work",
        [⟨.literal "save", some ⟨"save", fun site _ =>
            .push site.source (.push ⟨9⟩ (.push ⟨1⟩ (.done none)))⟩, ⟨0⟩⟩,
          ⟨.literal "bad", some ⟨"bad", fun _ _ =>
            .push ⟨1⟩ (.fail (.action (.custom "bad" [])))⟩, ⟨0⟩⟩,
          ⟨.literal "drop", some ⟨"drop", fun _ _ =>
            .pop fun _ => .pop fun _ => .pop fun _ => .pop fun _ => .pop fun _ =>
              .done (some ⟨1⟩)⟩, ⟨0⟩⟩]⟩,
      ⟨⟨1⟩, "rest", [⟨.any, none, ⟨0⟩⟩]⟩]
  initial := ⟨0⟩

/-- A run of the table `clutter`, with a line that fails half way, one that empties the stack, and
one that fills it again. The number that the table does not have is replayed under the name that
is shown for it. -/
theorem replay_log_clutter :
    ∃ turns e, (start clutter ParseOptions.default ()).performAll
        [.feed 0 "save", .feed 0 "bad", .feed 0 "drop", .feed 0 "save"] = some (turns, e) ∧
      turns.map (fun turn => turn.after.stack.depth) = [3, 4, 0, 3] ∧
      Report.replay? e.log.toList = some ["work", "<unknown>", "rest"] := by
  refine ⟨_, _, rfl, rfl, ?_⟩
  exact (replay_log clutter ParseOptions.default ()
    [.feed 0 "save", .feed 0 "bad", .feed 0 "drop", .feed 0 "save"] _ _ rfl).1

end Engine

end LineMachine
