import LineMachine.Proofs.Builtin.Account

/-!
# `LineMachine.Proofs.Builtin.Amortised`: work and depth of a run

One line can go back through all saved states, however many there are. But each of them was
saved by a line of its own, so a whole run does no more work than two transitions a line.

* `Try.pushes` and `Try.pops` count the tries that save a state and those that take one back.
  `Table.EndsOn.balance`: over a line the saved states change by just these.
* `Engine.Sound.feed_counts` is about one line: it saves one state at most, and if it is
  consumed it makes one try more than it takes states back.
* `Engine.Sound.consumes_counts` adds these up over the lines of a run, and
  `Engine.Sound.consumes_fires` counts the transitions in the log.
* `TableDefinition.amortised` states the result for every table of a definition.
-/

set_option autoImplicit false

namespace LineMachine

namespace Try

/-- How many tries save a state. -/
def pushes (tries : List Try) : Nat := tries.countP fun p => p.move = .push

/-- How many tries take a saved state back. -/
def pops (tries : List Try) : Nat := tries.countP fun p => p.move = .pop

/-- Whether a transition matched and its action did not fail. -/
def fired (p : Try) : Bool := p.result.isOk

/-- The tries of a run that save a state are counted line by line, as `Engine.history` appends the
tries of the lines. -/
theorem pushes_append (tries more : List Try) :
    pushes (tries ++ more) = pushes tries + pushes more := List.countP_append

/-- The tries of a run that take a saved state back are counted line by line, like those of
`pushes_append`. -/
theorem pops_append (tries more : List Try) : pops (tries ++ more) = pops tries + pops more :=
  List.countP_append

/-- A try that takes a saved state back does not fail, by `move_ne_pop_of_error`. So every `pop`
that is counted is a transition that fires. -/
theorem fired_of_pop {p : Try} (h : p.move = .pop) : p.fired = true := by
  cases hresult : p.result with
  | error fault => exact absurd h (move_ne_pop_of_error hresult)
  | ok outcome =>
    rw [fired, hresult]
    rfl

end Try

open Try (pushes pops)

namespace Report

/-- Whether the report is about a transition. -/
def isMatched : Report → Bool
  | .matched _ _ _ _ => true
  | _ => false

end Report

namespace Table

variable {t : Table Events} {line : Line} {w w' : Work Events} {front : List Try} {last : Try}
  {result : Except ParseError StateId}

/-- All tries of a line but the last one take a saved state back. It is `EndsOn.countP_pop` in the
words of `Try.pops`. -/
theorem EndsOn.pops_eq (h : t.EndsOn line w front last result w') :
    Try.pops (front ++ [last]) = front.length := h.countP_pop

/-- A line saves what its last try saves, because the tries in front of it are all pops. So there
is one push in a line at most. -/
theorem EndsOn.pushes_eq (h : t.EndsOn line w front last result w') :
    Try.pushes (front ++ [last]) = Try.pushes [last] := by
  have hfront : Try.pushes front = 0 := by
    rw [Try.pushes, List.countP_eq_zero]
    intro p hp
    simp [h.pops p hp]
  rw [Try.pushes_append, hfront, Nat.zero_add]

/-- What is saved behind a line and what it took back is what was saved before and what it saved.
Written with sums, no difference of numbers can fall below zero. -/
theorem EndsOn.balance (h : t.EndsOn line w front last result w') :
    w'.stack.depth + Try.pops (front ++ [last]) =
      w.stack.depth + Try.pushes (front ++ [last]) := by
  -- The front pops as many states as it has tries, and the last try adds one or none.
  obtain ⟨states, hstates, hlength⟩ := h.stack
  have hbefore : w.stack.topDown.length = front.length + last.before.length := by
    rw [hstates, List.length_append, hlength]
  rw [h.pops_eq, h.pushes_eq]
  show w'.stack.topDown.length + front.length = w.stack.topDown.length + Try.pushes [last]
  rcases h.move_last with ⟨hmove, hafter⟩ | ⟨hmove, hafter⟩
  · have hpushes : Try.pushes [last] = 1 := by simp [Try.pushes, hmove]
    rw [hafter, List.length_cons]
    omega
  · have hpushes : Try.pushes [last] = 0 := by simp [Try.pushes, hmove]
    rw [hafter]
    omega

/-- A line that fails saves nothing, since its last try leaves the saved states alone by
`Ends.of_error`. -/
theorem EndsOn.pushes_of_error {fault : ParseError}
    (h : t.EndsOn line w front last (.error fault) w') : Try.pushes (front ++ [last]) = 0 := by
  rw [h.pushes_eq]
  rcases h.move_last with ⟨-, hafter⟩ | ⟨hmove, -⟩
  · -- Where a line fails, all saved states stay.
    rw [h.ends.of_error.1] at hafter
    exact absurd hafter (List.cons_ne_self _ _).symm
  · simp [Try.pushes, hmove]

/-- If the line is consumed, all of its tries fire: those in front by `fired_of_pop`, and the last
one because it has a good result. -/
theorem EndsOn.countP_fired {next : StateId} (h : t.EndsOn line w front last (.ok next) w') :
    (front ++ [last]).countP Try.fired = front.length + 1 := by
  have hall : (front ++ [last]).countP Try.fired = (front ++ [last]).length := by
    rw [List.countP_eq_length]
    intro p hp
    rcases List.mem_append.mp hp with hfront | hlast
    · exact Try.fired_of_pop (h.pops p hfront)
    · rw [List.mem_singleton.mp hlast, Try.fired, h.result]
      rfl
  rw [hall, List.length_append, List.length_singleton]

/-- The reports of a line that is consumed are about one transition more than there are states
from which the line goes back. Each of `Return.reports` has one such report, and `Table.Closes`
has one. -/
theorem Accounts.countP_isMatched {source : String} {returns : List Return} {next : StateId}
    {reports : List Report} (h : t.Accounts line source returns (.ok next) reports) :
    reports.countP Report.isMatched = returns.length + 1 := by
  obtain ⟨last, closing, -, hcloses, rfl⟩ := h
  have hreturns :
      (returns.flatMap (Return.reports line.number)).countP Report.isMatched = returns.length := by
    induction returns with
    | nil => rfl
    | cons r rest ih =>
      rw [List.flatMap_cons, List.countP_append, ih, List.length_cons, Nat.add_comm]
      rfl
  have hclosing : closing.countP Report.isMatched = 1 := by
    cases hcloses with
    | took saved => cases saved <;> rfl
  rw [List.countP_append, List.countP_append, hreturns, hclosing]
  rfl

end Table

namespace Engine

variable {e e' mid : Engine Events} {extra : Nat} {text : String} {lines : List String}

/-- What a line does to the saved states: the balance of its pushes and pops, one push at most,
and none if it fails. A run is summed up from this. -/
theorem Sound.feed_counts (h : e.Sound) {result : Except ParseError StateId}
    (hfeed : e.feed extra text = some (result, e')) :
    e'.stack.depth + pops (e.tries extra text) = e.stack.depth + pushes (e.tries extra text) ∧
      pushes (e.tries extra text) ≤ 1 ∧
      ∀ fault, result = .error fault → pushes (e.tries extra text) = 0 := by
  obtain ⟨front, last, result', w, htries, hfeed', hends⟩ := h.feed_endsOn extra text
  obtain ⟨hresult, hstack⟩ : result' = result ∧ w.stack = e'.stack := by
    rw [hfeed] at hfeed'
    cases result' <;> cases hfeed' <;> exact ⟨rfl, rfl⟩
  subst hresult
  rw [htries, ← hstack]
  refine ⟨hends.balance, ?_, ?_⟩
  · rw [hends.pushes_eq]
    exact List.countP_le_length
  · rintro fault rfl
    exact hends.pushes_of_error

/-- The transitions that a line takes if it is consumed, told by its tries and by its reports. The
two counts agree by `Sound.feed_account`, which has one more try than returns. -/
theorem Sound.feed_fires (h : e.Sound) (hnames : e.table.NamesApart) {next : StateId}
    (hfeed : e.feed extra text = some (.ok next, e')) :
    (e.tries extra text).countP Try.fired = pops (e.tries extra text) + 1 ∧
      e'.log.toList.countP Report.isMatched =
        e.log.toList.countP Report.isMatched + (pops (e.tries extra text) + 1) := by
  obtain ⟨front, last, result, w, htries, hfeed', hends⟩ := h.feed_endsOn extra text
  obtain rfl : result = .ok next := by
    rw [hfeed] at hfeed'
    cases result <;> cases hfeed'
    rfl
  obtain ⟨result', e'', returns, reports, hfeed'', hlength, hlog, haccounts⟩ :=
    h.feed_account hnames extra text
  rw [hfeed] at hfeed''
  cases hfeed''
  rw [htries, List.length_append, List.length_singleton] at hlength
  rw [hlog, List.countP_append, haccounts.countP_isMatched, htries, hends.countP_fired,
    hends.pops_eq]
  omega

/-! ### A run -/

/-- The tries of a run are those of its first line and those behind it, whatever the answer to the
line is. -/
theorem history_cons {result : Except ParseError StateId}
    (hfeed : e.feed extra text = some (result, e')) :
    e.history extra (text :: lines) = e.tries extra text ++ e'.history extra lines := by
  rw [history, hfeed]
  rfl

/-- A run goes on behind the lines that are consumed, so `Engine.history` of all lines is that of
the first ones and then that of the others. -/
theorem Consumes.history_append (h : e.Consumes extra lines mid) (more : List String) :
    e.history extra (lines ++ more) = e.history extra lines ++ mid.history extra more := by
  induction h with
  | nil e => rfl
  | cons line _ ih => rw [List.cons_append, history_cons line, history_cons line, ih,
      List.append_assoc]

/-- What lines that are consumed do to the saved states. The induction is on the lines, and what
is saved pays for what later lines take back. It adds up `Sound.feed_counts`. -/
theorem Sound.consumes_counts (h : e.Sound) (hlines : e.Consumes extra lines mid) :
    mid.stack.depth + pops (e.history extra lines) =
        e.stack.depth + pushes (e.history extra lines) ∧
      pushes (e.history extra lines) ≤ lines.length := by
  induction hlines with
  | nil e => exact ⟨rfl, Nat.le_refl _⟩
  | cons line _ ih =>
    -- Both add up over the line and the rest of the lines.
    obtain ⟨hbalance, hone, -⟩ := h.feed_counts line
    obtain ⟨hrest, hmany⟩ := ih (h.of_feed line)
    rw [history_cons line, Try.pops_append, Try.pushes_append, List.length_cons]
    constructor <;> omega

/-- The transitions that lines take which are consumed: one for each line and one for each saved
state that is taken back. It adds up `Sound.feed_fires`. -/
theorem Sound.consumes_fires (h : e.Sound) (hnames : e.table.NamesApart)
    (hlines : e.Consumes extra lines mid) :
    (e.history extra lines).countP Try.fired =
        lines.length + pops (e.history extra lines) ∧
      mid.log.toList.countP Report.isMatched = e.log.toList.countP Report.isMatched +
        (lines.length + pops (e.history extra lines)) := by
  induction hlines with
  | nil e => exact ⟨rfl, rfl⟩
  | cons line _ ih =>
    obtain ⟨hfired, hmatched⟩ := h.feed_fires hnames line
    obtain ⟨hrest, hmore⟩ := ih (h.of_feed line) (by rwa [table_of_feed line])
    rw [history_cons line, Try.pops_append, List.countP_append, List.length_cons]
    constructor <;> omega

end Engine

namespace TableDefinition

open Engine (start)

/-- Amortised work and depth. Take any table of a definition, any settings and any lines that a
parse consumes, from its beginning on.

- No more saved states are taken back than were saved. The saved states that are left are the
  difference, and no more than there are lines, because each line saves one at most.
- As many transitions fire as there are lines and saved states that are taken back, in the tries
  and in the log. So there are at most two for each line.
- If the next line fails, it takes more states back, but no more than were saved, and the saved
  states that are left are still the difference. -/
theorem amortised {d : TableDefinition} {fallback : Validation} {t : Table Events}
    {log : List Report} (h : d.build fallback = (.ok t, log)) (options : ParseOptions)
    (events : Events) (extra : Nat) (lines : List String) (mid : Engine Events)
    (hlines : (start t options events).Consumes extra lines mid) :
    pops ((start t options events).history extra lines) ≤
        pushes ((start t options events).history extra lines) ∧
      mid.stack.depth = pushes ((start t options events).history extra lines) -
        pops ((start t options events).history extra lines) ∧
      mid.stack.depth ≤ lines.length ∧
      (∀ (before : List String) (e : Engine Events) (text : String),
        (start t options events).Consumes extra before e → pushes (e.tries extra text) ≤ 1) ∧
      ((start t options events).history extra lines).countP Try.fired =
        lines.length + pops ((start t options events).history extra lines) ∧
      mid.log.toList.countP Report.isMatched =
        lines.length + pops ((start t options events).history extra lines) ∧
      mid.log.toList.countP Report.isMatched ≤ 2 * lines.length ∧
      ∀ (text : String) (fault : ParseError) (last : Engine Events),
        mid.feed extra text = some (.error fault, last) →
        pushes ((start t options events).history extra (lines ++ [text])) =
          pushes ((start t options events).history extra lines) ∧
        pops ((start t options events).history extra (lines ++ [text])) ≤
          pushes ((start t options events).history extra (lines ++ [text])) ∧
        last.stack.depth = pushes ((start t options events).history extra (lines ++ [text])) -
          pops ((start t options events).history extra (lines ++ [text])) ∧
        last.stack.depth ≤ lines.length := by
  have hstart : (start t options events).Sound :=
    Engine.sound_start (standard_of_build h) options events
  obtain ⟨hbalance, hmany⟩ := hstart.consumes_counts hlines
  obtain ⟨hfired, hmatched⟩ := hstart.consumes_fires (Table.namesApart_of_build h) hlines
  -- Nothing is saved or reported yet.
  have hdepth : (start t options events).stack.depth = 0 := rfl
  have hlog : (start t options events).log.toList.countP Report.isMatched = 0 := rfl
  refine ⟨by omega, by omega, by omega, fun before e text hbefore => ?_, hfired, by omega, by omega,
    fun text fault last hfeed => ?_⟩
  · have he : e.Sound := hstart.of_consumes hbefore
    obtain ⟨result, e', hfeed, -⟩ := he.exists_feed extra text
    exact (he.feed_counts hfeed).2.1
  · obtain ⟨hlast, -, hnone⟩ := (hstart.of_consumes hlines).feed_counts hfeed
    have hzero := hnone fault rfl
    have hhistory : mid.history extra [text] = mid.tries extra text := by
      rw [Engine.history_cons hfeed]
      exact List.append_nil _
    rw [hlines.history_append, hhistory, Try.pushes_append, Try.pops_append]
    omega

/-- The third line leaves two blocks of `nestedBlocks` at once. It takes back what the first two
lines saved, and five transitions fire on the three lines. -/
theorem amortised_nestedBlocks :
    ∃ t log mid, nestedBlocks.build .strict = (.ok t, log) ∧
      (start t ParseOptions.default Events.empty).Consumes 0 ["open", "open", "end"] mid ∧
      pushes ((start t ParseOptions.default Events.empty).history 0 ["open", "open", "end"]) = 2 ∧
      pops ((start t ParseOptions.default Events.empty).history 0 ["open", "open", "end"]) = 2 ∧
      mid.stack.depth = 0 ∧ mid.log.toList.countP Report.isMatched = 5 := by
  obtain ⟨t, log, hbuild⟩ : ∃ t log, nestedBlocks.build .strict = (.ok t, log) := ⟨_, _, rfl⟩
  obtain ⟨mid, hlines, hpushes, hpops⟩ : ∃ mid,
      (start t ParseOptions.default Events.empty).Consumes 0 ["open", "open", "end"] mid ∧
      pushes ((start t ParseOptions.default Events.empty).history 0 ["open", "open", "end"]) = 2 ∧
      pops ((start t ParseOptions.default Events.empty).history 0 ["open", "open", "end"]) = 2 := by
    cases hbuild
    exact ⟨_, .cons rfl (.cons rfl (.cons rfl (.nil _))), rfl, rfl⟩
  obtain ⟨-, hdepth, -, -, -, hmatched, -⟩ :=
    amortised hbuild ParseOptions.default Events.empty 0 _ mid hlines
  rw [hpushes, hpops] at hdepth
  rw [hpops] at hmatched
  exact ⟨t, log, mid, hbuild, hlines, hpushes, hpops, hdepth, hmatched⟩

end TableDefinition

end LineMachine
