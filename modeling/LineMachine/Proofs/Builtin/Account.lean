import LineMachine.Proofs.Builtin.Failure
import LineMachine.Proofs.Builtin.Tries
import LineMachine.Proofs.Machine.Recording
import LineMachine.Proofs.TableBuilder.Declared

/-!
# `LineMachine.Proofs.Builtin.Account`: the log tells the run

The reports of a line come from three places: an action reports what it saves or takes back,
the state reports the transition once its action is through, and the parse reports the step.
Read in order they tell what the line did, and nothing else is reported.

* `Table.Selects` says which transition of a state a line takes. The state is told by its name
  and the transition by its position, as reports tell them.
* `Return` is a state that a line leaves by going back, with the two reports about it, and
  `Table.GoesBack` a way through such states. `Table.Closes` is what the last state of a line
  reports, and `Table.Accounts` what the whole line does.
* `Table.stepState_account` is about one try, `Table.record_account` about the tries of a line,
  by induction on them, and `Engine.Sound.feed_account` about a line of a parse.
* `Turn.Accounted` is the same for whatever the owner of a parse does, and
  `Engine.Sound.accounts_of_performAll` is about a run.
* `TableDefinition.log_accounts` states the result for every table of a definition, with the
  recorded steps.
-/

set_option autoImplicit false

namespace LineMachine

open Builtin (Kind)

namespace State

variable {δ : Type}

/-- The transition that `State.firstMatch?` finds stands at its position, and passes the line.
None before it does. These are the conditions that `Table.Selects` puts on a position. -/
theorem firstMatch?_position {line : String} {trs : List (Transition δ)} {rule : Nat}
    {tr : Transition δ} {captures : Captures}
    (h : firstMatch? line trs 0 = some (rule, tr, captures)) :
    trs[rule]? = some tr ∧ (tr.pattern.matches? line).isSome = true ∧
      ∀ i other, i < rule → trs[i]? = some other → other.pattern.matches? line = none := by
  obtain ⟨before, after, rfl, hrule, hmatch, hearlier⟩ := firstMatch?_eq_some h
  obtain rfl : rule = before.length := by omega
  refine ⟨by simp, by rw [hmatch]; rfl, fun i other hi hother => hearlier other ?_⟩
  rw [List.getElem?_append_left hi] at hother
  exact List.mem_of_getElem? hother

/-- There is only one such position, and `State.firstMatch?` finds it. With `firstMatch?_position`
a transition can be told by its position alone. -/
theorem exists_firstMatch?_eq {line : String} {trs : List (Transition δ)} {rule : Nat}
    {tr : Transition δ} (htr : trs[rule]? = some tr)
    (hpasses : (tr.pattern.matches? line).isSome = true)
    (hearlier : ∀ i other, i < rule → trs[i]? = some other → other.pattern.matches? line = none) :
    ∃ captures, firstMatch? line trs 0 = some (rule, tr, captures) := by
  cases hfirst : firstMatch? line trs 0 with
  | none =>
    rw [firstMatch?_eq_none_iff] at hfirst
    rw [hfirst tr (List.mem_of_getElem? htr)] at hpasses
    cases hpasses
  | some found =>
    obtain ⟨rule', tr', captures⟩ := found
    obtain ⟨htr', hpasses', hearlier'⟩ := firstMatch?_position hfirst
    -- The one that stands before the other would not pass the line.
    rcases Nat.lt_trichotomy rule rule' with hlt | rfl | hlt
    · rw [hearlier' rule tr hlt htr] at hpasses
      cases hpasses
    · rw [htr] at htr'
      cases htr'
      exact ⟨captures, rfl⟩
    · rw [hearlier rule' tr' hlt htr'] at hpasses'
      cases hpasses'

end State

namespace Table

/-- Names tell the states apart. -/
def NamesApart (t : Table Events) : Prop :=
  ∀ id s, t.get? id = some s → t.lookup s.name = some id

/-- In the state with this name, the transition at this position is the first one that passes
the text. -/
def Selects (t : Table Events) (text state : String) (rule : Nat) (tr : Transition Events) :
    Prop :=
  ∃ id s, t.lookup state = some id ∧ t.get? id = some s ∧ s.name = state ∧
    s.transitions[rule]? = some tr ∧ (tr.pattern.matches? text).isSome = true ∧
    ∀ i other, i < rule → s.transitions[i]? = some other → other.pattern.matches? text = none

end Table

/-- A state that a line leaves by going back: the name and the position and pattern of the
transition that it took there, and the name of the saved state that it came to, with the number
of those that are left. -/
structure Return where
  state : String
  rule : Nat
  pattern : Pattern
  resumed : String
  depth : Nat

/-- The reports about it. The saved state is taken before the transition is through. -/
def Return.reports (number : Nat) (r : Return) : List Report :=
  [.popped number r.resumed r.depth, .matched number r.state r.rule r.pattern]

namespace Table

/-- A text goes back from one state to another one, through these:

- `names`: each state on the way is the one that was taken back before it, and the first one is
  where the way begins;
- `taken`: in each of them the text takes a transition that binds `pop`. -/
structure GoesBack (t : Table Events) (text source : String) (returns : List Return)
    (last : String) : Prop where
  names : returns.map Return.state ++ [last] = source :: returns.map Return.resumed
  taken : ∀ r ∈ returns, ∃ tr, t.Selects text r.state r.rule tr ∧ tr.pattern = r.pattern ∧
    tr.kind? = some .pop

/-- What the last state of a line reports:

- `took`: the line takes a transition and is consumed. If that saves the state, there is one
  report about it, with the number of saved states;
- `refused`: the line fails, and nothing is reported. If it takes a transition, that one binds
  `fail` or `pop`. -/
inductive Closes (t : Table Events) (line : Line) (last : String) :
    Except ParseError StateId → List Report → Prop where
  | took {rule : Nat} {tr : Transition Events} (saved : Option Nat)
      (selects : t.Selects line.text last rule tr)
      (saves : saved.isSome = true ↔ tr.kind? = some .push ∨ tr.kind? = some .enter) :
      Closes t line last (.ok tr.destination)
        (saved.toList.map (fun depth => .pushed line.number last depth) ++
          [.matched line.number last rule tr.pattern])
  | refused {fault : ParseError}
      (refuses : ∀ rule tr, t.Selects line.text last rule tr →
        tr.kind? = some .fail ∨ tr.kind? = some .pop) :
      Closes t line last (.error fault) []

/-- The step of a line, if it is consumed. -/
def stepReports (t : Table Events) (line : Line) (source : String) :
    Except ParseError StateId → List Report
  | .ok next => [.stepped line.number source (t.nameOf next)]
  | .error _ => []

/-- The reports are those of a line that goes back through these states and then ends. -/
def Accounts (t : Table Events) (line : Line) (source : String) (returns : List Return)
    (result : Except ParseError StateId) (reports : List Report) : Prop :=
  ∃ last closing, t.GoesBack line.text source returns last ∧ t.Closes line last result closing ∧
    reports = returns.flatMap (Return.reports line.number) ++ closing ++
      t.stepReports line source result

variable {t : Table Events} {line : Line} {id : StateId} {s : State Events} {w w' : Work Events}
  {text : String}

/-- The tables of definitions have no two states of one name, so a report that names a state tells
which one it is. -/
theorem namesApart_of_build {d : TableDefinition} {fallback : Validation} {log : List Report}
    (h : d.build fallback = (.ok t, log)) : t.NamesApart := by
  obtain ⟨rules, -, hbuild⟩ := TableDefinition.builder_of_build h
  intro id s hs
  exact ((TableBuilder.declares_of_build hbuild).lookup_eq_some_iff s.name id).mpr ⟨s, hs, rfl⟩

/-- A state is told by its name, and a transition by its position: `Table.Selects`, which uses
only what reports show, is the search of the parse in that state. -/
theorem selects_iff (hnames : t.NamesApart) (hs : t.get? id = some s) {rule : Nat}
    {tr : Transition Events} :
    t.Selects text s.name rule tr ↔
      ∃ captures, State.firstMatch? text s.transitions 0 = some (rule, tr, captures) := by
  constructor
  · rintro ⟨id', s', hlookup, hs', -, htr, hpasses, hearlier⟩
    -- There is only one state of the name.
    rw [hnames id s hs] at hlookup
    cases hlookup
    rw [hs] at hs'
    cases hs'
    exact State.exists_firstMatch?_eq htr hpasses hearlier
  · rintro ⟨captures, hfirst⟩
    exact ⟨id, s, hnames id s hs, hs, rfl, State.firstMatch?_position hfirst⟩

/-- A line takes one transition of a state only. A report of a transition at a position thus tells
what the transition binds. -/
theorem Selects.unique {state : String} {rule rule' : Nat} {tr tr' : Transition Events}
    (h : t.Selects text state rule tr) (h' : t.Selects text state rule' tr') : tr' = tr := by
  obtain ⟨id, s, hlookup, hs, -, htr, hpasses, hearlier⟩ := h
  obtain ⟨id', s', hlookup', hs', -, htr', hpasses', hearlier'⟩ := h'
  obtain rfl : id = id' := Option.some.inj (hlookup.symm.trans hlookup')
  obtain rfl : s = s' := Option.some.inj (hs.symm.trans hs')
  obtain ⟨captures, hfirst⟩ := State.exists_firstMatch?_eq htr hpasses hearlier
  obtain ⟨captures', hfirst'⟩ := State.exists_firstMatch?_eq htr' hpasses' hearlier'
  have hsame := hfirst.symm.trans hfirst'
  cases hsame
  rfl

/-! ### One try -/

section Closing

variable {last : String} {rule : Nat} {tr : Transition Events}

/-- What the last state reports if its transition saves it: the saved state first, and then the
transition. It is the case `took` of `Table.Closes` with a depth. -/
theorem closes_saved (h : t.Selects line.text last rule tr)
    (hkind : tr.kind? = some .push ∨ tr.kind? = some .enter) (depth : Nat) :
    t.Closes line last (.ok tr.destination)
      [.pushed line.number last depth, .matched line.number last rule tr.pattern] :=
  .took (some depth) h (by simp [hkind])

/-- What the last state reports if its transition leaves the saved states alone is the transition
only, the case `took` of `Table.Closes` without a depth. -/
theorem closes_stayed (h : t.Selects line.text last rule tr)
    (hkind : ¬ (tr.kind? = some .push ∨ tr.kind? = some .enter)) :
    t.Closes line last (.ok tr.destination) [.matched line.number last rule tr.pattern] :=
  .took none h (by simpa using hkind)

/-- The last state reports nothing if its transition fails, since `Table.stepState` reports the
transition behind its action. -/
theorem closes_failed (h : t.Selects line.text last rule tr)
    (hkind : tr.kind? = some .fail ∨ tr.kind? = some .pop) (fault : ParseError) :
    t.Closes line last (.error fault) [] :=
  .refused fun rule' tr' h' => by rwa [h.unique h']

end Closing

/-- One try ends the line or takes a saved state back, and its reports say which: they are those
of `Table.Closes` or of `Return.reports`. The cases are the kinds of actions. -/
theorem stepState_account (ht : t.Standard) (hnames : t.NamesApart) (line : Line)
    (hs : t.get? id = some s) (w : Work Events) :
    (∃ result w' closing, t.stepState line s w = (result.map .settled, w') ∧
      w'.log.toList = w.log.toList ++ closing ∧ t.Closes line s.name result closing) ∨
    ∃ top rule tr depth w', t.stepState line s w = (.ok (.resumed top), w') ∧
      w'.log.toList = w.log.toList ++
        Return.reports line.number ⟨s.name, rule, tr.pattern, t.nameOf top, depth⟩ ∧
      t.Selects line.text s.name rule tr ∧ tr.kind? = some .pop := by
  have hname : t.nameOf s.id = s.name := by
    rw [ht.numbered id s hs]
    exact nameOf_of_get? hs
  cases hfirst : State.firstMatch? line.text s.transitions 0 with
  | none =>
    -- No transition passes the line, so none is there that could bind anything.
    refine .inl ⟨.error _, w, [], stepState_of_none hfirst, (List.append_nil _).symm,
      .refused fun rule tr hselects => ?_⟩
    obtain ⟨captures, hfound⟩ := (selects_iff hnames hs).mp hselects
    rw [hfirst] at hfound
    cases hfound
  | some found =>
    obtain ⟨rule, tr, captures⟩ := found
    have hselects : t.Selects line.text s.name rule tr :=
      (selects_iff hnames hs).mpr ⟨captures, hfirst⟩
    -- An action reports before the transition does.
    have htwo (report report' : Report) :
        ((w.log.push report).push report').toList = w.log.toList ++ [report, report'] := by
      rw [Array.toList_push, Array.toList_push, List.append_assoc, List.singleton_append]
    rcases ht.builtin s (mem_of_get? hs) tr (State.mem_of_firstMatch? hfirst) with hnone | ⟨k, hk⟩
    · exact .inl ⟨.ok _, _, _, stepState_of_fire_ok hfirst (fire_none hnone), Array.toList_push,
        closes_stayed hselects (by simp [Transition.kind?_of_none hnone])⟩
    have hkind : tr.kind? = some k := Transition.kind?_of_bound hk
    cases k with
    | emit =>
      exact .inl ⟨.ok _, _, _, stepState_of_fire_ok hfirst (fire_emit hk), Array.toList_push,
        closes_stayed hselects (by simp [hkind])⟩
    | push =>
      exact .inl ⟨.ok _, _, _, stepState_of_fire_ok hfirst (fire_push hk), htwo _ _,
        hname ▸ closes_saved hselects (.inl hkind) _⟩
    | enter =>
      exact .inl ⟨.ok _, _, _, stepState_of_fire_ok hfirst (fire_enter hk), htwo _ _,
        hname ▸ closes_saved hselects (.inr hkind) _⟩
    | fail =>
      exact .inl ⟨.error _, w, [], stepState_of_fire_error hfirst (fire_fail hk),
        (List.append_nil _).symm, closes_failed hselects (.inl hkind) _⟩
    | pop =>
      cases hstack : w.stack.topDown with
      | nil =>
        exact .inl ⟨.error _, w, [], stepState_of_fire_error hfirst (fire_pop_nil hk hstack),
          (List.append_nil _).symm, closes_failed hselects (.inr hkind) _⟩
      | cons top rest =>
        exact .inr ⟨top, rule, tr, rest.length, _,
          stepState_of_fire_ok hfirst (fire_pop_cons hk hstack), htwo _ _, hselects, hkind⟩

/-! ### The tries of a line -/

/-- A line that ends in its first state has nothing to go back through, and `Table.GoesBack` holds
with no returns. -/
theorem goesBack_nil (t : Table Events) (text source : String) :
    t.GoesBack text source [] source := ⟨rfl, by simp⟩

/-- One more state in front, from which the line comes to the next one. The names in
`Table.GoesBack` are shifted against each other by one place, which fits again. -/
theorem GoesBack.cons {r : Return} {returns : List Return} {last : String}
    {tr : Transition Events} (h : t.GoesBack text r.resumed returns last)
    (hselects : t.Selects text r.state r.rule tr) (hpattern : tr.pattern = r.pattern)
    (hpop : tr.kind? = some .pop) : t.GoesBack text r.state (r :: returns) last where
  names := by rw [List.map_cons, List.cons_append, h.names, List.map_cons]
  taken := List.forall_mem_cons.mpr ⟨⟨tr, hselects, hpattern, hpop⟩, h.taken⟩

/-- The reports of a line before its step. The induction is on the tries, and each one that goes
back adds the group `Return.reports` in front of what its successors report. -/
theorem record_account (ht : t.Standard) (hnames : t.NamesApart) (line : Line) (budget : Nat)
    (id : StateId) (w : Work Events) (hbudget : w.stack.topDown.length < budget)
    (hid : t.has id = true) (hstack : ∀ saved ∈ w.stack.topDown, t.has saved = true) :
    ∃ tries result w' returns last closing,
      t.record line budget id w = (tries, some (result, w')) ∧
      tries.length = returns.length + 1 ∧
      t.GoesBack line.text (t.nameOf id) returns last ∧ t.Closes line last result closing ∧
      w'.log.toList =
        w.log.toList ++ (returns.flatMap (Return.reports line.number) ++ closing) := by
  refine resolve_induction ht line ?_ ?_ budget id w hbudget hid hstack
  · -- The try ends the line: nothing to go back through.
    intro budget id s w w' result hs hstep hends
    rw [nameOf_of_get? hs]
    rcases stepState_account ht hnames line hs w with
      ⟨result', v, closing, hstep', hlog, hcloses⟩ | ⟨top, rule, tr, depth, v, hstep', -⟩
    · rw [hstep] at hstep'
      have hresult : result = result' := by
        cases result <;> cases result' <;> cases hstep' <;> rfl
      obtain rfl : w' = v := congrArg Prod.snd hstep'
      subst hresult
      refine ⟨[t.tryState line s w], result, w', [], s.name, closing, ?_, rfl,
        goesBack_nil t _ _, hcloses, hlog⟩
      cases result with
      | error fault => exact record_of_error budget hs hstep
      | ok next => exact record_of_settled budget hs hstep (hends.has ht)
    · rw [hstep] at hstep'
      cases result <;> cases hstep'
  · -- The try takes `top` back, and the tries behind it are those of the line from there.
    rintro budget id top s w w' tr captures hs - - hstep - htop
      ⟨tries, result, w'', returns, last, closing, hrecord, hlength, hback, hcloses, hlog⟩
    rw [nameOf_of_get? hs]
    rcases stepState_account ht hnames line hs w with
      ⟨result', v, -, hstep', -⟩ | ⟨top', rule, tr', depth, v, hstep', hreports, hselects, hpop⟩
    · rw [hstep] at hstep'
      cases result' <;> cases hstep'
    · rw [hstep] at hstep'
      cases hstep'
      let r : Return := ⟨s.name, rule, tr'.pattern, t.nameOf top, depth⟩
      refine ⟨t.tryState line s w :: tries, result, w'', r :: returns, last, closing, ?_, ?_,
        hback.cons (r := r) hselects rfl hpop, hcloses, ?_⟩
      · rw [record_of_resumed budget hs hstep htop, hrecord]
      · rw [List.length_cons, List.length_cons, hlength]
      · rw [hlog, hreports, List.flatMap_cons, List.append_assoc, List.append_assoc]

end Table

namespace Engine

variable {e : Engine Events}

/-- The reports of the next line of a parse are those of `Table.Accounts`, its step included.
There is one more try than states from which the line goes back. -/
theorem Sound.feed_account (h : e.Sound) (hnames : e.table.NamesApart) (extra : Nat)
    (text : String) :
    ∃ result e' returns reports, e.feed extra text = some (result, e') ∧
      (e.tries extra text).length = returns.length + 1 ∧
      e'.log.toList = e.log.toList ++ reports ∧
      e.table.Accounts (e.lineOf text) e.currentName returns result reports := by
  obtain ⟨tries, result, w, returns, last, closing, hrecord, hlength, hback, hcloses, hlog⟩ :=
    Table.record_account h.standard hnames (e.lineOf text) (e.budget extra) e.current e.work
      (e.length_lt_budget extra) h.current h.has_of_mem
  have htries : e.tries extra text = tries := congrArg Prod.fst hrecord
  have hfeed : e.feed extra text = some (e.answer text (result, w)) := by
    refine feed_of_resolve ?_
    rw [← Table.record_snd, hrecord]
  -- The step is the one report that a line adds behind its tries.
  have hlog' : (e.answer text (result, w)).2.log.toList = w.log.toList ++
      e.table.stepReports (e.lineOf text) e.currentName result := by
    cases result with
    | error fault => exact (List.append_nil _).symm
    | ok next => exact Array.toList_push
  have hresult : (e.answer text (result, w)).1 = result := by
    cases result <;> rfl
  refine ⟨result, (e.answer text (result, w)).2, returns, _, ?_, ?_, ?_,
    ⟨last, closing, hback, hcloses, rfl⟩⟩
  · rw [hfeed]
    exact congrArg some (Prod.ext hresult rfl)
  · rw [htries, hlength]
  · rw [hlog', hlog]
    simp [work]

end Engine

/-! ### A run -/

/-- The reports are those of what the owner did: those of a line, or none. -/
def Turn.Accounted (t : Table Events) (turn : Turn Events) (reports : List Report) : Prop :=
  match turn.operation, turn.result with
  | .feed _ text, some result =>
    ∃ returns, t.Accounts (turn.before.lineOf text) turn.before.currentName returns result reports
  | _, _ => reports = []

namespace Report

/-- The step that is reported. -/
def step? : Report → Option Step
  | .stepped number source destination => some ⟨number, source, destination⟩
  | _ => none

/-- Whether the report is about the end of a parse. -/
def isEnding : Report → Bool
  | .leftover _ _ | .finished _ _ => true
  | _ => false

end Report

/-- The only step of a line is its last report, so `Report.step?` finds nothing in the reports of
its states. -/
theorem Table.Accounts.filterMap_step? {t : Table Events} {line : Line} {source : String}
    {returns : List Return} {result : Except ParseError StateId} {reports : List Report}
    (h : t.Accounts line source returns result reports) :
    reports.filterMap Report.step? =
      (t.stepReports line source result).filterMap Report.step? := by
  obtain ⟨last, closing, -, hcloses, rfl⟩ := h
  have hreturns : (returns.flatMap (Return.reports line.number)).filterMap Report.step? = [] := by
    rw [List.filterMap_eq_nil_iff]
    intro report hreport
    obtain ⟨r, -, hr⟩ := List.mem_flatMap.mp hreport
    rcases List.mem_pair.mp hr with rfl | rfl <;> rfl
  have hclosing : closing.filterMap Report.step? = [] := by
    cases hcloses with
    | took saved => cases saved <;> rfl
    | refused => rfl
  rw [List.filterMap_append, List.filterMap_append, hreturns, hclosing, List.nil_append,
    List.nil_append]

namespace Engine

variable {e last : Engine Events} {op : Operation Events} {turn : Turn Events}
  {ops : List (Operation Events)} {turns : List (Turn Events)}

/-- One thing that the owner does adds the reports of `Turn.Accounted` to the log: those of a line
by `Sound.feed_account`, and none for anything else. -/
theorem Sound.perform_accounted (h : e.Sound) (hnames : e.table.NamesApart)
    (hturn : e.perform op = some turn) :
    ∃ reports, turn.Accounted e.table reports ∧
      turn.after.log.toList = e.log.toList ++ reports := by
  rcases perform_cases hturn with ⟨extra, text, result, e', -, hfeed, rfl⟩ | ⟨-, rfl⟩ |
    ⟨change, -, rfl⟩
  · obtain ⟨result', e'', returns, reports, hfeed', -, hlog, haccounts⟩ :=
      h.feed_account hnames extra text
    rw [hfeed] at hfeed'
    cases hfeed'
    exact ⟨reports, ⟨returns, haccounts⟩, hlog⟩
  · exact ⟨[], rfl, (List.append_nil _).symm⟩
  · exact ⟨[], rfl, (List.append_nil _).symm⟩

/-- The log of a run is put together from the reports of its turns, one list for each turn and in
the same order. The induction is on the operations. -/
theorem Sound.accounts_of_performAll (h : e.Sound) (hnames : e.table.NamesApart)
    (hrun : e.performAll ops = some (turns, last)) :
    ∃ accounts, List.Forall₂ (Turn.Accounted e.table) turns accounts ∧
      last.log.toList = e.log.toList ++ accounts.flatten := by
  induction ops generalizing e turns with
  | nil =>
    cases hrun
    exact ⟨[], .nil, (List.append_nil _).symm⟩
  | cons op rest ih =>
    obtain ⟨turn, more, hturn, hmore, rfl⟩ := performAll_cons hrun
    obtain ⟨reports, hreports, hlog⟩ := h.perform_accounted hnames hturn
    have htable : turn.after.table = e.table := table_of_perform hturn
    obtain ⟨accounts, haccounts, hlast⟩ := ih (h.of_perform hturn) (by rwa [htable]) hmore
    rw [htable] at haccounts
    exact ⟨reports :: accounts, .cons hreports haccounts, by rw [hlast, hlog]; simp⟩

/-- A line that is consumed leads to the state that it is answered with, so the step that
`Engine.settle` reports shows the name of this state. -/
theorem currentName_of_feed {δ : Type} {e e' : Engine δ} {extra : Nat} {text : String}
    {next : StateId} (h : e.feed extra text = some (.ok next, e')) :
    e'.currentName = e.table.nameOf next := by
  obtain ⟨w, -, ⟨fault, hfault, -⟩ | ⟨next', hnext, rfl⟩⟩ := feed_cases h
  · cases hfault
  · cases hnext
    rfl

/-- While steps are recorded, they are the ones that are reported. -/
def RecordsReports (e : Engine Events) : Prop :=
  e.trace.isSome = true ∧ e.recorded = e.log.toList.filterMap Report.step?

/-- What the owner does keeps `Engine.RecordsReports`: a line that is consumed records one step
and reports the same one, and nothing else does either. -/
theorem Sound.recordsReports_of_perform (h : e.Sound) (hnames : e.table.NamesApart)
    (hrecords : e.RecordsReports) (hturn : e.perform op = some turn) :
    turn.after.RecordsReports := by
  obtain ⟨hsome, hsteps⟩ := hrecords
  rcases perform_cases hturn with ⟨extra, text, result, e', -, hfeed, rfl⟩ | ⟨-, rfl⟩ |
    ⟨change, -, rfl⟩
  · obtain ⟨result', e'', returns, reports, hfeed', -, hlog, haccounts⟩ :=
      h.feed_account hnames extra text
    rw [hfeed] at hfeed'
    cases hfeed'
    rw [RecordsReports, hlog, List.filterMap_append, haccounts.filterMap_step?, ← hsteps]
    obtain ⟨trace, htrace⟩ := Option.isSome_iff_exists.mp hsome
    cases result with
    | error fault =>
      -- A line that fails reports no step and records none.
      have hsame := (feed_error_trace hfeed).1
      refine ⟨hsame ▸ hsome, ?_⟩
      rw [recorded, hsame]
      exact (List.append_nil _).symm
    | ok next =>
      have hone := feed_ok_trace hfeed
      rw [htrace, Option.map_some, currentName_of_feed hfeed] at hone
      refine ⟨by rw [hone]; rfl, ?_⟩
      rw [recorded, recorded, hone, htrace]
      simp [Trace.record, Trace.toList, Table.stepReports, Report.step?, lineOf]
  · exact ⟨rfl, by rw [recorded_recording]; exact hsteps⟩
  · exact ⟨hsome, hsteps⟩

/-- What is done with a parse can be done with its steps recorded, and does the same. Both are
compared without their traces, by `performAll_untraced`. -/
theorem exists_performAll_recorded {t : Table Events} {options : ParseOptions} {data : Events}
    (hrun : (start t options data).performAll ops = some (turns, last)) :
    ∃ turns' last', (start t { options with trace := true } data).performAll ops =
      some (turns', last') ∧ last'.untraced = last.untraced := by
  have hplain := performAll_untraced (start t options data) ops
  have hrecorded := performAll_untraced (start t { options with trace := true } data) ops
  rw [untraced_start, hplain, hrun] at hrecorded
  obtain ⟨⟨turns', last'⟩, hrun', hsame⟩ := Option.map_eq_some_iff.mp hrecorded.symm
  exact ⟨turns', last', hrun', congrArg Prod.snd hsame⟩

/-- The end of a parse adds reports about itself only, those for which `Report.isEnding` holds.
The log of the lines stands in front of them. -/
theorem exists_log_finish {δ : Type} (e : Engine δ) :
    ∃ ends, e.finish.2.log.toList = e.log.toList ++ ends ∧
      ∀ report ∈ ends, report.isEnding = true := by
  unfold finish
  dsimp only
  split
  · exact ⟨[], (List.append_nil _).symm, by simp⟩
  · rw [Array.toList_append, Array.toList_append, List.append_assoc]
    refine ⟨_, rfl, ?_⟩
    split <;> simp [Report.isEnding]

/-! ### The end of a run -/

section Texts

variable {δ : Type} {e e' last : Engine δ} {extra : Nat} {text : String} {texts : List String}
  {result : Except ParseError Summary}

/-- The log is that of feeding these texts, with reports about the end of the parse behind. -/
def LogsAs (extra : Nat) (e : Engine δ) (texts : List String) (last : Engine δ) : Prop :=
  ∃ turns mid ends, e.performAll (texts.map (Operation.feed extra)) = some (turns, mid) ∧
    last.log.toList = mid.log.toList ++ ends ∧ ∀ report ∈ ends, report.isEnding = true

/-- A parse that feeds no line logs nothing. It is what is left where a reader fails or a line
does not decode. -/
theorem logsAs_nil (extra : Nat) (e : Engine δ) : e.LogsAs extra [] e :=
  ⟨[], e, [], rfl, (List.append_nil _).symm, by simp⟩

/-- A parse that comes to the end of its input logs what `Engine.finish` reports, and these are
reports about the end by `exists_log_finish`. -/
theorem logsAs_finish (extra : Nat) (e : Engine δ) : e.LogsAs extra [] e.finish.2 := by
  obtain ⟨ends, hlog, hends⟩ := e.exists_log_finish
  exact ⟨[], e, ends, rfl, hlog, hends⟩

/-- A line in front is fed first, whatever its answer is, so `Engine.LogsAs` also holds of a run
that ends with a failing line. -/
theorem LogsAs.cons {answer : Except ParseError StateId} (h : e'.LogsAs extra texts last)
    (hfeed : e.feed extra text = some (answer, e')) : e.LogsAs extra (text :: texts) last := by
  obtain ⟨turns, mid, ends, hrun, hlog, hends⟩ := h
  refine ⟨⟨.feed extra text, e, some answer, e'⟩ :: turns, mid, ends, ?_, hlog, hends⟩
  rw [List.map_cons, performAll_cons_eq, perform, hfeed]
  simp [hrun]

/-- A parse over lines of text feeds the first ones, and may fail on the last of these. So
`Engine.LogsAs` makes it a run of the owner, to which the account of a log applies. -/
theorem logsAs_of_parse {lines : List String} (h : e.parse extra lines = some (result, last)) :
    ∃ texts, texts <+: lines ∧ e.LogsAs extra texts last := by
  induction lines generalizing e with
  | nil =>
    obtain rfl : e.finish.2 = last := congrArg Prod.snd (Option.some.inj h)
    exact ⟨[], List.nil_prefix, logsAs_finish extra e⟩
  | cons text rest ih =>
    rcases hfeed : e.feed extra text with _ | ⟨fault | next, e'⟩
    · rw [parse_of_none hfeed] at h
      cases h
    · rw [parse_of_error hfeed] at h
      cases h
      exact ⟨[text], by simp, (logsAs_nil extra last).cons hfeed⟩
    · rw [parse_of_ok hfeed] at h
      obtain ⟨texts, hprefix, hlogs⟩ := ih h
      exact ⟨text :: texts, by simpa using hprefix, hlogs.cons hfeed⟩

/-- A parse over lines that are read feeds the texts of the first ones, as in `logsAs_of_parse`.
It ends as well at a line that does not decode or where the reader fails. -/
theorem logsAs_of_parseItems {items : List (Except String (List UInt8))}
    (h : e.parseItems extra items = some (result, last)) :
    ∃ (lines : List (List UInt8)) (texts : List String), lines.map Except.ok <+: items ∧
      lines.map e.options.decoding.decode = texts.map some ∧ e.LogsAs extra texts last := by
  refine parseItems_induction ?_ ?_ ?_ ?_ ?_ h
  · -- Nothing is left, and the end reports itself.
    intro e hend
    obtain rfl : e.finish.2 = last := congrArg Prod.snd hend
    exact ⟨[], [], List.nil_prefix, rfl, logsAs_finish extra e⟩
  · -- The reader fails here, and nothing is fed.
    intro e message rest hend
    cases hend
    exact ⟨[], [], List.nil_prefix, rfl, logsAs_nil extra last⟩
  · rintro e bytes rest - hend
    cases hend
    exact ⟨[], [], List.nil_prefix, rfl, logsAs_nil extra last⟩
  · -- The text of this line is the last one that is fed.
    intro e e' bytes text fault rest hdecode hfeed hend
    cases hend
    exact ⟨[bytes], [text], by simp, by rw [List.map_singleton, hdecode, List.map_singleton],
      (logsAs_nil extra last).cons hfeed⟩
  · rintro e e' bytes text next rest hdecode hfeed ⟨lines, texts, hprefix, htexts, hlogs⟩
    rw [options_of_feed hfeed] at htexts
    exact ⟨bytes :: lines, text :: texts, by simpa using hprefix,
      by rw [List.map_cons, hdecode, htexts, List.map_cons], hlogs.cons hfeed⟩

end Texts

end Engine

namespace TableDefinition

open Engine (start)

/-- The log tells the run. Take any table of a definition, any settings and events, and whatever
the owner does with a parse.

- The log is put together from the reports of what the owner did. A line that is consumed
  reports the states from which it goes back, each one as the saved state that it comes to and
  then the transition, and for the state where it ends what that saves and then the transition,
  and then the step. A line that fails reports the states from which it goes back, and nothing
  about the one where it fails. Nothing else is reported.
- The same can be done with the steps recorded. The log is the same then, and the steps in it
  are the recorded ones.
- A parse over lines of text or over an input feeds the first lines, and reports nothing but its
  end behind them. -/
theorem log_accounts {d : TableDefinition} {fallback : Validation} {t : Table Events}
    {log : List Report} (h : d.build fallback = (.ok t, log)) (options : ParseOptions)
    (events : Events) :
    (∀ (ops : List (Operation Events)) (turns : List (Turn Events)) (e : Engine Events),
      (start t options events).performAll ops = some (turns, e) →
      (∃ accounts, List.Forall₂ (Turn.Accounted t) turns accounts ∧
        e.log.toList = accounts.flatten) ∧
      ∃ turns' e' trace, (start t { options with trace := true } events).performAll ops =
          some (turns', e') ∧ e'.log = e.log ∧ e'.trace = some trace ∧
        trace.toList = e.log.toList.filterMap Report.step?) ∧
    (∀ (extra : Nat) (lines : List String) (result : Except ParseError Summary)
      (last : Engine Events), (start t options events).parse extra lines = some (result, last) →
      ∃ texts, texts <+: lines ∧ (start t options events).LogsAs extra texts last) ∧
    ∀ (extra : Nat) (source : Text.Source) (result : Except ParseError Summary)
      (last : Engine Events),
      (start t options events).parseSource extra source = some (result, last) →
      ∃ (lines : List (List UInt8)) (texts : List String), lines.map Except.ok <+: source.lines ∧
        lines.map options.decoding.decode = texts.map some ∧
        (start t options events).LogsAs extra texts last := by
  have hnames : t.NamesApart := Table.namesApart_of_build h
  have hstart (options : ParseOptions) : (start t options events).Sound :=
    Engine.sound_start (standard_of_build h) options events
  refine ⟨fun ops turns e hrun => ⟨?_, ?_⟩, fun extra lines result last hrun =>
    Engine.logsAs_of_parse hrun, fun extra source result last hrun =>
    Engine.logsAs_of_parseItems hrun⟩
  · exact (hstart options).accounts_of_performAll hnames hrun
  · -- The log of the recorded run is this one, and there both are tied from the beginning on.
    obtain ⟨turns', e', hrun', hsame⟩ := Engine.exists_performAll_recorded hrun
    have hlog : e'.untraced.log = e.untraced.log := by rw [hsame]
    change e'.log = e.log at hlog
    obtain ⟨-, -, hsome, hsteps⟩ := Engine.invariant_of_performAll
      (P := fun e => e.Sound ∧ e.table.NamesApart ∧ e.RecordsReports) hrun'
      (fun e op turn ⟨he, hapart, hrecords⟩ hturn => ⟨he.of_perform hturn,
        (Engine.table_of_perform hturn).symm ▸ hapart,
        he.recordsReports_of_perform hapart hrecords hturn⟩)
      ⟨hstart _, hnames, rfl, rfl⟩
    obtain ⟨trace, htrace⟩ := Option.isSome_iff_exists.mp hsome
    rw [Engine.recorded, htrace, hlog] at hsteps
    exact ⟨turns', e', trace, hrun', hlog, htrace, hsteps⟩

/-- Two lines go one level down each in `threeLevels`, and the third one goes back to the middle
level and fails there. It reports how it went back, and no step. -/
theorem log_accounts_threeLevels :
    ∃ t log, threeLevels.build .strict = (.ok t, log) ∧
      ∃ (turns : List (Turn Events)) (e : Engine Events) (accounts : List (List Report))
          (e' : Engine Events) (trace : Trace),
        (start t ParseOptions.default Events.empty).performAll
          [.feed 0 "open", .feed 0 "open", .feed 0 "x"] = some (turns, e) ∧
        List.Forall₂ (Turn.Accounted t) turns accounts ∧ e.log.toList = accounts.flatten ∧
        accounts.length = 3 ∧ e.log.size = 8 ∧ e'.log = e.log ∧ e'.trace = some trace ∧
        trace.toList = [⟨1, "outer", "middle"⟩, ⟨2, "middle", "inner"⟩] := by
  obtain ⟨t, log, hbuild⟩ : ∃ t log, threeLevels.build .strict = (.ok t, log) := ⟨_, _, rfl⟩
  obtain ⟨turns, e, hrun, hsize, hsteps⟩ : ∃ turns e,
      (start t ParseOptions.default Events.empty).performAll
        [.feed 0 "open", .feed 0 "open", .feed 0 "x"] = some (turns, e) ∧ e.log.size = 8 ∧
      e.log.toList.filterMap Report.step? =
        [⟨1, "outer", "middle"⟩, ⟨2, "middle", "inner"⟩] := by
    cases hbuild
    exact ⟨_, _, rfl, rfl, rfl⟩
  obtain ⟨⟨accounts, haccounts, hlog⟩, turns', e', trace, -, hsame, htrace, hrecorded⟩ :=
    (log_accounts hbuild ParseOptions.default Events.empty).1 _ turns e hrun
  have hlength : turns.length = 3 := by
    cases hbuild
    cases hrun
    rfl
  exact ⟨t, log, hbuild, turns, e, accounts, e', trace, hrun, haccounts, hlog,
    haccounts.length_eq.symm.trans hlength, hsize, hsame, htrace, hrecorded.trans hsteps⟩

end TableDefinition

end LineMachine
