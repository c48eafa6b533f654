import LineMachine.Proofs.Builtin.Fault
import LineMachine.Proofs.Builtin.Tries

/-!
# `LineMachine.Proofs.Builtin.Events`: one event per settled line

A line that is consumed settles on the last state that it tries. If the transition that is
taken there binds `emit` or `enter`, the line leaves one event; all other lines leave none,
however many states they go back to.

* `Engine.SettlesOn`: a line of the input is consumed, and this is its last try.
  `Engine.settlesOn_cons_iff` takes the first line off an input, and
  `Engine.not_settlesOn_of_error` says that nothing settles behind a line that fails.
* `Engine.FeedsExactly` counts the lines that a run consumes.
* `Engine.Records`: the events are those of the lines that settle, in their order.
  `Engine.Records.cons` is the step over one line, and `Engine.Sound.parse_records` the
  induction over the lines.
* `TableDefinition.events_of_settled` states the result for every table of a definition.
-/

set_option autoImplicit false

namespace LineMachine

open Builtin (Kind)

namespace Engine

/-- A line of the input is consumed, as all lines before it are, and this is the last try
of it. It is a try of the line without its end, and the number of the line counts the lines
before it. -/
def SettlesOn (e : Engine Events) (extra : Nat) (lines : List String) (p : Try) : Prop :=
  ∃ before text after mid next behind, lines = before ++ text :: after ∧
    e.Consumes extra before mid ∧ mid.feed extra text = some (.ok next, behind) ∧
    (mid.tries extra text).getLast? = some p ∧
    p.line = ⟨Text.stripTerminator text, e.lineno + before.length + 1⟩

/-- A run over the lines consumes exactly so many: all of them, or those before the first
line that fails. -/
def FeedsExactly (e : Engine Events) (extra : Nat) (lines : List String) (fed : Nat) : Prop :=
  ∃ front rest mid, lines = front ++ rest ∧ front.length = fed ∧ e.Consumes extra front mid ∧
    ∀ text ∈ rest.head?, ∃ fault behind, mid.feed extra text = some (.error fault, behind)

/-- The events that a run over the lines records, of which so many are consumed:

- `increasing`: their numbers of lines increase strictly;
- `bounds`: these are the numbers of lines that are consumed;
- `mem_iff`: they are the events of the tries on which the lines settle. -/
structure Records (e : Engine Events) (extra : Nat) (lines : List String) (fed : Nat)
    (recorded : List Event) : Prop where
  increasing : recorded.Pairwise fun a b => a.lineno < b.lineno
  bounds : ∀ event ∈ recorded, e.lineno < event.lineno ∧ event.lineno ≤ e.lineno + fed
  mem_iff : ∀ event, event ∈ recorded ↔
    ∃ p, e.SettlesOn extra lines p ∧ p.event? e.table.nameOf = some event

variable {e e' : Engine Events} {extra : Nat} {text : String} {more : List String}
  {p q : Try}

/-! ### The first line of an input -/

/-- In an input without lines nothing settles, so `Engine.Records` has no events there. -/
theorem not_settlesOn_nil (e : Engine Events) (extra : Nat) (p : Try) :
    ¬ e.SettlesOn extra [] p := by
  rintro ⟨before, text, after, -, -, -, hsplit, -⟩
  exact absurd hsplit.symm (by simp)

/-- Behind a line that fails nothing settles, as `Engine.SettlesOn` asks for all lines before the
one that does to be consumed. -/
theorem not_settlesOn_of_error {fault : ParseError}
    (hfeed : e.feed extra text = some (.error fault, e')) (more : List String) (p : Try) :
    ¬ e.SettlesOn extra (text :: more) p := by
  rintro ⟨before, text', after, mid, next, behind, hsplit, hconsumes, hfeed', -⟩
  cases hconsumes with
  | nil =>
    -- The line itself is not consumed.
    cases hsplit
    rw [hfeed] at hfeed'
    cases hfeed'
  | cons line _ =>
    cases hsplit
    rw [hfeed] at line
    cases line

/-- The lines that settle are the first one and those that settle behind it. A line settles on its
last try only, which is `q` for the first one. -/
theorem settlesOn_cons_iff {next : StateId} (hfeed : e.feed extra text = some (.ok next, e'))
    (hlast : (e.tries extra text).getLast? = some q) (hline : q.line = e.lineOf text) :
    e.SettlesOn extra (text :: more) p ↔ p = q ∨ e'.SettlesOn extra more p := by
  have hnumber : e'.lineno = e.lineno + 1 := lineno_of_feed hfeed
  constructor
  -- No line before it makes it the first one, and some lines before it leave it to the rest.
  · rintro ⟨before, text', after, mid, next', behind, hsplit, hconsumes, hfeed', htries, hp⟩
    cases hconsumes with
    | nil =>
      cases hsplit
      exact .inl (Option.some.inj (htries.symm.trans hlast))
    | @cons _ mid' _ _ before _ line rest =>
      cases hsplit
      rw [hfeed] at line
      cases line
      refine .inr ⟨before, text', after, mid, next', behind, rfl, rest, hfeed', htries, ?_⟩
      rw [hp, hnumber, List.length_cons, Line.mk.injEq]
      exact ⟨rfl, by omega⟩
  · rintro (rfl | ⟨before, text', after, mid, next', behind, rfl, hconsumes, hfeed', htries, hp⟩)
    · exact ⟨[], text, more, e, next, e', rfl, .nil e, hfeed, hlast, hline⟩
    · refine ⟨text :: before, text', after, mid, next', behind, rfl, .cons hfeed hconsumes,
        hfeed', htries, ?_⟩
      rw [hp, hnumber, List.length_cons, Line.mk.injEq]
      exact ⟨rfl, by omega⟩

/-- A line that is consumed is one more than those behind it that are. Where the run ends, by a
failure or with the input, stays the same. -/
theorem FeedsExactly.cons {next : StateId} {fed : Nat}
    (hfeed : e.feed extra text = some (.ok next, e')) (h : e'.FeedsExactly extra more fed) :
    e.FeedsExactly extra (text :: more) (fed + 1) := by
  obtain ⟨front, rest, mid, rfl, rfl, hconsumes, hfails⟩ := h
  exact ⟨text :: front, rest, mid, rfl, rfl, .cons hfeed hconsumes, hfails⟩

/-! ### The events of a run -/

/-- Where no line settles, nothing is recorded, and the three fields of `Engine.Records` hold of
no events. -/
theorem records_nil {lines : List String} (h : ∀ p, ¬ e.SettlesOn extra lines p) :
    e.Records extra lines 0 [] where
  increasing := .nil
  bounds := by simp
  mem_iff := by simp [h]

/-- The step over a line that settles: its event, if it has one, comes before those of the lines
behind it, and its number is smaller than theirs. -/
theorem Records.cons {next : StateId} {fed : Nat} {recorded : List Event}
    (hfeed : e.feed extra text = some (.ok next, e'))
    (hlast : (e.tries extra text).getLast? = some q) (hline : q.line = e.lineOf text)
    (h : e'.Records extra more fed recorded) :
    e.Records extra (text :: more) (fed + 1)
      ((q.event? e.table.nameOf).toList ++ recorded) := by
  have hnumber : e'.lineno = e.lineno + 1 := lineno_of_feed hfeed
  have hfirst : ∀ event, event ∈ (q.event? e.table.nameOf).toList →
      event.lineno = e.lineno + 1 := by
    intro event hevent
    obtain ⟨tr, k, -, -, -, rfl⟩ := Try.event?_eq_some_iff.mp (Option.mem_toList.mp hevent)
    rw [hline]
    rfl
  constructor
  · -- The event of this line has its number, and those behind it have larger ones.
    rw [List.pairwise_append]
    refine ⟨?_, h.increasing, ?_⟩
    · cases q.event? e.table.nameOf with
      | none => exact .nil
      | some event => exact List.pairwise_singleton _ _
    · intro event hevent later hlater
      have hbehind := (h.bounds later hlater).1
      rw [hfirst event hevent]
      omega
  · intro event hevent
    rcases List.mem_append.mp hevent with hhere | hbehind
    · rw [hfirst event hhere]
      omega
    · have hbounds := h.bounds event hbehind
      omega
  · intro event
    rw [List.mem_append, h.mem_iff, table_of_feed hfeed, Option.mem_toList]
    simp only [settlesOn_cons_iff hfeed hlast hline, or_and_right, exists_or, exists_eq_left]

/-- The last try of a line that settles takes the first transition of its state that passes the
line. It is the field `Table.EndsOn.taken` of the line. -/
theorem Sound.taken_of_settlesOn (h : e.Sound) {lines : List String}
    (hp : e.SettlesOn extra lines p) :
    p.taken = (e.table.rule? p.line p.state).map Prod.fst := by
  obtain ⟨before, text, after, mid, next, behind, -, hconsumes, -, htries, -⟩ := hp
  -- The parse is sound behind the lines before this one, too.
  obtain ⟨front, last, result, w, hsplit, -, hends⟩ :=
    (h.of_consumes hconsumes).feed_endsOn extra text
  rw [hsplit, List.getLast?_concat, Option.some.injEq] at htries
  subst htries
  rw [← hconsumes.table_eq, hends.here last (by simp)]
  exact hends.taken

/-- The end of a parse leaves the events as they are, with a summary or with an error, so the
events of a run are those of its lines. -/
theorem data_finish (e : Engine Events) : e.finish.2.data = e.data := by
  rcases e.finish_cases with ⟨-, -, hend⟩ | ⟨-, log, hend⟩
  · rw [hend]
  · rw [hend]

/-- What a parse over lines of text adds to the events is what `Engine.Records` says. The
induction is on the lines: each line that is consumed adds the event of the try on which it
settles, and a line that fails adds none. -/
theorem Sound.parse_records (h : e.Sound) (extra : Nat) (lines : List String) :
    ∃ result e' fed recorded, e.parse extra lines = some (result, e') ∧
      e.FeedsExactly extra lines fed ∧ e'.data.toList = e.data.toList ++ recorded ∧
      e.Records extra lines fed recorded := by
  induction lines generalizing e with
  | nil =>
    refine ⟨_, _, 0, [], rfl, ⟨[], [], e, rfl, rfl, .nil e, by simp⟩, ?_,
      records_nil (not_settlesOn_nil e extra)⟩
    rw [List.append_nil]
    exact congrArg Events.toList e.data_finish
  | cons text more ih =>
    obtain ⟨front, last, result, w, htries, hfeed, hends⟩ := h.feed_endsOn extra text
    have hlast : (e.tries extra text).getLast? = some last := by
      rw [htries, List.getLast?_concat]
    have hline : last.line = e.lineOf text := hends.here last (by simp)
    cases result with
    | error fault =>
      refine ⟨_, _, 0, [], parse_of_error hfeed, ?_, ?_,
        records_nil (not_settlesOn_of_error hfeed more)⟩
      · exact ⟨[], text :: more, e, rfl, rfl, .nil e, by simpa using ⟨fault, _, hfeed⟩⟩
      · -- A try that fails records nothing.
        exact hends.data.trans (by rw [hends.event?_of_error]; rfl)
    | ok next =>
      obtain ⟨result, e', fed, recorded, hparse, hfed, hdata, hrecords⟩ := ih (h.of_feed hfeed)
      refine ⟨result, e', fed + 1, _, ?_, hfed.cons hfeed, ?_, hrecords.cons hfeed hlast hline⟩
      · rw [parse_of_ok hfeed, hparse]
      · rw [hdata, ← List.append_assoc]
        exact congrArg (· ++ recorded) hends.data

end Engine

namespace TableDefinition

open Engine (start)

/-- One event per settled line. Take any table of a definition, any settings, any events so far
and any lines of text. The parse ends, well or with an error, and consumes some number of lines
(`Engine.FeedsExactly`). What it adds to the events are events with strictly increasing numbers of
lines, all of them numbers of lines that are consumed. There is an event exactly for each line
that is consumed and settles on a transition that binds `emit` or `enter`. It shows

- the number of the line and the name of the action;
- the name of the state that the transition belongs to, which is the state where the line settles;
- the groups of the transition's pattern on the line without its end, empty for those that took no
  part. -/
theorem events_of_settled {d : TableDefinition} {fallback : Validation} {t : Table Events}
    {log : List Report} (h : d.build fallback = (.ok t, log)) (options : ParseOptions)
    (events : Events) (extra : Nat) (lines : List String) :
    ∃ result e' fed recorded,
      (start t options events).parse extra lines = some (result, e') ∧
      (start t options events).FeedsExactly extra lines fed ∧
      e'.data.toList = events.toList ++ recorded ∧
      recorded.Pairwise (fun a b => a.lineno < b.lineno) ∧
      (∀ event ∈ recorded, 0 < event.lineno ∧ event.lineno ≤ fed) ∧
      ∀ event, event ∈ recorded ↔ ∃ p s tr k,
        (start t options events).SettlesOn extra lines p ∧ t.get? p.state = some s ∧
        tr ∈ s.transitions ∧ p.taken = some tr ∧ (k = Kind.emit ∨ k = Kind.enter) ∧
        tr.action = some k.bound ∧
        event = ⟨p.line.number, k.name, s.name, tr.pattern.groupTexts p.line.text⟩ := by
  have ht : t.Standard := standard_of_build h
  have hstart : (start t options events).Sound := Engine.sound_start ht options events
  obtain ⟨result, e', fed, recorded, hparse, hfed, hdata, hrecords⟩ :=
    hstart.parse_records extra lines
  refine ⟨result, e', fed, recorded, hparse, hfed, hdata, hrecords.increasing, ?_, ?_⟩
  · intro event hevent
    simpa [start] using hrecords.bounds event hevent
  · intro event
    rw [hrecords.mem_iff]
    constructor
    -- An event shows the transition that its line settles on, which is in the table.
    · rintro ⟨p, hp, hevent⟩
      obtain ⟨tr, k, htaken, hkind, hrecorded, rfl⟩ := Try.event?_eq_some_iff.mp hevent
      obtain ⟨⟨_, captures⟩, hrule, rfl⟩ :=
        Option.map_eq_some_iff.mp ((hstart.taken_of_settlesOn hp).symm.trans htaken)
      obtain ⟨s, hs, hmem⟩ := Table.mem_of_rule? hrule
      have hbound := ((ht.isBuiltin_of_rule? hrule).kind?_eq_some_iff k).mp hkind
      refine ⟨p, s, _, k, hp, hs, hmem, htaken, k.records_iff.mp hrecorded, hbound, ?_⟩
      rw [← Table.nameOf_of_get? hs]
    · rintro ⟨p, s, tr, k, hp, hs, -, htaken, hrecords, hbound, rfl⟩
      refine ⟨p, hp, Try.event?_eq_some_iff.mpr
        ⟨tr, k, htaken, Transition.kind?_of_bound hbound, k.records_iff.mpr hrecords, ?_⟩⟩
      rw [← Table.nameOf_of_get? hs]
      rfl

/-- A block that ends on any line, with a group in the expression outside of it that need
not take part. -/
def optionalGroup : TableDefinition where
  initial := none
  validation := none
  rules :=
    [⟨"outside", some "open", none, some "inside", some "enter"⟩,
      ⟨"outside", none, some "(a)?b", none, some "emit"⟩,
      ⟨"inside", none, none, some "inside", some "pop"⟩]

/-- The second line comes to `inside`, goes back, and is recorded outside, with an empty group.
The line feed and the carriage return are no part of it. -/
theorem events_of_settled_optionalGroup :
    ∃ t log, optionalGroup.build .strict = (.ok t, log) ∧ ∃ p s tr,
      (start t ParseOptions.default Events.empty).SettlesOn 0 ["open\n", "b\r\n"] p ∧
      t.get? p.state = some s ∧ s.name = "outside" ∧ p.taken = some tr ∧
      tr.action = some Kind.emit.bound ∧ p.line.number = 2 ∧
      tr.pattern.groupTexts p.line.text = [""] := by
  obtain ⟨t, log, hbuild⟩ : ∃ t log, optionalGroup.build .strict = (.ok t, log) :=
    ⟨_, _, by rfl⟩
  obtain ⟨result, e', fed, recorded, hparse, -, hdata, -, -, hiff⟩ :=
    events_of_settled hbuild ParseOptions.default Events.empty 0 ["open\n", "b\r\n"]
  have hend : e'.data.toList = [⟨1, "enter", "outside", []⟩, ⟨2, "emit", "outside", [""]⟩] := by
    have hrun : ((optionalGroup.build .strict).1.toOption.bind fun t =>
        (start t ParseOptions.default Events.empty).parse 0 ["open\n", "b\r\n"]).map
          (fun answer => answer.2.data.toList) =
        some [⟨1, "enter", "outside", []⟩, ⟨2, "emit", "outside", [""]⟩] := by decide +kernel
    rw [hbuild] at hrun
    exact Option.some.inj ((congrArg (Option.map _) hparse).symm.trans hrun)
  have hrecorded : ⟨2, "emit", "outside", [""]⟩ ∈ recorded := by
    rw [hend] at hdata
    rw [← List.nil_append recorded, show ([] : List Event) = Events.empty.toList from rfl, ← hdata]
    simp
  obtain ⟨p, s, tr, k, hp, hs, -, htaken, hk, hbound, hevent⟩ := (hiff _).mp hrecorded
  obtain ⟨hnumber, hname, hstate, hgroups⟩ := Event.mk.inj hevent
  have hemit : k = .emit := by
    rcases hk with rfl | rfl
    · rfl
    · exact absurd hname (by decide)
  subst hemit
  exact ⟨t, log, hbuild, p, s, tr, hp, hs, hstate.symm, htaken, hbound, hnumber.symm,
    hgroups.symm⟩

end TableDefinition

end LineMachine
