import LineMachine.CommandLine.Report
import LineMachine.Proofs.Builtin.GroupText
import Mathlib.Data.List.Basic

/-!
# `LineMachine.Proofs.CommandLine.TextReport`: reading the text report back

The report of a run is a stream of lines without tags. A recorded match is a line of columns with
tabs between them, and their number depends on the match. The summary follows, and then what is
left of the stack and the steps, if there are any.

* `readReport?` reads such a text. A line is a match if it has columns and the first one is a
  number, and the first line that is none begins the summary.
* `readEvent?_columns`: the columns of a match give the match again, with empty groups at any place.
* `readLines?_events` is the induction over the matches, and `readReport?_runText` puts the parts
  together.
* `runText_determines` states the result for any two reports.
-/

set_option autoImplicit false

namespace LineMachine

namespace CommandLine

/-- The text can stand in a column: it has neither a tab nor a line feed. -/
def FitsColumn (text : String) : Prop := '\t' ∉ text.toList ∧ '\n' ∉ text.toList

/-- All texts of a match can stand in columns. -/
structure FitsLine (e : Event) : Prop where
  state : FitsColumn e.state
  action : FitsColumn e.action
  groups : ∀ group ∈ e.groups, FitsColumn group

/-! ### The reader -/

/-- The columns of a line. -/
def columnsOf (line : List Char) : List String := (line.splitOn '\t').map String.ofList

/-- The number that a text shows in digits. -/
def readNumber? (text : String) : Option Nat :=
  if text.toList.all Char.isDigit then some (Nat.ofDigitChars 10 text.toList 0) else none

/-- The match that a line shows, if its columns are those of one. -/
def readEvent? (line : List Char) : Option Event :=
  match columnsOf line with
  | number :: state :: action :: groups =>
    (readNumber? number).map fun n => ⟨n, action, state, groups⟩
  | _ => none

/-- What stands behind a label. -/
def readBehind? (label : String) (line : List Char) : Option String :=
  (line.dropPrefix? label.toList).map String.ofList

/-- The final state and the number of lines, from the first two lines of a summary. -/
def readSummary? : List (List Char) → Option (String × Nat)
  | state :: count :: _ => do
    let state ← readBehind? "final state: " state
    let count ← readBehind? "lines: " count
    some (state, ← readNumber? count)
  | _ => none

/-- The matches, up to the first line that shows none, and the summary from there on. -/
def readLines? : List (List Char) → Option (List Event × String × Nat)
  | [] => none
  | line :: rest =>
    match readEvent? line with
    | some event => (readLines? rest).map fun found => (event :: found.1, found.2)
    | none => (readSummary? (line :: rest)).map fun found => ([], found)

/-- The matches, the final state and the number of lines that a report shows. -/
def readReport? (text : String) : Option (List Event × String × Nat) :=
  readLines? (text.toList.splitOn '\n')

/-! ### Columns -/

/-- A number is written in digits only. So it has neither a tab nor a line feed, and `readNumber?`
accepts what is written. -/
theorem isDigit_of_mem_number (n : Nat) : ∀ c ∈ (toString n).toList, c.isDigit = true := by
  intro c hc
  rw [Nat.toString_eq_repr, Nat.toList_repr] at hc
  exact Nat.isDigit_of_mem_toDigits (by omega) (by omega) hc

/-- A number can stand in a column. The line number of a match and the count in a summary are such
numbers. -/
theorem fitsColumn_number (n : Nat) : FitsColumn (toString n) := by
  constructor
  · intro htab
    exact absurd (isDigit_of_mem_number n _ htab) (by decide)
  · intro hfeed
    exact absurd (isDigit_of_mem_number n _ hfeed) (by decide)

/-- A number is read from its digits, by `Nat.ofDigitChars` as the library has it. -/
theorem readNumber?_toString (n : Nat) : readNumber? (toString n) = some n := by
  rw [readNumber?, if_pos (List.all_eq_true.mpr (isDigit_of_mem_number n)), Nat.toString_eq_repr,
    Nat.toList_repr, Nat.ofDigitChars_toDigits (by omega) (by omega)]

/-- The columns of a match. -/
def eventColumns (e : Event) : List String := toString e.lineno :: e.state :: e.action :: e.groups

/-- All columns of a match can stand on a line: its number is in digits, and `FitsLine` asks the
same of the state, the action and the groups. -/
theorem FitsLine.columns {e : Event} (h : FitsLine e) :
    ∀ column ∈ eventColumns e, FitsColumn column := by
  intro column hcolumn
  rw [eventColumns, List.mem_cons, List.mem_cons, List.mem_cons] at hcolumn
  rcases hcolumn with rfl | rfl | rfl | hgroup
  · exact fitsColumn_number e.lineno
  · exact h.state
  · exact h.action
  · exact h.groups column hgroup

/-- Columns that are put on a line are read off it. No column has a tab, so the line is split
where it was joined; an empty column gives an empty piece and is not lost. -/
theorem columnsOf_intercalate {columns : List String} (hne : columns ≠ [])
    (h : ∀ column ∈ columns, FitsColumn column) :
    columnsOf ("\t".intercalate columns).toList = columns := by
  have htabs : ∀ cs ∈ columns.map String.toList, '\t' ∉ cs := by
    intro cs hcs
    obtain ⟨column, hcolumn, rfl⟩ := List.mem_map.mp hcs
    exact (h column hcolumn).1
  rw [columnsOf, String.toList_intercalate]
  rw [show "\t".toList = ['\t'] from rfl, List.splitOn_intercalate '\t' htabs (by simpa using hne),
    List.map_map]
  simp

/-- Columns without line feeds stay on one line. The induction over the matches rests on this, as
the text is split into lines before columns are looked at. -/
theorem notMem_intercalate {columns : List String} (h : ∀ column ∈ columns, FitsColumn column) :
    '\n' ∉ ("\t".intercalate columns).toList := by
  rw [String.toList_intercalate, show "\t".toList = ['\t'] from rfl]
  induction columns with
  | nil => simp
  | cons first more ih =>
    obtain ⟨hfirst, hmore⟩ := List.forall_mem_cons.mp h
    cases more with
    | nil => simpa using hfirst.2
    | cons second rest =>
      have hrest := ih hmore
      rw [List.map_cons] at hrest
      simp [List.intercalate_cons_cons, hfirst.2, hrest]

/-- The columns of a match give the match again. The number of groups is what is left behind the
first three columns, so empty groups at the end count. -/
theorem readEvent?_columns {e : Event} (h : FitsLine e) :
    readEvent? ("\t".intercalate (eventColumns e)).toList = some e := by
  rw [readEvent?, columnsOf_intercalate (by simp [eventColumns]) h.columns]
  simp only [eventColumns, readNumber?_toString, Option.map_some]

/-! ### Lines -/

/-- A line is the first one of the text that it begins. With `lineOf` at the front, splitting the
text takes off this line and leaves the rest. -/
theorem splitOn_lineOf {text : String} (h : '\n' ∉ text.toList) (rest : List Char) :
    ((lineOf text).toList ++ rest).splitOn '\n' = text.toList :: rest.splitOn '\n' := by
  rw [lineOf, String.toList_append, List.append_assoc]
  exact List.splitOn_append_cons_self_of_not_mem h rest

/-- What stands behind a label is found again, also when it looks like the label or is empty. -/
theorem readBehind?_append (label text : String) :
    readBehind? label (label ++ text).toList = some text := by
  rw [readBehind?, String.toList_append, List.dropPrefix?_append_of_beq _ (beq_self_eq_true _),
    Option.map_some, String.ofList_toList]

/-- The lines of matches are read as these matches. The induction is on the matches, and `rest` is
the summary, which is read in one piece. -/
theorem readLines?_events {events : List Event} (h : ∀ e ∈ events, FitsLine e)
    (rest : List Char) :
    readLines? ((events.flatMap (fun e => (eventLine e).toList) ++ rest).splitOn '\n') =
      (readLines? (rest.splitOn '\n')).map fun found => (events ++ found.1, found.2) := by
  induction events with
  | nil => simp
  | cons e more ih =>
    obtain ⟨he, hmore⟩ := List.forall_mem_cons.mp h
    have hline : '\n' ∉ ("\t".intercalate (eventColumns e)).toList :=
      notMem_intercalate he.columns
    rw [List.flatMap_cons, List.append_assoc]
    rw [show eventLine e = lineOf ("\t".intercalate (eventColumns e)) from rfl,
      splitOn_lineOf hline, readLines?, readEvent?_columns he]
    dsimp only
    rw [ih hmore, Option.map_map]
    rfl

/-- The first line of a summary is no match: it has one column only. Here the state must have no
tab, or the line could be taken for a match. -/
theorem readEvent?_finalState {state : String} (h : FitsColumn state) :
    readEvent? ("final state: " ++ state).toList = none := by
  have htab : '\t' ∉ ("final state: " ++ state).toList := by simpa using h.1
  rw [readEvent?, columnsOf, List.splitOn_eq_singleton htab]
  rfl

/-- The lines of a summary are read, whatever stands behind the first two. `readSummary?` ignores
the stack and the steps, whose names may hold anything. -/
theorem readLines?_summary {s : Summary} (h : FitsColumn s.finalState) :
    readLines? ((summaryText s).toList.splitOn '\n') = some ([], s.finalState, s.lines) := by
  have hstate : '\n' ∉ ("final state: " ++ s.finalState).toList := by simpa using h.2
  have hcount : '\n' ∉ ("lines: " ++ toString s.lines).toList := by
    simpa using (fitsColumn_number s.lines).2
  rw [summaryText, String.toList_append, String.toList_append, String.toList_append,
    List.append_assoc, List.append_assoc, splitOn_lineOf hstate, splitOn_lineOf hcount, readLines?,
    readEvent?_finalState h]
  dsimp only
  rw [readSummary?, readBehind?_append, readBehind?_append]
  simp only [Option.bind_eq_bind, Option.bind_some, readNumber?_toString, Option.map_some]

/-- A report is read as what it shows: `readLines?_events` for the matches, and
`readLines?_summary` from the first line that is none. -/
theorem readReport?_runText {events : Events} {s : Summary}
    (hevents : ∀ e ∈ events.toList, FitsLine e) (hstate : FitsColumn s.finalState) :
    readReport? (runText events s) = some (events.toList, s.finalState, s.lines) := by
  rw [readReport?, runText, String.toList_append, String.toList_join, List.flatMap_map,
    readLines?_events hevents, readLines?_summary hstate]
  simp

open Engine (start) in
/-- The text report can be read back. Take any two reports in which the names of the final state
and the texts of all matches have neither tabs nor line feeds (`FitsLine`, `FitsColumn`).

- If the texts are the same, then the matches are, with empty groups at any place, and so are the
  final states and the numbers of lines. The stacks and the steps that follow need not be the
  same, and nothing is asked of the names in them.
- The groups that a parse of an input records never have a line feed, so only tabs can be in the
  way there. -/
theorem runText_determines :
    (∀ (events events' : Events) (s s' : Summary),
      (∀ e ∈ events.toList, FitsLine e) → FitsColumn s.finalState →
      (∀ e ∈ events'.toList, FitsLine e) → FitsColumn s'.finalState →
      runText events s = runText events' s' →
      events.toList = events'.toList ∧ s.finalState = s'.finalState ∧ s.lines = s'.lines) ∧
    ∀ (d : TableDefinition) (fallback : Validation) (t : Table Events) (log : List Report),
      d.build fallback = (.ok t, log) →
      ∀ (options : ParseOptions) (extra : Nat) (source : Text.Source)
        (result : Except ParseError Summary) (last : Engine Events),
        (start t options Events.empty).parseSource extra source = some (result, last) →
        ∀ e ∈ last.data.toList, ∀ group ∈ e.groups, '\n' ∉ group.toList := by
  refine ⟨?_, fun d fallback t log hbuild options extra source result last hrun =>
    TableDefinition.groups_onLines hbuild hrun⟩
  intro events events' s s' hevents hstate hevents' hstate' htext
  -- One text is read in one way only.
  have hread := readReport?_runText hevents hstate
  rw [htext, readReport?_runText hevents' hstate', Option.some.injEq, Prod.mk.injEq,
    Prod.mk.injEq] at hread
  obtain ⟨hlist, hfinal, hlines⟩ := hread
  exact ⟨hlist.symm, hfinal.symm, hlines.symm⟩

/-- The theorem at a text with an empty group at the end of a line. Its stack can be one state or
two, but the match can only be this one. The table `TableDefinition.optionalGroup` records such a
group. -/
theorem runText_determines_emptyGroup :
    (∀ (events : Events) (s : Summary), (∀ e ∈ events.toList, FitsLine e) →
      FitsColumn s.finalState →
      runText events s = "2\tb\temit\t\tx\t\nfinal state: b\nlines: 3\nstack: a, c\n" →
      events.toList = [⟨2, "emit", "b", ["", "x", ""]⟩] ∧ s.finalState = "b" ∧ s.lines = 3) ∧
    ∃ t log result last, TableDefinition.optionalGroup.build .strict = (.ok t, log) ∧
      (Engine.start t ParseOptions.default Events.empty).parseSource 0
        ⟨[0x6F, 0x70, 0x65, 0x6E, 0x0A, 0x62, 0x0D, 0x0A], none⟩ = some (result, last) ∧
      last.data.toList.map Event.groups = [[], [""]] ∧
      ∀ e ∈ last.data.toList, ∀ group ∈ e.groups, '\n' ∉ group.toList := by
  constructor
  · intro events s hevents hstate htext
    refine runText_determines.1 events ⟨#[⟨2, "emit", "b", ["", "x", ""]⟩]⟩ s
      ⟨"b", 3, ["a", "c"], none⟩ hevents hstate ?_ ⟨by decide, by decide⟩ (htext.trans (by decide))
    intro e he
    obtain rfl : e = ⟨2, "emit", "b", ["", "x", ""]⟩ := by simpa [Events.toList] using he
    exact ⟨⟨by decide, by decide⟩, ⟨by decide, by decide⟩, by simp [FitsColumn]⟩
  · obtain ⟨t, log, hbuild⟩ :
        ∃ t log, TableDefinition.optionalGroup.build .strict = (.ok t, log) := ⟨_, _, by rfl⟩
    have hrun : ((TableDefinition.optionalGroup.build .strict).1.toOption.bind fun t =>
        (Engine.start t ParseOptions.default Events.empty).parseSource 0
          ⟨[0x6F, 0x70, 0x65, 0x6E, 0x0A, 0x62, 0x0D, 0x0A], none⟩).map
          (fun answer => answer.2.data.toList.map Event.groups) = some [[], [""]] := by
      decide +kernel
    rw [hbuild] at hrun
    obtain ⟨⟨result, last⟩, hparse, hgroups⟩ := Option.map_eq_some_iff.mp hrun
    exact ⟨t, log, result, last, hbuild, hparse, hgroups, runText_determines.2
      TableDefinition.optionalGroup .strict t log hbuild _ 0 _ result last hparse⟩

end CommandLine

end LineMachine
