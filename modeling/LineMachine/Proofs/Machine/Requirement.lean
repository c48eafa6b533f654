import LineMachine.Proofs.Machine.Feed

/-!
# `LineMachine.Proofs.Machine.Requirement`: an empty stack as a requirement

The settings may require that no states are left at the end. A parse looks at this when the
input has ended and at no other time, so the requirement turns some summaries into errors and
changes nothing else.

* `Input` is what a parse is given, lines of text or an input to read, and `Engine.consume`
  consumes it.
* `Filters` is how a parse with the requirement ends, next to one without.
  `Filters.outcome_cases` lists what can come of the one with it.
* `Engine.requiring` is a parse with the requirement or without it. `Engine.feed_requiring`
  says that no line depends on it, and `Engine.finish_filters` what the end makes of it.
* `Engine.parse_filters` and `Engine.parseItems_filters` are the inductions over the lines, and
  `Engine.requirement_filters` states the result for every table.
-/

set_option autoImplicit false

namespace LineMachine

variable {δ : Type}

/-- What a parse is given. -/
inductive Input where
  /-- lines of text -/
  | lines (texts : List String)
  /-- bytes that are read line by line, from an input that may fail -/
  | source (s : Text.Source)

/-- How a parse that must not leave states behind ends (`on`), next to one that may (`off`). -/
structure Filters (off on : Answer δ Summary) : Prop where
  /-- the actions collected the same -/
  data : on.2.data = off.2.data
  /-- the same states are left -/
  stack : on.2.stack = off.2.stack
  /-- a summary shows their names, the first one first, also of a state that the table does not
  have -/
  names : ∀ s, off.1 = .ok s → s.stack = off.2.stack.bottomUp.map off.2.table.nameOf
  /-- an error stays -/
  error : ∀ fault, off.1 = .error fault → on.1 = .error fault
  /-- so does a summary without states -/
  balanced : ∀ s, off.1 = .ok s → s.stack = [] → on.1 = .ok s
  /-- any other summary is an error that shows the same names, and their number -/
  leftover : ∀ s, off.1 = .ok s → s.stack ≠ [] →
    on.1 = .error (.unbalancedStack s.stack.length s.stack)

/-- With the requirement there is no outcome but these: the one without it, which shows no states,
or the error over those that it shows. The cases follow those of `off.1`, and each is a field of
`Filters`. -/
theorem Filters.outcome_cases {off on : Answer δ Summary} (h : Filters off on) :
    (on.1 = off.1 ∧ ∀ s, off.1 = .ok s → s.stack = []) ∨
      ∃ s, off.1 = .ok s ∧ s.stack ≠ [] ∧
        on.1 = .error (.unbalancedStack s.stack.length s.stack) := by
  cases hoff : off.1 with
  | error fault => exact .inl ⟨h.error fault hoff, nofun⟩
  | ok s =>
    by_cases hempty : s.stack = []
    · refine .inl ⟨h.balanced s hoff hempty, ?_⟩
      rintro _ ⟨⟩
      exact hempty
    · exact .inr ⟨s, rfl, hempty, h.leftover s hoff hempty⟩

namespace Engine

/-- Consumes what the parse is given, and finishes. -/
def consume (extra : Nat) (input : Input) (e : Engine δ) : Option (Answer δ Summary) :=
  match input with
  | .lines texts => e.parse extra texts
  | .source s => e.parseSource extra s

/-- The parse with the requirement, or without it. -/
def requiring (e : Engine δ) (required : Bool) : Engine δ :=
  e.mapOptions fun options => { options with requireEmptyStack := required }

/-- A parse that is about to begin, with the requirement or without it. -/
def startRequiring (t : Table δ) (options : ParseOptions) (data : δ) (required : Bool) :
    Engine δ :=
  start t { options with requireEmptyStack := required } data

/-- Beginning a parse with `Engine.startRequiring` is beginning it with any settings and then
setting the requirement. So a statement about a start follows from one about
`Engine.requiring`. -/
theorem startRequiring_eq (t : Table δ) (options : ParseOptions) (data : δ) (required : Bool) :
    startRequiring t options data required = (start t options data).requiring required :=
  rfl

/-- No line depends on the requirement, as `feed_mapOptions` says of all settings. The two parses
of `Filters` stay the same but for the requirement, line by line. -/
theorem feed_requiring (e : Engine δ) (required : Bool) (extra : Nat) (text : String) :
    (e.requiring required).feed extra text =
      (e.feed extra text).map fun answer => (answer.1, answer.2.requiring required) :=
  e.feed_mapOptions _ extra text

/-! ### The end -/

/-- An error that comes before the end comes in both parses. There is no summary then, so the
fields of `Filters` about one are empty. -/
theorem filters_error (e : Engine δ) (fault : ParseError) :
    Filters (.error fault, e.requiring false) (.error fault, e.requiring true) where
  data := rfl
  stack := rfl
  names := nofun
  error := fun _ h => h
  balanced := nofun
  leftover := nofun

/-- The end is where the requirement counts: without it `Engine.finish` has a summary in any case,
and with it the same summary or an error, as states are left or not. -/
theorem finish_filters (e : Engine δ) :
    Filters (e.requiring false).finish (e.requiring true).finish := by
  -- Without it the parse has a summary in any case.
  obtain ⟨log, hoff⟩ : ∃ log,
      (e.requiring false).finish = (.ok e.summary, { e.requiring false with log }) := by
    rcases (e.requiring false).finish_cases with ⟨hrequired, -⟩ | ⟨-, hend⟩
    · cases hrequired
    · exact hend
  have hlength : e.summary.stack.length = e.stack.depth := e.length_stack_summary
  have hempty : e.summary.stack = [] ↔ e.stack.topDown = [] := by
    simp [summary, ContextStack.bottomUp]
  rcases (e.requiring true).finish_cases with ⟨-, hleft, hon⟩ | ⟨hnone, log', hon⟩
  · -- States are left, so there is an error with it.
    rw [hoff, hon]
    refine ⟨rfl, rfl, ?_, ?_, ?_, ?_⟩
    · rintro _ ⟨⟩
      rfl
    · rintro _ ⟨⟩
    · rintro _ ⟨⟩ hstack
      exact absurd (hempty.mp hstack) hleft
    · rintro _ ⟨⟩ -
      rw [hlength]
      rfl
  · -- None are left, and both have the same summary.
    rw [hoff, hon]
    refine ⟨rfl, rfl, ?_, ?_, ?_, ?_⟩
    · rintro _ ⟨⟩
      rfl
    · rintro _ ⟨⟩
    · rintro _ ⟨⟩ -
      rfl
    · rintro _ ⟨⟩ hstack
      exact absurd (hempty.mpr (hnone rfl)) hstack

/-! ### A run -/

/-- Lines of text are parsed alike up to the end. The induction is on the lines, where
`feed_requiring` exchanges one parse for the other, and `finish_filters` comes behind the last
one. -/
theorem parse_filters (e : Engine δ) (extra : Nat) (texts : List String) :
    Option.Rel Filters ((e.requiring false).parse extra texts)
      ((e.requiring true).parse extra texts) := by
  induction texts generalizing e with
  | nil => exact .some e.finish_filters
  | cons text rest ih =>
    have hoff := e.feed_requiring false extra text
    have hon := e.feed_requiring true extra text
    rcases hfeed : e.feed extra text with _ | ⟨fault | next, e'⟩
    all_goals rw [hfeed] at hoff hon
    · rw [parse_of_none hoff, parse_of_none hon]
      exact .none
    · rw [parse_of_error hoff, parse_of_error hon]
      exact .some (filters_error e' fault)
    · rw [parse_of_ok hoff, parse_of_ok hon]
      exact ih e'

/-- What a reader delivers is parsed alike, in the same decoding. Besides the cases of
`parse_filters` there are the failure of the reader and lines that do not decode. -/
theorem parseItems_filters (e : Engine δ) (extra : Nat)
    (items : List (Except String (List UInt8))) :
    Option.Rel Filters ((e.requiring false).parseItems extra items)
      ((e.requiring true).parseItems extra items) := by
  induction items generalizing e with
  | nil => exact .some e.finish_filters
  | cons item rest ih =>
    cases item with
    | error message => exact .some (filters_error e (.io message))
    | ok bytes =>
      -- The decoding is the same in both, whatever is required.
      have hdecoding (required : Bool) :
          (e.requiring required).options.decoding.decode bytes = e.options.decoding.decode bytes :=
        rfl
      cases hdecode : e.options.decoding.decode bytes with
      | none =>
        rw [parseItems_of_undecoded ((hdecoding false).trans hdecode),
          parseItems_of_undecoded ((hdecoding true).trans hdecode)]
        exact .some (filters_error e (.decode (e.lineno + 1)))
      | some text =>
        have hdecodeOff := (hdecoding false).trans hdecode
        have hdecodeOn := (hdecoding true).trans hdecode
        have hoff := e.feed_requiring false extra text
        have hon := e.feed_requiring true extra text
        rcases hfeed : e.feed extra text with _ | ⟨fault | next, e'⟩
        all_goals rw [hfeed] at hoff hon
        · rw [parseItems_of_none hdecodeOff hoff, parseItems_of_none hdecodeOn hon]
          exact .none
        · rw [parseItems_of_error hdecodeOff hoff, parseItems_of_error hdecodeOn hon]
          exact .some (filters_error e' fault)
        · rw [parseItems_of_ok hdecodeOff hoff, parseItems_of_ok hdecodeOn hon]
          exact ih e'

/-- The requirement filters what a parse finds, wherever the parse stands. The two kinds of
`Input` are the two lemmas before. -/
theorem consume_filters (e : Engine δ) (extra : Nat) (input : Input) :
    Option.Rel Filters ((e.requiring false).consume extra input)
      ((e.requiring true).consume extra input) := by
  cases input with
  | lines texts => exact e.parse_filters extra texts
  | source s => exact e.parseItems_filters extra s.lines

/-- The stack requirement only filters. Take any table with any actions, any settings, any data
and any input, lines of text or bytes, and a parse of it that may leave states on the stack and
one that must not.

- Either both end or none does.
- Both leave the same data and the same states. An error of the first parse is the error of the
  second, and a summary without states is its summary. A summary that shows states becomes the
  error over them, with their names in the same order and their number.
- There is no other way in which the second parse can end. -/
theorem requirement_filters (t : Table δ) (options : ParseOptions) (data : δ) (extra : Nat)
    (input : Input) :
    Option.Rel Filters ((startRequiring t options data false).consume extra input)
        ((startRequiring t options data true).consume extra input) ∧
      ∀ outcome last, (startRequiring t options data true).consume extra input =
          some (outcome, last) →
        ∃ mid : Engine δ, mid.data = last.data ∧
          (((startRequiring t options data false).consume extra input = some (outcome, mid) ∧
              ∀ s, outcome = .ok s → s.stack = []) ∨
            ∃ s, (startRequiring t options data false).consume extra input = some (.ok s, mid) ∧
              s.stack ≠ [] ∧ outcome = .error (.unbalancedStack s.stack.length s.stack)) := by
  have hfilters := (start t options data).consume_filters extra input
  rw [← startRequiring_eq, ← startRequiring_eq] at hfilters
  refine ⟨hfilters, ?_⟩
  -- Reading the relation from the second parse: it ended as the first one did, or on its names.
  intro outcome last hon
  rw [hon] at hfilters
  generalize (startRequiring t options data false).consume extra input = off at hfilters ⊢
  cases hfilters with
  | @some off _ h =>
    obtain ⟨result, mid⟩ := off
    refine ⟨mid, h.data.symm, ?_⟩
    rcases h.outcome_cases with ⟨hsame, hnone⟩ | ⟨s, hok, hleft, herror⟩
    · obtain rfl : outcome = result := hsame
      exact .inl ⟨rfl, hnone⟩
    · obtain rfl : result = .ok s := hok
      exact .inr ⟨s, rfl, hleft, herror⟩

/-- A state that counts the lines it knows. For each of them it saves itself and a number that
the table does not have. -/
def opening : Table Nat :=
  ⟨[⟨⟨0⟩, "only",
    [⟨.literal "open", some ⟨"open", fun site _ =>
        .data (· + 1) fun _ => .push site.source (.push ⟨9⟩ (.done none))⟩, ⟨0⟩⟩,
      ⟨.any, none, ⟨0⟩⟩]⟩], ⟨0⟩⟩

/-- The line `open`, and one without an end. -/
def unclosed : Input := .source ⟨[0x6F, 0x70, 0x65, 0x6E, 0x0A, 0x78], none⟩

/-- Two states are left by the parse of `unclosed`, and the table has one of them. Both parts of
the general theorem are used, the relation of the outcomes and the list of what can come. -/
theorem requirement_filters_unclosed :
    ∃ off on : Engine Nat,
      (startRequiring opening ParseOptions.default 0 false).consume 0 unclosed =
        some (.ok ⟨"only", 2, ["only", "<unknown>"], none⟩, off) ∧
      (startRequiring opening ParseOptions.default 0 true).consume 0 unclosed =
        some (.error (.unbalancedStack 2 ["only", "<unknown>"]), on) ∧
      off.data = 1 ∧ off.data = on.data := by
  obtain ⟨hfilters, houtcomes⟩ := requirement_filters opening ParseOptions.default 0 0 unclosed
  obtain ⟨off, hoff, hdata⟩ : ∃ off : Engine Nat,
      (startRequiring opening ParseOptions.default 0 false).consume 0 unclosed =
        some (.ok ⟨"only", 2, ["only", "<unknown>"], none⟩, off) ∧ off.data = 1 := ⟨_, rfl, rfl⟩
  rw [hoff] at hfilters houtcomes
  generalize (startRequiring opening ParseOptions.default 0 true).consume 0 unclosed = on
    at hfilters houtcomes ⊢
  cases hfilters with
  | @some _ on h =>
    obtain ⟨result, last⟩ := on
    have herror : result = .error (.unbalancedStack 2 ["only", "<unknown>"]) :=
      h.leftover _ rfl (by simp)
    obtain ⟨mid, hmid, ⟨hsame, -⟩ | ⟨s, hsame, -, -⟩⟩ := houtcomes result last rfl
    · rw [herror] at hsame
      cases hsame
    · cases hsame
      rw [herror]
      exact ⟨off, last, hoff, rfl, hdata, hmid⟩

end Engine

end LineMachine
