import LineMachine.Proofs.Machine.Input

/-!
# `LineMachine.Proofs.Machine.Reading`: the first line that fails decides

Lines that are read can be refused in two ways: the bytes do not decode, or their text
fails. The input itself may fail behind the complete lines, and the parse may fail over the
states that are left at the end. Whatever comes first is the end of the parse, and what
stands behind it plays no part.

* `Engine.ConsumesBytes` is a run over lines of bytes in which none is refused, and
  `Engine.Refuses` is one up to the first line that is.
* `Engine.ConsumesBytes.parseItems_append` and `Engine.Refuses.parseItems_eq`: what a parse
  does with lines that are read is one or the other.
  `Engine.parseItems_eq_some_iff` says so in both directions, with anything behind the lines.
* `Engine.refuses_of_lines`: lines of bytes that are the same as lines of text, but for their
  ends, are refused with them.
* `Engine.first_failure_decides` states the result for parses over text, over bytes, and over
  an input that fails.
-/

set_option autoImplicit false

namespace LineMachine

variable {δ : Type}

namespace Engine

/-- The lines of bytes are consumed: all of them decode, and none of the texts fails. -/
def ConsumesBytes (extra : Nat) (e : Engine δ) (lines : List (List UInt8)) (e' : Engine δ) :
    Prop :=
  ∃ texts, lines.map e.options.decoding.decode = texts.map some ∧ e.Consumes extra texts e'

/-- One of the lines of bytes is refused, and those before it are consumed:

- `undecoded`: the line does not decode. The error tells its number, and the parse is as it
  was behind the lines before it;
- `failed`: the text of the line fails. -/
inductive Refuses (extra : Nat) (e : Engine δ) :
    List (List UInt8) → ParseError → Engine δ → Prop where
  | undecoded {before after : List (List UInt8)} {bytes : List UInt8} {mid : Engine δ}
      (consumed : e.ConsumesBytes extra before mid)
      (unreadable : e.options.decoding.decode bytes = none) :
      Refuses extra e (before ++ bytes :: after) (.decode (e.lineno + before.length + 1)) mid
  | failed {before after : List (List UInt8)} {bytes : List UInt8} {text : String}
      {mid last : Engine δ} {fault : ParseError} (consumed : e.ConsumesBytes extra before mid)
      (decoded : e.options.decoding.decode bytes = some text)
      (line : mid.feed extra text = some (.error fault, last)) :
      Refuses extra e (before ++ bytes :: after) fault last

variable {e e' mid last : Engine δ} {extra : Nat} {bytes : List UInt8} {text : String}
  {lines : List (List UInt8)} {items : List (Except String (List UInt8))} {fault : ParseError}

/-! ### One more line in front -/

/-- No line is a run of `Engine.ConsumesBytes` that leads nowhere. The induction of
`parseItems_cases` begins with it. -/
theorem consumesBytes_nil (extra : Nat) (e : Engine δ) : e.ConsumesBytes extra [] e :=
  ⟨[], rfl, .nil e⟩

/-- A line of bytes that decodes and leads to a state comes in front of a run of
`Engine.ConsumesBytes`. The run behind it uses the same decoding by `options_of_feed`. -/
theorem ConsumesBytes.cons {next : StateId} (hdecode : e.options.decoding.decode bytes = some text)
    (hfeed : e.feed extra text = some (.ok next, e')) (h : e'.ConsumesBytes extra lines mid) :
    e.ConsumesBytes extra (bytes :: lines) mid := by
  obtain ⟨texts, htexts, hconsumes⟩ := h
  rw [options_of_feed hfeed] at htexts
  exact ⟨text :: texts, by rw [List.map_cons, hdecode, htexts, List.map_cons],
    .cons hfeed hconsumes⟩

/-- Lines of bytes that are consumed are one that is and those behind it. This takes a run of
`Engine.ConsumesBytes` apart, as its constructor would if it were inductive. -/
theorem ConsumesBytes.exists_cons (h : e.ConsumesBytes extra (bytes :: lines) mid) :
    ∃ text next e', e.options.decoding.decode bytes = some text ∧
      e.feed extra text = some (.ok next, e') ∧ e'.ConsumesBytes extra lines mid := by
  obtain ⟨texts, htexts, hconsumes⟩ := h
  cases hconsumes with
  | nil => cases htexts
  | cons line more =>
    rw [List.map_cons, List.map_cons, List.cons.injEq] at htexts
    refine ⟨_, _, _, htexts.1, line, _, ?_, more⟩
    rw [options_of_feed line]
    exact htexts.2

/-- Lines of bytes that are consumed count, one for each, by `Consumes.lineno_eq`. The number in a
`decode` error is told by this. -/
theorem ConsumesBytes.lineno_eq (h : e.ConsumesBytes extra lines mid) :
    mid.lineno = e.lineno + lines.length := by
  obtain ⟨texts, htexts, hconsumes⟩ := h
  have hlength : lines.length = texts.length := by simpa using congrArg List.length htexts
  rw [hconsumes.lineno_eq, hlength]

/-- Lines of bytes that are consumed do not change the settings, by `Consumes.options_eq`. So the
line behind them is decoded in the same way. -/
theorem ConsumesBytes.options_eq (h : e.ConsumesBytes extra lines mid) :
    mid.options = e.options := by
  obtain ⟨texts, -, hconsumes⟩ := h
  exact hconsumes.options_eq

/-- A line of bytes that is consumed comes in front of a run of `Engine.Refuses`. If the refused
line does not decode, its number is counted from the new front, which costs some arithmetic. -/
theorem Refuses.cons {next : StateId} (hdecode : e.options.decoding.decode bytes = some text)
    (hfeed : e.feed extra text = some (.ok next, e')) (h : e'.Refuses extra lines fault last) :
    e.Refuses extra (bytes :: lines) fault last := by
  have hoptions : e'.options = e.options := options_of_feed hfeed
  cases h with
  | @undecoded before after _ _ consumed unreadable =>
    rw [hoptions] at unreadable
    -- The number of the line counts the one in front as well.
    have hnumber : e'.lineno + before.length + 1 = e.lineno + (bytes :: before).length + 1 := by
      rw [lineno_of_feed hfeed, List.length_cons]
      omega
    rw [hnumber]
    exact .undecoded (consumed.cons hdecode hfeed) unreadable
  | failed consumed decoded line =>
    rw [hoptions] at decoded
    rw [← List.cons_append]
    exact .failed (consumed.cons hdecode hfeed) decoded line

/-! ### What a parse does with lines that are read -/

/-- Behind lines that `Engine.ConsumesBytes` takes, the parse goes on with what comes next, be it
more lines, the end or a failure of the reader. -/
theorem ConsumesBytes.parseItems_append (h : e.ConsumesBytes extra lines mid)
    (items : List (Except String (List UInt8))) :
    e.parseItems extra (lines.map Except.ok ++ items) = mid.parseItems extra items := by
  induction lines generalizing e with
  | nil =>
    obtain ⟨texts, htexts, hconsumes⟩ := h
    obtain rfl : texts = [] := by simpa using htexts.symm
    cases hconsumes
    rfl
  | cons bytes rest ih =>
    obtain ⟨text, next, e', hdecode, hfeed, hrest⟩ := h.exists_cons
    rw [List.map_cons, List.cons_append, parseItems_of_ok hdecode hfeed]
    exact ih hrest

/-- A line that is refused ends the parse, whatever comes behind it. Both cases of
`Engine.Refuses` come to the lines before it by `ConsumesBytes.parseItems_append`. -/
theorem Refuses.parseItems_eq (h : e.Refuses extra lines fault last)
    (items : List (Except String (List UInt8))) :
    e.parseItems extra (lines.map Except.ok ++ items) = some (.error fault, last) := by
  cases h with
  | undecoded consumed unreadable =>
    rw [← consumed.options_eq] at unreadable
    rw [List.map_append, List.append_assoc, consumed.parseItems_append, List.map_cons,
      List.cons_append, parseItems_of_undecoded unreadable, consumed.lineno_eq]
  | failed consumed decoded line =>
    rw [← consumed.options_eq] at decoded
    rw [List.map_append, List.append_assoc, consumed.parseItems_append, List.map_cons,
      List.cons_append, parseItems_of_error decoded line]

/-- A parse that ends has consumed the lines or refused one of them, in the sense of
`Engine.ConsumesBytes` and `Engine.Refuses`. The induction is on the lines: each one decodes or
not, and its text fails or not. -/
theorem parseItems_cases {answer : Answer δ Summary}
    (h : e.parseItems extra (lines.map Except.ok ++ items) = some answer) :
    (∃ mid, e.ConsumesBytes extra lines mid ∧ mid.parseItems extra items = some answer) ∨
      ∃ fault last, e.Refuses extra lines fault last ∧ answer = (.error fault, last) := by
  induction lines generalizing e with
  | nil => exact .inl ⟨e, consumesBytes_nil extra e, h⟩
  | cons bytes rest ih =>
    rw [List.map_cons, List.cons_append] at h
    cases hdecode : e.options.decoding.decode bytes with
    | none =>
      rw [parseItems_of_undecoded hdecode] at h
      exact .inr ⟨_, e, .undecoded (consumesBytes_nil extra e) hdecode, (Option.some.inj h).symm⟩
    | some text =>
      rcases hfeed : e.feed extra text with _ | ⟨fault | next, e'⟩
      · rw [parseItems_of_none hdecode hfeed] at h
        cases h
      · rw [parseItems_of_error hdecode hfeed] at h
        exact .inr ⟨fault, e', .failed (consumesBytes_nil extra e) hdecode hfeed,
          (Option.some.inj h).symm⟩
      · rw [parseItems_of_ok hdecode hfeed] at h
        rcases ih h with ⟨mid, hconsumes, hitems⟩ | ⟨fault, last, hrefuses, hanswer⟩
        · exact .inl ⟨mid, hconsumes.cons hdecode hfeed, hitems⟩
        · exact .inr ⟨fault, last, hrefuses.cons hdecode hfeed, hanswer⟩

/-- What a parse does with lines that are read, and with anything behind them. One direction is
`parseItems_cases`, and the other one puts the two lemmas before it together. -/
theorem parseItems_eq_some_iff {answer : Answer δ Summary} :
    e.parseItems extra (lines.map Except.ok ++ items) = some answer ↔
      (∃ mid, e.ConsumesBytes extra lines mid ∧ mid.parseItems extra items = some answer) ∨
        ∃ fault last, e.Refuses extra lines fault last ∧ answer = (.error fault, last) := by
  refine ⟨parseItems_cases, ?_⟩
  rintro (⟨mid, hconsumes, hitems⟩ | ⟨fault, last, hrefuses, rfl⟩)
  · rw [hconsumes.parseItems_append, hitems]
  · exact hrefuses.parseItems_eq items

/-- Lines of text that are consumed up to one that fails, and lines of bytes that are the same but
for their ends: `Engine.Refuses` holds of the bytes. The texts that the bytes decode to are
exchanged for the given ones by `Consumes.congr`. -/
theorem refuses_of_lines {before : List String} (hconsumes : e.Consumes extra before mid)
    (hfeed : mid.feed extra text = some (.error fault, last))
    (hlines : lines.map e.options.decoding.line? =
      (before ++ [text]).map fun line => some (Text.stripTerminator line)) :
    e.Refuses extra lines fault last := by
  rw [List.map_append] at hlines
  -- The last line of bytes is the one that fails, those in front are consumed.
  obtain ⟨front, back, rfl, hfront, hback⟩ := List.map_eq_append_iff.mp hlines
  obtain ⟨bytes, rest, rfl, hbytes, hrest⟩ := List.map_eq_cons_iff.mp hback
  obtain ⟨text', htext', hstrip⟩ := Option.map_eq_some_iff.mp hbytes
  obtain ⟨texts, htexts, hstripped⟩ := Decoding.exists_texts
    (hfront.trans (List.map_map (f := Text.stripTerminator) (g := some)).symm)
  refine .failed ⟨texts, htexts, hconsumes.congr hstripped⟩ htext' ?_
  rw [feed_congr mid extra hstrip]
  exact hfeed

/-- The first line that fails decides. Take a parse that is about to begin, of any table with
any actions, any settings and any data.

- Say that lines of text are consumed up to one that fails with some error. Then a parse over
  these lines and any more ends with that error, and is left as it was behind that line. So
  does a parse over bytes whose first lines are complete and are the same lines but for their
  ends, whatever bytes follow them, and whether or not the input fails.
- If the input fails, either all complete lines are consumed, and then the parse ends with
  the failure and is left as it was behind them; or one is the first to be refused, because it
  does not decode or because its text fails, and then the parse ends there.
- The bytes behind the last line feed of an input that fails play no part. -/
theorem first_failure_decides (t : Table δ) (options : ParseOptions) (data : δ) (extra : Nat) :
    (∀ (before : List String) (text : String) (mid last : Engine δ) (fault : ParseError),
      (start t options data).Consumes extra before mid →
      mid.feed extra text = some (.error fault, last) →
      (∀ more, (start t options data).parse extra (before ++ text :: more) =
        some (.error fault, last)) ∧
      ∀ source : Text.Source,
        (∀ raw ∈ (Text.splitLines source.bytes).take (before.length + 1),
          raw.getLast? = some Text.lineFeed) →
        ((Text.splitLines source.bytes).take (before.length + 1)).map options.decoding.line? =
          ((before ++ [text]).map fun line => some (Text.stripTerminator line)) →
        (start t options data).parseSource extra source = some (.error fault, last)) ∧
    (∀ (bytes : List UInt8) (message : String) (answer : Answer δ Summary),
      (start t options data).parseSource extra ⟨bytes, some message⟩ = some answer ↔
        (∃ mid, (start t options data).ConsumesBytes extra (Text.completeLines bytes) mid ∧
          answer = (.error (.io message), mid)) ∨
        ∃ fault last, (start t options data).Refuses extra (Text.completeLines bytes) fault last ∧
          answer = (.error fault, last)) ∧
    ∀ (bytes rest : List UInt8) (message : String),
      (∀ b ∈ bytes.getLast?, b = Text.lineFeed) → Text.lineFeed ∉ rest →
      (start t options data).parseSource extra ⟨bytes ++ rest, some message⟩ =
        (start t options data).parseSource extra ⟨bytes, some message⟩ := by
  refine ⟨?_, ?_, ?_⟩
  · intro before text mid last fault hconsumes hfeed
    refine ⟨fun more => ?_, fun source hcomplete hlines => ?_⟩
    · rw [hconsumes.parse_append, parse_of_error hfeed]
    · -- These lines are read in any case, and come first.
      obtain ⟨items, hitems⟩ := source.exists_lines_eq (before.length + 1) hcomplete
      rw [parseSource, hitems]
      exact (refuses_of_lines hconsumes hfeed hlines).parseItems_eq items
  -- An input that fails gives its complete lines, and then the failure.
  · intro bytes message answer
    have hlines : (⟨bytes, some message⟩ : Text.Source).lines =
        (Text.completeLines bytes).map Except.ok ++ [.error message] := rfl
    rw [parseSource, hlines, parseItems_eq_some_iff]
    simp only [parseItems, Option.some.injEq, eq_comm]
  -- What stands behind the last line feed never becomes an item.
  · intro bytes rest message hends hrest
    have hlines : (⟨bytes ++ rest, some message⟩ : Text.Source).lines =
        (⟨bytes, some message⟩ : Text.Source).lines := by
      simp only [Text.Source.lines, Text.completeLines_append hends hrest]
    rw [parseSource, hlines, parseSource]

/-- A state that counts the lines it knows, and knows one. -/
def counter : Table Nat :=
  ⟨[⟨⟨0⟩, "only", [⟨.literal "go", some ⟨"count", fun _ _ => .data (· + 1) fun _ => .done none⟩,
    ⟨0⟩⟩]⟩], ⟨0⟩⟩

/-- The second line of the table `counter` fails, in a text and in bytes, where a line that does
not decode and a failure of the input come behind it. If the input fails in the second line
instead, that line plays no part. -/
theorem first_failure_decides_counter :
    ∃ mid last, (start counter ParseOptions.default 0).Consumes 0 ["go"] mid ∧
      mid.feed 0 "x" = some (.error (.unmatchedLine 2 "only" "x"), last) ∧ last.data = 1 ∧
      (start counter ParseOptions.default 0).parse 0 ["go", "x", "go"] =
        some (.error (.unmatchedLine 2 "only" "x"), last) ∧
      (start counter ParseOptions.default 0).parseSource 0
          ⟨[0x67, 0x6F, 0x0D, 0x0A, 0x78, 0x0A, 0xFF, 0x0A, 0x67], some "gone"⟩ =
        some (.error (.unmatchedLine 2 "only" "x"), last) ∧
      (start counter ParseOptions.default 0).parseSource 0
          ⟨[0x67, 0x6F, 0x0A, 0xFF], some "gone"⟩ = some (.error (.io "gone"), mid) := by
  obtain ⟨first, failing, unended⟩ := first_failure_decides counter ParseOptions.default 0 0
  obtain ⟨mid, hfeed⟩ : ∃ mid,
      (start counter ParseOptions.default 0).feed 0 "go" = some (.ok ⟨0⟩, mid) := ⟨_, rfl⟩
  have hconsumes : (start counter ParseOptions.default 0).Consumes 0 ["go"] mid :=
    .cons hfeed (.nil mid)
  obtain ⟨last, hlast, hdata⟩ : ∃ last,
      mid.feed 0 "x" = some (.error (.unmatchedLine 2 "only" "x"), last) ∧ last.data = 1 := by
    cases hfeed
    exact ⟨_, rfl, rfl⟩
  obtain ⟨hparse, hsource⟩ := first ["go"] "x" mid last _ hconsumes hlast
  refine ⟨mid, last, hconsumes, hlast, hdata, hparse ["go"],
    hsource _ (by decide) (by decide +kernel), ?_⟩
  refine (unended [0x67, 0x6F, 0x0A] [0xFF] "gone" (by simp [Text.lineFeed]) (by decide)).trans ?_
  rw [failing]
  exact .inl ⟨mid, ⟨["go\n"], by decide +kernel, hconsumes.congr (by decide)⟩, rfl⟩

end Engine

end LineMachine
