import LineMachine.Proofs.Machine.Reading
import LineMachine.Proofs.Text.Layout

/-!
# `LineMachine.Proofs.Machine.Terminators`: line ends do not matter

A parse of bytes meets the end of a line three times: it cuts behind it, decodes it with the
line, and takes it off the text. What comes of all this is a parse of the lines alone.

* `Engine.parseItems_congr`: a parse looks at a line of bytes only as text without its end.
* `Engine.parseSource_layout`: a parse of an input that is laid out in lines is one of the
  lines.
* `Engine.terminators_transparent` states what follows for the answer, for the actions, and
  for two layouts of the same lines.
-/

set_option autoImplicit false

namespace LineMachine

variable {δ : Type}

namespace Engine

/-- Lines of bytes that are the same as texts without their ends are parsed alike. The comparison
is by `Decoding.line?`, so lines that do not decode have to be at the same places. -/
theorem parseItems_congr {lines lines' : List (List UInt8)} (e : Engine δ) (extra : Nat)
    (h : lines'.map e.options.decoding.line? = lines.map e.options.decoding.line?) :
    e.parseItems extra (lines'.map Except.ok) = e.parseItems extra (lines.map Except.ok) := by
  induction lines generalizing e lines' with
  | nil =>
    obtain rfl : lines' = [] := by simpa using h
    rfl
  | cons bytes rest ih =>
    obtain ⟨bytes', rest', rfl, hbytes, hrest⟩ := List.map_eq_cons_iff.mp h
    rw [List.map_cons, List.map_cons]
    cases hdecode : e.options.decoding.decode bytes with
    | none =>
      -- The other line does not decode either, and no text is compared.
      have hdecode' : e.options.decoding.decode bytes' = none := by
        simpa [Decoding.line?, hdecode] using hbytes
      rw [parseItems_of_undecoded hdecode, parseItems_of_undecoded hdecode']
    | some text =>
      obtain ⟨text', hdecode', hstrip⟩ : ∃ text', e.options.decoding.decode bytes' = some text' ∧
          Text.stripTerminator text' = Text.stripTerminator text := by
        simpa [Decoding.line?, hdecode] using hbytes
      have hfeed := e.feed_congr extra hstrip
      rcases hstep : e.feed extra text with _ | ⟨fault | next, e'⟩
      · rw [parseItems_of_none hdecode hstep, parseItems_of_none hdecode' (hfeed.trans hstep)]
      · rw [parseItems_of_error hdecode hstep, parseItems_of_error hdecode' (hfeed.trans hstep)]
      · rw [parseItems_of_ok hdecode hstep, parseItems_of_ok hdecode' (hfeed.trans hstep)]
        exact ih e' (by rw [options_of_feed hstep]; exact hrest)

/-- However the lines of an input end, it is parsed as its lines. The input is cut into the lines
with their ends by `Layout.splitLines_bytes`, and `Layout.map_line?` takes these off. -/
theorem parseSource_layout (e : Engine δ) (extra : Nat) (l : Text.Layout) :
    e.parseSource extra ⟨l.bytes, none⟩ = e.parseItems extra (l.lines.map Except.ok) := by
  have hlines : (⟨l.bytes, none⟩ : Text.Source).lines = l.rawLines.map Except.ok := by
    rw [Text.Source.lines, l.splitLines_bytes]
  rw [parseSource, hlines]
  exact e.parseItems_congr extra (l.map_line? e.options.decoding)

/-- Line ends are transparent. Take any parse, of any table with any actions and any settings,
and an input that is laid out in lines: none of them has a line feed in it or a carriage
return as its last byte, each one ends in a line feed or in a carriage return and a line feed,
and only the last one, if it is not empty, may have no end.

- The parse consumes all lines, decoded one by one, and finishes; or it ends at the first line
  that does not decode, with its number, or whose text fails. These lines are without their
  ends.
- What actions and errors see of a line is all of its text, since no end is left to take off.
- So the answer and all that the parse leaves behind are the same for every layout of the same
  lines. -/
theorem terminators_transparent (e : Engine δ) (extra : Nat) (l : Text.Layout) :
    (∀ answer : Answer δ Summary, e.parseSource extra ⟨l.bytes, none⟩ = some answer ↔
      (∃ mid, e.ConsumesBytes extra l.lines mid ∧ answer = mid.finish) ∨
        ∃ fault last, e.Refuses extra l.lines fault last ∧ answer = (.error fault, last)) ∧
    (∀ bytes ∈ l.lines, ∀ text, e.options.decoding.decode bytes = some text →
      ∀ mid : Engine δ, (mid.take text).line = text ∧
        mid.feed extra text = (mid.table.resolve ⟨text, mid.lineno + 1⟩ (mid.budget extra)
          mid.current mid.work).map (mid.answer text)) ∧
    ∀ l' : Text.Layout, l'.lines = l.lines →
      e.parseSource extra ⟨l'.bytes, none⟩ = e.parseSource extra ⟨l.bytes, none⟩ := by
  refine ⟨?_, ?_, ?_⟩
  · intro answer
    -- Nothing comes behind the lines, so a parse that consumes them is at its end.
    have hend : l.lines.map Except.ok = l.lines.map Except.ok ++ ([] : List (Except String _)) :=
      (List.append_nil _).symm
    rw [parseSource_layout, hend, parseItems_eq_some_iff]
    simp only [parseItems, Option.some.injEq, eq_comm]
  · intro bytes hbytes text hdecode mid
    have htext : Text.stripTerminator text = text :=
      Decoding.stripTerminator_of_decode (l.inner bytes hbytes) hdecode
    refine ⟨htext, ?_⟩
    rw [feed_eq, lineOf, htext]
  · intro l' hlines
    rw [parseSource_layout, parseSource_layout, hlines]

/-- A state that keeps the texts of all lines. -/
def copying : Table (List String) :=
  ⟨[⟨⟨0⟩, "only",
    [⟨.any, some ⟨"copy", fun site _ => .data (· ++ [site.line]) fun _ => .done none⟩, ⟨0⟩⟩]⟩],
    ⟨0⟩⟩

/-- An empty line, one that breaks off within a character, and one with a carriage return
inside. The last one has no end. -/
def mixedEnds : Text.Layout where
  ended := [([], .lf), ([0xE2, 0x82], .crlf)]
  last := some [0x61, 0x0D, 0x62]
  inner := by decide
  unended := by decide
  nonempty := by decide

/-- The same lines, and a line feed at the end of each. -/
def lineFeeds : Text.Layout where
  ended := [([], .lf), ([0xE2, 0x82], .lf), ([0x61, 0x0D, 0x62], .lf)]
  last := none
  inner := by decide
  unended := by decide
  nonempty := by decide

/-- The inputs `mixedEnds` and `lineFeeds` are parsed alike, and the actions see the same three
texts. Where ill-formed bytes are refused, both end at the second line. -/
theorem terminators_transparent_mixedEnds :
    (∃ mid : Engine (List String),
      (start copying ⟨.utf8Lossy, false, true⟩ []).parseSource 0 ⟨mixedEnds.bytes, none⟩ =
          some mid.finish ∧
      mid.data = ["", "\uFFFD", "a\rb"] ∧ (mid.take "\uFFFD").line = "\uFFFD" ∧
      (start copying ⟨.utf8Lossy, false, true⟩ []).parseSource 0 ⟨lineFeeds.bytes, none⟩ =
          some mid.finish) ∧
    ∃ mid : Engine (List String),
      (start copying ⟨.utf8, false, true⟩ []).parseSource 0 ⟨mixedEnds.bytes, none⟩ =
          some (.error (.decode 2), mid) ∧
      mid.data = [""] ∧
      (start copying ⟨.utf8, false, true⟩ []).parseSource 0 ⟨lineFeeds.bytes, none⟩ =
          some (.error (.decode 2), mid) := by
  constructor
  · obtain ⟨parsed, seen, alike⟩ :=
      terminators_transparent (start copying ⟨.utf8Lossy, false, true⟩ []) 0 mixedEnds
    obtain ⟨mid, hconsumes, hdata⟩ : ∃ mid,
        (start copying ⟨.utf8Lossy, false, true⟩ []).Consumes 0 ["", "\uFFFD", "a\rb"] mid ∧
          mid.data = ["", "\uFFFD", "a\rb"] :=
      ⟨_, .cons rfl (.cons rfl (.cons rfl (.nil _))), rfl⟩
    have hparse := (parsed mid.finish).mpr (.inl ⟨mid, ⟨_, by decide +kernel, hconsumes⟩, rfl⟩)
    refine ⟨mid, hparse, hdata, ?_, (alike lineFeeds (by decide)).trans hparse⟩
    exact (seen [0xE2, 0x82] (by decide) "\uFFFD" (by decide +kernel) mid).1
  · obtain ⟨parsed, -, alike⟩ :=
      terminators_transparent (start copying ⟨.utf8, false, true⟩ []) 0 mixedEnds
    obtain ⟨mid, hconsumes, hdata⟩ : ∃ mid,
        (start copying ⟨.utf8, false, true⟩ []).Consumes 0 [""] mid ∧ mid.data = [""] :=
      ⟨_, .cons rfl (.nil _), rfl⟩
    have hrefuses : (start copying ⟨.utf8, false, true⟩ []).Refuses 0
        ([[]] ++ [0xE2, 0x82] :: [[0x61, 0x0D, 0x62]]) (.decode 2) mid :=
      .undecoded ⟨[""], by decide +kernel, hconsumes⟩ (by decide +kernel)
    have hparse := (parsed (.error (.decode 2), mid)).mpr (.inr ⟨_, mid, hrefuses, rfl⟩)
    exact ⟨mid, hparse, hdata, (alike lineFeeds (by decide)).trans hparse⟩

end Engine

end LineMachine
