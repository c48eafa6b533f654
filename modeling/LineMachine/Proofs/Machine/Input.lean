import LineMachine.Proofs.Machine.Feed
import LineMachine.Proofs.Text.DecodeLines

/-!
# `LineMachine.Proofs.Machine.Input`: bytes or text

A parse can be given bytes, which it cuts into lines and decodes, or lines of
text. This module compares the two.

* `Engine.feed_congr`: a line may come with its end or without. `Engine.Consumes.congr` and
  `Engine.parse_congr` carry this to runs.
* `Engine.parseItems_eq_parse`: read lines that all decode are parsed as their
  texts.
* `Engine.parseSource_eq_parse`: bytes that decode as a whole are parsed as the
  pieces of the decoded text, and as its lines. The two parses are the same in
  every part, also in what the actions collected.
-/

set_option autoImplicit false

namespace LineMachine

variable {δ : Type}

namespace Engine

/-- A parse looks at a line only after `Text.stripTerminator` took its end off. So it does not
matter to `Engine.feed` whether a line comes with its end or without, or with another one. -/
theorem feed_congr {text text' : String} (e : Engine δ) (extra : Nat)
    (h : Text.stripTerminator text = Text.stripTerminator text') :
    e.feed extra text = e.feed extra text' := by
  have htake : e.take text = e.take text' := by
    simp [take, h]
  unfold feed
  rw [htake]

/-- Lines that are the same without their ends are consumed alike. The induction is on the run
`hconsumes`, and each line of it is exchanged by `feed_congr`. -/
theorem Consumes.congr {e e' : Engine δ} {extra : Nat} {texts texts' : List String}
    (hconsumes : e.Consumes extra texts e')
    (h : texts'.map Text.stripTerminator = texts.map Text.stripTerminator) :
    e.Consumes extra texts' e' := by
  induction hconsumes generalizing texts' with
  | nil e =>
    obtain rfl : texts' = [] := by simpa using h
    exact .nil e
  | cons line _ ih =>
    obtain ⟨text', rest', rfl, htext, hrest⟩ := List.map_eq_cons_iff.mp h
    exact .cons ((feed_congr _ _ htext).trans line) (ih hrest)

/-- Lines that are the same without their ends are parsed alike, also where one of them fails. It
takes the pieces of a text to its lines in `parseSource_eq_parse`. -/
theorem parse_congr {texts texts' : List String} (e : Engine δ) (extra : Nat)
    (h : texts'.map Text.stripTerminator = texts.map Text.stripTerminator) :
    e.parse extra texts' = e.parse extra texts := by
  induction texts generalizing e texts' with
  | nil =>
    obtain rfl : texts' = [] := by simpa using h
    rfl
  | cons text rest ih =>
    obtain ⟨text', rest', rfl, htext, hrest⟩ := List.map_eq_cons_iff.mp h
    have hfeed := e.feed_congr extra htext
    cases hstep : e.feed extra text with
    | none => rw [parse_of_none hstep, parse_of_none (hfeed.trans hstep)]
    | some found =>
      obtain ⟨result, e'⟩ := found
      cases result with
      | error fault => rw [parse_of_error hstep, parse_of_error (hfeed.trans hstep)]
      | ok next =>
        rw [parse_of_ok hstep, parse_of_ok (hfeed.trans hstep)]
        exact ih e' hrest

/-- Lines that all decode are parsed as their texts. The hypothesis speaks of `e.options`, which
no line changes, so it holds as well for the parse behind the first line. -/
theorem parseItems_eq_parse {lines : List (List UInt8)} {texts : List String} (e : Engine δ)
    (extra : Nat) (h : lines.map e.options.decoding.decode = texts.map some) :
    e.parseItems extra (lines.map Except.ok) = e.parse extra texts := by
  induction lines generalizing e texts with
  | nil =>
    have htexts : texts = [] := by simpa using h.symm
    rw [htexts]
    rfl
  | cons line rest ih =>
    cases texts with
    | nil => simp at h
    | cons text texts =>
      rw [List.map_cons, List.map_cons, List.cons.injEq] at h
      obtain ⟨hline, hrest⟩ := h
      rw [List.map_cons]
      -- The line decodes to this text, and both parses are fed the same.
      cases hstep : e.feed extra text with
      | none => rw [parseItems_of_none hline hstep, parse_of_none hstep]
      | some found =>
        obtain ⟨result, e'⟩ := found
        cases result with
        | error fault => rw [parseItems_of_error hline hstep, parse_of_error hstep]
        | ok next =>
          rw [parseItems_of_ok hline hstep, parse_of_ok hstep]
          exact ih e' (by rw [options_of_feed hstep]; exact hrest)

/-- Bytes and text. When the bytes decode as a whole, parsing them with `Engine.parseSource` is
parsing the pieces of the text, cut behind every line feed, and it is parsing the lines of the
text without their ends. Bytes decode as a whole unless they are read as strict UTF-8. In each
decoding the lines of the bytes decode one by one to texts that make up the decoded whole; strict
UTF-8 refuses some line exactly when it refuses the whole. -/
theorem parseSource_eq_parse (e : Engine δ) (extra : Nat) (bytes : List UInt8) :
    (∀ text, e.options.decoding.decode bytes = some text →
      e.parseSource extra ⟨bytes, none⟩ = e.parse extra (Text.pieces text) ∧
      e.parseSource extra ⟨bytes, none⟩ = e.parse extra (Text.textLines text)) ∧
    (e.options.decoding ≠ .utf8 → ∃ text, e.options.decoding.decode bytes = some text) ∧
    (∀ d : Decoding, ((Text.splitLines bytes).mapM d.decode).map String.join = d.decode bytes) ∧
    ((∃ text, Decoding.utf8.decode bytes = some text) ↔
      ∀ line ∈ Text.splitLines bytes, ∃ text, Decoding.utf8.decode line = some text) := by
  refine ⟨?_, ?_, ?_, ?_⟩
  · -- The lines of the bytes decode to the pieces of the text, one by one.
    intro text htext
    have hlines := e.options.decoding.mapM_decode_splitLines bytes
    rw [htext, Option.map_some, mapM_eq_some_iff] at hlines
    have hpieces : e.parseSource extra ⟨bytes, none⟩ = e.parse extra (Text.pieces text) :=
      e.parseItems_eq_parse extra hlines
    -- A piece without its end has no other end to lose.
    refine ⟨hpieces, hpieces.trans ?_⟩
    refine (e.parse_congr extra ?_).symm
    rw [Text.textLines, List.map_map]
    exact List.map_congr_left fun piece hpiece => Text.stripTerminator_stripTerminator hpiece
  · intro hne
    exact Option.isSome_iff_exists.mp (Decoding.isSome_decode hne bytes)
  · intro d
    rw [d.mapM_decode_splitLines, Option.map_map]
    cases d.decode bytes with
    | none => rfl
    | some text => exact congrArg some (Text.join_pieces text)
  · simp only [← Option.isSome_iff_exists]
    exact Text.Utf8.isSome_decode?_splitLines bytes

/-- A state that keeps every line. -/
def oneState : Table Unit := ⟨[⟨⟨0⟩, "only", [⟨.any, none, ⟨0⟩⟩]⟩], ⟨0⟩⟩

/-- Two lines of broken bytes, the last one without an end, read as `Decoding.utf8Lossy`. Each
broken sequence stays inside of its line, so the parse of the bytes is the parse of two lines of
text. -/
theorem parseSource_eq_parse_oneState :
    Decoding.utf8Lossy.decode [0x61, 0xC3, 0x0D, 0x0A, 0xE2, 0x82] = some "a\uFFFD\r\n\uFFFD" ∧
      (start oneState ⟨.utf8Lossy, false, true⟩ ()).parseSource 0
          ⟨[0x61, 0xC3, 0x0D, 0x0A, 0xE2, 0x82], none⟩ =
        (start oneState ⟨.utf8Lossy, false, true⟩ ()).parse 0
          (Text.textLines "a\uFFFD\r\n\uFFFD") := by
  have hdecode : Decoding.utf8Lossy.decode [0x61, 0xC3, 0x0D, 0x0A, 0xE2, 0x82] =
      some "a\uFFFD\r\n\uFFFD" := by decide +kernel
  refine ⟨hdecode, ?_⟩
  obtain ⟨htext, -⟩ := parseSource_eq_parse (start oneState ⟨.utf8Lossy, false, true⟩ ()) 0
    [0x61, 0xC3, 0x0D, 0x0A, 0xE2, 0x82]
  exact (htext _ hdecode).2

end Engine

end LineMachine
