import LineMachine.Proofs.Builtin.Fault
import LineMachine.Proofs.Machine.Reading
import LineMachine.Proofs.Text.Reader
import LineMachine.Proofs.Text.WellFormed

/-!
# `LineMachine.Proofs.Builtin.Decodings`: one input in three decodings

The decoding decides which texts the lines of an input have, and nothing else. Strict UTF-8
refuses a line or reads it as the lenient one does, so two such parses do the same up to the
first line that is refused. On ASCII all three decodings are one.

* `Engine.decodedAs` is a parse with another decoding in its settings.
  `Engine.feed_decodedAs` and `Engine.finish_decodedAs`: neither a line of text nor the end of
  the input depends on it. `Engine.parseItems_decodedAs` carries that to lines of bytes which
  decode to the same texts.
* `Engine.parseItems_lossy`: a strict parse comes to a line that is no UTF-8, with all lines
  before it consumed, or the lenient one does the same.
* `Engine.Sound.exists_parseItems`: only strict reading ends a parse over a line that does not
  decode.
* `TableDefinition.decodings_agree` states the result for every table of a definition.
-/

set_option autoImplicit false

namespace LineMachine

variable {δ : Type}

/-! ### What the decodings make of the same bytes -/

namespace Text

/-- The lines that are read from an input consist of its bytes, so a condition on all bytes, such
as being ASCII, holds in every line of `Source.lines`. -/
theorem Source.mem_bytes_of_mem_lines {source : Source} {line : List UInt8}
    (h : .ok line ∈ source.lines) : ∀ b ∈ line, b ∈ source.bytes := by
  intro b hb
  rw [← flatten_cutBehind isLineFeed source.bytes, ← splitLines_eq]
  exact List.mem_flatten.mpr ⟨line, Source.mem_splitLines h, hb⟩

namespace Utf8

/-- What strict reading accepts, lenient reading reads as the same text, since `decodeUnits` has
no ill-formed run then to be replaced. -/
theorem decodeLossy_of_decode? {bytes : List UInt8} {text : String}
    (h : decode? bytes = some text) : decodeLossy bytes = text := by
  rw [decode?_eq_some_iff] at h
  rw [decodeLossy, h, List.map_map]
  simp [Function.comp_def]

/-- Bytes of ASCII are characters each. The reader `decodeUnits` never leaves the beginning of a
character on them. -/
theorem decodeUnits_of_ascii {bytes : List UInt8} (h : ∀ b ∈ bytes, b.toNat < 0x80) :
    decodeUnits bytes = bytes.map fun b => some (Char.ofNat b.toNat) := by
  induction bytes with
  | nil => rfl
  | cons b bs ih =>
    rw [List.forall_mem_cons] at h
    rw [decodeUnits, decodeFrom, Progress.feed, begin_of_one h.1]
    exact congrArg _ (ih h.2)

end Utf8

end Text

namespace Decoding

open Text

/-- On ASCII all decodings are one: each byte is its character, by `decodeUnits_of_ascii` in the
two that read UTF-8 and by definition in `Decoding.raw`. -/
theorem decode_of_ascii {bytes : List UInt8} (h : ∀ b ∈ bytes, b.toNat < 0x80) (d : Decoding) :
    d.decode bytes = some (String.ofList (bytes.map charOf)) := by
  have hstrict : Utf8.decode? bytes = some (String.ofList (bytes.map charOf)) := by
    rw [Utf8.decode?_eq_some_iff, Utf8.decodeUnits_of_ascii h, String.toList_ofList, List.map_map]
    rfl
  cases d with
  | utf8 => exact hstrict
  | utf8Lossy => exact congrArg some (Utf8.decodeLossy_of_decode? hstrict)
  | raw => rfl

/-- Every byte is the number of its character, because all numbers below 256 are those of
characters. -/
theorem toNat_charOf (b : UInt8) : (charOf b).toNat = b.toNat := by
  refine Utf8.toNat_ofNat (.inl ?_)
  have := b.toNat_lt
  omega

/-- Reading every byte as a character keeps all bytes of a line: `Decoding.raw` never refuses one,
and the numbers of the characters give the bytes back. -/
theorem exists_raw_texts (lines : List (List UInt8)) :
    ∃ texts : List String, lines.map raw.decode = texts.map some ∧
      texts.flatMap (fun text => text.toList.map Char.toNat) = lines.flatten.map UInt8.toNat := by
  refine ⟨lines.map fun line => String.ofList (line.map charOf), ?_, ?_⟩
  · rw [List.map_map]
    rfl
  · rw [List.flatMap_map, List.map_flatten, List.flatMap_def]
    refine congrArg List.flatten (List.map_congr_left fun line _ => ?_)
    rw [String.toList_ofList, List.map_map]
    exact List.map_congr_left fun b _ => toNat_charOf b

end Decoding

namespace Engine

/-! ### The same parse in another decoding -/

/-- The parse with another decoding in its settings. -/
def decodedAs (e : Engine δ) (c : Decoding) : Engine δ :=
  { e with options := { e.options with decoding := c } }

/-- An answer with another decoding in the settings of the parse. -/
def answerAs {α : Type} (c : Decoding) (answer : Answer δ α) : Answer δ α :=
  (answer.1, answer.2.decodedAs c)

/-- A parse that is about to begin, in some decoding. -/
def startAs (t : Table δ) (options : ParseOptions) (data : δ) (c : Decoding) : Engine δ :=
  start t { options with decoding := c } data

variable {e e' mid : Engine δ} {c : Decoding} {extra : Nat} {texts : List String}
  {items : List (Except String (List UInt8))}

/-- A text does the same in all decodings, as `feed_mapOptions` says of all settings. So two
parses in different decodings differ at most in which texts they get. -/
theorem feed_decodedAs (e : Engine δ) (c : Decoding) (extra : Nat) (text : String) :
    (e.decodedAs c).feed extra text = (e.feed extra text).map (answerAs c) :=
  e.feed_mapOptions (fun options => { options with decoding := c }) extra text

/-- The end of the input does the same in all decodings, since `Engine.finish` looks at the
requirement on the stack only. -/
theorem finish_decodedAs (e : Engine δ) (c : Decoding) :
    (e.decodedAs c).finish = answerAs c e.finish := by
  by_cases h : !(e.stack.bottomUp.map e.table.nameOf).isEmpty && e.options.requireEmptyStack
  · have hend : e.finish = _ := if_pos h
    have hdecoded : (e.decodedAs c).finish = _ := if_pos h
    rw [hend, hdecoded]
    rfl
  · have hend : e.finish = _ := if_neg h
    have hdecoded : (e.decodedAs c).finish = _ := if_neg h
    rw [hend, hdecoded]
    rfl

/-- Lines of text that are consumed are consumed in another decoding too, and both parses stand in
the same place behind them. It is `feed_decodedAs` for each line. -/
theorem Consumes.decodedAs (h : e.Consumes extra texts mid) (c : Decoding) :
    (e.decodedAs c).Consumes extra texts (mid.decodedAs c) := by
  induction h with
  | nil e => exact .nil _
  | cons line _ ih => exact .cons (by rw [feed_decodedAs, line]; rfl) ih

/-- Reading a line that has a text in two decodings is reading it in one of them. This is the step
of both inductions over lines of bytes, `parseItems_decodedAs` and `parseItems_lossy`. -/
theorem parseItems_cons_decodedAs {bytes : List UInt8} {text : String}
    (hdecode : e.options.decoding.decode bytes = some text) (hdecode' : c.decode bytes = some text)
    (hrest : ∀ next e', e.feed extra text = some (.ok next, e') →
      (e'.decodedAs c).parseItems extra items = (e'.parseItems extra items).map (answerAs c)) :
    (e.decodedAs c).parseItems extra (.ok bytes :: items) =
      (e.parseItems extra (.ok bytes :: items)).map (answerAs c) := by
  have hfeed' := e.feed_decodedAs c extra text
  rcases hfeed : e.feed extra text with _ | ⟨fault | next, e'⟩
  · rw [hfeed] at hfeed'
    rw [parseItems_of_none hdecode hfeed, parseItems_of_none hdecode' hfeed']
    rfl
  · rw [hfeed] at hfeed'
    rw [parseItems_of_error hdecode hfeed, parseItems_of_error hdecode' hfeed']
    rfl
  · rw [hfeed] at hfeed'
    rw [parseItems_of_ok hdecode hfeed, parseItems_of_ok hdecode' hfeed']
    exact hrest next e' hfeed

/-- Lines that have the same texts in two decodings are parsed alike by `Engine.parseItems`. On
ASCII this applies to any two decodings. -/
theorem parseItems_decodedAs (e : Engine δ) (c : Decoding) (extra : Nat)
    (h : ∀ bytes, .ok bytes ∈ items → ∃ text,
      e.options.decoding.decode bytes = some text ∧ c.decode bytes = some text) :
    (e.decodedAs c).parseItems extra items = (e.parseItems extra items).map (answerAs c) := by
  induction items generalizing e with
  | nil => exact congrArg some (e.finish_decodedAs c)
  | cons item rest ih =>
    cases item with
    | error message => rfl
    | ok bytes =>
      obtain ⟨text, hdecode, hdecode'⟩ := h bytes (by simp)
      refine parseItems_cons_decodedAs hdecode hdecode' fun next e' hfeed => ih e' ?_
      rw [options_of_feed hfeed]
      exact fun bytes hmem => h bytes (List.mem_cons_of_mem _ hmem)

/-! ### Strict and lenient reading -/

/-- The lines of an input are consumed up to one that is no UTF-8. -/
def BreaksAt (extra : Nat) (e : Engine δ) (items : List (Except String (List UInt8)))
    (texts : List String) (bytes : List UInt8) (mid : Engine δ) : Prop :=
  (∃ rest, items = (texts.map fun text => .ok (Text.Utf8.encode text)) ++ .ok bytes :: rest) ∧
    (∀ text, Text.Utf8.encode text ≠ bytes) ∧ e.Consumes extra texts mid

/-- Lines that are written in UTF-8 are consumed as their texts, strictly or not. Reading is the
inverse of `Utf8.encode` by `decode?_eq_some_iff_encode`. -/
theorem Consumes.consumesBytes_encode (h : e.Consumes extra texts mid)
    (hdecoding : e.options.decoding ≠ .raw) :
    e.ConsumesBytes extra (texts.map Text.Utf8.encode) mid := by
  refine ⟨texts, ?_, h⟩
  rw [List.map_map]
  refine List.map_congr_left fun text _ => ?_
  have hstrict := (Text.Utf8.decode?_eq_some_iff_encode (Text.Utf8.encode text) text).mpr rfl
  show e.options.decoding.decode (Text.Utf8.encode text) = some text
  cases hc : e.options.decoding with
  | utf8 => exact hstrict
  | utf8Lossy => exact congrArg some (Text.Utf8.decodeLossy_of_decode? hstrict)
  | raw => exact absurd hc hdecoding

/-- A strict parse ends at the line that is no UTF-8, with its number, and is left as it was
behind the lines before it. It is the case `undecoded` of `Engine.Refuses`. -/
theorem BreaksAt.parseItems_eq {bytes : List UInt8} (h : e.BreaksAt extra items texts bytes mid)
    (hdecoding : e.options.decoding = .utf8) :
    e.parseItems extra items = some (.error (.decode (texts.length + 1 + e.lineno)), mid) := by
  obtain ⟨⟨rest, rfl⟩, hbroken, hconsumes⟩ := h
  have hbytes := hconsumes.consumesBytes_encode (by simp [hdecoding])
  have hnone : mid.options.decoding.decode bytes = none := by
    rw [hconsumes.options_eq, hdecoding]
    exact (Text.Utf8.decode?_eq_none_iff bytes).mpr hbroken
  have happend := hbytes.parseItems_append (.ok bytes :: rest)
  rw [List.map_map] at happend
  have hnumber : mid.lineno + 1 = texts.length + 1 + e.lineno := by
    rw [hconsumes.lineno_eq]
    omega
  rw [← hnumber, ← parseItems_of_undecoded hnone]
  exact happend

/-- A strict parse comes to a line that is no UTF-8, as `Engine.BreaksAt` says, or the lenient one
does the same. The induction is on the lines: each one is refused, or has one text in both. -/
theorem parseItems_lossy (e : Engine δ) (extra : Nat) (items : List (Except String (List UInt8)))
    (h : e.options.decoding = .utf8) :
    (∃ texts bytes mid, e.BreaksAt extra items texts bytes mid) ∨
      (e.decodedAs .utf8Lossy).parseItems extra items =
        (e.parseItems extra items).map (answerAs .utf8Lossy) := by
  induction items generalizing e with
  | nil => exact .inr (congrArg some (e.finish_decodedAs .utf8Lossy))
  | cons item rest ih =>
    cases item with
    | error message => exact .inr rfl
    | ok bytes =>
      cases hstrict : Text.Utf8.decode? bytes with
      | none =>
        exact .inl ⟨[], bytes, e, ⟨rest, rfl⟩, (Text.Utf8.decode?_eq_none_iff bytes).mp hstrict,
          .nil e⟩
      | some text =>
        have hdecode : e.options.decoding.decode bytes = some text := by
          rw [h]
          exact hstrict
        have hlossy : Decoding.utf8Lossy.decode bytes = some text :=
          congrArg some (Text.Utf8.decodeLossy_of_decode? hstrict)
        -- The lines behind this one count only if its text does not fail.
        by_cases hbreaks : ∃ next e' texts broken mid, e.feed extra text = some (.ok next, e') ∧
            e'.BreaksAt extra rest texts broken mid
        · obtain ⟨next, e', texts, broken, mid, hfeed, ⟨last, rfl⟩, hbroken, hconsumes⟩ := hbreaks
          obtain rfl : Text.Utf8.encode text = bytes :=
            (Text.Utf8.decode?_eq_some_iff_encode bytes text).mp hstrict
          exact .inl ⟨text :: texts, broken, mid, ⟨last, rfl⟩, hbroken, .cons hfeed hconsumes⟩
        · refine .inr (parseItems_cons_decodedAs hdecode hlossy fun next e' hfeed => ?_)
          have hoptions : e'.options.decoding = .utf8 := by rw [options_of_feed hfeed, h]
          rcases ih e' hoptions with ⟨texts, broken, mid, hbehind⟩ | hsame
          · exact absurd ⟨next, e', texts, broken, mid, hfeed, hbehind⟩ hbreaks
          · exact hsame

/-! ### Lines that do not decode -/

/-- A text never ends a parse over a line that does not decode: none of the cases of `Table.Ends`
has a `decode` error. -/
theorem ne_decode_of_ends {t : Table Events} {line : Line} {id : StateId}
    {saved saved' : List StateId} {fault : ParseError}
    (h : t.Ends line id saved (.error fault) saved') (n : Nat) : fault ≠ .decode n := by
  cases h <;> simp

/-- A parse over bytes ends, and over a line that does not decode only if it reads strictly. Lines
that decode have an answer by `Sound.feed`, and the others end the parse themselves. -/
theorem Sound.exists_parseItems {e : Engine Events} (h : e.Sound) (extra : Nat)
    (items : List (Except String (List UInt8))) :
    ∃ result e', e.parseItems extra items = some (result, e') ∧
      (e.options.decoding ≠ .utf8 → ∀ n, result ≠ .error (.decode n)) := by
  induction items generalizing e with
  | nil =>
    refine ⟨e.finish.1, e.finish.2, rfl, fun _ n hfault => ?_⟩
    rcases e.finish_cases with ⟨-, -, hend⟩ | ⟨-, log, hend⟩
    · rw [hend] at hfault
      cases hfault
    · rw [hend] at hfault
      cases hfault
  | cons item rest ih =>
    cases item with
    | error message => exact ⟨_, e, rfl, by simp⟩
    | ok bytes =>
      cases hdecode : e.options.decoding.decode bytes with
      | none =>
        refine ⟨_, e, parseItems_of_undecoded hdecode, fun hne => ?_⟩
        -- Only strict reading refuses bytes.
        have hsome := Decoding.isSome_decode hne bytes
        rw [hdecode] at hsome
        cases hsome
      | some text =>
        obtain ⟨result, e', last, saved, hfeed, hsound, -, hends⟩ := h.feed extra text
        cases result with
        | error fault =>
          refine ⟨_, e', parseItems_of_error hdecode hfeed, fun _ n hfault => ?_⟩
          exact ne_decode_of_ends hends n (Except.error.inj hfault)
        | ok next =>
          rw [parseItems_of_ok hdecode hfeed, ← options_of_feed hfeed]
          exact ih hsound

end Engine

namespace TableDefinition

open Engine (startAs answerAs)

/-- The decodings agree where they should. Take any table of a definition, any settings but
for the decoding and any input, which may fail before it ends.

- A parse over the input ends in all decodings, and over a line that does not decode only in
  strict UTF-8.
- If strict UTF-8 ends otherwise, lenient UTF-8 ends with the same answer and in the same
  place, with the same events, whatever comes behind.
- If strict UTF-8 ends over line `n`, that line is written by no text, the lines before it are
  written by texts that were consumed, and lenient UTF-8 comes to line `n` in the same place,
  with the same state, saved states and events, and goes on.
- If all bytes are ASCII, all decodings give the same answer in the same place.
- Reading bytes as characters loses nothing: the lines have texts, the parse is the one over
  these texts, and the numbers of their characters are the bytes. -/
theorem decodings_agree {d : TableDefinition} {fallback : Validation} {t : Table Events}
    {log : List Report} (h : d.build fallback = (.ok t, log)) (options : ParseOptions)
    (events : Events) (extra : Nat) :
    (∀ (source : Text.Source) (c : Decoding), ∃ result e',
      (startAs t options events c).parseSource extra source = some (result, e') ∧
        (c ≠ .utf8 → ∀ n, result ≠ .error (.decode n))) ∧
    (∀ (source : Text.Source) (result : Except ParseError Summary) (e' : Engine Events),
      (startAs t options events .utf8).parseSource extra source = some (result, e') →
      ((∀ n, result ≠ .error (.decode n)) →
        (startAs t options events .utf8Lossy).parseSource extra source =
          some (result, e'.decodedAs .utf8Lossy)) ∧
      ∀ n, result = .error (.decode n) → ∃ (texts : List String) (bytes : List UInt8)
          (rest : List (Except String (List UInt8))),
        n = texts.length + 1 ∧
        source.lines = (texts.map fun text => .ok (Text.Utf8.encode text)) ++ .ok bytes :: rest ∧
        (∀ text, Text.Utf8.encode text ≠ bytes) ∧
        (startAs t options events .utf8).Consumes extra texts e' ∧
        (startAs t options events .utf8Lossy).ConsumesBytes extra (texts.map Text.Utf8.encode)
          (e'.decodedAs .utf8Lossy) ∧
        (startAs t options events .utf8Lossy).parseSource extra source =
          (e'.decodedAs .utf8Lossy).parseItems extra (.ok bytes :: rest)) ∧
    (∀ source : Text.Source, (∀ b ∈ source.bytes, b.toNat < 0x80) → ∀ c c' : Decoding,
      (startAs t options events c').parseSource extra source =
        ((startAs t options events c).parseSource extra source).map (answerAs c')) ∧
    ∀ bytes : List UInt8, ∃ texts : List String,
      (Text.splitLines bytes).map Decoding.raw.decode = texts.map some ∧
      (startAs t options events .raw).parseSource extra ⟨bytes, none⟩ =
        (startAs t options events .raw).parse extra texts ∧
      texts.flatMap (fun text => text.toList.map Char.toNat) = bytes.map UInt8.toNat := by
  have hstart (c : Decoding) : (startAs t options events c).Sound :=
    Engine.sound_start (standard_of_build h) { options with decoding := c } events
  have hraw : Decoding.utf8Lossy ≠ .raw := by decide
  have hstrict : Decoding.utf8Lossy ≠ .utf8 := by decide
  refine ⟨fun source c => (hstart c).exists_parseItems extra source.lines, ?_, ?_, ?_⟩
  · intro source result e' hrun
    rcases (startAs t options events .utf8).parseItems_lossy extra source.lines rfl with
      ⟨texts, bytes, mid, hbreaks⟩ | hsame
    · -- The strict parse ends there, so nothing is left of the first case.
      have hend := hrun.symm.trans (hbreaks.parseItems_eq rfl)
      cases hend
      refine ⟨fun hnot => absurd rfl (hnot _), fun n hn => ?_⟩
      cases hn
      obtain ⟨⟨rest, hlines⟩, hbroken, hconsumes⟩ := hbreaks
      have hbytes := (hconsumes.decodedAs .utf8Lossy).consumesBytes_encode hraw
      refine ⟨texts, bytes, rest, rfl, hlines, hbroken, hconsumes, hbytes, ?_⟩
      have happend := hbytes.parseItems_append (.ok bytes :: rest)
      rw [List.map_map] at happend
      rw [Engine.parseSource, hlines]
      exact happend
    · have hlossy : (startAs t options events .utf8Lossy).parseSource extra source =
          some (result, e'.decodedAs .utf8Lossy) :=
        hsame.trans (congrArg (Option.map (answerAs .utf8Lossy)) hrun)
      refine ⟨fun _ => hlossy, fun n hn => ?_⟩
      -- The lenient parse would end over the line, which it never does.
      obtain ⟨result', e'', hrun', hnot⟩ :=
        (hstart .utf8Lossy).exists_parseItems extra source.lines
      have hend := hlossy.symm.trans hrun'
      cases hend
      exact absurd hn (hnot hstrict n)
  · intro source hascii c c'
    refine (startAs t options events c).parseItems_decodedAs c' extra fun bytes hmem => ?_
    have hbytes : ∀ b ∈ bytes, b.toNat < 0x80 :=
      fun b hb => hascii b (Text.Source.mem_bytes_of_mem_lines hmem b hb)
    exact ⟨_, Decoding.decode_of_ascii hbytes c, Decoding.decode_of_ascii hbytes c'⟩
  · intro bytes
    obtain ⟨texts, htexts, hnumbers⟩ := Decoding.exists_raw_texts (Text.splitLines bytes)
    refine ⟨texts, htexts, Engine.parseItems_eq_parse _ extra htexts, ?_⟩
    rw [hnumbers, Text.splitLines_eq, Text.flatten_cutBehind]

/-- Behind a line that opens a block comes a byte that no text is written with. Strict UTF-8 stops
there, and lenient UTF-8 comes to that line in the same block of `brackets`. Where a line fails
before that byte, both end alike. -/
theorem decodings_agree_brackets :
    ∃ t log e', brackets.build .strict = (.ok t, log) ∧
      (startAs t ParseOptions.default Events.empty .utf8).parseSource 0
          ⟨[0x6F, 0x70, 0x65, 0x6E, 0x0A, 0xFF, 0x0A], none⟩ = some (.error (.decode 2), e') ∧
      e'.stack.bottomUp = [⟨0⟩] ∧
      (∃ lines, lines.length = 1 ∧
        (startAs t ParseOptions.default Events.empty .utf8Lossy).ConsumesBytes 0 lines
          (e'.decodedAs .utf8Lossy)) ∧
      ∃ last, (startAs t ParseOptions.default Events.empty .utf8Lossy).parseSource 0
        ⟨[0x78, 0x0A, 0xFF], some "gone"⟩ =
          some (.error (.unmatchedLine 1 "outside" "x"), last) := by
  obtain ⟨t, log, hbuild⟩ : ∃ t log, brackets.build .strict = (.ok t, log) := ⟨_, _, rfl⟩
  obtain ⟨-, hstrict, -⟩ := decodings_agree hbuild ParseOptions.default Events.empty 0
  obtain ⟨next, e', hfeed, hstack⟩ : ∃ next e',
      (startAs t ParseOptions.default Events.empty .utf8).feed 0 "open\n" = some (.ok next, e') ∧
        e'.stack.bottomUp = [⟨0⟩] := by
    cases hbuild
    exact ⟨_, _, rfl, rfl⟩
  have hbreaks : (startAs t ParseOptions.default Events.empty .utf8).BreaksAt 0
      (⟨[0x6F, 0x70, 0x65, 0x6E, 0x0A, 0xFF, 0x0A], none⟩ : Text.Source).lines ["open\n"]
      [0xFF, 0x0A] e' :=
    ⟨⟨[], rfl⟩, (Text.Utf8.decode?_eq_none_iff _).mp (by decide), .cons hfeed (.nil e')⟩
  have hrun := hbreaks.parseItems_eq rfl
  obtain ⟨-, hstop⟩ := hstrict _ _ e' hrun
  obtain ⟨texts, bytes, rest, hn, -, -, -, hbytes, -⟩ := hstop 2 rfl
  refine ⟨t, log, e', hbuild, hrun, hstack, ⟨_, ?_, hbytes⟩, ?_⟩
  · rw [List.length_map]
    omega
  · obtain ⟨last, hlast⟩ : ∃ last,
        (startAs t ParseOptions.default Events.empty .utf8).feed 0 "x\n" =
          some (.error (.unmatchedLine 1 "outside" "x"), last) := by
      cases hbuild
      exact ⟨_, rfl⟩
    have hdecode : Decoding.utf8.decode [0x78, 0x0A] = some "x\n" := by decide
    obtain ⟨hother, -⟩ := hstrict ⟨[0x78, 0x0A, 0xFF], some "gone"⟩ _ last
      (Engine.parseItems_of_error hdecode hlast)
    exact ⟨_, hother (by simp)⟩

end TableDefinition

end LineMachine
