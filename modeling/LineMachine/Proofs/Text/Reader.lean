import LineMachine.Proofs.Text.Layout

/-!
# `LineMachine.Proofs.Text.Reader`: reading an input line by line

An input is read by asking for one line after the other. Each time the bytes up to the next line
feed are collected. If the input ends first, what was collected is the last line, and if it fails
first, that is lost.

* `readUntil` collects the bytes, `Source.next` is one request, and `Source.Yields` lists the
  answers up to the end or the failure. `Source.yields_iff`: they are `Source.lines`.
* `lineInduction` goes along bytes line by line. `exists_front`: the complete lines are those of
  the bytes up to the last line feed.
* `IsLines` says what the lines of some bytes are, without reading them. `isLines_iff`: only
  `splitLines` gives such lines.
* `Decoding.notMem_stripTerminator_of_decode` and `Decoding.exists_endText` say what the text of
  a line is without its end, and how it ends, in every decoding.
* `Source.lines_exact` states the result for every input.
-/

set_option autoImplicit false

namespace LineMachine

namespace Text

/-! ### One line after the other -/

/-- Collects bytes up to a line feed and with it. The second part is what is left to read. If the
bytes come to their end first, what was collected is all there is, or the input fails. -/
def readUntil (failure : Option String) (collected : List UInt8) :
    List UInt8 → Except String (List UInt8) × List UInt8
  | [] =>
    match failure with
    | none => (.ok collected, [])
    | some message => (.error message, [])
  | b :: bs =>
    if b = lineFeed then (.ok (collected ++ [b]), bs) else readUntil failure (collected ++ [b]) bs

/-- The next line, or the failure, or nothing if there are no more bytes; and the input behind
it. -/
def Source.next (s : Source) : Option (Except String (List UInt8)) × Source :=
  match readUntil s.failure [] s.bytes with
  | (.ok [], rest) => (none, ⟨rest, s.failure⟩)
  | (.ok line, rest) => (some (.ok line), ⟨rest, s.failure⟩)
  | (.error message, rest) => (some (.error message), ⟨rest, s.failure⟩)

/-- What an input gives when it is asked for lines, one after the other, until there are no more
or it fails. -/
inductive Source.Yields : Source → List (Except String (List UInt8)) → Prop where
  /-- there are no more lines -/
  | done {s s' : Source} (last : s.next = (none, s')) : Yields s []
  /-- the input fails -/
  | failed {s s' : Source} {message : String} (last : s.next = (some (.error message), s')) :
      Yields s [.error message]
  /-- a line, and what comes behind it -/
  | line {s s' : Source} {line : List UInt8} {rest : List (Except String (List UInt8))}
      (first : s.next = (some (.ok line), s')) (more : Yields s' rest) :
      Yields s (.ok line :: rest)

/-- Bytes have no line feed, or they are a line with one and what comes behind it. The induction
follows the pieces of `cutBehind`, so that each case is one request of `Source.next`. -/
@[elab_as_elim]
theorem lineInduction {motive : List UInt8 → Prop} (bytes : List UInt8)
    (inner : ∀ xs, lineFeed ∉ xs → motive xs)
    (line : ∀ xs rest, lineFeed ∉ xs → motive rest → motive (xs ++ lineFeed :: rest)) :
    motive bytes := by
  rw [← flatten_cutBehind isLineFeed bytes]
  have hcut := cut_cutBehind isLineFeed bytes
  generalize cutBehind isLineFeed bytes = pieces at hcut
  induction hcut with
  | nil => exact inner [] List.not_mem_nil
  | last xs _ hxs =>
    rw [List.flatten_singleton]
    exact inner xs (isLineFeed_eq_false_iff.mp hxs)
  | piece xs x rest hxs ends _ ih =>
    obtain rfl : x = lineFeed := of_decide_eq_true ends
    rw [List.flatten_cons, List.append_assoc, List.singleton_append]
    exact line xs rest.flatten (isLineFeed_eq_false_iff.mp hxs) ih

variable {xs : List UInt8} {failure : Option String}

/-- A line feed ends what `readUntil` collects, and belongs to it. What stands behind it is left
to read, and a failure of the input is not met. -/
theorem readUntil_append_cons (hxs : lineFeed ∉ xs) (collected rest : List UInt8) :
    readUntil failure collected (xs ++ lineFeed :: rest) =
      (.ok (collected ++ xs ++ [lineFeed]), rest) := by
  induction xs generalizing collected with
  | nil => simp [readUntil]
  | cons b bs ih =>
    rw [List.mem_cons, not_or] at hxs
    rw [List.cons_append, readUntil, if_neg (Ne.symm hxs.1), ih hxs.2]
    simp

/-- Without a line feed `readUntil` collects all bytes and comes to their end. There it gives them
out or fails, which is left to the caller. -/
theorem readUntil_of_notMem (hxs : lineFeed ∉ xs) (collected : List UInt8) :
    readUntil failure collected xs = readUntil failure (collected ++ xs) [] := by
  induction xs generalizing collected with
  | nil => rw [List.append_nil]
  | cons b bs ih =>
    rw [List.mem_cons, not_or] at hxs
    rw [readUntil, if_neg (Ne.symm hxs.1), ih hxs.2, List.append_assoc, List.singleton_append]

namespace Source

/-- A line feed ends the line that `Source.next` gives, whether or not the input fails later. -/
theorem next_append_cons (hxs : lineFeed ∉ xs) (rest : List UInt8) :
    (⟨xs ++ lineFeed :: rest, failure⟩ : Source).next =
      (some (.ok (xs ++ [lineFeed])), ⟨rest, failure⟩) := by
  rw [next, readUntil_append_cons hxs, List.nil_append]
  cases xs <;> rfl

/-- The end of the input ends the last line, if there are bytes for one. Without them
`Source.next` says that there are no more lines. -/
theorem next_of_notMem (hxs : lineFeed ∉ xs) (hne : xs ≠ []) :
    (⟨xs, none⟩ : Source).next = (some (.ok xs), ⟨[], none⟩) := by
  rw [next, readUntil_of_notMem hxs, List.nil_append]
  cases xs with
  | nil => exact absurd rfl hne
  | cons b bs => rfl

/-- The failure comes in place of a line that has no end, and `Source.next` loses the bytes before
it. -/
theorem next_of_failure (hxs : lineFeed ∉ xs) (message : String) :
    (⟨xs, some message⟩ : Source).next = (some (.error message), ⟨[], some message⟩) := by
  rw [next, readUntil_of_notMem hxs]
  rfl

variable {s : Source}

/-- The lines of an input that does not fail are those of its bytes. It is one branch of
`Source.lines`, as `lines_of_fails` is the other. -/
theorem lines_of_ends (h : s.failure = none) : s.lines = (splitLines s.bytes).map Except.ok := by
  rw [lines, h]

/-- The lines of an input that fails are the complete ones of its bytes, and behind them
`Source.lines` has the failure. -/
theorem lines_of_fails {message : String} (h : s.failure = some message) :
    s.lines = (completeLines s.bytes).map Except.ok ++ [Except.error message] := by
  rw [lines, h]

/-- The lines of an input that begins with a line are this line and those of the rest. The
induction of `yields_lines` compares it with `next_append_cons`. -/
theorem lines_append_cons (hxs : lineFeed ∉ xs) (rest : List UInt8) :
    (⟨xs ++ lineFeed :: rest, failure⟩ : Source).lines =
      .ok (xs ++ [lineFeed]) :: (⟨rest, failure⟩ : Source).lines := by
  cases failure with
  | none => rw [lines_of_ends rfl, lines_of_ends rfl, splitLines_append_cons hxs, List.map_cons]
  | some message =>
    rw [lines_of_fails rfl, lines_of_fails rfl, completeLines_append_cons hxs, List.map_cons,
      List.cons_append]

/-- The only line of `Source.lines` for an input without a line feed has all of its bytes. -/
theorem lines_of_notMem (hxs : lineFeed ∉ xs) (hne : xs ≠ []) :
    (⟨xs, none⟩ : Source).lines = [.ok xs] := by
  rw [lines_of_ends rfl, splitLines_eq, cutBehind_of_inner hne (isLineFeed_eq_false_iff.mpr hxs),
    List.map_singleton]

/-- A line without its line feed is not in `Source.lines` if the input fails: only the failure is
left, as in `next_of_failure`. -/
theorem lines_of_failure (hxs : lineFeed ∉ xs) (message : String) :
    (⟨xs, some message⟩ : Source).lines = [.error message] := by
  rw [lines_of_fails rfl, completeLines_of_notMem hxs, List.map_nil, List.nil_append]

/-- Asking for one line after the other gives the lines of the input. The induction is
`lineInduction`, and in each case the first request and the first of `Source.lines` agree. -/
theorem yields_lines (s : Source) : s.Yields s.lines := by
  obtain ⟨bytes, failure⟩ := s
  induction bytes using lineInduction with
  | inner xs hxs =>
    cases failure with
    | none =>
      by_cases hne : xs = []
      · subst hne
        exact .done rfl
      · rw [lines_of_notMem hxs hne]
        exact .line (next_of_notMem hxs hne) (.done rfl)
    | some message =>
      rw [lines_of_failure hxs]
      exact .failed (next_of_failure hxs message)
  | line xs rest hxs ih =>
    rw [lines_append_cons hxs]
    exact .line (next_append_cons hxs rest) ih

/-- There is one answer to each request, so there is one list of answers that `Source.Yields`
relates to an input. -/
theorem Yields.unique {items items' : List (Except String (List UInt8))}
    (h : s.Yields items) (h' : s.Yields items') : items = items' := by
  induction h generalizing items' with
  | done last =>
    -- Both lists begin with the answer to the first request, which is of one kind.
    cases h' with
    | done => rfl
    | failed last' => cases last.symm.trans last'
    | line first _ => cases last.symm.trans first
  | failed last =>
    cases h' with
    | done last' => cases last.symm.trans last'
    | failed last' =>
      cases last.symm.trans last'
      rfl
    | line first _ => cases last.symm.trans first
  | line first _ ih =>
    cases h' with
    | done last => cases first.symm.trans last
    | failed last => cases first.symm.trans last
    | line first' more =>
      cases first.symm.trans first'
      rw [ih more]

/-- The answers to all requests are `Source.lines` and nothing else. So what a parse takes as its
lines is what a reader delivers one after the other. -/
theorem yields_iff {items : List (Except String (List UInt8))} :
    s.Yields items ↔ items = s.lines := by
  constructor
  · exact fun h => h.unique s.yields_lines
  · rintro rfl
    exact s.yields_lines

end Source

/-! ### What the lines of some bytes are -/

/-- These are the lines of the bytes. -/
structure IsLines (bytes : List UInt8) (lines : List (List UInt8)) : Prop where
  /-- put together they are the bytes -/
  flatten : lines.flatten = bytes
  /-- none is empty -/
  nonempty : ∀ line ∈ lines, line ≠ []
  /-- all but maybe the last end in a line feed -/
  ends : ∀ line ∈ lines.dropLast, line.getLast? = some lineFeed
  /-- there is no line feed but at the end of a line -/
  inner : ∀ line ∈ lines, lineFeed ∉ line.dropLast

/-- Pieces of a cut at line feeds are lines in the sense of `IsLines`. The induction is on the
`Cut`, whose last piece is the only one that may lack a line feed. -/
theorem Cut.isLines {lines : List (List UInt8)} (h : Cut isLineFeed lines) :
    IsLines lines.flatten lines := by
  induction h with
  | nil => exact ⟨rfl, nofun, nofun, nofun⟩
  | last xs nonempty inner =>
    refine ⟨rfl, by simpa using nonempty, nofun, ?_⟩
    rw [List.forall_mem_singleton]
    exact fun hmem => isLineFeed_eq_false_iff.mp inner (List.dropLast_subset xs hmem)
  | piece xs x rest inner ends _ ih =>
    -- This piece ends in a line feed and has none before it; the rest is cut in the same way.
    obtain rfl : x = lineFeed := of_decide_eq_true ends
    refine ⟨rfl, ?_, ?_, ?_⟩
    · rw [List.forall_mem_cons]
      exact ⟨by simp, ih.nonempty⟩
    · intro line hline
      cases rest with
      | nil => cases hline
      | cons next more =>
        rw [List.dropLast_cons_cons, List.mem_cons] at hline
        rcases hline with rfl | hline
        · simp
        · exact ih.ends line hline
    · rw [List.forall_mem_cons, List.dropLast_concat]
      exact ⟨isLineFeed_eq_false_iff.mp inner, ih.inner⟩

/-- A line without a line feed at its end has none. It is what the fields of `IsLines` say of a
last line. -/
theorem lineFeed_notMem {line : List UInt8} (hinner : lineFeed ∉ line.dropLast)
    (hlast : line.getLast? ≠ some lineFeed) : lineFeed ∉ line := by
  rcases List.eq_nil_or_concat line with rfl | ⟨front, b, rfl⟩
  · exact List.not_mem_nil
  · rw [List.concat_eq_append] at *
    rw [List.dropLast_concat] at hinner
    rw [List.getLast?_concat] at hlast
    rw [List.mem_append, List.mem_singleton, not_or]
    exact ⟨hinner, fun heq => hlast (congrArg some heq.symm)⟩

/-- Lines are pieces of a `Cut`. The induction is on the lines, of which the last one may lack a
line feed. -/
theorem IsLines.cut {bytes : List UInt8} {lines : List (List UInt8)} (h : IsLines bytes lines) :
    Cut isLineFeed lines := by
  induction lines generalizing bytes with
  | nil => exact .nil
  | cons line rest ih =>
    have hinner := h.inner line List.mem_cons_self
    have hrest : Cut isLineFeed rest := by
      refine ih ⟨rfl, fun l hl => h.nonempty l (List.mem_cons_of_mem _ hl), fun l hl => ?_,
        fun l hl => h.inner l (List.mem_cons_of_mem _ hl)⟩
      refine h.ends l ?_
      rw [List.dropLast_cons_of_ne_nil (by rintro rfl; cases hl)]
      exact List.mem_cons_of_mem _ hl
    by_cases hlast : line.getLast? = some lineFeed
    · obtain ⟨front, rfl⟩ := List.getLast?_eq_some_iff.mp hlast
      rw [List.dropLast_concat] at hinner
      exact .piece front lineFeed rest (isLineFeed_eq_false_iff.mpr hinner) rfl hrest
    · -- Only the last line can be without a line feed.
      have hnil : rest = [] := by
        by_contra hmore
        refine hlast (h.ends line ?_)
        rw [List.dropLast_cons_of_ne_nil hmore]
        exact List.mem_cons_self
      subst hnil
      exact .last line (h.nonempty line List.mem_cons_self)
        (isLineFeed_eq_false_iff.mpr (lineFeed_notMem hinner hlast))

/-- There are no other lines than `splitLines` gives, because `IsLines` and `Cut` say the same and
a cut is determined by what it gives together. -/
theorem isLines_iff {bytes : List UInt8} {lines : List (List UInt8)} :
    IsLines bytes lines ↔ lines = splitLines bytes := by
  rw [splitLines_eq]
  constructor
  · intro h
    rw [← h.flatten, cutBehind_flatten h.cut]
  · rintro rfl
    have hlines := (cut_cutBehind isLineFeed bytes).isLines
    rwa [flatten_cutBehind] at hlines

/-- The complete lines are those of the bytes up to the last line feed. By `lineInduction` the
front grows line by line, and the rest is what has no line feed. -/
theorem exists_front (bytes : List UInt8) :
    ∃ front rest, bytes = front ++ rest ∧ (∀ b ∈ front.getLast?, b = lineFeed) ∧
      lineFeed ∉ rest ∧ completeLines bytes = splitLines front := by
  induction bytes using lineInduction with
  | inner xs hxs => exact ⟨[], xs, rfl, nofun, hxs, completeLines_of_notMem hxs⟩
  | line xs more hxs ih =>
    obtain ⟨front, rest, rfl, hfront, hrest, hlines⟩ := ih
    refine ⟨xs ++ lineFeed :: front, rest, by simp, ?_, hrest, ?_⟩
    · intro b hb
      cases front with
      | nil => simpa using hb.symm
      | cons c cs => exact hfront b (by simpa using hb)
    · rw [completeLines_append_cons hxs, splitLines_append_cons hxs, hlines]

namespace Source

variable {s : Source} {line : List UInt8}

/-- Lines that are read are lines of the bytes, also if the input fails, since `completeLines`
keeps some of `splitLines`. -/
theorem mem_splitLines (h : .ok line ∈ s.lines) : line ∈ splitLines s.bytes := by
  cases hfailure : s.failure with
  | none => simpa [lines_of_ends hfailure] using h
  | some message =>
    have hcomplete : line ∈ completeLines s.bytes := by simpa [lines_of_fails hfailure] using h
    exact List.mem_of_mem_filter hcomplete

/-- In a line that is read, a line feed is the last byte or there is none. It is the field
`IsLines.inner` for one line of `Source.lines`. -/
theorem notMem_dropLast (h : .ok line ∈ s.lines) : lineFeed ∉ line.dropLast :=
  (isLines_iff.mpr rfl).inner line (mem_splitLines h)

/-- A line of `Source.lines` ends in a line feed if anything comes behind it, be it a line or the
failure. So a line without an end is the last of all items. -/
theorem getLast?_of_lines {before after : List (Except String (List UInt8))}
    (h : s.lines = before ++ .ok line :: after) (hafter : after ≠ []) :
    line.getLast? = some lineFeed := by
  cases hfailure : s.failure with
  | none =>
    rw [lines_of_ends hfailure] at h
    obtain ⟨front, back, hsplit, -, hback⟩ := List.map_eq_append_iff.mp h
    obtain ⟨line', rest, rfl, hline, hrest⟩ := List.map_eq_cons_iff.mp hback
    obtain rfl : line' = line := Except.ok.inj hline
    have hne : rest ≠ [] := by
      rintro rfl
      exact hafter hrest.symm
    refine (isLines_iff.mpr rfl : IsLines s.bytes _).ends line' ?_
    rw [hsplit, List.dropLast_append_of_ne_nil (List.cons_ne_nil _ _),
      List.dropLast_cons_of_ne_nil hne]
    exact List.mem_append_right _ List.mem_cons_self
  | some message =>
    -- Only complete lines are read from an input that fails.
    have hmem : .ok line ∈ s.lines := h ▸ List.mem_append_cons_self
    have hcomplete : line ∈ completeLines s.bytes := by simpa [lines_of_fails hfailure] using hmem
    simpa using List.of_mem_filter hcomplete

end Source

/-! ### How the text of a line ends -/

/-- The characters of an end, or of none. -/
def endText : Option Terminator → String
  | none => ""
  | some .lf => "\n"
  | some .crlf => "\r\n"

/-- No two ends have the same characters in `endText`, so the end of a line is determined by its
text and what is left of it. -/
theorem endText_injective {t t' : Option Terminator} (h : endText t = endText t') : t = t' := by
  rcases t with _ | _ | _ <;> rcases t' with _ | _ | _ <;> simp_all [endText]

/-- What `stripTerminator` takes off behind a line feed is an end: the line feed alone, or a
carriage return with it. -/
theorem exists_terminator (front : String) :
    ∃ t, front.push '\n' = stripTerminator (front.push '\n') ++ endText (some t) := by
  by_cases hreturn : front.toList.getLast? = some '\r'
  · -- The carriage return belongs to the end.
    obtain ⟨cs, hcs⟩ := List.getLast?_eq_some_iff.mp hreturn
    obtain rfl : front = (String.ofList cs).push '\r' := by
      rw [← String.toList_inj, hcs]
      simp
    rw [stripTerminator_push_push]
    exact ⟨.crlf, by rw [← String.toList_inj]; simp [endText]⟩
  · rw [stripTerminator_push hreturn]
    exact ⟨.lf, by rw [← String.toList_inj]; simp [endText]⟩

end Text

namespace Decoding

open Text

variable {d : Decoding} {line : List UInt8} {text : String}

/-- A line that ends in a line feed is a text with its character at the end, in every decoding by
`decode_append_sign`. -/
theorem exists_push (hlast : line.getLast? = some lineFeed) (h : d.decode line = some text) :
    ∃ front, d.decode line.dropLast = some front ∧ text = front.push '\n' := by
  obtain ⟨bytes, rfl⟩ := List.getLast?_eq_some_iff.mp hlast
  rw [d.decode_append_sign Utf8.isSign_lineFeed, Option.map_eq_some_iff] at h
  obtain ⟨front, hfront, rfl⟩ := h
  rw [List.dropLast_concat]
  exact ⟨front, hfront, rfl⟩

/-- A line has no line feed when its end is off. If it has one at all, it is the last byte, and
`notMem_of_decode` says that the bytes before give no other. -/
theorem notMem_stripTerminator_of_decode (hline : lineFeed ∉ line.dropLast)
    (h : d.decode line = some text) : '\n' ∉ (stripTerminator text).toList := by
  by_cases hlast : line.getLast? = some lineFeed
  · obtain ⟨front, hfront, rfl⟩ := exists_push hlast h
    have hmem : '\n' ∉ front.toList := notMem_of_decode Utf8.isSign_lineFeed hline hfront
    have hpush : front.push '\n' = String.ofList (front.toList ++ ['\n']) := by
      rw [← String.toList_inj]
      simp
    rw [hpush]
    exact notMem_stripTerminator_append hmem
  · have hfeed : lineFeed ∉ line := lineFeed_notMem hline hlast
    rw [stripTerminator_of_decode hfeed h]
    exact notMem_of_decode Utf8.isSign_lineFeed hfeed h

/-- The text of a line is what is left of it and one end, or none if the line has no line feed.
Which end it is comes from `exists_terminator`. -/
theorem exists_endText (hline : lineFeed ∉ line.dropLast) (h : d.decode line = some text) :
    ∃ t, text = stripTerminator text ++ endText t ∧ (line.getLast? = some lineFeed → t ≠ none) := by
  by_cases hlast : line.getLast? = some lineFeed
  · obtain ⟨front, -, rfl⟩ := exists_push hlast h
    obtain ⟨t, ht⟩ := exists_terminator front
    exact ⟨some t, ht, fun _ => nofun⟩
  · refine ⟨none, ?_, fun hfeed => absurd hfeed hlast⟩
    rw [stripTerminator_of_decode (lineFeed_notMem hline hlast) h]
    exact String.append_empty.symm

end Decoding

namespace Text

/-- Line splitting is exact. Take any input, which may fail behind its bytes.

- Asking it for one line after the other gives `Source.lines` and nothing else.
- If it does not fail, these are the lines of its bytes: put together they are the bytes, none is
  empty, all but maybe the last end in a line feed, and no other byte of a line is one. No other
  list is such.
- If it fails, they are the complete lines of its bytes, which are the lines of the bytes up to
  the last line feed, and the failure comes next.
- In every decoding, a line that decodes has no line feed when its end is off. Its text is what
  is left then and exactly one end: a line feed, or a carriage return and a line feed, or nothing.
  It is nothing only if the line is the last one and no failure comes behind it. -/
theorem Source.lines_exact (s : Source) :
    (∀ items, s.Yields items ↔ items = s.lines) ∧
    (s.failure = none → s.lines = (splitLines s.bytes).map Except.ok ∧
      ∀ lines, IsLines s.bytes lines ↔ lines = splitLines s.bytes) ∧
    (∀ message, s.failure = some message →
      s.lines = (completeLines s.bytes).map Except.ok ++ [Except.error message] ∧
      ∃ front rest, s.bytes = front ++ rest ∧ (∀ b ∈ front.getLast?, b = lineFeed) ∧
        lineFeed ∉ rest ∧ ∀ lines, IsLines front lines ↔ lines = completeLines s.bytes) ∧
    ∀ (d : Decoding) (before after : List (Except String (List UInt8))) (line : List UInt8)
      (text : String), s.lines = before ++ .ok line :: after → d.decode line = some text →
      '\n' ∉ (stripTerminator text).toList ∧
      (∃! t, text = stripTerminator text ++ endText t) ∧
      (text = stripTerminator text → after = []) := by
  refine ⟨fun items => yields_iff, ?_, ?_, ?_⟩
  · exact fun hends => ⟨lines_of_ends hends, fun lines => isLines_iff⟩
  · intro message hfails
    obtain ⟨front, rest, hbytes, hfront, hrest, hlines⟩ := exists_front s.bytes
    refine ⟨lines_of_fails hfails, front, rest, hbytes, hfront, hrest, ?_⟩
    rw [hlines]
    exact fun lines => isLines_iff
  · intro d before after line text hlines hdecode
    have hmem : .ok line ∈ s.lines := hlines ▸ List.mem_append_cons_self
    have hline : lineFeed ∉ line.dropLast := notMem_dropLast hmem
    obtain ⟨t, ht, hends⟩ := Decoding.exists_endText hline hdecode
    -- What is left and an end make up the text in one way only.
    have hunique : ∀ t', text = stripTerminator text ++ endText t' → t' = t := by
      intro t' ht'
      have hsame : stripTerminator text ++ endText t' = stripTerminator text ++ endText t :=
        ht'.symm.trans ht
      exact endText_injective ((String.append_right_inj _).mp hsame)
    refine ⟨Decoding.notMem_stripTerminator_of_decode hline hdecode, ⟨t, ht, hunique⟩, ?_⟩
    intro hnothing
    by_contra hafter
    refine hends (getLast?_of_lines hlines hafter) (hunique none ?_).symm
    rw [endText, String.append_empty]
    exact hnothing

/-- An empty line, one that ends in a carriage return and a line feed, and one without an end. -/
def threeLines : List UInt8 := [0x0A, 0x62, 0x0D, 0x0A, 0x63]

/-- All three of `threeLines` are read if the input ends, and two of them if it fails. The second
one is shown with its end, a carriage return and a line feed. -/
theorem Source.lines_exact_threeLines :
    (⟨threeLines, none⟩ : Source).Yields [.ok [0x0A], .ok [0x62, 0x0D, 0x0A], .ok [0x63]] ∧
    (⟨threeLines, some "gone"⟩ : Source).Yields
      [.ok [0x0A], .ok [0x62, 0x0D, 0x0A], .error "gone"] ∧
    IsLines threeLines [[0x0A], [0x62, 0x0D, 0x0A], [0x63]] ∧
    (∃ front rest, threeLines = front ++ rest ∧ lineFeed ∉ rest ∧
      IsLines front [[0x0A], [0x62, 0x0D, 0x0A]]) ∧
    '\n' ∉ (stripTerminator "b\r\n").toList ∧
    (∃! t, "b\r\n" = stripTerminator "b\r\n" ++ endText t) ∧
    "b\r\n" ≠ stripTerminator "b\r\n" := by
  obtain ⟨yields, ends, -, texts⟩ := lines_exact ⟨threeLines, none⟩
  obtain ⟨yieldsFailing, -, fails, -⟩ := lines_exact ⟨threeLines, some "gone"⟩
  obtain ⟨-, front, rest, hbytes, -, hrest, hfront⟩ := fails "gone" rfl
  obtain ⟨hinner, hend, hlast⟩ := texts .utf8 [.ok [0x0A]] [.ok [0x63]] [0x62, 0x0D, 0x0A] "b\r\n"
    (by decide) (by decide +kernel)
  exact ⟨(yields _).mpr (by decide), (yieldsFailing _).mpr (by decide),
    ((ends rfl).2 _).mpr (by decide), ⟨front, rest, hbytes, hrest, (hfront _).mpr (by decide)⟩,
    hinner, hend, fun hnothing => List.cons_ne_nil _ _ (hlast hnothing)⟩

end Text

end LineMachine
