import LineMachine.Text.Decoding
import LineMachine.Proofs.Text.Cut

/-!
# `LineMachine.Proofs.Text.DecodeLines`: decoding line by line

An input is cut into lines before it is decoded. That changes nothing: a line
feed is a character of its own in all three decodings, it ends an ill-formed
run that it interrupts, and it comes from no other byte.

* `Utf8.Progress.Sound` is what the reader of UTF-8 keeps between two bytes: a
  byte that goes on with a character is at least 0x80, and no character of
  several bytes has a number below 64. `Utf8.begin_cases` says what a first byte
  can do.
* `Utf8.IsSign` is a byte below that number, such as a line feed.
  `Utf8.decodeFrom_append_cons` and `Utf8.decodeFrom_inner`: such a byte is a
  character of its own, and no other bytes give that character.
* `Utf8.decodeUnits_lines`: the units of the lines are the lines of the units.
* `Decoding.mapM_decode_splitLines`: the lines of the bytes, decoded one by
  one, are the pieces of the decoded whole, and some line is refused exactly
  when the whole is.
* `Decoding.line?` reads one line and takes its end off.
-/

set_option autoImplicit false

namespace LineMachine

section Reading

variable {α β : Type} {f : α → Option β}

/-- Reading a list with `List.mapM` succeeds exactly when reading every element does. It is used
for lines as well as for the units of one line. -/
theorem isSome_mapM_iff (l : List α) :
    (l.mapM f).isSome = true ↔ ∀ x ∈ l, (f x).isSome = true := by
  induction l with
  | nil => simp
  | cons x xs ih =>
    rw [List.mapM_cons, List.forall_mem_cons, ← ih]
    cases f x <;> cases xs.mapM f <;> simp

/-- Reading a list gives what reading its elements gives. So a result of `List.mapM` can be
compared element by element, with `List.map` alone. -/
theorem mapM_eq_some_iff (l : List α) (l' : List β) :
    l.mapM f = some l' ↔ l.map f = l'.map some := by
  induction l generalizing l' with
  | nil => cases l' <;> simp
  | cons x xs ih =>
    rw [List.mapM_cons]
    cases l' with
    | nil => cases f x <;> cases xs.mapM f <;> simp
    | cons y ys =>
      rw [List.map_cons, List.map_cons, List.cons.injEq, ← ih]
      cases f x <;> cases xs.mapM f <;> simp

end Reading

namespace Text.Utf8

/-- What the bytes read so far can announce. A byte that fits is at least 0x80.
Some bit above the last six is set by then, so the character is no ASCII
one. -/
def Progress.Sound : Progress → Prop
  | .start => True
  | .within more low high value =>
    0x80 ≤ low.toNat ∧ high.toNat ≤ 0xBF ∧ 1 ≤ value * 64 + low.toNat % 64 ∧
      (more = 0 → 1 ≤ value)

/-- The unit of a line feed. -/
def isNewlineUnit (unit : Option Char) : Bool := unit = some '\n'

/-- A byte that is a character of its own wherever it stands. All of ASCII is, and the first
half of it is enough for line ends. -/
def IsSign (b : UInt8) : Prop := 0 < b.toNat ∧ b.toNat < 64

/-- A line feed is a sign in the sense of `IsSign`, so all that follows about signs holds of line
ends. -/
theorem isSign_lineFeed : IsSign lineFeed := ⟨by decide, by decide⟩

/-- Only its own number gives the character of a sign. Numbers of no character all give the one
with number zero, which is why `IsSign` leaves zero out. -/
theorem eq_of_ofNat_eq {sign : UInt8} (hsign : IsSign sign) {n : Nat}
    (h : Char.ofNat n = Char.ofNat sign.toNat) : n = sign.toNat := by
  have hvalid : sign.toNat.isValidChar := .inl (by have := hsign.2; omega)
  have hnumber : (Char.ofNat n).toNat = sign.toNat := by
    rw [h, Char.ofNat, dif_pos hvalid]
    rfl
  by_cases hn : n.isValidChar
  · rw [Char.ofNat, dif_pos hn] at hnumber
    exact hnumber
  · -- Any number without a character gives the first one of all, which is no sign.
    rw [Char.ofNat, dif_neg hn] at hnumber
    exact absurd hnumber (Nat.ne_of_lt hsign.1)

/-- What the first byte of a character does: it is a character by itself, or none begins with it,
or it announces more bytes, and then `Progress.Sound` holds. Each branch of `Progress.begin` that
announces more bytes knows from which number on the byte is. -/
theorem begin_cases (b : UInt8) :
    Progress.begin b = ([some (Char.ofNat b.toNat)], .start) ∨
      Progress.begin b = ([none], .start) ∨
      ∃ more low high value, Progress.begin b = ([], .within more low high value) ∧
        (Progress.within more low high value).Sound := by
  -- The branches are taken apart in an equation, where the reader stands only once.
  generalize hbegin : Progress.begin b = found
  unfold Progress.begin at hbegin
  split at hbegin
  · exact .inl hbegin.symm
  split at hbegin
  · exact .inr (.inl hbegin.symm)
  split at hbegin
  · -- Two bytes, the first one from 0xC2 on, so it brings at least the bit 2.
    rename_i htwo _
    simp only [UInt8.lt_iff_toNat_lt, UInt8.reduceToNat, Nat.not_lt] at htwo
    refine .inr (.inr ⟨_, _, _, _, hbegin.symm, ?_⟩)
    simp only [Progress.Sound, UInt8.reduceToNat]
    omega
  split at hbegin
  · exact .inr (.inr ⟨_, _, _, _, hbegin.symm, by simp [Progress.Sound]⟩)
  split at hbegin
  · exact .inr (.inr ⟨_, _, _, _, hbegin.symm, by simp [Progress.Sound]⟩)
  split at hbegin
  · -- Three bytes. Behind 0xE0 the next byte is large enough by itself, and all
    -- other first bytes bring a bit.
    rename_i _ hthree hne _ _
    simp only [UInt8.lt_iff_toNat_lt, ← UInt8.toNat_inj, UInt8.reduceToNat, Nat.not_lt]
      at hthree hne
    refine .inr (.inr ⟨_, _, _, _, hbegin.symm, ?_⟩)
    simp only [Progress.Sound, UInt8.reduceToNat]
    omega
  split at hbegin
  · exact .inr (.inr ⟨_, _, _, _, hbegin.symm, by simp [Progress.Sound]⟩)
  split at hbegin
  · -- Four bytes, in the same way.
    rename_i _ _ hfour hne _
    simp only [UInt8.lt_iff_toNat_lt, ← UInt8.toNat_inj, UInt8.reduceToNat, Nat.not_lt]
      at hfour hne
    refine .inr (.inr ⟨_, _, _, _, hbegin.symm, ?_⟩)
    simp only [Progress.Sound, UInt8.reduceToNat]
    omega
  split at hbegin
  · exact .inr (.inr ⟨_, _, _, _, hbegin.symm, by simp [Progress.Sound]⟩)
  · exact .inr (.inl hbegin.symm)

/-- Behind the first byte of a character the reader is sound, by `begin_cases`. A byte that
interrupts another character is a first byte too. -/
theorem sound_begin (b : UInt8) : (Progress.begin b).2.Sound := by
  rcases begin_cases b with h | h | ⟨_, _, _, _, h, hsound⟩
  · rw [h]
    trivial
  · rw [h]
    trivial
  · rw [h]
    exact hsound

/-- Every byte keeps the reader sound. Inside of a character the value that is read grows, so the
bits which `Progress.Sound` asks for stay set. -/
theorem sound_feed {p : Progress} (hp : p.Sound) (b : UInt8) : (p.feed b).2.Sound := by
  cases p with
  | start => exact sound_begin b
  | within more low high value =>
    obtain ⟨hlow, hhigh, hvalue, -⟩ := hp
    unfold Progress.feed
    simp only
    split
    · rename_i hfits
      have hb : low.toNat ≤ b.toNat := UInt8.le_iff_toNat_le.mp hfits.1
      have hb' : b.toNat ≤ high.toNat := UInt8.le_iff_toNat_le.mp hfits.2
      cases more with
      | zero => trivial
      | succ more =>
        simp only [Progress.Sound, UInt8.reduceToNat]
        omega
    · exact sound_begin b

/-- A sign is complete in itself, and ends what it interrupts. What `Progress.finish` gives out
for the interrupted part is the same as at the end of the bytes. -/
theorem feed_of_isSign {p : Progress} (hp : p.Sound) {sign : UInt8} (hsign : IsSign sign) :
    p.feed sign = (p.finish ++ [some (Char.ofNat sign.toNat)], .start) := by
  have hbegin : Progress.begin sign = ([some (Char.ofNat sign.toNat)], .start) := by
    have hlow : sign < 0x80 := UInt8.lt_iff_toNat_lt.mpr (Nat.lt_trans hsign.2 (by decide))
    rw [Progress.begin, if_pos hlow]
  cases p with
  | start => exact hbegin
  | within more low high value =>
    -- A byte that goes on with a character is at least 0x80.
    have hnot : ¬ (low ≤ sign ∧ sign ≤ high) := by
      rw [UInt8.le_iff_toNat_le]
      intro hfits
      have := hsign.2
      have := hp.1
      omega
    rw [Progress.feed, if_neg hnot, hbegin]
    rfl

/-- The first byte of a character gives out no sign unless it is one. By `begin_cases` it gives
out its own character or nothing that could be one. -/
theorem begin_other {b sign : UInt8} (hsign : IsSign sign) (hb : b ≠ sign) :
    some (Char.ofNat sign.toNat) ∉ (Progress.begin b).1 := by
  rcases begin_cases b with h | h | ⟨_, _, _, _, h, -⟩
  · rw [h, List.mem_singleton, Option.some.injEq]
    exact fun h => hb (UInt8.toNat_inj.mp (eq_of_ofNat_eq hsign h.symm))
  · rw [h]
    simp
  · rw [h]
    simp

/-- No other byte gives out a sign. If it completes a character of several bytes, `Progress.Sound`
keeps the number of this character above those of all signs. -/
theorem feed_other {p : Progress} (hp : p.Sound) {b sign : UInt8} (hsign : IsSign sign)
    (hb : b ≠ sign) : some (Char.ofNat sign.toNat) ∉ (p.feed b).1 := by
  cases p with
  | start => exact begin_other hsign hb
  | within more low high value =>
    obtain ⟨-, -, -, hvalue⟩ := hp
    unfold Progress.feed
    simp only
    split
    · cases more with
      | zero =>
        -- The last byte of a character: its number is at least 64.
        rw [List.mem_singleton, Option.some.injEq]
        intro h
        have := eq_of_ofNat_eq hsign h.symm
        have := hvalue rfl
        have := hsign.2
        omega
      | succ more => simp
    · simpa using begin_other hsign hb

/-- A byte gives something out or announces something, in any state of the reader. So the reader
is never back at `Progress.start` with nothing to show for the byte. -/
theorem feed_ne_nil (p : Progress) (b : UInt8) (h : (p.feed b).2 = .start) : (p.feed b).1 ≠ [] := by
  have hbegin : (Progress.begin b).2 = .start → (Progress.begin b).1 ≠ [] := by
    rcases begin_cases b with h | h | ⟨_, _, _, _, h, -⟩
    all_goals simp [h]
  cases p with
  | start => exact hbegin h
  | within more low high value =>
    unfold Progress.feed at h ⊢
    simp only at h ⊢
    split
    · cases more with
      | zero => simp
      | succ more =>
        rename_i hfits
        rw [if_pos hfits] at h
        cases h
    · simp

/-! ### Lines of units -/

/-- A sign parts the units before it from those behind it: what stands before ends at the sign as
it would end with the bytes, and `decodeUnits` begins anew behind it. -/
theorem decodeFrom_append_cons {p : Progress} (hp : p.Sound) {sign : UInt8} (hsign : IsSign sign)
    (bs rest : List UInt8) :
    decodeFrom p (bs ++ sign :: rest) =
      decodeFrom p bs ++ some (Char.ofNat sign.toNat) :: decodeUnits rest := by
  induction bs generalizing p with
  | nil => simp [decodeFrom, feed_of_isSign hp hsign, decodeUnits]
  | cons b bs ih =>
    simp only [List.cons_append, decodeFrom, List.append_assoc]
    rw [ih (sound_feed hp b)]

/-- Bytes without a sign do not give it, by `feed_other` for each of them. The end of the bytes
gives out no character at all. -/
theorem decodeFrom_inner {p : Progress} (hp : p.Sound) {sign : UInt8} (hsign : IsSign sign)
    {bs : List UInt8} (hbs : sign ∉ bs) : some (Char.ofNat sign.toNat) ∉ decodeFrom p bs := by
  induction bs generalizing p with
  | nil => cases p <;> simp [decodeFrom, Progress.finish]
  | cons b bs ih =>
    rw [List.mem_cons, not_or] at hbs
    obtain ⟨hb, hrest⟩ := hbs
    rw [decodeFrom, List.mem_append, not_or]
    exact ⟨feed_other hp hsign (Ne.symm hb), ih (sound_feed hp b) hrest⟩

/-- A line gives no line feed before its end. It is `decodeFrom_inner` in the words that `Cut`
uses for bytes and for units. -/
theorem decodeUnits_inner {bs : List UInt8} (hbs : ∀ b ∈ bs, isLineFeed b = false) :
    ∀ unit ∈ decodeUnits bs, isNewlineUnit unit = false := by
  have hnot : lineFeed ∉ bs := isLineFeed_eq_false_iff.mp hbs
  intro unit hunit
  refine decide_eq_false fun hnewline => ?_
  exact decodeFrom_inner (p := .start) trivial isSign_lineFeed hnot (hnewline ▸ hunit)

/-- No bytes are lost without a trace: where there are any, or where a character was begun,
`decodeFrom` gives out some unit. So no line becomes an empty piece. -/
theorem decodeFrom_ne_nil (p : Progress) (bs : List UInt8) (h : p = .start → bs ≠ []) :
    decodeFrom p bs ≠ [] := by
  induction bs generalizing p with
  | nil =>
    cases p with
    | start => exact absurd rfl (h rfl)
    | within more low high value => simp [decodeFrom, Progress.finish]
  | cons b bs ih =>
    rw [decodeFrom]
    intro hnil
    obtain ⟨hfirst, hrest⟩ := List.append_eq_nil_iff.mp hnil
    refine ih (p.feed b).2 (fun hstart => ?_) hrest
    exact absurd hfirst (feed_ne_nil p b hstart)

/-- The units of the lines of some bytes are lines of units, and together they are the units of
all bytes. The induction is on the `Cut` of the bytes, and its last piece may lack a line feed. -/
theorem cut_map_decodeUnits {lines : List (List UInt8)} (h : Cut isLineFeed lines) :
    Cut isNewlineUnit (lines.map decodeUnits) ∧
      decodeUnits lines.flatten = (lines.map decodeUnits).flatten := by
  induction h with
  | nil => exact ⟨.nil, rfl⟩
  | last bs nonempty inner =>
    refine ⟨.last _ (decodeFrom_ne_nil _ bs fun _ => nonempty) (decodeUnits_inner inner), ?_⟩
    simp
  | piece bs b rest inner ends more ih =>
    have hb : b = lineFeed := by simpa [isLineFeed] using ends
    subst hb
    obtain ⟨hcut, hflatten⟩ := ih
    have hline (rest : List UInt8) :
        decodeUnits (bs ++ lineFeed :: rest) = decodeUnits bs ++ some '\n' :: decodeUnits rest :=
      decodeFrom_append_cons (p := .start) trivial isSign_lineFeed bs rest
    constructor
    · rw [List.map_cons, hline]
      exact .piece _ _ _ (decodeUnits_inner inner) rfl hcut
    · rw [List.flatten_cons, List.append_assoc, List.singleton_append, hline, hflatten,
        List.map_cons, hline]
      simp [decodeUnits, decodeFrom, Progress.finish]

/-- The units of the lines are the lines of the units. They look like a cut by
`cut_map_decodeUnits`, and `cutBehind_flatten` says that there is only one. -/
theorem decodeUnits_lines (bytes : List UInt8) :
    cutBehind isNewlineUnit (decodeUnits bytes) = (splitLines bytes).map decodeUnits := by
  obtain ⟨hcut, hflatten⟩ := cut_map_decodeUnits (cut_cutBehind isLineFeed bytes)
  rw [flatten_cutBehind] at hflatten
  rw [hflatten, splitLines_eq]
  exact cutBehind_flatten hcut

/-! ### Lines of text -/

/-- Strict reading gives a text exactly when every unit is a character, and then the text has
these characters. All that follows about `decode?` is said of `decodeUnits` first. -/
theorem decode?_eq_some_iff (bytes : List UInt8) (text : String) :
    decode? bytes = some text ↔ decodeUnits bytes = text.toList.map some := by
  rw [decode?, Option.map_eq_some_iff]
  constructor
  · rintro ⟨cs, hcs, rfl⟩
    rw [mapM_eq_some_iff, List.map_id] at hcs
    rw [String.toList_ofList]
    exact hcs
  · intro h
    refine ⟨text.toList, ?_, String.ofList_toList⟩
    rw [mapM_eq_some_iff, List.map_id]
    exact h

/-- Strict reading succeeds exactly when every unit of `decodeUnits` is a character, whatever the
text is. -/
theorem isSome_decode?_iff (bytes : List UInt8) :
    (decode? bytes).isSome = true ↔ ∀ unit ∈ decodeUnits bytes, unit.isSome = true := by
  rw [decode?, Option.isSome_map, isSome_mapM_iff]
  rfl

/-- Strict reading refuses some line exactly when it refuses the whole. The units of the whole are
those of the lines by `decodeUnits_lines`, so a fault of either is one of both. -/
theorem isSome_decode?_splitLines (bytes : List UInt8) :
    (decode? bytes).isSome = true ↔ ∀ line ∈ splitLines bytes, (decode? line).isSome = true := by
  rw [isSome_decode?_iff, ← flatten_cutBehind isNewlineUnit (decodeUnits bytes), decodeUnits_lines]
  simp only [isSome_decode?_iff, List.mem_flatten, List.mem_map]
  constructor
  · intro h line hline unit hunit
    exact h unit ⟨_, ⟨line, hline, rfl⟩, hunit⟩
  · rintro h unit ⟨_, ⟨line, hline, rfl⟩, hunit⟩
    exact h line hline unit hunit

/-- The lines, read strictly one by one, are the `pieces` of the whole, and some line is refused
exactly when the whole is. Where nothing is refused, units and characters are cut alike by
`cutBehind_map`. -/
theorem mapM_decode?_splitLines (bytes : List UInt8) :
    (splitLines bytes).mapM decode? = (decode? bytes).map pieces := by
  cases hwhole : decode? bytes with
  | some text =>
    rw [decode?_eq_some_iff] at hwhole
    -- All units are characters, so lines of units are lines of characters.
    have hunit : ∀ c, isNewlineUnit (some c) = isNewline c := by
      intro c
      simp [isNewlineUnit, isNewline]
    have hlines := decodeUnits_lines bytes
    rw [hwhole, cutBehind_map hunit] at hlines
    have hread : decode? = (fun units => (units.mapM id).map String.ofList) ∘ decodeUnits := rfl
    rw [Option.map_some, mapM_eq_some_iff, hread, ← List.map_map, ← hlines, pieces, List.map_map,
      List.map_map]
    refine List.map_congr_left fun cs _ => ?_
    have hcs : (cs.map some).mapM id = some cs := by
      rw [mapM_eq_some_iff, List.map_id]
    simp [hcs]
  | none =>
    rw [Option.map_none, ← Option.not_isSome_iff_eq_none, isSome_mapM_iff,
      ← isSome_decode?_splitLines, hwhole]
    simp

/-- The lines, read with replacements one by one, are the `pieces` of the whole. A replacement is
no line feed, so no piece ends at one. -/
theorem map_decodeLossy_splitLines (bytes : List UInt8) :
    (splitLines bytes).map decodeLossy = pieces (decodeLossy bytes) := by
  have hreplace : ∀ unit : Option Char,
      isNewline (unit.getD '\uFFFD') = isNewlineUnit unit := by
    intro unit
    cases unit <;> simp [isNewline, isNewlineUnit]
  rw [pieces, decodeLossy, String.toList_ofList, cutBehind_map hreplace, decodeUnits_lines,
    List.map_map, List.map_map]
  rfl

end Text.Utf8

namespace Decoding

open Text

/-- The character with the number of a byte. -/
def charOf (b : UInt8) : Char := Char.ofNat b.toNat

/-- Only its own byte gives the character of a sign, when each byte is a character as in
`Decoding.raw`. -/
theorem eq_of_charOf_eq {b sign : UInt8} (hsign : Utf8.IsSign sign) (h : charOf b = charOf sign) :
    b = sign :=
  UInt8.toNat_inj.mp (Utf8.eq_of_ofNat_eq hsign h)

/-- The character of a byte ends a line exactly if the byte does. With this `cutBehind_map` cuts
bytes and text alike where each byte is a character. -/
theorem isNewline_charOf (b : UInt8) : isNewline (charOf b) = isLineFeed b := by
  rw [Bool.eq_iff_iff, isNewline, isLineFeed, decide_eq_true_iff, decide_eq_true_iff]
  exact ⟨eq_of_charOf_eq Utf8.isSign_lineFeed, congrArg charOf⟩

/-- The lines, read byte by byte, are the `pieces` of the whole. It is the third of the three
decodings, in which nothing is refused or replaced. -/
theorem map_decode_raw_splitLines (bytes : List UInt8) :
    (splitLines bytes).map (fun line => String.ofList (line.map charOf)) =
      pieces (String.ofList (bytes.map charOf)) := by
  rw [pieces, String.toList_ofList, cutBehind_map isNewline_charOf, splitLines_eq, List.map_map]
  rfl

/-- The lines of the bytes, decoded one by one, are the `pieces` of the decoded whole, and some
line is refused exactly when the whole is. It is one of the three lemmas before, as the decoding
demands. -/
theorem mapM_decode_splitLines (d : Decoding) (bytes : List UInt8) :
    (splitLines bytes).mapM d.decode = (d.decode bytes).map pieces := by
  cases d with
  | utf8 => exact Utf8.mapM_decode?_splitLines bytes
  | utf8Lossy =>
    have h := Utf8.map_decodeLossy_splitLines bytes
    show (splitLines bytes).mapM (fun line => some (Utf8.decodeLossy line)) = _
    rw [show decode .utf8Lossy bytes = some (Utf8.decodeLossy bytes) from rfl, Option.map_some, ← h]
    exact List.mapM_pure
  | raw =>
    have h := map_decode_raw_splitLines bytes
    show (splitLines bytes).mapM (fun line => some (String.ofList (line.map charOf))) = _
    rw [show decode .raw bytes = some (String.ofList (bytes.map charOf)) from rfl,
      Option.map_some, ← h]
    exact List.mapM_pure

/-- Only strict reading refuses anything: in `Decoding.utf8Lossy` and `Decoding.raw` all bytes
have a text. -/
theorem isSome_decode {d : Decoding} (h : d ≠ .utf8) (bytes : List UInt8) :
    (d.decode bytes).isSome = true := by
  cases d with
  | utf8 => exact absurd rfl h
  | utf8Lossy => rfl
  | raw => rfl

/-- A line of bytes as text without its end, if it decodes. -/
def line? (d : Decoding) (bytes : List UInt8) : Option String :=
  (d.decode bytes).map stripTerminator

/-- Lines that decode have texts, which are the lines but for their ends. The texts are needed for
`Engine.Consumes`, and the lines without ends are what `Decoding.line?` tells. -/
theorem exists_texts {d : Decoding} {lines : List (List UInt8)} {stripped : List String}
    (h : lines.map d.line? = stripped.map some) :
    ∃ texts : List String, lines.map d.decode = texts.map some ∧
      texts.map stripTerminator = stripped := by
  induction lines generalizing stripped with
  | nil =>
    obtain rfl : stripped = [] := by simpa using h.symm
    exact ⟨[], rfl, rfl⟩
  | cons bytes rest ih =>
    obtain ⟨line, more, rfl, hline, hmore⟩ := List.map_eq_cons_iff.mp h.symm
    obtain ⟨text, htext, rfl⟩ := Option.map_eq_some_iff.mp hline.symm
    obtain ⟨texts, htexts, rfl⟩ := ih hmore.symm
    exact ⟨text :: texts, by rw [List.map_cons, htext, htexts, List.map_cons], rfl⟩

end Decoding

end LineMachine
