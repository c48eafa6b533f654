import LineMachine.Proofs.Text.DecodeLines

/-!
# `LineMachine.Proofs.Text.Layout`: lines and the ways they can end

A line ends in a line feed, or in a carriage return and a line feed, and the last line of an
input may have no end at all. The end is cut with the bytes of the line, decoded with them,
and taken off the text. What is left is the same in all cases.

* `Layout` is a list of lines with a choice of ends, and `Layout.bytes` an input that is laid
  out so. `Layout.splitLines_bytes`: it is cut into these lines again.
* `Decoding.decode_eq` reads a text as units of which each is a character, in all three
  decodings.
* `Decoding.decode_append_sign`, `Decoding.notMem_of_decode` and
  `Decoding.getLast?_of_decode`: a byte such as a line feed or a carriage return gives its own
  character behind whatever precedes it, and that character comes from no other bytes.
* `Layout.map_line?`: the lines with their ends read as the lines without them.
-/

set_option autoImplicit false

namespace LineMachine

namespace Text

/-- The byte that may stand in front of a line feed. -/
def carriageReturn : UInt8 := 0x0D

/-! ### Taking the end off -/

/-- A line feed is taken off alone, if no carriage return stands before it. With
`stripTerminator_push_push` this says what `stripTerminator` does behind any text. -/
theorem stripTerminator_push {text : String} (h : text.toList.getLast? ≠ some '\r') :
    stripTerminator (text.push '\n') = text := by
  have hreverse : (text.push '\n').toList.reverse = '\n' :: text.toList.reverse := by
    simp
  rw [stripTerminator, hreverse]
  split
  · -- Both would go if the text ended in a carriage return.
    rename_i rest hrest
    rw [List.cons.injEq] at hrest
    rw [← List.head?_reverse, hrest.2] at h
    exact absurd rfl h
  · rename_i rest _ hrest
    rw [List.cons.injEq] at hrest
    rw [← hrest.2, List.reverse_reverse, String.ofList_toList]
  · -- Nothing would go if there were no line feed.
    rename_i hother
    exact absurd rfl (hother _)

/-- A carriage return goes with the line feed behind it. Another one before that stays, since
`stripTerminator` takes one end off only. -/
theorem stripTerminator_push_push (text : String) :
    stripTerminator ((text.push '\r').push '\n') = text := by
  have hreverse :
      ((text.push '\r').push '\n').toList.reverse = '\n' :: '\r' :: text.toList.reverse := by
    simp
  rw [stripTerminator, hreverse]
  simp

end Text

namespace Text.Utf8

/-- A carriage return is a sign in the sense of `IsSign`, as a line feed is: no longer sequence of
UTF-8 has such a byte in it. -/
theorem isSign_carriageReturn : IsSign carriageReturn := ⟨by decide, by decide⟩

/-- Units end in a sign only if the bytes do. The induction goes along the bytes, down to the last
one, behind which nothing can stand. It starts from any `Progress` that is `Sound`, since the
bytes may begin inside of a sequence. -/
theorem getLast?_decodeFrom {p : Progress} (hp : p.Sound) {sign : UInt8} (hsign : IsSign sign)
    {bs : List UInt8} (hbs : bs.getLast? ≠ some sign) :
    (decodeFrom p bs).getLast? ≠ some (some (Char.ofNat sign.toNat)) := by
  induction bs generalizing p with
  | nil => cases p <;> simp [decodeFrom, Progress.finish]
  | cons b bs ih =>
    by_cases hrest : bs = []
    · -- The last byte may complete a character, but not a sign.
      subst hrest
      have hb : sign ∉ [b] := fun hmem => hbs (by rw [List.mem_singleton.mp hmem]; rfl)
      exact fun hlast => decodeFrom_inner hp hsign hb (List.mem_of_getLast? hlast)
    · rw [List.getLast?_cons_of_ne_nil hrest] at hbs
      rw [decodeFrom, List.getLast?_append_of_ne_nil _ (decodeFrom_ne_nil _ bs fun _ => hrest)]
      exact ih (sound_feed hp b) hbs

end Text.Utf8

namespace Decoding

open Text
open Text.Utf8 (IsSign)

/-! ### Units in all decodings -/

/-- What the bytes give, and `none` for each ill-formed run. -/
def units : Decoding → List UInt8 → List (Option Char)
  | .raw, bytes => bytes.map fun b => some (charOf b)
  | .utf8, bytes | .utf8Lossy, bytes => Utf8.decodeUnits bytes

/-- The character that stands for a unit, if there is one. -/
def readUnit : Decoding → Option Char → Option Char
  | .utf8Lossy, unit => some (unit.getD '\uFFFD')
  | .utf8, unit | .raw, unit => unit

/-- Decoding is reading all units: `Decoding.units` does not depend on what becomes of ill-formed
bytes, and `Decoding.readUnit` does. So the three decodings are treated as one. -/
theorem decode_eq (d : Decoding) (bytes : List UInt8) :
    d.decode bytes = ((d.units bytes).mapM d.readUnit).map String.ofList := by
  cases d with
  | utf8 => rfl
  | utf8Lossy =>
    have hread : (units .utf8Lossy bytes).mapM (readUnit .utf8Lossy) =
        some ((Utf8.decodeUnits bytes).map fun unit => unit.getD '\uFFFD') := by
      rw [mapM_eq_some_iff, List.map_map]
      rfl
    rw [hread]
    rfl
  | raw =>
    have hread : (units .raw bytes).mapM (readUnit .raw) = some (bytes.map charOf) := by
      rw [mapM_eq_some_iff, units, List.map_map, List.map_map]
      rfl
    rw [hread]
    rfl

/-- Bytes decode to a text exactly if their units are read as its characters, one by one. Facts
about single characters of the text become facts about `Decoding.units` by this. -/
theorem decode_eq_some_iff {d : Decoding} {bytes : List UInt8} {text : String} :
    d.decode bytes = some text ↔ (d.units bytes).map d.readUnit = text.toList.map some := by
  rw [decode_eq, Option.map_eq_some_iff, ← mapM_eq_some_iff]
  constructor
  · rintro ⟨cs, hcs, rfl⟩
    rw [hcs, String.toList_ofList]
  · intro h
    exact ⟨text.toList, h, String.ofList_toList⟩

variable {d : Decoding} {sign : UInt8} {bytes : List UInt8} {text : String}

/-- The character of a byte that stands for itself is read in every decoding, and read as itself.
Only a unit that is `none` makes a difference to `Decoding.readUnit`. -/
theorem readUnit_charOf (d : Decoding) (b : UInt8) :
    d.readUnit (some (charOf b)) = some (charOf b) := by
  cases d <;> rfl

/-- A unit that is read as a sign is one. A replacement is none, because the character that
`Decoding.readUnit` puts in place of ill-formed bytes is no sign. -/
theorem eq_of_readUnit (hsign : IsSign sign) {unit : Option Char}
    (h : d.readUnit unit = some (charOf sign)) : unit = some (charOf sign) := by
  cases d with
  | utf8 => exact h
  | raw => exact h
  | utf8Lossy =>
    cases unit with
    | some c => exact h
    | none =>
      -- U+FFFD stands for it, whose number is far above those of signs.
      have hnumber := Utf8.eq_of_ofNat_eq (n := 0xFFFD) hsign (Option.some.inj h)
      have := hsign.2
      omega

/-! ### Signs in all decodings -/

/-- A sign behind any bytes is one more unit, also if it breaks off a sequence that the bytes
began. In `Decoding.raw` every byte is a unit anyway. -/
theorem units_append_sign (d : Decoding) (hsign : IsSign sign) (bytes : List UInt8) :
    d.units (bytes ++ [sign]) = d.units bytes ++ [some (charOf sign)] := by
  cases d with
  | raw => simp [units]
  | utf8 => exact Utf8.decodeFrom_append_cons (p := .start) trivial hsign bytes []
  | utf8Lossy => exact Utf8.decodeFrom_append_cons (p := .start) trivial hsign bytes []

/-- No unit is a sign if no byte is it. In UTF-8 this rests on `isSign_lineFeed` and its like:
other sequences give other characters. -/
theorem notMem_units (hsign : IsSign sign) (hbytes : sign ∉ bytes) :
    some (charOf sign) ∉ d.units bytes := by
  cases d with
  | raw =>
    intro hmem
    obtain ⟨b, hb, hchar⟩ := List.mem_map.mp hmem
    rw [eq_of_charOf_eq hsign (Option.some.inj hchar)] at hb
    exact hbytes hb
  | utf8 => exact Utf8.decodeFrom_inner (p := .start) trivial hsign hbytes
  | utf8Lossy => exact Utf8.decodeFrom_inner (p := .start) trivial hsign hbytes

/-- The last of the units is a sign only if the last byte is, in all decodings. In UTF-8 this is
`getLast?_decodeFrom` from the beginning of a sequence. -/
theorem getLast?_units (hsign : IsSign sign) (hbytes : bytes.getLast? ≠ some sign) :
    (d.units bytes).getLast? ≠ some (some (charOf sign)) := by
  cases d with
  | raw =>
    intro hlast
    rw [units, List.getLast?_map, Option.map_eq_some_iff] at hlast
    obtain ⟨b, hb, hchar⟩ := hlast
    rw [eq_of_charOf_eq hsign (Option.some.inj hchar)] at hb
    exact hbytes hb
  | utf8 => exact Utf8.getLast?_decodeFrom (p := .start) trivial hsign hbytes
  | utf8Lossy => exact Utf8.getLast?_decodeFrom (p := .start) trivial hsign hbytes

/-- A sign behind any bytes gives its character behind their text. If the bytes do not decode,
they do not with the sign either, so `Option.map` covers both. -/
theorem decode_append_sign (d : Decoding) (hsign : IsSign sign) (bytes : List UInt8) :
    d.decode (bytes ++ [sign]) = (d.decode bytes).map fun text => text.push (charOf sign) := by
  rw [decode_eq, decode_eq, d.units_append_sign hsign, List.mapM_append, List.mapM_cons,
    d.readUnit_charOf, List.mapM_nil]
  cases (d.units bytes).mapM d.readUnit with
  | none => rfl
  | some cs => simp

/-- A text has a sign only if the bytes have it. For a line feed this says that decoding makes no
new lines, which `stripTerminator_of_decode` needs. -/
theorem notMem_of_decode (hsign : IsSign sign) (hbytes : sign ∉ bytes)
    (h : d.decode bytes = some text) : charOf sign ∉ text.toList := by
  intro hmem
  have hread : some (charOf sign) ∈ (d.units bytes).map d.readUnit := by
    rw [decode_eq_some_iff.mp h]
    exact List.mem_map_of_mem hmem
  obtain ⟨unit, hunit, heq⟩ := List.mem_map.mp hread
  rw [eq_of_readUnit hsign heq] at hunit
  exact notMem_units hsign hbytes hunit

/-- A text ends in a sign only if the bytes do. For a carriage return this says that
`stripTerminator` takes no more off the text than stands at the end of the bytes. -/
theorem getLast?_of_decode (hsign : IsSign sign) (hbytes : bytes.getLast? ≠ some sign)
    (h : d.decode bytes = some text) : text.toList.getLast? ≠ some (charOf sign) := by
  intro hlast
  have hread : ((d.units bytes).map d.readUnit).getLast? = some (some (charOf sign)) := by
    rw [decode_eq_some_iff.mp h, List.getLast?_map, hlast]
    rfl
  rw [List.getLast?_map, Option.map_eq_some_iff] at hread
  obtain ⟨unit, hunit, heq⟩ := hread
  rw [eq_of_readUnit hsign heq] at hunit
  exact getLast?_units hsign hbytes hunit

end Decoding

namespace Text

open Utf8 (isSign_lineFeed isSign_carriageReturn)

/-! ### Lines and their ends -/

/-- How a line ends. -/
inductive Terminator where
  /-- with a line feed alone -/
  | lf
  /-- with a carriage return before the line feed -/
  | crlf
deriving Repr, DecidableEq

/-- The bytes of the end. -/
def Terminator.bytes : Terminator → List UInt8
  | .lf => [lineFeed]
  | .crlf => [carriageReturn, lineFeed]

/-- Lines of bytes and how they end. -/
structure Layout where
  /-- the lines that have an end -/
  ended : List (List UInt8 × Terminator)
  /-- a last line without an end -/
  last : Option (List UInt8)
  /-- a line feed is never part of a line -/
  inner : ∀ line ∈ ended.map Prod.fst ++ last.toList, lineFeed ∉ line
  /-- a carriage return may be, but not as the last byte -/
  unended : ∀ line ∈ ended.map Prod.fst ++ last.toList, line.getLast? ≠ some carriageReturn
  /-- without an end and without a byte there would be no line -/
  nonempty : last ≠ some []

namespace Layout

/-- The lines without their ends. -/
def lines (l : Layout) : List (List UInt8) := l.ended.map Prod.fst ++ l.last.toList

/-- The lines with their ends. -/
def rawLines (l : Layout) : List (List UInt8) :=
  l.ended.map (fun line => line.1 ++ line.2.bytes) ++ l.last.toList

/-- The bytes of all lines. -/
def bytes (l : Layout) : List UInt8 := l.rawLines.flatten

/-- Lines with their ends are as a cut leaves them, in the sense of `Cut`. The induction is on the
lines that have an end, and the one without an end comes last. -/
theorem cut_append_terminators {ended : List (List UInt8 × Terminator)} {last : Option (List UInt8)}
    (inner : ∀ line ∈ ended.map Prod.fst ++ last.toList, lineFeed ∉ line)
    (nonempty : last ≠ some []) :
    Cut isLineFeed (ended.map (fun line => line.1 ++ line.2.bytes) ++ last.toList) := by
  induction ended with
  | nil =>
    cases last with
    | none => exact .nil
    | some line =>
      exact .last line (fun h => nonempty (congrArg some h))
        (isLineFeed_eq_false_iff.mpr (inner line (by simp)))
  | cons line ended ih =>
    obtain ⟨line, terminator⟩ := line
    have hline : lineFeed ∉ line := inner line (by simp)
    have hrest := ih fun other hother => inner other (List.mem_cons_of_mem line hother)
    cases terminator with
    | lf => exact .piece line lineFeed _ (isLineFeed_eq_false_iff.mpr hline) rfl hrest
    | crlf =>
      -- Only the line feed parts lines, so the carriage return is in the piece before it.
      have hreturn : lineFeed ∉ line ++ [carriageReturn] := by
        simpa [carriageReturn, lineFeed] using hline
      have hpiece := Cut.piece _ lineFeed _ (isLineFeed_eq_false_iff.mpr hreturn) rfl hrest
      rw [List.append_assoc] at hpiece
      exact hpiece

/-- An input that is laid out in lines is cut into these lines. By `cutBehind_flatten` it is
enough that they look like a cut, which is `cut_append_terminators`. -/
theorem splitLines_bytes (l : Layout) : splitLines l.bytes = l.rawLines := by
  rw [splitLines_eq]
  exact cutBehind_flatten (cut_append_terminators l.inner l.nonempty)

end Layout

end Text

namespace Decoding

open Text

/-- A line reads the same with an end behind it, whichever `Terminator` this is. A carriage return
at the end of the line itself is excluded, since a line feed would take it along. -/
theorem line?_append_terminator (d : Decoding) {bytes : List UInt8}
    (h : bytes.getLast? ≠ some carriageReturn) (terminator : Terminator) :
    d.line? (bytes ++ terminator.bytes) = d.decode bytes := by
  cases terminator with
  | lf =>
    rw [line?, Terminator.bytes, d.decode_append_sign Utf8.isSign_lineFeed, Option.map_map]
    cases hdecode : d.decode bytes with
    | none => rfl
    | some text =>
      -- The text must not end in a carriage return, which would go as well.
      have hlast := getLast?_of_decode Utf8.isSign_carriageReturn h hdecode
      exact congrArg some (stripTerminator_push hlast)
  | crlf =>
    have hbytes : bytes ++ Terminator.crlf.bytes = (bytes ++ [carriageReturn]) ++ [lineFeed] := by
      rw [List.append_assoc]
      rfl
    rw [line?, hbytes, d.decode_append_sign Utf8.isSign_lineFeed,
      d.decode_append_sign Utf8.isSign_carriageReturn, Option.map_map, Option.map_map]
    cases d.decode bytes with
    | none => rfl
    | some text => exact congrArg some (stripTerminator_push_push text)

/-- The text of a line without a line feed has no end to lose: by `notMem_of_decode` it has no
line feed either, and `stripTerminator` leaves it alone. -/
theorem stripTerminator_of_decode {d : Decoding} {bytes : List UInt8} {text : String}
    (hbytes : lineFeed ∉ bytes) (h : d.decode bytes = some text) : stripTerminator text = text :=
  stripTerminator_of_notMem (notMem_of_decode Utf8.isSign_lineFeed hbytes h)

/-- A line without a line feed reads as all that it decodes to. It is `stripTerminator_of_decode`
for lines that may not decode. -/
theorem line?_eq_decode (d : Decoding) {bytes : List UInt8} (hbytes : lineFeed ∉ bytes) :
    d.line? bytes = d.decode bytes := by
  rw [line?]
  cases hdecode : d.decode bytes with
  | none => rfl
  | some text => exact congrArg some (stripTerminator_of_decode hbytes hdecode)

end Decoding

/-- The lines with their ends read as the lines without them. Those of `Layout.ended` lose their
ends by `line?_append_terminator`, and the last one has none. -/
theorem Text.Layout.map_line? (l : Text.Layout) (d : Decoding) :
    l.rawLines.map d.line? = l.lines.map d.line? := by
  have hdecode : l.lines.map d.line? = l.lines.map d.decode :=
    List.map_congr_left fun line hline => d.line?_eq_decode (l.inner line hline)
  rw [hdecode, rawLines, lines, List.map_append, List.map_append, List.map_map, List.map_map]
  congr 1
  · refine List.map_congr_left fun line hline => ?_
    have hmem : line.1 ∈ l.ended.map Prod.fst ++ l.last.toList :=
      List.mem_append_left _ (List.mem_map_of_mem hline)
    exact d.line?_append_terminator (l.unended line.1 hmem) line.2
  · refine List.map_congr_left fun line hline => ?_
    exact d.line?_eq_decode (l.inner line (List.mem_append_right _ hline))

end LineMachine
