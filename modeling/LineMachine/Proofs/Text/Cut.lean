import LineMachine.Text.Lines
import Mathlib.Data.List.Basic

/-!
# `LineMachine.Proofs.Text.Cut`: cutting behind every separator

Bytes are cut into lines before they are decoded, and text may be cut into
lines afterwards. Both are `cutBehind`, on different elements.

* `Cut` says how pieces look that such a cut leaves: none is empty, a separator
  stands at the end of every piece but maybe the last, and nowhere else.
* `cut_cutBehind` and `flatten_cutBehind`: the pieces look so, and put together
  they are the list.
* `cutBehind_flatten`: no other pieces look so and give the list.
* `cutBehind_append` and `cutBehind_map`: a cut begins anew behind a separator, and
  cutting commutes with a map that keeps separators apart from the rest.
* `completeLines_append` and `Source.exists_lines_eq`: the complete lines of an input
  are its first ones, and what follows them does not matter to them.
* `stripTerminator_stripTerminator` and `notMem_stripTerminator`: one line end
  is all that a piece of a text has.
-/

set_option autoImplicit false

namespace LineMachine.Text

variable {α β : Type}

/-- The list cut behind every element of `p`. The last piece may lack one. -/
def cutBehind (p : α → Bool) : List α → List (List α)
  | [] => []
  | x :: xs =>
    if p x then [x] :: cutBehind p xs
    else
      match cutBehind p xs with
      | [] => [[x]]
      | piece :: pieces => (x :: piece) :: pieces

/-- Pieces as a cut behind every element of `p` leaves them. -/
inductive Cut (p : α → Bool) : List (List α) → Prop where
  /-- nothing is left of an empty list -/
  | nil : Cut p []
  /-- a last piece without a separator -/
  | last (xs : List α) (nonempty : xs ≠ []) (inner : ∀ x ∈ xs, p x = false) : Cut p [xs]
  /-- a piece that ends in a separator -/
  | piece (xs : List α) (x : α) (rest : List (List α)) (inner : ∀ y ∈ xs, p y = false)
      (ends : p x = true) (more : Cut p rest) : Cut p ((xs ++ [x]) :: rest)

variable {p : α → Bool} {q : β → Bool}

/-- Put together, the pieces of `cutBehind` are the list again: a cut loses nothing and adds
nothing, and it keeps the order. -/
theorem flatten_cutBehind (p : α → Bool) (l : List α) : (cutBehind p l).flatten = l := by
  induction l with
  | nil => rfl
  | cons x xs ih =>
    rw [cutBehind]
    split
    · rw [List.flatten_cons, ih]
      rfl
    · split
      · rename_i hnil
        rw [hnil] at ih
        rw [← ih]
        rfl
      · rename_i piece pieces hcons
        rw [hcons] at ih
        rw [← ih]
        rfl

/-- A separator ends the first piece of `cutBehind`, and the cut goes on behind it. It is the
equation by which lists with a separator are cut, as `cutBehind_of_inner` is for the others. -/
theorem cutBehind_append_cons {xs : List α} {x : α} (rest : List α)
    (inner : ∀ y ∈ xs, p y = false) (ends : p x = true) :
    cutBehind p (xs ++ x :: rest) = (xs ++ [x]) :: cutBehind p rest := by
  induction xs with
  | nil => simp [cutBehind, ends]
  | cons y ys ih =>
    have hy : p y = false := inner y List.mem_cons_self
    rw [List.cons_append, cutBehind, ih fun z hz => inner z (List.mem_cons_of_mem y hz)]
    simp [hy]

/-- Without a separator `cutBehind` makes one piece of the list. The empty list is left out, of
which it makes none. -/
theorem cutBehind_of_inner {xs : List α} (nonempty : xs ≠ []) (inner : ∀ x ∈ xs, p x = false) :
    cutBehind p xs = [xs] := by
  induction xs with
  | nil => exact absurd rfl nonempty
  | cons y ys ih =>
    have hy : p y = false := inner y List.mem_cons_self
    cases ys with
    | nil => simp [cutBehind, hy]
    | cons z zs =>
      rw [cutBehind, ih (by simp) fun w hw => inner w (List.mem_cons_of_mem y hw)]
      simp [hy]

/-- Behind a separator a cut begins anew, so what precedes it and what follows can be cut apart.
The induction is on the list before, and its last element is the separator. -/
theorem cutBehind_append {l : List α} (h : ∀ x ∈ l.getLast?, p x = true) (rest : List α) :
    cutBehind p (l ++ rest) = cutBehind p l ++ cutBehind p rest := by
  induction l with
  | nil => rfl
  | cons x xs ih =>
    have hxs : ∀ y ∈ xs.getLast?, p y = true := by
      cases xs with
      | nil => simp
      | cons y ys => simpa using h
    rw [List.cons_append, cutBehind, cutBehind, ih hxs]
    cases hx : p x with
    | true => rfl
    | false =>
      cases hpieces : cutBehind p xs with
      | cons piece pieces => rfl
      | nil =>
        -- Then `x` is the last element, and it is a separator.
        have hnil : xs = [] := by
          rw [← flatten_cutBehind p xs, hpieces]
          rfl
        subst hnil
        have hlast : p x = true := h x (by simp)
        rw [hx] at hlast
        cases hlast

/-- Pieces that look like a cut are the cut of what they give together. With `cut_cutBehind` this
makes `Cut` a complete description of what `cutBehind` does. -/
theorem cutBehind_flatten {pieces : List (List α)} (h : Cut p pieces) :
    cutBehind p pieces.flatten = pieces := by
  induction h with
  | nil => rfl
  | last xs nonempty inner =>
    rw [List.flatten_singleton]
    exact cutBehind_of_inner nonempty inner
  | piece xs x rest inner ends _ ih =>
    rw [List.flatten_cons, List.append_assoc, List.singleton_append,
      cutBehind_append_cons _ inner ends, ih]

/-- The pieces of `cutBehind` look like a cut: none is empty, and separators stand at the end of
all but maybe the last one, and nowhere else. -/
theorem cut_cutBehind (p : α → Bool) (l : List α) : Cut p (cutBehind p l) := by
  induction l with
  | nil => exact .nil
  | cons x xs ih =>
    rw [cutBehind]
    split
    · rename_i hx
      exact .piece [] x _ (by simp) hx ih
    · rename_i hx
      have hx : p x = false := by simpa using hx
      cases hpieces : cutBehind p xs with
      | nil => exact .last [x] (by simp) (by simpa using hx)
      | cons piece pieces =>
        -- The element joins the first piece, which ends as it did.
        rw [hpieces] at ih
        cases ih with
        | last _ _ inner => exact .last (x :: piece) (by simp) (by simpa [hx] using inner)
        | piece ys y _ inner ends more =>
          exact .piece (x :: ys) y pieces (by simpa [hx] using inner) ends more

/-- A piece of a `Cut` has one separator, at its end, or none. It is used where pieces are looked
at one by one, without those beside them. -/
theorem Cut.inner_or_ends {pieces : List (List α)} (h : Cut p pieces) {l : List α}
    (hl : l ∈ pieces) :
    (∀ x ∈ l, p x = false) ∨
      ∃ xs x, l = xs ++ [x] ∧ (∀ y ∈ xs, p y = false) ∧ p x = true := by
  induction h with
  | nil => simp at hl
  | last xs _ inner =>
    rw [List.mem_singleton.mp hl]
    exact .inl inner
  | piece xs x rest inner ends _ ih =>
    rcases List.mem_cons.mp hl with rfl | hrest
    · exact .inr ⟨xs, x, rfl, inner, ends⟩
    · exact ih hrest

/-- A map that keeps separators apart from the rest keeps the look of a `Cut`. Bytes and
characters are compared by it, where a line feed is the separator of both. -/
theorem Cut.map {f : α → β} (hf : ∀ x, q (f x) = p x) {pieces : List (List α)}
    (h : Cut p pieces) : Cut q (pieces.map (List.map f)) := by
  induction h with
  | nil => exact .nil
  | last xs nonempty inner =>
    exact .last (xs.map f) (by simpa using nonempty) (by simpa [hf] using inner)
  | piece xs x rest inner ends _ ih =>
    rw [List.map_cons, List.map_append]
    exact .piece (xs.map f) (f x) _ (by simpa [hf] using inner) (by simpa [hf] using ends) ih

/-- Cutting commutes with a map that keeps separators apart from the rest. Both sides are cuts of
the same list by `Cut.map`, so they are equal by `cutBehind_flatten`. -/
theorem cutBehind_map {f : α → β} (hf : ∀ x, q (f x) = p x) (l : List α) :
    cutBehind q (l.map f) = (cutBehind p l).map (List.map f) := by
  rw [← cutBehind_flatten ((cut_cutBehind p l).map hf), ← List.map_flatten, flatten_cutBehind]

/-! ### Lines of bytes and of text -/

/-- Whether a byte ends a line. -/
def isLineFeed (b : UInt8) : Bool := b = lineFeed

/-- No byte is a separator for `isLineFeed` exactly if there is no line feed. `Cut` says it in the
first way, and statements about lines say it in the second. -/
theorem isLineFeed_eq_false_iff {bytes : List UInt8} :
    (∀ b ∈ bytes, isLineFeed b = false) ↔ lineFeed ∉ bytes := by
  constructor
  · exact fun h hmem => by simpa [isLineFeed] using h _ hmem
  · exact fun h b hb => decide_eq_false fun heq => h (heq ▸ hb)

/-- The lines of bytes are such a cut: `splitLines` is `cutBehind` with the line feed as
separator, and all that is known of it comes from there. -/
theorem splitLines_eq (bytes : List UInt8) : splitLines bytes = cutBehind isLineFeed bytes := by
  induction bytes with
  | nil => rfl
  | cons b bs ih =>
    simp only [splitLines, cutBehind, isLineFeed, decide_eq_true_eq, ih]
    split
    · rfl
    · cases cutBehind isLineFeed bs <;> rfl

/-- A line feed ends the first line of `splitLines`, and belongs to it. What follows is cut into
lines on its own. -/
theorem splitLines_append_cons {line : List UInt8} (h : lineFeed ∉ line) (rest : List UInt8) :
    splitLines (line ++ lineFeed :: rest) = (line ++ [lineFeed]) :: splitLines rest := by
  rw [splitLines_eq, splitLines_eq,
    cutBehind_append_cons rest (isLineFeed_eq_false_iff.mpr h) rfl]

/-- A line with its line feed is the first of `completeLines`, whatever follows it. Inductions
along an input use this beside `splitLines_append_cons`. -/
theorem completeLines_append_cons {line : List UInt8} (h : lineFeed ∉ line) (rest : List UInt8) :
    completeLines (line ++ lineFeed :: rest) = (line ++ [lineFeed]) :: completeLines rest := by
  rw [completeLines, splitLines_append_cons h, List.filter_cons_of_pos (by simp), completeLines]

/-- Behind a line feed `splitLines` begins anew. The bytes before may also be empty, as the
hypothesis asks for a last byte only if there is one. -/
theorem splitLines_append {bytes : List UInt8} (h : ∀ b ∈ bytes.getLast?, b = lineFeed)
    (rest : List UInt8) : splitLines (bytes ++ rest) = splitLines bytes ++ splitLines rest := by
  rw [splitLines_eq, splitLines_eq, splitLines_eq, cutBehind_append]
  intro b hb
  simp [isLineFeed, h b hb]

/-- Without a line feed there is no complete line: the only line of `splitLines`, if there is any,
lacks its end. -/
theorem completeLines_of_notMem {bytes : List UInt8} (h : lineFeed ∉ bytes) :
    completeLines bytes = [] := by
  rw [completeLines, List.filter_eq_nil_iff]
  intro line hline hlast
  rw [splitLines_eq] at hline
  refine h ?_
  rw [← flatten_cutBehind isLineFeed bytes]
  exact List.mem_flatten.mpr ⟨line, hline, List.mem_of_getLast? (of_decide_eq_true hlast)⟩

/-- What stands behind the last line feed is no complete line, so `completeLines` are those of the
bytes before it. This is why an input that fails loses what it broke off in. -/
theorem completeLines_append {bytes rest : List UInt8} (h : ∀ b ∈ bytes.getLast?, b = lineFeed)
    (hrest : lineFeed ∉ rest) : completeLines (bytes ++ rest) = completeLines bytes := by
  rw [completeLines, splitLines_append h, List.filter_append, ← completeLines, ← completeLines,
    completeLines_of_notMem hrest, List.append_nil]

/-- An input begins with its first lines, if these are complete. Then `Source.lines` has them in
front even if the input fails, since only a line without its end is lost. -/
theorem Source.exists_lines_eq (s : Source) (n : Nat)
    (h : ∀ line ∈ (splitLines s.bytes).take n, line.getLast? = some lineFeed) :
    ∃ items, s.lines = ((splitLines s.bytes).take n).map Except.ok ++ items := by
  have hsplit := (List.take_append_drop n (splitLines s.bytes)).symm
  unfold lines
  cases s.failure with
  | none =>
    refine ⟨((splitLines s.bytes).drop n).map Except.ok, ?_⟩
    rw [← List.map_append, ← hsplit]
  | some message =>
    -- Only complete lines are read then, and the first ones are.
    have hkept : ((splitLines s.bytes).take n).filter (fun line => line.getLast? = some lineFeed) =
        (splitLines s.bytes).take n := by
      rw [List.filter_eq_self]
      simpa using h
    refine ⟨(((splitLines s.bytes).drop n).filter fun line => line.getLast? = some lineFeed).map
      Except.ok ++ [Except.error message], ?_⟩
    dsimp only
    rw [completeLines, hsplit, List.filter_append, hkept]
    simp

/-- Whether a character ends a line. -/
def isNewline (c : Char) : Bool := c = '\n'

/-- The text cut behind every line feed. -/
def pieces (text : String) : List String :=
  (cutBehind isNewline text.toList).map String.ofList

/-- The lines of the text without their ends. -/
def textLines (text : String) : List String := (pieces text).map stripTerminator

/-- The pieces of a text give it together, as `flatten_cutBehind` says of its characters. So a
text that is cut into lines is all there in the pieces. -/
theorem join_pieces (text : String) : String.join (pieces text) = text := by
  rw [← String.toList_inj, String.toList_join, pieces, List.flatMap_map]
  simp only [String.toList_ofList, List.flatMap_id']
  exact flatten_cutBehind isNewline text.toList

/-- A text without a line feed keeps all of it under `stripTerminator`, also a carriage return at
its end, which is an end of a line only together with a line feed. -/
theorem stripTerminator_of_notMem {line : String} (h : '\n' ∉ line.toList) :
    stripTerminator line = line := by
  unfold stripTerminator
  split
  · rename_i rest hrev
    exact absurd (List.mem_reverse.mp (hrev ▸ List.mem_cons_self)) h
  · rename_i rest _ hrev
    exact absurd (List.mem_reverse.mp (hrev ▸ List.mem_cons_self)) h
  · rfl

/-- What `stripTerminator` leaves of a line has no line feed, if the line has one at its end only.
A carriage return before it may be taken off as well. -/
theorem notMem_stripTerminator_append {cs : List Char} (h : '\n' ∉ cs) :
    '\n' ∉ (stripTerminator (String.ofList (cs ++ ['\n']))).toList := by
  unfold stripTerminator
  rw [String.toList_ofList, List.reverse_append, List.reverse_singleton, List.singleton_append]
  split
  · rename_i rest hrev
    rw [List.cons.injEq] at hrev
    rw [String.toList_ofList, List.mem_reverse]
    intro hmem
    exact h (by rw [← List.mem_reverse, hrev.2]; exact List.mem_cons_of_mem _ hmem)
  · rename_i rest _ hrev
    rw [List.cons.injEq] at hrev
    rw [String.toList_ofList, List.mem_reverse, ← hrev.2, List.mem_reverse]
    exact h
  · rename_i hcr hlf
    exact absurd rfl (hlf _)

/-- No line feed is left in a piece without its end. A piece of `pieces` has a line feed at its
end or none, by `Cut.inner_or_ends`. -/
theorem notMem_stripTerminator {text piece : String} (h : piece ∈ pieces text) :
    '\n' ∉ (stripTerminator piece).toList := by
  obtain ⟨cs, hcs, rfl⟩ := List.mem_map.mp h
  rcases (cut_cutBehind isNewline text.toList).inner_or_ends hcs with
    inner | ⟨xs, x, rfl, inner, ends⟩
  · have hnot : '\n' ∉ cs := fun hmem => by simpa [isNewline] using inner _ hmem
    rw [stripTerminator_of_notMem (by simpa using hnot), String.toList_ofList]
    exact hnot
  · have hx : x = '\n' := by simpa [isNewline] using ends
    subst hx
    exact notMem_stripTerminator_append fun hmem => by simpa [isNewline] using inner _ hmem

/-- A piece has one line end only, so `stripTerminator` does nothing the second time. A parse of
`textLines` takes ends off lines that have none left. -/
theorem stripTerminator_stripTerminator {text piece : String} (h : piece ∈ pieces text) :
    stripTerminator (stripTerminator piece) = stripTerminator piece :=
  stripTerminator_of_notMem (notMem_stripTerminator h)

end LineMachine.Text
