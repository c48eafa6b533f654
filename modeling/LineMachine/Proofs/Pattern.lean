import LineMachine.Pattern
import Mathlib.Data.List.Basic

/-!
# `LineMachine.Proofs.Pattern`: patterns are told apart by what is shown of them

A literal is shown in quotes, with escapes of different lengths for some of its characters. A text
may itself look like an escape, like quotes, or like one of the other patterns.

* `Text.unescape` reads what stands between quotes. It goes along the characters and keeps what
  the last ones began (`Text.Escape`), and it does not know which characters have escapes.
* `Text.unescapeFrom_toDigits` reads a number, by induction on its digits, and
  `Text.unescape_escapeChar` one character in any of its written forms.
  `Text.unescape_flatMap` is the induction over a text, and `Text.quote_injective` follows.
* `Pattern.display_eq_iff` states the result for any two patterns.
-/

set_option autoImplicit false

namespace LineMachine

namespace Text

/-! ### Reading escapes -/

/-- What the characters before this one began. -/
inductive Escape where
  /-- nothing -/
  | none
  /-- there was a backslash -/
  | begun
  /-- there was a backslash with a `u`, and digits that give this number so far -/
  | number (n : Nat)

/-- The character that a letter behind a backslash stands for. Quotes and backslashes stand for
themselves. -/
def letterChar (c : Char) : Char :=
  if c = '0' then '\x00'
  else if c = 't' then '\t'
  else if c = 'r' then '\r'
  else if c = 'n' then '\n'
  else c

/-- The value of a digit. -/
def digitValue (c : Char) : Nat := (Unicode.CharSet.hexValue? c).getD 0

/-- Reads characters behind what was begun. -/
def unescapeFrom : Escape → List Char → List Char
  | _, [] => []
  | .none, c :: cs => if c = '\\' then unescapeFrom .begun cs else c :: unescapeFrom .none cs
  | .begun, c :: cs =>
    if c = 'u' then unescapeFrom (.number 0) cs else letterChar c :: unescapeFrom .none cs
  | .number n, c :: cs =>
    if c = '\x7b' then unescapeFrom (.number n) cs
    else if c = '\x7d' then Char.ofNat n :: unescapeFrom .none cs
    else unescapeFrom (.number (16 * n + digitValue c)) cs

/-- The text that is written with these characters. -/
def unescape (cs : List Char) : List Char := unescapeFrom .none cs

/-- The digits that numbers are written with: `digitValue` undoes `Nat.digitChar`, and no digit is
one of the braces around a number, at which `unescapeFrom` would stop. -/
theorem digitChar_cases {d : Nat} (h : d < 16) :
    digitValue d.digitChar = d ∧ d.digitChar ≠ '\x7b' ∧ d.digitChar ≠ '\x7d' := by
  revert d
  decide

/-- One more digit. This is one step of `unescapeFrom` in the state `Escape.number`, with any rest
behind it, as the induction of `unescapeFrom_toDigits` needs it. -/
theorem unescapeFrom_digitChar (n : Nat) {d : Nat} (h : d < 16) (rest : List Char) :
    unescapeFrom (.number n) (d.digitChar :: rest) = unescapeFrom (.number (16 * n + d)) rest := by
  obtain ⟨hvalue, hopen, hclose⟩ := digitChar_cases h
  rw [unescapeFrom, if_neg hopen, if_neg hclose, hvalue]

/-- The digits of a number. The induction is on the number, whose last digit is read behind those
of a smaller one, as `Nat.toDigits` puts them. -/
theorem unescapeFrom_toDigits (n : Nat) (rest : List Char) :
    unescapeFrom (.number 0) (Nat.toDigits 16 n ++ rest) = unescapeFrom (.number n) rest := by
  induction n using Nat.strongRecOn generalizing rest with
  | ind n ih =>
    by_cases hn : n < 16
    · rw [Nat.toDigits_of_lt_base hn, List.singleton_append, unescapeFrom_digitChar 0 hn,
        Nat.mul_zero, Nat.zero_add]
    · have hsmaller : n / 16 < n := Nat.div_lt_self (by omega) (by omega)
      rw [Nat.toDigits_of_base_le (by omega) (by omega), List.append_assoc, ih _ hsmaller,
        List.singleton_append, unescapeFrom_digitChar _ (Nat.mod_lt n (by omega)),
        Nat.div_add_mod]

/-- A character is written with a letter behind a backslash, or by its number, or as itself. Only
the last form begins without a backslash, so `unescape` can tell from the first character how to
go on. -/
theorem escapeChar_cases (c : Char) :
    (∃ letter, escapeChar c = ['\\', letter] ∧ letter ≠ 'u' ∧ letterChar letter = c) ∨
      escapeChar c = ['\\', 'u', '\x7b'] ++ Nat.toDigits 16 c.toNat ++ ['\x7d'] ∨
      (escapeChar c = [c] ∧ c ≠ '\\') := by
  unfold escapeChar
  split
  · exact .inl ⟨'0', rfl, by decide, by simp_all [letterChar]⟩
  split
  · exact .inl ⟨'t', rfl, by decide, by simp_all [letterChar]⟩
  split
  · exact .inl ⟨'r', rfl, by decide, by simp_all [letterChar]⟩
  split
  · exact .inl ⟨'n', rfl, by decide, by simp_all [letterChar]⟩
  split
  · exact .inl ⟨'"', rfl, by decide, by simp_all [letterChar]⟩
  split
  · exact .inl ⟨'\\', rfl, by decide, by simp_all [letterChar]⟩
  rename_i hbackslash
  split
  · exact .inr (.inl rfl)
  · exact .inr (.inr ⟨rfl, hbackslash⟩)

/-- A character is read back from any of its forms, one case of `escapeChar_cases` after the
other. The rest is arbitrary, which shows that no form runs into what follows it. -/
theorem unescape_escapeChar (c : Char) (rest : List Char) :
    unescape (escapeChar c ++ rest) = c :: unescape rest := by
  rcases escapeChar_cases c with ⟨letter, hform, hu, hletter⟩ | hform | ⟨hform, hc⟩
  · rw [hform, unescape, List.cons_append, List.singleton_append, unescapeFrom, if_pos rfl,
      unescapeFrom, if_neg hu, hletter, unescape]
  · have hbegun : unescape (escapeChar c ++ rest) =
        unescapeFrom (.number 0) (Nat.toDigits 16 c.toNat ++ '\x7d' :: rest) := by
      rw [hform, List.append_assoc, List.append_assoc]
      rfl
    rw [hbegun, unescapeFrom_toDigits, unescapeFrom, if_neg (by decide), if_pos rfl,
      Char.ofNat_toNat, unescape]
  · rw [hform, unescape, List.singleton_append, unescapeFrom, if_neg hc, unescape]

/-- A text is read back from its characters as they are written, by induction with
`unescape_escapeChar`. This makes the writing injective without comparing two written texts. -/
theorem unescape_flatMap (cs : List Char) : unescape (cs.flatMap escapeChar) = cs := by
  induction cs with
  | nil => rfl
  | cons c cs ih => rw [List.flatMap_cons, unescape_escapeChar, ih]

/-! ### Quotes -/

/-- The characters of a quoted text: a quote, the escaped characters, and a quote. The rest of the
argument is about lists of characters and not about strings. -/
theorem toList_quote (text : String) :
    (quote text).toList = '"' :: (text.toList.flatMap escapeChar ++ ['"']) :=
  String.toList_ofList

/-- No two texts are the same in quotes. The quotes at both ends are taken off, and
`unescape_flatMap` reads the texts back from what is between. -/
theorem quote_injective {text text' : String} (h : quote text = quote text') : text = text' := by
  have hlist := congrArg String.toList h
  rw [toList_quote, toList_quote, List.cons.injEq] at hlist
  have hinner := congrArg unescape (List.append_cancel_right hlist.2)
  rw [unescape_flatMap, unescape_flatMap] at hinner
  exact String.toList_inj.mp hinner

end Text

namespace Pattern

/-- The first character that is shown of a pattern. -/
def mark : Pattern → Char
  | .any => '*'
  | .literal _ => '"'
  | .regex _ => '/'

/-- The first character tells the three kinds of pattern apart, as `Pattern.mark` says. A literal
that is an asterisk is still shown with a quote in front. -/
theorem head?_display (p : Pattern) : p.display.toList.head? = some p.mark := by
  cases p with
  | any => rfl
  | literal text => rw [display, Text.toList_quote, List.head?_cons, mark]
  | regex r => simp [display, mark]

/-- What is shown of a regular expression between the slashes is its text as it was given. So
`display` tells apart what `Regex.source` tells apart, and no more. -/
theorem display_regex_inj {r r' : Regex} :
    (Pattern.regex r).display = (Pattern.regex r').display ↔ r.source = r'.source := by
  simp [display, ← String.toList_inj]

/-- Patterns are shown alike exactly when both match any line, or both are the same literal, or
both are regular expressions with the same text. This holds for all texts, also for those that
look like quotes, escapes or other patterns.

By `head?_display` only patterns of one kind can be shown alike; for literals
`Text.quote_injective` decides. -/
theorem display_eq_iff (p q : Pattern) :
    p.display = q.display ↔
      (p = .any ∧ q = .any) ∨ (∃ text, p = .literal text ∧ q = .literal text) ∨
        ∃ r r', p = .regex r ∧ q = .regex r' ∧ r.source = r'.source := by
  constructor
  · intro h
    -- The first characters tell the kinds apart.
    have hmark : p.mark = q.mark := by
      have hhead := congrArg (fun text => text.toList.head?) h
      simpa [head?_display] using hhead
    cases p <;> cases q
    case any.any => exact .inl ⟨rfl, rfl⟩
    case literal.literal text text' =>
      obtain rfl : text = text' := Text.quote_injective h
      exact .inr (.inl ⟨text, rfl, rfl⟩)
    case regex.regex r r' => exact .inr (.inr ⟨r, r', rfl, rfl, display_regex_inj.mp h⟩)
    all_goals exact absurd hmark (by simp [mark])
  · rintro (⟨rfl, rfl⟩ | ⟨text, rfl, rfl⟩ | ⟨r, r', rfl, rfl, hsource⟩)
    · rfl
    · rfl
    · exact display_regex_inj.mpr hsource

/-- The theorem at texts that look like something else: a line feed and its escape, a character
that joins the one before it and its number, and a literal asterisk beside `Pattern.any`. -/
theorem display_eq_iff_lookalikes :
    (literal "\n").display ≠ (literal "\\n").display ∧
      (literal "\u0301").display ≠ (literal "\\u\x7b301\x7d").display ∧
      (literal "*").display ≠ any.display := by
  refine ⟨?_, ?_, ?_⟩
  · rw [ne_eq, display_eq_iff]
    simp
  · rw [ne_eq, display_eq_iff]
    simp
  · rw [ne_eq, display_eq_iff]
    simp

end Pattern

end LineMachine
