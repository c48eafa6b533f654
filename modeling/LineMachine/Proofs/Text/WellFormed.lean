import LineMachine.Proofs.Text.DecodeLines

/-!
# `LineMachine.Proofs.Text.WellFormed`: the texts that bytes spell

`Utf8.encode` writes the bytes of a text, without a word about reading them. The strict reader
accepts what some text is written as, gives that text back, and refuses everything else.

* `Utf8.Spells` is the table of the well-formed sequences. `Utf8.Spells.encodeChar` and
  `Utf8.spells_encodeChar`: they are what characters are written as.
* `Utf8.Progress.Announces` is what the reader knows inside of a character: every way to
  complete the bytes read so far spells the character with the number read.
* `Utf8.flatMap_encodeChar_of_decodeFrom` is about what is read without a fault, and
  `Utf8.decodeFrom_of_spells` about what is written.
* `Utf8.decode?_eq_some_iff_encode`: strict reading is the inverse of writing.
-/

set_option autoImplicit false

namespace LineMachine.Text.Utf8

/-- A byte that goes on with a character. -/
def IsTail (b : UInt8) : Prop := 0x80 ≤ b.toNat ∧ b.toNat ≤ 0xBF

/-- The number read behind `value`, six bits for each byte. -/
def numberBehind (value : Nat) (bytes : List UInt8) : Nat :=
  bytes.foldl (fun value b => value * 64 + b.toNat % 64) value

/-- No byte adds nothing to the number, which ends the computation of `numberBehind`. -/
theorem numberBehind_nil (value : Nat) : numberBehind value [] = value := rfl

/-- A byte adds six bits to the number and `numberBehind` goes on from there, as `Progress.feed`
does. -/
theorem numberBehind_cons (value : Nat) (b : UInt8) (bytes : List UInt8) :
    numberBehind value (b :: bytes) = numberBehind (value * 64 + b.toNat % 64) bytes := rfl

/-! ### First bytes -/

/-- A byte below 0x80 is a character by itself for `Progress.begin`. It is the only kind of byte
that gives out a character at once. -/
theorem begin_of_one {b : UInt8} (h : b.toNat < 0x80) :
    Progress.begin b = ([some (Char.ofNat b.toNat)], .start) := by
  rw [Progress.begin, if_pos (UInt8.lt_iff_toNat_lt.mpr h)]

/-- The first of two bytes announces one more, which may be any `IsTail`. The bytes 0xC0 and 0xC1
are not among them, since what they would spell fits into one byte. -/
theorem begin_of_two {b : UInt8} (h : 0xC2 ≤ b.toNat) (h' : b.toNat < 0xE0) :
    Progress.begin b = ([], .within 0 0x80 0xBF (b.toNat - 0xC0)) := by
  simp only [Progress.begin, UInt8.lt_iff_toNat_lt, UInt8.reduceToNat]
  rw [if_neg (by omega), if_neg (by omega), if_pos h']

/-- The bytes that may follow the first of three are those with which the number needs three bytes
and is none of the surrogates. The three branches of `Progress.begin` become one statement about
`IsTail` and the number. -/
theorem begin_of_three {b : UInt8} (h : 0xE0 ≤ b.toNat) (h' : b.toNat < 0xF0) :
    ∃ low high, Progress.begin b = ([], .within 1 low high (b.toNat - 0xE0)) ∧
      ∀ x : UInt8, low ≤ x ∧ x ≤ high ↔ IsTail x ∧
        32 ≤ (b.toNat - 0xE0) * 64 + x.toNat % 64 ∧
          ¬ (864 ≤ (b.toNat - 0xE0) * 64 + x.toNat % 64 ∧
            (b.toNat - 0xE0) * 64 + x.toNat % 64 < 896) := by
  simp only [Progress.begin, UInt8.lt_iff_toNat_lt, ← UInt8.toNat_inj, UInt8.reduceToNat]
  rw [if_neg (by omega), if_neg (by omega), if_neg (by omega)]
  -- `E0` must not begin what two bytes can spell, and `ED` none of the surrogates.
  by_cases hfirst : b.toNat = 0xE0
  · refine ⟨0xA0, 0xBF, by rw [if_pos hfirst, hfirst], fun x => ?_⟩
    simp only [UInt8.le_iff_toNat_le, IsTail, UInt8.reduceToNat]
    omega
  rw [if_neg hfirst]
  by_cases hsurrogates : b.toNat = 0xED
  · refine ⟨0x80, 0x9F, by rw [if_pos hsurrogates, hsurrogates], fun x => ?_⟩
    simp only [UInt8.le_iff_toNat_le, IsTail, UInt8.reduceToNat]
    omega
  rw [if_neg hsurrogates, if_pos h']
  refine ⟨0x80, 0xBF, rfl, fun x => ?_⟩
  simp only [UInt8.le_iff_toNat_le, IsTail, UInt8.reduceToNat]
  omega

/-- The bytes that may follow the first of four are those with which the number needs four bytes
and is a character's. Only for 0xF0 and 0xF4 this is less than any `IsTail`. -/
theorem begin_of_four {b : UInt8} (h : 0xF0 ≤ b.toNat) (h' : b.toNat < 0xF5) :
    ∃ low high, Progress.begin b = ([], .within 2 low high (b.toNat - 0xF0)) ∧
      ∀ x : UInt8, low ≤ x ∧ x ≤ high ↔ IsTail x ∧
        16 ≤ (b.toNat - 0xF0) * 64 + x.toNat % 64 ∧
          (b.toNat - 0xF0) * 64 + x.toNat % 64 < 272 := by
  simp only [Progress.begin, UInt8.lt_iff_toNat_lt, ← UInt8.toNat_inj, UInt8.reduceToNat]
  rw [if_neg (by omega), if_neg (by omega), if_neg (by omega), if_neg (by omega),
    if_neg (by omega), if_neg (by omega)]
  -- `F0` must not begin what three bytes can spell, and `F4` nothing behind the last character.
  by_cases hfirst : b.toNat = 0xF0
  · refine ⟨0x90, 0xBF, by rw [if_pos hfirst, hfirst], fun x => ?_⟩
    simp only [UInt8.le_iff_toNat_le, IsTail, UInt8.reduceToNat]
    omega
  rw [if_neg hfirst]
  by_cases hlast : b.toNat = 0xF4
  · refine ⟨0x80, 0x8F, by rw [if_neg (by omega), if_pos hlast, hlast], fun x => ?_⟩
    simp only [UInt8.le_iff_toNat_le, IsTail, UInt8.reduceToNat]
    omega
  rw [if_pos (by omega)]
  refine ⟨0x80, 0xBF, rfl, fun x => ?_⟩
  simp only [UInt8.le_iff_toNat_le, IsTail, UInt8.reduceToNat]
  omega

/-- No character begins with a byte that only goes on with one, or with one that no sequence
begins with. These are all bytes that the four lemmas before leave out. -/
theorem begin_of_none {b : UInt8} (h : 0x80 ≤ b.toNat ∧ b.toNat < 0xC2 ∨ 0xF5 ≤ b.toNat) :
    Progress.begin b = ([none], .start) := by
  simp only [Progress.begin, UInt8.lt_iff_toNat_lt, ← UInt8.toNat_inj, UInt8.reduceToNat]
  rw [if_neg (by omega)]
  by_cases htail : b.toNat < 0xC2
  · rw [if_pos htail]
  · rw [if_neg htail, if_neg (by omega), if_neg (by omega), if_neg (by omega),
      if_neg (by omega), if_neg (by omega), if_neg (by omega), if_neg (by omega)]

/-! ### Well-formed sequences -/

/-- The bytes of a character and its number. There is one range of first bytes for each length,
and the second byte leaves out what a shorter sequence spells, the surrogates and what lies
behind the last character. -/
inductive Spells : List UInt8 → Nat → Prop where
  | one (b : UInt8) (first : b.toNat < 0x80) : Spells [b] b.toNat
  | two (b x : UInt8) (first : 0xC2 ≤ b.toNat ∧ b.toNat < 0xE0) (second : IsTail x) :
    Spells [b, x] (numberBehind (b.toNat - 0xC0) [x])
  | three (b x y : UInt8) (first : 0xE0 ≤ b.toNat ∧ b.toNat < 0xF0)
    (second : IsTail x ∧ 32 ≤ numberBehind (b.toNat - 0xE0) [x] ∧
      ¬ (864 ≤ numberBehind (b.toNat - 0xE0) [x] ∧ numberBehind (b.toNat - 0xE0) [x] < 896))
    (third : IsTail y) :
    Spells [b, x, y] (numberBehind (b.toNat - 0xE0) [x, y])
  | four (b x y z : UInt8) (first : 0xF0 ≤ b.toNat ∧ b.toNat < 0xF5)
    (second : IsTail x ∧ 16 ≤ numberBehind (b.toNat - 0xF0) [x] ∧
      numberBehind (b.toNat - 0xF0) [x] < 272)
    (third : IsTail y) (fourth : IsTail z) :
    Spells [b, x, y, z] (numberBehind (b.toNat - 0xF0) [x, y, z])

/-- The character with a valid number has this number. For any other number `Char.ofNat` falls
back on zero. -/
theorem toNat_ofNat {n : Nat} (h : n.isValidChar) : (Char.ofNat n).val.toNat = n := by
  rw [Char.ofNat, dif_pos h]
  rfl

/-- A byte is told by its number. The bytes that `String.utf8EncodeChar` computes are compared
with the given ones in this way. -/
theorem ofNat_eq_of_toNat {b : UInt8} {n : Nat} (h : b.toNat = n) : UInt8.ofNat n = b := by
  rw [← h, UInt8.ofNat_toNat]

/-- What is spelled is the number of a character: the conditions of `Spells` on the second byte
leave out the surrogates and what is beyond the last character. -/
theorem Spells.isValidChar {bytes : List UInt8} {n : Nat} (h : Spells bytes n) :
    n.isValidChar := by
  unfold Nat.isValidChar
  cases h with
  | one b first => omega
  | two b x first second =>
    simp only [numberBehind_cons, numberBehind_nil, IsTail] at *
    omega
  | three b x y first second third =>
    simp only [numberBehind_cons, numberBehind_nil, IsTail] at *
    omega
  | four b x y z first second third fourth =>
    simp only [numberBehind_cons, numberBehind_nil, IsTail] at *
    omega

/-- A sequence is the way to write the character it spells. The four cases of `Spells` are the
four branches of `String.utf8EncodeChar`, and the bytes follow from the number by arithmetic. -/
theorem Spells.encodeChar {bytes : List UInt8} {n : Nat} (h : Spells bytes n) :
    String.utf8EncodeChar (Char.ofNat n) = bytes := by
  unfold String.utf8EncodeChar
  simp only [toNat_ofNat h.isValidChar]
  cases h with
  | one b first =>
    rw [if_pos (by omega), UInt8.ofNat_toNat]
  | two b x first second =>
    -- The number is named, so that only its equation is left to the arithmetic.
    generalize hn : numberBehind (b.toNat - 0xC0) [x] = n
    simp only [numberBehind_cons, numberBehind_nil, IsTail] at hn first second
    rw [if_neg (by omega), if_pos (by omega), ofNat_eq_of_toNat (b := b) (by omega),
      ofNat_eq_of_toNat (b := x) (by omega)]
  | three b x y first second third =>
    generalize hn : numberBehind (b.toNat - 0xE0) [x, y] = n
    simp only [numberBehind_cons, numberBehind_nil, IsTail] at hn first second third
    rw [if_neg (by omega), if_neg (by omega), if_pos (by omega),
      ofNat_eq_of_toNat (b := b) (by omega), ofNat_eq_of_toNat (b := x) (by omega),
      ofNat_eq_of_toNat (b := y) (by omega)]
  | four b x y z first second third fourth =>
    generalize hn : numberBehind (b.toNat - 0xF0) [x, y, z] = n
    simp only [numberBehind_cons, numberBehind_nil, IsTail] at hn first second third fourth
    rw [if_neg (by omega), if_neg (by omega), if_neg (by omega),
      ofNat_eq_of_toNat (b := b) (by omega), ofNat_eq_of_toNat (b := x) (by omega),
      ofNat_eq_of_toNat (b := y) (by omega), ofNat_eq_of_toNat (b := z) (by omega)]

/-- Every character is written as a sequence that `Spells` it, the shortest one. The length
depends on the number of the character, and the bounds on the second byte hold because the number
is a character's. -/
theorem spells_encodeChar (c : Char) : Spells (String.utf8EncodeChar c) c.val.toNat := by
  have hvalid : c.val.toNat.isValidChar := c.valid
  unfold Nat.isValidChar at hvalid
  unfold String.utf8EncodeChar
  generalize c.val.toNat = n at hvalid ⊢
  simp only
  -- One case for each length. The bytes give the number back, and then the ranges of `Spells` hold.
  split
  · have h : (UInt8.ofNat n).toNat = n := by
      rw [UInt8.toNat_ofNat']
      omega
    have hone := Spells.one (UInt8.ofNat n) (by omega)
    rwa [h] at hone
  split
  · have htwo := Spells.two (UInt8.ofNat (n / 64 % 32 + 192)) (UInt8.ofNat (n % 64 + 128))
    simp only [numberBehind_cons, numberBehind_nil, IsTail, UInt8.toNat_ofNat'] at htwo
    have hn : ((n / 64 % 32 + 192) % 2 ^ 8 - 192) * 64 + (n % 64 + 128) % 2 ^ 8 % 64 = n := by
      omega
    rw [hn] at htwo
    exact htwo (by omega) (by omega)
  split
  · have hthree := Spells.three (UInt8.ofNat (n / 4096 % 16 + 224))
      (UInt8.ofNat (n / 64 % 64 + 128)) (UInt8.ofNat (n % 64 + 128))
    simp only [numberBehind_cons, numberBehind_nil, IsTail, UInt8.toNat_ofNat'] at hthree
    have hn : (((n / 4096 % 16 + 224) % 2 ^ 8 - 224) * 64 + (n / 64 % 64 + 128) % 2 ^ 8 % 64) * 64 +
        (n % 64 + 128) % 2 ^ 8 % 64 = n := by
      omega
    rw [hn] at hthree
    exact hthree (by omega) (by omega) (by omega)
  · have hfour := Spells.four (UInt8.ofNat (n / 262144 % 8 + 240))
      (UInt8.ofNat (n / 4096 % 64 + 128)) (UInt8.ofNat (n / 64 % 64 + 128))
      (UInt8.ofNat (n % 64 + 128))
    simp only [numberBehind_cons, numberBehind_nil, IsTail, UInt8.toNat_ofNat'] at hfour
    have hn : ((((n / 262144 % 8 + 240) % 2 ^ 8 - 240) * 64 +
        (n / 4096 % 64 + 128) % 2 ^ 8 % 64) * 64 + (n / 64 % 64 + 128) % 2 ^ 8 % 64) * 64 +
        (n % 64 + 128) % 2 ^ 8 % 64 = n := by
      omega
    rw [hn] at hfour
    exact hfour (by omega) (by omega) (by omega) (by omega)

/-! ### Reading them -/

/-- What the reader knows inside of a character: whatever bytes of the announced number and
ranges complete it, they and the bytes before them spell the number read. -/
def Progress.Announces (front : List UInt8) : Progress → Prop
  | .start => front = []
  | .within more low high value =>
    ∀ x rest, low ≤ x → x ≤ high → rest.length = more → (∀ y ∈ rest, IsTail y) →
      Spells (front ++ x :: rest) (numberBehind value (x :: rest))

/-- The first byte is a character, or begins none, or announces the rest of one in the sense of
`Progress.Announces`. By the lemmas on first bytes, the ranges are those that `Spells` has. -/
theorem begin_announces (b : UInt8) :
    (Progress.begin b = ([some (Char.ofNat b.toNat)], .start) ∧ Spells [b] b.toNat) ∨
      Progress.begin b = ([none], .start) ∨
      ∃ more low high value, Progress.begin b = ([], .within more low high value) ∧
        (Progress.within more low high value).Announces [b] := by
  by_cases hone : b.toNat < 0x80
  · exact .inl ⟨begin_of_one hone, .one b hone⟩
  by_cases hnone : b.toNat < 0xC2 ∨ 0xF5 ≤ b.toNat
  · exact .inr (.inl (begin_of_none (by omega)))
  refine .inr (.inr ?_)
  -- What is left are the first bytes of two, of three and of four.
  by_cases htwo : b.toNat < 0xE0
  · refine ⟨0, 0x80, 0xBF, _, begin_of_two (by omega) htwo, fun x rest hlow hhigh hrest _ => ?_⟩
    obtain rfl : rest = [] := List.length_eq_zero_iff.mp hrest
    exact .two b x ⟨by omega, htwo⟩ ⟨UInt8.le_iff_toNat_le.mp hlow, UInt8.le_iff_toNat_le.mp hhigh⟩
  by_cases hthree : b.toNat < 0xF0
  · obtain ⟨low, high, hbegin, hfits⟩ := begin_of_three (b := b) (by omega) hthree
    refine ⟨1, low, high, _, hbegin, fun x rest hlow hhigh hrest htail => ?_⟩
    obtain ⟨y, rfl⟩ := List.length_eq_one_iff.mp hrest
    exact .three b x y ⟨by omega, hthree⟩ ((hfits x).mp ⟨hlow, hhigh⟩) (htail y (by simp))
  · obtain ⟨low, high, hbegin, hfits⟩ := begin_of_four (b := b) (by omega) (by omega)
    refine ⟨2, low, high, _, hbegin, fun x rest hlow hhigh hrest htail => ?_⟩
    obtain ⟨y, z, rfl⟩ := List.length_eq_two.mp hrest
    exact .four b x y z ⟨by omega, by omega⟩ ((hfits x).mp ⟨hlow, hhigh⟩) (htail y (by simp))
      (htail z (by simp))

/-- One more byte that fits leaves the rest of the rest to come, and `front` grows by this byte.
Behind the second byte any `IsTail` fits. -/
theorem Progress.Announces.next {front : List UInt8} {more value : Nat} {low high b : UInt8}
    (h : (Progress.within (more + 1) low high value).Announces front) (hlow : low ≤ b)
    (hhigh : b ≤ high) :
    (Progress.within more 0x80 0xBF (value * 64 + b.toNat % 64)).Announces (front ++ [b]) := by
  intro x rest hx hx' hrest htail
  have hspells := h b (x :: rest) hlow hhigh (by rw [List.length_cons, hrest]) (by
    rw [List.forall_mem_cons]
    exact ⟨⟨UInt8.le_iff_toNat_le.mp hx, UInt8.le_iff_toNat_le.mp hx'⟩, htail⟩)
  rw [List.append_assoc, List.singleton_append]
  exact hspells

/-- If all units are characters, the bytes are what these are written as. The induction goes along
the bytes, and `front` holds those of the character that is not complete, of which
`Progress.Announces` knows what is missing. -/
theorem flatMap_encodeChar_of_decodeFrom {p : Progress} {front bytes : List UInt8}
    {cs : List Char} (hp : p.Announces front) (h : decodeFrom p bytes = cs.map some) :
    cs.flatMap String.utf8EncodeChar = front ++ bytes := by
  induction bytes generalizing p front cs with
  | nil =>
    cases p with
    | start =>
      obtain rfl : cs = [] := by simpa [decodeFrom, Progress.finish] using h.symm
      obtain rfl : front = [] := hp
      rfl
    | within more low high value =>
      cases cs <;> simp [decodeFrom, Progress.finish] at h
  | cons b bs ih =>
    -- A character that is complete at `b`, and the ones behind it.
    have hcomplete {n : Nat} (hspells : Spells (front ++ [b]) n)
        (hrest : some (Char.ofNat n) :: decodeFrom .start bs = cs.map some) :
        cs.flatMap String.utf8EncodeChar = front ++ b :: bs := by
      obtain ⟨c, more, rfl, hc, hmore⟩ := List.map_eq_cons_iff.mp hrest.symm
      obtain rfl : c = Char.ofNat n := Option.some.inj hc
      rw [List.flatMap_cons, hspells.encodeChar, ih (p := .start) rfl hmore.symm, List.nil_append,
        List.append_assoc, List.singleton_append]
    have hrefused {units : List (Option Char)} (hunits : none :: units = cs.map some) : False := by
      cases cs <;> simp at hunits
    rw [decodeFrom] at h
    cases p with
    | start =>
      obtain rfl : front = [] := hp
      rw [Progress.feed] at h
      rcases begin_announces b with ⟨hbegin, hspells⟩ | hbegin | ⟨_, _, _, _, hbegin, hmore⟩
      · rw [hbegin] at h
        exact hcomplete hspells h
      · rw [hbegin] at h
        exact absurd h hrefused
      · rw [hbegin] at h
        exact ih hmore h
    | within more low high value =>
      unfold Progress.feed at h
      by_cases hfits : low ≤ b ∧ b ≤ high
      · simp only [if_pos hfits] at h
        cases more with
        | zero => exact hcomplete (hp b [] hfits.1 hfits.2 rfl (by simp)) h
        | succ more =>
          rw [ih (hp.next hfits.1 hfits.2) h, List.append_assoc, List.singleton_append]
      · simp only [if_neg hfits] at h
        exact absurd h hrefused

/-- The bytes that `Spells` has for a character are read as it, whatever follows them. The reader
is at the beginning of a character before and behind. -/
theorem decodeFrom_of_spells {bytes : List UInt8} {n : Nat} (h : Spells bytes n)
    (rest : List UInt8) :
    decodeFrom .start (bytes ++ rest) = some (Char.ofNat n) :: decodeFrom .start rest := by
  have htail {x : UInt8} (hx : IsTail x) : (0x80 : UInt8) ≤ x ∧ x ≤ 0xBF :=
    ⟨UInt8.le_iff_toNat_le.mpr hx.1, UInt8.le_iff_toNat_le.mpr hx.2⟩
  cases h with
  | one b first =>
    simp [decodeFrom, Progress.feed, begin_of_one first]
  | two b x first second =>
    simp [decodeFrom, Progress.feed, begin_of_two first.1 first.2, htail second, numberBehind]
  | three b x y first second third =>
    -- The range that the first byte announces is the one of the second byte.
    obtain ⟨low, high, hbegin, hfits⟩ := begin_of_three first.1 first.2
    simp [decodeFrom, Progress.feed, hbegin, (hfits x).mpr second, htail third, numberBehind]
  | four b x y z first second third fourth =>
    obtain ⟨low, high, hbegin, hfits⟩ := begin_of_four first.1 first.2
    simp [decodeFrom, Progress.feed, hbegin, (hfits x).mpr second, htail third, htail fourth,
      numberBehind]

/-- What is written is read as it was, character by character. Each is read by
`decodeFrom_of_spells`, with what is written for the others behind it. -/
theorem decodeUnits_encode (text : String) :
    decodeUnits (encode text) = text.toList.map some := by
  rw [encode]
  induction text.toList with
  | nil => rfl
  | cons c cs ih =>
    rw [List.flatMap_cons, decodeUnits, decodeFrom_of_spells (spells_encodeChar c), List.map_cons,
      ← ih, decodeUnits]
    simp

/-- Strict reading is the inverse of writing: `decode?` gives a text exactly for the bytes that
`encode` writes it as. -/
theorem decode?_eq_some_iff_encode (bytes : List UInt8) (text : String) :
    decode? bytes = some text ↔ encode text = bytes := by
  rw [decode?_eq_some_iff]
  constructor
  · intro h
    have hspelled : text.toList.flatMap String.utf8EncodeChar = [] ++ bytes :=
      flatMap_encodeChar_of_decodeFrom (p := .start) rfl h
    rw [encode, hspelled, List.nil_append]
  · rintro rfl
    exact decodeUnits_encode text

/-- What `decode?` refuses, no text is written as by `encode`. A line of such bytes is where the
decodings part. -/
theorem decode?_eq_none_iff (bytes : List UInt8) :
    decode? bytes = none ↔ ∀ text, encode text ≠ bytes := by
  rw [Option.eq_none_iff_forall_ne_some]
  exact forall_congr' fun text => not_congr (decode?_eq_some_iff_encode bytes text)

end LineMachine.Text.Utf8
