/-!
# `LineMachine.Text.Utf8`: characters from bytes

UTF-8 read one byte at a time. The reader is in one of a few states, and
each byte takes it to the next one, giving out what became complete.

* `Progress` is what the bytes read so far announce.
* `Progress.feed` takes one byte.
* `decodeUnits` gives the characters of a byte sequence, with `none` for each
  longest run of bytes that begins a character and does not complete it.
* `decode?` accepts well-formed sequences only; `decodeLossy` puts U+FFFD for
  each ill-formed run.
* `encode` writes characters.
-/

set_option autoImplicit false

namespace LineMachine.Text.Utf8

/-- What the bytes read so far announce. -/
inductive Progress where
  /-- a character begins here -/
  | start
  /-- `more + 1` bytes are to come, the next between `low` and `high`;
  `value` holds the bits so far -/
  | within (more : Nat) (low high : UInt8) (value : Nat)
deriving Repr, DecidableEq

/-- What the first byte of a character gives out and announces. -/
def Progress.begin (b : UInt8) : List (Option Char) × Progress :=
  if b < 0x80 then ([some (Char.ofNat b.toNat)], .start)
  else if b < 0xC2 then ([none], .start)
  else if b < 0xE0 then ([], .within 0 0x80 0xBF (b.toNat - 0xC0))
  else if b = 0xE0 then ([], .within 1 0xA0 0xBF 0)
  else if b = 0xED then ([], .within 1 0x80 0x9F 0xD)
  else if b < 0xF0 then ([], .within 1 0x80 0xBF (b.toNat - 0xE0))
  else if b = 0xF0 then ([], .within 2 0x90 0xBF 0)
  else if b < 0xF4 then ([], .within 2 0x80 0xBF (b.toNat - 0xF0))
  else if b = 0xF4 then ([], .within 2 0x80 0x8F 4)
  else ([none], .start)

/-- What one more byte gives out and announces. A byte that does not fit ends
an ill-formed run and begins anew. -/
def Progress.feed (p : Progress) (b : UInt8) : List (Option Char) × Progress :=
  match p with
  | .start => Progress.begin b
  | .within more low high value =>
    if low ≤ b ∧ b ≤ high then
      let value := value * 64 + b.toNat % 64
      match more with
      | 0 => ([some (Char.ofNat value)], .start)
      | more + 1 => ([], .within more 0x80 0xBF value)
    else
      let (units, p) := Progress.begin b
      (none :: units, p)

/-- What the end of the bytes gives out. -/
def Progress.finish : Progress → List (Option Char)
  | .start => []
  | .within _ _ _ _ => [none]

/-- The characters of the bytes that follow `p`, and `none` for each
ill-formed run. -/
def decodeFrom (p : Progress) : List UInt8 → List (Option Char)
  | [] => p.finish
  | b :: bs => (p.feed b).1 ++ decodeFrom (p.feed b).2 bs

/-- The characters of a byte sequence, and `none` for each ill-formed run. -/
def decodeUnits (bytes : List UInt8) : List (Option Char) := decodeFrom .start bytes

/-- The text of a byte sequence, if all of it is well-formed. -/
def decode? (bytes : List UInt8) : Option String :=
  ((decodeUnits bytes).mapM id).map String.ofList

/-- The text of a byte sequence, with U+FFFD for each ill-formed run. -/
def decodeLossy (bytes : List UInt8) : String :=
  String.ofList ((decodeUnits bytes).map fun unit => unit.getD '\uFFFD')

/-- The bytes of a text. -/
def encode (text : String) : List UInt8 := text.toList.flatMap String.utf8EncodeChar

end LineMachine.Text.Utf8
