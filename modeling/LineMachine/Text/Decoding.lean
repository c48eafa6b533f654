import LineMachine.Text.Utf8

/-!
# `LineMachine.Text.Decoding`: how input bytes become text

* `Decoding` lists the three ways to read bytes.
* `Decoding.decode` reads bytes in one of them.
-/

set_option autoImplicit false

namespace LineMachine

/-- How input bytes become text. -/
inductive Decoding where
  /-- UTF-8; ill-formed bytes are refused -/
  | utf8
  /-- UTF-8; ill-formed bytes are replaced -/
  | utf8Lossy
  /-- every byte is the character with that number -/
  | raw
deriving Repr, DecidableEq, Inhabited

/-- The text of a byte sequence. Only strict UTF-8 refuses any. -/
def Decoding.decode : Decoding → List UInt8 → Option String
  | .utf8, bytes => Text.Utf8.decode? bytes
  | .utf8Lossy, bytes => some (Text.Utf8.decodeLossy bytes)
  | .raw, bytes => some (String.ofList (bytes.map fun b => Char.ofNat b.toNat))

end LineMachine
