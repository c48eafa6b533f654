import LineMachine.Unicode.CharSet

/-!
# `LineMachine.Yaml.Cursor`: a place in a YAML text

* `Fault` lists what can be wrong with a text.
* `Cursor` is a place in the text, with its line and column.
* `skip` and `takeBreak` move it.
* `isDocumentMark` tells whether a document mark stands there.
-/

set_option autoImplicit false

namespace LineMachine.Yaml

/-- What can be wrong with a text. -/
inductive Fault where
  | controlCharacter
  | simpleKey
  | blockContext
  | unknownStart
  | directive
  | anchor
  | tag
  | tagHandle
  | blockScalar
  | tabIndentation
  | documentMark
  | unclosedQuote
  | escape
  | flowColon
  | document
  | missingNode
  | collectionEnd
  | unknownAlias
  | steps
deriving Repr, DecidableEq

/-- A place in a text. Lines and columns count from 0. -/
structure Cursor where
  /-- the text from here on -/
  rest : List Char
  /-- how many characters precede the place -/
  index : Nat
  line : Nat
  column : Nat
deriving Inhabited

/-- Whether a character ends a line. -/
def isBreak (c : Char) : Bool :=
  c = '\n' || c = '\r' || c = '\x85' || c = '\u2028' || c = '\u2029'

/-- Whether a character is a blank inside a line. -/
def isBlank (c : Char) : Bool := c = ' ' || c = '\t'

/-- Whether a character is a blank or ends a line. -/
def isSpace (c : Char) : Bool := isBlank c || isBreak c

/-- Whether a character may stand in a name. -/
def isWord (c : Char) : Bool := c.isAlphanum || c = '_' || c = '-'

/-- Whether a text may contain the character. -/
def isPrintable (c : Char) : Bool :=
  let n := c.toNat
  n = 0x09 || n = 0x0A || n = 0x0D || (0x20 ≤ n && n ≤ 0x7E) || n = 0x85 ||
    (0xA0 ≤ n && n ≤ 0xD7FF) || (0xE000 ≤ n && n ≤ 0xFFFD) || 0x10000 ≤ n

namespace Cursor

/-- The character at the place. -/
def head? (c : Cursor) : Option Char := c.rest.head?

/-- The character `n` places further on. -/
def peek? (c : Cursor) (n : Nat) : Option Char := (c.rest.drop n).head?

/-- Whether the text ends here. -/
def isEnd (c : Cursor) : Bool := c.rest.isEmpty

/-- The place `n` characters further on in the line. -/
def skip (c : Cursor) (n : Nat) : Cursor :=
  { c with rest := c.rest.drop n, index := c.index + n, column := c.column + n }

/-- The place in the next line, `n` characters further on. -/
def nextLine (c : Cursor) (n : Nat) : Cursor := ⟨c.rest.drop n, c.index + n, c.line + 1, 0⟩

/-- Takes a line end, as the text that it stands for. -/
def takeBreak (c : Cursor) : String × Cursor :=
  match c.rest with
  | '\r' :: '\n' :: _ => ("\n", c.nextLine 2)
  | '\u2028' :: _ => ("\u2028", c.nextLine 1)
  | '\u2029' :: _ => ("\u2029", c.nextLine 1)
  | _ => ("\n", c.nextLine 1)

/-- Whether the text goes on with a blank or a line end, or not at all. -/
def spaceAt (c : Cursor) (n : Nat) : Bool := (c.peek? n).all isSpace

/-- Whether the line ends here. -/
def atLineEnd (c : Cursor) : Bool := c.head?.all isBreak

/-- Skips characters as long as they pass the test. -/
def skipWhile (p : Char → Bool) (c : Cursor) : Cursor := c.skip (c.rest.takeWhile p).length

/-- Takes characters as long as they pass the test. -/
def takeWhile (p : Char → Bool) (c : Cursor) : List Char × Cursor :=
  let taken := c.rest.takeWhile p
  (taken, c.skip taken.length)

/-- Skips a comment, if one stands here. -/
def skipComment (c : Cursor) : Cursor :=
  if c.head? = some '#' then c.skipWhile fun d => !isBreak d else c

/-- Whether three times `mark` stands at the start of the line, as a word of
its own. -/
def isMark (mark : Char) (c : Cursor) : Bool :=
  c.column = 0 && c.rest.take 3 = [mark, mark, mark] && c.spaceAt 3

/-- Whether a document mark stands here. -/
def isDocumentMark (c : Cursor) : Bool := c.isMark '-' || c.isMark '.'

end Cursor

end LineMachine.Yaml
