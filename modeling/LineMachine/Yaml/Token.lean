import LineMachine.Text.Utf8
import LineMachine.Yaml.Scalar

/-!
# `LineMachine.Yaml.Token`: the tokens of a YAML text

The structure of a text lies in its indentation as much as in its signs, and
a key is known as one only when its colon is read. The scanner keeps the
open indentations, and for each level of brackets the token that may turn
out to be a key.

* `Token` lists the tokens.
* `Scanner` is the state of the scanner.
* `Scanner.next` reads the next token or group of tokens.
* `tokens` reads all tokens of a text.
-/

set_option autoImplicit false

namespace LineMachine.Yaml

/-- A token. -/
inductive Token where
  | version (major minor : Nat)
  | tagHandle (handle meaning : String)
  | documentStart
  | documentEnd
  | blockSequence
  | blockMapping
  | blockEnd
  | flowSequence
  | flowSequenceEnd
  | flowMapping
  | flowMappingEnd
  | entry
  | comma
  | key
  | value
  | alias (name : String)
  | anchor (name : String)
  | tag (handle suffix : String)
  | scalar (text : String) (plain : Bool)
deriving Repr, DecidableEq

/-- A token that may turn out to be a key. -/
structure KeyCandidate where
  /-- whether nothing else may stand there -/
  required : Bool
  /-- the position of the token -/
  number : Nat
  /-- the place where it begins -/
  start : Cursor

/-- The state of the scanner. -/
structure Scanner where
  cursor : Cursor
  tokens : Array Token
  /-- the column of the innermost open block, -1 outside all -/
  indent : Int
  /-- the columns of the blocks around it -/
  indents : List Int
  /-- how many brackets are open -/
  flowLevel : Nat
  /-- whether a key may begin here -/
  keyAllowed : Bool
  /-- the candidates, innermost level first -/
  candidates : List (Option KeyCandidate)

namespace Scanner

/-- The scanner before a text. -/
def start (cs : List Char) : Scanner :=
  ⟨⟨cs, 0, 0, 0⟩, #[], -1, [], 0, true, [none]⟩

/-- The scanner with one more token. -/
def emit (s : Scanner) (t : Token) : Scanner := { s with tokens := s.tokens.push t }

/-- The scanner at another place. -/
def move (s : Scanner) (cursor : Cursor) : Scanner := { s with cursor }

/-- The scanner with `keyAllowed` set. -/
def allowKey (s : Scanner) (keyAllowed : Bool) : Scanner := { s with keyAllowed }

/-- Whether brackets are open. -/
def inFlow (s : Scanner) : Bool := 0 < s.flowLevel

/-- Drops the candidate of the present level. A required one was no key, and
that is a fault. -/
def dropCandidate (s : Scanner) : Except Fault Scanner :=
  match s.candidates with
  | some k :: rest =>
    if k.required then .error .simpleKey else .ok { s with candidates := none :: rest }
  | _ => .ok s

/-- Makes the next token a candidate, where a key may begin. -/
def markCandidate (s : Scanner) : Except Fault Scanner :=
  if s.keyAllowed then do
    let required := !s.inFlow && s.indent = (s.cursor.column : Int)
    let s ← s.dropCandidate
    .ok { s with candidates := some ⟨required, s.tokens.size, s.cursor⟩ :: s.candidates.tail }
  else .ok s

/-- Drops the candidates that cannot be keys any more: a key stands in one
line and is at most 1024 characters long. -/
def dropStale (s : Scanner) : Except Fault Scanner := do
  let check (k : Option KeyCandidate) : Except Fault (Option KeyCandidate) :=
    match k with
    | none => .ok none
    | some k =>
      if k.start.line < s.cursor.line || k.start.index + 1024 < s.cursor.index then
        if k.required then .error .simpleKey else .ok none
      else .ok (some k)
  let candidates ← s.candidates.mapM check
  .ok { s with candidates }

/-- Opens a block at a column further in, its token at position `number`. -/
def openBlock (s : Scanner) (column number : Nat) (t : Token) : Scanner :=
  if !s.inFlow && s.indent < (column : Int) then
    { s with
      indents := s.indent :: s.indents
      indent := column
      tokens := s.tokens.insertIdxIfInBounds number t }
  else s

/-- Closes the blocks that are further in than a column. -/
def closeBlocks (column : Int) : Nat → Scanner → Scanner
  | 0, s => s
  | steps + 1, s =>
    if !s.inFlow && column < s.indent then
      match s.indents with
      | [] => s
      | outer :: rest =>
        closeBlocks column steps { s.emit .blockEnd with indent := outer, indents := rest }
    else s

/-- Closes all blocks that are further in than a column. -/
def closeTo (s : Scanner) (column : Int) : Scanner := closeBlocks column s.indents.length s

/-- Skips blanks, comments and line ends. A tab counts as a blank where no key
may begin. -/
def skipToToken : Nat → Scanner → Scanner
  | 0, s => s
  | steps + 1, s =>
    let c := if s.cursor.index = 0 && s.cursor.head? = some '\uFEFF' then s.cursor.skip 1
      else s.cursor
    let tabs := s.inFlow || !s.keyAllowed
    let c := (c.skipWhile fun d => d = ' ' || (tabs && d = '\t')).skipComment
    if c.head?.any isBreak then
      let s := s.move c.takeBreak.2
      skipToToken steps (if s.inFlow then s else s.allowKey true)
    else s.move c

/-- Reads digits, at most nine. -/
def readNumber (c : Cursor) : Except Fault (Nat × Cursor) :=
  let (digits, c) := c.takeWhile Char.isDigit
  if digits.isEmpty || 9 < digits.length then .error .directive
  else .ok (digits.foldl (fun n d => 10 * n + (d.toNat - '0'.toNat)) 0, c)

/-- Reads a tag handle: `!`, `!!` or `!name!`. Outside a directive the last
sign may be missing. -/
def readHandle (inDirective : Bool) (c : Cursor) : Except Fault (List Char × Cursor) :=
  if c.head? ≠ some '!' then .error .tag
  else
    let (name, c) := (c.skip 1).takeWhile isWord
    if c.head? = some '!' then .ok ('!' :: (name ++ ['!']), c.skip 1)
    else if inDirective && !name.isEmpty then .error .tag
    else .ok ('!' :: name, c)

/-- Whether a character may stand in a tag. -/
def isTagCharacter (verbatim : Bool) (c : Char) : Bool :=
  isWord c || c ∈ [';', '/', '?', ':', '@', '&', '=', '+', '$', '.', '!', '~', '*', '\'', '(', ')']
    || (verbatim && (c = ',' || c = '[' || c = ']'))

/-- Reads bytes that are written as a percent sign and two digits. -/
def readOctets : Nat → Cursor → Except Fault (List UInt8 × Cursor)
  | 0, c => .ok ([], c)
  | steps + 1, c =>
    match c.rest with
    | '%' :: a :: b :: _ =>
      match Unicode.CharSet.hexValue? a, Unicode.CharSet.hexValue? b with
      | some x, some y => do
        let (more, c) ← readOctets steps (c.skip 3)
        .ok (UInt8.ofNat (16 * x + y) :: more, c)
      | _, _ => .error .tag
    | '%' :: _ => .error .tag
    | _ => .ok ([], c)

/-- Reads the characters of a tag. -/
def readTagText (verbatim : Bool) : Nat → Cursor → Except Fault (List Char × Cursor)
  | 0, c => .ok ([], c)
  | steps + 1, c =>
    match c.head? with
    | none => .ok ([], c)
    | some d =>
      if d = '%' then do
        let (bytes, c) ← readOctets c.rest.length c
        match Text.Utf8.decode? bytes with
        | none => .error .tag
        | some text =>
          let (more, c) ← readTagText verbatim steps c
          .ok (text.toList ++ more, c)
      else if isTagCharacter verbatim d then do
        let (more, c) ← readTagText verbatim steps (c.skip 1)
        .ok (d :: more, c)
      else .ok ([], c)

/-- Reads the characters of a tag and its handle. -/
def readTag (s : Scanner) (c : Cursor) : Except Fault (Token × Cursor) := do
  let (token, c) ← (
    if c.peek? 1 = some '<' then do
      let (text, c) ← readTagText true c.rest.length (c.skip 2)
      if text.isEmpty || c.head? ≠ some '>' then .error .tag
      else .ok (Token.tag "" (String.ofList text), c.skip 1)
    else do
      let (handle, c) ← readHandle false c
      let (text, c) ← readTagText false (c.rest.length + 1) c
      if 2 ≤ handle.length && handle.getLast? = some '!' then
        if text.isEmpty then .error .tag
        else .ok (.tag (String.ofList handle) (String.ofList text), c)
      else
        match handle.tail ++ text with
        | [] => .ok (.tag "" "!", c)
        | suffix => .ok (.tag "!" (String.ofList suffix), c)
    : Except Fault (Token × Cursor))
  if c.spaceAt 0 || (s.inFlow && c.head? = some ',') then .ok (token, c) else .error .tag

/-- Reads the value of a version directive. -/
def readVersion (c : Cursor) : Except Fault (Token × Cursor) := do
  let (major, c) ← readNumber (c.skipWhile isBlank)
  if c.head? ≠ some '.' then .error .directive
  else
    let (minor, c) ← readNumber (c.skip 1)
    .ok (.version major minor, c)

/-- Reads the value of a tag directive. -/
def readTagDirective (c : Cursor) : Except Fault (Token × Cursor) := do
  let (handle, c) ← readHandle true (c.skipWhile isBlank)
  if !c.head?.any isBlank then .error .directive
  else
    let (meaning, c) ← readTagText true c.rest.length (c.skipWhile isBlank)
    if meaning.isEmpty || !c.spaceAt 0 then .error .directive
    else .ok (.tagHandle (String.ofList handle) (String.ofList meaning), c)

/-- Reads a directive up to the end of its line. -/
def readDirective (c : Cursor) : Except Fault (Token × Cursor) := do
  let (name, c) := (c.skip 1).takeWhile isWord
  if !c.spaceAt 0 then .error .directive
  else
    let (token, c) ← match String.ofList name with
      | "YAML" => readVersion c
      | "TAG" => readTagDirective c
      | _ => .error .directive
    let c := (c.skipWhile isBlank).skipComment
    if !c.atLineEnd then .error .directive
    else .ok (token, if c.isEnd then c else c.takeBreak.2)

/-- Reads a sign at the start of a document: a directive or a document mark,
which close all blocks. -/
def atMargin (s : Scanner) (read : Cursor → Except Fault (Token × Cursor)) :
    Except Fault Scanner := do
  let s ← (s.closeTo (-1)).dropCandidate
  let (token, c) ← read s.cursor
  .ok (((s.allowKey false).emit token).move c)

/-- Opens a bracket. -/
def openFlow (s : Scanner) (t : Token) : Except Fault Scanner := do
  let s ← s.markCandidate
  let s := (s.emit t).move (s.cursor.skip 1)
  .ok { s with
    keyAllowed := true, flowLevel := s.flowLevel + 1, candidates := none :: s.candidates }

/-- Closes a bracket. -/
def closeFlow (s : Scanner) (t : Token) : Except Fault Scanner := do
  let s ← s.dropCandidate
  let s := (s.emit t).move (s.cursor.skip 1)
  .ok { s with
    keyAllowed := false
    candidates := if s.inFlow then s.candidates.tail else s.candidates
    flowLevel := s.flowLevel - 1 }

/-- Reads the comma between entries. -/
def readComma (s : Scanner) : Except Fault Scanner := do
  let s ← s.dropCandidate
  .ok (((s.allowKey true).emit .comma).move (s.cursor.skip 1))

/-- Reads the hyphen in front of an entry. -/
def readEntry (s : Scanner) : Except Fault Scanner := do
  if !s.inFlow && !s.keyAllowed then .error .blockContext
  else
    let s := s.openBlock s.cursor.column s.tokens.size .blockSequence
    let s ← s.dropCandidate
    .ok (((s.allowKey true).emit .entry).move (s.cursor.skip 1))

/-- Reads the question mark in front of a key. -/
def readKey (s : Scanner) : Except Fault Scanner := do
  if !s.inFlow && !s.keyAllowed then .error .blockContext
  else
    let s := s.openBlock s.cursor.column s.tokens.size .blockMapping
    let s ← s.dropCandidate
    .ok (((s.allowKey (!s.inFlow)).emit .key).move (s.cursor.skip 1))

/-- Reads the colon in front of a value. What stands before it becomes a key
if it is a candidate. -/
def readValue (s : Scanner) : Except Fault Scanner :=
  match s.candidates with
  | some k :: rest =>
    let tokens := s.tokens.insertIdxIfInBounds k.number .key
    let s := { s with tokens := tokens, candidates := none :: rest }
    let s := s.openBlock k.start.column k.number .blockMapping
    .ok (((s.allowKey false).emit .value).move (s.cursor.skip 1))
  | _ =>
    if !s.inFlow && !s.keyAllowed then .error .blockContext
    else
      let s := s.openBlock s.cursor.column s.tokens.size .blockMapping
      .ok (((s.allowKey (!s.inFlow)).emit .value).move (s.cursor.skip 1))

/-- Reads an anchor or an alias. -/
def readName (s : Scanner) (make : String → Token) : Except Fault Scanner := do
  let s ← s.markCandidate
  let (name, c) := (s.cursor.skip 1).takeWhile isWord
  let ends := c.spaceAt 0 || c.head?.any (· ∈ ['?', ':', ',', ']', '\x7d', '%', '@', '\x60'])
  if name.isEmpty || !ends then .error .anchor
  else .ok (((s.allowKey false).emit (make (String.ofList name))).move c)

/-- Reads a tag in front of a node. -/
def readNodeTag (s : Scanner) : Except Fault Scanner := do
  let s ← s.markCandidate
  let (token, c) ← s.readTag s.cursor
  .ok (((s.allowKey false).emit token).move c)

/-- Reads a block scalar. -/
def readBlockScalar (s : Scanner) (literal : Bool) : Except Fault Scanner := do
  let s ← s.dropCandidate
  let (text, c) ← readBlock literal s.indent (s.cursor.skip 1)
  .ok (((s.allowKey true).emit (.scalar text false)).move c)

/-- Reads a quoted scalar. -/
def readQuotedScalar (s : Scanner) (quote : Char) : Except Fault Scanner := do
  let s ← s.markCandidate
  let c := s.cursor.skip 1
  let (f, c) ← readQuoted quote (c.rest.length + 2) Folding.empty c
  .ok (((s.allowKey false).emit (.scalar f.text false)).move c)

/-- Reads a plain scalar. A key may begin behind it if it went to the next
line. -/
def readPlainScalar (s : Scanner) : Except Fault Scanner := do
  let s ← s.markCandidate
  let (f, c) ← readPlain s.inFlow s.indent (s.cursor.rest.length + 1) Folding.empty s.cursor
  .ok (((s.allowKey f.broken).emit (.scalar f.text true)).move c)

/-- The characters that begin no plain scalar. -/
def indicators : List Char :=
  ['-', '?', ':', ',', '[', ']', '\x7b', '\x7d', '#', '&', '*', '!', '|', '>', '\'', '"', '%', '@',
    '\x60']

/-- Whether a plain scalar begins here. -/
def plainBegins (s : Scanner) (d : Char) : Bool :=
  (!isSpace d && d ∉ indicators) ||
    (d = '-' && !(s.cursor.peek? 1).any isBlank) ||
    (!s.inFlow && (d = '?' || d = ':') && !s.cursor.spaceAt 1)

/-- Reads the next token at the present place, which is not the end. -/
def readToken (s : Scanner) (d : Char) : Except Fault Scanner :=
  let c := s.cursor
  let signed := c.spaceAt 1
  if c.column = 0 && d = '%' then s.atMargin readDirective
  else if c.isMark '-' then s.atMargin fun c => .ok (.documentStart, c.skip 3)
  else if c.isMark '.' then s.atMargin fun c => .ok (.documentEnd, c.skip 3)
  else if d = '[' then s.openFlow .flowSequence
  else if d = '\x7b' then s.openFlow .flowMapping
  else if d = ']' then s.closeFlow .flowSequenceEnd
  else if d = '\x7d' then s.closeFlow .flowMappingEnd
  else if d = ',' then s.readComma
  else if d = '-' && signed then s.readEntry
  else if d = '?' && (s.inFlow || signed) then s.readKey
  else if d = ':' && (s.inFlow || signed) then s.readValue
  else if d = '*' then s.readName .alias
  else if d = '&' then s.readName .anchor
  else if d = '!' then s.readNodeTag
  else if d = '|' && !s.inFlow then s.readBlockScalar true
  else if d = '>' && !s.inFlow then s.readBlockScalar false
  else if d = '\'' || d = '"' then s.readQuotedScalar d
  else if s.plainBegins d then s.readPlainScalar
  else .error .unknownStart

/-- Reads all tokens up to the end of the text. -/
def run : Nat → Scanner → Except Fault (Array Token)
  | 0, _ => .error .steps
  | steps + 1, s => do
    let s := skipToToken (s.cursor.rest.length + 1) s
    let s ← s.dropStale
    match s.cursor.head? with
    | none =>
      let s ← (s.closeTo (-1)).dropCandidate
      .ok s.tokens
    | some d => run steps (← (s.closeTo s.cursor.column).readToken d)

end Scanner

/-- The tokens of a text. A byte order mark may stand in front of it. -/
def tokens (text : String) : Except Fault (List Token) :=
  let cs := match text.toList with
    | '\uFEFF' :: rest => rest
    | cs => cs
  if cs.all isPrintable then
    (Scanner.run (cs.length + 2) (Scanner.start cs)).map Array.toList
  else .error .controlCharacter

end LineMachine.Yaml
