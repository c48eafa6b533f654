import LineMachine.Yaml.Cursor

/-!
# `LineMachine.Yaml.Scalar`: the text of scalars

A scalar may go over several lines. Its line ends are folded: one line end
becomes a blank, several become one less.

* `Folding` is a scalar that is being read, with what was read since its
  last visible character.
* `readPlain`, `readQuoted` and `readBlock` read the three forms.
-/

set_option autoImplicit false

namespace LineMachine.Yaml

/-- A scalar that is being read. -/
structure Folding where
  /-- the text so far -/
  text : String
  /-- the blanks since -/
  blanks : String
  /-- the first line end since, and the others -/
  firstBreak : String
  moreBreaks : String
  /-- whether a line ended since -/
  broken : Bool

namespace Folding

/-- Nothing was read. -/
def empty : Folding := ⟨"", "", "", "", false⟩

/-- What stands for the blanks and line ends that were read. -/
def pending (f : Folding) : String :=
  if !f.broken then f.blanks
  else if f.firstBreak = "\n" then (if f.moreBreaks = "" then " " else f.moreBreaks)
  else f.firstBreak ++ f.moreBreaks

/-- The text with what is pending. -/
def settle (f : Folding) : Folding := ⟨f.text ++ f.pending, "", "", "", false⟩

/-- One more visible character. -/
def push (f : Folding) (c : Char) : Folding := { f with text := f.text.push c }

/-- One more blank. Blanks at the start of a line do not count. -/
def pushBlank (f : Folding) (c : Char) : Folding :=
  if f.broken then f else { f with blanks := f.blanks.push c }

/-- One more line end. -/
def pushBreak (f : Folding) (b : String) : Folding :=
  if f.broken then { f with moreBreaks := f.moreBreaks ++ b }
  else { f with blanks := "", firstBreak := b, broken := true }

end Folding

/-- Reads blanks and line ends. At the start of a line a tab in front of
column `least` is a fault. -/
def readSpaces (least : Int) : Nat → Folding → Cursor → Except Fault (Folding × Cursor)
  | 0, f, c => .ok (f, c)
  | steps + 1, f, c =>
    match c.head? with
    | none => .ok (f, c)
    | some d =>
      if isBlank d then
        if f.broken && d = '\t' && (c.column : Int) < least then .error .tabIndentation
        else readSpaces least steps (f.pushBlank d) (c.skip 1)
      else if isBreak d then
        let (b, c) := c.takeBreak
        readSpaces least steps (f.pushBreak b) c
      else .ok (f, c)

/-- Whether a character ends a plain scalar inside brackets. -/
def isFlowIndicator (c : Char) : Bool :=
  c = ',' || c = '[' || c = ']' || c = '\x7b' || c = '\x7d'

/-- Reads the visible characters of a plain scalar. -/
def readPlainWord (inFlow : Bool) : Nat → Folding → Cursor → Except Fault (Folding × Cursor)
  | 0, f, c => .ok (f, c)
  | steps + 1, f, c =>
    match c.head? with
    | none => .ok (f, c)
    | some d =>
      if isSpace d then .ok (f, c)
      else if inFlow && d = ':' && (c.peek? 1).any (fun e => isFlowIndicator e || e = '?') then
        .error .flowColon
      else if (d = ':' && c.spaceAt 1) || (inFlow && isFlowIndicator d) then .ok (f, c)
      else readPlainWord inFlow steps (f.settle.push d) (c.skip 1)

/-- Reads a plain scalar inside a node that is indented by `indent`. -/
def readPlain (inFlow : Bool) (indent : Int) : Nat → Folding → Cursor →
    Except Fault (Folding × Cursor)
  | 0, f, c => .ok (f, c)
  | steps + 1, f, c =>
    if c.isDocumentMark || c.head? = some '#' then .ok (f, c)
    else do
      let (f, c) ← readPlainWord inFlow (c.rest.length + 1) f c
      if c.head?.any isSpace then
        let (f, c) ← readSpaces (indent + 1) (c.rest.length + 1) f c
        if !inFlow && (c.column : Int) < indent + 1 then .ok (f, c)
        else readPlain inFlow indent steps f c
      else .ok (f, c)

/-- What a letter behind a backslash stands for: a character, or a code of
some digits. -/
def escapeOf? : Char → Option (Char ⊕ Nat)
  | '0' => some (.inl '\x00')
  | 'a' => some (.inl '\x07')
  | 'b' => some (.inl '\x08')
  | 't' => some (.inl '\t')
  | '\t' => some (.inl '\t')
  | 'n' => some (.inl '\n')
  | 'v' => some (.inl '\x0b')
  | 'f' => some (.inl '\x0c')
  | 'r' => some (.inl '\r')
  | 'e' => some (.inl '\x1b')
  | ' ' => some (.inl ' ')
  | '"' => some (.inl '"')
  | '/' => some (.inl '/')
  | '\\' => some (.inl '\\')
  | 'N' => some (.inl '\x85')
  | '_' => some (.inl '\xa0')
  | 'L' => some (.inl '\u2028')
  | 'P' => some (.inl '\u2029')
  | 'x' => some (.inr 2)
  | 'u' => some (.inr 4)
  | 'U' => some (.inr 8)
  | _ => none

/-- Reads an escape, the cursor behind the backslash. -/
def readEscape (c : Cursor) : Except Fault (Char × Cursor) :=
  match c.head?.bind escapeOf? with
  | none => .error .escape
  | some (.inl d) => .ok (d, c.skip 1)
  | some (.inr width) =>
    let digits := (c.rest.drop 1).take width
    match digits.mapM Unicode.CharSet.hexValue? with
    | none => .error .escape
    | some values =>
      let code := values.foldl (fun n x => 16 * n + x) 0
      if values.length = width ∧ code.isValidChar then .ok (Char.ofNat code, c.skip (width + 1))
      else .error .escape

/-- Reads the visible characters of a quoted scalar, up to the quote. -/
def readQuotedWord (quote : Char) : Nat → Folding → Cursor → Except Fault (Folding × Cursor)
  | 0, f, c => .ok (f, c)
  | steps + 1, f, c =>
    match c.head? with
    | none => .ok (f, c)
    | some d =>
      if isSpace d then .ok (f, c)
      else if quote = '\'' && d = '\'' && c.peek? 1 = some '\'' then
        readQuotedWord quote steps (f.push '\'') (c.skip 2)
      else if d = quote then .ok (f, c)
      else if quote = '"' && d = '\\' then
        if (c.peek? 1).any isBreak then
          .ok ({ f with broken := true }, (c.skip 1).takeBreak.2)
        else do
          let (e, c) ← readEscape (c.skip 1)
          readQuotedWord quote steps (f.push e) c
      else readQuotedWord quote steps (f.push d) (c.skip 1)

/-- Reads a quoted scalar behind its opening quote. -/
def readQuoted (quote : Char) : Nat → Folding → Cursor → Except Fault (Folding × Cursor)
  | 0, _, _ => .error .unclosedQuote
  | steps + 1, f, c =>
    if c.isDocumentMark then .error .documentMark
    else if c.isEnd then .error .unclosedQuote
    else do
      let (f, c) ← readQuotedWord quote (c.rest.length + 1) f c
      if c.head? = some quote && !f.broken then .ok (f, c.skip 1)
      else if c.head? = some quote then .ok (f.settle, c.skip 1)
      else
        let (f, c) ← readSpaces 0 (c.rest.length + 1) f c
        readQuoted quote steps f.settle c

/-- The line ends and the indentation in front of a line of a block scalar.
An indentation of 0 is not known yet; the widest one of the empty lines is
counted. -/
def readBlockBreaks (indent : Nat) : Nat → Nat → String → Cursor →
    Except Fault (Nat × String × Cursor)
  | 0, widest, breaks, c => .ok (widest, breaks, c)
  | steps + 1, widest, breaks, c =>
    let room := if indent = 0 then c.rest.length else indent - c.column
    let c := c.skip ((c.rest.take room).takeWhile (· = ' ')).length
    let widest := max widest c.column
    if (indent = 0 || c.column < indent) && c.head? = some '\t' then .error .blockScalar
    else if c.head?.any isBreak then
      let (b, c) := c.takeBreak
      readBlockBreaks indent steps widest (breaks ++ b) c
    else .ok (widest, breaks, c)

/-- A block scalar that is being read. -/
structure BlockText where
  text : String
  /-- the end of the last line, and the empty lines behind it -/
  lastBreak : String
  emptyLines : String
  /-- whether the last line began with a blank -/
  indented : Bool

/-- Reads the lines of a block scalar. Lines that begin with a blank are not
folded. -/
def readBlockLines (literal : Bool) (indent : Nat) : Nat → BlockText → Cursor →
    Except Fault (BlockText × Cursor)
  | 0, b, c => .ok (b, c)
  | steps + 1, b, c =>
    if c.column ≠ indent || c.isEnd then .ok (b, c)
    else do
      let blank := c.head?.any isBlank
      let folded := !literal && b.lastBreak = "\n" && !b.indented && !blank
      let glue :=
        if folded then (if b.emptyLines = "" then " " else b.emptyLines)
        else b.lastBreak ++ b.emptyLines
      let (line, c) := c.takeWhile fun d => !isBreak d
      let text := b.text ++ glue ++ String.ofList line
      let (lastBreak, c) := if c.isEnd then ("", c) else c.takeBreak
      let (_, emptyLines, c) ← readBlockBreaks indent (c.rest.length + 1) 0 "" c
      readBlockLines literal indent steps ⟨text, lastBreak, emptyLines, blank⟩ c

/-- Reads the marks behind the sign of a block scalar: what to keep of its
end, and how deep it is indented. -/
def readBlockHeader (c : Cursor) : Except Fault (Option Bool × Nat × Cursor) :=
  let chomping (c : Cursor) : Option Bool × Cursor :=
    match c.head? with
    | some '+' => (some true, c.skip 1)
    | some '-' => (some false, c.skip 1)
    | _ => (none, c)
  let increment (c : Cursor) : Except Fault (Nat × Cursor) :=
    match c.head? with
    | some d =>
      if d = '0' then .error .blockScalar
      else if d.isDigit then .ok (d.toNat - '0'.toNat, c.skip 1)
      else .ok (0, c)
    | none => .ok (0, c)
  match chomping c with
  | (some keep, c) => do
    let (n, c) ← increment c
    .ok (some keep, n, c)
  | (none, c) => do
    let (n, c) ← increment c
    let (keep, c) := if n = 0 then (none, c) else chomping c
    .ok (keep, n, c)

/-- Reads a block scalar behind its sign, inside a node that is indented by
`parent`. -/
def readBlock (literal : Bool) (parent : Int) (c : Cursor) : Except Fault (String × Cursor) := do
  let (keep, increment, c) ← readBlockHeader c
  let c := (c.skipWhile isBlank).skipComment
  if !c.atLineEnd then .error .blockScalar
  else
    let c := if c.isEnd then c else c.takeBreak.2
    let known := if increment = 0 then 0 else (max parent 0).toNat + increment
    let (widest, breaks, c) ← readBlockBreaks known (c.rest.length + 1) 0 "" c
    let indent := if known ≠ 0 then known else max (max widest (parent + 1).toNat) 1
    let (b, c) ← readBlockLines literal indent (c.rest.length + 1) ⟨"", "", breaks, false⟩ c
    let text := match keep with
      | some false => b.text
      | none => b.text ++ b.lastBreak
      | some true => b.text ++ b.lastBreak ++ b.emptyLines
    .ok (text, c)

end LineMachine.Yaml
