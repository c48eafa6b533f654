import LineMachine.Toml.Document
import LineMachine.Toml.Scalar

/-!
# `LineMachine.Toml.Parser`: TOML text

* `readKey` reads a dotted key.
* `readValue` reads a value, in brackets or not.
* `readStatements` reads the lines of a text.
* `parse` reads a text as the entries of its outermost table.
-/

set_option autoImplicit false

namespace LineMachine.Toml

/-- How many parts a key has at most, and how many brackets may be open. -/
def depthLimit : Nat := 79

/-! ### Keys -/

/-- Whether a character may stand in a key without quotes. -/
def isKeyChar (c : Char) : Bool := c.isAlphanum || c = '_' || c = '-'

/-- Reads one part of a key. -/
def readKeyPart (cs : List Char) : Except Fault (String × List Char) :=
  match cs with
  | '"' :: rest => (basicText false false rest).map fun r => (String.ofList r.1, r.2)
  | '\'' :: rest => (literalText false rest).map fun r => (String.ofList r.1, r.2)
  | _ =>
    let word := cs.takeWhile isKeyChar
    if word.isEmpty then .error .keyExpected
    else .ok (String.ofList word, cs.drop word.length)

/-- Reads a key of at most `parts` parts, and the blanks behind it. -/
def readKeyParts : Nat → List Char → Except Fault (Key × List Char)
  | 0, _ => .error .tooDeep
  | parts + 1, cs => do
    let (part, rest) ← readKeyPart (skipBlanks cs)
    match skipBlanks rest with
    | '.' :: rest =>
      let (key, rest) ← readKeyParts parts rest
      .ok (key.inside part, rest)
    | rest => .ok (⟨[], part⟩, rest)

/-- Reads a key. -/
def readKey (cs : List Char) : Except Fault (Key × List Char) := readKeyParts depthLimit cs

/-! ### Values -/

/-- Drops blanks, line ends and comments. -/
def skipGap (inComment : Bool) : List Char → Except Fault (List Char)
  | [] => .ok []
  | '\r' :: '\n' :: rest => skipGap false rest
  | '\n' :: rest => skipGap false rest
  | c :: rest =>
    if inComment then
      if isTextChar c then skipGap true rest else .error .controlCharacter
    else if isBlank c then skipGap false rest
    else if c = '#' then skipGap true rest
    else .ok (c :: rest)

/-- Reads the items of an array behind its bracket or a comma. -/
def readItems (read : List Char → Except Fault (Value × List Char)) :
    Nat → List Char → Except Fault (List Value × List Char)
  | 0, _ => .error .steps
  | steps + 1, cs => do
    match ← skipGap false cs with
    | ']' :: rest => .ok ([], rest)
    | cs =>
      let (item, rest) ← read cs
      match ← skipGap false rest with
      | ',' :: rest =>
        let (more, rest) ← readItems read steps rest
        .ok (item :: more, rest)
      | ']' :: rest => .ok ([item], rest)
      | _ => .error .bracketExpected

/-- Reads a key and its value. -/
def readPair (read : List Char → Except Fault (Value × List Char)) (cs : List Char) :
    Except Fault ((Key × Value) × List Char) := do
  let (key, rest) ← readKey cs
  match rest with
  | '=' :: rest =>
    let (v, rest) ← read (skipBlanks rest)
    .ok ((key, v), rest)
  | _ => .error .equalsExpected

/-- Reads the entries of a table in brackets, of which there is one at
least. -/
def readPairs (read : List Char → Except Fault (Value × List Char)) :
    Nat → List Char → Except Fault (List (Key × Value) × List Char)
  | 0, _ => .error .steps
  | steps + 1, cs => do
    let (pair, rest) ← readPair read cs
    match skipBlanks rest with
    | ',' :: rest =>
      let (more, rest) ← readPairs read steps rest
      .ok (pair :: more, rest)
    | '\x7d' :: rest => .ok ([pair], rest)
    | _ => .error .bracketExpected

/-- Reads a table in brackets behind the first one. -/
def readTable (read : List Char → Except Fault (Value × List Char)) (cs : List Char) :
    Except Fault (Value × List Char) := do
  match skipBlanks cs with
  | '\x7d' :: rest => .ok (.table [], rest)
  | cs =>
    let (pairs, rest) ← readPairs read (cs.length + 1) cs
    let entries ← ofPairs pairs
    .ok (.table entries, rest)

/-- Reads a value in which at most `depth` brackets are open at a time. -/
def readNested : Nat → List Char → Except Fault (Value × List Char)
  | 0, cs =>
    match cs with
    | '[' :: _ => .error .tooDeep
    | '\x7b' :: _ => .error .tooDeep
    | _ => readScalar cs
  | depth + 1, cs =>
    match cs with
    | '[' :: rest =>
      (readItems (readNested depth) (rest.length + 1) rest).map fun r => (.array r.1, r.2)
    | '\x7b' :: rest => readTable (readNested depth) rest
    | _ => readScalar cs

/-- Reads a value. -/
def readValue (cs : List Char) : Except Fault (Value × List Char) := readNested depthLimit cs

/-! ### Lines -/

/-- Drops blanks, a comment and the line end. -/
def endLine (cs : List Char) : Except Fault (List Char) :=
  let rest := match skipBlanks cs with
    | '#' :: comment => comment.dropWhile isTextChar
    | rest => rest
  match rest with
  | [] => .ok []
  | '\n' :: rest => .ok rest
  | '\r' :: '\n' :: rest => .ok rest
  | _ => .error .lineEndExpected

/-- Reads a header behind its opening brackets. -/
def readHeader (closing : List Char) (cs : List Char) : Except Fault (Key × List Char) := do
  let (key, rest) ← readKey cs
  if closing.isPrefixOf rest then .ok (key, rest.drop closing.length) else .error .bracketExpected

/-- Reads a line that is not empty. -/
def readStatement (cs : List Char) : Except Fault (Statement × List Char) :=
  match cs with
  | '[' :: '[' :: rest => (readHeader [']', ']'] rest).map fun r => (.elementHeader r.1, r.2)
  | '[' :: rest => (readHeader [']'] rest).map fun r => (.header r.1, r.2)
  | _ => (readPair readValue cs).map fun r => (.entry r.1.1 r.1.2, r.2)

/-- Whether there is nothing but a comment on a line. -/
def isBlankLine (cs : List Char) : Bool := cs.head? = some '#' || startsBreak cs

/-- Reads lines, at most `lines` of them. -/
def readStatements : Nat → List Char → Except Fault (List Statement)
  | 0, _ => .error .steps
  | lines + 1, cs => do
    let cs := skipBlanks cs
    if cs.isEmpty then .ok []
    else if isBlankLine cs then readStatements lines (← endLine cs)
    else
      let (statement, rest) ← readStatement cs
      let more ← readStatements lines (← endLine rest)
      .ok (statement :: more)

/-- Reads a text. A byte order mark may precede it. -/
def parse (text : String) : Except Fault (List (String × Value)) := do
  let cs := match text.toList with
    | '\uFEFF' :: rest => rest
    | cs => cs
  Document.ofStatements (← readStatements (cs.length + 1) cs)

end LineMachine.Toml
