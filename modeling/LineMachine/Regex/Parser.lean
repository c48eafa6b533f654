import LineMachine.Regex.Syntax
import LineMachine.Unicode.Lookup

/-!
# `LineMachine.Regex.Parser`: reading a regular expression

A recursive descent over the characters of the text. Every function takes
the cursor at its construct and gives the cursor behind it.

* `Cursor` is the place in the text, with what was counted on the way.
* `escape`, `bracket`, `groupHead` and `counts` read the constructs.
* `scan` reads alternatives up to a closing parenthesis or the end.
* `parse` reads a whole text.

The functions that call themselves take a number of steps, which `parse`
sets to the length of the text: each step consumes a character.
-/

set_option autoImplicit false

namespace LineMachine.Regex

open LineMachine.Unicode

/-- A place in the text of an expression. -/
structure Cursor where
  /-- the text from here on -/
  rest : List Char
  /-- whether blanks and comments are skipped -/
  verbose : Bool
  /-- how many capture groups were opened -/
  groups : Nat
  /-- the group names given so far -/
  names : List String

/-- Skips white space and comments, which end with the line. -/
def skipBlanks (inComment : Bool) : List Char → List Char
  | [] => []
  | c :: cs =>
    if inComment then skipBlanks (c ≠ '\n') cs
    else if spaceSet.contains c then skipBlanks false cs
    else if c = '#' then skipBlanks true cs
    else c :: cs

namespace Cursor

/-- The cursor with another rest. -/
def seek (c : Cursor) (rest : List Char) : Cursor := { c with rest }

/-- The cursor behind blanks, where these have no meaning. -/
def skip (c : Cursor) : Cursor :=
  if c.verbose then c.seek (skipBlanks false c.rest) else c

/-- The cursor one character on, and behind blanks. -/
def advance (c : Cursor) : Cursor := (c.seek c.rest.tail).skip

/-- The next character but one that has a meaning. -/
def peek? (c : Cursor) : Option Char :=
  match c.rest with
  | [] => none
  | _ :: cs =>
    if c.verbose then (scanAhead false cs).or cs.head? else cs.head?
where
  /-- Looks behind blanks; the first visible character behind the mark of a
  comment counts. -/
  scanAhead (marked : Bool) : List Char → Option Char
    | [] => none
    | c :: cs =>
      if spaceSet.contains c then scanAhead marked cs
      else if !marked && c = '#' then scanAhead true cs
      else some c

end Cursor

/-- The characters that stand for themselves only when escaped. -/
def metaCharacters : List Char :=
  ['\\', '.', '+', '*', '?', '(', ')', '|', '[', ']', '\x7b', '\x7d', '^', '$', '#', '&', '-', '~']

/-- Whether a backslash before `c` makes `c` a literal. -/
def isEscapable (c : Char) : Bool :=
  c ∈ metaCharacters || (c.toNat < 0x80 && !c.isAlphanum && c ≠ '<' && c ≠ '>')

/-- What one escape, or one character, stands for. -/
inductive Primitive where
  | char (c : Char) (byte : Bool)
  | anchor (a : Anchor)
  | letter (kind : LetterClass) (negated : Bool)
  | property (p : Property) (negated : Bool)

/-- The primitive as an expression. -/
def Primitive.toNode : Primitive → Node
  | .char c byte => .char c byte
  | .anchor a => .anchor a
  | .letter kind negated => .letter kind negated
  | .property p negated => .property p negated

/-- The primitive as an item between brackets. -/
def Primitive.toItem : Primitive → Except Fault ClassItem
  | .char c byte => .ok (.char c byte)
  | .letter kind negated => .ok (.letter kind negated)
  | .property p negated => .ok (.property p negated)
  | .anchor _ => .error .classItemInvalid

/-- The character with the code that the hexadecimal digits write. -/
def charOfHex? (digits : List Char) : Option Char :=
  let code := digits.foldl (fun n d => 16 * n + (CharSet.hexValue? d).getD 0) 0
  if digits.isEmpty then none
  else if code.isValidChar then some (Char.ofNat code) else none

/-- Reads exactly `count` hexadecimal digits, the cursor at the first. -/
def hexDigits : Nat → Cursor → Except Fault ((List Char) × Cursor)
  | 0, c => .ok ([], c)
  | count + 1, c =>
    match c.rest with
    | d :: _ =>
      if (CharSet.hexValue? d).isSome then do
        let (ds, c) ← hexDigits count c.advance
        .ok (d :: ds, c)
      else .error .hexInvalid
    | [] => .error .escapeUnfinished

/-- Reads hexadecimal digits up to a closing brace. -/
def bracedHex : Nat → Cursor → Except Fault ((List Char) × Cursor)
  | 0, _ => .error .escapeUnfinished
  | steps + 1, c =>
    match c.rest with
    | [] => .error .escapeUnfinished
    | d :: _ =>
      if d = '\x7d' then .ok ([], c.advance)
      else if (CharSet.hexValue? d).isSome then do
        let (ds, c) ← bracedHex steps c.advance
        .ok (d :: ds, c)
      else .error .hexInvalid

/-- Reads the rest of `\x`, `\u` or `\U`, whose fixed form has `width`
digits. -/
def hexEscape (width : Nat) (c : Cursor) : Except Fault (Primitive × Cursor) := do
  let c := c.skip
  match c.rest with
  | [] => .error .escapeUnfinished
  | d :: _ =>
    let braced := d = '\x7b'
    let (digits, c) ← if braced then bracedHex c.rest.length c.advance else hexDigits width c
    match charOfHex? digits with
    | some ch => .ok (.char ch (!braced && width = 2), c)
    | none => .error .hexInvalid

/-- Reads the characters up to a closing brace. -/
def braced : Nat → Cursor → Except Fault ((List Char) × Cursor)
  | 0, _ => .error .escapeUnfinished
  | steps + 1, c =>
    match c.rest with
    | [] => .error .escapeUnfinished
    | d :: ds =>
      if d = '\x7d' then .ok ([], c.seek ds)
      else do
        let (name, c) ← braced steps c.advance
        .ok (d :: name, c)

/-- Splits at the first place where the text `mark` stands. -/
def splitAt? (mark : List Char) : List Char → Option (List Char × List Char)
  | [] => none
  | c :: cs =>
    if mark.isPrefixOf (c :: cs) then some ([], (c :: cs).drop mark.length)
    else (splitAt? mark cs).map fun (before, after) => (c :: before, after)

/-- The property that the text in the braces of `\p` names, and whether it
asks for the opposite. -/
def propertyOf (text : List Char) : Property × Bool :=
  let valued (parts : List Char × List Char) : Property :=
    .valued (String.ofList parts.1) (String.ofList parts.2)
  match splitAt? ['!', '='] text, splitAt? [':'] text, splitAt? ['='] text with
  | some parts, _, _ => (valued parts, true)
  | none, some parts, _ => (valued parts, false)
  | none, none, some parts => (valued parts, false)
  | none, none, none => (.named (String.ofList text), false)

/-- Reads the rest of `\p` or `\P`. -/
def propertyEscape (negated : Bool) (c : Cursor) : Except Fault (Primitive × Cursor) := do
  let c := c.skip
  match c.rest with
  | [] => .error .escapeUnfinished
  | '\\' :: _ => .error .propertyUnknown
  | d :: _ =>
    if d = '\x7b' then
      let (text, c) ← braced c.rest.length c.advance
      let (p, opposite) := propertyOf text
      .ok (.property p (negated != opposite), c)
    else .ok (.property (.named (String.singleton d)) negated, c.advance)

/-- Reads the name of a word boundary, the cursor inside its braces. -/
def boundaryName : Nat → Cursor → List Char × Cursor
  | 0, c => ([], c)
  | steps + 1, c =>
    match c.rest with
    | d :: _ =>
      if d.isAlpha || d = '-' then
        let (name, c) := boundaryName steps c.advance
        (d :: name, c)
      else ([], c)
    | [] => ([], c)

/-- Reads what follows `\b`. A brace with no letter behind it is left for a
count. -/
def wordBoundary (c : Cursor) : Except Fault (Primitive × Cursor) :=
  match c.rest with
  | '\x7b' :: _ =>
    let inner := c.advance
    match inner.rest with
    | [] => .error .wordBoundaryUnrecognized
    | d :: _ =>
      if d.isAlpha || d = '-' then
        let (name, c) := boundaryName inner.rest.length inner
        match c.rest with
        | '\x7d' :: after =>
          match String.ofList name with
          | "start" => .ok (.anchor (.word .start), c.seek after)
          | "end" => .ok (.anchor (.word .stop), c.seek after)
          | "start-half" => .ok (.anchor (.word .startHalf), c.seek after)
          | "end-half" => .ok (.anchor (.word .stopHalf), c.seek after)
          | _ => .error .wordBoundaryUnrecognized
        | _ => .error .wordBoundaryUnrecognized
      else .ok (.anchor (.word .boundary), c)
  | _ => .ok (.anchor (.word .boundary), c)

/-- Reads an escape, the cursor behind the backslash. -/
def escape (c : Cursor) : Except Fault (Primitive × Cursor) :=
  match c.rest with
  | [] => .error .escapeUnfinished
  | d :: after =>
    let next := c.seek after
    if d.isDigit then .error .backreferenceUnsupported
    else if isEscapable d then .ok (.char d false, next)
    else
      match d with
      | 'x' => hexEscape 2 next
      | 'u' => hexEscape 4 next
      | 'U' => hexEscape 8 next
      | 'p' => propertyEscape false next
      | 'P' => propertyEscape true next
      | 'd' => .ok (.letter .digit false, next)
      | 'D' => .ok (.letter .digit true, next)
      | 's' => .ok (.letter .space false, next)
      | 'S' => .ok (.letter .space true, next)
      | 'w' => .ok (.letter .word false, next)
      | 'W' => .ok (.letter .word true, next)
      | 'a' => .ok (.char '\x07' false, next)
      | 'f' => .ok (.char '\x0c' false, next)
      | 't' => .ok (.char '\t' false, next)
      | 'n' => .ok (.char '\n' false, next)
      | 'r' => .ok (.char '\r' false, next)
      | 'v' => .ok (.char '\x0b' false, next)
      | 'A' => .ok (.anchor .textStart, next)
      | 'z' => .ok (.anchor .textEnd, next)
      | 'b' => wordBoundary next
      | 'B' => .ok (.anchor (.word .inside), next)
      | '<' => .ok (.anchor (.word .start), next)
      | '>' => .ok (.anchor (.word .stop), next)
      | _ => .error .escapeUnrecognized

/-- The ASCII class with this name. -/
def AsciiClass.ofName? : String → Option AsciiClass
  | "alnum" => some .alnum
  | "alpha" => some .alpha
  | "ascii" => some .ascii
  | "blank" => some .blank
  | "cntrl" => some .cntrl
  | "digit" => some .digit
  | "graph" => some .graph
  | "lower" => some .lower
  | "print" => some .print
  | "punct" => some .punct
  | "space" => some .space
  | "upper" => some .upper
  | "word" => some .word
  | "xdigit" => some .xdigit
  | _ => none

/-- An ASCII class such as `[:alpha:]` at the front of the text, with the
text behind it. -/
def asciiClass? : List Char → Option (ClassItem × List Char)
  | '[' :: ':' :: text =>
    let negated := text.head? = some '^'
    let text := if negated then text.tail else text
    let name := text.takeWhile (· ≠ ':')
    match text.dropWhile (· ≠ ':') with
    | ':' :: ']' :: after =>
      (AsciiClass.ofName? (String.ofList name)).map fun kind => (.ascii kind negated, after)
    | _ => none
  | _ => none

/-- Reads one character or escape between brackets. -/
def classPrimitive (c : Cursor) : Except Fault (Primitive × Cursor) :=
  match c.rest with
  | [] => .error .classUnclosed
  | '\\' :: after => escape (c.seek after)
  | d :: after => .ok (.char d false, c.seek after)

/-- Reads a range or a single item between brackets. A hyphen before the
closing bracket or before another hyphen makes no range. -/
def classRange (c : Cursor) : Except Fault (ClassItem × Cursor) := do
  let (first, c) ← classPrimitive c
  let c := c.skip
  match c.rest with
  | [] => .error .classUnclosed
  | d :: _ =>
    if d ≠ '-' || c.peek? = some ']' || c.peek? = some '-' then
      .ok (← first.toItem, c)
    else
      let c := c.advance
      let (last, c) ← classPrimitive c
      match first, last with
      | .char a aByte, .char b bByte =>
        if a ≤ b then .ok (.range a aByte b bByte, c) else .error .classRangeInvalid
      | _, _ => .error .classItemInvalid

/-- What stands between an opening bracket and its first plain item: whether
the set is negated, and the hyphens or the bracket that are literals there. -/
def bracketHead (c : Cursor) : Except Fault ((Bool × List ClassItem) × Cursor) :=
  let c := c.skip
  let negated := c.rest.head? = some '^'
  let c := if negated then c.advance else c
  let (hyphens, c) := leadingHyphens c.rest.length c
  match hyphens, c.rest with
  | _, [] => .error .classUnclosed
  | [], ']' :: _ => .ok ((negated, [.char ']' false]), c.advance)
  | _, _ => .ok ((negated, hyphens), c)
where
  /-- The hyphens at the front. -/
  leadingHyphens : Nat → Cursor → List ClassItem × Cursor
    | 0, c => ([], c)
    | steps + 1, c =>
      match c.rest with
      | '-' :: _ =>
        let (more, c) := leadingHyphens steps c.advance
        (.char '-' false :: more, c)
      | _ => ([], c)

/-- A set of items as the right side of the operation that waits for it. -/
def applyPending (pending : Option (SetOp × ClassSet)) (items : List ClassItem) : ClassSet :=
  match pending with
  | none => .items items.reverse
  | some (kind, left) => .op kind left (.items items.reverse)

/-- Reads the items of a set up to its closing bracket. `pending` is the
operation whose right side is being read, `items` that side so far, last item
first. -/
def bracketBody : Nat → Option (SetOp × ClassSet) → List ClassItem → Cursor →
    Except Fault (ClassSet × Cursor)
  | 0, _, _, _ => .error .classUnclosed
  | steps + 1, pending, items, c =>
    let c := c.skip
    match c.rest with
    | [] => .error .classUnclosed
    | ']' :: after => .ok (applyPending pending items, c.seek after)
    | '&' :: '&' :: after =>
      bracketBody steps (some (.inter, applyPending pending items)) [] (c.seek after)
    | '-' :: '-' :: after =>
      bracketBody steps (some (.diff, applyPending pending items)) [] (c.seek after)
    | '~' :: '~' :: after =>
      bracketBody steps (some (.symmDiff, applyPending pending items)) [] (c.seek after)
    | '[' :: after =>
      match asciiClass? c.rest with
      | some (item, behind) => bracketBody steps pending (item :: items) (c.seek behind)
      | none => do
        let ((negated, head), c) ← bracketHead (c.seek after)
        let (set, c) ← bracketBody steps none head.reverse c
        bracketBody steps pending (.nested negated set :: items) c
    | _ => do
      let (item, c) ← classRange c
      bracketBody steps pending (item :: items) c

/-- Reads a set in brackets, the cursor behind the opening one. -/
def bracket (c : Cursor) : Except Fault (Node × Cursor) := do
  let ((negated, head), c) ← bracketHead c
  let (set, c) ← bracketBody (c.rest.length + 1) none head.reverse c
  .ok (.bracket negated set, c)

/-- Whether `c` may stand in a group name. -/
def isNameCharacter (first : Bool) (c : Char) : Bool :=
  c = '_' || alphabeticSet.contains c ||
    (!first && (c = '.' || c = '[' || c = ']' || numericSet.contains c))

/-- Reads a group name and the `>` behind it. -/
def groupName (c : Cursor) : Except Fault (String × Cursor) :=
  let name := c.rest.takeWhile (· ≠ '>')
  let valid := match name with
    | [] => false
    | first :: more => isNameCharacter true first && more.all (isNameCharacter false)
  match c.rest.drop name.length with
  | '>' :: after =>
    let text := String.ofList name
    if !valid then .error .groupNameInvalid
    else if text ∈ c.names then .error .groupNameDuplicate
    else .ok (text, { c with rest := after, names := text :: c.names })
  | _ => .error .groupNameInvalid

/-- The change with one more flag set to `on`. A flag may be named once. -/
def FlagChange.add (change : FlagChange) (on : Bool) (flag : Char) : Except Fault FlagChange :=
  let once (old : Option Bool) (new : FlagChange) : Except Fault FlagChange :=
    if old.isSome then .error .flagDuplicate else .ok new
  match flag with
  | 'i' => once change.ignoreCase { change with ignoreCase := some on }
  | 'm' => once change.multiLine { change with multiLine := some on }
  | 's' => once change.dotAll { change with dotAll := some on }
  | 'U' => once change.swapGreed { change with swapGreed := some on }
  | 'u' => once change.unicode { change with unicode := some on }
  | 'R' => once change.crlf { change with crlf := some on }
  | 'x' => once change.verbose { change with verbose := some on }
  | _ => .error .flagUnrecognized

/-- Reads flags up to the `:` or `)` that ends them. `dangling` tells that
the last character was the hyphen, `on` that no hyphen was read. -/
def flagLetters (on dangling : Bool) (change : FlagChange) :
    List Char → Except Fault (FlagChange × Char × List Char)
  | [] => .error .flagsUnclosed
  | d :: ds =>
    if d = ':' ∨ d = ')' then
      if dangling then .error .flagDangling else .ok (change, d, ds)
    else if d = '-' then
      if on then flagLetters false true change ds else .error .flagDuplicate
    else
      match change.add on d with
      | .ok change => flagLetters on false change ds
      | .error fault => .error fault

/-- What an opening parenthesis begins. -/
inductive GroupHead where
  /-- flags for the rest of the enclosing group, already closed -/
  | flags (change : FlagChange)
  | group (kind : GroupKind)

/-- Reads what follows an opening parenthesis. -/
def groupHead (c : Cursor) : Except Fault (GroupHead × Cursor) :=
  let c := c.skip
  let numbered := { c with groups := c.groups + 1 }
  let named (after : List Char) : Except Fault (GroupHead × Cursor) := do
    let (name, c) ← groupName (numbered.seek after)
    .ok (.group (.capture c.groups (some name)), c)
  match c.rest with
  | '?' :: '=' :: _ => .error .lookAroundUnsupported
  | '?' :: '!' :: _ => .error .lookAroundUnsupported
  | '?' :: '<' :: '=' :: _ => .error .lookAroundUnsupported
  | '?' :: '<' :: '!' :: _ => .error .lookAroundUnsupported
  | '?' :: 'P' :: '<' :: after => named after
  | '?' :: '<' :: after => named after
  | '?' :: after =>
    match flagLetters true false FlagChange.none after with
    | .error fault => .error fault
    | .ok (change, ':', after) => .ok (.group (.plain change), c.seek after)
    | .ok (change, _, after) =>
      if change = FlagChange.none then .error .repetitionMissing
      else .ok (.flags change, c.seek after)
  | _ => .ok (.group (.capture numbered.groups none), numbered)

/-- Drops white space. -/
def dropSpace (cs : List Char) : List Char := cs.dropWhile spaceSet.contains

/-- The digits at the cursor, which blanks may part where these have no
meaning. -/
def digitRun : Nat → Cursor → List Char × Cursor
  | 0, c => ([], c)
  | steps + 1, c =>
    match c.rest with
    | d :: _ =>
      if d.isDigit then
        let (ds, c) := digitRun steps c.advance
        (d :: ds, c)
      else ([], c)
    | [] => ([], c)

/-- Reads a decimal number below `2 ^ 32` with white space around it. -/
def decimal (c : Cursor) : Except Fault (Nat × Cursor) :=
  let c := c.seek (dropSpace c.rest)
  let (digits, c) := digitRun c.rest.length c
  let value := digits.foldl (fun n d => 10 * n + (d.toNat - '0'.toNat)) 0
  if digits.isEmpty ∨ value ≥ 0x100000000 then .error .decimalInvalid
  else .ok (value, (c.seek (dropSpace c.rest)).skip)

/-- Reads the counts of a repetition, the cursor behind the opening brace:
the least count, and the greatest if there is one. -/
def counts (c : Cursor) : Except Fault ((Nat × Option Nat) × Cursor) := do
  let (least, c) ← decimal c.skip
  match c.rest with
  | ',' :: _ =>
    let c := c.advance
    match c.rest with
    | '\x7d' :: after => .ok ((least, none), c.seek after)
    | _ =>
      let (most, c) ← decimal c
      match c.rest with
      | '\x7d' :: after =>
        if least ≤ most then .ok ((least, some most), c.seek after)
        else .error .repetitionCountInvalid
      | _ => .error .repetitionCountUnclosed
  | '\x7d' :: after => .ok ((least, some least), c.seek after)
  | _ => .error .repetitionCountUnclosed

/-- The nodes with the last one repeated. Flags cannot be repeated. -/
def repeatLast (min : Nat) (max : Option Nat) (greedy : Bool) : List Node → Except Fault (List Node)
  | [] => .error .repetitionMissing
  | .flags _ :: _ => .error .repetitionMissing
  | last :: before => .ok (.repeated min max greedy last :: before)

/-- Takes the `?` that makes a repetition prefer few rounds. -/
def takeLazy (c : Cursor) : Bool × Cursor :=
  match c.rest with
  | '?' :: after => (true, c.seek after)
  | _ => (false, c)

/-- Reads alternatives up to a closing parenthesis or the end. `branches`
holds the finished ones and `parts` the present one, each last first. -/
def scan : Nat → List Node → List Node → Cursor → Except Fault (Node × Cursor)
  | 0, _, _, _ => .error .groupUnclosed
  | steps + 1, branches, parts, c =>
    let c := c.skip
    let result := Node.ofBranches ((Node.ofParts parts.reverse :: branches).reverse)
    let repetition (min : Nat) (max : Option Nat) (after : List Char) :
        Except Fault (Node × Cursor) := do
      let (isLazy, c) := takeLazy (c.seek after)
      scan steps branches (← repeatLast min max (!isLazy) parts) c
    match c.rest with
    | [] => .ok (result, c)
    | ')' :: _ => .ok (result, c)
    | '|' :: after => scan steps (Node.ofParts parts.reverse :: branches) [] (c.seek after)
    | '(' :: after => do
      match ← groupHead (c.seek after) with
      | (.flags change, c) =>
        scan steps branches (.flags change :: parts)
          { c with verbose := change.verbose.getD c.verbose }
      | (.group kind, inner) =>
        let verbose := match kind with
          | .plain change => change.verbose.getD c.verbose
          | .capture _ _ => c.verbose
        let (body, inner) ← scan steps [] [] { inner with verbose }
        match inner.rest with
        | ')' :: after =>
          scan steps branches (.group kind body :: parts)
            { inner with rest := after, verbose := c.verbose }
        | _ => .error .groupUnclosed
    | '[' :: after => do
      let (node, c) ← bracket (c.seek after)
      scan steps branches (node :: parts) c
    | '?' :: after => repetition 0 (some 1) after
    | '*' :: after => repetition 0 none after
    | '+' :: after => repetition 1 none after
    | '\x7b' :: after => do
      let ((min, max), c) ← counts (c.seek after)
      let (isLazy, c) := takeLazy c.skip
      scan steps branches (← repeatLast min max (!isLazy) parts) c
    | '\\' :: after => do
      let (primitive, c) ← escape (c.seek after)
      scan steps branches (primitive.toNode :: parts) c
    | '.' :: after => scan steps branches (.dot :: parts) (c.seek after)
    | '^' :: after => scan steps branches (.anchor .lineStart :: parts) (c.seek after)
    | '$' :: after => scan steps branches (.anchor .lineEnd :: parts) (c.seek after)
    | d :: after => scan steps branches (.char d false :: parts) (c.seek after)

/-- Reads the text of a regular expression. -/
def parse (text : String) : Except Fault Node := do
  let chars := text.toList
  let (node, c) ← scan (chars.length + 1) [] [] ⟨chars, false, 0, []⟩
  if !c.rest.isEmpty then .error .groupUnopened
  else if node.depth > nestLimit then .error .nestedTooDeep
  else .ok node

end LineMachine.Regex
