import LineMachine.Regex.Expr
import LineMachine.Unicode.CaseFold
import LineMachine.Unicode.Lookup

/-!
# `LineMachine.Regex.Meaning`: applying the flags

From the written form of an expression to its meaning.

* `Flags` are the matching flags at a place of the expression.
* `AsciiClass.set` and `LetterClass.set` are the classes with short names.
* `ClassSet.resolve` computes a set in brackets.
* `Node.meaning` gives the meaning of a node and the flags behind it.

Without the Unicode flag, sets are sets of bytes. Such a set is accepted when
all its members are ASCII, since only then does it match whole characters.
-/

set_option autoImplicit false

namespace LineMachine.Regex

open LineMachine.Unicode

/-- The flags that are set at a place. -/
structure Flags where
  ignoreCase : Bool
  multiLine : Bool
  dotAll : Bool
  swapGreed : Bool
  unicode : Bool
  crlf : Bool
deriving Repr, DecidableEq

/-- The flags at the start of every expression. -/
def Flags.initial : Flags := ⟨false, false, false, false, true, false⟩

/-- The flags after a change. -/
def Flags.apply (f : Flags) (change : FlagChange) : Flags where
  ignoreCase := change.ignoreCase.getD f.ignoreCase
  multiLine := change.multiLine.getD f.multiLine
  dotAll := change.dotAll.getD f.dotAll
  swapGreed := change.swapGreed.getD f.swapGreed
  unicode := change.unicode.getD f.unicode
  crlf := change.crlf.getD f.crlf

/-- The characters of an ASCII class. -/
def AsciiClass.set : AsciiClass → CharSet
  | .alnum => CharSet.ofRanges [⟨0x30, 0x39⟩, ⟨0x41, 0x5A⟩, ⟨0x61, 0x7A⟩]
  | .alpha => CharSet.ofRanges [⟨0x41, 0x5A⟩, ⟨0x61, 0x7A⟩]
  | .ascii => CharSet.range 0 0x7F
  | .blank => CharSet.ofCodes [0x09, 0x20]
  | .cntrl => CharSet.ofRanges [⟨0, 0x1F⟩, ⟨0x7F, 0x7F⟩]
  | .digit => CharSet.range 0x30 0x39
  | .graph => CharSet.range 0x21 0x7E
  | .lower => CharSet.range 0x61 0x7A
  | .print => CharSet.range 0x20 0x7E
  | .punct => CharSet.ofRanges [⟨0x21, 0x2F⟩, ⟨0x3A, 0x40⟩, ⟨0x5B, 0x60⟩, ⟨0x7B, 0x7E⟩]
  | .space => CharSet.ofRanges [⟨0x09, 0x0D⟩, ⟨0x20, 0x20⟩]
  | .upper => CharSet.range 0x41 0x5A
  | .word => CharSet.ofRanges [⟨0x30, 0x39⟩, ⟨0x41, 0x5A⟩, ⟨0x5F, 0x5F⟩, ⟨0x61, 0x7A⟩]
  | .xdigit => CharSet.ofRanges [⟨0x30, 0x39⟩, ⟨0x41, 0x46⟩, ⟨0x61, 0x66⟩]

/-- The characters of a class with an escape of one letter. -/
def LetterClass.set (unicode : Bool) : LetterClass → CharSet
  | .digit => if unicode then digitSet else AsciiClass.digit.set
  | .space => if unicode then spaceSet else AsciiClass.space.set
  | .word => if unicode then wordSet else AsciiClass.word.set

/-- The characters with a property. -/
def Property.set? : Property → Option CharSet
  | .named name => classSet? name
  | .valued property value => valueSet? property value

/-- The set as the flags want it: closed under case first, then negated. -/
def Flags.finish (f : Flags) (negated : Bool) (set : CharSet) : Except Fault CharSet :=
  if f.unicode then
    let folded := if f.ignoreCase then set.foldCase else set
    .ok (if negated then folded.complement else folded)
  else
    if negated then .error .notCharacters
    else .ok (if f.ignoreCase then set.foldAsciiCase else set)

/-- The set of a class with an escape of one letter, negated or not. -/
def Flags.letterSet (f : Flags) (kind : LetterClass) (negated : Bool) : Except Fault CharSet :=
  if !negated then .ok (kind.set f.unicode)
  else if f.unicode then .ok (kind.set true).complement
  else .error .notCharacters

/-- The set of the characters with a property, or of all others. -/
def Flags.propertySet (f : Flags) (p : Property) (negated : Bool) : Except Fault CharSet :=
  if !f.unicode then .error .propertyNotAllowed
  else
    match p.set? with
    | some set => f.finish negated set
    | none => .error .propertyUnknown

/-- The code of a character between brackets. -/
def Flags.codeOf (f : Flags) (c : Char) : Except Fault Nat :=
  if f.unicode || c.toNat < 0x80 then .ok c.toNat else .error .notCharacters

mutual

/-- The characters of a set in brackets, before the negation that stands in
front of it. -/
def ClassSet.resolve (f : Flags) : ClassSet → Except Fault CharSet
  | .items list => ClassItem.resolveAll f list
  | .op kind left right => do
    let fold (set : CharSet) : CharSet :=
      if !f.ignoreCase then set else if f.unicode then set.foldCase else set.foldAsciiCase
    let a := fold (← left.resolve f)
    let b := fold (← right.resolve f)
    match kind with
    | .inter => .ok (a.inter b)
    | .diff => .ok (a.diff b)
    | .symmDiff => .ok (a.symmDiff b)

/-- The characters of one item in brackets. -/
def ClassItem.resolve (f : Flags) : ClassItem → Except Fault CharSet
  | .char c _ => do .ok (CharSet.ofCodes [← f.codeOf c])
  | .range first _ last _ => do .ok (CharSet.range (← f.codeOf first) (← f.codeOf last))
  | .ascii kind negated => f.finish negated kind.set
  | .letter kind negated => f.letterSet kind negated
  | .property p negated => f.propertySet p negated
  | .nested negated set => do f.finish negated (← set.resolve f)

/-- The characters of some item of a list. -/
def ClassItem.resolveAll (f : Flags) : List ClassItem → Except Fault CharSet
  | [] => .ok CharSet.empty
  | item :: rest => do
    let a ← item.resolve f
    let b ← ClassItem.resolveAll f rest
    .ok (a.union b)

end

/-- The assertion that an anchor makes under the flags. -/
def Flags.look (f : Flags) : Anchor → Look
  | .lineStart => if f.multiLine then .lineStart f.crlf else .textStart
  | .lineEnd => if f.multiLine then .lineEnd f.crlf else .textEnd
  | .textStart => .textStart
  | .textEnd => .textEnd
  | .word edge => .word f.unicode edge

/-- The set that a single character matches under the flags. -/
def Flags.charSet (f : Flags) (c : Char) : CharSet :=
  let set := CharSet.singleton c
  if !f.ignoreCase then set else if f.unicode then set.foldCase else set.foldAsciiCase

/-- The set that the dot matches under the flags. -/
def Flags.dotSet (f : Flags) : Except Fault CharSet :=
  if !f.unicode then .error .notCharacters
  else if f.dotAll then .ok CharSet.all
  else if f.crlf then .ok (CharSet.ofCodes [0x0A, 0x0D]).complement
  else .ok (CharSet.ofCodes [0x0A]).complement

mutual

/-- The meaning of a node under the flags, and the flags behind it. A change
of flags lasts to the end of the group that it stands in. -/
def Node.meaning (f : Flags) : Node → Except Fault (Expr × Flags)
  | .empty => .ok (.empty, f)
  | .flags change => .ok (.empty, f.apply change)
  | .char c byte =>
    if !f.unicode && byte && 0x80 ≤ c.toNat then .error .notCharacters
    else .ok (.chars (f.charSet c), f)
  | .dot => do .ok (.chars (← f.dotSet), f)
  | .anchor a => .ok (.look (f.look a), f)
  | .letter kind negated => do .ok (.chars (← f.letterSet kind negated), f)
  | .property p negated => do .ok (.chars (← f.propertySet p negated), f)
  | .bracket negated set => do .ok (.chars (← f.finish negated (← set.resolve f)), f)
  | .repeated min max greedy sub => do
    let (e, g) ← sub.meaning f
    .ok (.repeated min max (greedy != g.swapGreed) e, g)
  | .group (.capture index name) sub => do
    let (e, _) ← sub.meaning f
    .ok (.group index name e, f)
  | .group (.plain change) sub => do
    let (e, _) ← sub.meaning (f.apply change)
    .ok (e, f)
  | .cat parts => Node.meaningOfCat f parts
  | .alt branches => Node.meaningOfAlt f branches

/-- The meaning of nodes side by side. -/
def Node.meaningOfCat (f : Flags) : List Node → Except Fault (Expr × Flags)
  | [] => .ok (.empty, f)
  | part :: rest => do
    let (a, f) ← part.meaning f
    match rest with
    | [] => .ok (a, f)
    | _ :: _ =>
      let (b, f) ← Node.meaningOfCat f rest
      .ok (.cat a b, f)

/-- The meaning of alternatives. The flags behind one branch hold in the
next. -/
def Node.meaningOfAlt (f : Flags) : List Node → Except Fault (Expr × Flags)
  | [] => .ok (.empty, f)
  | branch :: rest => do
    let (a, f) ← branch.meaning f
    match rest with
    | [] => .ok (a, f)
    | _ :: _ =>
      let (b, f) ← Node.meaningOfAlt f rest
      .ok (.alt a b, f)

end

end LineMachine.Regex
