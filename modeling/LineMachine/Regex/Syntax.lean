/-!
# `LineMachine.Regex.Syntax`: the shape of a regular expression

The tree that the text of an expression denotes, before flags are applied.

* `Fault` lists the reasons for which a text is no expression.
* `FlagChange` is a change of matching flags, as `(?i-s)` makes it.
* `ClassSet` and `ClassItem` are what stands between brackets.
* `Node` is a whole expression.
* `Node.depth` is how deep constructs are nested; `nestLimit` bounds it.
-/

set_option autoImplicit false

namespace LineMachine.Regex

/-- Why a text is refused as a regular expression. -/
inductive Fault where
  | groupUnclosed
  | groupUnopened
  | groupNameInvalid
  | groupNameDuplicate
  | lookAroundUnsupported
  | backreferenceUnsupported
  | flagUnrecognized
  | flagDuplicate
  | flagDangling
  | flagsUnclosed
  | repetitionMissing
  | repetitionCountUnclosed
  | repetitionCountInvalid
  | decimalInvalid
  | escapeUnrecognized
  | escapeUnfinished
  | hexInvalid
  | wordBoundaryUnrecognized
  | classUnclosed
  | classRangeInvalid
  | classItemInvalid
  | propertyUnknown
  | propertyNotAllowed
  | notCharacters
  | nestedTooDeep
  | tooLarge
deriving Repr, DecidableEq

/-- A change of flags. A flag that is not named keeps its value. -/
structure FlagChange where
  ignoreCase : Option Bool
  multiLine : Option Bool
  dotAll : Option Bool
  swapGreed : Option Bool
  unicode : Option Bool
  crlf : Option Bool
  verbose : Option Bool
deriving Repr, DecidableEq

/-- The change that names no flag. -/
def FlagChange.none : FlagChange :=
  ⟨Option.none, Option.none, Option.none, Option.none, Option.none, Option.none, Option.none⟩

/-- The classes with an escape of one letter. -/
inductive LetterClass where
  | digit
  | space
  | word
deriving Repr, DecidableEq

/-- The ASCII classes that are written `[:name:]`. -/
inductive AsciiClass where
  | alnum | alpha | ascii | blank | cntrl | digit | graph | lower | print | punct | space | upper
  | word | xdigit
deriving Repr, DecidableEq

/-- The character properties that `\p` can name. -/
inductive Property where
  /-- a bare name -/
  | named (name : String)
  /-- a property and the value that it has -/
  | valued (property value : String)
deriving Repr, DecidableEq

/-- The operations between two sets in brackets. -/
inductive SetOp where
  | inter
  | diff
  | symmDiff
deriving Repr, DecidableEq

mutual

/-- What stands between brackets: items side by side, or an operation. -/
inductive ClassSet where
  | items (list : List ClassItem)
  | op (kind : SetOp) (left right : ClassSet)

/-- One item between brackets. The mark `byte` is set for a character written
as `\x` with two digits. -/
inductive ClassItem where
  | char (c : Char) (byte : Bool)
  | range (first : Char) (firstByte : Bool) (last : Char) (lastByte : Bool)
  | ascii (kind : AsciiClass) (negated : Bool)
  | letter (kind : LetterClass) (negated : Bool)
  | property (p : Property) (negated : Bool)
  | nested (negated : Bool) (set : ClassSet)

end

/-- Where a word boundary is asked for. -/
inductive WordEdge where
  | boundary
  | inside
  | start
  | stop
  | startHalf
  | stopHalf
deriving Repr, DecidableEq

/-- The assertions that match without consuming anything. -/
inductive Anchor where
  | lineStart
  | lineEnd
  | textStart
  | textEnd
  | word (edge : WordEdge)
deriving Repr, DecidableEq

/-- What a pair of parentheses does. -/
inductive GroupKind where
  /-- numbered from 1, in the order of the opening parentheses -/
  | capture (index : Nat) (name : Option String)
  | plain (change : FlagChange)
deriving Repr, DecidableEq

/-- A regular expression as written. -/
inductive Node where
  | empty
  | flags (change : FlagChange)
  | char (c : Char) (byte : Bool)
  | dot
  | anchor (a : Anchor)
  | letter (kind : LetterClass) (negated : Bool)
  | property (p : Property) (negated : Bool)
  | bracket (negated : Bool) (set : ClassSet)
  | repeated (min : Nat) (max : Option Nat) (greedy : Bool) (sub : Node)
  | group (kind : GroupKind) (sub : Node)
  | cat (parts : List Node)
  | alt (branches : List Node)

/-- The nodes side by side. One node stands for itself. -/
def Node.ofParts : List Node → Node
  | [] => .empty
  | [part] => part
  | parts => .cat parts

/-- The nodes as alternatives. One branch stands for itself. -/
def Node.ofBranches : List Node → Node
  | [] => .empty
  | [branch] => branch
  | branches => .alt branches

mutual

/-- How deep sets are nested. A list of one item adds no level. -/
def ClassSet.depth : ClassSet → Nat
  | .items [] => 0
  | .items [item] => item.depth
  | .items (a :: b :: rest) => 1 + max a.depth (max b.depth (ClassItem.maxDepth rest))
  | .op _ left right => 1 + max left.depth right.depth

/-- How deep sets are nested in an item. -/
def ClassItem.depth : ClassItem → Nat
  | .nested _ set => 1 + set.depth
  | _ => 0

/-- The greatest depth in a list of items. -/
def ClassItem.maxDepth : List ClassItem → Nat
  | [] => 0
  | item :: rest => max item.depth (ClassItem.maxDepth rest)

end

mutual

/-- How deep constructs are nested. -/
def Node.depth : Node → Nat
  | .bracket _ set => 1 + set.depth
  | .repeated _ _ _ sub => 1 + sub.depth
  | .group _ sub => 1 + sub.depth
  | .cat parts => 1 + Node.maxDepth parts
  | .alt branches => 1 + Node.maxDepth branches
  | _ => 0

/-- The greatest depth in a list of nodes. -/
def Node.maxDepth : List Node → Nat
  | [] => 0
  | node :: rest => max node.depth (Node.maxDepth rest)

end

/-- The greatest depth that is accepted. -/
def nestLimit : Nat := 250

end LineMachine.Regex
