import LineMachine.Regex.Syntax
import LineMachine.Unicode.CharSet

/-!
# `LineMachine.Regex.Expr`: what a regular expression means

The expression with its flags applied: characters have become sets and
assertions are spelled out.

* `Look` lists the assertions about the place between two characters.
* `Expr` is the expression.
* `Expr.consumes` holds when every match takes a character.
* `Expr.isBlank` holds when no match takes a character.
* `Expr.repeated` repeats an expression and leaves out rounds that cannot
  matter.
* `Expr.cost` estimates the memory that a compiled expression takes;
  `costLimit` bounds it.
-/

set_option autoImplicit false

namespace LineMachine.Regex

open LineMachine.Unicode

/-- An assertion about the place between two characters. -/
inductive Look where
  | textStart
  | textEnd
  /-- the start of a line; with `crlf`, a carriage return ends a line too -/
  | lineStart (crlf : Bool)
  | lineEnd (crlf : Bool)
  | word (unicode : Bool) (edge : WordEdge)
deriving Repr, DecidableEq

/-- A regular expression over characters. The order of alternatives is the
order of preference, and a greedy repetition prefers another round. -/
inductive Expr where
  | empty
  | chars (set : CharSet)
  | look (l : Look)
  | cat (a b : Expr)
  | alt (a b : Expr)
  | group (index : Nat) (name : Option String) (sub : Expr)
  | rep (min : Nat) (max : Option Nat) (greedy : Bool) (sub : Expr)

namespace Expr

/-- Whether every match takes at least one character. -/
def consumes : Expr → Bool
  | .empty => false
  | .chars set => !set.isEmpty
  | .look _ => false
  | .cat a b => a.consumes || b.consumes
  | .alt a b => a.consumes && b.consumes
  | .group _ _ sub => sub.consumes
  | .rep min _ _ sub => 0 < min && sub.consumes

/-- Whether no match takes a character. -/
def isBlank : Expr → Bool
  | .empty => true
  | .chars _ => false
  | .look _ => true
  | .cat a b => a.isBlank && b.isBlank
  | .alt a b => a.isBlank && b.isBlank
  | .group _ _ sub => sub.isBlank
  | .rep _ max _ sub => max = some 0 || (max.isSome && sub.isBlank)

/-- An expression repeated. A blank one need not be matched twice; no round
at all is the empty expression, without the groups in it; one round is the
expression itself. -/
def repeated (min : Nat) (max : Option Nat) (greedy : Bool) (sub : Expr) : Expr :=
  let min' := if sub.isBlank then Nat.min min 1 else min
  let max' := if sub.isBlank then some (Nat.min (max.getD 1) 1) else max
  if min' = 0 ∧ max' = some 0 then .empty
  else if min' = 1 ∧ max' = some 1 then sub
  else .rep min' max' greedy sub

/-- The names of the groups by their number, for the groups that are left in
the expression. A group may occur once only. -/
def groupNames : Expr → List (Nat × Option String)
  | .group index name sub => (index, name) :: sub.groupNames
  | .cat a b => a.groupNames ++ b.groupNames
  | .alt a b => a.groupNames ++ b.groupNames
  | .rep _ _ _ sub => sub.groupNames
  | _ => []

end Expr

/-- How many bytes the encoding of a code point takes. -/
def encodedSize (n : Nat) : Nat :=
  if n < 0x80 then 1 else if n < 0x800 then 2 else if n < 0x10000 then 3 else 4

/-- The byte of the encoding of `n` at place `i`, when it takes `size`
bytes. Bits that tell the size are left out. -/
def encodedByte (size i n : Nat) : Nat := (n / Nat.pow 64 (size - 1 - i)) % 64

/-- Cuts a range of code points into ranges whose encodings form a product of
byte ranges. -/
def byteProducts : Nat → Nat → Nat → List CharRange
  | 0, _, _ => []
  | steps + 1, low, high =>
    if high < low then []
    else
      let top := if low < 0x80 then 0x7F else if low < 0x800 then 0x7FF
        else if low < 0x10000 then 0xFFFF else 0x10FFFF
      if top < high then byteProducts steps low top ++ byteProducts steps (top + 1) high
      else if low < 0x80 then [⟨low, high⟩]
      else
        match [64, 4096, 262144].find? fun block =>
            low / block ≠ high / block && (low % block ≠ 0 || high % block ≠ block - 1) with
        | none => [⟨low, high⟩]
        | some block =>
          let cut := if low % block ≠ 0 then (low / block + 1) * block else high / block * block
          byteProducts steps low (cut - 1) ++ byteProducts steps cut high

/-- How many byte ranges products in ascending order have, when products with
the same first ranges share these. -/
def sharedLength : Option CharRange → List CharRange → Nat
  | _, [] => 0
  | before, r :: rs =>
    let size := encodedSize r.first
    let leading (p : CharRange) (i : Nat) : List (Nat × Nat) :=
      (List.range (i + 1)).map fun k => (encodedByte size k p.first, encodedByte size k p.last)
    let fresh := match before with
      | none => size
      | some p =>
        if encodedSize p.first ≠ size then size
        else ((List.range size).filter fun i => leading p i ≠ leading r i).length
    fresh + sharedLength (some r) rs

/-- An estimate, in bytes, of the memory that a compiled set takes. -/
def setCost (set : CharSet) : Nat :=
  match set.ranges with
  | [] => 32
  | [r] => if r.first = r.last then 32 * encodedSize r.first else spread set
  | _ => spread set
where
  /-- The cost of a set of several characters. -/
  spread (set : CharSet) : Nat :=
    if set.isAscii then 32 + 8 * set.ranges.length
    else
      let products := set.ranges.flatMap fun r => byteProducts 64 r.first r.last
      64 + 32 * sharedLength none products + 4 * products.length

/-- An estimate, in bytes, of the memory that a compiled expression takes. -/
def Expr.cost : Expr → Nat
  | .empty => 32
  | .chars set => setCost set
  | .look _ => 32
  | .cat a b => a.cost + b.cost
  | .alt a b => a.cost + b.cost + 40
  | .group _ _ sub => sub.cost + 64
  | .rep min max _ sub =>
    match max with
    | none => Nat.max min 1 * sub.cost + 40
    | some most => min * sub.cost + (most - min) * (sub.cost + 40) + 32

/-- The memory that a compiled expression may take. -/
def costLimit : Nat := 10 * 1024 * 1024

end LineMachine.Regex
