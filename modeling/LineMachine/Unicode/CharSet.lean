/-!
# `LineMachine.Unicode.CharSet`: sets of characters

A set of characters as an ascending list of inclusive code point ranges
that neither overlap nor touch. The operations keep that form.

* `CharSet.ofRanges` brings any list of ranges into the form.
* `union`, `complement`, `inter`, `diff` and `symmDiff` are the Boolean
  operations; a complement is taken among the characters, so it never
  holds a surrogate.
* `contains` is membership.
* `ofText` reads the compact notation of the character tables.
-/

set_option autoImplicit false

namespace LineMachine.Unicode

/-- The code points from `first` to `last`, both included. -/
structure CharRange where
  first : Nat
  last : Nat
deriving Repr, DecidableEq, Inhabited

/-- A set of characters, as ascending ranges that do not touch. -/
structure CharSet where
  ranges : List CharRange
deriving Repr, DecidableEq, Inhabited

namespace CharSet

/-- The set without members. -/
def empty : CharSet := ⟨[]⟩

/-- Whether the set has no member. -/
def isEmpty (s : CharSet) : Bool := s.ranges.isEmpty

/-- Joins ranges that overlap or touch, given in ascending order of `first`. -/
def coalesce (current : CharRange) : List CharRange → List CharRange
  | [] => [current]
  | r :: rs =>
    if r.first ≤ current.last + 1 then
      coalesce ⟨current.first, max current.last r.last⟩ rs
    else
      current :: coalesce r rs

/-- The set of all code points in some range of the list. A range whose
ends are in the wrong order holds nothing. -/
def ofRanges (rs : List CharRange) : CharSet :=
  match (rs.filter fun r => r.first ≤ r.last).mergeSort (fun a b => a.first ≤ b.first) with
  | [] => empty
  | r :: rest => ⟨coalesce r rest⟩

/-- The code points from `first` to `last`. -/
def range (first last : Nat) : CharSet := ofRanges [⟨first, last⟩]

/-- The set of one character. -/
def singleton (c : Char) : CharSet := ⟨[⟨c.toNat, c.toNat⟩]⟩

/-- The set of the given code points. -/
def ofCodes (codes : List Nat) : CharSet := ofRanges (codes.map fun n => ⟨n, n⟩)

/-- Membership in a list of ascending ranges: the search ends at the first
range that starts behind the code point. -/
def inRanges (n : Nat) : List CharRange → Bool
  | [] => false
  | r :: rs => if n < r.first then false else n ≤ r.last || inRanges n rs

/-- Whether code point `n` is a member. -/
def hasCode (s : CharSet) (n : Nat) : Bool := inRanges n s.ranges

/-- Whether `c` is a member. -/
def contains (s : CharSet) (c : Char) : Bool := s.hasCode c.toNat

/-- The members of either set. -/
def union (s t : CharSet) : CharSet := ofRanges (s.ranges ++ t.ranges)

/-- The parts of `low … high` that the ascending ranges leave out. -/
def gaps (low high : Nat) : List CharRange → List CharRange
  | [] => if low ≤ high then [⟨low, high⟩] else []
  | r :: rs =>
    if r.last < low then gaps low high rs
    else if high < r.first then (if low ≤ high then [⟨low, high⟩] else [])
    else if low < r.first then ⟨low, r.first - 1⟩ :: gaps (r.last + 1) high rs
    else gaps (r.last + 1) high rs

/-- Every character that is no member. Surrogates are no characters. -/
def complement (s : CharSet) : CharSet :=
  ⟨gaps 0 0xD7FF s.ranges ++ gaps 0xE000 0x10FFFF s.ranges⟩

/-- The members of both sets. -/
def inter (s t : CharSet) : CharSet := (s.complement.union t.complement).complement

/-- The members of `s` that `t` does not hold. -/
def diff (s t : CharSet) : CharSet := s.inter t.complement

/-- The members of exactly one of the two sets. -/
def symmDiff (s t : CharSet) : CharSet := (s.union t).diff (s.inter t)

/-- Every character. -/
def all : CharSet := complement empty

/-- Whether all members are ASCII. -/
def isAscii (s : CharSet) : Bool := s.ranges.all fun r => r.last < 0x80

/-- The value of a hexadecimal digit. -/
def hexValue? (c : Char) : Option Nat :=
  if '0' ≤ c ∧ c ≤ '9' then some (c.toNat - '0'.toNat)
  else if 'a' ≤ c ∧ c ≤ 'f' then some (c.toNat - 'a'.toNat + 10)
  else if 'A' ≤ c ∧ c ≤ 'F' then some (c.toNat - 'A'.toNat + 10)
  else none

/-- Reads the table notation: hexadecimal code points `41` and ranges
`41-5a`, separated by blanks and line ends. `number` holds the digits read
so far, `first` the start of an open range. -/
def readTable (number : Option Nat) (first : Option Nat) : List Char → List CharRange
  | [] => close number first
  | c :: cs =>
    match hexValue? c with
    | some d => readTable (some (16 * number.getD 0 + d)) first cs
    | none =>
      if c = '-' then readTable none number cs
      else close number first ++ readTable none none cs
where
  /-- The range that ends here, if one does. -/
  close (number : Option Nat) (first : Option Nat) : List CharRange :=
    match number with
    | some last => [⟨first.getD last, last⟩]
    | none => []

/-- The set that a table in the notation of `readTable` lists. -/
def ofTable (text : String) : CharSet := ofRanges (readTable none none text.toList)

end CharSet

end LineMachine.Unicode
