import LineMachine.Config.Value

/-!
# `LineMachine.Config.Path`: places in a configuration

* `Path` leads to a value: a key, then keys and positions.
* `Path.parse?` reads one: `parse.decoding`, `list[0].name`.
* `Path.assign` lays a value over what stands at the end of a path.
-/

set_option autoImplicit false

namespace LineMachine.Config

/-- A step of a path. Positions below zero count from the end. -/
inductive Part where
  | key (name : String)
  | index (i : Int)
deriving Repr, DecidableEq

/-- A place in a configuration. -/
structure Path where
  first : String
  rest : List Part
deriving Repr, DecidableEq

namespace Path

/-- Whether a character may stand in a key. -/
def isKeyChar (c : Char) : Bool := c.isAlphanum || c = ' ' || c = '_' || c = '-'

/-- Reads a key. -/
def readKey? (cs : List Char) : Option (String × List Char) :=
  let word := cs.takeWhile isKeyChar
  if word.isEmpty then none else some (String.ofList word, cs.drop word.length)

/-- Drops blanks and tabs. -/
def skipBlanks (cs : List Char) : List Char := cs.dropWhile fun c => c = ' ' || c = '\t'

/-- The value of decimal digits. -/
def digitsValue (digits : List Char) : Nat :=
  digits.foldl (fun n d => 10 * n + (d.toNat - '0'.toNat)) 0

/-- Reads a position and its closing bracket. -/
def readIndex? (cs : List Char) : Option (Int × List Char) :=
  let cs := skipBlanks cs
  let (negative, cs) := match cs with
    | '-' :: rest => (true, rest)
    | _ => (false, cs)
  let digits := cs.takeWhile Char.isDigit
  let n : Int := digitsValue digits
  let i := if negative then -n else n
  match skipBlanks (cs.drop digits.length) with
  | ']' :: rest =>
    if digits.isEmpty || i < -0x8000000000000000 || 0x8000000000000000 ≤ i then none
    else some (i, rest)
  | _ => none

/-- Reads the steps behind the first key; each takes a character at least. -/
def readParts? : Nat → List Char → Option (List Part)
  | _, [] => some []
  | 0, _ => none
  | steps + 1, '.' :: cs => do
    let (name, cs) ← readKey? cs
    let more ← readParts? steps cs
    some (.key name :: more)
  | steps + 1, '[' :: cs => do
    let (i, cs) ← readIndex? cs
    let more ← readParts? steps cs
    some (.index i :: more)
  | _, _ => none

/-- Reads a path. -/
def parse? (text : String) : Option Path := do
  let (first, cs) ← readKey? text.toList
  let rest ← readParts? cs.length cs
  some ⟨first, rest⟩

/-- The position that an index means in a list. -/
def position (i : Int) (size : Nat) : Nat :=
  if 0 ≤ i then i.toNat else size - i.natAbs

/-- The items with a new one at a position, and nothing at the positions in
between. -/
def putAt (at' : Nat) (v : Value) (items : List Value) : List Value :=
  let filled := items ++ List.replicate (at' + 1 - items.length) .nil
  filled.set at' v

/-- What stands at the end of some steps, with a value laid over it. Whatever
is no table on the way to a key becomes one, and whatever is no list on the
way to a position. An item of a list is replaced as a whole. -/
def assignParts (v : Value) : List Part → Option Value → Value
  | [], below => v.overlay below
  | .key name :: rest, below =>
    let es := (below.map Value.entries).getD []
    let name := lowered name
    .table (Value.put name (assignParts v rest (es.lookup name)) es)
  | .index i :: rest, below =>
    let items := (below.map Value.items).getD []
    let n := position i items.length
    let item := if rest.isEmpty then v else assignParts v rest items[n]?
    .list (putAt n item items)

/-- The configuration with a value laid over what stands at the path. -/
def assign (p : Path) (v : Value) (root : Value) : Value :=
  assignParts v (.key p.first :: p.rest) (some root)

end Path

end LineMachine.Config
