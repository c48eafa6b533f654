import LineMachine.Regex.Basic
import LineMachine.Text.Quoted

/-!
# `LineMachine.Pattern`: tests on a line

* `Captures` is what a match picked out of the line.
* `Pattern` is a test on one line; `Pattern.matches?` applies it.
* `Pattern.display` shows a pattern; `Pattern.inspect` shows how it is built.
-/

set_option autoImplicit false

namespace LineMachine

/-- What a match picked out of the line. Only regular expressions pick
anything. -/
structure Captures where
  /-- the whole match -/
  whole : Option String
  /-- the groups from 1 on; a group that took no part is `none` -/
  groups : List (Option String)
  /-- the names of the groups -/
  names : List (Option String)
deriving Repr, DecidableEq

namespace Captures

/-- A match that picked out nothing. -/
def empty : Captures := ⟨none, [], []⟩

/-- The number of groups. -/
def size (c : Captures) : Nat := c.groups.length

/-- Whether there are no groups. -/
def isEmpty (c : Captures) : Bool := c.groups.isEmpty

/-- Group `index`, where 0 is the whole match. -/
def get? (c : Captures) : Nat → Option String
  | 0 => c.whole
  | index + 1 => (c.groups[index]?).join

/-- The group with this name. -/
def named? (c : Captures) (name : String) : Option String :=
  ((c.names.zip c.groups).find? fun row => row.1 = some name).bind Prod.snd

/-- The groups as texts, empty for those that took no part. -/
def toTexts (c : Captures) : List String := c.groups.map fun group => group.getD ""

end Captures

/-- A test on one line. -/
inductive Pattern where
  /-- every line passes -/
  | any
  /-- lines that are exactly this text -/
  | literal (text : String)
  /-- lines in which the expression matches somewhere -/
  | regex (r : Regex)

namespace Pattern

/-- What the pattern picks out of a line that passes. -/
def matches? (p : Pattern) (line : String) : Option Captures :=
  match p with
  | .any => some Captures.empty
  | .literal text => if line = text then some Captures.empty else none
  | .regex r => (r.find? line).map fun m => ⟨m.whole, m.groups, r.groupNames⟩

/-- Whether every line passes by the form of the pattern alone. -/
def isAny : Pattern → Bool
  | .any => true
  | _ => false

/-- The pattern as shown to users. -/
def display : Pattern → String
  | .any => "*"
  | .literal text => Text.quote text
  | .regex r => "/" ++ r.source ++ "/"

/-- The pattern with the kind of its test. -/
def inspect : Pattern → String
  | .any => "Any"
  | .literal text => "Literal(" ++ Text.quote text ++ ")"
  | .regex r => "Regex(Regex(" ++ Text.quote r.source ++ "))"

end Pattern

end LineMachine
