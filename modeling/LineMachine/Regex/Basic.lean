import LineMachine.Regex.Parser
import LineMachine.Regex.Search
import LineMachine.Regex.Meaning

/-!
# `LineMachine.Regex.Basic`: regular expressions that can be searched for

* `Regex` is an expression ready for use.
* `Regex.compile` reads one from its text.
* `Regex.find?` finds the leftmost match and what its groups matched.
-/

set_option autoImplicit false

namespace LineMachine

open LineMachine.Regex in
/-- A regular expression, as written and as compiled. -/
structure Regex where
  /-- the text of the expression -/
  source : String
  /-- the compiled form -/
  program : Program
  /-- the names of the groups, from group 1 on -/
  groupNames : List (Option String)

/-- The parts of a text that a match picked out. -/
structure Regex.Match where
  /-- what the expression matched -/
  whole : Option String
  /-- what each group matched, from group 1 on -/
  groups : List (Option String)
deriving Repr, DecidableEq

namespace Regex

/-- The meaning of the text of an expression. -/
def exprOf (source : String) : Except Fault Expr := do
  let node ← parse source
  let (e, _) ← node.meaning Flags.initial
  if e.cost > costLimit then .error .tooLarge else .ok e

/-- Groups that repetitions left out at the end are not counted; one that is
left out before another counts as a group without a name. -/
def namesOf (e : Expr) : List (Option String) :=
  let named := e.groupNames
  let count := named.foldl (fun n row => max n row.1) 0
  (List.range count).map fun i => (named.find? fun row => row.1 = i + 1).bind Prod.snd

/-- Reads an expression from its text. -/
def compile (source : String) : Except Fault Regex := do
  let e ← exprOf source
  .ok ⟨source, Program.ofExpr e, namesOf e⟩

/-- The part of a text between two places. -/
def slice (text : List Char) (slots : Slots) (group : Nat) : Option String :=
  match slots.getD (2 * group) none, slots.getD (2 * group + 1) none with
  | some first, some last => some (String.ofList ((text.drop first).take (last - first)))
  | _, _ => none

/-- The leftmost match in a text. -/
def find? (r : Regex) (text : String) : Option Match :=
  let chars := text.toList
  let groups := r.groupNames.length
  (search r.program (groups + 1) chars).map fun slots =>
    ⟨slice chars slots 0, (List.range groups).map fun i => slice chars slots (i + 1)⟩

end Regex

end LineMachine
