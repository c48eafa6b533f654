import LineMachine.Unicode.CharSet
import LineMachine.Unicode.Table.CaseOrbit

/-!
# `LineMachine.Unicode.CaseFold`: matching without regard to case

Two characters match without regard to case when their simple case foldings
agree. The classes of this relation with more than one member are the
orbits.

* `caseOrbits` is the list of orbits, as code points.
* `CharSet.foldCase` adds to a set every character that matches a member.
-/

set_option autoImplicit false

namespace LineMachine.Unicode

/-- The classes of two or more characters that differ in case only. -/
def caseOrbits : List (List Nat) :=
  (caseOrbitTable.splitOn ",").map fun orbit =>
    (CharSet.readTable none none orbit.toList).map CharRange.first

namespace CharSet

/-- The set with every character that matches a member when case is
disregarded. -/
def foldCase (s : CharSet) : CharSet :=
  match caseOrbits.filter fun orbit => orbit.any s.hasCode with
  | [] => s
  | touched => s.union (ofCodes touched.flatten)

/-- The set with both cases of every ASCII letter in it. -/
def foldAsciiCase (s : CharSet) : CharSet :=
  let upper := s.inter (range 0x41 0x5A)
  let lower := s.inter (range 0x61 0x7A)
  let shifted := upper.ranges.map (fun r => ⟨r.first + 32, r.last + 32⟩) ++
    lower.ranges.map (fun r => ⟨r.first - 32, r.last - 32⟩)
  s.union (ofRanges shifted)

end CharSet

end LineMachine.Unicode
