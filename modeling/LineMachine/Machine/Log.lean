import LineMachine.Pattern

/-!
# `LineMachine.Machine.Log`: what the machine reports while it works

* `Level` orders reports by weight.
* `Report` lists the reports.
* `Report.level`, `target`, `message` and `fields` describe one.
-/

set_option autoImplicit false

namespace LineMachine

/-- The weight of a report, the heaviest first. -/
inductive Level where
  | error
  | warn
  | info
  | debug
  | trace
deriving Repr, DecidableEq

namespace Level

/-- The place of the level in the order, 1 for the heaviest. -/
def rank : Level → Nat
  | .error => 1
  | .warn => 2
  | .info => 3
  | .debug => 4
  | .trace => 5

/-- The name in capitals. -/
def label : Level → String
  | .error => "ERROR"
  | .warn => "WARN"
  | .info => "INFO"
  | .debug => "DEBUG"
  | .trace => "TRACE"

end Level

/-- The value of a field of a report. -/
inductive FieldValue where
  | count (n : Nat)
  | text (s : String)
  /-- a text that is shown in quotes -/
  | quoted (s : String)
deriving Repr, DecidableEq

/-- What the machine reports. -/
inductive Report where
  /-- building: a destination without rules was added as an empty state -/
  | placeholder (state destination : String)
  /-- building: an earlier catch-all hides transition `rule` of the state -/
  | shadowed (state : String) (rule : Nat) (pattern : Pattern) (catchAll : Nat)
  /-- building: the table is complete -/
  | built (states transitions : Nat) (initial : String)
  /-- a state was saved -/
  | pushed (lineno : Nat) (state : String) (depth : Nat)
  /-- a saved state was taken -/
  | popped (lineno : Nat) (state : String) (depth : Nat)
  /-- a transition matched and its action succeeded -/
  | matched (lineno : Nat) (state : String) (rule : Nat) (pattern : Pattern)
  /-- a line was consumed -/
  | stepped (lineno : Nat) (source destination : String)
  /-- the input ended while states were saved -/
  | leftover (depth : Nat) (states : List String)
  /-- the input ended -/
  | finished (lines : Nat) (finalState : String)

namespace Report

/-- The part of the machine that reports while tables are built. -/
def tableTarget : String := "linestate::table"

/-- The part of the machine that reports while lines are parsed. -/
def engineTarget : String := "linestate::engine"

/-- The weight of the report. -/
def level : Report → Level
  | .placeholder _ _ => .warn
  | .shadowed _ _ _ _ => .warn
  | .built _ _ _ => .debug
  | .pushed _ _ _ => .debug
  | .popped _ _ _ => .debug
  | .matched _ _ _ _ => .trace
  | .stepped _ _ _ => .trace
  | .leftover _ _ => .warn
  | .finished _ _ => .debug

/-- Where the report comes from. -/
def target : Report → String
  | .placeholder _ _ => tableTarget
  | .shadowed _ _ _ _ => tableTarget
  | .built _ _ _ => tableTarget
  | _ => engineTarget

/-- What the report says. -/
def message : Report → String
  | .placeholder _ _ => "destination has no rules; any line reaching it will be unmatched"
  | .shadowed _ _ _ _ => "transition can never match; an earlier catch-all precedes it"
  | .built _ _ _ => "built transition table"
  | .pushed _ _ _ => "push"
  | .popped _ _ _ => "pop"
  | .matched _ _ _ _ => "matched"
  | .stepped _ _ _ => "step"
  | .leftover _ _ => "input ended with states on the context stack"
  | .finished _ _ => "parse finished"

/-- The details of the report. -/
def fields : Report → List (String × FieldValue)
  | .placeholder state destination =>
    [("state", .text state), ("destination", .text destination)]
  | .shadowed state rule pattern catchAll =>
    [("state", .text state), ("rule", .count rule), ("pattern", .text pattern.display),
      ("by", .count catchAll)]
  | .built states transitions initial =>
    [("states", .count states), ("transitions", .count transitions), ("initial", .text initial)]
  | .pushed lineno state depth =>
    [("lineno", .count lineno), ("state", .text state), ("depth", .count depth)]
  | .popped lineno state depth =>
    [("lineno", .count lineno), ("state", .text state), ("depth", .count depth)]
  | .matched lineno state rule pattern =>
    [("lineno", .count lineno), ("state", .text state), ("rule", .count rule),
      ("pattern", .text pattern.display)]
  | .stepped lineno source destination =>
    [("lineno", .count lineno), ("from", .text source), ("to", .text destination)]
  | .leftover depth states =>
    [("depth", .count depth), ("states", .text (", ".intercalate states))]
  | .finished lines finalState =>
    [("lines", .count lines), ("final_state", .text finalState)]

end Report

end LineMachine
