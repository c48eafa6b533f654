import LineMachine.Regex.Expr

/-!
# `LineMachine.Regex.Program`: expressions as programs

A program is a list of instructions that name each other by position. It
is put together from its end: an expression is compiled once it is known
where to go on behind it.

* `Inst` lists the instructions.
* `Program.ofExpr` compiles an expression; instruction `0` accepts.
-/

set_option autoImplicit false

namespace LineMachine.Regex

open LineMachine.Unicode

/-- An instruction. `next` is where to go on. -/
inductive Inst where
  | accept
  /-- take one character of the set -/
  | chars (set : CharSet) (next : Nat)
  /-- go on where the assertion holds -/
  | look (l : Look) (next : Nat)
  /-- go on at both places, the first one preferred -/
  | split (first second : Nat)
  /-- note the present place -/
  | save (slot next : Nat)
  /-- hold the place of an instruction that is not known yet -/
  | stuck
deriving Inhabited

/-- A compiled expression, with the place where a match begins. -/
structure Program where
  insts : Array Inst
  start : Nat
deriving Inhabited

/-- The instructions of a program that is being put together. -/
abbrev Code := Array Inst

/-- Adds an instruction and gives its place. -/
def emit (code : Code) (inst : Inst) : Code × Nat := (code.push inst, code.size)

/-- A choice between another round and the way out. -/
def choice (greedy : Bool) (round out : Nat) : Inst :=
  if greedy then .split round out else .split out round

/-- Runs a step of compilation `n` times, each time in front of the last. -/
def iterate (n : Nat) (step : Code → Nat → Code × Nat) (code : Code) (next : Nat) : Code × Nat :=
  match n with
  | 0 => (code, next)
  | n + 1 =>
    let (code, next) := iterate n step code next
    step code next

/-- Compiles an expression in front of the instruction at `next` and gives
the place where it begins.

A repetition without an upper bound goes through one choice behind its last
round. When the expression can match nothing, the choice to enter at all is
another one than the choice to go round again: a round that takes nothing
then still counts as a round. -/
def Expr.assemble : Expr → Code → Nat → Code × Nat
  | .empty, code, next => (code, next)
  | .chars set, code, next =>
    if set.isEmpty then emit code .stuck else emit code (.chars set next)
  | .look l, code, next => emit code (.look l next)
  | .cat a b, code, next =>
    let (code, next) := b.assemble code next
    a.assemble code next
  | .alt a b, code, next =>
    let (code, second) := b.assemble code next
    let (code, first) := a.assemble code next
    emit code (.split first second)
  | .group index _ sub, code, next =>
    let (code, close) := emit code (.save (2 * index + 1) next)
    let (code, body) := sub.assemble code close
    emit code (.save (2 * index) body)
  | .rep min max greedy sub, code, next =>
    match max with
    | some most =>
      let option (code : Code) (following : Nat) : Code × Nat :=
        let (code, body) := sub.assemble code following
        emit code (choice greedy body next)
      let (code, next) := iterate (most - min) option code next
      iterate min sub.assemble code next
    | none =>
      let (code, again) := emit code .stuck
      let (code, body) := sub.assemble code again
      let code := code.setIfInBounds again (choice greedy body next)
      match min with
      | 0 =>
        if sub.consumes then (code, again)
        else emit code (choice greedy body next)
      | more + 1 => iterate more sub.assemble code body

/-- The program of an expression, which notes where the whole match begins
and ends. -/
def Program.ofExpr (e : Expr) : Program :=
  let (insts, start) := (Expr.group 0 none e).assemble #[.accept] 0
  ⟨insts, start⟩

end LineMachine.Regex
