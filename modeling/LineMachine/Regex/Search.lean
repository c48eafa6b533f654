import LineMachine.Regex.Program
import LineMachine.Unicode.Lookup

/-!
# `LineMachine.Regex.Search`: finding the leftmost match

All ways to match are followed side by side, in order of preference, one
character at a time. Of two ways that are at the same instruction the less
preferred one is dropped, so the work is bounded by the size of the program
times the length of the text.

* `Look.holds` decides an assertion.
* `close` follows the instructions that take no character.
* `search` is the leftmost match, and among those that begin there the most
  preferred one.
-/

set_option autoImplicit false

namespace LineMachine.Regex

open LineMachine.Unicode

/-- A place in the text: how many characters precede it, and its two
neighbours. -/
structure Place where
  offset : Nat
  before : Option Char
  after : Option Char

/-- Whether there is a neighbour and it is a word character. -/
def isWordSide (unicode : Bool) (side : Option Char) : Bool :=
  match side with
  | none => false
  | some c => c.isAlphanum || c = '_' || (unicode && wordSet.contains c)

/-- Whether an assertion holds at a place. -/
def Look.holds (p : Place) : Look → Bool
  | .textStart => p.before.isNone
  | .textEnd => p.after.isNone
  | .lineStart crlf =>
    p.before.isNone || p.before = some '\n' ||
      (crlf && p.before = some '\r' && p.after ≠ some '\n')
  | .lineEnd crlf =>
    p.after.isNone || (crlf && p.after = some '\r') ||
      (p.after = some '\n' && !(crlf && p.before = some '\r'))
  | .word unicode edge =>
    let left := isWordSide unicode p.before
    let right := isWordSide unicode p.after
    match edge with
    | .boundary => left != right
    | .inside => left == right
    | .start => !left && right
    | .stop => left && !right
    | .startHalf => !left
    | .stopHalf => !right

/-- The places noted so far, two for each group. -/
abbrev Slots := Array (Option Nat)

/-- A way to match: the instruction it is at, and the places it noted. -/
structure Thread where
  pc : Nat
  slots : Slots

/-- Follows instructions that take no character, most preferred first, and
collects those that do. `seen` marks the instructions that were reached. -/
def close (prog : Program) (place : Place) :
    Nat → List Thread → Array Bool → Array Thread → Array Bool × Array Thread
  | 0, _, seen, out => (seen, out)
  | _ + 1, [], seen, out => (seen, out)
  | steps + 1, t :: todo, seen, out =>
    if seen.getD t.pc true then close prog place steps todo seen out
    else
      let seen := seen.setIfInBounds t.pc true
      match prog.insts.getD t.pc .stuck with
      | .accept => close prog place steps todo seen (out.push t)
      | .chars _ _ => close prog place steps todo seen (out.push t)
      | .look l next =>
        let todo := if l.holds place then ⟨next, t.slots⟩ :: todo else todo
        close prog place steps todo seen out
      | .split first second =>
        close prog place steps (⟨first, t.slots⟩ :: ⟨second, t.slots⟩ :: todo) seen out
      | .save slot next =>
        close prog place steps (⟨next, t.slots.setIfInBounds slot (some place.offset)⟩ :: todo)
          seen out
      | .stuck => close prog place steps todo seen out

/-- Adds a way to match and all that it leads to without a character. Each
instruction is followed once and leads to two at most. -/
def enter (prog : Program) (place : Place) (t : Thread)
    (state : Array Bool × Array Thread) : Array Bool × Array Thread :=
  close prog place (2 * prog.insts.size + 2) [t] state.1 state.2

/-- Takes character `c`: the ways that go on behind it, and the places of a
match that ends before it. Ways behind an accepting one are less preferred
and are dropped. -/
def advance (prog : Program) (c : Option Char) (place : Place) :
    List Thread → Array Bool × Array Thread → Option Slots × (Array Bool × Array Thread)
  | [], state => (none, state)
  | t :: rest, state =>
    match prog.insts.getD t.pc .stuck with
    | .accept => (some t.slots, state)
    | .chars set next =>
      match c with
      | some c =>
        if set.contains c then
          advance prog (some c) place rest (enter prog place ⟨next, t.slots⟩ state)
        else advance prog (some c) place rest state
      | none => advance prog none place rest state
    | _ => advance prog c place rest state

/-- Searches from a place on. `state` holds the ways that began before it,
`found` the best match so far; once there is one no new way begins. -/
def searchFrom (prog : Program) (fresh : Slots) (offset : Nat) (before : Option Char)
    (state : Array Bool × Array Thread) (found : Option Slots) : List Char → Option Slots
  | [] =>
    let place : Place := ⟨offset, before, none⟩
    let state := if found.isNone then enter prog place ⟨prog.start, fresh⟩ state else state
    ((advance prog none place state.2.toList (#[], #[])).1).or found
  | c :: rest =>
    let place : Place := ⟨offset, before, some c⟩
    let state := if found.isNone then enter prog place ⟨prog.start, fresh⟩ state else state
    let nextPlace : Place := ⟨offset + 1, some c, rest.head?⟩
    let none' := (Array.replicate prog.insts.size false, #[])
    let (hit, state) := advance prog (some c) nextPlace state.2.toList none'
    let found := hit.or found
    if found.isSome && state.2.isEmpty then found
    else searchFrom prog fresh (offset + 1) (some c) state found rest

/-- The places of the leftmost match in a text, two for each of `groups`
groups, or `none` when there is no match. -/
def search (prog : Program) (groups : Nat) (text : List Char) : Option Slots :=
  searchFrom prog (Array.replicate (2 * groups) none) 0 none
    (Array.replicate prog.insts.size false, #[]) none text

end LineMachine.Regex
