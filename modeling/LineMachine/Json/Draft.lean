import LineMachine.Json.Value
import LineMachine.Unicode.CharSet

/-!
# `LineMachine.Json.Draft`: JSON text as far as it can be read

A text that is no JSON may still begin like one. A draft holds what was read
up to the first fault, and the fault at its place, so that whoever looks at
the values in order finds whatever is wrong first in the text.

* `Fault` is what is wrong with the text.
* `Draft` is a value with faults in it, `Ending` the end of an array or
  object.
* `Draft.ofText` reads a text; `Json.toDraft` and `Draft.toJson?` compare
  drafts with values.
-/

set_option autoImplicit false

namespace LineMachine

/-- What is wrong with a JSON text. -/
inductive Json.Fault where
  /-- a character that cannot stand there -/
  | malformed
  /-- the text ends too early -/
  | truncated
deriving Repr, DecidableEq

/-- How the items of an array or the members of an object end. -/
inductive Json.Ending where
  /-- by the closing bracket -/
  | closed
  /-- by a fault, maybe behind a comma -/
  | stopped (behindComma : Bool) (fault : Json.Fault)
deriving Repr, DecidableEq

/-- A JSON value as far as it can be read. -/
inductive Json.Draft where
  | null
  | bool (b : Bool)
  | int (n : Int)
  | float (x : Binary64)
  | string (s : String)
  | array (items : List Json.Draft) (ending : Json.Ending)
  | object (members : List (String × Json.Draft)) (ending : Json.Ending)
  /-- an object that begins with something else than a key -/
  | oddObject (first : Json.Draft)
  /-- a value that cannot be read -/
  | broken (fault : Json.Fault)
  /-- a number or a truth value that cannot be read -/
  | brokenAtom (fault : Json.Fault)
deriving Inhabited

namespace Json

mutual

/-- The value as a draft without faults. -/
def toDraft : Json → Draft
  | .null => .null
  | .bool b => .bool b
  | .int n => .int n
  | .float x => .float x
  | .string s => .string s
  | .array items => .array (toDraftItems items) .closed
  | .object members => .object (toDraftMembers members) .closed

/-- The items of an array as drafts. -/
def toDraftItems : List Json → List Draft
  | [] => []
  | item :: rest => item.toDraft :: toDraftItems rest

/-- The members of an object as drafts. -/
def toDraftMembers : List (String × Json) → List (String × Draft)
  | [] => []
  | (key, value) :: rest => (key, value.toDraft) :: toDraftMembers rest

end

namespace Draft

mutual

/-- The value of a draft without faults. -/
def toJson? : Draft → Option Json
  | .null => some .null
  | .bool b => some (.bool b)
  | .int n => some (.int n)
  | .float x => some (.float x)
  | .string s => some (.string s)
  | .array items .closed => (toJsonItems? items).map .array
  | .object members .closed => (toJsonMembers? members).map .object
  | _ => none

/-- The items of an array without faults. -/
def toJsonItems? : List Draft → Option (List Json)
  | [] => some []
  | item :: rest => do
    let first ← item.toJson?
    let more ← toJsonItems? rest
    some (first :: more)

/-- The members of an object without faults. -/
def toJsonMembers? : List (String × Draft) → Option (List (String × Json))
  | [] => some []
  | (key, value) :: rest => do
    let first ← value.toJson?
    let more ← toJsonMembers? rest
    some ((key, first) :: more)

end

/-- Drops blanks. -/
def skip (cs : List Char) : List Char :=
  cs.dropWhile fun c => c = ' ' || c = '\n' || c = '\t' || c = '\r'

/-- Reads the rest of a word; `fail` makes the draft of a word that is cut
short or misspelt. -/
def word (fail : Fault → Draft) (value : Draft) : List Char → List Char → Draft × Option (List Char)
  | [], cs => (value, some cs)
  | _ :: _, [] => (fail .truncated, none)
  | w :: ws, c :: cs => if w = c then word fail value ws cs else (fail .malformed, none)

/-- Reads four hexadecimal digits. What counts as the end of the text is the
number of bytes left. -/
def hex4 (cs : List Char) : Except Fault (Nat × List Char) :=
  match cs with
  | a :: b :: c :: d :: rest =>
    match [a, b, c, d].mapM Unicode.CharSet.hexValue? with
    | some digits => .ok (digits.foldl (fun n x => 16 * n + x) 0, rest)
    | none => .error .malformed
  | short =>
    if short.foldl (fun n c => n + c.utf8Size) 0 < 4 then .error .truncated else .error .malformed

/-- Reads what follows `\u`: one code, or two that make up a character
together. -/
def unicodeEscape (cs : List Char) : Except Fault (Char × List Char) := do
  let (high, rest) ← hex4 cs
  if 0xDC00 ≤ high ∧ high ≤ 0xDFFF then .error .malformed
  else if 0xD800 ≤ high ∧ high ≤ 0xDBFF then
    match rest with
    | '\\' :: 'u' :: rest =>
      let (low, rest) ← hex4 rest
      if 0xDC00 ≤ low ∧ low ≤ 0xDFFF then
        .ok (Char.ofNat (0x10000 + (high - 0xD800) * 0x400 + (low - 0xDC00)), rest)
      else .error .malformed
    | [] => .error .truncated
    | ['\\'] => .error .truncated
    | _ => .error .malformed
  else .ok (Char.ofNat high, rest)

/-- The character that a letter behind a backslash stands for. -/
def simpleEscape? : Char → Option Char
  | '"' => some '"'
  | '\\' => some '\\'
  | '/' => some '/'
  | 'b' => some '\x08'
  | 'f' => some '\x0c'
  | 'n' => some '\n'
  | 'r' => some '\r'
  | 't' => some '\t'
  | _ => none

/-- Reads the characters of a string behind its opening quote. -/
def stringBody : Nat → List Char → Except Fault (List Char × List Char)
  | 0, _ => .error .truncated
  | _ + 1, [] => .error .truncated
  | steps + 1, c :: cs =>
    if c = '"' then .ok ([], cs)
    else if c.toNat < 0x20 then .error .malformed
    else if c = '\\' then
      match cs with
      | [] => .error .truncated
      | 'u' :: cs => do
        let (ch, cs) ← unicodeEscape cs
        let (more, cs) ← stringBody steps cs
        .ok (ch :: more, cs)
      | e :: cs =>
        match simpleEscape? e with
        | none => .error .malformed
        | some ch => do
          let (more, cs) ← stringBody steps cs
          .ok (ch :: more, cs)
    else do
      let (more, cs) ← stringBody steps cs
      .ok (c :: more, cs)

/-- Reads a string behind its opening quote. -/
def string? (cs : List Char) : Except Fault (String × List Char) := do
  let (chars, rest) ← stringBody (cs.length + 1) cs
  .ok (String.ofList chars, rest)

/-- The value of a list of digits. -/
def digitsValue (ds : List Char) : Nat := ds.foldl (fun n d => 10 * n + (d.toNat - '0'.toNat)) 0

/-- The greatest significand that is kept exactly. -/
def significandLimit : Nat := 0x10000000000000000

/-- As many leading digits as fit the significand, and the others. -/
def fitDigits (significand : Nat) : List Char → Nat × List Char
  | [] => (significand, [])
  | d :: ds =>
    let next := 10 * significand + (d.toNat - '0'.toNat)
    if next < significandLimit then fitDigits next ds else (significand, d :: ds)

/-- A significand times a power of ten, in two roundings: the significand is
rounded first, then the product or quotient with the rounded power. -/
def scale (negative : Bool) (significand : Nat) : Nat → Int → Option Binary64
  | 0, _ => some (Binary64.zero negative)
  | steps + 1, e => do
    let s ← Binary64.round? negative significand 1
    go steps s e
where
  /-- Scales a number that is already rounded. -/
  go : Nat → Binary64 → Int → Option Binary64
    | 0, s, _ => some s
    | steps + 1, s, e =>
      let (n, d) := s.magnitude
      if s.mantissa = 0 then some s
      else if 308 < e then none
      else if 0 ≤ e then do
        let power ← Binary64.round? false (Nat.pow 10 e.toNat) 1
        let (pn, pd) := power.magnitude
        Binary64.round? negative (n * pn) (d * pd)
      else do
        let part := if e < -308 then 308 else (-e).toNat
        let power ← Binary64.round? false (Nat.pow 10 part) 1
        let (pn, pd) := power.magnitude
        let quotient ← Binary64.round? negative (n * pd) (d * pn)
        if e < -308 then go steps quotient (e + 308) else some quotient

/-- The number with a significand, a decimal exponent, and the digits of a
written exponent. -/
def floatOf (negative : Bool) (significand : Nat) (e : Int) : Draft :=
  match scale negative significand 5000 e with
  | some x => .float x
  | none => .brokenAtom .malformed

/-- Reads an exponent behind its letter. -/
def exponent (negative : Bool) (significand : Nat) (e : Int) (cs : List Char) :
    Draft × Option (List Char) :=
  let (down, cs) := match cs with
    | '-' :: rest => (true, rest)
    | '+' :: rest => (false, rest)
    | _ => (false, cs)
  let digits := cs.takeWhile Char.isDigit
  let rest := cs.drop digits.length
  match digits, rest with
  | [], [] => (.brokenAtom .truncated, none)
  | [], _ :: _ => (.brokenAtom .malformed, none)
  | _ :: _, _ =>
    let n := digitsValue digits
    if 0x80000000 ≤ n then
      if significand ≠ 0 && !down then (.brokenAtom .malformed, none)
      else (.float (Binary64.zero negative), some rest)
    else
      match floatOf negative significand (if down then e - n else e + n) with
      | .brokenAtom f => (.brokenAtom f, none)
      | value => (value, some rest)

/-- Reads a fraction behind its point. -/
def fraction (negative : Bool) (significand : Nat) (e : Int) (cs : List Char) :
    Draft × Option (List Char) :=
  let digits := cs.takeWhile Char.isDigit
  let rest := cs.drop digits.length
  match digits, rest with
  | [], [] => (.brokenAtom .truncated, none)
  | [], _ :: _ => (.brokenAtom .malformed, none)
  | _ :: _, _ =>
    let (significand, dropped) := fitDigits significand digits
    let e := e - ((digits.length - dropped.length : Nat) : Int)
    match rest with
    | 'e' :: rest => exponent negative significand e rest
    | 'E' :: rest => exponent negative significand e rest
    | _ =>
      match floatOf negative significand e with
      | .brokenAtom f => (.brokenAtom f, none)
      | value => (value, some rest)

/-- Reads a number behind its sign. -/
def number (negative : Bool) (cs : List Char) : Draft × Option (List Char) :=
  let digits := cs.takeWhile Char.isDigit
  let rest := cs.drop digits.length
  match digits, rest with
  | [], [] => (.brokenAtom .truncated, none)
  | [], _ :: _ => (.brokenAtom .malformed, none)
  | '0' :: _ :: _, _ => (.brokenAtom .malformed, none)
  | _ :: _, _ =>
    let (significand, dropped) := fitDigits 0 digits
    let e : Int := dropped.length
    match rest with
    | '.' :: rest => fraction negative significand e rest
    | 'e' :: rest => exponent negative significand e rest
    | 'E' :: rest => exponent negative significand e rest
    | _ =>
      let isFloat := dropped ≠ [] ||
        (negative && (significand = 0 || 0x8000000000000000 < significand))
      if isFloat then
        match floatOf negative significand e with
        | .brokenAtom f => (.brokenAtom f, none)
        | value => (value, some rest)
      else (.int (if negative then -significand else significand), some rest)

mutual

/-- Reads a value. Without a rest, a fault ended the text. -/
def value : Nat → List Char → Draft × Option (List Char)
  | 0, _ => (.broken .truncated, none)
  | steps + 1, cs =>
    match skip cs with
    | [] => (.broken .truncated, none)
    | 'n' :: cs => word .broken .null ['u', 'l', 'l'] cs
    | 't' :: cs => word .brokenAtom (.bool true) ['r', 'u', 'e'] cs
    | 'f' :: cs => word .brokenAtom (.bool false) ['a', 'l', 's', 'e'] cs
    | '-' :: cs => number true cs
    | '"' :: cs =>
      match string? cs with
      | .ok (s, rest) => (.string s, some rest)
      | .error f => (.broken f, none)
    | '[' :: cs =>
      match skip cs with
      | [] => (.array [] (.stopped false .truncated), none)
      | ']' :: rest => (.array [] .closed, some rest)
      | cs =>
        let (items, ending, rest) := elements steps cs
        (.array items ending, rest)
    | '\x7b' :: cs =>
      match skip cs with
      | [] => (.object [] (.stopped false .truncated), none)
      | '\x7d' :: rest => (.object [] .closed, some rest)
      | '"' :: cs =>
        let (members, ending, rest) := members steps cs
        (.object members ending, rest)
      | cs => (.oddObject (value steps cs).1, none)
    | c :: cs => if c.isDigit then number false (c :: cs) else (.broken .malformed, none)

/-- Reads the elements of an array up to its end. -/
def elements : Nat → List Char → List Draft × Ending × Option (List Char)
  | 0, _ => ([], .stopped false .truncated, none)
  | steps + 1, cs =>
    match value steps cs with
    | (item, none) => ([item], .stopped false .malformed, none)
    | (item, some cs) =>
      match skip cs with
      | [] => ([item], .stopped false .truncated, none)
      | ']' :: rest => ([item], .closed, some rest)
      | ',' :: cs =>
        match skip cs with
        | [] => ([item], .stopped true .truncated, none)
        | ']' :: _ => ([item], .stopped true .malformed, none)
        | cs =>
          let (items, ending, rest) := elements steps cs
          (item :: items, ending, rest)
      | _ => ([item], .stopped false .malformed, none)

/-- Reads the members of an object up to its end, the first one behind the
opening quote of its key. -/
def members : Nat → List Char → List (String × Draft) × Ending × Option (List Char)
  | 0, _ => ([], .stopped false .truncated, none)
  | steps + 1, cs =>
    match string? cs with
    | .error f => ([], .stopped false f, none)
    | .ok (key, cs) =>
      match skip cs with
      | [] => ([(key, .broken .truncated)], .stopped false .truncated, none)
      | ':' :: cs =>
        match value steps cs with
        | (item, none) => ([(key, item)], .stopped false .malformed, none)
        | (item, some cs) =>
          match skip cs with
          | [] => ([(key, item)], .stopped false .truncated, none)
          | '\x7d' :: rest => ([(key, item)], .closed, some rest)
          | ',' :: cs =>
            match skip cs with
            | [] => ([(key, item)], .stopped true .truncated, none)
            | '"' :: cs =>
              let (more, ending, rest) := members steps cs
              ((key, item) :: more, ending, rest)
            | _ => ([(key, item)], .stopped true .malformed, none)
          | _ => ([(key, item)], .stopped false .malformed, none)
      | _ => ([(key, .broken .malformed)], .stopped false .malformed, none)

end

/-- The draft at the front of a text, and what follows it unless a fault
came first. -/
def ofText (text : String) : Draft × Option (List Char) :=
  let cs := text.toList
  value (2 * cs.length + 2) cs

end Draft

/-- The value that a text denotes, if nothing is wrong with the text. -/
def ofText? (text : String) : Option Json :=
  match Draft.ofText text with
  | (draft, some rest) => if (Draft.skip rest).isEmpty then draft.toJson? else none
  | (_, none) => none

end Json

end LineMachine
