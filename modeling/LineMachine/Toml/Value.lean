import LineMachine.Number.Extended

/-!
# `LineMachine.Toml.Value`: the values of a TOML text

* `Date`, `Time` and `Offset` make up a `Moment`.
* `Value` is a value; tables keep the order of their entries.
* `Fault` lists what can be wrong with a text.
-/

set_option autoImplicit false

namespace LineMachine.Toml

/-- A day. -/
structure Date where
  year : Nat
  month : Nat
  day : Nat
deriving Repr, DecidableEq

/-- A time of day. -/
structure Time where
  hour : Nat
  minute : Nat
  second : Nat
  nanosecond : Nat
deriving Repr, DecidableEq

/-- How far a time is from universal time. -/
inductive Offset where
  | zulu
  | minutes (n : Int)
deriving Repr, DecidableEq

/-- A day, a time of day, or both. -/
inductive Moment where
  | date (d : Date)
  | time (t : Time)
  | dateTime (d : Date) (t : Time) (offset : Option Offset)
deriving Repr, DecidableEq

/-- A number with zeros in front, up to a width. -/
def padded (width n : Nat) : String :=
  let digits := toString n
  String.ofList (List.replicate (width - digits.length) '0') ++ digits

/-- The day as a text. -/
def Date.toText (d : Date) : String :=
  padded 4 d.year ++ "-" ++ padded 2 d.month ++ "-" ++ padded 2 d.day

/-- The decimal places of a second, without zeros at the end. -/
def fractionText (nanosecond : Nat) : String :=
  if nanosecond = 0 then ""
  else
    let digits := (padded 9 nanosecond).toList.reverse.dropWhile fun c => c = '0'
    "." ++ String.ofList digits.reverse

/-- The time as a text. -/
def Time.toText (t : Time) : String :=
  padded 2 t.hour ++ ":" ++ padded 2 t.minute ++ ":" ++ padded 2 t.second ++
    fractionText t.nanosecond

/-- The offset as a text. -/
def Offset.toText : Offset → String
  | .zulu => "Z"
  | .minutes n =>
    (if n < 0 then "-" else "+") ++ padded 2 (n.natAbs / 60) ++ ":" ++ padded 2 (n.natAbs % 60)

/-- The moment as a text. -/
def Moment.toText : Moment → String
  | .date d => d.toText
  | .time t => t.toText
  | .dateTime d t offset => d.toText ++ "T" ++ t.toText ++ (offset.map Offset.toText).getD ""

/-- A value. -/
inductive Value where
  | text (s : String)
  | integer (n : Int)
  | float (x : Extended)
  | boolean (b : Bool)
  | moment (m : Moment)
  | array (items : List Value)
  | table (entries : List (String × Value))
deriving Inhabited

/-- What can be wrong with a text. -/
inductive Fault where
  | keyExpected
  | valueExpected
  | equalsExpected
  | lineEndExpected
  | bracketExpected
  | unclosedText
  | escape
  | controlCharacter
  | tooGreat
  | tooDeep
  | duplicateKey (key : String)
  | notATable (key : String)
  | steps
deriving Repr, DecidableEq

/-- What the fault says. -/
def Fault.message : Fault → String
  | .keyExpected => "expected a key"
  | .valueExpected => "expected a value"
  | .equalsExpected => "expected `=`"
  | .lineEndExpected => "expected the end of the line"
  | .bracketExpected => "expected a closing bracket"
  | .unclosedText => "unclosed string"
  | .escape => "invalid escape sequence"
  | .controlCharacter => "invalid control character"
  | .tooGreat => "number out of range"
  | .tooDeep => "nested too deep"
  | .duplicateKey key => s!"duplicate key `{key}`"
  | .notATable key => s!"key `{key}` is not a table"
  | .steps => "text too long"

end LineMachine.Toml
