import LineMachine.Json.Draft
import LineMachine.Text.Quoted

/-!
# `LineMachine.Json.Record`: typed values from JSON

A record is read from an object or from an array with the fields in order,
a choice between names from a string or from an object with that one key.
What is wrong first in the draft is what is reported.

* `Origin` tells a draft of a text from a finished value; a few faults are
  named differently.
* `DecodeError` is why a draft is refused.
* `decodeString`, `decodeBool`, `decodeOption`, `decodeList` and
  `decodeVariant` read simple values.
* `RecordField` describes a field; `decodeRecord` reads the fields of a record.
-/

set_option autoImplicit false

namespace LineMachine.Json

/-- Where a draft comes from. -/
inductive Origin where
  /-- a text, which may go on behind the draft -/
  | text
  /-- a finished value -/
  | value
deriving Repr, DecidableEq

/-- Why a draft is refused. -/
inductive DecodeError where
  /-- a value of the wrong kind, with what is wrong -/
  | data (message : String)
  /-- a fault of the text -/
  | fault (f : Fault)
deriving Repr, DecidableEq

/-- The kind of a draft, with its value when that is short. -/
def Draft.kind : Draft → String
  | .null => "null"
  | .bool b => s!"boolean `{b}`"
  | .int n => s!"integer `{n}`"
  | .float x => s!"floating point `{x.toPointText}`"
  | .string s => "string " ++ Text.quote s
  | .array _ _ => "sequence"
  | _ => "map"

/-- The error for a draft where something else was expected. -/
def mismatch (d : Draft) (expected : String) : DecodeError :=
  match d with
  | .broken f => .fault f
  | .brokenAtom f => .fault f
  | d => .data s!"invalid type: {d.kind}, expected {expected}"

/-- A list of names as alternatives. -/
def oneOf (names : List String) : String :=
  match names with
  | [a] => s!"`{a}`"
  | [a, b] => s!"`{a}` or `{b}`"
  | _ => "one of " ++ ", ".intercalate (names.map fun n => s!"`{n}`")

/-- A string. -/
def decodeString : Draft → Except DecodeError String
  | .string s => .ok s
  | d => .error (mismatch d "a string")

/-- A truth value. -/
def decodeBool : Draft → Except DecodeError Bool
  | .bool b => .ok b
  | d => .error (mismatch d "a boolean")

/-- A value, or null for none. -/
def decodeOption {α : Type} (read : Draft → Except DecodeError α) :
    Draft → Except DecodeError (Option α)
  | .null => .ok none
  | d => (read d).map some

/-- The end of an array or object that was read as a whole. -/
def checkEnding : Ending → Except DecodeError Unit
  | .closed => .ok ()
  | .stopped _ f => .error (.fault f)

/-- A list of values. -/
def decodeList {α : Type} (read : Draft → Except DecodeError α) :
    Draft → Except DecodeError (List α)
  | .array items ending => do
    let values ← items.mapM read
    checkEnding ending
    .ok values
  | d => .error (mismatch d "a sequence")

/-- One of the names. -/
def checkVariant (names : List String) (name : String) : Except DecodeError String :=
  if name ∈ names then .ok name
  else .error (.data s!"unknown variant `{name}`, expected {oneOf names}")

/-- The value beside a name, which must be null. -/
def checkUnit : Draft → Except DecodeError Unit
  | .null => .ok ()
  | d => .error (mismatch d "unit")

/-- One of the names, from a draft of a text. -/
def variantOfText (names : List String) : Draft → Except DecodeError String
  | .string s => checkVariant names s
  | .object [] .closed => .error (.fault .malformed)
  | .object [] (.stopped _ f) => .error (.fault f)
  | .object ((key, beside) :: more) ending => do
    let name ← checkVariant names key
    checkUnit beside
    match more, ending with
    | [], .closed => .ok name
    | [], .stopped false f => .error (.fault f)
    | _, _ => .error (.fault .malformed)
  | .oddObject first => .error (mismatch first "variant identifier")
  | .broken f => .error (.fault f)
  | _ => .error (.fault .malformed)

/-- One of the names, from a finished value. -/
def variantOfValue (names : List String) : Draft → Except DecodeError String
  | .string s => checkVariant names s
  | .object [(key, beside)] _ => do
    let name ← checkVariant names key
    checkUnit beside
    .ok name
  | .object _ _ => .error (.data "invalid value: map, expected map with a single key")
  | d => .error (mismatch d "string or map")

/-- One of the names. -/
def decodeVariant (origin : Origin) (names : List String) : Draft → Except DecodeError String :=
  match origin with
  | .text => variantOfText names
  | .value => variantOfValue names

/-- A field of a record: its name, whether it must be there, and how to read
it. -/
structure RecordField (α : Type) where
  name : String
  required : Bool
  read : Draft → Except DecodeError α

variable {α : Type}

/-- Reads the members of an object. `seen` holds the names of those before;
a member that is no field is refused when `closed` is set. -/
def decodeMembers (fields : List (RecordField α)) (closed : Bool) (ending : Ending)
    (seen : List String) : List (String × Draft) → Except DecodeError (List (String × α))
  | [] => do
    checkEnding ending
    .ok []
  | (key, value) :: rest =>
    match fields.find? fun f => f.name = key with
    | none =>
      if closed then
        .error (.data s!"unknown field `{key}`, expected {oneOf (fields.map RecordField.name)}")
      else decodeMembers fields closed ending seen rest
    | some f =>
      if key ∈ seen then .error (.data s!"duplicate field `{key}`")
      else do
        let a ← f.read value
        let more ← decodeMembers fields closed ending (key :: seen) rest
        .ok ((key, a) :: more)

/-- Refuses a record without one of its required fields. -/
def checkRequired (found : List (String × α)) : List (RecordField α) → Except DecodeError Unit
  | [] => .ok ()
  | f :: fs =>
    if f.required && !(found.any fun row => row.1 = f.name) then
      .error (.data s!"missing field `{f.name}`")
    else checkRequired found fs

/-- The end of an array behind the last field. -/
def checkNoMore (origin : Origin) (total : Nat) (items : List Draft) (ending : Ending) :
    Except DecodeError Unit :=
  match origin, items, ending with
  | .value, [], _ => .ok ()
  | .value, _ :: _, _ =>
    .error (.data s!"invalid length {total}, expected fewer elements in array")
  | .text, [], .closed => .ok ()
  | .text, [], .stopped false f => .error (.fault f)
  | .text, _, _ => .error (.fault .malformed)

/-- Reads the items of an array as the fields in order. -/
def decodeItems (origin : Origin) (kind : String) (count total : Nat) (ending : Ending) :
    Nat → List (RecordField α) → List Draft → Except DecodeError (List (String × α))
  | _, [], items => do
    checkNoMore origin total items ending
    .ok []
  | index, f :: fs, item :: items => do
    let a ← f.read item
    let more ← decodeItems origin kind count total ending (index + 1) fs items
    .ok ((f.name, a) :: more)
  | index, f :: fs, [] =>
    match ending with
    | .stopped _ fault => .error (.fault fault)
    | .closed =>
      if f.required then
        .error (.data s!"invalid length {index}, expected {kind} with {count} elements")
      else decodeItems origin kind count total ending (index + 1) fs []

/-- Reads the fields of a record that are there. `kind` is what the record is
called in messages. -/
def decodeRecord (origin : Origin) (kind : String) (fields : List (RecordField α)) (closed : Bool) :
    Draft → Except DecodeError (List (String × α))
  | .object members ending => do
    let found ← decodeMembers fields closed ending [] members
    checkRequired found fields
    .ok found
  | .array items ending =>
    decodeItems origin kind fields.length items.length ending 0 fields items
  | .oddObject _ => .error (.fault .malformed)
  | d => .error (mismatch d kind)

/-- The value of a field, if it is there. -/
def field? (found : List (String × α)) (name : String) : Option α :=
  (found.find? fun row => row.1 = name).map Prod.snd

end LineMachine.Json
