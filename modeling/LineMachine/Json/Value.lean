import LineMachine.Number.Binary64

/-!
# `LineMachine.Json.Value`: JSON values

* `Json` is a JSON value. Objects keep the order of their members.
* `Json.sorted` puts the members of all objects in the order of their keys.
* `Json.render` writes a value on one line, `Json.pretty` on several.
-/

set_option autoImplicit false

namespace LineMachine

/-- A JSON value. -/
inductive Json where
  | null
  | bool (b : Bool)
  | int (n : Int)
  | float (x : Binary64)
  | string (s : String)
  | array (items : List Json)
  | object (members : List (String × Json))
deriving Inhabited

namespace Json

/-- The value of the first member with a key. -/
def get? (key : String) : Json → Option Json
  | .object members => (members.find? fun m => m.1 = key).map Prod.snd
  | _ => none

mutual

/-- The value with the members of all objects in the order of their keys. -/
def sorted : Json → Json
  | .array items => .array (sortedItems items)
  | .object members => .object ((sortedMembers members).mergeSort fun a b => a.1 ≤ b.1)
  | scalar => scalar

/-- The items of an array, each sorted. -/
def sortedItems : List Json → List Json
  | [] => []
  | item :: rest => item.sorted :: sortedItems rest

/-- The members of an object, the value of each sorted. -/
def sortedMembers : List (String × Json) → List (String × Json)
  | [] => []
  | (key, value) :: rest => (key, value.sorted) :: sortedMembers rest

end

/-- The digits of a control character after `\u`. -/
def controlDigits (n : Nat) : List Char :=
  [Nat.digitChar (n / 4096 % 16), Nat.digitChar (n / 256 % 16), Nat.digitChar (n / 16 % 16),
    Nat.digitChar (n % 16)]

/-- A character inside a JSON string. -/
def escapeChar (c : Char) : List Char :=
  if c = '"' then ['\\', '"']
  else if c = '\\' then ['\\', '\\']
  else if c = '\n' then ['\\', 'n']
  else if c = '\r' then ['\\', 'r']
  else if c = '\t' then ['\\', 't']
  else if c = '\x08' then ['\\', 'b']
  else if c = '\x0c' then ['\\', 'f']
  else if c.toNat < 0x20 then '\\' :: 'u' :: controlDigits c.toNat
  else [c]

/-- A JSON string. -/
def renderString (s : String) : String :=
  String.ofList ('"' :: (s.toList.flatMap escapeChar ++ ['"']))

/-- A number, a truth value, a string or null. -/
def renderScalar : Json → String
  | .bool true => "true"
  | .bool false => "false"
  | .int n => toString n
  | .float x => x.toPointText
  | .string s => renderString s
  | _ => "null"

mutual

/-- The value on one line. -/
def render : Json → String
  | .array items => "[" ++ ",".intercalate (renderItems items) ++ "]"
  | .object members => "\x7b" ++ ",".intercalate (renderMembers members) ++ "\x7d"
  | scalar => renderScalar scalar

/-- The items of an array. -/
def renderItems : List Json → List String
  | [] => []
  | item :: rest => item.render :: renderItems rest

/-- The members of an object. -/
def renderMembers : List (String × Json) → List String
  | [] => []
  | (key, value) :: rest => (renderString key ++ ":" ++ value.render) :: renderMembers rest

end

/-- The line break in front of a line that is indented by `depth` levels. -/
def breakLine (depth : Nat) : String := "\n" ++ String.ofList (List.replicate (2 * depth) ' ')

/-- Lines between brackets, one level further in. -/
def bracketed (opening closing : String) (depth : Nat) : List String → String
  | [] => opening ++ closing
  | lines =>
    opening ++ breakLine (depth + 1) ++ ("," ++ breakLine (depth + 1)).intercalate lines ++
      breakLine depth ++ closing

mutual

/-- The value with each item and member on a line of its own. -/
def prettyAt (depth : Nat) : Json → String
  | .array items => bracketed "[" "]" depth (prettyItems (depth + 1) items)
  | .object members => bracketed "\x7b" "\x7d" depth (prettyMembers (depth + 1) members)
  | scalar => renderScalar scalar

/-- The items of an array. -/
def prettyItems (depth : Nat) : List Json → List String
  | [] => []
  | item :: rest => prettyAt depth item :: prettyItems depth rest

/-- The members of an object. -/
def prettyMembers (depth : Nat) : List (String × Json) → List String
  | [] => []
  | (key, value) :: rest =>
    (renderString key ++ ": " ++ prettyAt depth value) :: prettyMembers depth rest

end

/-- The value with each item and member on a line of its own. -/
def pretty (value : Json) : String := prettyAt 0 value

end Json

end LineMachine
