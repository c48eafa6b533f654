import LineMachine.Toml.Value

/-!
# `LineMachine.Config.Value`: configuration values

* `Value` is a value; tables hold each key once, in lower case.
* `Value.ofToml` takes the values of a TOML text.
* `Value.overlay` lays a value over another one: tables key by key, all else
  as a whole.
* `Value.flag?`, `Value.text?` and `Value.choice?` convert values.
-/

set_option autoImplicit false

namespace LineMachine.Config

/-- A configuration value. -/
inductive Value where
  /-- nothing is set -/
  | nil
  | flag (b : Bool)
  | integer (n : Int)
  | float (x : Extended)
  | text (s : String)
  | list (items : List Value)
  | table (entries : List (String × Value))
deriving Inhabited

/-- A key in lower case. No other characters than the letters A to Z and the
Kelvin sign have a lower case that occurs in the name of a setting. -/
def lowered (key : String) : String :=
  key.map fun c => if c = '\u212A' then 'k' else c.toLower

namespace Value

mutual

/-- The value of a TOML text; moments become texts. -/
def ofToml : Toml.Value → Value
  | .text s => .text s
  | .integer n => .integer n
  | .float x => .float x
  | .boolean b => .flag b
  | .moment m => .text m.toText
  | .array items => .list (ofTomlItems items)
  | .table entries => .table (ofTomlEntries entries)

/-- The items of an array. -/
def ofTomlItems : List Toml.Value → List Value
  | [] => []
  | item :: rest => ofToml item :: ofTomlItems rest

/-- The entries of a table. -/
def ofTomlEntries : List (String × Toml.Value) → List (String × Value)
  | [] => []
  | (key, v) :: rest => (key, ofToml v) :: ofTomlEntries rest

end

/-- No entries. -/
def empty : Value := .table []

/-- The entries of a table; a value of another kind has none. -/
def entries : Value → List (String × Value)
  | .table es => es
  | _ => []

/-- The items of a list; a value of another kind has none. -/
def items : Value → List Value
  | .list vs => vs
  | _ => []

/-- The entries with a key that has a value from now on. -/
def put (key : String) (v : Value) : List (String × Value) → List (String × Value)
  | [] => [(key, v)]
  | (k, old) :: rest => if k = key then (k, v) :: rest else (k, old) :: put key v rest

mutual

/-- The value laid over what is there, if anything is. A table changes the
keys that it has, and makes a table of what is none; without keys it changes
nothing. -/
def overlay (below : Option Value) : Value → Value
  | .table es => overlayEntries (below.getD empty) es
  | v => v

/-- Entries laid over a value. -/
def overlayEntries (below : Value) : List (String × Value) → Value
  | [] => below
  | (key, v) :: rest =>
    let key := lowered key
    overlayEntries (.table (put key (overlay (below.entries.lookup key) v) below.entries)) rest

end

/-! ### Conversions -/

/-- The words for a truth value. -/
def flagWord? (word : String) : Option Bool :=
  if word ∈ ["1", "true", "on", "yes"] then some true
  else if word ∈ ["0", "false", "off", "no"] then some false
  else none

/-- The value as a truth value. Every number but zero counts as true. -/
def flag? : Value → Option Bool
  | .flag b => some b
  | .integer n => some (n ≠ 0)
  | .float x => some (!x.isZero)
  | .text s => flagWord? (lowered s)
  | _ => none

/-- The value as a text. -/
def text? : Value → Option String
  | .flag b => some (toString b)
  | .integer n => some (toString n)
  | .float x => some x.toText
  | .text s => some s
  | _ => none

/-- The name of a choice: a text, or the only key of a table. -/
def choiceName? : Value → Option String
  | .text s => some s
  | .table [(key, _)] => some key
  | _ => none

/-- The choice with a name, in any case. -/
def choice? {α : Type} (all : List α) (name : α → String) (v : Value) : Option α := do
  let wanted ← v.choiceName?
  all.find? fun a => name a = lowered wanted

/-- The fields of a record: the entries of a table, or the items of a list in
the order of the names. -/
def fields? (names : List String) : Value → Option (List (String × Value))
  | .table es => some es
  | .list vs => some (names.zip vs)
  | _ => none

end Value

end LineMachine.Config
