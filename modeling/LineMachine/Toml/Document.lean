import LineMachine.Toml.Value

/-!
# `LineMachine.Toml.Document`: tables while they are put together

The tables of a text are written in several places. What may still be added
to a table depends on how it came to be.

* `Origin` is how a table came to be, `Item` what a key stands for.
* `within` works on the table at the end of a path.
* `openTable` and `openElement` are what headers do, `insert` is what an
  entry does.
* `Item.toValue` is the value in the end.
-/

set_option autoImplicit false

namespace LineMachine.Toml

/-- How a table came to be. -/
inductive Origin where
  /-- by a header of its own -/
  | declared
  /-- by the header of a table inside it -/
  | implied
  /-- by an entry with a dotted key -/
  | dotted
deriving Repr, DecidableEq

/-- What a key stands for. -/
inductive Item where
  | value (v : Value)
  | table (origin : Origin) (entries : List (String × Item))
  /-- the tables that a repeated header opened -/
  | elements (tables : List (List (String × Item)))
deriving Inhabited

/-- The entries of a table. -/
abbrev Entries := List (String × Item)

/-- A key with the keys of the tables around it. -/
structure Key where
  parents : List String
  name : String
deriving Repr, DecidableEq

namespace Key

/-- All parts of the key, the outermost first. -/
def toList (k : Key) : List String := k.parents ++ [k.name]

/-- The key inside one more table. -/
def inside (parent : String) (k : Key) : Key := ⟨parent :: k.parents, k.name⟩

end Key

namespace Entries

/-- What a key stands for. -/
def get? (key : String) (es : Entries) : Option Item := es.lookup key

/-- The entries with a key that stands for an item from now on. -/
def put (key : String) (item : Item) : Entries → Entries
  | [] => [(key, item)]
  | (k, i) :: rest => if k = key then (k, item) :: rest else (k, i) :: put key item rest

end Entries

/-- What can be done with a table. -/
abbrev Change := Origin → Entries → Except Fault Entries

/-- Works on the table at the end of a path. Missing tables come to be on the
way; in an array of tables, the last one counts. A dotted key does not enter a
table with a header of its own. -/
def within (dotted : Bool) (change : Change) : List String → Change
  | [], origin, es => change origin es
  | key :: path, _, es =>
    match Entries.get? key es with
    | none => do
      let origin := if dotted then Origin.dotted else Origin.implied
      let inner ← within dotted change path origin []
      .ok (Entries.put key (.table origin inner) es)
    | some (.table origin inner) => do
      if dotted && origin = .declared then .error (.duplicateKey key)
      else
        let inner ← within dotted change path origin inner
        .ok (Entries.put key (.table origin inner) es)
    | some (.elements tables) => do
      let inner ← within dotted change path .declared (tables.getLast?.getD [])
      .ok (Entries.put key (.elements (tables.dropLast ++ [inner])) es)
    | some (.value _) => .error (.notATable key)

/-- Opens a table. It may have come to be before by a header inside it. -/
def openTable (key : Key) (root : Entries) : Except Fault Entries :=
  within false (fun _ es =>
    match Entries.get? key.name es with
    | none => .ok (Entries.put key.name (.table .declared []) es)
    | some (.table .implied inner) => .ok (Entries.put key.name (.table .declared inner) es)
    | some _ => .error (.duplicateKey key.name)) key.parents .declared root

/-- Opens one more element of an array of tables. -/
def openElement (key : Key) (root : Entries) : Except Fault Entries :=
  within false (fun _ es =>
    match Entries.get? key.name es with
    | none => .ok (Entries.put key.name (.elements [[]]) es)
    | some (.elements tables) => .ok (Entries.put key.name (.elements (tables ++ [[]])) es)
    | some _ => .error (.duplicateKey key.name)) key.parents .declared root

/-- Puts a value into a table. A dotted key ends in a table that came to be
by dotted keys. -/
def insert (key : Key) (v : Value) : Change :=
  within true (fun origin es =>
    if key.parents ≠ [] ∧ origin ≠ .dotted then .error (.duplicateKey key.name)
    else
      match Entries.get? key.name es with
      | none => .ok (Entries.put key.name (.value v) es)
      | some _ => .error (.duplicateKey key.name)) key.parents

mutual

/-- The value that an item is in the end. -/
def Item.toValue : Item → Value
  | .value v => v
  | .table _ entries => .table (entryValues entries)
  | .elements tables => .array (tableValues tables)

/-- The values of the entries of a table. -/
def entryValues : List (String × Item) → List (String × Value)
  | [] => []
  | (key, item) :: rest => (key, item.toValue) :: entryValues rest

/-- The values of the elements of an array of tables. -/
def tableValues : List (List (String × Item)) → List Value
  | [] => []
  | entries :: rest => .table (entryValues entries) :: tableValues rest

end

/-- The entries that keys and values make up, each key at most once. -/
def ofPairs (pairs : List (Key × Value)) : Except Fault (List (String × Value)) := do
  let es ← pairs.foldlM (fun es (key, v) => insert key v .declared es) []
  .ok (entryValues es)

/-- A line of a text. -/
inductive Statement where
  | header (key : Key)
  | elementHeader (key : Key)
  | entry (key : Key) (v : Value)

/-- The tables so far, and the path of the one that entries go into. -/
structure Document where
  root : Entries
  current : List String

namespace Document

/-- Nothing was read. -/
def empty : Document := ⟨[], []⟩

/-- The document with one more line. -/
def add (d : Document) : Statement → Except Fault Document
  | .header key => do .ok ⟨← openTable key d.root, key.toList⟩
  | .elementHeader key => do .ok ⟨← openElement key d.root, key.toList⟩
  | .entry key v => do
    .ok ⟨← within false (fun _ es => insert key v .declared es) d.current .declared d.root,
      d.current⟩

/-- The entries that lines make up. -/
def ofStatements (lines : List Statement) : Except Fault (List (String × Value)) := do
  let d ← lines.foldlM add empty
  .ok (entryValues d.root)

end Document

end LineMachine.Toml
