import LineMachine.Definition.Basic
import LineMachine.Definition.Settings
import LineMachine.Yaml.Node

/-!
# `LineMachine.Definition.Yaml`: definitions as YAML

Every scalar is accepted as a text, as it is written. Where a field may be
left out, the plain words for null and nothing at all mean that it is not
set.

* `RuleDefinition.ofNode?` and `TableDefinition.ofNode?` read nodes.
* `TableDefinition.ofYaml` reads a definition from text.
-/

set_option autoImplicit false

namespace LineMachine

open LineMachine.Yaml

namespace Yaml.Node

/-- The text of a scalar. -/
def text? : Node → Option String
  | .scalar _ text _ => some text
  | _ => none

/-- The words for null. -/
def isNullWord (text : String) : Bool := text ∈ ["~", "null", "Null", "NULL"]

/-- The tag of null. -/
def nullTag : String := "tag:yaml.org,2002:null"

/-- Whether a node means that a field is set; `none` for a node that is
tagged as null and is none. -/
def isSet? : Node → Option Bool
  | .scalar (some tag) text true =>
    if tag = nullTag then (if isNullWord text then some false else none) else some true
  | .scalar none text true => some (!(text = "" || isNullWord text))
  | _ => some true

/-- A field that may be left out. -/
def option? {α : Type} (read : Node → Option α) (n : Node) : Option (Option α) := do
  if ← n.isSet? then (read n).map some else some none

/-- The name of a choice: the text of a scalar, or a tag of its own on
nothing. -/
def choice? : Node → Option String
  | .scalar tag text plain =>
    match (tag.getD "").toList with
    | '!' :: name =>
      if plain && (text = "" || isNullWord text) then some (String.ofList name) else none
    | _ => some text
  | _ => none

/-- The pairs of a mapping with scalar keys. No key may repeat an earlier
one, and all must be among the names. -/
def fields? (names : List String) (seen : List String) :
    List (Node × Node) → Option (List (String × Node))
  | [] => some []
  | (key, value) :: rest => do
    let name ← key.text?
    if name ∈ names && name ∉ seen then
      let more ← fields? names (name :: seen) rest
      some ((name, value) :: more)
    else none

/-- The fields of a record. -/
def record? (names : List String) : Node → Option (List (String × Node))
  | .mapping _ pairs => fields? names [] pairs
  | _ => none

/-- The items of a list; nothing is the empty list. -/
def list? : Node → Option (List Node)
  | .sequence _ items => some items
  | .scalar _ "" true => some []
  | _ => none

/-- A field that may be missing. -/
def optionalField? {α : Type} (found : List (String × Node)) (read : Node → Option α)
    (name : String) : Option (Option α) :=
  match found.find? fun row => row.1 = name with
  | none => some none
  | some row => row.2.option? read

/-- A field that must be there. -/
def requiredField? {α : Type} (found : List (String × Node)) (read : Node → Option α)
    (name : String) : Option α :=
  (found.find? fun row => row.1 = name).bind fun row => read row.2

end Yaml.Node

/-- Reads a rule. -/
def RuleDefinition.ofNode? (n : Node) : Option RuleDefinition := do
  let found ← n.record? ["state", "literal", "regex", "next", "action"]
  let state ← Node.requiredField? found Node.text? "state"
  let literal ← Node.optionalField? found Node.text? "literal"
  let regex ← Node.optionalField? found Node.text? "regex"
  let next ← Node.optionalField? found Node.text? "next"
  let action ← Node.optionalField? found Node.text? "action"
  some ⟨state, literal, regex, next, action⟩

namespace TableDefinition

/-- Reads a definition. -/
def ofNode? (n : Node) : Option TableDefinition := do
  let found ← n.record? ["initial", "validation", "rules"]
  let initial ← Node.optionalField? found Node.text? "initial"
  let readValidation (v : Node) := v.choice?.bind Validation.ofName?
  let validation ← Node.optionalField? found readValidation "validation"
  let items ← Node.requiredField? found Node.list? "rules"
  let rules ← items.mapM RuleDefinition.ofNode?
  some ⟨initial, validation, rules⟩

/-- Reads a definition from YAML text. -/
def ofYaml (text : String) : Except DefinitionError TableDefinition :=
  match Node.ofText text with
  | .error _ => .error .yaml
  | .ok n =>
    match ofNode? n with
    | some d => .ok d
    | none => .error .yaml

end TableDefinition

end LineMachine
