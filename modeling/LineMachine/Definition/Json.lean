import LineMachine.Definition.Basic
import LineMachine.Definition.Settings

/-!
# `LineMachine.Definition.Json`: definitions as JSON

* `RuleDefinition.toJson` and `TableDefinition.toJson` write definitions;
  what is not set is left out.
* `RuleDefinition.ofDraft` and `TableDefinition.ofDraft` read them; unknown
  fields are refused.
* `TableDefinition.ofJson` reads a definition from text.
-/

set_option autoImplicit false

namespace LineMachine

open LineMachine.Json

namespace RuleDefinition

/-- The fields of a rule. -/
def fields : List (RecordField (Option String)) :=
  [⟨"state", true, fun draft => (decodeString draft).map some⟩,
    ⟨"literal", false, decodeOption decodeString⟩, ⟨"regex", false, decodeOption decodeString⟩,
    ⟨"next", false, decodeOption decodeString⟩, ⟨"action", false, decodeOption decodeString⟩]

/-- The rule with the fields that were found. -/
def ofFound (found : List (String × Option String)) : RuleDefinition :=
  let get (name : String) : Option String := (field? found name).join
  ⟨(get "state").getD "", get "literal", get "regex", get "next", get "action"⟩

/-- Reads a rule. -/
def ofDraft (origin : Origin) (draft : Draft) : Except DecodeError RuleDefinition := do
  let found ← decodeRecord origin "struct RuleDefinition" fields true draft
  .ok (ofFound found)

/-- A member for a field that is set. -/
def member (name : String) : Option String → List (String × Json)
  | none => []
  | some text => [(name, .string text)]

/-- The rule as JSON. -/
def toJson (r : RuleDefinition) : Json :=
  .object ([("state", .string r.state)] ++ member "literal" r.literal ++ member "regex" r.regex ++
    member "next" r.next ++ member "action" r.action)

end RuleDefinition

namespace TableDefinition

/-- The value of one field. -/
inductive Part where
  | initial (state : Option String)
  | validation (v : Option Validation)
  | rules (list : List RuleDefinition)

/-- The fields of a definition. -/
def fields (origin : Origin) : List (RecordField Part) :=
  [⟨"initial", false, fun draft => (decodeOption decodeString draft).map .initial⟩,
    ⟨"validation", false, fun draft =>
      (decodeOption (Validation.ofDraft origin) draft).map .validation⟩,
    ⟨"rules", true, fun draft =>
      (decodeList (RuleDefinition.ofDraft origin) draft).map .rules⟩]

/-- The definition with the fields that were found. -/
def ofFound (found : List (String × Part)) : TableDefinition where
  initial := match field? found "initial" with
    | some (.initial state) => state
    | _ => none
  validation := match field? found "validation" with
    | some (.validation v) => v
    | _ => none
  rules := match field? found "rules" with
    | some (.rules list) => list
    | _ => []

/-- Reads a definition. -/
def ofDraft (origin : Origin) (draft : Draft) : Except DecodeError TableDefinition := do
  let found ← decodeRecord origin "struct TableDefinition" (fields origin) true draft
  .ok (ofFound found)

/-- The definition as JSON. -/
def toJson (d : TableDefinition) : Json :=
  let validation := match d.validation with
    | none => []
    | some v => [("validation", v.toJson)]
  .object (RuleDefinition.member "initial" d.initial ++ validation ++
    [("rules", .array (d.rules.map RuleDefinition.toJson))])

/-- The failure that a decoding error of a text is. -/
def failureOf : DecodeError → JsonFailure
  | .data message => .data message
  | .fault .malformed => .malformed
  | .fault .truncated => .truncated

/-- Reads a definition from JSON text. Only blanks may follow it. -/
def ofJson (text : String) : Except DefinitionError TableDefinition :=
  match Draft.ofText text with
  | (draft, rest) =>
    match ofDraft .text draft with
    | .error e => .error (.json (failureOf e))
    | .ok d =>
      if (Draft.skip (rest.getD [])).isEmpty then .ok d else .error (.json .malformed)

end TableDefinition

end LineMachine
