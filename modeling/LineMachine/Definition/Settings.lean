import LineMachine.Json.Record
import LineMachine.Machine.Engine
import LineMachine.Machine.TableBuilder

/-!
# `LineMachine.Definition.Settings`: settings as JSON

* `Decoding`, `Validation` and `ParseOptions` each have a `toJson`, which
  writes them, and an `ofDraft`, which reads them.
* `Decoding.ofName?` and `Validation.ofName?` find the value with a name.

All settings of a parse may be left out; then they have their defaults.
-/

set_option autoImplicit false

namespace LineMachine

open LineMachine.Json

namespace Decoding

/-- The name of the decoding. -/
def name : Decoding → String
  | .utf8 => "utf8"
  | .utf8Lossy => "utf8-lossy"
  | .raw => "raw"

/-- All decodings. -/
def all : List Decoding := [.utf8, .utf8Lossy, .raw]

/-- The decoding with a name. -/
def ofName? (text : String) : Option Decoding := all.find? fun d => d.name = text

/-- The decoding as JSON. -/
def toJson (d : Decoding) : Json := .string d.name

/-- Reads a decoding. -/
def ofDraft (origin : Origin) (draft : Draft) : Except DecodeError Decoding := do
  let name ← decodeVariant origin (all.map name) draft
  .ok ((ofName? name).getD .utf8)

end Decoding

namespace Validation

/-- The name of the validation. -/
def name : Validation → String
  | .strict => "strict"
  | .lenient => "lenient"

/-- All validations. -/
def all : List Validation := [.strict, .lenient]

/-- The validation with a name. -/
def ofName? (text : String) : Option Validation := all.find? fun v => v.name = text

/-- The validation as JSON. -/
def toJson (v : Validation) : Json := .string v.name

/-- Reads a validation. -/
def ofDraft (origin : Origin) (draft : Draft) : Except DecodeError Validation := do
  let name ← decodeVariant origin (all.map name) draft
  .ok ((ofName? name).getD .strict)

end Validation

namespace ParseOptions

/-- The value of one setting. -/
inductive Setting where
  | decoding (d : Decoding)
  | flag (b : Bool)

/-- The fields of the settings. -/
def fields (origin : Origin) : List (RecordField Setting) :=
  let flag (draft : Draft) := (decodeBool draft).map Setting.flag
  [⟨"decoding", false, fun draft => (Decoding.ofDraft origin draft).map .decoding⟩,
    ⟨"require_empty_stack", false, flag⟩, ⟨"trace", false, flag⟩]

/-- The settings that were found, the defaults for the others. -/
def ofFound (found : List (String × Setting)) : ParseOptions :=
  let flag (name : String) : Bool :=
    match field? found name with
    | some (.flag b) => b
    | _ => false
  let decoding := match field? found "decoding" with
    | some (.decoding d) => d
    | _ => .utf8
  ⟨decoding, flag "require_empty_stack", flag "trace"⟩

/-- Reads settings. What is no setting is passed over. -/
def ofDraft (origin : Origin) (draft : Draft) : Except DecodeError ParseOptions := do
  let found ← decodeRecord origin "struct ParseOptions" (fields origin) false draft
  .ok (ofFound found)

/-- The settings as JSON. -/
def toJson (o : ParseOptions) : Json :=
  .object [("decoding", o.decoding.toJson), ("require_empty_stack", .bool o.requireEmptyStack),
    ("trace", .bool o.trace)]

end ParseOptions

end LineMachine
