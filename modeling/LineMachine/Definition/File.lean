import LineMachine.Definition.Json
import LineMachine.Definition.Yaml
import LineMachine.File

/-!
# `LineMachine.Definition.File`: definitions in files

* `TableDefinition.ofFile` reads a definition from a file, as JSON if the
  extension is `json` and as YAML if not.
-/

set_option autoImplicit false

namespace LineMachine

/-- Reads a definition from a file. -/
def TableDefinition.ofFile (path : String) (content : FileContent) :
    Except DefinitionError TableDefinition :=
  match content.text with
  | .error message => .error (.io message)
  | .ok text =>
    if extension? path = some "json" then TableDefinition.ofJson text
    else TableDefinition.ofYaml text

end LineMachine
