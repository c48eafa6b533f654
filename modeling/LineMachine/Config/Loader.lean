import LineMachine.Config.Basic
import LineMachine.Config.Path
import LineMachine.File
import LineMachine.Toml.Parser

/-!
# `LineMachine.Config.Loader`: configurations in layers

Above the defaults lie files, in the order in which they were added, and above
all files the overrides.

* `Layer` is the content of a file, which may be absent if it is optional.
* `Loader` collects layers and overrides.
* `Loader.load` reads the files and puts the layers together.
-/

set_option autoImplicit false

namespace LineMachine

/-- A configuration file. -/
structure Layer where
  content : FileContent
  /-- whether it is an error that the file cannot be read -/
  required : Bool

namespace Layer

/-- The entries of the file. -/
def entries (l : Layer) : Except ConfigError (List (String × Config.Value)) :=
  match l.content.text with
  | .error message => if l.required then .error (.fileRead message) else .ok []
  | .ok text =>
    match Toml.parse text with
    | .error fault => .error (.fileParse fault)
    | .ok found => .ok (Config.Value.ofTomlEntries found)

/-- A value with an entry laid over it. The key of the entry is read as a
path, if it is one. -/
def layEntry (root : Config.Value) (key : String) (v : Config.Value) : Config.Value :=
  ((Config.Path.parse? key).getD ⟨key, []⟩).assign v root

/-- A value with the file laid over it. -/
def lay (l : Layer) (root : Config.Value) : Except ConfigError Config.Value := do
  let found ← l.entries
  .ok (found.foldl (fun root (key, v) => layEntry root key v) root)

end Layer

/-- Files and overrides, in the order in which they were added. -/
structure Loader where
  layers : List Layer
  overrides : List (Config.Path × Config.Value)

namespace Loader

/-- The defaults alone. -/
def new : Loader := ⟨[], []⟩

/-- One more file. -/
def withFile (l : Loader) (content : FileContent) : Loader :=
  { l with layers := l.layers ++ [⟨content, true⟩] }

/-- One more file, which may be absent. -/
def withOptionalFile (l : Loader) (content : FileContent) : Loader :=
  { l with layers := l.layers ++ [⟨content, false⟩] }

/-- One more override. -/
def setOverride (l : Loader) (name : String) (v : Config.Value) : Except ConfigError Loader :=
  match Config.Path.parse? name with
  | none => .error (.path name)
  | some p => .ok { l with overrides := l.overrides ++ [(p, v)] }

/-- All layers above the defaults, and the overrides above them. -/
def value (l : Loader) : Except ConfigError Config.Value := do
  let files ← l.layers.foldlM (fun root layer => layer.lay root) Config.defaults
  .ok (l.overrides.foldl (fun root (p, v) => p.assign v root) files)

/-- The configuration. -/
def load (l : Loader) : Except ConfigError Config := do
  Config.ofValue (← l.value)

end Loader

end LineMachine
