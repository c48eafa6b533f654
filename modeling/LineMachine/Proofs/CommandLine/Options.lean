import LineMachine.CommandLine.Run
import LineMachine.Proofs.Config.Assignment
import LineMachine.Proofs.Except

/-!
# `LineMachine.Proofs.CommandLine.Options`: the settings of a parse that a command uses

A configuration file gives the settings of a parse as a table or as a list, and the options of a
command come above it.

* `configDocument` is the file over the defaults, and `fileOptions` are the settings in it.
* `runOptions` are the settings under the options of a command. An option changes one key of a
  table, but it replaces a list as a whole.
* `loadConfig_eq` takes the reading of a configuration apart, and `options_of_loadConfig` says that
  its settings are those of `runOptions`.
-/

set_option autoImplicit false

namespace LineMachine.CommandLine

open Config (Value Path Part Group)

/-! ### Settings in a document -/

/-- The defaults with the configuration file over them, if there is one. -/
def configDocument (w : World) (config : Option String) : Except ConfigError Value :=
  Loader.value ⟨(config.map fun name => ⟨configFile w name, true⟩).toList, []⟩

/-- The names of the settings of a parse, in the order in which a list has them. -/
def parseNames : List String := ["decoding", "require_empty_stack", "trace"]

/-- The settings of a parse among some settings, the defaults for the others. -/
def optionsIn (settings : List (String × Value)) : ParseOptions where
  decoding :=
    ((settings.lookup "decoding").bind (Value.choice? Decoding.all Decoding.name)).getD .utf8
  requireEmptyStack := ((settings.lookup "require_empty_stack").bind Value.flag?).getD false
  trace := ((settings.lookup "trace").bind Value.flag?).getD false

/-- What the document has in the place of the settings of a parse. -/
def parseValue? (document : Value) : Option Value := document.entries.lookup "parse"

/-- The settings of a parse in a document, the defaults for those that it lacks. -/
def fileOptions (document : Value) : ParseOptions :=
  optionsIn (((parseValue? document).bind (Value.fields? parseNames)).getD [])

/-- Whether a document has the settings of a parse as a list. -/
def listsOptions (document : Value) : Bool :=
  match parseValue? document with
  | some (.list _) => true
  | _ => false

/-- The settings with the steps recorded if that is asked for. -/
def withTrace (trace : Bool) (o : ParseOptions) : ParseOptions :=
  { o with trace := trace || o.trace }

/-- The settings of a parse under the options of a command. A list does not stay under a
decoding. -/
def runOptions (document : Value) (decoding : Option Decoding) (trace : Bool) : ParseOptions :=
  match decoding with
  | none => withTrace trace (fileOptions document)
  | some d =>
    if listsOptions document then ⟨d, false, trace⟩
    else withTrace trace { fileOptions document with decoding := d }

/-! ### Reading the configuration -/

/-- What an option sets, if it is given. -/
def optionValue (p : Path) (value : Option String) : List (Path × Value) :=
  (value.map fun text => (p, .text text)).toList

/-- What the options of an invocation set in its configuration. -/
def Invocation.overrides (i : Invocation) : List (Path × Value) :=
  optionValue ⟨"log", [.key "level"]⟩ i.logLevel ++
    optionValue ⟨"parse", [.key "decoding"]⟩ (i.command.decoding.map Decoding.name)

/-- The document with the options over it. -/
def Invocation.over (i : Invocation) (document : Value) : Value :=
  i.overrides.foldl (fun root o => o.1.assign o.2 root) document

/-- An option that is given adds one override, and one that is not adds none: `optionValue` is the
list of both cases. The name of each option is a path, which is checked once at its use. -/
theorem overrideWith_eq {name : String} {p : Path} (h : Path.parse? name = some p)
    (value : Option String) (l : Loader) :
    overrideWith name value l =
      .ok { l with overrides := l.overrides ++ optionValue p value } := by
  cases value with
  | none => simp [overrideWith, optionValue]
  | some text => simp [overrideWith, Loader.setOverride, h, optionValue]

/-- Loading is laying the files and then assigning the overrides. The files alone give the
document, so the two steps can be looked at apart. -/
theorem load_overrides (layers : List Layer) (overrides : List (Path × Value)) :
    Loader.load ⟨layers, overrides⟩ = (Loader.value ⟨layers, []⟩).bind fun document =>
      Config.ofValue (overrides.foldl (fun root o => o.1.assign o.2 root) document) := by
  rw [Loader.load, Loader.value, Loader.value]
  cases layers.foldlM (fun root layer => layer.lay root) Config.defaults <;> rfl

/-- A configuration is read from its document with the options over it. The two options of an
invocation are its only overrides (`Invocation.over`). -/
theorem loadConfig_eq (w : World) (i : Invocation) :
    loadConfig w i = (configDocument w i.config).bind fun document =>
      Config.ofValue (i.over document) := by
  have hlevel : Path.parse? "log.level" = some ⟨"log", [.key "level"]⟩ := by decide +kernel
  have hdecoding : Path.parse? "parse.decoding" = some ⟨"parse", [.key "decoding"]⟩ := by
    decide +kernel
  have hload : loadConfig w i =
      Loader.load ⟨(i.config.map fun name => ⟨configFile w name, true⟩).toList, i.overrides⟩ := by
    simp only [loadConfig, overrideWith_eq hlevel, overrideWith_eq hdecoding, bind, Except.bind]
    cases i.config <;> rfl
  rw [hload, load_overrides]
  rfl

/-! ### The settings of a parse that is read -/

section Reading

variable {α : Type} {read : Value → Option α} {g : Group} {name : String} {a default : α}

/-- A setting that is read with a default has the value in the group, if there is one that fits,
and the default otherwise. The error cases do not come up, as the reading succeeded. -/
theorem eq_of_withDefault (h : g.withDefault read name default = .ok a) :
    ((g.settings.lookup name).bind read).getD default = a := by
  unfold Group.withDefault at h
  split at h
  · rename_i hlookup
    cases h
    rw [hlookup]
    rfl
  · unfold Group.required at h
    split at h
    · rename_i hread
      cases h
      rw [hread]
      rfl
    · cases h

/-- The settings of a parse that are read are those of `optionsIn`: `eq_of_withDefault` for each
of the three. -/
theorem eq_of_parseOptions {o : ParseOptions} (h : Config.parseOptions g = .ok o) :
    o = optionsIn g.settings := by
  obtain ⟨decoding, hdecoding, h⟩ := bind_eq_ok_iff.mp h
  obtain ⟨requireEmptyStack, hempty, h⟩ := bind_eq_ok_iff.mp h
  obtain ⟨trace, htrace, h⟩ := bind_eq_ok_iff.mp h
  cases h
  rw [optionsIn, eq_of_withDefault hdecoding, eq_of_withDefault hempty, eq_of_withDefault htrace]

end Reading

/-- The settings of a parse in a configuration are those in its document. A group that is absent,
a table or a list are read by `Value.fields?`, in `fileOptions` as in `Config.ofValue`. -/
theorem parse_of_ofValue {root : Value} {c : Config} (h : Config.ofValue root = .ok c) :
    c.parse = fileOptions root := by
  obtain ⟨table, htable, h⟩ := bind_eq_ok_iff.mp h
  obtain ⟨validation, hvalidation, h⟩ := bind_eq_ok_iff.mp h
  obtain ⟨parse, hgroup, h⟩ := bind_eq_ok_iff.mp h
  obtain ⟨log, hlog, h⟩ := bind_eq_ok_iff.mp h
  obtain ⟨options, hoptions, h⟩ := bind_eq_ok_iff.mp h
  obtain ⟨logConfig, hlogConfig, h⟩ := bind_eq_ok_iff.mp h
  cases h
  unfold Config.group at hgroup
  split at hgroup
  · rename_i found hfound
    cases hgroup
    rw [eq_of_parseOptions hoptions, fileOptions, parseValue?, parseNames, hfound]
    rfl
  · cases hgroup

/-- What an option sets in another group does not matter to the settings of a parse. The level of
the log is such an option. -/
theorem parseValue?_log (v document : Value) :
    parseValue? (Path.assign ⟨"log", [.key "level"]⟩ v document) = parseValue? document :=
  Value.lookup_put_ne (by decide +kernel) _ _

/-- A decoding comes to a table of settings. If there was no table, no other setting is in it:
`Value.entries` of a list is empty, so the list is gone. -/
theorem parseValue?_decoding (d : Decoding) (document : Value) :
    parseValue? (Path.assign ⟨"parse", [.key "decoding"]⟩ (.text d.name) document) =
      some (.table (Value.put "decoding" (.text d.name)
        (((parseValue? document).map Value.entries).getD []))) := by
  have hparse : Config.lowered "parse" = "parse" := by decide +kernel
  have hdecoding : Config.lowered "decoding" = "decoding" := by decide +kernel
  rw [Path.assign, Path.assignParts, hparse, Path.assignParts, hdecoding]
  exact Value.lookup_put_self _ _ _

/-- Among settings with another decoding, the other two are read as before. The name of a decoding
is read as that decoding, which makes `getD` fall away. -/
theorem optionsIn_put (d : Decoding) (settings : List (String × Value)) :
    optionsIn (Value.put "decoding" (.text d.name) settings) =
      { optionsIn settings with decoding := d } := by
  have hname : Value.choice? Decoding.all Decoding.name (.text d.name) = some d := by
    cases d <;> decide +kernel
  rw [optionsIn, Value.lookup_put_self, Value.lookup_put_ne (by decide),
    Value.lookup_put_ne (by decide), Option.bind_some, hname]
  rfl

/-- The settings of a parse with a decoding over them. A table keeps the other ones, and a list
loses them; `listsOptions` tells the two apart. -/
theorem fileOptions_decoding (d : Decoding) (document : Value) :
    fileOptions (Path.assign ⟨"parse", [.key "decoding"]⟩ (.text d.name) document) =
      { (if listsOptions document then optionsIn [] else fileOptions document) with
        decoding := d } := by
  rw [fileOptions, parseValue?_decoding, Option.bind_some, Value.fields?, Option.getD_some,
    optionsIn_put, fileOptions, listsOptions]
  rcases parseValue? document with _ | v
  · rfl
  · cases v <;> rfl

/-- The options of a command, over the settings in the document, are `runOptions`. The level of
the log comes first and is passed over by `parseValue?_log`. -/
theorem fileOptions_over (i : Invocation) (document : Value) (trace : Bool) :
    withTrace trace (fileOptions (i.over document)) =
      runOptions document i.command.decoding trace := by
  -- The level of the log does not matter.
  obtain ⟨below, hbelow, hover⟩ : ∃ below, parseValue? below = parseValue? document ∧
      i.over document =
        (optionValue ⟨"parse", [.key "decoding"]⟩ (i.command.decoding.map Decoding.name)).foldl
          (fun root o => o.1.assign o.2 root) below := by
    rw [Invocation.over, Invocation.overrides, List.foldl_append]
    refine ⟨_, ?_, rfl⟩
    cases i.logLevel with
    | none => rfl
    | some name => exact parseValue?_log _ _
  have hfile : fileOptions below = fileOptions document := by rw [fileOptions, hbelow, fileOptions]
  have hlists : listsOptions below = listsOptions document := by
    rw [listsOptions, hbelow, listsOptions]
  rw [hover]
  cases i.command.decoding with
  | none =>
    show withTrace trace (fileOptions below) = _
    rw [hfile]
    rfl
  | some d =>
    show withTrace trace (fileOptions (Path.assign _ (.text d.name) below)) = _
    rw [fileOptions_decoding, hlists, hfile, runOptions]
    split
    · simp [withTrace, optionsIn]
    · rfl

/-- The settings of a parse that a command uses, where the configuration can be read.
`code_eq_zero_iff` needs the document, since `runOptions` looks at its form. -/
theorem options_of_loadConfig {w : World} {i : Invocation} {c : Config}
    (h : loadConfig w i = .ok c) : ∃ document, configDocument w i.config = .ok document ∧
      ∀ trace, withTrace trace c.parse = runOptions document i.command.decoding trace := by
  rw [loadConfig_eq] at h
  obtain ⟨document, hdocument, hread⟩ := bind_eq_ok_iff.mp h
  refine ⟨document, hdocument, fun trace => ?_⟩
  rw [parse_of_ofValue hread, fileOptions_over]

end LineMachine.CommandLine
