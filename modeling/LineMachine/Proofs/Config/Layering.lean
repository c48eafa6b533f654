import LineMachine.Proofs.Config.Assignment
import LineMachine.Proofs.Except

/-!
# `LineMachine.Proofs.Config.Layering`: which layer decides about a setting

* `Key` lists the settings, with the place of each one, its default and what its values mean.
* `Call` is what the owner of a loader does, and `Loader.performAll` does it.
* `Assignment.Fits`: an assignment is one of a setting to which the value fits, or it has nothing to
  do with the settings. Whether it is so can be decided (`Assignment.fits_iff`), and for calls, too.
* `Assignment.valueIn_onto` is the step: what one assignment does to one setting.
  `Loader.exists_value` follows it through files and overrides, with `foldl_last` for each.
* `Config.ofValue_eq_ok` reads the settings, and `Loader.last_setting_wins` puts the parts together.
-/

set_option autoImplicit false

namespace LineMachine

namespace Config

/-! ### Settings -/

/-- The settings. -/
inductive Key where
  | validation
  | decoding
  | requireEmptyStack
  | trace
  | level
  | tableLevel
  | engineLevel
  | format
deriving Repr, DecidableEq

namespace Key

/-- The group that the setting belongs to. -/
def group : Key → String
  | .validation => "table"
  | .decoding | .requireEmptyStack | .trace => "parse"
  | .level | .tableLevel | .engineLevel | .format => "log"

/-- Its name in the group. -/
def name : Key → String
  | .validation => "validation"
  | .decoding => "decoding"
  | .requireEmptyStack => "require_empty_stack"
  | .trace => "trace"
  | .level => "level"
  | .tableLevel => "table"
  | .engineLevel => "engine"
  | .format => "format"

/-- The place of the setting. -/
def place (k : Key) : List String := [k.group, k.name]

/-- Settings are told apart by their places. An assignment that leads to the place of one setting
does not lead to that of another. -/
theorem place_injective {j k : Key} (h : j.place = k.place) : j = k := by
  revert h
  cases j <;> cases k <;> decide

/-- All settings. -/
def all : List Key :=
  [.validation, .decoding, .requireEmptyStack, .trace, .level, .tableLevel, .engineLevel, .format]

/-- Every setting is listed in `Key.all`, so what is said of all settings can be decided. -/
theorem mem_all (k : Key) : k ∈ all := by cases k <;> decide

instance {P : Key → Prop} [DecidablePred P] : Decidable (∀ k, P k) :=
  decidable_of_iff (∀ k ∈ all, P k) ⟨fun h k => h k k.mem_all, fun h k _ => h k⟩

instance {P : Key → Prop} [DecidablePred P] : Decidable (∃ k, P k) :=
  decidable_of_iff (∃ k ∈ all, P k) ⟨fun ⟨k, _, hk⟩ => ⟨k, hk⟩, fun ⟨k, hk⟩ => ⟨k, k.mem_all, hk⟩⟩

/-- What the setting is in a configuration. -/
def Setting : Key → Type
  | .validation => Validation
  | .decoding => Decoding
  | .requireEmptyStack | .trace => Bool
  | .level => String
  | .tableLevel | .engineLevel => Option String
  | .format => LogFormat

/-- The meaning of a level that may be absent. -/
def readLevel? : Value → Option (Option String)
  | .nil => some none
  | v => v.text?.map some

/-- What a value means for the setting, if it fits. -/
def read? : (k : Key) → Value → Option k.Setting
  | .validation => Value.choice? Validation.all Validation.name
  | .decoding => Value.choice? Decoding.all Decoding.name
  | .requireEmptyStack | .trace => Value.flag?
  | .level => Value.text?
  | .tableLevel | .engineLevel => readLevel?
  | .format => Value.choice? LogFormat.all LogFormat.name

/-- The value when none is given. The levels of parts have none. -/
def default : Key → Value
  | .validation => .text "strict"
  | .decoding => .text "utf8"
  | .requireEmptyStack | .trace => .flag false
  | .level => .text "warn"
  | .tableLevel | .engineLevel => .nil
  | .format => .text "compact"

/-- The value of the setting in a document. -/
def valueIn (k : Key) (root : Value) : Value := (root.at? k.place).getD .nil

/-- In the document of the defaults every setting has the value that `Key.default` says. This is
where the files begin to be laid. -/
theorem valueIn_defaults (k : Key) : k.valueIn defaults = k.default := by
  cases k <;> rfl

/-- Every default fits its own setting. A setting that no call sets can be read for this reason
(`isSome_read?_decisive`). -/
theorem isSome_read?_default (k : Key) : (k.read? k.default).isSome = true := by
  cases k <;> decide +kernel

end Key

end Config

/-- A setting in a configuration. -/
def Config.get (c : Config) : (k : Config.Key) → k.Setting
  | .validation => c.validation
  | .decoding => c.parse.decoding
  | .requireEmptyStack => c.parse.requireEmptyStack
  | .trace => c.parse.trace
  | .level => c.log.level
  | .tableLevel => c.log.table
  | .engineLevel => c.log.engine
  | .format => c.log.format

namespace Config

/-! ### Reading the settings -/

variable {α : Type} {read : Value → Option α} {a : α} {g : Group} {name : String}

/-- A value that is found in a group shows that the group is there, whatever it is read for. Since
the place has two keys, the group is a table then. -/
theorem exists_group {root v : Value} {group name : String} (h : root.at? [group, name] = some v) :
    ∃ es, (∀ names, Config.group root group names = .ok ⟨group, es⟩) ∧
      ∀ other, es.lookup other = root.at? [group, other] := by
  rw [Value.at?, Option.bind_eq_some_iff] at h
  obtain ⟨found, hfound, hv⟩ := h
  cases found with
  | table es =>
    refine ⟨es, fun names => ?_, fun other => ?_⟩
    · rw [Config.group, hfound]
      rfl
    · rw [Value.at?, hfound, Option.bind_some, Value.at?]
      cases hlookup : es.lookup other <;> simp [Value.entries, hlookup, Value.at?]
  | _ => cases hv

/-- A value that fits a required setting is read. `hnil` says that nothing is no such value, so a
setting that is absent cannot pass for one. -/
theorem required_of_read (hnil : read .nil = none)
    (h : read ((g.settings.lookup name).getD .nil) = some a) : g.required read name = .ok a := by
  cases hlookup : g.settings.lookup name with
  | none => simp [hlookup, hnil] at h
  | some v =>
    rw [hlookup, Option.getD_some] at h
    rw [Group.required, hlookup, Option.bind_some, h]

/-- A value that fits a setting with a default is read, and the default plays no part. It is
`required_of_read` where an absence would not be an error. -/
theorem withDefault_of_read (hnil : read .nil = none)
    (h : read ((g.settings.lookup name).getD .nil) = some a) (other : α) :
    g.withDefault read name other = .ok a := by
  cases hlookup : g.settings.lookup name with
  | none => simp [hlookup, hnil] at h
  | some v =>
    rw [Group.withDefault, hlookup]
    exact required_of_read hnil h

/-- A level that may be absent is nothing or a text. The two cases are those of
`Group.optional`. -/
theorem readLevel?_eq_some {v : Value} {level : Option String}
    (h : Key.readLevel? v = some level) :
    (v = .nil ∧ level = none) ∨ v ≠ .nil ∧ ∃ text, v.text? = some text ∧ level = some text := by
  unfold Key.readLevel? at h
  split at h
  · cases h
    exact .inl ⟨rfl, rfl⟩
  · rename_i hv
    obtain ⟨text, htext, rfl⟩ := Option.map_eq_some_iff.mp h
    exact .inr ⟨hv, text, htext, rfl⟩

/-- A level that may be absent is read as what `readLevel?` says, and as none where there is no
such entry. -/
theorem optional_of_read {level : Option String}
    (h : Key.readLevel? ((g.settings.lookup name).getD .nil) = some level) :
    g.optional Value.text? name = .ok level := by
  unfold Group.optional
  rcases readLevel?_eq_some h with ⟨hnil, rfl⟩ | ⟨hne, text, htext, rfl⟩
  · cases hlookup : g.settings.lookup name with
    | none => rfl
    | some v =>
      obtain rfl : v = .nil := by simpa [hlookup] using hnil
      rfl
  · have hread : g.required Value.text? name = .ok text := required_of_read rfl htext
    rw [hread]
    split
    · rename_i hlookup
      exact absurd (by rw [hlookup]; rfl) hne
    · rename_i hlookup
      exact absurd (by rw [hlookup]; rfl) hne
    · rfl

/-- A setting without which there is no configuration has a value, and so its group is there. The
other settings of the group are then read from the same entries. -/
theorem exists_group_of_read {root : Value} {k : Key} {setting : k.Setting}
    (hnil : k.read? .nil = none) (h : k.read? (k.valueIn root) = some setting) :
    ∃ es, (∀ names, Config.group root k.group names = .ok ⟨k.group, es⟩) ∧
      ∀ other : Key, other.group = k.group →
        other.read? ((es.lookup other.name).getD .nil) = other.read? (other.valueIn root) := by
  have hvalue : ∃ v, root.at? [k.group, k.name] = some v := by
    cases hat : root.at? [k.group, k.name] with
    | some v => exact ⟨v, rfl⟩
    | none =>
      rw [Key.valueIn, Key.place, hat, Option.getD_none, hnil] at h
      cases h
  obtain ⟨v, hv⟩ := hvalue
  obtain ⟨es, hgroup, hlookup⟩ := exists_group hv
  refine ⟨es, hgroup, fun other hother => ?_⟩
  rw [hlookup, Key.valueIn, Key.place, hother]

/-- A configuration that holds the settings of a document is what the document is read as. The
three groups come in the order of `Config.ofValue`, each found by one of its settings that has to
be there. -/
theorem ofValue_eq_ok {root : Value} {c : Config}
    (h : ∀ k : Key, k.read? (k.valueIn root) = some (c.get k)) : ofValue root = .ok c := by
  -- Each group is there, since one of its settings has to have a value.
  obtain ⟨table, htable, htables⟩ := exists_group_of_read (k := .validation) rfl (h _)
  obtain ⟨parse, hparse, hparses⟩ := exists_group_of_read (k := .decoding) rfl (h _)
  obtain ⟨log, hlog, hlogs⟩ := exists_group_of_read (k := .level) rfl (h _)
  have hvalidation : Group.required ⟨"table", table⟩
      (Value.choice? Validation.all Validation.name) "validation" = .ok c.validation :=
    required_of_read rfl ((htables .validation rfl).trans (h .validation))
  have hparsed : parseOptions ⟨"parse", parse⟩ = .ok c.parse := by
    have hdecoding : Group.withDefault ⟨"parse", parse⟩
        (Value.choice? Decoding.all Decoding.name) "decoding" .utf8 = .ok c.parse.decoding :=
      withDefault_of_read rfl ((hparses .decoding rfl).trans (h .decoding)) Decoding.utf8
    have hempty : Group.withDefault ⟨"parse", parse⟩ Value.flag? "require_empty_stack" false =
        .ok c.parse.requireEmptyStack :=
      withDefault_of_read rfl ((hparses .requireEmptyStack rfl).trans (h .requireEmptyStack)) false
    have htrace : Group.withDefault ⟨"parse", parse⟩ Value.flag? "trace" false =
        .ok c.parse.trace :=
      withDefault_of_read rfl ((hparses .trace rfl).trans (h .trace)) false
    rw [parseOptions, hdecoding, hempty, htrace]
    rfl
  have hlogged : logConfig ⟨"log", log⟩ = .ok c.log := by
    have hlevel : Group.required ⟨"log", log⟩ Value.text? "level" = .ok c.log.level :=
      required_of_read rfl ((hlogs .level rfl).trans (h .level))
    have htableLevel : Group.optional ⟨"log", log⟩ Value.text? "table" = .ok c.log.table :=
      optional_of_read ((hlogs .tableLevel rfl).trans (h .tableLevel))
    have hengineLevel : Group.optional ⟨"log", log⟩ Value.text? "engine" = .ok c.log.engine :=
      optional_of_read ((hlogs .engineLevel rfl).trans (h .engineLevel))
    have hformat : Group.required ⟨"log", log⟩ (Value.choice? LogFormat.all LogFormat.name)
        "format" = .ok c.log.format :=
      required_of_read rfl ((hlogs .format rfl).trans (h .format))
    rw [logConfig, hlevel, htableLevel, hengineLevel, hformat]
    rfl
  have htable' : Config.group root "table" ["validation"] = .ok ⟨"table", table⟩ := htable _
  have hparse' : Config.group root "parse" ["decoding", "require_empty_stack", "trace"] =
      .ok ⟨"parse", parse⟩ := hparse _
  have hlog' : Config.group root "log" ["level", "table", "engine", "format"] =
      .ok ⟨"log", log⟩ := hlog _
  simp only [ofValue, htable', hvalidation, hparse', hlog', hparsed, hlogged, bind, Except.bind]

/-- Where every setting has a value that fits, some configuration holds what they mean. With
`ofValue_eq_ok` it is the one that is read. -/
theorem exists_get_eq {values : Key → Value} (h : ∀ k : Key, (k.read? (values k)).isSome = true) :
    ∃ c : Config, ∀ k, k.read? (values k) = some (c.get k) := by
  refine ⟨⟨(Key.read? .validation _).get (h .validation),
    ⟨(Key.read? .decoding _).get (h .decoding),
      (Key.read? .requireEmptyStack _).get (h .requireEmptyStack),
      (Key.read? .trace _).get (h .trace)⟩,
    ⟨(Key.read? .level _).get (h .level), (Key.read? .tableLevel _).get (h .tableLevel),
      (Key.read? .engineLevel _).get (h .engineLevel), (Key.read? .format _).get (h .format)⟩⟩, ?_⟩
  intro k
  cases k <;> exact (Option.some_get _).symm

/-! ### One assignment -/

namespace Assignment

/-- What the assignment sets the setting to, if it does. -/
def valueFor? (a : Assignment) (k : Key) : Option Value :=
  if Reaches a.path k.place then some a.value else none

/-- The assignment is in order:

- it sets one of the settings, to a value that fits;
- or it is an empty table in the place of a group of settings;
- or it sets something else, whatever that may be. -/
inductive Fits (a : Assignment) : Prop where
  | setting (k : Key) (reaches : Reaches a.path k.place) (plain : a.isPlain = true)
      (readable : (k.read? a.value).isSome = true)
  | emptyGroup (k : Key) (reaches : Reaches a.path [k.group]) (empty : a.value = .empty)
  | other (elsewhere : ∀ k : Key, apart a.path k.place = true)

/-- The three cases of `Assignment.Fits` as conditions that can be tested. With them it is decided
by evaluation whether the assignments of a concrete file are in order. -/
theorem fits_iff (a : Assignment) :
    a.Fits ↔
      (∃ k : Key, Reaches a.path k.place ∧ a.isPlain = true ∧ (k.read? a.value).isSome = true) ∨
        ((∃ k : Key, Reaches a.path [k.group]) ∧ a.value = .empty) ∨
          ∀ k : Key, apart a.path k.place = true := by
  constructor
  · rintro (⟨k, hreaches, hplain, hreadable⟩ | ⟨k, hreaches, hempty⟩ | helsewhere)
    · exact .inl ⟨k, hreaches, hplain, hreadable⟩
    · exact .inr (.inl ⟨⟨k, hreaches⟩, hempty⟩)
    · exact .inr (.inr helsewhere)
  · rintro (⟨k, hreaches, hplain, hreadable⟩ | ⟨⟨k, hreaches⟩, hempty⟩ | helsewhere)
    · exact .setting k hreaches hplain hreadable
    · exact .emptyGroup k hreaches hempty
    · exact .other helsewhere

instance : (v : Value) → Decidable (v = .empty)
  | .table [] => isTrue rfl
  | .table (_ :: _) => isFalse (by simp [Value.empty])
  | .nil | .flag _ | .integer _ | .float _ | .text _ | .list _ => isFalse (by simp [Value.empty])

instance (a : Assignment) : Decidable a.Fits := decidable_of_iff' _ a.fits_iff

variable {a : Assignment}

/-- An assignment that parts from the place of a setting does not set it. This is the case `other`
of `Assignment.Fits`. -/
theorem valueFor?_of_apart {k : Key} (h : apart a.path k.place = true) : a.valueFor? k = none :=
  if_neg (not_reaches_of_apart h)

/-- One assignment changes the setting that it sets, and no other one. The three cases of
`Assignment.Fits` are the lemmas `at?_onto_of_reaches`, `at?_onto_empty` and
`at?_onto_of_apart`. -/
theorem valueIn_onto (h : a.Fits) (k : Key) (root : Value) :
    k.valueIn (a.onto (some root)) = (a.valueFor? k).getD (k.valueIn root) := by
  have hapart (happart : apart a.path k.place = true) :
      k.valueIn (a.onto (some root)) = (a.valueFor? k).getD (k.valueIn root) := by
    rw [valueFor?_of_apart happart, Key.valueIn, at?_onto_of_apart happart]
    rfl
  cases h with
  | setting j reaches plain _ =>
    by_cases hjk : j = k
    · subst hjk
      rw [Key.valueIn, at?_onto_of_reaches reaches plain, valueFor?, if_pos reaches]
      rfl
    · exact hapart (apart_of_reaches reaches rfl fun hplace => hjk (Key.place_injective hplace))
  -- A group lies one key deep, so it is no place of a setting.
  | emptyGroup j reaches empty =>
    have hnone : a.valueFor? k = none := by
      refine if_neg fun hreaches => ?_
      have hlength := congrArg List.length (reaches.symm.trans hreaches)
      simp [Key.place] at hlength
    obtain ⟨path, value⟩ := a
    subst empty
    rw [hnone, Key.valueIn, Key.place, at?_onto_empty reaches]
    rfl
  | other elsewhere => exact hapart (elsewhere k)

/-- What sets a setting fits it. An assignment that is in order on account of another setting does
not reach this one. -/
theorem Fits.isSome_read? (h : a.Fits) {k : Key} {v : Value} (hv : a.valueFor? k = some v) :
    (k.read? v).isSome = true := by
  obtain ⟨hreaches, rfl⟩ : Reaches a.path k.place ∧ a.value = v := by
    simpa [valueFor?, Option.ite_none_right_eq_some] using hv
  cases h with
  | setting j reaches _ readable =>
    have hplace : j.place = k.place := by
      simpa [List.map_inj_right] using reaches.symm.trans hreaches
    cases Key.place_injective hplace
    exact readable
  | emptyGroup j reaches _ =>
    have hlength := congrArg List.length (reaches.symm.trans hreaches)
    simp [Key.place] at hlength
  | other elsewhere => exact absurd hreaches (not_reaches_of_apart (elsewhere k))

end Assignment

/-- A file or an override: the last one of its assignments that sets a setting decides. It is
`foldl_last` with `valueIn_onto` as its step. -/
theorem valueIn_assignAll {assignments : List Assignment} (h : ∀ a ∈ assignments, a.Fits)
    (k : Key) (root : Value) :
    k.valueIn (root.assignAll assignments) =
      (assignments.filterMap fun a => a.valueFor? k).getLast?.getD (k.valueIn root) :=
  foldl_last k.valueIn (fun a ha root => Assignment.valueIn_onto (h a ha) k root) root

end Config

/-! ### Calls -/

/-- What the owner of a loader does. -/
inductive Call where
  /-- adds a file, which must be there -/
  | file (content : FileContent)
  /-- adds a file, which may be absent -/
  | optionalFile (content : FileContent)
  /-- sets a value above all files -/
  | override (name : String) (value : Config.Value)

namespace Call

open Config (Key Value Assignment Path)

/-- The layer that the call adds. -/
def layer? : Call → Option Layer
  | .file content => some ⟨content, true⟩
  | .optionalFile content => some ⟨content, false⟩
  | .override _ _ => none

/-- The name and the value that the call sets. -/
def override? : Call → Option (String × Value)
  | .override name v => some (name, v)
  | _ => none

/-- The assignments of the call. -/
def assignments (call : Call) : List Assignment :=
  match call with
  | .file content => Layer.assignments ⟨content, true⟩
  | .optionalFile content => Layer.assignments ⟨content, false⟩
  | .override name v => ((Path.parse? name).map fun p => ⟨p.parts, v⟩).toList

/-- What the call sets the setting to, if it does. -/
def valueFor? (call : Call) (k : Key) : Option Value :=
  (call.assignments.filterMap fun a => a.valueFor? k).getLast?

/-- The call can be carried out: the file is TOML, or it is optional and cannot be read; the name of
the setting is one. -/
def Readable : Call → Prop
  | .file content => ∃ found, Layer.entries ⟨content, true⟩ = .ok found
  | .optionalFile content => ∃ found, Layer.entries ⟨content, false⟩ = .ok found
  | .override name _ => ∃ p, Path.parse? name = some p

instance : (call : Call) → Decidable call.Readable
  | .file _ | .optionalFile _ => decidable_of_iff' _ exists_eq_ok_iff
  | .override _ _ => decidable_of_iff _ Option.isSome_iff_exists

/-- The call can be carried out, and what it sets is in order. -/
structure WellTyped (call : Call) : Prop where
  readable : call.Readable
  fits : ∀ a ∈ call.assignments, a.Fits

instance (call : Call) : Decidable call.WellTyped :=
  decidable_of_iff (call.Readable ∧ ∀ a ∈ call.assignments, a.Fits)
    ⟨fun ⟨hreadable, hfits⟩ => ⟨hreadable, hfits⟩, fun h => ⟨h.readable, h.fits⟩⟩

end Call

namespace Loader

open Config (Key Value)

/-- Does what the owner does. -/
def perform (l : Loader) : Call → Except ConfigError Loader
  | .file content => .ok (l.withFile content)
  | .optionalFile content => .ok (l.withOptionalFile content)
  | .override name v => l.setOverride name v

/-- Does it all, from the defaults on. -/
def performAll (calls : List Call) : Except ConfigError Loader := calls.foldlM perform new

/-- The path and the value of an override. -/
def readOverride (o : String × Value) : Except ConfigError (Config.Path × Value) :=
  match Config.Path.parse? o.1 with
  | none => .error (.path o.1)
  | some p => .ok (p, o.2)

/-- Files and overrides are kept apart, and each of them in order. The induction is on the calls;
a name that is no path ends them all. -/
theorem foldlM_perform (calls : List Call) (l : Loader) :
    calls.foldlM perform l =
      ((calls.filterMap Call.override?).mapM readOverride).map fun overrides =>
        ⟨l.layers ++ calls.filterMap Call.layer?, l.overrides ++ overrides⟩ := by
  induction calls generalizing l with
  | nil =>
    obtain ⟨layers, overrides⟩ := l
    simp [Except.map, pure, Except.pure]
  | cons call rest ih =>
    rw [List.foldlM_cons, List.filterMap_cons, List.filterMap_cons]
    cases call with
    | file content =>
      exact (ih (l.withFile content)).trans (by simp [Call.override?, Call.layer?, withFile])
    | optionalFile content =>
      exact (ih (l.withOptionalFile content)).trans
        (by simp [Call.override?, Call.layer?, withOptionalFile])
    | override name v =>
      rw [perform, setOverride]
      simp only [Call.override?, Call.layer?, List.mapM_cons, readOverride]
      -- A name that is no path ends the calls here and the reading of the overrides there.
      cases Config.Path.parse? name with
      | none => rfl
      | some p =>
        refine (ih _).trans ?_
        cases (rest.filterMap Call.override?).mapM readOverride with
        | error fault => rfl
        | ok overrides => simp [Except.map, bind, Except.bind, pure, Except.pure]

/-- Only the order of the files among themselves counts, and that of the overrides. By
`foldlM_perform` nothing else goes into the loader. -/
theorem performAll_congr {calls calls' : List Call}
    (hlayers : calls'.filterMap Call.layer? = calls.filterMap Call.layer?)
    (hoverrides : calls'.filterMap Call.override? = calls.filterMap Call.override?) :
    performAll calls' = performAll calls := by
  rw [performAll, performAll, foldlM_perform, foldlM_perform, hlayers, hoverrides]

/-- The calls that add files. -/
def files (calls : List Call) : List Call := calls.filter fun call => call.layer?.isSome

/-- The calls that set values above all files. -/
def overriding (calls : List Call) : List Call := calls.filter fun call => call.layer?.isNone

/-- A document after some calls. -/
def after (root : Value) (calls : List Call) : Value :=
  calls.foldl (fun root call => root.assignAll call.assignments) root

/-- To lay the files over a document is to make their assignments: `Layer.lay_eq` for one file,
and the induction is on the calls. The ones that add no file drop out on both sides. -/
theorem foldlM_lay {calls : List Call} (h : ∀ call ∈ calls, call.Readable) (root : Value) :
    (calls.filterMap Call.layer?).foldlM (fun root layer => layer.lay root) root =
      .ok (after root (files calls)) := by
  induction calls generalizing root with
  | nil => rfl
  | cons call rest ih =>
    obtain ⟨hcall, hrest⟩ := List.forall_mem_cons.mp h
    have hfile (l : Layer) (hl : call.layer? = some l) (hassigns : call.assignments = l.assignments)
        (hentries : ∃ found, l.entries = .ok found) :
        ((call :: rest).filterMap Call.layer?).foldlM (fun root layer => layer.lay root) root =
          .ok (after root (files (call :: rest))) := by
      obtain ⟨found, hfound⟩ := hentries
      rw [List.filterMap_cons_some hl, List.foldlM_cons, Layer.lay_eq hfound]
      refine (ih hrest _).trans ?_
      rw [files, files, List.filter_cons_of_pos (by rw [hl]; rfl), ← hassigns]
      rfl
    cases call with
    | file content => exact hfile ⟨content, true⟩ rfl rfl hcall
    | optionalFile content => exact hfile ⟨content, false⟩ rfl rfl hcall
    | override name v => exact ih hrest root

/-- To lay the overrides over a document is to make their assignments, each of which is a single
one. It goes by induction on the calls, as `foldlM_lay` does. -/
theorem exists_mapM_readOverride {calls : List Call} (h : ∀ call ∈ calls, call.Readable) :
    ∃ read, (calls.filterMap Call.override?).mapM readOverride = .ok read ∧
      ∀ root, read.foldl (fun root o => o.1.assign o.2 root) root =
        after root (overriding calls) := by
  induction calls with
  | nil => exact ⟨[], rfl, fun root => rfl⟩
  | cons call rest ih =>
    obtain ⟨hcall, hrest⟩ := List.forall_mem_cons.mp h
    obtain ⟨read, hread, hafter⟩ := ih hrest
    cases call with
    | file content => exact ⟨read, hread, hafter⟩
    | optionalFile content => exact ⟨read, hread, hafter⟩
    | override name v =>
      obtain ⟨p, hp⟩ := hcall
      refine ⟨(p, v) :: read, ?_, fun root => ?_⟩
      · have hoverride : Call.override? (.override name v) = some (name, v) := rfl
        rw [List.filterMap_cons_some hoverride, List.mapM_cons, readOverride, hp, hread]
        rfl
      -- An override is a single assignment, made before those of the rest.
      · have hassigns : Call.assignments (.override name v) = [⟨p.parts, v⟩] := by
          rw [Call.assignments, hp]
          rfl
        have hoverriding : overriding (.override name v :: rest) =
            .override name v :: overriding rest := rfl
        rw [List.foldl_cons, hafter, hoverriding, after, after, List.foldl_cons, hassigns]
        rfl

/-- The value that decides about a setting: that of the last override for it, or of the last file
that sets it, or the default. -/
def decisive (calls : List Call) (k : Key) : Value :=
  ((((overriding calls).filterMap fun call => call.valueFor? k).getLast?).or
    ((files calls).filterMap fun call => call.valueFor? k).getLast?).getD k.default

/-- After some calls, the last one that sets a setting decides. This is `foldl_last` once more,
with `valueIn_assignAll` for a single call. -/
theorem valueIn_after {calls : List Call} (h : ∀ call ∈ calls, call.WellTyped) (k : Key)
    (root : Value) :
    k.valueIn (after root calls) =
      (calls.filterMap fun call => call.valueFor? k).getLast?.getD (k.valueIn root) :=
  foldl_last k.valueIn
    (fun call hcall root => Config.valueIn_assignAll (h call hcall).fits k root) root

/-- A loader whose calls are all in order has a document in which each setting has the value that
decides. The files come first and then the overrides, so `valueIn_after` is used twice. -/
theorem exists_value {calls : List Call} (h : ∀ call ∈ calls, call.WellTyped) :
    ∃ l root, performAll calls = .ok l ∧ l.value = .ok root ∧
      ∀ k, k.valueIn root = decisive calls k := by
  have hreadable : ∀ call ∈ calls, call.Readable := fun call hcall => (h call hcall).readable
  obtain ⟨overrides, hread, hafter⟩ := exists_mapM_readOverride hreadable
  refine ⟨⟨calls.filterMap Call.layer?, overrides⟩,
    after (after Config.defaults (files calls)) (overriding calls), ?_, ?_, fun k => ?_⟩
  · rw [performAll, foldlM_perform, hread]
    rfl
  · rw [value, foldlM_lay hreadable]
    exact congrArg Except.ok (hafter _)
  · have hoverriding : ∀ call ∈ overriding calls, call.WellTyped :=
      fun call hcall => h call (List.mem_filter.mp hcall).1
    have hfiles : ∀ call ∈ files calls, call.WellTyped :=
      fun call hcall => h call (List.mem_filter.mp hcall).1
    rw [valueIn_after hoverriding, valueIn_after hfiles, Key.valueIn_defaults, decisive,
      Option.getD_or]

/-- The value that decides fits its setting. It was set by a call, where `Fits.isSome_read?`
applies, or it is the default. -/
theorem isSome_read?_decisive {calls : List Call} (h : ∀ call ∈ calls, call.WellTyped) (k : Key) :
    (k.read? (decisive calls k)).isSome = true := by
  have hcalls (part : List Call) (hpart : ∀ call ∈ part, call ∈ calls) (v : Value)
      (hv : (part.filterMap fun call => call.valueFor? k).getLast? = some v) :
      (k.read? v).isSome = true := by
    obtain ⟨call, hcall, hcallv⟩ := List.mem_filterMap.mp (List.mem_of_getLast? hv)
    obtain ⟨a, ha, hav⟩ := List.mem_filterMap.mp (List.mem_of_getLast? hcallv)
    exact ((h call (hpart call hcall)).fits a ha).isSome_read? hav
  unfold decisive
  cases hoverride : ((overriding calls).filterMap fun call => call.valueFor? k).getLast? with
  | some v => exact hcalls _ (fun call hcall => (List.mem_filter.mp hcall).1) v hoverride
  | none =>
    cases hfile : ((files calls).filterMap fun call => call.valueFor? k).getLast? with
    | some v => exact hcalls _ (fun call hcall => (List.mem_filter.mp hcall).1) v hfile
    | none => exact k.isSome_read?_default

/-- A call that does not set a setting does not decide about it. It may be left out, which
`last_setting_wins` says of the configuration. -/
theorem decisive_of_unset {call : Call} {k : Key} (h : call.valueFor? k = none)
    (before behind : List Call) :
    decisive (before ++ call :: behind) k = decisive (before ++ behind) k := by
  have hskip (p : Call → Bool) :
      ((before ++ call :: behind).filter p).filterMap (fun call => call.valueFor? k) =
        ((before ++ behind).filter p).filterMap fun call => call.valueFor? k := by
    rw [List.filter_append, List.filter_append, List.filterMap_append, List.filterMap_append,
      List.filter_cons]
    split
    · rw [List.filterMap_cons, h]
    · rfl
  rw [decisive, decisive, overriding, overriding, files, files, hskip, hskip]

/-- What no call sets has its default. For the levels of the two parts that is nothing, and
`LogConfig.levelFor` falls back to the level for all. -/
theorem decisive_of_all_unset {calls : List Call} {k : Key}
    (h : ∀ call ∈ calls, call.valueFor? k = none) : decisive calls k = k.default := by
  have hnone (p : Call → Bool) :
      (calls.filter p).filterMap (fun call => call.valueFor? k) = [] := by
    rw [List.filterMap_eq_nil_iff]
    exact fun call hcall => h call (List.mem_filter.mp hcall).1
  rw [decisive, overriding, files, hnone, hnone]
  rfl

/-- A loader whose calls are all in order has a configuration, which holds what decides: the
document of `exists_value`, read by `ofValue_eq_ok`. -/
theorem exists_load {calls : List Call} (h : ∀ call ∈ calls, call.WellTyped) :
    ∃ l c, performAll calls = .ok l ∧ l.load = .ok c ∧
      ∀ k : Key, k.read? (decisive calls k) = some (c.get k) := by
  obtain ⟨l, root, hperform, hvalue, hroot⟩ := exists_value h
  obtain ⟨c, hc⟩ := Config.exists_get_eq (isSome_read?_decisive h)
  refine ⟨l, c, hperform, ?_, hc⟩
  rw [load, hvalue]
  exact Config.ofValue_eq_ok fun k => (congrArg k.read? (hroot k)).trans (hc k)

/-- The last setting wins. Take any calls that add files or set values, in any number and order.
Files are TOML, or cannot be read and are optional. In files and overrides the values of settings
fit them, and nothing is asked of what is no setting (`Call.WellTyped`).

- There is a configuration, and each setting in it is what the deciding value means: that of the
  last override for it, or else of the last file that sets it, or else the default (`decisive`).
- The levels of the two parts have no default. Where none is set, the level for all holds.
- Without one of the calls the configuration has the same settings, but for those that the call
  sets.
- Only the order of the files counts, and that of the overrides. It makes no difference which of
  them come before the others, also where some call is not in order. -/
theorem last_setting_wins {calls : List Call} (h : ∀ call ∈ calls, call.WellTyped) :
    ∃ l c, performAll calls = .ok l ∧ l.load = .ok c ∧
      (∀ k : Key, k.read? (decisive calls k) = some (c.get k)) ∧
      ((∀ call ∈ calls, call.valueFor? .tableLevel = none) →
        c.log.levelFor Report.tableTarget = c.log.level) ∧
      ((∀ call ∈ calls, call.valueFor? .engineLevel = none) →
        c.log.levelFor Report.engineTarget = c.log.level) ∧
      (∀ (before : List Call) (call : Call) (behind : List Call),
        calls = before ++ call :: behind → ∃ l' c',
          performAll (before ++ behind) = .ok l' ∧ l'.load = .ok c' ∧
          ∀ k, call.valueFor? k = none → c.get k = c'.get k) ∧
      ∀ calls' : List Call, calls'.filterMap Call.layer? = calls.filterMap Call.layer? →
        calls'.filterMap Call.override? = calls.filterMap Call.override? →
        performAll calls' = performAll calls := by
  obtain ⟨l, c, hperform, hload, hget⟩ := exists_load h
  refine ⟨l, c, hperform, hload, hget, fun hunset => ?_, fun hunset => ?_, ?_,
    fun calls' => performAll_congr⟩
  · have hlevel := hget .tableLevel
    rw [decisive_of_all_unset hunset] at hlevel
    have hnone : c.log.table = none := (Option.some.inj hlevel).symm
    rw [LogConfig.levelFor, if_pos rfl, hnone]
    rfl
  · have hlevel := hget .engineLevel
    rw [decisive_of_all_unset hunset] at hlevel
    have hnone : c.log.engine = none := (Option.some.inj hlevel).symm
    rw [LogConfig.levelFor, if_neg (by decide), if_pos rfl, hnone]
    rfl
  · rintro before call behind rfl
    have hrest : ∀ other ∈ before ++ behind, other.WellTyped := by
      intro other hother
      apply h other
      rcases List.mem_append.mp hother with hbefore | hbehind
      · exact List.mem_append_left _ hbefore
      · exact List.mem_append_right _ (List.mem_cons_of_mem _ hbehind)
    obtain ⟨l', c', hperform', hload', hget'⟩ := exists_load hrest
    refine ⟨l', c', hperform', hload', fun k hk => ?_⟩
    -- The same value decides about the setting with the call and without it.
    have hsame := hget k
    rw [decisive_of_unset hk, hget' k] at hsame
    exact (Option.some.inj hsame).symm

/-- A file that records the steps, and has a setting that nobody reads. -/
def tracingFile : FileContent :=
  .bytes ("parse.trace = true\nlog.level = \"info\"\nother = 1\n".toList.map fun c =>
    c.toNat.toUInt8)

/-- A file that does not record the steps. -/
def quietFile : FileContent :=
  .bytes ("[parse]\ntrace = false\n".toList.map fun c => c.toNat.toUInt8)

/-- The calls of an owner with two files, one of them absent, and one above all of them. -/
def twoFiles : List Call :=
  [.override "parse.decoding" (.text "raw"), .file tracingFile, .optionalFile .missing,
    .file quietFile]

/-- The theorem at `twoFiles`. Of two files the last one decides whether steps are recorded, and
the level of the first one stays. The override holds although it comes before the files. -/
theorem last_setting_wins_twoFiles :
    ∃ l c, performAll twoFiles = .ok l ∧ l.load = .ok c ∧ c.parse.trace = false ∧
      c.parse.decoding = .raw ∧ c.log.level = "info" ∧
      c.log.levelFor Report.tableTarget = c.log.level := by
  have hcalls : ∀ call ∈ twoFiles, call.WellTyped := by decide +kernel
  obtain ⟨l, c, hperform, hload, hget, htable, -⟩ := last_setting_wins hcalls
  have htrace : (decisive twoFiles .trace).flag? = some false := by decide +kernel
  have hdecoding : (decisive twoFiles .decoding).choice? Decoding.all Decoding.name = some .raw := by
    decide +kernel
  have hlevel : (decisive twoFiles .level).text? = some "info" := by decide +kernel
  have hunset : ∀ call ∈ twoFiles, (call.valueFor? .tableLevel).isNone = true := by decide +kernel
  exact ⟨l, c, hperform, hload, Option.some.inj ((hget .trace).symm.trans htrace),
    Option.some.inj ((hget .decoding).symm.trans hdecoding),
    Option.some.inj ((hget .level).symm.trans hlevel),
    htable fun call hcall => Option.isNone_iff_eq_none.mp (hunset call hcall)⟩

end Loader

end LineMachine
