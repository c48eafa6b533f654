import LineMachine.Definition.Json
import LineMachine.Proofs.Json.Record

/-!
# `LineMachine.Proofs.Definition.RoundTrip`: definitions and their JSON

A definition can be written in JSON in several ways: the keys of an object come in any order,
an array gives the fields in their order and may leave out optional ones at its end, an
optional field may be null, and a name may stand in an object of its own. This module says
which values denote which definition, and that reading goes by that alone.

* `Decoding.Denotes`, `Validation.Denotes`, `ParseOptions.Denotes`, `RuleDefinition.Denotes`
  and `TableDefinition.Denotes` are the relations.
* `Decoding.reads`, `Validation.reads`, `ParseOptions.reads`, `RuleDefinition.reads` and
  `TableDefinition.reads` are about reading.
* `Json.RoundTrips` is what reading and writing have to do with each other.
* `TableDefinition.json_faithful` states this for definitions and all that is in them, and
  says what it means for the tables that are built from them.
-/

set_option autoImplicit false

namespace LineMachine

open LineMachine.Json

/-- How a type is written as JSON and read from it. -/
structure Json.RoundTrips {α : Type} (read : Draft → Except DecodeError α) (write : α → Json)
    (Denotes : Json → α → Prop) : Prop where
  /-- a value is accepted if it denotes something, as what it denotes -/
  accepted : Reads read Denotes
  /-- what is written is read again -/
  written : ∀ x, read (write x).toDraft = .ok x
  /-- what an accepted value denotes is written in a form that is accepted, denotes the same
  and is written as it is -/
  settled : ∀ (v : Json) (x : α), read v.toDraft = .ok x →
    ∃ y, read (write x).toDraft = .ok y ∧ y = x ∧ write y = write x
  /-- the order of the members of an object does not matter -/
  reordered : ∀ members members' : List (String × Json), members.Perm members' → ∀ x,
    read (Json.object members).toDraft = .ok x → read (Json.object members').toDraft = .ok x

/-- What has to be shown of a type for `Json.RoundTrips`: that `read` goes by `Denotes`, that a
value is written as one that denotes it, and that `Denotes` does not mind the order of the
members. The settled form comes for free, since `write` takes the value alone. -/
theorem Json.RoundTrips.of_reads {α : Type} {read : Draft → Except DecodeError α}
    {write : α → Json} {Denotes : Json → α → Prop} (h : Reads read Denotes)
    (hwrite : ∀ x, Denotes (write x) x)
    (hperm : ∀ members members' : List (String × Json), members.Perm members' → ∀ x,
      Denotes (.object members) x → Denotes (.object members') x) :
    RoundTrips read write Denotes where
  accepted := h
  written x := (h _ _).mpr (hwrite x)
  settled _ x _ := ⟨x, (h _ _).mpr (hwrite x), rfl, rfl⟩
  reordered members members' hmembers x hread :=
    (h _ _).mpr (hperm members members' hmembers x ((h _ _).mp hread))

/-- A name that stands in an object is its only member, so there is no other order. This is the
`Denotes.perm` of `Decoding` and `Validation`, and of a validation inside a definition. -/
theorem Json.IsVariant.perm {members members' : List (String × Json)} {name : String}
    (h : IsVariant (.object members) name) (hperm : members.Perm members') :
    IsVariant (.object members') name := by
  obtain h | h := h
  · cases h
  · cases h
    exact .inr (congrArg Json.object (List.singleton_perm.mp hperm).symm)

/-- No text is null. `Reads.fits_optional` and `Optional.unique` ask for it, because null in an
optional field stands for a field that is left out. -/
theorem Json.not_isString_null (s : String) : ¬ IsString .null s := nofun

/-! ### Names -/

namespace Decoding

/-- The value denotes the decoding. -/
def Denotes (v : Json) (d : Decoding) : Prop := IsVariant v d.name

/-- A decoding is read from its name alone: `Json.reads_named` at the names of `Decoding.all`. The
value may be the name, or an object with the name as its key and null beside it. -/
theorem reads (origin : Origin) : Reads (ofDraft origin) Denotes :=
  reads_named origin (fun n => (ofName? n).getD .utf8)
    (fun d => by cases d <;> decide) (fun d => by cases d <;> rfl) (by decide)

/-- Decodings round trip. `toJson` writes the bare name, and a name in an object of its own is
read as the same decoding. -/
theorem roundTrips (origin : Origin) : RoundTrips (ofDraft origin) toJson Denotes :=
  .of_reads (reads origin) (fun _ => .inl rfl) fun _ _ hperm _ h => h.perm hperm

end Decoding

namespace Validation

/-- The value denotes the validation. -/
def Denotes (v : Json) (d : Validation) : Prop := IsVariant v d.name

/-- Null denotes no validation: it is neither a text nor an object. So `"validation": null` can
stand for a definition that leaves the choice to the fallback. -/
theorem not_denotes_null (d : Validation) : ¬ Denotes .null d := by simp [Denotes, IsVariant]

/-- A validation is read from its name alone, as `Decoding.reads` has it, at the names of
`Validation.all`. -/
theorem reads (origin : Origin) : Reads (ofDraft origin) Denotes :=
  reads_named origin (fun n => (ofName? n).getD .strict)
    (fun d => by cases d <;> decide) (fun d => by cases d <;> rfl) (by decide)

/-- Validations round trip, by the same three facts as in `Decoding.roundTrips`. -/
theorem roundTrips (origin : Origin) : RoundTrips (ofDraft origin) toJson Denotes :=
  .of_reads (reads origin) (fun _ => .inl rfl) fun _ _ hperm _ h => h.perm hperm

end Validation

/-! ### Rules -/

namespace RuleDefinition

/-- The names of the fields of a rule, in their order. -/
def fieldNames : List String := ["state", "literal", "regex", "next", "action"]

/-- The value denotes the rule. -/
structure Denotes (v : Json) (r : RuleDefinition) : Prop where
  /-- there are no fields but those of a rule -/
  record : IsRecord fieldNames true v
  state : Required IsString (slot fieldNames "state" v) r.state
  literal : Optional IsString (slot fieldNames "literal" v) r.literal
  regex : Optional IsString (slot fieldNames "regex" v) r.regex
  next : Optional IsString (slot fieldNames "next" v) r.next
  action : Optional IsString (slot fieldNames "action" v) r.action

/-- The reader of the one field a rule must have fits `Required`: it takes a text and nothing
else, and `found.join.getD ""` gives that text back. The empty text is never used, since a missing
field is refused before. -/
theorem fits_state :
    RecordField.Fits ⟨"state", true, fun draft => (decodeString draft).map some⟩
      (fun found => found.join.getD "") (Required IsString) :=
  (reads_string.fits_required "" "state").map fun found => by cases found <;> rfl

/-- The four optional fields of a rule differ in their names only, so one lemma says that
`decodeOption decodeString` fits `Optional IsString` under any name. -/
theorem fits_text (name : String) :
    RecordField.Fits ⟨name, false, decodeOption decodeString⟩ Option.join (Optional IsString) :=
  reads_string.fits_optional not_isString_null name

/-- A value denotes at most one rule. `RuleDefinition.reads` has to say of an accepted value which
rule it gives, and for a list of rules `Reads.unique` passes this on. -/
theorem Denotes.unique {v : Json} {r s : RuleDefinition} (hr : Denotes v r)
    (hs : Denotes v s) : r = s := by
  have htext : ∀ {given o p}, Optional IsString given o → Optional IsString given p → o = p :=
    Optional.unique reads_string not_isString_null
  cases r
  cases s
  rw [RuleDefinition.mk.injEq]
  exact ⟨hr.state.unique reads_string hs.state, htext hr.literal hs.literal,
    htext hr.regex hs.regex, htext hr.next hs.next, htext hr.action hs.action⟩

/-- A rule is read from the values that denote it. `reads_record` does the work for the object
form and the array form alike; what is left are the five fields, by `fits_state` and
`fits_text`. -/
theorem reads (origin : Origin) : Reads (ofDraft origin) Denotes := by
  refine reads_record (show _ = fieldNames from rfl) (by decide) ?_ ?_ fun _ _ _ => Denotes.unique
  · intro v found hrecord hholds
    simp only [fields, List.forall_mem_cons] at hholds
    obtain ⟨hstate, hliteral, hregex, hnext, haction, -⟩ := hholds
    exact ⟨hrecord, fits_state.sound hstate, (fits_text _).sound hliteral,
      (fits_text _).sound hregex, (fits_text _).sound hnext, (fits_text _).sound haction⟩
  · intro v r h
    refine ⟨h.record, ?_⟩
    simp only [fields, List.forall_mem_cons]
    exact ⟨fits_state.complete h.state, (fits_text _).complete h.literal,
      (fits_text _).complete h.regex, (fits_text _).complete h.next,
      (fits_text _).complete h.action, by simp⟩

/-- A field that is written has its name for a key, and one that is `none` leaves no member
behind. Putting five of these together gives the keys of a written rule in the order of
`fieldNames`. -/
theorem keys_member_sublist (name : String) (o : Option String) :
    ((member name o).map Prod.fst).Sublist [name] := by
  cases o with
  | none => exact List.nil_sublist _
  | some text => exact List.Sublist.refl _

/-- Looking a field up in one written member: it is found under its own name when there is
something, and never under another name. With `field?_append` this evaluates every field of
`toJson`. -/
theorem field?_member (name other : String) (o : Option String) :
    field? (member name o) other = if name = other then o.map .string else none := by
  cases o with
  | none => simp [member, field?]
  | some text => by_cases h : name = other <;> simp [member, field?, h]

/-- A written rule has no members but the fields of a rule, and each at most once, because its
keys are a part of `fieldNames` in order (`IsRecord.of_sublist`). -/
theorem isRecord_toJson (r : RuleDefinition) : IsRecord fieldNames true r.toJson := by
  refine IsRecord.of_sublist ?_ (by decide)
  simp only [List.map_append]
  exact ((((List.Sublist.refl ["state"]).append (keys_member_sublist "literal" r.literal)).append
    (keys_member_sublist "regex" r.regex)).append (keys_member_sublist "next" r.next)).append
      (keys_member_sublist "action" r.action)

/-- What `RuleDefinition.toJson` writes denotes the rule: each text stands in its slot, and an
absent one has an empty slot. -/
theorem denotes_toJson (r : RuleDefinition) : Denotes r.toJson r := by
  have htext : ∀ o : Option String, Optional IsString (o.map .string) o :=
    Optional.of_map fun _ => rfl
  refine ⟨r.isRecord_toJson, .given rfl, ?_, ?_, ?_, ?_⟩ <;>
    simp [toJson, field?_cons, field?_append, field?_member, htext]

/-- The members of a rule may come in any order: `IsRecord.perm` keeps them a record, and
`slot_perm` finds the same value for each field. -/
theorem Denotes.perm {members members' : List (String × Json)} {r : RuleDefinition}
    (h : Denotes (.object members) r) (hperm : members.Perm members') :
    Denotes (.object members') r := by
  have hslot : ∀ name ∈ fieldNames, slot fieldNames name (.object members') =
      slot fieldNames name (.object members) := fun name hname => h.record.slot_perm hperm hname
  refine ⟨h.record.perm hperm, ?_, ?_, ?_, ?_, ?_⟩ <;> rw [hslot _ (by decide)]
  exacts [h.state, h.literal, h.regex, h.next, h.action]

/-- Rules round trip: `reads`, `denotes_toJson` and `Denotes.perm` put together by
`Json.RoundTrips.of_reads`. -/
theorem roundTrips (origin : Origin) : RoundTrips (ofDraft origin) toJson Denotes :=
  .of_reads (reads origin) denotes_toJson fun _ _ hperm _ h => h.perm hperm

end RuleDefinition

/-! ### Tables -/

namespace TableDefinition

/-- The names of the fields of a definition, in their order. -/
def fieldNames : List String := ["initial", "validation", "rules"]

/-- The value denotes the definition. -/
structure Denotes (v : Json) (d : TableDefinition) : Prop where
  /-- there are no fields but those of a definition -/
  record : IsRecord fieldNames true v
  initial : Optional IsString (slot fieldNames "initial" v) d.initial
  validation : Optional Validation.Denotes (slot fieldNames "validation" v) d.validation
  rules : Required (IsList RuleDefinition.Denotes) (slot fieldNames "rules" v) d.rules

/-- The initial state that was found. -/
def initialOf : Option Part → Option String
  | some (.initial state) => state
  | _ => none

/-- The validation that was found. -/
def validationOf : Option Part → Option Validation
  | some (.validation v) => v
  | _ => none

/-- The rules that were found. -/
def rulesOf : Option Part → List RuleDefinition
  | some (.rules list) => list
  | _ => []

/-- The field for the initial state fits `Optional`, as the texts of a rule do; `initialOf` takes
the text out of the `Part` it was packed into. -/
theorem fits_initial :
    RecordField.Fits
      ⟨"initial", false, fun draft => (decodeOption decodeString draft).map Part.initial⟩
      initialOf (Optional IsString) :=
  (reads_string.fits_optional not_isString_null "initial").map fun found => by cases found <;> rfl

/-- The field for the validation fits `Optional Validation.Denotes`. Here
`Validation.not_denotes_null` is used: a null could otherwise be read in two ways. -/
theorem fits_validation (origin : Origin) :
    RecordField.Fits
      ⟨"validation", false, fun draft =>
        (decodeOption (Validation.ofDraft origin) draft).map Part.validation⟩
      validationOf (Optional Validation.Denotes) :=
  ((Validation.reads origin).fits_optional Validation.not_denotes_null "validation").map
    fun found => by cases found <;> rfl

/-- The field for the rules is required and fits a list of rules, where `RuleDefinition.reads` is
lifted to lists by `reads_list`. -/
theorem fits_rules (origin : Origin) :
    RecordField.Fits
      ⟨"rules", true, fun draft =>
        (decodeList (RuleDefinition.ofDraft origin) draft).map Part.rules⟩
      rulesOf (Required (IsList RuleDefinition.Denotes)) :=
  ((reads_list (RuleDefinition.reads origin)).fits_required [] "rules").map
    fun found => by cases found <;> rfl

/-- A value denotes at most one definition, because it does so field by field and, in the list,
rule by rule (`RuleDefinition.Denotes.unique`). -/
theorem Denotes.unique {v : Json} {d e : TableDefinition} (hd : Denotes v d)
    (he : Denotes v e) : d = e := by
  have hinitial := hd.initial.unique reads_string not_isString_null he.initial
  have hvalidation := hd.validation.unique (Validation.reads .value)
    Validation.not_denotes_null he.validation
  have hrules := hd.rules.unique (reads_list (RuleDefinition.reads .value)) he.rules
  cases d
  cases e
  rw [TableDefinition.mk.injEq]
  exact ⟨hinitial, hvalidation, hrules⟩

/-- A definition is read from the values that denote it: `reads_record` at the three fields
`fits_initial`, `fits_validation` and `fits_rules`. -/
theorem reads (origin : Origin) : Reads (ofDraft origin) Denotes := by
  refine reads_record (show _ = fieldNames from rfl) (by decide) ?_ ?_ fun _ _ _ => Denotes.unique
  · intro v found hrecord hholds
    simp only [fields, List.forall_mem_cons] at hholds
    obtain ⟨hinitial, hvalidation, hrules, -⟩ := hholds
    exact ⟨hrecord, fits_initial.sound hinitial, (fits_validation origin).sound hvalidation,
      (fits_rules origin).sound hrules⟩
  · intro v d h
    refine ⟨h.record, ?_⟩
    simp only [fields, List.forall_mem_cons]
    exact ⟨fits_initial.complete h.initial, (fits_validation origin).complete h.validation,
      (fits_rules origin).complete h.rules, by simp⟩

/-- The validation is written like a text, which is its name. In this form all optional fields of
`toJson` are a `RuleDefinition.member`, and the lemmas about that apply. -/
theorem toJson_eq (d : TableDefinition) :
    d.toJson = .object (RuleDefinition.member "initial" d.initial ++
      (RuleDefinition.member "validation" (d.validation.map Validation.name) ++
        [("rules", .array (d.rules.map RuleDefinition.toJson))])) := by
  rw [toJson]
  cases d.validation <;> simp [RuleDefinition.member, Validation.toJson]

/-- A written definition has no members but its fields, each at most once; the keys are read off
`toJson_eq`. -/
theorem isRecord_toJson (d : TableDefinition) : IsRecord fieldNames true d.toJson := by
  rw [toJson_eq]
  refine IsRecord.of_sublist ?_ (by decide)
  simp only [List.map_append]
  exact (RuleDefinition.keys_member_sublist "initial" d.initial).append
    ((RuleDefinition.keys_member_sublist "validation" _).append (List.Sublist.refl ["rules"]))

/-- What `TableDefinition.toJson` writes denotes the definition. The rules are written one by one,
so `RuleDefinition.denotes_toJson` holds of each of them. -/
theorem denotes_toJson (d : TableDefinition) : Denotes d.toJson d := by
  have hinitial : Optional IsString (d.initial.map .string) d.initial :=
    Optional.of_map (fun s => (rfl : IsString (.string s) s)) _
  have hvalidation : Optional Validation.Denotes
      ((d.validation.map Validation.name).map .string) d.validation := by
    rw [Option.map_map]
    exact Optional.of_map (fun _ => .inl rfl) _
  have hrules : IsList RuleDefinition.Denotes (.array (d.rules.map RuleDefinition.toJson))
      d.rules :=
    ⟨_, rfl, List.forall₂_map_left_iff.mpr
      (List.forall₂_same.mpr fun r _ => r.denotes_toJson)⟩
  -- Written as texts, the optional members are found by their names, whatever is left out.
  have hrecord := d.isRecord_toJson
  rw [toJson_eq] at hrecord ⊢
  refine ⟨hrecord, ?_, ?_, ?_⟩
  · simpa [field?_append, RuleDefinition.field?_member, field?_cons] using hinitial
  · simpa [field?_append, RuleDefinition.field?_member, field?_cons] using hvalidation
  · simpa [field?_append, RuleDefinition.field?_member, field?_cons] using Required.given hrules

/-- The members of a definition may come in any order. The rules in the list may not: their order
is part of the definition, and `Denotes` keeps it. -/
theorem Denotes.perm {members members' : List (String × Json)} {d : TableDefinition}
    (h : Denotes (.object members) d) (hperm : members.Perm members') :
    Denotes (.object members') d := by
  have hslot : ∀ name ∈ fieldNames, slot fieldNames name (.object members') =
      slot fieldNames name (.object members) := fun name hname => h.record.slot_perm hperm hname
  refine ⟨h.record.perm hperm, ?_, ?_, ?_⟩ <;> rw [hslot _ (by decide)]
  exacts [h.initial, h.validation, h.rules]

/-- Definitions round trip, by the same three facts as in `RuleDefinition.roundTrips`. -/
theorem roundTrips (origin : Origin) : RoundTrips (ofDraft origin) toJson Denotes :=
  .of_reads (reads origin) denotes_toJson fun _ _ hperm _ h => h.perm hperm

end TableDefinition

/-! ### Settings -/

namespace ParseOptions

/-- The names of the settings, in their order. -/
def fieldNames : List String := ["decoding", "require_empty_stack", "trace"]

/-- The value denotes the settings. -/
structure Denotes (v : Json) (o : ParseOptions) : Prop where
  /-- other members may be there -/
  record : IsRecord fieldNames false v
  decoding : Defaulted Decoding.Denotes .utf8 (slot fieldNames "decoding" v) o.decoding
  requireEmptyStack : Defaulted IsBool false (slot fieldNames "require_empty_stack" v)
    o.requireEmptyStack
  trace : Defaulted IsBool false (slot fieldNames "trace" v) o.trace

/-- The decoding that was found. -/
def decodingOf : Option Setting → Decoding
  | some (.decoding d) => d
  | _ => .utf8

/-- The truth value that was found. -/
def flagOf : Option Setting → Bool
  | some (.flag b) => b
  | _ => false

/-- The field for the decoding fits `Defaulted`: a field that is left out is `utf8`, while a null
is refused, since there is no `decodeOption` around the reader. -/
theorem fits_decoding (origin : Origin) :
    RecordField.Fits
      ⟨"decoding", false, fun draft => (Decoding.ofDraft origin draft).map Setting.decoding⟩
      decodingOf (Defaulted Decoding.Denotes .utf8) :=
  ((Decoding.reads origin).fits_defaulted .utf8 "decoding").map
    fun found => by cases found <;> rfl

/-- Both truth values of the settings are read alike and are false when they are left out, so
`fits_flag` has the name as a parameter. -/
theorem fits_flag (name : String) :
    RecordField.Fits ⟨name, false, fun draft => (decodeBool draft).map Setting.flag⟩
      flagOf (Defaulted IsBool false) :=
  (reads_bool.fits_defaulted false name).map fun found => by cases found <;> rfl

/-- A value denotes at most one `ParseOptions`. Members that are not settings are allowed and play
no part in it. -/
theorem Denotes.unique {v : Json} {o p : ParseOptions} (ho : Denotes v o)
    (hp : Denotes v p) : o = p := by
  have hdecoding := ho.decoding.unique (Decoding.reads .value) hp.decoding
  have hempty := ho.requireEmptyStack.unique reads_bool hp.requireEmptyStack
  have htrace := ho.trace.unique reads_bool hp.trace
  cases o
  cases p
  rw [ParseOptions.mk.injEq]
  exact ⟨hdecoding, hempty, htrace⟩

/-- Settings are read from the values that denote them: `reads_record` with unknown members
allowed, at `fits_decoding` and twice `fits_flag`. -/
theorem reads (origin : Origin) : Reads (ofDraft origin) Denotes := by
  refine reads_record (show _ = fieldNames from rfl) (by decide) ?_ ?_ fun _ _ _ => Denotes.unique
  · intro v found hrecord hholds
    simp only [fields, List.forall_mem_cons] at hholds
    obtain ⟨hdecoding, hempty, htrace, -⟩ := hholds
    exact ⟨hrecord, (fits_decoding origin).sound hdecoding, (fits_flag _).sound hempty,
      (fits_flag _).sound htrace⟩
  · intro v o h
    refine ⟨h.record, ?_⟩
    simp only [fields, List.forall_mem_cons]
    exact ⟨(fits_decoding origin).complete h.decoding,
      (fits_flag _).complete h.requireEmptyStack, (fits_flag _).complete h.trace, by simp⟩

/-- What `ParseOptions.toJson` writes denotes the settings; all three fields are always written,
so no default is taken. -/
theorem denotes_toJson (o : ParseOptions) : Denotes o.toJson o where
  record := IsRecord.of_sublist (List.Sublist.refl fieldNames) (by decide)
  decoding := .given (.inl rfl)
  requireEmptyStack := .given rfl
  trace := .given rfl

/-- The settings may come in any order, and so may the members around them that are no
settings. -/
theorem Denotes.perm {members members' : List (String × Json)} {o : ParseOptions}
    (h : Denotes (.object members) o) (hperm : members.Perm members') :
    Denotes (.object members') o := by
  have hslot : ∀ name ∈ fieldNames, slot fieldNames name (.object members') =
      slot fieldNames name (.object members) := fun name hname => h.record.slot_perm hperm hname
  refine ⟨h.record.perm hperm, ?_, ?_, ?_⟩ <;> rw [hslot _ (by decide)]
  exacts [h.decoding, h.requireEmptyStack, h.trace]

/-- Settings round trip. Members that `toJson` does not write are lost on the way, which
`Json.RoundTrips` allows: what is written again still denotes the same settings. -/
theorem roundTrips (origin : Origin) : RoundTrips (ofDraft origin) toJson Denotes :=
  .of_reads (reads origin) denotes_toJson fun _ _ hperm _ h => h.perm hperm

end ParseOptions

/-! ### All together -/

namespace TableDefinition

/-- Definitions, their rules and the settings are read from the values that denote them and
written as values that denote them (`RoundTrips`, once for each of the five types). A definition
that is written and read again builds the same table, or fails with the same error, and gives the
same reports. -/
theorem json_faithful (origin : Origin) :
    RoundTrips (Decoding.ofDraft origin) Decoding.toJson Decoding.Denotes ∧
    RoundTrips (Validation.ofDraft origin) Validation.toJson Validation.Denotes ∧
    RoundTrips (ParseOptions.ofDraft origin) ParseOptions.toJson ParseOptions.Denotes ∧
    RoundTrips (RuleDefinition.ofDraft origin) RuleDefinition.toJson RuleDefinition.Denotes ∧
    RoundTrips (TableDefinition.ofDraft origin) TableDefinition.toJson TableDefinition.Denotes ∧
    ∀ (v : Json) (d : TableDefinition), ofDraft origin v.toDraft = .ok d → ∀ fallback,
      (ofDraft origin d.toJson.toDraft).map (fun e => e.build fallback) =
        (ofDraft origin v.toDraft).map fun e => e.build fallback := by
  refine ⟨Decoding.roundTrips origin, Validation.roundTrips origin,
    ParseOptions.roundTrips origin, RuleDefinition.roundTrips origin,
    TableDefinition.roundTrips origin, fun v d hread fallback => ?_⟩
  rw [hread, (TableDefinition.roundTrips origin).written d]

/-- A definition with its keys out of order, a rule as an array, and a name in an object. -/
def rearranged : Json :=
  .object
    [("rules", .array
      [.array [.string "start", .null, .string "[0-9]+"],
        .object [("next", .string "start"), ("literal", .null), ("state", .string "start")]]),
      ("validation", .object [("lenient", .null)]), ("initial", .null)]

/-- What `rearranged` denotes. -/
def arranged : TableDefinition :=
  ⟨none, some .lenient, [⟨"start", none, some "[0-9]+", none, none⟩,
    ⟨"start", none, none, some "start", none⟩]⟩

/-- The theorem at `rearranged`: the value is accepted as `arranged`, and what is written for it
builds the same table. -/
theorem json_faithful_rearranged :
    ofDraft .value rearranged.toDraft = .ok arranged ∧
      (ofDraft .value arranged.toJson.toDraft).map (fun e => e.build .strict) =
        (ofDraft .value rearranged.toDraft).map fun e => e.build .strict :=
  have hread : ofDraft .value rearranged.toDraft = .ok arranged := by rfl
  ⟨hread, (json_faithful .value).2.2.2.2.2 rearranged arranged hread .strict⟩

end TableDefinition

end LineMachine
