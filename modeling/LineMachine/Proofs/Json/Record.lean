import LineMachine.Json.Record
import LineMachine.Proofs.Except
import LineMachine.Proofs.Keyed
import Mathlib.Data.List.Forall2
import Mathlib.Data.Option.Basic

/-!
# `LineMachine.Proofs.Json.Record`: which values are read, and as what

Reading goes through the draft of a value and stops at the first fault. This module says
of the value itself when there is none, and what is read then.

* `Json.Reads` ties a reader to the relation between values and what they denote.
  `Json.reads_string`, `Json.reads_bool`, `Json.reads_option`, `Json.reads_list` and
  `Json.reads_variant` are the simple readers.
* `Json.IsRecord` is the form of a record and `Json.slot` the value in one of its fields, for
  objects and arrays alike. Neither looks at the order of the members of an object
  (`Json.IsRecord.perm`, `Json.IsRecord.slot_perm`).
* `Json.RecordField.Holds` is what a field may hold.
* `Json.reads_record`: a record is read when it has the form of one and its fields hold what
  they may, from a text and from a finished value alike.

A required field, an optional one and one with a default are `Json.Required`,
`Json.Optional` and `Json.Defaulted`.
-/

set_option autoImplicit false

namespace LineMachine.Json

variable {α β : Type}

/-- The reader accepts the values that denote something, as what they denote. -/
def Reads (read : Draft → Except DecodeError α) (Denotes : Json → α → Prop) : Prop :=
  ∀ v x, read v.toDraft = .ok x ↔ Denotes v x

/-- The value is the string. -/
def IsString (v : Json) (s : String) : Prop := v = .string s

/-- The value is the truth value. -/
def IsBool (v : Json) (b : Bool) : Prop := v = .bool b

/-- The value is an array, and its items denote the things in the list, one after the other. -/
def IsList (Denotes : Json → α → Prop) (v : Json) (xs : List α) : Prop :=
  ∃ items, v = .array items ∧ List.Forall₂ Denotes items xs

/-- The value stands for a name: it is the name itself, or an object with the name as its
only key and null beside it. -/
def IsVariant (v : Json) (name : String) : Prop :=
  v = .string name ∨ v = .object [(name, .null)]

/-- A field that must be there. -/
inductive Required (Denotes : Json → α → Prop) : Option Json → α → Prop
  | given {v : Json} {x : α} (denotes : Denotes v x) : Required Denotes (some v) x

/-- A field that may be left out, or be null. -/
inductive Optional (Denotes : Json → α → Prop) : Option Json → Option α → Prop
  | missing : Optional Denotes none none
  | null : Optional Denotes (some .null) none
  | given {v : Json} {x : α} (denotes : Denotes v x) : Optional Denotes (some v) (some x)

/-- A field that may be left out, and then has its default. -/
inductive Defaulted (Denotes : Json → α → Prop) (default : α) : Option Json → α → Prop
  | missing : Defaulted Denotes default none default
  | given {v : Json} {x : α} (denotes : Denotes v x) : Defaulted Denotes default (some v) x

/-- The value in a field of a record: the member with its name, or the item at its place. -/
def slot (names : List String) (name : String) : Json → Option Json
  | .array items => items[names.idxOf name]?
  | v => v.get? name

/-- The value has the form of a record: an object that gives no field twice and, if the
record is closed, has no other keys; or an array with no more items than fields. -/
def IsRecord (names : List String) (closed : Bool) : Json → Prop
  | .object members =>
    (∀ name ∈ names, (members.map Prod.fst).count name ≤ 1) ∧
      (closed → ∀ key ∈ members.map Prod.fst, key ∈ names)
  | .array items => items.length ≤ names.length
  | _ => False

/-- What a field may hold: a value that is read, or nothing if it is not required. -/
inductive RecordField.Holds (f : RecordField α) : Option Json → Option α → Prop
  | missing (optional : f.required = false) : f.Holds none none
  | given {v : Json} {a : α} (reads : f.read v.toDraft = .ok a) : f.Holds (some v) (some a)

/-! ### Simple values -/

/-- The draft of an array is taken item by item. `toDraftItems` is a recursion of its own beside
`toDraft`; as a `List.map` it has the lemmas about lists. -/
theorem toDraftItems_eq (items : List Json) : toDraftItems items = items.map toDraft := by
  induction items with
  | nil => rfl
  | cons item rest ih => simp [toDraftItems, ih]

/-- The first of the simple readers: `decodeString` takes a string, as the text that it is, and
refuses everything else. -/
theorem reads_string : Reads decodeString IsString := by
  intro v s
  cases v <;> simp [toDraft, decodeString, IsString]

/-- The reader of truth values, like `reads_string`. A number or a text that looks like a truth
value is none. -/
theorem reads_bool : Reads decodeBool IsBool := by
  intro v b
  cases v <;> simp [toDraft, decodeBool, IsBool]

/-- An optional value is null or what the reader takes. Without `hnull` a null would be read as
absent although it denotes something, so every use shows that null denotes nothing. -/
theorem reads_option {read : Draft → Except DecodeError α} {Denotes : Json → α → Prop}
    (h : Reads read Denotes) (hnull : ∀ x, ¬ Denotes .null x) :
    Reads (decodeOption read) fun v o => Optional Denotes (some v) o := by
  intro v o
  by_cases hv : v = .null
  · subst hv
    constructor
    · intro hread
      cases hread
      exact .null
    · rintro (_ | _ | hdenotes)
      · rfl
      · exact absurd hdenotes (hnull _)
  · -- Any other value is left to the reader of what may be there.
    have hread : decodeOption read v.toDraft = (read v.toDraft).map some := by
      cases v <;> first | rfl | exact absurd rfl hv
    rw [hread, map_eq_ok_iff]
    constructor
    · rintro ⟨x, hx, rfl⟩
      exact .given ((h v x).mp hx)
    · rintro (_ | _ | hdenotes)
      · exact absurd rfl hv
      · exact ⟨_, (h v _).mpr hdenotes, rfl⟩

/-- A list is read when each of its items is, and then item by item (`List.Forall₂`). The
induction is on the items, and the failure of a single one fails the whole `mapM`. -/
theorem mapM_toDraftItems_eq_ok_iff {read : Draft → Except DecodeError α}
    {Denotes : Json → α → Prop} (h : Reads read Denotes) (items : List Json) (xs : List α) :
    (toDraftItems items).mapM read = .ok xs ↔ List.Forall₂ Denotes items xs := by
  induction items generalizing xs with
  | nil => cases xs <;> simp [toDraftItems, pure, Except.pure]
  | cons item rest ih =>
    rw [toDraftItems, List.mapM_cons, bind_eq_ok_iff, List.forall₂_cons_left_iff]
    constructor
    · rintro ⟨x, hx, hrest⟩
      obtain ⟨more, hmore, hxs⟩ := bind_eq_ok_iff.mp hrest
      cases hxs
      exact ⟨x, more, (h item x).mp hx, (ih more).mp hmore, rfl⟩
    · rintro ⟨x, more, hx, hmore, rfl⟩
      exact ⟨x, (h item x).mpr hx, bind_eq_ok_iff.mpr ⟨more, (ih more).mpr hmore, rfl⟩⟩

/-- A list is read from an array whose items the reader takes. This carries `RuleDefinition.reads`
over to the rules of a definition. -/
theorem reads_list {read : Draft → Except DecodeError α} {Denotes : Json → α → Prop}
    (h : Reads read Denotes) :
    Reads (decodeList read) (IsList Denotes) := by
  intro v xs
  cases v with
  | array items =>
    have hread : decodeList read (Json.array items).toDraft = (toDraftItems items).mapM read := by
      rw [toDraft, decodeList]
      cases (toDraftItems items).mapM read <;> rfl
    rw [hread, mapM_toDraftItems_eq_ok_iff h]
    simp [IsList]
  | _ => simp [toDraft, decodeList, IsList]

/-- A name is taken as it is, if it is one of the names of the type. `reads_variant` uses this for
the name alone and for the key of an object. -/
theorem checkVariant_eq_ok_iff {names : List String} {name found : String} :
    checkVariant names name = .ok found ↔ name ∈ names ∧ name = found := by
  rw [checkVariant]
  split <;> simp [*]

/-- Beside a name that stands as a key there may be null and nothing else, no empty object or
array either. -/
theorem checkUnit_eq_ok_iff {v : Json} {u : Unit} : checkUnit v.toDraft = .ok u ↔ v = .null := by
  cases v <;> simp [toDraft, checkUnit]

/-- The first form of a name, the text alone. Both origins read it by `checkVariant`, so
`reads_variant` does not split on `Origin` again. -/
theorem decodeVariant_string (origin : Origin) (names : List String) (s : String) :
    decodeVariant origin names (Json.string s).toDraft = checkVariant names s := by
  cases origin <;> rfl

/-- The second form of a name, an object with one member. The key is checked before the value
beside it, in a text and in a finished value alike. -/
theorem decodeVariant_member (origin : Origin) (names : List String) (key : String)
    (beside : Json) :
    decodeVariant origin names (Json.object [(key, beside)]).toDraft = (do
      let name ← checkVariant names key
      checkUnit beside.toDraft
      .ok name) := by
  cases origin <;> rfl

/-- A second key is refused. A text is read up to it, a finished value is refused at once; the
errors differ by `Origin`, and `reads_variant` needs only that nothing is read. -/
theorem decodeVariant_members_ne_ok (origin : Origin) (names : List String)
    (first second : String × Json) (rest : List (String × Json)) (name : String) :
    decodeVariant origin names (Json.object (first :: second :: rest)).toDraft ≠ .ok name := by
  intro h
  cases origin with
  | text =>
    obtain ⟨_, -, h⟩ := bind_eq_ok_iff.mp h
    obtain ⟨_, -, h⟩ := bind_eq_ok_iff.mp h
    cases h
  | value => cases h

/-- A name is read from the text or from an object with that one key, and from nothing else. The
case split follows `IsVariant` and the number of members. -/
theorem reads_variant (origin : Origin) (names : List String) :
    Reads (decodeVariant origin names) fun v name => name ∈ names ∧ IsVariant v name := by
  intro v name
  match v with
  | .string s =>
    rw [decodeVariant_string, checkVariant_eq_ok_iff]
    simp only [IsVariant, Json.string.injEq, reduceCtorEq, or_false]
    exact ⟨fun ⟨h, hs⟩ => ⟨hs ▸ h, hs⟩, fun ⟨h, hs⟩ => ⟨hs ▸ h, hs⟩⟩
  | .object [(key, beside)] =>
    rw [decodeVariant_member, bind_eq_ok_iff]
    simp only [bind_eq_ok_iff, checkVariant_eq_ok_iff, checkUnit_eq_ok_iff, IsVariant,
      reduceCtorEq, Json.object.injEq, List.cons.injEq, Prod.mk.injEq, and_true, false_or]
    constructor
    · rintro ⟨_, ⟨hmem, rfl⟩, _, rfl, hname⟩
      cases hname
      exact ⟨hmem, rfl, rfl⟩
    · rintro ⟨hmem, rfl, rfl⟩
      exact ⟨key, ⟨hmem, rfl⟩, (), rfl, rfl⟩
  | .object (first :: second :: rest) =>
    exact iff_of_false (decodeVariant_members_ne_ok origin names first second rest name)
      (by simp [IsVariant])
  -- No other form of a value is read, and none stands for a name.
  | .object [] =>
    cases origin <;>
      simp [decodeVariant, variantOfText, variantOfValue, toDraft, toDraftMembers, IsVariant]
  | .null | .bool _ | .int _ | .float _ | .array _ =>
    cases origin <;> simp [decodeVariant, variantOfText, variantOfValue, toDraft, IsVariant]

/-- Things with names of their own. `Decoding` and `Validation` are read by `decodeVariant`
followed by a function from names, and the three hypotheses say that this function undoes `name`
on the names that are accepted. -/
theorem reads_named (origin : Origin) {names : List String} {name : α → String}
    (ofName : String → α) (hname : ∀ x, name x ∈ names) (hof : ∀ x, ofName (name x) = x)
    (hnames : ∀ n ∈ names, name (ofName n) = n) :
    Reads (fun draft => do
      let n ← decodeVariant origin names draft
      .ok (ofName n)) fun v x => IsVariant v (name x) := by
  intro v x
  simp only [bind_eq_ok_iff, reads_variant origin names v _, Except.ok.injEq]
  constructor
  · rintro ⟨n, ⟨hn, hv⟩, rfl⟩
    rwa [hnames n hn]
  · intro hv
    exact ⟨name x, ⟨hname x, hv⟩, hof x⟩

/-! ### Objects and arrays -/

/-- In an object the slot of a field is the member with its name. Its place among the names only
matters for an array. -/
@[simp] theorem slot_object (names : List String) (name : String)
    (members : List (String × Json)) :
    slot names name (.object members) = field? members name := rfl

/-- Where there are no members, no field is found: the base of the inductions over `field?`. -/
@[simp] theorem field?_nil (name : String) : field? ([] : List (String × α)) name = none := rfl

/-- Looking a field up goes from the front, so the first member with the name wins. `IsRecord`
makes sure that there is only one. -/
theorem field?_cons (key : String) (a : α) (rows : List (String × α)) (name : String) :
    field? ((key, a) :: rows) name = if key = name then some a else field? rows name := by
  by_cases h : key = name <;> simp [field?, h]

/-- Looking a field up in two lists, one after the other. `RuleDefinition.toJson` writes its
members in such pieces. -/
theorem field?_append (rows more : List (String × α)) (name : String) :
    field? (rows ++ more) name = (field? rows name).or (field? more name) := by
  rw [field?, List.find?_append, Option.map_or, field?, field?]

/-- A field is missing when no member has its name. This turns the counts and memberships in
`IsRecord` into statements about `field?`. -/
theorem field?_eq_none_iff {rows : List (String × α)} {name : String} :
    field? rows name = none ↔ name ∉ rows.map Prod.fst := by
  simp only [field?, Option.map_eq_none_iff, List.find?_eq_none, decide_eq_true_eq, List.mem_map,
    not_exists, not_and]

/-- Some member has the name exactly when `field?` finds one. The check in `checkRequired` asks
the first, and records are taken apart with `field?`. -/
theorem any_fst_eq (rows : List (String × α)) (name : String) :
    (rows.any fun row => row.1 = name) = (field? rows name).isSome := by
  rw [field?, Option.isSome_map, Bool.eq_iff_iff, List.find?_isSome, List.any_eq_true]

/-- The check passes when every required field was found. It stops at the first one that is
missing, but only its success matters for what is read. -/
theorem checkRequired_eq_ok_iff {fields : List (RecordField α)} {found : List (String × α)} :
    checkRequired found fields = .ok () ↔
      ∀ f ∈ fields, f.required = true → (field? found f.name).isSome := by
  induction fields with
  | nil => simp [checkRequired]
  | cons f fs ih =>
    rw [checkRequired, any_fst_eq, List.forall_mem_cons, ← ih]
    cases f.required <;> cases field? found f.name <;> simp

section
variable {fields : List (RecordField α)}

/-- A key that is the name of no field finds none. In a closed record `decodeMembers` refuses it
there, otherwise it passes the member over. -/
theorem find?_name_eq_none_iff {key : String} :
    (fields.find? fun f => f.name = key) = none ↔ key ∉ fields.map RecordField.name := by
  simp

/-- A member that is read is passed over, or is the only one of its field and holds what the field
may hold. One step of `decodeMembers`, from which `decodeMembers_sound` and
`decodeMembers_complete` go on by induction. -/
theorem decodeMembers_cons_eq_ok_iff (nodup : (fields.map RecordField.name).Nodup)
    {closed : Bool} {ending : Ending} {seen : List String} {key : String} {draft : Draft}
    {rest : List (String × Draft)} {found : List (String × α)} :
    decodeMembers fields closed ending seen ((key, draft) :: rest) = .ok found ↔
      (key ∉ fields.map RecordField.name ∧ closed = false ∧
        decodeMembers fields closed ending seen rest = .ok found) ∨
      ∃ f ∈ fields, f.name = key ∧ key ∉ seen ∧ ∃ a, f.read draft = .ok a ∧
        ∃ more, decodeMembers fields closed ending (key :: seen) rest = .ok more ∧
          found = (key, a) :: more := by
  rw [decodeMembers]
  cases hfind : fields.find? fun f => f.name = key with
  | none =>
    have hkey := find?_name_eq_none_iff.mp hfind
    have hfield : ∀ f ∈ fields, f.name ≠ key := fun f hf heq =>
      hkey (heq ▸ List.mem_map_of_mem hf)
    cases closed <;> simp_all
  | some f =>
    obtain ⟨hf, hname⟩ := (find?_key_eq_some_iff nodup).mp hfind
    have hkey : key ∈ fields.map RecordField.name := hname ▸ List.mem_map_of_mem hf
    -- The names differ, so no other field has this key.
    have hunique : ∀ g ∈ fields, g.name = key → g = f := fun g hg hgname =>
      List.inj_on_of_nodup_map nodup hg hf (hgname.trans hname.symm)
    by_cases hseen : key ∈ seen
    · simp [hseen, hkey]
    · simp only [hseen, hkey, if_false, bind_eq_ok_iff]
      constructor
      · rintro ⟨a, ha, more, hmore, hfound⟩
        cases hfound
        exact .inr ⟨f, hf, hname, id, a, ha, more, hmore, rfl⟩
      · rintro (⟨h, -⟩ | ⟨g, hg, hgname, -, a, ha, more, hmore, rfl⟩)
        · exact absurd trivial h
        · exact ⟨a, hunique g hg hgname ▸ ha, more, hmore, rfl⟩

/-- What `IsRecord` says of an object, member by member: the key is a field or may be another,
and if it is a field then it does not come again. It has the shape of
`decodeMembers_cons_eq_ok_iff`. -/
theorem isRecord_object_cons {names : List String} {closed : Bool} {key : String} {v : Json}
    {rest : List (String × Json)} :
    IsRecord names closed (.object ((key, v) :: rest)) ↔
      (key ∈ names ∨ closed = false) ∧ (key ∈ names → key ∉ rest.map Prod.fst) ∧
        IsRecord names closed (.object rest) := by
  constructor
  · rintro ⟨hcount, hknown⟩
    refine ⟨?_, fun hkey hmem => ?_, fun name hname => ?_, fun hclosed => ?_⟩
    · cases closed with
      | false => exact .inr rfl
      | true => exact .inl (hknown rfl key List.mem_cons_self)
    -- A field that came again would be counted twice.
    · have htwice := hcount key hkey
      rw [List.map_cons, List.count_cons_self] at htwice
      have honce := List.count_pos_iff.mpr hmem
      omega
    · exact Nat.le_trans List.count_le_count_cons (hcount name hname)
    · exact (List.forall_mem_cons.mp (hknown hclosed)).2
  · rintro ⟨hkey, hlast, hcount, hknown⟩
    refine ⟨fun name hname => ?_, fun hclosed => ?_⟩
    · by_cases heq : key = name
      · subst heq
        have honce : (((key, v) :: rest).map Prod.fst).count key = 1 := by
          rw [List.map_cons, List.count_cons_self, List.count_eq_zero_of_not_mem (hlast hname)]
        exact Nat.le_of_eq honce
      · rw [List.map_cons, List.count_cons_of_ne heq]
        exact hcount name hname
    · exact List.forall_mem_cons.mpr
        ⟨hkey.resolve_right (by simp [hclosed]), hknown hclosed⟩

/-- What reading the members of an object says about them. The induction is on the members, and
the names of those that it has passed are `seen`; hence the second part, that no field in `seen`
comes again. -/
theorem decodeMembers_sound (nodup : (fields.map RecordField.name).Nodup) {closed : Bool}
    {seen : List String} {members : List (String × Json)} {found : List (String × α)}
    (h : decodeMembers fields closed .closed seen (toDraftMembers members) = .ok found) :
    IsRecord (fields.map RecordField.name) closed (.object members) ∧
      (∀ f ∈ fields, f.name ∈ seen → f.name ∉ members.map Prod.fst) ∧
      ∀ f ∈ fields, Option.Rel (fun v a => f.read v.toDraft = .ok a)
        (field? members f.name) (field? found f.name) := by
  induction members generalizing seen found with
  | nil =>
    cases h
    exact ⟨⟨by simp, by simp⟩, by simp, fun f _ => .none⟩
  | cons member rest ih =>
    obtain ⟨key, v⟩ := member
    rw [toDraftMembers, decodeMembers_cons_eq_ok_iff nodup] at h
    rw [isRecord_object_cons]
    obtain ⟨hkey, hopen, hrest⟩ | ⟨g, hg, rfl, hseen, a, ha, more, hmore, rfl⟩ := h
    -- The member is no field, so every field is found in the rest.
    · obtain ⟨hrecord, hfresh, hholds⟩ := ih hrest
      have hne : ∀ f ∈ fields, key ≠ f.name := fun f hf heq =>
        hkey (heq ▸ List.mem_map_of_mem hf)
      refine ⟨⟨.inr hopen, fun h => absurd h hkey, hrecord⟩, fun f hf hseen => ?_, fun f hf => ?_⟩
      · rw [List.map_cons, List.mem_cons, not_or]
        exact ⟨(hne f hf).symm, hfresh f hf hseen⟩
      · rw [field?_cons, if_neg (hne f hf)]
        exact hholds f hf
    -- The member is the field `g`, which the rest does not give again.
    · obtain ⟨hrecord, hfresh, hholds⟩ := ih hmore
      have hlast : g.name ∉ rest.map Prod.fst := hfresh g hg List.mem_cons_self
      refine ⟨⟨.inl (List.mem_map_of_mem hg), fun _ => hlast, hrecord⟩,
        fun f hf hseen' => ?_, fun f hf => ?_⟩
      · rw [List.map_cons, List.mem_cons, not_or]
        exact ⟨fun heq : f.name = g.name => hseen (heq ▸ hseen'),
          hfresh f hf (List.mem_cons_of_mem _ hseen')⟩
      · by_cases heq : g.name = f.name
        · rw [← List.inj_on_of_nodup_map nodup hg hf heq, field?_cons, field?_cons, if_pos rfl,
            if_pos rfl]
          exact .some ha
        · rw [field?_cons, field?_cons, if_neg heq, if_neg heq]
          exact hholds f hf

/-- The members of a record are read if what the fields hold can be. The induction is that of
`decodeMembers_sound`, with its conclusions as hypotheses. -/
theorem decodeMembers_complete (nodup : (fields.map RecordField.name).Nodup) {closed : Bool}
    {seen : List String} {members : List (String × Json)}
    (hrecord : IsRecord (fields.map RecordField.name) closed (.object members))
    (hfresh : ∀ f ∈ fields, f.name ∈ seen → f.name ∉ members.map Prod.fst)
    (hreads : ∀ f ∈ fields, ∀ v ∈ field? members f.name, ∃ a, f.read v.toDraft = .ok a) :
    ∃ found, decodeMembers fields closed .closed seen (toDraftMembers members) = .ok found := by
  induction members generalizing seen with
  | nil => exact ⟨[], rfl⟩
  | cons member rest ih =>
    obtain ⟨key, v⟩ := member
    obtain ⟨hkey, hlast, hrest⟩ := isRecord_object_cons.mp hrecord
    have hfresh' : ∀ f ∈ fields, f.name ∈ seen → f.name ∉ rest.map Prod.fst :=
      fun f hf hseen hmem => hfresh f hf hseen (List.mem_cons_of_mem _ hmem)
    -- The rest does not give the field of this member again, so its fields hold what they held.
    have hreads' : ∀ f ∈ fields, ∀ w ∈ field? rest f.name, ∃ a, f.read w.toDraft = .ok a := by
      intro f hf w hw
      have hne : key ≠ f.name := by
        rintro rfl
        rw [field?_eq_none_iff.mpr (hlast (List.mem_map_of_mem hf))] at hw
        cases hw
      exact hreads f hf w (by rwa [field?_cons, if_neg hne])
    simp only [toDraftMembers, decodeMembers_cons_eq_ok_iff nodup]
    by_cases hfield : key ∈ fields.map RecordField.name
    · obtain ⟨g, hg, rfl⟩ := List.mem_map.mp hfield
      obtain ⟨a, ha⟩ := hreads g hg v (by simp [field?_cons])
      have hseen : g.name ∉ seen := fun h => hfresh g hg h List.mem_cons_self
      have hfresh'' : ∀ f ∈ fields, f.name ∈ g.name :: seen → f.name ∉ rest.map Prod.fst := by
        intro f hf hmem
        obtain heq | hmem := List.mem_cons.mp hmem
        · exact heq ▸ hlast hfield
        · exact hfresh' f hf hmem
      obtain ⟨more, hmore⟩ := ih hrest hfresh'' hreads'
      exact ⟨_, .inr ⟨g, hg, rfl, hseen, a, ha, more, hmore, rfl⟩⟩
    · obtain ⟨found, hfound⟩ := ih hrest hfresh' hreads'
      exact ⟨found, .inl ⟨hfield, hkey.resolve_left hfield, hfound⟩⟩

/-! ### Arrays -/

/-- When the fields are used up there must be no items left. One more is refused: a text is
malformed then, and a finished value has the wrong length. -/
theorem decodeItems_noFields_eq_ok_iff {origin : Origin} {kind : String}
    {count total index : Nat} {drafts : List Draft} {found : List (String × α)} :
    decodeItems origin kind count total .closed index [] drafts = .ok found ↔
      drafts = [] ∧ found = [] := by
  cases origin <;> cases drafts <;> simp [decodeItems, checkNoMore, bind, Except.bind, eq_comm]

/-- When the items are used up the fields that are left must be optional, and they are not among
what was found. -/
theorem decodeItems_noItems_eq_ok_iff {origin : Origin} {kind : String}
    {count total index : Nat} {fs : List (RecordField α)} {found : List (String × α)} :
    decodeItems origin kind count total .closed index fs [] = .ok found ↔
      (∀ f ∈ fs, f.required = false) ∧ found = [] := by
  induction fs generalizing index with
  | nil => simp [decodeItems_noFields_eq_ok_iff]
  | cons f fs ih =>
    rw [decodeItems, List.forall_mem_cons]
    cases f.required <;> simp [ih]

/-- One step of `decodeItems`: the item goes to the field at its place, and what is read is kept
under the name of the field. The keys of what was found are therefore the names in order. -/
theorem decodeItems_cons_eq_ok_iff {origin : Origin} {kind : String} {count total index : Nat}
    {ending : Ending} {f : RecordField α} {fs : List (RecordField α)} {draft : Draft}
    {drafts : List Draft} {found : List (String × α)} :
    decodeItems origin kind count total ending index (f :: fs) (draft :: drafts) = .ok found ↔
      ∃ a, f.read draft = .ok a ∧
        ∃ more, decodeItems origin kind count total ending (index + 1) fs drafts = .ok more ∧
          found = (f.name, a) :: more := by
  rw [decodeItems, bind_eq_ok_iff]
  refine exists_congr fun a => and_congr_right' ?_
  rw [bind_eq_ok_iff]
  refine exists_congr fun more => and_congr_right' ?_
  rw [Except.ok.injEq, eq_comm]

/-- What reading the items of an array says about them. The induction is on the fields, which take
the items one by one until these run out. The place of a field is `List.idxOf`, as in `slot`. -/
theorem decodeItems_sound {origin : Origin} {kind : String} {count total index : Nat}
    {items : List Json} {found : List (String × α)}
    (nodup : (fields.map RecordField.name).Nodup)
    (h : decodeItems origin kind count total .closed index fields (toDraftItems items) =
      .ok found) :
    items.length ≤ fields.length ∧
      ∀ f ∈ fields, f.Holds items[(fields.map RecordField.name).idxOf f.name]?
        (field? found f.name) := by
  induction fields generalizing index items found with
  | nil =>
    have hitems := (decodeItems_noFields_eq_ok_iff.mp h).1
    rw [toDraftItems_eq, List.map_eq_nil_iff] at hitems
    simp [hitems]
  | cons g fs ih =>
    cases items with
    | nil =>
      obtain ⟨hoptional, rfl⟩ := decodeItems_noItems_eq_ok_iff.mp h
      exact ⟨Nat.zero_le _, fun f hf => .missing (hoptional f hf)⟩
    | cons item items =>
      -- The item goes to the first field, and the others are one place further for the rest.
      obtain ⟨a, ha, more, hmore, rfl⟩ := decodeItems_cons_eq_ok_iff.mp h
      obtain ⟨hg, hnodup⟩ := List.nodup_cons.mp nodup
      obtain ⟨hlength, hholds⟩ := ih hnodup hmore
      refine ⟨Nat.succ_le_succ hlength, List.forall_mem_cons.mpr ⟨?_, fun f hf => ?_⟩⟩
      · rw [List.map_cons, List.idxOf_cons_self, field?_cons, if_pos rfl]
        exact .given ha
      · have hne : g.name ≠ f.name := fun heq => hg (heq ▸ List.mem_map_of_mem hf)
        rw [List.map_cons, List.idxOf_cons_ne _ hne, field?_cons, if_neg hne]
        exact hholds f hf

/-- The items of a record are read if what the fields hold can be. It goes by the same induction
as `decodeItems_sound`. -/
theorem decodeItems_complete {origin : Origin} {kind : String} {count total index : Nat}
    {items : List Json} (nodup : (fields.map RecordField.name).Nodup)
    (hlength : items.length ≤ fields.length)
    (hholds : ∀ f ∈ fields, ∃ a,
      f.Holds items[(fields.map RecordField.name).idxOf f.name]? a) :
    ∃ found, decodeItems origin kind count total .closed index fields (toDraftItems items) =
      .ok found := by
  induction fields generalizing index items with
  | nil =>
    obtain rfl : items = [] := List.length_eq_zero_iff.mp (Nat.le_zero.mp hlength)
    exact ⟨[], decodeItems_noFields_eq_ok_iff.mpr ⟨rfl, rfl⟩⟩
  | cons g fs ih =>
    cases items with
    | nil =>
      refine ⟨[], decodeItems_noItems_eq_ok_iff.mpr ⟨fun f hf => ?_, rfl⟩⟩
      obtain ⟨_, ⟨hoptional⟩⟩ := hholds f hf
      exact hoptional
    | cons item items =>
      obtain ⟨hg, hrest⟩ := List.forall_mem_cons.mp hholds
      obtain ⟨hname, hnodup⟩ := List.nodup_cons.mp nodup
      rw [List.map_cons, List.idxOf_cons_self] at hg
      -- There is an item, so the first field holds it and is not missing.
      obtain ⟨_, _ | ha⟩ := hg
      have hholds' : ∀ f ∈ fs, ∃ a, f.Holds items[(fs.map RecordField.name).idxOf f.name]? a := by
        intro f hf
        have hne : g.name ≠ f.name := fun heq => hname (heq ▸ List.mem_map_of_mem hf)
        have hf' := hrest f hf
        rwa [List.map_cons, List.idxOf_cons_ne _ hne] at hf'
      obtain ⟨more, hmore⟩ := ih hnodup (Nat.le_of_succ_le_succ hlength) hholds'
      exact ⟨_, decodeItems_cons_eq_ok_iff.mpr ⟨_, ha, more, hmore, rfl⟩⟩

/-! ### Records -/

/-- Related values are both there or both missing. `decodeRecord_complete` goes by this from a
field that is given to one that is found, which is what `checkRequired` looks at. -/
theorem isSome_eq_of_rel {r : Json → α → Prop} {given : Option Json} {found : Option α}
    (h : Option.Rel r given found) : given.isSome = found.isSome := by
  cases h <;> rfl

/-- For an object, what a field holds comes in two parts: `decodeMembers_sound` relates the member
to what was read, and `checkRequired_eq_ok_iff` says that a required one is there. -/
theorem RecordField.Holds.of_rel {f : RecordField α} {given : Option Json} {found : Option α}
    (h : Option.Rel (fun v a => f.read v.toDraft = .ok a) given found)
    (hrequired : f.required = true → found.isSome) : f.Holds given found := by
  cases h with
  | none => exact .missing (by simpa using hrequired)
  | some ha => exact .given ha

/-- A required field that holds something is given, since `RecordField.Holds.missing` is for
optional ones. -/
theorem RecordField.Holds.isSome {f : RecordField α} {given : Option Json} {found : Option α}
    (h : f.Holds given found) (hrequired : f.required = true) : given.isSome := by
  cases h with
  | missing hoptional => simp [hoptional] at hrequired
  | given _ => rfl

/-- What reading a record says about it. Objects and arrays are told apart here for the last time;
after this only `slot` is looked at. -/
theorem decodeRecord_sound {origin : Origin} {kind : String} {closed : Bool} {v : Json}
    {found : List (String × α)} (nodup : (fields.map RecordField.name).Nodup)
    (h : decodeRecord origin kind fields closed v.toDraft = .ok found) :
    IsRecord (fields.map RecordField.name) closed v ∧
      ∀ f ∈ fields, f.Holds (slot (fields.map RecordField.name) f.name v)
        (field? found f.name) := by
  cases v with
  | object members =>
    obtain ⟨found', hmembers, h⟩ := bind_eq_ok_iff.mp h
    obtain ⟨_, hrequired, h⟩ := bind_eq_ok_iff.mp h
    cases h
    obtain ⟨hrecord, -, hrel⟩ := decodeMembers_sound nodup hmembers
    refine ⟨hrecord, fun f hf => ?_⟩
    exact RecordField.Holds.of_rel (hrel f hf) (checkRequired_eq_ok_iff.mp hrequired f hf)
  | array items =>
    obtain ⟨hlength, hholds⟩ := decodeItems_sound nodup h
    exact ⟨by rwa [IsRecord, List.length_map], hholds⟩
  | null | bool _ | int _ | float _ | string _ => cases h

/-- A record is read if what its fields hold can be. For an object the required fields are checked
after the members were read, so `checkRequired_eq_ok_iff` comes in at the end. -/
theorem decodeRecord_complete {origin : Origin} {kind : String} {closed : Bool} {v : Json}
    (nodup : (fields.map RecordField.name).Nodup)
    (hrecord : IsRecord (fields.map RecordField.name) closed v)
    (hholds : ∀ f ∈ fields, ∃ a, f.Holds (slot (fields.map RecordField.name) f.name v) a) :
    ∃ found, decodeRecord origin kind fields closed v.toDraft = .ok found := by
  cases v with
  | object members =>
    have hreads : ∀ f ∈ fields, ∀ v ∈ field? members f.name, ∃ a, f.read v.toDraft = .ok a := by
      intro f hf v hv
      obtain ⟨a, ha⟩ := hholds f hf
      rw [slot_object, Option.mem_def.mp hv] at ha
      obtain _ | ha := ha
      exact ⟨_, ha⟩
    have hfresh : ∀ f ∈ fields, f.name ∈ ([] : List String) → f.name ∉ members.map Prod.fst := by
      simp
    obtain ⟨found, hfound⟩ := decodeMembers_complete nodup hrecord hfresh hreads
    refine ⟨found, bind_eq_ok_iff.mpr ⟨found, hfound, bind_eq_ok_iff.mpr ⟨(), ?_, rfl⟩⟩⟩
    -- A required field that holds something is among the members, and so it was found.
    rw [checkRequired_eq_ok_iff]
    intro f hf hrequired
    obtain ⟨a, ha⟩ := hholds f hf
    have hrel := (decodeMembers_sound nodup hfound).2.2 f hf
    rw [← isSome_eq_of_rel hrel]
    exact ha.isSome hrequired
  | array items =>
    rw [IsRecord, List.length_map] at hrecord
    exact decodeItems_complete nodup hrecord hholds
  | null | bool _ | int _ | float _ | string _ => exact absurd hrecord (by simp [IsRecord])

/-- A record is read as what it denotes, where `Denotes` says of the fields what they may hold and
what the whole is then. `RuleDefinition.reads`, `TableDefinition.reads` and `ParseOptions.reads`
are all instances. -/
theorem reads_record {origin : Origin} {kind : String} {closed : Bool} {names : List String}
    (hnames : fields.map RecordField.name = names) (nodup : names.Nodup)
    {ofFound : List (String × α) → β} {Denotes : Json → β → Prop}
    (hsound : ∀ v found, IsRecord names closed v →
      (∀ f ∈ fields, f.Holds (slot names f.name v) (field? found f.name)) →
        Denotes v (ofFound found))
    (hcomplete : ∀ v x, Denotes v x →
      IsRecord names closed v ∧ ∀ f ∈ fields, ∃ a, f.Holds (slot names f.name v) a)
    (hunique : ∀ v x y, Denotes v x → Denotes v y → x = y) :
    Reads (fun draft => do
      let found ← decodeRecord origin kind fields closed draft
      .ok (ofFound found)) Denotes := by
  subst hnames
  have hread : ∀ v found, decodeRecord origin kind fields closed v.toDraft = .ok found →
      Denotes v (ofFound found) := fun v found hfound =>
    hsound v found (decodeRecord_sound nodup hfound).1 (decodeRecord_sound nodup hfound).2
  intro v x
  simp only [bind_eq_ok_iff]
  constructor
  · rintro ⟨found, hfound, hx⟩
    cases hx
    exact hread v found hfound
  · intro hdenotes
    obtain ⟨hrecord, hholds⟩ := hcomplete v x hdenotes
    obtain ⟨found, hfound⟩ := decodeRecord_complete nodup hrecord hholds
    exact ⟨found, hfound, congrArg _ (hunique v _ _ (hread v found hfound) hdenotes)⟩

end

/-! ### What fields denote -/

section
variable {Denotes : Json → α → Prop}

/-- A value denotes at most one thing, since a reader gives one answer. The three lemmas after it
carry this over to fields. -/
theorem Reads.unique {read : Draft → Except DecodeError α} (h : Reads read Denotes) {v : Json}
    {x y : α} (hx : Denotes v x) (hy : Denotes v y) : x = y :=
  Except.ok.inj (((h v x).mpr hx).symm.trans ((h v y).mpr hy))

/-- A required field denotes at most one thing: it is given, and `Reads.unique` settles the
rest. -/
theorem Required.unique {read : Draft → Except DecodeError α} (h : Reads read Denotes)
    {given : Option Json} {x y : α} (hx : Required Denotes given x)
    (hy : Required Denotes given y) : x = y := by
  obtain ⟨hx⟩ := hx
  obtain ⟨hy⟩ := hy
  exact h.unique hx hy

/-- An optional field denotes at most one thing. Null could be the absent value or a given one,
and `hnull` rules out the second. -/
theorem Optional.unique {read : Draft → Except DecodeError α} (h : Reads read Denotes)
    (hnull : ∀ x, ¬ Denotes .null x) {given : Option Json} {o p : Option α}
    (ho : Optional Denotes given o) (hp : Optional Denotes given p) : o = p := by
  cases given with
  | none =>
    cases ho
    cases hp
    rfl
  | some v => exact (reads_option h hnull).unique ho hp

/-- A field with a default denotes at most one thing: the default where it is missing, and what is
given otherwise. -/
theorem Defaulted.unique {read : Draft → Except DecodeError α} (h : Reads read Denotes)
    {default : α} {given : Option Json} {x y : α} (hx : Defaulted Denotes default given x)
    (hy : Defaulted Denotes default given y) : x = y := by
  cases hx with
  | missing =>
    cases hy
    rfl
  | given hx =>
    obtain _ | hy := hy
    exact h.unique hx hy

/-- An optional field that is written only when there is something denotes just that.
`RuleDefinition.denotes_toJson` and `TableDefinition.denotes_toJson` use it for all their optional
fields. -/
theorem Optional.of_map {write : α → Json} (h : ∀ x, Denotes (write x) x) (o : Option α) :
    Optional Denotes (o.map write) o := by
  cases o with
  | none => exact .missing
  | some x => exact .given (h x)

end

/-- How the value of a field is taken from what was found: `get` gives what the value in the
field denotes, and something is found whenever the value denotes something. -/
structure RecordField.Fits (f : RecordField α) (get : Option α → β)
    (Denotes : Option Json → β → Prop) : Prop where
  sound : ∀ {given found}, f.Holds given found → Denotes given (get found)
  complete : ∀ {given x}, Denotes given x → ∃ found, f.Holds given found

section
variable {read : Draft → Except DecodeError α} {Denotes : Json → α → Prop}

/-- A required field fits `Required`. The `fallback` only makes `get` total: a record without the
field is refused before `get` is asked. -/
theorem Reads.fits_required (h : Reads read Denotes) (fallback : α) (name : String) :
    RecordField.Fits ⟨name, true, read⟩ (fun found => found.getD fallback)
      (Required Denotes) where
  sound := by
    rintro _ _ (hoptional | hread)
    · cases hoptional
    · exact .given ((h _ _).mp hread)
  complete := by
    rintro _ _ ⟨hdenotes⟩
    exact ⟨_, .given ((h _ _).mpr hdenotes)⟩

/-- An optional field fits `Optional`. What was found is an option in an option, missing or null
or given, and `Option.join` takes the first two together. -/
theorem Reads.fits_optional (h : Reads read Denotes) (hnull : ∀ x, ¬ Denotes .null x)
    (name : String) :
    RecordField.Fits ⟨name, false, decodeOption read⟩ Option.join (Optional Denotes) where
  sound := by
    rintro _ _ (_ | hread)
    · exact .missing
    · exact (reads_option h hnull _ _).mp hread
  complete := by
    intro given o ho
    cases given with
    | none => exact ⟨none, .missing rfl⟩
    | some v => exact ⟨some o, .given ((reads_option h hnull v o).mpr ho)⟩

/-- A field with a default fits `Defaulted`. The reader is not wrapped in `decodeOption`, so null
is refused here, where an optional field would take it. -/
theorem Reads.fits_defaulted (h : Reads read Denotes) (default : α) (name : String) :
    RecordField.Fits ⟨name, false, read⟩ (fun found => found.getD default)
      (Defaulted Denotes default) where
  sound := by
    rintro _ _ (_ | hread)
    · exact .missing
    · exact .given ((h _ _).mp hread)
  complete := by
    rintro _ _ (_ | hdenotes)
    · exact ⟨none, .missing rfl⟩
    · exact ⟨_, .given ((h _ _).mpr hdenotes)⟩

/-- A field whose value is wrapped up for a record with fields of several kinds. `TableDefinition`
wraps its fields in `Part` and `ParseOptions` in `Setting`; `unwrap` takes out what the wrapping
put in. -/
theorem RecordField.Fits.map {γ : Type} {name : String} {required : Bool} {get : Option α → β}
    {DenotesField : Option Json → β → Prop}
    (h : RecordField.Fits ⟨name, required, read⟩ get DenotesField) {wrap : α → γ}
    {unwrap : Option γ → β} (hwrap : ∀ found, unwrap (found.map wrap) = get found) :
    RecordField.Fits ⟨name, required, fun draft => (read draft).map wrap⟩ unwrap
      DenotesField where
  sound := by
    rintro _ _ (hoptional | hread)
    · exact hwrap none ▸ h.sound (.missing hoptional)
    · obtain ⟨a, ha, rfl⟩ := map_eq_ok_iff.mp hread
      exact hwrap (some a) ▸ h.sound (.given ha)
  complete := by
    intro given x hx
    obtain ⟨_, hoptional | ha⟩ := h.complete hx
    · exact ⟨none, .missing hoptional⟩
    · exact ⟨_, .given (map_eq_ok_iff.mpr ⟨_, ha, rfl⟩)⟩

end

/-! ### The order of the members -/

/-- Where a name comes at most once, looking it up is membership. Membership does not mind the
order, which gives `IsRecord.slot_perm`. -/
theorem field?_eq_some_iff {rows : List (String × α)} {name : String}
    (hcount : (rows.map Prod.fst).count name ≤ 1) {a : α} :
    field? rows name = some a ↔ (name, a) ∈ rows := by
  induction rows with
  | nil => simp [field?]
  | cons row rest ih =>
    obtain ⟨other, b⟩ := row
    rw [List.map_cons] at hcount
    by_cases heq : other = name
    · subst heq
      rw [List.count_cons_self] at hcount
      have hlast : other ∉ rest.map Prod.fst := List.count_eq_zero.mp (by omega)
      have habsent : (other, a) ∉ rest := fun h => hlast (List.mem_map_of_mem h)
      simp [field?_cons, habsent, eq_comm]
    · rw [List.count_cons_of_ne heq] at hcount
      rw [field?_cons, if_neg heq, ih hcount]
      simp [Ne.symm heq]

namespace IsRecord

variable {names : List String} {closed : Bool} {members members' : List (String × Json)}

/-- An object in another order is a record still, as `IsRecord` speaks of counts and memberships
of keys. -/
theorem perm (h : IsRecord names closed (.object members)) (hperm : members.Perm members') :
    IsRecord names closed (.object members') := by
  have hkeys := hperm.map Prod.fst
  refine ⟨fun name hname => ?_, fun hclosed key hkey => ?_⟩
  · rw [← hkeys.count_eq]
    exact h.1 name hname
  · exact h.2 hclosed key (hkeys.mem_iff.mpr hkey)

/-- An object in another order has the same value in every field. For a key that is no field this
can fail, since it may come twice in an open record. -/
theorem slot_perm (h : IsRecord names closed (.object members))
    (hperm : members.Perm members') {name : String} (hname : name ∈ names) :
    slot names name (.object members') = slot names name (.object members) := by
  apply Option.ext
  intro v
  rw [slot_object, slot_object, field?_eq_some_iff (h.1 name hname),
    field?_eq_some_iff ((h.perm hperm).1 name hname), hperm.mem_iff]

/-- An object whose keys are some of the names, in order, is a record. What is written has this
form, since it only leaves members out. -/
theorem of_sublist (hkeys : (members.map Prod.fst).Sublist names) (nodup : names.Nodup) :
    IsRecord names closed (.object members) :=
  ⟨fun name _ => List.nodup_iff_count_le_one.mp (hkeys.nodup nodup) name,
    fun _ _ hkey => hkeys.subset hkey⟩

end IsRecord

end LineMachine.Json
