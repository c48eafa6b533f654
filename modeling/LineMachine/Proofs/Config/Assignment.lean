import LineMachine.Config.Loader

/-!
# `LineMachine.Proofs.Config.Assignment`: a document as a list of assignments

A table that is laid over a value changes it key by key. That is the same as assigning the values
in the table one by one, each at its own path, and the effect of one assignment on one place is
easy to tell.

* `Value.assignments` and `Layer.assignments` are the assignments that a value and a file stand
  for, and `Layer.lay_eq` says that to lay the file is to make them.
* `Value.at?` is what stands at a place. `at?_onto_of_reaches` and `at?_onto_of_apart` are the two
  things that an assignment can do to it, and `at?_onto_empty` covers an empty table in the place
  of a group of settings.
* `foldl_last` is the induction over assignments: the last one that sets a place decides.
-/

set_option autoImplicit false

namespace LineMachine

namespace Config

/-! ### Entries -/

namespace Value

variable {key other : String} {v w : Value} {es : List (String × Value)}

/-- A value that is put under a key is found there, in the place of an old one or as a new entry.
`Value.put` is the only way in which assignments change entries. -/
@[simp] theorem lookup_put_self (key : String) (v : Value) (es : List (String × Value)) :
    (put key v es).lookup key = some v := by
  induction es with
  | nil => simp [put]
  | cons e rest ih =>
    obtain ⟨k, old⟩ := e
    by_cases hk : k = key
    · simp [put, hk]
    · have hkey : (key == k) = false := beq_eq_false_iff_ne.mpr (Ne.symm hk)
      simp [put, hk, List.lookup_cons, hkey, ih]

/-- Under another key, what is found stays the same. With `lookup_put_self` all that proofs need
to know of `Value.put`. -/
theorem lookup_put_ne (h : other ≠ key) (v : Value) (es : List (String × Value)) :
    (put key v es).lookup other = es.lookup other := by
  induction es with
  | nil => simp [put, List.lookup_cons, beq_eq_false_iff_ne.mpr h]
  | cons e rest ih =>
    obtain ⟨k, old⟩ := e
    by_cases hk : k = key
    · subst hk
      simp [put, List.lookup_cons, beq_eq_false_iff_ne.mpr h]
    · simp [put, hk, List.lookup_cons, ih]

/-- Only the last value of a key is kept. `allOnto_under_key` puts under one key again and again,
and this collapses the steps. -/
@[simp] theorem put_put (key : String) (v w : Value) (es : List (String × Value)) :
    put key v (put key w es) = put key v es := by
  induction es with
  | nil => simp [put]
  | cons e rest ih =>
    obtain ⟨k, old⟩ := e
    by_cases hk : k = key
    · simp [put, hk]
    · simp [put, hk, ih]

end Value

/-! ### Assignments -/

/-- A value for a place. -/
structure Assignment where
  path : List Part
  value : Value

namespace Assignment

/-- The assignment below a place. -/
def under (a : Assignment) (parts : List Part) : Assignment := ⟨parts ++ a.path, a.value⟩

/-- What is there after the assignment. -/
def onto (a : Assignment) (below : Option Value) : Value := Path.assignParts a.value a.path below

/-- What is there after some assignments. -/
def allOnto (assignments : List Assignment) (below : Option Value) : Option Value :=
  assignments.foldl (fun below a => some (a.onto below)) below

/-- The first of some assignments is made on what is there, and the others on its result. The
result is always a value, hence the `some`. -/
theorem allOnto_cons (a : Assignment) (rest : List Assignment) (below : Option Value) :
    allOnto (a :: rest) below = allOnto rest (some (a.onto below)) := rfl

/-- Assignments in two lists are made one list after the other. `allOnto_entryAssignments` takes
the first entry of a table off this way. -/
theorem allOnto_append (front rest : List Assignment) (below : Option Value) :
    allOnto (front ++ rest) below = allOnto rest (allOnto front below) :=
  List.foldl_append

/-- On a value that is there the result is there, and `allOnto` is a plain fold. `Value.assignAll`
is that fold, and files are laid over a value that is there. -/
theorem allOnto_some (assignments : List Assignment) (root : Value) :
    allOnto assignments (some root) =
      some (assignments.foldl (fun root a => a.onto (some root)) root) := by
  induction assignments generalizing root with
  | nil => rfl
  | cons a rest ih => exact ih (a.onto (some root))

/-- The entries of what is there, if anything is. -/
def entriesOf (below : Option Value) : List (String × Value) := (below.map Value.entries).getD []

/-- An assignment below a key changes the value of the key and keeps the other entries. What is no
table has no entries and is replaced by one. -/
theorem onto_under_key (a : Assignment) (name : String) (below : Option Value) :
    (a.under [.key name]).onto below =
      .table (Value.put (lowered name) (a.onto ((entriesOf below).lookup (lowered name)))
        (entriesOf below)) := rfl

/-- The same for a path whose first step is a key, without `under`. The lemmas about `Value.at?`
go down a path step by step with it. -/
theorem onto_key_cons (key : String) (parts : List Part) (v : Value) (below : Option Value) :
    onto ⟨.key key :: parts, v⟩ below =
      .table (Value.put (lowered key) (onto ⟨parts, v⟩ ((entriesOf below).lookup (lowered key)))
        (entriesOf below)) := onto_under_key ⟨parts, v⟩ key below

/-- Assignments below a key change the value of the key. The induction is on the assignments: each
one finds the value that the one before it has left there. -/
theorem allOnto_under_key {assignments : List Assignment} (hne : assignments ≠ [])
    {name : String} {below : Option Value} {v : Value}
    (h : allOnto assignments ((entriesOf below).lookup (lowered name)) = some v) :
    allOnto (assignments.map fun a => a.under [.key name]) below =
      some (.table (Value.put (lowered name) v (entriesOf below))) := by
  induction assignments generalizing below with
  | nil => exact absurd rfl hne
  | cons a rest ih =>
    rw [List.map_cons, allOnto_cons, onto_under_key]
    rw [allOnto_cons] at h
    cases rest with
    | nil =>
      cases h
      rfl
    | cons b more =>
      have hlookup : (entriesOf (some (.table (Value.put (lowered name)
          (a.onto ((entriesOf below).lookup (lowered name))) (entriesOf below))))).lookup
            (lowered name) = some (a.onto ((entriesOf below).lookup (lowered name))) :=
        Value.lookup_put_self _ _ _
      rw [ih (by simp) (hlookup.symm ▸ h)]
      exact congrArg (fun es => some (Value.table es)) (Value.put_put _ _ _ _)

end Assignment

namespace Value

open Assignment (allOnto allOnto_append allOnto_under_key entriesOf)

mutual

/-- The assignments that a value stands for: one for each value in it that is no table, and one
for each table without entries. -/
def assignments : Value → List Assignment
  | .table es => if es.isEmpty then [⟨[], empty⟩] else entryAssignments es
  | v => [⟨[], v⟩]

/-- The assignments that entries stand for. -/
def entryAssignments : List (String × Value) → List Assignment
  | [] => []
  | (key, v) :: rest =>
    (assignments v).map (fun a => a.under [.key key]) ++ entryAssignments rest

end

mutual

/-- A value stands for at least one assignment, an empty table too. `allOnto_under_key` asks for
this, since no assignment at all would leave a missing value missing. -/
theorem assignments_ne_nil (v : Value) : v.assignments ≠ [] := by
  cases v with
  | table es =>
    rw [assignments]
    split
    · simp
    · rename_i hes
      exact entryAssignments_ne_nil es (by simpa using hes)
  | _ => simp [assignments]

/-- Entries stand for at least one assignment: the value of the first one does, by
`assignments_ne_nil`. The two are proved together, along the recursion of `Value.assignments`. -/
theorem entryAssignments_ne_nil (es : List (String × Value)) (h : es ≠ []) :
    entryAssignments es ≠ [] := by
  cases es with
  | nil => exact absurd rfl h
  | cons e rest =>
    obtain ⟨key, v⟩ := e
    have hv := assignments_ne_nil v
    simp [entryAssignments, hv]

end

mutual

/-- To lay a value over what is there is to make its assignments. `Value.overlay` goes into tables
on both sides at once, while each assignment walks one path from the top. -/
theorem allOnto_assignments (v : Value) (below : Option Value) :
    allOnto v.assignments below = some (v.overlay below) := by
  cases v with
  | table es =>
    rw [assignments, overlay]
    cases es with
    | nil => rfl
    | cons e rest => exact allOnto_entryAssignments (e :: rest) (by simp) below
  | _ => rfl

/-- The same for the entries of a table that has some. Each entry is laid over its own key by
`allOnto_under_key`, and the rest over the result. -/
theorem allOnto_entryAssignments (es : List (String × Value)) (h : es ≠ [])
    (below : Option Value) :
    allOnto (entryAssignments es) below = some (overlayEntries (below.getD empty) es) := by
  cases es with
  | nil => exact absurd rfl h
  | cons e rest =>
    obtain ⟨key, v⟩ := e
    have hentries : entriesOf below = (below.getD empty).entries := by cases below <;> rfl
    rw [entryAssignments, allOnto_append, overlayEntries,
      allOnto_under_key v.assignments_ne_nil (allOnto_assignments v _), hentries]
    cases rest with
    | nil => rfl
    | cons next more => exact allOnto_entryAssignments (next :: more) (by simp) _

end

end Value

/-! ### Places -/

/-- What stands at a place that keys lead to. -/
def Value.at? : List String → Value → Option Value
  | [], v => some v
  | name :: names, v => (v.entries.lookup name).bind (at? names)

/-- The key that a step leads to, in lower case. -/
def Part.name? : Part → Option String
  | .key name => some (lowered name)
  | .index _ => none

/-- The steps lead to the place with these keys. -/
def Reaches (parts : List Part) (names : List String) : Prop :=
  parts.map Part.name? = names.map some

instance (parts : List Part) (names : List String) : Decidable (Reaches parts names) :=
  inferInstanceAs (Decidable (_ = _))

/-- The steps and the keys part at some key. -/
def apart : List Part → List String → Bool
  | .key part :: parts, name :: names => lowered part ≠ name || apart parts names
  | _, _ => false

/-- Steps lead to a place when the first one is its first key, in lower case, and the others lead
on from there. A position in a list leads to no place of a setting. -/
theorem reaches_cons {part : Part} {parts : List Part} {name : String} {names : List String} :
    Reaches (part :: parts) (name :: names) ↔
      ∃ key, part = .key key ∧ lowered key = name ∧ Reaches parts names := by
  cases part with
  | key key => simp [Reaches, Part.name?]
  | index i => simp [Reaches, Part.name?]

/-- Steps that part from a place do not lead there. The converse fails: steps can also end above a
place, or go on below it. -/
theorem not_reaches_of_apart {parts : List Part} {names : List String}
    (h : apart parts names = true) : ¬ Reaches parts names := by
  induction parts generalizing names with
  | nil => cases h
  | cons part rest ih =>
    cases names with
    | nil => cases part <;> cases h
    | cons name more =>
      intro hreaches
      obtain ⟨key, rfl, rfl, hrest⟩ := reaches_cons.mp hreaches
      rw [apart, Bool.or_eq_true] at h
      rcases h with hne | hapart
      · simp at hne
      · exact ih hapart hrest

/-- Two places that are equally deep part, or they are the same. All settings lie two keys deep,
so an assignment to one of them parts from the others. -/
theorem apart_of_reaches {parts : List Part} {names others : List String}
    (h : Reaches parts names) (hlength : names.length = others.length) (hne : names ≠ others) :
    apart parts others = true := by
  induction parts generalizing names others with
  | nil =>
    obtain rfl : names = [] := by simpa [Reaches] using h.symm
    exact absurd (List.length_eq_zero_iff.mp hlength.symm).symm hne
  | cons part rest ih =>
    cases names with
    | nil => simp [Reaches] at h
    | cons name more =>
      obtain ⟨key, rfl, rfl, hrest⟩ := reaches_cons.mp h
      cases others with
      | nil => simp at hlength
      | cons other further =>
        rw [apart, Bool.or_eq_true, decide_eq_true_eq]
        -- The first keys differ, or the places differ further down.
        by_cases hkey : lowered key = other
        · subst hkey
          exact .inr (ih hrest (by simpa using hlength) (by simpa using hne))
        · exact .inl hkey

namespace Assignment

/-- Whether the value replaces whatever is there. A table does not. -/
def isPlain (a : Assignment) : Bool :=
  match a.value with
  | .table _ => false
  | _ => true

/-- A value that is no table replaces whatever is there. A table is laid over it, and would keep
the entries that it lacks. -/
theorem overlay_of_isPlain {a : Assignment} (h : a.isPlain = true) (below : Option Value) :
    a.value.overlay below = a.value := by
  unfold isPlain at h
  split at h
  · cases h
  · rename_i v hv
    cases hvalue : a.value with
    | table es => exact absurd hvalue (hv es)
    | _ => rfl

/-- What is assigned to a place stands there, if it is plain. The induction is on the keys, and
each step puts the value below under its key. -/
theorem at?_onto_of_reaches {a : Assignment} {names : List String} (h : Reaches a.path names)
    (hplain : a.isPlain = true) (below : Option Value) :
    (a.onto below).at? names = some a.value := by
  obtain ⟨parts, v⟩ := a
  induction parts generalizing names below with
  | nil =>
    obtain rfl : names = [] := by simpa [Reaches] using h.symm
    exact congrArg some (overlay_of_isPlain hplain below)
  | cons part rest ih =>
    cases names with
    | nil => simp [Reaches] at h
    | cons name more =>
      obtain ⟨key, rfl, rfl, hrest⟩ := reaches_cons.mp h
      rw [onto_key_cons, Value.at?, Value.entries, Value.lookup_put_self]
      exact ih _ hrest hplain

/-- An assignment to another place changes nothing at this one. The paths go together for some
keys, where `lookup_put_self` applies, and part at a key, where `lookup_put_ne` does. -/
theorem at?_onto_of_apart {a : Assignment} {names : List String}
    (h : apart a.path names = true) (below : Option Value) :
    (a.onto below).at? names = below.bind (Value.at? names) := by
  obtain ⟨parts, v⟩ := a
  induction parts generalizing names below with
  | nil => cases h
  | cons part rest ih =>
    cases names with
    | nil => cases part <;> cases h
    | cons name more =>
      cases part with
      | index i => cases h
      | key key =>
        have hbelow : below.bind (Value.at? (name :: more)) =
            ((entriesOf below).lookup name).bind (Value.at? more) := by
          cases below <;> rfl
        rw [onto_key_cons, hbelow, Value.at?, Value.entries]
        -- As long as the keys agree the paths go on together.
        by_cases hkey : lowered key = name
        · subst hkey
          rw [Value.lookup_put_self]
          exact ih _ (by simpa [apart] using h)
        · rw [Value.lookup_put_ne (Ne.symm hkey)]

/-- An empty table, assigned to a group of settings, changes no setting. A file can have such a
group, and `Assignment.Fits` allows it. -/
theorem at?_onto_empty {parts : List Part} {group : String} (h : Reaches parts [group])
    (name other : String) (root : Value) :
    (onto ⟨parts, .empty⟩ (some root)).at? [other, name] = root.at? [other, name] := by
  obtain ⟨part, rfl⟩ : ∃ part, parts = [part] :=
    List.length_eq_one_iff.mp (by simpa using congrArg List.length h)
  obtain ⟨key, rfl, rfl, -⟩ := reaches_cons.mp h
  rw [onto_key_cons, Value.at?, Value.at?, Value.entries]
  by_cases hkey : other = lowered key
  · subst hkey
    rw [Value.lookup_put_self, show entriesOf (some root) = root.entries from rfl]
    -- What is there stays, and an empty table comes where nothing is.
    cases root.entries.lookup (lowered key) <;> rfl
  · rw [Value.lookup_put_ne hkey]
    rfl

end Assignment

/-- A value after some assignments. -/
def Value.assignAll (root : Value) (assignments : List Assignment) : Value :=
  assignments.foldl (fun root a => a.onto (some root)) root

/-! ### Files -/

/-- The step is a key. -/
def Part.isKey : Part → Bool
  | .key _ => true
  | .index _ => false

/-- The steps of a path. -/
def Path.parts (p : Path) : List Part := .key p.first :: p.rest

/-- The assignments of a value at a place, if only keys lead there. The induction is on the keys,
with `allOnto_assignments` at the end of the path. -/
theorem Assignment.allOnto_under {parts : List Part} (h : parts.all Part.isKey = true) (v : Value)
    (below : Option Value) :
    allOnto (v.assignments.map fun a => a.under parts) below =
      some (Path.assignParts v parts below) := by
  induction parts generalizing below with
  | nil =>
    rw [show (fun a : Assignment => a.under []) = id from rfl, List.map_id]
    exact v.allOnto_assignments below
  | cons part rest ih =>
    rw [List.all_cons, Bool.and_eq_true] at h
    cases part with
    | index i => cases h.1
    | key name =>
      have hunder : v.assignments.map (fun a => a.under (.key name :: rest)) =
          (v.assignments.map fun a => a.under rest).map fun a => a.under [.key name] := by
        rw [List.map_map]
        rfl
      rw [hunder, allOnto_under_key (by simpa using v.assignments_ne_nil) (ih h.2 _)]
      rfl

/-- The place of an entry of a file. The key is read as a path, if it is one. -/
def entryParts (key : String) : List Part := ((Path.parse? key).getD ⟨key, []⟩).parts

/-- The assignments of an entry of a file. What comes to a position of a list is not laid over the
item there, so it is kept as a whole. -/
def fileAssignments (key : String) (v : Value) : List Assignment :=
  if (entryParts key).all Part.isKey then v.assignments.map fun a => a.under (entryParts key)
  else [⟨entryParts key, v⟩]

/-- To lay an entry of a file over a value is to make its assignments. Where a position leads into
a list, the entry is a single assignment and nothing has to be taken apart. -/
theorem assignAll_fileAssignments (key : String) (v root : Value) :
    root.assignAll (fileAssignments key v) = Layer.layEntry root key v := by
  unfold fileAssignments
  split
  · rename_i hkeys
    have hunder := Assignment.allOnto_under hkeys v (some root)
    rw [Assignment.allOnto_some] at hunder
    exact Option.some.inj hunder
  · rfl

end Config

open Config (Value)

/-- The assignments of a file. One that cannot be read has none. -/
def Layer.assignments (l : Layer) : List Config.Assignment :=
  match l.entries with
  | .ok found => found.flatMap fun e => Config.fileAssignments e.1 e.2
  | .error _ => []

/-- To lay a file over a value is to make its assignments, those of its entries in order.
`Loader.exists_value` follows these through all files. -/
theorem Layer.lay_eq {l : Layer} {found : List (String × Value)} (h : l.entries = .ok found)
    (root : Value) : l.lay root = .ok (root.assignAll l.assignments) := by
  have hfold : found.foldl (fun root e => layEntry root e.1 e.2) root =
      root.assignAll (found.flatMap fun e => Config.fileAssignments e.1 e.2) := by
    rw [Value.assignAll, List.foldl_flatMap]
    simp only [← Config.assignAll_fileAssignments]
    rfl
  rw [lay, assignments, h, ← hfold]
  rfl

/-- The last one that sets a part of the state decides about it. `h` says it for one step, and the
induction is on the list; it serves the assignments of a file and the calls of an owner alike. -/
theorem foldl_last {σ α β : Type} {step : σ → α → σ} (read : σ → β) {sets : α → Option β}
    {l : List α} (h : ∀ a ∈ l, ∀ s, read (step s a) = (sets a).getD (read s)) (s : σ) :
    read (l.foldl step s) = (l.filterMap sets).getLast?.getD (read s) := by
  induction l generalizing s with
  | nil => rfl
  | cons a rest ih =>
    obtain ⟨ha, hrest⟩ := List.forall_mem_cons.mp h
    rw [List.foldl_cons, ih hrest, ha, List.filterMap_cons]
    cases sets a with
    | none => rfl
    | some b =>
      rw [Option.getD_some, List.getLast?_cons]
      cases (rest.filterMap sets).getLast? <;> rfl

end LineMachine
