import LineMachine.Proofs.TableBuilder.Graph
import Std.Data.HashMap.Lemmas

/-!
# `LineMachine.Proofs.TableBuilder.Draft`: building with an index

`TableBuilder.build` says which table a declaration stands for. A program that
makes this table keeps the states in a vector and their numbers in a map from
names. It looks names up in the map and writes transitions into the vector, and
each such access can fail. This module writes that program out, with `none` for
an access that finds nothing:

* `TableDraft` is a table in the making. `TableDraft.find?` reads the map and
  `TableDraft.append?` writes into the vector.
* `TableBuilder.buildDraft?` is the whole program: it names the sources, then
  the destinations, finds the beginning, binds the rules and reports.

The invariant is `TableDraft.Holds bound names`: the vector has the states of
these names, with the transitions bound so far, and the map gives every name its
place in the vector and knows no other one. Each phase has one lemma that
carries the invariant on. `TableBuilder.buildDraft?_eq_build` puts the phases
together: no access fails, and the program gives what `build` gives, reports
included.
-/

set_option autoImplicit false

namespace LineMachine

variable {δ : Type}

/-- A table in the making: the states so far, and the number of each name. -/
structure TableDraft (δ : Type) where
  states : List (State δ)
  index : Std.HashMap String StateId

namespace TableDraft

/-- No state is named yet. -/
def empty : TableDraft δ := ⟨[], ∅⟩

/-- The number of a name. The name must be in the map. -/
def find? (d : TableDraft δ) (name : String) : Option StateId := d.index[name]?

/-- A new state, with the next number. -/
def name (d : TableDraft δ) (name : String) : TableDraft δ where
  states := d.states ++ [⟨⟨d.states.length⟩, name, []⟩]
  index := d.index.insert name ⟨d.states.length⟩

/-- One more transition of a state. The state must be in the vector. -/
def append? (d : TableDraft δ) (id : StateId) (tr : Transition δ) : Option (TableDraft δ) := do
  let s ← d.states[id.index]?
  some { d with states := d.states.set id.index { s with transitions := s.transitions ++ [tr] } }

/-- Names the source states, each once. -/
def nameSources : List String → TableDraft δ → TableDraft δ
  | [], d => d
  | source :: rest, d => nameSources rest (if d.index.contains source then d else d.name source)

/-- Names the destinations that have no rules, or refuses the first one. -/
def nameDestinations (validation : Validation) :
    List Rule → TableDraft δ → Except BuildError (TableDraft δ × List Report)
  | [], d => .ok (d, [])
  | rule :: rest, d =>
    match rule.destination with
    | none => nameDestinations validation rest d
    | some destination =>
      if d.index.contains destination then nameDestinations validation rest d
      else
        match validation with
        | .strict => .error (.danglingDestination rule.state destination)
        | .lenient => do
          let (d, reports) ← nameDestinations validation rest (d.name destination)
          .ok (d, .placeholder rule.state destination :: reports)

/-- Whether a state has rules. All their source states must be in the map. -/
def isSource? (d : TableDraft δ) (id : StateId) : List Rule → Option Bool
  | [] => some false
  | rule :: rest => do
    let source ← d.find? rule.state
    if source = id then some true else d.isSource? id rest

/-- The number of the state where a parse begins. -/
def initial? (d : TableDraft δ) (b : TableBuilder δ) : Option (Except BuildError StateId) :=
  match b.initial with
  | some name =>
    match d.index[name]? with
    | none => some (.error (.unknownInitial name))
    | some id => do
      if ← d.isSource? id b.rules then some (.ok id)
      else some (.error (.unknownInitial name))
  | none => do
    let first ← b.rules[0]?
    let id ← d.find? first.state
    some (.ok id)

/-- The number of the state that a rule leads to. -/
def destination? (d : TableDraft δ) (rule : Rule) (source : StateId) : Option StateId :=
  match rule.destination with
  | some name => d.find? name
  | none => some source

/-- Writes the transitions of the rules into the vector. -/
def bind? (b : TableBuilder δ) :
    List Rule → TableDraft δ → Option (Except BuildError (TableDraft δ))
  | [], d => some (.ok d)
  | rule :: rest, d => do
    let source ← d.find? rule.state
    let destination ← d.destination? rule source
    match b.bindAction rule with
    | .error e => some (.error e)
    | .ok action => do
      let d ← d.append? source ⟨rule.pattern, action, destination⟩
      bind? b rest d

end TableDraft

namespace TableBuilder

/-- The report about a transition that can never be taken. It must be in its
state, and the state in the table. -/
def shadowReport? (t : Table δ) (sh : Shadowed) : Option Report := do
  let s ← t.get? sh.state
  let tr ← s.transitions[sh.index]?
  some (.shadowed s.name sh.index tr.pattern sh.catchAll)

/-- The reports about a complete table, which must have its first state. -/
def tableReports? (t : Table δ) : Option (List Report) := do
  let shadowed ← t.shadowed.mapM (shadowReport? t)
  let first ← t.get? t.initial
  some (shadowed ++ [.built t.states.length t.transitionCount first.name])

/-- Makes the table once all states have their numbers, with the reports about
it behind those so far. -/
def completeDraft? (b : TableBuilder δ) (d : TableDraft δ) (log : List Report) :
    Option (Except BuildError (Table δ) × List Report) := do
  match ← d.initial? b with
  | .error e => some (.error e, log)
  | .ok initial => do
    match ← TableDraft.bind? b b.rules d with
    | .error e => some (.error e, log)
    | .ok d => do
      let reports ← tableReports? ⟨d.states, initial⟩
      some (.ok ⟨d.states, initial⟩, log ++ reports)

/-- Makes the table in a vector and a map, with the reports about it. -/
def buildDraft? (b : TableBuilder δ) : Option (Except BuildError (Table δ) × List Report) :=
  match b.rules with
  | [] => some (.error .empty, [])
  | _ :: _ =>
    match firstRepeated? [] (b.actions.map Prod.fst) with
    | some name => some (.error (.duplicateAction name), [])
    | none =>
      let sources := TableDraft.nameSources (b.rules.map Rule.state) TableDraft.empty
      match TableDraft.nameDestinations b.validation b.rules sources with
      | .error e => some (.error e, [])
      | .ok (d, log) => b.completeDraft? d log

end TableBuilder

namespace TableDraft

open TableBuilder (idOf makeStates distinct placeholderRules)

/-! ### The invariant -/

/-- The vector and the map are those of a list of names: the states have these
names, with the transitions that are bound so far, and the map gives every name
its place. -/
structure Holds (d : TableDraft δ) (bound : List (String × Transition δ)) (names : List String) :
    Prop where
  states : d.states = makeStates bound 0 names
  index : ∀ name, d.index[name]? = if name ∈ names then some (idOf names name) else none
  nodup : names.Nodup

variable {d : TableDraft δ} {bound : List (String × Transition δ)} {names : List String}

/-- Making the states of two lists of names, one after the other, where the numbers go on.
`Holds.name` adds a single name at the end. -/
theorem makeStates_append (bound : List (String × Transition δ)) (next : Nat)
    (names more : List String) :
    makeStates bound next (names ++ more) =
      makeStates bound next names ++ makeStates bound (next + names.length) more := by
  induction names generalizing next with
  | nil => rfl
  | cons name rest ih =>
    have hnext : next + 1 + rest.length = next + (rest.length + 1) := by omega
    rw [List.cons_append, makeStates, makeStates, ih, hnext, List.cons_append, List.length_cons]

/-- There are as many states as names. The length of the vector is the next number that
`TableDraft.name` gives out. -/
theorem length_makeStates (bound : List (String × Transition δ)) (next : Nat)
    (names : List String) : (makeStates bound next names).length = names.length := by
  induction names generalizing next with
  | nil => rfl
  | cons name rest ih => rw [makeStates, List.length_cons, List.length_cons, ih]

/-- Looking up a name that was named finds its number. Every `find?` of the program is of this
kind, hence none of them fails. -/
theorem Holds.find?_of_mem (h : d.Holds bound names) {name : String} (hname : name ∈ names) :
    d.find? name = some (idOf names name) := by
  rw [find?, h.index, if_pos hname]

/-- The map contains the names that were named and no other one. The program skips a name by this
test, and `distinct` by membership among the seen ones. -/
theorem Holds.contains_iff (h : d.Holds bound names) (name : String) :
    d.index.contains name = true ↔ name ∈ names := by
  rw [Std.HashMap.contains_eq_isSome_getElem?, h.index]
  by_cases hname : name ∈ names
  · simp [hname]
  · simp [hname]

/-- The invariant holds at the beginning: nothing is named and nothing bound. `Holds.nameSources`
goes on from here. -/
theorem holds_empty : (empty : TableDraft δ).Holds [] [] :=
  ⟨rfl, fun name => by simp [empty], List.nodup_nil⟩

/-- A new name gets the next number, and no number changes, because `List.idxOf` of an earlier
name does not see what is added behind. -/
theorem Holds.name (h : d.Holds [] names) {new : String} (hnew : new ∉ names) :
    (d.name new).Holds [] (names ++ [new]) := by
  have hlength : d.states.length = names.length := by
    rw [h.states, length_makeStates]
  refine ⟨?_, ?_, ?_⟩
  · rw [makeStates_append, TableDraft.name, hlength, h.states, Nat.zero_add]
    rfl
  · intro name
    rw [TableDraft.name, hlength, Std.HashMap.getElem?_insert, h.index]
    -- The new name is found behind the others, and the others where they were.
    by_cases hsame : new = name
    · subst hsame
      have hplace : (names ++ [new]).idxOf new = names.length := by
        rw [List.idxOf_append_of_notMem hnew, List.idxOf_cons_self, Nat.add_zero]
      simp [idOf, hplace]
    · by_cases hname : name ∈ names
      · have hplace : (names ++ [new]).idxOf name = names.idxOf name :=
          List.idxOf_append_of_mem hname
        simp [idOf, hsame, hname, hplace]
      · simp [hsame, hname, Ne.symm hsame]
  · rw [List.nodup_append]
    refine ⟨h.nodup, by simp, ?_⟩
    intro name hname other hother hsame
    have hnewest : other = new := List.mem_singleton.mp hother
    exact hnew (hnewest ▸ hsame ▸ hname)

/-! ### Naming the states -/

/-- The sources get numbers in the order in which they first occur. The induction is on the
sources that are still to come, and `seen` may list the names in any order. -/
theorem Holds.nameSources (sources : List String) (seen : List String) (h : d.Holds [] names)
    (hseen : ∀ name, name ∈ seen ↔ name ∈ names) :
    (nameSources sources d).Holds [] (names ++ distinct seen sources) := by
  induction sources generalizing d names seen with
  | nil => simpa [TableDraft.nameSources, distinct] using h
  | cons source rest ih =>
    rw [TableDraft.nameSources, distinct]
    by_cases hsource : source ∈ names
    · rw [if_pos ((h.contains_iff source).mpr hsource), if_pos ((hseen source).mpr hsource)]
      exact ih seen h hseen
    · have hmore : ∀ name, name ∈ source :: seen ↔ name ∈ names ++ [source] := by
        intro name
        rw [List.mem_cons, List.mem_append, List.mem_singleton, hseen, or_comm]
      rw [if_neg (fun hin => hsource ((h.contains_iff source).mp hin)),
        if_neg (fun hin => hsource ((hseen source).mp hin)), List.append_cons]
      exact ih (source :: seen) (h.name hsource) hmore

/-- The rules that lead to none of these sources, with their destinations. -/
def danglingFrom (sources : List String) (rules : List Rule) : List (String × String) :=
  rules.filterMap fun rule =>
    rule.destination.bind fun destination =>
      if destination ∈ sources then none else some (rule.state, destination)

/-- A rule that stays in its state leads to no open destination, so the program passes it over and
so does `danglingFrom`. -/
theorem danglingFrom_cons_of_none {sources : List String} {rule : Rule} (rest : List Rule)
    (h : rule.destination = none) :
    danglingFrom sources (rule :: rest) = danglingFrom sources rest := by
  simp [danglingFrom, h]

/-- A rule that leads to one of the sources is not among those that dangle. In the program its
destination is in the map already. -/
theorem danglingFrom_cons_of_mem {sources : List String} {rule : Rule} {destination : String}
    (rest : List Rule) (h : rule.destination = some destination) (hmem : destination ∈ sources) :
    danglingFrom sources (rule :: rest) = danglingFrom sources rest := by
  simp [danglingFrom, h, hmem]

/-- A rule that leads to none of the sources comes first in `danglingFrom`. The program may have
named its destination before; `placeholderRules` drops it then. -/
theorem danglingFrom_cons_of_notMem {sources : List String} {rule : Rule} {destination : String}
    (rest : List Rule) (h : rule.destination = some destination) (hmem : destination ∉ sources) :
    danglingFrom sources (rule :: rest) =
      (rule.state, destination) :: danglingFrom sources rest := by
  simp [danglingFrom, h, hmem]

/-- Where rules are required, the first destination without rules is refused, and nothing is
named. So the map does not grow here, and the induction needs no list of seen names. -/
theorem Holds.nameDestinations_strict (h : d.Holds bound names) (rules : List Rule) :
    nameDestinations .strict rules d =
      match danglingFrom names rules with
      | [] => .ok (d, [])
      | (state, destination) :: _ => .error (.danglingDestination state destination) := by
  induction rules with
  | nil => rfl
  | cons rule rest ih =>
    rw [nameDestinations]
    cases hdest : rule.destination with
    | none =>
      rw [danglingFrom_cons_of_none rest hdest]
      exact ih
    | some destination =>
      by_cases hmem : destination ∈ names
      · rw [danglingFrom_cons_of_mem rest hdest hmem]
        show (if d.index.contains destination then _ else _) = _
        rw [if_pos ((h.contains_iff destination).mpr hmem)]
        exact ih
      · rw [danglingFrom_cons_of_notMem rest hdest hmem]
        show (if d.index.contains destination then _ else _) = _
        rw [if_neg fun hin => hmem ((h.contains_iff destination).mp hin)]

/-- Where rules are not required, the destinations without rules get the next numbers, in the
order in which they first occur, and each is reported. The induction is on the rules; `hseen` ties
the growing map to the two lists by which `placeholderRules` and `danglingFrom` go. -/
theorem Holds.nameDestinations_lenient (rules : List Rule) (sources seen : List String)
    (h : d.Holds [] names) (hseen : ∀ name, name ∈ names ↔ name ∈ sources ∨ name ∈ seen) :
    ∃ d', nameDestinations .lenient rules d =
        .ok (d', (placeholderRules seen (danglingFrom sources rules)).map
          fun row => .placeholder row.1 row.2) ∧
      d'.Holds [] (names ++ (placeholderRules seen (danglingFrom sources rules)).map Prod.snd) := by
  induction rules generalizing d names seen with
  | nil => exact ⟨d, rfl, by simpa [danglingFrom, placeholderRules] using h⟩
  | cons rule rest ih =>
    rw [nameDestinations]
    cases hdest : rule.destination with
    | none =>
      rw [danglingFrom_cons_of_none rest hdest]
      exact ih seen h hseen
    | some destination =>
      show ∃ d', (if d.index.contains destination then _ else _) = _ ∧ _
      by_cases hmem : destination ∈ names
      · rw [if_pos ((h.contains_iff destination).mpr hmem)]
        by_cases hsource : destination ∈ sources
        · rw [danglingFrom_cons_of_mem rest hdest hsource]
          exact ih seen h hseen
        · -- The destination was mentioned before.
          have hbefore : destination ∈ seen := ((hseen destination).mp hmem).resolve_left hsource
          rw [danglingFrom_cons_of_notMem rest hdest hsource, placeholderRules, if_pos hbefore]
          exact ih seen h hseen
      · have hsource : destination ∉ sources := fun hin => hmem ((hseen destination).mpr (.inl hin))
        have hbefore : destination ∉ seen := fun hin => hmem ((hseen destination).mpr (.inr hin))
        have hmore : ∀ name, name ∈ names ++ [destination] ↔
            name ∈ sources ∨ name ∈ destination :: seen := by
          intro name
          rw [List.mem_append, List.mem_singleton, List.mem_cons, hseen]
          tauto
        obtain ⟨d', hrest, hholds⟩ := ih (destination :: seen) (h.name hmem) hmore
        rw [if_neg fun hin => hmem ((h.contains_iff destination).mp hin),
          danglingFrom_cons_of_notMem rest hdest hsource, placeholderRules, if_neg hbefore, hrest,
          List.map_cons, List.map_cons, List.append_cons]
        exact ⟨d', rfl, hholds⟩

/-! ### The beginning -/

/-- Numbers tell the names apart: the first place of a name is the place of no other one.
`isSource?` compares numbers where the statement speaks of names. -/
theorem idOf_injective {name other : String} (hname : name ∈ names)
    (h : idOf names name = idOf names other) : name = other :=
  (List.idxOf_inj hname).mp (congrArg StateId.index h)

/-- The search for a rule of the state finds one exactly if there is one, and no lookup on the way
fails. The induction is on the rules. -/
theorem Holds.isSource?_eq (h : d.Holds bound names) (name : String) (rules : List Rule)
    (hrules : ∀ rule ∈ rules, rule.state ∈ names) :
    d.isSource? (idOf names name) rules = some (decide (∃ rule ∈ rules, rule.state = name)) := by
  induction rules with
  | nil => simp [isSource?]
  | cons rule rest ih =>
    have hfirst : rule.state ∈ names := hrules rule List.mem_cons_self
    have hrest := ih fun rule hrule => hrules rule (List.mem_cons_of_mem _ hrule)
    rw [isSource?, h.find?_of_mem hfirst, Option.bind_eq_bind, Option.bind_some]
    by_cases hsame : rule.state = name
    · simp [hsame]
    · have hids : idOf names rule.state ≠ idOf names name := fun hid =>
        hsame (idOf_injective hfirst hid)
      simp [hids, hsame, hrest]

/-- The beginning is found: with the names in the map, the lookups give the state that
`initialState` chooses, or refuse it with the same error. -/
theorem Holds.initial?_eq {b : TableBuilder δ} {first : Rule} {rest : List Rule}
    (h : d.Holds bound b.stateNames) (hrules : b.rules = first :: rest) :
    d.initial? b = some ((b.initialState first).map (idOf b.stateNames)) := by
  have hstates : ∀ rule ∈ b.rules, rule.state ∈ b.stateNames := fun rule hrule =>
    TableBuilder.state_mem_stateNames hrule
  unfold initial? TableBuilder.initialState
  cases b.initial with
  | none =>
    have hfirst : first.state ∈ b.stateNames := hstates first (by rw [hrules]; simp)
    simp [hrules, h.find?_of_mem hfirst, Except.map]
  | some name =>
    show (match d.index[name]? with | none => _ | some id => _) = _
    rw [h.index]
    by_cases hname : name ∈ b.stateNames
    · rw [if_pos hname]
      by_cases hsource : name ∈ b.sources
      · have hbegins : ∃ rule ∈ b.rules, rule.state = name :=
          (TableBuilder.mem_sources b name).mp hsource
        simp [h.isSource?_eq name b.rules hstates, hbegins, hsource, Except.map]
      · have hbegins : ¬∃ rule ∈ b.rules, rule.state = name := fun hex =>
          hsource ((TableBuilder.mem_sources b name).mpr hex)
        simp [h.isSource?_eq name b.rules hstates, hbegins, hsource, Except.map]
    · -- A name that is not in the map has no rules either.
      have hsource : name ∉ b.sources := by
        intro hin
        obtain ⟨rule, hrule, rfl⟩ := (TableBuilder.mem_sources b name).mp hin
        exact hname (hstates rule hrule)
      simp [hname, hsource, Except.map]

/-! ### Binding the rules -/

/-- One more transition is one more row. Writing into the vector changes the state at one place,
and `hnodup` says that no other state takes the row as well. -/
theorem makeStates_concat (hnodup : names.Nodup) {name : String} (hname : name ∈ names)
    (tr : Transition δ) :
    makeStates (bound ++ [(name, tr)]) 0 names =
      (makeStates bound 0 names).set (names.idxOf name)
        ⟨idOf names name, name, (bound.filter fun row => row.1 = name).map Prod.snd ++ [tr]⟩ := by
  have hlt : names.idxOf name < names.length := List.idxOf_lt_length_iff.mpr hname
  refine List.ext_getElem? fun i => ?_
  rw [List.getElem?_set, length_makeStates, TableBuilder.getElem?_makeStates,
    TableBuilder.getElem?_makeStates]
  by_cases hi : names.idxOf name = i
  · subst hi
    simp [hlt, idOf]
  · rw [if_neg hi]
    cases hother : names[i]? with
    | none => rfl
    | some other =>
      -- Another place has another name, since no name occurs twice.
      have hne : name ≠ other := by
        rintro rfl
        obtain ⟨hbound, hget⟩ := List.getElem?_eq_some_iff.mp hother
        exact hi (hget ▸ hnodup.idxOf_getElem i hbound)
      simp [List.filter_append, hne]

/-- Writing a transition into the vector does not fail and keeps the invariant, with the row at
the end of `bound`. -/
theorem Holds.append?_eq (h : d.Holds bound names) {name : String} (hname : name ∈ names)
    (tr : Transition δ) :
    ∃ d', d.append? (idOf names name) tr = some d' ∧ d'.Holds (bound ++ [(name, tr)]) names := by
  have hlt : names.idxOf name < names.length := List.idxOf_lt_length_iff.mpr hname
  have hget : d.states[(idOf names name).index]? =
      some ⟨idOf names name, name, (bound.filter fun row => row.1 = name).map Prod.snd⟩ := by
    rw [h.states, TableBuilder.getElem?_makeStates]
    simp [idOf, hlt]
  rw [append?, hget]
  refine ⟨_, rfl, ?_, h.index, h.nodup⟩
  rw [makeStates_concat h.nodup hname, ← h.states]
  rfl

/-- All rules are bound, or binding stops at the same rule with the same error. The induction is
on the rules, one `Holds.append?_eq` for each that is bound. -/
theorem Holds.bind?_eq {b : TableBuilder δ} (rules : List Rule) (h : d.Holds bound names)
    (hrules : ∀ rule ∈ rules, rule.state ∈ names ∧ rule.destination.getD rule.state ∈ names) :
    match b.bindRules names rules with
    | .error e => bind? b rules d = some (.error e)
    | .ok more => ∃ d', bind? b rules d = some (.ok d') ∧ d'.Holds (bound ++ more) names := by
  induction rules generalizing d bound with
  | nil => exact ⟨d, rfl, by simpa using h⟩
  | cons rule rest ih =>
    obtain ⟨hstate, hdest⟩ := hrules rule List.mem_cons_self
    have hrest : ∀ rule ∈ rest, rule.state ∈ names ∧ rule.destination.getD rule.state ∈ names :=
      fun rule hrule => hrules rule (List.mem_cons_of_mem _ hrule)
    -- The destination is found: it is the name of a state, or the source itself.
    have hdestination : d.destination? rule (idOf names rule.state) =
        some (idOf names (rule.destination.getD rule.state)) := by
      unfold destination?
      cases hsome : rule.destination with
      | none => rfl
      | some name =>
        rw [hsome] at hdest
        exact h.find?_of_mem hdest
    rw [TableBuilder.bindRules, TableBuilder.bindRule, bind?, h.find?_of_mem hstate,
      Option.bind_eq_bind, Option.bind_some, hdestination, Option.bind_some]
    cases haction : b.bindAction rule with
    | error e => rfl
    | ok action =>
      obtain ⟨d', happend, hholds⟩ := h.append?_eq hstate
        ⟨rule.pattern, action, idOf names (rule.destination.getD rule.state)⟩
      have hmore := ih hholds hrest
      cases hbound : b.bindRules names rest with
      | error e =>
        rw [hbound] at hmore
        simpa [happend, Except.bind, bind] using hmore
      | ok more =>
        rw [hbound] at hmore
        simpa [happend, Except.bind, bind] using hmore

end TableDraft

/-! ### The reports -/

/-- Where every element has an image, collecting the images and skipping those that fail give the
same list. `shadowReports` skips, and the program fails instead. -/
theorem mapM_eq_filterMap {α β : Type} {f g : α → Option β} {l : List α}
    (h : ∀ a ∈ l, f a = g a ∧ ∃ b, g a = some b) : l.mapM f = some (l.filterMap g) := by
  induction l with
  | nil => rfl
  | cons a rest ih =>
    obtain ⟨hsame, b, hb⟩ := h a List.mem_cons_self
    have hrest := ih fun a ha => h a (List.mem_cons_of_mem _ ha)
    rw [List.mapM_cons, hrest, hsame, hb, List.filterMap_cons_some hb]
    rfl

namespace TableBuilder

/-- The reports of some states of a table. Each state is found again by its number (`h`), and the
index of a shadowed transition lies in its state, so no access fails. -/
theorem mapM_shadowReport? {t : Table δ} (states : List (State δ))
    (h : ∀ s ∈ states, t.get? s.id = some s) :
    (states.flatMap State.shadowed).mapM (shadowReport? t) =
      some (states.flatMap fun s => s.shadowed.filterMap fun sh =>
        s.transitions[sh.index]?.map fun tr =>
          .shadowed s.name sh.index tr.pattern sh.catchAll) := by
  induction states with
  | nil => rfl
  | cons s rest ih =>
    have hrest := ih fun s hs => h s (List.mem_cons_of_mem _ hs)
    have hfirst := h s List.mem_cons_self
    rw [List.flatMap_cons, List.flatMap_cons, List.mapM_append, hrest, mapM_eq_filterMap]
    · rfl
    · intro sh hsh
      obtain ⟨hstate, -, -, hlt⟩ := State.mem_shadowed_iff.mp hsh
      have hget : s.transitions[sh.index]? = some s.transitions[sh.index] :=
        List.getElem?_eq_getElem hlt
      simp [shadowReport?, hstate, hfirst, hget]

/-- The reports about a complete table are found without a failing access: `Table.WellFormed` has
the numbers of the states and the first state. -/
theorem tableReports?_eq {t : Table δ} (h : t.WellFormed) :
    tableReports? t = some (tableReports t) := by
  obtain ⟨first, hfirst⟩ := (Table.has_iff t t.initial).mp h.initial
  have hshadowed : t.shadowed.mapM (shadowReport? t) = some (shadowReports t) := by
    refine mapM_shadowReport? t.states fun s hs => ?_
    obtain ⟨i, hi⟩ := List.mem_iff_getElem?.mp hs
    have hnumber : s.id = ⟨i⟩ := h.numbered ⟨i⟩ s hi
    rw [hnumber]
    exact hi
  rw [tableReports?, hshadowed, Option.bind_eq_bind, Option.bind_some, hfirst, tableReports,
    Table.nameOf_of_get? hfirst]
  rfl

/-! ### The whole program -/

/-- Once the states have their numbers, finding the beginning, binding the rules and reporting
give the assembled table, or the error of `assemble` behind the reports so far. -/
theorem completeDraft?_eq {b : TableBuilder δ} {d : TableDraft δ} {first : Rule} {rest : List Rule}
    (hrules : b.rules = first :: rest) (h : d.Holds [] b.stateNames) (log : List Report) :
    b.completeDraft? d log = some (match b.assemble first with
      | .error e => (.error e, log)
      | .ok t => (.ok t, log ++ tableReports t)) := by
  have hbound := h.bind?_eq (b := b) b.rules fun rule hrule =>
    ⟨state_mem_stateNames hrule, destination_mem_stateNames hrule⟩
  rw [completeDraft?, h.initial?_eq hrules]
  cases hinitial : b.initialState first with
  | error e => simp [assemble, hinitial, Except.map, bind, Except.bind]
  | ok name =>
    cases hrows : b.bindRules b.stateNames b.rules with
    | error e =>
      rw [hrows] at hbound
      simp [assemble, hinitial, hrows, hbound, Except.map, bind, Except.bind]
    | ok bound =>
      rw [hrows] at hbound
      obtain ⟨d', hbind, hholds⟩ := hbound
      have hassemble : b.assemble first = .ok ⟨d'.states, idOf b.stateNames name⟩ :=
        assemble_eq_ok_iff.mpr ⟨name, bound, hinitial, hrows, by rw [hholds.states]; rfl⟩
      have hwell := (declares_of_assemble hrules hassemble).wellFormed
      simp [hassemble, hbind, Except.map, tableReports?_eq hwell]

/-- With the sources of the builder, `danglingFrom` is `TableBuilder.dangling`. The lemmas before
are for any list of sources, since the map holds the names alone. -/
theorem danglingFrom_sources (b : TableBuilder δ) :
    TableDraft.danglingFrom b.sources b.rules = b.dangling := rfl

/-- No access of the program that makes a table fails, and the program gives the table, the error
and the reports of `build`. The phases come in the order of the program, with `Holds` passed on
between them. -/
theorem buildDraft?_eq_build (b : TableBuilder δ) : b.buildDraft? = some b.build := by
  unfold buildDraft? build
  cases hrules : b.rules with
  | nil => rfl
  | cons first rest =>
    cases hrepeated : firstRepeated? [] (b.actions.map Prod.fst) with
    | some name => rfl
    | none =>
      have hsources : (TableDraft.nameSources (b.rules.map Rule.state)
          (TableDraft.empty : TableDraft δ)).Holds [] b.sources :=
        TableDraft.holds_empty.nameSources (b.rules.map Rule.state) [] (by simp)
      rw [hrules] at hsources
      cases hvalidation : b.validation with
      | strict =>
        have hnamed := hsources.nameDestinations_strict b.rules
        rw [danglingFrom_sources, hrules] at hnamed
        cases hdangling : b.dangling with
        | cons row rows =>
          rw [hdangling] at hnamed
          simp only [hnamed]
        | nil =>
          -- Without such destinations the sources are all states there are.
          have hnames : b.stateNames = b.sources := by
            simp [stateNames, placeholders, hdangling, placeholderRules]
          have hlog : b.placeholderReports = [] := by
            simp [placeholderReports, placeholders, hdangling, placeholderRules]
          rw [hdangling] at hnamed
          simp only [hnamed, hlog]
          exact completeDraft?_eq hrules (hnames ▸ hsources) []
      | lenient =>
        obtain ⟨d, hnamed, hholds⟩ :=
          hsources.nameDestinations_lenient b.rules b.sources [] (by simp)
        rw [danglingFrom_sources] at hnamed hholds
        rw [hrules] at hnamed
        simp only [hnamed]
        exact completeDraft?_eq hrules hholds b.placeholderReports

end TableBuilder

end LineMachine
