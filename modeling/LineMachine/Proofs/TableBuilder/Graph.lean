import LineMachine.Machine.TableBuilder
import LineMachine.Proofs.Except
import LineMachine.Proofs.Machine.Resolve
import Mathlib.Data.List.Forall2

/-!
# `LineMachine.Proofs.TableBuilder.Graph`: the graph that is built

`TableBuilder.build` names the states, numbers them and gives each its
transitions. This module says what a table that was built looks like, so that
no later proof opens `build`.

* `TableBuilder.nodup_stateNames` and `TableBuilder.mem_stateNames`: the names
  of the states are the sources and the destinations, each once.
* `TableBuilder.Declares`: the table has the declared states under the declared
  names, and each has the transitions of its own rules in order.
* `TableBuilder.declares_of_build`: every table that is built is so.
* `Table.WellFormed` is what later proofs about runs need of a table, and
  `TableBuilder.wellFormed_of_build` gives it.
-/

set_option autoImplicit false

namespace LineMachine

variable {δ : Type}

/-- In two lists that are related one by one, every element on the right has one on the left. So a
transition of a table leads back to the rule that it comes from. -/
theorem exists_left_of_forall₂ {α β : Type} {R : α → β → Prop} {l : List α} {l' : List β} {b : β}
    (h : List.Forall₂ R l l') (hb : b ∈ l') : ∃ a ∈ l, R a b := by
  induction h with
  | nil => simp at hb
  | @cons a c l l' hac _ ih =>
    rcases List.mem_cons.mp hb with rfl | hb
    · exact ⟨a, List.mem_cons_self, hac⟩
    · obtain ⟨a', ha', hR⟩ := ih hb
      exact ⟨a', List.mem_cons_of_mem a ha', hR⟩

namespace TableBuilder

/-! ### Names -/

/-- What `distinct` keeps are the names it is given, less those it has seen. The induction is on
the names, with the list of seen ones growing. -/
theorem mem_distinct (n : String) (seen names : List String) :
    n ∈ distinct seen names ↔ n ∈ names ∧ n ∉ seen := by
  induction names generalizing seen with
  | nil => simp [distinct]
  | cons name rest ih =>
    by_cases hname : name ∈ seen
    · rw [distinct, if_pos hname, ih, List.mem_cons]
      constructor
      · rintro ⟨hrest, hseen⟩
        exact ⟨.inr hrest, hseen⟩
      · rintro ⟨rfl | hrest, hseen⟩
        · exact absurd hname hseen
        · exact ⟨hrest, hseen⟩
    · rw [distinct, if_neg hname, List.mem_cons, ih, List.mem_cons, List.mem_cons]
      by_cases hn : n = name
      · subst hn
        simp [hname]
      · simp [hn]

/-- What `distinct` keeps, it keeps once: each name is put among the seen ones when it first
comes. The names of the states have no duplicates for this reason. -/
theorem nodup_distinct (seen names : List String) : (distinct seen names).Nodup := by
  induction names generalizing seen with
  | nil => simp [distinct]
  | cons name rest ih =>
    by_cases hname : name ∈ seen
    · rw [distinct, if_pos hname]
      exact ih seen
    · rw [distinct, if_neg hname, List.nodup_cons, mem_distinct]
      exact ⟨by simp, ih _⟩

/-- The first mentions are told by the names alone. `placeholderRules` keeps the source beside
each name for the warning, and with it dropped the recursion is that of `distinct`. -/
theorem map_snd_placeholderRules (seen : List String) (rows : List (String × String)) :
    (placeholderRules seen rows).map Prod.snd = distinct seen (rows.map Prod.snd) := by
  induction rows generalizing seen with
  | nil => rfl
  | cons row rest ih =>
    obtain ⟨state, destination⟩ := row
    by_cases h : destination ∈ seen
    · simp [placeholderRules, distinct, h, ih]
    · simp [placeholderRules, distinct, h, ih]

variable {b : TableBuilder δ}

/-- The sources are the states that have a rule. The lemmas about a builder go by this and do not
open `TableBuilder.sources`. -/
theorem mem_sources (b : TableBuilder δ) (n : String) :
    n ∈ b.sources ↔ ∃ rule ∈ b.rules, rule.state = n := by
  simp [sources, mem_distinct]

/-- A row of `dangling` is a rule whose destination has no rules of its own; the row keeps the
source and that destination. Strict builds fail on the first one, and lenient builds make
placeholders of them. -/
theorem mem_dangling (b : TableBuilder δ) (row : String × String) :
    row ∈ b.dangling ↔ ∃ rule ∈ b.rules,
      rule.state = row.1 ∧ rule.destination = some row.2 ∧ row.2 ∉ b.sources := by
  obtain ⟨state, destination⟩ := row
  simp only [dangling, List.mem_filterMap, Option.bind_eq_some_iff]
  constructor
  · rintro ⟨rule, hrule, name, hname, hrow⟩
    split at hrow
    · simp at hrow
    · rename_i hsource
      simp only [Option.some.injEq, Prod.mk.injEq] at hrow
      obtain ⟨rfl, rfl⟩ := hrow
      exact ⟨rule, hrule, rfl, hname, hsource⟩
  · rintro ⟨rule, hrule, rfl, hname, hsource⟩
    exact ⟨rule, hrule, destination, hname, by simp [hsource]⟩

/-- The placeholders are the dangling destinations, each once and in the order of their first
mentions. -/
theorem map_snd_placeholders (b : TableBuilder δ) :
    b.placeholders.map Prod.snd = distinct [] (b.dangling.map Prod.snd) :=
  map_snd_placeholderRules [] b.dangling

/-- The states are the sources and the destinations. A destination with no rules of its own is
among them as a placeholder, whatever the validation is. -/
theorem mem_stateNames (b : TableBuilder δ) (n : String) :
    n ∈ b.stateNames ↔ ∃ rule ∈ b.rules, rule.state = n ∨ rule.destination = some n := by
  rw [stateNames, map_snd_placeholders, List.mem_append, mem_distinct]
  constructor
  · rintro (hsource | ⟨hmem, -⟩)
    · obtain ⟨rule, hrule, rfl⟩ := (mem_sources b n).mp hsource
      exact ⟨rule, hrule, .inl rfl⟩
    · obtain ⟨row, hrow, rfl⟩ := List.mem_map.mp hmem
      obtain ⟨rule, hrule, -, hdest, -⟩ := (mem_dangling b row).mp hrow
      exact ⟨rule, hrule, .inr hdest⟩
  · rintro ⟨rule, hrule, rfl | hdest⟩
    · exact .inl ((mem_sources b _).mpr ⟨rule, hrule, rfl⟩)
    · by_cases hsource : n ∈ b.sources
      · exact .inl hsource
      · exact .inr ⟨List.mem_map.mpr ⟨(rule.state, n),
          (mem_dangling b _).mpr ⟨rule, hrule, rfl, hdest, hsource⟩, rfl⟩, by simp⟩

/-- The source of a rule is a state. It is stated apart from `mem_stateNames`, since a membership
in this form is what `get?_idOf` asks for. -/
theorem state_mem_stateNames {rule : Rule} (h : rule ∈ b.rules) : rule.state ∈ b.stateNames :=
  (mem_stateNames b _).mpr ⟨rule, h, .inl rfl⟩

/-- The destination of a rule is a state, where a rule without one stays at its source. Hence no
transition leads out of the table (`Table.WellFormed.destination`). -/
theorem destination_mem_stateNames {rule : Rule} (h : rule ∈ b.rules) :
    rule.destination.getD rule.state ∈ b.stateNames := by
  cases hdest : rule.destination with
  | none => exact state_mem_stateNames h
  | some name => exact (mem_stateNames b _).mpr ⟨rule, h, .inr hdest⟩

/-- No two states have the same name. The sources are distinct, so are the placeholders, and no
placeholder is a source by `mem_dangling`. -/
theorem nodup_stateNames (b : TableBuilder δ) : b.stateNames.Nodup := by
  rw [stateNames, map_snd_placeholders, List.nodup_append]
  -- A destination is only added when it is no source.
  refine ⟨nodup_distinct _ _, nodup_distinct _ _, ?_⟩
  rintro n hsource m hmem rfl
  obtain ⟨row, hrow, rfl⟩ := List.mem_map.mp ((mem_distinct _ _ _).mp hmem).1
  obtain ⟨-, -, -, -, hnot⟩ := (mem_dangling b row).mp hrow
  exact hnot hsource

/-! ### Numbers -/

/-- The number of a name is a place in the list, as `idOf` is `List.idxOf`. For a name that is not
there it would be the length of the list, which is the number of no state. -/
theorem idOf_index_lt {names : List String} {name : String} (h : name ∈ names) :
    (idOf names name).index < names.length := List.idxOf_lt_length_iff.mpr h

/-! ### Transitions -/

/-- The transition of a table is the one that the rule declares. -/
structure Binds (b : TableBuilder δ) (rule : Rule) (tr : Transition δ) : Prop where
  pattern : tr.pattern = rule.pattern
  action : b.bindAction rule = .ok tr.action
  destination : tr.destination = idOf b.stateNames (rule.destination.getD rule.state)

/-- A rule that is bound gives the transition it declares: `bindRule` looks up its action and its
destination and takes the pattern over. -/
theorem binds_of_bindRule {rule : Rule} {tr : Transition δ}
    (h : b.bindRule b.stateNames rule = .ok tr) : b.Binds rule tr := by
  obtain ⟨action, haction, h⟩ := bind_eq_ok_iff.mp h
  cases h
  exact ⟨rfl, haction, rfl⟩

/-- All rules are bound, in order, each under its source state. The induction is on the rules; the
first action that is not found ends `bindRules`, so nothing is left out. -/
theorem binds_of_bindRules {rules : List Rule} {bound : List (String × Transition δ)}
    (h : b.bindRules b.stateNames rules = .ok bound) :
    List.Forall₂ (fun rule row => row.1 = rule.state ∧ b.Binds rule row.2) rules bound := by
  induction rules generalizing bound with
  | nil =>
    cases h
    exact .nil
  | cons rule rest ih =>
    obtain ⟨tr, hrule, h⟩ := bind_eq_ok_iff.mp h
    obtain ⟨more, hrest, h⟩ := bind_eq_ok_iff.mp h
    cases h
    exact .cons ⟨rfl, binds_of_bindRule hrule⟩ (ih hrest)

/-- Cutting out the rules of one state cuts out its transitions. Both filters go by the name of
the source, and `makeStates` uses the one on the right. -/
theorem binds_filter {rules : List Rule} {bound : List (String × Transition δ)} (name : String)
    (h : List.Forall₂ (fun rule row => row.1 = rule.state ∧ b.Binds rule row.2) rules bound) :
    List.Forall₂ b.Binds (rules.filter fun rule => rule.state = name)
      ((bound.filter fun row => row.1 = name).map Prod.snd) := by
  induction h with
  | nil => exact .nil
  | @cons rule row rules bound hrow _ ih =>
    obtain ⟨hstate, hbinds⟩ := hrow
    by_cases hname : rule.state = name
    · rw [List.filter_cons_of_pos (by simpa using hname),
        List.filter_cons_of_pos (by simpa [hstate] using hname), List.map_cons]
      exact .cons hbinds ih
    · rw [List.filter_cons_of_neg (by simpa using hname),
        List.filter_cons_of_neg (by simpa [hstate] using hname)]
      exact ih

/-! ### States -/

/-- The state with a number: it stands at its place, has the name at that place and the
transitions that are bound under it. The induction is on the names, with `next` going up. -/
theorem getElem?_makeStates (bound : List (String × Transition δ)) (next : Nat)
    (names : List String) (i : Nat) :
    (makeStates bound next names)[i]? = names[i]?.map fun name =>
      ⟨⟨next + i⟩, name, (bound.filter fun row => row.1 = name).map Prod.snd⟩ := by
  induction names generalizing next i with
  | nil => simp [makeStates]
  | cons name rest ih =>
    cases i with
    | zero => simp [makeStates]
    | succ i =>
      rw [makeStates, List.getElem?_cons_succ, List.getElem?_cons_succ, ih]
      simp only [Nat.add_assoc, Nat.add_comm 1 i]

/-- The states have the names they are made from, in order. `Declares.names` is this for the names
of a builder. -/
theorem map_name_makeStates (bound : List (String × Transition δ)) (next : Nat)
    (names : List String) : (makeStates bound next names).map State.name = names := by
  induction names generalizing next with
  | nil => rfl
  | cons name rest ih => simp [makeStates, ih]

/-! ### The table -/

/-- The table has the states and transitions that are declared, and begins
where it is declared to. -/
structure Declares (b : TableBuilder δ) (t : Table δ) : Prop where
  names : t.states.map State.name = b.stateNames
  numbered : ∀ id s, t.get? id = some s → s.id = id
  transitions : ∀ s ∈ t.states,
    List.Forall₂ b.Binds (b.rules.filter fun rule => rule.state = s.name) s.transitions
  initial : ∃ first rest name, b.rules = first :: rest ∧ b.initialState first = .ok name ∧
    t.initial = idOf b.stateNames name

/-- What `assemble` needs to come to a table: a beginning, and all rules bound. It is taken apart
here once, for `declares_of_assemble` and for the comparison with a draft (`exists_draft?_eq`). -/
theorem assemble_eq_ok_iff {first : Rule} {t : Table δ} :
    b.assemble first = .ok t ↔ ∃ name bound, b.initialState first = .ok name ∧
      b.bindRules b.stateNames b.rules = .ok bound ∧
      t = ⟨makeStates bound 0 b.stateNames, idOf b.stateNames name⟩ := by
  simp only [assemble, bind_eq_ok_iff, Except.ok.injEq, @eq_comm _ t, exists_and_left]

/-- What `assemble` puts together has the declared states and transitions. It is separate from
`declares_of_build`, since a draft that is completed goes through `assemble` too. -/
theorem declares_of_assemble {first : Rule} {rest : List Rule} {t : Table δ}
    (hrules : b.rules = first :: rest) (h : b.assemble first = .ok t) : b.Declares t := by
  obtain ⟨name, bound, hinitial, hbound, rfl⟩ := assemble_eq_ok_iff.mp h
  refine ⟨map_name_makeStates _ _ _, ?_, ?_, first, rest, name, hrules, hinitial, rfl⟩
  · intro id s hs
    simp only [Table.get?, getElem?_makeStates, Option.map_eq_some_iff] at hs
    obtain ⟨n, -, rfl⟩ := hs
    simp
  · -- A state was made from the rows under its name, and these are bound from its rules.
    intro s hs
    obtain ⟨i, hi⟩ := List.mem_iff_getElem?.mp hs
    simp only [getElem?_makeStates, Option.map_eq_some_iff] at hi
    obtain ⟨n, -, rfl⟩ := hi
    exact binds_filter n (binds_of_bindRules hbound)

/-- A table comes about only when all checks pass: there is a rule, no action is registered twice,
and under strict validation nothing dangles. What is left of `build` is then `assemble`. -/
theorem assemble_of_build {t : Table δ} {log : List Report} (h : b.build = (.ok t, log)) :
    ∃ first rest, b.rules = first :: rest ∧ b.assemble first = .ok t ∧
      firstRepeated? [] (b.actions.map Prod.fst) = none ∧
      (b.validation = .strict → b.dangling = []) := by
  unfold build at h
  split at h
  · cases h
  · rename_i first rest hrules
    split at h
    · cases h
    · rename_i hrepeated
      split at h
      · cases h
      · rename_i hdangling
        cases hassemble : b.assemble first with
        | error e =>
          rw [hassemble] at h
          cases h
        | ok built =>
          rw [hassemble] at h
          cases h
          -- The second branch was taken although rules are required, so no
          -- destination lacks them.
          refine ⟨first, rest, hrules, hassemble, hrepeated, fun hstrict => ?_⟩
          cases hrows : b.dangling with
          | nil => rfl
          | cons row rows => exact absurd hrows (hdangling row.1 row.2 rows hstrict)

/-- Every table that is built is as declared. From here on, proofs about tables use `Declares` and
do not open `TableBuilder.build` again. -/
theorem declares_of_build {t : Table δ} {log : List Report} (h : b.build = (.ok t, log)) :
    b.Declares t := by
  obtain ⟨first, rest, hrules, hassemble, -⟩ := assemble_of_build h
  exact declares_of_assemble hrules hassemble

/-- The state where a parse begins has rules. It is the source of the first rule, or it was
checked to be a source when it was set. -/
theorem initialState_mem_sources {first : Rule} {name : String} (hfirst : first ∈ b.rules)
    (h : b.initialState first = .ok name) : name ∈ b.sources := by
  unfold initialState at h
  split at h
  · cases h
    exact (mem_sources b _).mpr ⟨first, hfirst, rfl⟩
  · split at h
    · cases h
      assumption
    · cases h

/-- A parse begins where it is told to, or else at the first rule. `initialState` also checks the
name, and a name that fails the check gives no state at all. -/
theorem initialState_eq {first : Rule} {name : String} (h : b.initialState first = .ok name) :
    name = b.initial.getD first.state := by
  unfold initialState at h
  cases hinitial : b.initial with
  | none =>
    rw [hinitial] at h
    exact (Except.ok.inj h).symm
  | some given =>
    rw [hinitial] at h
    by_cases hsource : given ∈ b.sources
    · simp only [if_pos hsource] at h
      exact (Except.ok.inj h).symm
    · simp only [if_neg hsource] at h
      cases h

namespace Declares

variable {t : Table δ}

/-- The state behind the number of a name has that name. `Table.get?` goes by the place, so this
takes `idOf_index_lt` and the order of the names together. -/
theorem get?_idOf (h : b.Declares t) {name : String} (hname : name ∈ b.stateNames) :
    ∃ s, t.get? (idOf b.stateNames name) = some s ∧ s.name = name := by
  have hlt := idOf_index_lt hname
  have hlength : t.states.length = b.stateNames.length := by
    rw [← h.names, List.length_map]
  refine ⟨_, List.getElem?_eq_getElem (by omega), ?_⟩
  have hget : (t.states.map State.name)[(idOf b.stateNames name).index]? = some name := by
    rw [h.names, List.getElem?_eq_getElem hlt]
    exact congrArg some (List.getElem_idxOf hlt)
  rw [List.getElem?_map, List.getElem?_eq_getElem (by omega)] at hget
  exact Option.some.inj hget

/-- The number of a state's name is a number of the table. This is `get?_idOf` in the form that
`Table.WellFormed` speaks of. -/
theorem has_idOf (h : b.Declares t) {name : String} (hname : name ∈ b.stateNames) :
    t.has (idOf b.stateNames name) = true := by
  obtain ⟨s, hs, -⟩ := h.get?_idOf hname
  exact Table.has_of_get? hs

/-- Names tell the states of a table apart, as `nodup_stateNames` has it: the number of a state is
found again from its name. -/
theorem idOf_name (h : b.Declares t) {id : StateId} {s : State δ} (hs : t.get? id = some s) :
    idOf b.stateNames s.name = id := by
  have hname : b.stateNames[id.index]? = some s.name := by
    rw [← h.names, List.getElem?_map]
    exact congrArg (Option.map State.name) hs
  obtain ⟨hlt, hget⟩ := List.getElem?_eq_some_iff.mp hname
  rw [idOf, ← hget, (nodup_stateNames b).idxOf_getElem]

/-- Every transition comes from a rule of its state. With this, what holds of all rules of a
builder holds of all transitions of its table. -/
theorem rule_of_mem (h : b.Declares t) {s : State δ} {tr : Transition δ} (hs : s ∈ t.states)
    (htr : tr ∈ s.transitions) : ∃ rule ∈ b.rules, rule.state = s.name ∧ b.Binds rule tr := by
  obtain ⟨rule, hrule, hbinds⟩ := exists_left_of_forall₂ (h.transitions s hs) htr
  obtain ⟨hmem, hstate⟩ := List.mem_filter.mp hrule
  exact ⟨rule, hmem, by simpa using hstate, hbinds⟩

end Declares

end TableBuilder

/-! ### What runs rely on -/

/-- What runs rely on: states know their numbers, and the beginning and all
destinations are states of the table. -/
structure Table.WellFormed (t : Table δ) : Prop where
  numbered : ∀ id s, t.get? id = some s → s.id = id
  initial : t.has t.initial = true
  destination : ∀ s ∈ t.states, ∀ tr ∈ s.transitions, t.has tr.destination = true

/-- A declared table is well-formed. The numbers come from `Declares.numbered`; the beginning and
the destinations are names of states, so `has_idOf` applies to them. -/
theorem TableBuilder.Declares.wellFormed {b : TableBuilder δ} {t : Table δ} (hd : b.Declares t) :
    t.WellFormed := by
  refine ⟨hd.numbered, ?_, ?_⟩
  · obtain ⟨first, rest, name, hrules, hinitial, hid⟩ := hd.initial
    rw [hid]
    apply hd.has_idOf
    rw [stateNames, List.mem_append]
    exact .inl (initialState_mem_sources (by simp [hrules]) hinitial)
  · intro s hs tr htr
    obtain ⟨rule, hrule, -, hbinds⟩ := hd.rule_of_mem hs htr
    rw [hbinds.destination]
    exact hd.has_idOf (destination_mem_stateNames hrule)

/-- Every table that is built is well-formed. Later proofs about runs take this as their only fact
about where a table comes from. -/
theorem TableBuilder.wellFormed_of_build {b : TableBuilder δ} {t : Table δ} {log : List Report}
    (h : b.build = (.ok t, log)) : t.WellFormed := (declares_of_build h).wellFormed

end LineMachine
