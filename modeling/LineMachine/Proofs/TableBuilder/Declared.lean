import LineMachine.Proofs.TableBuilder.Draft
import LineMachine.Proofs.TableBuilder.Verdict

/-!
# `LineMachine.Proofs.TableBuilder.Declared`: exactly the declared graph

A declaration is a list of rows, and the rows alone say which graph it means. This
module reads that graph off the rows, with nothing of the way in which a table is
built, and compares it with the table.

* `TableBuilder.declaredSources` and `TableBuilder.declaredOpen` are the names of
  the states in the order of the rows, and `TableBuilder.stateNames_eq` says that
  building uses these names in this order.
* `TableBuilder.Carries`: a transition says what a row says. Its destination is
  told by the name of the state, not by a number.
* `TableBuilder.flatMap_filter_perm`: no row is lost or counted twice when the rows
  are dealt out to the states.
* `TableBuilder.DeclaredGraph` collects what the table is, and
  `TableBuilder.declaredGraph_of_build` says that every table that is built is so.
  It also speaks about the vector and the map of names that a program keeps while it
  builds: they end as the states of the table and as its `lookup`.
-/

set_option autoImplicit false

namespace LineMachine

variable {δ : Type}

namespace TableBuilder

/-! ### What the rows say -/

/-- The states with rules, each once, in the order of their first rows. -/
def declaredSources (rules : List Rule) : List String := (rules.map Rule.state).eraseDups

/-- The destinations without rules, each once, in the order in which the rows first
mention them. -/
def declaredOpen (rules : List Rule) : List String :=
  ((rules.filterMap Rule.destination).filter fun name => name ∉ rules.map Rule.state).eraseDups

/-- The transition says what the row says:

- `pattern`: it has the pattern of the row;
- `action`: it binds the name that the row binds, or nothing if the row does not;
- `registered`: what runs is what is registered under that name, and nothing else is;
- `destination`: it leads to the state that the row names, or back to the state of
  the row if that names none. -/
structure Carries (b : TableBuilder δ) (t : Table δ) (rule : Rule) (tr : Transition δ) :
    Prop where
  pattern : tr.pattern = rule.pattern
  action : tr.action.map BoundAction.name = rule.action
  registered : ∀ bound, tr.action = some bound →
    ∀ run, (bound.name, run) ∈ b.actions ↔ run = bound.run
  destination : ∃ s, t.get? tr.destination = some s ∧
    s.name = rule.destination.getD rule.state

/-- The table is the graph that is declared:

- `names`: its states are the sources, followed by the destinations without rules
  where these are allowed;
- `numbered`: every state has its position as its number;
- `distinct`: no two states have one name;
- `lookup`: a name is found exactly at the state that has it;
- `transitions`: the transitions of a state are the rows of that state, one by one and
  in order;
- `placeholder`: the states without transitions are the destinations without rules;
- `ruled`: where rules are required, every state has a transition;
- `count`: there are as many transitions as rows;
- `initial`: a parse begins at the state that is set, or else at that of the first row,
  and that state has a transition. -/
structure DeclaredGraph (b : TableBuilder δ) (t : Table δ) : Prop where
  names : t.states.map State.name =
    declaredSources b.rules ++ if b.validation = .lenient then declaredOpen b.rules else []
  numbered : ∀ (i : Nat) (s : State δ), t.states[i]? = some s → s.id = ⟨i⟩
  distinct : (t.states.map State.name).Nodup
  lookup : ∀ (name : String) (id : StateId),
    t.lookup name = some id ↔ ∃ s, t.get? id = some s ∧ s.name = name
  transitions : ∀ s ∈ t.states, List.Forall₂ (b.Carries t)
    (b.rules.filter fun rule => rule.state = s.name) s.transitions
  placeholder : ∀ s ∈ t.states,
    s.transitions = [] ↔ b.validation = .lenient ∧ s.name ∈ declaredOpen b.rules
  ruled : b.validation = .strict → ∀ s ∈ t.states, s.transitions ≠ []
  count : t.transitionCount = b.rules.length
  initial : ∃ first rest s, b.rules = first :: rest ∧ t.get? t.initial = some s ∧
    s.name = b.initial.getD first.state ∧ s.transitions ≠ []

/-- The vector and the map once all rules are bound, or the error that building ends
with before. It is `none` if an access finds nothing. -/
def draft? (b : TableBuilder δ) : Option (Except BuildError (TableDraft δ)) :=
  match TableDraft.nameDestinations b.validation b.rules
      (TableDraft.nameSources (b.rules.map Rule.state) TableDraft.empty) with
  | .error e => some (.error e)
  | .ok (d, _) => TableDraft.bind? b b.rules d

/-! ### Names -/

/-- Skipping names that were seen is dropping later copies. The declared names are given by
`List.eraseDups`, which says at once what is meant, and `TableBuilder.distinct` is how building
gets them. -/
theorem distinct_eq_eraseDups (seen names : List String) :
    distinct seen names = (names.filter fun name => name ∉ seen).eraseDups := by
  induction names generalizing seen with
  | nil => rfl
  | cons name rest ih =>
    by_cases hname : name ∈ seen
    · rw [distinct, if_pos hname, ih, List.filter_cons_of_neg (by simpa using hname)]
    · rw [distinct, if_neg hname, ih, List.filter_cons_of_pos (by simpa using hname),
        List.eraseDups_cons, List.filter_filter]
      -- The name itself counts as seen from here on.
      have hsame : (rest.filter fun other => other ∉ name :: seen) =
          rest.filter fun other => (!other == name) && decide (other ∉ seen) := by
        refine List.filter_congr fun other _ => ?_
        by_cases h : other = name <;> simp [h]
      rw [hsame]

variable {b : TableBuilder δ}

/-- The sources that building uses are those that can be read off the rows:
`distinct_eq_eraseDups` with nothing seen. -/
theorem sources_eq (b : TableBuilder δ) : b.sources = declaredSources b.rules := by
  rw [sources, distinct_eq_eraseDups, declaredSources]
  simp

/-- A name is open when some row leads to it and no row is of it. This is what `placeholder` and
`names` of `DeclaredGraph` say of a state without transitions. -/
theorem mem_declaredOpen (rules : List Rule) (name : String) :
    name ∈ declaredOpen rules ↔
      (∃ rule ∈ rules, rule.destination = some name) ∧ ∀ rule ∈ rules, rule.state ≠ name := by
  simp [declaredOpen, List.mem_eraseDups]

/-- The dangling destinations, read off the rows: all destinations, less the names that have rows.
The order is that of the rows on both sides. -/
theorem map_snd_dangling (b : TableBuilder δ) :
    b.dangling.map Prod.snd =
      (b.rules.filterMap Rule.destination).filter fun name => name ∉ b.rules.map Rule.state := by
  rw [dangling, List.map_filterMap, List.filter_filterMap]
  refine List.filterMap_congr fun rule _ => ?_
  cases rule.destination with
  | none => rfl
  | some destination =>
    have hsource : destination ∈ b.sources ↔ destination ∈ b.rules.map Rule.state := by
      rw [mem_sources, List.mem_map]
    rw [Option.bind_some, Option.filter_some]
    by_cases h : destination ∈ b.rules.map Rule.state
    · rw [if_pos (hsource.mpr h), if_neg (by simpa using h)]
      rfl
    · rw [if_neg (mt hsource.mp h), if_pos (by simpa using h)]
      rfl

/-- The destinations without rules are taken up in the order of the rows, each once:
`map_snd_placeholders` with `map_snd_dangling`. It is also what lenient building warns about
(`agrees_of_nodup`). -/
theorem map_snd_placeholders_eq (b : TableBuilder δ) :
    b.placeholders.map Prod.snd = declaredOpen b.rules := by
  rw [map_snd_placeholders, distinct_eq_eraseDups, map_snd_dangling, declaredOpen]
  simp

/-- The states are named in the order of the rows, the sources first. A strict build that succeeds
has no open names, so the two cases of the validation come from `IsClosed`. -/
theorem stateNames_eq (hclosed : b.IsClosed) :
    b.stateNames =
      declaredSources b.rules ++ if b.validation = .lenient then declaredOpen b.rules else [] := by
  rw [stateNames, sources_eq]
  cases hvalidation : b.validation with
  | strict => simp [placeholders, hclosed hvalidation, placeholderRules]
  | lenient => rw [map_snd_placeholders_eq, if_pos rfl]

/-! ### Rows dealt out to the states -/

/-- Dealing rows out by name loses none and repeats none. The induction is on the names: the rows
of the first one go, and the others keep theirs. -/
theorem flatMap_filter_perm {names : List String} (hnodup : names.Nodup) (rules : List Rule)
    (h : ∀ rule ∈ rules, rule.state ∈ names) :
    (names.flatMap fun name => rules.filter fun rule => rule.state = name).Perm rules := by
  induction names generalizing rules with
  | nil =>
    have hnone : rules = [] := List.eq_nil_iff_forall_not_mem.mpr fun rule hrule =>
      List.not_mem_nil (h rule hrule)
    simp [hnone]
  | cons name rest ih =>
    obtain ⟨hname, hrest⟩ := List.nodup_cons.mp hnodup
    -- The other names are dealt the rows of other names, which are all that is left.
    have hothers : ∀ rule ∈ rules.filter fun rule => !decide (rule.state = name),
        rule.state ∈ rest := by
      intro rule hrule
      obtain ⟨hmem, hne⟩ := List.mem_filter.mp hrule
      exact (List.mem_cons.mp (h rule hmem)).resolve_left (by simpa using hne)
    have hkept : ∀ other ∈ rest, (rules.filter fun rule => rule.state = other) =
        (rules.filter fun rule => !decide (rule.state = name)).filter
          fun rule => rule.state = other := by
      intro other hother
      rw [List.filter_filter]
      refine List.filter_congr fun rule _ => ?_
      have hne : other ≠ name := fun heq => hname (heq ▸ hother)
      by_cases heq : rule.state = other
      · simp [heq, hne]
      · simp [heq]
    rw [List.flatMap_cons, List.flatMap_congr hkept]
    exact ((ih hrest _ hothers).append_left _).trans (List.filter_append_perm _ rules)

/-- The count of a table is the length of all transitions, one state after the other.
`Table.transitionCount` adds up numbers, while `flatMap_filter_perm` speaks of lists. -/
theorem transitionCount_eq_length (t : Table δ) :
    t.transitionCount = (t.states.flatMap State.transitions).length := by
  rw [Table.transitionCount, List.length_flatMap, List.sum_eq_foldl, List.foldl_map]

namespace Declares

variable {t : Table δ}

/-- A state has as many transitions as there are rows of its name, since `Declares.transitions`
relates the two one by one. -/
theorem length_transitions (h : b.Declares t) {s : State δ} (hs : s ∈ t.states) :
    s.transitions.length = (b.rules.filter fun rule => rule.state = s.name).length :=
  (h.transitions s hs).length_eq.symm

/-- Every row is one transition of the table, and the other way round: the states have distinct
names, so `flatMap_filter_perm` applies to them. -/
theorem transitionCount_eq (h : b.Declares t) : t.transitionCount = b.rules.length := by
  have hrows : (t.states.flatMap State.transitions).length =
      (t.states.flatMap fun s => b.rules.filter fun rule => rule.state = s.name).length := by
    rw [List.length_flatMap, List.length_flatMap]
    exact congrArg List.sum (List.map_congr_left fun s hs => h.length_transitions hs)
  have hnames : (t.states.flatMap fun s => b.rules.filter fun rule => rule.state = s.name) =
      b.stateNames.flatMap fun name => b.rules.filter fun rule => rule.state = name := by
    rw [← h.names, List.flatMap_map]
  rw [transitionCount_eq_length, hrows, hnames]
  exact (flatMap_filter_perm (nodup_stateNames b) b.rules
    fun rule hrule => state_mem_stateNames hrule).length_eq

/-- A state without transitions is no source. It is one of the placeholders then, and lenient
building is the only way to them. -/
theorem transitions_eq_nil_iff (h : b.Declares t) {s : State δ} (hs : s ∈ t.states) :
    s.transitions = [] ↔ s.name ∉ b.sources := by
  rw [← List.length_eq_zero_iff, h.length_transitions hs, List.length_eq_zero_iff,
    List.filter_eq_nil_iff, mem_sources]
  simp

/-- A name is looked up among the names of all states. The search of `Table.lookup` goes along the
states, and `idOf` along the names; they stop at the same place. -/
theorem lookup_eq (h : b.Declares t) (name : String) :
    t.lookup name = if name ∈ b.stateNames then some (idOf b.stateNames name) else none := by
  have hfind : (t.states.findIdx? fun s => s.name = name) = b.stateNames.idxOf? name := by
    rw [← h.names, List.idxOf?, List.findIdx?_map]
    rfl
  have hplace : b.stateNames.idxOf name = (b.stateNames.idxOf? name).getD b.stateNames.length :=
    List.idxOf_eq_getD_idxOf? _ _
  rw [Table.lookup, hfind, idOf, hplace]
  cases hidx : b.stateNames.idxOf? name with
  | none => rw [if_neg (List.idxOf?_eq_none_iff.mp hidx), Option.map_none]
  | some i =>
    have hname : name ∈ b.stateNames := List.isSome_idxOf?.mp (by rw [hidx]; rfl)
    rw [if_pos hname, Option.map_some, Option.getD_some]

/-- A name leads to the one state that has it. Both directions are needed: a name that is found
belongs to its state, and a state is found by its name. -/
theorem lookup_eq_some_iff (h : b.Declares t) (name : String) (id : StateId) :
    t.lookup name = some id ↔ ∃ s, t.get? id = some s ∧ s.name = name := by
  rw [h.lookup_eq]
  constructor
  · intro hlookup
    by_cases hname : name ∈ b.stateNames
    · rw [if_pos hname] at hlookup
      cases hlookup
      exact h.get?_idOf hname
    · rw [if_neg hname] at hlookup
      cases hlookup
  · rintro ⟨s, hs, rfl⟩
    have hname : s.name ∈ b.stateNames := by
      rw [← h.names]
      exact List.mem_map_of_mem (Table.mem_of_get? hs)
    rw [if_pos hname, h.idOf_name hs]

end Declares

/-! ### Transitions -/

/-- What is bound under a name is what is registered under it. The search in `bindAction` takes
the first registration, and `hnodup` says that there is no other. -/
theorem registered_of_bindAction (hnodup : (b.actions.map Prod.fst).Nodup) {rule : Rule}
    {action : Option (BoundAction δ)} (h : b.bindAction rule = .ok action) :
    action.map BoundAction.name = rule.action ∧
      ∀ bound, action = some bound → ∀ run, (bound.name, run) ∈ b.actions ↔ run = bound.run := by
  unfold bindAction at h
  split at h
  · rename_i hnone
    cases h
    refine ⟨hnone.symm, fun bound hbound => ?_⟩
    cases hbound
  · rename_i name hname
    split at h
    · rename_i row hfind
      cases h
      refine ⟨hname.symm, ?_⟩
      rintro bound hbound run
      cases hbound
      have hrow : row.1 = name := by simpa using List.find?_some hfind
      subst hrow
      constructor
      · -- Another row of this name would register it twice.
        intro hmem
        have hsame := List.inj_on_of_nodup_map hnodup hmem (List.mem_of_find?_eq_some hfind) rfl
        exact congrArg Prod.snd hsame
      · rintro rfl
        exact List.mem_of_find?_eq_some hfind
    · cases h

/-- Where a rule is bound, the transition says what the row says. `Binds` gives the destination as
a number, which `get?_idOf` turns into the name of a state. -/
theorem Declares.carries_of_binds {t : Table δ} (h : b.Declares t)
    (hnodup : (b.actions.map Prod.fst).Nodup) {rule : Rule} {tr : Transition δ}
    (hrule : rule ∈ b.rules) (hbinds : b.Binds rule tr) : b.Carries t rule tr := by
  obtain ⟨hname, hregistered⟩ := registered_of_bindAction hnodup hbinds.action
  refine ⟨hbinds.pattern, hname, hregistered, ?_⟩
  rw [hbinds.destination]
  exact h.get?_idOf (destination_mem_stateNames hrule)

/-! ### The vector and the map -/

/-- Naming the states gives the vector and the map of all names. The two kinds of validation
have their own lemmas in `TableDraft.Holds`; here they meet, since a closed builder passes under
both. -/
theorem exists_nameDestinations_eq (hclosed : b.IsClosed) :
    ∃ (d : TableDraft δ) (log : List Report),
      TableDraft.nameDestinations b.validation b.rules
          (TableDraft.nameSources (b.rules.map Rule.state) TableDraft.empty) = .ok (d, log) ∧
        d.Holds [] b.stateNames := by
  have hsources : (TableDraft.nameSources (b.rules.map Rule.state)
      (TableDraft.empty : TableDraft δ)).Holds [] b.sources :=
    TableDraft.holds_empty.nameSources (b.rules.map Rule.state) [] (by simp)
  cases hvalidation : b.validation with
  | strict =>
    have hdangling : b.dangling = [] := hclosed hvalidation
    have hnamed := hsources.nameDestinations_strict b.rules
    rw [danglingFrom_sources, hdangling] at hnamed
    have hnames : b.stateNames = b.sources := by
      simp [stateNames, placeholders, hdangling, placeholderRules]
    exact ⟨_, [], hnamed, hnames ▸ hsources⟩
  | lenient =>
    obtain ⟨d, hnamed, hholds⟩ :=
      hsources.nameDestinations_lenient b.rules b.sources [] (by simp)
    exact ⟨d, _, hnamed, hholds⟩

/-- The program ends with the states of the table in its vector, and with a map that finds what
the table finds. `Holds.bind?_eq` gives the vector, and `lookup_eq` compares the map with the
search. -/
theorem exists_draft?_eq {t : Table δ} {log : List Report} (h : b.build = (.ok t, log)) :
    ∃ d, b.draft? = some (.ok d) ∧ d.states = t.states ∧
      ∀ name, d.index[name]? = t.lookup name := by
  obtain ⟨first, rest, hrules, hassemble, -, hclosed⟩ := assemble_of_build h
  obtain ⟨d, reports, hnamed, hholds⟩ := exists_nameDestinations_eq hclosed
  have hbind := hholds.bind?_eq (b := b) b.rules fun rule hrule =>
    ⟨state_mem_stateNames hrule, destination_mem_stateNames hrule⟩
  -- The table came about, so every rule is bound.
  obtain ⟨_, bound, -, hbound, rfl⟩ := assemble_eq_ok_iff.mp hassemble
  rw [hbound] at hbind
  obtain ⟨d', hdraft, hholds'⟩ := hbind
  refine ⟨d', ?_, hholds'.states, fun name => ?_⟩
  · rw [draft?, hnamed]
    exact hdraft
  · rw [hholds'.index, (declares_of_build h).lookup_eq]

/-! ### The whole table -/

/-- Exactly the declared graph. Every table that is built has the states, the transitions and the
beginning that the rows declare, and nothing else (`DeclaredGraph`). The program that keeps a
vector of states and a map from names ends with these states in the vector, and its map finds a
name exactly where the table does. -/
theorem declaredGraph_of_build {t : Table δ} {log : List Report} (h : b.build = (.ok t, log)) :
    b.DeclaredGraph t ∧
      ∃ d, b.draft? = some (.ok d) ∧ d.states = t.states ∧
        ∀ name, d.index[name]? = t.lookup name := by
  have hd : b.Declares t := declares_of_build h
  obtain ⟨_, _, _, _, hrepeated, hclosed⟩ := assemble_of_build h
  have hnodup : (b.actions.map Prod.fst).Nodup :=
    ((firstRepeated?_eq_none_iff [] _).mp hrepeated).1
  have hnames := stateNames_eq hclosed
  -- A state without transitions is no source. So it is open, which needs lenient building.
  have hempty : ∀ s ∈ t.states,
      s.transitions = [] ↔ b.validation = .lenient ∧ s.name ∈ declaredOpen b.rules := by
    intro s hs
    have hmem : s.name ∈ b.stateNames := by
      rw [← hd.names]
      exact List.mem_map_of_mem hs
    rw [hd.transitions_eq_nil_iff hs, sources_eq]
    rw [hnames, List.mem_append] at hmem
    constructor
    · intro hsource
      have hopen := hmem.resolve_left hsource
      by_cases hlenient : b.validation = .lenient
      · rw [if_pos hlenient] at hopen
        exact ⟨hlenient, hopen⟩
      · rw [if_neg hlenient] at hopen
        cases hopen
    · rintro ⟨-, hopen⟩ hsource
      rw [← sources_eq] at hsource
      obtain ⟨rule, hrule, hstate⟩ := (mem_sources b _).mp hsource
      exact ((mem_declaredOpen b.rules _).mp hopen).2 rule hrule hstate
  refine ⟨⟨?_, ?_, ?_, hd.lookup_eq_some_iff, ?_, hempty, ?_, hd.transitionCount_eq, ?_⟩,
    exists_draft?_eq h⟩
  · rw [hd.names, hnames]
  · exact fun i s hs => hd.numbered ⟨i⟩ s hs
  · rw [hd.names]
    exact nodup_stateNames b
  -- The rows of a state are rows of the builder, and each is carried by its transition.
  · intro s hs
    have hrows : ∀ rule ∈ b.rules.filter fun rule => rule.state = s.name, rule ∈ b.rules :=
      fun rule hrule => (List.mem_filter.mp hrule).1
    refine ((List.forall₂_and_left _ _).mpr ⟨hrows, hd.transitions s hs⟩).imp ?_
    exact fun rule tr ⟨hrule, hbinds⟩ => hd.carries_of_binds hnodup hrule hbinds
  · intro hstrict s hs hnil
    have hlenient := ((hempty s hs).mp hnil).1
    rw [hstrict] at hlenient
    cases hlenient
  -- The beginning is a source, so its state has transitions.
  · obtain ⟨first, rest, name, hrules, hname, hid⟩ := hd.initial
    have hsource : name ∈ b.sources := initialState_mem_sources (by simp [hrules]) hname
    obtain ⟨s, hs, rfl⟩ := hd.get?_idOf (List.mem_append_left _ hsource)
    refine ⟨first, rest, s, hrules, ?_, initialState_eq hname, fun hnil => ?_⟩
    · rw [hid]
      exact hs
    · exact (hd.transitions_eq_nil_iff (Table.mem_of_get? hs)).mp hnil hsource

/-- Rows of two states by turns. One row leads to a state that is declared below it, one
stays where it is, and two lead to a state without rows. -/
def crossing : TableBuilder Unit where
  rules :=
    [⟨"wait", .literal "go", some "work", some "note"⟩,
      ⟨"work", .literal "stop", some "over", none⟩,
      ⟨"wait", .any, none, none⟩,
      ⟨"work", .literal "rest", some "wait", none⟩,
      ⟨"wait", .literal "stop", some "over", some "note"⟩]
  actions := [("note", fun _ _ => .done none)]
  initial := some "work"
  validation := .lenient

/-- The theorem at `crossing`, whose rows jump between two states. The second state is the
beginning, and the third one has no transitions. -/
theorem declaredGraph_of_build_crossing :
    ∃ t log, crossing.build = (.ok t, log) ∧
      t.states.map State.name = ["wait", "work", "over"] ∧
      t.states.map (fun s => s.transitions.length) = [3, 2, 0] ∧ t.initial = ⟨1⟩ ∧
      crossing.DeclaredGraph t ∧
      ∃ d, crossing.draft? = some (.ok d) ∧ d.states = t.states ∧
        ∀ name, d.index[name]? = t.lookup name := by
  refine ⟨_, _, rfl, rfl, rfl, rfl, ?_⟩
  exact declaredGraph_of_build rfl

end TableBuilder

end LineMachine
