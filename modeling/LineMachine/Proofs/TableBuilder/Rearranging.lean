import LineMachine.Proofs.Keyed
import LineMachine.Proofs.TableBuilder.Continuing
import LineMachine.Proofs.TableBuilder.Verdict

/-!
# `LineMachine.Proofs.TableBuilder.Rearranging`: rows in another order

The states are numbered in the order in which the rows mention them. Another
order of the rows gives other numbers, and maybe another first fault. What it
does not change is stated here, for declarations with the ready-made actions
whose rows keep their order within each state.

* `TableBuilder.Rearranges` compares two such declarations.
* `TableBuilder.Rearranges.verdict_eq`: both can be built, or both fail with an
  error of one kind.
* `TableBuilder.Rearranges.sameKind_or_runsAlike`: when they are built, every run
  is the same in both tables.
-/

set_option autoImplicit false

namespace LineMachine

namespace TableBuilder

/-- Two declarations with the ready-made actions and the same settings, whose
rows are the same up to their order:

- `actions`, `actions'`: the ready-made actions are registered, in any order;
- `validation`, `initial`: the settings agree;
- `first`: when no beginning is set, the first rows have one source state;
- `rows`: the rows of one are a permutation of those of the other;
- `order`: the rows of one source state stand in the same order. -/
structure Rearranges (b b' : TableBuilder Events) : Prop where
  actions : b.actions.Perm builtins
  actions' : b'.actions.Perm builtins
  validation : b'.validation = b.validation
  initial : b'.initial = b.initial
  first : b.initial = none → b'.rules.head?.map Rule.state = b.rules.head?.map Rule.state
  rows : b'.rules.Perm b.rules
  order : ∀ name : String, (b'.rules.filter fun rule => rule.state = name) =
    b.rules.filter fun rule => rule.state = name

/-! ### Registered actions -/

/-- The ready-made actions have different names. So the order of their registration plays no part,
and no `duplicateAction` can arise. -/
theorem nodup_builtins : (builtins.map Prod.fst).Nodup := by decide

namespace Rearranges

variable {b b' : TableBuilder Events}

/-- A rule binds the same action in both declarations: the registrations are a permutation of
`builtins`, and `find?_key_perm` says that the search does not notice. -/
theorem bindAction_eq (h : b.Rearranges b') (rule : Rule) :
    b'.bindAction rule = b.bindAction rule := by
  have hactions : b'.actions.Perm b.actions := h.actions'.trans h.actions.symm
  have hnodup : (b.actions.map Prod.fst).Nodup :=
    (h.actions.map Prod.fst).nodup_iff.mpr nodup_builtins
  unfold bindAction
  cases rule.action with
  | none => rfl
  | some name => simp only [find?_key_perm hactions hnodup name]

/-! ### Faults -/

/-- The sources are the same names, maybe in another order. Every check asks for membership only,
which is why `verdict_eq` holds. -/
theorem mem_sources_iff (h : b.Rearranges b') (name : String) :
    name ∈ b'.sources ↔ name ∈ b.sources := by
  simp only [mem_sources, h.rows.mem_iff]

/-- The same rows dangle. Which of them comes first can differ, and with it the names in the error
of strict building. -/
theorem mem_dangling_iff (h : b.Rearranges b') (row : String × String) :
    row ∈ b'.dangling ↔ row ∈ b.dangling := by
  simp only [mem_dangling, h.rows.mem_iff, h.mem_sources_iff]

/-- No check looks at the order of the rows, so the same ones fail: each condition in
`TableBuilder.verdict` is about a set of rows, names or registrations. -/
theorem verdict_eq (h : b.Rearranges b') : b'.verdict = b.verdict := by
  have hactions : b'.actions.Perm b.actions := h.actions'.trans h.actions.symm
  have hrules : b'.rules = [] ↔ b.rules = [] := by
    rw [← List.length_eq_zero_iff, h.rows.length_eq, List.length_eq_zero_iff]
  have hnodup : (b'.actions.map Prod.fst).Nodup ↔ (b.actions.map Prod.fst).Nodup :=
    (hactions.map Prod.fst).nodup_iff
  have hclosed : b'.IsClosed ↔ b.IsClosed := by
    simp only [IsClosed, h.validation, List.eq_nil_iff_forall_not_mem, h.mem_dangling_iff]
  have hbeginning : b'.BeginsAtSource ↔ b.BeginsAtSource := by
    simp only [BeginsAtSource, h.initial, h.mem_sources_iff]
  have hbound : b'.BindsRegistered ↔ b.BindsRegistered := by
    simp only [BindsRegistered, h.rows.mem_iff, (hactions.map Prod.fst).mem_iff]
  simp only [verdict, hrules, hnodup, hclosed, hbeginning, hbound]

/-! ### Runs -/

/-- Both begin at the same name. Where none is set the first rows decide, and `Rearranges.first`
is there for this case alone. -/
theorem beginning_eq (h : b.Rearranges b') : b'.beginning = b.beginning := by
  unfold beginning
  rw [h.initial]
  cases hinitial : b.initial with
  | none => rw [h.first hinitial]
  | some name => rfl

/-- Each state has the same rules in the same order, and none behind them. This is `Continues` at
its strictest, with `loose` false and nothing more. -/
theorem continues (h : b.Rearranges b') : b.Continues False b' := by
  intro name
  refine ⟨[], ?_, .inr (.inl rfl)⟩
  rw [h.order name, List.append_nil]

/-- When both are built, every run is the same in both tables. It follows from
`Continues.follows`, since a table that follows another one under `False` runs alike. -/
theorem runsAlike (h : b.Rearranges b') {t t' : Table Events} {log log' : List Report}
    (hbuild : b.build = (.ok t, log)) (hbuild' : b'.build = (.ok t', log')) : t.RunsAlike t' := by
  have hd := declares_of_build hbuild
  have hd' := declares_of_build hbuild'
  have hstandard : t.Standard := standard_of_build h.actions.subset hbuild
  have hstandard' : t'.Standard := standard_of_build h.actions'.subset hbuild'
  have hfollows := h.continues.follows hd hd' hstandard hstandard' h.bindAction_eq
    (sameName_initial hd hd' h.beginning_eq)
  exact hfollows.runsAlike

/-- Only the order within a state matters. Both declarations fail with an error of the same kind,
or both are built and every run is the same in both tables (`Table.RunsAlike`), whatever the
numbers of the states. -/
theorem sameKind_or_runsAlike (h : b.Rearranges b') :
    (∃ e e' log log', b.build = (.error e, log) ∧ b'.build = (.error e', log') ∧
      e'.kind = e.kind) ∨
    ∃ t t' log log', b.build = (.ok t, log) ∧ b'.build = (.ok t', log') ∧ t.RunsAlike t' := by
  have hkind : BuildError.kind? b'.build.1 = BuildError.kind? b.build.1 := by
    rw [kind?_build, kind?_build, h.verdict_eq]
  rcases hbuild : b.build with ⟨e | t, log⟩
  · rcases hbuild' : b'.build with ⟨e' | t', log'⟩
    · rw [hbuild, hbuild'] at hkind
      exact .inl ⟨e, e', log, log', rfl, rfl, Option.some.inj hkind⟩
    · rw [hbuild, hbuild'] at hkind
      cases hkind
  · rcases hbuild' : b'.build with ⟨e' | t', log'⟩
    · rw [hbuild, hbuild'] at hkind
      cases hkind
    · exact .inr ⟨t, t', log, log', rfl, rfl, h.runsAlike hbuild hbuild'⟩

/-- Rows of two states, and two destinations without rows. -/
def byState : TableBuilder Events where
  rules :=
    [⟨"outer", .literal "open", some "inner", some "push"⟩,
      ⟨"outer", .any, some "end", some "emit"⟩,
      ⟨"inner", .literal "close", none, some "pop"⟩,
      ⟨"inner", .any, some "rest", none⟩]
  actions := builtins
  initial := some "outer"
  validation := .lenient

/-- The same rows, those of the two states by turns. -/
def byTurns : TableBuilder Events where
  rules :=
    [⟨"inner", .literal "close", none, some "pop"⟩,
      ⟨"outer", .literal "open", some "inner", some "push"⟩,
      ⟨"inner", .any, some "rest", none⟩,
      ⟨"outer", .any, some "end", some "emit"⟩]
  actions := builtins.reverse
  initial := some "outer"
  validation := .lenient

/-- The two declarations are rearrangements of each other: the actions are reversed, and the rows
of a state keep their order. The theorem after it has this as its hypothesis. -/
theorem rearranges_byTurns : byState.Rearranges byTurns where
  actions := .refl builtins
  actions' := List.reverse_perm builtins
  validation := rfl
  initial := rfl
  first := fun hnone => by cases hnone
  rows := by
    refine (List.Perm.swap _ _ _).trans (.cons _ ?_)
    exact @List.perm_append_comm Rule
      [⟨"inner", .literal "close", none, some "pop"⟩, ⟨"inner", .any, some "rest", none⟩]
      [⟨"outer", .any, some "end", some "emit"⟩]
  order := by
    intro name
    by_cases houter : "outer" = name
    · subst houter
      rfl
    · by_cases hinner : "inner" = name
      · subst hinner
        rfl
      · simp [byState, byTurns, houter, hinner]

/-- The theorem at `byState` and `byTurns`. Every state changes its number, and every run stays
the same. -/
theorem sameKind_or_runsAlike_byTurns :
    byState.Rearranges byTurns ∧ ∃ t t' log log', byState.build = (.ok t, log) ∧
      byTurns.build = (.ok t', log') ∧
      ["outer", "inner", "end", "rest"].map t.lookup = [some ⟨0⟩, some ⟨1⟩, some ⟨2⟩, some ⟨3⟩] ∧
      ["outer", "inner", "end", "rest"].map t'.lookup = [some ⟨1⟩, some ⟨0⟩, some ⟨3⟩, some ⟨2⟩] ∧
      t.RunsAlike t' := by
  refine ⟨rearranges_byTurns, ?_⟩
  rcases sameKind_or_runsAlike rearranges_byTurns with ⟨e, e', log, log', hbuild, -⟩ |
    ⟨t, t', log, log', hbuild, hbuild', hruns⟩
  · cases hbuild
  · refine ⟨t, t', log, log', hbuild, hbuild', ?_, ?_, hruns⟩
    · cases hbuild
      rfl
    · cases hbuild'
      rfl

end Rearranges

end TableBuilder

end LineMachine
