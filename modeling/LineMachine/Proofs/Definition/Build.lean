import LineMachine.Definition.Basic
import LineMachine.Proofs.Builtin.Kind
import LineMachine.Proofs.TableBuilder.Graph

/-!
# `LineMachine.Proofs.Definition.Build`: tables from definitions

A definition is compiled rule by rule and then built with the ready-made
actions.

* `TableDefinition.builder_of_build` and `TableDefinition.build_of_builder`: the
  table that a definition gives is the table of its compiled rules.
* `TableDefinition.compileFrom_cons_eq_ok_iff` and `TableDefinition.compileFrom_append`: rules are
  compiled one after the other.
* `Table.Standard` says that a table is well-formed and binds ready-made
  actions only, and `TableDefinition.standard_of_build` that every table of a
  definition is so.
-/

set_option autoImplicit false

namespace LineMachine

namespace TableDefinition

/-- The declaration with compiled rules and the ready-made actions. -/
def builder (d : TableDefinition) (rules : List Rule) (fallback : Validation) :
    TableBuilder Events :=
  ⟨rules, builtins, d.initial, d.validation.getD fallback⟩

/-- A table of a definition comes about only when all rules compile, and then it is the table of
`TableDefinition.builder`. So facts about built tables hold of it. -/
theorem builder_of_build {d : TableDefinition} {fallback : Validation} {t : Table Events}
    {log : List Report} (h : d.build fallback = (.ok t, log)) :
    ∃ rules, compileFrom 1 d.rules = .ok rules ∧
      (d.builder rules fallback).build = (.ok t, log) := by
  unfold build toBuilder at h
  cases hrules : compileFrom 1 d.rules with
  | error e =>
    rw [hrules] at h
    cases h
  | ok rules =>
    rw [hrules] at h
    rcases hbuild : (d.builder rules fallback).build with ⟨result, reports⟩
    unfold builder at hbuild
    simp only [bind, Except.bind, hbuild] at h
    cases result with
    | error e => cases h
    | ok built =>
      cases h
      exact ⟨rules, rfl, hbuild⟩

/-- When all rules compile, the definition gives the table of its compiled rules. It is used to
show that a changed definition still builds. -/
theorem build_of_builder {d : TableDefinition} {fallback : Validation} {t : Table Events}
    {log : List Report} {rules : List Rule} (hrules : compileFrom 1 d.rules = .ok rules)
    (h : (d.builder rules fallback).build = (.ok t, log)) : d.build fallback = (.ok t, log) := by
  unfold builder at h
  simp [build, toBuilder, hrules, bind, Except.bind, h]

/-- The first rule is compiled, and then the others with `compileFrom` counting on. Inductions over
rules that compile take one step with this and do not open `compileFrom`. -/
theorem compileFrom_cons_eq_ok_iff {number : Nat} {r : RuleDefinition}
    {defs : List RuleDefinition} {rules : List Rule} :
    compileFrom number (r :: defs) = .ok rules ↔ ∃ rule more, r.compile number = .ok rule ∧
      compileFrom (number + 1) defs = .ok more ∧ rules = rule :: more := by
  simp only [compileFrom, bind_eq_ok_iff, Except.ok.injEq, @eq_comm _ rules, exists_and_left]

/-- Rules are compiled one after the other, with `compileFrom` counting on. Rules at the end
change nothing in what those before them compile to. -/
theorem compileFrom_append {number : Nat} {defs more : List RuleDefinition} {rules : List Rule}
    (h : compileFrom number (defs ++ more) = .ok rules) :
    ∃ front back, rules = front ++ back ∧ compileFrom number defs = .ok front ∧
      compileFrom (number + defs.length) more = .ok back := by
  induction defs generalizing number rules with
  | nil => exact ⟨[], rules, rfl, rfl, h⟩
  | cons r rest ih =>
    obtain ⟨rule, compiled, hrule, hrest, rfl⟩ := compileFrom_cons_eq_ok_iff.mp h
    obtain ⟨front, back, rfl, hfront, hback⟩ := ih hrest
    refine ⟨rule :: front, back, rfl, ?_, ?_⟩
    · exact compileFrom_cons_eq_ok_iff.mpr ⟨rule, front, hrule, hfront, rfl⟩
    · rw [List.length_cons, Nat.add_comm rest.length 1, ← Nat.add_assoc]
      exact hback

end TableDefinition

/-- Well-formed, and with ready-made actions only. -/
structure Table.Standard (t : Table Events) : Prop extends Table.WellFormed t where
  builtin : ∀ s ∈ t.states, ∀ tr ∈ s.transitions, tr.IsBuiltin

/-- An action that is found among the ready-made ones is one of them. By `builtins_eq` it has a
`Builtin.Kind`, under the name that it was bound by. -/
theorem TableBuilder.isBuiltin_of_bindAction {b : TableBuilder Events} {rule : Rule}
    {tr : Transition Events} (hactions : b.actions ⊆ builtins)
    (h : b.bindAction rule = .ok tr.action) : tr.IsBuiltin := by
  unfold bindAction at h
  split at h
  · exact .inl (Except.ok.inj h).symm
  · rename_i name hname
    split at h
    · rename_i row hfind
      have hmem := hactions (List.mem_of_find?_eq_some hfind)
      rw [Builtin.Kind.builtins_eq, List.mem_map] at hmem
      obtain ⟨k, -, rfl⟩ := hmem
      -- The row was found under the name that the rule gives.
      have hk : k.name = name := by simpa using List.find?_some hfind
      subst hk
      exact .inr ⟨k, (Except.ok.inj h).symm⟩
    · cases h

/-- A table with ready-made actions only is `Table.Standard`: it is well-formed as every built
table is, and each of its transitions comes from a rule that binds one of them. -/
theorem TableBuilder.standard_of_build {b : TableBuilder Events} {t : Table Events}
    {log : List Report} (hactions : b.actions ⊆ builtins) (h : b.build = (.ok t, log)) :
    t.Standard := by
  refine ⟨wellFormed_of_build h, fun s hs tr htr => ?_⟩
  obtain ⟨rule, -, -, hbinds⟩ := (declares_of_build h).rule_of_mem hs htr
  exact isBuiltin_of_bindAction hactions hbinds.action

/-- Every table of a definition is `Table.Standard`, as a definition registers the ready-made
actions and no others. All results about definitions begin with this. -/
theorem TableDefinition.standard_of_build {d : TableDefinition} {fallback : Validation}
    {t : Table Events} {log : List Report} (h : d.build fallback = (.ok t, log)) :
    t.Standard := by
  obtain ⟨rules, -, hbuild⟩ := builder_of_build h
  exact TableBuilder.standard_of_build (List.Subset.refl builtins) hbuild

end LineMachine
