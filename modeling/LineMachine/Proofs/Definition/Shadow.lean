import LineMachine.Proofs.TableBuilder.Continuing
import LineMachine.Proofs.TableBuilder.Verdict

/-!
# `LineMachine.Proofs.Definition.Shadow`: rules that can never be taken

A table reports its shadowed transitions by state and position. Each stands for
a rule of the definition: the one at that position among the rules of the state.
This module takes these rules out of the definition and shows that nothing is
lost.

* `keepFrom` takes elements out of a list by their place among those of one
  state, and `filter_keepFrom` says which of a state are left.
* `TableBuilder.Declares.hides_iff`: behind the first rule that matches every line,
  a state has shadowed rules only. So each state keeps its first rules, as `reach`
  counts them.
* `TableDefinition.withoutShadowed` is the definition without the reported
  rules, and `TableDefinition.runsAlike_withoutShadowed` the result: it builds,
  nothing in it is shadowed, and every run is as before.

The states keep at least one rule each, so the sources stay. Destinations
without rules can disappear, so the numbers of such states can change.
-/

set_option autoImplicit false

namespace LineMachine

/-! ### Taking elements out by state and place -/

section Keep

variable {α : Type}

/-- The elements that are not dropped. Each is told by its state and by its
place among the elements of that state, counted from 0; `before` are the states
of the elements in front. -/
def keepFrom (state : α → String) (dropped : String → Nat → Bool) (before : List String) :
    List α → List α
  | [] => []
  | a :: rest =>
    if dropped (state a) (before.count (state a)) then
      keepFrom state dropped (state a :: before) rest
    else a :: keepFrom state dropped (state a :: before) rest

/-- What `keepFrom` keeps are elements of the list in their order. So no rule is new in the
definition that is left. -/
theorem keepFrom_sublist (state : α → String) (dropped : String → Nat → Bool)
    (before : List String) (l : List α) : (keepFrom state dropped before l).Sublist l := by
  induction l generalizing before with
  | nil => exact .refl []
  | cons a rest ih =>
    rw [keepFrom]
    split
    · exact .cons a (ih (state a :: before))
    · exact .cons_cons a (ih (state a :: before))

/-- Where a state drops everything from a place on, `keepFrom` leaves its first elements. The
induction is on the list, and `before` counts how many elements of the state have been passed. -/
theorem filter_keepFrom {state : α → String} {dropped : String → Nat → Bool} {name : String}
    {limit : Nat} {before : List String} {l : List α}
    (h : ∀ place, before.count name ≤ place →
      place < before.count name + (l.filter fun a => state a = name).length →
      (dropped name place = true ↔ limit ≤ place)) :
    ((keepFrom state dropped before l).filter fun a => state a = name) =
      (l.filter fun a => state a = name).take (limit - before.count name) := by
  induction l generalizing before with
  | nil => simp [keepFrom]
  | cons a rest ih =>
    by_cases hname : state a = name
    · subst hname
      have hcount : (state a :: before).count (state a) = before.count (state a) + 1 := by simp
      have hfilter : ((a :: rest).filter fun other => state other = state a) =
          a :: rest.filter fun other => state other = state a := by simp
      rw [hfilter, List.length_cons] at h
      have hrest := @ih (state a :: before) (by
        intro place hlow hhigh
        rw [hcount] at hlow hhigh
        exact h place (by omega) (by omega))
      rw [hcount] at hrest
      have hhere := h (before.count (state a)) (Nat.le_refl _) (by omega)
      rw [hfilter, keepFrom]
      cases hdropped : dropped (state a) (before.count (state a)) with
      | true =>
        -- From here on everything is dropped.
        have hlimit : limit ≤ before.count (state a) := hhere.mp hdropped
        rw [if_pos rfl, hrest]
        have hnone : limit - (before.count (state a) + 1) = 0 := by omega
        have hnone' : limit - before.count (state a) = 0 := by omega
        rw [hnone, hnone', List.take_zero, List.take_zero]
      | false =>
        have hlimit : before.count (state a) < limit := by
          by_contra hge
          rw [hhere.mpr (by omega)] at hdropped
          cases hdropped
        have hone : limit - before.count (state a) =
            limit - (before.count (state a) + 1) + 1 := by omega
        rw [if_neg Bool.false_ne_true, List.filter_cons_of_pos (by simp), hrest, hone,
          List.take_succ_cons]
    · have hcount : (state a :: before).count name = before.count name :=
        List.count_cons_of_ne hname
      have hfilter : ((a :: rest).filter fun other => state other = name) =
          rest.filter fun other => state other = name := by simp [hname]
      rw [hfilter] at h
      have hrest := @ih (state a :: before) (by rwa [hcount])
      rw [hcount] at hrest
      rw [hfilter, keepFrom, ← hrest]
      split
      · rfl
      · simp [hname]

end Keep

/-! ### What a table reports -/

/-- How many rules of a state come to be tried: those up to the first one that
matches every line, or all. -/
def reach (rules : List Rule) : Nat :=
  match rules.findIdx? fun rule => rule.pattern.isAny with
  | some first => first + 1
  | none => rules.length

/-- No more rules come to be tried than there are. It bounds the places that `reach` leaves
out. -/
theorem reach_le_length (rules : List Rule) : reach rules ≤ rules.length := by
  unfold reach
  split
  · rename_i first hfirst
    obtain ⟨hlt, -⟩ := List.findIdx?_eq_some_iff_getElem.mp hfirst
    omega
  · exact Nat.le_refl _

/-- A state that has rules keeps at least its first one, whether or not this matches every
line. -/
theorem reach_pos {rules : List Rule} (h : rules ≠ []) : 0 < reach rules := by
  unfold reach
  split
  · omega
  · exact List.length_pos_iff.mpr h

/-- Where rules are left out, the last one that is kept matches every line. So a line that comes
to such a state never gets to the rules that are gone. -/
theorem drop_reach (rules : List Rule) :
    rules.drop (reach rules) = [] ∨
      ∃ rule ∈ rules.take (reach rules), rule.pattern.isAny = true := by
  unfold reach
  split
  · rename_i first hfirst
    obtain ⟨hlt, hany, -⟩ := List.findIdx?_eq_some_iff_getElem.mp hfirst
    refine .inr ⟨rules[first], ?_, hany⟩
    rw [List.take_succ_eq_append_getElem hlt]
    exact List.mem_append_right _ List.mem_cons_self
  · exact .inl List.drop_length

/-- All rules that are kept come to be tried: taking rules away behind the first catch-all does
not move it, so `reach` of what is left is all of it. -/
theorem reach_take (rules : List Rule) :
    reach (rules.take (reach rules)) = (rules.take (reach rules)).length := by
  have hlength := List.length_take_of_le (reach_le_length rules)
  cases hfirst : rules.findIdx? fun rule => rule.pattern.isAny with
  | none =>
    have hall : reach rules = rules.length := by simp [reach, hfirst]
    rw [hall, List.take_length, hall]
  | some first =>
    have hsome : reach rules = first + 1 := by simp [reach, hfirst]
    rw [hlength]
    rw [hsome]
    simp [reach, List.findIdx?_take, hfirst]

/-- Whether the table reports the transition at a place of a state, which is told
by its name. -/
def Table.hides (t : Table Events) (name : String) (place : Nat) : Bool :=
  t.shadowed.any fun sh => t.nameOf sh.state = name && sh.index = place

namespace TableBuilder

variable {b : TableBuilder Events} {t : Table Events}

/-- Rules and their transitions have the same catch-all, since a transition has the pattern of its
rule. -/
theorem findIdx?_isAny_eq {rules : List Rule} {trs : List (Transition Events)}
    (h : List.Forall₂ b.Binds rules trs) :
    (trs.findIdx? fun tr => tr.pattern.isAny) = rules.findIdx? fun rule => rule.pattern.isAny := by
  induction h with
  | nil => rfl
  | cons hbinds _ ih => rw [List.findIdx?_cons, List.findIdx?_cons, hbinds.pattern, ih]

/-- A place in a state is in `State.shadowed` exactly when the rule there does not come to be
tried. The report counts transitions, and `reach` counts rules. -/
theorem Declares.shadowed_iff (h : b.Declares t) {s : State Events} (hs : s ∈ t.states)
    (place : Nat) :
    (∃ sh ∈ s.shadowed, sh.index = place) ↔
      reach (b.rules.filter fun rule => rule.state = s.name) ≤ place ∧
        place < (b.rules.filter fun rule => rule.state = s.name).length := by
  have hlength := (h.transitions s hs).length_eq
  -- The first catch-all among the transitions is the first one among the rules.
  have hcatchAll : s.catchAll? =
      (b.rules.filter fun rule => rule.state = s.name).findIdx? fun rule => rule.pattern.isAny :=
    findIdx?_isAny_eq (h.transitions s hs)
  unfold reach
  rw [← hcatchAll, hlength]
  constructor
  · rintro ⟨sh, hsh, rfl⟩
    obtain ⟨-, hfirst, hlow, hhigh⟩ := State.mem_shadowed_iff.mp hsh
    rw [hfirst]
    exact ⟨hlow, hhigh⟩
  · rintro ⟨hlow, hhigh⟩
    cases hfirst : s.catchAll? with
    | none =>
      rw [hfirst] at hlow
      have hall : s.transitions.length ≤ place := hlow
      omega
    | some first =>
      rw [hfirst] at hlow
      exact ⟨⟨s.id, place, first⟩, State.mem_shadowed_iff.mpr ⟨rfl, hfirst, hlow, hhigh⟩, rfl⟩

/-- A table in which every rule comes to be tried reports nothing in `Table.shadowed`. -/
theorem Declares.shadowed_eq_nil (h : b.Declares t)
    (hreach : ∀ name : String, reach (b.rules.filter fun rule => rule.state = name) =
      (b.rules.filter fun rule => rule.state = name).length) : t.shadowed = [] := by
  rw [Table.shadowed, List.flatMap_eq_nil_iff]
  intro s hs
  rw [List.eq_nil_iff_forall_not_mem]
  intro sh hsh
  obtain ⟨hlow, hhigh⟩ := (h.shadowed_iff hs sh.index).mp ⟨sh, hsh, rfl⟩
  rw [hreach s.name] at hlow
  omega

/-- The reported places of a state are those of the rules that do not come to be tried. The state
is told by its name, which no other state has. -/
theorem Declares.hides_iff (h : b.Declares t) (name : String) (place : Nat) :
    t.hides name place = true ↔
      reach (b.rules.filter fun rule => rule.state = name) ≤ place ∧
        place < (b.rules.filter fun rule => rule.state = name).length := by
  simp only [Table.hides, List.any_eq_true, Bool.and_eq_true, decide_eq_true_eq, Table.shadowed,
    List.mem_flatMap]
  -- A report carries the number of its state, which leads back to the name.
  have hnameOf : ∀ s ∈ t.states, ∀ sh ∈ s.shadowed, t.nameOf sh.state = s.name := by
    intro s hs sh hsh
    obtain ⟨i, hi⟩ := List.mem_iff_getElem?.mp hs
    have hget : t.get? sh.state = some s := by
      rw [(State.mem_shadowed_iff.mp hsh).1, h.numbered ⟨i⟩ s hi]
      exact hi
    exact Table.nameOf_of_get? hget
  constructor
  · rintro ⟨sh, ⟨s, hs, hsh⟩, rfl, rfl⟩
    rw [hnameOf s hs sh hsh]
    exact (h.shadowed_iff hs sh.index).mp ⟨sh, hsh, rfl⟩
  · rintro ⟨hlow, hhigh⟩
    -- A state with a rule is a state of the table.
    obtain ⟨rule, hrule⟩ := List.exists_mem_of_length_pos (Nat.lt_of_le_of_lt (Nat.zero_le _) hhigh)
    obtain ⟨hmem, hstate⟩ := List.mem_filter.mp hrule
    have hname : name ∈ t.states.map State.name := by
      rw [h.names, ← of_decide_eq_true hstate]
      exact state_mem_stateNames hmem
    obtain ⟨s, hs, rfl⟩ := List.mem_map.mp hname
    obtain ⟨sh, hsh, rfl⟩ := (h.shadowed_iff hs place).mpr ⟨hlow, hhigh⟩
    exact ⟨sh, ⟨s, hs, hsh⟩, hnameOf s hs sh hsh, rfl⟩

/-! ### The declaration without the reported rules -/

/-- The declaration without the rules that the table reports. -/
def withoutShadowed (b : TableBuilder Events) (t : Table Events) : TableBuilder Events :=
  { b with rules := keepFrom Rule.state t.hides [] b.rules }

/-- Each state keeps the rules that come to be tried, its first ones as `reach` counts them. It is
`filter_keepFrom` with the places that the table reports. -/
theorem Declares.filter_withoutShadowed (h : b.Declares t) (name : String) :
    ((b.withoutShadowed t).rules.filter fun rule => rule.state = name) =
      (b.rules.filter fun rule => rule.state = name).take
        (reach (b.rules.filter fun rule => rule.state = name)) := by
  refine filter_keepFrom fun place _ hhigh => ?_
  rw [h.hides_iff name place]
  simp only [List.count_nil, Nat.zero_add] at hhigh
  exact ⟨fun hboth => hboth.1, fun hlow => ⟨hlow, hhigh⟩⟩

/-- A rule that is left is one of the declaration, by `keepFrom_sublist`. -/
theorem mem_of_withoutShadowed {rule : Rule} (h : rule ∈ (b.withoutShadowed t).rules) :
    rule ∈ b.rules :=
  (keepFrom_sublist Rule.state t.hides [] b.rules).subset h

/-- No state loses all of its rules, by `reach_pos`. So the states that rules begin at are the
same as before. -/
theorem Declares.sources_withoutShadowed (h : b.Declares t) (name : String) :
    name ∈ (b.withoutShadowed t).sources ↔ name ∈ b.sources := by
  rw [mem_sources, mem_sources]
  constructor
  · rintro ⟨rule, hrule, hstate⟩
    exact ⟨rule, mem_of_withoutShadowed hrule, hstate⟩
  · rintro ⟨rule, hrule, hstate⟩
    have hmem : rule ∈ b.rules.filter fun rule => rule.state = name :=
      List.mem_filter.mpr ⟨hrule, by simpa using hstate⟩
    have hlength :
        0 < ((b.withoutShadowed t).rules.filter fun rule => rule.state = name).length := by
      rw [h.filter_withoutShadowed name, List.length_take_of_le (reach_le_length _)]
      exact reach_pos (List.ne_nil_of_mem hmem)
    obtain ⟨kept, hkept⟩ := List.exists_mem_of_length_pos hlength
    obtain ⟨hkept, hsame⟩ := List.mem_filter.mp hkept
    exact ⟨kept, hkept, of_decide_eq_true hsame⟩

/-- The first rule of all is the first one of its state, so it stays. Where a declaration names no
beginning, its first rule tells it. -/
theorem Declares.head?_withoutShadowed (h : b.Declares t) :
    (b.withoutShadowed t).rules.head? = b.rules.head? := by
  obtain ⟨first, rest, -, hrules, -⟩ := h.initial
  have hkept : t.hides first.state 0 = false := by
    by_contra hhides
    obtain ⟨hreach, -⟩ := (h.hides_iff first.state 0).mp (by simpa using hhides)
    have hmem : first ∈ b.rules.filter fun rule => rule.state = first.state := by simp [hrules]
    have hpos := reach_pos (List.ne_nil_of_mem hmem)
    omega
  rw [withoutShadowed, hrules, keepFrom]
  simp [hkept]

/-- What is left can be built: its rules are among those of the declaration, and the sources that
`TableBuilder.Buildable` asks for are all there. -/
theorem Declares.buildable_withoutShadowed (h : b.Declares t) (hb : b.Buildable) :
    (b.withoutShadowed t).Buildable where
  rules := by
    intro hnil
    have hhead := h.head?_withoutShadowed
    rw [hnil, List.head?_nil, eq_comm, List.head?_eq_none_iff] at hhead
    exact hb.rules hhead
  actions := hb.actions
  -- A row that dangles in what is left dangles in the whole, as the sources are the same.
  closed := by
    intro hstrict
    rw [List.eq_nil_iff_forall_not_mem]
    intro row hrow
    obtain ⟨rule, hrule, hstate, hdestination, hnot⟩ := (mem_dangling _ row).mp hrow
    rw [h.sources_withoutShadowed] at hnot
    have hdangling : row ∈ b.dangling :=
      (mem_dangling b row).mpr ⟨rule, mem_of_withoutShadowed hrule, hstate, hdestination, hnot⟩
    rw [hb.closed hstrict] at hdangling
    cases hdangling
  beginning := by
    intro name hname
    rw [h.sources_withoutShadowed]
    exact hb.beginning name hname
  bound := fun rule hrule => hb.bound rule (mem_of_withoutShadowed hrule)

/-- The whole declaration continues what is left in the sense of `TableBuilder.Continues`: only
behind a catch-all does it have further rules, by `drop_reach`. -/
theorem Declares.continues_withoutShadowed (h : b.Declares t) :
    (b.withoutShadowed t).Continues False b := by
  intro name
  refine ⟨(b.rules.filter fun rule => rule.state = name).drop
    (reach (b.rules.filter fun rule => rule.state = name)), ?_, .inr ?_⟩
  · rw [h.filter_withoutShadowed name, List.take_append_drop]
  · refine (drop_reach _).imp_right ?_
    rintro ⟨rule, hrule, hany⟩
    rw [← h.filter_withoutShadowed name] at hrule
    obtain ⟨hmem, hstate⟩ := List.mem_filter.mp hrule
    exact ⟨rule, hmem, of_decide_eq_true hstate, hany⟩

/-- In what is left every rule comes to be tried, by `reach_take`, so its table reports
nothing. -/
theorem Declares.shadowed_withoutShadowed {t' : Table Events} (h : b.Declares t)
    (h' : (b.withoutShadowed t).Declares t') : t'.shadowed = [] := by
  refine h'.shadowed_eq_nil fun name => ?_
  rw [h.filter_withoutShadowed name]
  exact reach_take _

end TableBuilder

namespace RuleDefinition

/-- A rule compiles to one of its state, and the number of the rule shows in errors only. Rules
behind one that is taken out get other numbers. -/
theorem compile_eq_ok {r : RuleDefinition} {number : Nat} {rule : Rule}
    (h : r.compile number = .ok rule) :
    rule.state = r.state ∧ ∀ other : Nat, r.compile other = .ok rule := by
  -- The number is used for errors only, and a pattern that is read has none.
  have hpattern : ∀ other pattern, r.pattern number = .ok pattern →
      r.pattern other = .ok pattern := by
    intro other pattern hok
    unfold RuleDefinition.pattern at hok ⊢
    split at hok
    · cases hok
    · exact hok
    · split at hok
      · exact hok
      · cases hok
    · exact hok
  obtain ⟨pattern, hok, h⟩ := bind_eq_ok_iff.mp h
  cases h
  exact ⟨rfl, fun other => bind_eq_ok_iff.mpr ⟨pattern, hpattern other pattern hok, rfl⟩⟩

end RuleDefinition

namespace TableDefinition

/-- The definition without the rules that its table reports as shadowed. -/
def withoutShadowed (d : TableDefinition) (t : Table Events) : TableDefinition :=
  { d with rules := keepFrom RuleDefinition.state t.hides [] d.rules }

/-- Compiling goes rule by rule, so what `keepFrom` leaves compiles to what it leaves of the
compiled rules. -/
theorem compileFrom_keepFrom {dropped : String → Nat → Bool} {before : List String}
    {number other : Nat} {defs : List RuleDefinition} {rules : List Rule}
    (h : compileFrom number defs = .ok rules) :
    compileFrom other (keepFrom RuleDefinition.state dropped before defs) =
      .ok (keepFrom Rule.state dropped before rules) := by
  induction defs generalizing number other before rules with
  | nil =>
    cases h
    rfl
  | cons r rest ih =>
    obtain ⟨rule, compiled, hrule, hrest, rfl⟩ := compileFrom_cons_eq_ok_iff.mp h
    obtain ⟨hstate, hany⟩ := RuleDefinition.compile_eq_ok hrule
    rw [keepFrom, keepFrom, hstate]
    split
    · exact ih hrest
    · exact compileFrom_cons_eq_ok_iff.mpr ⟨rule, _, hany other, ih hrest, rfl⟩

variable {d : TableDefinition} {fallback : Validation} {t : Table Events} {log : List Report}

/-- Shadowed rules are dead. Without them (`TableDefinition.withoutShadowed`) a definition still
builds, its table reports no shadowed rule, and every run is as before. -/
theorem runsAlike_withoutShadowed (h : d.build fallback = (.ok t, log)) :
    ∃ t' log', (d.withoutShadowed t).build fallback = (.ok t', log') ∧ t'.shadowed = [] ∧
      t.RunsAlike t' := by
  obtain ⟨rules, hrules, hbuild⟩ := builder_of_build h
  have hd := TableBuilder.declares_of_build hbuild
  have hbuildable := (TableBuilder.exists_build_iff _).mp ⟨t, log, hbuild⟩
  obtain ⟨t', log', hbuild'⟩ :=
    (TableBuilder.exists_build_iff _).mpr (hd.buildable_withoutShadowed hbuildable)
  have hd' := TableBuilder.declares_of_build hbuild'
  have h' : (d.withoutShadowed t).build fallback = (.ok t', log') :=
    build_of_builder (compileFrom_keepFrom hrules) hbuild'
  refine ⟨t', log', h', hd.shadowed_withoutShadowed hd', ?_⟩
  have hbeginning : (d.builder rules fallback).beginning =
      ((d.builder rules fallback).withoutShadowed t).beginning := by
    rw [TableBuilder.beginning, TableBuilder.beginning, hd.head?_withoutShadowed]
    rfl
  -- The shorter definition is followed, and the comparison turned round.
  have hfollows := hd.continues_withoutShadowed.follows hd' hd (standard_of_build h')
    (standard_of_build h) (fun _ => rfl) (TableBuilder.sameName_initial hd' hd hbeginning)
  exact hfollows.runsAlike.symm

/-- A rule behind a catch-all, with a destination that has no rules, between two
states that take lines back and forth. -/
def deadEnd : TableDefinition where
  initial := none
  validation := some .lenient
  rules :=
    [⟨"outer", some "open", none, some "inner", some "push"⟩,
      ⟨"outer", none, none, none, some "emit"⟩,
      ⟨"outer", some "lost", none, some "limbo", none⟩,
      ⟨"inner", some "close", none, some "exit", some "pop"⟩,
      ⟨"inner", some "stop", none, some "exit", none⟩]

/-- The third rule of `deadEnd` goes, and its destination with it, so `exit` changes its number.
Runs show names only and are as before. -/
theorem runsAlike_withoutShadowed_deadEnd :
    ∃ t log t' log', deadEnd.build .strict = (.ok t, log) ∧ t.shadowed = [⟨⟨0⟩, 2, 1⟩] ∧
      t.lookup "exit" = some ⟨3⟩ ∧ (deadEnd.withoutShadowed t).build .strict = (.ok t', log') ∧
      t'.shadowed = [] ∧ t'.lookup "exit" = some ⟨2⟩ ∧ t.RunsAlike t' := by
  obtain ⟨t', log', hbuild, hnone, hruns⟩ := @runsAlike_withoutShadowed deadEnd .strict _ _ rfl
  refine ⟨_, _, t', log', rfl, rfl, rfl, hbuild, hnone, ?_, hruns⟩
  cases hbuild
  rfl

end TableDefinition

end LineMachine
