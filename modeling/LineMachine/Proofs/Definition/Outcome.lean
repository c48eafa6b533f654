import LineMachine.Proofs.Definition.Build
import LineMachine.Proofs.TableBuilder.Declared
import LineMachine.Proofs.TableBuilder.Rearranging
import LineMachine.Proofs.TableBuilder.Refusal

/-!
# `LineMachine.Proofs.Definition.Outcome`: which error a definition gets

A definition can be wrong in many places at once. Its rules are compiled first, in order, and
building begins when all of them are. So a rule that does not compile is reported before
anything that is wrong with the table, wherever it stands.

* `RuleDefinition.Flaw` is what can be wrong with a rule by itself, and `RuleDefinition.IsRow`
  what the rule means otherwise. `RuleDefinition.flaw_or_isRow`: it is one of the two, and
  compiling finds out which (`Flaw.compile_eq`, `IsRow.compile_eq`).
* `TableDefinition.FirstFlaw` is the first rule that is wrong, with its number.
  `TableDefinition.compileFrom_eq_error_iff`, `TableDefinition.compileFrom_eq_ok` and
  `TableDefinition.exists_rows` say the same of all rules in a row.
* `TableBuilder.exists_transition`: a row is the transition of its state at the place which it
  has among the rows of that state.
* `TableDefinition.build_outcome` puts this together.
-/

set_option autoImplicit false

namespace LineMachine

namespace RuleDefinition

/-- What is wrong with rule number `number` by itself:

- `ambiguous`: it has two patterns, whatever they are;
- `invalid`: its only pattern is an expression that does not compile. -/
inductive Flaw (r : RuleDefinition) (number : Nat) : DefinitionError → Prop where
  | ambiguous {text source : String} (literal : r.literal = some text)
      (regex : r.regex = some source) : Flaw r number (.ambiguousPattern number r.state)
  | invalid {source : String} {fault : Regex.Fault} (literal : r.literal = none)
      (regex : r.regex = some source) (compiled : Regex.compile source = .error fault) :
      Flaw r number (.invalidRegex number r.state fault)

/-- The pattern that a rule means. -/
inductive IsPattern (r : RuleDefinition) : Pattern → Prop where
  | any (literal : r.literal = none) (regex : r.regex = none) : IsPattern r .any
  | literal {text : String} (literal : r.literal = some text) (regex : r.regex = none) :
      IsPattern r (.literal text)
  | regex {source : String} {compiled : Regex} (literal : r.literal = none)
      (regex : r.regex = some source) (ok : Regex.compile source = .ok compiled) :
      IsPattern r (.regex compiled)

/-- The row that a rule means. -/
structure IsRow (r : RuleDefinition) (row : Rule) : Prop where
  state : row.state = r.state
  pattern : r.IsPattern row.pattern
  destination : row.destination = r.next
  action : row.action = r.action

variable {r : RuleDefinition} {number : Nat} {e : DefinitionError} {row : Rule}

/-- Only a rule without a pattern means the pattern `any`, which matches every line. An expression
that happens to match every line is still an expression. -/
theorem IsPattern.eq_any_iff {pattern : Pattern} (h : r.IsPattern pattern) :
    pattern = .any ↔ r.literal = none ∧ r.regex = none := by
  cases h with
  | any literal regex => simp [literal, regex]
  | literal literal regex => simp [literal]
  | regex literal regex ok => simp [regex]

/-- A rule is wrong by itself or has a pattern. The cases are whether it has a literal, an
expression, and whether `Regex.compile` accepts this. -/
theorem flaw_or_isPattern (r : RuleDefinition) (number : Nat) :
    (∃ e, r.Flaw number e) ∨ ∃ pattern, r.IsPattern pattern := by
  cases hliteral : r.literal with
  | some text =>
    cases hregex : r.regex with
    | some source => exact .inl ⟨_, .ambiguous hliteral hregex⟩
    | none => exact .inr ⟨_, .literal hliteral hregex⟩
  | none =>
    cases hregex : r.regex with
    | some source =>
      cases hcompile : Regex.compile source with
      | error fault => exact .inl ⟨_, .invalid hliteral hregex hcompile⟩
      | ok compiled => exact .inr ⟨_, .regex hliteral hregex hcompile⟩
    | none => exact .inr ⟨_, .any hliteral hregex⟩

/-- Compiling finds out what is wrong with a rule, and gives the error of `RuleDefinition.Flaw`.
So a rule has one flaw at most. -/
theorem Flaw.compile_eq (h : r.Flaw number e) : r.compile number = .error e := by
  have hpattern : r.pattern number = .error e := by
    cases h with
    | ambiguous literal regex => simp [pattern, literal, regex]
    | invalid literal regex compiled => simp [pattern, literal, regex, compiled]
  rw [compile, hpattern]
  rfl

/-- If nothing is wrong with a rule, compiling gives the row that it means, whatever its number
is. The two equations determine `RuleDefinition.compile`. -/
theorem IsRow.compile_eq (h : r.IsRow row) (number : Nat) : r.compile number = .ok row := by
  obtain ⟨state, means, destination, action⟩ := row
  obtain ⟨rfl, hmeans, rfl, rfl⟩ := h
  have hpattern : r.pattern number = .ok means := by
    cases hmeans with
    | any literal regex => simp [RuleDefinition.pattern, literal, regex]
    | literal literal regex => simp [RuleDefinition.pattern, literal, regex]
    | regex literal regex ok => simp [RuleDefinition.pattern, literal, regex, ok]
  rw [compile, hpattern]
  rfl

/-- A rule is wrong by itself or means a row. Besides the pattern a row has only what the rule
says, so this is `flaw_or_isPattern`. -/
theorem flaw_or_isRow (r : RuleDefinition) (number : Nat) :
    (∃ e, r.Flaw number e) ∨ ∃ row, r.IsRow row := by
  rcases r.flaw_or_isPattern number with hflaw | ⟨pattern, hpattern⟩
  · exact .inl hflaw
  · exact .inr ⟨⟨r.state, pattern, r.next, r.action⟩, rfl, hpattern, rfl, rfl⟩

/-- A rule that means a row has no flaw, with any number, because compiling cannot give both. -/
theorem IsRow.not_flaw (h : r.IsRow row) : ¬ r.Flaw number e := by
  intro hflaw
  have hboth := (h.compile_eq number).symm.trans hflaw.compile_eq
  cases hboth

end RuleDefinition

namespace TableDefinition

/-- The rule is the first one that is wrong by itself, with the rules counted from `number`
on. -/
def FirstFlawFrom (number : Nat) (rules : List RuleDefinition) (e : DefinitionError) : Prop :=
  ∃ before r after, rules = before ++ r :: after ∧ r.Flaw (number + before.length) e ∧
    ∀ other ∈ before, ∀ n e', ¬ other.Flaw n e'

/-- What is wrong with the first rule of a definition that is wrong by itself. -/
def FirstFlaw (d : TableDefinition) (e : DefinitionError) : Prop := FirstFlawFrom 1 d.rules e

variable {number : Nat} {r : RuleDefinition} {rules : List RuleDefinition} {e : DefinitionError}

/-- If the first rule is wrong by itself, it is the first one that is. Nothing stands before it
that `FirstFlawFrom` could ask about. -/
theorem firstFlawFrom_cons_of_flaw (h : r.Flaw number e) :
    FirstFlawFrom number (r :: rules) e :=
  ⟨[], r, rules, rfl, h, by simp⟩

/-- A rule that means a row is passed over by `FirstFlawFrom`, but it is counted, so that the
number of a flaw is its place among all rules. -/
theorem firstFlawFrom_cons_of_isRow {row : Rule} (h : r.IsRow row) :
    FirstFlawFrom number (r :: rules) e ↔ FirstFlawFrom (number + 1) rules e := by
  constructor
  · rintro ⟨before, bad, after, hsplit, hflaw, hbefore⟩
    cases before with
    | nil =>
      obtain ⟨rfl, rfl⟩ := List.cons.inj hsplit
      exact absurd hflaw h.not_flaw
    | cons other before =>
      obtain ⟨rfl, rfl⟩ := List.cons.inj hsplit
      refine ⟨before, bad, after, rfl, ?_, (List.forall_mem_cons.mp hbefore).2⟩
      rwa [List.length_cons, Nat.add_comm before.length, ← Nat.add_assoc] at hflaw
  · rintro ⟨before, bad, after, rfl, hflaw, hbefore⟩
    refine ⟨r :: before, bad, after, rfl, ?_,
      List.forall_mem_cons.mpr ⟨fun n e' => h.not_flaw, hbefore⟩⟩
    rwa [List.length_cons, Nat.add_comm before.length, ← Nat.add_assoc]

/-- Compiling stops at the first rule that is wrong, the one of `FirstFlawFrom`. The induction is
on the rules, and the number of the first one goes up with it. -/
theorem compileFrom_eq_error_iff :
    compileFrom number rules = .error e ↔ FirstFlawFrom number rules e := by
  induction rules generalizing number with
  | nil => simp [compileFrom, FirstFlawFrom]
  | cons r rest ih =>
    rcases r.flaw_or_isRow number with ⟨fault, hflaw⟩ | ⟨row, hrow⟩
    · -- Compiling ends here, and the first rule that is wrong cannot be a later one.
      rw [compileFrom, hflaw.compile_eq]
      constructor
      · intro h
        cases h
        exact firstFlawFrom_cons_of_flaw hflaw
      · rintro ⟨before, bad, after, hsplit, hbad, hbefore⟩
        cases before with
        | nil =>
          obtain ⟨rfl, rfl⟩ := List.cons.inj hsplit
          have hsame := hflaw.compile_eq.symm.trans hbad.compile_eq
          cases hsame
          rfl
        | cons other before =>
          obtain ⟨rfl, rfl⟩ := List.cons.inj hsplit
          exact absurd hflaw ((List.forall_mem_cons.mp hbefore).1 number fault)
    · -- Whatever is wrong is wrong with a later rule.
      rw [compileFrom, hrow.compile_eq, firstFlawFrom_cons_of_isRow hrow, ← ih]
      cases compileFrom (number + 1) rest <;> simp [bind, Except.bind]

/-- Rules compile to the rows that they mean, one by one. Their numbers show in errors only, so
`number` may be any. -/
theorem compileFrom_eq_ok {rows : List Rule} (h : List.Forall₂ RuleDefinition.IsRow rules rows) :
    compileFrom number rules = .ok rows := by
  induction h generalizing number with
  | nil => rfl
  | cons hrow _ ih =>
    exact compileFrom_cons_eq_ok_iff.mpr ⟨_, _, hrow.compile_eq number, ih, rfl⟩

/-- If none of the rules is wrong, they mean rows. The induction passes over each rule by
`firstFlawFrom_cons_of_isRow`. -/
theorem exists_rows (h : ∀ e, ¬ FirstFlawFrom number rules e) :
    ∃ rows, List.Forall₂ RuleDefinition.IsRow rules rows := by
  induction rules generalizing number with
  | nil => exact ⟨[], .nil⟩
  | cons r rest ih =>
    rcases r.flaw_or_isRow number with ⟨fault, hflaw⟩ | ⟨row, hrow⟩
    · exact absurd (firstFlawFrom_cons_of_flaw hflaw) (h fault)
    · obtain ⟨rows, hrows⟩ := ih fun e hflaw => h e ((firstFlawFrom_cons_of_isRow hrow).mpr hflaw)
      exact ⟨row :: rows, .cons hrow hrows⟩

/-! ### Building -/

variable {d : TableDefinition} {fallback : Validation} {rows : List Rule}

/-- A rule that does not compile is all that counts: `TableDefinition.build` gives its error, and
nothing is logged because nothing is built. -/
theorem build_of_firstFlaw (h : d.FirstFlaw e) : d.build fallback = (.error e, []) := by
  rw [build, toBuilder, compileFrom_eq_error_iff.mpr h]
  rfl

/-- If the rules compile, the definition gives what building the rows gives, with the same log. An
error of building is passed on as `DefinitionError.build`. -/
theorem build_of_rows (h : List.Forall₂ RuleDefinition.IsRow d.rules rows) :
    d.build fallback =
      ((d.builder rows fallback).build.1.mapError DefinitionError.build,
        (d.builder rows fallback).build.2) := by
  rw [build, toBuilder, compileFrom_eq_ok h]
  rcases hbuild : (d.builder rows fallback).build with ⟨error | table, log⟩
  · unfold builder at hbuild
    simp [bind, Except.bind, hbuild, Except.mapError]
  · unfold builder at hbuild
    simp [bind, Except.bind, hbuild, Except.mapError]

end TableDefinition

/-! ### Rows and transitions -/

/-- Dealt out by a property, an element stands behind those that came before it and have the
property too. For rules and states this gives the place of a transition. -/
theorem getElem?_filter_countP {α : Type} (p : α → Bool) {l : List α} {i : Nat} {x : α}
    (hx : l[i]? = some x) (hp : p x = true) :
    (l.filter p)[(l.take i).countP p]? = some x := by
  induction l generalizing i with
  | nil => simp at hx
  | cons y ys ih =>
    cases i with
    | zero =>
      obtain rfl : y = x := by simpa using hx
      simp [hp]
    | succ i =>
      rw [List.getElem?_cons_succ] at hx
      have hrest := ih hx
      by_cases hy : p y = true
      · simpa [hy] using hrest
      · simpa [hy] using hrest

/-- Two lists that are related by `List.Forall₂` are so at each place. It is used for the rules
and their rows as well as for rows and transitions. -/
theorem getElem?_of_forall₂ {α β : Type} {R : α → β → Prop} {l : List α} {l' : List β}
    (h : List.Forall₂ R l l') {i : Nat} {a : α} (ha : l[i]? = some a) :
    ∃ b, l'[i]? = some b ∧ R a b := by
  obtain ⟨hi, rfl⟩ := List.getElem?_eq_some_iff.mp ha
  have hi' : i < l'.length := h.length_eq ▸ hi
  exact ⟨l'[i], List.getElem?_eq_getElem hi', h.get hi hi'⟩

/-- A row is the transition of its state at the place which it has among the rows of that state. A
builder deals its rules out to the states, and `getElem?_filter_countP` finds the place. -/
theorem TableBuilder.exists_transition {δ : Type} {b : TableBuilder δ} {t : Table δ}
    {log : List Report} (h : b.build = (.ok t, log)) {i : Nat} {row : Rule}
    (hrow : b.rules[i]? = some row) :
    ∃ id s tr, t.lookup row.state = some id ∧ t.get? id = some s ∧
      s.transitions[(b.rules.take i).countP fun other => other.state = row.state]? = some tr ∧
      b.Carries t row tr := by
  have hgraph := (declaredGraph_of_build h).1
  obtain ⟨s, hs, hname⟩ := (declares_of_build h).get?_idOf
    (state_mem_stateNames (List.mem_of_getElem? hrow))
  have hlookup := (hgraph.lookup row.state _).mpr ⟨s, hs, hname⟩
  -- The transitions of a state are its rows in their order.
  have hplace := getElem?_filter_countP (fun other : Rule => other.state = row.state) hrow
    (by simp)
  have htransitions := hgraph.transitions s (Table.mem_of_get? hs)
  rw [hname] at htransitions
  obtain ⟨tr, htr, hcarries⟩ := getElem?_of_forall₂ htransitions hplace
  exact ⟨_, s, tr, hlookup, hs, htr, hcarries⟩

namespace TableDefinition

/-- The rows begin at the states that the rules name. So the states of a table can be told from
the definition without compiling it. -/
theorem map_state_eq {rules : List RuleDefinition} {rows : List Rule}
    (h : List.Forall₂ RuleDefinition.IsRow rules rows) :
    rows.map Rule.state = rules.map RuleDefinition.state := by
  induction h with
  | nil => rfl
  | cons hrow _ ih => rw [List.map_cons, List.map_cons, hrow.state, ih]

/-- The rows before a place that belong to a state are as many as the rules before it that do.
This turns the place in `TableBuilder.exists_transition` into one among the rules. -/
theorem countP_state_eq {rules : List RuleDefinition} {rows : List Rule}
    (h : List.Forall₂ RuleDefinition.IsRow rules rows) (i : Nat) (name : String) :
    ((rows.take i).countP fun row => row.state = name) =
      (rules.take i).countP fun r => r.state = name := by
  have hstates : (rows.take i).map Rule.state = (rules.take i).map RuleDefinition.state := by
    rw [List.map_take, List.map_take, map_state_eq h]
  have hcount := congrArg (List.countP fun state => state = name) hstates
  rw [List.countP_map, List.countP_map] at hcount
  exact hcount

/-- Which error a definition gets. Take any definition and any fallback for its validation.

- If some rule is wrong by itself, the first such rule is reported, with its number and its
  state, and nothing is built. A rule with two patterns is reported as such, whether or not its
  expression compiles.
- Otherwise the rules mean rows. With the ready-made actions, the beginning that the definition
  names and its validation, or the fallback if it names none, these rows are built, and no
  action is registered twice. The definition gives the error of building them, or else their
  table. In the table each rule is a transition of its state, behind those of the rules before
  it, with the pattern that it means. This matches every line exactly if the rule has no
  pattern. -/
theorem build_outcome (d : TableDefinition) (fallback : Validation) :
    (∀ e, d.FirstFlaw e → d.build fallback = (.error e, [])) ∧
    ((∀ e, ¬ d.FirstFlaw e) → ∃ (rows : List Rule) (b : TableBuilder Events),
      List.Forall₂ RuleDefinition.IsRow d.rules rows ∧
      b = ⟨rows, builtins, d.initial, d.validation.getD fallback⟩ ∧
      (∀ name, b.build.1 ≠ .error (.duplicateAction name)) ∧
      (∀ e, b.build.1 = .error e → d.build fallback = (.error (.build e), b.build.2)) ∧
      ∀ t, b.build.1 = .ok t → d.build fallback = (.ok t, b.build.2) ∧
        ∀ (i : Nat) (r : RuleDefinition), d.rules[i]? = some r → ∃ id s tr,
          t.lookup r.state = some id ∧ t.get? id = some s ∧
          s.transitions[(d.rules.take i).countP fun other => other.state = r.state]? = some tr ∧
          r.IsPattern tr.pattern ∧ (tr.pattern = .any ↔ r.literal = none ∧ r.regex = none)) := by
  refine ⟨fun e hflaw => build_of_firstFlaw hflaw, fun hnone => ?_⟩
  obtain ⟨rows, hrows⟩ := exists_rows hnone
  refine ⟨rows, d.builder rows fallback, hrows, rfl, ?_, ?_, ?_⟩
  · -- The names of the ready-made actions are all different.
    intro name hbuild
    have hfault := (((d.builder rows fallback).build_eq_error_iff _).mp hbuild).1
    cases hfault with
    | duplicateAction registered fresh again =>
      have hnodup : (builtins.map Prod.fst).Nodup := TableBuilder.nodup_builtins
      rw [show builtins.map Prod.fst = _ from registered, List.nodup_append] at hnodup
      exact hnodup.2.2 _ again _ List.mem_cons_self rfl
  · intro e hbuild
    rw [build_of_rows hrows, hbuild]
    rfl
  · intro t hbuild
    refine ⟨by rw [build_of_rows hrows, hbuild]; rfl, fun i r hr => ?_⟩
    obtain ⟨row, hrow, hmeans⟩ := getElem?_of_forall₂ hrows hr
    have hpair : (d.builder rows fallback).build = (.ok t, (d.builder rows fallback).build.2) :=
      Prod.ext hbuild rfl
    obtain ⟨id, s, tr, hlookup, hs, htr, hcarries⟩ :=
      TableBuilder.exists_transition hpair (i := i) hrow
    rw [show (d.builder rows fallback).rules = rows from rfl, hmeans.state,
      countP_state_eq hrows] at htr
    -- The transition carries the pattern of the row, which is the one that the rule means.
    have hpattern := hmeans.pattern
    rw [← hcarries.pattern] at hpattern
    exact ⟨id, s, tr, hmeans.state ▸ hlookup, hs, htr, hpattern, hpattern.eq_any_iff⟩

/-- A rule that leads to a state without rules, one whose expression does not compile and which
binds an unknown action, and one with two patterns. -/
def tangled : TableDefinition where
  initial := some "nowhere"
  validation := none
  rules :=
    [⟨"a", none, none, some "nowhere", none⟩,
      ⟨"b", none, some "(", none, some "unknown"⟩,
      ⟨"c", some "x", some "(", none, none⟩]

/-- The second rule of `tangled` is reported. Without the first two the third one is, and the
first one by itself is an error of the table. -/
theorem build_outcome_tangled :
    tangled.build .lenient = (.error (.invalidRegex 2 "b" .groupUnclosed), []) ∧
      { tangled with rules := tangled.rules.drop 2 }.build .lenient =
        (.error (.ambiguousPattern 1 "c"), []) ∧
      ({ tangled with rules := tangled.rules.take 1 }.build .strict).1 =
        .error (.build (.danglingDestination "a" "nowhere")) := by
  refine ⟨?_, ?_, ?_⟩
  · refine (build_outcome tangled .lenient).1 _ ⟨[⟨"a", none, none, some "nowhere", none⟩], _, _,
      rfl, .invalid rfl rfl rfl, ?_⟩
    intro other hother n e hflaw
    cases List.mem_singleton.mp hother
    cases hflaw with
    | ambiguous literal regex => cases literal
    | invalid literal regex compiled => cases regex
  · exact (build_outcome _ .lenient).1 _ ⟨[], _, _, rfl, .ambiguous rfl rfl, by simp⟩
  · -- This rule compiles, so no rule is wrong by itself.
    obtain ⟨rows, hcompile⟩ : ∃ rows, compileFrom 1 (tangled.rules.take 1) = .ok rows := ⟨_, rfl⟩
    obtain ⟨rows', b, hrows, hb, -, herror, -⟩ :=
      (build_outcome { tangled with rules := tangled.rules.take 1 } .strict).2 (by
        intro e hflaw
        have hsame := hcompile.symm.trans (compileFrom_eq_error_iff.mpr hflaw)
        cases hsame)
    cases hcompile.symm.trans (compileFrom_eq_ok hrows)
    cases hcompile
    rw [herror (.danglingDestination "a" "nowhere") (by rw [hb]; rfl)]

end TableDefinition

end LineMachine
