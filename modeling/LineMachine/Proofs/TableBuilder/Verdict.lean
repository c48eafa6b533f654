import LineMachine.Proofs.TableBuilder.Graph
import Mathlib.Data.List.Nodup

/-!
# `LineMachine.Proofs.TableBuilder.Verdict`: whether a declaration can be built

`TableBuilder.build` looks for faults in a fixed order and ends at the first
one. Most results about building need the kind of that fault only, and not which
state or action it names.

* `BuildError.Kind` lists the kinds, and `BuildError.kind` drops what the error
  names. `IsFirst` is for what it names: the first row with a defect.
* `TableBuilder.verdict` is the order of the checks, with one condition on the
  whole declaration for each.
* `TableBuilder.build_of_repeated`, `TableBuilder.build_of_dangling` and
  `TableBuilder.build_of_isClosed` are the ends of building, and
  `TableBuilder.kind?_build`: building ends as the verdict says.
* `TableBuilder.Buildable` collects the conditions, and
  `TableBuilder.exists_build_iff` says that a table comes about exactly then.
-/

set_option autoImplicit false

namespace LineMachine

/-- The kinds of mistakes in a declaration. -/
inductive BuildError.Kind where
  | empty
  | duplicateAction
  | danglingDestination
  | unknownInitial
  | unknownAction
deriving Repr, DecidableEq

/-- The kind of the error, without what it names. -/
def BuildError.kind : BuildError → BuildError.Kind
  | .empty => .empty
  | .duplicateAction _ => .duplicateAction
  | .danglingDestination _ _ => .danglingDestination
  | .unknownInitial _ => .unknownInitial
  | .unknownAction _ _ => .unknownAction

/-- The kind of the error that a result is, if it is one. -/
def BuildError.kind? {α : Type} : Except BuildError α → Option BuildError.Kind
  | .ok _ => none
  | .error e => some e.kind

/-- The element is the first one of the list with the property. -/
def IsFirst {α : Type} (P : α → Prop) (l : List α) (x : α) : Prop :=
  P x ∧ ∃ before after, l = before ++ x :: after ∧ ∀ y ∈ before, ¬ P y

namespace IsFirst

variable {α : Type} {P : α → Prop} {l : List α} {x y : α}

/-- An element at the front with the property is the first one, since nothing stands before it. -/
theorem head (h : P x) : IsFirst P (x :: l) x := ⟨h, [], l, rfl, by simp⟩

/-- What stands in front without the property changes nothing. With `IsFirst.head` this is the
induction by which a search along a list finds the first element. -/
theorem cons (hy : ¬ P y) (h : IsFirst P l x) : IsFirst P (y :: l) x := by
  obtain ⟨hx, before, after, rfl, hbefore⟩ := h
  exact ⟨hx, y :: before, after, rfl, List.forall_mem_cons.mpr ⟨hy, hbefore⟩⟩

/-- The first element with the property is an element of the list. What holds of all rows then
holds of it. -/
theorem mem (h : IsFirst P l x) : x ∈ l := by
  obtain ⟨-, before, after, rfl, -⟩ := h
  simp

/-- Only one element is the first one. Of two of them, one would stand in front of the other,
where nothing has the property. -/
theorem unique (hx : IsFirst P l x) (hy : IsFirst P l y) : x = y := by
  classical
  have hfind : ∀ {z : α}, IsFirst P l z → (l.find? fun w => P w) = some z := by
    rintro z ⟨hz, before, after, hl, hbefore⟩
    exact List.find?_eq_some_iff_append.mpr
      ⟨by simpa using hz, before, after, hl, by simpa using hbefore⟩
  exact Option.some.inj ((hfind hx).symm.trans (hfind hy))

end IsFirst

variable {δ : Type}

namespace TableBuilder

/-- Every destination has rules, or need not have any. -/
def IsClosed (b : TableBuilder δ) : Prop := b.validation = .strict → b.dangling = []

/-- The state where a parse begins has rules, if one is set. -/
def BeginsAtSource (b : TableBuilder δ) : Prop := ∀ name ∈ b.initial, name ∈ b.sources

/-- The action of every rule is registered. -/
def BindsRegistered (b : TableBuilder δ) : Prop :=
  ∀ rule ∈ b.rules, ∀ name ∈ rule.action, name ∈ b.actions.map Prod.fst

/-- The rule binds an action that is not registered. -/
def BindsUnknown (b : TableBuilder δ) (rule : Rule) : Prop :=
  ∃ name ∈ rule.action, name ∉ b.actions.map Prod.fst

instance (b : TableBuilder δ) : Decidable b.IsClosed :=
  inferInstanceAs (Decidable (b.validation = .strict → b.dangling = []))

instance (b : TableBuilder δ) : Decidable b.BeginsAtSource :=
  inferInstanceAs (Decidable (∀ name ∈ b.initial, name ∈ b.sources))

instance (b : TableBuilder δ) : Decidable b.BindsRegistered :=
  inferInstanceAs
    (Decidable (∀ rule ∈ b.rules, ∀ name ∈ rule.action, name ∈ b.actions.map Prod.fst))

/-- The kind of the fault that is found first, if there is one. -/
def verdict (b : TableBuilder δ) : Option BuildError.Kind :=
  if b.rules = [] then some .empty
  else if ¬ (b.actions.map Prod.fst).Nodup then some .duplicateAction
  else if ¬ b.IsClosed then some .danglingDestination
  else if ¬ b.BeginsAtSource then some .unknownInitial
  else if ¬ b.BindsRegistered then some .unknownAction
  else none

/-! ### The single checks -/

/-- No name repeats an earlier one exactly when all names differ. `firstRepeated?` is a search
with the names seen so far, and the conditions on builders use `List.Nodup`. -/
theorem firstRepeated?_eq_none_iff (seen names : List String) :
    firstRepeated? seen names = none ↔ names.Nodup ∧ ∀ name ∈ names, name ∉ seen := by
  induction names generalizing seen with
  | nil => simp [firstRepeated?]
  | cons name rest ih =>
    by_cases hseen : name ∈ seen
    · simp [firstRepeated?, hseen]
    -- The head is new, and moves over to the names that were seen.
    · rw [firstRepeated?, if_neg hseen, ih, List.nodup_cons]
      constructor
      · rintro ⟨hnodup, hnew⟩
        have hname : name ∉ rest := fun hmem => hnew name hmem List.mem_cons_self
        have hrest : ∀ other ∈ name :: rest, other ∉ seen := by
          intro other hother
          rcases List.mem_cons.mp hother with rfl | hother
          · exact hseen
          · exact fun hmem => hnew other hother (List.mem_cons_of_mem name hmem)
        exact ⟨⟨hname, hnodup⟩, hrest⟩
      · rintro ⟨⟨hname, hnodup⟩, hold⟩
        refine ⟨hnodup, fun other hother hmem => ?_⟩
        rcases List.mem_cons.mp hmem with rfl | hmem
        · exact hname hother
        · exact hold other (List.mem_cons_of_mem name hother) hmem

variable {b : TableBuilder δ}

/-- The beginning is found where it has rules. The first rule is its own witness when none is set,
so only a beginning that is set has to be looked up. -/
theorem initialState_eq_ok (first : Rule) (h : b.BeginsAtSource) :
    b.initialState first = .ok (b.initial.getD first.state) := by
  unfold initialState
  cases hinitial : b.initial with
  | none => rfl
  | some name => simp [h name (by simp [hinitial])]

/-- A beginning that is set and has no rules is refused by its name. It may be a placeholder,
which is a state of the table but no source. -/
theorem initialState_eq_error (first : Rule) {name : String} (hinitial : b.initial = some name)
    (h : name ∉ b.sources) : b.initialState first = .error (.unknownInitial name) := by
  unfold initialState
  simp [hinitial, h]

/-- A beginning without rules is one that is set: `BeginsAtSource` says nothing of a builder that
leaves the choice to its first rule. -/
theorem exists_initial_of_not_beginsAtSource (h : ¬ b.BeginsAtSource) :
    ∃ name, b.initial = some name ∧ name ∉ b.sources := by
  unfold BeginsAtSource at h
  push Not at h
  exact h

/-- A rule is bound where its action is registered, or where it names none. `bindRules_cases`
takes this for every rule up to the first that fails. -/
theorem exists_bindAction_eq_ok {rule : Rule} (h : ¬ b.BindsUnknown rule) :
    ∃ action, b.bindAction rule = .ok action := by
  unfold bindAction
  cases haction : rule.action with
  | none => exact ⟨none, rfl⟩
  | some name =>
    have hname : name ∈ b.actions.map Prod.fst := by
      by_contra hmissing
      exact h ⟨name, haction, hmissing⟩
    obtain ⟨row, hrow, hname⟩ := List.mem_map.mp hname
    cases hfind : b.actions.find? fun row => row.1 = name with
    | some found => exact ⟨some ⟨name, found.2⟩, by simp [hfind]⟩
    | none =>
      have hnot := List.find?_eq_none.mp hfind row hrow
      simp [hname] at hnot

/-- An action that is not registered is an error that names the state of the rule and the action.
It is the only error of `bindAction`. -/
theorem bindAction_eq_error {rule : Rule} {name : String} (haction : rule.action = some name)
    (hmissing : name ∉ b.actions.map Prod.fst) :
    b.bindAction rule = .error (.unknownAction rule.state name) := by
  have hfind : (b.actions.find? fun row => row.1 = name) = none := by
    rw [List.find?_eq_none]
    intro row hrow hsame
    exact hmissing (List.mem_map.mpr ⟨row, hrow, by simpa using hsame⟩)
  unfold bindAction
  simp [haction, hfind]

/-- All rules are bound, or the first one with an unknown action is an error. The induction is on
the rules; `IsFirst` keeps which rule it was, as `Fault` asks for it. -/
theorem bindRules_cases (b : TableBuilder δ) (names : List String) (rules : List Rule) :
    ((∀ rule ∈ rules, ¬ b.BindsUnknown rule) ∧ ∃ bound, b.bindRules names rules = .ok bound) ∨
    ∃ rule name, IsFirst b.BindsUnknown rules rule ∧ rule.action = some name ∧
      b.bindRules names rules = .error (.unknownAction rule.state name) := by
  induction rules with
  | nil => exact .inl ⟨by simp, [], rfl⟩
  | cons rule rest ih =>
    by_cases hrule : b.BindsUnknown rule
    · obtain ⟨name, haction, hmissing⟩ := hrule
      refine .inr ⟨rule, name, .head ⟨name, haction, hmissing⟩, haction, ?_⟩
      simp [bindRules, bindRule, bindAction_eq_error haction hmissing, bind, Except.bind]
    · obtain ⟨action, haction⟩ := exists_bindAction_eq_ok hrule
      rcases ih with ⟨hrest, bound, hbound⟩ | ⟨first, name, hfirst, hname, hbound⟩
      · refine .inl ⟨List.forall_mem_cons.mpr ⟨hrule, hrest⟩, ?_⟩
        simp [bindRules, bindRule, haction, hbound, bind, Except.bind]
      · refine .inr ⟨first, name, hfirst.cons hrule, hname, ?_⟩
        simp [bindRules, bindRule, haction, hbound, bind, Except.bind]

/-- The condition of `Buildable` on the actions, said rule by rule. `BindsUnknown` is its negation
for one rule, in the form that `IsFirst` takes. -/
theorem bindsRegistered_iff (b : TableBuilder δ) :
    b.BindsRegistered ↔ ∀ rule ∈ b.rules, ¬ b.BindsUnknown rule := by
  simp only [BindsRegistered, BindsUnknown, not_exists, not_and, not_not]

/-! ### All checks -/

/-- The checks behind the destinations, as kinds of errors: first the beginning, then the actions.
It is the tail of `TableBuilder.verdict`. -/
theorem kind?_assemble (b : TableBuilder δ) (first : Rule) :
    BuildError.kind? (b.assemble first) =
      if ¬ b.BeginsAtSource then some .unknownInitial
      else if ¬ b.BindsRegistered then some .unknownAction
      else none := by
  unfold assemble
  by_cases hinitial : b.BeginsAtSource
  · rw [initialState_eq_ok first hinitial, if_neg (not_not.mpr hinitial)]
    rcases bindRules_cases b b.stateNames b.rules with ⟨hbinds, bound, hbound⟩ |
      ⟨rule, name, hrule, -, hbound⟩
    · have hall : b.BindsRegistered := b.bindsRegistered_iff.mpr hbinds
      rw [hbound, if_neg (not_not.mpr hall)]
      rfl
    · have hall : ¬ b.BindsRegistered := fun hall =>
        b.bindsRegistered_iff.mp hall rule hrule.mem hrule.1
      rw [hbound, if_pos hall]
      rfl
  · obtain ⟨name, hname, hsource⟩ := exists_initial_of_not_beginsAtSource hinitial
    rw [initialState_eq_error first hname hsource, if_pos hinitial]
    rfl

/-- The reports about the table that comes about, if one does. -/
def endReports : Except BuildError (Table δ) → List Report
  | .error _ => []
  | .ok t => tableReports t

/-- An action that is registered twice ends building before anything is named or reported. The
first of the four ends of `build`, behind the one for no rules. -/
theorem build_of_repeated (hrules : b.rules ≠ []) {name : String}
    (h : firstRepeated? [] (b.actions.map Prod.fst) = some name) :
    b.build = (.error (.duplicateAction name), []) := by
  obtain ⟨first, rest, hfirst⟩ := List.exists_cons_of_ne_nil hrules
  simp only [build, hfirst, h]

/-- Where all registered names differ, the search finds nothing. The next two lemmas have
`List.Nodup` as their hypothesis and go past the check with this. -/
theorem firstRepeated?_of_nodup (hactions : (b.actions.map Prod.fst).Nodup) :
    firstRepeated? [] (b.actions.map Prod.fst) = none :=
  (firstRepeated?_eq_none_iff [] _).mpr ⟨hactions, by simp⟩

/-- Where rules are required, the first destination without rules is refused. There are no reports
then, not even about placeholders. -/
theorem build_of_dangling (hrules : b.rules ≠ []) (hactions : (b.actions.map Prod.fst).Nodup)
    (hstrict : b.validation = .strict) {state destination : String}
    {rows : List (String × String)} (h : b.dangling = (state, destination) :: rows) :
    b.build = (.error (.danglingDestination state destination), []) := by
  obtain ⟨first, rest, hfirst⟩ := List.exists_cons_of_ne_nil hrules
  simp only [build, hfirst, firstRepeated?_of_nodup hactions, hstrict, h]

/-- Where no destination is refused, the table comes about as far as the checks behind the
destinations let it. The reports about destinations stand in front of the others. -/
theorem build_of_isClosed {first : Rule} {rest : List Rule} (hrules : b.rules = first :: rest)
    (hactions : (b.actions.map Prod.fst).Nodup) (hclosed : b.IsClosed) :
    b.build = (b.assemble first, b.placeholderReports ++ endReports (b.assemble first)) := by
  simp only [build, hrules, firstRepeated?_of_nodup hactions]
  split
  · rename_i hstrict hdangling
    rw [hclosed hstrict] at hdangling
    cases hdangling
  · cases b.assemble first with
    | error e => simp [endReports]
    | ok t => rfl

/-- A destination is refused only where rules are required and one lacks them. This turns the
negation of `IsClosed` into the hypotheses of `build_of_dangling`. -/
theorem exists_dangling_of_not_isClosed (h : ¬ b.IsClosed) :
    b.validation = .strict ∧ ∃ state destination rows,
      b.dangling = (state, destination) :: rows := by
  unfold IsClosed at h
  push Not at h
  obtain ⟨hstrict, hdangling⟩ := h
  obtain ⟨⟨state, destination⟩, rows, hrows⟩ := List.exists_cons_of_ne_nil hdangling
  exact ⟨hstrict, state, destination, rows, hrows⟩

/-- Building ends as the verdict says. The case split follows `TableBuilder.verdict`, and each
case is one of the ends of building above. -/
theorem kind?_build (b : TableBuilder δ) : BuildError.kind? b.build.1 = b.verdict := by
  unfold verdict
  cases hrules : b.rules with
  | nil => simp [build, hrules, BuildError.kind?, BuildError.kind]
  | cons first rest =>
    have hne : b.rules ≠ [] := by rw [hrules]; exact List.cons_ne_nil first rest
    rw [if_neg (List.cons_ne_nil first rest)]
    cases hrepeated : firstRepeated? [] (b.actions.map Prod.fst) with
    -- The search finds a name, so the names do not all differ.
    | some name =>
      have hnodup : ¬ (b.actions.map Prod.fst).Nodup := by
        intro hnodup
        rw [firstRepeated?_of_nodup hnodup] at hrepeated
        cases hrepeated
      rw [if_pos hnodup, build_of_repeated hne hrepeated]
      rfl
    | none =>
      have hnodup := ((firstRepeated?_eq_none_iff [] _).mp hrepeated).1
      rw [if_neg (not_not.mpr hnodup)]
      by_cases hclosed : b.IsClosed
      · rw [if_neg (not_not.mpr hclosed), ← kind?_assemble b first,
          build_of_isClosed hrules hnodup hclosed]
      · obtain ⟨hstrict, state, destination, rows, hrows⟩ :=
          exists_dangling_of_not_isClosed hclosed
        rw [if_pos hclosed, build_of_dangling hne hnodup hstrict hrows]
        rfl

/-- What must hold of a declaration for a table to come about. -/
structure Buildable (b : TableBuilder δ) : Prop where
  rules : b.rules ≠ []
  actions : (b.actions.map Prod.fst).Nodup
  closed : b.IsClosed
  beginning : b.BeginsAtSource
  bound : b.BindsRegistered

/-- The verdict is that there is no fault when all five conditions of `Buildable` hold, which are
the negations of the five tests in `verdict`. -/
theorem verdict_eq_none_iff (b : TableBuilder δ) : b.verdict = none ↔ b.Buildable := by
  constructor
  · intro h
    unfold verdict at h
    have hrules : b.rules ≠ [] := fun hno => by simp [hno] at h
    have hactions : (b.actions.map Prod.fst).Nodup := by
      by_contra hno
      simp [hrules, hno] at h
    have hclosed : b.IsClosed := by
      by_contra hno
      simp [hrules, hactions, hno] at h
    have hbeginning : b.BeginsAtSource := by
      by_contra hno
      simp [hrules, hactions, hclosed, hno] at h
    have hbound : b.BindsRegistered := by
      by_contra hno
      simp [hrules, hactions, hclosed, hbeginning, hno] at h
    exact ⟨hrules, hactions, hclosed, hbeginning, hbound⟩
  · intro h
    simp [verdict, h.rules, h.actions, h.closed, h.beginning, h.bound]

/-- A table comes about exactly when all checks pass. Reports play no part in it, and the
left side leaves them open. -/
theorem exists_build_iff (b : TableBuilder δ) :
    (∃ t log, b.build = (.ok t, log)) ↔ b.Buildable := by
  rw [← verdict_eq_none_iff, ← kind?_build]
  rcases hbuild : b.build with ⟨e | t, log⟩
  · simp [BuildError.kind?]
  · simp [BuildError.kind?]

end TableBuilder

end LineMachine
