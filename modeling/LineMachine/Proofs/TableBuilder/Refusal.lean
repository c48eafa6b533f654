import LineMachine.Proofs.TableBuilder.Verdict
import Std.Data.HashMap.Lemmas

/-!
# `LineMachine.Proofs.TableBuilder.Refusal`: which fault is reported

A declaration can have many faults at once, and building reports one of them. This module
says which one, with the states and actions that the error names.

* `TableBuilder.Fault` lists the faults of a declaration, each said of the rows, the
  registrations and the settings alone. Of the faults of one kind only the first counts.
* `BuildError.rank` is the order of the kinds, and `TableBuilder.Reports` picks the fault of
  the least rank.
* `TableBuilder.firstRepeated?_eq_some_iff`, `TableBuilder.isFirst_of_dangling_eq_cons` and
  `TableBuilder.bindRules_cases`: each check finds the first fault of its kind.
* `TableBuilder.Registry` keeps the registered actions in a map, as they come in, with the
  names that come in again. `TableBuilder.head?_repeated` and `TableBuilder.contains_actions`
  say that it knows what the list of registrations says.
* `TableBuilder.build_reports` puts the checks together: a fault is reported exactly when it
  is the one with the least rank, and a table comes about exactly when there is none.
-/

set_option autoImplicit false

namespace LineMachine

variable {δ : Type}

/-- The place of the kind of error in the order of the checks. -/
def BuildError.rank : BuildError → Nat
  | .empty => 0
  | .duplicateAction _ => 1
  | .danglingDestination _ _ => 2
  | .unknownInitial _ => 3
  | .unknownAction _ _ => 4

namespace TableBuilder

/-- No row begins at the state. -/
def IsOpen (b : TableBuilder δ) (name : String) : Prop := ∀ rule ∈ b.rules, rule.state ≠ name

/-- The row leads to a state that no row begins at. -/
def LeadsOpen (b : TableBuilder δ) (rule : Rule) : Prop :=
  ∃ name ∈ rule.destination, b.IsOpen name

/-- What is wrong with a declaration:

- `empty`: there are no rows;
- `duplicateAction`: an action is registered under a name that was registered before, and
  it is the first such registration;
- `danglingDestination`: rules are required, and the row is the first one that leads to a
  state without any;
- `unknownInitial`: the state where a parse is set to begin has no rules. It may be the
  destination of a row;
- `unknownAction`: the row is the first one that binds an action that is not registered. -/
inductive Fault (b : TableBuilder δ) : BuildError → Prop
  | empty (rules : b.rules = []) : Fault b .empty
  | duplicateAction {before after : List String} {name : String}
      (registered : b.actions.map Prod.fst = before ++ name :: after) (fresh : before.Nodup)
      (again : name ∈ before) : Fault b (.duplicateAction name)
  | danglingDestination {rule : Rule} {destination : String} (strict : b.validation = .strict)
      (first : IsFirst b.LeadsOpen b.rules rule) (leads : rule.destination = some destination) :
      Fault b (.danglingDestination rule.state destination)
  | unknownInitial {name : String} (set : b.initial = some name) (noRules : b.IsOpen name) :
      Fault b (.unknownInitial name)
  | unknownAction {rule : Rule} {name : String} (first : IsFirst b.BindsUnknown b.rules rule)
      (binds : rule.action = some name) : Fault b (.unknownAction rule.state name)

/-- The fault that building reports: no other one is looked for before it. -/
def Reports (b : TableBuilder δ) (e : BuildError) : Prop :=
  b.Fault e ∧ ∀ other, b.Fault other → e.rank ≤ other.rank

/-- The registered actions as they are kept while they come in: a map from names, in which
a later action replaces an earlier one, and the names that came in again. -/
structure Registry (δ : Type) where
  actions : Std.HashMap String (Action δ)
  repeated : List String

namespace Registry

/-- No action came in. -/
def empty : Registry δ := ⟨∅, []⟩

/-- One more action. -/
def register (r : Registry δ) (row : String × Action δ) : Registry δ where
  actions := r.actions.insert row.1 row.2
  repeated := if r.actions.contains row.1 then r.repeated ++ [row.1] else r.repeated

end Registry

/-- The actions of a declaration, registered one after the other. -/
def registry (b : TableBuilder δ) : Registry δ := b.actions.foldl Registry.register Registry.empty

/-! ### Registrations -/

/-- The name is the first one that came before: `seen` came in front of the names, and of those
in front of this one each is new. -/
def IsFirstRepeated (seen names : List String) (name : String) : Prop :=
  ∃ before after, names = before ++ name :: after ∧ before.Nodup ∧
    (∀ other ∈ before, other ∉ seen) ∧ (name ∈ before ∨ name ∈ seen)

/-- A head that was seen is the one. Nothing stands in front of it, so no other name of the list
can be the first. -/
theorem isFirstRepeated_cons_of_mem {seen rest : List String} {head name : String}
    (hseen : head ∈ seen) : IsFirstRepeated seen (head :: rest) name ↔ head = name := by
  constructor
  · rintro ⟨before, after, hsplit, -, hnew, -⟩
    cases before with
    | nil => exact (List.cons.inj hsplit).1
    | cons other before =>
      obtain ⟨rfl, -⟩ := List.cons.inj hsplit
      exact absurd hseen (hnew head List.mem_cons_self)
  · rintro rfl
    exact ⟨[], rest, rfl, List.nodup_nil, by simp, .inr hseen⟩

/-- A new head is one more that was seen. `IsFirstRepeated` moves it from the names in front to
`seen`, as `firstRepeated?` does in its step. -/
theorem isFirstRepeated_cons_of_notMem {seen rest : List String} {head name : String}
    (hseen : head ∉ seen) :
    IsFirstRepeated seen (head :: rest) name ↔ IsFirstRepeated (head :: seen) rest name := by
  constructor
  · rintro ⟨before, after, hsplit, hnodup, hnew, hagain⟩
    cases before with
    | nil =>
      -- Nothing stands in front, and the head was not seen.
      obtain ⟨rfl, -⟩ := List.cons.inj hsplit
      exact absurd (hagain.resolve_left List.not_mem_nil) hseen
    | cons other before =>
      obtain ⟨rfl, rfl⟩ := List.cons.inj hsplit
      obtain ⟨hhead, hnodup⟩ := List.nodup_cons.mp hnodup
      refine ⟨before, after, rfl, hnodup, fun other hother hmem => ?_, ?_⟩
      · rcases List.mem_cons.mp hmem with rfl | hmem
        · exact hhead hother
        · exact hnew other (List.mem_cons_of_mem _ hother) hmem
      · rw [List.mem_cons] at hagain ⊢
        tauto
  · rintro ⟨before, after, rfl, hnodup, hnew, hagain⟩
    have hhead : head ∉ before := fun hmem => hnew head hmem List.mem_cons_self
    refine ⟨head :: before, after, rfl, List.nodup_cons.mpr ⟨hhead, hnodup⟩, ?_, ?_⟩
    · exact List.forall_mem_cons.mpr
        ⟨hseen, fun other hother hmem => hnew other hother (List.mem_cons_of_mem _ hmem)⟩
    · rw [List.mem_cons] at hagain ⊢
      tauto

/-- The search finds the first name that came before. The induction is on the names, and those
that it has passed are `seen`. -/
theorem firstRepeated?_eq_some_iff (seen names : List String) (name : String) :
    firstRepeated? seen names = some name ↔ IsFirstRepeated seen names name := by
  induction names generalizing seen with
  | nil => simp [firstRepeated?, IsFirstRepeated]
  | cons head rest ih =>
    by_cases hseen : head ∈ seen
    · rw [firstRepeated?, if_pos hseen, Option.some.injEq, isFirstRepeated_cons_of_mem hseen]
    · rw [firstRepeated?, if_neg hseen, ih, isFirstRepeated_cons_of_notMem hseen]

variable {b : TableBuilder δ}

/-- An action registered twice is a `Fault` exactly when the search of `build` finds it. With
nothing seen, the name must stand among those in front. -/
theorem fault_duplicateAction_iff (b : TableBuilder δ) (name : String) :
    b.Fault (.duplicateAction name) ↔
      firstRepeated? [] (b.actions.map Prod.fst) = some name := by
  rw [firstRepeated?_eq_some_iff]
  constructor
  · intro h
    cases h with
    | @duplicateAction before after _ registered fresh again =>
      exact ⟨before, after, registered, fresh, by simp, .inl again⟩
  · rintro ⟨before, after, registered, fresh, -, again⟩
    exact .duplicateAction registered fresh (again.resolve_right List.not_mem_nil)

/-! ### Destinations -/

/-- A state that no row begins at is none of the sources. `Fault` is said of the rows, and the
checks ask whether a name is in `sources`. -/
theorem isOpen_iff (b : TableBuilder δ) (name : String) : b.IsOpen name ↔ name ∉ b.sources := by
  rw [mem_sources]
  simp [IsOpen]

/-- The first destination that lacks rules belongs to the first row that leads to one: the rows in
front of it are those that `dangling` drops. -/
theorem isFirst_of_dangling_eq_cons {state destination : String} {rows : List (String × String)}
    (h : b.dangling = (state, destination) :: rows) :
    ∃ rule, IsFirst b.LeadsOpen b.rules rule ∧ rule.state = state ∧
      rule.destination = some destination := by
  obtain ⟨before, rule, after, hsplit, hbefore, hrow, -⟩ := List.filterMap_eq_cons_iff.mp h
  obtain ⟨name, hname, hrow⟩ := Option.bind_eq_some_iff.mp hrow
  by_cases hsource : name ∈ b.sources
  · simp [hsource] at hrow
  · simp only [if_neg hsource, Option.some.injEq, Prod.mk.injEq] at hrow
    obtain ⟨rfl, rfl⟩ := hrow
    refine ⟨rule, ⟨⟨name, hname, (b.isOpen_iff name).mpr hsource⟩, before, after, hsplit, ?_⟩,
      rfl, hname⟩
    rintro earlier hearlier ⟨other, hother, hopen⟩
    have hnone := hbefore earlier hearlier
    rw [Option.mem_def.mp hother, Option.bind_some,
      if_neg ((b.isOpen_iff other).mp hopen)] at hnone
    cases hnone

/-- Without such a destination no row leads to a state without rules. The faults of this rank are
ruled out then (`faultsFrom_three`). -/
theorem not_leadsOpen_of_dangling_eq_nil (h : b.dangling = []) {rule : Rule}
    (hrule : rule ∈ b.rules) : ¬ b.LeadsOpen rule := by
  rintro ⟨name, hname, hopen⟩
  have hmem : (rule.state, name) ∈ b.dangling :=
    (mem_dangling b _).mpr ⟨rule, hrule, rfl, hname, (b.isOpen_iff name).mp hopen⟩
  rw [h] at hmem
  exact List.not_mem_nil hmem

/-! ### One fault of each kind -/

/-- A declaration has at most one fault of each rank. For rows this is `IsFirst.unique`, for
registrations the search finds one name, and the beginning is one setting. -/
theorem Fault.unique {e e' : BuildError} (h : b.Fault e) (h' : b.Fault e')
    (hrank : e.rank = e'.rank) : e = e' := by
  -- Faults of two kinds have two ranks, so both are of one kind.
  cases h with
  | empty =>
    cases h' <;> first | rfl | cases hrank
  | @duplicateAction before after name registered fresh again =>
    have hfirst := (b.fault_duplicateAction_iff name).mp (.duplicateAction registered fresh again)
    cases h' with
    | @duplicateAction _ _ name' registered' fresh' again' =>
      have hfirst' :=
        (b.fault_duplicateAction_iff name').mp (.duplicateAction registered' fresh' again')
      rw [Option.some.inj (hfirst.symm.trans hfirst')]
    | _ => cases hrank
  | danglingDestination strict first leads =>
    cases h' with
    | danglingDestination strict' first' leads' =>
      cases first.unique first'
      rw [Option.some.inj (leads.symm.trans leads')]
    | _ => cases hrank
  | unknownInitial set noRules =>
    cases h' with
    | unknownInitial set' noRules' => rw [Option.some.inj (set.symm.trans set')]
    | _ => cases hrank
  | unknownAction first binds =>
    cases h' with
    | unknownAction first' binds' =>
      cases first.unique first'
      rw [Option.some.inj (binds.symm.trans binds')]
    | _ => cases hrank

/-- Building reports one fault: two reported ones have the same rank, and `Fault.unique` makes
them equal. So `build_reports` can say that there is exactly one. -/
theorem Reports.unique {e e' : BuildError} (h : b.Reports e) (h' : b.Reports e') : e = e' :=
  h.1.unique h'.1 (Nat.le_antisymm (h.2 e' h'.1) (h'.2 e h.1))

/-! ### The checks, one behind the other -/

/-- No fault has a rank below this one. -/
def FaultsFrom (b : TableBuilder δ) (rank : Nat) : Prop := ∀ e, b.Fault e → rank ≤ e.rank

/-- A check that passes leaves the faults of the later checks. Each lemma below is this at one
rank, with the reason why the check has found nothing. -/
theorem FaultsFrom.succ {rank : Nat} (h : b.FaultsFrom rank)
    (hpass : ∀ e, b.Fault e → e.rank ≠ rank) : b.FaultsFrom (rank + 1) :=
  fun e he => Nat.lt_of_le_of_ne (h e he) (hpass e he).symm

/-- Where there is a row the declaration is not empty, and the other faults have rank one at
least. -/
theorem faultsFrom_one (h : b.rules ≠ []) : b.FaultsFrom 1 := by
  refine FaultsFrom.succ (fun e _ => Nat.zero_le e.rank) fun e he hrank => ?_
  cases he with
  | empty rules => exact h rules
  | _ => cases hrank

/-- Where the search finds no repetition, no action is registered twice, by
`fault_duplicateAction_iff`. -/
theorem faultsFrom_two (h : b.FaultsFrom 1)
    (hactions : firstRepeated? [] (b.actions.map Prod.fst) = none) : b.FaultsFrom 2 := by
  refine h.succ fun e he hrank => ?_
  cases e with
  | duplicateAction name =>
    rw [(b.fault_duplicateAction_iff name).mp he] at hactions
    cases hactions
  | _ => cases hrank

/-- Where no destination is refused, no fault is about destinations. `IsClosed` gives this under
strict validation, and under lenient validation there is no such fault. -/
theorem faultsFrom_three (h : b.FaultsFrom 2) (hclosed : b.IsClosed) : b.FaultsFrom 3 := by
  refine h.succ fun e he hrank => ?_
  cases he with
  | danglingDestination strict first leads =>
    exact not_leadsOpen_of_dangling_eq_nil (hclosed strict) first.mem first.1
  | _ => cases hrank

/-- Where the beginning has rules, the fault about the beginning is ruled out, whether a beginning
is set or not. -/
theorem faultsFrom_four (h : b.FaultsFrom 3) (hbegins : b.BeginsAtSource) : b.FaultsFrom 4 := by
  refine h.succ fun e he hrank => ?_
  cases he with
  | unknownInitial set noRules => exact (b.isOpen_iff _).mp noRules (hbegins _ set)
  | _ => cases hrank

/-- Where every row binds a registered action there is no fault left, as five is above all
ranks. -/
theorem faultsFrom_five (h : b.FaultsFrom 4) (hbinds : ∀ rule ∈ b.rules, ¬ b.BindsUnknown rule) :
    b.FaultsFrom 5 := by
  refine h.succ fun e he hrank => ?_
  cases he with
  | unknownAction first binds => exact hbinds _ first.mem first.1
  | _ => cases hrank

/-- What the end of building says about the faults: an error is the fault of the least rank,
and a table comes about only without faults. -/
def EndsTruly (b : TableBuilder δ) : Except BuildError (Table δ) → Prop
  | .error e => b.Reports e
  | .ok _ => b.FaultsFrom 5

/-- The last two checks, in `assemble`: the beginning, and then the actions row by row.
`bindRules_cases` says which row stops the binding. -/
theorem assemble_endsTruly {first : Rule} (h : b.FaultsFrom 3) :
    b.EndsTruly (b.assemble first) := by
  unfold assemble
  by_cases hbegins : b.BeginsAtSource
  · have hfour := faultsFrom_four h hbegins
    rw [initialState_eq_ok first hbegins]
    rcases bindRules_cases b b.stateNames b.rules with ⟨hbinds, bound, hbound⟩ |
      ⟨rule, name, hfirst, hname, hbound⟩
    · rw [hbound]
      exact faultsFrom_five hfour hbinds
    · rw [hbound]
      exact ⟨.unknownAction hfirst hname, hfour⟩
  · obtain ⟨name, hname, hsource⟩ := exists_initial_of_not_beginsAtSource hbegins
    rw [initialState_eq_error first hname hsource]
    exact ⟨.unknownInitial hname ((b.isOpen_iff name).mpr hsource), h⟩

/-- Each check ends building with its fault or leaves the faults of the later ones. The case split
follows `build`, and the bound on the ranks grows by one with each check. -/
theorem build_endsTruly (b : TableBuilder δ) : b.EndsTruly b.build.1 := by
  cases hrules : b.rules with
  | nil =>
    rw [build, hrules]
    exact ⟨.empty hrules, fun other _ => Nat.zero_le other.rank⟩
  | cons first rest =>
    have hne : b.rules ≠ [] := by rw [hrules]; exact List.cons_ne_nil first rest
    have hone := faultsFrom_one hne
    cases hrepeated : firstRepeated? [] (b.actions.map Prod.fst) with
    | some name =>
      rw [build_of_repeated hne hrepeated]
      exact ⟨(b.fault_duplicateAction_iff name).mpr hrepeated, hone⟩
    | none =>
      have hnodup := ((firstRepeated?_eq_none_iff [] _).mp hrepeated).1
      have htwo := faultsFrom_two hone hrepeated
      -- From here on the destinations decide, and behind them `assemble`.
      by_cases hclosed : b.IsClosed
      · rw [build_of_isClosed hrules hnodup hclosed]
        exact assemble_endsTruly (faultsFrom_three htwo hclosed)
      · obtain ⟨hstrict, state, destination, rows, hrows⟩ :=
          exists_dangling_of_not_isClosed hclosed
        obtain ⟨rule, hfirst, rfl, hleads⟩ := isFirst_of_dangling_eq_cons hrows
        rw [build_of_dangling hne hnodup hstrict hrows]
        exact ⟨.danglingDestination hstrict hfirst hleads, htwo⟩

/-- No fault has a rank of five or more, so nothing is left. `EndsTruly` says it by ranks, and
`build_reports` speaks of faults. -/
theorem not_fault_of_faultsFrom_five (h : b.FaultsFrom 5) (e : BuildError) : ¬ b.Fault e := by
  intro he
  have hrank := h e he
  cases e <;> simp [BuildError.rank] at hrank

/-- An error is reported exactly when it is the fault of the least rank. That building reports
nothing else is `build_endsTruly`; that it does report this one is `Reports.unique`. -/
theorem build_eq_error_iff (b : TableBuilder δ) (e : BuildError) :
    b.build.1 = .error e ↔ b.Reports e := by
  have htruly := b.build_endsTruly
  constructor
  · intro hbuild
    rw [hbuild] at htruly
    exact htruly
  · intro hreports
    cases hbuild : b.build.1 with
    | error e' =>
      rw [hbuild] at htruly
      have hreported : b.Reports e' := htruly
      rw [hreports.unique hreported]
    | ok t =>
      rw [hbuild] at htruly
      exact absurd hreports.1 (not_fault_of_faultsFrom_five htruly e)

/-- A table comes about exactly when nothing is wrong. Where something is wrong, `build_endsTruly`
does not allow a table. -/
theorem exists_build_eq_ok_iff (b : TableBuilder δ) :
    (∃ t, b.build.1 = .ok t) ↔ ∀ e, ¬ b.Fault e := by
  have htruly := b.build_endsTruly
  cases hbuild : b.build.1 with
  | error e =>
    rw [hbuild] at htruly
    have hreported : b.Reports e := htruly
    simp only [reduceCtorEq, exists_false, false_iff, not_forall, not_not]
    exact ⟨e, hreported.1⟩
  | ok t =>
    rw [hbuild] at htruly
    simp only [Except.ok.injEq, exists_eq', true_iff]
    exact not_fault_of_faultsFrom_five htruly

/-! ### The registry -/

/-- What the map and the list know behind more registrations. The induction is on the rows that
come in, and `seen` are the names that the map knows already. -/
theorem foldl_register (rows : List (String × Action δ)) (r : Registry δ) (seen : List String)
    (hseen : ∀ name, r.actions.contains name = true ↔ name ∈ seen) :
    (∀ name, (rows.foldl Registry.register r).actions.contains name = true ↔
      name ∈ seen ∨ name ∈ rows.map Prod.fst) ∧
    (rows.foldl Registry.register r).repeated.head? =
      r.repeated.head?.or (firstRepeated? seen (rows.map Prod.fst)) := by
  induction rows generalizing r seen with
  | nil => simp [hseen, firstRepeated?]
  | cons row rest ih =>
    -- The map has one name more, and so has the list of those seen.
    have hmore : ∀ name, (r.register row).actions.contains name = true ↔
        name ∈ row.1 :: seen := by
      intro name
      rw [Registry.register, Std.HashMap.contains_insert, Bool.or_eq_true, beq_iff_eq, hseen,
        List.mem_cons, eq_comm]
    obtain ⟨hnames, hrepeated⟩ := ih (r.register row) (row.1 :: seen) hmore
    rw [List.foldl_cons, List.map_cons, firstRepeated?]
    refine ⟨fun name => ?_, ?_⟩
    · rw [hnames, List.mem_cons, List.mem_cons]
      tauto
    · rw [hrepeated]
      by_cases hrow : row.1 ∈ seen
      · rw [Registry.register, if_pos ((hseen row.1).mpr hrow), if_pos hrow]
        cases r.repeated <;> simp
      · rw [Registry.register, if_neg (mt (hseen row.1).mp hrow), if_neg hrow]

/-- The first name that came in again is the fault. The list keeps all of them, and only its first
one counts. -/
theorem head?_repeated (b : TableBuilder δ) (name : String) :
    b.registry.repeated.head? = some name ↔ b.Fault (.duplicateAction name) := by
  rw [fault_duplicateAction_iff, registry,
    (foldl_register b.actions Registry.empty [] (by simp [Registry.empty])).2]
  simp [Registry.empty]

/-- The map knows the names that are registered. A later action replaces an earlier one of the
same name, so no name is lost. -/
theorem contains_actions (b : TableBuilder δ) (name : String) :
    b.registry.actions.contains name = true ↔ name ∈ b.actions.map Prod.fst := by
  rw [registry, (foldl_register b.actions Registry.empty [] (by simp [Registry.empty])).1]
  simp

/-! ### All of it -/

/-- Which fault is reported. Building ends with an error exactly when that is the fault of the
least rank (`Reports`), and with a table exactly when there is no fault. One of both holds of
every declaration, and then with one error only. A map of the registered actions that notes the
names that come in again (`Registry`) finds the same first repetition and the same names. -/
theorem build_reports (b : TableBuilder δ) :
    (∀ e, b.build.1 = .error e ↔ b.Reports e) ∧
    ((∃ t, b.build.1 = .ok t) ↔ ∀ e, ¬ b.Fault e) ∧
    Xor (∀ e, ¬ b.Fault e) (∃! e, b.Reports e) ∧
    (∀ name, b.registry.repeated.head? = some name ↔ b.Fault (.duplicateAction name)) ∧
    ∀ name, b.registry.actions.contains name = true ↔ name ∈ b.actions.map Prod.fst := by
  refine ⟨b.build_eq_error_iff, b.exists_build_eq_ok_iff, ?_, b.head?_repeated,
    b.contains_actions⟩
  cases hbuild : b.build.1 with
  | error e =>
    have hreports : b.Reports e := (b.build_eq_error_iff e).mp hbuild
    exact .inr ⟨⟨e, hreports, fun other hother => hother.unique hreports⟩,
      fun hnone => hnone e hreports.1⟩
  | ok t =>
    have hnone := b.exists_build_eq_ok_iff.mp ⟨t, hbuild⟩
    exact .inl ⟨hnone, fun ⟨e, hreports, _⟩ => hnone e hreports.1⟩

end TableBuilder

end LineMachine
