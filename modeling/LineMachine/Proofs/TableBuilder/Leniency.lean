import LineMachine.Proofs.TableBuilder.Declared

/-!
# `LineMachine.Proofs.TableBuilder.Leniency`: strict and lenient building agree

Strict building refuses the first destination without rules. Lenient building adds a state
for each such destination and warns about it. Apart from that the two do the same.

* `TableBuilder.warnings` reads the destinations without rules out of the reports of lenient
  building, and `TableBuilder.warnings_eq` says which ones they are.
* `TableBuilder.find?_of_mem_placeholders`: each warning names the first row that mentions the
  destination.
* `TableBuilder.build_strict_eq` and `TableBuilder.build_strict_of_cons` give the end of strict
  building from the warnings of lenient building.
* `TableBuilder.Agrees` compares both, and `TableBuilder.agrees_of_nodup` states the comparison
  for every declaration that has rows and registers no action twice.
-/

set_option autoImplicit false

namespace LineMachine

variable {δ : Type}

/-- The row and the destination that the report warns about, if it is about a destination
without rules. -/
def Report.opening? : Report → Option (String × String)
  | .placeholder state destination => some (state, destination)
  | _ => none

namespace TableBuilder

/-- The warnings of lenient building about destinations without rules, in the order in which
they are given: the state of the row, and the destination. -/
def warnings (b : TableBuilder δ) : List (String × String) :=
  (b.setValidation .lenient).build.2.filterMap Report.opening?

/-- Strict and lenient building agree:

- `same`: where lenient building does not warn, both end in the same way, with the same table
  or the same error, and with the same reports;
- `refused`: where it warns, strict building refuses what the first warning names, however
  lenient building ends;
- `names`: there is one warning for each destination without rules, in the order in which the
  rows first mention them;
- `states`: a warning names the state of the first row that leads to the destination. -/
structure Agrees (b : TableBuilder δ) : Prop where
  same : b.warnings = [] → (b.setValidation .strict).build = (b.setValidation .lenient).build
  refused : ∀ (state destination : String) (rest : List (String × String)),
    b.warnings = (state, destination) :: rest →
    (b.setValidation .strict).build = (.error (.danglingDestination state destination), [])
  names : b.warnings.map Prod.snd = declaredOpen b.rules
  states : ∀ warning ∈ b.warnings, ∃ rule,
    (b.rules.find? fun rule => rule.destination = some warning.2) = some rule ∧
    rule.state = warning.1

/-! ### First mentions -/

/-- A destination that is taken up was not seen before, and no earlier row has it. The first part
carries the induction on the rows, and the second is what `find?_of_mem_placeholders` needs. -/
theorem find?_of_mem_placeholderRules {seen : List String} {rows : List (String × String)}
    {row : String × String} (h : row ∈ placeholderRules seen rows) :
    row.2 ∉ seen ∧ (rows.find? fun other => other.2 = row.2) = some row := by
  induction rows generalizing seen with
  | nil => simp [placeholderRules] at h
  | cons first rest ih =>
    obtain ⟨state, destination⟩ := first
    by_cases hseen : destination ∈ seen
    · rw [placeholderRules, if_pos hseen] at h
      obtain ⟨hnew, hfind⟩ := ih h
      have hother : destination ≠ row.2 := fun heq => hnew (heq ▸ hseen)
      exact ⟨hnew, by rw [List.find?_cons_of_neg (by simpa using hother), hfind]⟩
    · rw [placeholderRules, if_neg hseen] at h
      rcases List.mem_cons.mp h with rfl | hrest
      · exact ⟨hseen, by simp⟩
      · obtain ⟨hnew, hfind⟩ := ih hrest
        obtain ⟨hother, hbefore⟩ := not_or.mp (mt List.mem_cons.mpr hnew)
        have hne : destination ≠ row.2 := Ne.symm hother
        exact ⟨hbefore, by rw [List.find?_cons_of_neg (by simpa using hne), hfind]⟩

/-- The first row that leads to a destination without rules is the one that it is taken up for.
Rows that do not dangle lie between the others, but they lead elsewhere. -/
theorem find?_of_mem_placeholders {b : TableBuilder δ} {row : String × String}
    (h : row ∈ b.placeholders) :
    ∃ rule, (b.rules.find? fun rule => rule.destination = some row.2) = some rule ∧
      rule.state = row.1 := by
  obtain ⟨-, hfind⟩ := find?_of_mem_placeholderRules h
  have hopen : row.2 ∉ b.sources := by
    obtain ⟨-, -, -, -, hopen⟩ := (mem_dangling b row).mp (List.mem_of_find?_eq_some hfind)
    exact hopen
  rw [dangling, List.find?_filterMap, Option.bind_eq_some_iff] at hfind
  obtain ⟨rule, hrule, hrow⟩ := hfind
  refine ⟨rule, ?_, ?_⟩
  · -- Among the rows, those that lead there are those that lead there and nowhere else.
    rw [← hrule]
    congr 1
    funext other
    cases other.destination with
    | none => simp
    | some destination =>
      by_cases hsame : destination = row.2
      · simp [hsame, hopen]
      · by_cases hsource : destination ∈ b.sources
        · simp [hsame, hsource]
        · simp [hsame, hsource]
  · obtain ⟨destination, -, hrow⟩ := Option.bind_eq_some_iff.mp hrow
    split at hrow
    · cases hrow
    · cases hrow
      rfl

/-! ### The validation -/

variable {b : TableBuilder δ}

/-- Under lenient validation no destination is refused, so `build` goes on behind that check
whatever dangles. -/
theorem isClosed_lenient (b : TableBuilder δ) : (b.setValidation .lenient).IsClosed := by
  intro hstrict
  cases hstrict

/-- Binding the rules does not look at the validation. The induction is on the rules, since
`bindRules` passes the whole builder along. -/
theorem bindRules_setValidation (b : TableBuilder δ) (validation : Validation)
    (names : List String) (rules : List Rule) :
    (b.setValidation validation).bindRules names rules = b.bindRules names rules := by
  induction rules with
  | nil => rfl
  | cons rule rest ih =>
    rw [bindRules, bindRules, ih]
    rfl

/-- Behind the destinations, nothing looks at the validation: the beginning and the states are
found from the rules, and `bindRules_setValidation` does the rest. -/
theorem assemble_setValidation (b : TableBuilder δ) (validation : Validation) (first : Rule) :
    (b.setValidation validation).assemble first = b.assemble first := by
  unfold assemble
  rw [bindRules_setValidation]
  rfl

/-! ### The warnings -/

/-- Reading the reports about placeholders back gives the rows they were made from. Nothing is
lost, as each report carries both names. -/
theorem filterMap_placeholderReports (b : TableBuilder δ) :
    b.placeholderReports.filterMap Report.opening? = b.placeholders := by
  rw [placeholderReports, List.filterMap_map]
  exact List.filterMap_some

/-- A complete table gives no cause to warn about destinations: its reports are about shadowed
transitions and about the table as a whole. -/
theorem filterMap_endReports (result : Except BuildError (Table δ)) :
    (endReports result).filterMap Report.opening? = [] := by
  rw [List.filterMap_eq_nil_iff]
  intro report hreport
  cases result with
  | error e => cases hreport
  | ok t =>
    rcases List.mem_append.mp hreport with hshadow | hbuilt
    · obtain ⟨s, -, hshadow⟩ := List.mem_flatMap.mp hshadow
      obtain ⟨sh, -, hreport⟩ := List.mem_filterMap.mp hshadow
      obtain ⟨tr, -, rfl⟩ := Option.map_eq_some_iff.mp hreport
      rfl
    · rw [List.mem_singleton] at hbuilt
      subst hbuilt
      rfl

/-- Lenient building warns about the first mentions of the destinations without rules, also when
it fails behind them. From here on `placeholders` stands for the warnings. -/
theorem warnings_eq (hrules : b.rules ≠ []) (hactions : (b.actions.map Prod.fst).Nodup) :
    b.warnings = b.placeholders := by
  obtain ⟨first, rest, hfirst⟩ := List.exists_cons_of_ne_nil hrules
  rw [warnings, build_of_isClosed (b := b.setValidation .lenient) hfirst hactions
    b.isClosed_lenient, List.filterMap_append, filterMap_endReports, List.append_nil]
  exact filterMap_placeholderReports b

/-! ### Strict building -/

/-- The first mentions begin where the rows do: where no destination is taken up, none dangles,
and strict building has nothing to refuse. -/
theorem dangling_of_placeholders_eq_nil (h : b.placeholders = []) : b.dangling = [] := by
  cases hrows : b.dangling with
  | nil => rfl
  | cons row rows =>
    rw [placeholders, hrows, placeholderRules, if_neg List.not_mem_nil] at h
    cases h

/-- The first row that dangles is the first mention of its destination, because nothing was seen
before it. Strict and lenient building therefore name the same row first. -/
theorem dangling_of_placeholders_eq_cons {row : String × String} {rest : List (String × String)}
    (h : b.placeholders = row :: rest) : ∃ rows, b.dangling = row :: rows := by
  cases hrows : b.dangling with
  | nil =>
    rw [placeholders, hrows] at h
    cases h
  | cons first rows =>
    rw [placeholders, hrows, placeholderRules, if_neg List.not_mem_nil] at h
    cases h
    exact ⟨rows, rfl⟩

/-- Without a destination that lacks rules, strict building ends as lenient building does. Both
are at `assemble` then, which `assemble_setValidation` shows to be the same. -/
theorem build_strict_eq (hrules : b.rules ≠ []) (hactions : (b.actions.map Prod.fst).Nodup)
    (h : b.placeholders = []) :
    (b.setValidation .strict).build = (b.setValidation .lenient).build := by
  obtain ⟨first, rest, hfirst⟩ := List.exists_cons_of_ne_nil hrules
  have hclosed : (b.setValidation .strict).IsClosed := fun _ => dangling_of_placeholders_eq_nil h
  have hstrict := build_of_isClosed (b := b.setValidation .strict) hfirst hactions hclosed
  have hlenient := build_of_isClosed (b := b.setValidation .lenient) hfirst hactions
    b.isClosed_lenient
  rw [assemble_setValidation] at hstrict hlenient
  rw [hstrict, hlenient]
  rfl

/-- Strict building refuses the destination that is taken up first. It does so before the
beginning and the actions are looked at, so a later fault does not change the error. -/
theorem build_strict_of_cons (hrules : b.rules ≠ []) (hactions : (b.actions.map Prod.fst).Nodup)
    {state destination : String} {rest : List (String × String)}
    (h : b.placeholders = (state, destination) :: rest) :
    (b.setValidation .strict).build = (.error (.danglingDestination state destination), []) := by
  obtain ⟨rows, hdangling⟩ := dangling_of_placeholders_eq_cons h
  exact build_of_dangling (b := b.setValidation .strict) hrules hactions rfl hdangling

/-! ### Both -/

/-- Strict and lenient building agree on every declaration that has rows and registers no action
twice (`Agrees`). They are also what comes out of the program that names a state while it still
looks for destinations without one. -/
theorem agrees_of_nodup (b : TableBuilder δ) (hrules : b.rules ≠ [])
    (hactions : (b.actions.map Prod.fst).Nodup) :
    b.Agrees ∧
      ∀ validation, (b.setValidation validation).buildDraft? =
        some (b.setValidation validation).build := by
  have hwarnings : b.warnings = b.placeholders := warnings_eq hrules hactions
  refine ⟨⟨?_, ?_, ?_, ?_⟩, fun validation => buildDraft?_eq_build _⟩
  · intro hnone
    exact build_strict_eq hrules hactions (hwarnings ▸ hnone)
  · intro state destination rest hfirst
    exact build_strict_of_cons hrules hactions (hwarnings ▸ hfirst)
  · rw [hwarnings]
    exact map_snd_placeholders_eq b
  · intro warning hwarning
    exact find?_of_mem_placeholders (hwarnings ▸ hwarning)

/-- Two destinations without rules, one of them mentioned by two rows and set as the
beginning, and an action that is not registered. -/
def looseEnds : TableBuilder Unit where
  rules :=
    [⟨"a", .literal "x", some "b", none⟩,
      ⟨"b", .any, some "end", some "missing"⟩,
      ⟨"a", .literal "y", some "gone", none⟩,
      ⟨"b", .any, some "end", none⟩]
  actions := [("note", fun _ _ => .done none)]
  initial := some "end"
  validation := .lenient

/-- The theorem at `looseEnds`, where three things are wrong at once. Lenient building warns twice
and then refuses the beginning. -/
theorem agrees_of_nodup_looseEnds :
    looseEnds.rules ≠ [] ∧ (looseEnds.actions.map Prod.fst).Nodup ∧
      looseEnds.warnings = [("b", "end"), ("a", "gone")] ∧
      (looseEnds.setValidation .lenient).build.1 = .error (.unknownInitial "end") ∧
      looseEnds.Agrees ∧
      ∀ validation, (looseEnds.setValidation validation).buildDraft? =
        some (looseEnds.setValidation validation).build :=
  ⟨by decide, by decide, rfl, rfl, agrees_of_nodup looseEnds (by decide) (by decide)⟩

end TableBuilder

end LineMachine
