import LineMachine.Proofs.Machine.Feed
import LineMachine.Proofs.TableBuilder.Draft

/-!
# `LineMachine.Proofs.Machine.Safety`: no look outside of the table

An action may save any number and choose any number, also one that the table
does not have. A parse is still safe: it looks up a state by its number only
where the table has that state.

To say so, this module writes the operations of a parse out again with looks
that can fail. `Table.state` and `Table.name` fail with the number that is
`Outside`, and `Table.resolveIn`, `Engine.feedIn`, `Engine.currentNameIn` and
`Engine.finishIn` use them wherever a name is not just shown.

The stack is of no help here, since it can hold any number. The invariant is
that the present state is one of the table: `Engine.has_of_feed` carries it over
one line and `Engine.Reaches.has_current` over a run, failed lines included.

* `Engine.Safe` lists what follows for the parse as it is.
* `TableBuilder.safe`: building makes no bad access, and with the table that is
  built every parse, with any actions, stays safe.
-/

set_option autoImplicit false

namespace LineMachine

variable {δ : Type}

/-- A look at a state that the table does not have. -/
structure Outside where
  id : StateId
deriving Repr, DecidableEq

namespace Table

/-- The state with a number, which must be in the table. -/
def state (t : Table δ) (id : StateId) : Except Outside (State δ) :=
  match t.get? id with
  | some s => .ok s
  | none => .error ⟨id⟩

/-- The name of a state, which must be in the table. -/
def name (t : Table δ) (id : StateId) : Except Outside String := (t.state id).map State.name

/-- Consumes a line as `resolve` does, with looks that can fail. -/
def resolveIn (t : Table δ) (line : Line) : Nat → StateId → Work δ →
    Except Outside (Option (Except ParseError StateId × Work δ))
  | 0, _, _ => .ok none
  | budget + 1, current, w => do
    let s ← t.state current
    match t.stepState line s w with
    | (.error e, w) => .ok (some (.error e, w))
    | (.ok outcome, w) =>
      if t.has outcome.next then
        match outcome with
        | .settled next => .ok (some (.ok next, w))
        | .resumed next => t.resolveIn line budget next w
      else .ok (some (.error (.unknownState line.number outcome.next), w))

/-- The transition that a state takes on the line runs an action, and the action
chooses a state. It may have saved the state or taken it back before. -/
def Chooses (t : Table δ) (line : Line) (s : State δ) (w : Work δ) (next : StateId) : Prop :=
  ∃ rule tr captures bound,
    State.firstMatch? line.text s.transitions 0 = some (rule, tr, captures) ∧
    tr.action = some bound ∧
    ((bound.run (t.site line s.id tr.destination) captures).run
      (t.site line s.id tr.destination) false w).result = .ok (some next)

variable {t : Table δ} {line : Line} {s : State δ} {id next : StateId} {w w' : Work δ}

/-- A state that `Table.get?` finds is what the look `Table.state` gives. It is where a look does
not fail. -/
theorem state_of_get? (h : t.get? id = some s) : t.state id = .ok s := by
  rw [state, h]

/-- The look `Table.name` does not fail on a state of the table, and gives the name that
`Table.nameOf` shows without a look. -/
theorem name_eq (h : t.has id = true) : t.name id = .ok (t.nameOf id) := by
  obtain ⟨s, hs⟩ := (has_iff t id).mp h
  rw [name, state_of_get? hs, nameOf_of_get? hs]
  rfl

/-- A line that starts in the table looks at states of the table only, so `Table.resolveIn` does
what `Table.resolve` does. The loop checks every choice before it goes on there, which is what the
induction on the budget needs. -/
theorem resolveIn_eq (t : Table δ) (line : Line) (budget : Nat) (w : Work δ)
    (h : t.has id = true) : t.resolveIn line budget id w = .ok (t.resolve line budget id w) := by
  induction budget generalizing id w with
  | zero => rfl
  | succ budget ih =>
    obtain ⟨s, hs⟩ := (has_iff t id).mp h
    rw [resolveIn, state_of_get? hs]
    show (match t.stepState line s w with | (.error _, _) => _ | (.ok _, _) => _) = _
    rcases hstep : t.stepState line s w with ⟨e | outcome, w'⟩
    · rw [resolve_of_error budget hs hstep]
    · -- What the action chose is looked up only behind this check.
      cases hnext : t.has outcome.next with
      | false =>
        rw [resolve_of_foreign budget hs hstep hnext]
        simp [hnext]
      | true =>
        cases outcome with
        | settled next =>
          rw [resolve_of_settled budget hs hstep hnext]
          simp [hnext]
        | resumed next =>
          rw [resolve_of_resumed budget hs hstep hnext]
          have hnext' : t.has next = true := hnext
          simpa [hnext', Outcome.next] using ih w' hnext'

/-- A line that is consumed leads to a state of the table, since `Table.resolve` asks `Table.has`
before it settles. The state that the line starts from is not asked for. -/
theorem has_of_resolve {budget : Nat} (h : t.resolve line budget id w = some (.ok next, w')) :
    t.has next = true := by
  induction budget generalizing id w with
  | zero => simp [resolve] at h
  | succ budget ih =>
    cases hs : t.get? id with
    | none => simp [resolve, hs] at h
    | some s =>
      rcases resolve_cases hs h with ⟨e, _, -, hanswer⟩ | ⟨_, _, -, hnext, hanswer⟩ |
        ⟨_, _, -, -, hrest⟩ | ⟨_, _, -, -, hanswer⟩
      · cases hanswer
      · cases hanswer
        exact hnext
      · exact ih hrest
      · cases hanswer

/-- A choice in the sense of `Table.Chooses` is the state that the step leads to. Whether the
outcome is `settled` or `resumed` depends on what the action took from the stack. -/
theorem stepState_of_chooses (h : t.Chooses line s w next) :
    ∃ outcome w', t.stepState line s w = (.ok outcome, w') ∧ outcome.next = next := by
  obtain ⟨rule, tr, captures, bound, hfirst, haction, hresult⟩ := h
  have hfire : ∃ outcome w', t.fire line s.id tr captures w = (.ok outcome, w') ∧
      outcome.next = next := by
    simp only [fire, haction, hresult]
    refine ⟨_, _, rfl, ?_⟩
    split <;> rfl
  obtain ⟨outcome, w', hfire, hnext⟩ := hfire
  exact ⟨outcome, _, stepState_of_fire_ok hfirst hfire, hnext⟩

/-- A choice outside of the table ends the line with the number that was chosen, wherever on the
line it is made. The points before it are those of `Table.Passes`. -/
theorem resolve_of_chooses_foreign {last : StateId} (hp : t.Passes line id w last w')
    (hs : t.get? last = some s) (hchosen : t.Chooses line s w' next)
    (hforeign : t.has next = false) :
    ∃ budget w'', t.resolve line budget id w =
      some (.error (.unknownState line.number next), w'') := by
  obtain ⟨outcome, w'', hstep, rfl⟩ := stepState_of_chooses hchosen
  obtain ⟨more, hmore⟩ := resolve_of_passes hp (resolve_of_foreign 0 hs hstep hforeign)
  exact ⟨_, w'', hmore⟩

end Table

namespace Engine

/-- The name of the present state, with a look that can fail. -/
def currentNameIn (e : Engine δ) : Except Outside String := e.table.name e.current

/-- Consumes a line as `feed` does, with looks that can fail. -/
def feedIn (extra : Nat) (text : String) (e : Engine δ) :
    Except Outside (Option (Answer δ StateId)) := do
  let e := e.take text
  let budget := e.stack.depth + 1 + extra
  match ← e.table.resolveIn ⟨e.line, e.lineno⟩ budget e.current ⟨e.stack, e.data, e.log⟩ with
  | none => .ok none
  | some (.error fault, w) => .ok (some (.error fault, e.withWork w))
  | some (.ok next, w) => do
    let e := e.withWork w
    let source ← e.table.name e.current
    let destination ← e.table.name next
    .ok (some (.ok next, { e with
      current := next
      trace := e.trace.map fun t => t.record ⟨e.lineno, source, destination⟩
      log := e.log.push (.stepped e.lineno source destination) }))

/-- Ends the parse as `finish` does, with looks that can fail. The names of the
saved states are shown whether or not the table has them. -/
def finishIn (e : Engine δ) : Except Outside (Answer δ Summary) :=
  let stack := e.stack.bottomUp.map e.table.nameOf
  if !stack.isEmpty && e.options.requireEmptyStack then
    .ok (.error (.unbalancedStack stack.length stack), e)
  else do
    let leftover := if stack.isEmpty then #[] else #[Report.leftover stack.length stack]
    let final ← e.table.name e.current
    let log := e.log ++ leftover ++ #[Report.finished e.lineno final]
    .ok (.ok ⟨final, e.lineno, stack, e.trace⟩, { e with log })

/-- The parse is in order, and no next operation looks outside of the table:

- `current`: the present state is one of the table;
- `name`, `feed`, `finish`: these operations do what they do without a look that
  fails;
- `foreign`: take a line that comes to a state, at once or through states that
  were taken back, and an action there that chooses a number outside of the
  table. Then the line ends with that number and the number of the line, and the
  present state stays as it is;
- `final`: a parse that ends well ends in a state of the table. -/
structure Safe (e : Engine δ) : Prop where
  current : e.table.has e.current = true
  name : e.currentNameIn = .ok e.currentName
  feed : ∀ (extra : Nat) (text : String), e.feedIn extra text = .ok (e.feed extra text)
  finish : e.finishIn = .ok e.finish
  foreign : ∀ (text : String) (last next : StateId) (s : State δ) (w : Work δ),
    e.table.Passes (e.lineOf text) e.current e.work last w → e.table.get? last = some s →
    e.table.Chooses (e.lineOf text) s w next → e.table.has next = false →
    (∃ extra answer, e.feed extra text = some answer) ∧
    ∀ (extra : Nat) (result : Except ParseError StateId) (e' : Engine δ),
      e.feed extra text = some (result, e') →
      result = .error (.unknownState (e.lineno + 1) next) ∧ e'.current = e.current
  final : ∀ (summary : Summary) (e' : Engine δ), e.finish = (.ok summary, e') →
    ∃ s ∈ e.table.states, s.name = summary.finalState

variable {e e' : Engine δ} {extra : Nat} {text : String}

/-- Every line, consumed or not, leaves the parse in a state of the table. A line that fails keeps
the present state, and for one that does not it is `has_of_resolve`. -/
theorem has_of_feed {result : Except ParseError StateId} (he : e.table.has e.current = true)
    (h : e.feed extra text = some (result, e')) : e'.table.has e'.current = true := by
  obtain ⟨w, hresolve, ⟨fault, rfl, rfl⟩ | ⟨next, rfl, rfl⟩⟩ := feed_cases h
  · exact he
  · exact Table.has_of_resolve hresolve

/-- Every run leaves the parse in a state of the table. This is the invariant that all looks rest
on, carried by `Reaches.invariant`. -/
theorem Reaches.has_current (h : e.Reaches e') (he : e.table.has e.current = true) :
    e'.table.has e'.current = true :=
  h.invariant (fun _ _ _ _ _ hbefore hfeed => has_of_feed hbefore hfeed) he

/-- From a state of the table `Engine.feedIn` does what `Engine.feed` does. Besides the looks of
the line it has those at the names of a step, of the state before and of the one behind it. -/
theorem feedIn_eq (extra : Nat) (text : String) (he : e.table.has e.current = true) :
    e.feedIn extra text = .ok (e.feed extra text) := by
  have hresolve : e.table.resolveIn (e.lineOf text) (e.budget extra) e.current e.work =
      .ok (e.table.resolve (e.lineOf text) (e.budget extra) e.current e.work) :=
    Table.resolveIn_eq e.table _ _ _ he
  have hsource : e.table.name e.current = .ok (e.table.nameOf e.current) := Table.name_eq he
  rw [feed_eq]
  rcases h : e.table.resolve (e.lineOf text) (e.budget extra) e.current e.work with
    _ | ⟨fault | next, w⟩
  all_goals
    rw [h] at hresolve
    simp only [lineOf, budget, work] at hresolve
  · simp [feedIn, take, hresolve, bind, Except.bind]
  · simp [feedIn, take, hresolve, answer, bind, Except.bind]
  · have hnext : e.table.name next = .ok (e.table.nameOf next) :=
      Table.name_eq (Table.has_of_resolve h)
    simp [feedIn, take, withWork, settle, hresolve, answer, hsource, hnext, bind, Except.bind]

/-- From a state of the table `Engine.finishIn` does what `Engine.finish` does. The only look is
at the name of the present state, as the saved states are shown without one. -/
theorem finishIn_eq (he : e.table.has e.current = true) : e.finishIn = .ok e.finish := by
  have hname : e.table.name e.current = .ok (e.table.nameOf e.current) := Table.name_eq he
  unfold finishIn finish
  simp only [hname]
  split
  · rfl
  · rfl

/-- A parse that is in a state of the table is safe. Each field of `Engine.Safe` is one of the
lemmas before, and `foreign` compares two answers of the same line by `Table.resolve_unique`. -/
theorem safe_of_has (he : e.table.has e.current = true) : e.Safe where
  current := he
  name := Table.name_eq he
  feed := fun extra text => feedIn_eq extra text he
  finish := finishIn_eq he
  foreign := by
    intro text last next s w hp hs hchosen hforeign
    obtain ⟨budget, w', hresolve⟩ :=
      Table.resolve_of_chooses_foreign hp hs hchosen hforeign
    constructor
    · have hmore := Table.resolve_add (e.stack.depth + 1) hresolve
      rw [Nat.add_comm] at hmore
      refine ⟨budget, e.answer text (.error (.unknownState (e.lineno + 1) next), w'), ?_⟩
      rw [feed_eq, Engine.budget, hmore]
      rfl
    · intro extra result e' hfeed
      obtain ⟨w'', hresolve', hanswer⟩ := feed_cases hfeed
      -- However many states may be tried, a line has one end.
      have hsame := Table.resolve_unique hresolve hresolve'
      cases hsame
      obtain ⟨fault, hfault, rfl⟩ | ⟨_, hnext, -⟩ := hanswer
      · exact ⟨rfl, rfl⟩
      · cases hnext
  final := by
    intro summary e' hfinish
    obtain ⟨s, hs⟩ := (Table.has_iff e.table e.current).mp he
    refine ⟨s, Table.mem_of_get? hs, ?_⟩
    rw [← Table.nameOf_of_get? hs]
    rcases e.finish_cases with ⟨-, -, hend⟩ | ⟨-, log, hend⟩
    · rw [hend] at hfinish
      cases hfinish
    · rw [hend] at hfinish
      cases hfinish
      rfl

end Engine

namespace TableBuilder

/-- Safety with arbitrary actions. Building looks up names that are in the map and numbers that
are in the vector only (`buildDraft?`). With the table that is built, whatever its actions do,
every parse that was fed any lines, failed ones included, is `Engine.Safe`. -/
theorem safe (b : TableBuilder δ) :
    b.buildDraft? = some b.build ∧
      ∀ (t : Table δ) (log : List Report) (options : ParseOptions) (data : δ) (e : Engine δ),
        b.build = (.ok t, log) → (Engine.start t options data).Reaches e →
        e.table = t ∧ e.Safe := by
  refine ⟨b.buildDraft?_eq_build, ?_⟩
  intro t log options data e hbuild hreaches
  have hinitial : t.has t.initial = true := (wellFormed_of_build hbuild).initial
  exact ⟨hreaches.table_eq, Engine.safe_of_has (hreaches.has_current hinitial)⟩

/-- One state, with an action that saves a number that the table does not have
and goes back to it. -/
def strayBuilder : TableBuilder Unit where
  rules := [⟨"only", .any, none, some "stray"⟩]
  actions := [("stray", fun _ _ => .push ⟨9⟩ (Script.resume.bind fun id => .done (some id)))]
  initial := none
  validation := .strict

/-- A parse with two lines that fail, of the table that `strayBuilder` builds. The number `⟨9⟩` is
on the stack and is chosen, and still no look goes outside of the table. -/
theorem safe_strayBuilder :
    ∃ t log e, strayBuilder.build = (.ok t, log) ∧
      (Engine.start t ParseOptions.default ()).Reaches e ∧
      (e.feed 0 "second").map Prod.fst = some (.error (.unknownState 2 ⟨9⟩)) ∧
      e.table = t ∧ e.Safe := by
  refine ⟨_, _, _, rfl, @Engine.Reaches.feed _ _ _ _ 0 "first" _ .refl rfl, rfl, ?_⟩
  exact (safe strayBuilder).2 _ _ ParseOptions.default () _ rfl
    (@Engine.Reaches.feed _ _ _ _ 0 "first" _ .refl rfl)

end TableBuilder

end LineMachine
