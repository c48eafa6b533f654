import LineMachine.Proofs.Builtin.Unwinding
import LineMachine.Proofs.Machine.Safety

/-!
# `LineMachine.Proofs.Builtin.Termination`: a line ends when pops shrink the stack

`Table.resolve` tries a line again whenever an action took a saved state, whatever else the
action did and wherever it leads. Nothing counts these tries, and a table can lead a line
round in a circle. What ends it is the stack.

* `Table.PopsShrink` is the condition: an action that takes a saved state and does not fail
  leaves fewer saved states than it found. Other actions may save any number.
* `Table.EndsAfter` counts the tries of a line: it ends when it is allowed that many, and not
  when it is allowed fewer.
* `Table.depth_lt_of_resumed`: under the condition, a line that is tried again is tried with
  fewer saved states. `Table.PopsShrink.exists_endsAfter` bounds the tries from this.
* `Engine.exists_feed_eq`, `Engine.exists_parse_eq` and `Engine.exists_parseItems_eq` carry it
  to lines and runs.
* `Table.Standard.popsShrink`: the ready-made actions meet the condition.
* `Table.terminates` states the result for every table that meets it, and for every table of a
  definition.
-/

set_option autoImplicit false

namespace LineMachine

variable {δ : Type}

namespace Table

/-- An action of a transition of `source` is invoked on a match. -/
def invoke (t : Table δ) (line : Line) (source : StateId) (tr : Transition δ)
    (bound : BoundAction δ) (captures : Captures) (w : Work δ) :
    ScriptEnd δ (Option StateId) :=
  (bound.run (t.site line source tr.destination) captures).run
    (t.site line source tr.destination) false w

/-- Pops shrink the stack: wherever an action of the table is invoked, if it takes a saved
state at least once and does not fail, then it leaves fewer saved states than it found. -/
def PopsShrink (t : Table δ) : Prop :=
  ∀ s ∈ t.states, ∀ tr ∈ s.transitions, ∀ bound ∈ tr.action,
    ∀ (line : Line) (captures : Captures) (w : Work δ) (chosen : Option StateId),
      tr.pattern.matches? line.text = some captures →
      (t.invoke line s.id tr bound captures w).popped = true →
      (t.invoke line s.id tr bound captures w).result = .ok chosen →
      (t.invoke line s.id tr bound captures w).work.stack.depth < w.stack.depth

/-- The line makes this many tries, and then it ends with the answer. -/
def EndsAfter (t : Table δ) (line : Line) (start : StateId) (w : Work δ) (tries : Nat)
    (answer : Except ParseError StateId × Work δ) : Prop :=
  ∀ budget, t.resolve line budget start w = if tries ≤ budget then some answer else none

variable {t : Table δ} {line : Line} {s : State δ} {id next : StateId} {w w' : Work δ}

/-! ### One try -/

/-- A transition has the line tried again only for an action that took a saved state and did not
fail. These are the invocations that `Table.PopsShrink` is about. -/
theorem invoke_of_fire_resumed {source : StateId} {tr : Transition δ} {captures : Captures}
    (h : t.fire line source tr captures w = (.ok (.resumed next), w')) :
    ∃ bound ∈ tr.action, ∃ chosen,
      (t.invoke line source tr bound captures w).popped = true ∧
      (t.invoke line source tr bound captures w).result = .ok chosen ∧
      (t.invoke line source tr bound captures w).work = w' := by
  cases haction : tr.action with
  | none => simp [fire, haction] at h
  | some bound =>
    -- What is fired is what `Table.PopsShrink` speaks of.
    have hinvoke : (bound.run (t.site line source tr.destination) captures).run
        (t.site line source tr.destination) false w = t.invoke line source tr bound captures w :=
      rfl
    simp only [fire, haction, hinvoke] at h
    cases hresult : (t.invoke line source tr bound captures w).result with
    | error e => simp [hresult] at h
    | ok chosen =>
      simp only [hresult, Prod.mk.injEq, Except.ok.injEq] at h
      cases hpopped : (t.invoke line source tr bound captures w).popped with
      | false => simp [hpopped] at h
      | true => exact ⟨bound, rfl, chosen, hpopped, hresult, h.2⟩

/-- A line that is tried again is tried with fewer saved states, if the table is
`Table.PopsShrink`. The report of the match, which comes behind the action, does not touch the
stack. -/
theorem depth_lt_of_resumed (ht : t.PopsShrink) (hs : t.get? id = some s)
    (h : t.stepState line s w = (.ok (.resumed next), w')) : w'.stack.depth < w.stack.depth := by
  cases hfirst : State.firstMatch? line.text s.transitions 0 with
  | none =>
    rw [stepState_of_none hfirst] at h
    cases h
  | some found =>
    obtain ⟨rule, tr, captures⟩ := found
    rcases hfire : t.fire line s.id tr captures w with ⟨e | outcome, v⟩
    · rw [stepState_of_fire_error hfirst hfire] at h
      cases h
    · rw [stepState_of_fire_ok hfirst hfire] at h
      cases h
      obtain ⟨bound, hbound, chosen, hpopped, hresult, rfl⟩ := invoke_of_fire_resumed hfire
      obtain ⟨before, after, hsplit, -, hmatch, -⟩ := State.firstMatch?_eq_some hfirst
      have htr : tr ∈ s.transitions := by simp [hsplit]
      exact ht s (mem_of_get? hs) tr htr bound hbound line captures w chosen hmatch hpopped hresult

/-! ### A line -/

/-- A line that needs no second try ends after one, in the sense of `Table.EndsAfter`: no budget
is not enough for it, and any other is. -/
theorem EndsAfter.one {answer : Except ParseError StateId × Work δ}
    (h : ∀ budget, t.resolve line (budget + 1) id w = some answer) :
    t.EndsAfter line id w 1 answer := by
  intro budget
  cases budget with
  | zero => rfl
  | succ budget => rw [h budget, if_pos (Nat.le_add_left 1 budget)]

/-- A try that has the line tried again is one try more than `Table.EndsAfter` counts from
there. -/
theorem EndsAfter.succ {tries : Nat} {answer : Except ParseError StateId × Work δ}
    (hstep : ∀ budget, t.resolve line (budget + 1) id w = t.resolve line budget next w')
    (h : t.EndsAfter line next w' tries answer) : t.EndsAfter line id w (tries + 1) answer := by
  intro budget
  cases budget with
  | zero => rfl
  | succ budget =>
    rw [hstep, h budget]
    simp only [Nat.add_le_add_iff_right]

/-- A line makes at most one try more than there are saved states. The induction is on these: a
line that is tried again has fewer of them by `depth_lt_of_resumed`. -/
theorem PopsShrink.exists_endsAfter (ht : t.PopsShrink) (line : Line) (start : StateId)
    (w : Work δ) (hstart : t.has start = true) :
    ∃ tries answer, tries ≤ w.stack.depth + 1 ∧ t.EndsAfter line start w tries answer := by
  induction hdepth : w.stack.depth using Nat.strongRecOn generalizing start w with
  | ind depth ih =>
    obtain ⟨s, hs⟩ := (has_iff t start).mp hstart
    rcases hstep : t.stepState line s w with ⟨e | outcome, w'⟩
    · exact ⟨1, _, Nat.le_add_left 1 depth, .one fun budget => resolve_of_error budget hs hstep⟩
    · cases hnext : t.has outcome.next with
      | false =>
        exact ⟨1, _, Nat.le_add_left 1 depth,
          .one fun budget => resolve_of_foreign budget hs hstep hnext⟩
      | true =>
        cases outcome with
        | settled next =>
          exact ⟨1, _, Nat.le_add_left 1 depth,
            .one fun budget => resolve_of_settled budget hs hstep hnext⟩
        | resumed next =>
          -- A saved state was taken, so the rest of the tries begins with fewer of them.
          have hshorter : w'.stack.depth < depth := hdepth ▸ depth_lt_of_resumed ht hs hstep
          obtain ⟨tries, answer, htries, hends⟩ :=
            ih w'.stack.depth hshorter next w' hnext rfl
          exact ⟨tries + 1, answer, by omega,
            hends.succ fun budget => resolve_of_resumed budget hs hstep hnext⟩

end Table

/-! ### Runs -/

namespace Engine

variable {e : Engine δ} {extra : Nat}

/-- A line comes to an answer, also with no `extra` tries, since `Engine.budget` is as large as
the bound of `PopsShrink.exists_endsAfter`. -/
theorem exists_feed_eq (ht : e.table.PopsShrink) (he : e.table.has e.current = true)
    (extra : Nat) (text : String) : ∃ answer, e.feed extra text = some answer := by
  obtain ⟨tries, answer, htries, hends⟩ :=
    ht.exists_endsAfter (e.lineOf text) e.current e.work he
  have hbudget : tries ≤ e.budget extra := Nat.le_trans htries (Nat.le_add_right _ extra)
  have hresolve := hends (e.budget extra)
  rw [if_pos hbudget] at hresolve
  exact ⟨_, feed_of_resolve hresolve⟩

/-- A run over any lines comes to an answer: each line has one by `exists_feed_eq`, and leads to a
state of the table or ends the run. -/
theorem exists_parse_eq (ht : e.table.PopsShrink) (he : e.table.has e.current = true)
    (lines : List String) : ∃ answer, e.parse extra lines = some answer := by
  induction lines generalizing e with
  | nil => exact ⟨_, rfl⟩
  | cons text rest ih =>
    obtain ⟨⟨fault | next, e'⟩, hfeed⟩ := exists_feed_eq ht he extra text
    · exact ⟨_, parse_of_error hfeed⟩
    · rw [parse_of_ok hfeed]
      exact ih (table_of_feed hfeed ▸ ht) (has_of_feed he hfeed)

/-- A run over what a reader delivers comes to an answer. A line that does not decode and a
failure of the reader are answers too, so only lines with a text are left to `exists_feed_eq`. -/
theorem exists_parseItems_eq (ht : e.table.PopsShrink) (he : e.table.has e.current = true)
    (items : List (Except String (List UInt8))) :
    ∃ answer, e.parseItems extra items = some answer := by
  induction items generalizing e with
  | nil => exact ⟨_, rfl⟩
  | cons item rest ih =>
    cases item with
    | error message => exact ⟨_, rfl⟩
    | ok bytes =>
      cases hdecode : e.options.decoding.decode bytes with
      | none => exact ⟨_, parseItems_of_undecoded hdecode⟩
      | some text =>
        obtain ⟨⟨fault | next, e'⟩, hfeed⟩ := exists_feed_eq ht he extra text
        · exact ⟨_, parseItems_of_error hdecode hfeed⟩
        · rw [parseItems_of_ok hdecode hfeed]
          exact ih (table_of_feed hfeed ▸ ht) (has_of_feed he hfeed)

end Engine

namespace Table

/-! ### The ready-made actions -/

/-- A table of a definition is `Table.PopsShrink`: of the ready-made actions only `pop` takes a
saved state, and it takes one and saves none. -/
theorem Standard.popsShrink {t : Table Events} (ht : t.Standard) : t.PopsShrink := by
  intro s hs tr htr bound hbound line captures w chosen _ hpopped hresult
  rcases ht.builtin s hs tr htr with hnone | ⟨k, hk⟩
  · rw [hnone] at hbound
    cases hbound
  · obtain rfl : bound = k.bound := Option.some.inj (hbound.symm.trans hk)
    cases k with
    | emit => cases hpopped
    | push => cases hpopped
    | enter => cases hpopped
    | fail => cases hresult
    | pop =>
      -- With nothing saved it takes nothing and fails; else the top goes and nothing comes.
      simp only [invoke, Builtin.Kind.bound, Builtin.Kind.action, Builtin.pop, Script.run]
        at hpopped hresult ⊢
      cases hstack : w.stack.topDown with
      | nil => simp [ContextStack.pop?, hstack] at hpopped
      | cons top rest => simp [ContextStack.pop?, hstack, ContextStack.depth]

/-- Resolving a line ends. In a table whose actions shrink the stack when they take saved states
(`Table.PopsShrink`), a line that starts in any state, with any stack, ends after at most one try
more than there are saved states. Every table of a definition is such a table, so wherever a parse
has come to, each further line and each further run comes to an answer. -/
theorem terminates :
    (∀ (δ : Type) (t : Table δ), t.PopsShrink →
      ∀ (line : Line) (start : StateId) (w : Work δ), t.has start = true →
        ∃ tries answer, tries ≤ w.stack.depth + 1 ∧ t.EndsAfter line start w tries answer) ∧
    ∀ (d : TableDefinition) (fallback : Validation) (t : Table Events) (log : List Report),
      d.build fallback = (.ok t, log) →
      t.PopsShrink ∧
        ∀ (options : ParseOptions) (events : Events) (e : Engine Events),
          (Engine.start t options events).Reaches e → ∀ extra : Nat,
            (∀ text : String, ∃ answer, e.feed extra text = some answer) ∧
            (∀ lines : List String, ∃ answer, e.parse extra lines = some answer) ∧
            ∀ source : Text.Source, ∃ answer, e.parseSource extra source = some answer := by
  refine ⟨fun δ t ht line start w hstart => ht.exists_endsAfter line start w hstart, ?_⟩
  intro d fallback t log hbuild
  have hstandard : t.Standard := TableDefinition.standard_of_build hbuild
  refine ⟨hstandard.popsShrink, fun options events e hreaches extra => ?_⟩
  have htable : e.table = t := hreaches.table_eq
  have ht : e.table.PopsShrink := htable ▸ hstandard.popsShrink
  have he : e.table.has e.current = true := hreaches.has_current hstandard.initial
  exact ⟨fun text => Engine.exists_feed_eq ht he extra text,
    fun lines => Engine.exists_parse_eq ht he lines,
    fun source => Engine.exists_parseItems_eq ht he source.lines⟩

/-- Takes two saved states and saves its own. With only one saved state it goes on without a
second one, and with none it lets the line end. -/
def fold : Action Unit := fun site _ =>
  .pop fun _ => .pop fun
    | .ok _ => .push site.source (.done none)
    | .error _ => .done none

/-- Two states that lead to each other. -/
def seesaw : Table Unit where
  states :=
    [⟨⟨0⟩, "left", [⟨.any, some ⟨"fold", fold⟩, ⟨1⟩⟩]⟩,
      ⟨⟨1⟩, "right", [⟨.any, some ⟨"fold", fold⟩, ⟨0⟩⟩]⟩]
  initial := ⟨0⟩

/-- The table `seesaw` meets the condition, although its action saves a state as well: it takes
two saved states before that, and where it can take only one, it saves none. -/
theorem seesaw_popsShrink : seesaw.PopsShrink := by
  intro s hs tr htr bound hbound line captures w chosen _ hpopped _
  have hfold : bound.run = fold := by
    have hstates : ∀ s ∈ seesaw.states, ∀ tr ∈ s.transitions, ∀ bound ∈ tr.action,
        bound.run = fold := by
      simp [seesaw]
    exact hstates s hs tr htr bound hbound
  simp only [invoke, hfold, fold, Script.run] at hpopped ⊢
  rcases hstack : w.stack.topDown with _ | ⟨first, _ | ⟨second, rest⟩⟩
  · simp [ContextStack.pop?, hstack] at hpopped
  · simp [ContextStack.pop?, hstack, ContextStack.depth]
  · simp [ContextStack.pop?, hstack, ContextStack.depth, ContextStack.push]

/-- A line that goes to and fro in `seesaw` with three saved states, one of them not in the table,
and a run of the definition `nestedBlocks`. -/
theorem terminates_seesaw :
    (seesaw.PopsShrink ∧ seesaw.has ⟨0⟩ = true ∧
      ∃ tries answer, tries ≤ 4 ∧
        seesaw.EndsAfter ⟨"end", 1⟩ ⟨0⟩ ⟨⟨[⟨0⟩, ⟨1⟩, ⟨7⟩]⟩, (), #[]⟩ tries answer) ∧
    ∃ t log, TableDefinition.nestedBlocks.build .strict = (.ok t, log) ∧ t.PopsShrink ∧
      ∃ answer, (Engine.start t ParseOptions.default Events.empty).parse 0 ["open", "end"] =
        some answer := by
  refine ⟨⟨seesaw_popsShrink, rfl, ?_⟩, _, _, rfl, ?_⟩
  · exact terminates.1 Unit seesaw seesaw_popsShrink ⟨"end", 1⟩ ⟨0⟩
      ⟨⟨[⟨0⟩, ⟨1⟩, ⟨7⟩]⟩, (), #[]⟩ rfl
  · have hends := terminates.2 TableDefinition.nestedBlocks .strict _ _ rfl
    exact ⟨hends.1, (hends.2 ParseOptions.default Events.empty _ .refl 0).2.1 ["open", "end"]⟩

end Table

end LineMachine
