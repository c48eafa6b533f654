import LineMachine.Proofs.Builtin.History

/-!
# `LineMachine.Proofs.Builtin.Frame`: the bottom of the stack is a frame

With the ready-made actions a run does not look below the saved states that it takes
back. What lies below is a `Frame`: saved states, and with them the events and the
lines that came before. Two parses can stand at one `Place`, each above a frame of its
own.

* `ParseError.down` and `Event.down` move the number of a line. They tell an error or an
  event above a frame from what it is by itself.
* `Work.Above` and `Engine.StandsAt` split what there is into a frame and what stands
  above it.
* `Engine.legs` runs over lines until one fails, and keeps the tries of each line.
  `Leg.StaysAbove` says that no `pop` on the line reaches a given height.
* `Table.fire_above` and `Table.stepState_above` are about one try, above any frame at
  once: what comes of it depends on the place only. `Table.record_above` and
  `Engine.feed_above` are about one line of two parses, and `Engine.legs_above` about a
  run.
* `TableDefinition.legs_alike_above` states the result for every table of a definition.
-/

set_option autoImplicit false

namespace LineMachine

/-! ### Numbers of lines -/

/-- The event, so many lines further down. -/
def Event.down (lines : Nat) (event : Event) : Event :=
  { event with lineno := lines + event.lineno }

/-- The failure, so many lines further down. -/
def ActionFailure.down (lines : Nat) : ActionFailure → ActionFailure
  | .rejected lineno state line => .rejected (lines + lineno) state line
  | .custom message causes => .custom message causes

/-- The error, so many lines further down. -/
def ParseError.down (lines : Nat) : ParseError → ParseError
  | .unmatchedLine lineno state line => .unmatchedLine (lines + lineno) state line
  | .emptyStack lineno line => .emptyStack (lines + lineno) line
  | .unbalancedStack depth states => .unbalancedStack depth states
  | .unknownState lineno state => .unknownState (lines + lineno) state
  | .decode lineno => .decode (lines + lineno)
  | .io message => .io message
  | .action failure => .action (failure.down lines)

/-! ### Frames and places -/

/-- What lies below a run. -/
structure Frame where
  /-- the saved states, the first one first -/
  stack : List StateId
  events : List Event
  /-- how many lines came -/
  lines : Nat

/-- Where a run stands above its frame. -/
structure Place where
  current : StateId
  /-- the saved states above the frame, the first one first -/
  stack : List StateId
  /-- the events since the frame, on lines that are counted from it -/
  events : List Event
  /-- how many lines came since the frame -/
  lines : Nat

/-- What the actions find: a frame, and these states and events above it. -/
structure Work.Above (f : Frame) (stack : List StateId) (events : List Event)
    (w : Work Events) : Prop where
  stack : w.stack.bottomUp = f.stack ++ stack
  data : w.data.toList = f.events ++ events.map (Event.down f.lines)

/-- The parse stands at the place above the frame. -/
structure Engine.StandsAt (f : Frame) (p : Place) (e : Engine Events) : Prop where
  current : e.current = p.current
  lines : e.lineno = f.lines + p.lines
  work : e.work.Above f p.stack p.events

/-- All that there is as a frame, with these saved states. -/
def Engine.frame (e : Engine Events) (base : List StateId) : Frame :=
  ⟨base, e.data.toList, e.lineno⟩

/-! ### Two runs -/

/-- The same result above two frames. An error has another number of the line only. -/
def AlikeResults {α : Type} (f₁ f₂ : Frame) (r₁ r₂ : Except ParseError α) : Prop :=
  ∃ r : Except ParseError α,
    r₁ = r.mapError (ParseError.down f₁.lines) ∧ r₂ = r.mapError (ParseError.down f₂.lines)

/-- The same try above two frames: the same line is tried in the same state, the same
transition is taken, and the same comes of it. -/
structure Try.Alike (f₁ f₂ : Frame) (p q : Try) : Prop where
  text : q.line.text = p.line.text
  number : ∃ k, p.line.number = f₁.lines + k ∧ q.line.number = f₂.lines + k
  state : q.state = p.state
  taken : q.taken = p.taken
  before : ∃ top, p.before.reverse = f₁.stack ++ top ∧ q.before.reverse = f₂.stack ++ top
  result : AlikeResults f₁ f₂ p.result q.result
  after : ∃ top, p.after.reverse = f₁.stack ++ top ∧ q.after.reverse = f₂.stack ++ top

/-- The try takes a transition that binds `pop`. -/
def Try.AttemptsPop (p : Try) : Prop := p.taken.bind Transition.kind? = some .pop

/-- One line of a run. -/
structure Leg where
  /-- the states that the line tried, one after the other -/
  tries : List Try
  result : Except ParseError StateId
  /-- the parse behind the line -/
  after : Engine Events

namespace Leg

/-- Every `pop` on the line finds more than so many saved states. -/
def StaysAbove (height : Nat) (leg : Leg) : Prop :=
  ∀ p ∈ leg.tries, p.AttemptsPop → height < p.before.length

/-- The same line of a run above two frames. -/
structure Alike (f₁ f₂ : Frame) (l₁ l₂ : Leg) : Prop where
  tries : List.Forall₂ (Try.Alike f₁ f₂) l₁.tries l₂.tries
  result : AlikeResults f₁ f₂ l₁.result l₂.result
  after : ∃ p, l₁.after.StandsAt f₁ p ∧ l₂.after.StandsAt f₂ p

end Leg

namespace Engine

/-- Runs over lines until one fails. The second part is the parse behind them. -/
def legs (extra : Nat) : List String → Engine Events → Option (List Leg × Engine Events)
  | [], e => some ([], e)
  | text :: rest, e =>
    match e.feed extra text with
    | none => none
    | some (.error fault, e') => some ([⟨e.tries extra text, .error fault, e'⟩], e')
    | some (.ok next, e') =>
      (e'.legs extra rest).map fun run => (⟨e.tries extra text, .ok next, e'⟩ :: run.1, run.2)

end Engine

/-! ### One try -/

namespace Work.Above

variable {f : Frame} {stack : List StateId} {events : List Event} {w : Work Events}

/-- A state that is saved goes on top of those above the frame, so `Work.Above` holds with one
state more. -/
theorem push (h : w.Above f stack events) (id : StateId) (log : Array Report) :
    Work.Above f (stack ++ [id]) events { w with stack := w.stack.push id, log } where
  stack := by
    rw [← List.append_assoc, ← h.stack]
    exact List.reverse_cons
  data := h.data

/-- An event that is recorded comes behind those above the frame. Its number is told from the
frame, as `Event.down` counts. -/
theorem record (h : w.Above f stack events) (event : Event) :
    Work.Above f stack (events ++ [event]) { w with data := w.data.push (event.down f.lines) } where
  stack := h.stack
  data := by
    rw [List.map_append, ← List.append_assoc, ← h.data]
    exact Array.toList_push

/-- The reports play no part in `Work.Above`, which is about the saved states and the events
only. -/
theorem log (h : w.Above f stack events) (log : Array Report) :
    Work.Above f stack events { w with log } := ⟨h.stack, h.data⟩

/-- The last state above the frame is the last saved one. With `Work.Above` the stack can be taken
apart at its top without knowing the frame. -/
theorem topDown {last : StateId} (h : w.Above f (stack ++ [last]) events) :
    w.stack.topDown = last :: (f.stack ++ stack).reverse := by
  rw [← List.reverse_reverse w.stack.topDown]
  show w.stack.bottomUp.reverse = _
  rw [h.stack]
  simp

/-- The last state above the frame is taken, and the frame stays as it is. This is the only way in
which a try makes the stack shorter. -/
theorem pop {last : StateId} (h : w.Above f (stack ++ [last]) events) (log : Array Report) :
    Work.Above f stack events { w with stack := ⟨(f.stack ++ stack).reverse⟩, log } :=
  ⟨List.reverse_reverse _, h.data⟩

/-- How many states are saved: those of the frame and those above it. The conditions of
`Leg.StaysAbove` on heights are read by this. -/
theorem length (h : w.Above f stack events) :
    w.stack.topDown.length = f.stack.length + stack.length := by
  rw [← List.length_reverse, ← List.length_append, ← h.stack]
  rfl

/-- If more states are saved than the frame has, some stand above it, and a `pop` finds one of
these. -/
theorem ne_nil (h : w.Above f stack events) (hmore : f.stack.length < w.stack.topDown.length) :
    stack ≠ [] := by
  rintro rfl
  rw [h.length] at hmore
  exact Nat.lt_irrefl _ hmore

end Work.Above

namespace Table

open Builtin (Kind eventOf)

variable {t : Table Events} {s : State Events} {id : StateId} {stack : List StateId}
  {events : List Event}

/-- What a transition does above a frame, whatever the frame is: result, states and events come
from the place, and `ParseError.down` moves the numbers. Only `pop` looks at the saved states, and
there must be one above the frame for it. -/
theorem fire_above (t : Table Events) (text : String) (k : Nat) (source : StateId)
    {tr : Transition Events} (htr : tr.IsBuiltin) (captures : Captures) (events : List Event)
    (hpop : tr.action = some Kind.pop.bound → stack ≠ []) :
    ∃ (result : Except ParseError Outcome) (stack' : List StateId) (events' : List Event),
      ∀ (f : Frame) (w : Work Events), w.Above f stack events → ∃ v,
        t.fire ⟨text, f.lines + k⟩ source tr captures w =
          (result.mapError (ParseError.down f.lines), v) ∧ v.Above f stack' events' := by
  -- What is named here is counted from the frame; each frame adds its own number of lines.
  rcases htr with hnone | ⟨kind, hkind⟩
  · exact ⟨.ok _, stack, events, fun f w hw => ⟨w, fire_none hnone, hw⟩⟩
  · cases kind with
    | emit =>
      exact ⟨.ok _, stack,
        events ++ [eventOf "emit" (t.site ⟨text, k⟩ source tr.destination) captures],
        fun f w hw => ⟨_, fire_emit hkind, hw.record _⟩⟩
    | push =>
      exact ⟨.ok _, stack ++ [source], events,
        fun f w hw => ⟨_, fire_push hkind, hw.push source _⟩⟩
    | enter =>
      exact ⟨.ok _, stack ++ [source],
        events ++ [eventOf "enter" (t.site ⟨text, k⟩ source tr.destination) captures],
        fun f w hw => ⟨_, fire_enter hkind, (hw.record _).push source _⟩⟩
    | fail =>
      exact ⟨.error (.action (.rejected k (t.nameOf source) text)), stack, events,
        fun f w hw => ⟨w, fire_fail hkind, hw⟩⟩
    | pop =>
      -- The state that is taken stands above the frame, and so it is the same one.
      obtain ⟨rest, last, rfl⟩ := (List.eq_nil_or_concat stack).resolve_left (hpop hkind)
      rw [List.concat_eq_append]
      exact ⟨.ok (.resumed last), rest, events,
        fun f w hw => ⟨_, fire_pop_cons hkind hw.topDown, hw.pop _⟩⟩

/-- What a try in a state does above a frame, whatever the frame is. It is `fire_above` for the
transition that is taken, and for none it is the error about the unmatched line. -/
theorem stepState_above (ht : t.Standard) (hs : t.get? id = some s) (text : String) (k : Nat)
    (events : List Event)
    (hpop : ((State.firstMatch? text s.transitions 0).map fun found => found.2.1).bind
      Transition.kind? = some .pop → stack ≠ []) :
    ∃ (result : Except ParseError Outcome) (stack' : List StateId) (events' : List Event),
      ∀ (f : Frame) (w : Work Events), w.Above f stack events → ∃ v,
        t.stepState ⟨text, f.lines + k⟩ s w = (result.mapError (ParseError.down f.lines), v) ∧
          v.Above f stack' events' := by
  cases hfirst : State.firstMatch? text s.transitions 0 with
  | none =>
    exact ⟨.error (.unmatchedLine k s.name text), stack, events,
      fun f w hw => ⟨w, stepState_of_none hfirst, hw⟩⟩
  | some found =>
    obtain ⟨rule, tr, captures⟩ := found
    have htr := ht.builtin s (mem_of_get? hs) tr (State.mem_of_firstMatch? hfirst)
    obtain ⟨result, stack', events', hfire⟩ := fire_above t text k s.id htr captures events
      fun hbound => hpop (by rw [hfirst]; exact Transition.kind?_of_bound hbound)
    refine ⟨result, stack', events', fun f w hw => ?_⟩
    obtain ⟨v, hfire, hv⟩ := hfire f w hw
    cases result with
    | error fault => exact ⟨v, stepState_of_fire_error hfirst hfire, hv⟩
    | ok outcome => exact ⟨_, stepState_of_fire_ok hfirst hfire, hv.log _⟩

/-! ### One line -/

variable {f₁ f₂ : Frame} {text : String} {k : Nat} {w₁ w₂ v₁ v₂ : Work Events}

/-- Tries with the same effect above two frames are `Try.Alike`. The hypotheses are what
`stepState_above` gives for the two frames at once. -/
theorem tryState_alike {result : Except ParseError Outcome} {stack' : List StateId}
    {events' : List Event} (h₁ : w₁.Above f₁ stack events) (h₂ : w₂.Above f₂ stack events)
    (hstep₁ : t.stepState ⟨text, f₁.lines + k⟩ s w₁ =
      (result.mapError (ParseError.down f₁.lines), v₁))
    (hstep₂ : t.stepState ⟨text, f₂.lines + k⟩ s w₂ =
      (result.mapError (ParseError.down f₂.lines), v₂))
    (hv₁ : v₁.Above f₁ stack' events') (hv₂ : v₂.Above f₂ stack' events') :
    Try.Alike f₁ f₂ (t.tryState ⟨text, f₁.lines + k⟩ s w₁)
      (t.tryState ⟨text, f₂.lines + k⟩ s w₂) where
  text := rfl
  number := ⟨k, rfl, rfl⟩
  state := rfl
  taken := rfl
  before := ⟨stack, h₁.stack, h₂.stack⟩
  result := ⟨result, congrArg Prod.fst hstep₁, congrArg Prod.fst hstep₂⟩
  after := by
    rw [after_tryState hstep₁, after_tryState hstep₂]
    exact ⟨stack', hv₁.stack, hv₂.stack⟩

/-- The first state that is tried is the one where the line comes, so a condition on all tries of
`Table.record` can be used for it. -/
theorem tryState_mem_record {line : Line} {w : Work Events} (hs : t.get? id = some s)
    (budget : Nat) : t.tryState line s w ∈ (t.record line (budget + 1) id w).1 := by
  rw [record, hs]
  dsimp only
  repeat' split
  all_goals exact List.mem_cons_self

/-- One line of two parses at one place. The induction is on the number of states that the first
one may try: both take back the same state, above either frame, so `Table.record` goes on from the
same place in both. -/
theorem record_above (ht : t.Standard) (f₁ f₂ : Frame) (text : String) (k : Nat)
    {budget₁ budget₂ : Nat} (h₁ : w₁.Above f₁ stack events) (h₂ : w₂.Above f₂ stack events)
    (hbudget₁ : w₁.stack.topDown.length < budget₁) (hbudget₂ : w₂.stack.topDown.length < budget₂)
    (hstays : ∀ p ∈ (t.record ⟨text, f₁.lines + k⟩ budget₁ id w₁).1,
      p.AttemptsPop → f₁.stack.length < p.before.length) :
    ∃ tries₁ tries₂ result v₁ v₂ stack' events',
      t.record ⟨text, f₁.lines + k⟩ budget₁ id w₁ =
        (tries₁, some (Except.mapError (ParseError.down f₁.lines) result, v₁)) ∧
      t.record ⟨text, f₂.lines + k⟩ budget₂ id w₂ =
        (tries₂, some (Except.mapError (ParseError.down f₂.lines) result, v₂)) ∧
      List.Forall₂ (Try.Alike f₁ f₂) tries₁ tries₂ ∧
      v₁.Above f₁ stack' events' ∧ v₂.Above f₂ stack' events' := by
  induction budget₁ generalizing budget₂ id stack events w₁ w₂ with
  | zero => omega
  | succ budget₁ ih =>
    obtain ⟨budget₂, rfl⟩ : ∃ n, budget₂ = n + 1 := ⟨budget₂ - 1, by omega⟩
    cases hs : t.get? id with
    | none =>
      refine ⟨[], [], .error (.unknownState k id), w₁, w₂, stack, events, ?_, ?_, .nil, h₁, h₂⟩
      · rw [record, hs]
        rfl
      · rw [record, hs]
        rfl
    | some s =>
      -- The first run tries this state, so a `pop` there finds a state above its frame.
      obtain ⟨result, stack', events', hstep⟩ := stepState_above ht hs text k events
        fun hpop => h₁.ne_nil (hstays _ (tryState_mem_record hs budget₁) hpop)
      obtain ⟨v₁, hstep₁, hv₁⟩ := hstep f₁ w₁ h₁
      obtain ⟨v₂, hstep₂, hv₂⟩ := hstep f₂ w₂ h₂
      have halike := tryState_alike h₁ h₂ hstep₁ hstep₂ hv₁ hv₂
      cases result with
      | error fault =>
        exact ⟨_, _, .error fault, v₁, v₂, stack', events', record_of_error budget₁ hs hstep₁,
          record_of_error budget₂ hs hstep₂, .cons halike .nil, hv₁, hv₂⟩
      | ok outcome =>
        cases hnext : t.has outcome.next with
        | false =>
          exact ⟨_, _, .error (.unknownState k outcome.next), v₁, v₂, stack', events',
            record_of_foreign budget₁ hs hstep₁ hnext, record_of_foreign budget₂ hs hstep₂ hnext,
            .cons halike .nil, hv₁, hv₂⟩
        | true =>
          cases outcome with
          | settled next =>
            exact ⟨_, _, .ok next, v₁, v₂, stack', events',
              record_of_settled budget₁ hs hstep₁ hnext, record_of_settled budget₂ hs hstep₂ hnext,
              .cons halike .nil, hv₁, hv₂⟩
          | resumed next =>
            have hrecord₁ := record_of_resumed budget₁ hs hstep₁ hnext
            have hrecord₂ := record_of_resumed budget₂ hs hstep₂ hnext
            -- Each stack is one state shorter, so the tries that are left are enough.
            rw [stack_of_resumed ht hs hstep₁, List.length_cons] at hbudget₁
            rw [stack_of_resumed ht hs hstep₂, List.length_cons] at hbudget₂
            have hshort₁ : v₁.stack.topDown.length < budget₁ := by omega
            have hshort₂ : v₂.stack.topDown.length < budget₂ := by omega
            rw [hrecord₁] at hstays
            obtain ⟨tries₁, tries₂, result, u₁, u₂, stack'', events'', hmore₁, hmore₂, htries, hu₁,
              hu₂⟩ := ih hv₁ hv₂ hshort₁ hshort₂
                fun p hmem => hstays p (List.mem_cons_of_mem _ hmem)
            rw [hmore₁] at hrecord₁
            rw [hmore₂] at hrecord₂
            exact ⟨_, _, result, u₁, u₂, stack'', events'', hrecord₁, hrecord₂,
              .cons halike htries, hu₁, hu₂⟩

end Table

namespace Engine

variable {f₁ f₂ : Frame} {p : Place} {e e₁ e₂ : Engine Events}

/-- A line of two parses at one place has the same result but for its number, and leaves both at
one place again, in the sense of `Engine.StandsAt`. The budgets differ, and both suffice. -/
theorem feed_above (ht : e₁.table.Standard) (htable : e₂.table = e₁.table)
    (h₁ : e₁.StandsAt f₁ p) (h₂ : e₂.StandsAt f₂ p) (extra₁ extra₂ : Nat) (text : String)
    (hstays : ∀ q ∈ e₁.tries extra₁ text, q.AttemptsPop → f₁.stack.length < q.before.length) :
    ∃ result e₁' e₂' p',
      e₁.feed extra₁ text = some (Except.mapError (ParseError.down f₁.lines) result, e₁') ∧
      e₂.feed extra₂ text = some (Except.mapError (ParseError.down f₂.lines) result, e₂') ∧
      List.Forall₂ (Try.Alike f₁ f₂) (e₁.tries extra₁ text) (e₂.tries extra₂ text) ∧
      e₁'.StandsAt f₁ p' ∧ e₂'.StandsAt f₂ p' := by
  have hline₁ : e₁.lineOf text = ⟨Text.stripTerminator text, f₁.lines + (p.lines + 1)⟩ := by
    rw [lineOf, h₁.lines, Nat.add_assoc]
  have hline₂ : e₂.lineOf text = ⟨Text.stripTerminator text, f₂.lines + (p.lines + 1)⟩ := by
    rw [lineOf, h₂.lines, Nat.add_assoc]
  -- Seen from either frame it is the line after those that came since.
  rw [tries, hline₁] at hstays
  obtain ⟨tries₁, tries₂, result, w₁, w₂, stack, events, hrecord₁, hrecord₂, halike, hw₁, hw₂⟩ :=
    Table.record_above ht f₁ f₂ (Text.stripTerminator text) (p.lines + 1) h₁.work h₂.work
      (e₁.length_lt_budget extra₁) (e₂.length_lt_budget extra₂) hstays
  rw [← hline₁] at hrecord₁
  rw [← hline₂, h₁.current, ← h₂.current, ← htable] at hrecord₂
  have hresolve₁ := (Table.record_snd _ _ _ _ _).symm.trans (congrArg Prod.snd hrecord₁)
  have hresolve₂ := (Table.record_snd _ _ _ _ _).symm.trans (congrArg Prod.snd hrecord₂)
  have hfeed₁ := feed_of_resolve hresolve₁
  have hfeed₂ := feed_of_resolve hresolve₂
  rw [tries, tries, hrecord₁, hrecord₂]
  cases result with
  | error fault =>
    refine ⟨.error fault, _, _, ⟨p.current, stack, events, p.lines + 1⟩, hfeed₁, hfeed₂, halike,
      ⟨h₁.current, ?_, hw₁⟩, ⟨h₂.current, ?_, hw₂⟩⟩
    · exact congrArg (· + 1) h₁.lines
    · exact congrArg (· + 1) h₂.lines
  | ok next =>
    refine ⟨.ok next, _, _, ⟨next, stack, events, p.lines + 1⟩, hfeed₁, hfeed₂, halike,
      ⟨rfl, ?_, hw₁.log _⟩, ⟨rfl, ?_, hw₂.log _⟩⟩
    · exact congrArg (· + 1) h₁.lines
    · exact congrArg (· + 1) h₂.lines

/-! ### A run -/

/-- A line that fails is the last of `Engine.legs`, and the lines behind it are not run. -/
theorem legs_of_error {extra : Nat} {text : String} {fault : ParseError} {e' : Engine Events}
    (rest : List String) (h : e.feed extra text = some (.error fault, e')) :
    e.legs extra (text :: rest) = some ([⟨e.tries extra text, .error fault, e'⟩], e') := by
  simp [legs, h]

/-- A line that leads to a state is the first of `Engine.legs`, and those behind it follow. -/
theorem legs_of_ok {extra : Nat} {text : String} {next : StateId} {e' last : Engine Events}
    {rest : List String} {more : List Leg} (h : e.feed extra text = some (.ok next, e'))
    (hmore : e'.legs extra rest = some (more, last)) :
    e.legs extra (text :: rest) =
      some (⟨e.tries extra text, .ok next, e'⟩ :: more, last) := by
  simp [legs, h, hmore]

/-- A run of `Engine.legs` begins with its first line, and goes on behind it unless that line
fails. It takes a given run apart, where the two lemmas before build one. -/
theorem legs_cons {extra : Nat} {text : String} {rest : List String} {all : List Leg}
    {last : Engine Events} (h : e.legs extra (text :: rest) = some (all, last)) :
    (∃ fault, e.feed extra text = some (.error fault, last) ∧
      all = [⟨e.tries extra text, .error fault, last⟩]) ∨
    ∃ next e' more, e.feed extra text = some (.ok next, e') ∧
      e'.legs extra rest = some (more, last) ∧
      all = ⟨e.tries extra text, .ok next, e'⟩ :: more := by
  rcases hfeed : e.feed extra text with _ | ⟨fault | next, e'⟩
  · simp [legs, hfeed] at h
  · rw [legs_of_error rest hfeed] at h
    cases h
    exact .inl ⟨fault, rfl, rfl⟩
  · rw [legs, hfeed] at h
    obtain ⟨⟨more, last'⟩, hmore, hpair⟩ := Option.map_eq_some_iff.mp h
    cases hpair
    exact .inr ⟨next, e', more, rfl, hmore, rfl⟩

/-- Every run of `Engine.legs` comes to an end, since each line does by `exists_resolve`. The
saved states may be any numbers here. -/
theorem exists_legs (ht : e.table.Standard) (extra : Nat) (lines : List String) :
    ∃ legs last, e.legs extra lines = some (legs, last) := by
  induction lines generalizing e with
  | nil => exact ⟨_, _, rfl⟩
  | cons text rest ih =>
    obtain ⟨⟨result, w⟩, hresolve⟩ := Table.exists_resolve ht (e.lineOf text) e.current
      (e.length_lt_budget extra)
    have hfeed := feed_of_resolve hresolve
    cases result with
    | error fault => exact ⟨_, _, legs_of_error rest hfeed⟩
    | ok next =>
      obtain ⟨more, last, hmore⟩ := ih (e := (e.answer text (.ok next, w)).2) ht
      exact ⟨_, _, legs_of_ok hfeed hmore⟩

/-- A run of two parses at one place. The induction is on the lines, and the place is what
`feed_above` hands from one line to the next. -/
theorem legs_above (ht : e₁.table.Standard) (htable : e₂.table = e₁.table)
    (h₁ : e₁.StandsAt f₁ p) (h₂ : e₂.StandsAt f₂ p) (extra₁ extra₂ : Nat) (lines : List String)
    {legs₁ : List Leg} {last₁ : Engine Events}
    (hrun : e₁.legs extra₁ lines = some (legs₁, last₁))
    (hstays : ∀ leg ∈ legs₁, leg.StaysAbove f₁.stack.length) :
    ∃ legs₂ last₂, e₂.legs extra₂ lines = some (legs₂, last₂) ∧
      List.Forall₂ (Leg.Alike f₁ f₂) legs₁ legs₂ ∧
      ∃ p', last₁.StandsAt f₁ p' ∧ last₂.StandsAt f₂ p' := by
  induction lines generalizing e₁ e₂ p legs₁ with
  | nil =>
    cases hrun
    exact ⟨[], e₂, rfl, .nil, p, h₁, h₂⟩
  | cons text rest ih =>
    -- The first leg has the tries of the first line, whether the run goes on or not.
    have hfirst : ∀ q ∈ e₁.tries extra₁ text,
        q.AttemptsPop → f₁.stack.length < q.before.length := by
      rcases legs_cons hrun with ⟨fault, -, rfl⟩ | ⟨next, e', more, -, -, rfl⟩
      · exact hstays _ List.mem_cons_self
      · exact hstays _ List.mem_cons_self
    obtain ⟨result, e₁', e₂', p', hfeed₁, hfeed₂, htries, hp₁, hp₂⟩ :=
      feed_above ht htable h₁ h₂ extra₁ extra₂ text hfirst
    rcases legs_cons hrun with ⟨fault, hfeed, rfl⟩ | ⟨next, e', more, hfeed, hmore, rfl⟩
    · rw [hfeed₁] at hfeed
      cases result with
      | error fault' =>
        cases hfeed
        refine ⟨_, _, legs_of_error rest hfeed₂, .cons ⟨htries, ?_, p', hp₁, hp₂⟩ .nil, p',
          hp₁, hp₂⟩
        exact ⟨.error fault', rfl, rfl⟩
      | ok next => cases hfeed
    · rw [hfeed₁] at hfeed
      cases result with
      | error fault => cases hfeed
      | ok next' =>
        cases hfeed
        have htable' : e₂'.table = e₁'.table := by
          rw [table_of_feed hfeed₂, htable, table_of_feed hfeed₁]
        obtain ⟨more₂, last₂, hmore₂, halike, hlast⟩ :=
          ih (table_of_feed hfeed₁ ▸ ht) htable' hp₁ hp₂ hmore
            fun leg hmem => hstays leg (List.mem_cons_of_mem _ hmem)
        refine ⟨_, last₂, legs_of_ok hfeed₂ hmore₂, .cons ⟨htries, ?_, p', hp₁, hp₂⟩ halike, hlast⟩
        exact ⟨.ok next, rfl, rfl⟩

end Engine

namespace TableDefinition

open Engine (start)

/-- The bottom of the stack is a frame (`Engine.frame`). Take any table of a definition and two
parses of it in the same state, whatever their settings, their events and the lines that they had,
one with `base₁` and the other with `base₂` below the same saved states. Run the first one over
any lines. If every `pop` finds a saved state above `base₁`, the run of the second one is the
same:

- each line tries the same states in both, and the same transitions are taken;
- each line has the same result, and if the last one fails, it fails in both with the same error
  but for the number of the line, which is counted from where each parse stood;
- behind each line both stand in the same state, with the same states saved above `base₁` and
  above `base₂`, and with the same events added but for the numbers of the lines. -/
theorem legs_alike_above {d : TableDefinition} {fallback : Validation} {t : Table Events}
    {log : List Report} (h : d.build fallback = (.ok t, log)) (e₁ e₂ : Engine Events)
    (h₁ : e₁.table = t) (h₂ : e₂.table = t) (base₁ base₂ top : List StateId)
    (hcurrent : e₂.current = e₁.current) (hstack₁ : e₁.stack.bottomUp = base₁ ++ top)
    (hstack₂ : e₂.stack.bottomUp = base₂ ++ top) (extra₁ extra₂ : Nat) (lines : List String) :
    ∃ legs₁ last₁, e₁.legs extra₁ lines = some (legs₁, last₁) ∧
      ((∀ leg ∈ legs₁, leg.StaysAbove base₁.length) →
        ∃ legs₂ last₂, e₂.legs extra₂ lines = some (legs₂, last₂) ∧
          List.Forall₂ (Leg.Alike (e₁.frame base₁) (e₂.frame base₂)) legs₁ legs₂ ∧
          ∃ p, last₁.StandsAt (e₁.frame base₁) p ∧ last₂.StandsAt (e₂.frame base₂) p) := by
  have ht : e₁.table.Standard := h₁ ▸ standard_of_build h
  obtain ⟨legs₁, last₁, hrun⟩ := Engine.exists_legs ht extra₁ lines
  have hplace₁ : e₁.StandsAt (e₁.frame base₁) ⟨e₁.current, top, [], 0⟩ :=
    ⟨rfl, rfl, hstack₁, (List.append_nil _).symm⟩
  have hplace₂ : e₂.StandsAt (e₂.frame base₂) ⟨e₁.current, top, [], 0⟩ :=
    ⟨hcurrent, rfl, hstack₂, (List.append_nil _).symm⟩
  exact ⟨legs₁, last₁, hrun,
    Engine.legs_above ht (h₂.trans h₁.symm) hplace₁ hplace₂ extra₁ extra₂ lines hrun⟩

/-- In the table of `nestedBlocks` two blocks are left, and another one is opened and left. Ten
lines further down, above two other saved states, the same happens and the two states stay. -/
theorem legs_alike_above_nestedBlocks :
    ∃ t log, nestedBlocks.build .strict = (.ok t, log) ∧ ∃ legs last,
      ({ start t ParseOptions.default Events.empty with
          current := ⟨2⟩, stack := ⟨[⟨1⟩, ⟨0⟩, ⟨2⟩, ⟨0⟩]⟩, lineno := 10 }).legs 0
        ["end", "open", "end"] = some (legs, last) ∧
      legs.length = 3 ∧ last.stack.bottomUp = [⟨0⟩, ⟨2⟩] ∧
      last.data.toList = [⟨11, "emit", "outer", []⟩, ⟨13, "emit", "outer", []⟩] := by
  refine ⟨_, _, rfl, ?_⟩
  obtain ⟨legs₁, last₁, hrun, hframe⟩ := @legs_alike_above nestedBlocks .strict _ _ rfl
    { start _ ParseOptions.default Events.empty with current := ⟨2⟩, stack := ⟨[⟨1⟩, ⟨0⟩, ⟨1⟩]⟩ }
    { start _ ParseOptions.default Events.empty with
      current := ⟨2⟩, stack := ⟨[⟨1⟩, ⟨0⟩, ⟨2⟩, ⟨0⟩]⟩, lineno := 10 }
    rfl rfl [⟨1⟩] [⟨0⟩, ⟨2⟩] [⟨0⟩, ⟨1⟩] rfl rfl rfl 0 0 ["end", "open", "end"]
  -- What the first run is: the transitions with the saved states that they find, and the end.
  obtain ⟨htries, hstack, hdata⟩ :
      legs₁.map (fun leg => leg.tries.map fun p =>
        (p.taken.bind Transition.kind?, p.before.length)) =
          [[(some .pop, 3), (some .pop, 2), (some .emit, 1)], [(some .push, 1)],
            [(some .pop, 2), (some .emit, 1)]] ∧
      last₁.stack.bottomUp = [⟨1⟩] ∧
      last₁.data.toList = [⟨1, "emit", "outer", []⟩, ⟨3, "emit", "outer", []⟩] := by
    cases hrun
    exact ⟨rfl, rfl, rfl⟩
  have hstays : ∀ leg ∈ legs₁, leg.StaysAbove 1 := by
    intro leg hleg p hp hpop
    have hmem : (p.taken.bind Transition.kind?, p.before.length) ∈ (legs₁.map fun leg =>
        leg.tries.map fun p => (p.taken.bind Transition.kind?, p.before.length)).flatten := by
      exact List.mem_flatten.mpr ⟨_, List.mem_map_of_mem hleg, List.mem_map.mpr ⟨p, hp, rfl⟩⟩
    rw [htries, show p.taken.bind Transition.kind? = some .pop from hpop] at hmem
    simp at hmem
    omega
  obtain ⟨legs₂, last₂, hrun₂, halike, p, hp₁, hp₂⟩ := hframe hstays
  have hsaved : [⟨1⟩] ++ p.stack = [⟨1⟩] ++ [] := hp₁.work.stack.symm.trans hstack
  have hevents : [⟨1, "emit", "outer", []⟩, ⟨3, "emit", "outer", []⟩] =
      p.events.map (Event.down 0) := hdata.symm.trans hp₁.work.data
  rw [show Event.down 0 = id from funext fun event => by simp [Event.down], List.map_id] at hevents
  refine ⟨legs₂, last₂, hrun₂, ?_, ?_, ?_⟩
  · rw [← halike.length_eq, ← List.length_map, htries]
    rfl
  · refine hp₂.work.stack.trans ?_
    rw [List.append_cancel_left hsaved]
    rfl
  · refine hp₂.work.data.trans ?_
    rw [← hevents]
    rfl

end TableDefinition

end LineMachine
