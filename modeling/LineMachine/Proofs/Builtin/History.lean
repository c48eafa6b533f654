import LineMachine.Proofs.Builtin.Sound
import LineMachine.Proofs.Machine.Nesting

/-!
# `LineMachine.Proofs.Builtin.History`: a pop resumes its push

`Engine.history` is the list of all states that a run tries, line after line. Each
entry is a `Try`: the line and the state, the transition that is taken, what comes
of it, and the saved states before and behind it. The tries of one line are
recorded by `Table.record`, which otherwise does what `Table.resolve` does
(`Table.record_snd`).

* `Try.Fits`: a try saves its own state, or takes the last saved one, or leaves the
  saved states alone.
* `Threads`: the tries of a history fit together, each with the saved states that
  the one before it left. A state that is taken back is the one that is tried
  next, on the same line. `Table.record_threads` is about the tries of one line
  and `Engine.Sound.history_threads` about a run.
* `Threads.saved_eq`: so the saved states are those of the pushes that no pop has
  taken, whatever came in between.
* `TableDefinition.pop_resumes_push` states the result for every table of a
  definition.
-/

set_option autoImplicit false

namespace LineMachine

/-- What a ready-made action does to the saved states, if this comes of it. -/
def Builtin.Kind.move (k : Builtin.Kind) (result : Except ParseError Outcome) : Move :=
  match k, result with
  | .push, _ => .push
  | .enter, _ => .push
  | .pop, .ok _ => .pop
  | _, _ => .stay

/-- A state that is tried on a line. -/
structure Try where
  line : Line
  state : StateId
  /-- the first transition of the state that passes the line -/
  taken : Option (Transition Events)
  /-- the saved states before it, the last one first -/
  before : List StateId
  /-- what comes of it -/
  result : Except ParseError Outcome
  /-- the saved states behind it -/
  after : List StateId

namespace Try

open Builtin (Kind)

/-- What the try does to the saved states, as its transition says: `push` and `enter`
save a state, and `pop` takes one unless it fails. -/
def move (p : Try) : Move :=
  match p.taken.bind Transition.kind? with
  | some k => k.move p.result
  | none => .stay

/-- What the try says about the saved states is what becomes of them. -/
def Fits (p : Try) : Prop :=
  match p.move with
  | .push => p.after = p.state :: p.before
  | .pop => ∃ top, p.result = .ok (.resumed top) ∧ p.before = top :: p.after
  | .stay => p.after = p.before

variable {p : Try} {tr : Transition Events}

/-- A try that takes no transition moves nothing. It fails as an unmatched line. -/
theorem move_of_untaken (h : p.taken = none) : p.move = .stay := by
  simp [move, h]

/-- A try whose transition binds no action moves nothing, as `Transition.kind?_of_none` leaves no
kind for it. -/
theorem move_of_none (h : p.taken = some tr) (hnone : tr.action = none) : p.move = .stay := by
  simp [move, h, Transition.kind?_of_none hnone]

/-- A try whose transition binds a ready-made action moves as `Kind.move` says. The result matters
for `pop` only, which may find nothing to take. -/
theorem move_of_bound {k : Kind} (h : p.taken = some tr) (hk : tr.action = some k.bound) :
    p.move = k.move p.result := by
  simp [move, h, Transition.kind?_of_bound hk]

/-- What `Try.Fits` says of a push: its own state is saved on top of those from before. -/
theorem fits_push (h : p.move = .push) : p.Fits ↔ p.after = p.state :: p.before := by
  rw [Fits, h]

/-- What `Try.Fits` says of a pop: it takes the last saved state, and this is the state that comes
next. -/
theorem fits_pop (h : p.move = .pop) :
    p.Fits ↔ ∃ top, p.result = .ok (.resumed top) ∧ p.before = top :: p.after := by
  rw [Fits, h]

/-- What `Try.Fits` says of all other tries: the saved states stay. -/
theorem fits_stay (h : p.move = .stay) : p.Fits ↔ p.after = p.before := by
  rw [Fits, h]

/-- A try that ends the line saves its state or leaves the saved ones alone, so `Try.Fits` follows
from the case of `Table.Ends` that it is. -/
theorem fits_of_ends {t : Table Events} {result : Except ParseError StateId}
    (htaken : p.taken = (t.rule? p.line p.state).map Prod.fst)
    (hresult : p.result = result.map .settled)
    (hends : t.Ends p.line p.state p.before result p.after) : p.Fits := by
  generalize hbefore : p.before = before at hends
  generalize hafter : p.after = after at hends
  cases hends with
  | unmatched untaken =>
    rw [untaken] at htaken
    exact (fits_stay (move_of_untaken htaken)).mpr (hafter.trans hbefore.symm)
  | settled taken bound =>
    rw [taken] at htaken
    refine (fits_stay ?_).mpr (hafter.trans hbefore.symm)
    rcases bound with hnone | hemit
    · exact move_of_none htaken hnone
    · rw [move_of_bound htaken hemit]
      rfl
  | saved taken bound =>
    rw [taken] at htaken
    refine (fits_push ?_).mpr (by rw [hafter, hbefore])
    rcases bound with hpush | henter
    · rw [move_of_bound htaken hpush]
      rfl
    · rw [move_of_bound htaken henter]
      rfl
  | rejected taken bound =>
    rw [taken] at htaken
    refine (fits_stay ?_).mpr (hafter.trans hbefore.symm)
    rw [move_of_bound htaken bound]
    rfl
  | exhausted taken bound =>
    -- A `pop` that fails takes nothing.
    rw [taken] at htaken
    refine (fits_stay ?_).mpr (hafter.trans hbefore.symm)
    rw [move_of_bound htaken bound, hresult]
    rfl

end Try

namespace Table

open Builtin (Kind)

/-- Tries a state on a line, as `stepState` does. -/
def tryState (t : Table Events) (line : Line) (s : State Events) (w : Work Events) : Try where
  line := line
  state := s.id
  taken := (State.firstMatch? line.text s.transitions 0).map fun found => found.2.1
  before := w.stack.topDown
  result := (t.stepState line s w).1
  after := (t.stepState line s w).2.stack.topDown

/-- Consumes a line as `resolve` does, and records the states that are tried. -/
def record (t : Table Events) (line : Line) : Nat → StateId → Work Events →
    List Try × Option (Except ParseError StateId × Work Events)
  | 0, _, _ => ([], none)
  | budget + 1, current, w =>
    match t.get? current with
    | none => ([], some (.error (.unknownState line.number current), w))
    | some s =>
      match t.stepState line s w with
      | (.error e, w') => ([t.tryState line s w], some (.error e, w'))
      | (.ok outcome, w') =>
        if t.has outcome.next then
          match outcome with
          | .settled next => ([t.tryState line s w], some (.ok next, w'))
          | .resumed next =>
            let more := t.record line budget next w'
            (t.tryState line s w :: more.1, more.2)
        else
          ([t.tryState line s w], some (.error (.unknownState line.number outcome.next), w'))

variable {t : Table Events} {line : Line} {s : State Events} {id next : StateId}
  {w w' : Work Events}

/-- A step that fails ends the record of the line with this try. It is `resolve_of_error` for
`Table.record`. -/
theorem record_of_error {e : ParseError} (budget : Nat) (hs : t.get? id = some s)
    (h : t.stepState line s w = (.error e, w')) :
    t.record line (budget + 1) id w = ([t.tryState line s w], some (.error e, w')) := by
  simp [record, hs, h]

/-- A step that settles ends the record of the line with this try, as `resolve_of_settled` says of
the line. -/
theorem record_of_settled (budget : Nat) (hs : t.get? id = some s)
    (h : t.stepState line s w = (.ok (.settled next), w')) (hnext : t.has next = true) :
    t.record line (budget + 1) id w = ([t.tryState line s w], some (.ok next, w')) := by
  simp [record, hs, h, Outcome.next, hnext]

/-- A step that took a saved state is recorded in front of the tries that follow it, in the state
that `resolve_of_resumed` goes on with. -/
theorem record_of_resumed (budget : Nat) (hs : t.get? id = some s)
    (h : t.stepState line s w = (.ok (.resumed next), w')) (hnext : t.has next = true) :
    t.record line (budget + 1) id w = (t.tryState line s w :: (t.record line budget next w').1,
      (t.record line budget next w').2) := by
  simp [record, hs, h, Outcome.next, hnext]

/-- A choice outside of the table ends the record of the line with the try that made it, as
`resolve_of_foreign` says of the line. -/
theorem record_of_foreign {outcome : Outcome} (budget : Nat) (hs : t.get? id = some s)
    (h : t.stepState line s w = (.ok outcome, w')) (hnext : t.has outcome.next = false) :
    t.record line (budget + 1) id w = ([t.tryState line s w],
      some (.error (.unknownState line.number outcome.next), w')) := by
  simp [record, hs, h, hnext]

/-- Recording changes nothing: besides the tries, `Table.record` gives what `Table.resolve` gives.
So what is said of a history is said of the parse. -/
theorem record_snd (t : Table Events) (line : Line) (budget : Nat) (id : StateId)
    (w : Work Events) : (t.record line budget id w).2 = t.resolve line budget id w := by
  induction budget generalizing id w with
  | zero => rfl
  | succ budget ih =>
    cases hs : t.get? id with
    | none => simp [record, resolve, hs]
    | some s =>
      -- Both go on or end by the same step, in each of the four ways.
      rcases hstep : t.stepState line s w with ⟨result, w'⟩
      cases result with
      | error e => rw [record_of_error budget hs hstep, resolve_of_error budget hs hstep]
      | ok outcome =>
        cases hnext : t.has outcome.next with
        | false =>
          rw [record_of_foreign budget hs hstep hnext, resolve_of_foreign budget hs hstep hnext]
        | true =>
          cases outcome with
          | settled next =>
            rw [record_of_settled budget hs hstep hnext, resolve_of_settled budget hs hstep hnext]
          | resumed next =>
            rw [record_of_resumed budget hs hstep hnext, resolve_of_resumed budget hs hstep hnext]
            exact ih next w'

/-! ### One try -/

/-- The transition that a try shows is the one that `Table.rule?` finds in its state. -/
theorem taken_tryState (hs : t.get? id = some s) (w : Work Events) :
    (t.tryState line s w).taken = (t.rule? line id).map Prod.fst := by
  rw [rule?_eq hs, Option.map_map]
  rfl

/-- The saved states behind a try are those that the step leaves. It is the projection of
`Table.tryState` at a given step. -/
theorem after_tryState {result : Except ParseError Outcome}
    (h : t.stepState line s w = (result, w')) :
    (t.tryState line s w).after = w'.stack.topDown :=
  congrArg (fun found => found.2.stack.topDown) h

/-- Every try does to the saved states what its transition says, if the table is `Table.Standard`.
A try that ends the line is `fits_of_ends`, and one that goes back is a pop. -/
theorem tryState_fits (ht : t.Standard) (line : Line) (hs : t.get? id = some s)
    (w : Work Events) : (t.tryState line s w).Fits := by
  have hid : s.id = id := ht.numbered id s hs
  have htaken : (t.tryState line s w).taken = (t.rule? line id).map Prod.fst :=
    taken_tryState hs w
  rcases stepState_ends ht line hs w with ⟨result, w', hstep, hends⟩ |
    ⟨top, tr, captures, w', hrule, hpop, hstep, hstack⟩
  · subst hid
    refine Try.fits_of_ends htaken (congrArg Prod.fst hstep) ?_
    rw [after_tryState hstep]
    exact hends
  · have hresult : (t.tryState line s w).result = .ok (.resumed top) := congrArg Prod.fst hstep
    rw [hrule] at htaken
    refine (Try.fits_pop ?_).mpr ⟨top, hresult, ?_⟩
    · rw [Try.move_of_bound htaken hpop, hresult]
      rfl
    · rw [after_tryState hstep]
      exact hstack

end Table

/-! ### The tries of a run -/

/-- The tries fit together. Each one fits and has the saved states that the one
before it left. A state that is taken back is tried next, on the same line. The
lists are the saved states before and behind all of them. -/
inductive Threads : List StateId → List Try → List StateId → Prop where
  | nil (stack : List StateId) : Threads stack [] stack
  | cons {p : Try} {rest : List Try} {stack : List StateId} (fits : p.Fits)
      (next : ∀ top, p.result = .ok (.resumed top) →
        ∃ q, rest.head? = some q ∧ q.line = p.line ∧ q.state = top)
      (more : Threads p.after rest stack) : Threads p.before (p :: rest) stack

/-- The tries of a line and those of the lines behind it fit together, as the saved states between
them are the same. A line does not end with a try whose state is still to be resumed. -/
theorem Threads.append {before between after : List StateId} {tries more : List Try}
    (h : Threads before tries between) (hmore : Threads between more after) :
    Threads before (tries ++ more) after := by
  induction h with
  | nil stack => exact hmore
  | @cons p rest stack fits next _ ih =>
    refine .cons fits (fun top hresult => ?_) (ih hmore)
    obtain ⟨q, hq, hline, hstate⟩ := next top hresult
    refine ⟨q, ?_, hline, hstate⟩
    show (rest ++ more).head? = some q
    rw [List.head?_append, hq]
    rfl

namespace Threads

variable {stack after : List StateId} {tries : List Try} {i : Nat} {p q : Try}

/-- The first try of `Threads` has the saved states from before all of them. -/
theorem before_eq_of_head? (h : Threads stack tries after) (hq : tries.head? = some q) :
    q.before = stack := by
  cases h with
  | nil stack => cases hq
  | cons fits next more =>
    cases hq
    rfl

/-- What holds at a position of the history: the try there fits, a state that it takes back
comes next, and the next try has the saved states that it left. This is `Threads` without its
induction. -/
theorem at_position (h : Threads stack tries after) (hp : tries[i]? = some p) :
    p.Fits ∧
      (∀ top, p.result = .ok (.resumed top) →
        ∃ q, tries[i + 1]? = some q ∧ q.line = p.line ∧ q.state = top) ∧
      ∀ q, tries[i + 1]? = some q → q.before = p.after := by
  induction h generalizing i with
  | nil stack => cases hp
  | cons fits next more ih =>
    cases i with
    | zero =>
      rw [List.getElem?_cons_zero, Option.some.injEq] at hp
      subst hp
      simp only [List.getElem?_cons_succ, ← List.head?_eq_getElem?]
      exact ⟨fits, next, fun q hq => more.before_eq_of_head? hq⟩
    | succ i => exact ih hp

/-- The saved states are those of the pushes in `Move.untaken`. The induction is on the position:
a push adds its own state, and a pop drops the state of the push that it takes. -/
theorem saved_eq (h : Threads [] tries after) (hp : tries[i]? = some p) :
    p.before.map some =
      (Move.untaken (tries.map Try.move) i).map fun k => tries[k]?.map Try.state := by
  induction i generalizing p with
  | zero =>
    rw [← List.head?_eq_getElem?] at hp
    rw [h.before_eq_of_head? hp]
    rfl
  | succ i ih =>
    obtain ⟨previous, hprevious⟩ : ∃ previous, tries[i]? = some previous := by
      have hlt : i + 1 < tries.length := (List.getElem?_eq_some_iff.mp hp).1
      exact ⟨_, List.getElem?_eq_getElem (by omega)⟩
    obtain ⟨hfits, -, hbefore⟩ := h.at_position hprevious
    have hsaved := ih hprevious
    have hmove : (tries.map Try.move)[i]? = some previous.move := by
      rw [List.getElem?_map, hprevious]
      rfl
    rw [hbefore p hp]
    cases hkind : previous.move with
    | push =>
      rw [hkind] at hmove
      rw [(Try.fits_push hkind).mp hfits, Move.untaken_of_push hmove, List.map_cons, List.map_cons,
        hsaved, hprevious]
      rfl
    | pop =>
      obtain ⟨top, -, htop⟩ := (Try.fits_pop hkind).mp hfits
      rw [hkind] at hmove
      rw [htop] at hsaved
      -- Both sides lose what is on top.
      rw [Move.untaken_of_pop hmove, List.map_tail, ← hsaved]
      rfl
    | stay =>
      rw [hkind] at hmove
      rw [(Try.fits_stay hkind).mp hfits, Move.untaken_of_other (by simp [hmove]) (by simp [hmove]),
        hsaved]

/-- A pop takes one push in the sense of `Move.Takes`. It resumes the state of that push, with the
saved states that the push found, and the same line is tried there next. -/
theorem resumes_push (h : Threads [] tries after) (hp : tries[i]? = some p)
    (hpop : p.move = .pop) :
    ∃ k q next, (∀ k', Move.Takes (tries.map Try.move) i k' ↔ k' = k) ∧
      tries[k]? = some q ∧ p.result = .ok (.resumed q.state) ∧ p.after = q.before ∧
      tries[i + 1]? = some next ∧ next.line = p.line ∧ next.state = q.state ∧
      next.before = p.after := by
  obtain ⟨hfits, hnext, hbefore⟩ := h.at_position hp
  obtain ⟨top, hresult, htop⟩ := (Try.fits_pop hpop).mp hfits
  obtain ⟨next, hn, hline, hstate⟩ := hnext top hresult
  have hmove : (tries.map Try.move)[i]? = some .pop := by
    rw [List.getElem?_map, hp]
    exact congrArg some hpop
  have hsaved := h.saved_eq hp
  rw [htop] at hsaved
  -- The first untaken push is the one that the pop takes.
  cases huntaken : Move.untaken (tries.map Try.move) i with
  | nil =>
    rw [huntaken] at hsaved
    cases hsaved
  | cons k rest =>
    rw [huntaken, List.map_cons, List.map_cons, List.cons.injEq] at hsaved
    obtain ⟨hk, hrest⟩ := hsaved
    obtain ⟨q, hq, rfl⟩ := Option.map_eq_some_iff.mp hk.symm
    have hsuffix : k :: rest <:+ Move.untaken (tries.map Try.move) i := by
      rw [huntaken]
    have hbelow : Move.untaken (tries.map Try.move) k = rest :=
      Move.untaken_eq_of_suffix hsuffix
    -- Below it stand the pushes that were untaken when it came.
    have hsame : p.after.map some = q.before.map some := by
      rw [hrest, h.saved_eq hq, hbelow]
    refine ⟨k, q, next, fun k' => ?_, hq, hresult, ?_, hn, hline, hstate, hbefore next hn⟩
    · rw [Move.takes_iff, huntaken, List.head?_cons, Option.some.injEq]
      exact ⟨fun h => h.2.symm, fun h => ⟨hmove, h.symm⟩⟩
    · exact List.map_injective_iff.mpr (fun _ _ => Option.some.inj) hsame

end Threads

namespace Table

variable {t : Table Events}

/-- The tries of one line are `Threads` from the saved states before it to those behind it, and
the first one is in the present state. It goes along the line by `resolve_induction`. -/
theorem record_threads (ht : t.Standard) (line : Line) (budget : Nat) (id : StateId)
    (w : Work Events) (hbudget : w.stack.topDown.length < budget) (hid : t.has id = true)
    (hstack : ∀ saved ∈ w.stack.topDown, t.has saved = true) :
    ∃ tries result w', t.record line budget id w = (tries, some (result, w')) ∧
      Threads w.stack.topDown tries w'.stack.topDown ∧
      ∃ first, tries.head? = some first ∧ first.line = line ∧ first.state = id := by
  refine resolve_induction ht line ?_ ?_ budget id w hbudget hid hstack
  · intro budget id s w w' result hs hstep hends
    have hresult : (t.tryState line s w).result = result.map .settled := congrArg Prod.fst hstep
    refine ⟨[t.tryState line s w], result, w', ?_, ?_, _, rfl, rfl, ht.numbered id s hs⟩
    · cases result with
      | error fault => exact record_of_error budget hs hstep
      | ok next => exact record_of_settled budget hs hstep (hends.has ht)
    · -- The last try of a line goes back nowhere.
      rw [← after_tryState hstep]
      refine .cons (tryState_fits ht line hs w) (fun top hresumed => ?_) (.nil _)
      rw [hresult] at hresumed
      cases result <;> cases hresumed
  · rintro budget id top s w w' tr captures hs hrule hpop hstep hsplit htop
      ⟨tries, result, w'', hrecord, hthreads, first, hfirst, hline, hstate⟩
    have hresult : (t.tryState line s w).result = .ok (.resumed top) := congrArg Prod.fst hstep
    refine ⟨t.tryState line s w :: tries, result, w'', ?_, ?_, _, rfl, rfl, ht.numbered id s hs⟩
    · rw [record_of_resumed budget hs hstep htop, hrecord]
    · rw [← after_tryState hstep] at hthreads
      refine .cons (tryState_fits ht line hs w) (fun next hresumed => ?_) hthreads
      rw [hresult] at hresumed
      cases hresumed
      exact ⟨first, hfirst, hline, hstate⟩

end Table

namespace Engine

/-- The states that the next line tries, when this text comes. -/
def tries (e : Engine Events) (extra : Nat) (text : String) : List Try :=
  (e.table.record (e.lineOf text) (e.budget extra) e.current e.work).1

/-- The states that a run over these lines tries, one after the other. The run goes
on behind a line that fails. -/
def history (extra : Nat) : List String → Engine Events → List Try
  | [], _ => []
  | text :: rest, e =>
    (e.table.record (e.lineOf text) (e.budget extra) e.current e.work).1 ++
      match e.feed extra text with
      | none => []
      | some (_, e') => e'.history extra rest

variable {e : Engine Events}

/-- The tries of a run are `Threads`. The induction is on the lines, and also goes on behind one
that fails, since `Engine.Sound` holds there too. -/
theorem Sound.history_threads (h : e.Sound) (extra : Nat) (lines : List String) :
    ∃ stack, Threads e.stack.topDown (e.history extra lines) stack := by
  induction lines generalizing e with
  | nil => exact ⟨_, .nil _⟩
  | cons text rest ih =>
    obtain ⟨tries, result, w, hrecord, hthreads, -⟩ :=
      Table.record_threads h.standard (e.lineOf text) (e.budget extra) e.current e.work
        (e.length_lt_budget extra) h.current h.has_of_mem
    have hfeed : e.feed extra text = some (e.answer text (result, w)) := by
      refine feed_of_resolve ?_
      rw [← Table.record_snd, hrecord]
    have hstack : (e.answer text (result, w)).2.stack = w.stack := by
      cases result <;> rfl
    rcases hanswer : e.answer text (result, w) with ⟨result', e'⟩
    rw [hanswer] at hfeed hstack
    obtain ⟨stack, hrest⟩ := ih (h.of_feed hfeed)
    rw [hstack] at hrest
    refine ⟨stack, ?_⟩
    rw [history, hrecord, hfeed]
    exact hthreads.append hrest

end Engine

namespace TableDefinition

open Engine (start)

/-- A pop resumes its push. Take any table of a definition and a run over any lines, with any
settings, and in its history (`Engine.history`) a `pop` that does not fail. It takes exactly one
push: the latest `push` or `enter` before it that no earlier pop has taken.

- The state that is resumed is the one whose transition made that push.
- The saved states right behind the pop are those right before that push.
- The next state that is tried is the one that is resumed, on the same line and with these saved
  states. -/
theorem pop_resumes_push {d : TableDefinition} {fallback : Validation} {t : Table Events}
    {log : List Report} (h : d.build fallback = (.ok t, log)) (options : ParseOptions)
    (events : Events) (extra : Nat) (lines : List String) (i : Nat) (p : Try)
    (hp : ((start t options events).history extra lines)[i]? = some p) (hpop : p.move = .pop) :
    ∃ k q next,
      (∀ k', Move.Takes (((start t options events).history extra lines).map Try.move) i k' ↔
        k' = k) ∧
      ((start t options events).history extra lines)[k]? = some q ∧
      p.result = .ok (.resumed q.state) ∧ p.after = q.before ∧
      ((start t options events).history extra lines)[i + 1]? = some next ∧
      next.line = p.line ∧ next.state = q.state ∧ next.before = p.after := by
  have hstart : (start t options events).Sound :=
    Engine.sound_start (standard_of_build h) options events
  obtain ⟨after, hthreads⟩ := hstart.history_threads extra lines
  exact hthreads.resumes_push hp hpop

/-- A run of the table that `nestedBlocks` builds, whose last line leaves two blocks. The second
pop takes the first push, and the line is tried in the outermost state next. -/
theorem pop_resumes_push_nestedBlocks :
    ∃ t log, nestedBlocks.build .strict = (.ok t, log) ∧ ∃ k q next,
      (∀ k', Move.Takes
        (((start t ParseOptions.default Events.empty).history 0 ["open", "open", "end"]).map
          Try.move) 3 k' ↔ k' = k) ∧
      ((start t ParseOptions.default Events.empty).history 0 ["open", "open", "end"])[k]? =
        some q ∧ q.state = ⟨0⟩ ∧ q.before = [] ∧
      ((start t ParseOptions.default Events.empty).history 0 ["open", "open", "end"])[4]? =
        some next ∧ next.line = ⟨"end", 3⟩ ∧ next.state = ⟨0⟩ ∧ next.before = [] := by
  refine ⟨_, _, rfl, ?_⟩
  obtain ⟨k, q, next, htakes, hq, hresult, hafter, hnext, hline, hstate, hbefore⟩ :=
    @pop_resumes_push nestedBlocks .strict _ _ rfl ParseOptions.default Events.empty 0
      ["open", "open", "end"] 3 _ rfl rfl
  have hresumed : q.state = ⟨0⟩ := (Outcome.resumed.inj (Except.ok.inj hresult)).symm
  exact ⟨k, q, next, htakes, hq, hresumed, hafter.symm, hnext, hline, hstate.trans hresumed,
    hbefore⟩

end TableDefinition

end LineMachine
