import LineMachine.Proofs.Builtin.History

/-!
# `LineMachine.Proofs.Builtin.Tries`: the tries of one line

A line tries one state or several. With the ready-made actions all of its tries but the
last take a saved state back, each one more than the try before it, and the last one ends
the line.

* `Try.event?` is the event that a try records, if it records one. It is read off the
  transition that the try takes, and `Table.stepState_data` says that it is what the try
  does to the events. `Try.event?_eq_some_iff` says when there is one, and
  `Captures.toTexts_eq` what it shows of the match.
* `Table.EndsOn` lists what is so of the tries of a line: how they look, what the line
  leaves of the saved states, and which event it records. `Table.record_endsOn` is the
  induction over them.
* `Table.EndsOn.move_last` and `Table.EndsOn.countP_pop`: the last try saves its state or none,
  and all the others take one back.
* `Engine.Sound.feed_endsOn` says it of the next line of a parse.
-/

set_option autoImplicit false

namespace LineMachine

open Builtin (Kind)

/-! ### What a match shows -/

/-- What an event shows of a line that passes the pattern: the groups of an expression,
empty for those that took no part. The other patterns have no groups. -/
def Pattern.groupTexts (p : Pattern) (line : String) : List String :=
  match p with
  | .any => []
  | .literal _ => []
  | .regex r => (r.find? line).elim [] fun m => m.groups.map fun group => group.getD ""

/-- What an event shows of a match is `Pattern.groupTexts`, which is read off the pattern and the
line. So an event can be told without the captures. -/
theorem Captures.toTexts_eq {p : Pattern} {line : String} {captures : Captures}
    (h : p.matches? line = some captures) : captures.toTexts = p.groupTexts line := by
  cases p with
  | any =>
    cases h
    rfl
  | literal text =>
    obtain ⟨-, hcaptures⟩ := Option.ite_none_right_eq_some.mp h
    cases hcaptures
    rfl
  | regex r =>
    obtain ⟨m, hm, rfl⟩ := Option.map_eq_some_iff.mp h
    rw [Pattern.groupTexts, hm]
    rfl

/-! ### The event of a try -/

/-- Whether the action records the match. -/
def Builtin.Kind.records : Kind → Bool
  | .emit | .enter => true
  | .push | .pop | .fail => false

/-- The actions that record a match are `emit` and `enter`. Statements about a run name these two,
and `Try.event?` asks for `Kind.records`. -/
theorem Builtin.Kind.records_iff (k : Kind) : k.records = true ↔ k = .emit ∨ k = .enter := by
  cases k <;> simp [records]

namespace Try

/-- The event that a try records: one if its transition binds `emit` or `enter`. -/
def event? (nameOf : StateId → String) (p : Try) : Option Event :=
  p.taken.bind fun tr => (tr.kind?.filter Kind.records).map fun k =>
    ⟨p.line.number, k.name, nameOf p.state, tr.pattern.groupTexts p.line.text⟩

variable {nameOf : StateId → String} {p : Try} {tr : Transition Events}

/-- A try records an event exactly when its transition binds `emit` or `enter`, and then the event
is determined by the try. It is what `Engine.Records` speaks about. -/
theorem event?_eq_some_iff {event : Event} :
    p.event? nameOf = some event ↔ ∃ tr k, p.taken = some tr ∧ tr.kind? = some k ∧
      k.records = true ∧
      event = ⟨p.line.number, k.name, nameOf p.state, tr.pattern.groupTexts p.line.text⟩ := by
  simp only [event?, Option.bind_eq_some_iff, Option.map_eq_some_iff, Option.filter_eq_some_iff]
  constructor
  · rintro ⟨tr, htaken, k, ⟨hkind, hrecords⟩, hevent⟩
    exact ⟨tr, k, htaken, hkind, hrecords, hevent.symm⟩
  · rintro ⟨tr, k, htaken, hkind, hrecords, hevent⟩
    exact ⟨tr, htaken, k, ⟨hkind, hrecords⟩, hevent.symm⟩

/-- A try that takes no transition records nothing. -/
theorem event?_of_untaken (h : p.taken = none) : p.event? nameOf = none := by
  rw [event?, h]
  rfl

/-- A try whose transition binds no action records nothing. With the two lemmas beside it,
`Try.event?` is known in all cases. -/
theorem event?_of_none (h : p.taken = some tr) (hnone : tr.action = none) :
    p.event? nameOf = none := by
  rw [event?, h, Option.bind_some, Transition.kind?_of_none hnone]
  rfl

/-- A try whose transition binds a ready-made action records an event if `Kind.records` says
so. -/
theorem event?_of_bound {k : Kind} (h : p.taken = some tr) (hk : tr.action = some k.bound) :
    p.event? nameOf = if k.records then
      some ⟨p.line.number, k.name, nameOf p.state, tr.pattern.groupTexts p.line.text⟩
    else none := by
  rw [event?, h, Option.bind_some, Transition.kind?_of_bound hk]
  cases k <;> rfl

/-- A try that takes a saved state back records nothing. So all tries of a line but the last one
record nothing. -/
theorem event?_of_pop (h : p.move = .pop) : p.event? nameOf = none := by
  unfold move at h
  rw [event?]
  cases htaken : p.taken with
  | none => rfl
  | some tr =>
    rw [htaken, Option.bind_some] at h
    rw [Option.bind_some]
    cases hkind : tr.kind? with
    | none => rfl
    | some k =>
      rw [hkind] at h
      -- Only `pop` takes a state back.
      cases k with
      | pop => rfl
      | emit | push | enter | fail => cases h

/-- A try that fails takes no saved state: `Kind.move` counts a pop only if it found something to
take. -/
theorem move_ne_pop_of_error {fault : ParseError} (h : p.result = .error fault) :
    p.move ≠ .pop := by
  unfold move
  rw [h]
  cases p.taken.bind Transition.kind? with
  | none => exact nofun
  | some k => cases k <;> exact nofun

end Try

namespace Table

variable {t : Table Events} {line : Line} {s : State Events} {id : StateId} {w : Work Events}

/-- A try adds the event that it records to the events, and leaves them alone otherwise. What
`Try.event?` reads off the transition is what `Table.stepState` does, by cases on the kind of
action. -/
theorem stepState_data (ht : t.Standard) (line : Line) (hs : t.get? id = some s)
    (w : Work Events) :
    (t.stepState line s w).2.data.toList =
      w.data.toList ++ ((t.tryState line s w).event? t.nameOf).toList := by
  cases hfirst : State.firstMatch? line.text s.transitions 0 with
  | none =>
    have htaken : (t.tryState line s w).taken = none := by
      rw [tryState, hfirst]
      rfl
    rw [stepState_of_none hfirst, Try.event?_of_untaken htaken]
    exact (List.append_nil _).symm
  | some found =>
    obtain ⟨rule, tr, captures⟩ := found
    have htaken : (t.tryState line s w).taken = some tr := by
      rw [tryState, hfirst]
      rfl
    obtain ⟨before, after, -, -, hmatch, -⟩ := State.firstMatch?_eq_some hfirst
    have hevent : ∀ name, Builtin.eventOf name (t.site line s.id tr.destination) captures =
        ⟨line.number, name, t.nameOf s.id, tr.pattern.groupTexts line.text⟩ := by
      intro name
      rw [Builtin.eventOf, Captures.toTexts_eq hmatch]
      rfl
    rcases ht.builtin s (mem_of_get? hs) tr (State.mem_of_firstMatch? hfirst) with
      hnone | ⟨k, hk⟩
    · rw [stepState_of_fire_ok hfirst (fire_none hnone), Try.event?_of_none htaken hnone]
      exact (List.append_nil _).symm
    · rw [Try.event?_of_bound htaken hk]
      -- Two actions push the event, and the other three leave the events alone on every way
      -- out, also where `pop` finds no state.
      cases k with
      | emit =>
        rw [stepState_of_fire_ok hfirst (fire_emit hk), hevent]
        exact Array.toList_push
      | enter =>
        rw [stepState_of_fire_ok hfirst (fire_enter hk), hevent]
        exact Array.toList_push
      | push =>
        rw [stepState_of_fire_ok hfirst (fire_push hk)]
        exact (List.append_nil _).symm
      | fail =>
        rw [stepState_of_fire_error hfirst (fire_fail hk)]
        exact (List.append_nil _).symm
      | pop =>
        cases hstack : w.stack.topDown with
        | nil =>
          rw [stepState_of_fire_error hfirst (fire_pop_nil hk hstack)]
          exact (List.append_nil _).symm
        | cons top rest =>
          rw [stepState_of_fire_ok hfirst (fire_pop_cons hk hstack)]
          exact (List.append_nil _).symm

/-! ### The tries of a line -/

/-- The line makes the tries `front`, then the try `last`, and ends there:

- `here`: all of them are tries of this line;
- `pops`: each try in front takes a saved state back;
- `taken`: the last one takes the first transition of its state that passes the line, if
  there is one;
- `ends`: how the line ends in the state of the last try is the result, with the saved
  states that are left;
- `result`: it is the result of the last try;
- `stack`: the tries in front take one saved state each, the last one first;
- `data`: the only event of the line is that of the last try. -/
structure EndsOn (t : Table Events) (line : Line) (w : Work Events) (front : List Try)
    (last : Try) (result : Except ParseError StateId) (w' : Work Events) : Prop where
  here : ∀ p ∈ front ++ [last], p.line = line
  pops : ∀ p ∈ front, p.move = .pop
  taken : last.taken = (t.rule? line last.state).map Prod.fst
  ends : t.Ends line last.state last.before result w'.stack.topDown
  result : last.result = result.map .settled
  stack : ∃ states, w.stack.topDown = states ++ last.before ∧ states.length = front.length
  data : w'.data.toList = w.data.toList ++ (last.event? t.nameOf).toList

/-- Every line ends on one of its tries, as `Table.EndsOn` says. The induction is on the number of
tries that are allowed: a try that goes back leaves one saved state less. -/
theorem record_endsOn (ht : t.Standard) (line : Line) (budget : Nat) (id : StateId)
    (w : Work Events) (hbudget : w.stack.topDown.length < budget) (hid : t.has id = true)
    (hstack : ∀ saved ∈ w.stack.topDown, t.has saved = true) :
    ∃ front last result w', t.record line budget id w = (front ++ [last], some (result, w')) ∧
      t.EndsOn line w front last result w' := by
  refine resolve_induction ht line ?_ ?_ budget id w hbudget hid hstack
  · -- The line ends on this try.
    intro budget id s w w' result hs hstep hends
    refine ⟨[], t.tryState line s w, result, w', ?_, ?_⟩
    · cases result with
      | error fault => exact record_of_error budget hs hstep
      | ok next => exact record_of_settled budget hs hstep (hends.has ht)
    · have hdata := stepState_data ht line hs w
      rw [hstep] at hdata
      have hid : s.id = id := ht.numbered id s hs
      subst hid
      exact {
        here := by simp [tryState]
        pops := by simp
        taken := taken_tryState hs w
        ends := hends
        result := congrArg Prod.fst hstep
        stack := ⟨[], rfl, rfl⟩
        data := hdata }
  · -- This try goes back to `top`, and the line ends on one of the tries from there.
    rintro budget id top s w w' tr captures hs hrule hpop hstep hsplit htop
      ⟨front, last, result, w'', hrecord, hends⟩
    have hresult : (t.tryState line s w).result = .ok (.resumed top) := congrArg Prod.fst hstep
    have hmove : (t.tryState line s w).move = .pop := by
      have htaken : (t.tryState line s w).taken = (t.rule? line id).map Prod.fst :=
        taken_tryState hs w
      rw [hrule] at htaken
      rw [Try.move_of_bound htaken hpop, hresult]
      rfl
    have hdata := stepState_data ht line hs w
    rw [hstep, Try.event?_of_pop hmove] at hdata
    obtain ⟨states, hstates, hlength⟩ := hends.stack
    refine ⟨t.tryState line s w :: front, last, result, w'', ?_, ?_⟩
    · rw [record_of_resumed budget hs hstep htop, hrecord]
      rfl
    · exact {
        here := List.forall_mem_cons.mpr ⟨rfl, hends.here⟩
        pops := List.forall_mem_cons.mpr ⟨hmove, hends.pops⟩
        taken := hends.taken
        ends := hends.ends
        result := hends.result
        stack := ⟨top :: states, by rw [hsplit, hstates]; rfl, by simp [hlength]⟩
        data := by rw [hends.data, hdata]; simp }

/-! ### What the tries do to the saved states -/

section Moves

variable {front : List Try} {last : Try} {result : Except ParseError StateId} {w' : Work Events}

/-- The last try of a line saves its state or leaves the saved states alone. It is no pop, since a
pop that succeeds has the line tried again. -/
theorem EndsOn.move_last (h : t.EndsOn line w front last result w') :
    (last.move = .push ∧ w'.stack.topDown = last.state :: last.before) ∨
      (last.move = .stay ∧ w'.stack.topDown = last.before) := by
  have hline : last.line = line := h.here last (by simp)
  subst hline
  -- The try as it ends the line.
  let ended : Try := { last with after := w'.stack.topDown }
  have hfits : ended.Fits := Try.fits_of_ends h.taken h.result h.ends
  show (ended.move = .push ∧ _) ∨ (ended.move = .stay ∧ _)
  cases hmove : ended.move with
  | push => exact .inl ⟨rfl, (Try.fits_push hmove).mp hfits⟩
  | stay => exact .inr ⟨rfl, (Try.fits_stay hmove).mp hfits⟩
  | pop =>
    -- A state that is taken back would have the line go on.
    obtain ⟨top, hresumed, -⟩ := (Try.fits_pop hmove).mp hfits
    have hnot : last.result ≠ .ok (.resumed top) := by
      rw [h.result]
      cases result <;> simp [Except.map]
    exact absurd hresumed hnot

/-- A line takes as many saved states as there are tries before the last one, by the fields of
`Table.EndsOn` and `EndsOn.move_last`. -/
theorem EndsOn.countP_pop (h : t.EndsOn line w front last result w') :
    (front ++ [last]).countP (fun p => p.move = .pop) = front.length := by
  have hlast : last.move ≠ .pop := by
    rcases h.move_last with ⟨hmove, -⟩ | ⟨hmove, -⟩ <;> simp [hmove]
  have hfront : front.countP (fun p => p.move = .pop) = front.length := by
    rw [List.countP_eq_length]
    simpa using h.pops
  rw [List.countP_append, hfront, List.countP_singleton]
  simp [hlast]

end Moves

/-! ### A line that fails -/

/-- Where a line fails, all saved states stay. If a transition was taken there, it binds `fail` or
`pop`, which are the cases of `Table.Ends` with an error. -/
theorem Ends.of_error {fault : ParseError} {stack stack' : List StateId}
    (h : t.Ends line id stack (.error fault) stack') :
    stack' = stack ∧ ∀ tr captures, t.rule? line id = some (tr, captures) →
      ∃ k : Kind, tr.action = some k.bound ∧ (k = .fail ∨ k = .pop) := by
  cases h with
  | unmatched untaken =>
    rw [untaken]
    exact ⟨rfl, fun tr captures h => absurd h (by simp)⟩
  | rejected taken bound =>
    rw [taken]
    exact ⟨rfl, fun tr captures h => by cases h; exact ⟨.fail, bound, .inl rfl⟩⟩
  | exhausted taken bound =>
    rw [taken]
    exact ⟨rfl, fun tr captures h => by cases h; exact ⟨.pop, bound, .inr rfl⟩⟩

variable {front : List Try} {last : Try} {fault : ParseError} {w' : Work Events}

/-- A line that fails records nothing: neither `fail` nor `pop` is an action for which
`Kind.records` holds. -/
theorem EndsOn.event?_of_error (h : t.EndsOn line w front last (.error fault) w') :
    last.event? t.nameOf = none := by
  have htaken := h.taken
  cases hrule : t.rule? line last.state with
  | none =>
    rw [hrule] at htaken
    exact Try.event?_of_untaken htaken
  | some found =>
    obtain ⟨tr, captures⟩ := found
    rw [hrule] at htaken
    obtain ⟨k, hk, hfail | hpop⟩ := h.ends.of_error.2 tr captures hrule
    · rw [Try.event?_of_bound htaken hk, hfail]
      rfl
    · rw [Try.event?_of_bound htaken hk, hpop]
      rfl

end Table

namespace Engine

variable {e : Engine Events}

/-- The next line of a parse ends on one of its tries, and its answer follows from how it ends
there. It is `record_endsOn` with the budget of `Engine.feed`. -/
theorem Sound.feed_endsOn (h : e.Sound) (extra : Nat) (text : String) :
    ∃ front last result w, e.tries extra text = front ++ [last] ∧
      e.feed extra text = some (e.answer text (result, w)) ∧
      e.table.EndsOn (e.lineOf text) e.work front last result w := by
  obtain ⟨front, last, result, w, hrecord, hends⟩ :=
    Table.record_endsOn h.standard (e.lineOf text) (e.budget extra) e.current e.work
      (e.length_lt_budget extra) h.current h.has_of_mem
  refine ⟨front, last, result, w, congrArg Prod.fst hrecord, ?_, hends⟩
  refine feed_of_resolve ?_
  rw [← Table.record_snd, hrecord]

end Engine

end LineMachine
