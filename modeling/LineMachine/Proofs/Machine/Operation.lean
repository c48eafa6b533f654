import LineMachine.Proofs.Machine.Feed

/-!
# `LineMachine.Proofs.Machine.Operation`: what an owner does with a parse

The owner of a parse feeds it lines, and may go on behind a line that fails. Between
two lines the owner may have the steps recorded from there on, and may change the
data, which are the owner's.

* `Operation` lists what the owner can do, and `Engine.perform` does it.
* `Engine.performAll` does several things in a row and keeps a `Turn` for each: the
  parse before it, the answer, and the parse behind it. There is no result if a
  line does not end.
* `Engine.perform_cases` and `Engine.performAll_cons` take a run apart.
  `Engine.perform_of_mem` says that each turn is an operation that was done, and
  `Engine.invariant_of_performAll` carries what every operation keeps through a run.
-/

set_option autoImplicit false

namespace LineMachine

variable {δ : Type}

/-- What the owner of a parse can do with it. -/
inductive Operation (δ : Type) where
  /-- give it a line, which may try this many states beyond those that are saved -/
  | feed (extra : Nat) (text : String)
  /-- have the steps recorded from here on -/
  | recording
  /-- change the data -/
  | data (change : δ → δ)

namespace Operation

/-- Whether the steps are recorded from here on. -/
def isRecording : Operation δ → Bool
  | .recording => true
  | _ => false

end Operation

/-- An operation that was done. -/
structure Turn (δ : Type) where
  operation : Operation δ
  before : Engine δ
  /-- the answer, if a line was given -/
  result : Option (Except ParseError StateId)
  after : Engine δ

namespace Engine

/-- Does one thing. -/
def perform (e : Engine δ) : Operation δ → Option (Turn δ)
  | .feed extra text =>
    (e.feed extra text).map fun answer => ⟨.feed extra text, e, some answer.1, answer.2⟩
  | .recording => some ⟨.recording, e, none, e.recording⟩
  | .data change => some ⟨.data change, e, none, { e with data := change e.data }⟩

/-- Does several things, one after the other. The second part is the parse behind
them. -/
def performAll : List (Operation δ) → Engine δ → Option (List (Turn δ) × Engine δ)
  | [], e => some ([], e)
  | op :: rest, e => do
    let turn ← e.perform op
    let (more, last) ← turn.after.performAll rest
    some (turn :: more, last)

variable {e last : Engine δ} {op : Operation δ} {rest : List (Operation δ)} {turn : Turn δ}
  {turns : List (Turn δ)}

/-- What one operation can be, with the turn that `Engine.perform` makes of it. Proofs about
operations split by this lemma; only a line can be without a turn. -/
theorem perform_cases (h : e.perform op = some turn) :
    (∃ extra text result e', op = .feed extra text ∧ e.feed extra text = some (result, e') ∧
      turn = ⟨.feed extra text, e, some result, e'⟩) ∨
    (op = .recording ∧ turn = ⟨.recording, e, none, e.recording⟩) ∨
    ∃ change, op = .data change ∧
      turn = ⟨.data change, e, none, { e with data := change e.data }⟩ := by
  cases op with
  | feed extra text =>
    obtain ⟨⟨result, e'⟩, hfeed, hturn⟩ := Option.map_eq_some_iff.mp h
    exact .inl ⟨extra, text, result, e', rfl, hfeed, hturn.symm⟩
  | recording => exact .inr (.inl ⟨rfl, (Option.some.inj h).symm⟩)
  | data change => exact .inr (.inr ⟨change, rfl, (Option.some.inj h).symm⟩)

/-- A `Turn` shows the parse that it began with and the operation that was done. So a run can be
read off its turns without the list of operations. -/
theorem turn_of_perform (h : e.perform op = some turn) :
    turn.before = e ∧ turn.operation = op := by
  rcases perform_cases h with ⟨_, _, _, _, rfl, -, rfl⟩ | ⟨rfl, rfl⟩ | ⟨_, rfl, rfl⟩
  all_goals exact ⟨rfl, rfl⟩

/-- A run of `Engine.performAll` is one operation and the run behind it. The equation also covers
a line without an answer, where there is no run at all. -/
theorem performAll_cons_eq (e : Engine δ) (op : Operation δ) (rest : List (Operation δ)) :
    e.performAll (op :: rest) = (e.perform op).bind fun turn =>
      (turn.after.performAll rest).map fun run => (turn :: run.1, run.2) := by
  rw [performAll]
  rcases e.perform op with _ | turn
  · rfl
  · rcases h : turn.after.performAll rest with _ | ⟨more, last⟩ <;> simp [h]

/-- A run that ends begins with a turn of `Engine.perform` and goes on behind it. The inductions
over operations take a run apart by this. -/
theorem performAll_cons (h : e.performAll (op :: rest) = some (turns, last)) :
    ∃ turn more, e.perform op = some turn ∧ turn.after.performAll rest = some (more, last) ∧
      turns = turn :: more := by
  rw [performAll_cons_eq] at h
  obtain ⟨turn, hturn, hrest⟩ := Option.bind_eq_some_iff.mp h
  obtain ⟨⟨more, last'⟩, hmore, hpair⟩ := Option.map_eq_some_iff.mp hrest
  cases hpair
  exact ⟨turn, more, hturn, hmore, rfl⟩

/-- Every turn of a run is an operation that was done by `Engine.perform` on the parse which the
turn shows. Statements about all turns need no induction of their own then. -/
theorem perform_of_mem {ops : List (Operation δ)} (h : e.performAll ops = some (turns, last)) :
    ∀ turn ∈ turns, turn.before.perform turn.operation = some turn := by
  induction ops generalizing e turns with
  | nil =>
    cases h
    simp
  | cons op rest ih =>
    obtain ⟨turn, more, hturn, hmore, rfl⟩ := performAll_cons h
    obtain ⟨hbefore, hop⟩ := turn_of_perform hturn
    rw [List.forall_mem_cons, hbefore, hop]
    exact ⟨hturn, ih hmore⟩

/-- What every operation keeps holds behind every run of `Engine.performAll`. Among the operations
are lines that fail and changes of the data by the owner. -/
theorem invariant_of_performAll {P : Engine δ → Prop} {ops : List (Operation δ)}
    (h : e.performAll ops = some (turns, last))
    (step : ∀ (e : Engine δ) (op : Operation δ) (turn : Turn δ), P e →
      e.perform op = some turn → P turn.after) (he : P e) : P last := by
  induction ops generalizing e turns with
  | nil =>
    cases h
    exact he
  | cons op rest ih =>
    obtain ⟨turn, more, hturn, hmore, -⟩ := performAll_cons h
    exact ih hmore (step e op turn he hturn)

/-- No operation changes the table, and for a line this is `table_of_feed`. -/
theorem table_of_perform (h : e.perform op = some turn) : turn.after.table = e.table := by
  rcases perform_cases h with ⟨extra, text, result, e', -, hfeed, rfl⟩ | ⟨-, rfl⟩ |
    ⟨change, -, rfl⟩
  · exact table_of_feed hfeed
  · rfl
  · rfl

/-- No run of operations changes the table, by `table_of_perform` and the induction of
`invariant_of_performAll`. -/
theorem table_of_performAll {ops : List (Operation δ)}
    (h : e.performAll ops = some (turns, last)) : last.table = e.table :=
  invariant_of_performAll (P := fun e' => e'.table = e.table) h
    (fun _ _ _ he hturn => (table_of_perform hturn).trans he) rfl

end Engine

end LineMachine
