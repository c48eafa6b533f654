import LineMachine.Proofs.Builtin.Following

/-!
# `LineMachine.Proofs.TableBuilder.Continuing`: one declaration continues another

Two declarations that bind the same actions can number their states differently. What
a state does depends on its own rules alone, so the two are compared state by
state.

* `TableBuilder.Continues`: each state keeps its rules, in order and in front of
  further ones. With `loose` the further ones may be any. Without it they stand
  behind a rule that matches every line, or there are none.
* `TableBuilder.Continues.follows`: the table of the second declaration follows
  that of the first one by the names.
-/

set_option autoImplicit false

namespace LineMachine

namespace TableBuilder

variable {b b' : TableBuilder Events} {t t' : Table Events}

/-- The numbers of one name, which may differ between the tables. `Table.SameName` relates them,
and this is how a destination is carried from one table to the other. -/
theorem sameName_idOf (h : b.Declares t) (h' : b'.Declares t') {name : String}
    (hname : name ∈ b.stateNames) (hname' : name ∈ b'.stateNames) :
    t.SameName t' (idOf b.stateNames name) (idOf b'.stateNames name) := by
  obtain ⟨s, hs, hsame⟩ := h.get?_idOf hname
  obtain ⟨s', hs', hsame'⟩ := h'.get?_idOf hname'
  exact ⟨s, s', hs, hs', hsame.trans hsame'.symm⟩

/-- The state where a parse is to begin: the one that is set, or else that of the
first rule. -/
def beginning (b : TableBuilder Events) : Option String :=
  b.initial.or (b.rules.head?.map Rule.state)

/-- Both tables begin in states of one name when the declarations agree on the beginning.
`TableBuilder.beginning` is enough for this, since `initialState` takes no other name. -/
theorem sameName_initial (h : b.Declares t) (h' : b'.Declares t')
    (hbeginning : b'.beginning = b.beginning) : t.SameName t' t.initial t'.initial := by
  obtain ⟨first, rest, name, hrules, hname, hid⟩ := h.initial
  obtain ⟨first', rest', name', hrules', hname', hid'⟩ := h'.initial
  have hsame : name' = name := by
    have hgiven : b.beginning = some name := by
      rw [initialState_eq hname, beginning, hrules]
      cases b.initial <;> rfl
    have hgiven' : b'.beginning = some name' := by
      rw [initialState_eq hname', beginning, hrules']
      cases b'.initial <;> rfl
    rw [hgiven, hgiven'] at hbeginning
    exact Option.some.inj hbeginning
  have hmem : name ∈ b.sources := initialState_mem_sources (by simp [hrules]) hname
  have hmem' : name' ∈ b'.sources := initialState_mem_sources (by simp [hrules']) hname'
  rw [hid, hid', hsame]
  exact sameName_idOf h h' (List.mem_append_left _ hmem) (List.mem_append_left _ (hsame ▸ hmem'))

/-- Where it binds the same action, one rule declares alike transitions: the same pattern and the
same action, and destinations of one name by `sameName_idOf`. -/
theorem alike_of_binds (h : b.Declares t) (h' : b'.Declares t')
    (hactions : ∀ rule, b'.bindAction rule = b.bindAction rule) {rule : Rule}
    {tr tr' : Transition Events} (hrule : rule ∈ b.rules) (hrule' : rule ∈ b'.rules)
    (hbinds : b.Binds rule tr) (hbinds' : b'.Binds rule tr') : t.AlikeTransitions t' tr tr' := by
  refine ⟨hbinds'.pattern.trans hbinds.pattern.symm, ?_, ?_⟩
  · have haction := hactions rule
    rw [hbinds.action, hbinds'.action] at haction
    exact Except.ok.inj haction
  · rw [hbinds.destination, hbinds'.destination]
    exact sameName_idOf h h' (destination_mem_stateNames hrule) (destination_mem_stateNames hrule')

/-- The rules that a state has in both declarations give alike transitions, in front of those of
further rules. The induction is on the common rules. -/
theorem forall₂_front (h : b.Declares t) (h' : b'.Declares t')
    (hactions : ∀ rule, b'.bindAction rule = b.bindAction rule)
    {rules more : List Rule} {trs trs' : List (Transition Events)}
    (hrules : ∀ rule ∈ rules, rule ∈ b.rules ∧ rule ∈ b'.rules)
    (hold : List.Forall₂ b.Binds rules trs) (hnew : List.Forall₂ b'.Binds (rules ++ more) trs') :
    ∃ front back, trs' = front ++ back ∧ List.Forall₂ (t.AlikeTransitions t') trs front ∧
      (more = [] → back = []) := by
  induction hold generalizing trs' with
  | nil =>
    refine ⟨[], trs', rfl, .nil, ?_⟩
    rintro rfl
    exact List.forall₂_nil_left_iff.mp hnew
  | @cons rule tr rules trs hbinds _ ih =>
    obtain ⟨hrule, hrule'⟩ := hrules rule List.mem_cons_self
    rw [List.cons_append] at hnew
    obtain ⟨tr', rest', hbinds', hrest', rfl⟩ := List.forall₂_cons_left_iff.mp hnew
    obtain ⟨front, back, rfl, hfront, hback⟩ :=
      ih (fun rule hrule => hrules rule (List.mem_cons_of_mem _ hrule)) hrest'
    exact ⟨tr' :: front, back, rfl,
      .cons (alike_of_binds h h' hactions hrule hrule' hbinds hbinds') hfront, hback⟩

/-- Of two lists of alike transitions the same position is taken, with the same captures. Alike
transitions have equal patterns, so `State.firstMatch?` passes over the same ones. -/
theorem firstMatch?_alike {trs trs' : List (Transition Events)} (text : String) (k : Nat)
    (h : List.Forall₂ (t.AlikeTransitions t') trs trs') :
    (∀ rule tr captures, State.firstMatch? text trs k = some (rule, tr, captures) →
      ∃ tr', State.firstMatch? text trs' k = some (rule, tr', captures) ∧
        t.AlikeTransitions t' tr tr') ∧
    (State.firstMatch? text trs k = none → State.firstMatch? text trs' k = none) := by
  induction h generalizing k with
  | nil => simp [State.firstMatch?]
  | @cons first first' rest rest' halike _ ih =>
    simp only [State.firstMatch?, halike.pattern]
    cases hmatch : first.pattern.matches? text with
    | none => exact ih (k + 1)
    | some found =>
      constructor
      · intro rule tr captures hsome
        cases hsome
        exact ⟨first', rfl, halike⟩
      · intro hnone
        cases hnone

/-- Each state has its old rules in front and further ones behind them. Unless the
comparison is loose, there are no further ones, or an old one matches every
line. -/
def Continues (loose : Prop) (b b' : TableBuilder Events) : Prop :=
  ∀ name : String, ∃ more : List Rule,
    (b'.rules.filter fun rule => rule.state = name) =
      (b.rules.filter fun rule => rule.state = name) ++ more ∧
    (loose ∨ more = [] ∨ ∃ rule ∈ b.rules, rule.state = name ∧ rule.pattern.isAny = true)

/-- A rule that matches every line makes its state know every line. Further rules behind it are
then never reached, which `Continues` allows even where it is not loose. -/
theorem firstMatch?_ne_none (h : b.Declares t) {s : State Events} (hs : s ∈ t.states) {rule : Rule}
    (hrule : rule ∈ b.rules) (hstate : rule.state = s.name) (hany : rule.pattern.isAny = true)
    (text : String) : State.firstMatch? text s.transitions 0 ≠ none := by
  intro hnone
  have hmem : rule ∈ b.rules.filter fun rule => rule.state = s.name :=
    List.mem_filter.mpr ⟨hrule, by simpa using hstate⟩
  obtain ⟨tr, htr, hbinds⟩ := exists_left_of_forall₂ (h.transitions s hs).flip hmem
  have hmatch := (State.firstMatch?_eq_none_iff text s.transitions 0).mp hnone tr htr
  rw [hbinds.pattern] at hmatch
  cases hpattern : rule.pattern with
  | any =>
    rw [hpattern] at hmatch
    cases hmatch
  | literal _ =>
    rw [hpattern] at hany
    cases hany
  | regex _ =>
    rw [hpattern] at hany
    cases hany

/-- The transitions of states of one name: first alike ones, then those of the further rules. It
says for the transitions what `Continues` says for the rules. -/
theorem Continues.exists_front {loose : Prop} (hrules : b.Continues loose b') (h : b.Declares t)
    (h' : b'.Declares t') (hactions : ∀ rule, b'.bindAction rule = b.bindAction rule)
    {s s' : State Events} (hs : s ∈ t.states) (hs' : s' ∈ t'.states) (hname : s.name = s'.name) :
    ∃ front back, s'.transitions = front ++ back ∧
      List.Forall₂ (t.AlikeTransitions t') s.transitions front ∧
      (loose ∨ back = [] ∨ ∀ text, State.firstMatch? text s.transitions 0 ≠ none) := by
  obtain ⟨more, hmore, hloose⟩ := hrules s.name
  have hold := h.transitions s hs
  have hnew := h'.transitions s' hs'
  have hboth : ∀ rule ∈ b.rules.filter (fun rule => rule.state = s.name),
      rule ∈ b.rules ∧ rule ∈ b'.rules := by
    intro rule hrule
    have hrule' : rule ∈ b'.rules.filter fun rule => rule.state = s.name := by
      rw [hmore]
      exact List.mem_append_left more hrule
    exact ⟨(List.mem_filter.mp hrule).1, (List.mem_filter.mp hrule').1⟩
  rw [← hname, hmore] at hnew
  obtain ⟨front, back, hsplit, halike, hback⟩ := forall₂_front h h' hactions hboth hold hnew
  refine ⟨front, back, hsplit, halike, hloose.imp_right (Or.imp hback ?_)⟩
  rintro ⟨rule, hrule, hstate, hany⟩ text
  exact firstMatch?_ne_none h hs hrule hstate hany text

/-- The table of a declaration that continues another one follows the table of that one. Appending
rules, removing shadowed ones and reordering them are compared through `Table.Follows` for this
reason. -/
theorem Continues.follows {loose : Prop} (hrules : b.Continues loose b') (h : b.Declares t)
    (h' : b'.Declares t') (hstandard : t.Standard) (hstandard' : t'.Standard)
    (hactions : ∀ rule, b'.bindAction rule = b.bindAction rule)
    (hinitial : t.SameName t' t.initial t'.initial) : t.Follows loose t' := by
  refine ⟨hstandard, hstandard', hinitial, ?_, ?_⟩
  · -- A line that is taken in front is not seen by the transitions behind.
    intro id id' s s' hs hs' hname text rule tr captures hfirst
    obtain ⟨front, back, hsplit, halike, -⟩ := hrules.exists_front h h' hactions
      (Table.mem_of_get? hs) (Table.mem_of_get? hs') hname
    obtain ⟨tr', hfirst', htr⟩ := (firstMatch?_alike text 0 halike).1 rule tr captures hfirst
    rw [hsplit]
    exact ⟨tr', State.firstMatch?_append_of_some back hfirst', htr⟩
  · intro id id' s s' hs hs' hname text hfirst
    obtain ⟨front, back, hsplit, halike, hloose | rfl | hknown⟩ := hrules.exists_front h h' hactions
      (Table.mem_of_get? hs) (Table.mem_of_get? hs') hname
    · exact .inl hloose
    · rw [hsplit, List.append_nil]
      exact .inr ((firstMatch?_alike text 0 halike).2 hfirst)
    · exact absurd hfirst (hknown text)

end TableBuilder

end LineMachine
