import Mathlib.Data.List.Infix
import Mathlib.Order.Basic

/-!
# `LineMachine.Proofs.Machine.Nesting`: which push a pop takes

A run saves states and takes them back. This module looks at the order of these
moves alone, without the states.

* `Move.Takes`: a pop takes the latest push before it that no earlier pop has
  taken.
* `Move.untaken` computes the pushes that are not taken yet, and
  `Move.mem_untaken_iff` and `Move.takes_iff` say that it does.
* `Move.untaken_eq_of_suffix`: the untaken pushes are nested. Those below a push
  are the ones that were not taken when it came.
-/

set_option autoImplicit false

namespace LineMachine

/-- What a step of a run does to the saved states. -/
inductive Move where
  /-- a state is saved -/
  | push
  /-- the last saved state is taken -/
  | pop
  /-- neither -/
  | stay
deriving Repr, DecidableEq

namespace Move

/-- The pop at position `i` takes the push at position `k`: the push comes before it,
no earlier pop takes it, and every later push before `i` is taken by an earlier
pop. -/
def Takes (moves : List Move) (i k : Nat) : Prop :=
  moves[i]? = some .pop ∧ k < i ∧ moves[k]? = some .push ∧ (∀ j, j < i → ¬ Takes moves j k) ∧
    ∀ m, k < m → m < i → moves[m]? = some .push → ∃ j, ∃ _ : j < i, Takes moves j m
termination_by i

/-- The positions of the pushes before `i` that no pop before `i` takes, the latest
one first. -/
def untaken (moves : List Move) : Nat → List Nat
  | 0 => []
  | i + 1 =>
    match moves[i]? with
    | some .push => i :: untaken moves i
    | some .pop => (untaken moves i).tail
    | _ => untaken moves i

variable {moves : List Move} {i k : Nat}

/-- A push joins `Move.untaken` in front, where the latest one stands. This and the next two
lemmas are the three cases of a step. -/
theorem untaken_of_push (h : moves[i]? = some .push) :
    untaken moves (i + 1) = i :: untaken moves i := by
  rw [untaken, h]

/-- A pop takes the first of `Move.untaken` off, and nothing if there is none. That it is the one
which the pop takes in the sense of `Move.Takes` is `takes_iff`. -/
theorem untaken_of_pop (h : moves[i]? = some .pop) :
    untaken moves (i + 1) = (untaken moves i).tail := by
  rw [untaken, h]

/-- Any other move leaves `Move.untaken` as it is. A position behind the last move is such a case
too, so the hypotheses do not ask for a move. -/
theorem untaken_of_other (hpush : moves[i]? ≠ some .push) (hpop : moves[i]? ≠ some .pop) :
    untaken moves (i + 1) = untaken moves i := by
  rw [untaken]
  split
  · contradiction
  · contradiction
  · rfl

/-! ### The order of the untaken pushes -/

/-- The pushes in `Move.untaken` stand before the position at which they are counted. So a push
that joins them is later than all of them, which `pairwise_untaken` needs. -/
theorem lt_of_mem_untaken (h : k ∈ untaken moves i) : k < i := by
  induction i with
  | zero => cases h
  | succ i ih =>
    rw [untaken] at h
    split at h
    · rcases List.mem_cons.mp h with rfl | hold
      · omega
      · have := ih hold
        omega
    · have := ih (List.mem_of_mem_tail h)
      omega
    · have := ih h
      omega

/-- The latest push comes first in `Move.untaken`, and no push stands in it twice. The first one
is then the greatest, as `head?_untaken_iff` says. -/
theorem pairwise_untaken (moves : List Move) (i : Nat) :
    (untaken moves i).Pairwise (· > ·) := by
  induction i with
  | zero => exact .nil
  | succ i ih =>
    rw [untaken]
    split
    · exact List.pairwise_cons.mpr ⟨fun k hk => lt_of_mem_untaken hk, ih⟩
    · exact ih.tail
    · exact ih

/-- The first of `Move.untaken` is the greatest of them. `Move.Takes` asks for the latest push
that no earlier pop takes, and this is how the list finds it. -/
theorem head?_untaken_iff :
    (untaken moves i).head? = some k ↔ k ∈ untaken moves i ∧ ∀ m ∈ untaken moves i, m ≤ k := by
  have hsorted := pairwise_untaken moves i
  cases hlist : untaken moves i with
  | nil => simp
  | cons top rest =>
    rw [hlist, List.pairwise_cons] at hsorted
    rw [List.head?_cons, Option.some.injEq]
    constructor
    · rintro rfl
      refine ⟨List.mem_cons_self, fun m hm => ?_⟩
      rcases List.mem_cons.mp hm with rfl | hrest
      · exact le_rfl
      · exact (hsorted.1 m hrest).le
    · rintro ⟨hmem, hmax⟩
      rcases List.mem_cons.mp hmem with rfl | hrest
      · rfl
      · have hle := hmax top List.mem_cons_self
        have hlt := hsorted.1 k hrest
        omega

/-- Below a push in `Move.untaken` stand exactly the pushes that were not taken when it came. So a
pop that takes it uncovers the stack from before it (`resumes_push`). -/
theorem untaken_eq_of_suffix {rest : List Nat} (h : k :: rest <:+ untaken moves i) :
    untaken moves k = rest := by
  induction i with
  | zero => simp [untaken] at h
  | succ i ih =>
    rw [untaken] at h
    split at h
    · rcases List.suffix_cons_iff.mp h with heq | hold
      · cases heq
        rfl
      · exact ih hold
    · exact ih (h.trans (List.tail_suffix _))
    · exact ih h

/-! ### The push that is taken -/

/-- If `Move.untaken` has the right pushes at a pop, the pop takes the first of them. The
hypothesis is what `mem_untaken_iff` proves, which needs this lemma for the pops before. -/
theorem takes_iff_of_mem_iff (h : ∀ k, k ∈ untaken moves i ↔
    k < i ∧ moves[k]? = some .push ∧ ∀ j, j < i → ¬ Takes moves j k) (k : Nat) :
    Takes moves i k ↔ moves[i]? = some .pop ∧ (untaken moves i).head? = some k := by
  rw [Takes, head?_untaken_iff, h k]
  constructor
  · rintro ⟨hpop, hlt, hpush, huntaken, hlater⟩
    refine ⟨hpop, ⟨hlt, hpush, huntaken⟩, fun m hm => ?_⟩
    obtain ⟨hmlt, hmpush, hmuntaken⟩ := (h m).mp hm
    -- A later push would have to be taken before `i`.
    by_contra hgt
    obtain ⟨j, hj, htakes⟩ := hlater m (by omega) hmlt hmpush
    exact hmuntaken j hj htakes
  · rintro ⟨hpop, ⟨hlt, hpush, huntaken⟩, hmax⟩
    refine ⟨hpop, hlt, hpush, huntaken, fun m hkm hmi hmpush => ?_⟩
    -- A later push that is not taken would be greater than the first one.
    by_contra hnone
    have hm : m ∈ untaken moves i :=
      (h m).mpr ⟨hmi, hmpush, fun j hj htakes => hnone ⟨j, hj, htakes⟩⟩
    have hle := hmax m hm
    omega

/-- The list `Move.untaken` has exactly the pushes that no earlier pop takes in the sense of
`Move.Takes`. The induction is on the position. A pop removes the push that it takes, which is the
first one, and no other move changes what is taken. -/
theorem mem_untaken_iff (moves : List Move) (i : Nat) (k : Nat) :
    k ∈ untaken moves i ↔
      k < i ∧ moves[k]? = some .push ∧ ∀ j, j < i → ¬ Takes moves j k := by
  induction i generalizing k with
  | zero => simp [untaken]
  | succ i ih =>
    have htakes := takes_iff_of_mem_iff ih
    have hsplit : (∀ j, j < i + 1 → ¬ Takes moves j k) ↔
        (∀ j, j < i → ¬ Takes moves j k) ∧ ¬ Takes moves i k := Nat.forall_lt_succ_right
    rw [hsplit]
    by_cases hpush : moves[i]? = some .push
    · rw [untaken_of_push hpush, List.mem_cons, ih]
      have hfree : ¬ Takes moves i k := by
        rw [htakes, hpush]
        simp
      constructor
      · rintro (rfl | ⟨hlt, hk, huntaken⟩)
        · -- No earlier pop takes the new push.
          refine ⟨by omega, hpush, fun j hj h => ?_, hfree⟩
          rw [Takes] at h
          omega
        · exact ⟨by omega, hk, huntaken, hfree⟩
      · rintro ⟨hlt, hk, huntaken, -⟩
        by_cases heq : k = i
        · exact .inl heq
        · exact .inr ⟨by omega, hk, huntaken⟩
    · have hne : moves[k]? = some .push → k ≠ i := by
        rintro hk rfl
        exact hpush hk
      -- The last move is no push, so every push comes before it.
      have hbefore : (k < i + 1 ∧ moves[k]? = some .push ∧ (∀ j, j < i → ¬ Takes moves j k) ∧
          ¬ Takes moves i k) ↔ k ∈ untaken moves i ∧ ¬ Takes moves i k := by
        rw [ih]
        constructor
        · rintro ⟨hlt, hk, huntaken, hfree⟩
          have := hne hk
          exact ⟨⟨by omega, hk, huntaken⟩, hfree⟩
        · rintro ⟨⟨hlt, hk, huntaken⟩, hfree⟩
          exact ⟨by omega, hk, huntaken, hfree⟩
      rw [hbefore, htakes]
      by_cases hpop : moves[i]? = some .pop
      · have hsorted := pairwise_untaken moves i
        rw [untaken_of_pop hpop]
        cases hlist : untaken moves i with
        | nil => simp
        | cons top rest =>
          -- The first one goes, and it is none of the others.
          rw [hlist, List.pairwise_cons] at hsorted
          simp only [hpop, List.tail_cons, List.head?_cons, List.mem_cons, Option.some.injEq,
            true_and]
          constructor
          · intro hrest
            have := hsorted.1 k hrest
            exact ⟨.inr hrest, by omega⟩
          · rintro ⟨rfl | hrest, hother⟩
            · exact absurd rfl hother
            · exact hrest
      · rw [untaken_of_other hpush hpop]
        simp [hpop]

/-- A pop takes the first of `Move.untaken`, and no other move takes anything. This computes
`Move.Takes`, which is defined by recursion over all earlier pops. -/
theorem takes_iff (moves : List Move) (i k : Nat) :
    Takes moves i k ↔ moves[i]? = some .pop ∧ (untaken moves i).head? = some k :=
  takes_iff_of_mem_iff (mem_untaken_iff moves i) k

end Move

end LineMachine
