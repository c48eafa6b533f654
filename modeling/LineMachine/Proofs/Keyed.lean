import Mathlib.Data.List.Nodup

/-!
# `LineMachine.Proofs.Keyed`: lists that are searched by a key

Registered actions are found by their names, and so are the fields of a record. Where all keys
differ, the search finds the one element with the key, wherever it stands.

* `find?_key_eq_some_iff`: what is found is the element with the key.
* `find?_key_perm`: the order of the list plays no part.
-/

set_option autoImplicit false

namespace LineMachine

variable {β : Type} {key : β → String} {l l' : List β}

/-- Where all keys differ, a key finds the one element that has it. The search takes the first
one, and `hnodup` says that there is no second; `find?_key_perm` rests on this. -/
theorem find?_key_eq_some_iff (hnodup : (l.map key).Nodup) {name : String} {x : β} :
    (l.find? fun y => key y = name) = some x ↔ x ∈ l ∧ key x = name := by
  induction l with
  | nil => simp
  | cons first rest ih =>
    obtain ⟨hfirst, hrest⟩ := List.nodup_cons.mp hnodup
    by_cases hkey : key first = name
    · -- No other element has this key, so `x` is the first one or has another key.
      have hother : x ∈ rest → key x ≠ name := fun hx heq =>
        hfirst (hkey.trans heq.symm ▸ List.mem_map_of_mem hx)
      rw [List.find?_cons_of_pos (by simpa using hkey), Option.some.injEq, List.mem_cons]
      constructor
      · rintro rfl
        exact ⟨.inl rfl, hkey⟩
      · rintro ⟨rfl | hx, heq⟩
        · rfl
        · exact absurd heq (hother hx)
    · rw [List.find?_cons_of_neg (by simpa using hkey), ih hrest, List.mem_cons]
      constructor
      · rintro ⟨hx, heq⟩
        exact ⟨.inr hx, heq⟩
      · rintro ⟨rfl | hx, heq⟩
        · exact absurd heq hkey
        · exact ⟨hx, heq⟩

/-- Where all keys differ, the order of the list does not matter to a search.
`TableBuilder.Rearranges` uses this for actions that are registered in another order. -/
theorem find?_key_perm (hperm : l'.Perm l) (hnodup : (l.map key).Nodup) (name : String) :
    (l'.find? fun y => key y = name) = l.find? fun y => key y = name := by
  have hnodup' : (l'.map key).Nodup := (hperm.map key).nodup_iff.mpr hnodup
  apply Option.ext
  intro x
  rw [find?_key_eq_some_iff hnodup', find?_key_eq_some_iff hnodup, hperm.mem_iff]

end LineMachine
