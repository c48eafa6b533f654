import LineMachine.Proofs.Builtin.Events
import LineMachine.Proofs.Text.Reader

/-!
# `LineMachine.Proofs.Builtin.GroupText`: the groups of a match stay on its line

What an expression picks out of a line is a part of the line, and the line that an expression
sees has lost its end.

* `Pattern.mem_line_of_mem_groupTexts`: the characters of the groups are characters of the line.
* `Engine.Sound.parseItems_onLines` is the induction over the lines of an input, and
  `TableDefinition.groups_onLines` the result for every table of a definition.
-/

set_option autoImplicit false

namespace LineMachine

/-! ### Parts of a line -/

/-- A part of a text that `Regex.slice` cuts out has no characters but those of the text, wherever
the slots point to. -/
theorem Regex.mem_of_mem_slice {text : List Char} {slots : Regex.Slots} {group : Nat}
    {part : String} (h : Regex.slice text slots group = some part) :
    ∀ c ∈ part.toList, c ∈ text := by
  intro c hc
  unfold slice at h
  split at h
  · cases h
    rw [String.toList_ofList] at hc
    exact List.mem_of_mem_drop (List.mem_of_mem_take hc)
  · cases h

/-- The groups of a match have no characters but those of the line. Only a regular expression has
groups, and for a group that took no part the text is empty. -/
theorem Pattern.mem_line_of_mem_groupTexts {p : Pattern} {line group : String}
    (h : group ∈ p.groupTexts line) : ∀ c ∈ group.toList, c ∈ line.toList := by
  cases p with
  | any => cases h
  | literal text => cases h
  | regex r =>
    rw [groupTexts] at h
    cases hfind : r.find? line with
    | none =>
      rw [hfind] at h
      cases h
    | some m =>
      rw [hfind, Option.elim_some] at h
      obtain ⟨picked, hpicked, rfl⟩ := List.mem_map.mp h
      obtain ⟨slots, -, rfl⟩ := Option.map_eq_some_iff.mp hfind
      obtain ⟨i, -, rfl⟩ := List.mem_map.mp hpicked
      intro c hc
      cases hslice : Regex.slice line.toList slots (i + 1) with
      | none =>
        -- A group that took no part is shown as an empty one.
        rw [hslice] at hc
        cases hc
      | some part =>
        rw [hslice, Option.getD_some] at hc
        exact Regex.mem_of_mem_slice hslice c hc

/-! ### Events -/

/-- No group of a recorded match has a line feed. -/
def Events.OnLines (events : Events) : Prop :=
  ∀ event ∈ events.toList, ∀ group ∈ event.groups, '\n' ∉ group.toList

namespace Engine

variable {e last : Engine Events} {extra : Nat}

/-- A line that has no line feed inside keeps `Events.OnLines`. The event that it adds, if there
is one, has groups of this line by `Pattern.mem_line_of_mem_groupTexts`. -/
theorem Sound.feed_onLines (h : e.Sound) {text : String} {result : Except ParseError StateId}
    (hline : '\n' ∉ (Text.stripTerminator text).toList) (hevents : e.data.OnLines)
    (hfeed : e.feed extra text = some (result, last)) : last.data.OnLines := by
  obtain ⟨front, try', result', w, -, hfeed', hends⟩ := h.feed_endsOn extra text
  have hdata : last.data = w.data := by
    rw [hfeed, Option.some.injEq] at hfeed'
    rw [show last = (e.answer text (result', w)).2 from congrArg Prod.snd hfeed']
    cases result' <;> rfl
  rw [Events.OnLines, hdata, hends.data]
  intro event hevent
  rcases List.mem_append.mp hevent with hold | hnew
  · exact hevents event hold
  · obtain ⟨tr, k, -, -, -, rfl⟩ := Try.event?_eq_some_iff.mp (Option.mem_toList.mp hnew)
    intro group hgroup hmem
    have hhere : try'.line = e.lineOf text := hends.here try' (by simp)
    rw [hhere] at hgroup
    exact hline (Pattern.mem_line_of_mem_groupTexts hgroup _ hmem)

/-- Lines of an input keep `Events.OnLines`. The induction is `Engine.parseItems_induction`: no text
that a line decodes to has a line feed when its end is off. -/
theorem Sound.parseItems_onLines (h : e.Sound) {items : List (Except String (List UInt8))}
    {result : Except ParseError Summary}
    (hitems : ∀ bytes, Except.ok bytes ∈ items → Text.lineFeed ∉ bytes.dropLast)
    (hevents : e.data.OnLines) (hrun : e.parseItems extra items = some (result, last)) :
    last.data.OnLines := by
  revert h hitems hevents
  refine parseItems_induction ?_ ?_ ?_ ?_ ?_ hrun
  · rintro e hend - - hevents
    obtain rfl : e.finish.2 = last := congrArg Prod.snd hend
    rw [data_finish]
    exact hevents
  · rintro e message rest hend - - hevents
    cases hend
    exact hevents
  · rintro e bytes rest - hend - - hevents
    cases hend
    exact hevents
  · -- A line that fails adds no event, but it leaves those from before.
    intro e e' bytes text fault rest hdecode hfeed hend h hitems hevents
    cases hend
    exact h.feed_onLines (Decoding.notMem_stripTerminator_of_decode
      (hitems bytes List.mem_cons_self) hdecode) hevents hfeed
  · intro e e' bytes text next rest hdecode hfeed ih h hitems hevents
    have hline : '\n' ∉ (Text.stripTerminator text).toList :=
      Decoding.notMem_stripTerminator_of_decode (hitems bytes List.mem_cons_self) hdecode
    exact ih (h.of_feed hfeed) (fun raw hraw => hitems raw (List.mem_cons_of_mem _ hraw))
      (h.feed_onLines hline hevents hfeed)

end Engine

open Engine (start) in
/-- No group that a parse of an input records has a line feed. A report of the events puts each on
a line of its own, so that it can be read back (`runText_determines`). -/
theorem TableDefinition.groups_onLines {d : TableDefinition} {fallback : Validation}
    {t : Table Events} {log : List Report} (h : d.build fallback = (.ok t, log))
    {options : ParseOptions} {extra : Nat} {source : Text.Source}
    {result : Except ParseError Summary} {last : Engine Events}
    (hrun : (start t options Events.empty).parseSource extra source = some (result, last)) :
    last.data.OnLines := by
  have hstart : (start t options Events.empty).Sound :=
    Engine.sound_start (standard_of_build h) options Events.empty
  refine hstart.parseItems_onLines (fun bytes => Text.Source.notMem_dropLast) ?_ hrun
  intro event hevent
  cases hevent

end LineMachine
