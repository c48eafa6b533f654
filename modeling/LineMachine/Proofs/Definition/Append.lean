import LineMachine.Proofs.TableBuilder.Continuing

/-!
# `LineMachine.Proofs.Definition.Append`: more rules at the end

Rules that are appended to a definition come after all others, so they can only
take lines that would have had no match. They can still change the numbers of
the states: a destination without rules that gets some is numbered with the
sources, and every number behind it moves.

* `TableDefinition.follows_of_append`: each state keeps its rules in front of the
  new ones, so the new table follows the old one by the names.
* `TableDefinition.repeats_of_append`: a run of the longer definition repeats
  that of the shorter one, or the shorter one ends on a line that it does not
  know.
-/

set_option autoImplicit false

namespace LineMachine

namespace TableDefinition

open Engine (start EndsUnknown Repeats)

/-- The definition with further rules at the end. -/
def append (d : TableDefinition) (more : List RuleDefinition) : TableDefinition :=
  { d with rules := d.rules ++ more }

variable {d : TableDefinition} {more : List RuleDefinition} {fallback : Validation}
  {t t' : Table Events} {log log' : List Report}

/-- The table of the longer definition follows that of the shorter one, loosely, in the sense of
`Table.Follows`. Each state keeps its rules in front, by `TableBuilder.Continues`. -/
theorem follows_of_append (h : d.build fallback = (.ok t, log))
    (h' : (d.append more).build fallback = (.ok t', log')) : t.Follows True t' := by
  obtain ⟨rules, hrules, hbuild⟩ := builder_of_build h
  obtain ⟨rules', hrules', hbuild'⟩ := builder_of_build h'
  -- The rules of the longer definition are those of the shorter one and some more.
  obtain ⟨front, back, rfl, hfront, -⟩ := compileFrom_append hrules'
  rw [hrules] at hfront
  cases hfront
  have hd := TableBuilder.declares_of_build hbuild
  have hd' := TableBuilder.declares_of_build hbuild'
  have hbeginning : ((d.append more).builder (rules ++ back) fallback).beginning =
      (d.builder rules fallback).beginning := by
    obtain ⟨first, rest, -, hfirst, -⟩ := hd.initial
    have hcons : rules = first :: rest := hfirst
    subst hcons
    rfl
  have hcontinues : (d.builder rules fallback).Continues True
      ((d.append more).builder (rules ++ back) fallback) := by
    intro name
    exact ⟨_, List.filter_append _ _, .inl trivial⟩
  exact hcontinues.follows hd hd' (standard_of_build h) (standard_of_build h') (fun _ => rfl)
    (TableBuilder.sameName_initial hd hd' hbeginning)

/-- Appending rules is conservative. A run of the shorter definition ends, over lines of text and
over bytes, and either it ends on a line that a state does not know (`Engine.EndsUnknown`), or the
longer definition gives the same summary or the same error, with the same events. -/
theorem repeats_of_append (h : d.build fallback = (.ok t, log))
    (h' : (d.append more).build fallback = (.ok t', log')) (options : ParseOptions)
    (events : Events) (extra : Nat) :
    (∀ lines : List String,
      EndsUnknown ((start t options events).parse extra lines) ∨
        Repeats ((start t options events).parse extra lines)
          ((start t' options events).parse extra lines)) ∧
    (∀ source : Text.Source,
      EndsUnknown ((start t options events).parseSource extra source) ∨
        Repeats ((start t options events).parseSource extra source)
          ((start t' options events).parseSource extra source)) := by
  have hstart := Engine.alike_start (follows_of_append h h') options events
  constructor
  · intro lines
    exact (hstart.parse_follows extra lines).imp_left And.right
  · intro source
    exact (hstart.parseItems_follows extra source.lines).imp_left And.right

/-- Two destinations without rules. -/
def openEnds : TableDefinition where
  initial := none
  validation := some .lenient
  rules := [⟨"start", some "left", none, some "left", none⟩,
    ⟨"start", some "right", none, some "right", some "push"⟩]

/-- The second destination of `openEnds` gets a rule, so the two change their numbers. A run that
goes there is repeated, with another number and the same name. -/
theorem repeats_of_append_openEnds :
    ∃ t log t' log', openEnds.build .strict = (.ok t, log) ∧
      (openEnds.append [⟨"right", none, none, none, some "emit"⟩]).build .strict = (.ok t', log') ∧
      t.lookup "right" = some ⟨2⟩ ∧ t'.lookup "right" = some ⟨1⟩ ∧
      ((start t ParseOptions.default Events.empty).parse 0 ["right"]).map Prod.fst =
        some (.ok ⟨"right", 1, ["start"], none⟩) ∧
      Repeats ((start t ParseOptions.default Events.empty).parse 0 ["right"])
        ((start t' ParseOptions.default Events.empty).parse 0 ["right"]) := by
  refine ⟨_, _, _, _, rfl, rfl, rfl, rfl, rfl, ?_⟩
  have hruns := (@repeats_of_append openEnds [⟨"right", none, none, none, some "emit"⟩] .strict
    _ _ _ _ rfl rfl ParseOptions.default Events.empty 0).1 ["right"]
  refine hruns.resolve_left ?_
  rintro ⟨r, e, hrun, number, name, text, rfl⟩
  cases congrArg (Option.map Prod.fst) hrun

end TableDefinition

end LineMachine
