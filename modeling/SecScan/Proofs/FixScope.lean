import SecScan.Proofs.FixOutcome

/-!
Where a rule's fix acts, and what the gate lets through. A rule's fix is a row of substitutions,
each with a pattern of its own, which need not be the rule's detect pattern. A substitution leaves
a line in which its pattern does not occur as it was (`FixStep.apply_of_not_occurs`), so a fix
changes a line only where one of its own patterns occurs, whether or not the rule flags the line.
Nor does a fix always remove what the rule flags: the gate makes up for that, and a rule's fix is
written only when the rule flags no line of the result (`applyAt_rule_fix_unflagged`).
-/

namespace SecScan.Proofs.FixScope

open SecScan.Regex SecScan.Scan SecScan.Fix SecScan.Proofs.LineSplit SecScan.Proofs.FixOutcome

section Sweep

variable {t : Subject} {r : Regex}

/-- A search that finds nothing found no match at any position it tried. -/
theorem matchAt_of_searchWithin_none :
    ∀ (count i : Nat), searchWithin t r count i = none →
      ∀ q, i ≤ q → q < i + count → matchAt t r q = none := by
  intro count
  induction count with
  | zero =>
    intro i _ q low high
    omega
  | succ count ih =>
    intro i missing q low high
    simp only [searchWithin] at missing
    split at missing
    · cases missing
    · rename_i absent
      by_cases here : q = i
      · exact here ▸ absent
      · exact ih (i + 1) missing q (by omega) (by omega)

/-- With no match at a position, the sweep's first visit there writes nothing. -/
theorem visit_start (render : Match → String) {p : Nat} (absent : matchAt t r p = none) :
    Sweep.visit t r render {} p = {} := by
  simp [Sweep.visit, absent]

theorem foldl_visit_start (render : Match → String) :
    ∀ positions : List Nat, (∀ p ∈ positions, matchAt t r p = none) →
      positions.foldl (Sweep.visit t r render) {} = {} := by
  intro positions
  induction positions with
  | nil => intro _; rfl
  | cons p rest ih =>
    intro absent
    rw [List.foldl_cons, visit_start render (absent p List.mem_cons_self)]
    exact ih fun q member => absent q (List.mem_cons_of_mem p member)

theorem slice_all (p : Pattern) (s : String) :
    (Subject.ofText p s).slice 0 (Subject.ofText p s).chars.size = s := by
  simp [Subject.slice, Subject.ofText]

/-- Replacing the matches of a pattern that does not occur leaves the text as it was. -/
theorem replaceAll_of_not_occurs {p : Pattern} {s : String} (absent : p.occursIn s = false)
    (render : Match → String) : replaceAll (Subject.ofText p s) p.regex render = s := by
  have none : searchWithin (Subject.ofText p s) p.regex ((Subject.ofText p s).chars.size + 1) 0 =
      none := by
    simpa [Pattern.occursIn, Pattern.search, searchFrom] using absent
  have untouched := foldl_visit_start render (List.range ((Subject.ofText p s).chars.size + 1))
    fun q member => matchAt_of_searchWithin_none _ 0 none q (Nat.zero_le q)
      (by simpa using List.mem_range.mp member)
  unfold replaceAll
  rw [untouched]
  simp [slice_all]

end Sweep

theorem FixStep.apply_of_not_occurs {step : FixStep} {line : String}
    (absent : step.pattern.occursIn line = false) : step.apply line = line :=
  replaceAll_of_not_occurs absent _

theorem foldl_apply_of_not_occurs {line : String} :
    ∀ steps : List FixStep, (∀ step ∈ steps, step.pattern.occursIn line = false) →
      steps.foldl (fun l step => step.apply l) line = line := by
  intro steps
  induction steps with
  | nil => intro _; rfl
  | cons step rest ih =>
    intro absent
    rw [List.foldl_cons, FixStep.apply_of_not_occurs (absent step List.mem_cons_self)]
    exact ih fun other member => absent other (List.mem_cons_of_mem step member)

/-- A rule's fix changes a line only where one of the fix's own patterns occurs. -/
theorem exists_step_of_applyFix {rule : Rule} {s fixed : String}
    (fixedIs : rule.applyFix s = some fixed) (changed : fixed ≠ s) :
    ∃ step ∈ rule.fix, step.pattern.occursIn s = true := by
  apply List.any_eq_true.mp
  cases found : rule.fix.any (fun step => step.pattern.occursIn s) with
  | true => rfl
  | false =>
    have quiet : ∀ step ∈ rule.fix, step.pattern.occursIn s = false := by
      simpa using found
    unfold Rule.applyFix at fixedIs
    split at fixedIs
    · cases fixedIs
    · cases fixedIs
      exact absurd (foldl_apply_of_not_occurs rule.fix quiet) changed

/-- The applier writes a rule's own fix only when the rule flags no line of it. -/
theorem applyAt_rule_fix_unflagged {f : Finding} {text : String} {suggested : Option String}
    {index : Int} {expected : Option String} {rule : Rule} (found : Catalog.lookup f.ruleId = some rule)
    (success : (applyAt f text suggested index expected).1.success = true)
    (fromRule : (applyAt f text suggested index expected).1.source = some .rule) {line : String}
    (written : (applyAt f text suggested index expected).1.fixedLine = some line) :
    ∀ piece ∈ splitLines line, rule.flags (dropCarriage piece) = false := by
  cases applyAt_outcome f text suggested index expected with
  | rewritten _ sourceIs proposal fixedLine _ =>
    rw [fromRule, Option.some.injEq] at sourceIs
    rw [written, Option.some.injEq] at fixedLine
    subst sourceIs fixedLine
    cases proposal with
    | rule named _ passed =>
      rw [found, Option.some.injEq] at named
      subst named
      exact flags_of_rejection_none passed _ List.mem_cons_self
  | marked notFixed => rw [notFixed] at success; cases success
  | refused notFixed => rw [notFixed] at success; cases success

end SecScan.Proofs.FixScope
