import SecScan.Proofs.FixLine
import SecScan.Proofs.PatternEnd
import SecScan.Proofs.Rescan

/-!
Line endings under a fix. Splitting a text at line feeds leaves each line's carriage return on
the line, and a fixed line is written back in its place, so whether a fixed line keeps the
return is up to the line proposed. A rule's fix keeps it: every fix pattern of the catalog ends
its matches on another character (`catalog_fixes_end_before_return`), so a substitution never
reaches the return (`ruleFixFor_keeps_cr`). A suggestion fitted to a line gets a return at its
end when the line has one, and nowhere else (`reindent_endsWith_cr`, `reindent_of_plain`). A
review marker ends with the rule's name in parentheses and never carries one, whatever line it
stands above (`markerLine_endsWith_cr`).
-/

namespace SecScan.Proofs.LineEnding

open SecScan.Text SecScan.Scan SecScan.Fix SecScan.Proofs.FixOutcome SecScan.Proofs.PatternEnd
  SecScan.Proofs.Detect SecScan.Proofs.Rescan

section Ending

/-- A text ends with a carriage return exactly when its last character is one. -/
theorem endsWith_cr_iff {s : String} : s.endsWith "\r" = true ↔ ∃ pre, s.toList = pre ++ ['\r'] := by
  rw [String.endsWith_eq_endsWith_toSlice, String.Slice.endsWith_string_iff]
  simp [List.IsSuffix, eq_comm]

theorem endsWith_cr_of_getLast {s : String} {c : Char} (last : s.toList.getLast? = some c)
    (other : c ≠ '\r') : s.endsWith "\r" = false := by
  cases ends : s.endsWith "\r" with
  | false => rfl
  | true =>
    obtain ⟨pre, chars⟩ := endsWith_cr_iff.mp ends
    rw [chars] at last
    simp only [List.getLast?_append, List.getLast?_singleton, Option.some_or,
      Option.some.injEq] at last
    exact absurd last.symm other

theorem endsWith_cr_append_cr (s : String) : (s ++ "\r").endsWith "\r" = true :=
  endsWith_cr_iff.mpr ⟨s.toList, by simp⟩

end Ending

section RuleFix

/-- A substitution whose pattern ends before a return keeps a line's final carriage return. -/
theorem fixStep_keeps_cr {step : FixStep} (checked : endsBeforeReturn step.pattern = true)
    {line : String} (ends : line.endsWith "\r" = true) : (step.apply line).endsWith "\r" = true := by
  obtain ⟨pre, chars⟩ := endsWith_cr_iff.mp ends
  exact endsWith_cr_iff.mpr (replaceAll_final_cr_of_check checked chars _)

/-- Every fix pattern of the catalog consumes text and ends its matches on a character other
than a carriage return. -/
theorem catalog_fixes_end_before_return :
    ∀ rule ∈ Catalog.allRules, ∀ step ∈ rule.fix, endsBeforeReturn step.pattern = true := by
  decide

/-- The catalog's fix for a line that ends with a carriage return ends with one. -/
theorem ruleFixFor_keeps_cr (ruleId : String) {line fixed : String}
    (ends : line.endsWith "\r" = true) (fixes : Gate.ruleFixFor ruleId line = some fixed) :
    fixed.endsWith "\r" = true :=
  FixLine.ruleFixFor_preserves (·.endsWith "\r" = true)
    (fun rule listed step member _ ends =>
      fixStep_keeps_cr (catalog_fixes_end_before_return rule listed step member) ends)
    ruleId ends fixes

end RuleFix

/-- A review marker ends with a parenthesis, never with a carriage return. -/
theorem markerLine_endsWith_cr (f : Finding) (original language : String) :
    (markerLine f original language).endsWith "\r" = false :=
  endsWith_cr_of_getLast (c := ')') (by simp [markerLine, List.getLast?_append, List.getLast?_cons])
    (by decide)

section Reindent

variable {original : String}

/-- A suggestion fitted to a line that ends with a carriage return ends with one too. -/
theorem reindent_endsWith_cr (ends : original.endsWith "\r" = true) (s : String) :
    (reindent original s).endsWith "\r" = true := by
  unfold reindent
  dsimp only
  split
  · exact endsWith_cr_append_cr _
  · rename_i kept
    simpa [ends] using kept

/-- On a line without a carriage return the suggestion is the line's indent and the
suggestion's own text, with no return added. -/
theorem reindent_of_plain (plain : original.endsWith "\r" = false) (s : String) :
    reindent original s = Gate.indentOf original ++ stripStart (trimBy (· == '\n') s) := by
  simp [reindent, plain]

end Reindent

/-- What a fix does to the end of the line it writes. A fix that is applied ends with a carriage
return when its line does; a suggestion on a line without one is written as given, behind the
line's indent; a review marker never ends with one. -/
theorem apply_line_endings (f : Finding) (text : String) (suggested : Option String) :
    let target := (splitLines text).getD (f.line - 1).toNat ""
    let r := (Fix.apply f text suggested).1
    (r.success = true → target.endsWith "\r" = true →
      ∃ line, r.fixedLine = some line ∧ line.endsWith "\r" = true) ∧
    (r.success = true → r.source = some .ai → target.endsWith "\r" = false →
      ∃ s, (suggested <|> f.suggestedFix) = some s ∧
        r.fixedLine = some (Gate.indentOf target ++ stripStart (trimBy (· == '\n') s))) ∧
    (r.source = some .marker → ∃ marker, r.fixedLine = some marker ∧ marker.endsWith "\r" = false) := by
  dsimp only
  rw [show Fix.apply f text suggested = applyAt f text suggested (f.line - 1) f.sourceLine from rfl,
    show (splitLines text).getD (f.line - 1).toNat "" = lineAt text (f.line - 1) from rfl]
  have outcome := applyAt_outcome f text suggested (f.line - 1) f.sourceLine
  generalize (applyAt f text suggested (f.line - 1) f.sourceLine).1 = r at outcome ⊢
  cases outcome with
  | rewritten success sourceIs proposal fixedLine _ =>
    refine ⟨fun _ ends => ?_, fun _ viaAi plain => ?_, fun viaMarker => ?_⟩
    · -- the rule's fix keeps the return by its patterns, a suggestion has it put back
      cases proposal with
      | rule _ fixed => exact ⟨_, fixedLine, ruleFixFor_keeps_cr f.ruleId ends fixed⟩
      | ai => exact ⟨_, fixedLine, reindent_endsWith_cr ends _⟩
    · cases proposal with
      | rule =>
        rw [sourceIs] at viaAi
        cases viaAi
      | ai given => exact ⟨_, given, fixedLine.trans (congrArg some (reindent_of_plain plain _))⟩
    · exact absurd viaMarker (Outcome.rewritten_ne_marker sourceIs proposal)
  | marked notFixed _ fixedLine =>
    refine ⟨fun success => ?_, fun success => ?_, fun _ => ⟨_, fixedLine, markerLine_endsWith_cr _ _ _⟩⟩
    all_goals
      rw [notFixed] at success
      cases success
  | refused notFixed notMarker =>
    refine ⟨fun success => ?_, fun success => ?_, fun viaMarker => absurd viaMarker notMarker⟩
    all_goals
      rw [notFixed] at success
      cases success

/-- Python's `eval` on a line that ends with a carriage return: the rule's fix keeps it. -/
theorem apply_line_endings_rule_fix :
    let f : Finding :=
      { ruleId := "python:eval", kind := "Code Injection", severity := .critical, line := 1,
        message := "", language := "python" }
    ∃ line, (Fix.apply f "eval(x)\r\nok()").1.fixedLine = some line ∧
      line.endsWith "\r" = true := by
  intro f
  have lines : splitLines "eval(x)\r\nok()" = ["eval(x)\r", "ok()"] := by decide
  have target : ["eval(x)\r", "ok()"].getD (1 - 1 : Int).toNat "" = "eval(x)\r" := rfl
  have fixed : Gate.ruleFixFor "python:eval" "eval(x)\r" = some "ast.literal_eval(x)\r" := by cbv
  -- the rule found is the first Python rule, since rule ids are distinct
  have first : Catalog.pythonRules ≠ [] := by simp [Catalog.pythonRules]
  have evalListed : Catalog.pythonRules.head first ∈ Catalog.allRules :=
    @mem_allRules .python _ (List.head_mem first)
  obtain ⟨rule, found⟩ := Option.isSome_iff_exists.mp
    (by decide +kernel : (Catalog.lookup "python:eval").isSome = true)
  obtain ⟨listed, named⟩ := lookup_sound found
  obtain rfl : rule = Catalog.pythonRules.head first := rule_eq_of_id_eq listed evalListed named
  have quiet : Gate.anyFlagged [Catalog.pythonRules.head first] "ast.literal_eval(x)\r" = false := by
    cbv
  have passed :
      Gate.rejection [Catalog.pythonRules.head first] "eval(x)\r" "ast.literal_eval(x)\r" = none := by
    rw [Gate.rejection, quiet]
    decide
  have success : (Fix.apply f "eval(x)\r\nok()").1.success = true := by
    simp only [f, Fix.apply, applyAt, lines, found]
    rw [if_neg (by decide), if_neg (by decide), target, fixed]
    simp only [propose, passed]
    rfl
  have ends : ((splitLines "eval(x)\r\nok()").getD (f.line - 1).toNat "").endsWith "\r" = true := by
    rw [lines]
    exact endsWith_cr_iff.mpr ⟨"eval(x)".toList, by decide⟩
  exact (apply_line_endings f "eval(x)\r\nok()" none).1 success ends

/-- A finding with no fix on the first line of a text with carriage returns: the marker put
above the line ends without the return the line ends with. -/
theorem marker_drops_carriage_return :
    let f : Finding :=
      { ruleId := "external:finding", kind := "Issue", severity := .medium, line := 1, message := "" }
    let r := (Fix.apply f "run(x)\r\nok()").1
    (splitLines "run(x)\r\nok()").getD 0 "" = "run(x)\r" ∧ r.source = some .marker ∧
      ∃ marker, r.fixedLine = some marker ∧ marker.endsWith "\r" = false := by
  intro f r
  have lines : splitLines "run(x)\r\nok()" = ["run(x)\r", "ok()"] := by decide
  have unlisted : Catalog.lookup f.ruleId = none := by decide +kernel
  have marked : r = (applyAt.markAt f ["run(x)\r", "ok()"] 0 "run(x)\r" "generic").1 := by
    simp only [r, f, Fix.apply, applyAt, lines, unlisted]
    rfl
  refine ⟨by decide, by rw [marked]; rfl, _, by rw [marked]; rfl, markerLine_endsWith_cr _ _ _⟩

end SecScan.Proofs.LineEnding
