import SecScan.Proofs.Rescan
import SecScan.Proofs.Runs

/-!
Fixing one finding through the pipeline. The pipeline settles on a language first: the one it is
given, else the finding's, else the neutral one. When the finding's line is on the text and has
no rule fix, it keeps the finding's own suggestion if that is usable in this language and asks
the service for a fresh one otherwise; then it hands the finding, given the language when it had
none, to the applier (`fix_run`). The applier checks a suggestion against the finding's own
language, so the two checks agree when the pipeline's language is the finding's: then a usable
suggestion of the finding's own is applied without a call. Either way the pipeline makes at most
one call (`fix_prefers_usable_suggestion`). A language given that differs from the finding's own
can make the pipeline ask for a fresh suggestion in place of one the applier would take
(`fix_asks_despite_usable_suggestion`).
-/

namespace SecScan.Proofs.PipelineFix

open SecScan.Pipeline SecScan.Analysis SecScan.Proofs.Runs SecScan.Proofs.Rescan
open SecScan.Proofs.Needles SecScan.Text

/-- The finding a fix hands to the applier: given the fix's language when it has none. -/
def defaulted (language : Option String) (f : Finding) : Finding :=
  if f.language.isEmpty then { f with language := fixLanguage language f } else f

section Defaulted

variable (language : Option String) (f : Finding)

@[simp] theorem defaulted_line : (defaulted language f).line = f.line := by
  unfold defaulted; split <;> rfl

@[simp] theorem defaulted_ruleId : (defaulted language f).ruleId = f.ruleId := by
  unfold defaulted; split <;> rfl

@[simp] theorem defaulted_suggestedFix : (defaulted language f).suggestedFix = f.suggestedFix := by
  unfold defaulted; split <;> rfl

/-- The fix's language is a catalog name, never empty. -/
theorem fixLanguage_ne_empty : (fixLanguage language f).isEmpty = false := by
  have named : ∀ l : Language, l.name.isEmpty = false := by
    intro l
    cases l <;> simp [Language.name]
  unfold fixLanguage
  exact named _

/-- The language the applier checks against: the finding's own, or the fix's when it has
none. -/
theorem appliedLanguage :
    FixOutcome.fixLanguage (defaulted language f) =
      if f.language.isEmpty then fixLanguage language f else f.language := by
  unfold defaulted FixOutcome.fixLanguage
  by_cases none : f.language.isEmpty
  · simp [none, fixLanguage_ne_empty]
  · simp [none]

/-- Where the language given, when given, names the finding's own, or the finding has none,
the pipeline and the applier check suggestions against the same rules. -/
theorem rulesFor_agree
    (agree : ∀ l, language = some l → l ≠ "" → f.language ≠ "" →
      Language.normalize l = Language.normalize f.language) :
    Catalog.rulesFor (fixLanguage language f) =
      Catalog.rulesFor (FixOutcome.fixLanguage (defaulted language f)) := by
  rw [appliedLanguage]
  by_cases none : f.language.isEmpty
  · rw [if_pos none]
  · rw [if_neg none]
    have own : f.language ≠ "" := by simpa using none
    -- the pipeline names the normalized form of the language it settled on
    simp only [Catalog.rulesFor, fixLanguage, normalize_name, none, Bool.false_eq_true, if_false]
    cases language with
    | none => rfl
    | some l =>
      by_cases blank : l.isEmpty
      · simp [Option.filter_some, blank]
      · have given : l ≠ "" := by simpa using blank
        simp [Option.filter_some, blank, agree l rfl given own]

end Defaulted

/-- Whether a suggestion is usable depends on a language only through its rules. -/
theorem isUsableFix_congr {a b : String} (same : Catalog.rulesFor a = Catalog.rulesFor b)
    (suggestion : Option String) : Gate.isUsableFix suggestion a = Gate.isUsableFix suggestion b := by
  unfold Gate.isUsableFix
  rw [same]

/-- Asking the service for a suggestion makes exactly one call. -/
theorem suggestFix_calls (room : Nat) (svc : Service) (f : Finding) (text language : String)
    (calls : List Call) :
    ((suggestFix room (some svc) f text language).run calls).2 =
      calls ++ [⟨fixSystem, fixPrompt f (codeContext (Scan.splitLines text) f.line)
        (targetLine (Scan.splitLines text) f.line) language⟩] := by
  simp only [suggestFix, Service.call, bind, StateT.bind, get, getThe, MonadStateOf.get,
    StateT.get, set, MonadStateOf.set, StateT.set, pure, StateT.pure, StateT.run]
  -- whatever the service answers, reading the answer calls nothing more
  generalize svc.answer _ _ _ = outcome
  cases outcome with
  | text reply =>
    dsimp only
    generalize (extractJson (room - 1) reply).bind _ = read
    cases read <;> rfl
  | _ => rfl

/-- Without a service, asking makes no call. -/
theorem suggestFix_none_calls (room : Nat) (f : Finding) (text language : String)
    (calls : List Call) : ((suggestFix room none f text language).run calls).2 = calls := rfl

/-- What a pipeline fix does, read as the choice it makes. -/
theorem fix_run (room : Nat) (svc : Option Service) (f : Finding) (text : String)
    (language : Option String) (s : Session) :
    (fix room svc f text language).run s =
      if wantsSuggestion f (Scan.splitLines text) then
        if Gate.isUsableFix f.suggestedFix (fixLanguage language f) then
          .ok (Fix.apply (defaulted language f) text f.suggestedFix, s)
        else
          let asked :=
            (suggestFix (room - 1) svc (defaulted language f) text (fixLanguage language f)).run
              s.calls
          .ok (Fix.apply asked.1.2 text asked.1.1, { s with calls := asked.2 })
      else .ok (Fix.apply (defaulted language f) text none, s) := by
  have wants : wantsSuggestion (defaulted language f) (Scan.splitLines text) =
      wantsSuggestion f (Scan.splitLines text) := by
    simp only [wantsSuggestion, defaulted_line, defaulted_ruleId]
  simp only [fix]
  rw [show (if f.language.isEmpty = true then { f with language := fixLanguage language f } else f) =
    defaulted language f from rfl]
  simp only [wants, defaulted_suggestedFix]
  split
  · split
    · rfl
    · rfl
  · rfl

/-- A pipeline fix returns, draws no id and makes at most one call. When the finding's line is on
the text with no rule fix, and the language given, if any, names the finding's own or the finding
has none, a suggestion of the finding's own that the applier takes is applied as it is, with no
call. -/
theorem fix_prefers_usable_suggestion (room : Nat) (svc : Option Service) (f : Finding)
    (text : String) (language : Option String) (s : Session) :
    let lines := Scan.splitLines text
    (∃ out s', (fix room svc f text language).run s = .ok (out, s') ∧ s'.ids = s.ids ∧
      ∃ asked, s'.calls = s.calls ++ asked ∧ asked.length ≤ 1) ∧
    (0 < f.line → f.line ≤ lines.length →
      Gate.ruleFixFor f.ruleId (lines.getD (f.line - 1).toNat "") = none →
      (∀ l, language = some l → l ≠ "" → f.language ≠ "" →
        Language.normalize l = Language.normalize f.language) →
      Gate.isUsableFix f.suggestedFix (FixOutcome.fixLanguage (defaulted language f)) = true →
      (fix room svc f text language).run s =
        .ok (Fix.apply (defaulted language f) text f.suggestedFix, s)) := by
  intro lines
  refine ⟨?_, fun positive inside noRuleFix agree usable => ?_⟩
  · -- the only call is the one made to ask for a fresh suggestion
    rw [fix_run]
    split
    · split
      · exact ⟨_, s, rfl, rfl, [], by simp, by simp⟩
      · cases svc with
        | none => exact ⟨_, _, rfl, rfl, [], by simp [suggestFix_none_calls], by simp⟩
        | some svc => exact ⟨_, _, rfl, rfl, _, suggestFix_calls _ _ _ _ _ _, by simp⟩
    · exact ⟨_, s, rfl, rfl, [], by simp, by simp⟩
  · have wants : wantsSuggestion f lines = true := by
      simp only [wantsSuggestion, noRuleFix, Option.isNone_none, Bool.and_true, Bool.and_eq_true,
        decide_eq_true_eq]
      exact ⟨positive, inside⟩
    rw [fix_run, if_pos wants, isUsableFix_congr (rulesFor_agree language f agree), if_pos usable]

section Checks

variable {s language : String}

/-- A suggestion of a usable form in which no rule of the language can occur is usable. -/
theorem isUsableFix_of_needles
    (form : (!(strip s).isEmpty && !Gate.hasFence (strip s).toList &&
      (Gate.proseStart.matchStart (strip s)).isNone &&
      (strip s).toList.any Gate.codeChars.contains) = true)
    (absent : ((Catalog.rulesFor language).all fun rule => (patternNeedles rule.detect).any fun n =>
      (Scan.splitLines (strip s)).all fun l => !fitsIn n (Scan.dropCarriage l).toList) = true) :
    Gate.isUsableFix (some s) language = true := by
  have quiet : Gate.anyFlagged (Catalog.rulesFor language) (strip s) = false := by
    rw [Gate.anyFlagged, List.any_eq_false]
    intro rule member
    obtain ⟨n, listed, missing⟩ := List.any_eq_true.mp (List.all_eq_true.mp absent rule member)
    rw [Bool.not_eq_true, List.any_eq_false]
    intro l inText
    have nowhere : fitsIn n (Scan.dropCarriage l).toList = false := by
      simpa using List.all_eq_true.mp missing l inText
    rw [Rule.flags, occursIn_eq_false listed nowhere]
    decide
  simp only [Gate.isUsableFix, quiet, Bool.not_false, Bool.and_true]
  exact form

/-- A suggestion with a line that a rule of the language flags is not usable. -/
theorem isUsableFix_of_flagged {rule : Rule} (member : rule ∈ Catalog.rulesFor language)
    {line : String} (inText : line ∈ Scan.splitLines (strip s))
    (flags : rule.flags (Scan.dropCarriage line) = true) :
    Gate.isUsableFix (some s) language = false := by
  have flagged : Gate.anyFlagged (Catalog.rulesFor language) (strip s) = true :=
    List.any_eq_true.mpr ⟨rule, member, List.any_eq_true.mpr ⟨line, inText, flags⟩⟩
  simp [Gate.isUsableFix, flagged]

end Checks

/-- A Python finding fixed with `py` given as the language: the alias names the finding's own
language, and its own usable suggestion is applied without a call. -/
theorem fix_keeps_own_suggestion :
    let svc : Service := ⟨"scripted", fun _ _ _ => .failed "offline"⟩
    let f : Finding :=
      { ruleId := "external:finding", kind := "Issue", severity := .medium, line := 1, message := ""
        language := "python", suggestedFix := some "x = compute(y)" }
    (fix loopRoom (some svc) f "run(x)" (some "py")).run {} =
      .ok (Fix.apply f "run(x)" (some "x = compute(y)"), {}) := by
  intro svc f
  have single : Scan.splitLines "run(x)" = ["run(x)"] := by decide
  have unlisted : Catalog.lookup f.ruleId = none := by decide +kernel
  have own : defaulted (some "py") f = f := by simp [defaulted, f]
  have python : FixOutcome.fixLanguage f = "python" := by simp [FixOutcome.fixLanguage, f]
  have stripped : strip "x = compute(y)" = "x = compute(y)" := by cbv
  have shortName : Language.normalize "py" = Language.normalize "python" := by decide +kernel
  have kept := (fix_prefers_usable_suggestion loopRoom (some svc) f "run(x)" (some "py") {}).2
    (by decide) (by rw [single]; decide) (by rw [Gate.ruleFixFor, unlisted])
    (fun l given _ _ => by cases given; exact shortName)
    (by
      rw [own, python]
      exact isUsableFix_of_needles (by rw [stripped]; cbv) (by rw [stripped]; decide +kernel))
  rwa [own] at kept

/-- A finding scanned as Python, with a suggestion of its own that Python's rules let through,
fixed with JavaScript given as the language: the `innerHTML` sink is flagged in JavaScript, so
the pipeline asks the service for a fresh suggestion. -/
theorem fix_asks_despite_usable_suggestion :
    let svc : Service := ⟨"scripted", fun _ _ _ => .failed "offline"⟩
    let f : Finding :=
      { ruleId := "external:finding", kind := "Issue", severity := .medium, line := 1, message := ""
        language := "python", suggestedFix := some "el.innerHTML = x" }
    let lines := Scan.splitLines "run(x)"
    0 < f.line ∧ f.line ≤ lines.length ∧ Gate.ruleFixFor f.ruleId (lines.getD 0 "") = none ∧
    Gate.isUsableFix f.suggestedFix (FixOutcome.fixLanguage (defaulted (some "javascript") f)) =
      true ∧
    ∃ out s', (fix loopRoom (some svc) f "run(x)" (some "javascript")).run {} = .ok (out, s') ∧
      s'.calls.length = 1 := by
  intro svc f lines
  have single : lines = ["run(x)"] := by decide
  have unlisted : Catalog.lookup f.ruleId = none := by decide +kernel
  have noRuleFix : Gate.ruleFixFor f.ruleId (lines.getD 0 "") = none := by
    rw [Gate.ruleFixFor, unlisted]
  have stripped : strip "el.innerHTML = x" = "el.innerHTML = x" := by cbv
  have own : FixOutcome.fixLanguage (defaulted (some "javascript") f) = "python" := by
    simp [defaulted, FixOutcome.fixLanguage, f]
  -- no Python rule can occur in the suggestion
  have usable : Gate.isUsableFix f.suggestedFix "python" = true :=
    isUsableFix_of_needles (by rw [stripped]; cbv) (by rw [stripped]; decide +kernel)
  have javascript : Language.normalize "javascript" = .javascript := normalize_name .javascript
  have given : fixLanguage (some "javascript") f = "javascript" := by
    simp only [fixLanguage, Option.filter_some]
    rw [if_pos (by decide), Option.getD_some, javascript]
    rfl
  -- the third JavaScript rule flags the `innerHTML` assignment
  have member : (Catalog.scriptRules "javascript")[2] ∈ Catalog.rulesFor "javascript" := by
    rw [Catalog.rulesFor, javascript]
    exact List.getElem_mem _
  have inText : "el.innerHTML = x" ∈ Scan.splitLines (strip "el.innerHTML = x") := by
    rw [stripped]
    decide
  have refused : Gate.isUsableFix f.suggestedFix "javascript" = false :=
    isUsableFix_of_flagged member inText (by cbv)
  have wants : wantsSuggestion f (Scan.splitLines "run(x)") = true := by
    rw [show Scan.splitLines "run(x)" = lines from rfl, single]
    simp only [wantsSuggestion]
    rw [show (["run(x)"].getD (f.line - 1).toNat "") = lines.getD 0 "" by rw [single]; rfl, noRuleFix]
    decide
  refine ⟨by decide, by rw [single]; decide, noRuleFix, by rw [own]; exact usable, ?_⟩
  rw [fix_run, if_pos wants, given, if_neg (by rw [refused]; decide)]
  exact ⟨_, _, rfl, by rw [suggestFix_calls]; rfl⟩

end SecScan.Proofs.PipelineFix
