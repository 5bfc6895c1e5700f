import SecScan.Proofs.LineSplit

/-!
What a scan reports. A finding of `detect` comes from one line of the text and one rule of the
language: it names the rule, carries the line as it was scanned and its number, and the rule
flags that line less its carriage return (`mem_detect`, `ruleFinding_eq_some`). Rule ids and
weakness titles in the catalog are single lines, so no finding's type or rule id holds a line
feed.
-/

namespace SecScan.Proofs.Detect

open SecScan.Scan SecScan.Proofs.LineSplit

theorem mem_allRules {language : Language} {rule : Rule} (member : rule ∈ language.rules) :
    rule ∈ Catalog.allRules := by
  have listed : language ∈ Language.all := by cases language <;> decide
  exact List.mem_flatMap.mpr ⟨language, listed, member⟩

/-- Every rule of the catalog has a one-line id and a one-line title. -/
theorem catalog_names_oneLine :
    ∀ rule ∈ Catalog.allRules, OneLine rule.id ∧ OneLine rule.weakness.title := by
  -- checked on the bytes, which the kernel reads far faster than decoded characters
  have checked : (Catalog.allRules.all fun rule =>
      !rule.id.toByteArray.data.toList.contains 10 &&
        !rule.weakness.title.toByteArray.data.toList.contains 10) = true := by
    decide +kernel
  intro rule member
  have both := List.all_eq_true.mp checked rule member
  simp only [Bool.and_eq_true, Bool.not_eq_eq_eq_not, Bool.not_true] at both
  exact ⟨oneLine_of_bytes both.1, oneLine_of_bytes both.2⟩

/-- A rule reports a line exactly when it flags the line less its carriage return. -/
theorem ruleFinding_isSome (language : Language) (fileName : String) (lineNo : Nat)
    (raw : String) (rule : Rule) :
    (ruleFinding language fileName lineNo raw rule).isSome = rule.flags (dropCarriage raw) := by
  simp [ruleFinding, Rule.flags, SecScan.Regex.Pattern.occursIn]

theorem ruleFinding_eq_some {language : Language} {fileName : String} {lineNo : Nat}
    {raw : String} {rule : Rule} {f : Finding}
    (found : ruleFinding language fileName lineNo raw rule = some f) :
    f.ruleId = rule.id ∧ f.kind = rule.weakness.title ∧ f.line = lineNo ∧
      f.sourceLine = some raw ∧ f.language = language.name ∧ f.fileName = fileName ∧
      f.suggestedFix = none := by
  simp only [ruleFinding, Option.map_eq_some_iff] at found
  obtain ⟨m, -, rfl⟩ := found
  exact ⟨rfl, rfl, rfl, rfl, rfl, rfl, rfl⟩

/-- A finding of a scan comes from one line and one rule of the language. -/
theorem mem_detect {text language fileName : String} {f : Finding}
    (member : f ∈ detect text language fileName) :
    ∃ i, ∃ inside : i < (splitLines text).length, ∃ rule ∈ (Language.normalize language).rules,
      ruleFinding (Language.normalize language) fileName (i + 1) (splitLines text)[i] rule =
        some f := by
  unfold detect at member
  split at member
  · cases member
  · obtain ⟨⟨raw, i⟩, numbered, onLine⟩ := List.mem_flatMap.mp member
    obtain ⟨inside, isLine⟩ := List.mem_zipIdx' numbered
    obtain ⟨rule, ruleMember, found⟩ := List.mem_filterMap.mp onLine
    exact ⟨i, inside, rule, ruleMember, isLine ▸ found⟩

/-- A finding of a scan sits on a line of the text, carries that line as scanned, has no
suggested fix, and no line feed in its type or rule id. -/
theorem detect_finding {text language fileName : String} {f : Finding}
    (member : f ∈ detect text language fileName) :
    ∃ i, ∃ inside : i < (splitLines text).length,
      f.line = i + 1 ∧ f.sourceLine = some (splitLines text)[i] ∧ f.suggestedFix = none ∧
      OneLine f.kind ∧ OneLine f.ruleId := by
  obtain ⟨i, inside, rule, ruleMember, found⟩ := mem_detect member
  obtain ⟨named, titled, numbered, scanned, -, -, unsuggested⟩ := ruleFinding_eq_some found
  obtain ⟨idLine, titleLine⟩ := catalog_names_oneLine rule (mem_allRules ruleMember)
  refine ⟨i, inside, by rw [numbered]; rfl, scanned, unsuggested, ?_, ?_⟩
  · rw [titled]
    exact titleLine
  · rw [named]
    exact idLine

end SecScan.Proofs.Detect
