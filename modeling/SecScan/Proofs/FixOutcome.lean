import SecScan.Proofs.LineSplit

/-!
What fixing one line can do to a text. A fix that goes ahead either rewrites the line, puts a
review marker above it, or is refused and leaves the text as it was; a fix whose line is gone or
no longer reads as expected is refused as stale. These inversion lemmas are all that later
proofs use of `applyAt`.
-/

namespace SecScan.FixResult

/-- Whether a result was refused because its line is gone or has changed. -/
def stale (r : FixResult) : Bool := r.reason.any fun reason => reason.startsWith "stale"

end SecScan.FixResult

namespace SecScan.Proofs.FixOutcome

open SecScan.Scan SecScan.Fix SecScan.Proofs.LineSplit

/-- The language a finding's fix is checked against: its own, or the neutral rules. -/
def fixLanguage (f : Finding) : String := if f.language.isEmpty then "generic" else f.language

/-- Where a line that passed the gate came from: the rule's own fix, checked against the rule,
or a usable suggestion fitted to the line, checked against every rule of the language. -/
inductive Proposal (f : Finding) (suggestion : Option String) (original : String) :
    FixSource → String → Prop
  | rule {rule : Rule} {line : String} (found : Catalog.lookup f.ruleId = some rule)
      (fixed : Gate.ruleFixFor f.ruleId original = some line)
      (passed : Gate.rejection [rule] original line = none) :
      Proposal f suggestion original .rule line
  | ai {s : String} {predicates : List Rule} (given : suggestion = some s)
      (usable : Gate.isUsableFix suggestion (fixLanguage f) = true)
      (covers : ∀ rule ∈ Catalog.rulesFor (fixLanguage f), rule ∈ predicates)
      (passed : Gate.rejection predicates original (reindent original s) = none) :
      Proposal f suggestion original .ai (reindent original s)

theorem Proposal.ne_marker {f : Finding} {suggestion : Option String} {original : String}
    {source : FixSource} {line : String} (proposal : Proposal f suggestion original source line) :
    source ≠ .marker := by
  cases proposal <;> decide

/-- The three things a fix at line `i` of `text` can do, given the suggestion it was offered. -/
inductive Outcome (f : Finding) (suggestion : Option String) (text : String) (i : Nat)
    (original : String) : FixResult → Prop
  | rewritten {r : FixResult} {source : FixSource} {line : String} (success : r.success = true)
      (sourceIs : r.source = some source) (proposal : Proposal f suggestion original source line)
      (fixedLine : r.fixedLine = some line)
      (code : r.fixedCode = joinLines ((splitLines text).set i line)) :
      Outcome f suggestion text i original r
  | marked {r : FixResult} (notFixed : r.success = false) (source : r.source = some .marker)
      (fixedLine : r.fixedLine = some (markerLine f original (fixLanguage f)))
      (code : r.fixedCode =
        joinLines ((splitLines text).insertIdx i (markerLine f original (fixLanguage f)))) :
      Outcome f suggestion text i original r
  | refused {r : FixResult} (notFixed : r.success = false) (source : r.source ≠ some .marker)
      (code : r.fixedCode = text) : Outcome f suggestion text i original r

/-- A rewritten line never counts as a marker. -/
theorem Outcome.rewritten_ne_marker {f : Finding} {suggestion : Option String} {original : String}
    {r : FixResult} {source : FixSource} {line : String}
    (sourceIs : r.source = some source) (proposal : Proposal f suggestion original source line) :
    r.source ≠ some .marker := by
  rw [sourceIs]
  exact fun same => proposal.ne_marker (Option.some.inj same)

section

variable {f : Finding} {suggestion : Option String} {text : String} {i : Nat} {original : String}

@[simp] theorem failed_findingId (reason original : String) :
    (failed f text reason original).1.findingId = f.id := rfl

@[simp] theorem failed_reason (reason original : String) :
    (failed f text reason original).1.reason = some reason := rfl

theorem failed_outcome (reason original' : String) :
    Outcome f suggestion text i original (failed f text reason original').1 :=
  .refused rfl (by simp [failed]) rfl

/-- The gate's reasons are never about a stale line. -/
theorem rejection_not_stale {predicates : List Rule} {original proposed reason : String}
    (rejected : Gate.rejection predicates original proposed = some reason) :
    reason.startsWith "stale" = false := by
  unfold Gate.rejection at rejected
  split at rejected
  · cases rejected; simp
  · split at rejected
    · cases rejected; simp
    · split at rejected
      · cases rejected; simp
      · cases rejected

/-- A line that passed the gate has no line that one of the gate's rules flags. -/
theorem flags_of_rejection_none {predicates : List Rule} {original proposed : String}
    (passed : Gate.rejection predicates original proposed = none) :
    ∀ rule ∈ predicates, ∀ piece ∈ splitLines proposed, rule.flags (dropCarriage piece) = false := by
  unfold Gate.rejection at passed
  split at passed
  · cases passed
  · rename_i quiet
    intro rule member piece inProposed
    simp only [Gate.anyFlagged, List.any_eq_true, not_exists, not_and, Bool.not_eq_true] at quiet
    exact quiet rule member piece inProposed

theorem propose_outcome (proposed : String) {source : FixSource} (notMarker : source ≠ .marker)
    (predicates : List Rule) (explanation : String) (confidence : Int)
    (proposal : Gate.rejection predicates original proposed = none →
      Proposal f suggestion original source proposed) :
    Outcome f suggestion text i original
      (propose f text (splitLines text) i original proposed source predicates explanation
        confidence).1 ∧
    (propose f text (splitLines text) i original proposed source predicates explanation
        confidence).1.stale = false ∧
    (propose f text (splitLines text) i original proposed source predicates explanation
        confidence).1.findingId = f.id := by
  unfold propose
  split
  · rename_i reason rejected
    refine ⟨.refused rfl (by simpa using notMarker) rfl, ?_, rfl⟩
    simp [FixResult.stale, failed, rejection_not_stale rejected]
  · rename_i passed
    exact ⟨.rewritten rfl rfl (proposal passed) rfl rfl, rfl, rfl⟩

theorem markAt_outcome :
    Outcome f suggestion text i original
      (applyAt.markAt f (splitLines text) i original (fixLanguage f)).1 ∧
    (applyAt.markAt f (splitLines text) i original (fixLanguage f)).1.stale = false ∧
    (applyAt.markAt f (splitLines text) i original (fixLanguage f)).1.findingId = f.id := by
  refine ⟨.marked rfl rfl rfl rfl, ?_, rfl⟩
  simp [applyAt.markAt, FixResult.stale]

end

/-- The rules a suggestion is checked against include every rule of the language. -/
theorem mem_suggestionPredicates {rules : List Rule} (own : Option Rule) {rule : Rule}
    (member : rule ∈ rules) :
    rule ∈ (match own with
      | some rule => if rules.any (·.id == rule.id) then rules else rules ++ [rule]
      | none => rules) := by
  cases own with
  | none => exact member
  | some own =>
    dsimp only
    split
    · exact member
    · exact List.mem_append_left _ member

section

variable (f : Finding) (text : String) (suggested : Option String) (index : Int)
  (expected : Option String)

/-- The line a fix at `index` reads, or the empty text outside the buffer. -/
def lineAt : String := (splitLines text).getD index.toNat ""

/-- The line read is one line: a piece of the split text, or the empty text. -/
theorem oneLine_lineAt : OneLine (lineAt text index) := by
  unfold lineAt
  rw [List.getD_eq_getElem?_getD]
  cases found : (splitLines text)[index.toNat]? with
  | none => simp [OneLine]
  | some l => exact oneLine_of_mem_splitLines (List.mem_of_getElem? found)

/-- Whether `index` names a line of `text`. -/
def InRange : Prop := 0 ≤ index ∧ index < (splitLines text).length

/-- Whether the line a fix reads is what the caller expects, when it expects anything. -/
def AsExpected : Prop := ∀ e, expected = some e → e = lineAt text index

theorem applyAt_outOfRange (outside : ¬InRange text index) :
    applyAt f text suggested index expected = failed f text "stale: line no longer exists" := by
  unfold InRange at outside
  have gone : index < 0 ∨ index ≥ ((splitLines text).length : Int) := by omega
  simp only [applyAt, gone, if_true]

theorem applyAt_changed (inside : InRange text index) (e : String) (expects : expected = some e)
    (differs : e ≠ lineAt text index) :
    applyAt f text suggested index expected =
      failed f text "stale: line changed since scan" (lineAt text index) := by
  unfold InRange at inside
  have present : ¬(index < 0 ∨ index ≥ ((splitLines text).length : Int)) := by omega
  have changed : (expected.isSome && expected != some (lineAt text index)) = true := by
    simp [expects, differs]
  simp only [applyAt, present, if_false]
  rw [if_pos (by simpa [lineAt] using changed)]
  rfl

/-- Either the line reads as expected, or the caller expected some other text. -/
theorem asExpected_or_changed :
    AsExpected text index expected ∨ ∃ e, expected = some e ∧ e ≠ lineAt text index := by
  cases expected with
  | none => exact .inl fun e absent => by cases absent
  | some e =>
    by_cases same : e = lineAt text index
    · exact .inl fun e' given => by cases given; exact same
    · exact .inr ⟨e, rfl, same⟩

/-- A fix whose line is present and as expected goes ahead, and is not stale. -/
theorem applyAt_current (inside : InRange text index) (expectedOk : AsExpected text index expected) :
    Outcome f (suggested <|> f.suggestedFix) text index.toNat (lineAt text index)
      (applyAt f text suggested index expected).1 ∧
    (applyAt f text suggested index expected).1.stale = false ∧
    (applyAt f text suggested index expected).1.findingId = f.id := by
  unfold InRange at inside
  have present : ¬(index < 0 ∨ index ≥ ((splitLines text).length : Int)) := by omega
  have unchanged : (expected.isSome && expected != some (lineAt text index)) = false := by
    cases expects : expected with
    | none => rfl
    | some e => simp [expectedOk e expects]
  simp only [applyAt, present, if_false]
  rw [if_neg (by simpa [lineAt] using unchanged),
    show (if f.language.isEmpty = true then "generic" else f.language) = fixLanguage f from rfl]
  split
  · rename_i rule proposed found fixed
    exact propose_outcome _ (by decide : FixSource.rule ≠ .marker) _ _ _
      fun passed => .rule found fixed passed
  · split
    · split
      · rename_i s given usable
        exact propose_outcome _ (by decide : FixSource.ai ≠ .marker) _ _ _
          fun passed => .ai given usable (fun _ member => mem_suggestionPredicates _ member) passed
      · exact markAt_outcome
    · exact markAt_outcome

@[simp] theorem applyAt_findingId : (applyAt f text suggested index expected).1.findingId = f.id := by
  by_cases inside : InRange text index
  · rcases asExpected_or_changed text index expected with expectedOk | ⟨e, expects, differs⟩
    · exact (applyAt_current f text suggested index expected inside expectedOk).2.2
    · rw [applyAt_changed f text suggested index expected inside e expects differs]
      rfl
  · rw [applyAt_outOfRange f text suggested index expected inside]
    rfl

/-- A fix that rewrote its line or marked it found the line present and as expected. -/
theorem applyAt_ready
    (acted : (applyAt f text suggested index expected).1.success = true ∨
      (applyAt f text suggested index expected).1.source = some .marker) :
    InRange text index ∧ AsExpected text index expected := by
  by_cases inside : InRange text index
  · rcases asExpected_or_changed text index expected with expectedOk | ⟨e, expects, differs⟩
    · exact ⟨inside, expectedOk⟩
    · rw [applyAt_changed f text suggested index expected inside e expects differs] at acted
      simp [failed, FixResult.success] at acted
  · rw [applyAt_outOfRange f text suggested index expected inside] at acted
    simp [failed, FixResult.success] at acted

theorem applyAt_outcome :
    Outcome f (suggested <|> f.suggestedFix) text index.toNat (lineAt text index)
      (applyAt f text suggested index expected).1 := by
  by_cases inside : InRange text index
  · rcases asExpected_or_changed text index expected with expectedOk | ⟨e, expects, differs⟩
    · exact (applyAt_current f text suggested index expected inside expectedOk).1
    · rw [applyAt_changed f text suggested index expected inside e expects differs]
      exact failed_outcome _ _
  · rw [applyAt_outOfRange f text suggested index expected inside]
    exact failed_outcome _ _

/-- A fix is stale exactly when its line is gone or no longer reads as expected. -/
theorem applyAt_stale_iff :
    (applyAt f text suggested index expected).1.stale = true ↔
      ¬InRange text index ∨ ¬AsExpected text index expected := by
  by_cases inside : InRange text index
  · rcases asExpected_or_changed text index expected with expectedOk | ⟨e, expects, differs⟩
    · simp [inside, expectedOk, (applyAt_current f text suggested index expected inside expectedOk).2.1]
    · rw [applyAt_changed f text suggested index expected inside e expects differs]
      simp only [failed_reason, FixResult.stale, Option.any_some, AsExpected]
      simp [expects, differs]
  · rw [applyAt_outOfRange f text suggested index expected inside]
    simp [FixResult.stale, inside]

end

end SecScan.Proofs.FixOutcome
