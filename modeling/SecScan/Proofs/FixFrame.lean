import SecScan.Proofs.FixOutcome

/-!
What fixing one finding changes. A fix ends in one of three places: a stale failure, a review
marker put above the line, or a proposed line that the gate then passes or refuses
(`applyAt_leaf`). Read off each of them, a fix rewrites its line and nothing else, puts its
marker above the line and moves the rest down by one, or hands the text back as it was; the
finding it hands back differs from the one given only in its status and, when the gate refused
the proposed line, in the fix it records as attempted (`Effect`, `apply_touches_only_target`).
-/

namespace SecScan.Proofs.FixFrame

open SecScan.Scan SecScan.Fix SecScan.Proofs.LineSplit SecScan.Proofs.FixOutcome

/-- The reasons the gate gives for refusing a proposed line. -/
def gateReasons : List String :=
  ["fix still matches the vulnerable pattern", "fix adds more than one line",
    "fix changes the line length disproportionately"]

theorem rejection_mem_gateReasons {predicates : List Rule} {original proposed reason : String}
    (rejected : Gate.rejection predicates original proposed = some reason) :
    reason ∈ gateReasons := by
  unfold Gate.rejection at rejected
  split at rejected
  · cases rejected; simp [gateReasons]
  · split at rejected
    · cases rejected; simp [gateReasons]
    · split at rejected
      · cases rejected; simp [gateReasons]
      · cases rejected

/-- What a fix at line `i` of `text`, which reads `original` there, did to the text and to its
finding. -/
inductive Effect (f : Finding) (text : String) (i : Nat) (original : String) :
    FixResult × Finding → Prop
  | rewritten {r : FixResult} {line : String} (success : r.success = true)
      (fixedLine : r.fixedLine = some line) (read : r.originalLine = original)
      (source : r.source ≠ some .marker) (code : r.fixedCode = joinLines ((splitLines text).set i line))
      (reason : r.reason = none) :
      Effect f text i original (r, { f with status := .fixed })
  | marked {r : FixResult} {line : String} (notFixed : r.success = false)
      (source : r.source = some .marker) (fixedLine : r.fixedLine = some line)
      (code : r.fixedCode = joinLines ((splitLines text).insertIdx i line))
      (reason : r.reason = some "no applicable fix") :
      Effect f text i original (r, { f with status := .failed })
  | rejected {r : FixResult} {line : String} (notFixed : r.success = false)
      (source : r.source ≠ some .marker) (fixedLine : r.fixedLine = some line)
      (code : r.fixedCode = text) (reason : r.reason.any (· ∈ gateReasons) = true) :
      Effect f text i original (r, { f with status := .failed, attemptedFix := some line })
  | stale {r : FixResult} (notFixed : r.success = false) (source : r.source = none)
      (code : r.fixedCode = text) (reason : r.reason.any (·.startsWith "stale") = true) :
      Effect f text i original (r, { f with status := .failed })

section Leaves

variable {f : Finding} {text : String} {i : Nat} {original : String}

theorem failed_effect {reason original' : String} (stale : reason.startsWith "stale" = true) :
    Effect f text i original (failed f text reason original') :=
  .stale rfl rfl rfl (by simpa using stale)

theorem markAt_effect (language : String) :
    Effect f text i original (applyAt.markAt f (splitLines text) i original language) :=
  .marked rfl rfl rfl rfl rfl

theorem propose_effect (proposed : String) {source : FixSource} (notMarker : source ≠ .marker)
    (predicates : List Rule) (explanation : String) (confidence : Int) :
    Effect f text i original
      (propose f text (splitLines text) i original proposed source predicates explanation
        confidence) := by
  unfold propose
  split
  · rename_i reason rejected
    exact .rejected rfl (by simpa using notMarker) rfl rfl
      (by simpa using rejection_mem_gateReasons rejected)
  · exact .rewritten rfl rfl rfl (by simpa using notMarker) rfl rfl

/-- No reason of the gate speaks of a stale line. -/
theorem not_mem_gateReasons {reason : String} (stale : reason.startsWith "stale" = true) :
    reason ∉ gateReasons := by
  intro listed
  simp only [gateReasons, List.mem_cons, List.not_mem_nil, or_false] at listed
  rcases listed with rfl | rfl | rfl <;> simp at stale

/-- The effect of a fix on the text and the finding, read without its cases. -/
theorem Effect.touches {out : FixResult × Finding} (effect : Effect f text i original out) :
    (out.1.success = true → ∃ line, out.1.fixedLine = some line ∧ out.1.originalLine = original ∧
      out.1.fixedCode = joinLines ((splitLines text).set i line) ∧ out.2.status = .fixed) ∧
    (out.1.source = some .marker → out.1.success = false ∧ ∃ line, out.1.fixedLine = some line ∧
      out.1.fixedCode = joinLines ((splitLines text).insertIdx i line) ∧ out.2.status = .failed) ∧
    (out.1.success = false → out.1.source ≠ some .marker →
      out.1.fixedCode = text ∧ out.2.status = .failed) ∧
    out.2 = { f with
      status := out.2.status
      attemptedFix :=
        if out.1.reason.any (· ∈ gateReasons) then out.1.fixedLine else f.attemptedFix } := by
  cases effect with
  | rewritten success fixedLine read source code reason =>
    refine ⟨fun _ => ⟨_, fixedLine, read, code, rfl⟩, fun marker => absurd marker source,
      fun failed => ?_, ?_⟩
    · simp [success] at failed
    · simp [reason]
  | marked notFixed source fixedLine code reason =>
    refine ⟨fun success => ?_, fun _ => ⟨notFixed, _, fixedLine, code, rfl⟩,
      fun _ other => absurd source other, ?_⟩
    · simp [notFixed] at success
    · simp [reason, gateReasons]
  | rejected notFixed source fixedLine code reason =>
    refine ⟨fun success => ?_, fun marker => absurd marker source,
      fun _ _ => ⟨code, rfl⟩, ?_⟩
    · simp [notFixed] at success
    · simp [reason, fixedLine]
  | stale notFixed source code reason =>
    rename_i r
    refine ⟨fun success => ?_, fun marker => ?_, fun _ _ => ⟨code, rfl⟩, ?_⟩
    · simp [notFixed] at success
    · simp [source] at marker
    · cases named : r.reason with
      | none => simp [named] at reason
      | some given =>
        simp only [named, Option.any_some] at reason
        simp [not_mem_gateReasons reason]

end Leaves

section

variable (f : Finding) (text : String) (suggested : Option String) (index : Int)
  (expected : Option String)

/-- Every fix ends in a stale failure, a marker above its line, or a proposed line. -/
theorem applyAt_leaf :
    (∃ reason original', reason.startsWith "stale" = true ∧
      applyAt f text suggested index expected = failed f text reason original') ∨
    (∃ language, applyAt f text suggested index expected =
      applyAt.markAt f (splitLines text) index.toNat (lineAt text index) language) ∨
    ∃ proposed source predicates explanation confidence, source ≠ .marker ∧
      applyAt f text suggested index expected =
        propose f text (splitLines text) index.toNat (lineAt text index) proposed source predicates
          explanation confidence := by
  by_cases inside : InRange text index
  · rcases asExpected_or_changed text index expected with expectedOk | ⟨e, expects, differs⟩
    · -- the line is there as expected: the rule's fix, a usable suggestion, or a marker
      unfold InRange at inside
      have present : ¬(index < 0 ∨ index ≥ ((splitLines text).length : Int)) := by omega
      have unchanged : (expected.isSome && expected != some (lineAt text index)) = false := by
        cases expects : expected with
        | none => rfl
        | some e => simp [expectedOk e expects]
      simp only [applyAt, present, if_false]
      rw [if_neg (by simpa [lineAt] using unchanged),
        show (if f.language.isEmpty = true then "generic" else f.language) = fixLanguage f from rfl]
      split
      · exact .inr (.inr ⟨_, .rule, _, _, _, by decide, rfl⟩)
      · split
        · split
          · exact .inr (.inr ⟨_, .ai, _, _, _, by decide, rfl⟩)
          · exact .inr (.inl ⟨_, rfl⟩)
        · exact .inr (.inl ⟨_, rfl⟩)
    · rw [applyAt_changed f text suggested index expected inside e expects differs]
      exact .inl ⟨_, _, by simp, rfl⟩
  · rw [applyAt_outOfRange f text suggested index expected inside]
    exact .inl ⟨_, _, by simp, rfl⟩

theorem applyAt_effect :
    Effect f text index.toNat (lineAt text index) (applyAt f text suggested index expected) := by
  rcases applyAt_leaf f text suggested index expected with
    ⟨reason, original', stale, leaf⟩ | ⟨language, leaf⟩ |
      ⟨proposed, source, predicates, explanation, confidence, notMarker, leaf⟩
  · rw [leaf]; exact failed_effect stale
  · rw [leaf]; exact markAt_effect language
  · rw [leaf]; exact propose_effect proposed notMarker predicates explanation confidence

end

section Apply

variable {α : Type}

/-- Setting an item in range puts it between the items before and after it. -/
theorem set_eq_take_drop {l : List α} {i : Nat} (inside : i < l.length) (x : α) :
    l.set i x = l.take i ++ [x] ++ l.drop (i + 1) := by
  rw [List.set_eq_take_append_cons_drop, if_pos inside]
  simp

/-- Inserting at a position up to the length puts the item between the items before it and
those from it on. -/
theorem insertIdx_eq_take_drop {l : List α} {i : Nat} (within : i ≤ l.length) (x : α) :
    l.insertIdx i x = l.take i ++ [x] ++ l.drop i := by
  have front : (l.take i).length = i := List.length_take_of_le within
  calc l.insertIdx i x = (l.take i ++ l.drop i).insertIdx (l.take i).length x := by
        rw [List.take_append_drop, front]
    _ = l.take i ++ [x] ++ l.drop i := by
        rw [insertIdx_append_length]
        simp

/-- Fixing a finding touches only its line. A fix that succeeds replaces the line it read
there, a marker goes above the line, and any other outcome hands the text back as it was; the
finding changes only in its status and, when the gate refused the proposed line, in the fix it
records as attempted, which is then that line. -/
theorem apply_touches_only_target (f : Finding) (text : String) (suggested : Option String) :
    let lines := splitLines text
    let i := f.line - 1
    let result := Fix.apply f text suggested
    (result.1.success = true → ∃ line, result.1.fixedLine = some line ∧ 0 ≤ i ∧
        lines[i.toNat]? = some result.1.originalLine ∧
        result.1.fixedCode = joinLines (lines.take i.toNat ++ [line] ++ lines.drop (i.toNat + 1)) ∧
        result.2.status = .fixed) ∧
    (result.1.source = some .marker → result.1.success = false ∧ ∃ line,
        result.1.fixedLine = some line ∧ 0 ≤ i ∧ i < lines.length ∧
        result.1.fixedCode = joinLines (lines.take i.toNat ++ [line] ++ lines.drop i.toNat) ∧
        result.2.status = .failed) ∧
    (result.1.success = false → result.1.source ≠ some .marker →
        result.1.fixedCode = text ∧ result.2.status = .failed) ∧
    result.2 = { f with
      status := result.2.status
      attemptedFix :=
        if result.1.reason.any (· ∈ gateReasons) then result.1.fixedLine else f.attemptedFix } := by
  dsimp only
  rw [show Fix.apply f text suggested = applyAt f text suggested (f.line - 1) f.sourceLine from rfl]
  obtain ⟨rewrites, marks, refuses, finding⟩ :=
    (applyAt_effect f text suggested (f.line - 1) f.sourceLine).touches
  refine ⟨fun success => ?_, fun marker => ?_, refuses, finding⟩
  · -- a line that was rewritten was there to read
    obtain ⟨⟨low, high⟩, -⟩ :=
      applyAt_ready f text suggested (f.line - 1) f.sourceLine (.inl success)
    obtain ⟨line, fixedLine, read, code, status⟩ := rewrites success
    have inside : (f.line - 1).toNat < (splitLines text).length := by omega
    refine ⟨line, fixedLine, low, ?_, ?_, status⟩
    · rw [read, lineAt, List.getD_eq_getElem?_getD, List.getElem?_eq_getElem inside]
      rfl
    · rw [code, set_eq_take_drop inside]
  · obtain ⟨⟨low, high⟩, -⟩ :=
      applyAt_ready f text suggested (f.line - 1) f.sourceLine (.inr marker)
    obtain ⟨notFixed, line, fixedLine, code, status⟩ := marks marker
    refine ⟨notFixed, line, fixedLine, low, high, ?_, status⟩
    rw [code, insertIdx_eq_take_drop (by omega)]

end Apply

end SecScan.Proofs.FixFrame
