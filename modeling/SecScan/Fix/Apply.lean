import SecScan.Fix.Gate

/-!
Fixing findings in a text. A finding's line is fixed by the rule's own fix when it changes the
line, else by a usable suggestion re-indented to the original line, else a review marker
comment is put above the line. A finding whose line is gone, or differs from the line it was
found on, is stale and leaves the text alone. A proposed line that fails the gate is recorded on
the finding as its attempted fix and leaves the text alone.

Many findings are fixed against one text from the last line up, so that fixing a line never
moves a line still to be fixed; findings on the same line go in their given order, each against
the line as the earlier ones left it.
-/

namespace SecScan

open SecScan.Text

namespace Fix

/-- The text of lines joined by line feeds. -/
def joinLines (lines : List String) : String := "\n".intercalate lines

/-- A result that leaves the text alone, and the finding marked as failed. -/
def failed (f : Finding) (text reason : String) (original : String := "") :
    FixResult × Finding :=
  ({ findingId := f.id, status := .failed, fixedCode := text, originalLine := original
     reason := some reason }, { f with status := .failed })

/-- The review marker for a finding, indented like its line. -/
def markerLine (f : Finding) (original language : String) : String :=
  Gate.indentOf original ++ Gate.commentPrefix language f.fileName ++
    " AISAST: manual review needed for " ++ f.kind ++ " (" ++ f.ruleId ++ ")"

/-- A suggestion as a replacement for a line: line feeds around it are dropped, its own indent
gives way to the line's, and a carriage return ending the line ends it too. -/
def reindent (original suggestion : String) : String :=
  let body := stripStart (trimBy (· == '\n') suggestion)
  let proposed := Gate.indentOf original ++ body
  if original.endsWith "\r" && !proposed.endsWith "\r" then proposed ++ "\r" else proposed

/-- Checks a proposed line and writes it at `i` if it passes. -/
def propose (f : Finding) (text : String) (lines : List String) (i : Nat) (original proposed : String)
    (source : FixSource) (predicates : List Rule) (explanation : String) (confidence : Int) :
    FixResult × Finding :=
  match Gate.rejection predicates original proposed with
  | some reason =>
    let (r, f) := failed { f with attemptedFix := some proposed } text reason original
    ({ r with fixedLine := some proposed, source := some source }, f)
  | none =>
    ({ findingId := f.id, status := .fixed, fixedCode := joinLines (lines.set i proposed)
       originalLine := original, fixedLine := some proposed, source := some source
       explanation := explanation, confidence := confidence
       changes := [⟨f.line, original, proposed, explanation⟩] }, { f with status := .fixed })

/-- Fixes the finding's line at `index` of the text, expecting it to read `expected` if given. -/
def applyAt (f : Finding) (text : String) (suggested : Option String) (index : Int)
    (expected : Option String) : FixResult × Finding :=
  let lines := Scan.splitLines text
  let language := if f.language.isEmpty then "generic" else f.language
  if index < 0 ∨ index ≥ lines.length then failed f text "stale: line no longer exists"
  else
    let i := index.toNat
    let original := lines.getD i ""
    if expected.isSome && expected != some original then
      failed f text "stale: line changed since scan" original
    else
      match Catalog.lookup f.ruleId, Gate.ruleFixFor f.ruleId original with
      | some rule, some proposed =>
        propose f text lines i original proposed .rule [rule] rule.fixExplanation rule.fixConfidence
      | own, _ =>
        let suggestion := suggested <|> f.suggestedFix
        match suggestion with
        | some s =>
          if Gate.isUsableFix suggestion language then
            let rules := Catalog.rulesFor language
            let predicates := match own with
              | some rule => if rules.any (·.id == rule.id) then rules else rules ++ [rule]
              | none => rules
            let explanation := match f.explanation with
              | some e => if e.isEmpty then "Applied suggested fix" else e
              | none => "Applied suggested fix"
            propose f text lines i original (reindent original s) .ai predicates explanation
              f.confidence
          else markAt f lines i original language
        | none => markAt f lines i original language
where
  /-- Puts a review marker above line `i`. -/
  markAt (f : Finding) (lines : List String) (i : Nat) (original language : String) :
      FixResult × Finding :=
    let marker := markerLine f original language
    ({ findingId := f.id, status := .failed, fixedCode := joinLines (lines.insertIdx i marker)
       originalLine := original, fixedLine := some marker, source := some .marker
       explanation := "No automatic fix available; marked for manual review", confidence := 50
       reason := some "no applicable fix", changes := [⟨f.line, "", marker, "manual review marker"⟩] },
     { f with status := .failed })

/-- Fixes one finding in a text: its line is `line - 1`, and it must still read as scanned. -/
def apply (f : Finding) (text : String) (suggested : Option String := none) :
    FixResult × Finding :=
  applyAt f text suggested (f.line - 1) f.sourceLine

/-- The state of a batch between findings. -/
structure Progress where
  current : String
  /-- How many markers went above each line. -/
  inserted : List (Int × Nat) := []
  /-- Each line's text after an earlier fix in the batch. -/
  rewritten : List (Int × String) := []
  /-- Results and updated findings, by position in the batch. -/
  done : List (Nat × FixResult × Finding) := []

/-- Fixes the finding at position `k` of a batch. -/
def Progress.step (suggestions : List (String × String)) (p : Progress) (entry : Finding × Nat) :
    Progress :=
  let (f, k) := entry
  let shift := (p.inserted.lookup f.line).getD 0
  let expected := match p.rewritten.lookup f.line with
    | some t => some t
    | none => f.sourceLine
  let (r, f') := applyAt f p.current (suggestions.lookup f.id) (f.line - 1 + shift) expected
  let done := p.done ++ [(k, r, f')]
  if r.success then
    { p with current := r.fixedCode, done := done
             rewritten := (f.line, r.fixedLine.getD "") :: p.rewritten }
  else if r.source == some .marker then
    { p with current := r.fixedCode, done := done, inserted := (f.line, shift + 1) :: p.inserted }
  else { p with done := done }

/-- Fixes many findings against one text, from the last line up; results come in the order of
the findings. `suggestions` maps finding ids to suggested lines. -/
def applyAll (findings : List Finding) (text : String) (suggestions : List (String × String)) :
    BatchResult × List Finding :=
  let order := findings.zipIdx.mergeSort fun a b => b.1.line ≤ a.1.line
  let p := order.foldl (Progress.step suggestions) { current := text }
  let byPosition := p.done.mergeSort fun a b => a.1 ≤ b.1
  ({ fixedCode := p.current, results := byPosition.map (·.2.1) }, byPosition.map (·.2.2))

end Fix

end SecScan
