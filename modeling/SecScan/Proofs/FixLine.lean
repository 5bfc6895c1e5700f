import SecScan.Proofs.FixOutcome

/-!
A rule's fix keeps a line on one line. A fix rewrites every match of its patterns, and what it
writes is cut from the line itself, literal text of the rule, or an environment variable name
made of letters, digits and underscores. So when the line and the rule's literals hold no line
feed, neither does the fixed line (`oneLine_applyFix`), and the literals of every fix in the
catalog hold none (`oneLine_ruleFixFor`).
-/

namespace SecScan.Proofs.FixLine

open SecScan.Regex SecScan.Proofs.LineSplit

section Sweep

variable {t : Subject} (single : '\n' ∉ t.chars.toList)
include single

theorem oneLine_slice (start stop : Nat) : OneLine (t.slice start stop) := by
  unfold Subject.slice
  rw [oneLine_ofList, Array.toList_extract, List.extract_eq_take_drop]
  exact fun member => single (List.mem_of_mem_drop (List.mem_of_mem_take member))

theorem oneLine_groupText (m : Match) (index : Nat) : OneLine (t.groupText m index) := by
  unfold Subject.groupText
  split
  · exact oneLine_slice single _ _
  · decide

variable {render : Match → String} (renders : ∀ m, OneLine (render m))
include renders

theorem oneLine_emit {sweep : Sweep} (written : OneLine sweep.written) (m : Match) :
    OneLine (sweep.emit t render m).written := by
  simp only [Sweep.emit, oneLine_append]
  exact ⟨⟨written, oneLine_slice single _ _⟩, renders m⟩

/-- Looking for a match at one position writes one line more at most. -/
theorem oneLine_visit (r : Regex) {sweep : Sweep} (written : OneLine sweep.written) (p : Nat) :
    OneLine (Sweep.visit t r render sweep p).written := by
  unfold Sweep.visit
  split
  · exact written
  · dsimp only
    split
    · exact written
    · rename_i m _
      have first := oneLine_emit single renders written m
      split
      · split
        · exact oneLine_emit single renders first _
        · exact first
      · exact first

theorem oneLine_foldl_visit (r : Regex) (positions : List Nat) :
    ∀ sweep : Sweep, OneLine sweep.written →
      OneLine (positions.foldl (Sweep.visit t r render) sweep).written := by
  induction positions with
  | nil =>
    intro sweep written
    exact written
  | cons p rest ih =>
    intro sweep written
    exact ih _ (oneLine_visit single renders r written p)

theorem oneLine_replaceAll (r : Regex) : OneLine (replaceAll t r render) := by
  unfold replaceAll
  rw [oneLine_append]
  exact ⟨oneLine_foldl_visit single renders r _ {} (by decide), oneLine_slice single _ _⟩

end Sweep

section EnvName

/-- Squeezing gaps leaves only letters, digits and underscores. -/
theorem squeezeGaps_nameChar (inGap : Bool) (chars : List Char) :
    ∀ c ∈ Rule.squeezeGaps inGap chars, Rule.isNameChar c = true ∨ c = '_' := by
  induction chars generalizing inGap with
  | nil => simp [Rule.squeezeGaps]
  | cons c rest ih =>
    intro d member
    unfold Rule.squeezeGaps at member
    split at member
    · rcases List.mem_cons.mp member with rfl | later
      · exact .inl ‹_›
      · exact ih false d later
    · split at member
      · exact ih true d member
      · rcases List.mem_cons.mp member with rfl | later
        · exact .inr rfl
        · exact ih true d later

theorem mem_of_mem_trimUnderscores {chars : List Char} {c : Char}
    (member : c ∈ Rule.trimUnderscores chars) : c ∈ chars := by
  unfold Rule.trimUnderscores at member
  rw [List.mem_reverse] at member
  have once := (List.dropWhile_sublist _).subset member
  rw [List.mem_reverse] at once
  exact (List.dropWhile_sublist _).subset once

/-- Upper-casing never makes a line feed. -/
theorem toUpper_ne_newline {c : Char} (notFeed : c ≠ '\n') : c.toUpper ≠ '\n' := by
  unfold Char.toUpper
  split
  · rename_i lower
    intro same
    -- the shift by 32 lands among the upper-case letters, far from the line feed
    have code := congrArg (fun c : Char => c.val.toNat) same
    have low : 97 ≤ c.val.toNat := lower.1
    have bounded : c.val.toNat < 4294967296 := c.val.toNat_lt
    have sameCode : c.toNat = c.val.toNat := rfl
    simp only [UInt32.toNat_add] at code
    simp at code
    omega
  · exact notFeed

theorem oneLine_envName (name : String) : OneLine (Rule.envName name) := by
  unfold Rule.envName
  dsimp only
  split
  · decide
  · rw [oneLine_ofList, List.mem_map]
    rintro ⟨c, member, upper⟩
    have named := squeezeGaps_nameChar false _ c (mem_of_mem_trimUnderscores member)
    have notFeed : c ≠ '\n' := by
      rintro rfl
      simp [Rule.isNameChar] at named
    exact toUpper_ne_newline notFeed upper

end EnvName

/-- The literal texts a rewrite may write besides what it cuts from the line. -/
def literals : Rewrite → List String
  | .template pieces => pieces.filterMap fun
    | .text s => some s
    | .group _ => none
  | .strongDigest => []
  | .envLookup before after => [before, after]
  | .placeholder mark argsOpen argsClose => [mark, argsOpen, argsClose]

section Render

variable {t : Subject} (single : '\n' ∉ t.chars.toList)
include single

/-- A rewrite of a match in a one-line subject writes one line, if its literals are. -/
theorem oneLine_render (rewrite : Rewrite) (plain : ∀ s ∈ literals rewrite, OneLine s)
    (m : Match) : OneLine (rewrite.render t m) := by
  have group := oneLine_groupText single m
  cases rewrite with
  | template pieces =>
    apply oneLine_join
    intro s member
    obtain ⟨piece, inPieces, rfl⟩ := List.mem_map.mp member
    cases piece with
    | text s => exact plain s (List.mem_filterMap.mpr ⟨_, inPieces, rfl⟩)
    | group index => exact group index
  | strongDigest =>
    simp only [Rewrite.render, oneLine_append]
    refine ⟨?_, group 2⟩
    split <;> decide
  | envLookup before after =>
    have plainBefore := plain before (by simp [literals])
    have plainAfter := plain after (by simp [literals])
    simp only [Rewrite.render, oneLine_append]
    exact ⟨⟨⟨⟨group 1, group 2⟩, plainBefore⟩, oneLine_envName _⟩, plainAfter⟩
  | placeholder mark argsOpen argsClose =>
    have plainMark := plain mark (by simp [literals])
    have plainOpen := plain argsOpen (by simp [literals])
    have plainClose := plain argsClose (by simp [literals])
    have space : OneLine " " := by decide
    have comma : OneLine ", " := by decide
    simp only [Rewrite.render]
    split <;> simp only [oneLine_append, group, plainMark, plainOpen, plainClose, space, comma,
      and_self]

end Render

/-- A fix step rewrites a one-line line into one line, if its literals are. -/
theorem oneLine_fixStep (step : FixStep) (plain : ∀ s ∈ literals step.rewrite, OneLine s)
    {line : String} (single : OneLine line) : OneLine (step.apply line) := by
  have subject : '\n' ∉ (Subject.ofText step.pattern line).chars.toList := by
    simpa [Subject.ofText, OneLine] using single
  exact oneLine_replaceAll subject (oneLine_render subject step.rewrite plain) _

section Preserves

variable (P : String → Prop)

/-- A property of lines that each substitution of a fix keeps is kept by the whole fix. -/
theorem applyFix_preserves {rule : Rule} (kept : ∀ step ∈ rule.fix, ∀ l, P l → P (step.apply l))
    {line fixed : String} (holds : P line) (fixes : rule.applyFix line = some fixed) : P fixed := by
  unfold Rule.applyFix at fixes
  split at fixes
  · cases fixes
  · cases fixes
    -- the substitutions run in turn, each from the line the last one left
    have steps : ∀ (steps : List FixStep), (∀ step ∈ steps, ∀ l, P l → P (step.apply l)) →
        ∀ l, P l → P (steps.foldl (fun l step => step.apply l) l) := by
      intro steps
      induction steps with
      | nil =>
        intro _ l holds
        exact holds
      | cons step rest ih =>
        intro keptSteps l holds
        exact ih (fun s member => keptSteps s (List.mem_cons_of_mem _ member)) _
          (keptSteps step List.mem_cons_self l holds)
    exact steps rule.fix kept line holds

/-- A property of lines that every substitution of the catalog keeps is kept by the catalog's
fix for any rule id. -/
theorem ruleFixFor_preserves
    (kept : ∀ rule ∈ Catalog.allRules, ∀ step ∈ rule.fix, ∀ l, P l → P (step.apply l))
    (ruleId : String) {line fixed : String} (holds : P line)
    (fixes : Gate.ruleFixFor ruleId line = some fixed) : P fixed := by
  unfold Gate.ruleFixFor at fixes
  split at fixes
  · rename_i rule found
    split at fixes
    · rename_i candidate fixedBy
      split at fixes
      · cases fixes
      · cases fixes
        exact applyFix_preserves P (kept rule (List.mem_of_find?_eq_some found)) holds fixedBy
    · cases fixes
  · cases fixes

end Preserves

/-- A rule whose fixes have one-line literals fixes a one-line line into one line. -/
theorem oneLine_applyFix (rule : Rule)
    (plain : ∀ step ∈ rule.fix, ∀ s ∈ literals step.rewrite, OneLine s) {line fixed : String}
    (single : OneLine line) (fixes : rule.applyFix line = some fixed) : OneLine fixed :=
  applyFix_preserves OneLine (fun step member _ single => oneLine_fixStep step (plain step member) single)
    single fixes

/-- Every literal of every fix in the catalog is one line. -/
theorem catalog_literals_oneLine :
    ∀ rule ∈ Catalog.allRules, ∀ step ∈ rule.fix, ∀ s ∈ literals step.rewrite, OneLine s := by
  decide

/-- The catalog's fix for a one-line line is one line. -/
theorem oneLine_ruleFixFor (ruleId : String) {line fixed : String} (single : OneLine line)
    (fixes : Gate.ruleFixFor ruleId line = some fixed) : OneLine fixed :=
  ruleFixFor_preserves OneLine
    (fun rule listed step member _ single =>
      oneLine_fixStep step (catalog_literals_oneLine rule listed step member) single)
    ruleId single fixes

open SecScan.Fix SecScan.Proofs.FixOutcome in
/-- With no suggestion, a fix that goes ahead writes the rule's fix, which is one line. -/
theorem applyAt_fixedLine_oneLine {f : Finding} {text : String} {suggested : Option String}
    {index : Int} {expected : Option String} (unsuggested : (suggested <|> f.suggestedFix) = none)
    (success : (applyAt f text suggested index expected).1.success = true) :
    ∃ line, (applyAt f text suggested index expected).1.fixedLine = some line ∧ OneLine line := by
  have outcome := applyAt_outcome f text suggested index expected
  generalize (applyAt f text suggested index expected).1 = r at outcome success ⊢
  cases outcome with
  | rewritten _ _ proposal fixedLine _ =>
    cases proposal with
    | rule _ fixed _ =>
      exact ⟨_, fixedLine, oneLine_ruleFixFor f.ruleId (oneLine_lineAt text index) fixed⟩
    | ai given =>
      rw [unsuggested] at given
      cases given
  | marked notFixed =>
    rw [notFixed] at success
    cases success
  | refused notFixed =>
    rw [notFixed] at success
    cases success

end SecScan.Proofs.FixLine
