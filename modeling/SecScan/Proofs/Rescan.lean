import SecScan.Proofs.FixOutcome
import SecScan.Proofs.Marker

/-!
Scanning a text again after fixing one of its findings. A scan is the findings of its lines, one
line after another (`detect_eq_linesFindings`), and a line's findings depend on where the line
stands only through the number they carry (`linesFindings_add`). A fix that goes ahead turns one
line into the lines of its new text and leaves every other line alone: elsewhere the findings come
back as they were, those below moved down by the line feeds the fix added. On the new lines the
gate that let the fix through keeps out the finding's own rule, or every rule of the language for
a suggestion. A marker is one new line that no rule flags, so every finding from the marked line
on moves down by one.
-/

namespace SecScan.Proofs.Rescan

open SecScan.Scan SecScan.Fix SecScan.Proofs.LineSplit SecScan.Proofs.FixOutcome
  SecScan.Proofs.Detect SecScan.Proofs.Marker

/-- A finding `k` lines further down. -/
def moveDown (k : Nat) (g : Finding) : Finding := { g with line := g.line + k }

/-- The findings of consecutive lines, the first of them numbered `start`. -/
def linesFindings (language : Language) (fileName : String) : Nat → List String → List Finding
  | _, [] => []
  | start, raw :: rest =>
    lineFindings language fileName start raw ++ linesFindings language fileName (start + 1) rest

section Lines

variable {language : Language} {fileName : String}

theorem linesFindings_append (start : Nat) (front back : List String) :
    linesFindings language fileName start (front ++ back) =
      linesFindings language fileName start front ++
        linesFindings language fileName (start + front.length) back := by
  induction front generalizing start with
  | nil => simp [linesFindings]
  | cons raw rest ih =>
    have later : start + 1 + rest.length = start + (raw :: rest).length := by
      rw [List.length_cons]
      omega
    rw [List.cons_append, linesFindings, linesFindings, ih, later, List.append_assoc]

/-- A finding of a line carries the line's number and comes from a rule of the language that
flags the line. -/
theorem mem_lineFindings {start : Nat} {raw : String} {g : Finding}
    (member : g ∈ lineFindings language fileName start raw) :
    g.line = start ∧ ∃ rule ∈ language.rules, g.ruleId = rule.id ∧
      rule.flags (dropCarriage raw) = true := by
  obtain ⟨rule, ruleMember, found⟩ := List.mem_filterMap.mp member
  obtain ⟨named, -, numbered, -⟩ := ruleFinding_eq_some found
  have flagged := ruleFinding_isSome language fileName start raw rule
  rw [found, Option.isSome_some] at flagged
  exact ⟨numbered, rule, ruleMember, named, flagged.symm⟩

theorem mem_linesFindings {start : Nat} {lines : List String} {g : Finding}
    (member : g ∈ linesFindings language fileName start lines) :
    start ≤ g.line ∧ g.line < start + lines.length ∧
      ∃ rule ∈ language.rules, ∃ raw ∈ lines, g.ruleId = rule.id ∧
        rule.flags (dropCarriage raw) = true := by
  induction lines generalizing start with
  | nil => cases member
  | cons raw rest ih =>
    rcases List.mem_append.mp member with here | later
    · obtain ⟨numbered, rule, ruleMember, named, flagged⟩ := mem_lineFindings here
      refine ⟨by omega, by simp only [List.length_cons]; omega, rule, ruleMember, raw,
        List.mem_cons_self, named, flagged⟩
    · obtain ⟨low, high, rule, ruleMember, line, inRest, named, flagged⟩ := ih later
      refine ⟨by omega, by simp only [List.length_cons]; omega, rule, ruleMember, line,
        List.mem_cons_of_mem raw inRest, named, flagged⟩

theorem ruleFinding_add (start k : Nat) (raw : String) (rule : Rule) :
    ruleFinding language fileName (start + k) raw rule =
      (ruleFinding language fileName start raw rule).map (moveDown k) := by
  simp only [ruleFinding, Option.map_map]
  rfl

/-- Findings of lines further down are the same findings, moved down. -/
theorem linesFindings_add (start k : Nat) (lines : List String) :
    linesFindings language fileName (start + k) lines =
      (linesFindings language fileName start lines).map (moveDown k) := by
  induction lines generalizing start with
  | nil => rfl
  | cons raw rest ih =>
    have moved : lineFindings language fileName (start + k) raw =
        (lineFindings language fileName start raw).map (moveDown k) := by
      simp only [lineFindings, List.map_filterMap, ruleFinding_add]
    rw [linesFindings, linesFindings, List.map_append, moved, ← ih, Nat.add_right_comm]

/-- A line that no rule of the language flags has no findings. -/
theorem lineFindings_quiet {raw : String}
    (quiet : ∀ rule ∈ language.rules, rule.flags (dropCarriage raw) = false) (start : Nat) :
    lineFindings language fileName start raw = [] := by
  refine List.filterMap_eq_nil_iff.mpr fun rule member => ?_
  have reported := ruleFinding_isSome language fileName start raw rule
  rw [quiet rule member] at reported
  exact Option.not_isSome_iff_eq_none.mp (by simp [reported])

theorem lineFindings_empty (start : Nat) : lineFindings language fileName start "" = [] := by
  refine lineFindings_quiet (fun rule member => ?_) start
  rw [show dropCarriage "" = "" by simp [dropCarriage]]
  exact flags_empty_eq_false member

open SecScan.Proofs.Needles in
/-- A line in which every rule of the language has a needle that does not fit has no findings. -/
theorem lineFindings_needles_absent {raw : String}
    (absent : (language.rules.all fun rule =>
      (patternNeedles rule.detect).any fun n => !fitsIn n (dropCarriage raw).toList) = true)
    (start : Nat) : lineFindings language fileName start raw = [] := by
  refine lineFindings_quiet (fun rule member => ?_) start
  obtain ⟨n, listed, missing⟩ := List.any_eq_true.mp (List.all_eq_true.mp absent rule member)
  exact occursIn_eq_false listed (by simpa using missing)

theorem flatMap_zipIdx (lines : List String) (k : Nat) :
    (lines.zipIdx k).flatMap (fun (raw, i) => lineFindings language fileName (i + 1) raw) =
      linesFindings language fileName (k + 1) lines := by
  induction lines generalizing k with
  | nil => rfl
  | cons raw rest ih => rw [List.zipIdx_cons, List.flatMap_cons, ih]; rfl

theorem mem_linesFindings_of {start : Nat} {lines : List String} {i : Nat} (inside : i < lines.length)
    {g : Finding} (member : g ∈ lineFindings language fileName (start + i) lines[i]) :
    g ∈ linesFindings language fileName start lines := by
  induction lines generalizing start i with
  | nil => cases inside
  | cons raw rest ih =>
    cases i with
    | zero => exact List.mem_append_left _ member
    | succ i =>
      rw [List.getElem_cons_succ, ← Nat.add_assoc, Nat.add_right_comm] at member
      exact List.mem_append_right _ (ih (Nat.lt_of_succ_lt_succ inside) member)

/-- A filter that keeps every line a piece of a scan covers keeps the whole piece. -/
theorem filter_linesFindings_self {p : Finding → Bool} {start : Nat} {lines : List String}
    (keep : ∀ g : Finding, start ≤ g.line → g.line < start + lines.length → p g = true) :
    (linesFindings language fileName start lines).filter p =
      linesFindings language fileName start lines :=
  List.filter_eq_self.mpr fun g member =>
    let ⟨low, high, _⟩ := mem_linesFindings member
    keep g low high

theorem filter_linesFindings_nil {p : Finding → Bool} {start : Nat} {lines : List String}
    (drop : ∀ g : Finding, start ≤ g.line → g.line < start + lines.length → p g = false) :
    (linesFindings language fileName start lines).filter p = [] :=
  List.filter_eq_nil_iff.mpr fun g member => by
    obtain ⟨low, high, -⟩ := mem_linesFindings member
    simp [drop g low high]

theorem map_linesFindings_congr {φ ψ : Finding → Finding} {start : Nat} {lines : List String}
    (same : ∀ g : Finding, start ≤ g.line → g.line < start + lines.length → φ g = ψ g) :
    (linesFindings language fileName start lines).map φ =
      (linesFindings language fileName start lines).map ψ :=
  List.map_congr_left fun g member =>
    let ⟨low, high, _⟩ := mem_linesFindings member
    same g low high

end Lines

/-- A scan is the findings of the text's lines, numbered from one. -/
theorem detect_eq_linesFindings (text language fileName : String) :
    detect text language fileName =
      linesFindings (Language.normalize language) fileName 1 (splitLines text) := by
  unfold detect
  split
  · rename_i empty
    rw [String.isEmpty_iff.mp empty]
    show [] = lineFindings _ fileName 1 "" ++ []
    rw [lineFindings_empty]
    rfl
  · exact flatMap_zipIdx _ 0

/-- Every finding a rule of the language makes on a line of a text is a finding of the scan. -/
theorem mem_detect_of_ruleFinding {text language fileName : String} {i : Nat}
    (inside : i < (splitLines text).length) {rule : Rule}
    (ruleMember : rule ∈ (Language.normalize language).rules) {f : Finding}
    (found : ruleFinding (Language.normalize language) fileName (i + 1) (splitLines text)[i] rule =
      some f) :
    f ∈ detect text language fileName := by
  rw [detect_eq_linesFindings]
  refine mem_linesFindings_of inside ?_
  rw [Nat.add_comm]
  exact List.mem_filterMap.mpr ⟨rule, ruleMember, found⟩

section Catalog

theorem catalog_ids_nodup : (Catalog.allRules.map Rule.id).Nodup := by
  decide +kernel

theorem rule_eq_of_id_eq {a b : Rule} (first : a ∈ Catalog.allRules) (second : b ∈ Catalog.allRules)
    (same : a.id = b.id) : a = b :=
  List.inj_on_of_nodup_map catalog_ids_nodup first second same

theorem lookup_sound {ruleId : String} {rule : Rule} (found : Catalog.lookup ruleId = some rule) :
    rule ∈ Catalog.allRules ∧ rule.id = ruleId := by
  unfold Catalog.lookup at found
  have matched := List.find?_some found
  simp only [beq_iff_eq] at matched
  exact ⟨List.mem_of_find?_eq_some found, matched⟩

theorem normalize_name (language : Language) : Language.normalize language.name = language := by
  cases language <;> decide +kernel

/-- A finding of a scan is checked against the rules of the language it was scanned in. -/
theorem rulesFor_fixLanguage {text language fileName : String} {f : Finding}
    (scanned : f ∈ detect text language fileName) :
    Catalog.rulesFor (fixLanguage f) = (Language.normalize language).rules := by
  obtain ⟨i, inside, rule, ruleMember, found⟩ := mem_detect scanned
  obtain ⟨-, -, -, -, named, -⟩ := ruleFinding_eq_some found
  have present : f.language.isEmpty = false := by
    rw [named]
    cases Language.normalize language <;> rfl
  rw [fixLanguage, present, if_neg Bool.false_ne_true, named, Catalog.rulesFor, normalize_name]

end Catalog

/-- No finding on the lines of a line that passed the gate belongs to the finding's rule, and a
suggestion lets no finding of the language through. -/
theorem proposal_quiet {f : Finding} {suggestion : Option String} {original line : String}
    {source : FixSource} (proposal : Proposal f suggestion original source line)
    {language : Language} (covered : Catalog.rulesFor (fixLanguage f) = language.rules)
    {rule : Rule} (ruleMember : rule ∈ language.rules) {piece : String}
    (inLine : piece ∈ splitLines line) (flagged : rule.flags (dropCarriage piece) = true) :
    rule.id ≠ f.ruleId ∧ source ≠ .ai := by
  cases proposal with
  | rule found fixed passed =>
    obtain ⟨listed, named⟩ := lookup_sound found
    refine ⟨fun same => ?_, by decide⟩
    have isRule := rule_eq_of_id_eq (mem_allRules ruleMember) listed (same.trans named.symm)
    rw [isRule, flags_of_rejection_none passed _ List.mem_cons_self piece inLine] at flagged
    cases flagged
  | ai given usable covers passed =>
    have gated := covers rule (covered ▸ ruleMember)
    rw [flags_of_rejection_none passed rule gated piece inLine] at flagged
    cases flagged

/-- A finding of the fixed text on the lines of a line that passed the gate is not of the
finding's rule, and there is none when the line was a suggestion. -/
theorem rewritten_finding_quiet {text language fileName : String} {f : Finding}
    (scanned : f ∈ detect text language fileName) {suggestion : Option String}
    {original line : String} {source : FixSource}
    (proposal : Proposal f suggestion original source line) {start : Nat} {g : Finding}
    (block : g ∈ linesFindings (Language.normalize language) fileName start (splitLines line)) :
    g.ruleId ≠ f.ruleId ∧ source ≠ .ai := by
  obtain ⟨-, -, rule, ruleMember, piece, inLine, named, flagged⟩ := mem_linesFindings block
  obtain ⟨differs, notAi⟩ :=
    proposal_quiet proposal (rulesFor_fixLanguage scanned) ruleMember inLine flagged
  exact ⟨named ▸ differs, notAi⟩

section Split

variable {front back : List String}

/-- The lines of a text whose line after `front` is set to a new text. -/
theorem splitLines_set (lines : ∀ l ∈ front ++ back, OneLine l) (raw line : String) :
    splitLines (joinLines ((front ++ raw :: back).set front.length line)) =
      front ++ splitLines line ++ back := by
  have frontLines := flatMap_splitLines_of_oneLine fun l member =>
    lines l (List.mem_append_left back member)
  have backLines := flatMap_splitLines_of_oneLine fun l member =>
    lines l (List.mem_append_right front member)
  rw [set_append_length, splitLines_joinLines (by simp), List.flatMap_append, List.flatMap_cons,
    frontLines, backLines, List.append_assoc]

/-- The lines of a text with a one-line marker put above the line after `front`. -/
theorem splitLines_insert {raw : String} (lines : ∀ l ∈ front ++ raw :: back, OneLine l)
    {marker : String}
    (single : OneLine marker) :
    splitLines (joinLines ((front ++ raw :: back).insertIdx front.length marker)) =
      front ++ marker :: raw :: back := by
  rw [insertIdx_append_length, splitLines_joinLines (by simp)]
  apply flatMap_splitLines_of_oneLine
  intro l member
  rcases List.mem_append.mp member with inFront | inRest
  · exact lines l (List.mem_append_left _ inFront)
  · rcases List.mem_cons.mp inRest with rfl | inBack
    · exact single
    · exact lines l (List.mem_append_right front inBack)

end Split

/-- A marker for a finding of a scan is one line that no rule of the scan's language flags. -/
theorem marker_quiet {text language fileName : String} {f : Finding}
    (scanned : f ∈ detect text language fileName) {original : String} (single : OneLine original) :
    OneLine (markerLine f original (fixLanguage f)) ∧
      ∀ rule ∈ (Language.normalize language).rules,
        rule.flags (dropCarriage (markerLine f original (fixLanguage f))) = false := by
  obtain ⟨i, inside, own, ownMember, found⟩ := mem_detect scanned
  obtain ⟨named, titled, -⟩ := ruleFinding_eq_some found
  have comment := commentPrefix_cases (fixLanguage f) f.fileName
  rw [markerLine_eq named titled, dropCarriage_markerText]
  refine ⟨oneLine_append.mpr ⟨oneLine_indentOf single, oneLine_markerText (mem_allRules ownMember) comment⟩,
    fun rule member => flags_marker_eq_false member ownMember comment (indentOf_blank original)⟩

section Around

variable {text language fileName : String} {front back : List String} {raw : String}

/-- A scan of a text around one of its lines. -/
theorem detect_around (split : splitLines text = front ++ raw :: back) :
    detect text language fileName =
      linesFindings (Language.normalize language) fileName 1 front ++
        linesFindings (Language.normalize language) fileName (front.length + 1) (raw :: back) := by
  rw [detect_eq_linesFindings, split, linesFindings_append, Nat.add_comm 1 front.length]

/-- A scan of a text whose line after `front` was set to a new text. -/
theorem detect_set (split : splitLines text = front ++ raw :: back) (line : String) :
    detect (joinLines ((splitLines text).set front.length line)) language fileName =
      linesFindings (Language.normalize language) fileName 1 front ++
        linesFindings (Language.normalize language) fileName (front.length + 1) (splitLines line) ++
          linesFindings (Language.normalize language) fileName
            (front.length + 1 + (line.toList.count '\n' + 1)) back := by
  have lines : ∀ l ∈ front ++ back, OneLine l := fun l member =>
    oneLine_of_mem_splitLines (split ▸ List.mem_append.mpr
      ((List.mem_append.mp member).imp id (List.mem_cons_of_mem raw)))
  have below : 1 + (front ++ splitLines line).length =
      front.length + 1 + (line.toList.count '\n' + 1) := by
    rw [List.length_append, length_splitLines]
    omega
  rw [detect_eq_linesFindings, split, splitLines_set lines, linesFindings_append,
    linesFindings_append, below, Nat.add_comm 1 front.length]

/-- A scan of a text with a marker put above the line after `front`. -/
theorem detect_insert (split : splitLines text = front ++ raw :: back) {marker : String}
    (single : OneLine marker)
    (quiet : ∀ rule ∈ (Language.normalize language).rules, rule.flags (dropCarriage marker) = false) :
    detect (joinLines ((splitLines text).insertIdx front.length marker)) language fileName =
      linesFindings (Language.normalize language) fileName 1 front ++
        linesFindings (Language.normalize language) fileName (front.length + 1 + 1) (raw :: back) := by
  have lines : ∀ l ∈ front ++ raw :: back, OneLine l := fun l member =>
    oneLine_of_mem_splitLines (split ▸ member)
  rw [detect_eq_linesFindings, split, splitLines_insert lines single, linesFindings_append,
    linesFindings, lineFindings_quiet quiet, List.nil_append, Nat.add_comm 1 front.length]

end Around

section Shapes

variable {language : Language} {fileName : String} {start : Nat} {front back : List String}

/-- Off the new lines, a scan with `k + 1` lines at `start` in place of one line is the old scan
off line `start`, moved down by `k` below it. -/
theorem filter_replaced {k : Nat} {block : List String} {raw : String}
    (frontLength : front.length + 1 = start) (blockLength : block.length = k + 1) :
    (linesFindings language fileName 1 front ++ linesFindings language fileName start block ++
        linesFindings language fileName (start + (k + 1)) back).filter
        (fun g => g.line < (start : Int) ∨ (start : Int) + (k : Int) < g.line) =
      ((linesFindings language fileName 1 front ++
          linesFindings language fileName start (raw :: back)).filter (·.line ≠ (start : Int))).map
        (fun g => if (start : Int) < g.line then moveDown k g else g) := by
  have keepFront : (linesFindings language fileName 1 front).filter
      (fun g => g.line < (start : Int) ∨ (start : Int) + (k : Int) < g.line) =
        linesFindings language fileName 1 front :=
    filter_linesFindings_self fun g _ high => by simp only [decide_eq_true_eq]; omega
  have dropBlock : (linesFindings language fileName start block).filter
      (fun g => g.line < (start : Int) ∨ (start : Int) + (k : Int) < g.line) = [] :=
    filter_linesFindings_nil fun g low high => by simp only [decide_eq_false_iff_not]; omega
  have keepBack : (linesFindings language fileName (start + (k + 1)) back).filter
      (fun g => g.line < (start : Int) ∨ (start : Int) + (k : Int) < g.line) =
        linesFindings language fileName (start + (k + 1)) back :=
    filter_linesFindings_self fun g low _ => by simp only [decide_eq_true_eq]; omega
  have keepOld : (linesFindings language fileName 1 front).filter (·.line ≠ (start : Int)) =
      linesFindings language fileName 1 front :=
    filter_linesFindings_self fun g _ high => by simp only [decide_eq_true_eq]; omega
  have dropLine : (lineFindings language fileName start raw).filter (·.line ≠ (start : Int)) = [] :=
    List.filter_eq_nil_iff.mpr fun g member => by simp [(mem_lineFindings member).1]
  have keepBelow : (linesFindings language fileName (start + 1) back).filter
      (·.line ≠ (start : Int)) = linesFindings language fileName (start + 1) back :=
    filter_linesFindings_self fun g low _ => by simp only [decide_eq_true_eq]; omega
  have sameFront : (linesFindings language fileName 1 front).map
      (fun g => if (start : Int) < g.line then moveDown k g else g) =
        (linesFindings language fileName 1 front).map id :=
    map_linesFindings_congr fun g _ high => if_neg (by omega)
  have movedBack : (linesFindings language fileName (start + 1) back).map
      (fun g => if (start : Int) < g.line then moveDown k g else g) =
        (linesFindings language fileName (start + 1) back).map (moveDown k) :=
    map_linesFindings_congr fun g low _ => if_pos (by omega)
  rw [List.filter_append, List.filter_append, keepFront, dropBlock, keepBack, linesFindings,
    List.filter_append, List.filter_append, keepOld, dropLine, keepBelow, List.map_append,
    List.map_append, sameFront, List.map_id, List.map_nil, movedBack, ← linesFindings_add,
    List.append_nil, List.nil_append, Nat.add_right_comm start 1 k, Nat.add_assoc]

/-- A scan with a new line above line `start` is the old scan, moved down by one from `start`
on. -/
theorem map_inserted {rest : List String} (frontLength : front.length + 1 = start) :
    linesFindings language fileName 1 front ++ linesFindings language fileName (start + 1) rest =
      (linesFindings language fileName 1 front ++ linesFindings language fileName start rest).map
        (fun g => if (start : Int) ≤ g.line then moveDown 1 g else g) := by
  have sameFront : (linesFindings language fileName 1 front).map
      (fun g => if (start : Int) ≤ g.line then moveDown 1 g else g) =
        (linesFindings language fileName 1 front).map id :=
    map_linesFindings_congr fun g _ high => if_neg (by omega)
  have movedRest : (linesFindings language fileName start rest).map
      (fun g => if (start : Int) ≤ g.line then moveDown 1 g else g) =
        (linesFindings language fileName start rest).map (moveDown 1) :=
    map_linesFindings_congr fun g low _ => if_pos low
  rw [List.map_append, sameFront, movedRest, List.map_id, ← linesFindings_add]

end Shapes

/-- Scanning again after fixing a finding of a scan. When the fix goes ahead and its new text
has `k` line feeds, the findings off the rewritten lines are the old findings off the finding's
line, those below it moved down by `k`; on the rewritten lines no finding belongs to the
finding's rule, and none at all when the new text was a suggestion. When the fix puts a marker
above the line instead, every finding from that line on moves down by one and nothing else
changes. -/
theorem rescan_after_fix (text language fileName : String) (f : Finding)
    (scanned : f ∈ detect text language fileName) (suggested : Option String) :
    let r := (Fix.apply f text suggested).1
    let before := detect text language fileName
    let after := detect r.fixedCode language fileName
    (r.success = true → ∃ line, r.fixedLine = some line ∧
      after.filter (fun g => g.line < f.line ∨ f.line + line.toList.count '\n' < g.line) =
        (before.filter (·.line ≠ f.line)).map
          (fun g => if f.line < g.line then moveDown (line.toList.count '\n') g else g) ∧
      ∀ g ∈ after, f.line ≤ g.line → g.line ≤ f.line + line.toList.count '\n' →
        g.ruleId ≠ f.ruleId ∧ r.source ≠ some .ai) ∧
    (r.source = some .marker →
      after = before.map fun g => if f.line ≤ g.line then moveDown 1 g else g) := by
  intro r before after
  obtain ⟨i, inside, rule, -, found⟩ := mem_detect scanned
  obtain ⟨-, -, numbered, -⟩ := ruleFinding_eq_some found
  -- the line the fix reads, with the lines before and after it
  obtain ⟨front, back, split, frontLength⟩ : ∃ front back,
      splitLines text = front ++ (splitLines text)[i] :: back ∧ front.length = i :=
    ⟨_, _, by rw [← List.drop_eq_getElem_cons inside, List.take_append_drop],
      List.length_take_of_le (Nat.le_of_lt inside)⟩
  have start : f.line = ((front.length + 1 : Nat) : Int) := by omega
  have index : ((f.line : Int) - 1).toNat = front.length := by omega
  have original : lineAt text ((f.line : Int) - 1) = (splitLines text)[i] := by
    rw [lineAt, index, frontLength, List.getD_eq_getElem?_getD, List.getElem?_eq_getElem inside,
      Option.getD_some]
  have outcome : Outcome f (suggested <|> f.suggestedFix) text front.length (splitLines text)[i] r :=
    index ▸ original ▸ applyAt_outcome f text suggested ((f.line : Int) - 1) f.sourceLine
  have textFindings : before = _ := @detect_around text language fileName front back _ split
  rw [start]
  cases outcome with
  | rewritten success sourceIs proposal fixedLine code =>
    rename_i source line
    have fixedFindings : after = _ := code ▸ detect_set split line
    refine ⟨fun _ => ⟨line, fixedLine, ?_, ?_⟩,
      fun marked => absurd marked (Outcome.rewritten_ne_marker sourceIs proposal)⟩
    · rw [fixedFindings, textFindings]
      exact filter_replaced rfl (length_splitLines line)
    · -- on the rewritten lines, only findings the gate let through
      intro g member low high
      rw [fixedFindings] at member
      rcases List.mem_append.mp member with member | late
      · rcases List.mem_append.mp member with early | block
        · have := (mem_linesFindings early).2.1
          omega
        · obtain ⟨differs, notAi⟩ := rewritten_finding_quiet scanned proposal block
          exact ⟨differs, fun same => notAi (Option.some.inj (sourceIs.symm.trans same))⟩
      · have := (mem_linesFindings late).1
        omega
  | marked notFixed source fixedLine code =>
    refine ⟨fun success => absurd (notFixed.symm.trans success) Bool.false_ne_true, fun _ => ?_⟩
    have single := oneLine_of_mem_splitLines (List.getElem_mem inside)
    obtain ⟨markerLine, quiet⟩ := marker_quiet scanned single
    have fixedFindings : after = _ := code ▸ detect_insert split markerLine quiet
    rw [fixedFindings, textFindings]
    exact map_inserted rfl
  | refused notFixed source code =>
    exact ⟨fun success => absurd (notFixed.symm.trans success) Bool.false_ne_true,
      fun marked => absurd marked source⟩

/-- The eval finding of `eval(x)` in Python, which the rule's own fix turns into
`ast.literal_eval(x)`. -/
theorem rescan_literal_eval :
    let f : Finding :=
      { ruleId := "python:eval", kind := "Code Injection", severity := .critical, line := 1,
        message := "Using eval can lead to code injection vulnerabilities", confidence := 85,
        column := 1, matchedText := "eval(", sourceLine := some "eval(x)", language := "python" }
    let r := (Fix.apply f "eval(x)" none).1
    let before := detect "eval(x)" "python" ""
    let after := detect r.fixedCode "python" ""
    (r.success = true → ∃ line, r.fixedLine = some line ∧
      after.filter (fun g => g.line < f.line ∨ f.line + line.toList.count '\n' < g.line) =
        (before.filter (·.line ≠ f.line)).map
          (fun g => if f.line < g.line then moveDown (line.toList.count '\n') g else g) ∧
      ∀ g ∈ after, f.line ≤ g.line → g.line ≤ f.line + line.toList.count '\n' →
        g.ruleId ≠ f.ruleId ∧ r.source ≠ some .ai) ∧
    (r.source = some .marker →
      after = before.map fun g => if f.line ≤ g.line then moveDown 1 g else g) := by
  have python : Language.normalize "python" = .python := normalize_name .python
  have first : Catalog.pythonRules ≠ [] := by simp [Catalog.pythonRules]
  have listed : Catalog.pythonRules.head first ∈ (Language.normalize "python").rules := by
    rw [python]
    exact List.head_mem first
  exact rescan_after_fix "eval(x)" "python" "" _
    (@mem_detect_of_ruleFinding "eval(x)" "python" "" 0 (by decide) _ listed _
      (by rw [python]; cbv)) none

end SecScan.Proofs.Rescan
