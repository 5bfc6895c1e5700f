import SecScan.Sonar
import SecScan.Analysis.Reply
import SecScan.Proofs.LineSplit

/-!
Findings from a SonarQube server, issue by issue. When the issue search fails the file is
scanned locally and the reason kept, and the local scan's own refusal of a blank language name is
the only way that path fails. When the search answers, every issue that is an object and whose
line (its `line` when truthy, else 1) is an integer on the file gives one finding, in the
issues' order; all other issues are dropped. Each finding carries its issue's line and that line
of the file, the mapped severity, the SonarQube origin and the issue's key as its id
(`fetch_findings_or_fallback`).

An issue whose severity is truthy but not text has no mapped severity: the mapping upper-cases
the value, which only text allows. The statement leaves such issues out.
-/

namespace SecScan.Proofs.SonarFetch

open SecScan.Sonar SecScan.Http SecScan.Scan SecScan.Proofs.LineSplit

/-- An issue's line as the adapter takes it: the `line` field when it is truthy, else 1. -/
def effectiveLine (issue : Json) : Json :=
  match issue.field? "line" with
  | some v => if v.truthy then v else .int 1
  | none => .int 1

/-- The integer a value stands for, a boolean counting as 0 or 1. -/
def intValue? : Json → Option Int
  | .int n => some n
  | .bool b => some (if b then 1 else 0)
  | _ => none

/-- Whether the adapter turns an issue into a finding on a file of `lines`: the issue is an
object and its line an integer from 1 to the number of lines. -/
def keeps (lines : List String) (issue : Json) : Bool :=
  match issue, intValue? (effectiveLine issue) with
  | .obj _, some n => 1 ≤ n && n ≤ lines.length
  | _, _ => false

/-- A severity the mapping can read: missing, falsy, or text. -/
def SeverityReadable (issue : Json) : Prop :=
  ∀ v, issue.field? "severity" = some v → v.truthy = true → ∃ s, v = .str s

/-- What the finding made from a kept issue carries. -/
structure Describes (lines : List String) (issue : Json) (f : Finding) : Prop where
  line : intValue? (effectiveLine issue) = some f.line
  sourceLine : f.sourceLine = lines[(f.line - 1).toNat]?
  severity : mapSeverity ((issue.field? "severity").getD .null) = .ok f.severity
  origin : f.origin = "sonarqube"
  id : ∀ key, issue.field? "key" = some key → key.truthy = true → f.id = key.display

section Issue

theorem effectiveLine_eq (issue : Json) :
    (given issue "line").getD (.int 1) = effectiveLine issue := by
  unfold given effectiveLine
  cases issue.field? "line" with
  | none => rfl
  | some v => by_cases truthy : v.truthy = true <;> simp [Option.filter, truthy]

/-- A readable severity maps. -/
theorem mapSeverity_ok {issue : Json} (readable : SeverityReadable issue) :
    ∃ sev, mapSeverity ((issue.field? "severity").getD .null) = .ok sev := by
  cases given : issue.field? "severity" with
  | none => exact ⟨.medium, rfl⟩
  | some v =>
    rw [Option.getD_some]
    cases truthy : v.truthy with
    | false => exact ⟨.medium, by simp [mapSeverity, truthy]⟩
    | true =>
      obtain ⟨s, rfl⟩ := readable v given truthy
      simp only [mapSeverity, truthy, Bool.not_true, Bool.false_eq_true, if_false]
      split <;> exact ⟨_, rfl⟩

theorem given_key {issue : Json} {key : Json} (named : issue.field? "key" = some key)
    (truthy : key.truthy = true) : given issue "key" = some key := by
  simp [given, named, Option.filter, truthy]

/-- The line the adapter takes is always truthy: a falsy `line` is replaced by 1. -/
theorem effectiveLine_truthy (issue : Json) : (effectiveLine issue).truthy = true := by
  unfold effectiveLine
  split
  · rename_i v _
    by_cases truthy : v.truthy = true
    · rw [if_pos truthy]
      exact truthy
    · rw [if_neg truthy]
      rfl
  · rfl

/-- A boolean line the adapter takes is `true`: a `false` line is replaced by 1. -/
theorem effectiveLine_bool {issue : Json} {b : Bool} (line : effectiveLine issue = .bool b) :
    b = true := by
  have truthy := effectiveLine_truthy issue
  rw [line] at truthy
  simpa only [Json.truthy] using truthy

/-- An object issue that the adapter does not keep gives no finding. -/
theorem issueFinding_dropped {fields : List (String × Json)} {lines : List String}
    (nonempty : lines ≠ []) (dropped : keeps lines (.obj fields) = false) (language fileName : String) :
    issueFinding (.obj fields) lines language fileName = .ok none := by
  have widest : max lines.length 1 = lines.length :=
    Nat.max_eq_left (List.length_pos_iff.mpr nonempty)
  unfold keeps at dropped
  unfold issueFinding
  rw [effectiveLine_eq]
  cases line : effectiveLine (.obj fields) with
  | int n =>
    -- an integer line off the file
    have off : ¬(1 ≤ n ∧ n ≤ lines.length) := by simpa [line, intValue?] using dropped
    simp only [widest]
    rw [if_pos (by simp only [Bool.not_eq_true', Bool.and_eq_false_iff, decide_eq_false_iff_not]; omega)]
    rfl
  | bool b =>
    -- a line of `true` is line 1, which every file has
    obtain rfl := effectiveLine_bool line
    have onFile : (1 : Int) ≤ lines.length := by
      have := List.length_pos_iff.mpr nonempty
      omega
    simp [line, intValue?, onFile] at dropped
  | _ => rfl

/-- A finding made from an issue describes it when it takes the issue's line, that line of the
file, the mapped severity, the SonarQube origin and the key, as the adapter writes them. -/
theorem describes_of {lines : List String} {issue : Json} {f : Finding}
    (line : intValue? (effectiveLine issue) = some f.line) (low : 1 ≤ f.line)
    (high : f.line ≤ lines.length) (source : f.sourceLine = some (lines.getD (f.line - 1).toNat ""))
    (severity : mapSeverity ((issue.field? "severity").getD .null) = .ok f.severity)
    (origin : f.origin = "sonarqube") (id : f.id = ((given issue "key").map Json.display).getD "") :
    Describes lines issue f := by
  have inside : (f.line - 1).toNat < lines.length := by omega
  refine ⟨line, ?_, severity, origin, fun key named truthy => ?_⟩
  · rw [source, List.getD_eq_getElem?_getD, List.getElem?_eq_getElem inside, Option.getD_some]
  · rw [id, given_key named truthy]
    rfl

/-- An object issue the adapter keeps, with a readable severity, gives one finding, which
describes it. -/
theorem issueFinding_kept {fields : List (String × Json)} {lines : List String}
    (nonempty : lines ≠ []) (kept : keeps lines (.obj fields) = true)
    (readable : SeverityReadable (.obj fields)) (language fileName : String) :
    ∃ f, issueFinding (.obj fields) lines language fileName = .ok (some f) ∧
      Describes lines (.obj fields) f := by
  have widest : max lines.length 1 = lines.length :=
    Nat.max_eq_left (List.length_pos_iff.mpr nonempty)
  obtain ⟨sev, mapped⟩ := mapSeverity_ok readable
  unfold keeps at kept
  unfold issueFinding
  rw [effectiveLine_eq]
  cases line : effectiveLine (.obj fields) with
  | int n =>
    have onFile : 1 ≤ n ∧ n ≤ lines.length := by simpa [line, intValue?] using kept
    simp only [widest]
    rw [if_neg (by simp only [Bool.not_eq_true', Bool.and_eq_false_iff, decide_eq_false_iff_not]; omega),
      mapped]
    exact ⟨_, rfl, describes_of (by rw [line]; rfl) onFile.1 onFile.2 rfl mapped rfl rfl⟩
  | bool b =>
    -- a line of `true` is line 1, which every file has
    obtain rfl := effectiveLine_bool line
    have onFile : (1 : Int) ≤ lines.length := by
      have := List.length_pos_iff.mpr nonempty
      omega
    simp only [widest]
    rw [if_neg (by simp only [Bool.not_eq_true', Bool.and_eq_false_iff, decide_eq_false_iff_not]; omega),
      mapped]
    exact ⟨_, rfl, describes_of (by rw [line]; rfl) (Int.le_refl 1) onFile rfl mapped rfl rfl⟩
  | _ => simp [line, intValue?] at kept

end Issue

section Fetch

/-- A fold that keeps some items, each giving its own value, returns exactly those values, in
order. -/
theorem filterMapM_forall₂ {ε α β : Type} {step : α → Except ε (Option β)} {keep : α → Bool}
    {R : α → β → Prop} {items : List α}
    (each : ∀ x ∈ items, (keep x = false ∧ step x = .ok none) ∨
      (keep x = true ∧ ∃ y, step x = .ok (some y) ∧ R x y)) :
    ∃ ys, items.filterMapM step = .ok ys ∧ List.Forall₂ R (items.filter keep) ys := by
  induction items with
  | nil => exact ⟨[], rfl, .nil⟩
  | cons x rest ih =>
    obtain ⟨ys, folded, related⟩ := ih fun x member => each x (List.mem_cons_of_mem _ member)
    rw [List.filterMapM_cons]
    rcases each x List.mem_cons_self with ⟨dropped, stepped⟩ | ⟨kept, y, stepped, holds⟩
    · refine ⟨ys, ?_, ?_⟩
      · simp only [stepped, folded, bind, Except.bind]
      · rw [List.filter_cons_of_neg (by simp [dropped])]
        exact related
    · refine ⟨y :: ys, ?_, ?_⟩
      · simp only [stepped, folded, bind, Except.bind, pure, Except.pure]
      · rw [List.filter_cons_of_pos kept]
        exact .cons holds related

/-- Reading the issues fails only on a body nested too deep. -/
theorem readIssues_error {room : Nat} {reply : Reply} {e : Json.ReadError}
    (failed : readIssues room reply = .error e) : ∃ deep, e = .tooDeep deep := by
  unfold readIssues at failed
  split at failed
  · cases failed
  · rename_i r _
    cases read : r.document (room - 3) with
    | ok doc => simp [read, bind, Except.bind, pure, Except.pure] at failed
    | error problem =>
      simp only [read, bind, Except.bind, Except.error.injEq] at failed
      subst failed
      unfold Reply.document at read
      split at read
      · cases read
      · split at read
        · cases read
        · split at read
          · cases read
          · cases read
            exact ⟨_, rfl⟩
          · cases read
      · cases read

/-- Findings for a file from its issue search. When the search failed, the file is scanned
locally and the reason kept, and only the local scan's refusal of its input can fail. When the
search answered, the fetch returns, unless an issue it keeps has a severity it cannot read: it
gives one finding for each issue that is an object with an integer line on the file, in order,
describing that issue, and drops every other issue. Reading the issues fails only on a body
nested too deep to read. -/
theorem fetch_findings_or_fallback (room : Nat) (reply : Reply) (text language fileName : String) :
    (∀ reason, readIssues (room - 1) reply = .ok (.error reason) →
      fetch room reply text language fileName =
        match Scan.run text language fileName with
        | .ok found => .ok { findings := found, error := some reason }
        | .error problem => .error (.input problem)) ∧
    (∀ issues, readIssues (room - 1) reply = .ok (.ok issues) →
      (∀ issue ∈ issues, keeps (splitLines text) issue = true → SeverityReadable issue) →
      ∃ r, fetch room reply text language fileName = .ok r ∧ r.error = none ∧
        List.Forall₂ (Describes (splitLines text)) (issues.filter (keeps (splitLines text)))
          r.findings) ∧
    (∀ e, readIssues (room - 1) reply = .error e → ∃ deep, e = .tooDeep deep) := by
  refine ⟨fun reason failed => ?_, fun issues answered readable => ?_, fun e failed =>
    readIssues_error failed⟩
  · simp only [fetch, failed, Except.mapError, bind, Except.bind]
    cases Scan.run text language fileName <;> rfl
  · have outer : (readIssues (room - 1) reply).mapError FetchError.unreadable = .ok (.ok issues) := by
      rw [answered]
      rfl
    simp only [fetch, outer, bind, Except.bind]
    have nonempty := splitLines_ne_nil text
    -- each issue either gives nothing or one finding describing it
    obtain ⟨found, folded, described⟩ := @filterMapM_forall₂ _ _ _
      (issueStep (splitLines text) (Language.normalize language).name fileName)
      (keeps (splitLines text)) (Describes (splitLines text)) issues fun issue member => by
      cases issue with
      | obj fields =>
        cases kept : keeps (splitLines text) (.obj fields) with
        | false =>
          exact .inl ⟨rfl, by simp [issueStep, issueFinding_dropped nonempty kept, Except.mapError]⟩
        | true =>
          obtain ⟨f, made, describes⟩ := issueFinding_kept nonempty kept
            (readable _ member kept) (Language.normalize language).name fileName
          exact .inr ⟨rfl, f, by simp [issueStep, made, Except.mapError], describes⟩
      | _ => exact .inl ⟨rfl, rfl⟩
    -- the fold in the fetch is this one, written there
    split
    · rename_i problem failedFold
      cases folded.symm.trans failedFold
    · rename_i ys foldedThere
      cases folded.symm.trans foldedThere
      exact ⟨_, rfl, rfl, described⟩

/-- A reply with a blocker on line 1, an issue past the end of a one-line file and a bare text:
the fetch keeps the blocker alone. -/
theorem fetch_keeps_blocker :
    let issues : List Json :=
      [.obj [("key", .str "AX-1"), ("line", .int 1), ("severity", .str "BLOCKER")],
        .obj [("key", .str "AX-2"), ("line", .int 400)], .str "noise"]
    let reply : Reply := .json 200 (.obj [("issues", .arr issues)])
    readIssues (Analysis.callRoom - 1) reply = .ok (.ok issues) ∧
      (∀ issue ∈ issues, keeps (splitLines "x = 1") issue = true → SeverityReadable issue) ∧
      ∃ r, fetch Analysis.callRoom reply "x = 1" "python" "a.py" = .ok r ∧ r.error = none ∧
        List.Forall₂ (Describes (splitLines "x = 1")) (issues.filter (keeps (splitLines "x = 1")))
          r.findings := by
  intro issues reply
  have answered : readIssues (Analysis.callRoom - 1) reply = .ok (.ok issues) := rfl
  -- the blocker's severity is text, and the other issues have none
  have readable : ∀ issue ∈ issues, keeps (splitLines "x = 1") issue = true →
      SeverityReadable issue := by
    intro issue member _ v named _
    simp only [issues, List.mem_cons, List.not_mem_nil, or_false] at member
    rcases member with rfl | rfl | rfl
    · exact ⟨"BLOCKER", by simpa [Json.field?] using named.symm⟩
    · simp [Json.field?] at named
    · simp [Json.field?] at named
  exact ⟨answered, readable,
    (fetch_findings_or_fallback Analysis.callRoom reply "x = 1" "python" "a.py").2.1 issues answered
      readable⟩

/-- With the server out of reach and a blank language name, the fetch does not return: the local
scan it falls back on refuses the name. -/
theorem fetch_blank_language_refused :
    fetch Analysis.callRoom (.failure "refused") "x = 1" "  " "a.py" =
      .error (.input .languageBlank) := rfl

end Fetch

end SecScan.Proofs.SonarFetch
