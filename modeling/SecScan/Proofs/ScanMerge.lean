import SecScan.Proofs.FindingIds
import SecScan.Proofs.Rescan
import SecScan.Proofs.ReplyExtract

/-!
Scans put together. A scan reads its text line by line, so scanning two texts joined at a line
feed gives the findings of the first and then those of the second, moved down by the first
text's lines (`run_append_newline`). The empty text, which a scan answers at once with no
findings, agrees with the empty line it stands for in a join, since no rule flags an empty line.

A pipeline scan that asks the service about the whole file adds the service's findings after
its own, keeping each one whose line and type no finding before it has (`keptNew`). Enrichment
then runs over all of them and may rewrite their confidence, suggested fix and explanation, so
the report holds exactly these findings up to ids and those three fields
(`scan_merges_new_findings`). Every finding the service adds lies on a line of the text and
carries that line.
-/

namespace SecScan.Proofs.ScanMerge

open SecScan.Scan SecScan.Pipeline SecScan.Analysis SecScan.Config
open SecScan.Proofs.LineSplit SecScan.Proofs.Detect SecScan.Proofs.Rescan
open SecScan.Proofs.Enrichment SecScan.Proofs.Runs

section Join

/-- The findings of two texts joined at a line feed: the first text's, then the second's, moved
down by the lines of the first. -/
theorem detect_append_newline (a b language fileName : String) :
    detect (a ++ "\n" ++ b) language fileName =
      detect a language fileName ++
        (detect b language fileName).map (moveDown (a.toList.count '\n' + 1)) := by
  rw [detect_eq_linesFindings, detect_eq_linesFindings, detect_eq_linesFindings,
    splitLines_append_newline, linesFindings_append, length_splitLines, linesFindings_add]

/-- Scanning distributes over joining texts at a line feed. Scans carry no ids (the caller draws
them), so the findings agree field for field; a blank language name is refused on both sides. -/
theorem run_append_newline (a b language fileName : String) :
    Scan.run (a ++ "\n" ++ b) language fileName =
      (do
        let front ← Scan.run a language fileName
        let back ← Scan.run b language fileName
        pure (front ++ back.map (moveDown (a.toList.count '\n' + 1)))) := by
  unfold Scan.run
  split
  · rfl
  · rw [detect_append_newline]
    rfl

end Join

section Keys

/-- The line and type by which a merge tells findings apart. -/
def mergeKey (f : Finding) : Int × String := (f.line, f.kind)

/-- The service's findings a merge keeps, in their order: each one whose line and type is
neither in `seen` nor that of one kept before it. -/
def keptNew (seen : List (Int × String)) : List Finding → List Finding
  | [] => []
  | f :: rest =>
    if mergeKey f ∈ seen then keptNew seen rest else f :: keptNew (seen ++ [mergeKey f]) rest

theorem keptNew_sublist (seen : List (Int × String)) (extra : List Finding) :
    (keptNew seen extra).Sublist extra := by
  induction extra generalizing seen with
  | nil => exact List.Sublist.slnil
  | cons f rest ih =>
    unfold keptNew
    split
    · exact (ih seen).cons f
    · exact (ih _).cons_cons f

/-- Keeping commutes with a change that leaves line and type alone. -/
theorem keptNew_map {φ : Finding → Finding} (keys : ∀ f, mergeKey (φ f) = mergeKey f)
    (seen : List (Int × String)) (extra : List Finding) :
    (keptNew seen extra).map φ = keptNew seen (extra.map φ) := by
  induction extra generalizing seen with
  | nil => rfl
  | cons f rest ih =>
    simp only [List.map_cons, keptNew, keys]
    split
    · exact ih seen
    · rw [List.map_cons, ih]

/-- A finding with the same line and type as one already merged is what the merge's test finds. -/
theorem any_sameKey_iff (acc : List Finding) (f : Finding) :
    (acc.any fun g => g.line == f.line && g.kind == f.kind) = true ↔
      mergeKey f ∈ acc.map mergeKey := by
  simp [mergeKey, Prod.ext_iff]

theorem addNew_cons (acc : List Finding) (f : Finding) (rest : List Finding) :
    addNew acc (f :: rest) =
      addNew (if mergeKey f ∈ acc.map mergeKey then acc else acc ++ [f]) rest := by
  unfold addNew
  rw [List.foldl_cons]
  congr 1
  by_cases seen : mergeKey f ∈ acc.map mergeKey
  · rw [if_pos ((any_sameKey_iff acc f).mpr seen), if_pos seen]
  · rw [if_neg (fun found => seen ((any_sameKey_iff acc f).mp found)), if_neg seen]

/-- The merge keeps, after the scan's own findings, exactly the service's findings whose line and
type is new: not among the scan's findings nor among those it kept before. -/
theorem addNew_eq_keptNew (found extra : List Finding) :
    addNew found extra = found ++ keptNew (found.map mergeKey) extra := by
  induction extra generalizing found with
  | nil => simp [addNew, keptNew]
  | cons f rest ih =>
    rw [addNew_cons, keptNew]
    by_cases seen : mergeKey f ∈ found.map mergeKey
    · rw [if_pos seen, if_pos seen, ih]
    · rw [if_neg seen, if_neg seen, ih, List.map_append, List.map_singleton, List.append_assoc,
        List.singleton_append]

end Keys

section Bare

/-- A finding without its id and without the fields enriching it may write: its confidence,
suggested fix and explanation. -/
def bare (f : Finding) : Finding :=
  { f with id := "", confidence := 0, suggestedFix := none, explanation := none }

@[simp] theorem mergeKey_bare (f : Finding) : mergeKey (bare f) = mergeKey f := rfl

/-- Labelling changes nothing but ids. -/
theorem label_map {α : Type} (φ : Finding → α) (idFree : ∀ f id, φ { f with id := id } = φ f)
    (s : IdSupply) (fs : List Finding) : (s.label fs).1.map φ = fs.map φ := by
  induction fs generalizing s with
  | nil => rfl
  | cons f rest ih =>
    simp only [IdSupply.label, List.map_cons, idFree, ih]

theorem label_bare (s : IdSupply) (fs : List Finding) : (s.label fs).1.map bare = fs.map bare :=
  label_map bare (fun _ _ => rfl) s fs

theorem label_mergeKey (s : IdSupply) (fs : List Finding) :
    (s.label fs).1.map mergeKey = fs.map mergeKey :=
  label_map mergeKey (fun _ _ => rfl) s fs

theorem status_of_mem_label {s : IdSupply} {fs : List Finding} {f : Finding}
    (member : f ∈ (s.label fs).1) : ∃ g ∈ fs, f.status = g.status := by
  have statuses := label_map Finding.status (fun _ _ => rfl) s fs
  have listed : f.status ∈ fs.map Finding.status := statuses ▸ List.mem_map_of_mem member
  obtain ⟨g, inFs, same⟩ := List.mem_map.mp listed
  exact ⟨g, inFs, same.symm⟩

/-- Settling a detected finding changes none of the fields a merge fixes. -/
theorem bare_settle (room : Nat) (c : CallEnd) {f : Finding} (detected : f.status = .detected) :
    bare (c.settle room f) = bare f := by
  unfold CallEnd.settle
  split <;> simp [bare, ← detected]

/-- A pass over detected findings that returns gives them back, in order, up to ids and the
fields enrichment writes. -/
theorem enrichAll_bare (loop : Nat) (svc : Service) (settings : LlmSettings) (findings : List Finding)
    (text language : String) (made : List Call) {summary : Summary} {enriched : List Finding}
    (detected : ∀ f ∈ findings, f.status = .detected)
    (returned : (enrichAll loop (some svc) settings findings text language).run' made =
      .ok (summary, enriched)) :
    enriched.map bare = findings.map bare := by
  have endsLength : (passEnds svc settings findings text language made).length = findings.length :=
    length_callEnds _ _ _ _ _ _ _ _
  rw [(enrichAll_applied loop svc settings findings text language made summary enriched
    returned).2, List.map_map]
  calc (findings.zip (passEnds svc settings findings text language made)).map
        (bare ∘ fun p => p.2.settle (loop - 1) p.1)
      = (findings.zip (passEnds svc settings findings text language made)).map (bare ∘ Prod.fst) :=
        List.map_congr_left fun p member =>
          bare_settle (loop - 1) p.2 (detected p.1 (List.of_mem_zip member).1)
    _ = findings.map bare := by
        rw [← List.map_map, List.map_fst_zip (Nat.le_of_eq endsLength.symm)]

end Bare

section Service

/-- A scan's findings are detected. -/
theorem detect_status {text language fileName : String} {f : Finding}
    (member : f ∈ detect text language fileName) : f.status = .detected := by
  obtain ⟨i, _, rule, _, found⟩ := mem_detect member
  simp only [ruleFinding, Option.map_eq_some_iff] at found
  obtain ⟨m, -, rfl⟩ := found
  rfl

/-- A lax integer with a lower bound is at least that bound. -/
theorem intWithin_ge {lo : Int} {hi : Option Int} {v : Json} {n : Int}
    (checked : Lax.intWithin (some lo) hi v = .ok n) : lo ≤ n := by
  unfold Lax.intWithin at checked
  cases read : Lax.int v with
  | error e => simp [read, bind, Except.bind] at checked
  | ok m =>
    simp only [read, bind, Except.bind] at checked
    -- each bound either throws or lets `m` through unchanged
    split at checked
    · exact nomatch checked
    · rename_i notBelow
      split at checked
      · exact nomatch checked
      · simp only [pure, Except.pure, Except.ok.injEq] at checked
        simp only [Option.any_some, decide_eq_true_eq] at notBelow
        omega

/-- A required field that validates passed its check. -/
theorem required_ok {α : Type} {at_ : List Json} {fields : List (String × Json)}
    {names : List String} {check : Json → Except String α} {a : α}
    (valid : Lax.required at_ fields names check = .ok a) : ∃ v, check v = .ok a := by
  unfold Lax.required at valid
  cases looked : Lax.lookup fields names with
  | none => simp [looked] at valid
  | some v =>
    cases checked : check v with
    | error e => simp [looked, checked] at valid
    | ok b =>
      simp only [looked, checked, Except.ok.injEq] at valid
      exact ⟨v, valid ▸ checked⟩

/-- An entry of a whole-file reply that validates names a line from 1 on. -/
theorem Reported.validate_line {v : Json} {r : Reported} (valid : Reported.validate v = .ok r) :
    1 ≤ r.line := by
  unfold Reported.validate at valid
  cases fields : Lax.record [] "model_type" v with
  | error problems => simp [fields, bind, Except.bind] at valid
  | ok fs =>
    simp only [fields, bind, Except.bind] at valid
    split at valid
    · rename_i line _ _ _ _ _ lineOk _ _ _ _ _
      cases valid
      obtain ⟨w, checked⟩ := required_ok lineOk
      exact intWithin_ge checked
    · exact nomatch valid

/-- A finding made from an entry from line 1 on lies on a line of the text and carries it. -/
theorem Reported.toFinding_in_range {r : Reported} {lines : List String}
    {language fileName : String} {f : Finding} (low : 1 ≤ r.line)
    (made : r.toFinding lines language fileName = some f) :
    1 ≤ f.line ∧ f.line ≤ lines.length ∧ f.sourceLine = lines[(f.line - 1).toNat]? ∧
      f.status = .detected := by
  unfold Reported.toFinding at made
  split at made
  · cases made
  · rename_i notPast
    cases made
    dsimp only
    have inside : (r.line - 1).toNat < lines.length := by omega
    refine ⟨low, by omega, ?_, rfl⟩
    rw [List.getD_eq_getElem?_getD, List.getElem?_eq_getElem inside, Option.getD_some]

/-- A call to the service answers with the service's answer to the calls made so far. -/
theorem run_call_bind {α : Type} (svc : Service) (system prompt : String) (k : Outcome → Calls α)
    (made : List Call) :
    (svc.call system prompt >>= k).run made =
      (k (svc.answer made.length system prompt)).run (made ++ [⟨system, prompt⟩]) := rfl

/-- Every finding the service reports on a whole text lies on a line of the text, carries that
line and is detected. -/
theorem analyzeFile_in_range (room : Nat) (svc : Option Service) (text fileName language : String)
    (made : List Call) {f : Finding}
    (member : f ∈ ((analyzeFile room svc text fileName language).run made).1) :
    1 ≤ f.line ∧ f.line ≤ (splitLines text).length ∧
      f.sourceLine = (splitLines text)[(f.line - 1).toNat]? ∧ f.status = .detected := by
  rcases svc with _ | svc
  · cases member
  cases empty : text.isEmpty
  · simp only [analyzeFile, empty, Service.call, StateT.run, bind, StateT.bind, get, getThe,
      MonadStateOf.get, StateT.get, set, StateT.set, pure, StateT.pure, Bool.false_eq_true,
      if_false] at member
    -- only a text reply holding an array gives findings, one per entry that validates
    cases outcome : svc.answer made.length fileSystem (filePrompt text fileName language) with
    | text reply =>
      cases reading : extractJson (room - 1) reply "[" with
      | error e => simp [outcome, reading, StateT.pure, pure] at member
      | ok v =>
        cases v <;> simp [outcome, reading, StateT.pure, pure] at member
        obtain ⟨item, -, reported⟩ := member
        split at reported
        · rename_i r valid
          exact Reported.toFinding_in_range (Reported.validate_line valid) reported
        · cases reported
    | _ => simp [outcome, StateT.pure, pure] at member
  · simp only [analyzeFile, empty, if_true] at member
    cases member

theorem run_ok {text language fileName : String} {found : List Finding}
    (scanned : Scan.run text language fileName = .ok found) :
    found = detect text language fileName := by
  unfold Scan.run at scanned
  split at scanned
  · cases scanned
  · cases scanned
    rfl

end Service

section Merge

/-- Work that returns a value returned it from some session. -/
theorem work_run'_ok {α : Type} {w : Work α} {s : Session} {a : α} (returned : w.run' s = .ok a) :
    ∃ s', w.run s = .ok (a, s') := by
  simp only [StateT.run', Functor.map, Except.map] at returned
  cases whole : w s with
  | error e => simp [whole] at returned
  | ok p =>
    simp only [whole, Except.ok.injEq] at returned
    exact ⟨p.2, by rw [StateT.run, whole, ← returned]⟩

/-- Enriching the merge of labelled findings gives back, up to ids and the fields enrichment
writes, the scan's findings followed by the service's new ones. -/
theorem enrichAll_merged (loop : Nat) (svc : Service) (settings : LlmSettings) (text language : String)
    (made : List Call) (ids ids' : IdSupply) {found answer : List Finding} {summary : Summary}
    {enriched : List Finding} (detected : ∀ f ∈ found ++ answer, f.status = .detected)
    (passed : (enrichAll loop (some svc) settings (addNew (ids.label found).1 (ids'.label answer).1)
      text language).run' made = .ok (summary, enriched)) :
    enriched.map bare = (found ++ keptNew (found.map mergeKey) answer).map bare := by
  rw [addNew_eq_keptNew, label_mergeKey] at passed
  -- labelling and keeping change no status
  have labelledDetected : ∀ f ∈ (ids.label found).1 ++ keptNew (found.map mergeKey)
      (ids'.label answer).1, f.status = .detected := by
    intro f member
    rcases List.mem_append.mp member with own | theirs
    · obtain ⟨g, inFound, same⟩ := status_of_mem_label own
      exact same.trans (detected g (List.mem_append_left _ inFound))
    · obtain ⟨g, inAnswer, same⟩ := status_of_mem_label ((keptNew_sublist _ _).subset theirs)
      exact same.trans (detected g (List.mem_append_right _ inAnswer))
  calc enriched.map bare
      = ((ids.label found).1 ++ keptNew (found.map mergeKey) (ids'.label answer).1).map bare :=
        enrichAll_bare loop svc settings _ text language made labelledDetected passed
    _ = (found ++ keptNew (found.map mergeKey) answer).map bare := by
        rw [List.map_append, List.map_append, label_bare, keptNew_map mergeKey_bare, label_bare,
          ← keptNew_map mergeKey_bare]

section Redirect

open SecScan.Json SecScan.Proofs.JsonRoundTrip SecScan.Proofs.ReplyExtract

/-- A service that finds an open redirect on line 1 of whatever file it is shown, and rates every
finding it is asked about 99. -/
def redirectService : Service :=
  ⟨"scripted", fun n _ _ =>
    if n = 0 then .text "[\x7b\"line\": 1, \"type\": \"Open Redirect\"\x7d]"
    else .text "\x7b\"confidence\": 99\x7d"⟩

/-- The open redirect that service reports on the Python file `a.py` holding `x = 1`. -/
def redirectFinding : Finding :=
  { ruleId := "ai:open-redirect", kind := "Open Redirect", severity := .medium, line := 1
    message := "Open Redirect", sourceLine := some "x = 1", language := "python"
    fileName := "a.py", origin := "ai" }

/-- The report of a pipeline scan of that file with that service: the open redirect, rated 99. -/
def redirectReport : ScanReport :=
  { fileName := "a.py", language := "python"
    findings := [{ redirectFinding with id := "000000000001", confidence := 99 }]
    enrichment := { provider := "scripted", attempted := 1, succeeded := 1 } }

theorem except_ok_bind {ε α β : Type} (a : α) (f : α → Except ε β) : (Except.ok a >>= f) = f a :=
  rfl

/-- The catalog flags nothing in `x = 1`: every Python rule has a needle missing from it. -/
theorem run_quiet_line : Scan.run "x = 1" "python" "a.py" = .ok [] := by
  have python : Language.normalize "python" = .python := normalize_name .python
  have silent : lineFindings (Language.normalize "python") "a.py" 1 "x = 1" = [] := by
    rw [python]
    exact lineFindings_needles_absent (by decide +kernel) 1
  rw [Scan.run, detect_eq_linesFindings, if_neg (by decide),
    show splitLines "x = 1" = ["x = 1"] by decide]
  simp only [linesFindings, silent, List.append_nil]

theorem analyzeFile_redirect :
    (analyzeFile (callRoom - 1) (some redirectService) "x = 1" "a.py" "python").run [] =
      ([redirectFinding], [⟨fileSystem, filePrompt "x = 1" "a.py" "python"⟩]) := by
  have python : Language.normalize "python" = .python := normalize_name .python
  -- the reply is the compact text of a one-item array, which the reader reads back
  have text : "[\x7b\"line\": 1, \"type\": \"Open Redirect\"\x7d]" =
      "" ++ render (.arr [.obj [("line", .int 1), ("type", .str "Open Redirect")]]) ++ "" := by
    decide
  have extracted : extractJson (callRoom - 1 - 1)
      "[\x7b\"line\": 1, \"type\": \"Open Redirect\"\x7d]" "[" =
        .ok (.arr [.obj [("line", .int 1), ("type", .str "Open Redirect")]]) := by
    rw [text]
    exact extractJson_arr (readable_of_check (by decide)) (by decide) "" "" (by decide)
  rw [analyzeFile, if_neg (by decide), run_call_bind]
  simp only [show redirectService.answer ([] : List Call).length fileSystem
      (filePrompt "x = 1" "a.py" "python") =
        .text "[\x7b\"line\": 1, \"type\": \"Open Redirect\"\x7d]" from rfl, extracted, python]
  rfl

theorem readEnrichment_rated :
    readEnrichment (loopRoom - 1) (.text "\x7b\"confidence\": 99\x7d") = .ok ⟨99, none, none⟩ := by
  have text : "\x7b\"confidence\": 99\x7d" = "" ++ render (.obj [("confidence", .int 99)]) ++ "" := by
    decide
  have extracted : extractJson (loopRoom - 1 - 1 - 1) "\x7b\"confidence\": 99\x7d" =
      .ok (.obj [("confidence", .int 99)]) := by
    rw [text]
    exact extractJson_obj (readable_of_check (by decide)) (by decide) "" "" (by decide)
  rw [readEnrichment, parseEnrichment]
  simp only [bind, Except.bind, extracted]
  rfl

theorem scan_redirect_run :
    (scan callRoom loopRoom (some redirectService) {} "x = 1" "python" "a.py" true true).run'
      default = .ok redirectReport := by
  have python : Language.normalize "python" = .python := normalize_name .python
  let call : Call := ⟨fileSystem, filePrompt "x = 1" "a.py" "python"⟩
  let labelled : Finding := { redirectFinding with id := "000000000001" }
  -- the pass makes one call, which the service answers with its rating
  have ends : passEnds redirectService {} [labelled] "x = 1" "python" [call] =
      [.answered (.text "\x7b\"confidence\": 99\x7d")] := rfl
  simp only [Pipeline.scan, run_quiet_line, python, pure_bind, if_true]
  simp only [StateT.run'_eq, StateT.run_bind, run_labelAll, run_withCalls, except_ok_bind,
    show (default : Session).calls = [] from rfl, show Language.python.name = "python" from rfl]
  simp only [analyzeFile_redirect]
  rw [show addNew ((default : Session).ids.label []).fst
      (((default : Session).ids.label []).snd.label [redirectFinding]).fst = [labelled] from rfl]
  simp only [withCallsOrCrash, StateT.run_bind, run_withCalls, except_ok_bind]
  rw [show (StateT.run (enrichAll loopRoom (some redirectService) {} [labelled] "x = 1" "python")
      [call]).fst = (enrichAll loopRoom (some redirectService) {} [labelled] "x = 1" "python").run'
        [call] from rfl, enrichAll_run _ _ _ _ _ _ _ (List.cons_ne_nil _ _), ends]
  simp only [List.map, CallEnd.read, readEnrichment_rated]
  rfl

end Redirect

/-- A pipeline scan that asks the service about the whole file, and enriches, reports its own
findings followed by the service's findings whose line and type is new, in the service's order,
all up to ids and the confidence, suggested fix and explanation that enrichment writes. Every
finding the service adds lies on a line of the text and carries that line. -/
theorem scan_merges_new_findings (room loop : Nat) (svc : Service) (settings : LlmSettings)
    (text language fileName : String) (s : Session) {report : ScanReport}
    (returned : (scan room loop (some svc) settings text language fileName true true).run' s =
      .ok report) :
    ∃ found, Scan.run text language fileName = .ok found ∧
      let kept := keptNew (found.map mergeKey)
        ((analyzeFile (room - 1) (some svc) text fileName (Language.normalize language).name).run
          s.calls).1
      report.findings.map bare = (found ++ kept).map bare ∧
      ∀ f ∈ kept, 1 ≤ f.line ∧ f.line ≤ (splitLines text).length ∧
        f.sourceLine = (splitLines text)[(f.line - 1).toNat]? := by
  obtain ⟨s', ran⟩ := work_run'_ok returned
  cases scanned : Scan.run text language fileName with
  | error e =>
    simp only [scan, scanned] at ran
    obtain ⟨_, _, failed, -⟩ := work_bind_ok ran
    cases failed
  | ok found =>
    refine ⟨found, rfl, ?_⟩
    -- the run labels the scan's findings, asks about the whole file, labels the answer and enriches
    simp only [scan, scanned, pure_bind, if_true] at ran
    obtain ⟨labelled, s₁, labelling, rest⟩ := work_bind_ok ran
    simp only [run_labelAll, Except.ok.injEq, Prod.mk.injEq] at labelling
    obtain ⟨rfl, rfl⟩ := labelling
    obtain ⟨answer, s₂, asked, rest⟩ := work_bind_ok rest
    simp only [run_withCalls, Except.ok.injEq, Prod.mk.injEq] at asked
    obtain ⟨rfl, rfl⟩ := asked
    obtain ⟨extra, s₃, labellingExtra, rest⟩ := work_bind_ok rest
    simp only [run_labelAll, Except.ok.injEq, Prod.mk.injEq] at labellingExtra
    obtain ⟨rfl, rfl⟩ := labellingExtra
    obtain ⟨⟨summary, enriched⟩, s₄, enriching, rest⟩ := work_bind_ok rest
    obtain ⟨rfl, -⟩ := work_pure_ok.mp rest
    obtain ⟨passed, -⟩ := withCallsOrCrash_ok enriching
    intro kept
    have answered := fun (f : Finding) member =>
      analyzeFile_in_range (room - 1) (some svc) text fileName (Language.normalize language).name
        s.calls (f := f) member
    -- the scan's findings and the service's alike were detected before enrichment
    have detected : ∀ f ∈ found ++ ((analyzeFile (room - 1) (some svc) text fileName
        (Language.normalize language).name).run s.calls).1, f.status = .detected := by
      intro f member
      rcases List.mem_append.mp member with own | theirs
      · exact detect_status (run_ok scanned ▸ own)
      · exact (answered f theirs).2.2.2
    refine ⟨enrichAll_merged loop svc settings text _ _ _ _ detected passed, fun f member => ?_⟩
    obtain ⟨low, high, line, -⟩ := answered f ((keptNew_sublist _ _).subset member)
    exact ⟨low, high, line⟩

/-- A scan of a one-line file the catalog finds nothing in, with a service that reports an open
redirect on it: the report holds that one finding. -/
theorem scan_merges_redirect :
    (scan callRoom loopRoom (some redirectService) {} "x = 1" "python" "a.py" true true).run'
      default = .ok redirectReport ∧
    ∃ found, Scan.run "x = 1" "python" "a.py" = .ok found ∧
      let kept := keptNew (found.map mergeKey)
        ((analyzeFile (callRoom - 1) (some redirectService) "x = 1" "a.py"
          (Language.normalize "python").name).run (default : Session).calls).1
      redirectReport.findings.map bare = (found ++ kept).map bare ∧
      ∀ f ∈ kept, 1 ≤ f.line ∧ f.line ≤ (splitLines "x = 1").length ∧
        f.sourceLine = (splitLines "x = 1")[(f.line - 1).toNat]? :=
  ⟨scan_redirect_run, scan_merges_new_findings callRoom loopRoom redirectService {} "x = 1" "python"
    "a.py" default scan_redirect_run⟩

/-- The report is not the scan's findings followed by the service's new ones, even up to ids:
the scan finds nothing, the service adds an open redirect at the default confidence 70, and the
report holds it at the 99 its enrichment gave. -/
theorem scan_enrichment_rewrites_confidence :
    (scan callRoom loopRoom (some redirectService) {} "x = 1" "python" "a.py" true true).run'
      default = .ok redirectReport ∧
    Scan.run "x = 1" "python" "a.py" = .ok [] ∧
    keptNew [] ((analyzeFile (callRoom - 1) (some redirectService) "x = 1" "a.py" "python").run
      []).1 = [redirectFinding] ∧
    redirectReport.findings.map Finding.confidence = [99] ∧ redirectFinding.confidence = 70 := by
  refine ⟨scan_redirect_run, run_quiet_line, ?_, rfl, rfl⟩
  rw [analyzeFile_redirect]
  rfl

end Merge

end SecScan.Proofs.ScanMerge
