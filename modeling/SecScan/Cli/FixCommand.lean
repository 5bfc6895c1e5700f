import SecScan.Cli.ScanCommand
import SecScan.Diff.Unified

/-!
Fixing a file from the command line. The file is read strictly as UTF-8, scanned, and every
finding fixed against the one text: by its rule's fix, else by a usable suggestion. With
enrichment and a service, the findings are enriched first; a finding whose confidence is below
the threshold loses its suggestion, and fresh suggestions are asked for the confident findings
that have neither a rule fix nor a usable suggestion.

The results are shown as a table. The fixed text is then either written back, when it differs,
or shown as a unified diff on standard output, and a count of fixed and failed findings ends
the report.
-/

namespace SecScan.Cli

open SecScan.Files SecScan.Analysis SecScan.Config SecScan.Terminal SecScan.Text

/-- The table of fix results. -/
def fixesTable (results : List FixResult) : Table :=
  { title := some "Fixes"
    columns := [{ header := "Line", justify := .right }, { header := "Status" },
      { header := "Source" }, { header := "Change / reason", maxWidth := some 70 }]
    rows := results.map fun r =>
      let line := match r.changes with
        | c :: _ => toString c.line
        | [] => "-"
      let (status, detail) :=
        if r.success then ("[green]fixed[/green]", strip (r.fixedLine.getD ""))
        else ("[red]failed[/red]", r.reason.getD "")
      [line, status, (r.source.map FixSource.name).getD "-", detail] }

/-- Suggestions for the findings confident enough to be fixed unattended; the others lose their
suggestion. -/
def confidentSuggestions (svc : Option Service) (llm : LlmSettings) (findings : List Finding)
    (text language : String) : CliM (List Finding × List (String × String)) := do
  let findings := findings.map fun f =>
    if f.confidence ≥ llm.confidenceThreshold then f else { f with suggestedFix := none }
  let confident := findings.filter (·.confidence ≥ llm.confidenceThreshold)
  let suggestions ← work (Pipeline.collectSuggestions (commandLoopRoom - 1) svc confident text language)
  pure (findings, suggestions)

/-- Fixes the findings of a text against it: scans it, enriching the findings when `enrich` is set
and there is a service, then fixes every finding by its rule's fix or a usable suggestion; with
enrichment, only findings at or above the confidence threshold keep or get a suggestion. Gives the
batch and the findings as fixing left them. -/
def fixBatch (svc : Option Service) (llm : LlmSettings) (text lang path : String) (enrich : Bool) :
    CliM (BatchResult × List Finding) := do
  let report ← work (Pipeline.scan (commandLoopRoom - 1) commandLoopRoom svc llm text lang path
    enrich false)
  let (findings, suggestions) ← match svc, enrich with
    | some _, true => confidentSuggestions svc llm report.findings text lang
    | _, _ => pure (report.findings, [])
  pure (Fix.applyAll findings text suggestions)

/-- The fix command: fixes the findings in `file`, writing the result back with `write`. -/
def fixCommand (inv : Invocation) (settings : Settings) (file : String) (language : Option String)
    (write enrich : Bool) : CliM Unit := do
  let path := pathText file
  let bytes ← match ← readBytes inv.cwd file with
    | .ok bytes => pure bytes
    | .error e => crash "FileNotFoundError" (Errno.line e path)
  let text ← textOf bytes false
  let lang := match language with
    | some l => if l.isEmpty then (Language.ofPath path).name else l
    | none => (Language.ofPath path).name
  let svc := if enrich then settings.llm.client?.map (inv.connect · settings.llm) else none
  let (batch, _) ← fixBatch svc settings.llm text lang path enrich
  if batch.results.isEmpty then
    say false "[green]No findings.[/green]"
  else
    sayTable false (fixesTable batch.results)
    if write then
      if batch.fixedCode != text then
        let e ← get
        match e.tree.write inv.cwd file batch.fixedCode.toUTF8 with
        | .ok t => set { e with tree := t }
        | .error err => crash "FileNotFoundError" (Errno.line err path)
        say false ("\nWrote [cyan]" ++ path ++ "[/cyan]")
    else
      let diff := Diff.unifiedDiff (Diff.linesWithEnds text) (Diff.linesWithEnds batch.fixedCode)
        path (path ++ " (fixed)")
      echo (String.join diff)
    say false ("\n" ++ toString batch.fixedCount ++ " fixed, " ++ toString batch.failedCount ++
      " need review")

end SecScan.Cli
