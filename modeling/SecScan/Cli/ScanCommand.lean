import SecScan.Cli.Effects
import SecScan.Json.Printer
import SecScan.Text.Case

/-!
Scanning from the command line. A directory is scanned file by file: its real location is
walked in sorted order, files before subdirectories, never entering a linked directory, the
usual build, cache and version control directories, directories named like a package's
metadata, or directories the settings exclude. Files with a binary extension, files the settings
exclude, files larger than the size limit and paths that lead nowhere are passed over. A file
given by itself is scanned alone, in the directory it really lies in. Files are read leniently,
as UTF-8 with undecodable bytes dropped.

The findings are optionally enriched by the completion service, then reported as JSON, or as a
table sorted by severity, file and line with a summary. Any critical finding makes the run exit
with 1.
-/

namespace SecScan.Cli

open SecScan.Files SecScan.Analysis SecScan.Config SecScan.Terminal SecScan.Text

/-- Directories a directory scan never enters. -/
def skippedDirs : List String :=
  [".git", ".hg", ".svn", "node_modules", "__pycache__", ".mypy_cache", ".pytest_cache",
   ".ruff_cache", ".venv", "venv", "env", "dist", "build", ".tox", ".eggs", ".next"]

/-- Extensions of files a directory scan never reads. -/
def skippedSuffixes : List String :=
  [".pyc", ".pyo", ".so", ".dylib", ".dll", ".exe", ".bin", ".dat", ".png", ".jpg", ".jpeg",
   ".gif", ".ico", ".svg", ".pdf", ".zip", ".tar", ".gz", ".whl", ".db", ".sqlite", ".sqlite3",
   ".lock", ".map"]

/-- Whether a directory scan enters a directory of this name. -/
def entersDir (s : ScanSettings) (name : String) : Bool :=
  !skippedDirs.contains name && !name.endsWith ".egg-info" && !s.excludePatterns.contains name

/-- Whether a directory scan reads the file of this name at `path`: its extension is not a binary
one, the settings do not exclude it, and it leads to something no larger than the limit. -/
def readsFile (t : Tree) (s : ScanSettings) (name path : String) : Bool :=
  !skippedSuffixes.contains (toLower (pathSuffix name)) && !s.excludePatterns.contains name &&
    match t.stat [] path with
    | .ok (.file content) => (content.size : Int) ≤ s.maxFileSize
    | .ok _ => (0 : Int) ≤ s.maxFileSize
    | .error _ => false

/-- The files a directory scan reads under the real directory `dir`, written `text`, in the
order it reads them. -/
def walkFiles (t : Tree) (s : ScanSettings) : Nat → String → List String → List String
  | 0, _, _ => []
  | fuel + 1, text, dir =>
    let names := t.children dir
    let dirs := names.filter fun n => t.isDir [] (joinPath text n) && entersDir s n
    let files := names.filter fun n => !t.isDir [] (joinPath text n) && readsFile t s n (joinPath text n)
    files.map (joinPath text ·) ++ dirs.flatMap fun d =>
      if t.isLink [] (joinPath text d) then [] else walkFiles t s fuel (joinPath text d) (dir ++ [d])

/-- One file scanned: its name as reported, its text, its language and its findings. -/
structure FileScan where
  fileName : String
  text : String
  language : String
  findings : List Finding
  deriving Inhabited

/-- A scan: the directory it reports, the files scanned and how many were passed over because
they could not be read. -/
structure ScanRun where
  directory : String
  files : List FileScan
  skipped : Nat := 0
  deriving Inhabited

/-- Every finding of a scan, file by file. -/
def ScanRun.findings (r : ScanRun) : List Finding := r.files.flatMap (·.findings)

/-- The language a file is scanned in: the one given, unless it is empty, else the one its
extension names. -/
def fileLanguage (given : Option String) (path : String) : String :=
  match given with
  | some l => if l.isEmpty then (Language.ofPath path).name else (Language.normalize l).name
  | none => (Language.ofPath path).name

/-- Scans one file, reported under `fileName`; `none` when it cannot be read. -/
def scanFile (cwd : List String) (given : Option String) (path fileName : String) :
    CliM (Option FileScan) := do
  match ← readBytes cwd path with
  | .error _ => pure none
  | .ok bytes =>
    let text ← textOf bytes true
    let language := fileLanguage given path
    let found ← match Scan.run text language fileName with
      | .ok fs => pure fs
      | .error e => crash "InputError" e.message
    let found ← work (Pipeline.labelAll found)
    pure (some { fileName := fileName, text := text, language := language, findings := found })

/-- Scans every file a directory scan reads under a directory. -/
def scanDirectory (cwd : List String) (given : Option String) (s : ScanSettings) (path : String) :
    CliM ScanRun := do
  let t := (← get).tree
  let real := t.realPath cwd path
  let text := absoluteText real
  let paths := walkFiles t s (t.nodes.length + 1) text real
  paths.foldlM (fun (r : ScanRun) p => do
    match ← scanFile cwd given p p with
    | some f => pure { r with files := r.files ++ [f] }
    | none => pure { r with skipped := r.skipped + 1 }) { directory := text, files := [] }

/-- Scans a single file, in the directory it really lies in. -/
def scanSingle (cwd : List String) (given : Option String) (path : String) : CliM ScanRun := do
  let t := (← get).tree
  let directory := absoluteText (t.realPath cwd path).dropLast
  match ← scanFile cwd given path (pathText path) with
  | some f => pure { directory := directory, files := [f] }
  | none =>
    let name := pathText path
    crash "FileNotFoundError" ("[Errno 2] No such file or directory: " ++ Json.quoteLiteral name)

/-- Enriches the findings of each file that has some. -/
def enrichFiles (svc : Service) (llm : LlmSettings) (r : ScanRun) : CliM ScanRun := do
  let files ← r.files.mapM fun f => do
    if f.findings.isEmpty then pure f
    else
      let (_, found) ← work (Pipeline.withCallsOrCrash
        (enrichAll commandLoopRoom (some svc) llm f.findings f.text f.language))
      pure { f with findings := found }
  pure { r with files := files }

/-- The JSON report of a scan. -/
def ScanRun.toJson (r : ScanRun) : Json :=
  .obj [("directory", .str r.directory), ("filesScanned", .int r.files.length),
    ("filesSkipped", .int r.skipped), ("duration", .float (Binary64.ofInt 0)),
    ("vulnerabilities", .arr (r.findings.map Finding.toJson))]

/-- The colour a severity is shown in. -/
def severityColor : Severity → String
  | .critical => "red"
  | .high => "magenta"
  | .medium => "yellow"
  | .low => "blue"

/-- A severity as coloured markup. -/
def severityMarkup (s : Severity) : String :=
  "[" ++ severityColor s ++ "]" ++ s.name ++ "[/" ++ severityColor s ++ "]"

/-- A file name relative to the scanned directory, when it lies under it. -/
def shortenPath (fileName directory : String) : String :=
  if fileName.startsWith directory then
    String.ofList ((fileName.toList.drop directory.length).dropWhile (· == '/'))
  else fileName

/-- Whether a finding comes before another in the report: by severity, then file, then line. -/
def reportsBefore (a b : Finding) : Bool :=
  a.severity.rank < b.severity.rank ||
    (a.severity.rank == b.severity.rank &&
      (decide (a.fileName < b.fileName) || (a.fileName == b.fileName && a.line ≤ b.line)))

/-- The table of findings. -/
def findingsTable (r : ScanRun) (findings : List Finding) : Table :=
  { title := some "Findings"
    columns := [{ header := "Severity", width := some 10 }, { header := "File" },
      { header := "Line", justify := .right }, { header := "Type" },
      { header := "Conf.", justify := .right }, { header := "Match", maxWidth := some 50 }]
    rows := findings.map fun f =>
      [severityMarkup f.severity, shortenPath f.fileName r.directory, f.lineText, f.kind,
        toString f.confidence, String.ofList (f.matchedText.toList.take 50)] }

/-- The summary after the findings. -/
def printSummary (r : ScanRun) : CliM Unit := do
  say false ("\nScanned " ++ toString r.files.length ++ " files (" ++ toString r.skipped ++
    " skipped) in 0.00s")
  say false ("Total findings: " ++ toString r.findings.length)

/-- The scan command: scans `path`, a directory or a file. -/
def scanCommand (inv : Invocation) (settings : Settings) (path : String) (language : Option String)
    (enrich asJson : Bool) : CliM Unit := do
  if !asJson then say false ("[bold]aisast[/bold] scanning [cyan]" ++ path ++ "[/cyan]\n")
  let t := (← get).tree
  let r ← if t.isDir inv.cwd path then scanDirectory inv.cwd language settings.scan path
    else scanSingle inv.cwd language path
  let r ← if enrich then
      match settings.llm.client? with
      | none => do
        say false "[yellow]Enrichment unavailable: no provider configured.[/yellow]"
        pure r
      | some kind => enrichFiles (inv.connect kind settings.llm) settings.llm r
    else pure r
  let findings := r.findings
  if asJson then echo (Json.renderIndented 0 r.toJson ++ "\n")
  else if findings.isEmpty then
    say false "[green]No findings.[/green]"
    printSummary r
  else
    sayTable false (findingsTable r (findings.mergeSort reportsBefore))
    printSummary r
  let critical := (findings.filter fun f => f.severity == .critical).length
  if critical > 0 then
    if !asJson then say false ("\n[red]" ++ toString critical ++ " critical finding(s)[/red]")
    exitWith 1

end SecScan.Cli
