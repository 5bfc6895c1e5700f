import SecScan.Cli.ScanCommand
import SecScan.Session.Store

/-!
The command line's reports on itself: the rule catalog, the active configuration, and the start
of the web server.

The catalog lists the rules of one language, or of every supported language, with their type,
severity and whether they have a fix. The status shows the version, the catalog, whether
enrichment is available and with which model, the service limits and the SonarQube address, and
lists the problems with the configuration, which make the run exit with 1. Starting the server
announces its address and starts it with the configured host and port, the port given on the
command line taking precedence.
-/

namespace SecScan.Cli

open SecScan.Analysis SecScan.Config SecScan.Terminal

/-- The table of the rules of some languages. -/
def rulesTable (languages : List Language) : Table :=
  { title := some "Detection rules"
    columns := [{ header := "Rule" }, { header := "Type" }, { header := "Severity" },
      { header := "Auto-fix", justify := .center }]
    rows := languages.flatMap fun l => l.rules.map fun r =>
      [r.id, r.weakness.title, severityMarkup r.severity, if r.hasFix then "yes" else "-"] }

/-- The catalog command: the rules of `language`, or of every supported language. -/
def catalogCommand (language : Option String) : CliM Unit := do
  let languages := match language with
    | some l => if l.isEmpty then Language.supported else [Language.normalize l]
    | none => Language.supported
  sayTable true (rulesTable languages)
  say true (toString (languages.flatMap Language.rules).length ++ " rule(s)")

/-- The line saying whether enrichment is available. -/
def enrichmentLine (llm : LlmSettings) : String :=
  match llm.client? with
  | some _ =>
    "Enrichment: [green]" ++ llm.provider ++ "[/green] model [cyan]" ++ llm.resolvedModel ++
      "[/cyan] at " ++ llm.resolvedBaseUrl
  | none =>
    if !llm.enabled then "Enrichment: [yellow]disabled[/yellow]"
    else "Enrichment: [yellow]no credentials for " ++ llm.provider ++ "[/yellow]"

/-- The status command. -/
def statusCommand (settings : Settings) : CliM Unit := do
  let llm := settings.llm
  say true ("[bold]aisast[/bold] " ++ Session.Store.version)
  say true ("Catalog: " ++ toString Catalog.allRules.length ++ " rules for " ++
    ", ".intercalate (Language.supported.map Language.name) ++ " [dim](static, no training)[/dim]")
  say true (enrichmentLine llm)
  say true ("Limits: " ++ llm.timeout.toGeneral ++ "s per call, " ++ llm.deadline.toGeneral ++
    "s per scan, " ++ toString llm.maxConcurrency ++ " concurrent")
  say true ("SonarQube: " ++ settings.sonarqube.url)
  match settings.problems with
  | .error e => crash e.kind e.message
  | .ok [] => pure ()
  | .ok problems =>
    say true "\n[red]Configuration problems:[/red]"
    problems.forM fun p => say true ("  - " ++ p)
    exitWith 1

/-- The server command: starts the web server, on `port` when one is given. -/
def serverCommand (settings : Settings) (port : Option Int) : CliM Unit := do
  let web := settings.web
  let port := port.getD web.port
  say false ("[bold]aisast[/bold] API starting on [cyan]http://" ++ web.host ++ ":" ++
    toString port ++ "/api[/cyan]")
  modify fun e => { e with launches := e.launches ++
    [{ title := "aisast", host := web.host, port := port, logLevel := "info" }] }

end SecScan.Cli
