import SecScan.Cli.Params

/-!
The command line's shape: a group of five commands behind the options common to all of them.

`aisast [--version] [-c FILE] [-v] COMMAND [ARGS]...` runs `scan PATH`, `fix FILE`,
`catalog [LANGUAGE]`, `status` or `server`. The version option and every help option are eager:
given anywhere, they print and end the run before any other parameter is looked at.
-/

namespace SecScan.Cli

/-- The version option of the group. -/
def versionOption : Opt :=
  { key := "version", names := ["--version"], takes := .flag [], help := "Show the version and exit.",
    eager := true }

/-- The group: the options before the command name. -/
def mainGroup : Command :=
  { name := "aisast"
    help := "aisast — static security scanning with optional AI enrichment and fixes."
    params := [.opt versionOption,
      .opt { key := "config", names := ["--config", "-c"], takes := .value (.existingPath false),
             help := "Path to a YAML config file." },
      .opt { key := "verbose", names := ["--verbose", "-v"], takes := .flag [],
             help := "Enable verbose output." }] }

/-- The language override of the commands that read files. -/
def languageOption : Opt :=
  { key := "language", names := ["--language", "-l"], takes := .value .text,
    help := "Language override (default: from extension)." }

/-- The scan command. -/
def scanSpec : Command :=
  { name := "scan", help := "Scan a file or directory for security vulnerabilities."
    params := [.arg { key := "path", type := .existingPath true }, .opt languageOption,
      .opt { key := "enrich", names := ["--enrich"], takes := .flag ["--no-enrich"],
             help := "Ask the configured LLM to enrich findings." },
      .opt { key := "json", names := ["--json"], takes := .flag [],
             help := "Print findings as JSON on stdout." }] }

/-- The fix command. -/
def fixSpec : Command :=
  { name := "fix", help := "Fix the vulnerabilities found in FILE."
    params := [.arg { key := "file", type := .existingPath false }, .opt languageOption,
      .opt { key := "write", names := ["--write", "-w"], takes := .flag [],
             help := "Write the fixed code back to FILE." },
      .opt { key := "enrich", names := ["--enrich"], takes := .flag ["--no-enrich"],
             help := "Ask the configured LLM for fixes the catalog lacks." }] }

/-- The catalog command. -/
def catalogSpec : Command :=
  { name := "catalog", help := "List the detection rules, for one LANGUAGE or all of them."
    params := [.arg { key := "language", required := false }] }

/-- The status command. -/
def statusSpec : Command :=
  { name := "status", help := "Show the active configuration and whether enrichment is available."
    params := [] }

/-- The server command. -/
def serverSpec : Command :=
  { name := "server", help := "Start the aisast web API."
    params := [.opt { key := "port", names := ["--port"], takes := .value .integer,
                      help := "Port to listen on (default: 8480)." }] }

/-- The commands of the group, in the order they are added. -/
def subcommands : List Command := [scanSpec, fixSpec, catalogSpec, statusSpec, serverSpec]

/-- The words after the group's options in its usage line. -/
def groupPieces : List String := ["COMMAND", "[ARGS]..."]

/-- The help text of the group. -/
def groupHelp : String := mainGroup.helpText "aisast" groupPieces subcommands

end SecScan.Cli
