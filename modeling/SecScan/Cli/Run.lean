import SecScan.Cli.Interface
import SecScan.Cli.FixCommand
import SecScan.Cli.InfoCommands

/-!
A run of the command line, from arguments to exit code.

With no arguments the group's help goes to standard error and the run exits with 2. Otherwise
the group's options are parsed and processed; then the command is looked up, the settings are
loaded, and the command's own parameters are parsed and processed before it runs. A usage error
prints the usage line of the command it concerns, a hint and the message on standard error, and
exits with 2. A configuration error prints its message and exits with 1.

Settings come from the file given with `--config`, else from `config.yaml` under
`$XDG_CONFIG_HOME/aisast` or `$HOME/.config/aisast` when that is a file, and then from the
environment.
-/

namespace SecScan.Cli

open SecScan.Files SecScan.Analysis SecScan.Config SecScan.Json

/-- What a run of the command line comes to: the exit code, what it wrote on standard output and
standard error, the error it died of if any, the files as they are after it, the service calls
it made and the server starts. -/
structure Outcome where
  exitCode : Nat
  stdout : String
  stderr : String
  crash : Option (String × String)
  tree : Tree
  calls : List Call
  launches : List Launch

/-- Prints a usage error about the command called as `path`, and exits with 2. -/
def usageError {α : Type} (path : String) (pieces : List String) (message : String) : CliM α := do
  echoErr (usageLine path pieces ++ "\nTry '" ++ path ++ " --help' for help.\n\nError: " ++
    message ++ "\n")
  exitWith 2

/-- A path joined to a name the way the path library joins them. -/
def childPath (dir name : String) : String := if dir == "." then name else joinPath dir name

/-- The home directory the environment names, as the path library writes it. -/
def homeDir (env : List (String × String)) : String :=
  match env.lookup "HOME" with
  | some home =>
    let trimmed := String.ofList (home.toList.reverse.dropWhile (· == '/')).reverse
    pathText (if trimmed.isEmpty then "/" else trimmed)
  | none => "/"

/-- The configuration file looked for when none is given. -/
def defaultConfigFile (env : List (String × String)) : String :=
  let dir := match env.lookup "XDG_CONFIG_HOME" with
    | some xdg => if xdg.isEmpty then childPath (homeDir env) ".config/aisast"
      else childPath (pathText xdg) "aisast"
    | none => childPath (homeDir env) ".config/aisast"
  childPath dir "config.yaml"

/-- The settings built from a configuration file's text, if any, and the environment; an error
in them ends the run. -/
def settingsFrom (path : String) (text : Option String) (env : List (String × String)) :
    CliM Settings :=
  match Settings.build configRoom path text [] env with
  | .ok s => pure s
  | .error (.invalid m) => do
    echoErr ("Error: " ++ m ++ "\n")
    exitWith 1
  | .error e => crash e.kind e.message

/-- Reads a configuration file strictly as UTF-8. -/
def readConfig (cwd : List String) (path : String) : CliM String := do
  match ← readBytes cwd path with
  | .ok bytes => textOf bytes false
  | .error e => do
    echoErr ("Error: Cannot read config file " ++ path ++ ": " ++ Errno.line e path ++ "\n")
    exitWith 1

/-- Loads the settings: from the given file, else from the default file when it is a file. -/
def loadSettings (inv : Invocation) (configPath : Option String) : CliM Settings := do
  match configPath with
  | some p => settingsFrom p (some (← readConfig inv.cwd p)) inv.env
  | none =>
    let file := defaultConfigFile inv.env
    if ((← get).tree).isFile inv.cwd file then
      settingsFrom file (some (← readConfig inv.cwd file)) inv.env
    else settingsFrom file none inv.env

/-- The text of a processed value, if it is one. -/
def textValue (values : List (String × Value)) (key : String) : Option String :=
  match values.lookup key with
  | some (.text s) => some s
  | _ => none

/-- Whether a processed flag is on. -/
def flagValue (values : List (String × Value)) (key : String) : Bool :=
  values.lookup key == some (.flag true)

/-- The whole number of a processed value, if it is one. -/
def wholeValue (values : List (String × Value)) (key : String) : Option Int :=
  match values.lookup key with
  | some (.whole n) => some n
  | _ => none

/-- Runs a command with its processed values. -/
def runCommand (inv : Invocation) (settings : Settings) (name : String)
    (values : List (String × Value)) : CliM Unit :=
  match name with
  | "scan" => scanCommand inv settings ((textValue values "path").getD "")
      (textValue values "language") (flagValue values "enrich") (flagValue values "json")
  | "fix" => fixCommand inv settings ((textValue values "file").getD "")
      (textValue values "language") (flagValue values "write") (flagValue values "enrich")
  | "catalog" => catalogCommand (textValue values "language")
  | "status" => statusCommand settings
  | "server" => serverCommand settings (wholeValue values "port")
  | _ => pure ()

/-- Reports a parse error of the command called as `path`: an unknown option with its usage, any
other alone. Either exits with 2. -/
def parseFailure {α : Type} (path : String) (pieces : List String) : ParseError → CliM α
  | .usage m => usageError path pieces m
  | .bare m => do
    echoErr ("Error: " ++ m ++ "\n")
    exitWith 2

/-- Reads and processes the group's options from the words, giving their values and the words
from the command's name on. -/
def groupOptions (inv : Invocation) (words : List String) :
    CliM (List (String × Value) × List String) := do
  let (parsed, rest) ← match mainGroup.parse false words with
    | .ok r => pure r
    | .error e => parseFailure "aisast" groupPieces e
  match mainGroup.process (probe inv.tree inv.cwd) parsed with
  | .ok vs => pure (vs, rest)
  | .error (.usage m) => usageError "aisast" groupPieces m
  | .error .help => do
    echo (groupHelp ++ "\n")
    exitWith 0
  | .error .version => do
    echo ("aisast, version " ++ Session.Store.version ++ "\n")
    exitWith 0

/-- The whole run: the group's options, then the command. A name that is not a command's is an
error; when it looks like an option, the words after it are read as the group's options first,
so that an error among them is the one reported. -/
def dispatch (inv : Invocation) : CliM Unit := do
  if inv.args.isEmpty then
    echoErr (groupHelp ++ "\n")
    exitWith 2
  let (values, rest) ← groupOptions inv inv.args
  match rest with
  | [] => usageError "aisast" groupPieces "Missing command."
  | name :: words =>
    match subcommands.find? (·.name == name) with
    | none => do
      if looksLikeOption name then discard (groupOptions inv words)
      usageError "aisast" groupPieces ("No such command " ++ quoteLiteral name ++ ".")
    | some cmd =>
      let settings ← loadSettings inv (textValue values "config")
      let path := "aisast " ++ cmd.name
      let pieces := cmd.argumentUsage
      let (parsed, extra) ← match cmd.parse true words with
        | .ok r => pure r
        | .error e => parseFailure path pieces e
      let commandValues ← match cmd.process (probe (← get).tree inv.cwd) parsed with
        | .ok vs => pure vs
        | .error (.usage m) => usageError path pieces m
        | .error _ => do
          echo (cmd.helpText path pieces [] ++ "\n")
          exitWith 0
      if !extra.isEmpty then usageError path pieces (extraWords extra)
      runCommand inv settings cmd.name commandValues

/-- Runs the command line. -/
def run (inv : Invocation) : Outcome :=
  let (result, e) := (dispatch inv).run.run { tree := inv.tree }
  let (code, crashed) := match result with
    | .ok () => (0, none)
    | .error (.code n) => (n, none)
    | .error (.crash kind message) => (1, some (kind, message))
  { exitCode := code, stdout := e.out, stderr := e.err, crash := crashed, tree := e.tree,
    calls := e.work.calls, launches := e.launches }

end SecScan.Cli
