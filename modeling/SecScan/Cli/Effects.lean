import SecScan.Files.Tree
import SecScan.Pipeline
import SecScan.Terminal.Console
import SecScan.Text.Utf8

/-!
What a run of the command line works with and what it leaves behind. A run reads its arguments,
its environment and a file tree seen from a working directory; it writes to standard output and
standard error, may change files, calls the completion service through the pipeline and may
start the web server. It ends with an exit code, or crashes with the name and message of an
error. Output written before the end is kept either way.

Paths are written the way the path library writes them: empty and `.` parts dropped, `.` for a
path with no parts left, and a leading `//` kept as it is.
-/

namespace SecScan.Cli

open SecScan.Files SecScan.Analysis SecScan.Config SecScan.Terminal SecScan.Text

/-- The room of a coroutine the event loop runs when a command starts the loop (see
`Analysis.extractJson`): the calls that lead from the command line to a command take seven levels
more than those that lead to serving a request. -/
def commandLoopRoom : Nat := Analysis.loopRoom - 7

/-- How deep a configuration file the command line reads may nest (see `Yaml.load`): the calls
that lead from the command line to reading it take four levels of nesting more than those that
lead to reading one to serve a request. -/
def configRoom : Nat := Config.fileRoom - 4

/-- What the command line is run with: its arguments, its environment, the files and the
working directory, and how a completion service of each kind is reached. -/
structure Invocation where
  args : List String
  env : List (String × String)
  tree : Tree
  cwd : List String
  connect : ClientKind → LlmSettings → Service

/-- A start of the web server: the application's title, where it listens, and its log level. -/
structure Launch where
  title : String
  host : String
  port : Int
  logLevel : String
  deriving Repr, Inhabited, BEq

/-- What a run has done so far: its output, the files as they now are, the pipeline's session
(service calls and ids) and the server starts. -/
structure Effects where
  out : String := ""
  err : String := ""
  tree : Tree
  work : Pipeline.Session := {}
  launches : List Launch := []
  deriving Inhabited

/-- How a run ends before its command returns. -/
inductive Exit where
  /-- The run exits with a code. -/
  | code (n : Nat)
  /-- The run dies of an error, with the error's name and message. -/
  | crash (kind message : String)
  deriving Repr, Inhabited, BEq

/-- Work of the command line. -/
abbrev CliM := ExceptT Exit (StateM Effects)

/-- Writes text on standard output. -/
def echo (text : String) : CliM Unit := modify fun e => { e with out := e.out ++ text }

/-- Writes text on standard error. -/
def echoErr (text : String) : CliM Unit := modify fun e => { e with err := e.err ++ text }

/-- Ends the run with an exit code. -/
def exitWith {α : Type} (code : Nat) : CliM α := throw (.code code)

/-- Ends the run with an error. -/
def crash {α : Type} (kind message : String) : CliM α := throw (.crash kind message)

/-- Prints markup on the console of standard error, or of standard output when `toOut` is set. -/
def say (toOut : Bool) (markup : String) : CliM Unit :=
  match printed consoleWidth markup with
  | .ok text => if toOut then echo text else echoErr text
  | .error e => crash e.kind e.message

/-- Prints a table on the console of standard error, or of standard output when `toOut` is set. -/
def sayTable (toOut : Bool) (t : Table) : CliM Unit :=
  match printedTable consoleWidth t with
  | .ok text => if toOut then echo text else echoErr text
  | .error e => crash e.kind e.message

/-- Runs pipeline work in the run's session; input the pipeline refuses, or an error it does not
catch, ends the run. -/
def work {α : Type} (w : Pipeline.Work α) : CliM α := do
  let e ← get
  match w.run e.work with
  | .ok (a, s) =>
    set { e with work := s }
    pure a
  | .error (.input err) => crash "InputError" err.message
  | .error (.crash kind message) => crash kind message

/-- A path as the path library writes it. -/
def pathText (path : String) : String :=
  let root :=
    if path.startsWith "//" && !path.startsWith "///" then "//"
    else if path.startsWith "/" then "/" else ""
  let parts := (path.splitOn "/").filter fun p => p != "" && p != "."
  let text := root ++ "/".intercalate parts
  if text.isEmpty then "." else text

/-- Two paths joined by a slash, the second taken as it is. -/
def joinPath (a b : String) : String :=
  if b.startsWith "/" then b else if a.isEmpty || a.endsWith "/" then a ++ b else a ++ "/" ++ b

/-- The text of a path given by its components from the root. -/
def absoluteText (comps : List String) : String := Files.pathText comps

/-- The error a file could not be read for, as the system words it. -/
def Errno.line (e : Errno) (path : String) : String :=
  let (n, text) := e.describe
  "[Errno " ++ toString n ++ "] " ++ text ++ ": " ++ Json.quoteLiteral path

/-- The bytes of a file. -/
def readBytes (cwd : List String) (path : String) : CliM (Except Errno ByteArray) := do
  let t := (← get).tree
  match t.read cwd path with
  | .ok (some bytes) => pure (.ok bytes)
  | .ok none => pure (.error .noEntry)
  | .error e => pure (.error e)

/-- Text read from bytes, lenient or strict, with line ends unified; a strict read of bytes that
are not UTF-8 ends the run. -/
def textOf (bytes : ByteArray) (lenient : Bool) : CliM String :=
  if lenient then pure (String.ofList (unifyLineEnds (decodeUtf8Lenient bytes).toList))
  else
    match decodeUtf8 bytes with
    | .ok s => pure (String.ofList (unifyLineEnds s.toList))
    | .error e => crash "UnicodeDecodeError" (e.message bytes)

/-- Whether a path leads to a directory and whether it exists at all: `none` when it does not. -/
def probe (t : Tree) (cwd : List String) (path : String) : Option Bool :=
  match t.stat cwd path with
  | .ok .dir => some true
  | .ok _ => some false
  | .error _ => none

end SecScan.Cli
