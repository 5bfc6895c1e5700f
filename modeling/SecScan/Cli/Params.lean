import SecScan.Diff.Matcher
import SecScan.Json.Literal
import SecScan.Number.Read
import SecScan.Text.Blank
import SecScan.Text.WordChar

/-!
Command line parameters: options, which are named, and arguments, which are positional.

Parsing reads options first. An argument starting with `-` and longer than that is an option:
a long name (`--config`, or `--config=FILE` with its value attached), or else a run of one-letter
names (`-vc FILE`, `-cFILE`), where a name taking a value takes the rest of the run or the next
argument. `--` ends the options. A command reads options anywhere among its arguments; a group
stops at its first argument that is not an option, the name of its subcommand. The words left
over are handed to the arguments in order, each taking one, and what remains is extra.

The parameters are then processed: the eager ones first (help and version, which stop the run),
then the rest in the order they were given, then those not given in the order they are
declared. Processing checks each value against its type, and a missing required argument is an
error. Errors are usage errors, reported with the command's usage line.
-/

namespace SecScan.Cli

open SecScan.Json SecScan.Text

/-- What a value on the command line must be. -/
inductive ValueType where
  | text
  | integer
  /-- A path that must exist; `dirOkay` says whether it may be a directory. -/
  | existingPath (dirOkay : Bool)
  deriving DecidableEq, Repr, Inhabited

/-- The name a type goes by, in help and in messages. -/
def ValueType.name : ValueType → String
  | .text => "text"
  | .integer => "integer"
  | .existingPath dirOkay => if dirOkay then "path" else "file"

/-- What giving an option does. -/
inductive Takes where
  /-- It takes a value of a type. -/
  | value (type : ValueType)
  /-- It takes no value: its names set it on and its off names set it off. -/
  | flag (offNames : List String)
  deriving Repr, Inhabited

/-- An option: the key its value is kept under, its names, what it takes, its help line, and
whether it is processed before the others. -/
structure Opt where
  key : String
  names : List String
  takes : Takes
  help : String
  eager : Bool := false
  deriving Repr, Inhabited

/-- A positional argument: the key its value is kept under, whether it must be given, and its
type. -/
structure Arg where
  key : String
  required : Bool := true
  type : ValueType := .text
  deriving Repr, Inhabited

/-- A parameter of a command. -/
inductive Param where
  | opt (o : Opt)
  | arg (a : Arg)
  deriving Repr, Inhabited

/-- The key of a parameter. -/
def Param.key : Param → String
  | .opt o => o.key
  | .arg a => a.key

/-- Whether a parameter is processed before the others. -/
def Param.eager : Param → Bool
  | .opt o => o.eager
  | .arg _ => false

/-- A command: its name, its help text and its parameters in declaration order. -/
structure Command where
  name : String
  help : String
  params : List Param
  deriving Repr, Inhabited

/-- The help option every command has. -/
def helpOption : Opt :=
  { key := "help", names := ["--help"], takes := .flag [], help := "Show this message and exit.",
    eager := true }

/-- Whether an option name is one dash and one character. -/
def isShortName (name : String) : Bool :=
  match name.toList with
  | ['-', c] => c != '-'
  | _ => false

namespace Command

/-- The options of a command, its help option last. -/
def options (c : Command) : List Opt :=
  (c.params.filterMap fun | .opt o => some o | .arg _ => none) ++ [helpOption]

/-- The arguments of a command. -/
def arguments (c : Command) : List Arg :=
  c.params.filterMap fun | .arg a => some a | .opt _ => none

/-- Every parameter, the help option last. -/
def allParams (c : Command) : List Param := c.params ++ [.opt helpOption]

/-- Every name of an option with whether it sets the option on. -/
def names (c : Command) : List (String × Opt × Bool) :=
  c.options.flatMap fun o =>
    let offNames := match o.takes with
      | .flag offs => offs
      | .value _ => []
    o.names.map (fun n => (n, o, true)) ++ offNames.map fun n => (n, o, false)

/-- The long names of a command's options, in the order they are declared. -/
def longNames (c : Command) : List String :=
  (c.names.filter fun (n, _, _) => !isShortName n).map (·.1)

/-- The option a long name stands for. -/
def long? (c : Command) (name : String) : Option (Opt × Bool) :=
  (c.names.find? fun (n, _, _) => n == name && !isShortName n).map (·.2)

/-- The option a one-letter name stands for. -/
def short? (c : Command) (name : String) : Option (Opt × Bool) :=
  (c.names.find? fun (n, _, _) => n == name && isShortName n).map (·.2)

end Command

/-- A value as given on the command line. -/
inductive Given where
  | text (value : String)
  | flag (on : Bool)
  /-- An argument with no word left for it. -/
  | absent
  deriving DecidableEq, Repr, Inhabited

/-- What parsing has read so far: the value given for each key (the last one counts), the keys
in the order they were given, the words put aside for the arguments, and the words not read. -/
structure Parsed where
  values : List (String × Given) := []
  order : List String := []
  left : List String := []
  rest : List String := []
  deriving Repr, Inhabited

/-- Records a value given for a key. -/
def Parsed.give (p : Parsed) (key : String) (v : Given) : Parsed :=
  { p with values := (key, v) :: p.values.filter (·.1 != key), order := p.order ++ [key] }

/-- The message for an option that needs a value and has none. -/
def needsValue (name : String) : String :=
  "Option " ++ quoteLiteral name ++ " requires an argument."

/-- Why words could not be parsed: an unknown option, reported with the command's usage, or an
option given without the value it needs or with one it does not take, reported alone. -/
inductive ParseError where
  | usage (message : String)
  | bare (message : String)
  deriving DecidableEq, Repr, Inhabited

/-- The message for an unknown option, with the close matches among the known names. -/
def noSuchOption (name : String) (close : List String) : String :=
  let base := "No such option " ++ quoteLiteral name ++ "."
  match close.mergeSort fun a b => a ≤ b with
  | [] => base
  | [m] => base ++ " Did you mean " ++ quoteLiteral m ++ "?"
  | ms => base ++ " (Did you mean one of: " ++ ", ".intercalate (ms.map quoteLiteral) ++ "?)"

/-- Reads a run of one-letter options: the characters after the dash, then the words after. -/
def takeShort (c : Command) : List Char → List String → Parsed → Except ParseError (List String × Parsed)
  | [], words, p => .ok (words, p)
  | ch :: more, words, p =>
    let name := String.ofList ['-', ch]
    match c.short? name with
    | none => .error (.usage (noSuchOption name []))
    | some (o, on) =>
      match o.takes with
      | .flag _ => takeShort c more words (p.give o.key (.flag on))
      | .value _ =>
        if more.isEmpty then
          match words with
          | w :: rest => .ok (rest, p.give o.key (.text w))
          | [] => .error (.bare (needsValue name))
        else .ok (words, p.give o.key (.text (String.ofList more)))

/-- Reads one option word, then what it takes from the words after it. -/
def takeOption (c : Command) (word : String) (words : List String) (p : Parsed) :
    Except ParseError (List String × Parsed) :=
  let (name, attached) := match word.splitOn "=" with
    | first :: second :: more => (first, some ("=".intercalate (second :: more)))
    | _ => (word, none)
  match c.long? name with
  | some (o, on) =>
    match o.takes, attached with
    | .value _, some v => .ok (words, p.give o.key (.text v))
    | .value _, none =>
      match words with
      | w :: rest => .ok (rest, p.give o.key (.text w))
      | [] => .error (.bare (needsValue name))
    | .flag _, some _ => .error (.bare ("Option " ++ quoteLiteral name ++ " does not take a value."))
    | .flag _, none => .ok (words, p.give o.key (.flag on))
  | none =>
    if word.startsWith "--" then .error (.usage (noSuchOption name (Diff.closeMatches name c.longNames)))
    else takeShort c (word.toList.drop 1) words p

/-- Reads options from the words; `interspersed` lets other words come between them. -/
def readOptions (c : Command) (interspersed : Bool) : Nat → List String → Parsed → Except ParseError Parsed
  | 0, words, p => .ok { p with rest := words }
  | _, [], p => .ok p
  | fuel + 1, word :: words, p =>
    if word == "--" then .ok { p with rest := words }
    else if word.startsWith "-" && word.length > 1 then
      match takeOption c word words p with
      | .ok (words, p) => readOptions c interspersed fuel words p
      | .error e => .error e
    else if interspersed then readOptions c interspersed fuel words { p with left := p.left ++ [word] }
    else .ok { p with rest := word :: words }

/-- Parses words: the options, then a word for each argument. The result holds what was given
and the words left over. -/
def Command.parse (c : Command) (interspersed : Bool) (words : List String) :
    Except ParseError (Parsed × List String) := do
  let p ← readOptions c interspersed (words.length + 1) words {}
  let remaining := p.left ++ p.rest
  let (p, extra) := c.arguments.foldl (fun (acc : Parsed × List String) a =>
    let (p, ws) := acc
    match ws with
    | w :: more => (p.give a.key (.text w), more)
    | [] => (p.give a.key .absent, [])) ({ p with left := [], rest := [] }, remaining)
  pure (p, extra)

/-- A processed value. -/
inductive Value where
  | none
  | text (value : String)
  | whole (value : Int)
  | flag (on : Bool)
  deriving DecidableEq, Repr, Inhabited

/-- Why processing stopped early: a usage error, or a request for help or the version. -/
inductive Halt where
  | usage (message : String)
  | help
  | version
  deriving DecidableEq, Repr, Inhabited

/-- How a parameter is named in an error about its value. -/
def Param.hint : Param → String
  | .opt o => " / ".intercalate (o.names.map fun n => "'" ++ n ++ "'")
  | .arg a => "'" ++ a.key.toUpper ++ "'"

/-- Checks a word against a type; `probe` tells whether a path exists and is a directory. -/
def ValueType.check (probe : String → Option Bool) (word : String) : ValueType → Except String Value
  | .text => .ok (.text word)
  | .integer =>
    match Number.readIntIn? word 10 with
    | some n => .ok (.whole n)
    | none => .error (quoteLiteral word ++ " is not a valid integer.")
  | .existingPath dirOkay =>
    let kind := if dirOkay then "Path" else "File"
    match probe word with
    | none => .error (kind ++ " " ++ quoteLiteral word ++ " does not exist.")
    | some true => if dirOkay then .ok (.text word) else .error (kind ++ " " ++ quoteLiteral word ++ " is a directory.")
    | some false => .ok (.text word)

/-- Processes one parameter: its value checked against its type, or its default. -/
def Param.process (probe : String → Option Bool) (given : Option Given) : Param → Except Halt Value
  | .opt o =>
    match o.takes, given with
    | .value type, some (.text w) =>
      match type.check probe w with
      | .ok v => .ok v
      | .error e => .error (.usage ("Invalid value for " ++ Param.hint (.opt o) ++ ": " ++ e))
    | .value _, _ => .ok .none
    | .flag _, some (.flag on) =>
      if on && o.key == "help" then .error .help
      else if on && o.key == "version" then .error .version
      else .ok (.flag on)
    | .flag _, _ => .ok (.flag false)
  | .arg a =>
    match given with
    | some (.text w) =>
      match a.type.check probe w with
      | .ok v => .ok v
      | .error e => .error (.usage ("Invalid value for " ++ Param.hint (.arg a) ++ ": " ++ e))
    | _ =>
      if a.required then .error (.usage ("Missing argument " ++ Param.hint (.arg a) ++ "."))
      else .ok .none

/-- The parameters in processing order: eager ones first, then by the order they were given,
then those not given in declaration order. -/
def processingOrder (params : List Param) (order : List String) : List Param :=
  let rank (p : Param) : Bool × Nat := (!p.eager, (order.idxOf? p.key).getD order.length)
  params.mergeSort fun a b =>
    let (ea, ia) := rank a
    let (eb, ib) := rank b
    (!ea && eb) || (ea == eb && ia ≤ ib)

/-- Processes every parameter of a parse, in processing order. -/
def Command.process (c : Command) (probe : String → Option Bool) (p : Parsed) :
    Except Halt (List (String × Value)) :=
  (processingOrder c.allParams p.order).foldlM (fun acc param => do
    let v ← param.process probe (p.values.lookup param.key)
    pure (acc ++ [(param.key, v)])) []

/-- The message for words no parameter took. -/
def extraWords (words : List String) : String :=
  match words with
  | [w] => "Got unexpected extra argument (" ++ w ++ ")"
  | ws => "Got unexpected extra arguments (" ++ " ".intercalate ws ++ ")"

/-- Whether a word looks like an option: its first character is neither a letter nor a digit. -/
def looksLikeOption (word : String) : Bool :=
  match word.toList with
  | c :: _ => !(isWordChar c && c != '_')
  | [] => false

/-! Help text: a usage line, the help paragraph, and the options, each with its help. -/

/-- The usage pieces of a command's arguments. -/
def Command.argumentUsage (c : Command) : List String :=
  c.arguments.map fun a =>
    let name := a.key.toUpper
    if a.required then name else "[" ++ name ++ "]"

/-- The usage line of a command called as `path`, with the words after its options. -/
def usageLine (path : String) (pieces : List String) : String :=
  "Usage: " ++ path ++ " " ++ " ".intercalate ("[OPTIONS]" :: pieces)

/-- The words of a text laid out in lines at most `width` wide, each line after the first
starting with `indent`. -/
def fillWords (width : Nat) (indent : String) (text : String) : List String :=
  let words := (text.splitOn " ").filter (!·.isEmpty)
  let (lines, current) := words.foldl (fun (acc : List String × String) w =>
    let (lines, current) := acc
    if current.isEmpty then (lines, w)
    else if current.length + 1 + w.length ≤ width then (lines, current ++ " " ++ w)
    else (lines ++ [current], w)) ([], "")
  let lines := if current.isEmpty then lines else lines ++ [current]
  match lines with
  | [] => []
  | first :: more => first :: more.map (indent ++ ·)

/-- The term of an option in its help: its names, the shorter first, and its type's name for an
option taking a value. -/
def Opt.term (o : Opt) : String :=
  let ordered (ns : List String) :=
    ", ".intercalate ((ns.filter isShortName) ++ (ns.filter (!isShortName ·)))
  match o.takes with
  | .value type => ordered o.names ++ " " ++ type.name.toUpper
  | .flag [] => ordered o.names
  | .flag offs => ordered o.names ++ " / " ++ ordered offs

/-- A list of terms and their descriptions, indented two spaces, the descriptions lined up in a
column for terms of up to thirty characters; `width` is the width of the whole text. -/
def definitionList (width : Nat) (rows : List (String × String)) : List String :=
  let first := min ((rows.map (·.1.length)).foldl max 0) 30 + 2
  let textWidth := max (width - first - 2) 10
  rows.flatMap fun (term, text) =>
    let lead := "  " ++ term
    let body := fillWords textWidth (String.ofList (List.replicate (first + 2) ' ')) text
    match body with
    | [] => [lead]
    | b :: more =>
      if term.length ≤ first - 2 then
        (lead ++ String.ofList (List.replicate (first - term.length) ' ') ++ b) :: more
      else lead :: (String.ofList (List.replicate (first + 2) ' ') ++ b) :: more

/-- Drops words from the end of the words taken (latest first) until the text with `...` after
it fits `limit`; `total` counts the words taken and the `...`. -/
def dropToFit (limit : Nat) : Nat → List String → String
  | _, [] => "..."
  | _, [_] => "..."
  | total, w :: rest =>
    let total := total - (w.length + 1)
    if total ≤ limit then " ".intercalate rest.reverse ++ "..."
    else dropToFit limit total rest

/-- Takes words while they fit `limit`: up to the first word ending a sentence, or all of them;
a text that does not fit is cut at a word and ends in `...`. -/
def takeWords (limit : Nat) : Nat → List String → List String → String
  | _, [], taken => " ".intercalate taken.reverse
  | total, w :: more, taken =>
    let total := total + w.length + (if taken.isEmpty then 0 else 1)
    if total > limit then dropToFit limit (total + 3) (w :: taken)
    else if w.endsWith "." then " ".intercalate (w :: taken).reverse
    else if total == limit && !more.isEmpty then dropToFit limit (total + 3) (w :: taken)
    else takeWords limit total more (w :: taken)

/-- The short help of a help text: its first sentence, or as many words as fit `limit`
characters followed by `...`. -/
def shortHelp (limit : Nat) (text : String) : String :=
  let spaced := String.ofList (text.toList.map fun c => if c.isWhitespace then ' ' else c)
  takeWords limit 0 ((spaced.splitOn " ").filter (!·.isEmpty)) []

/-- The help text of a command called as `path`: usage, help paragraph, options and, for a
group, its subcommands with their short help. -/
def Command.helpText (c : Command) (path : String) (usagePieces : List String)
    (subcommands : List Command) : String :=
  let width := 78
  let options := c.options.map fun o => (o.term, o.help)
  let commandRows :=
    if subcommands.isEmpty then []
    else
      let limit := width - 6 - (subcommands.map (·.name.length)).foldl max 0
      let sorted := subcommands.mergeSort fun a b => a.name ≤ b.name
      ["", "Commands:"] ++ definitionList width (sorted.map fun s => (s.name, shortHelp limit s.help))
  let helpLines := (fillWords (width - 2) "" c.help).map ("  " ++ ·)
  "\n".intercalate ([usageLine path usagePieces, ""] ++ helpLines ++ ["", "Options:"] ++
    definitionList width options ++ commandRows)

end SecScan.Cli
