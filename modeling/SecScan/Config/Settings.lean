import SecScan.Yaml.Load
import SecScan.Text.Utf8
import SecScan.Config.Address
import SecScan.Json.Literal
import SecScan.Number.Read
import SecScan.Text.Blank
import SecScan.Text.Case

/-!
The tool's settings: the completion service (`llm`), the scanner (`scan`), the SonarQube server
(`sonarqube`) and the dashboard (`web`). Settings start from their defaults; a configuration
file, then any number of mappings, are laid over them section by section, and environment
variables last. Each setting keeps the type of its default: a value given for it is converted to
that type (numbers from text, text from numbers, `yes`/`no` words to booleans) or refused with a
message naming the setting, the type and the value as written in the program's own notation.
Checking the settings lists every problem found, in a fixed order.
-/

namespace SecScan.Config

open SecScan.Text SecScan.Data

/-- Why settings could not be read. -/
inductive ConfigError where
  /-- A value or a file that cannot be taken, with the message. -/
  | invalid (message : String)
  /-- An integer too large for a float setting. -/
  | tooLarge
  /-- A URL whose bracketed host is malformed, with the message. -/
  | badUrl (message : String)
  /-- A layer of settings that is not a mapping, with the name of its type. -/
  | notMapping (typeName : String)
  /-- Reading a configuration file stopped with an error of another kind, with its kind and
  message. -/
  | failed (kind message : String)
  deriving Repr, BEq

namespace ConfigError

/-- The name of the kind of error. -/
def kind : ConfigError → String
  | .invalid _ => "ConfigError"
  | .tooLarge => "OverflowError"
  | .badUrl _ => "ValueError"
  | .notMapping _ => "AttributeError"
  | .failed kind _ => kind

/-- The message of an error. -/
def message : ConfigError → String
  | .invalid m => m
  | .tooLarge => "int too large to convert to float"
  | .badUrl m => m
  | .notMapping t => "'" ++ t ++ "' object has no attribute 'get'"
  | .failed _ m => m

end ConfigError

/-- The kind of value a setting holds. A setting whose current value is of any other type takes
values as text, and is named by that type in messages. -/
inductive Kind where
  | flag
  | whole
  | real
  | names
  | text (typeName : String)
  deriving Repr, BEq, Inhabited

/-- The name of a kind in messages. -/
def Kind.name : Kind → String
  | .flag => "bool"
  | .whole => "int"
  | .real => "float"
  | .names => "list"
  | .text t => t

/-- The kind of a setting whose current value is `current`. -/
def Kind.ofCurrent (current : Json) : Kind :=
  match current with
  | .bool _ => .flag
  | .int _ => .whole
  | .float _ => .real
  | .arr _ => .names
  | other => .text other.typeName

/-- The refusal of `value`, in heap `h`, for the setting `name` of kind `kind`. -/
def refuse {α : Type} (name : String) (kind : Kind) (h : Heap) (value : Value) :
    Except ConfigError α :=
  if h.holdsLongInt value then .error (.failed "ValueError" longIntMessage)
  else .error (.invalid ("Config value " ++ name ++ " must be " ++ kind.name ++ ", got " ++ h.text value))

/-- The words read as true. -/
def trueWords : List String := ["1", "true", "yes", "on"]

/-- The words read as false. -/
def falseWords : List String := ["0", "false", "no", "off"]

/-- A boolean setting: a boolean, or one of the words for true and false in any case, blanks
around it ignored. -/
def toFlag (name : String) (h : Heap) (value : Value) : Except ConfigError Bool :=
  match value with
  | .bool b => .ok b
  | .str s =>
    let w := toLower (strip s)
    if trueWords.contains w then .ok true
    else if falseWords.contains w then .ok false
    else refuse name .flag h value
  | _ => refuse name .flag h value

/-- An integer setting: an integer, or text holding one. -/
def toWhole (name : String) (h : Heap) (value : Value) : Except ConfigError Int :=
  match value with
  | .int n => .ok n
  | .str s =>
    match Number.readInt? (strip s) with
    | some n => .ok n
    | none => refuse name .whole h value
  | _ => refuse name .whole h value

/-- A float setting: a number, or text holding one. -/
def toReal (name : String) (h : Heap) (value : Value) : Except ConfigError Binary64 :=
  match value with
  | .int n =>
    match Binary64.ofInt n with
    | .infinity _ => .error .tooLarge
    | x => .ok x
  | .float x => .ok x
  | .nanOf _ => .ok .nan
  | .str s =>
    match Number.readFloat? (strip s) with
    | some x => .ok x
    | none => refuse name .real h value
  | _ => refuse name .real h value

/-- The text of a value that is text. -/
def textOf? : Value → Option String
  | .str s => some s
  | _ => none

/-- A list setting: a list of texts. -/
def toNames (name : String) (h : Heap) (value : Value) : Except ConfigError (List String) :=
  match (h.items? value).bind fun items => items.toList.mapM textOf? with
  | some names => .ok names
  | none => refuse name .names h value

/-- A text setting: text, a number written out, or nothing for null. -/
def toText (name : String) (kindName : String) (h : Heap) (value : Value) :
    Except ConfigError String :=
  match value with
  | .none => .ok ""
  | .str s => .ok s
  | .int n => if tooLongToWrite n then refuse name (.text kindName) h value else .ok (toString n)
  | .float x => .ok x.toText
  | .nanOf _ => .ok "nan"
  | _ => refuse name (.text kindName) h value

/-- Converts `value` for the setting `name` whose current value is `current`. -/
def coerce (name : String) (value current : Json) : Except ConfigError Json :=
  let doc := Document.ofJson value
  let h := doc.heap
  let v := doc.root
  match Kind.ofCurrent current with
  | .flag => (toFlag name h v).map .bool
  | .whole => (toWhole name h v).map .int
  | .real => (toReal name h v).map .float
  | .names => (toNames name h v).map fun l => .arr (l.map .str)
  | .text t => (toText name t h v).map .str

/-- A setting of a section: its name, and how a value given for it under a full name changes
the section. -/
structure Field (σ : Type) where
  name : String
  update : String → Heap → Value → σ → Except ConfigError σ

/-- A number of seconds as a float. -/
def seconds (n : Nat) : Binary64 := Binary64.ofInt n

/-- The completion service. -/
structure LlmSettings where
  provider : String := "groq"
  model : String := ""
  apiKey : String := ""
  baseUrl : String := ""
  enabled : Bool := true
  /-- Seconds allowed for each call. -/
  timeout : Binary64 := seconds 20
  /-- Seconds allowed for a whole scan. -/
  deadline : Binary64 := seconds 60
  maxConcurrency : Int := 4
  maxTokens : Int := 1000
  temperature : Binary64 := Binary64.ofDecimal false 2 (-1)
  confidenceThreshold : Int := 85
  deriving Repr, Inhabited

/-- The scanner. -/
structure ScanSettings where
  defaultLanguage : String := "generic"
  excludePatterns : List String := []
  maxFileSize : Int := 1048576
  deriving Repr, Inhabited

/-- The SonarQube server. -/
structure SonarSettings where
  url : String := "http://localhost:9000"
  token : String := ""
  projectKey : String := "sast-integration"
  timeout : Binary64 := seconds 30
  deriving Repr, Inhabited

/-- The dashboard. -/
structure WebSettings where
  host : String := "127.0.0.1"
  port : Int := 8480
  maxSessions : Int := 100
  deriving Repr, Inhabited

/-- All settings. -/
structure Settings where
  llm : LlmSettings := {}
  scan : ScanSettings := {}
  sonarqube : SonarSettings := {}
  web : WebSettings := {}
  deriving Repr, Inhabited

/-- The services settings can name. -/
def providers : List String := ["openai", "groq", "anthropic", "ollama"]

/-- The model each service uses unless one is set. -/
def defaultModel : String → String
  | "openai" => "gpt-4o-mini"
  | "groq" => "llama3-70b-8192"
  | "anthropic" => "claude-3-5-haiku-latest"
  | "ollama" => "llama3"
  | _ => ""

/-- The address each service is reached at unless one is set. -/
def defaultBaseUrl : String → String
  | "openai" => "https://api.openai.com/v1"
  | "groq" => "https://api.groq.com/openai/v1"
  | "anthropic" => "https://api.anthropic.com"
  | "ollama" => "http://127.0.0.1:11434"
  | _ => ""

/-- The environment variable holding each service's key; the empty name for others. -/
def keyVariable : String → String
  | "openai" => "OPENAI_API_KEY"
  | "groq" => "GROQ_API_KEY"
  | "anthropic" => "ANTHROPIC_API_KEY"
  | _ => ""

namespace LlmSettings

/-- The model in use. -/
def resolvedModel (s : LlmSettings) : String :=
  if s.model.isEmpty then defaultModel s.provider else s.model

/-- The service's address, without trailing slashes. -/
def resolvedBaseUrl (s : LlmSettings) : String :=
  let url := if s.baseUrl.isEmpty then defaultBaseUrl s.provider else s.baseUrl
  trimEndBy (· == '/') url

/-- Whether the service needs a key: all but a local Ollama server do. -/
def needsApiKey (s : LlmSettings) : Bool := s.provider != "ollama"

/-- The settings of the section, by name. -/
def fields : List (Field LlmSettings) :=
  [⟨"provider", fun n h v s => (toText n "str" h v).map fun x => { s with provider := x }⟩,
   ⟨"model", fun n h v s => (toText n "str" h v).map fun x => { s with model := x }⟩,
   ⟨"api_key", fun n h v s => (toText n "str" h v).map fun x => { s with apiKey := x }⟩,
   ⟨"base_url", fun n h v s => (toText n "str" h v).map fun x => { s with baseUrl := x }⟩,
   ⟨"enabled", fun n h v s => (toFlag n h v).map fun x => { s with enabled := x }⟩,
   ⟨"timeout", fun n h v s => (toReal n h v).map fun x => { s with timeout := x }⟩,
   ⟨"deadline", fun n h v s => (toReal n h v).map fun x => { s with deadline := x }⟩,
   ⟨"max_concurrency", fun n h v s => (toWhole n h v).map fun x => { s with maxConcurrency := x }⟩,
   ⟨"max_tokens", fun n h v s => (toWhole n h v).map fun x => { s with maxTokens := x }⟩,
   ⟨"temperature", fun n h v s => (toReal n h v).map fun x => { s with temperature := x }⟩,
   ⟨"confidence_threshold", fun n h v s =>
     (toWhole n h v).map fun x => { s with confidenceThreshold := x }⟩]

/-- The section as reported. -/
def toJson (s : LlmSettings) : Json :=
  .obj [("provider", .str s.provider), ("model", .str s.model), ("api_key", .str s.apiKey),
    ("base_url", .str s.baseUrl), ("enabled", .bool s.enabled), ("timeout", .float s.timeout),
    ("deadline", .float s.deadline), ("max_concurrency", .int s.maxConcurrency),
    ("max_tokens", .int s.maxTokens), ("temperature", .float s.temperature),
    ("confidence_threshold", .int s.confidenceThreshold)]

end LlmSettings

/-- The settings of the scanner section, by name. -/
def ScanSettings.fields : List (Field ScanSettings) :=
  [⟨"default_language", fun n h v s => (toText n "str" h v).map fun x => { s with defaultLanguage := x }⟩,
   ⟨"exclude_patterns", fun n h v s => (toNames n h v).map fun x => { s with excludePatterns := x }⟩,
   ⟨"max_file_size", fun n h v s => (toWhole n h v).map fun x => { s with maxFileSize := x }⟩]

/-- The scanner section as reported. -/
def ScanSettings.toJson (s : ScanSettings) : Json :=
  .obj [("default_language", .str s.defaultLanguage),
    ("exclude_patterns", .arr (s.excludePatterns.map .str)), ("max_file_size", .int s.maxFileSize)]

/-- The settings of the SonarQube section, by name. -/
def SonarSettings.fields : List (Field SonarSettings) :=
  [⟨"url", fun n h v s => (toText n "str" h v).map fun x => { s with url := x }⟩,
   ⟨"token", fun n h v s => (toText n "str" h v).map fun x => { s with token := x }⟩,
   ⟨"project_key", fun n h v s => (toText n "str" h v).map fun x => { s with projectKey := x }⟩,
   ⟨"timeout", fun n h v s => (toReal n h v).map fun x => { s with timeout := x }⟩]

/-- The SonarQube section as reported. -/
def SonarSettings.toJson (s : SonarSettings) : Json :=
  .obj [("url", .str s.url), ("token", .str s.token), ("project_key", .str s.projectKey),
    ("timeout", .float s.timeout)]

/-- The settings of the dashboard section, by name. -/
def WebSettings.fields : List (Field WebSettings) :=
  [⟨"host", fun n h v s => (toText n "str" h v).map fun x => { s with host := x }⟩,
   ⟨"port", fun n h v s => (toWhole n h v).map fun x => { s with port := x }⟩,
   ⟨"max_sessions", fun n h v s => (toWhole n h v).map fun x => { s with maxSessions := x }⟩]

/-- The dashboard section as reported. -/
def WebSettings.toJson (s : WebSettings) : Json :=
  .obj [("host", .str s.host), ("port", .int s.port), ("max_sessions", .int s.maxSessions)]

/-- Lays the values given for a section over it, in their order: the section is the value
under its name in `layer`, a mapping in heap `h`, and counts as absent when it is null, false,
zero or empty. Names the section does not have, and keys that are not text, are passed over. -/
def layOver {σ : Type} (fields : List (Field σ)) (sectionName : String) (h : Heap) (layer : Value)
    (s : σ) : Except ConfigError σ := do
  let values ←
    match h.lookup layer sectionName with
    | none => pure #[]
    | some v =>
      if !h.truthy v then pure #[]
      else
        match h.entries? v with
        | some values => pure values
        | none => throw (.invalid ("Config section '" ++ sectionName ++ "' must be a mapping"))
  values.foldlM (fun s (key, value) =>
    match key with
    | .str k =>
      match fields.find? (·.name == k) with
      | some f => f.update (sectionName ++ "." ++ k) h value s
      | none => pure s
    | _ => pure s) s

/-- The value of an environment variable that is set and not empty. -/
def envValue (env : List (String × String)) (name : String) : Option String :=
  (env.lookup name).filter (!·.isEmpty)

/-- A setting read from the value of a variable when there is one, else its current value. -/
def fromEnv {α : Type} (given : Option String) (read : String → Except ConfigError α)
    (current : α) : Except ConfigError α :=
  match given with
  | some v => read v
  | none => pure current

namespace Settings

/-- Lays a mapping of sections over the settings. -/
def merge (s : Settings) (layer : Document) : Except ConfigError Settings := do
  let llm ← layOver LlmSettings.fields "llm" layer.heap layer.root s.llm
  let scan ← layOver ScanSettings.fields "scan" layer.heap layer.root s.scan
  let sonarqube ← layOver SonarSettings.fields "sonarqube" layer.heap layer.root s.sonarqube
  let web ← layOver WebSettings.fields "web" layer.heap layer.root s.web
  pure ⟨llm, scan, sonarqube, web⟩

/-- Applies the environment: variables that are set and not empty override settings. The
service is set first, since it decides which variable may hold the key. -/
def applyEnv (s : Settings) (env : List (String × String)) : Except ConfigError Settings := do
  let given := envValue env
  let provider := ((given "AISAST_PROVIDER").map toLower).getD s.llm.provider
  let model := (given "AISAST_MODEL").getD s.llm.model
  let baseUrl := (given "AISAST_BASE_URL").getD s.llm.baseUrl
  let apiKey := (given "AISAST_API_KEY" <|> given (keyVariable provider)).getD s.llm.apiKey
  let enabled ← fromEnv (given "AISAST_ENRICH") (toFlag "AISAST_ENRICH" {} <| .str ·) s.llm.enabled
  let timeout ← fromEnv (given "AISAST_TIMEOUT") (toReal "AISAST_TIMEOUT" {} <| .str ·) s.llm.timeout
  let deadline ← fromEnv (given "AISAST_DEADLINE") (toReal "AISAST_DEADLINE" {} <| .str ·)
    s.llm.deadline
  let maxConcurrency ← fromEnv (given "AISAST_MAX_CONCURRENCY")
    (toWhole "AISAST_MAX_CONCURRENCY" {} <| .str ·) s.llm.maxConcurrency
  let port ← fromEnv (given "AISAST_WEB_PORT") (toWhole "AISAST_WEB_PORT" {} <| .str ·) s.web.port
  let url := (given "SONARQUBE_URL").getD s.sonarqube.url
  let token := (given "SONARQUBE_TOKEN").getD s.sonarqube.token
  pure { s with
    llm := { s.llm with provider, model, baseUrl, apiKey, enabled, timeout, deadline, maxConcurrency }
    web := { s.web with port }
    sonarqube := { s.sonarqube with url, token } }

/-- Whether a float lies between two integers, both included; never for NaN. -/
def within (lo hi : Int) (x : Binary64) : Bool :=
  (x.compareInt lo == some .gt || x.compareInt lo == some .eq) &&
    (x.compareInt hi == some .lt || x.compareInt hi == some .eq)

/-- Every problem with the settings, in order; an error when a URL cannot be taken apart. -/
def problems (s : Settings) : Except ConfigError (List String) := do
  let llm := s.llm
  let check (bad : Bool) (message : String) : List String := if bad then [message] else []
  let baseUrlBad ←
    if llm.baseUrl.isEmpty then pure false
    else (Address.isWebUrl llm.baseUrl).map (!·) |>.mapError .badUrl
  let sonarUrlBad ← (Address.isWebUrl s.sonarqube.url).map (!·) |>.mapError .badUrl
  pure <|
    check (!providers.contains llm.provider)
      ("Unknown LLM provider '" ++ llm.provider ++ "' (expected one of: " ++ ", ".intercalate providers ++ ")") ++
    check (!within 1 300 llm.timeout) "LLM timeout must be between 1 and 300 seconds" ++
    check (llm.deadline.lt llm.timeout) "Scan deadline must not be shorter than the per-call timeout" ++
    check (llm.maxConcurrency < 1) "LLM max concurrency must be at least 1" ++
    check (!(0 ≤ llm.confidenceThreshold && llm.confidenceThreshold ≤ 100))
      "AI confidence threshold must be between 0 and 100" ++
    check (!(100 ≤ llm.maxTokens && llm.maxTokens ≤ 8000)) "AI max tokens must be between 100 and 8000" ++
    check (!within 0 2 llm.temperature) "AI temperature must be between 0 and 2" ++
    check baseUrlBad "LLM base URL is not valid" ++
    check sonarUrlBad "SonarQube URL is not valid" ++
    check (!within 1 300 s.sonarqube.timeout) "SonarQube timeout must be between 1 and 300 seconds"

end Settings

/-- The kinds of completion service client. -/
inductive ClientKind where
  /-- The chat completions interface, for OpenAI and Groq. -/
  | chatCompletions
  | anthropic
  | ollama
  deriving Repr, BEq, DecidableEq, Inhabited

/-- The name of a client kind. -/
def ClientKind.className : ClientKind → String
  | .chatCompletions => "OpenAICompatibleProvider"
  | .anthropic => "AnthropicProvider"
  | .ollama => "OllamaProvider"

/-- The client kind for a service. -/
def ClientKind.ofProvider? : String → Option ClientKind
  | "openai" => some .chatCompletions
  | "groq" => some .chatCompletions
  | "anthropic" => some .anthropic
  | "ollama" => some .ollama
  | _ => none

/-- The client the settings call for: none when enrichment is off, the service is unknown, or a
key is needed and missing. -/
def LlmSettings.client? (s : LlmSettings) : Option ClientKind :=
  if !s.enabled then none
  else
    match ClientKind.ofProvider? s.provider with
    | none => none
    | some k => if s.needsApiKey && s.apiKey.isEmpty then none else some k

/-- The error for a configuration file that cannot be read because it does not exist. -/
def missingFile (path : String) : ConfigError :=
  .invalid ("Cannot read config file " ++ path ++ ": [Errno 2] No such file or directory: " ++
    Json.quoteLiteral path)

/-- How deep a configuration file read to serve a request may nest (see `Yaml.load`). -/
def fileRoom : Nat := 492

/-- The mapping a configuration file at `path` holds, its line ends unified as reading the file
unifies them: empty for an empty document or null, an error for text that is not YAML or a
document that is not a mapping. The file may nest as deep as `room` allows. -/
def readFile (room : Nat) (path text : String) : Except ConfigError Document :=
  match Yaml.load room (String.ofList (unifyLineEnds text.toList)) with
  | .error (.invalid m) => .error (.invalid ("Invalid YAML in " ++ path ++ ": " ++ m))
  | .error (.crash kind m) => .error (.failed kind m)
  | .ok none => .ok (Document.ofJson (.obj []))
  | .ok (some doc) =>
    match doc.root with
    | .none => .ok (Document.ofJson (.obj []))
    | root =>
      if (doc.heap.entries? root).isSome then .ok doc
      else .error (.invalid "Config YAML must be a mapping")

namespace Settings

/-- Settings from the defaults, with a configuration file's text laid over them (its name is
`path` in messages, and it may nest as deep as `room` allows), then each further layer in order,
then the environment. -/
def build (room : Nat) (path : String) (file : Option String) (layers : List Json)
    (env : List (String × String)) : Except ConfigError Settings := do
  let s : Settings := {}
  let s ← match file with
    | some text => readFile room path text >>= s.merge
    | none => pure s
  let s ← layers.foldlM (fun s layer =>
    match layer with
    | .obj _ => s.merge (Document.ofJson layer)
    | other => throw (.notMapping other.typeName)) s
  s.applyEnv env

/-- A summary of the settings: every section, the model and address in use, the client the
settings call for and every problem with them; an error when an integer setting is too long
to write out. -/
def summary (s : Settings) : Except ConfigError Json := do
  let problems ← s.problems
  let wholes := [s.llm.maxConcurrency, s.llm.maxTokens, s.llm.confidenceThreshold,
    s.scan.maxFileSize, s.web.port, s.web.maxSessions]
  if wholes.any tooLongToWrite then throw (.failed "ValueError" longIntMessage)
  let client := s.llm.client?
  pure (.obj [("llm", s.llm.toJson), ("resolvedModel", .str s.llm.resolvedModel),
    ("resolvedBaseUrl", .str s.llm.resolvedBaseUrl), ("needsApiKey", .bool s.llm.needsApiKey),
    ("scan", s.scan.toJson), ("sonarqube", s.sonarqube.toJson), ("web", s.web.toJson),
    ("provider", match client with | some k => .str k.className | none => .null),
    ("providerName", match client with | some _ => .str s.llm.provider | none => .null),
    ("errors", .arr (problems.map .str))])

end Settings

end SecScan.Config
