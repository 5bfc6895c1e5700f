import SecScan.Scan
import SecScan.Config.Settings
import SecScan.Http.Request
import SecScan.Json.Literal

/-!
Findings from a SonarQube server. The tool asks the server's issue search for the unresolved
issues of one file and turns each into a finding on that file: SonarQube's severities map onto
the tool's (blockers and criticals are critical, majors high, infos low, anything else medium),
its issue types onto readable titles, and an issue whose line is missing, not an integer or past
the end of the file is dropped. When the server cannot be asked, or answers with something other
than a list of issues, the file is scanned locally instead and the reason is kept, so a fallback
is never silent.
-/

namespace SecScan.Sonar

open SecScan.Config SecScan.Http SecScan.Text

/-- The tool's severity for a SonarQube severity; an error when the severity is neither empty
nor text. -/
def mapSeverity (severity : Json) : Except String Severity :=
  if !severity.truthy then .ok .medium
  else
    match severity with
    | .str s =>
      match toUpper s with
      | "BLOCKER" => .ok .critical
      | "CRITICAL" => .ok .critical
      | "MAJOR" => .ok .high
      | "MINOR" => .ok .medium
      | "INFO" => .ok .low
      | _ => .ok .medium
    | other => .error ("'" ++ other.typeName ++ "' object has no attribute 'upper'")

/-- The title of a SonarQube issue type, in upper case. -/
def typeTitle : String → String
  | "VULNERABILITY" => "Vulnerability"
  | "SECURITY_HOTSPOT" => "Security Hotspot"
  | "BUG" => "Bug"
  | "CODE_SMELL" => "Code Smell"
  | _ => "Vulnerability"

/-- A field's value when it counts as true. -/
def given (issue : Json) (key : String) : Option Json := (issue.field? key).filter Json.truthy

/-- The finding for an issue on a file of `lines`, or `none` when its line is not on the file.
A finding keeps the issue's key as its id when the issue has one. -/
def issueFinding (issue : Json) (lines : List String) (language fileName : String) :
    Except String (Option Finding) := do
  let (line, isFlag) := match (given issue "line").getD (.int 1) with
    | .int n => (some n, false)
    | .bool _ => (some 1, true)
    | _ => (none, false)
  match line with
  | none => pure none
  | some n =>
    if !(0 < n && n ≤ max lines.length 1) then pure none
    else
      let severity ← mapSeverity ((issue.field? "severity").getD .null)
      pure (some
        { ruleId := ((given issue "rule").map Json.display).getD "sonarqube:issue"
          kind := typeTitle (toUpper (Json.display ((issue.field? "type").getD (.str ""))))
          severity := severity, line := n, lineIsFlag := isFlag
          message := ((given issue "message").map Json.display).getD ""
          sourceLine := some (lines.getD (n - 1).toNat "")
          language := language, fileName := fileName, origin := "sonarqube"
          id := ((given issue "key").map Json.display).getD "" })

/-- The authorization for a token: the token as the user, with no password. -/
def tokenAuth (s : SonarSettings) : Option (String × String) :=
  if s.token.isEmpty then none else some (s.token, "")

/-- The server's address without trailing slashes, followed by `path`. -/
def endpoint (s : SonarSettings) (path : String) : String := trimEndBy (· == '/') s.url ++ path

/-- The issue search for a component. -/
def issuesRequest (s : SonarSettings) (component : String) : Request :=
  { method := "GET", url := endpoint s "/api/issues/search"
    params := [("componentKeys", component), ("resolved", "false")], auth := tokenAuth s }

/-- The status request that tests the connection. -/
def statusRequest (s : SonarSettings) : Request :=
  { method := "GET", url := endpoint s "/api/system/status", auth := tokenAuth s }

/-- Whether a reply to a request to `path` is a success, or why not. -/
def checkReply (path : String) (reply : Reply) : Except String Reply :=
  match reply with
  | .failure m => .error ("SonarQube request failed: " ++ m)
  | r =>
    match r.status? with
    | some s =>
      if Reply.isSuccessStatus s then .ok r
      else .error ("SonarQube returned HTTP " ++ toString s ++ " for " ++ path)
    | none => .ok r

/-- The issues in a reply to the issue search, read in a function with `room`, or why there are
none; an error outside when the body nests too deep to be read. The body is decoded one call
down, and decoding takes two levels before it reads values. -/
def readIssues (room : Nat) (reply : Reply) : Except Json.ReadError (Except String (List Json)) := do
  match checkReply "/api/issues/search" reply with
  | .error m => pure (.error m)
  | .ok r =>
    let doc ← r.document (room - 3)
    pure <| match doc >>= (·.field? "issues") with
      | none => .error "SonarQube issue search returned an unexpected body"
      | some (.arr issues) => .ok issues
      | some _ => .error "SonarQube issue list is not an array"

/-- Whether the server answered the status request. -/
def connected (reply : Reply) : Bool := (checkReply "/api/system/status" reply).toBool

/-- Why findings could not be fetched at all. -/
inductive FetchError where
  /-- An issue's severity is neither empty nor text, with the message. -/
  | badSeverity (message : String)
  /-- The local scan refused its input. -/
  | input (e : InputError)
  /-- The reply's body could not be read for nesting too deep. -/
  | unreadable (e : Json.ReadError)

/-- The name of the kind of a fetch error. -/
def FetchError.kind : FetchError → String
  | .badSeverity _ => "AttributeError"
  | .input _ => "InputError"
  | .unreadable e => e.kind

/-- The message of a fetch error. -/
def FetchError.message : FetchError → String
  | .badSeverity m => m
  | .input e => e.message
  | .unreadable e => (e.describe).1

/-- Findings for one file and where they came from. -/
structure FetchResult where
  findings : List Finding
  /-- Why the server could not be used, when the file was scanned locally instead. -/
  error : Option String := none
  deriving Inhabited

/-- Whether the findings came from a local scan. -/
def FetchResult.fellBack (r : FetchResult) : Bool := r.error.isSome

/-- The finding an issue of the search gives on a file's lines: none for an issue that is not an
object, and an error for an object whose severity cannot be read. -/
def issueStep (lines : List String) (lang fileName : String) (issue : Json) :
    Except FetchError (Option Finding) :=
  match issue with
  | .obj _ => (issueFinding issue lines lang fileName).mapError .badSeverity
  | _ => pure none

/-- The findings for a file from the reply to its issue search, or from a local scan when the
reply does not hold issues. An error when an issue's severity is neither empty nor text, or the
local scan refuses its input. The fetch has `room`, and asks for the issues one call down. -/
def fetch (room : Nat) (reply : Reply) (text language fileName : String) :
    Except FetchError FetchResult := do
  let issues ← (readIssues (room - 1) reply).mapError .unreadable
  match issues with
  | .error e =>
    match Scan.run text language fileName with
    | .ok found => pure { findings := found, error := some e }
    | .error e => throw (.input e)
  | .ok issues =>
    let lines := Scan.splitLines text
    let lang := (Language.normalize language).name
    let found ← issues.filterMapM (issueStep lines lang fileName)
    pure { findings := found }

end SecScan.Sonar
