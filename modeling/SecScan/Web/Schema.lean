import SecScan.Finding
import SecScan.Json.Lax

/-!
The request bodies of the web interface and how a decoded body is checked against them. Every
field is checked, in the order the body declares them, and every problem found is reported with
its kind and the path to the value, so one answer names all that is wrong with a body. Values are
taken leniently where the meaning is clear: a flag may be written as `"yes"`, `1` or `1.0`, a
whole number as `"12"` or `12.0`, and an unknown severity reads as medium. A field with a wire
name may also be given under its own name, the wire name winning when both are present.
-/

namespace SecScan.Web

/-- A problem with a body: its kind, where it is, as a path of keys and positions, and the value
found there (for a missing field, the object it is missing from). -/
structure Problem where
  kind : String
  loc : List Json
  input : Json
  deriving Repr, Inhabited, BEq

/-- The reported form of a problem. -/
def Problem.toJson (p : Problem) : Json :=
  .obj [("type", .str p.kind), ("loc", .arr p.loc), ("input", p.input)]

/-- A checked value, or every problem found on the way to it. -/
abbrev Checked := Except (List Problem)

/-- One problem of a kind at a path, with the value found there. -/
def refuse {α : Type} (kind : String) (path : List Json) (input : Json) : Checked α :=
  .error [⟨kind, path, input⟩]

/-- Both values, or the problems of both, the first one's first. -/
def both {α β : Type} : Checked α → Checked β → Checked (α × β)
  | .ok a, .ok b => .ok (a, b)
  | .error e, .ok _ => .error e
  | .ok _, .error e => .error e
  | .error e, .error f => .error (e ++ f)

/-- A text. -/
def text (path : List Json) : Json → Checked String
  | .str s => .ok s
  | v => refuse "string_type" path v

/-- A text or nothing. -/
def optText (path : List Json) : Json → Checked (Option String)
  | .null => .ok none
  | v => some <$> text path v

/-- A flag, read as a boolean field is. -/
def flag (path : List Json) (v : Json) : Checked Bool :=
  match Lax.bool v with
  | .ok b => .ok b
  | .error kind => refuse kind path v

/-- A whole number, read as an integer field is. -/
def whole (path : List Json) (v : Json) : Checked Int :=
  match Lax.int v with
  | .ok n => .ok n
  | .error kind => refuse kind path v

/-- A whole number within bounds. -/
def wholeWithin (path : List Json) (low : Int) (high : Option Int) (v : Json) : Checked Int := do
  let n ← whole path v
  if high.any (n > ·) then refuse "less_than_equal" path v
  else if n < low then refuse "greater_than_equal" path v
  else pure n

/-- A severity: text is read with the case of its letters ignored, and text naming no severity
is medium. -/
def severity (path : List Json) : Json → Checked Severity
  | .str s => .ok ((Severity.ofName? (String.ofList (s.toList.map Char.toLower))).getD .medium)
  | v => refuse "enum" path v

/-- The value of a field, looked up by its wire name, else by its own name, with the key found. -/
def lookup (fields : List (String × Json)) (wire name : String) : Option (String × Json) :=
  match fields.lookup wire with
  | some v => some (wire, v)
  | none => (fields.lookup name).map (name, ·)

/-- A field that must be present. -/
def required {α : Type} (fields : List (String × Json)) (path : List Json) (wire name : String)
    (check : List Json → Json → Checked α) : Checked α :=
  match lookup fields wire name with
  | some (key, v) => check (path ++ [.str key]) v
  | none => refuse "missing" (path ++ [.str wire]) (.obj fields)

/-- A field with a default. -/
def optional {α : Type} (fields : List (String × Json)) (path : List Json) (wire name : String)
    (default : α) (check : List Json → Json → Checked α) : Checked α :=
  match lookup fields wire name with
  | some (key, v) => check (path ++ [.str key]) v
  | none => .ok default

/-- The fields of a body that must be an object. -/
def objectFields (path : List Json) : Json → Checked (List (String × Json))
  | .obj fields => .ok fields
  | v => refuse "model_attributes_type" path v

/-- A request to scan a text. -/
structure ScanRequest where
  code : String
  fileName : String
  language : String
  enrich : Bool
  analyzeFile : Bool
  deriving Repr

/-- Checks a scan request. -/
def ScanRequest.check (path : List Json) (v : Json) : Checked ScanRequest := do
  let fields ← objectFields path v
  let ((code, fileName), (language, (enrich, analyzeFile))) ← both
    (both (required fields path "code" "code" text)
      (optional fields path "fileName" "file_name" "" text))
    (both (required fields path "language" "language" text)
      (both (optional fields path "enrich" "enrich" true flag)
        (optional fields path "analyzeFile" "analyze_file" false flag)))
  pure ⟨code, fileName, language, enrich, analyzeFile⟩

/-- A finding as the client last saw it. -/
structure FindingSummary where
  id : Option String
  ruleId : Option String
  kind : String
  severity : Severity
  line : Int
  description : String
  message : String
  confidence : Int
  suggestedFix : Option String
  explanation : Option String
  deriving Repr

/-- Checks a finding summary. -/
def FindingSummary.check (path : List Json) (v : Json) : Checked FindingSummary := do
  let fields ← objectFields path v
  let (((id, ruleId), (kind, sev)), ((line, description), ((message, confidence), (fix, why)))) ←
    both
      (both
        (both (optional fields path "id" "id" none optText)
          (optional fields path "ruleId" "rule_id" none optText))
        (both (required fields path "type" "type" text)
          (optional fields path "severity" "severity" .medium Web.severity)))
      (both
        (both (required fields path "line" "line" fun p => wholeWithin p 1 none)
          (optional fields path "description" "description" "" text))
        (both
          (both (optional fields path "message" "message" "" text)
            (optional fields path "confidence" "confidence" 70 fun p => wholeWithin p 0 (some 100)))
          (both (optional fields path "suggestedFix" "suggested_fix" none optText)
            (optional fields path "explanation" "explanation" none optText))))
  pure ⟨id, ruleId, kind, sev, line, description, message, confidence, fix, why⟩

/-- A request to fix one finding. -/
structure FixRequest where
  vulnerability : FindingSummary
  code : String
  fileName : String
  language : String
  sessionId : Option String
  deriving Repr

/-- Checks a fix request. -/
def FixRequest.check (path : List Json) (v : Json) : Checked FixRequest := do
  let fields ← objectFields path v
  let ((summary, code), (fileName, (language, sessionId))) ← both
    (both (required fields path "vulnerability" "vulnerability" FindingSummary.check)
      (required fields path "code" "code" text))
    (both (optional fields path "fileName" "file_name" "" text)
      (both (required fields path "language" "language" text)
        (optional fields path "sessionId" "session_id" none optText)))
  pure ⟨summary, code, fileName, language, sessionId⟩

/-- A request to fix every finding of a text or a session. -/
structure FixAllRequest where
  code : String
  fileName : String
  language : String
  sessionId : Option String
  deriving Repr

/-- Checks a request to fix every finding. -/
def FixAllRequest.check (path : List Json) (v : Json) : Checked FixAllRequest := do
  let fields ← objectFields path v
  let ((code, fileName), (language, sessionId)) ← both
    (both (required fields path "code" "code" text)
      (optional fields path "fileName" "file_name" "" text))
    (both (required fields path "language" "language" text)
      (optional fields path "sessionId" "session_id" none optText))
  pure ⟨code, fileName, language, sessionId⟩

/-- A request for the SonarQube findings of a text. -/
structure SonarRequest where
  code : String
  fileName : String
  language : String
  component : Option String
  deriving Repr

/-- Checks a SonarQube request. -/
def SonarRequest.check (path : List Json) (v : Json) : Checked SonarRequest := do
  let fields ← objectFields path v
  let ((code, fileName), (language, component)) ← both
    (both (required fields path "code" "code" text)
      (optional fields path "fileName" "file_name" "" text))
    (both (required fields path "language" "language" text)
      (optional fields path "component" "component" none optText))
  pure ⟨code, fileName, language, component⟩

end SecScan.Web
