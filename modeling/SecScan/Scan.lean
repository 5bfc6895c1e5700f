import SecScan.Finding
import SecScan.Catalog.Basic

/-!
Scanning a text. The text is split at line feeds; each line, less a final carriage return, is
tried against every rule of the language in catalog order, and each rule that matches gives one
finding at the first match. An empty text has no findings. A scan refuses a language name that
is empty or only white space.
-/

namespace SecScan

open SecScan.Regex SecScan.Text

/-- Why a request was refused before any work. -/
inductive InputError where
  | textNotString
  | languageBlank
  deriving DecidableEq, Repr

/-- The message of an input error. -/
def InputError.message : InputError → String
  | .textNotString => "Source text must be a string"
  | .languageBlank => "Language must be a non-empty string"

namespace Scan

/-- The lines of a text: the pieces between line feeds. Line `n` is item `n - 1`. -/
def splitLines (text : String) : List String :=
  (text.toList.splitOn '\n').map String.ofList

/-- A line without its final carriage return. -/
def dropCarriage (raw : String) : String :=
  match raw.toList.reverse with
  | '\r' :: rest => String.ofList rest.reverse
  | _ => raw

/-- The finding a rule makes on a line, if it flags it. -/
def ruleFinding (lang : Language) (fileName : String) (lineNo : Nat) (raw : String)
    (rule : Rule) : Option Finding :=
  let line := dropCarriage raw
  (rule.detect.search line).map fun m =>
    { ruleId := rule.id, kind := rule.weakness.title, severity := rule.severity, line := lineNo
      message := rule.message, confidence := rule.defaultConfidence line
      column := m.start + 1
      matchedText := (Subject.ofText rule.detect line).slice m.start m.stop
      sourceLine := some raw, language := lang.name, fileName := fileName }

/-- The findings on one line, in catalog order. -/
def lineFindings (lang : Language) (fileName : String) (lineNo : Nat) (raw : String) :
    List Finding :=
  lang.rules.filterMap (ruleFinding lang fileName lineNo raw)

/-- The findings of a text, line by line; they have no ids yet. -/
def detect (text : String) (language : String) (fileName : String := "") : List Finding :=
  if text.isEmpty then []
  else
    let lang := Language.normalize language
    (splitLines text).zipIdx.flatMap fun (raw, i) => lineFindings lang fileName (i + 1) raw

/-- Scans a text, refusing a blank language name. -/
def run (text : String) (language : String) (fileName : String := "") :
    Except InputError (List Finding) :=
  if isBlankText language then .error .languageBlank else .ok (detect text language fileName)

end Scan

end SecScan
