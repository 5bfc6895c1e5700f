import SecScan.Rule.Basic
import SecScan.Json.Basic

/-!
Findings: a weakness reported on one line of a text, with the rule that flagged it, where the
match starts, how confident the tool is, and what became of it. Findings get their ids from a
supply that issues twelve-digit hexadecimal labels in sequence, so two runs that make the same
findings agree on everything but, possibly, the ids.
-/

namespace SecScan

/-- Where a finding stands. -/
inductive FindingStatus where
  | detected
  | analyzing
  | fixed
  | failed
  deriving DecidableEq, Repr, Inhabited

namespace FindingStatus

/-- The name of a status. -/
def name : FindingStatus → String
  | .detected => "detected"
  | .analyzing => "analyzing"
  | .fixed => "fixed"
  | .failed => "failed"

/-- The status with a given name. -/
def ofName? : String → Option FindingStatus
  | "detected" => some .detected
  | "analyzing" => some .analyzing
  | "fixed" => some .fixed
  | "failed" => some .failed
  | _ => none

end FindingStatus

/-- A weakness found on a line. -/
structure Finding where
  ruleId : String
  /-- The title of the weakness, as reported. -/
  kind : String
  severity : Severity
  /-- The line number, counting from 1. -/
  line : Int
  message : String
  confidence : Int := 70
  status : FindingStatus := .detected
  /-- Where the match starts on its line, counting from 1. -/
  column : Int := 1
  matchedText : String := ""
  /-- The line as it was scanned, carriage return included. -/
  sourceLine : Option String := none
  language : String := ""
  fileName : String := ""
  /-- Who reported the finding: `rule`, `ai` or `sonarqube`. -/
  origin : String := "rule"
  suggestedFix : Option String := none
  explanation : Option String := none
  attemptedFix : Option String := none
  id : String := ""
  /-- Whether the line was given as the boolean `true`; it then counts as line 1 and is
  reported as given. -/
  lineIsFlag : Bool := false
  deriving Inhabited, Repr

namespace Finding

/-- The reported form of the line number. -/
def lineJson (f : Finding) : Json := if f.lineIsFlag then .bool true else .int f.line

/-- The line number as text. -/
def lineText (f : Finding) : String := if f.lineIsFlag then "True" else toString f.line

/-- The wire form of a finding. -/
def toJson (f : Finding) : Json :=
  .obj [("id", .str f.id), ("ruleId", .str f.ruleId), ("type", .str f.kind),
    ("severity", .str f.severity.name), ("line", f.lineJson), ("column", .int f.column),
    ("message", .str f.message), ("description", .str f.message),
    ("confidence", .int f.confidence), ("status", .str f.status.name),
    ("file", .str f.fileName), ("language", .str f.language), ("origin", .str f.origin),
    ("code", Json.optStr f.sourceLine), ("suggestedFix", Json.optStr f.suggestedFix),
    ("explanation", Json.optStr f.explanation), ("attemptedFix", Json.optStr f.attemptedFix)]

/-- The wire form with the matched text. -/
def toReport (f : Finding) : Json :=
  match f.toJson with
  | .obj fields => .obj (fields ++ [("matchedText", .str f.matchedText)])
  | other => other

/-- The parts of a finding that can change after it is made. -/
def stateJson (f : Finding) : Json :=
  .obj [("status", .str f.status.name), ("attemptedFix", Json.optStr f.attemptedFix),
    ("confidence", .int f.confidence), ("suggestedFix", Json.optStr f.suggestedFix),
    ("explanation", Json.optStr f.explanation), ("language", .str f.language)]

end Finding

/-- Twelve lower-case hexadecimal digits, zero-padded. -/
def hex12 (n : Nat) : String :=
  let digits := Nat.toDigits 16 n
  String.ofList (List.replicate (12 - digits.length) '0' ++ digits)

/-- A supply of ids: the `k`-th id issued is `k` in twelve hexadecimal digits. -/
structure IdSupply where
  issued : Nat := 0
  deriving Inhabited, Repr

namespace IdSupply

/-- The next id, and the supply after it. -/
def fresh (s : IdSupply) : String × IdSupply := (hex12 (s.issued + 1), ⟨s.issued + 1⟩)

/-- Gives each finding the next id, in order. -/
def label (s : IdSupply) : List Finding → List Finding × IdSupply
  | [] => ([], s)
  | f :: rest =>
    let (id, s) := s.fresh
    let (labelled, s) := label s rest
    ({ f with id := id } :: labelled, s)

/-- Draws an id for each finding, in order, like `label`; a finding that already has an id keeps
it, and the id drawn for it goes unused. -/
def stamp (s : IdSupply) : List Finding → List Finding × IdSupply
  | [] => ([], s)
  | f :: rest =>
    let (id, s) := s.fresh
    let (stamped, s) := stamp s rest
    ((if f.id.isEmpty then { f with id := id } else f) :: stamped, s)

end IdSupply

end SecScan
