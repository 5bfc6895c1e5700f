import SecScan.Analysis.Bridge
import SecScan.Catalog.Basic
import SecScan.Config.Settings
import SecScan.Fix.Result

/-!
The store of recent scan sessions and of fix history behind the dashboard. A session is one
scanned text with its findings and the fixes recorded against it. The store keeps at most
`maxSessions` sessions, dropping the oldest first; a dropped session can no longer be looked up,
but whoever holds it may still fix its findings. Fix history is kept apart from sessions, at most
`maxHistory` records, so metrics outlive the sessions they came from.
-/

namespace SecScan.Session

open SecScan.Analysis SecScan.Config

/-- A fix attempt, kept for history and metrics. -/
structure FixRecord where
  id : String
  findingId : String
  kind : String
  severity : Severity
  success : Bool
  /-- Where the fix came from: `rule`, `ai`, `marker`, or `none`. -/
  source : String
  confidence : Int
  fileName : String
  reason : Option String
  deriving Repr, Inhabited

/-- The record of a fix attempt on a finding. -/
def FixRecord.ofResult (id : String) (f : Finding) (r : FixResult) : FixRecord :=
  { id := id, findingId := f.id, kind := f.kind, severity := f.severity, success := r.success
    source := (r.source.map FixSource.name).getD "none", confidence := r.confidence
    fileName := f.fileName, reason := r.reason }

/-- The reported form of a record, without its time. -/
def FixRecord.toJson (r : FixRecord) : Json :=
  .obj [("id", .str r.id), ("findingId", .str r.findingId), ("type", .str r.kind),
    ("severity", .str r.severity.name), ("success", .bool r.success), ("source", .str r.source),
    ("confidence", .int r.confidence), ("file", .str r.fileName), ("reason", Json.optStr r.reason)]

/-- One scanned text with its findings and the fixes recorded against it. -/
structure ScanSession where
  id : String
  fileName : String
  language : String
  findings : List Finding
  fixes : List FixRecord := []
  enrichment : Summary := {}
  deriving Inhabited

namespace ScanSession

/-- The first finding with an id. -/
def find? (s : ScanSession) (findingId : String) : Option Finding :=
  s.findings.find? (·.id == findingId)

/-- The reported form of a session, without its times; the full form lists its findings and
fixes. -/
def toJson (s : ScanSession) (full : Bool := true) : Json :=
  .obj ([("id", .str s.id), ("fileName", .str s.fileName), ("language", .str s.language),
    ("findingCount", .int s.findings.length), ("fixCount", .int s.fixes.length),
    ("enrichment", s.enrichment.toJson)] ++
    if full then
      [("vulnerabilities", .arr (s.findings.map Finding.toJson)),
       ("fixes", .arr (s.fixes.map FixRecord.toJson))]
    else [])

end ScanSession

/-- The store. -/
structure Store where
  maxSessions : Nat := 100
  maxHistory : Nat := 1000
  /-- The sessions in the store, oldest first. -/
  sessions : List ScanSession := []
  /-- Sessions dropped from the store, still held by those who added them. -/
  dropped : List ScanSession := []
  /-- Fix records, oldest first. -/
  history : List FixRecord := []
  deriving Inhabited

namespace Store

/-- An empty store with its bounds, each at least one. -/
def empty (maxSessions maxHistory : Int) : Store :=
  { maxSessions := (max 1 maxSessions).toNat, maxHistory := (max 1 maxHistory).toNat }

/-- Adds a session, dropping the oldest ones beyond the bound. -/
def addScan (st : Store) (s : ScanSession) : Store :=
  let all := st.sessions ++ [s]
  let excess := all.length - st.maxSessions
  { st with sessions := all.drop excess, dropped := st.dropped ++ all.take excess }

/-- The session in the store with an id. -/
def get? (st : Store) (id : String) : Option ScanSession := st.sessions.find? (·.id == id)

/-- A session with an id, in the store or dropped from it. -/
def held? (st : Store) (id : String) : Option ScanSession :=
  (st.get? id) <|> st.dropped.find? (·.id == id)

/-- The sessions, most recent first. -/
def list (st : Store) : List ScanSession := st.sessions.reverse

/-- The most recent session with a finding of an id, and that finding. -/
def findFinding? (st : Store) (findingId : String) : Option (ScanSession × Finding) :=
  st.list.findSome? fun s => (s.find? findingId).map (s, ·)

/-- Changes a session, in the store or dropped from it. -/
def modify (st : Store) (id : String) (change : ScanSession → ScanSession) : Store :=
  let touch (s : ScanSession) := if s.id == id then change s else s
  { st with sessions := st.sessions.map touch, dropped := st.dropped.map touch }

/-- Sets finding number `index` of a session. -/
def setFinding (st : Store) (id : String) (index : Nat) (f : Finding) : Store :=
  st.modify id fun s => { s with findings := s.findings.set index f }

/-- Records a fix: it joins the history, the oldest records beyond the bound leaving it, and the
fixes of the session in the store with `sessionId`, if there is one. -/
def recordFix (st : Store) (r : FixRecord) (sessionId : Option String) : Store :=
  let history := st.history ++ [r]
  let st := { st with history := history.drop (history.length - st.maxHistory) }
  match sessionId with
  | some id =>
    if (st.get? id).isSome then
      { st with sessions := st.sessions.map fun s => if s.id == id then { s with fixes := s.fixes ++ [r] } else s }
    else st
  | none => st

/-- The fix records, most recent first. -/
def recentFixes (st : Store) : List FixRecord := st.history.reverse

/-- Counts of the keys in order of first appearance. -/
def tally (keys : List String) : List (String × Nat) :=
  keys.foldl (fun acc k =>
    if acc.any (·.1 == k) then acc.map fun p => if p.1 == k then (k, p.2 + 1) else p
    else acc ++ [(k, 1)]) []

/-- The share of successful fixes in percent, to one decimal place. -/
def successRate (st : Store) : Binary64 :=
  let total := st.history.length
  let fixed := (st.history.filter (·.success)).length
  if total == 0 then Binary64.zero
  else ((Binary64.ofRatio false fixed total).mul (Binary64.ofInt 100)).roundPlaces 1

/-- The mean confidence of fixes, to one decimal place. -/
def averageConfidence (st : Store) : Binary64 :=
  let total := st.history.length
  let sum := (st.history.map (·.confidence)).foldl (· + ·) 0
  if total == 0 then Binary64.zero
  else (Binary64.ofRatio (sum < 0) sum.natAbs total).roundPlaces 1

/-- Statistics over the fix history. -/
def fixMetrics (st : Store) : Json :=
  .obj [("totalFixes", .int st.history.length),
    ("successfulFixes", .int (st.history.filter (·.success)).length),
    ("successRate", .float st.successRate), ("averageConfidence", .float st.averageConfidence),
    ("fixesByType", .obj ((tally (st.history.map (·.kind))).map fun (k, n) => (k, .int n))),
    ("fixesBySeverity", .obj ((tally (st.history.map (·.severity.name))).map fun (k, n) => (k, .int n)))]

/-- The tool's version. -/
def version : String := "0.1.0"

/-- A description of the detection model: a fixed catalog, never trained, whose accuracy is the
fix success rate once a fix has been recorded. -/
def modelStatus (st : Store) (llm : LlmSettings) (enrichmentEnabled : Bool) : Json :=
  .obj [("version", .str version), ("staticCatalog", .bool true), ("lastTraining", .null),
    ("languages", .arr ((Language.all.filter (· != .generic)).map fun l => .str l.name)),
    ("ruleCount", .int Catalog.allRules.length),
    ("provider", if enrichmentEnabled then .str llm.provider else .null),
    ("model", if enrichmentEnabled then .str llm.resolvedModel else .null),
    ("enrichmentEnabled", .bool enrichmentEnabled),
    ("accuracy", if st.history.isEmpty then .null else .float st.successRate),
    ("totalFixes", .int st.history.length)]

end Store

end SecScan.Session
