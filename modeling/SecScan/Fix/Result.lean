import SecScan.Finding

/-!
What fixing a finding produced: whether the line was rewritten, where the replacement came from
(the rule, an assistant's suggestion, or a review marker put above the line), the whole text
afterwards, and the line-level change. A batch collects one result per finding, in the order the
findings were given.
-/

namespace SecScan

/-- Where a replacement line came from. -/
inductive FixSource where
  | rule
  | ai
  | marker
  deriving DecidableEq, Repr, Inhabited

/-- The name of a fix source. -/
def FixSource.name : FixSource → String
  | .rule => "rule"
  | .ai => "ai"
  | .marker => "marker"

/-- One line-level edit, made or attempted. -/
structure FixChange where
  line : Int
  original : String
  fixed : String
  reason : String := ""
  deriving Repr, Inhabited

/-- The outcome of fixing one finding. -/
structure FixResult where
  findingId : String
  status : FindingStatus
  fixedCode : String
  originalLine : String := ""
  fixedLine : Option String := none
  source : Option FixSource := none
  explanation : String := ""
  confidence : Int := 0
  reason : Option String := none
  changes : List FixChange := []
  deriving Repr, Inhabited

namespace FixResult

/-- Whether the line was rewritten. -/
def success (r : FixResult) : Bool := r.status == .fixed

/-- The wire form of a result. -/
def toJson (r : FixResult) : Json :=
  .obj [("success", .bool r.success), ("findingId", .str r.findingId),
    ("status", .str r.status.name), ("fixedCode", .str r.fixedCode),
    ("originalLine", .str r.originalLine), ("fixedLine", Json.optStr r.fixedLine),
    ("source", Json.optStr (r.source.map FixSource.name)), ("explanation", .str r.explanation),
    ("confidence", .int r.confidence), ("reason", Json.optStr r.reason),
    ("changes", .arr (r.changes.map fun c => .obj [("line", .int c.line),
      ("original", .str c.original), ("fixed", .str c.fixed), ("reason", .str c.reason)]))]

end FixResult

/-- The outcome of fixing many findings against one text. -/
structure BatchResult where
  fixedCode : String
  results : List FixResult
  deriving Repr, Inhabited

namespace BatchResult

/-- How many findings were fixed. -/
def fixedCount (b : BatchResult) : Nat := (b.results.filter FixResult.success).length

/-- How many findings were not fixed. -/
def failedCount (b : BatchResult) : Nat := (b.results.filter (!·.success)).length

/-- The wire form of a batch. -/
def toJson (b : BatchResult) : Json :=
  .obj [("success", .bool true), ("fixedCode", .str b.fixedCode), ("fixed", .int b.fixedCount),
    ("failed", .int b.failedCount), ("results", .arr (b.results.map FixResult.toJson))]

end BatchResult

end SecScan
