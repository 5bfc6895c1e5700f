import SecScan.Analysis.Bridge
import SecScan.Fix.Apply

/-!
The scan pipeline: the scanner, enrichment and the fix applier behind one interface. A scan runs
the catalog over a text, optionally asks the service for findings the catalog missed (keeping
only those whose line and type no earlier finding has), and enriches every finding. A fix uses
the rule's own fix when there is one, else the finding's suggestion when it is usable, else a
fresh suggestion from the service. The work draws finding ids and calls the service, both kept
in one session state, so every result is a function of its inputs.
-/

namespace SecScan.Pipeline

open SecScan.Analysis SecScan.Config

/-- What a run of the pipeline has used so far: the service calls made and the ids drawn. -/
structure Session where
  calls : List Call := []
  ids : IdSupply := {}
  deriving Inhabited

/-- Why pipeline work stopped: the input was refused, or an error of another kind, with its kind
and message, was not caught. -/
inductive WorkError where
  | input (e : InputError)
  | crash (kind message : String)
  deriving Repr, Inhabited

/-- Pipeline work: it may refuse its input or stop on an error, and it keeps the session. -/
abbrev Work := StateT Session (Except WorkError)

/-- Runs service work inside pipeline work. -/
def withCalls {α : Type} (m : Calls α) : Work α := fun s =>
  let (a, calls) := m.run s.calls
  .ok (a, { s with calls := calls })

/-- Runs service work that may stop on an error inside pipeline work. -/
def withCallsOrCrash {α : Type} (m : Calls (Except (String × String) α)) : Work α := do
  match ← withCalls m with
  | .ok a => pure a
  | .error (kind, message) => throw (.crash kind message)

/-- Gives each finding the next id. -/
def labelAll (fs : List Finding) : Work (List Finding) := fun s =>
  let (out, ids) := s.ids.label fs
  .ok (out, { s with ids := ids })

/-- The result of scanning one text. -/
structure ScanReport where
  fileName : String
  language : String
  findings : List Finding
  enrichment : Summary
  deriving Inhabited

/-- How many findings are critical. -/
def ScanReport.criticalCount (r : ScanReport) : Nat :=
  (r.findings.filter fun f => f.severity == .critical).length

/-- The reported form of a scan, without timings. -/
def ScanReport.toJson (r : ScanReport) : Json :=
  .obj [("fileName", .str r.fileName), ("language", .str r.language),
    ("criticalCount", .int r.criticalCount), ("enrichment", r.enrichment.toJson),
    ("findings", .arr (r.findings.map Finding.toReport))]

/-- Adds the extra findings whose line and type no finding before them has. -/
def addNew (found extra : List Finding) : List Finding :=
  extra.foldl (fun acc f =>
    if acc.any fun g => g.line == f.line && g.kind == f.kind then acc else acc ++ [f]) found

/-- Scans a text, with `room`, in an event loop with room `loop`; with `enrich` and a service,
first adds the service's own findings when `wholeFile` is set, then enriches them all. -/
def scan (room loop : Nat) (svc : Option Service) (settings : LlmSettings)
    (text language fileName : String) (enrich wholeFile : Bool) : Work ScanReport := do
  let found ← match Scan.run text language fileName with
    | .ok fs => pure fs
    | .error e => throw (.input e)
  let found ← labelAll found
  let lang := (Language.normalize language).name
  match svc, enrich with
  | some _, true =>
    let found ← if wholeFile then do
        let extra ← labelAll (← withCalls (analyzeFile (room - 1) svc text fileName lang))
        pure (addNew found extra)
      else pure found
    let (summary, found) ← withCallsOrCrash (enrichAll loop svc settings found text lang)
    pure { fileName := fileName, language := lang, findings := found, enrichment := summary }
  | _, _ =>
    pure { fileName := fileName, language := lang, findings := found
           enrichment := { provider := (svc.map (·.name)).getD "" } }

/-- The first of the texts that is not empty, or `generic`. -/
def fixLanguage (language : Option String) (f : Finding) : String :=
  let given := (language.filter (!·.isEmpty)).getD (if f.language.isEmpty then "generic" else f.language)
  (Language.normalize given).name

/-- Whether a finding's line is on the text and has no rule fix, so a suggestion is wanted. -/
def wantsSuggestion (f : Finding) (lines : List String) : Bool :=
  0 < f.line && f.line ≤ lines.length &&
    (Gate.ruleFixFor f.ruleId (lines.getD (f.line - 1).toNat "")).isNone

/-- Fixes one finding, with `room`: the rule's fix, else its usable suggestion, else a fresh
one. -/
def fix (room : Nat) (svc : Option Service) (f : Finding) (text : String) (language : Option String) :
    Work (FixResult × Finding) := do
  let lang := fixLanguage language f
  let f := if f.language.isEmpty then { f with language := lang } else f
  let (suggestion, f) ←
    if wantsSuggestion f (Scan.splitLines text) then
      if Gate.isUsableFix f.suggestedFix lang then pure (f.suggestedFix, f)
      else withCalls (suggestFix (room - 1) svc f text lang)
    else pure (none, f)
  pure (Fix.apply f text suggestion)

/-- Fresh suggestions, keyed by finding id, for the findings on the text that have neither a rule
fix nor a usable suggestion of their own, asked for with `room`. -/
def collectSuggestions (room : Nat) (svc : Option Service) (findings : List Finding) (text language : String) :
    Work (List (String × String)) := do
  let lang := (Language.normalize language).name
  let lines := Scan.splitLines text
  findings.foldlM (fun acc f => do
    if !wantsSuggestion f lines || Gate.isUsableFix f.suggestedFix lang then pure acc
    else
      let (suggestion, _) ← withCalls (suggestFix (room - 1) svc f text lang)
      match suggestion with
      | some s => pure (if s.isEmpty then acc else setPair acc f.id s)
      | none => pure acc) []
where
  /-- Sets the suggestion for an id, keeping the place of an earlier one. -/
  setPair (acc : List (String × String)) (id s : String) : List (String × String) :=
    if acc.any (·.1 == id) then acc.map fun p => if p.1 == id then (id, s) else p
    else acc ++ [(id, s)]

end SecScan.Pipeline
