import SecScan.Analysis.Reply
import SecScan.Analysis.Prompt
import SecScan.Config.Settings
import SecScan.Scan

/-!
Enriching findings through a completion service. One finding is enriched by asking for an
explanation, a replacement line and a confidence, and reading the reply; every failure is
recovered locally, with a reason. A whole pass enriches findings concurrently: at most
`max_concurrency` calls are in flight, a call that never answers holds its slot until the
per-call timeout, and when the pass's deadline comes every call still pending is abandoned and
counted as timed out. Calls start in the order of the findings, since each waits for the earliest
free slot in turn, and results are applied only when the pass ends, so the pass is a function of
the findings, the settings and what each call comes to. Time here is the virtual time of these
timeouts: answers that come at all come at once.

The service is also asked for findings the catalog does not cover, and for single replacement
lines when a finding has no usable fix.
-/

namespace SecScan.Analysis

open SecScan.Config SecScan.Json SecScan.Text

/-- What one call to the completion service came to. -/
inductive Outcome where
  /-- The completion text. -/
  | text (reply : String)
  /-- The service reported a failure, with its message. -/
  | failed (message : String)
  /-- The call gave up waiting. -/
  | timedOut
  /-- The client broke down, described by the text of its error. -/
  | crashed (description : String)
  /-- The call never answers; it ends when a timeout ends it. -/
  | silent
  deriving Repr, Inhabited

/-- A completion service: its name, and what its `n`-th call, counting from 0, with a system
text and a prompt comes to. -/
structure Service where
  name : String
  answer : Nat → String → String → Outcome

/-- A call made to the service. -/
structure Call where
  system : String
  prompt : String
  deriving Repr, BEq

/-- Work that calls the service; the state is every call made so far, in order. -/
abbrev Calls := StateM (List Call)

/-- Calls the service, recording the call. -/
def Service.call (svc : Service) (system prompt : String) : Calls Outcome := do
  let made ← get
  set (made ++ [⟨system, prompt⟩])
  pure (svc.answer made.length system prompt)

/-- How enriching one finding went. -/
inductive Enriched where
  | ok (e : Enrichment)
  | failed (reason : String) (timedOut : Bool)
  /-- Reading the reply stopped with an error that is not a value error, with its kind and
  message; it is not caught, so it stops whatever asked for the enrichment. -/
  | broken (kind message : String)
  deriving Repr, Inhabited

/-- The line a finding points at, or the empty text when it is off the text. -/
def targetLine (lines : List String) (line : Int) : String :=
  if 0 < line ∧ line ≤ lines.length then lines.getD (line - 1).toNat "" else ""

/-- Reads what the enrichment call came to, in an enrichment with `room`. -/
def readEnrichment (room : Nat) : Outcome → Enriched
  | .timedOut | .silent => .failed "timeout" true
  | .failed m => .failed m false
  | .crashed d => .failed ("provider error: " ++ d) false
  | .text reply =>
    match parseEnrichment (room - 1) reply with
    | .ok e => .ok e
    | .error e =>
      if e.isValueError then .failed ("unparseable reply: " ++ e.message) false
      else .broken e.kind e.message

/-- The enrichment prompt for a finding on a text of `lines`. -/
def enrichmentPrompt (f : Finding) (lines : List String) (language : String) : String :=
  findingPrompt f (codeContext lines f.line) (targetLine lines f.line) language

/-- Enriches one finding, with `room`; fails only when reading the reply stops with an error that
is not a value error. -/
def enrich (room : Nat) (svc : Option Service) (f : Finding) (lines : List String)
    (language : String) : Calls Enriched :=
  match svc with
  | none => pure (.failed "enrichment disabled" false)
  | some svc => readEnrichment room <$> svc.call analysisSystem (enrichmentPrompt f lines language)

/-- How an enrichment pass went. -/
structure Summary where
  provider : String := ""
  attempted : Nat := 0
  succeeded : Nat := 0
  failed : Nat := 0
  timedOut : Nat := 0
  deriving Repr, Inhabited, BEq

/-- The reported form of a summary. -/
def Summary.toJson (s : Summary) : Json :=
  .obj [("provider", .str s.provider), ("attempted", .int s.attempted),
    ("succeeded", .int s.succeeded), ("failed", .int s.failed), ("timedOut", .int s.timedOut)]

/-- Whether a call starting at time `t` runs before the pass stops at `stop`: calls that get a
slot at once always run. -/
def startsBefore (t stop : Binary64) : Bool := t.isZero || t.lt stop

/-- The earliest of the slots' free times, and the slots without it. -/
def takeEarliest : List Binary64 → Binary64 × List Binary64
  | [] => (Binary64.zero, [])
  | t :: rest =>
    let (best, others) := takeEarliest rest
    if rest.isEmpty || !best.lt t then (t, rest) else (best, t :: others)

/-- Runs the calls of a pass over `findings`, each waiting for the earliest free slot, until the
pass stops at `stop`. Gives each finding's result, `none` for one still pending at the stop.
Each call is a task of the event loop, whose room is `loop`, and enriches one level down. -/
def runPass (loop : Nat) (svc : Service) (timeout stop : Binary64) (lines : List String)
    (language : String) : List Binary64 → List Finding → Calls (List (Option Enriched))
  | _, [] => pure []
  | slots, f :: rest => do
    let (t, others) := takeEarliest slots
    if !startsBefore t stop then
      let later ← runPass loop svc timeout stop lines language slots rest
      pure (none :: later)
    else
      let outcome ← svc.call analysisSystem (enrichmentPrompt f lines language)
      match outcome with
      | .silent =>
        let done := t.add timeout
        let later ← runPass loop svc timeout stop lines language (done :: others) rest
        pure ((if done.lt stop then some (.failed "timeout" true) else none) :: later)
      | o =>
        let later ← runPass loop svc timeout stop lines language (t :: others) rest
        pure (some (readEnrichment (loop - 1) o) :: later)

/-- Applies one finding's result to the summary and findings so far: the finding ends detected,
and a successful one takes the reply's confidence, suggested fix and explanation. A result whose
reply could not be read for an error other than a value error stops the pass there with that
error's kind and message. -/
def applyResult (acc : Summary × List Finding) (entry : Finding × Option Enriched) :
    Except (String × String) (Summary × List Finding) :=
  let (s, out) := acc
  let f := { entry.1 with status := .detected }
  match entry.2 with
  | some (.ok e) =>
    .ok ({ s with succeeded := s.succeeded + 1 },
      out ++ [{ f with confidence := e.confidence, suggestedFix := e.suggestedFix
                       explanation := e.explanation }])
  | some (.failed _ false) => .ok ({ s with failed := s.failed + 1 }, out ++ [f])
  | some (.broken kind message) => .error (kind, message)
  | _ => .ok ({ s with timedOut := s.timedOut + 1 }, out ++ [f])

/-- Applies a pass's results, finding by finding, in the order of the findings. -/
def applyResults (provider : String) (findings : List Finding) (results : List (Option Enriched)) :
    Except (String × String) (Summary × List Finding) :=
  (findings.zip results).foldlM applyResult ({ provider := provider, attempted := findings.length }, [])

/-- The slots of a pass: `max_concurrency` of them, at least one and no more than there are
findings, all free at the start. -/
def passSlots (settings : LlmSettings) (count : Nat) : List Binary64 :=
  List.replicate (min count (max 1 settings.maxConcurrency).toNat) Binary64.zero

/-- Enriches every finding within the deadline, in tasks of an event loop with room `loop`; gives
the summary and the findings, or the kind and message of the error that stopped the pass. -/
def enrichAll (loop : Nat) (svc : Option Service) (settings : LlmSettings) (findings : List Finding)
    (text language : String) : Calls (Except (String × String) (Summary × List Finding)) :=
  match svc with
  | none => pure (.ok ({}, findings))
  | some svc =>
    if findings.isEmpty then pure (.ok ({ provider := svc.name }, findings))
    else do
      let results ← runPass loop svc settings.timeout settings.deadline (Scan.splitLines text)
        language (passSlots settings findings.length) findings
      pure (applyResults svc.name findings results)

/-- Where the caller's cancellation reaches a pass: at the pass's first wait, before any call has
run; while the pass waits for its calls, at a time no later than the deadline; while it collects
the calls its deadline cancelled; or after it returned. -/
inductive CancelPoint where
  | beforeCalls
  | waiting (time : Binary64)
  | collecting
  | afterReturn
  deriving Repr, Inhabited

/-- How a pass the caller cancels ends: the cancellation stopped it and the findings are as it left
them, or the pass ended first, with its summary and findings or the error that stopped it. -/
inductive CancelEnd where
  | stopped (findings : List Finding)
  | ended (result : Except (String × String) (Summary × List Finding))
  deriving Inhabited

/-- A pass the caller cancels at `point`, in tasks of an event loop with room `loop`. The pass
marks every finding as being analyzed before it waits for its calls. A cancellation while it
waits, with a call still pending, puts every finding's status back and stops the pass; one while
it collects the calls its deadline cancelled stops it with every finding still marked. A pass
whose calls all ended before the cancellation returns first. -/
def enrichAllCancelledAt (loop : Nat) (svc : Option Service) (settings : LlmSettings)
    (findings : List Finding) (text language : String) (point : CancelPoint) : Calls CancelEnd :=
  match svc with
  | none => pure (.ended (.ok ({}, findings)))
  | some svc =>
    if findings.isEmpty then pure (.ended (.ok ({ provider := svc.name }, findings)))
    else
      let pass (stop : Binary64) := runPass loop svc settings.timeout stop (Scan.splitLines text)
        language (passSlots settings findings.length) findings
      match point with
      | .beforeCalls => pure (.stopped findings)
      | .waiting time => do
        let results ← pass time
        if results.any Option.isNone then pure (.stopped findings)
        else pure (.ended (applyResults svc.name findings results))
      | .collecting => do
        let results ← pass settings.deadline
        if results.any Option.isNone then
          pure (.stopped (findings.map ({ · with status := .analyzing })))
        else pure (.ended (applyResults svc.name findings results))
      | .afterReturn => do
        let results ← pass settings.deadline
        pure (.ended (applyResults svc.name findings results))

/-- Where a cancellation `cancelAt` seconds after a pass over `count` findings began reaches it. A
cancellation after no time comes at the pass's first wait, before any call has run, and one no
later than the deadline while the pass waits. A later one comes after the pass returned, unless the
deadline had passed before the pass began to wait: the pass then stops waiting at once, and a
cancellation that falls due while the event loop is still starting the calls, taken as 50 µs a
call, comes while the pass collects the calls it cancelled. -/
def cancelPoint (settings : LlmSettings) (count : Nat) (cancelAt : Binary64) : CancelPoint :=
  if !Binary64.zero.lt cancelAt then .beforeCalls
  else if cancelAt.le settings.deadline then .waiting cancelAt
  else if settings.deadline.le Binary64.zero &&
      cancelAt.le (Binary64.ofDecimal false (5 * count) (-5)) then .collecting
  else .afterReturn

/-- A pass the caller cancels `cancelAt` seconds after it began. -/
def enrichAllCancelled (loop : Nat) (svc : Option Service) (settings : LlmSettings)
    (findings : List Finding) (text language : String) (cancelAt : Binary64) : Calls CancelEnd :=
  enrichAllCancelledAt loop svc settings findings text language
    (cancelPoint settings findings.length cancelAt)

/-- An entry of the reply to the whole-file prompt. -/
structure Reported where
  line : Int
  kind : String
  severity : Severity := .medium
  description : String := ""
  confidence : Int := 70
  suggestedFix : Option String := none
  deriving Repr, Inhabited

/-- Validates a severity named in any case. -/
def severityNamed (v : Json) : Except String Severity :=
  match v with
  | .str s =>
    match Severity.ofName? (toLower s) with
    | some sev => .ok sev
    | none => .error "enum"
  | _ => .error "enum"

/-- Validates an entry of the whole-file reply. -/
def Reported.validate (v : Json) : Lax.Result Reported := do
  let fields ← Lax.record [] "model_type" v
  let line := Lax.required [] fields ["line"] (Lax.intWithin (some 1) none)
  let kind := Lax.required [] fields ["type"] (Lax.strAtLeast 1)
  let severity := Lax.optional [] fields ["severity"] .medium severityNamed
  let description := Lax.optional [] fields ["description"] "" Lax.str
  let confidence := Lax.optional [] fields ["confidence"] 70 (Lax.intWithin (some 0) (some 100))
  let fix := Lax.optional [] fields ["suggestedFix", "suggested_fix"] none Lax.optStr
  match line, kind, severity, description, confidence, fix with
  | .ok l, .ok k, .ok s, .ok d, .ok c, .ok x => pure ⟨l, k, s, d, c, x⟩
  | _, _, _, _, _, _ =>
    throw (Lax.issues line ++ Lax.issues kind ++ Lax.issues severity ++ Lax.issues description ++
      Lax.issues confidence ++ Lax.issues fix)

/-- The finding for a reported entry on a text of `lines`, unless its line is past the end. -/
def Reported.toFinding (r : Reported) (lines : List String) (language fileName : String) :
    Option Finding :=
  if r.line > lines.length then none
  else
    some { ruleId := "ai:" ++ slug r.kind, kind := r.kind, severity := r.severity, line := r.line
           message := if r.description.isEmpty then r.kind else r.description
           confidence := r.confidence, sourceLine := some (lines.getD (r.line - 1).toNat "")
           language := language, fileName := fileName, origin := "ai"
           suggestedFix := r.suggestedFix }

/-- Asks the service for findings in a whole text; entries that do not validate, or point past
the end, are dropped, and any failure gives no findings, a reply nested too deep for `room`
among them. An empty text is not sent. -/
def analyzeFile (room : Nat) (svc : Option Service) (text fileName language : String) :
    Calls (List Finding) :=
  match svc with
  | none => pure []
  | some svc =>
    if text.isEmpty then pure []
    else do
      let outcome ← svc.call fileSystem (filePrompt text fileName language)
      match outcome with
      | .text reply =>
        match extractJson (room - 1) reply "[" with
        | .ok (.arr items) =>
          let lines := Scan.splitLines text
          let lang := (Language.normalize language).name
          pure (items.filterMap fun item =>
            match Reported.validate item with
            | .ok r => r.toFinding lines lang fileName
            | .error _ => none)
        | _ => pure []
      | _ => pure []

/-- A reply to the fix prompt. -/
structure FixSuggestion where
  fixedLine : String
  explanation : Option String := none
  confidence : Option Int := none
  deriving Repr, Inhabited

/-- Validates an optional integer within bounds: null is none. -/
def optIntWithin (lo hi : Option Int) (v : Json) : Except String (Option Int) :=
  match v with
  | .null => .ok none
  | v => (Lax.intWithin lo hi v).map some

/-- Validates a reply to the fix prompt. -/
def FixSuggestion.validate (v : Json) : Lax.Result FixSuggestion := do
  let fields ← Lax.record [] "model_type" v
  let line := Lax.required [] fields ["fixedLine", "fixed_line"] (Lax.strAtLeast 1)
  let explanation := Lax.optional [] fields ["explanation"] none Lax.optStr
  let confidence := Lax.optional [] fields ["confidence"] none (optIntWithin (some 0) (some 100))
  match line, explanation, confidence with
  | .ok l, .ok e, .ok c => pure ⟨l, e, c⟩
  | _, _, _ => throw (Lax.issues line ++ Lax.issues explanation ++ Lax.issues confidence)

/-- Asks the service for one replacement of a finding's line. Gives the line, if a valid one
came, and the finding, which takes the reply's explanation when it has none of its own. Any
failure gives no line, a reply nested too deep for `room` among them. -/
def suggestFix (room : Nat) (svc : Option Service) (f : Finding) (text language : String) :
    Calls (Option String × Finding) :=
  match svc with
  | none => pure (none, f)
  | some svc => do
    let lines := Scan.splitLines text
    let prompt := fixPrompt f (codeContext lines f.line) (targetLine lines f.line) language
    let outcome ← svc.call fixSystem prompt
    match outcome with
    | .text reply =>
      let read := extractJson (room - 1) reply >>= fun v =>
        (FixSuggestion.validate v).mapError fun is => .invalid is.length
      match read with
      | .ok s =>
        let hasOwn := match f.explanation with
          | some e => !e.isEmpty
          | none => false
        let explained := match s.explanation with
          | some e => !e.isEmpty
          | none => false
        pure (some s.fixedLine, if explained && !hasOwn then { f with explanation := s.explanation } else f)
      | .error _ => pure (none, f)
    | _ => pure (none, f)

end SecScan.Analysis
