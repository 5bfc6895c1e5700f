import SecScan.Web.Schema
import SecScan.Session.Store
import SecScan.Pipeline
import SecScan.Sonar
import SecScan.Json.Bytes

/-!
The dashboard's web interface: the routes under `/api`, each a function from the server's state
and one request to a response and the next state. A route's body is read as JSON and checked
against the route's request form before the route runs; a body that cannot be read or does not
fit answers status 500 with every problem found. Text the scanner refuses answers 500 with the
reason, an unknown session 404, an unknown path 404 and a known path with the wrong method 405.
A path with trailing slashes that names no route is served as the path without them. Scans are
kept as sessions in the store, fixes are recorded in its history, and SonarQube is asked through
a reply function, every request to it being logged. A response that cannot be encoded as UTF-8
is a server error.
-/

namespace SecScan.Web

open SecScan.Analysis SecScan.Config SecScan.Session SecScan.Pipeline

/-- The room of a route's handler (see `Analysis.extractJson`): how deep a value read right in it
may nest. Tasks the handler starts run in the event loop that serves every request, with
`Analysis.loopRoom`. -/
def handlerRoom : Nat := 963

/-- How deep a request's body may nest: it is decoded two levels above the handler, and decoding
takes two levels before it reads values. -/
def bodyRoom : Nat := handlerRoom - 1

/-- How a request's body arrived. -/
inductive Body where
  /-- No body at all. -/
  | absent
  /-- A value sent as JSON. -/
  | json (v : Json)
  /-- Text to be read as JSON. -/
  | text (raw : String)
  deriving Repr, Inhabited

/-- A request to the interface. -/
structure Request where
  method : String
  path : String
  body : Body := .absent
  deriving Repr, Inhabited

/-- A response: the status and the JSON body. -/
structure Response where
  status : Nat
  body : Json
  deriving Repr, Inhabited

/-- The reported form of a response. -/
def Response.toJson (r : Response) : Json := .obj [("status", .int r.status), ("body", r.body)]

/-- A successful response. -/
def ok (body : Json) : Response := ⟨200, body⟩

/-- A response whose body only has a detail. -/
def detail (status : Nat) (text : String) : Response := ⟨status, .obj [("detail", .str text)]⟩

/-- The response to a body that does not fit its form. -/
def badBody (problems : List Problem) : Response :=
  ⟨500, .obj [("error", .str "Invalid request body"), ("message", .arr (problems.map Problem.toJson))]⟩

/-- The response to text the scanner refuses. -/
def badInput (e : InputError) : Response :=
  ⟨500, .obj [("error", .str "Invalid input"), ("message", .str e.message)]⟩

/-- The response to an error no handler takes: a plain-text server error. -/
def serverError : Response := ⟨500, .obj [("text", .str "Internal Server Error")]⟩

/-- What a server is built from: its settings, the completion service if there is one, and the
SonarQube server's reply to its `n`-th request. -/
structure Server where
  settings : Settings
  service : Option Service
  sonarReply : Nat → Http.Reply

/-- What a server keeps between requests. -/
structure ServerState where
  store : Store
  /-- The service calls made and the ids drawn so far. -/
  work : Pipeline.Session := {}
  /-- The logged requests that reached SonarQube's transport, in order. -/
  sonarRequests : List Json := []
  deriving Inhabited

/-- A fresh server state for settings. -/
def ServerState.initial (s : Settings) : ServerState :=
  { store := Store.empty s.web.maxSessions 1000 }

/-- Why serving a request stopped without a response: the kind of failure and its message. -/
abbrev Failure := String × String

/-- Serving requests: it keeps the server state and may stop with a failure. -/
abbrev Serve := StateT ServerState (Except Failure)

/-- Runs pipeline work; text the scanner refuses gives its response instead, and any other error
a server error. -/
def runWork {α : Type} (w : Work α) : Serve (Except Response α) := do
  let st ← get
  match w.run st.work with
  | .ok (a, work) =>
    set { st with work := work }
    pure (.ok a)
  | .error (.input e) => pure (.error (badInput e))
  | .error (.crash _ _) => pure (.error serverError)

/-- Draws the next id. -/
def freshId : Serve String := do
  let st ← get
  let (id, ids) := st.work.ids.fresh
  set { st with work := { st.work with ids := ids } }
  pure id

/-- Changes the store. -/
def modifyStore (f : Store → Store) : Serve Unit := modify fun st => { st with store := f st.store }

/-- Records a fix against a session, drawing the record's id. -/
def record (f : Finding) (r : FixResult) (sessionId : Option String) : Serve Unit := do
  let rec_ := FixRecord.ofResult (← freshId) f r
  modifyStore (·.recordFix rec_ sessionId)

/-- Asks SonarQube and gives its reply, logging the request when it reaches the transport; a
request that cannot be sent, or that the transport refuses, is a server error. -/
def askSonar (srv : Server) (req : Http.Request) : Serve (Except Response Http.Reply) := do
  match req.send with
  | .sent entry refused =>
    let st ← get
    set { st with sonarRequests := st.sonarRequests ++ [entry] }
    if refused.isSome then pure (.error serverError)
    else pure (.ok (srv.sonarReply st.sonarRequests.length))
  | _ => pure (.error serverError)

/-- Scans a text and keeps it as a session. -/
def scanRoute (srv : Server) (b : ScanRequest) : Serve Response := do
  match ← runWork (Pipeline.scan (handlerRoom - 1) loopRoom srv.service srv.settings.llm b.code
      b.language b.fileName b.enrich b.analyzeFile) with
  | .error r => pure r
  | .ok report =>
    let id ← freshId
    modifyStore (·.addScan { id := id, fileName := report.fileName, language := report.language
                             findings := report.findings, enrichment := report.enrichment })
    pure (ok (.obj [("success", .bool true), ("sessionId", .str id),
      ("language", .str report.language),
      ("vulnerabilities", .arr (report.findings.map Finding.toJson)),
      ("enrichment", report.enrichment.toJson)]))

/-- Whether a scanned finding is the one a summary describes: on its line, with its rule or its
title. -/
def matchesSummary (s : FindingSummary) (f : Finding) : Bool :=
  f.line == s.line && (s.ruleId == some f.ruleId || f.kind == s.kind)

/-- A finding made from a summary alone. -/
def summaryFinding (b : FixRequest) : Finding :=
  let s := b.vulnerability
  { ruleId := (s.ruleId.filter (!·.isEmpty)).getD "external:finding", kind := s.kind
    severity := s.severity, line := s.line
    message := if s.message.isEmpty then s.description else s.message
    confidence := s.confidence, language := (Language.normalize b.language).name
    fileName := b.fileName, origin := "ai", suggestedFix := s.suggestedFix
    explanation := s.explanation }

/-- The finding a fix request is about, and the session to record the fix against: the stored
finding with the summary's id when it is still on the summary's line, else the first finding of
a fresh scan on that line with the summary's rule or title, taking the summary's suggestion,
explanation and confidence, else a finding made from the summary. The first also names the
session that holds it. -/
def resolveFinding (b : FixRequest) : Serve (Except Response (Option String × Finding × Bool)) := do
  let s := b.vulnerability
  let store := (← get).store
  let stored := match s.id.filter (!·.isEmpty) with
    | some id => (store.findFinding? id).filter fun (p : ScanSession × Finding) => p.2.line == s.line
    | none => none
  match stored with
  | some (session, f) => pure (.ok (some session.id, f, true))
  | none =>
    match Scan.run b.code b.language b.fileName with
    | .error e => pure (.error (badInput e))
    | .ok found =>
      match ← runWork (labelAll found) with
      | .error r => pure (.error r)
      | .ok found =>
        match found.find? (matchesSummary s) with
        | some f =>
          let f := { f with suggestedFix := s.suggestedFix, explanation := s.explanation }
          pure (.ok (b.sessionId, { f with confidence := s.confidence }, false))
        | none =>
          let id ← freshId
          pure (.ok (b.sessionId, { summaryFinding b with id := id }, false))

/-- Fixes one finding and records the fix. A stored finding keeps what the fix did to it. -/
def fixRoute (srv : Server) (b : FixRequest) : Serve Response := do
  match ← resolveFinding b with
  | .error r => pure r
  | .ok (sessionId, f, stored) =>
    match ← runWork (Pipeline.fix (handlerRoom - 1) srv.service f b.code (some b.language)) with
    | .error r => pure r
    | .ok (result, fixed) =>
      if stored then
        if let some id := sessionId then
          modifyStore fun st => st.modify id fun s =>
            { s with findings := s.findings.map fun g => if g.id == f.id then fixed else g }
      record fixed result sessionId
      pure (ok result.toJson)

/-- Fixes every finding of a stored session, or of a fresh scan, and records each fix. -/
def fixAllRoute (b : FixAllRequest) : Serve Response := do
  let store := (← get).store
  let session := (b.sessionId.filter (!·.isEmpty)).bind store.get?
  let found ← match session with
    | some s => pure (.ok s.findings)
    | none =>
      match Scan.run b.code b.language b.fileName with
      | .error e => pure (.error (badInput e))
      | .ok found => runWork (labelAll found)
  match found with
  | .error r => pure r
  | .ok found =>
    let (batch, fixed) := Fix.applyAll found b.code []
    if let some s := session then
      modifyStore fun st => st.modify s.id fun s => { s with findings := fixed }
    for (f, r) in fixed.zip batch.results do
      record f r b.sessionId
    let fields := match batch.toJson with
      | .obj fields => fields
      | _ => []
    pure (ok (.obj (fields ++ [("vulnerabilities", .arr (fixed.map Finding.toJson))])))

/-- Asks SonarQube for a text's findings, scanning locally when it cannot answer. An issue whose
severity is neither empty nor text, or a reply nested too deep to read, is a server error. -/
def sonarRoute (srv : Server) (b : SonarRequest) : Serve Response := do
  let sonar := srv.settings.sonarqube
  let component := (b.component.filter (!·.isEmpty)).getD (sonar.projectKey ++ ":" ++ b.fileName)
  let reply ← match ← askSonar srv (Sonar.issuesRequest sonar component) with
    | .ok reply => pure reply
    | .error r => return r
  match Sonar.fetch (handlerRoom - 1) reply b.code b.language b.fileName with
  | .error (.badSeverity _) => pure serverError
  | .error (.unreadable _) => pure serverError
  | .error (.input e) => pure (badInput e)
  | .ok r =>
    let st ← get
    let (found, ids) := st.work.ids.stamp r.findings
    set { st with work := { st.work with ids := ids } }
    pure (ok (.obj [("success", .bool true),
      ("source", .str (if r.fellBack then "local-fallback" else "sonarqube")),
      ("error", Json.optStr r.error), ("vulnerabilities", .arr (found.map Finding.toJson))]))

/-- The routes. -/
inductive Route where
  | scan
  | fix
  | fixAll
  | history
  | sessions
  | session (id : String)
  | modelStatus
  | sonarStatus
  | sonarAnalyze
  deriving Repr, Inhabited

/-- The route a path names, and the method it answers. -/
def Route.ofPath (path : String) : Option (String × Route) :=
  match path.splitOn "/" with
  | ["", "api", "scan"] => some ("POST", .scan)
  | ["", "api", "fix"] => some ("POST", .fix)
  | ["", "api", "fix-all"] => some ("POST", .fixAll)
  | ["", "api", "fixes", "history"] => some ("GET", .history)
  | ["", "api", "sessions"] => some ("GET", .sessions)
  | ["", "api", "sessions", id] => if id.isEmpty then none else some ("GET", .session id)
  | ["", "api", "model", "status"] => some ("GET", .modelStatus)
  | ["", "api", "sonarqube", "status"] => some ("GET", .sonarStatus)
  | ["", "api", "sonarqube", "analyze"] => some ("POST", .sonarAnalyze)
  | _ => none

/-- The path a request names: decoded, without its query, and with dot segments resolved. -/
def requestPath (path : String) : String :=
  let path := if path.startsWith "/" then path else "/" ++ path
  match Http.Url.parse ("http://testserver" ++ path) with
  | .ok u => u.decodedPath
  | .error _ => path

/-- The route for a path, serving a path with trailing slashes as the path without them. -/
def Route.resolve (path : String) : Option (String × Route) :=
  match Route.ofPath path with
  | some r => some r
  | none =>
    if path != "/" && path.endsWith "/" then
      Route.ofPath (Text.trimEndBy (· == '/') path)
    else none

/-- The decoded body of a request: none when there is no body. Text travels as UTF-8 and is read
back by the encoding its first bytes show, so text starting with a zero character reads as
UTF-16 or UTF-32. Text that is not JSON gives the response to it. -/
def readBody : Body → Except Response (Option Json)
  | .absent => .ok none
  | .json v => .ok (if v.isNull then none else some v)
  | .text raw =>
    if raw.isEmpty then .ok none
    else
      match Json.documentText raw with
      | none => .error (detail 400 "There was an error parsing the body")
      | some doc =>
        match Json.parseWithin bodyRoom doc with
        | .ok v => .ok (if v.isNull then none else some v)
        | .error e =>
          match e.describe with
          | (_, some pos) =>
            if e.isSyntax then .error (badBody [⟨"json_invalid", [.str "body", .int pos], .obj []⟩])
            else .error (detail 400 "There was an error parsing the body")
          | (_, none) => .error (detail 400 "There was an error parsing the body")

/-- The body of a request checked against a form. -/
def checkBody {α : Type} (body : Body) (check : List Json → Json → Checked α) : Except Response α := do
  match ← readBody body with
  | none => .error (badBody [⟨"missing", [.str "body"], .null⟩])
  | some v =>
    match check [.str "body"] v with
    | .ok a => .ok a
    | .error problems => .error (badBody problems)

/-- Runs a route on a request body that fits its form. -/
def withBody {α : Type} (body : Body) (check : List Json → Json → Checked α)
    (route : α → Serve Response) : Serve Response :=
  match checkBody body check with
  | .ok a => route a
  | .error r => pure r

/-- The response to one request, before it is encoded. -/
def Server.respond (srv : Server) (req : Request) : Serve Response := do
  match Route.resolve (requestPath req.path) with
  | none => pure (detail 404 "Not Found")
  | some (method, route) =>
    if method != req.method then pure (detail 405 "Method Not Allowed")
    else
      let st := (← get).store
      match route with
      | .scan => withBody req.body ScanRequest.check (scanRoute srv)
      | .fix => withBody req.body FixRequest.check (fixRoute srv)
      | .fixAll => withBody req.body FixAllRequest.check fixAllRoute
      | .history =>
        pure (ok (.obj [("history", .arr (st.recentFixes.map FixRecord.toJson)),
          ("metrics", st.fixMetrics)]))
      | .sessions => pure (ok (.arr (st.list.map (·.toJson false))))
      | .session id =>
        match st.get? id with
        | some s => pure (ok s.toJson)
        | none => pure (detail 404 "Session not found")
      | .modelStatus => pure (ok (st.modelStatus srv.settings.llm srv.service.isSome))
      | .sonarStatus =>
        match ← askSonar srv (Sonar.statusRequest srv.settings.sonarqube) with
        | .ok reply => pure (ok (.obj [("connected", .bool (Sonar.connected reply))]))
        | .error r => pure r
      | .sonarAnalyze => withBody req.body SonarRequest.check (sonarRoute srv)

/-- Serves one request. A response body is sent as UTF-8, which has no form for a lone surrogate,
so a response holding one becomes a server error; what the request changed stays changed. -/
def Server.serve (srv : Server) (req : Request) : Serve Response := do
  let r ← srv.respond req
  pure (if Text.hasSurrogate (Json.renderKept r.body) then serverError else r)

end SecScan.Web
