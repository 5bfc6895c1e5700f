import SecScan.Yaml.Scanner

/-!
The parser: it turns tokens into events, the steps of a walk over the stream's documents and
their nodes.

It follows the LL(1) grammar of YAML 1.1, one event per call, keeping the states to come back
to in a stack and the start of each open collection for its messages. A stream is an optional
implicit document, then explicit ones each after its directives and `---`. A node is an alias,
or an anchor and a tag in either order followed by content: a scalar, a flow or block
collection, or nothing, which is an empty scalar when a property was given. In a block mapping
a sequence may sit at the key's own indentation. Tag handles are expanded by the document's
`%TAG` directives, `!` and `!!` by default.
-/

namespace SecScan.Yaml

/-- What an event is. -/
inductive EventKind where
  | streamStart
  | streamEnd
  | documentStart (explicit : Bool)
  | documentEnd (explicit : Bool)
  | alias (anchor : String)
  /-- A scalar: its anchor and tag, whether its tag may be resolved from a plain or from a
  quoted form, its text and its style. -/
  | scalar (anchor : Option String) (tag : Option String) (implicit : Bool × Bool) (text : String)
      (style : Option Char)
  /-- The start of a sequence: its anchor and tag, whether its tag may be resolved, and whether
  it is written in flow style. -/
  | sequenceStart (anchor : Option String) (tag : Option String) (implicit : Bool) (flow : Bool)
  | sequenceEnd
  /-- The start of a mapping, described as a sequence's. -/
  | mappingStart (anchor : Option String) (tag : Option String) (implicit : Bool) (flow : Bool)
  | mappingEnd
  deriving Repr, BEq, Inhabited

/-- An event with the positions where it starts and ends. -/
structure Event where
  kind : EventKind
  start : Nat
  stop : Nat
  deriving Repr, Inhabited

/-- The states of the parser: what it reads next. -/
inductive ParseState where
  | streamStart
  | implicitDocumentStart
  | documentStart
  | documentEnd
  | documentContent
  | blockNode
  | blockSequenceFirstEntry
  | blockSequenceEntry
  | indentlessSequenceEntry
  | blockMappingFirstKey
  | blockMappingKey
  | blockMappingValue
  | flowSequenceFirstEntry
  | flowSequenceEntry
  | flowSequenceEntryMappingKey
  | flowSequenceEntryMappingValue
  | flowSequenceEntryMappingEnd
  | flowMappingFirstKey
  | flowMappingKey
  | flowMappingValue
  | flowMappingEmptyValue
  deriving Repr, BEq, Inhabited

/-- The state of the parser. -/
structure Parser where
  scanner : Scanner := {}
  /-- What it reads next; nothing after the end of the stream. -/
  state : Option ParseState := some .streamStart
  /-- The states to come back to. -/
  states : List ParseState := []
  /-- Where the open collections start. -/
  marks : List Nat := []
  /-- The tag handles of the current document and their prefixes. -/
  tagHandles : List (String × String) := []
  /-- An event read but not yet given out. -/
  current : Option Event := none
  deriving Repr, Inhabited

/-- Parsing: reading a source with the parser's state, failing with a problem. -/
abbrev ParseM := ReaderT Source (StateT Parser (Except Failure))

/-- The tag handles every document has. -/
def defaultTagHandles : List (String × String) := [("!", "!"), ("!!", "tag:yaml.org,2002:")]

namespace ParseM

/-- Runs a step of the scanner. -/
def scan {α : Type} (m : ScanM α) : ParseM α := fun src p => do
  let (a, s) ← m src p.scanner
  pure (a, { p with scanner := s })

/-- Fails with a problem. -/
def fail {α : Type} (context : Option String) (contextMark : Option Nat) (problem : String)
    (mark : Nat) : ParseM α :=
  throw (.problem { context := context, contextMark := contextMark, problem := problem, mark := mark })

/-- The token at the end of the stream, standing for a token asked for after it. -/
def endToken : ParseM Token := do
  let n := (← read).chars.size
  pure ⟨.streamEnd, n, n⟩

/-- The next token, without giving it out. -/
def peekToken : ParseM Token := do
  match ← scan ScanM.peekToken with
  | some t => pure t
  | none => endToken

/-- Gives out the next token. -/
def getToken : ParseM Token := do
  match ← scan ScanM.nextToken with
  | some t => pure t
  | none => endToken

/-- Whether the next token is of one of the given classes. -/
def checkToken (classes : List TokenClass) : ParseM Bool := do
  match ← scan ScanM.peekToken with
  | some t => pure (classes.contains t.kind.cls)
  | none => pure false

/-- Sets the state to read next. -/
def goTo (s : ParseState) : ParseM Unit := modify fun p => { p with state := some s }

/-- Saves a state to come back to. -/
def pushState (s : ParseState) : ParseM Unit := modify fun p => { p with states := s :: p.states }

/-- Comes back to the last saved state. -/
def popState : ParseM Unit :=
  modify fun p => match p.states with
    | s :: rest => { p with state := some s, states := rest }
    | [] => { p with state := none }

/-- Notes where a collection starts. -/
def pushMark (m : Nat) : ParseM Unit := modify fun p => { p with marks := m :: p.marks }

/-- Forgets where the innermost collection starts. -/
def popMark : ParseM Unit := modify fun p => { p with marks := p.marks.drop 1 }

/-- Where the innermost collection starts. -/
def topMark : ParseM Nat := do return (← get).marks.headD 0

/-- An empty plain scalar at a position. -/
def emptyScalar (m : Nat) : Event := ⟨.scalar none none (true, false) "" none, m, m⟩

/-- Reads a node: an alias, or properties and content. `block` allows block collections, and
`indentless` a block sequence at the indentation of the mapping it is a value in. -/
def parseNode (block indentless : Bool) : ParseM Event := do
  if ← checkToken [.alias] then
    let t ← getToken
    popState
    match t.kind with
    | .alias name => return ⟨.alias name, t.start, t.stop⟩
    | _ => return ⟨.alias "", t.start, t.stop⟩
  let (anchor, tag, startMark, endMark, tagMark) ←
    if ← checkToken [.anchor] then do
      let t ← getToken
      let anchor := match t.kind with | .anchor a => some a | _ => none
      if ← checkToken [.tag] then
        let u ← getToken
        let tag := match u.kind with | .tag h s => some (h, s) | _ => none
        pure (anchor, tag, some t.start, some u.stop, some u.start)
      else pure (anchor, none, some t.start, some t.stop, none)
    else if ← checkToken [.tag] then do
      let t ← getToken
      let tag := match t.kind with | .tag h s => some (h, s) | _ => none
      if ← checkToken [.anchor] then
        let u ← getToken
        let anchor := match u.kind with | .anchor a => some a | _ => none
        pure (anchor, tag, some t.start, some u.stop, some t.start)
      else pure (none, tag, some t.start, some t.stop, some t.start)
    else pure (none, none, none, none, none)
  let tag : Option String ← match tag with
    | some (some handle, suffix) =>
      match (← get).tagHandles.lookup handle with
      | some pfx => pure (some (pfx ++ suffix))
      | none =>
        fail (some "while parsing a node") startMark
          ("found undefined tag handle " ++ Json.quoteLiteral handle) (tagMark.getD 0)
    | some (none, suffix) => pure (some suffix)
    | none => pure none
  let (startMark, endMark) ← match startMark, endMark with
    | some s, some e => pure (s, e)
    | _, _ => do
      let t ← peekToken
      pure (t.start, t.start)
  let implicit := tag.isNone || tag == some "!"
  if indentless && (← checkToken [.blockEntry]) then
    let t ← peekToken
    goTo .indentlessSequenceEntry
    return ⟨.sequenceStart anchor tag implicit false, startMark, t.stop⟩
  if ← checkToken [.scalar] then
    let t ← getToken
    let (text, plain, style) := match t.kind with
      | .scalar text plain style => (text, plain, style)
      | _ => ("", false, none)
    let implicitPair :=
      if (plain && tag.isNone) || tag == some "!" then (true, false)
      else if tag.isNone then (false, true)
      else (false, false)
    popState
    return ⟨.scalar anchor tag implicitPair text style, startMark, t.stop⟩
  if ← checkToken [.flowSequenceStart] then
    let t ← peekToken
    goTo .flowSequenceFirstEntry
    return ⟨.sequenceStart anchor tag implicit true, startMark, t.stop⟩
  if ← checkToken [.flowMappingStart] then
    let t ← peekToken
    goTo .flowMappingFirstKey
    return ⟨.mappingStart anchor tag implicit true, startMark, t.stop⟩
  if block && (← checkToken [.blockSequenceStart]) then
    let t ← peekToken
    goTo .blockSequenceFirstEntry
    return ⟨.sequenceStart anchor tag implicit false, startMark, t.start⟩
  if block && (← checkToken [.blockMappingStart]) then
    let t ← peekToken
    goTo .blockMappingFirstKey
    return ⟨.mappingStart anchor tag implicit false, startMark, t.start⟩
  if anchor.isSome || tag.isSome then
    popState
    return ⟨.scalar anchor tag (implicit, false) "" none, startMark, endMark⟩
  let t ← peekToken
  fail (some ("while parsing a " ++ (if block then "block" else "flow") ++ " node")) (some startMark)
    ("expected the node content, but found " ++ Json.quoteLiteral t.kind.id) t.start

/-- Reads the directives before an explicit document and sets its tag handles. -/
def processDirectives : ParseM Unit := do
  modify fun p => { p with tagHandles := [] }
  loop ((← read).chars.size + 1) false
  modify fun p => { p with tagHandles := p.tagHandles ++
    defaultTagHandles.filter fun (h, _) => (p.tagHandles.lookup h).isNone }
where
  /-- Reads one directive at a time; `sawVersion` tells whether `%YAML` was seen. -/
  loop : Nat → Bool → ParseM Unit
    | 0, _ => pure ()
    | fuel + 1, sawVersion => do
      if !(← checkToken [.directive]) then return
      let t ← getToken
      match t.kind with
      | .directive "YAML" (.version major _) =>
        if sawVersion then fail none none "found duplicate YAML directive" t.start
        if major != 1 then
          fail none none "found incompatible YAML document (version 1.* is required)" t.start
        loop fuel true
      | .directive "TAG" (.tag handle pfx) =>
        if ((← get).tagHandles.lookup handle).isSome then
          fail none none ("duplicate tag handle " ++ Json.quoteLiteral handle) t.start
        modify fun p => { p with tagHandles := p.tagHandles ++ [(handle, pfx)] }
        loop fuel sawVersion
      | _ => loop fuel sawVersion

/-- Reads the start of an explicit document, or the end of the stream. -/
def parseDocumentStart : ParseM Event := do
  skipDocumentEnds ((← read).chars.size + 1)
  if ← checkToken [.streamEnd] then
    let t ← getToken
    modify fun p => { p with state := none }
    return ⟨.streamEnd, t.start, t.stop⟩
  let start := (← peekToken).start
  processDirectives
  if !(← checkToken [.documentStart]) then
    let t ← peekToken
    fail none none ("expected '<document start>', but found " ++ Json.quoteLiteral t.kind.id) t.start
  let t ← getToken
  pushState .documentEnd
  goTo .documentContent
  return ⟨.documentStart true, start, t.stop⟩
where
  /-- Skips document end markers. -/
  skipDocumentEnds : Nat → ParseM Unit
    | 0 => pure ()
    | fuel + 1 => do
      if ← checkToken [.documentEnd] then
        discard getToken
        skipDocumentEnds fuel

/-- Reads the entry of a block sequence after its first, or its end. -/
def parseBlockSequenceEntry : ParseM Event := do
  if ← checkToken [.blockEntry] then
    let t ← getToken
    if !(← checkToken [.blockEntry, .blockEnd]) then
      pushState .blockSequenceEntry
      return ← parseNode true false
    goTo .blockSequenceEntry
    return emptyScalar t.stop
  if !(← checkToken [.blockEnd]) then
    let t ← peekToken
    fail (some "while parsing a block collection") (some (← topMark))
      ("expected <block end>, but found " ++ Json.quoteLiteral t.kind.id) t.start
  let t ← getToken
  popState
  popMark
  return ⟨.sequenceEnd, t.start, t.stop⟩

/-- Reads the key of a block mapping, or its end. -/
def parseBlockMappingKey : ParseM Event := do
  if ← checkToken [.key] then
    let t ← getToken
    if !(← checkToken [.key, .value, .blockEnd]) then
      pushState .blockMappingValue
      return ← parseNode true true
    goTo .blockMappingValue
    return emptyScalar t.stop
  if !(← checkToken [.blockEnd]) then
    let t ← peekToken
    fail (some "while parsing a block mapping") (some (← topMark))
      ("expected <block end>, but found " ++ Json.quoteLiteral t.kind.id) t.start
  let t ← getToken
  popState
  popMark
  return ⟨.mappingEnd, t.start, t.stop⟩

/-- Reads an entry of a flow sequence, or its end; an entry `k: v` or `? k` is a mapping of
one pair. -/
def parseFlowSequenceEntry (first : Bool) : ParseM Event := do
  if !(← checkToken [.flowSequenceEnd]) then
    if !first then
      if ← checkToken [.flowEntry] then
        discard getToken
      else
        let t ← peekToken
        fail (some "while parsing a flow sequence") (some (← topMark))
          ("expected ',' or ']', but got " ++ Json.quoteLiteral t.kind.id) t.start
    if ← checkToken [.key] then
      let t ← peekToken
      goTo .flowSequenceEntryMappingKey
      return ⟨.mappingStart none none true true, t.start, t.stop⟩
    if !(← checkToken [.flowSequenceEnd]) then
      pushState .flowSequenceEntry
      return ← parseNode false false
  let t ← getToken
  popState
  popMark
  return ⟨.sequenceEnd, t.start, t.stop⟩

/-- Reads a key of a flow mapping, or its end. -/
def parseFlowMappingKey (first : Bool) : ParseM Event := do
  if !(← checkToken [.flowMappingEnd]) then
    if !first then
      if ← checkToken [.flowEntry] then
        discard getToken
      else
        let t ← peekToken
        fail (some "while parsing a flow mapping") (some (← topMark))
          ("expected ',' or '\x7d', but got " ++ Json.quoteLiteral t.kind.id) t.start
    if ← checkToken [.key] then
      let t ← getToken
      if !(← checkToken [.value, .flowEntry, .flowMappingEnd]) then
        pushState .flowMappingValue
        return ← parseNode false false
      goTo .flowMappingValue
      return emptyScalar t.stop
    if !(← checkToken [.flowMappingEnd]) then
      pushState .flowMappingEmptyValue
      return ← parseNode false false
  let t ← getToken
  popState
  popMark
  return ⟨.mappingEnd, t.start, t.stop⟩

/-- Reads the event of a state. -/
def step : ParseState → ParseM Event
  | .streamStart => do
    let t ← getToken
    goTo .implicitDocumentStart
    return ⟨.streamStart, t.start, t.stop⟩
  | .implicitDocumentStart => do
    if !(← checkToken [.directive, .documentStart, .streamEnd]) then
      modify fun p => { p with tagHandles := defaultTagHandles }
      let t ← peekToken
      pushState .documentEnd
      goTo .blockNode
      return ⟨.documentStart false, t.start, t.start⟩
    parseDocumentStart
  | .documentStart => parseDocumentStart
  | .documentEnd => do
    let t ← peekToken
    let (stop, explicit) ←
      if ← checkToken [.documentEnd] then do
        let u ← getToken
        pure (u.stop, true)
      else pure (t.start, false)
    goTo .documentStart
    return ⟨.documentEnd explicit, t.start, stop⟩
  | .documentContent => do
    if ← checkToken [.directive, .documentStart, .documentEnd, .streamEnd] then
      let t ← peekToken
      popState
      return emptyScalar t.start
    parseNode true false
  | .blockNode => parseNode true false
  | .blockSequenceFirstEntry => do
    let t ← getToken
    pushMark t.start
    parseBlockSequenceEntry
  | .blockSequenceEntry => parseBlockSequenceEntry
  | .indentlessSequenceEntry => do
    if ← checkToken [.blockEntry] then
      let t ← getToken
      if !(← checkToken [.blockEntry, .key, .value, .blockEnd]) then
        pushState .indentlessSequenceEntry
        return ← parseNode true false
      goTo .indentlessSequenceEntry
      return emptyScalar t.stop
    let t ← peekToken
    popState
    return ⟨.sequenceEnd, t.start, t.start⟩
  | .blockMappingFirstKey => do
    let t ← getToken
    pushMark t.start
    parseBlockMappingKey
  | .blockMappingKey => parseBlockMappingKey
  | .blockMappingValue => do
    if ← checkToken [.value] then
      let t ← getToken
      if !(← checkToken [.key, .value, .blockEnd]) then
        pushState .blockMappingKey
        return ← parseNode true true
      goTo .blockMappingKey
      return emptyScalar t.stop
    goTo .blockMappingKey
    return emptyScalar (← peekToken).start
  | .flowSequenceFirstEntry => do
    let t ← getToken
    pushMark t.start
    parseFlowSequenceEntry true
  | .flowSequenceEntry => parseFlowSequenceEntry false
  | .flowSequenceEntryMappingKey => do
    let t ← getToken
    if !(← checkToken [.value, .flowEntry, .flowSequenceEnd]) then
      pushState .flowSequenceEntryMappingValue
      return ← parseNode false false
    goTo .flowSequenceEntryMappingValue
    return emptyScalar t.stop
  | .flowSequenceEntryMappingValue => do
    if ← checkToken [.value] then
      let t ← getToken
      if !(← checkToken [.flowEntry, .flowSequenceEnd]) then
        pushState .flowSequenceEntryMappingEnd
        return ← parseNode false false
      goTo .flowSequenceEntryMappingEnd
      return emptyScalar t.stop
    goTo .flowSequenceEntryMappingEnd
    return emptyScalar (← peekToken).start
  | .flowSequenceEntryMappingEnd => do
    goTo .flowSequenceEntry
    let t ← peekToken
    return ⟨.mappingEnd, t.start, t.start⟩
  | .flowMappingFirstKey => do
    let t ← getToken
    pushMark t.start
    parseFlowMappingKey true
  | .flowMappingKey => parseFlowMappingKey false
  | .flowMappingValue => do
    if ← checkToken [.value] then
      let t ← getToken
      if !(← checkToken [.flowEntry, .flowMappingEnd]) then
        pushState .flowMappingKey
        return ← parseNode false false
      goTo .flowMappingKey
      return emptyScalar t.stop
    goTo .flowMappingKey
    return emptyScalar (← peekToken).start
  | .flowMappingEmptyValue => do
    goTo .flowMappingKey
    return emptyScalar (← peekToken).start

/-- The next event, without giving it out; nothing after the end of the stream. -/
def peekEvent : ParseM (Option Event) := do
  match (← get).current with
  | some e => pure (some e)
  | none =>
    match (← get).state with
    | some s =>
      let e ← step s
      modify fun p => { p with current := some e }
      pure (some e)
    | none => pure none

/-- Gives out the next event. -/
def nextEvent : ParseM (Option Event) := do
  let e ← peekEvent
  modify fun p => { p with current := none }
  pure e

end ParseM

end SecScan.Yaml
