import SecScan.Yaml.Scalars

/-!
The scanner: it cuts a stream into tokens on demand.

Before each token it skips spaces, comments and line breaks, lets possible keys that can no
longer be keys lapse, and closes the block collections indented deeper than the new token's
column. The first character then decides the token. The scanner reads ahead as long as the
next token to give out might turn out to be a key, so a problem further on can be found before
the token it follows is given out.
-/

namespace SecScan.Yaml

open ScanM

namespace ScanM

/-- Skips spaces, comments and line breaks up to the next token; a line break in block context
allows a key. A byte order mark at the very start is skipped too. -/
def skipToToken : ScanM Unit := do
  if (← here) == 0 && (← peek) == '\uFEFF' then forward 1
  loop ((← read).chars.size + 1)
where
  /-- Skips one line at a time. -/
  loop : Nat → ScanM Unit
    | 0 => pure ()
    | fuel + 1 => do
      skipWhile (· == ' ')
      if (← peek) == '#' then skipWhile (!isBreakOrEnd ·)
      match ← lineBreak with
      | some _ =>
        if !(← inFlow) then modify fun s => { s with allowSimpleKey := true }
        loop fuel
      | none => pure ()

/-- Whether a possible key has lapsed: it is on an earlier line or more than 1024 characters
back. -/
def lapsed (src : Source) (pos : Nat) (key : SimpleKey) : Bool :=
  src.line key.pos != src.line pos || pos - key.pos > 1024

/-- The possible keys but the one at a flow level. -/
def dropLevel (keys : List (Int × SimpleKey)) (level : Int) : List (Int × SimpleKey) :=
  keys.filter fun entry => entry.1 != level

/-- Drops the possible keys that have lapsed; a required one that has lapsed is a problem. -/
def staleSimpleKeys : ScanM Unit := do
  let src ← read
  let st ← get
  for (_, key) in st.simpleKeys do
    if lapsed src st.pos key && key.required then
      fail (some "while scanning a simple key") (some key.pos) "could not find expected ':'" st.pos
  set { st with simpleKeys := st.simpleKeys.filter fun (_, key) => !lapsed src st.pos key }

/-- Drops the possible key at the current flow level; a required one is a problem. -/
def removeSimpleKey : ScanM Unit := do
  let st ← get
  match st.simpleKeys.lookup st.flowLevel with
  | some key =>
    if key.required then
      fail (some "while scanning a simple key") (some key.pos) "could not find expected ':'" st.pos
    set { st with simpleKeys := dropLevel st.simpleKeys st.flowLevel }
  | none => pure ()

/-- Notes that the next token may start a key, when a key is allowed here. -/
def saveSimpleKey : ScanM Unit := do
  let st ← get
  let column : Int := (← read).column st.pos
  let required := st.flowLevel == 0 && st.indent == column
  if st.allowSimpleKey then
    removeSimpleKey
    let st ← get
    let key : SimpleKey := { tokenNumber := st.tokensTaken + st.tokens.size, required, pos := st.pos }
    set { st with simpleKeys := dropLevel st.simpleKeys st.flowLevel ++ [(st.flowLevel, key)] }

/-- Closes the block collections indented deeper than `column`, outside flow context. -/
def unwindIndent (column : Int) : ScanM Unit := do
  if ← inFlow then return
  loop ((← get).indents.length + 1)
where
  /-- Closes one collection at a time. -/
  loop : Nat → ScanM Unit
    | 0 => pure ()
    | fuel + 1 => do
      let st ← get
      if st.indent > column then
        match st.indents with
        | outer :: rest =>
          set { st with indent := outer, indents := rest,
                        tokens := st.tokens.push ⟨.blockEnd, st.pos, st.pos⟩ }
          loop fuel
        | [] => pure ()

/-- Opens a block collection at `column` if it is indented deeper than the current one. -/
def addIndent (column : Int) : ScanM Bool := do
  let st ← get
  if st.indent < column then
    set { st with indents := st.indent :: st.indents, indent := column }
    return true
  return false

/-- Sets whether a key may start next. -/
def allowKey (b : Bool) : ScanM Unit := modify fun s => { s with allowSimpleKey := b }

/-- Puts a token in at a place among those not yet given out. -/
def insertToken (i : Nat) (t : Token) : ScanM Unit :=
  modify fun s => { s with tokens := (s.tokens.extract 0 i).push t ++ s.tokens.extract i s.tokens.size }

/-- Reads an indicator of `n` characters as a token. -/
def indicatorToken (kind : TokenKind) (n : Nat) : ScanM Unit := do
  let start ← here
  forward n
  pushToken kind start (← here)

/-- The end of the stream. -/
def fetchStreamEnd : ScanM Unit := do
  unwindIndent (-1)
  removeSimpleKey
  modify fun s => { s with allowSimpleKey := false, simpleKeys := [] }
  let p ← here
  pushToken .streamEnd p p
  modify fun s => { s with done := true }

/-- A directive. -/
def fetchDirective : ScanM Unit := do
  unwindIndent (-1)
  removeSimpleKey
  allowKey false
  let t ← scanDirective
  modify fun s => { s with tokens := s.tokens.push t }

/-- A document start or end marker. -/
def fetchDocumentIndicator (kind : TokenKind) : ScanM Unit := do
  unwindIndent (-1)
  removeSimpleKey
  allowKey false
  indicatorToken kind 3

/-- An opening bracket or brace. -/
def fetchFlowCollectionStart (kind : TokenKind) : ScanM Unit := do
  saveSimpleKey
  modify fun s => { s with flowLevel := s.flowLevel + 1 }
  allowKey true
  indicatorToken kind 1

/-- A closing bracket or brace. -/
def fetchFlowCollectionEnd (kind : TokenKind) : ScanM Unit := do
  removeSimpleKey
  modify fun s => { s with flowLevel := s.flowLevel - 1 }
  allowKey false
  indicatorToken kind 1

/-- A comma between flow entries. -/
def fetchFlowEntry : ScanM Unit := do
  allowKey true
  removeSimpleKey
  indicatorToken .flowEntry 1

/-- A block sequence entry, `- `, which may open a block sequence. -/
def fetchBlockEntry : ScanM Unit := do
  if !(← inFlow) then
    if !(← get).allowSimpleKey then
      fail none none "sequence entries are not allowed here" (← here)
    if ← addIndent (← column) then
      let p ← here
      pushToken .blockSequenceStart p p
  allowKey true
  removeSimpleKey
  indicatorToken .blockEntry 1

/-- A complex key indicator, `? `, which may open a block mapping. -/
def fetchKey : ScanM Unit := do
  if !(← inFlow) then
    if !(← get).allowSimpleKey then
      fail none none "mapping keys are not allowed here" (← here)
    if ← addIndent (← column) then
      let p ← here
      pushToken .blockMappingStart p p
  allowKey (!(← inFlow))
  removeSimpleKey
  indicatorToken .key 1

/-- A value indicator, `:`. When a key could have started before it, the key token, and in
block context the start of a mapping, are put in where the key started. -/
def fetchValue : ScanM Unit := do
  let st ← get
  match st.simpleKeys.lookup st.flowLevel with
  | some key =>
    set { st with simpleKeys := dropLevel st.simpleKeys st.flowLevel }
    let slot := key.tokenNumber - st.tokensTaken
    insertToken slot ⟨.key, key.pos, key.pos⟩
    if !(← inFlow) then
      if ← addIndent ((← read).column key.pos) then
        insertToken slot ⟨.blockMappingStart, key.pos, key.pos⟩
    allowKey false
  | none =>
    if !(← inFlow) then
      if !st.allowSimpleKey then
        fail none none "mapping values are not allowed here" (← here)
      if ← addIndent (← column) then
        let p ← here
        pushToken .blockMappingStart p p
    allowKey (!(← inFlow))
    removeSimpleKey
  indicatorToken .value 1

/-- A token that may start a key: an alias, an anchor, a tag, a quoted or a plain scalar. -/
def fetchKeyCandidate (scan : ScanM Token) : ScanM Unit := do
  saveSimpleKey
  allowKey false
  let t ← scan
  modify fun s => { s with tokens := s.tokens.push t }

/-- A literal or folded block scalar, after which a key may start. -/
def fetchBlockScalar (folded : Bool) : ScanM Unit := do
  allowKey true
  removeSimpleKey
  let t ← scanBlockScalar folded
  modify fun s => { s with tokens := s.tokens.push t }

/-- The characters that cannot start a plain scalar unless a non-blank follows a `-`, or, in
block context, a `?` or `:`. -/
def plainIndicators : List Char :=
  ['-', '?', ':', ',', '[', ']', '\x7b', '\x7d', '#', '&', '*', '!', '|', '>', '\'', '"', '%', '@',
    Char.ofNat 96]

/-- Whether a plain scalar can start here. -/
def checkPlain : ScanM Bool := do
  let c ← peek
  let flow ← inFlow
  return !(isBlankOrEnd c || plainIndicators.contains c) ||
    (!isBlankOrEnd (← peekAt 1) && (c == '-' || (!flow && (c == '?' || c == ':'))))

/-- Reads the next token, or tokens, into those not yet given out. -/
def fetchMoreTokens : ScanM Unit := do
  skipToToken
  staleSimpleKeys
  unwindIndent (← column)
  let c ← peek
  let flow ← inFlow
  let next ← peekAt 1
  let atColumnZero := (← column) == 0
  if c == '\x00' then fetchStreamEnd
  else if c == '%' && atColumnZero then fetchDirective
  else if c == '-' && atColumnZero && (← prefixText 3) == "---" && isBlankOrEnd (← peekAt 3) then
    fetchDocumentIndicator .documentStart
  else if c == '.' && atColumnZero && (← prefixText 3) == "..." && isBlankOrEnd (← peekAt 3) then
    fetchDocumentIndicator .documentEnd
  else if c == '[' then fetchFlowCollectionStart .flowSequenceStart
  else if c == '\x7b' then fetchFlowCollectionStart .flowMappingStart
  else if c == ']' then fetchFlowCollectionEnd .flowSequenceEnd
  else if c == '\x7d' then fetchFlowCollectionEnd .flowMappingEnd
  else if c == ',' then fetchFlowEntry
  else if c == '-' && isBlankOrEnd next then fetchBlockEntry
  else if c == '?' && (flow || isBlankOrEnd next) then fetchKey
  else if c == ':' && (flow || isBlankOrEnd next) then fetchValue
  else if c == '*' then fetchKeyCandidate (scanAnchor true)
  else if c == '&' then fetchKeyCandidate (scanAnchor false)
  else if c == '!' then fetchKeyCandidate scanTag
  else if c == '|' && !flow then fetchBlockScalar false
  else if c == '>' && !flow then fetchBlockScalar true
  else if c == '\'' then fetchKeyCandidate (scanFlowScalar false)
  else if c == '"' then fetchKeyCandidate (scanFlowScalar true)
  else if ← checkPlain then fetchKeyCandidate scanPlain
  else
    fail (some "while scanning for the next token") none
      ("found character " ++ charText c ++ " that cannot start any token") (← here)

/-- Whether more tokens must be read before the next one is given out: none is waiting, or the
next one might start a key. -/
def needMoreTokens : ScanM Bool := do
  let st ← get
  if st.done then return false
  if st.tokens.isEmpty then return true
  staleSimpleKeys
  let st ← get
  let nearest := st.simpleKeys.foldl (fun m (_, key) =>
    match m with
    | some n => some (min n key.tokenNumber)
    | none => some key.tokenNumber) none
  return nearest == some st.tokensTaken

/-- Reads tokens until the next one can be given out. -/
def fillTokens : ScanM Unit := do
  loop ((← read).chars.size + 2)
where
  /-- Reads one token at a time. -/
  loop : Nat → ScanM Unit
    | 0 => pure ()
    | fuel + 1 => do
      if ← needMoreTokens then
        fetchMoreTokens
        loop fuel

/-- The next token, without giving it out. -/
def peekToken : ScanM (Option Token) := do
  fillTokens
  return (← get).tokens[0]?

/-- Gives out the next token. -/
def nextToken : ScanM (Option Token) := do
  fillTokens
  let st ← get
  match st.tokens[0]? with
  | some t =>
    set { st with tokens := st.tokens.extract 1 st.tokens.size, tokensTaken := st.tokensTaken + 1 }
    return some t
  | none => return none

end ScanM

end SecScan.Yaml
