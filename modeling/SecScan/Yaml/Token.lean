import SecScan.Yaml.Source

/-!
The tokens a YAML stream is cut into, and the state of the scanner that cuts them.

The scanner reads the stream lazily, a token at a time, and keeps tokens it has read but not
yet given out. Since a key is only known to be one when the `:` after it is found, the scanner
remembers for each flow level where a key could have started; when the `:` comes, a key token,
and in block context the start of a mapping, are put in before the tokens of the key. Such a
possible key lapses at the end of its line or 1024 characters on; it is required, and its
lapse is a problem, when it starts a line at the block's own indentation.
-/

namespace SecScan.Yaml

/-- The value of a directive. -/
inductive DirectiveValue where
  /-- `%YAML major.minor`. -/
  | version (major minor : Nat)
  /-- `%TAG handle prefix`. -/
  | tag (handle pfx : String)
  /-- Any other directive, whose value is passed over. -/
  | other
  deriving Repr, BEq, Inhabited

/-- What a token is. -/
inductive TokenKind where
  | streamStart
  | streamEnd
  | directive (name : String) (value : DirectiveValue)
  | documentStart
  | documentEnd
  | blockSequenceStart
  | blockMappingStart
  | blockEnd
  | flowSequenceStart
  | flowMappingStart
  | flowSequenceEnd
  | flowMappingEnd
  | key
  | value
  | blockEntry
  | flowEntry
  | alias (name : String)
  | anchor (name : String)
  /-- A tag: its handle, if it has one, and its suffix. -/
  | tag (handle : Option String) (suffix : String)
  /-- A scalar: its text, whether it is plain, and its quote or block indicator. -/
  | scalar (text : String) (plain : Bool) (style : Option Char)
  deriving Repr, BEq, Inhabited

/-- The name of a kind of token in messages. -/
def TokenKind.id : TokenKind → String
  | .streamStart => "<stream start>"
  | .streamEnd => "<stream end>"
  | .directive _ _ => "<directive>"
  | .documentStart => "<document start>"
  | .documentEnd => "<document end>"
  | .blockSequenceStart => "<block sequence start>"
  | .blockMappingStart => "<block mapping start>"
  | .blockEnd => "<block end>"
  | .flowSequenceStart => "["
  | .flowMappingStart => "\x7b"
  | .flowSequenceEnd => "]"
  | .flowMappingEnd => "\x7d"
  | .key => "?"
  | .value => ":"
  | .blockEntry => "-"
  | .flowEntry => ","
  | .alias _ => "<alias>"
  | .anchor _ => "<anchor>"
  | .tag _ _ => "<tag>"
  | .scalar _ _ _ => "<scalar>"

/-- The kinds of token, without what they carry, for testing what comes next. -/
inductive TokenClass where
  | streamStart | streamEnd | directive | documentStart | documentEnd
  | blockSequenceStart | blockMappingStart | blockEnd
  | flowSequenceStart | flowMappingStart | flowSequenceEnd | flowMappingEnd
  | key | value | blockEntry | flowEntry | alias | anchor | tag | scalar
  deriving Repr, BEq, DecidableEq, Inhabited

/-- The class of a kind of token. -/
def TokenKind.cls : TokenKind → TokenClass
  | .streamStart => .streamStart
  | .streamEnd => .streamEnd
  | .directive _ _ => .directive
  | .documentStart => .documentStart
  | .documentEnd => .documentEnd
  | .blockSequenceStart => .blockSequenceStart
  | .blockMappingStart => .blockMappingStart
  | .blockEnd => .blockEnd
  | .flowSequenceStart => .flowSequenceStart
  | .flowMappingStart => .flowMappingStart
  | .flowSequenceEnd => .flowSequenceEnd
  | .flowMappingEnd => .flowMappingEnd
  | .key => .key
  | .value => .value
  | .blockEntry => .blockEntry
  | .flowEntry => .flowEntry
  | .alias _ => .alias
  | .anchor _ => .anchor
  | .tag _ _ => .tag
  | .scalar _ _ _ => .scalar

/-- A token with the positions where it starts and ends. -/
structure Token where
  kind : TokenKind
  start : Nat
  stop : Nat
  deriving Repr, Inhabited

/-- A place where a key could have started: the number the key token would have, whether a
key is required there, and its position. -/
structure SimpleKey where
  tokenNumber : Nat
  required : Bool
  pos : Nat
  deriving Repr, Inhabited

/-- The state of the scanner. -/
structure Scanner where
  /-- The position of the next character. -/
  pos : Nat := 0
  /-- Whether the end of the stream has been read. -/
  done : Bool := false
  /-- The number of open `[` and `{`, less the closing ones. -/
  flowLevel : Int := 0
  /-- Tokens read but not given out. -/
  tokens : Array Token := #[⟨.streamStart, 0, 0⟩]
  /-- The number of tokens given out. -/
  tokensTaken : Nat := 0
  /-- The column of the innermost block collection, -1 outside all. -/
  indent : Int := -1
  /-- The columns of the enclosing block collections. -/
  indents : List Int := []
  /-- Whether a key, and in block context a collection, may start here. -/
  allowSimpleKey : Bool := true
  /-- The possible keys by flow level, in the order they were found. -/
  simpleKeys : List (Int × SimpleKey) := []
  deriving Repr, Inhabited

/-- Scanning: reading a source with the scanner's state, failing with a problem. -/
abbrev ScanM := ReaderT Source (StateT Scanner (Except Failure))

namespace ScanM

/-- Fails with a problem. -/
def fail {α : Type} (context : Option String) (contextMark : Option Nat) (problem : String)
    (mark : Nat) : ScanM α :=
  throw (.problem { context := context, contextMark := contextMark, problem := problem, mark := mark })

/-- The position of the next character. -/
def here : ScanM Nat := do return (← get).pos

/-- The character `k` places on. -/
def peekAt (k : Nat) : ScanM Char := do return (← read).get ((← get).pos + k)

/-- The next character. -/
def peek : ScanM Char := peekAt 0

/-- The column of the next character. -/
def column : ScanM Nat := do return (← read).column (← get).pos

/-- The line of the next character. -/
def line : ScanM Nat := do return (← read).line (← get).pos

/-- Moves on by `n` characters. -/
def forward (n : Nat) : ScanM Unit := modify fun s => { s with pos := s.pos + n }

/-- The next `n` characters. -/
def prefixText (n : Nat) : ScanM String := do
  let p := (← get).pos
  return (← read).slice p (p + n)

/-- The number of characters from here on that satisfy `p`. -/
def spanWhile (p : Char → Bool) : ScanM Nat := do return (← read).span p (← get).pos

/-- Moves past the characters that satisfy `p`. -/
def skipWhile (p : Char → Bool) : ScanM Unit := do forward (← spanWhile p)

/-- Reads a line break if one is next, as the scanner keeps it: a carriage return, a line feed,
both together, or a next-line become a line feed; a line or paragraph separator stays itself. -/
def lineBreak : ScanM (Option Char) := do
  let c ← peek
  if c == '\r' || c == '\n' || c == '\x85' then
    if c == '\r' && (← peekAt 1) == '\n' then forward 2 else forward 1
    return some '\n'
  else if c == '\u2028' || c == '\u2029' then
    forward 1
    return some c
  else return none

/-- Whether a document marker, `---` or `...` followed by a blank or the end, comes next. -/
def atDocumentSeparator : ScanM Bool := do
  let p ← prefixText 3
  return (p == "---" || p == "...") && isBlankOrEnd (← peekAt 3)

/-- Whether the scanner is inside a flow collection, or past more closing brackets than opening
ones. -/
def inFlow : ScanM Bool := do return (← get).flowLevel != 0

/-- Adds a token to those not yet given out. -/
def pushToken (kind : TokenKind) (start stop : Nat) : ScanM Unit :=
  modify fun s => { s with tokens := s.tokens.push ⟨kind, start, stop⟩ }

end ScanM

end SecScan.Yaml
