import SecScan.Yaml.Token
import SecScan.Text.Utf8

/-!
Reading the tokens that carry text: directives, anchors and aliases, tags, and the scalars in
their five styles.

A plain scalar runs on over spaces and line breaks while its next line is indented past the
enclosing block; it stops at `: ` and ` #`, and in flow context at `,`, `?`, brackets, braces
and a `:` before them. Line breaks inside a scalar fold: a single line feed becomes a space, and
a run of them keeps all but the first. Quoted scalars fold the same way, single-quoted ones
write a quote as two, and double-quoted ones take the escapes of YAML 1.1. Literal and folded
block scalars take their indentation from an indicator or from their first non-empty line, and
their last line breaks are kept, cut or stripped as the chomping indicator says.
-/

namespace SecScan.Yaml

open ScanM

/-- The characters a tag's URI may be made of, besides ASCII letters and digits. -/
def uriPunctuation : List Char :=
  ['-', ';', '/', '?', ':', '@', '&', '=', '+', '$', ',', '_', '.', '!', '~', '*', '\'', '(', ')',
    '[', ']', '%']

/-- Whether a character may be part of a tag's URI. -/
def isUriChar (c : Char) : Bool :=
  isDigit c || ('A' ≤ c && c ≤ 'Z') || ('a' ≤ c && c ≤ 'z') || uriPunctuation.contains c

/-- The value of a hexadecimal digit. -/
def hexDigitValue (c : Char) : Nat :=
  if isDigit c then c.toNat - 48
  else if 'a' ≤ c && c ≤ 'f' then c.toNat - 87
  else c.toNat - 55

/-- The value of hexadecimal digits. -/
def hexValue (s : String) : Nat := s.foldl (fun n c => n * 16 + hexDigitValue c) 0

/-- Reads the digits of a `%YAML` directive's version number. -/
def directiveNumber (start : Nat) : ScanM Nat := do
  let c ← peek
  if !isDigit c then
    fail (some "while scanning a directive") (some start) ("expected a digit, but found " ++ charText c)
      (← here)
  let n ← spanWhile isDigit
  let digits ← prefixText n
  forward n
  pure (digits.foldl (fun v d => v * 10 + (d.toNat - 48)) 0)

/-- Reads the name of a directive after its `%`. -/
def directiveName (start : Nat) : ScanM String := do
  let n ← spanWhile isWordChar
  if n == 0 then
    fail (some "while scanning a directive") (some start)
      ("expected alphabetic or numeric character, but found " ++ charText (← peek)) (← here)
  let name ← prefixText n
  forward n
  let c ← peek
  if !isSpaceOrEnd c then
    fail (some "while scanning a directive") (some start)
      ("expected alphabetic or numeric character, but found " ++ charText c) (← here)
  pure name

/-- Reads the version of a `%YAML` directive. -/
def yamlDirectiveValue (start : Nat) : ScanM DirectiveValue := do
  skipWhile (· == ' ')
  let major ← directiveNumber start
  if (← peek) != '.' then
    fail (some "while scanning a directive") (some start)
      ("expected a digit or '.', but found " ++ charText (← peek)) (← here)
  forward 1
  let minor ← directiveNumber start
  if !isSpaceOrEnd (← peek) then
    fail (some "while scanning a directive") (some start)
      ("expected a digit or ' ', but found " ++ charText (← peek)) (← here)
  pure (.version major minor)

/-- Reads a tag handle: `!`, `!!`, or `!` and word characters and `!`. -/
def tagHandle (name : String) (start : Nat) : ScanM String := do
  let c ← peek
  if c != '!' then
    fail (some ("while scanning a " ++ name)) (some start) ("expected '!', but found " ++ charText c)
      (← here)
  let length ←
    if (← peekAt 1) != ' ' then do
      let n := 1 + (← spanWhileFrom 1)
      let d ← peekAt n
      if d != '!' then
        forward n
        fail (some ("while scanning a " ++ name)) (some start) ("expected '!', but found " ++ charText d)
          (← here)
      pure (n + 1)
    else pure 1
  let value ← prefixText length
  forward length
  pure value
where
  /-- The number of word characters from `k` places on. -/
  spanWhileFrom (k : Nat) : ScanM Nat := do return (← read).span isWordChar ((← get).pos + k)

/-- Reads `%` escapes in a URI and the text their bytes decode to as UTF-8. -/
def uriEscapes (name : String) (start : Nat) : ScanM String := do
  let mark ← here
  let codes ← readCodes ((← read).chars.size + 1) #[]
  match Text.decodeUtf8 ⟨codes⟩ with
  | .ok text => pure text
  | .error e => fail (some ("while scanning a " ++ name)) (some start) (e.message ⟨codes⟩) mark
where
  /-- Reads the bytes of a run of escapes. -/
  readCodes : Nat → Array UInt8 → ScanM (Array UInt8)
    | 0, codes => pure codes
    | fuel + 1, codes => do
      if (← peek) != '%' then return codes
      forward 1
      for k in [0, 1] do
        let c ← peekAt k
        if !isHexDigit c then
          fail (some ("while scanning a " ++ name)) (some start)
            ("expected URI escape sequence of 2 hexadecimal numbers, but found " ++ charText c) (← here)
      let digits ← prefixText 2
      forward 2
      readCodes fuel (codes.push (hexValue digits).toUInt8)

/-- Reads the characters of a tag's URI, decoding `%` escapes, up to the first character that
cannot be part of one. -/
def tagUri (name : String) (start : Nat) : ScanM String := do
  let (chunks, length, c) ← loop ((← read).chars.size + 1) #[] 0
  let chunks ←
    if length > 0 then do
      let text ← prefixText length
      forward length
      pure (chunks.push text)
    else pure chunks
  if chunks.isEmpty then
    fail (some ("while parsing a " ++ name)) (some start) ("expected URI, but found " ++ charText c)
      (← here)
  pure (String.join chunks.toList)
where
  /-- Counts URI characters from here, taking escapes as they come. -/
  loop : Nat → Array String → Nat → ScanM (Array String × Nat × Char)
    | 0, chunks, length => do return (chunks, length, ← peekAt length)
    | fuel + 1, chunks, length => do
      let c ← peekAt length
      if !isUriChar c then return (chunks, length, c)
      if c == '%' then
        let text ← prefixText length
        forward length
        let decoded ← uriEscapes name start
        loop fuel ((chunks.push text).push decoded) 0
      else loop fuel chunks (length + 1)

/-- Reads the handle and prefix of a `%TAG` directive. -/
def tagDirectiveValue (start : Nat) : ScanM DirectiveValue := do
  skipWhile (· == ' ')
  let handle ← tagHandle "directive" start
  let c ← peek
  if c != ' ' then
    fail (some "while scanning a directive") (some start) ("expected ' ', but found " ++ charText c)
      (← here)
  skipWhile (· == ' ')
  let pfx ← tagUri "directive" start
  let d ← peek
  if !isSpaceOrEnd d then
    fail (some "while scanning a directive") (some start) ("expected ' ', but found " ++ charText d)
      (← here)
  pure (.tag handle pfx)

/-- Reads what may follow a directive on its line: spaces and a comment. -/
def directiveIgnoredLine (start : Nat) : ScanM Unit := do
  skipWhile (· == ' ')
  if (← peek) == '#' then skipWhile (!isBreakOrEnd ·)
  let c ← peek
  if !isBreakOrEnd c then
    fail (some "while scanning a directive") (some start)
      ("expected a comment or a line break, but found " ++ charText c) (← here)
  let _ ← lineBreak

/-- Reads a directive from its `%`. -/
def scanDirective : ScanM Token := do
  let start ← here
  forward 1
  let name ← directiveName start
  let (value, stop) ←
    if name == "YAML" then do
      let v ← yamlDirectiveValue start
      pure (v, ← here)
    else if name == "TAG" then do
      let v ← tagDirectiveValue start
      pure (v, ← here)
    else do
      let stop ← here
      skipWhile (!isBreakOrEnd ·)
      pure (.other, stop)
  directiveIgnoredLine start
  pure ⟨.directive name value, start, stop⟩

/-- Whether a character may follow an anchor or an alias. -/
def endsAnchor (c : Char) : Bool :=
  isBlankOrEnd c || c == '?' || c == ':' || c == ',' || c == ']' || c == '\x7d' || c == '%' ||
    c == '@' || c == Char.ofNat 96

/-- Reads an anchor (`&name`) or an alias (`*name`). -/
def scanAnchor (isAlias : Bool) : ScanM Token := do
  let start ← here
  let what := if isAlias then "alias" else "anchor"
  forward 1
  let n ← spanWhile isWordChar
  if n == 0 then
    fail (some ("while scanning an " ++ what)) (some start)
      ("expected alphabetic or numeric character, but found " ++ charText (← peek)) (← here)
  let name ← prefixText n
  forward n
  let c ← peek
  if !endsAnchor c then
    fail (some ("while scanning an " ++ what)) (some start)
      ("expected alphabetic or numeric character, but found " ++ charText c) (← here)
  let stop ← here
  pure ⟨if isAlias then .alias name else .anchor name, start, stop⟩

/-- Whether a `!` comes from `i` on before a space, a line break or the end. -/
def hasSecondBang (s : Source) (i : Nat) : Bool :=
  s.get (s.skipWhile (fun c => !isSpaceOrEnd c && c != '!') i) == '!'

/-- Reads a tag: `!<uri>`, a lone `!`, `!suffix`, or a handle and a suffix. -/
def scanTag : ScanM Token := do
  let start ← here
  let c ← peekAt 1
  let (handle, suffix) ←
    if c == '<' then do
      forward 2
      let suffix ← tagUri "tag" start
      let d ← peek
      if d != '>' then
        fail (some "while parsing a tag") (some start) ("expected '>', but found " ++ charText d) (← here)
      forward 1
      pure (none, suffix)
    else if isBlankOrEnd c then do
      forward 1
      pure (none, "!")
    else do
      let handle ←
        if hasSecondBang (← read) ((← here) + 1) then tagHandle "tag" start
        else do
          forward 1
          pure "!"
      let suffix ← tagUri "tag" start
      pure (some handle, suffix)
  let d ← peek
  if !isSpaceOrEnd d then
    fail (some "while scanning a tag") (some start) ("expected ' ', but found " ++ charText d) (← here)
  let stop ← here
  pure ⟨.tag handle suffix, start, stop⟩

/-- Reads the chomping and indentation indicators of a block scalar header. -/
def blockIndicators (start : Nat) : ScanM (Option Bool × Option Nat) := do
  let badZero : ScanM Unit := do
    fail (some "while scanning a block scalar") (some start)
      "expected indentation indicator in the range 1-9, but found 0" (← here)
  let c ← peek
  let result ←
    if c == '+' || c == '-' then do
      forward 1
      let d ← peek
      if isDigit d then
        if d == '0' then badZero
        forward 1
        pure (some (c == '+'), some (d.toNat - 48))
      else pure (some (c == '+'), none)
    else if isDigit c then do
      if c == '0' then badZero
      forward 1
      let d ← peek
      if d == '+' || d == '-' then
        forward 1
        pure (some (d == '+'), some (c.toNat - 48))
      else pure (none, some (c.toNat - 48))
    else pure (none, none)
  let e ← peek
  if !isSpaceOrEnd e then
    fail (some "while scanning a block scalar") (some start)
      ("expected chomping or indentation indicators, but found " ++ charText e) (← here)
  pure result

/-- Reads what may follow a block scalar header on its line: spaces and a comment. -/
def blockIgnoredLine (start : Nat) : ScanM Unit := do
  skipWhile (· == ' ')
  if (← peek) == '#' then skipWhile (!isBreakOrEnd ·)
  let c ← peek
  if !isBreakOrEnd c then
    fail (some "while scanning a block scalar") (some start)
      ("expected a comment or a line break, but found " ++ charText c) (← here)
  let _ ← lineBreak

/-- Moves past spaces while the column is below `indent`. -/
def indentSpaces (indent : Nat) : Nat → ScanM Unit
  | 0 => pure ()
  | fuel + 1 => do
    if (← column) < indent && (← peek) == ' ' then
      forward 1
      indentSpaces indent fuel

/-- The text of a line break read by the scanner. -/
def breakText (b : Option Char) : String := (b.map Char.toString).getD ""

/-- Reads the empty lines before a block scalar's text when no indentation is given: their
breaks, the widest indentation among them, and the position after the last break. -/
def blockIndentation : ScanM (Array String × Nat × Nat) := do
  loop ((← read).chars.size + 1) #[] 0 (← here)
where
  /-- Reads one space or line break at a time. -/
  loop : Nat → Array String → Nat → Nat → ScanM (Array String × Nat × Nat)
    | 0, breaks, widest, stop => pure (breaks, widest, stop)
    | fuel + 1, breaks, widest, stop => do
      let c ← peek
      if c == ' ' then
        forward 1
        loop fuel breaks (max widest (← column)) stop
      else if isBreak c then
        let b ← lineBreak
        loop fuel (breaks.push (breakText b)) widest (← here)
      else pure (breaks, widest, stop)

/-- Reads the line breaks inside a block scalar at indentation `indent`, each line's
indentation skipped: the breaks and the position after the last one. -/
def blockBreaks (indent : Nat) : ScanM (Array String × Nat) := do
  let fuel := (← read).chars.size + 1
  let stop ← here
  indentSpaces indent fuel
  loop fuel fuel #[] stop
where
  /-- Reads one line break at a time. -/
  loop (width : Nat) : Nat → Array String → Nat → ScanM (Array String × Nat)
    | 0, breaks, stop => pure (breaks, stop)
    | fuel + 1, breaks, stop => do
      if isBreak (← peek) then
        let b ← lineBreak
        let stop ← here
        indentSpaces indent width
        loop width fuel (breaks.push (breakText b)) stop
      else pure (breaks, stop)

/-- Reads the lines of a block scalar at indentation `indent`, folding them when `folded`:
the text so far, the last line break read, the breaks after it, and where the scalar ends. -/
def blockLines (folded : Bool) (indent : Nat) :
    Nat → Array String → String → Array String → Nat → ScanM (Array String × String × Array String × Nat)
  | 0, chunks, lastBreak, breaks, stop => pure (chunks, lastBreak, breaks, stop)
  | fuel + 1, chunks, lastBreak, breaks, stop => do
    if (← column) == indent && (← peek) != '\x00' then
      let chunks := chunks ++ breaks
      let c ← peek
      let leadingNonSpace := c != ' ' && c != '\t'
      let n ← spanWhile (!isBreakOrEnd ·)
      let chunks := chunks.push (← prefixText n)
      forward n
      let lastBreak := breakText (← lineBreak)
      let (breaks, stop) ← blockBreaks indent
      if (← column) == indent && (← peek) != '\x00' then
        let d ← peek
        let chunks :=
          if folded && lastBreak == "\n" && leadingNonSpace && d != ' ' && d != '\t' then
            (if breaks.isEmpty then chunks.push " " else chunks)
          else chunks.push lastBreak
        blockLines folded indent fuel chunks lastBreak breaks stop
      else pure (chunks, lastBreak, breaks, stop)
    else pure (chunks, lastBreak, breaks, stop)

/-- Reads a literal (`|`) or folded (`>`) block scalar. -/
def scanBlockScalar (folded : Bool) : ScanM Token := do
  let start ← here
  forward 1
  let (chomping, increment) ← blockIndicators start
  blockIgnoredLine start
  let least : Nat := max 1 ((← get).indent + 1).toNat
  let (breaks, indent, stop) ← match increment with
    | none => do
      let (breaks, widest, stop) ← blockIndentation
      pure (breaks, max least widest, stop)
    | some inc => do
      let indent := least + inc - 1
      let (breaks, stop) ← blockBreaks indent
      pure (breaks, indent, stop)
  let (chunks, lastBreak, breaks, stop) ←
    blockLines folded indent ((← read).chars.size + 1) #[] "" breaks stop
  let chunks := if chomping != some false then chunks.push lastBreak else chunks
  let chunks := if chomping == some true then chunks ++ breaks else chunks
  pure ⟨.scalar (String.join chunks.toList) false (some (if folded then '>' else '|')), start, stop⟩

/-- The character a double-quoted escape letter stands for. -/
def escapeReplacement? : Char → Option Char
  | '0' => some '\x00'
  | 'a' => some '\x07'
  | 'b' => some '\x08'
  | 't' => some '\t'
  | '\t' => some '\t'
  | 'n' => some '\n'
  | 'v' => some '\x0b'
  | 'f' => some '\x0c'
  | 'r' => some '\r'
  | 'e' => some '\x1b'
  | ' ' => some ' '
  | '"' => some '"'
  | '\\' => some '\\'
  | '/' => some '/'
  | 'N' => some '\x85'
  | '_' => some '\xa0'
  | 'L' => some '\u2028'
  | 'P' => some '\u2029'
  | _ => none

/-- The number of hexadecimal digits after an escape letter. -/
def escapeWidth? : Char → Option Nat
  | 'x' => some 2
  | 'u' => some 4
  | 'U' => some 8
  | _ => none

/-- The character a code point escape stands for; a surrogate stands for its stand-in. -/
def escapedChar (code : Nat) : ScanM Char :=
  if code > 0x10FFFF then throw (.crash "ValueError" "chr() arg not in range(0x110000)")
  else if 0xD800 ≤ code && code ≤ 0xDFFF then pure (Text.surrogateChar code)
  else pure (Char.ofNat code)

/-- Reads the line breaks inside a quoted scalar, blanks skipped; a document marker at the
start of a line is a problem. -/
def flowScalarBreaks (start : Nat) : Nat → Array String → ScanM (Array String)
  | 0, chunks => pure chunks
  | fuel + 1, chunks => do
    if ← atDocumentSeparator then
      fail (some "while scanning a quoted scalar") (some start) "found unexpected document separator"
        (← here)
    skipWhile (fun c => c == ' ' || c == '\t')
    if isBreak (← peek) then
      let b ← lineBreak
      flowScalarBreaks start fuel (chunks.push (breakText b))
    else pure chunks

/-- Reads the part of a quoted scalar up to the next blank, line break or end, with its
quotes and escapes. -/
def flowNonSpaces (double : Bool) (start : Nat) : Nat → Array String → ScanM (Array String)
  | 0, chunks => pure chunks
  | fuel + 1, chunks => do
    let n ← spanWhile fun c => !(c == '\'' || c == '"' || c == '\\' || isBlankOrEnd c)
    let chunks ← if n > 0 then do
        let text ← prefixText n
        forward n
        pure (chunks.push text)
      else pure chunks
    let c ← peek
    if !double && c == '\'' && (← peekAt 1) == '\'' then
      forward 2
      flowNonSpaces double start fuel (chunks.push "'")
    else if (double && c == '\'') || (!double && (c == '"' || c == '\\')) then
      forward 1
      flowNonSpaces double start fuel (chunks.push c.toString)
    else if double && c == '\\' then
      forward 1
      let e ← peek
      match escapeReplacement? e, escapeWidth? e with
      | some r, _ =>
        forward 1
        flowNonSpaces double start fuel (chunks.push r.toString)
      | none, some width =>
        forward 1
        for k in List.range width do
          let d ← peekAt k
          if !isHexDigit d then
            fail (some "while scanning a double-quoted scalar") (some start)
              ("expected escape sequence of " ++ toString width ++ " hexadecimal numbers, but found " ++
                charText d) (← here)
        let digits ← prefixText width
        let r ← escapedChar (hexValue digits)
        forward width
        flowNonSpaces double start fuel (chunks.push r.toString)
      | none, none =>
        if isBreak e then
          let _ ← lineBreak
          let breaks ← flowScalarBreaks start ((← read).chars.size + 1) #[]
          flowNonSpaces double start fuel (chunks ++ breaks)
        else
          fail (some "while scanning a double-quoted scalar") (some start)
            ("found unknown escape character " ++ charText e) (← here)
    else pure chunks

/-- Reads the blanks and line breaks inside a quoted scalar, folding the breaks. -/
def flowSpaces (start : Nat) : ScanM (Array String) := do
  let n ← spanWhile (fun c => c == ' ' || c == '\t')
  let blanks ← prefixText n
  forward n
  let c ← peek
  if c == '\x00' then
    fail (some "while scanning a quoted scalar") (some start) "found unexpected end of stream" (← here)
  else if isBreak c then
    let lineBreakText := breakText (← lineBreak)
    let breaks ← flowScalarBreaks start ((← read).chars.size + 1) #[]
    let first :=
      if lineBreakText != "\n" then #[lineBreakText] else if breaks.isEmpty then #[" "] else #[]
    pure (first ++ breaks)
  else pure #[blanks]

/-- Reads a single- or double-quoted scalar. -/
def scanFlowScalar (double : Bool) : ScanM Token := do
  let start ← here
  let quote ← peek
  forward 1
  let fuel := (← read).chars.size + 1
  let chunks ← flowNonSpaces double start fuel #[]
  let chunks ← loop start quote fuel chunks
  forward 1
  let stop ← here
  pure ⟨.scalar (String.join chunks.toList) false (some (if double then '"' else '\'')), start, stop⟩
where
  /-- Reads blanks and text until the closing quote. -/
  loop (start : Nat) (quote : Char) : Nat → Array String → ScanM (Array String)
    | 0, chunks => pure chunks
    | fuel + 1, chunks => do
      if (← peek) == quote then return chunks
      let spaces ← flowSpaces start
      let more ← flowNonSpaces double start ((← read).chars.size + 1) #[]
      loop start quote fuel (chunks ++ spaces ++ more)

/-- Where the run of a plain scalar from `j` ends: at a blank, a line break or the end, at a
`:` before one of those, and in flow context at `,`, `?`, a bracket or a brace, or a `:` before
one of those. -/
def plainRunEnd (s : Source) (flow : Bool) (j : Nat) : Nat :=
  if h : j < s.chars.size then
    let c := s.chars[j]
    let next := s.get (j + 1)
    let flowStop (d : Char) : Bool := d == ',' || d == '[' || d == ']' || d == '\x7b' || d == '\x7d'
    if isBlankOrEnd c || (c == ':' && (isBlankOrEnd next || (flow && flowStop next))) ||
        (flow && (flowStop c || c == '?')) then j
    else plainRunEnd s flow (j + 1)
  else j
termination_by s.chars.size - j

/-- Reads the spaces and line breaks after a run of a plain scalar, as they join it to the next
run; nothing when the scalar ends here, at a document marker or with no blank. -/
def plainSpaces : ScanM (Array String) := do
  let n ← spanWhile (· == ' ')
  let blanks ← prefixText n
  forward n
  let c ← peek
  if isBreak c then
    let lineBreakText := breakText (← lineBreak)
    modify fun s => { s with allowSimpleKey := true }
    if ← atDocumentSeparator then return #[]
    match ← breaks ((← read).chars.size + 1) #[] with
    | none => pure #[]
    | some breaks =>
      let first :=
        if lineBreakText != "\n" then #[lineBreakText] else if breaks.isEmpty then #[" "] else #[]
      pure (first ++ breaks)
  else if n > 0 then pure #[blanks]
  else pure #[]
where
  /-- Reads further spaces and line breaks; `none` at a document marker. -/
  breaks : Nat → Array String → ScanM (Option (Array String))
    | 0, acc => pure (some acc)
    | fuel + 1, acc => do
      let c ← peek
      if c == ' ' then
        forward 1
        breaks fuel acc
      else if isBreak c then
        let b ← lineBreak
        if ← atDocumentSeparator then return none
        breaks fuel (acc.push (breakText b))
      else pure (some acc)

/-- Reads a plain scalar. -/
def scanPlain : ScanM Token := do
  let start ← here
  let indent := (← get).indent + 1
  let (chunks, stop) ← loop indent ((← read).chars.size + 1) #[] #[] start
  pure ⟨.scalar (String.join chunks.toList) true none, start, stop⟩
where
  /-- Reads one run at a time, with the blanks before it. -/
  loop (indent : Int) : Nat → Array String → Array String → Nat → ScanM (Array String × Nat)
    | 0, chunks, _, stop => pure (chunks, stop)
    | fuel + 1, chunks, spaces, stop => do
      if (← peek) == '#' then return (chunks, stop)
      let n := plainRunEnd (← read) (← inFlow) (← here) - (← here)
      if n == 0 then return (chunks, stop)
      modify fun s => { s with allowSimpleKey := false }
      let chunks := chunks ++ spaces
      let chunks := chunks.push (← prefixText n)
      forward n
      let stop ← here
      let spaces ← plainSpaces
      if spaces.isEmpty || (← peek) == '#' || (!(← inFlow) && ((← column) : Int) < indent) then
        return (chunks, stop)
      loop indent fuel chunks spaces stop

end SecScan.Yaml
