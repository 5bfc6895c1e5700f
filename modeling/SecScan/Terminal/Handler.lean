import SecScan.Text.Blank
import SecScan.Text.Printable
import SecScan.Text.WordChar
import SecScan.Json.Literal
import SecScan.Text.NameTable

/-!
Handler tags, such as `[@click=open(1)]`, carry parameters that must be a literal: numbers,
strings, `None`, `True`, `False`, `...`, and tuples, lists, sets and dictionaries of literals,
with a sign before a number and a complex number written as a sum. The parameters are read the
way an expression is: split into tokens, parsed, then evaluated as a literal.

A problem is reported with the reader's message. Token problems come first, wherever they
stand: an unterminated string, a malformed number, an unmatched or mismatched bracket, or a
character that has no place in an expression. Then the parse: reaching the end with a bracket
open reports that bracket as never closed. A parse that fails otherwise is read a second time
with rules that look for a more telling message, such as a missing comma between two
expressions inside brackets, before falling back to plain invalid syntax. An expression that
parses but is no literal, or a set item or dictionary key that cannot be hashed, is refused when
evaluated.
-/

namespace SecScan.Terminal.Handler

/-! ### Tokens -/

/-- The kind of a number literal. -/
inductive NumberKind where
  | whole
  | real
  | imaginary
  deriving Repr, BEq, Inhabited

/-- A token of an expression. -/
inductive Token where
  | name (text : String)
  | number (kind : NumberKind)
  /-- A string literal: its prefix in lower case and its text between the quotes. -/
  | string (pre : String) (body : List Char)
  | op (text : String)
  | newline
  | endmarker
  deriving Repr, BEq, Inhabited

/-- A token with the depth of brackets and the line it starts on. -/
structure Lexeme where
  token : Token
  level : Nat
  line : Nat
  deriving Repr, Inhabited

/-- A code point in upper-case hexadecimal, at least four digits. -/
def codePoint (c : Char) : String :=
  let digits := (Nat.toDigits 16 c.toNat).map Char.toUpper
  String.ofList (List.replicate (4 - digits.length) '0' ++ digits)

/-- Whether a character may be part of a name as far as splitting into tokens goes: ASCII
letters, digits and the underscore, and every character beyond ASCII. -/
def isNameChar (c : Char) : Bool :=
  ('a' ≤ c && c ≤ 'z') || ('A' ≤ c && c ≤ 'Z') || ('0' ≤ c && c ≤ '9') || c == '_' ||
    c.toNat ≥ 128

/-- Whether a character may start a name as far as splitting into tokens goes. -/
def isNameStart (c : Char) : Bool := isNameChar c && !('0' ≤ c && c ≤ '9')

/-- The message for a character that has no place in an expression. -/
def badCharacter (c : Char) : String :=
  if Text.isPrintable c then "invalid character '" ++ c.toString ++ "' (U+" ++ codePoint c ++ ")"
  else "invalid non-printable character U+" ++ codePoint c

/-- The first character of a name that a name may not hold at its place: a name starts with a
letter or an underscore and goes on with letters, digits and underscores. -/
def badNameChar? : List Char → Option Char
  | [] => none
  | c :: rest =>
    if c.toNat ≥ 128 && !(Text.isWordChar c && !c.isDigit && c.toNat != 0xB2 && c.toNat != 0xB3 &&
        c.toNat != 0xB9) then some c
    else rest.find? fun d => d.toNat ≥ 128 && !Text.isWordChar d

/-- Whether the words `word` stands at the head of `cs` and ends there. -/
def wordAhead (word : String) (cs : List Char) : Bool :=
  cs.take word.length == word.toList && !((cs.drop word.length).head?.any isNameChar)

/-- Checks what follows a number: an ASCII letter, digit or underscore right after it makes the
number malformed, unless a keyword that may follow a number starts there. -/
def endOfNumber (kind : String) (cs : List Char) : Except String (NumberKind → NumberKind) :=
  match cs with
  | c :: rest =>
    let keyword := match c with
      | 'a' => wordAhead "nd" rest
      | 'e' => wordAhead "lse" rest
      | 'f' => wordAhead "or" rest
      | 'o' => wordAhead "r" rest
      | 'n' => wordAhead "ot" rest
      | 'i' => rest.head? == some 'f' || rest.head? == some 'n' || rest.head? == some 's'
      | _ => false
    if !keyword && isNameChar c && c.toNat < 128 then .error ("invalid " ++ kind ++ " literal")
    else .ok id
  | [] => .ok id

/-- Reads digits joined by single underscores. `need` says a digit must come next. Gives what
follows the digits, or the character found where a digit was needed. -/
def underscoredDigits (valid : Char → Bool) : Bool → List Char → Except (Option Char) (List Char)
  | true, c :: rest => if valid c then underscoredDigits valid false rest else .error (some c)
  | true, [] => .error none
  | false, c :: rest =>
    if valid c then underscoredDigits valid false rest
    else if c == '_' then underscoredDigits valid true rest
    else .ok (c :: rest)
  | false, [] => .ok []

/-- Reads the digits of a hexadecimal, octal or binary literal after its prefix, an underscore
allowed right after the prefix: what follows, or the problem. Octal and binary literals name an
out-of-range decimal digit. -/
def radixDigits (valid : Char → Bool) (kind : String) (namesDigit : Bool) (cs : List Char) :
    Except String (List Char) :=
  let bad (c : Option Char) : String :=
    match c with
    | some c => if namesDigit && c.isDigit then
        "invalid digit '" ++ c.toString ++ "' in " ++ kind ++ " literal"
      else "invalid " ++ kind ++ " literal"
    | none => "invalid " ++ kind ++ " literal"
  let body := match cs with
    | '_' :: rest => rest
    | _ => cs
  match underscoredDigits valid true body with
  | .error c => .error (bad c)
  | .ok rest =>
    match rest with
    | c :: _ => if namesDigit && c.isDigit then .error (bad (some c))
      else (endOfNumber kind rest).map fun _ => rest
    | [] => .ok rest

/-- Decimal digits joined by single underscores, after a first digit: what follows, or the
problem. -/
def decimalTail (cs : List Char) : Except String (List Char) :=
  (underscoredDigits Char.isDigit false cs).mapError fun _ => "invalid decimal literal"

/-- Reads the zeros at the start of a number after its first zero, which underscores may join
to each other and to the digit after them: what follows, or the problem. -/
def zeroRun : List Char → Except String (List Char)
  | '_' :: d :: rest =>
    if d == '0' then zeroRun rest
    else if d.isDigit then .ok (d :: rest)
    else .error "invalid decimal literal"
  | ['_'] => .error "invalid decimal literal"
  | '0' :: rest => zeroRun rest
  | cs => .ok cs

/-- Reads the exponent and the imaginary mark of a decimal number at the head of `cs`, after
its digits and fraction, of kind `kind` so far. -/
def numberEnd (kind : NumberKind) (cs : List Char) : Except String (NumberKind × List Char) := do
  let (kind, cs) ← match cs with
    | e :: rest =>
      if e == 'e' || e == 'E' then
        match rest with
        | s :: d :: more =>
          if (s == '+' || s == '-') then
            if d.isDigit then (decimalTail more).map fun r => (NumberKind.real, r)
            else .error "invalid decimal literal"
          else if s.isDigit then (decimalTail (d :: more)).map fun r => (NumberKind.real, r)
          else (endOfNumber "decimal" cs).map fun _ => (kind, cs)
        | [s] =>
          if s.isDigit then .ok (NumberKind.real, [])
          else if s == '+' || s == '-' then .error "invalid decimal literal"
          else (endOfNumber "decimal" cs).map fun _ => (kind, cs)
        | [] => (endOfNumber "decimal" cs).map fun _ => (kind, cs)
      else .ok (kind, cs)
    | [] => .ok (kind, cs)
  match cs with
  | j :: rest =>
    if j == 'j' || j == 'J' then do
      let _ ← endOfNumber "imaginary" rest
      pure (.imaginary, rest)
    else do
      let _ ← endOfNumber "decimal" cs
      pure (kind, cs)
  | [] => pure (kind, cs)

/-- Reads the fraction of a decimal number, after its point, then the rest. -/
def fraction (cs : List Char) : Except String (NumberKind × List Char) :=
  match cs with
  | d :: rest => if d.isDigit then do
      let r ← decimalTail rest
      numberEnd .real r
    else numberEnd .real cs
  | [] => numberEnd .real cs

/-- Reads a number literal at the head of `cs`, which starts with a digit or a point and a
digit: its kind and what follows, or the problem. -/
def readNumber (cs : List Char) : Except String (NumberKind × List Char) :=
  match cs with
  | '.' :: rest => fraction rest
  | '0' :: c :: rest =>
    if c == 'x' || c == 'X' then
      (radixDigits (fun c => c.isDigit || ('a' ≤ c && c ≤ 'f') || ('A' ≤ c && c ≤ 'F'))
        "hexadecimal" false rest).map fun r => (.whole, r)
    else if c == 'o' || c == 'O' then
      (radixDigits (fun c => '0' ≤ c && c ≤ '7') "octal" true rest).map fun r => (.whole, r)
    else if c == 'b' || c == 'B' then
      (radixDigits (fun c => c == '0' || c == '1') "binary" true rest).map fun r => (.whole, r)
    else do
      -- zeros, maybe joined by underscores, then perhaps more digits
      let afterZeros ← zeroRun (c :: rest)
      let (nonzero, afterDigits) ← match afterZeros with
        | d :: more =>
          if d.isDigit then (decimalTail more).map (fun r => (true, r))
          else pure (false, afterZeros)
        | [] => pure (false, afterZeros)
      match afterDigits with
      | '.' :: more => fraction more
      | e :: _ =>
        if e == 'e' || e == 'E' || e == 'j' || e == 'J' then numberEnd .whole afterDigits
        else if nonzero then
          .error ("leading zeros in decimal integer literals are not permitted; " ++
            "use an 0o prefix for octal integers")
        else numberEnd .whole afterDigits
      | [] =>
        if nonzero then
          .error ("leading zeros in decimal integer literals are not permitted; " ++
            "use an 0o prefix for octal integers")
        else .ok (.whole, [])
  | _ :: rest => do
    let r ← decimalTail rest
    match r with
    | '.' :: more => fraction more
    | _ => numberEnd .whole r
  | [] => .ok (.whole, [])

/-- Whether a word is a prefix a string literal may carry. -/
def isStringPrefix (word : String) : Bool :=
  ["r", "u", "b", "br", "rb", "f", "fr", "rf"].contains (String.ofList (word.toList.map Char.toLower))

/-- The length of text once each character beyond ASCII is written as the ten-character escape
it is read as, the way positions in escape problems count. -/
def escapedLength (cs : List Char) : Nat :=
  cs.foldl (fun n c => n + (if c.toNat ≥ 128 then 10 else 1)) 0

/-- The message of an escape from position `pos` up to, not including, `stop` that cannot be
read as text. -/
def escapeError (pos stop : Nat) (what : String) : String :=
  "(unicode error) 'unicodeescape' codec can't decode bytes in position " ++ toString pos ++ "-" ++
    toString (stop - 1) ++ ": " ++ what

/-- The problem of an escape in the text of a string that is not raw, if any: a truncated
hexadecimal escape, a code point beyond Unicode, or in text a named escape that is malformed or
names no character. Positions count each character beyond ASCII as ten, the length of the escape
it is read as. -/
def escapeProblem (bytes : Bool) : Nat → Nat → List Char → Option String
  | 0, _, _ => none
  | _, _, [] => none
  | fuel + 1, pos, '\\' :: 'N' :: rest =>
    if bytes then escapeProblem bytes fuel (pos + 2) rest
    else
      let malformed (stop : Nat) := some (escapeError pos stop "malformed \\N character escape")
      match rest with
      | '\x7b' :: more =>
        let name := more.takeWhile (· != '\x7d')
        let stop := pos + 3 + escapedLength name
        match more.drop name.length with
        | _ :: after =>
          if name.isEmpty then malformed stop
          else if name.all (·.toNat < 128) && Text.isCharacterName (String.ofList name) then
            escapeProblem bytes fuel (stop + 1) after
          else some (escapeError pos (stop + 1) "unknown Unicode character name")
        | [] => malformed stop
      | _ => malformed (pos + 2)
  | fuel + 1, pos, '\\' :: c :: rest =>
    let width := if bytes then (if c == 'x' then 2 else 0)
      else if c == 'x' then 2 else if c == 'u' then 4 else if c == 'U' then 8 else 0
    if width == 0 then
      escapeProblem bytes fuel (pos + 1 + (if c.toNat ≥ 128 then 15 else 1)) rest
    else
      let digits := (rest.take width).takeWhile fun d =>
        d.isDigit || ('a' ≤ d && d ≤ 'f') || ('A' ≤ d && d ≤ 'F')
      if digits.length < width then
        if bytes then some ("(value error) invalid \\x escape at position " ++ toString pos)
        else
          let name := if c == 'x' then "\\xXX" else if c == 'u' then "\\uXXXX" else "\\UXXXXXXXX"
          some ("(unicode error) 'unicodeescape' codec can't decode bytes in position " ++
            toString pos ++ "-" ++ toString (pos + 1 + digits.length) ++ ": truncated " ++ name ++
            " escape")
      else
        let value : Nat := digits.foldl (fun n d =>
          16 * n + (if d.isDigit then d.toNat - 48 else (d.toLower.toNat - 87))) 0
        if value > 0x10FFFF then
          some ("(unicode error) 'unicodeescape' codec can't decode bytes in position " ++
            toString pos ++ "-" ++ toString (pos + 1 + width) ++ ": illegal Unicode character")
        else escapeProblem bytes fuel (pos + 2 + width) (rest.drop width)
  | fuel + 1, pos, c :: rest => escapeProblem bytes fuel (pos + (if c.toNat ≥ 128 then 10 else 1)) rest

/-- The problem of a string literal's text, given its prefix. -/
def stringProblem (pre : String) (body : List Char) : Option String :=
  let lower := String.ofList (pre.toList.map Char.toLower)
  let bytes := lower.contains 'b'
  if bytes && body.any (·.toNat ≥ 128) then some "bytes can only contain ASCII literal characters"
  else if lower.contains 'r' || lower.contains 'f' then none
  else escapeProblem bytes (body.length + 1) 0 body

/-! ### Formatted strings -/

/-- A step in reading the text of a formatted string, in the order the steps are taken. -/
inductive FormatStep where
  /-- Literal text, read with its escapes unless the string is raw. -/
  | literal (text : List Char)
  /-- The expression of a replacement field, read in parentheses on its own. -/
  | expression (text : List Char)
  /-- A problem, which ends the reading. -/
  | problem (message : String)
  deriving Repr, Inhabited

/-- Whether a step is a problem. -/
def FormatStep.isProblem : FormatStep → Bool
  | .problem _ => true
  | _ => false

/-- Whether a character is one of the blanks an empty replacement field may hold. -/
def isFieldBlank (c : Char) : Bool := c == ' ' || c == '\t' || c == '\n' || c == '\x0c'

/-- Whether a character is ASCII white space. -/
def isAsciiSpace (c : Char) : Bool :=
  c == ' ' || c == '\t' || c == '\n' || c == '\r' || c == '\x0b' || c == '\x0c'

/-- The literal text at the head of a formatted string's text, up to a brace: the text, what
follows it, and whether it ends in a doubled brace, which stands for one brace kept at the end of
the text. Doubling counts only at the top level, where a single closing brace is a problem.
Unless the string is raw, a backslash takes the next character with it, and a named escape its
name up to the closing brace; a backslash before a brace leaves the brace its meaning. -/
def literalRun (raw top : Bool) : Nat → List Char → List Char →
    Except String (List Char × List Char × Bool)
  | 0, acc, cs => .ok (acc.reverse, cs, false)
  | _, acc, [] => .ok (acc.reverse, [], false)
  | fuel + 1, acc, c :: rest =>
    let next : Sum (List Char × List Char) (Char × List Char × List Char) :=
      if !raw && c == '\\' then
        match rest with
        | 'N' :: '\x7b' :: more =>
          let name := more.takeWhile (· != '\x7d')
          let taken := if (more.drop name.length).isEmpty then name else name ++ ['\x7d']
          .inl (taken.reverse ++ ['\x7b', 'N', '\\'] ++ acc, more.drop taken.length)
        | 'N' :: d :: more => .inl (d :: 'N' :: '\\' :: acc, more)
        | d :: more => .inr (d, '\\' :: acc, more)
        | [] => .inr (c, acc, rest)
      else .inr (c, acc, rest)
    match next with
    | .inl (acc, rest) => literalRun raw top fuel acc rest
    | .inr (ch, acc, rest) =>
      if ch == '\x7b' || ch == '\x7d' then
        if top && rest.head? == some ch then .ok ((ch :: acc).reverse, rest.drop 1, true)
        else if top && ch == '\x7d' then .error "f-string: single '\x7d' is not allowed"
        else .ok (acc.reverse, ch :: rest, false)
      else literalRun raw top fuel (ch :: acc) rest

/-- Whether an opening bracket and a closing one make a pair. -/
def bracketsPair (o c : Char) : Bool :=
  (o == '(' && c == ')') || (o == '[' && c == ']') || (o == '\x7b' && c == '\x7d')

/-- The expression of a replacement field, from just after its opening brace up to the character
that ends it, `!`, `:`, `=` or a closing brace outside brackets and quotes, where `!=`, `==`, `<=`
and `>=` do not end it: the expression and what follows, from that character on. The expression
may hold no backslash and no `#`, its brackets must pair, at most 200 deep, and its quotes must
close. `quote` is the quote open and whether it is tripled, `stack` the brackets open, innermost
first. -/
def fieldExpression : Nat → Option (Char × Bool) → List Char → List Char → List Char →
    Except String (List Char × List Char)
  | 0, _, _, _, _ => .error "f-string: expecting '\x7d'"
  | _, quote, stack, _, [] =>
    if quote.isSome then .error "f-string: unterminated string"
    else
      match stack with
      | o :: _ => .error ("f-string: unmatched '" ++ o.toString ++ "'")
      | [] => .error "f-string: expecting '\x7d'"
  | fuel + 1, quote, stack, acc, c :: rest =>
    if c == '\\' then .error "f-string expression part cannot include a backslash"
    else
      match quote with
      | some (q, triple) =>
        if c != q then fieldExpression fuel quote stack (c :: acc) rest
        else if !triple then fieldExpression fuel none stack (c :: acc) rest
        else if rest.take 2 == [c, c] then
          fieldExpression fuel none stack (c :: c :: c :: acc) (rest.drop 2)
        else fieldExpression fuel quote stack (c :: acc) rest
      | none =>
        if c == '\'' || c == '"' then
          if rest.take 2 == [c, c] then
            fieldExpression fuel (some (c, true)) stack (c :: c :: c :: acc) (rest.drop 2)
          else fieldExpression fuel (some (c, false)) stack (c :: acc) rest
        else if c == '[' || c == '\x7b' || c == '(' then
          if stack.length ≥ 200 then .error "f-string: too many nested parenthesis"
          else fieldExpression fuel quote (c :: stack) (c :: acc) rest
        else if c == '#' then .error "f-string expression part cannot include '#'"
        else if stack.isEmpty && (c == '!' || c == ':' || c == '\x7d' || c == '=' || c == '>' ||
            c == '<') then
          if c != ':' && c != '\x7d' && rest.head? == some '=' then
            fieldExpression fuel quote stack ('=' :: c :: acc) (rest.drop 1)
          else if c == '>' || c == '<' then fieldExpression fuel quote stack (c :: acc) rest
          else .ok (acc.reverse, c :: rest)
        else if c == ']' || c == '\x7d' || c == ')' then
          match stack with
          | [] => .error ("f-string: unmatched '" ++ c.toString ++ "'")
          | o :: more =>
            if bracketsPair o c then fieldExpression fuel quote more (c :: acc) rest
            else .error ("f-string: closing parenthesis '" ++ c.toString ++
              "' does not match opening parenthesis '" ++ o.toString ++ "'")
        else fieldExpression fuel quote stack (c :: acc) rest

/-- The message for a formatted string that ends inside a replacement field. -/
def expectingBrace : String := "f-string: expecting '\x7d'"

mutual

/-- The steps of reading a formatted string's text at nesting `level`, the top level being 0 and
a format spec one more than its field: literal text and replacement fields, up to the end or, in
a format spec, a closing brace. Gives the steps, a problem last if there is one, and what
follows. -/
def formatSteps (raw : Bool) : Nat → Nat → List Char → List FormatStep × List Char
  | 0, _, cs => ([.problem expectingBrace], cs)
  | fuel + 1, level, cs =>
    match literalRun raw (level == 0) (cs.length + 1) [] cs with
    | .error m => ([.problem m], [])
    | .ok (text, rest, doubled) =>
      let here := if text.isEmpty then [] else [FormatStep.literal text]
      if doubled then
        let (more, after) := formatSteps raw fuel level rest
        (here ++ more, after)
      else
        match rest with
        | '\x7b' :: afterBrace =>
          let (field, after) := fieldSteps raw fuel level afterBrace
          if field.any FormatStep.isProblem then (here ++ field, after)
          else
            let (more, after) := formatSteps raw fuel level after
            (here ++ field ++ more, after)
        | _ => (here, rest)

/-- The steps of reading a replacement field at nesting `level`, from just after its opening
brace: its expression; then `=` with the blanks after it, a conversion `!s`, `!r` or `!a`, and a
format spec after `:`, each if present; then the closing brace. Fields nest only one level deep
in format specs. Gives the steps and what follows the field. -/
def fieldSteps (raw : Bool) : Nat → Nat → List Char → List FormatStep × List Char
  | 0, _, cs => ([.problem expectingBrace], cs)
  | fuel + 1, level, cs =>
    if level ≥ 2 then ([.problem "f-string: expressions nested too deeply"], [])
    else
      match fieldExpression (cs.length + 1) none [] [] cs with
      | .error m => ([.problem m], [])
      | .ok (text, rest) =>
        if text.all isFieldBlank then
          let last := rest.head?.getD '\x7d'
          ([.problem (if last == '!' || last == ':' || last == '=' then
              "f-string: expression required before '" ++ last.toString ++ "'"
            else "f-string: empty expression not allowed")], [])
        else
          let tail : Except String (List FormatStep × List Char) := do
            let rest ← match rest with
              | '=' :: more =>
                match more.dropWhile isAsciiSpace with
                | [] => throw expectingBrace
                | r => pure r
              | r => pure r
            let rest ← match rest with
              | '!' :: conversion :: after =>
                if conversion == 's' || conversion == 'r' || conversion == 'a' then pure after
                else throw "f-string: invalid conversion character: expected 's', 'r', or 'a'"
              | ['!'] => throw expectingBrace
              | r => pure r
            let (spec, rest) := match rest with
              | ':' :: more =>
                if more.isEmpty then ([FormatStep.problem expectingBrace], [])
                else formatSteps raw fuel (level + 1) more
              | r => ([], r)
            if spec.any FormatStep.isProblem then return (spec, [])
            match rest with
            | '\x7d' :: after => pure (spec, after)
            | _ => pure (spec ++ [.problem expectingBrace], [])
          match tail with
          | .ok (spec, after) => (.expression text :: spec, after)
          | .error m => ([.expression text, .problem m], [])

end

/-- The steps of reading the whole text of a formatted string. -/
def formatStepsOf (raw : Bool) (body : List Char) : List FormatStep :=
  (formatSteps raw (2 * body.length + 2) 0 body).1

/-- Reads the text of a string literal after its opening quote `q`, tripled when `triple`: the
text, what follows the closing quote and the line reached, or the problem. A line break that ends
the whole text starts no line of its own. -/
def stringBody (q : Char) (triple : Bool) : Nat → List Char → Nat → List Char →
    Except String (List Char × List Char × Nat)
  | 0, _, line, _ => .error ("unterminated string literal (detected at line " ++ toString line ++ ")")
  | _, [], line, acc =>
    let line := if acc.head? == some '\n' then line - 1 else line
    .error (if triple then
        "unterminated triple-quoted string literal (detected at line " ++ toString line ++ ")"
      else "unterminated string literal (detected at line " ++ toString line ++ ")")
  | fuel + 1, c :: rest, line, acc =>
    if c == '\\' then
      match rest with
      | d :: more => stringBody q triple fuel more (if d == '\n' then line + 1 else line) (d :: c :: acc)
      | [] => stringBody q triple fuel [] line (c :: acc)
    else if c == q then
      if !triple then .ok (acc.reverse, rest, line)
      else if rest.take 2 == [q, q] then .ok (acc.reverse, rest.drop 2, line)
      else stringBody q triple fuel rest line (c :: acc)
    else if c == '\n' then
      if triple then stringBody q triple fuel rest (line + 1) (c :: acc)
      else .error ("unterminated string literal (detected at line " ++ toString line ++ ")")
    else stringBody q triple fuel rest line (c :: acc)

/-- Operators of three and two characters. -/
def longOperators : List String :=
  ["**=", "...", "//=", "<<=", ">>=", "!=", "%=", "&=", "**", "*=", "+=", "-=", "->", "//", "/=",
    ":=", "<<", "<=", "==", ">=", ">>", "@=", "^=", "|="]

/-- The bracket that closes an opening one. -/
def closerOf : Char → Char
  | '(' => ')'
  | '[' => ']'
  | _ => '}'

/-- What splitting into tokens keeps: the line, the brackets open with their lines, innermost
first, the tokens read, last first, and the problem that stopped the splitting early, if any. A
backslash before anything but a line break stops it, so does one before the line break that ends
the text (the end came too early, unless a bracket is open: then that bracket was never closed),
and so does an indented line: the parser reports that problem only when it reaches that place.
The text after an indented line is still read for a problem that the reader reports wherever it
stands (`late`), up to a line whose indentation matches no earlier one; `indents` holds the
indentations of the lines, innermost first, and `atLineStart` tells that a line's indentation
is still to be looked at. `pastEnd` tells that reading the last token looked at the
character after it and found the end of the text there. -/
structure LexState where
  line : Nat := 1
  brackets : List (Char × Nat) := []
  tokens : List Lexeme := []
  stop : Option String := none
  indents : List Nat := [0]
  late : Option String := none
  atLineStart : Bool := true
  pastEnd : Bool := false
  deriving Inhabited

/-- Adds a token at the current depth. -/
def LexState.push (st : LexState) (t : Token) : LexState :=
  { st with tokens := ⟨t, st.brackets.length, st.line⟩ :: st.tokens, pastEnd := false }

/-- Adds a token followed by the text `after`. Reading a name, a number, an operator of one or
two characters or an empty string with single quotes looks at the character after it (`peeks`),
so when the token ends the text, reading it meets the end. -/
def LexState.pushBefore (st : LexState) (t : Token) (peeks : Bool) (after : List Char) :
    LexState :=
  { st.push t with pastEnd := peeks && after.isEmpty }

/-- How a line starts: the column its indentation reaches from `col`, and whether nothing but a
comment or the line break follows it (blanks that end the whole text do not make a blank line).
A blank moves one column, a tab to the next multiple of eight, and a form feed back to the
start. A backslash that ends a line within the indentation joins the next line to it, and the
first such backslash fixes the column unless it stands at the start (`cont`, zero while there is
none). None when the indentation runs into a backslash that ends no line, or into the end of
the text after one: the tokens stop there. -/
def lineStart : Nat → Nat → List Char → Option (Nat × Bool)
  | col, cont, ' ' :: rest => lineStart (col + 1) cont rest
  | col, cont, '\t' :: rest => lineStart ((col / 8 + 1) * 8) cont rest
  | _, cont, '\x0c' :: rest => lineStart 0 cont rest
  | col, cont, '\\' :: '\n' :: c :: rest => lineStart col (if cont == 0 then col else cont) (c :: rest)
  | _, _, '\\' :: _ => none
  | col, cont, rest =>
    let blank := match rest with
      | '#' :: _ | '\n' :: _ => true
      | _ => false
    some (if cont == 0 then col else cont, blank)

/-- Splits text into tokens. Each step reads at least one character or looks at a line's
indentation, so `fuel` at least twice the length of `cs`, and one more, suffices. At the start
of a line outside brackets, a line indented deeper than the one before stops the tokens, and
one indented less must come back to an earlier indentation. -/
def lex : Nat → List Char → LexState → Except String LexState
  | 0, _, st => .ok st
  | _, [], st => .ok st
  | fuel + 1, c :: rest, st =>
    if st.atLineStart then
      let st := { st with atLineStart := false }
      match lineStart 0 0 (c :: rest) with
      | some (col, false) =>
        let top := st.indents.headD 0
        if col > top then
          let st := { st with indents := col :: st.indents }
          if st.stop.isSome then lex fuel (c :: rest) st
          else
            let st := { st with stop := some "unexpected indent" }
            match lex fuel (c :: rest) st with
            | .error m => .ok { st with late := some m }
            | .ok _ => .ok st
        else if col == top then lex fuel (c :: rest) st
        else
          let kept := st.indents.dropWhile (col < ·)
          if kept.headD 0 == col then lex fuel (c :: rest) { st with indents := kept }
          else
            let stop := st.stop.orElse fun _ =>
              some "unindent does not match any outer indentation level"
            .ok { st with stop := stop }
      | _ => lex fuel (c :: rest) st
    else if c == ' ' || c == '\t' || c == '\x0c' then lex fuel rest st
    else if c == '#' then lex fuel (rest.dropWhile (· != '\n')) st
    else if c == '\\' then
      match rest with
      | ['\n'] =>
        .ok { st with stop := if st.brackets.isEmpty then some "unexpected EOF while parsing" else none }
      | '\n' :: more => lex fuel more { st with line := st.line + 1 }
      | _ => .ok { st with stop := some "unexpected character after line continuation character" }
    else if c == '\n' then
      let st := { st with line := st.line + 1 }
      if !st.brackets.isEmpty then lex fuel rest st
      else
        let st := match st.tokens with
          | t :: _ => if t.token == Token.newline then st else st.push .newline
          | [] => st
        lex fuel rest { st with atLineStart := true }
    else if c == '"' || c == '\'' then
      let triple := rest.take 2 == [c, c]
      match stringBody c triple (rest.length + 1) (if triple then rest.drop 2 else rest) st.line [] with
      | .ok (body, after, line) =>
        lex fuel after { st.pushBefore (.string "" body) (body.isEmpty && !triple) after with line := line }
      | .error m => .error m
    else if c.isDigit || (c == '.' && (rest.head?.any Char.isDigit)) then
      match readNumber (c :: rest) with
      | .ok (kind, after) => lex fuel after (st.pushBefore (.number kind) true after)
      | .error m => .error m
    else if isNameStart c then
      let word := c :: rest.takeWhile isNameChar
      let after := rest.drop (word.length - 1)
      match after with
      | q :: more =>
        if (q == '"' || q == '\'') && isStringPrefix (String.ofList word) then
          let triple := more.take 2 == [q, q]
          match stringBody q triple (more.length + 1) (if triple then more.drop 2 else more) st.line [] with
          | .ok (body, after, line) =>
            let pre := String.ofList (word.map Char.toLower)
            lex fuel after { st.pushBefore (.string pre body) (body.isEmpty && !triple) after with
              line := line }
          | .error m => .error m
        else
          match badNameChar? word with
          | some bad => .error (badCharacter bad)
          | none => lex fuel after (st.pushBefore (.name (String.ofList word)) true after)
      | [] =>
        match badNameChar? word with
        | some bad => .error (badCharacter bad)
        | none => lex fuel after (st.pushBefore (.name (String.ofList word)) true after)
    else if c == '(' || c == '[' || c == '{' then
      if st.brackets.length ≥ 200 then .error "too many nested parentheses"
      else
        let st := { st with brackets := (c, st.line) :: st.brackets }
        lex fuel rest (st.pushBefore (.op c.toString) true rest)
    else if c == ')' || c == ']' || c == '}' then
      match st.brackets with
      | [] => .error ("unmatched '" ++ c.toString ++ "'")
      | (o, line) :: more =>
        if closerOf o != c then
          .error ("closing parenthesis '" ++ c.toString ++ "' does not match opening parenthesis '" ++
            o.toString ++ "'" ++ (if line != st.line then " on line " ++ toString line else ""))
        else lex fuel rest ({ st with brackets := more }.pushBefore (.op c.toString) true rest)
    else if !Text.isPrintable c then .error (badCharacter c)
    else
      match longOperators.find? fun o => (c :: rest).take o.length == o.toList with
      | some o =>
        let after := rest.drop (o.length - 1)
        lex fuel after (st.pushBefore (.op o) (o.length < 3) after)
      | none => lex fuel rest (st.pushBefore (.op c.toString) true rest)

/-- The tokens of a text, the brackets left open where they end, innermost first, the problem
that ended them early, if any, and a problem found in the text after that, which the reader
reports unless the parse runs into the first one; `pastEnd` tells that reading the last token
met the end of the text. -/
structure Tokens where
  lexemes : Array Lexeme
  unclosed : List (Char × Nat)
  stop : Option String
  late : Option String := none
  pastEnd : Bool := false

/-- A text with every carriage return, alone or before a line feed, read as one line feed, as
the reader takes its source. -/
def translateNewlines : List Char → List Char
  | '\r' :: '\n' :: rest => '\n' :: translateNewlines rest
  | '\r' :: rest => '\n' :: translateNewlines rest
  | c :: rest => c :: translateNewlines rest
  | [] => []

/-- Splits a text into tokens, or gives the problem. Carriage returns are first read as line
feeds. A text read to its end with every bracket closed ends in a line break and an end
marker. -/
def tokenize (cs : List Char) : Except String Tokens := do
  let cs := translateNewlines cs
  let st ← lex (2 * cs.length + 1) cs {}
  if st.stop.isNone && st.brackets.isEmpty then
    let st := match st.tokens with
      | t :: _ => if t.token == Token.newline then st else st.push .newline
      | [] => st
    pure ⟨(st.push .endmarker).tokens.reverse.toArray, [], none, none, false⟩
  else pure ⟨st.tokens.reverse.toArray, st.brackets, st.stop, st.late, st.pastEnd⟩

/-! ### Parsing -/

/-- The kind of a constant. -/
inductive Constant where
  | whole
  | real
  | imaginary
  | text
  | bytes
  | none
  | true
  | false
  | ellipsis
  deriving Repr, BEq, Inhabited

/-- An expression, as far as reading it as a literal needs. -/
inductive Expr where
  | constant (kind : Constant)
  | name (id : String)
  | tuple (items : List Expr)
  | list (items : List Expr)
  | set (items : List Expr)
  /-- A dictionary display; its entries are pairs and spread mappings. -/
  | dict (entries : List Expr)
  | pair (key value : Expr)
  | spread (mapping : Expr)
  | unary (op : String) (operand : Expr)
  | binary (op : String) (left right : Expr)
  | call (function : Expr) (arguments : Nat)
  | starred (value : Expr)
  /-- A chain of comparisons, by its first operand and its first operator. -/
  | compare (left : Expr) (op : String)
  /-- Any other expression, by the name of its kind. -/
  | other (kind : String)
  /-- An expression with the line its text starts on, kept where reading a literal may report
  it: items of displays, keys and values, operands, and an expression in parentheses, which
  the parentheses also mark as such. -/
  | located (line : Nat) (expr : Expr)
  deriving Repr, Inhabited

/-- An expression without the lines kept around it. -/
def Expr.peel : Expr → Expr
  | .located _ e => e.peel
  | e => e

/-- The name of an expression's kind. -/
def Expr.kindName : Expr → String
  | .constant _ => "Constant"
  | .name _ => "Name"
  | .tuple _ => "Tuple"
  | .list _ => "List"
  | .set _ => "Set"
  | .dict _ => "Dict"
  | .pair _ _ => "Dict"
  | .spread _ => "Dict"
  | .unary _ _ => "UnaryOp"
  | .binary _ _ _ => "BinOp"
  | .call _ _ => "Call"
  | .starred _ => "Starred"
  | .compare _ _ => "Compare"
  | .other kind => kind
  | .located _ e => e.kindName

/-- How an error message names an expression that cannot be assigned to. -/
def Expr.description : Expr → String
  | .constant .none => "None"
  | .constant .true => "True"
  | .constant .false => "False"
  | .constant .ellipsis => "ellipsis"
  | .constant _ => "literal"
  | .name _ => "name"
  | .tuple _ => "tuple"
  | .list _ => "list"
  | .set _ => "set display"
  | .dict _ => "dict literal"
  | .pair _ _ => "dict literal"
  | .spread _ => "dict literal"
  | .unary _ _ => "expression"
  | .binary _ _ _ => "expression"
  | .call _ _ => "function call"
  | .starred _ => "starred"
  | .compare _ _ => "comparison"
  | .other kind =>
    match kind with
    | "Attribute" => "attribute"
    | "Subscript" => "subscript"
    | "Lambda" => "lambda"
    | "Compare" => "comparison"
    | "BoolOp" => "expression"
    | "IfExp" => "conditional expression"
    | "GeneratorExp" => "generator expression"
    | "ListComp" => "list comprehension"
    | "SetComp" => "set comprehension"
    | "DictComp" => "dict comprehension"
    | "JoinedStr" => "f-string expression"
    | "NamedExpr" => "named expression"
    | "Await" => "await expression"
    | "Yield" => "yield expression"
    | "YieldFrom" => "yield expression"
    | _ => "expression"
  | .located _ e => e.description

/-- Why parsing stopped: no rule matched here, an error that ends parsing at once, or a place
the tokens could not be read past, which also ends it; or an error that the reading of a
replacement field inside a formatted string has already given in full, passed on as it is. -/
inductive Stop where
  | noMatch
  | error (message : String)
  | broken (message : String)
  | reported (message : String)
  deriving Repr, BEq, Inhabited

/-- The result of parsing from a token: an expression and the index of the token after it. -/
abbrev Parsed := Except Stop (Expr × Nat)

/-- The tokens being parsed and whether the rules that look for a more telling error are in
use. -/
structure Env where
  tokens : Tokens
  strict : Bool

/-- The token at an index. Past the last token the parser finds the end marker, or stops: at the
problem that ended the tokens, or at a bracket still open, which was never closed. -/
def Env.tok (env : Env) (i : Nat) : Except Stop Token :=
  match env.tokens.lexemes[i]? with
  | some l => .ok l.token
  | none =>
    match env.tokens.stop, env.tokens.unclosed with
    | some m, _ => .error (.broken m)
    | none, (c, _) :: _ => .error (.broken ("'" ++ c.toString ++ "' was never closed"))
    | none, [] => .ok .endmarker

/-- The line of the token at an index. -/
def Env.lineOf (env : Env) (i : Nat) : Nat := (env.tokens.lexemes[i]?.map (·.line)).getD 1

/-- An expression whose text starts at the token at index `i`, with that token's line. -/
def Env.locate (env : Env) (i : Nat) (e : Expr) : Expr := .located (env.lineOf i) e

/-- A parse step whose result keeps the line it starts on. -/
def Env.locating (env : Env) (step : Nat → Except Stop (Expr × Nat)) (i : Nat) :
    Except Stop (Expr × Nat) :=
  (step i).map fun (e, j) => (env.locate i e, j)

/-- The bracket depth of the token at an index. -/
def Env.level (env : Env) (i : Nat) : Nat := (env.tokens.lexemes[i]?.map (·.level)).getD 0

/-- The words that are not names. -/
def keywords : List String :=
  ["False", "None", "True", "and", "as", "assert", "async", "await", "break", "class", "continue",
    "def", "del", "elif", "else", "except", "finally", "for", "from", "global", "if", "import",
    "in", "is", "lambda", "nonlocal", "not", "or", "pass", "raise", "return", "try", "while",
    "with", "yield"]

/-- Whether a token is a name that is not a keyword. -/
def Token.isPlainName : Token → Bool
  | .name n => !keywords.contains n
  | _ => false

/-- Whether a token is a string. -/
def Token.isString : Token → Bool
  | .string .. => true
  | _ => false

/-- Whether a token is a word that is a keyword only in some places. -/
def Token.isSoftKeyword : Token → Bool
  | .name n => n == "_" || n == "match" || n == "case"
  | _ => false

/-- Whether a token passes the lookahead for a soft keyword that guards the missing-comma error.
That lookahead compares only as many characters as the word has, so every beginning of a soft
keyword passes too: `m` and `ca` as well as `match` and `case`. -/
def Token.beginsSoftKeyword : Token → Bool
  | .name n => ["_", "match", "case"].any fun k => n.toList.isPrefixOf k.toList
  | _ => false

/-- The first result, or when nothing matched there, the second. -/
def orElse {α : Type} (a : Except Stop α) (b : Unit → Except Stop α) : Except Stop α :=
  match a with
  | .error .noMatch => b ()
  | r => r

/-- Requires an operator at an index: the index after it. -/
def Env.expect (env : Env) (i : Nat) (o : String) : Except Stop Nat := do
  if (← env.tok i) == .op o then pure (i + 1) else throw .noMatch

/-- The operators of the binary levels, loosest first. -/
def binaryLevels : List (List String) :=
  [["|"], ["^"], ["&"], ["<<", ">>"], ["+", "-"], ["*", "/", "//", "%", "@"]]

/-- A comparison operator at an index: the number of its tokens. -/
def Env.comparison? (env : Env) (i : Nat) : Except Stop (Option Nat) := do
  match ← env.tok i with
  | .op o => pure (if ["==", "!=", "<=", "<", ">=", ">"].contains o then some 1 else none)
  | .name "in" => pure (some 1)
  | .name "not" => pure (if (← env.tok (i + 1)) == .name "in" then some 2 else none)
  | .name "is" => pure (if (← env.tok (i + 1)) == .name "not" then some 2 else some 1)
  | _ => pure none

/-- The message for two expressions with no comma between them. -/
def commaMessage : String := "invalid syntax. Perhaps you forgot a comma?"

/-- The message for a generator that is not a call's only argument. -/
def generatorMessage : String := "Generator expression must be parenthesized"

/-- The message for `=` written where `==` or `:=` may have been meant. -/
def equalsMessage : String := "invalid syntax. Maybe you meant '==' or ':=' instead of '='?"

/-- The message for an argument that is an expression followed by `=`. -/
def assignmentMessage : String := "expression cannot contain assignment, perhaps you meant \"==\"?"

/-- The message for an unpacked element of a comprehension. -/
def unpackingMessage : String := "iterable unpacking cannot be used in comprehension"

/-- The message for a bare `*` in a lambda's parameters. -/
def bareStarMessage : String := "named arguments must follow bare *"

/-- Whether an expression is unpacked with `*`. -/
def Expr.isStarred : Expr → Bool
  | .starred _ => true
  | .located _ e => e.isStarred
  | _ => false

/-- Whether an expression is an assignment expression. -/
def Expr.isNamed : Expr → Bool
  | .other kind => kind == "NamedExpr"
  | .located _ e => e.isNamed
  | _ => false

mutual

/-- Whether an expression, read where a `for` clause's target stands, can be assigned to: a
name, an attribute or a subscript, or a tuple or list of targets, one of them perhaps unpacked
with a single `*`. -/
def Expr.isTarget : Expr → Bool
  | .name _ => true
  | .other kind => kind == "Attribute" || kind == "Subscript"
  | .tuple items => allTargets items
  | .list items => allTargets items
  | .starred v => !v.isStarred && v.isTarget
  | .located _ e => e.isTarget
  | _ => false

/-- Whether every expression of a list can be assigned to. -/
def allTargets : List Expr → Bool
  | [] => true
  | e :: rest => e.isTarget && allTargets rest

end

mutual

/-- The first part of a `for` clause's target, read as expressions up to and with its `in`, that
cannot be assigned to, if any: tuples, lists and unpacked values are looked into, a comparison
whose first operator is `in` by its left side, and names, attributes, subscripts and other
comparisons are no fault. -/
def Expr.badForTarget? : Expr → Option Expr
  | .name _ => none
  | .tuple items => firstBadForTarget? items
  | .list items => firstBadForTarget? items
  | .starred v => v.badForTarget?
  | .compare left op => if op == "in" then left.badForTarget? else none
  | .other kind => if kind == "Attribute" || kind == "Subscript" then none else some (.other kind)
  | .located _ e => e.badForTarget?
  | e => some e

/-- The first part of some expression of a list that cannot be assigned to, if any. -/
def firstBadForTarget? : List Expr → Option Expr
  | [] => none
  | e :: rest =>
    match e.badForTarget? with
    | some bad => some bad
    | none => firstBadForTarget? rest

end

/-- The kind of an argument of a call. -/
inductive Argument where
  /-- An expression. -/
  | positional
  /-- An assignment expression, `name := value`. -/
  | assignment
  /-- An unpacked iterable, `*value`. -/
  | starred
  /-- A keyword argument, `name=value`. -/
  | keyword
  /-- An unpacked mapping, `**value`. -/
  | mapping
  deriving Repr, BEq, Inhabited

/-- Whether an argument is passed by position. -/
def Argument.byPosition : Argument → Bool
  | .positional | .assignment | .starred => true
  | _ => false

/-- The number of tokens, which bounds how often a step that reads at least one can repeat. -/
def Env.bound (env : Env) : Nat := env.tokens.lexemes.size + 1

/-- Items after a first one, `acc` holding those read, last first, while a comma and an item
follow: the items in order and the index after the last. A comma that no item follows is left
in place. -/
def gatherTail {α : Type} (env : Env) (step : Nat → Except Stop (α × Nat)) :
    Nat → List α → Nat → Except Stop (List α × Nat)
  | 0, acc, j => .ok (acc.reverse, j)
  | bound + 1, acc, j => do
    if (← env.tok j) == .op "," then
      match step (j + 1) with
      | .ok (x, k) => gatherTail env step bound (x :: acc) k
      | .error .noMatch => pure (acc.reverse, j)
      | .error e => throw e
    else pure (acc.reverse, j)

/-- One item or more separated by commas: the items and the index after the last. -/
def gather {α : Type} (env : Env) (step : Nat → Except Stop (α × Nat)) (i : Nat) :
    Except Stop (List α × Nat) := do
  let (x, j) ← step i
  gatherTail env step env.bound [x] j

/-- Repeats a step from an index while it matches, at most `bound` times: the number of matches
and the index after them. -/
def repeatStep (step : Nat → Except Stop Nat) : Nat → Nat → Nat → Except Stop (Nat × Nat)
  | 0, count, i => .ok (count, i)
  | bound + 1, count, i =>
    match step i with
    | .ok j => repeatStep step bound (count + 1) j
    | .error .noMatch => .ok (count, i)
    | .error e => .error e

/-- The items of a display after its first one, which ends at `j`, up to the closing bracket
`close`: the items and the index after the bracket. When the bracket does not follow, gives
where a comprehension would start if the element were a tuple without parentheses: after all
the items, when there are two or more, then right after the first one's comma. -/
def displayRest (env : Env) (step : Nat → Parsed) (close : String) (first : Expr) (j : Nat) :
    Except Stop (Sum (List Nat) (List Expr × Nat)) := do
  let (items, k) ← gatherTail env step env.bound [first] j
  let k := if (← env.tok k) == .op "," then k + 1 else k
  if (← env.tok k) == .op close then return .inr (items, k + 1)
  let afterAll := if items.length > 1 then [k] else []
  let afterFirst := if (← env.tok j) == .op "," then [j + 1] else []
  return .inl (afterAll ++ afterFirst)

/-- Whether the bracket that opens at index `i` holds, at its own depth, both a comma and a
`for`: elements without parentheses before a comprehension's clauses need them. -/
def Env.holdsCommaAndFor (env : Env) (i : Nat) : Bool :=
  let inner := env.level i
  let rec scan : Nat → Nat → Bool → Bool → Bool
    | 0, _, comma, clause => comma && clause
    | n + 1, k, comma, clause =>
      match env.tokens.lexemes[k]? with
      | none => comma && clause
      | some l =>
        if l.level < inner then comma && clause
        else if l.level > inner then scan n (k + 1) comma clause
        else
          scan n (k + 1) (comma || l.token == .op ",")
            (clause || l.token == .name "for" || l.token == .name "async")
  scan env.tokens.lexemes.size (i + 1) false false

/-- The index after the run of adjacent string literals from an index. Finding it reads the token
after the run, so a bracket left open at the end stops the parse there, before any literal of the
run is read. -/
def stringsEnd (env : Env) : Nat → Nat → Except Stop Nat
  | 0, i => .ok i
  | fuel + 1, i => do
    match ← env.tok i with
    | .string .. => stringsEnd env fuel (i + 1)
    | _ => pure i

mutual

/-- `expression`: a disjunction, perhaps conditional, or a lambda. In the second reading the
rules for a missing comma, a missing `else` and `print` without parentheses come first. What
follows the disjunction is read for the missing comma in the first reading: those rules are
off for all of it, not only at its own level. -/
def expression (env : Env) : Nat → Nat → Parsed
  | 0, _ => .error .noMatch
  | fuel + 1, i => expressionFrom env fuel false true i
termination_by structural fuel _ => fuel

/-- `expression`, where `readBefore` tells that the place has been read before. The parser keeps
what each rule gave at each place and gives it again, so what an earlier reading made of the
disjunction here, of the one after `if` and of the expression after `else` stands, and only the
rules of this level itself are in use: those parts are read with the rules off. This is so after
a name, where the rule for `print` without parentheses reads on: the look for a missing comma
has read that place with the rules off, unless a string or a soft keyword kept it from looking,
or the disjunction that the name starts has read what follows it. In that last case the
expressions after the first one are read again, with the rules on, by whatever reads on after
this expression, which ends where the first one does; only after `print` and `exec` does a
success here end the reading before that, and only a parameter's default (`readOn` false) is
followed by something else than expressions. -/
def expressionFrom (env : Env) : Nat → Bool → Bool → Nat → Parsed
  | 0, _, _, _ => .error .noMatch
  | fuel + 1, readBefore, readOn, i => do
    let inner := if readBefore then { env with strict := false } else env
    let head := disjunction inner fuel i
    let afterIf : Option Parsed ← match head with
      | .ok (_, j) =>
        if (← env.tok j) == .name "if" then pure (some (disjunction inner fuel (j + 1)))
        else pure none
      | _ => pure none
    if env.strict then
      let first ← env.tok i
      let blocked ← if first.beginsSoftKeyword then pure true
        else if first.isPlainName then (env.tok (i + 1)).map Token.isString
        else pure false
      if !blocked then
        match head with
        | .ok (a, j) =>
          let legacy := match a.peel with
            | .name n => n == "print" || n == "exec"
            | _ => false
          match expression { env with strict := false } fuel j with
          | .ok (_, k) => if !legacy && env.level (k - 1) != 0 then throw (.error commaMessage)
          | .error .noMatch => pure ()
          | .error e => throw e
        | .error .noMatch => pure ()
        | .error e => throw e
      match afterIf with
      | some (.ok (_, k)) =>
        let t ← env.tok k
        if t != .name "else" && t != .op ":" then
          throw (.error "expected 'else' after 'if' expression")
      | some (.error .noMatch) => pure ()
      | some (.error e) => throw e
      | none => pure ()
      if first.isPlainName || first.isSoftKeyword then
        if (← env.tok (i + 1)) != .op "(" then
          let longer := match head with
            | .ok (_, j) => j > i + 1
            | _ => false
          let legacyName := match first with
            | .name n => n == "print" || n == "exec"
            | _ => false
          match starExpressions env fuel (longer || !blocked) (longer && !legacyName && readOn) (i + 1) with
          | .ok _ =>
            match first with
            | .name n =>
              if n == "print" || n == "exec" then
                throw (.error ("Missing parentheses in call to '" ++ n ++ "'. Did you mean " ++ n ++
                  "(...)?"))
            | _ => pure ()
          | .error .noMatch => pure ()
          | .error e => throw e
    match head with
    | .ok (a, j) =>
      match afterIf with
      | some (.ok (_, k)) =>
        if (← env.tok k) == .name "else" then
          match expression inner fuel (k + 1) with
          | .ok (_, m) => pure (.other "IfExp", m)
          | .error .noMatch => pure (a, j)
          | .error e => throw e
        else pure (a, j)
      | some (.error .noMatch) => pure (a, j)
      | some (.error e) => throw e
      | none => pure (a, j)
    | .error .noMatch => lambdef env fuel i
    | .error e => throw e
termination_by structural fuel _ _ _ => fuel

/-- `lambda` with its parameters, a colon and an expression. -/
def lambdef (env : Env) : Nat → Nat → Parsed
  | 0, _ => .error .noMatch
  | fuel + 1, i => do
    if (← env.tok i) != .name "lambda" then throw .noMatch
    let j ← lambdaParameters env fuel (i + 1)
    let j ← env.expect j ":"
    let (_, k) ← expression env fuel j
    pure (.other "Lambda", k)
termination_by structural fuel _ => fuel

/-- The parameters of a lambda from an index: the index after them, where its colon should
stand; there may be none. Each parameter is a name, perhaps with a default, and ends in a comma
or before the colon. Those before a `/` are passed by position only; a `*`, bare or with a name,
starts those passed by keyword only, and a `**` with a name comes last. A parameter without a
default may not follow one with a default, except after the `*`. In the second reading, rules
that name a misplaced parameter come first. -/
def lambdaParameters (env : Env) : Nat → Nat → Except Stop Nat
  | 0, _ => .error .noMatch
  | fuel + 1, i => do
    let isOp (k : Nat) (o : String) : Except Stop Bool := do return (← env.tok k) == .op o
    let isName (k : Nat) : Except Stop Bool := do return (← env.tok k).isPlainName
    -- a parameter ends in a comma, or before the colon
    let close (k : Nat) : Except Stop Nat := do
      if ← isOp k "," then return k + 1
      if ← isOp k ":" then return k
      throw .noMatch
    let default (k : Nat) : Except Stop Nat := do
      unless ← isOp k "=" do throw .noMatch
      match expressionFrom env fuel false false (k + 1) with
      | .ok (_, m) => pure m
      | .error .noMatch =>
        if env.strict then
          if (← isOp (k + 1) ")") || (← isOp (k + 1) ",") then
            throw (.error "expected default value expression")
        throw .noMatch
      | .error e => throw e
    let noDefault (k : Nat) : Except Stop Nat := do
      unless ← isName k do throw .noMatch
      close (k + 1)
    let withDefault (k : Nat) : Except Stop Nat := do
      unless ← isName k do throw .noMatch
      close (← default (k + 1))
    let maybeDefault (k : Nat) : Except Stop Nat := do
      unless ← isName k do throw .noMatch
      match default (k + 1) with
      | .ok m => close m
      | .error .noMatch => close (k + 1)
      | .error e => throw e
    let many (step : Nat → Except Stop Nat) (k : Nat) : Except Stop (Nat × Nat) :=
      repeatStep step env.bound 0 k
    let several (step : Nat → Except Stop Nat) (k : Nat) : Except Stop Nat := do
      let (n, m) ← many step k
      if n == 0 then throw .noMatch
      pure m
    let optional (step : Nat → Except Stop Nat) (k : Nat) : Except Stop Nat :=
      orElse (step k) fun _ => .ok k
    let slashEnd (k : Nat) : Except Stop Nat := do
      unless ← isOp k "/" do throw .noMatch
      close (k + 1)
    let slashNoDefault (k : Nat) : Except Stop Nat := do slashEnd (← several noDefault k)
    let slashWithDefault (k : Nat) : Except Stop Nat := do
      let (_, m) ← many noDefault k
      slashEnd (← several withDefault m)
    let slash (k : Nat) : Except Stop Nat := orElse (slashNoDefault k) fun _ => slashWithDefault k
    let kwds (k : Nat) : Except Stop Nat := do
      unless ← isOp k "**" do throw .noMatch
      if env.strict then
        if ← isName (k + 1) then
          if ← isOp (k + 2) "=" then throw (.error "var-keyword argument cannot have default value")
          if ← isOp (k + 2) "," then
            let t ← env.tok (k + 3)
            if t.isPlainName || t == .op "*" || t == .op "**" || t == .op "/" then
              throw (.error "arguments cannot follow var-keyword argument")
      noDefault (k + 1)
    let starEtc (k : Nat) : Except Stop Nat := do
      if ← isOp k "*" then
        if env.strict then
          let t ← env.tok (k + 1)
          if t == .op ":" then throw (.error bareStarMessage)
          if t == .op "," then
            let u ← env.tok (k + 2)
            if u == .op ":" || u == .op "**" then throw (.error bareStarMessage)
          if t.isPlainName then
            if ← isOp (k + 2) "=" then
              throw (.error "var-positional argument cannot have default value")
          let first ← match noDefault (k + 1) with
            | .ok m => pure (some m)
            | .error .noMatch => pure (if t == .op "," then some (k + 2) else none)
            | .error e => throw e
          if let some m := first then
            let (_, m) ← many maybeDefault m
            if ← isOp m "*" then
              let again ← match noDefault (m + 1) with
                | .ok _ => pure true
                | .error .noMatch => isOp (m + 1) ","
                | .error e => throw e
              if again then throw (.error "* argument may appear only once")
        match noDefault (k + 1) with
        | .ok m =>
          let (_, m) ← many maybeDefault m
          return (← optional kwds m)
        | .error .noMatch => pure ()
        | .error e => throw e
        if ← isOp (k + 1) "," then
          match several maybeDefault (k + 2) with
          | .ok m => return (← optional kwds m)
          | .error .noMatch => pure ()
          | .error e => throw e
      kwds k
    let parameters (k : Nat) : Except Stop Nat :=
      orElse (do
          let m ← slashNoDefault k
          let (_, m) ← many noDefault m
          let (_, m) ← many withDefault m
          optional starEtc m) fun _ =>
        orElse (do
            let m ← slashWithDefault k
            let (_, m) ← many withDefault m
            optional starEtc m) fun _ =>
          orElse (do
              let m ← several noDefault k
              let (_, m) ← many withDefault m
              optional starEtc m) fun _ =>
            orElse (do
                let m ← several withDefault k
                optional starEtc m) fun _ =>
              starEtc k
    if env.strict then
      let (_, m) ← many noDefault i
      -- a parameter without a default after those with one
      match orElse (slashWithDefault m) fun _ => several withDefault m with
      | .ok n =>
        match noDefault n with
        | .ok _ => throw (.error "non-default argument follows default argument")
        | .error .noMatch => pure ()
        | .error e => throw e
      | .error .noMatch => pure ()
      | .error e => throw e
      -- parameters in parentheses
      if ← isOp m "(" then
        let nameStep (k : Nat) : Except Stop Nat := do
          unless ← isName k do throw .noMatch
          if ← isOp (k + 1) "," then return k + 2
          if ← isOp (k + 1) ")" then return k + 1
          throw .noMatch
        match several nameStep (m + 1) with
        | .ok n =>
          if ← isOp n ")" then throw (.error "Lambda expression parameters cannot be parenthesized")
        | .error .noMatch => pure ()
        | .error e => throw e
      if ← isOp i "/" then
        if ← isOp (i + 1) "," then throw (.error "at least one argument must precede /")
      match slash i with
      | .ok n =>
        let (_, n) ← many maybeDefault n
        if ← isOp n "/" then throw (.error "/ may appear only once")
      | .error .noMatch => pure ()
      | .error e => throw e
      let n ← optional slash i
      let (_, n) ← many maybeDefault n
      if ← isOp n "*" then
        let after ← if ← isOp (n + 1) "," then pure (some (n + 2))
          else match noDefault (n + 1) with
            | .ok r => pure (some r)
            | .error .noMatch => pure none
            | .error e => throw e
        if let some r := after then
          let (_, r) ← many maybeDefault r
          if ← isOp r "/" then throw (.error "/ must be ahead of *")
      match several maybeDefault i with
      | .ok n =>
        if ← isOp n "/" then
          if ← isOp (n + 1) "*" then throw (.error "expected comma between / and *")
      | .error .noMatch => pure ()
      | .error e => throw e
    optional parameters i
termination_by structural fuel _ => fuel

/-- `disjunction`: conjunctions joined by `or`. -/
def disjunction (env : Env) : Nat → Nat → Parsed
  | 0, _ => .error .noMatch
  | fuel + 1, i => do
    let (a, j) ← conjunction env fuel i
    boolTail env fuel "or" a j
termination_by structural fuel _ => fuel

/-- `conjunction`: inversions joined by `and`. -/
def conjunction (env : Env) : Nat → Nat → Parsed
  | 0, _ => .error .noMatch
  | fuel + 1, i => do
    let (a, j) ← inversion env fuel i
    boolTail env fuel "and" a j
termination_by structural fuel _ => fuel

/-- More operands joined by `word` after a first one. -/
def boolTail (env : Env) : Nat → String → Expr → Nat → Parsed
  | 0, _, a, j => .ok (a, j)
  | fuel + 1, word, a, j => do
    if (← env.tok j) == .name word then
      let next := if word == "or" then conjunction env fuel (j + 1) else inversion env fuel (j + 1)
      match next with
      | .ok (_, k) => boolTail env fuel word (.other "BoolOp") k
      | .error .noMatch => pure (a, j)
      | .error e => throw e
    else pure (a, j)
termination_by structural fuel _ _ _ => fuel

/-- `inversion`: `not` before an inversion, or a comparison. -/
def inversion (env : Env) : Nat → Nat → Parsed
  | 0, _ => .error .noMatch
  | fuel + 1, i => do
    if (← env.tok i) == .name "not" then
      let (a, j) ← inversion env fuel (i + 1)
      pure (.unary "not" a, j)
    else
      let (a, j) ← binary env fuel 0 i
      compareTail env fuel false a j
termination_by structural fuel _ => fuel

/-- Comparison operators with their right operands after a first operand; `chained` tells
whether `a` is already the comparison they make. -/
def compareTail (env : Env) : Nat → Bool → Expr → Nat → Parsed
  | 0, _, a, j => .ok (a, j)
  | fuel + 1, chained, a, j => do
    match ← env.comparison? j with
    | some width =>
      match binary env fuel 0 (j + width) with
      | .ok (_, k) =>
        let op := match ← env.tok j with
          | .op o => o
          | .name "not" => "not in"
          | .name n => if width == 2 then "is not" else n
          | _ => ""
        compareTail env fuel true (if chained then a else .compare a op) k
      | .error .noMatch => pure (a, j)
      | .error e => throw e
    | none => pure (a, j)
termination_by structural fuel _ _ _ => fuel

/-- The binary operators from level `level` on, loosest first: `|`, `^`, `&`, shifts, sums and
products, then `factor`. -/
def binary (env : Env) : Nat → Nat → Nat → Parsed
  | 0, _, _ => .error .noMatch
  | fuel + 1, level, i => do
    if level ≥ binaryLevels.length then factor env fuel i
    else
      let (a, j) ← binary env fuel (level + 1) i
      binaryTail env fuel level i a j
termination_by structural fuel _ _ => fuel

/-- More operands of level `level` after a first one, which starts at index `i`. -/
def binaryTail (env : Env) : Nat → Nat → Nat → Expr → Nat → Parsed
  | 0, _, _, a, j => .ok (a, j)
  | fuel + 1, level, i, a, j => do
    match ← env.tok j with
    | .op o =>
      if (binaryLevels.getD level []).contains o then
        match binary env fuel (level + 1) (j + 1) with
        | .ok (b, k) =>
          binaryTail env fuel level i (.binary o (env.locate i a) (env.locate (j + 1) b)) k
        | .error .noMatch => pure (a, j)
        | .error e => throw e
      else pure (a, j)
    | _ => pure (a, j)
termination_by structural fuel _ _ _ _ => fuel

/-- `factor`: a sign or `~` before a factor, or a power. -/
def factor (env : Env) : Nat → Nat → Parsed
  | 0, _ => .error .noMatch
  | fuel + 1, i => do
    match ← env.tok i with
    | .op o =>
      if o == "+" || o == "-" || o == "~" then
        let (a, j) ← factor env fuel (i + 1)
        pure (.unary o (env.locate (i + 1) a), j)
      else power env fuel i
    | _ => power env fuel i
termination_by structural fuel _ => fuel

/-- `power`: a primary, perhaps raised to a factor. -/
def power (env : Env) : Nat → Nat → Parsed
  | 0, _ => .error .noMatch
  | fuel + 1, i => do
    let (a, j) ← if (← env.tok i) == .name "await" then do
        let (_, j) ← primary env fuel (i + 1)
        pure (Expr.other "Await", j)
      else primary env fuel i
    if (← env.tok j) == .op "**" then
      match factor env fuel (j + 1) with
      | .ok (b, k) => pure (.binary "**" a b, k)
      | .error .noMatch => pure (a, j)
      | .error e => throw e
    else pure (a, j)
termination_by structural fuel _ => fuel

/-- `primary`: an atom followed by attributes, calls and subscripts. -/
def primary (env : Env) : Nat → Nat → Parsed
  | 0, _ => .error .noMatch
  | fuel + 1, i => do
    let (a, j) ← atom env fuel i
    primaryTail env fuel a j
termination_by structural fuel _ => fuel

/-- Attributes, calls and subscripts after a primary. -/
def primaryTail (env : Env) : Nat → Expr → Nat → Parsed
  | 0, a, j => .ok (a, j)
  | fuel + 1, a, j => do
    match ← env.tok j with
    | .op "." =>
      if (← env.tok (j + 1)).isPlainName then primaryTail env fuel (.other "Attribute") (j + 2)
      else pure (a, j)
    | .op "(" =>
      match callArguments env fuel (j + 1) with
      | .ok (n, k) => primaryTail env fuel (.call a n) k
      | .error .noMatch => pure (a, j)
      | .error e => throw e
    | .op "[" =>
      if env.strict && ((← env.tok (j + 1)) == .op "*" || env.holdsCommaAndFor j) then
        bracketAfterPrimary env fuel "]" (j + 1)
      match slices env fuel (j + 1) with
      | .ok k => primaryTail env fuel (.other "Subscript") k
      | .error .noMatch => pure (a, j)
      | .error e => throw e
    | .op "\x7b" =>
      if env.strict then bracketAfterPrimary env fuel "\x7d" (j + 1)
      pure (a, j)
    | _ => pure (a, j)
termination_by structural fuel _ _ => fuel

/-- In the second reading, the rules a generator right after a primary brings for a square
bracket or a brace, from just after it: an unpacked element before `for`, then elements without
parentheses before it. They are read with every rule in use, so an element can also be refused
for a problem of its own. This refuses, or does nothing. (A square bracket is checked only where
it starts with `*` or holds a comma and a `for`; elsewhere the subscript read next finds the
same problems.) -/
def bracketAfterPrimary (env : Env) : Nat → String → Nat → Except Stop Unit
  | 0, _, _ => .ok ()
  | fuel + 1, close, i => do
    match misplacedComprehension env fuel false i [] with
    | .error .noMatch => pure ()
    | .error e => throw e
    | .ok _ => pure ()
    match starNamed env fuel i with
    | .ok (e, j) =>
      if (← env.tok j) == .op "," then
        match ← displayRest env (starNamed env fuel) close e j with
        | .inl starts =>
          for k in starts do
            match forIfClauses env fuel k with
            | .ok _ => throw (.error "did you forget parentheses around the comprehension target?")
            | .error .noMatch => pure ()
            | .error e => throw e
        | .inr _ => pure ()
    | .error .noMatch => pure ()
    | .error e => throw e
termination_by structural fuel _ _ => fuel

/-- The arguments of a call after its opening parenthesis: their number and the index after
the closing parenthesis. A generator without parentheses may be the only argument. In the
second reading, where the arguments do not close, rules that name a misplaced argument follow:
an unpacked iterable after an unpacked mapping, a generator among other arguments, and an
argument by position after one by keyword. -/
def callArguments (env : Env) : Nat → Nat → Except Stop (Nat × Nat)
  | 0, _ => .error .noMatch
  | fuel + 1, i => do
    if (← env.tok i) == .op ")" then return (0, i + 1)
    let (items, j) ← arguments env fuel i
    let next ← env.tok j
    let clauses := next == .name "for" || next == .name "async"
    if clauses && (items == [.positional] || items == [.assignment] || items == [.starred]) then
      match forIfClauses env fuel j with
      | .ok k =>
        let after ← env.tok k
        if items != [.starred] && after == .op ")" then return (1, k + 1)
        if env.strict then
          if items == [.starred] then throw (.error unpackingMessage)
          if items == [.positional] && after == .op "," then
            -- what may follow is read before the generator is refused
            match arguments env fuel (k + 1) with
            | .error .noMatch =>
              match expression env fuel (k + 1) with
              | .ok (_, m) =>
                match forIfClauses env fuel m with
                | .error .noMatch | .ok _ => pure ()
                | .error e => throw e
              | .error .noMatch => pure ()
              | .error e => throw e
            | .error e => throw e
            | .ok _ => pure ()
            throw (.error generatorMessage)
        throw .noMatch
      | .error e => throw e
    let k := if next == .op "," then j + 1 else j
    if (← env.tok k) == .op ")" then return (items.length, k + 1)
    if !env.strict then throw .noMatch
    if next == .op "," then
      if (← env.tok (j + 1)) == .op "*" then
        let (_, m) ← starredExpression env fuel (j + 1)
        if (← env.tok m) != .op "=" then
          throw (.error "iterable argument unpacking follows keyword argument unpacking")
    if clauses then
      match forIfClauses env fuel j with
      | .ok _ =>
        if (items.filter Argument.byPosition).length > 1 then throw (.error generatorMessage)
        throw .noMatch
      | .error .noMatch => pure ()
      | .error e => throw e
    if next == .op "," then
      match expression env fuel (j + 1) with
      | .ok (_, m) =>
        let t ← env.tok m
        if t == .name "for" || t == .name "async" then
          match forIfClauses env fuel m with
          | .ok _ => throw (.error generatorMessage)
          | .error .noMatch => pure ()
          | .error e => throw e
      | .error .noMatch => pure ()
      | .error e => throw e
      match arguments env fuel (j + 1) with
      | .ok _ =>
        throw (.error (if items.contains .mapping then
            "positional argument follows keyword argument unpacking"
          else "positional argument follows keyword argument"))
      | .error .noMatch => pure ()
      | .error e => throw e
    throw .noMatch
termination_by structural fuel _ => fuel

/-- The arguments of a call from an index, as far as they read: arguments by position, then
perhaps after a comma those by keyword; or only those by keyword. Gives their kinds and the
index after the last. -/
def arguments (env : Env) : Nat → Nat → Except Stop (List Argument × Nat)
  | 0, _ => .error .noMatch
  | fuel + 1, i => do
    -- keyword arguments are looked for only where a name and `=`, or a `**`, stand
    let keywordsFrom (k : Nat) : Except Stop (List Argument × Nat) := do
      let t ← env.tok k
      let named ← if t.isPlainName then (env.tok (k + 1)).map (· == .op "=") else pure false
      if t == .op "**" || named then
        keywordArguments env fuel k
      else throw .noMatch
    match gather env (positionalArgument env fuel) i with
    | .ok (items, j) =>
      if (← env.tok j) == .op "," then
        match keywordsFrom (j + 1) with
        | .ok (more, k) => pure (items ++ more, k)
        | .error .noMatch => pure (items, j)
        | .error e => throw e
      else pure (items, j)
    | .error .noMatch => keywordsFrom i
    | .error e => throw e
termination_by structural fuel _ => fuel

/-- An argument by position: an unpacked iterable, an assignment expression, or an expression
not followed by `:=`; none of them followed by `=`. In the second reading an expression followed
by `=` that is not a name is refused at once. -/
def positionalArgument (env : Env) : Nat → Nat → Except Stop (Argument × Nat)
  | 0, _ => .error .noMatch
  | fuel + 1, k => do
    let t ← env.tok k
    if t == .op "*" then
      let (_, m) ← starredExpression env fuel k
      return (.starred, m)
    let walrus ← if t.isPlainName then (env.tok (k + 1)).map (· == .op ":=") else pure false
    if walrus then
      let (_, m) ← expression env fuel (k + 2)
      if (← env.tok m) == .op "=" then throw .noMatch
      return (.assignment, m)
    let (_, m) ← expression env fuel k
    let next ← env.tok m
    if next == .op ":=" then throw .noMatch
    if next == .op "=" then
      if env.strict then
        let named := (← env.tok (k + 1)) == .op "="
        if !(t.isPlainName && named) then
          if named && (t == .name "True" || t == .name "False" || t == .name "None") then
            match t with
            | .name n => throw (.error ("cannot assign to " ++ n))
            | _ => pure ()
          throw (.error assignmentMessage)
      throw .noMatch
    pure (.positional, m)
termination_by structural fuel _ => fuel

/-- Keyword arguments from an index: those with a name, each `name=value`, and unpacked
iterables, then perhaps after a comma more with a name and unpacked mappings; or only the
latter. Gives their kinds and the index after the last. -/
def keywordArguments (env : Env) : Nat → Nat → Except Stop (List Argument × Nat)
  | 0, _ => .error .noMatch
  | fuel + 1, k => do
    match gather env (keywordArgument env fuel false) k with
    | .ok (items, j) =>
      if (← env.tok j) == .op "," then
        match gather env (keywordArgument env fuel true) (j + 1) with
        | .ok (more, m) => pure (items ++ more, m)
        | .error .noMatch => pure (items, j)
        | .error e => throw e
      else pure (items, j)
    | .error .noMatch => gather env (keywordArgument env fuel true) k
    | .error e => throw e
termination_by structural fuel _ => fuel

/-- A keyword argument `name=value`, or else an unpacked mapping when `mapping` is set and an
unpacked iterable when not. In the second reading `=` after a constant, a generator after
`name=`, and `=` after an expression that is not a name are refused. -/
def keywordArgument (env : Env) : Nat → Bool → Nat → Except Stop (Argument × Nat)
  | 0, _, _ => .error .noMatch
  | fuel + 1, mapping, k => do
    let t ← env.tok k
    if env.strict then
      if t == .name "True" || t == .name "False" || t == .name "None" then
        if (← env.tok (k + 1)) == .op "=" then
          match t with
          | .name n => throw (.error ("cannot assign to " ++ n))
          | _ => pure ()
    let named ← if t.isPlainName then (env.tok (k + 1)).map (· == .op "=") else pure false
    if named then
      let (_, m) ← expression env fuel (k + 2)
      if env.strict then
        let next ← env.tok m
        if next == .name "for" || next == .name "async" then
          match forIfClauses env fuel m with
          | .ok _ => throw (.error equalsMessage)
          | .error .noMatch => pure ()
          | .error e => throw e
      return (.keyword, m)
    if env.strict && t != .op "*" && t != .op "**" then
      match expression env fuel k with
      | .ok (_, m) => if (← env.tok m) == .op "=" then throw (.error assignmentMessage)
      | .error .noMatch => pure ()
      | .error e => throw e
    if mapping then
      if t != .op "**" then throw .noMatch
      let (_, m) ← expression env fuel (k + 1)
      pure (.mapping, m)
    else
      let (_, m) ← starredExpression env fuel k
      pure (.starred, m)
termination_by structural fuel _ _ => fuel

/-- `*` and an expression. A `*` that no expression follows is refused in both readings. -/
def starredExpression (env : Env) : Nat → Nat → Parsed
  | 0, _ => .error .noMatch
  | fuel + 1, k => do
    if (← env.tok k) != .op "*" then throw .noMatch
    match expression env fuel (k + 1) with
    | .ok (a, m) => pure (.starred a, m)
    | .error .noMatch =>
      throw (.error "Invalid star expression")
    | .error e => throw e
termination_by structural fuel _ => fuel

/-- The slices of a subscript after its opening bracket: the index after the closing one. -/
def slices (env : Env) : Nat → Nat → Except Stop Nat
  | 0, _ => .error .noMatch
  | fuel + 1, i => do
    let j ← sliceItem env fuel i
    match ← env.tok j with
    | .op "," =>
      if (← env.tok (j + 1)) == .op "]" then pure (j + 2) else slices env fuel (j + 1)
    | .op "]" => pure (j + 1)
    | _ => throw .noMatch
termination_by structural fuel _ => fuel

/-- One slice: bounds and a step around colons, a starred expression, or an expression. -/
def sliceItem (env : Env) : Nat → Nat → Except Stop Nat
  | 0, _ => .error .noMatch
  | fuel + 1, i => do
    let bound (k : Nat) : Except Stop Nat :=
      match expression env fuel k with
      | .ok (_, m) => .ok m
      | .error .noMatch => .ok k
      | .error e => .error e
    if (← env.tok i) == .op "*" then
      let (_, j) ← starredExpression env fuel i
      return j
    let first := expression env fuel i
    let j ← match first with
      | .ok (_, m) => pure m
      | .error .noMatch => pure i
      | .error e => throw e
    if (← env.tok j) == .op ":" then
      let k ← bound (j + 1)
      if (← env.tok k) == .op ":" then bound (k + 1) else pure k
    else if j == i then throw .noMatch
    else
      let (_, k) ← namedAfter env fuel i first
      pure k
termination_by structural fuel _ => fuel

/-- `for` clauses, each with its targets, `in`, a disjunction and `if` conditions: the index
after them. Past a clause's `in` there is no going back. In the second reading, targets that do
not read as such are read as expressions, and the first part that cannot be assigned to is
refused. -/
def forIfClauses (env : Env) : Nat → Nat → Except Stop Nat
  | 0, _ => .error .noMatch
  | fuel + 1, i => do
    let j := if (← env.tok i) == .name "async" then i + 1 else i
    if (← env.tok j) != .name "for" then throw .noMatch
    let inAt ← match starTargets env fuel (j + 1) with
      | .ok k => do pure (if (← env.tok k) == .name "in" then some k else none)
      | .error .noMatch => pure none
      | .error e => throw e
    match inAt with
    | some k =>
      let (_, m) ← disjunction env fuel (k + 1)
      let m ← conditions env fuel m
      let t ← env.tok m
      if t == .name "for" || t == .name "async" then
        match forIfClauses env fuel m with
        | .ok n => pure n
        | .error .noMatch => pure m
        | .error e => throw e
      else pure m
    | none =>
      if !env.strict then throw .noMatch
      match starExpressions env fuel false false (j + 1) with
      | .ok (e, _) =>
        match e.badForTarget? with
        | some bad => throw (.error ("cannot assign to " ++ bad.description))
        | none => throw .noMatch
      | .error e => throw e
termination_by structural fuel _ => fuel

/-- `if` conditions of a comprehension, as many as read. -/
def conditions (env : Env) : Nat → Nat → Except Stop Nat
  | 0, i => .ok i
  | fuel + 1, i => do
    if (← env.tok i) == .name "if" then
      match disjunction env fuel (i + 1) with
      | .ok (_, j) => conditions env fuel j
      | .error .noMatch => pure i
      | .error e => throw e
    else pure i
termination_by structural fuel _ => fuel

/-- The targets of a `for` clause, separated by commas and perhaps ending in one: the index
after them. -/
def starTargets (env : Env) : Nat → Nat → Except Stop Nat
  | 0, _ => .error .noMatch
  | fuel + 1, i => do
    let (_, k) ← gather env (fun k => (starTarget env fuel k).map fun m => ((), m)) i
    if (← env.tok k) == .op "," then pure (k + 1) else pure k
termination_by structural fuel _ => fuel

/-- One target: a name, an attribute, a subscript, or a tuple or list of targets in brackets,
perhaps unpacked with a single `*`. -/
def starTarget (env : Env) : Nat → Nat → Except Stop Nat
  | 0, _ => .error .noMatch
  | fuel + 1, k => do
    if (← env.tok k) == .op "*" then
      if (← env.tok (k + 1)) == .op "*" then throw .noMatch
      starTarget env fuel (k + 1)
    else
      let (e, m) ← primary env fuel k
      if e.isTarget then pure m else throw .noMatch
termination_by structural fuel _ => fuel

/-- `star_named_expression`: a starred operand or a named expression. -/
def starNamed (env : Env) : Nat → Nat → Parsed
  | 0, _ => .error .noMatch
  | fuel + 1, i => do
    if (← env.tok i) == .op "*" then
      let (a, j) ← binary env fuel 0 (i + 1)
      pure (.starred a, j)
    else namedExpression env fuel i
termination_by structural fuel _ => fuel

/-- `named_expression`: an assignment expression, or an expression not followed by `:=`. In
the second reading, the rules for `=` written where `==` or `:=` was meant come first. -/
def namedExpression (env : Env) : Nat → Nat → Parsed
  | 0, _ => .error .noMatch
  | fuel + 1, i => namedAfter env fuel i (expression env fuel i)
termination_by structural fuel _ => fuel

/-- `named_expression` at index `i`, where reading an expression there gave `e`: the caller
may have read it already for a rule of its own. -/
def namedAfter (env : Env) : Nat → Nat → Parsed → Parsed
  | 0, _, _ => .error .noMatch
  | fuel + 1, i, e => do
    let first ← env.tok i
    if first.isPlainName then
      if (← env.tok (i + 1)) == .op ":=" then
        let (_, j) ← expression env fuel (i + 2)
        return (.other "NamedExpr", j)
    if env.strict then
      match e with
      | .ok (a, j) =>
        let next ← env.tok j
        if next == .op ":=" then
          match expression env fuel (j + 1) with
          | .ok _ => throw (.error ("cannot use assignment expressions with " ++ a.description))
          | .error .noMatch => pure ()
          | .error e => throw e
        if next == .op "=" then
          let simple := match a with
            | .other k => !(["BoolOp", "IfExp", "Lambda"].contains k)
            | .compare _ _ => false
            | .unary "not" _ => false
            | _ => true
          if simple then
            match binary env fuel 0 (j + 1) with
            | .ok (_, k) =>
              let after ← env.tok k
              if after != .op "=" && after != .op ":=" then
                match a with
                | .name _ =>
                  throw (.error "invalid syntax. Maybe you meant '==' or ':=' instead of '='?")
                | .list _ | .tuple _ | .constant .true | .constant .false | .constant .none => pure ()
                | .other "GeneratorExp" => pure ()
                | _ => throw (.error ("cannot assign to " ++ a.description ++
                    " here. Maybe you meant '==' instead of '='?"))
            | .error .noMatch => pure ()
            | .error e => throw e
      | _ => pure ()
    let (a, j) ← e
    if (← env.tok j) == .op ":=" then throw .noMatch
    pure (a, j)
termination_by structural fuel _ _ => fuel

/-- In the second reading, the rules for a comprehension whose element is unpacked, or in a
list or set display a tuple without parentheses, from just after the opening bracket; `starts`
are where the clauses would start after such a tuple. In parentheses (`group`), an unpacked
value alone is refused as well. This never matches: it refuses, or gives no match. -/
def misplacedComprehension (env : Env) : Nat → Bool → Nat → List Nat → Parsed
  | 0, _, _, _ => .error .noMatch
  | fuel + 1, group, i, starts => do
    if !env.strict then throw .noMatch
    if (← env.tok i) == .op "*" then
      match starredExpression env fuel i with
      | .ok (_, j) =>
        if group && (← env.tok j) == .op ")" then
          throw (.error "cannot use starred expression here")
        match forIfClauses env fuel j with
        | .ok _ => throw (.error unpackingMessage)
        | .error .noMatch => pure ()
        | .error e => throw e
      | .error .noMatch => pure ()
      | .error e => throw e
    for k in starts do
      match forIfClauses env fuel k with
      | .ok _ => throw (.error "did you forget parentheses around the comprehension target?")
      | .error .noMatch => pure ()
      | .error e => throw e
    throw .noMatch
termination_by structural fuel _ _ _ => fuel

/-- The entries of a dictionary after the first, each after a comma: `key: value` pairs and
unpacked mappings, with the index after the last. An entry after a comma that does not read
ends them before that comma, unless its key reads: then it is an error when no colon follows
the key, or when the value is starred or missing (see `valueProblem`). These errors belong to
both readings, not only to the strict one. -/
def entriesTail (env : Env) : Nat → List Expr → Nat → Except Stop (List Expr × Nat)
  | 0, _, _ => .error .noMatch
  | fuel + 1, acc, j => do
    if (← env.tok j) != .op "," then return (acc.reverse, j)
    match ← env.tok (j + 1) with
    | .op "**" =>
      match binary env fuel 0 (j + 2) with
      | .ok (m, k) => entriesTail env fuel (.spread m :: acc) k
      | .error .noMatch => pure (acc.reverse, j)
      | .error e => throw e
    | _ =>
      match expression env fuel (j + 1) with
      | .ok (key, k) =>
        if (← env.tok k) != .op ":" then throw (.error "':' expected after dictionary key")
        match expression env fuel (k + 1) with
        | .ok (value, m) =>
          entriesTail env fuel (.pair (env.locate (j + 1) key) (env.locate (k + 1) value) :: acc) m
        | .error .noMatch =>
          valueProblem env fuel (k + 1)
          pure (acc.reverse, j)
        | .error e => throw e
      | .error .noMatch => pure (acc.reverse, j)
      | .error e => throw e
termination_by structural fuel _ _ => fuel

/-- A dictionary entry's value that does not read, after its colon: an error when it is a
starred expression or when the entry ends right after the colon. -/
def valueProblem (env : Env) : Nat → Nat → Except Stop Unit
  | 0, _ => .error .noMatch
  | fuel + 1, i => do
    match ← env.tok i with
    | .op "\x7d" | .op "," => throw (.error "expression expected after dictionary key and ':'")
    | .op "*" =>
      match binary env fuel 0 (i + 1) with
      | .ok _ => throw (.error "cannot use a starred expression in a dictionary value")
      | .error .noMatch => pure ()
      | .error e => throw e
    | _ => pure ()
termination_by structural fuel _ => fuel

/-- `atom`: a name, a constant, strings, a number, or a bracketed display. -/
def atom (env : Env) : Nat → Nat → Parsed
  | 0, _ => .error .noMatch
  | fuel + 1, i => do
    match ← env.tok i with
    | .name n =>
      if n == "None" then pure (.constant .none, i + 1)
      else if n == "True" then pure (.constant .true, i + 1)
      else if n == "False" then pure (.constant .false, i + 1)
      else if keywords.contains n then throw .noMatch
      else pure (.name n, i + 1)
    | .number k =>
      pure (.constant (match k with
        | .whole => .whole
        | .real => .real
        | .imaginary => .imaginary), i + 1)
    | .string .. =>
      let _ ← stringsEnd env (env.tokens.lexemes.size + 1) i
      strings env fuel i none false
    | .op "..." => pure (.constant .ellipsis, i + 1)
    | .op "(" => parenthesized env fuel (i + 1)
    | .op "[" =>
      if (← env.tok (i + 1)) == .op "]" then return (.list [], i + 2)
      match starNamed env fuel (i + 1) with
      | .error .noMatch => misplacedComprehension env fuel false (i + 1) []
      | .error e => throw e
      | .ok (e, j) =>
        let t ← env.tok j
        if t == .name "for" || t == .name "async" then
          if !e.isStarred then
            match forIfClauses env fuel j with
            | .ok k => if (← env.tok k) == .op "]" then return (.other "ListComp", k + 1)
            | .error .noMatch => pure ()
            | .error e => throw e
          misplacedComprehension env fuel false (i + 1) []
        else
          match ← displayRest env (env.locating (starNamed env fuel)) "]" (env.locate (i + 1) e) j with
          | .inr (items, k) => pure (.list items, k)
          | .inl starts => misplacedComprehension env fuel false (i + 1) starts
    | .op "\x7b" => braced env fuel (i + 1)
    | _ => throw .noMatch
termination_by structural fuel _ => fuel

/-- Adjacent string literals from an index, read into one constant, each in turn: the text of
one that is not formatted, then the check that it is bytes if and only if the one before it is,
then the text of one that is formatted. The first problem stops the parse. `previous` tells
whether the literal before was bytes. -/
def strings (env : Env) : Nat → Nat → Option Bool → Bool → Parsed
  | 0, _, _, _ => .error .noMatch
  | fuel + 1, i, previous, anyFormatted => do
    match ← env.tok i with
    | .string pre body =>
      let bytes := pre.contains 'b'
      let formatted := pre.contains 'f'
      if !formatted then
        if let some m := stringProblem pre body then throw (.error m)
      if previous.any (· != bytes) then throw (.error "cannot mix bytes and nonbytes literals")
      if formatted then
        if let some stop := formatProblem env fuel (pre.contains 'r') body then throw stop
      strings env fuel (i + 1) (some bytes) (anyFormatted || formatted)
    | _ =>
      if anyFormatted then pure (.other "JoinedStr", i)
      else pure (.constant (if previous == some true then .bytes else .text), i)
termination_by structural fuel _ _ _ => fuel

/-- The problem of a formatted string's text, if any, in the order it is read: literal text with
its escapes unless the string is raw, and the expression of each replacement field. The problems
of the text itself are errors of the reading the string stands in; that of a field's expression
has been given in full by the field's own reading. -/
def formatProblem (env : Env) : Nat → Bool → List Char → Option Stop
  | 0, _, _ => none
  | fuel + 1, raw, body =>
    (formatStepsOf raw body).findSome? fun
      | .literal text =>
        if raw then none else (escapeProblem false (text.length + 1) 0 text).map .error
      | .expression text => (replacementProblem env fuel text).map .reported
      | .problem m => some (.error m)
termination_by structural fuel _ _ => fuel

/-- The problem of a replacement field's expression, if any. It is read in parentheses as
expressions on their own, a second time with the rules for a more telling message when the first
reading fails; the problems of that reading, but not those of splitting it into tokens nor those
a field nested in it has given, are marked as the formatted string's. -/
def replacementProblem (env : Env) : Nat → List Char → Option String
  | 0, _ => none
  | fuel + 1, text =>
    let mark (m : String) : String := "f-string: " ++ m
    match tokenize ('(' :: text ++ [')']) with
    | .error m => some m
    | .ok tokens =>
      let env : Env := { env with tokens := tokens, strict := false }
      match starExpressions env fuel false false 0 with
      | .ok _ => none
      | .error (.error m) => some (mark m)
      | .error (.broken m) => some (mark m)
      | .error (.reported m) => some m
      | .error .noMatch =>
        match starExpressions { env with strict := true } fuel false false 0 with
        | .error (.error m) => some (mark m)
        | .error (.broken m) => some (mark m)
        | .error (.reported m) => some m
        | _ => some (mark "invalid syntax")
termination_by structural fuel _ => fuel

/-- What follows an opening parenthesis: an empty tuple, a yield, a tuple, a group or a
generator. -/
def parenthesized (env : Env) : Nat → Nat → Parsed
  | 0, _ => .error .noMatch
  | fuel + 1, i => do
    match ← env.tok i with
    | .op ")" => pure (.tuple [], i + 1)
    | .name "yield" =>
      let (kind, j) ← match ← env.tok (i + 1) with
        | .op ")" => pure ("Yield", i + 1)
        | .name "from" => do let (_, j) ← expression env fuel (i + 2); pure ("YieldFrom", j)
        | _ => do let (_, j) ← starExpressions env fuel false false (i + 1); pure ("Yield", j)
      let j ← env.expect j ")"
      pure (env.locate i (.other kind), j)
    | .op "**" =>
      if env.strict then
        match expression env fuel (i + 1) with
        | .ok (_, j) =>
          if (← env.tok j) == .op ")" then throw (.error "cannot use double starred expression here")
          else throw .noMatch
        | .error e => throw e
      else throw .noMatch
    | _ =>
      match starNamed env fuel i with
      | .error .noMatch => misplacedComprehension env fuel true i []
      | .error e => throw e
      | .ok (e, j) =>
        let t ← env.tok j
        if t == .op "," then
          match ← displayRest env (env.locating (starNamed env fuel)) ")" (env.locate i e) j with
          | .inr (items, k) => pure (.tuple items, k)
          | .inl _ => misplacedComprehension env fuel true i []
        else if t == .op ")" && !e.isStarred then pure (env.locate i e, j + 1)
        else
          if (t == .name "for" || t == .name "async") && !e.isStarred then
            match forIfClauses env fuel j with
            | .ok k => if (← env.tok k) == .op ")" then return (.other "GeneratorExp", k + 1)
            | .error .noMatch => pure ()
            | .error e => throw e
          misplacedComprehension env fuel true i []
termination_by structural fuel _ => fuel

/-- What follows an opening brace: a dictionary, a set, or a comprehension of either. -/
def braced (env : Env) : Nat → Nat → Parsed
  | 0, _ => .error .noMatch
  | fuel + 1, i => do
    let closing (entries : List Expr) (j : Nat) : Parsed := do
      let j := if (← env.tok j) == .op "," then j + 1 else j
      if (← env.tok j) == .op "\x7d" then pure (.dict entries, j + 1) else throw .noMatch
    match ← env.tok i with
    | .op "\x7d" => pure (.dict [], i + 1)
    | .op "**" =>
      let (m, j) ← binary env fuel 0 (i + 1)
      let (entries, k) ← entriesTail env fuel [.spread m] j
      match closing entries k with
      | .error .noMatch =>
        let t ← env.tok j
        if env.strict && (t == .name "for" || t == .name "async") then
          match forIfClauses env fuel j with
          | .ok k =>
            if (← env.tok k) == .op "\x7d" then
              throw (.error "dict unpacking cannot be used in dict comprehension")
          | .error .noMatch => pure ()
          | .error e => throw e
        throw .noMatch
      | r => r
    | t0 =>
      let walrus ← if t0.isPlainName then (env.tok (i + 1)).map (· == .op ":=") else pure false
      let bare := t0 == .op "*" || walrus
      match starNamed env fuel i with
      | .error .noMatch => misplacedComprehension env fuel false i []
      | .error e => throw e
      | .ok (e, j) =>
        let t ← env.tok j
        if t == .op ":" then
          if bare then misplacedComprehension env fuel false i []
          else
            match expression env fuel (j + 1) with
            | .error .noMatch =>
              valueProblem env fuel (j + 1)
              throw .noMatch
            | .error e => throw e
            | .ok (value, k) =>
              match ← env.tok k with
              | .name "for" | .name "async" =>
                let m ← forIfClauses env fuel k
                let m ← env.expect m "\x7d"
                pure (.other "DictComp", m)
              | _ =>
                let (entries, m) ←
                  entriesTail env fuel [.pair (env.locate i e) (env.locate (j + 1) value)] k
                closing entries m
        else if t == .name "for" || t == .name "async" then
          if !e.isStarred then
            match forIfClauses env fuel j with
            | .ok k => if (← env.tok k) == .op "\x7d" then return (.other "SetComp", k + 1)
            | .error .noMatch => pure ()
            | .error e => throw e
          misplacedComprehension env fuel false i []
        else
          match ← displayRest env (env.locating (starNamed env fuel)) "\x7d" (env.locate i e) j with
          | .inr (items, k) => pure (.set items, k)
          | .inl starts => misplacedComprehension env fuel false i starts
termination_by structural fuel _ => fuel

/-- `star_expressions`: expressions, perhaps starred, separated by commas and perhaps ending in
one; a tuple when there is a comma. `readBefore` is passed on to the first expression (see
`expressionFrom`). `readAfter` tells that the reading that follows this one reads the later
expressions with the rules on: what it finds is found there, so here they are read with the
rules off. -/
def starExpressions (env : Env) : Nat → Bool → Bool → Nat → Parsed
  | 0, _, _, _ => .error .noMatch
  | fuel + 1, readBefore, readAfter, i => do
    let later : Env := if readAfter then { env with strict := false } else env
    let item (e : Env) (before : Bool) (k : Nat) : Parsed := do
      if (← e.tok k) == .op "*" then
        let (a, m) ← binary e fuel 0 (k + 1)
        pure (.starred a, m)
      else expressionFrom e fuel before true k
    let (a, j) ← item env readBefore i
    if (← env.tok j) == .op "," then
      let (items, k) ← gatherTail env (item later false) env.bound [a] j
      let k := if (← env.tok k) == .op "," then k + 1 else k
      pure (.tuple items, k)
    else pure (a, j)
termination_by structural fuel _ _ _ => fuel

end

/-- Expressions separated by commas, perhaps ending in one, after those in `acc`: a tuple when
there is a comma. -/
def expressionsTail (env : Env) : Nat → List Expr → Nat → Except Stop (List Expr × Bool × Nat)
  | 0, acc, j => .ok (acc.reverse, false, j)
  | fuel + 1, acc, j => do
    if (← env.tok j) == .op "," then
      match expression env fuel (j + 1) with
      | .ok (b, k) =>
        let (items, _, m) ← expressionsTail env fuel (env.locate (j + 1) b :: acc) k
        pure (items, true, m)
      | .error .noMatch => pure (acc.reverse, true, j + 1)
      | .error e => throw e
    else pure (acc.reverse, false, j)

/-- `expressions`: one expression, or a tuple of them. -/
def expressions (env : Env) (fuel i : Nat) : Parsed := do
  let (a, j) ← expression env fuel i
  let a := env.locate i a
  let (items, comma, k) ← expressionsTail env fuel [a] j
  pure (if comma then .tuple items else a, k)

/-- The index of the first token from `i` on that is not a line break. -/
def skipNewlines (env : Env) : Nat → Nat → Except Stop Nat
  | 0, i => .ok i
  | fuel + 1, i => do
    if (← env.tok i) == .newline then skipNewlines env fuel (i + 1) else pure i

/-- The whole input: expressions, line breaks, and the end. -/
def wholeInput (env : Env) (fuel : Nat) : Except Stop Expr := do
  let (e, j) ← expressions env fuel 0
  let k ← skipNewlines env fuel j
  if (← env.tok k) == .endmarker then pure e else throw .noMatch

/-! ### Literal values -/

/-- A literal's value, as far as hashing it needs. -/
inductive Value where
  | scalar
  | tuple (items : List Value)
  | list
  | dict
  | set
  deriving Repr, Inhabited

mutual

/-- The type of the first part of a value that cannot be hashed. -/
def Value.unhashable? : Value → Option String
  | .scalar => none
  | .tuple items => firstUnhashable items
  | .list => some "list"
  | .dict => some "dict"
  | .set => some "set"

/-- The type of the first part of some value that cannot be hashed. -/
def firstUnhashable : List Value → Option String
  | [] => none
  | v :: rest => match v.unhashable? with
    | some t => some t
    | none => firstUnhashable rest

end

/-- The error for an expression that is no literal, with the line its text starts on. -/
def malformed (line : Nat) (e : Expr) : String :=
  "malformed node or string on line " ++ toString line ++ ": <ast." ++ e.kindName ++
    " object at 0x7f0000000000>"

/-- A number constant, or the error; `line` is where the expression starts unless it keeps its
own. -/
def numberOf (line : Nat) : Expr → Except String Constant
  | .located l e => numberOf l e
  | .constant k =>
    if k == .whole || k == .real || k == .imaginary then .ok k
    else .error (malformed line (.constant k))
  | e => .error (malformed line e)

/-- A number with an optional sign, or the error. -/
def signedNumberOf (line : Nat) : Expr → Except String Constant
  | .located l e => signedNumberOf l e
  | .unary o e =>
    if o == "+" || o == "-" then numberOf line e else .error (malformed line (.unary o e))
  | e => numberOf line e

/-- Whether an expression is the name `set`, perhaps in parentheses. -/
def Expr.isSetName (e : Expr) : Bool :=
  match e.peel with
  | .name n => n == "set"
  | _ => false

/-- Requires a value to be hashable. -/
def hashable (v : Value) : Except String Unit :=
  match v.unhashable? with
  | some t => .error ("unhashable type: '" ++ t ++ "'")
  | none => .ok ()

mutual

/-- The value of a literal expression, or the error evaluating it raises. `line` is the line
the expression starts on, unless it keeps its own. -/
def evaluate (line : Nat) : Expr → Except String Value
  | .located l e => evaluate l e
  | .constant _ => .ok .scalar
  | .tuple items => .tuple <$> evaluateAll line items
  | .list items => (evaluateAll line items).map fun _ => .list
  | .set items => (evaluateMembers line items).map fun _ => .set
  | .call f n =>
    if n == 0 && f.isSetName then .ok .set else .error (malformed line (.call f n))
  | .dict entries => (evaluateEntries line entries).map fun _ => .dict
  | .binary o l r =>
    if o == "+" || o == "-" then do
      let left ← signedNumberOf line l
      let right ← numberOf line r
      if (left == .whole || left == .real) && right == .imaginary then pure .scalar
      else throw (malformed line (.binary o l r))
    else .error (malformed line (.binary o l r))
  | e => (signedNumberOf line e).map fun _ => .scalar

/-- The values of items in order. -/
def evaluateAll (line : Nat) : List Expr → Except String (List Value)
  | [] => .ok []
  | e :: rest => do
    let v ← evaluate line e
    let vs ← evaluateAll line rest
    pure (v :: vs)

/-- The members of a set, each hashed as it is added. -/
def evaluateMembers (line : Nat) : List Expr → Except String Unit
  | [] => .ok ()
  | e :: rest => do
    hashable (← evaluate line e)
    evaluateMembers line rest

/-- The entries of a dictionary, each key and value read, then the key hashed. -/
def evaluateEntries (line : Nat) : List Expr → Except String Unit
  | [] => .ok ()
  | .pair k v :: rest => do
    let key ← evaluate line k
    let _ ← evaluate line v
    hashable key
    evaluateEntries line rest
  | _ :: _ => .error "malformed node or string: None"

end

/-! ### Handler parameters -/

/-- Enough fuel for parsing `n` tokens. -/
def fuelFor (n : Nat) : Nat := 64 * (n + 4)

/-- The mark of tokens cut short on purpose, a message no reading gives otherwise. -/
def cutMark : String := "\x00"

/-- Whether a reading, strict or not, reaches the token at index `n`: with the tokens cut there,
it runs into the cut. -/
def reachesIndex (tokens : Tokens) (strict : Bool) (fuel n : Nat) : Bool :=
  let cut : Tokens := ⟨tokens.lexemes.extract 0 n, [], some cutMark, none, false⟩
  match wholeInput { tokens := cut, strict := strict } fuel with
  | .error (.broken m) => m == cutMark
  | _ => false

/-- The furthest token index from `lo` to `hi` a reading reaches, `lo` being reached, found by
halving the range `steps` times at most. -/
def furthestReached (tokens : Tokens) (strict : Bool) (fuel : Nat) : Nat → Nat → Nat → Nat
  | 0, lo, _ => lo
  | steps + 1, lo, hi =>
    if lo ≥ hi then lo
    else
      let mid := (lo + hi + 1) / 2
      if reachesIndex tokens strict fuel mid then furthestReached tokens strict fuel steps mid hi
      else furthestReached tokens strict fuel steps lo (mid - 1)

/-- A parse error as reported. Before it is, the tokens are read on to their end: when they end
with a bracket open on an earlier line than the furthest token either reading reached, that
bracket is reported as never closed instead. A message of a rule that looks for a telling error
(not `generic`) stays when reading the furthest token already met the end of the text, as
nothing is then left to read on. -/
def reported (tokens : Tokens) (fuel : Nat) (generic : Bool) (message : String) : String :=
  match tokens.stop, tokens.unclosed with
  | none, (c, line) :: _ =>
    let last := tokens.lexemes.size - 1
    let furthest := max (furthestReached tokens false fuel 64 0 last)
      (furthestReached tokens true fuel 64 0 last)
    if !generic && tokens.pastEnd && furthest == last then message
    else if (tokens.lexemes[furthest]?.map (·.line)).getD 0 > line then
      "'" ++ c.toString ++ "' was never closed"
    else message
  | _, _ => message

/-- Why a text is not a literal: the message, and whether it is a syntax error; none for a
literal. Blanks and tabs at the start are passed over. A problem found in the text after an
indented line is reported instead of any parse error but the one that indented line gives. -/
def literalProblem? (source : List Char) : Option (Bool × String) :=
  let source := source.dropWhile fun c => c == ' ' || c == '\t'
  if source.contains '\x00' then some (true, "source code string cannot contain null bytes")
  else
    match tokenize source with
    | .error m => some (true, m)
    | .ok tokens =>
      let fuel := fuelFor (tokens.lexemes.size + source.length)
      let env : Env := { tokens := tokens, strict := false }
      let parseError (m : String) : Option (Bool × String) := some (true, (tokens.late.getD m))
      match wholeInput env fuel with
      | .ok e =>
        match evaluate (env.lineOf 0) e with
        | .ok _ => none
        | .error m => some (false, m)
      | .error (.broken m) => some (true, m)
      | .error (.error m) | .error (.reported m) => parseError (reported tokens fuel false m)
      | .error .noMatch =>
        match wholeInput { env with strict := true } fuel with
        | .error (.broken m) => some (true, m)
        | .error (.error m) | .error (.reported m) => parseError (reported tokens fuel false m)
        | _ => parseError (reported tokens fuel true "invalid syntax")

/-- The arguments of handler parameters that read as a handler's name, word characters and
points, followed by nothing or by arguments in parentheses on one line: the arguments' source,
or `()` when there are none. None when the parameters do not read that way. The name is taken
as short as it can be. -/
def handlerArguments? : List Char → Option (List Char)
  | [] => some ['(', ')']
  | c :: rest =>
    if c == '(' && (c :: rest).getLast? == some ')' && !rest.isEmpty && !rest.contains '\n' then
      some (c :: rest)
    else if Text.isWordChar c || c == '.' then handlerArguments? rest
    else none

/-- The problem with a handler tag's parameters as the tag closes, if any. The parameters,
stripped, are a handler's name and the literal of its arguments, or else a literal as a whole. -/
def handlerProblem? (raw : List Char) : Option String :=
  if raw.isEmpty then none
  else
    let stripped := (raw.dropWhile Text.isBlank).reverse.dropWhile Text.isBlank |>.reverse
    let source := (handlerArguments? stripped).getD stripped
    match literalProblem? source with
    | none => none
    | some (true, m) =>
      some ("error parsing " ++ Json.quoteLiteral (String.ofList source) ++ " in " ++
        Json.quoteLiteral (String.ofList raw) ++ "; " ++ m)
    | some (false, m) =>
      some ("error parsing " ++ Json.quoteLiteral (String.ofList raw) ++ "; " ++ m)

end SecScan.Terminal.Handler
