import SecScan.Json.Literal
import SecScan.Text.Surrogate

/-!
The text of a YAML stream as the scanner reads it, and the problems found in it.

The text is checked first: every character must be printable in the YAML sense, which rules
out the C0 and C1 controls other than tab, line feed, carriage return and next-line, the
surrogates, and the two noncharacters at the end of the basic plane. A NUL is put after the
text, so reading past the end reads NUL.

Every position has a line and a column, counted from 0. A line feed, a next-line, a line or
paragraph separator, and a carriage return not followed by a line feed end a line; a byte order
mark takes no column.

A problem names what was being read and where it began, what went wrong and where; it is shown
with the line and column of each place and the line around it, cut with ` ... ` on a side that
runs on for more than 36 characters, and a caret under the place. The place where reading
began is left out when it is the place where it went wrong.
-/

namespace SecScan.Yaml

/-- Whether a character may appear in a stream. -/
def isPrintable (c : Char) : Bool :=
  let n := c.toNat
  n == 9 || n == 10 || n == 13 || (0x20 ≤ n && n ≤ 0x7E) || n == 0x85 ||
    (0xA0 ≤ n && n ≤ 0xD7FF) || (0xE000 ≤ n && n ≤ 0xFFFD) ||
    (0x10000 ≤ n && !Text.isSurrogate c)

/-- Whether a character breaks a line. -/
def isBreak (c : Char) : Bool :=
  c == '\r' || c == '\n' || c == '\x85' || c == '\u2028' || c == '\u2029'

/-- Whether a character breaks a line or is the NUL after the text. -/
def isBreakOrEnd (c : Char) : Bool := c == '\x00' || isBreak c

/-- Whether a character is a space or a tab, breaks a line or is the NUL after the text. -/
def isBlankOrEnd (c : Char) : Bool := c == ' ' || c == '\t' || isBreakOrEnd c

/-- Whether a character is a space, breaks a line or is the NUL after the text. -/
def isSpaceOrEnd (c : Char) : Bool := c == ' ' || isBreakOrEnd c

/-- Whether a character is an ASCII digit. -/
def isDigit (c : Char) : Bool := '0' ≤ c && c ≤ '9'

/-- Whether a character is a hexadecimal digit. -/
def isHexDigit (c : Char) : Bool := isDigit c || ('a' ≤ c && c ≤ 'f') || ('A' ≤ c && c ≤ 'F')

/-- Whether a character may be part of an anchor, an alias, a directive name or a tag handle: an
ASCII letter or digit, a hyphen or an underscore. -/
def isWordChar (c : Char) : Bool :=
  isDigit c || ('A' ≤ c && c ≤ 'Z') || ('a' ≤ c && c ≤ 'z') || c == '-' || c == '_'

/-- A character as a quoted literal in a message. -/
def charText (c : Char) : String := Json.quoteLiteral c.toString

/-- The text of a stream: its characters with a NUL after them, and the line and column of each
position up to the one after the NUL. -/
structure Source where
  chars : Array Char
  lines : Array Nat
  columns : Array Nat
  deriving Inhabited

namespace Source

/-- The lines and columns of the positions from `i` on, added to those before. -/
def track (cs : Array Char) (i line column : Nat) (lines columns : Array Nat) :
    Array Nat × Array Nat :=
  if h : i < cs.size then
    let c := cs[i]
    let next := cs.getD (i + 1) '\x00'
    let (line, column) :=
      if c == '\n' || c == '\x85' || c == '\u2028' || c == '\u2029' || (c == '\r' && next != '\n') then
        (line + 1, 0)
      else if c == '\uFEFF' then (line, column)
      else (line, column + 1)
    track cs (i + 1) line column (lines.push line) (columns.push column)
  else (lines, columns)
termination_by cs.size - i

/-- The source of a text. -/
def ofText (text : String) : Source :=
  let chars := text.toList.toArray.push '\x00'
  let (lines, columns) := track chars 0 0 0 #[0] #[0]
  ⟨chars, lines, columns⟩

/-- The character at a position; NUL past the end. -/
def get (s : Source) (i : Nat) : Char := s.chars.getD i '\x00'

/-- The line of a position. -/
def line (s : Source) (i : Nat) : Nat := s.lines.getD i 0

/-- The column of a position. -/
def column (s : Source) (i : Nat) : Nat := s.columns.getD i 0

/-- The characters from `i` up to, not including, `j`. -/
def slice (s : Source) (i j : Nat) : String := String.ofList (s.chars.extract i j).toList

/-- The first position from `i` on whose character fails `p`. -/
def skipWhile (s : Source) (p : Char → Bool) (i : Nat) : Nat :=
  if h : i < s.chars.size then
    if p s.chars[i] then s.skipWhile p (i + 1) else i
  else i
termination_by s.chars.size - i

/-- The number of characters from `i` on that satisfy `p`. -/
def span (s : Source) (p : Char → Bool) (i : Nat) : Nat := s.skipWhile p i - i

/-- Where the excerpt of a line around `pointer` starts, stepping back from `start`: at the
start of the line, or five characters after the place 37 characters back, with the marker for
a cut. -/
def excerptStart (s : Source) (pointer : Nat) : Nat → String × Nat
  | 0 => ("", 0)
  | start + 1 =>
    if isBreakOrEnd (s.get start) then ("", start + 1)
    else if 37 ≤ pointer - start then (" ... ", start + 5)
    else s.excerptStart pointer start

/-- Where the excerpt of a line around `pointer` ends, stepping on from `e`: at the end of the
line, or five characters before the place 37 characters on, with the marker for a cut. -/
def excerptEnd (s : Source) (pointer e : Nat) : String × Nat :=
  if h : e < s.chars.size then
    if isBreakOrEnd s.chars[e] then ("", e)
    else if 37 ≤ e + 1 - pointer then (" ... ", e + 1 - 5)
    else s.excerptEnd pointer (e + 1)
  else ("", e)
termination_by s.chars.size - e

/-- The line around a position, indented by four, with a caret under the position. -/
def excerpt (s : Source) (pointer : Nat) : String :=
  let (head, start) := s.excerptStart pointer pointer
  let (tail, stop) := s.excerptEnd pointer pointer
  "    " ++ head ++ s.slice start stop ++ tail ++ "\n" ++
    String.ofList (List.replicate (4 + pointer - start + head.length) ' ') ++ "^"

/-- A position as a problem shows it. -/
def markText (s : Source) (i : Nat) : String :=
  "  in \"<unicode string>\", line " ++ toString (s.line i + 1) ++ ", column " ++
    toString (s.column i + 1) ++ ":\n" ++ s.excerpt i

/-- The first character that may not appear in a stream, with its position. -/
def firstUnprintable (cs : List Char) (i : Nat) : Option (Char × Nat) :=
  match cs with
  | [] => none
  | c :: rest => if isPrintable c then firstUnprintable rest (i + 1) else some (c, i)

end Source

/-- A problem found in a stream: what was being read and where it began, if anything, and what
went wrong and where. -/
structure Problem where
  context : Option String := none
  contextMark : Option Nat := none
  problem : String
  mark : Nat
  deriving Repr, Inhabited

/-- The message of a problem. -/
def Problem.text (s : Source) (p : Problem) : String :=
  let contextMark := match p.contextMark with
    | some m =>
      if s.line m == s.line p.mark && s.column m == s.column p.mark then [] else [s.markText m]
    | none => []
  "\n".intercalate (p.context.toList ++ contextMark ++ [p.problem, s.markText p.mark])

/-- Why loading a stream failed. -/
inductive Failure where
  /-- The stream is not one safe loading takes. -/
  | problem (p : Problem)
  /-- Loading stopped with an error of another kind, with its kind and message. -/
  | crash (kind message : String)
  deriving Repr, Inhabited

end SecScan.Yaml
