import SecScan.Number.Binary64
import SecScan.Text.Digit
import SecScan.Text.Blank

/-!
Numbers written as text, read the way the language's own integer and float conversions read
them. Digits of every script count as their values; a single underscore may stand between two
digits; an integer is an optional sign and digits, at most 4300 of them; a float is an optional
sign and either `inf`, `infinity` or `nan` in any case, or digits with an optional point and an
optional exponent, with at least one digit before or after the point. Surrounding blanks must
already be gone.
-/

namespace SecScan.Number

open SecScan.Text

/-- Digits of any script as ASCII digits; every other character as it is. -/
def asciiDigits (cs : List Char) : List Char :=
  cs.map fun c => match digitValue? c with
    | some d => Char.ofNat (48 + d)
    | none => c

/-- Whether a character is an ASCII digit. -/
def isDigit (c : Char) : Bool := '0' ≤ c && c ≤ '9'

/-- The value of ASCII digits. -/
def digitsValue (cs : List Char) : Nat := cs.foldl (fun n d => n * 10 + (d.toNat - 48)) 0

/-- Whether every underscore stands between two digits. -/
def underscoresBetweenDigits : List Char → Bool
  | [] => true
  | [c] => c != '_'
  | a :: b :: rest =>
    if b == '_' then
      match rest with
      | c :: _ => isDigit a && isDigit c && underscoresBetweenDigits rest
      | [] => false
    else a != '_' && underscoresBetweenDigits (b :: rest)

/-- The most digits an integer may have. -/
def maxIntDigits : Nat := 4300

/-- The sign and the rest of a number. -/
def splitSign : List Char → Bool × List Char
  | '-' :: rest => (true, rest)
  | '+' :: rest => (false, rest)
  | cs => (false, cs)

/-- An integer written as text, or `none` if the text is not one. -/
def readInt? (s : String) : Option Int :=
  let (negative, body) := splitSign (asciiDigits s.toList)
  let digits := body.filter (· != '_')
  if body.isEmpty || !body.all (fun c => isDigit c || c == '_') ||
      !underscoresBetweenDigits body || digits.length > maxIntDigits then none
  else
    let n : Int := digitsValue digits
    some (if negative then -n else n)

/-- ASCII letters in lower case. -/
def asciiLower (cs : List Char) : List Char :=
  cs.map fun c => if 'A' ≤ c && c ≤ 'Z' then Char.ofNat (c.toNat + 32) else c

/-- The exponent part of a float: `e` or `E`, an optional sign and digits. -/
def exponentPart? : List Char → Option Int
  | [] => some 0
  | e :: rest =>
    if e == 'e' || e == 'E' then
      let (negative, digits) := splitSign rest
      if !digits.isEmpty && digits.all isDigit then
        let n : Int := digitsValue digits
        some (if negative then -n else n)
      else none
    else none

/-- A float written as text, or `none` if the text is not one. -/
def readFloat? (s : String) : Option Binary64 :=
  let cs := asciiDigits s.toList
  if !underscoresBetweenDigits cs then none
  else
    let (negative, body) := splitSign (cs.filter (· != '_'))
    match asciiLower body with
    | ['i', 'n', 'f'] | ['i', 'n', 'f', 'i', 'n', 'i', 't', 'y'] => some (.infinity negative)
    | ['n', 'a', 'n'] => some .nan
    | _ =>
      let whole := body.takeWhile isDigit
      let afterWhole := body.drop whole.length
      let (fraction, afterFraction) := match afterWhole with
        | '.' :: more => (more.takeWhile isDigit, more.drop (more.takeWhile isDigit).length)
        | more => ([], more)
      if whole.isEmpty && fraction.isEmpty then none
      else
        match exponentPart? afterFraction with
        | some e10 =>
          some (Binary64.ofDecimal negative (digitsValue (whole ++ fraction)) (e10 - fraction.length))
        | none => none

/-- The value of a digit in bases up to 36: digits, then letters of either case. -/
def digitIn? (base : Nat) (c : Char) : Option Nat :=
  let v :=
    if isDigit c then c.toNat - 48
    else if 'a' ≤ c && c ≤ 'z' then c.toNat - 87
    else if 'A' ≤ c && c ≤ 'Z' then c.toNat - 55
    else 36
  if v < base then some v else none

/-- Reads digits in a base with single underscores between them, as their value. -/
def digitsIn? (base : Nat) : List Char → Option Nat
  | [] => none
  | c :: rest =>
    (digitIn? base c).bind fun d => go d rest
where
  /-- Reads the rest of the digits after a value so far. -/
  go (acc : Nat) : List Char → Option Nat
    | [] => some acc
    | '_' :: c :: rest => (digitIn? base c).bind fun d => go (acc * base + d) rest
    | c :: rest => (digitIn? base c).bind fun d => go (acc * base + d) rest

/-- Whether a character is ASCII white space. -/
def isAsciiSpace (c : Char) : Bool :=
  c == ' ' || c == '\t' || c == '\n' || c == '\x0b' || c == '\x0c' || c == '\r'

/-- Why a text is not an integer. -/
inductive IntTextError where
  /-- The text is not an integer in the base. -/
  | invalid
  /-- A decimal integer with more than `maxIntDigits` digits, counted over the run of digits and
  single underscores after the sign, whatever follows it. -/
  | tooManyDigits (count : Nat)
  deriving Repr, BEq, Inhabited

/-- An integer written in a base (2, 8, 10 or 16) as the language's integer conversion reads
it: ASCII blanks around it, an optional sign, for bases other than ten an optional `0b`, `0o` or
`0x` prefix that an underscore may follow, and digits with single underscores between them.
Outside ASCII, blanks count as spaces and digits of every script as their values; inside it the
information separators are not blanks. In base ten the digits are counted before the rest is
looked at: a run of digits and single underscores longer than `maxIntDigits` digits is refused
as too long even when what follows it would make the text no integer at all. -/
def readIntText (s : String) (base : Nat) : Except IntTextError Int :=
  let cs := s.toList.map fun c =>
    if c.toNat < 127 then c
    else if Text.isBlank c then ' '
    else match digitValue? c with
      | some d => Char.ofNat (48 + d)
      | none => c
  let cs := cs.dropWhile isAsciiSpace
  let (negative, cs) := splitSign cs
  let marker := if base == 16 then 'x' else if base == 8 then 'o' else if base == 2 then 'b' else ' '
  let cs := match cs with
    | '0' :: p :: rest =>
      if marker != ' ' && (p == marker || p == Char.ofNat (marker.toNat - 32)) then
        (match rest with
          | '_' :: more => more
          | _ => rest)
      else cs
    | _ => cs
  let run := cs.takeWhile fun c => isDigit c || c == '_'
  let count := (run.filter (· != '_')).length
  if base == 10 && underscoresBetweenDigits run && count > maxIntDigits then
    .error (.tooManyDigits count)
  else
    match digitsIn? base (cs.reverse.dropWhile isAsciiSpace).reverse with
    | some n => .ok (if negative then -(n : Int) else n)
    | none => .error .invalid

/-- An integer written in a base as the language's integer conversion reads it (see
`readIntText`), or none. -/
def readIntIn? (s : String) (base : Nat) : Option Int :=
  match readIntText s base with
  | .ok n => some n
  | .error _ => none

/-- A float written as text as the language's float conversion reads it: outside ASCII, blanks
count as spaces and digits of every script as their values, and any other character is one no
number holds; then ASCII blanks around the text are dropped. The information separators are not
blanks here, so a text they begin or end is no number. -/
def readFloatText? (s : String) : Option Binary64 :=
  let cs := s.toList.map fun c =>
    if c.toNat < 127 then c
    else if Text.isBlank c then ' '
    else match digitValue? c with
      | some d => Char.ofNat (48 + d)
      | none => '?'
  let cs := ((cs.dropWhile isAsciiSpace).reverse.dropWhile isAsciiSpace).reverse
  readFloat? (String.ofList cs)

/-- The message of a failed integer conversion: the text as a literal, cut to 200 characters. -/
def intErrorText (literal : String) (base : Nat) : String :=
  "invalid literal for int() with base " ++ toString base ++ ": " ++
    String.ofList (literal.toList.take 200)

end SecScan.Number
