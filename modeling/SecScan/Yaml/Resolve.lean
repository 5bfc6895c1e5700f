/-!
Implicit tags: the type a plain scalar is read as, from its form, by the rules of YAML 1.1.

The first character picks the forms tried, in a fixed order, and the first that matches gives
the tag: booleans (`yes`, `No`, `ON`, ...), floats (`1.5`, `.5`, `1e3` only with a point,
`1:30.5`, `.inf`, `.NaN`), integers (`0b101`, `017`, `42`, `0x1F`, `1:30`), the merge key `<<`,
null (`~`, `null`, nothing), timestamps (`2001-12-14`, `2001-12-14 21:59:43.10 -5`), the value
key `=`, and the indicators `!`, `&` and `*`. Anything else is text. A form may be followed by a
single line feed at the very end.
-/

namespace SecScan.Yaml

/-- The tag prefix of the types YAML defines. -/
def tagPrefix : String := "tag:yaml.org,2002:"

/-- The full tag of a type YAML defines. -/
def typeTag (name : String) : String := tagPrefix ++ name

/-- Whether a character is an ASCII digit, as a list test. -/
def isDecimal (c : Char) : Bool := '0' ≤ c && c ≤ '9'

/-- Drops a line feed at the very end. -/
def dropFinalNewline (cs : List Char) : List Char :=
  if cs.getLast? == some '\n' then cs.dropLast else cs

/-- Drops a leading sign. -/
def dropSign : List Char → List Char
  | '-' :: rest => rest
  | '+' :: rest => rest
  | cs => cs

/-- Whether text is a digit and then digits and underscores. -/
def isDigitRun : List Char → Bool
  | d :: rest => isDecimal d && rest.all fun c => isDecimal c || c == '_'
  | [] => false

/-- Whether text is a nonzero digit and then digits and underscores. -/
def isNonzeroRun : List Char → Bool
  | d :: rest => isDecimal d && d != '0' && rest.all fun c => isDecimal c || c == '_'
  | [] => false

/-- Whether text is a base-sixty group: a digit, or a digit up to five and a digit. -/
def isSixtyGroup : List Char → Bool
  | [d] => isDecimal d
  | [a, b] => '0' ≤ a && a ≤ '5' && isDecimal b
  | _ => false

/-- Whether text is a run that `first` accepts, then one or more base-sixty groups each after a
colon. -/
def isSexagesimal (first : List Char → Bool) (cs : List Char) : Bool :=
  match cs.splitOn ':' with
  | head :: second :: more => first head && (second :: more).all isSixtyGroup
  | _ => false

/-- Whether text is an exponent: `e` or `E`, a sign, and digits. -/
def isExponent : List Char → Bool
  | e :: s :: digits => (e == 'e' || e == 'E') && (s == '-' || s == '+') && !digits.isEmpty &&
      digits.all isDecimal
  | _ => false

/-- Whether text is digits and underscores with an optional exponent after them. -/
def isFractionTail (cs : List Char) : Bool :=
  let frac := cs.takeWhile fun c => isDecimal c || c == '_'
  let rest := cs.drop frac.length
  rest.isEmpty || isExponent rest

/-- Whether text has the form of a float. -/
def isFloatForm (cs : List Char) : Bool :=
  let body := dropSign cs
  let pointed :=
    match body.splitOn '.' with
    | whole :: _ =>
      isDigitRun whole && (match body.drop whole.length with
        | '.' :: rest => isFractionTail rest
        | _ => false)
    | [] => false
  let pointFirst :=
    match cs with
    | '.' :: d :: rest => isDecimal d && isFractionTail rest
    | _ => false
  let sixty :=
    match body.splitOn '.' with
    | [whole, frac] => isSexagesimal isDigitRun whole && frac.all fun c => isDecimal c || c == '_'
    | _ => false
  let infinite := body == ['.', 'i', 'n', 'f'] || body == ['.', 'I', 'n', 'f'] || body == ['.', 'I', 'N', 'F']
  let notANumber := cs == ['.', 'n', 'a', 'n'] || cs == ['.', 'N', 'a', 'N'] || cs == ['.', 'N', 'A', 'N']
  pointed || pointFirst || sixty || infinite || notANumber

/-- Whether text has the form of an integer. -/
def isIntForm (cs : List Char) : Bool :=
  let body := dropSign cs
  match body with
  | '0' :: 'b' :: rest => !rest.isEmpty && rest.all fun c => c == '0' || c == '1' || c == '_'
  | '0' :: 'x' :: rest => !rest.isEmpty && rest.all fun c =>
      isDecimal c || ('a' ≤ c && c ≤ 'f') || ('A' ≤ c && c ≤ 'F') || c == '_'
  | ['0'] => true
  | '0' :: rest => rest.all fun c => ('0' ≤ c && c ≤ '7') || c == '_'
  | _ => isNonzeroRun body || isSexagesimal isNonzeroRun body

/-- The offset of a timestamp: `Z`, or a sign with hours and perhaps minutes. -/
structure ZoneParts where
  sign : Char
  hour : List Char
  minute : Option (List Char)
  deriving Repr, Inhabited

/-- The time of a timestamp: hours, minutes, seconds, perhaps a fraction and an offset. -/
structure ClockParts where
  hour : List Char
  minute : List Char
  second : List Char
  fraction : Option (List Char)
  zone : Option ZoneParts
  deriving Repr, Inhabited

/-- The parts of a timestamp: year, month and day, and the time when there is one. -/
structure StampParts where
  year : List Char
  month : List Char
  day : List Char
  time : Option ClockParts
  deriving Repr, Inhabited

/-- Takes at least `least` and at most `most` digits from the front. -/
def takeDigits (cs : List Char) (least most : Nat) : Option (List Char × List Char) :=
  let ds := (cs.takeWhile isDecimal).take most
  if ds.length < least then none else some (ds, cs.drop ds.length)

/-- Drops the given character from the front. -/
def expectChar (c : Char) : List Char → Option (List Char)
  | d :: rest => if c == d then some rest else none
  | [] => none

/-- Reads the offset of a timestamp, all of what is left: `Z`, or a sign, an hour and optional
minutes after a colon. -/
def readZone (cs : List Char) : Option ZoneParts :=
  match cs with
  | ['Z'] => some ⟨'Z', [], none⟩
  | s :: rest =>
    if s == '-' || s == '+' then
      match takeDigits rest 1 2 with
      | some (hour, []) => some ⟨s, hour, none⟩
      | some (hour, ':' :: more) =>
        match takeDigits more 2 2 with
        | some (minute, []) => some ⟨s, hour, some minute⟩
        | _ => none
      | _ => none
    else none
  | [] => none

/-- Reads the time of a timestamp, all of what follows its date: `T`, `t` or blanks, then hours,
minutes, seconds, a fraction and an offset after optional blanks. -/
def readClock (cs : List Char) : Option ClockParts := do
  let rest ← match cs with
    | c :: more =>
      if c == 'T' || c == 't' then some more
      else if c == ' ' || c == '\t' then some (more.dropWhile fun d => d == ' ' || d == '\t')
      else none
    | [] => none
  let (hour, rest) ← takeDigits rest 1 2
  let rest ← expectChar ':' rest
  let (minute, rest) ← takeDigits rest 2 2
  let rest ← expectChar ':' rest
  let (second, rest) ← takeDigits rest 2 2
  let (fraction, rest) := match rest with
    | '.' :: more => (some (more.takeWhile isDecimal), more.dropWhile isDecimal)
    | _ => (none, rest)
  if rest.isEmpty then return ⟨hour, minute, second, fraction, none⟩
  let zone ← readZone (rest.dropWhile fun d => d == ' ' || d == '\t')
  return ⟨hour, minute, second, fraction, some zone⟩

/-- Reads a timestamp: a date of four, one or two and one or two digits, and optionally a time.
A line feed at the very end is allowed. -/
def readStamp (text : String) : Option StampParts := do
  let cs := dropFinalNewline text.toList
  let (year, rest) ← takeDigits cs 4 4
  let rest ← expectChar '-' rest
  let (month, rest) ← takeDigits rest 1 2
  let rest ← expectChar '-' rest
  let (day, rest) ← takeDigits rest 1 2
  if rest.isEmpty then return ⟨year, month, day, none⟩
  let time ← readClock rest
  return ⟨year, month, day, some time⟩

/-- Whether text has the form of a timestamp: a date of two-digit month and day, or a date and
a time. -/
def isStampForm (text : String) : Bool :=
  match readStamp text with
  | some p => p.time.isSome || (p.month.length == 2 && p.day.length == 2)
  | none => false

/-- The tag of a plain scalar resolved from its form. -/
def resolveScalar (text : String) : String :=
  let cs := text.toList
  let body := dropFinalNewline cs
  let bools := ["yes", "Yes", "YES", "no", "No", "NO", "true", "True", "TRUE", "false", "False",
    "FALSE", "on", "On", "ON", "off", "Off", "OFF"]
  let tests : List (String × Bool) :=
    match cs with
    | [] => [("null", true)]
    | c :: _ =>
      (if "yYnNtTfFoO".contains c then [("bool", bools.contains (String.ofList body))] else []) ++
      (if "-+0123456789.".contains c then [("float", isFloatForm body)] else []) ++
      (if "-+0123456789".contains c then [("int", isIntForm body)] else []) ++
      (if c == '<' then [("merge", body == ['<', '<'])] else []) ++
      (if "~nN".contains c then
        [("null", ["~", "null", "Null", "NULL", ""].contains (String.ofList body))] else []) ++
      (if "0123456789".contains c then [("timestamp", isStampForm text)] else []) ++
      (if c == '=' then [("value", body == ['='])] else []) ++
      (if "!&*".contains c then [("yaml", body == ['!'] || body == ['&'] || body == ['*'])] else [])
  match tests.find? (·.2) with
  | some (name, _) => typeTag name
  | none => typeTag "str"

end SecScan.Yaml
