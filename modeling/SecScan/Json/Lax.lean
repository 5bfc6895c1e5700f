import SecScan.Json.Basic
import SecScan.Text.Blank
import SecScan.Text.Surrogate

/-!
Lenient validation of JSON values against field types. An integer field takes an integer, a
boolean (as 0 or 1), a whole float within 64 bits, or text holding an integer (blanks around it,
underscores between digits and zeros after a point allowed); a text field takes only text; a
boolean field takes a boolean, 0 or 1, or one of the usual words for yes and no. Every failure
has a kind (`int_parsing`, `string_type`, ...) and the path to the value; a record reports the
failures of all its fields, in field order.
-/

namespace SecScan.Lax

open SecScan.Text

/-- A validation failure: its kind and the path to the value. -/
structure Issue where
  kind : String
  loc : List Json
  deriving Repr, BEq, Inhabited

/-- A validated value, or every failure found. -/
abbrev Result (α : Type) := Except (List Issue) α

/-- The failures of a result. -/
def issues {α : Type} : Result α → List Issue
  | .error is => is
  | .ok _ => []

/-- White space as it is trimmed around numbers in text: Unicode white space other than the
information separators. -/
def isTrimBlank (c : Char) : Bool := isBlank c && !(0x1c ≤ c.toNat && c.toNat ≤ 0x1f)

/-- The most digits an integer written as text may have. -/
def maxIntDigits : Nat := 4300

/-- The smallest 64-bit integer. -/
def minWord : Int := -9223372036854775808

/-- The largest 64-bit integer. -/
def maxWord : Int := 9223372036854775807

/-- Whether a character is an ASCII digit. -/
def isAsciiDigit (c : Char) : Bool := '0' ≤ c && c ≤ '9'

/-- The digits of a text of ASCII digits in groups joined by single underscores, the way Python
writes long numbers; none for any other text. -/
def groupedDigits? (cs : List Char) : Option (List Char) :=
  let groups := cs.splitOn '_'
  if groups.all fun g => !g.isEmpty && g.all isAsciiDigit then some groups.flatten else none

/-- The value of a text of ASCII digits. -/
def digitsValue (ds : List Char) : Nat := ds.foldl (fun n d => n * 10 + (d.toNat - '0'.toNat)) 0

/-- Whether a text starts with a number written the plain way, an optional minus sign and a
digit other than zero, whose leading digits run on for more than `maxIntDigits`: such a number
is refused as too long before it is read. The sign is not a digit and does not count. -/
def overlongDigits (cs : List Char) : Bool :=
  let rest := match cs with
    | '-' :: rest => rest
    | _ => cs
  match rest with
  | d :: _ => '1' ≤ d && d ≤ '9' && (rest.takeWhile isAsciiDigit).length > maxIntDigits
  | [] => false

/-- An integer written as text, or the kind of problem with it. The text is trimmed; then it is
an optional sign, digits in groups joined by single underscores, and optionally a point with one
or more zeros after it. Neither the sign nor leading zeros count towards the digits allowed. -/
def intOfText (s : String) : Except String Int :=
  if overlongDigits s.toList then .error "int_parsing_size"
  else
    let cs := (trimBy isTrimBlank s).toList
    let (negative, body) := match cs with
      | '-' :: rest => (true, rest)
      | '+' :: rest => (false, rest)
      | _ => (false, cs)
    let whole := match body.idxOf? '.' with
      | some i =>
        let fraction := body.drop (i + 1)
        if !fraction.isEmpty && fraction.all (· == '0') then some (body.take i) else none
      | none => some body
    match whole.bind groupedDigits? with
    | none => .error "int_parsing"
    | some ds =>
      let significant := ds.dropWhile (· == '0')
      if significant.length > maxIntDigits then .error "int_parsing"
      else
        let n : Int := digitsValue significant
        .ok (if negative then -n else n)

/-- A float as an integer strictly between -2^63 and 2^63, or the kind of problem with it. -/
def intOfFloat (x : Binary64) : Except String Int :=
  if !x.isFinite then .error "finite_number"
  else if !x.isWhole then .error "int_from_float"
  else
    match x.truncate? with
    | some n => if -(natPow 2 63 : Int) < n && n < (natPow 2 63 : Int) then .ok n else .error "int_parsing_size"
    | none => .error "int_from_float"

/-- Validates an integer: an integer, a boolean as 0 or 1, a whole float within 64 bits, or text
holding an integer. -/
def int (v : Json) : Except String Int :=
  match v with
  | .int n => .ok n
  | .bool b => .ok (if b then 1 else 0)
  | .float x => intOfFloat x
  | .str s => intOfText s
  | _ => .error "int_type"

/-- Validates an integer within optional bounds. -/
def intWithin (lo hi : Option Int) (v : Json) : Except String Int := do
  let n ← int v
  if lo.any (n < ·) then throw "greater_than_equal"
  if hi.any (n > ·) then throw "less_than_equal"
  pure n

/-- Validates text. -/
def str (v : Json) : Except String String :=
  match v with
  | .str s => .ok s
  | _ => .error "string_type"

/-- Validates text of at least `n` characters. Checking a length reads the text as Unicode,
which a lone surrogate is not. -/
def strAtLeast (n : Nat) (v : Json) : Except String String := do
  let s ← str v
  if Text.hasSurrogate s then throw "string_unicode"
  if s.length < n then throw "string_too_short"
  pure s

/-- Validates optional text: null is no text. -/
def optStr (v : Json) : Except String (Option String) :=
  match v with
  | .null => .ok none
  | .str s => .ok (some s)
  | _ => .error "string_type"

/-- The words read as true and as false, in any case. -/
def boolWord? (s : String) : Option Bool :=
  let w := String.ofList (s.toList.map Char.toLower)
  if ["1", "on", "t", "true", "y", "yes"].contains w then some true
  else if ["0", "off", "f", "false", "n", "no"].contains w then some false
  else none

/-- The truth value of an integer: only 0 and 1 have one. -/
def intBool (n : Int) : Except String Bool :=
  if n == 0 then .ok false else if n == 1 then .ok true else .error "bool_parsing"

/-- Validates a boolean: a boolean, 0 or 1 as an integer or a whole float, or a word for yes or
no. A number that is not a 64-bit integer is not a boolean at all. -/
def bool (v : Json) : Except String Bool :=
  match v with
  | .bool b => .ok b
  | .int n => if minWord ≤ n && n ≤ maxWord then intBool n else .error "bool_type"
  | .float x =>
    match intOfFloat x with
    | .ok n => intBool n
    | .error _ => .error "bool_type"
  | .str s =>
    match boolWord? s with
    | some b => .ok b
    | none => .error "bool_parsing"
  | _ => .error "bool_type"

/-- The value of a field, looked up by each of its names in turn. -/
def lookup (fields : List (String × Json)) (names : List String) : Option Json :=
  names.findSome? fun n => (fields.find? (·.1 == n)).map (·.2)

/-- A required field; `names` lists its alias first, and the path names it by its first name. -/
def required {α : Type} (at_ : List Json) (fields : List (String × Json)) (names : List String)
    (check : Json → Except String α) : Result α :=
  let loc := at_ ++ [Json.str (names.headD "")]
  match lookup fields names with
  | some v =>
    match check v with
    | .ok a => .ok a
    | .error kind => .error [⟨kind, loc⟩]
  | none => .error [⟨"missing", loc⟩]

/-- A field with a default. -/
def optional {α : Type} (at_ : List Json) (fields : List (String × Json)) (names : List String)
    (default : α) (check : Json → Except String α) : Result α :=
  let loc := at_ ++ [Json.str (names.headD "")]
  match lookup fields names with
  | some v =>
    match check v with
    | .ok a => .ok a
    | .error kind => .error [⟨kind, loc⟩]
  | none => .ok default

/-- The fields of a record; anything but an object fails with `kind`. -/
def record (at_ : List Json) (kind : String) (v : Json) : Result (List (String × Json)) :=
  match v with
  | .obj fields => .ok fields
  | _ => .error [⟨kind, at_⟩]

/-- A failure as reported: its kind and path. -/
def Issue.toJson (i : Issue) : Json := .obj [("type", .str i.kind), ("loc", .arr i.loc)]

end SecScan.Lax
