import SecScan.Json.Basic
import SecScan.Text.Surrogate

/-!
Reading JSON text. The grammar is standard JSON with three extra constants, `NaN`, `Infinity`
and `-Infinity`; a number with a fraction or an exponent is a float, rounded to the nearest
double, and any other number an integer of any size up to 4300 digits. A value is read from a
given position and the text after it is left alone; a whole document may only have blanks
around its value. Errors name the first position where the text stops fitting the grammar.
How deep arrays and objects may nest is given by whoever reads: reading recurses once for each
level, so the limit is the recursion left where the reading starts. One level more is a
recursion error, found on entering it.
-/

namespace SecScan.Json

/-- Why JSON text could not be read; positions count characters from the start of the text. -/
inductive ReadError where
  | expectingValue (pos : Nat)
  | expectingName (pos : Nat)
  | expectingColon (pos : Nat)
  | expectingComma (pos : Nat)
  | unterminatedString (pos : Nat)
  | controlCharacter (pos : Nat)
  | badEscape (pos : Nat)
  | badUnicodeEscape (pos : Nat)
  | extraData (pos : Nat)
  /-- An integer with more than 4300 digits. -/
  | tooManyDigits (count : Nat)
  /-- Arrays and objects nested deeper than the reader may go; the flag tells whether the one
  too deep is an object. -/
  | tooDeep (isObject : Bool)
  deriving Repr, DecidableEq, Inhabited

namespace ReadError

/-- What went wrong, and the position if the error has one. -/
def describe : ReadError → String × Option Nat
  | .expectingValue p => ("Expecting value", some p)
  | .expectingName p => ("Expecting property name enclosed in double quotes", some p)
  | .expectingColon p => ("Expecting ':' delimiter", some p)
  | .expectingComma p => ("Expecting ',' delimiter", some p)
  | .unterminatedString p => ("Unterminated string starting at", some p)
  | .controlCharacter p => ("Invalid control character at", some p)
  | .badEscape p => ("Invalid \\escape", some p)
  | .badUnicodeEscape p => ("Invalid \\uXXXX escape", some p)
  | .extraData p => ("Extra data", some p)
  | .tooManyDigits n =>
    ("Exceeds the limit (4300 digits) for integer string conversion: value has " ++
      toString n ++ " digits; use sys.set_int_max_str_digits() to increase the limit", none)
  | .tooDeep isObject =>
    ("maximum recursion depth exceeded while decoding a JSON " ++
      (if isObject then "object" else "array") ++ " from a unicode string", none)

/-- Whether the error is about the shape of the text rather than a value too large to read. -/
def isSyntax : ReadError → Bool
  | .tooManyDigits _ => false
  | .tooDeep _ => false
  | _ => true

/-- The name of the kind of error: a decoding error for the shape of the text, a value error for
an integer too long, a recursion error for nesting too deep. -/
def kind : ReadError → String
  | .tooManyDigits _ => "ValueError"
  | .tooDeep _ => "RecursionError"
  | _ => "JSONDecodeError"

/-- The message of an error in a document: what went wrong, then the line, the column and the
character index of the position. -/
def message (doc : List Char) (e : ReadError) : String :=
  match e.describe with
  | (what, none) => what
  | (what, some pos) =>
    let before := doc.take pos
    let line := before.count '\n' + 1
    let lastBreak := (List.range before.length).reverse.find? (fun i => before[i]? == some '\n')
    let column := match lastBreak with
      | some i => pos - i
      | none => pos + 1
    what ++ ": line " ++ toString line ++ " column " ++ toString column ++ " (char " ++
      toString pos ++ ")"

end ReadError

/-- The blanks of JSON text: space, tab, line feed and carriage return. -/
def isJsonBlank (c : Char) : Bool := c == ' ' || c == '\t' || c == '\n' || c == '\r'

/-- Skips blanks, counting positions. -/
def skipBlanks : List Char → Nat → List Char × Nat
  | c :: rest, pos => if isJsonBlank c then skipBlanks rest (pos + 1) else (c :: rest, pos)
  | [], pos => ([], pos)

/-- The value of a hexadecimal digit. -/
def hexValue? (c : Char) : Option Nat :=
  if '0' ≤ c ∧ c ≤ '9' then some (c.toNat - '0'.toNat)
  else if 'a' ≤ c ∧ c ≤ 'f' then some (c.toNat - 'a'.toNat + 10)
  else if 'A' ≤ c ∧ c ≤ 'F' then some (c.toNat - 'A'.toNat + 10)
  else none

/-- The value of four hexadecimal digits. -/
def hex4? (a b c d : Char) : Option Nat := do
  let a ← hexValue? a
  let b ← hexValue? b
  let c ← hexValue? c
  let d ← hexValue? d
  pure (((a * 16 + b) * 16 + c) * 16 + d)

/-- The character a one-letter escape stands for. -/
def escapeChar? : Char → Option Char
  | '"' => some '"'
  | '\\' => some '\\'
  | '/' => some '/'
  | 'b' => some (Char.ofNat 8)
  | 'f' => some (Char.ofNat 12)
  | 'n' => some '\n'
  | 'r' => some '\r'
  | 't' => some '\t'
  | _ => none

/-- A code point as a character; a surrogate that has no partner is kept as its stand-in. -/
def codeChar (n : Nat) : Char :=
  if 0xD800 ≤ n ∧ n ≤ 0xDFFF then Text.surrogateChar n else Char.ofNat n

/-- Reads the rest of a string whose opening quote is at `begin`; the text `cs` starts at `pos`,
and `acc` holds the characters read so far, last first. -/
def readString (begin : Nat) : List Char → Nat → List Char →
    Except ReadError (String × List Char × Nat)
  | [], _, _ => .error (.unterminatedString begin)
  | '"' :: rest, pos, acc => .ok (String.ofList acc.reverse, rest, pos + 1)
  | '\\' :: 'u' :: a :: b :: c :: d :: after, pos, acc =>
    if after.isEmpty then .error (.badUnicodeEscape (pos + 1))
    else
      match hex4? a b c d with
      | none => .error (.badUnicodeEscape (pos + 1))
      | some high =>
        if 0xD800 ≤ high ∧ high ≤ 0xDBFF ∧ after.length > 6 then
          match hafter : after with
          | '\\' :: 'u' :: e :: f :: g :: h :: rest =>
            match hex4? e f g h with
            | none => .error (.badUnicodeEscape (pos + 7))
            | some low =>
              if 0xDC00 ≤ low ∧ low ≤ 0xDFFF then
                readString begin rest (pos + 12)
                  (Char.ofNat (0x10000 + (high - 0xD800) * 0x400 + (low - 0xDC00)) :: acc)
              else readString begin after (pos + 6) (codeChar high :: acc)
          | _ => readString begin after (pos + 6) (codeChar high :: acc)
        else readString begin after (pos + 6) (codeChar high :: acc)
  | '\\' :: 'u' :: _, pos, _ => .error (.badUnicodeEscape (pos + 1))
  | '\\' :: c :: rest, pos, acc =>
    match escapeChar? c with
    | some d => readString begin rest (pos + 2) (d :: acc)
    | none => .error (.badEscape pos)
  | ['\\'], _, _ => .error (.unterminatedString begin)
  | c :: rest, pos, acc =>
    if c.toNat ≤ 0x1f then .error (.controlCharacter pos)
    else readString begin rest (pos + 1) (c :: acc)
termination_by cs => cs.length
decreasing_by all_goals simp_all <;> omega

/-- The decimal value of a list of ASCII digits. -/
def digitsValue (ds : List Char) : Nat :=
  ds.foldl (fun n d => n * 10 + (d.toNat - '0'.toNat)) 0

/-- Whether a character is an ASCII digit. -/
def isDigitChar (c : Char) : Bool := '0' ≤ c && c ≤ '9'

/-- The exponent part of a number, `[eE][+-]?[0-9]+`, and what follows it. -/
def readExponent : List Char → Option (Int × List Char)
  | e :: rest =>
    if e == 'e' || e == 'E' then
      let (negative, body) := match rest with
        | '-' :: b => (true, b)
        | '+' :: b => (false, b)
        | b => (false, b)
      let ds := body.takeWhile isDigitChar
      if ds.isEmpty then none
      else
        let v : Int := digitsValue ds
        some (if negative then -v else v, body.drop ds.length)
    else none
  | [] => none

/-- Reads a number at `pos`. -/
def readNumber (cs : List Char) (pos : Nat) : Except ReadError (Json × List Char × Nat) :=
  let (negative, body) := match cs with
    | '-' :: b => (true, b)
    | b => (false, b)
  let intDigits := match body with
    | '0' :: _ => ['0']
    | c :: _ => if '1' ≤ c ∧ c ≤ '9' then body.takeWhile isDigitChar else []
    | [] => []
  if intDigits.isEmpty then .error (.expectingValue pos)
  else
    let afterInt := body.drop intDigits.length
    let fracDigits := match afterInt with
      | '.' :: d :: rest => if isDigitChar d then (d :: rest).takeWhile isDigitChar else []
      | _ => []
    let afterFrac := if fracDigits.isEmpty then afterInt else afterInt.drop (fracDigits.length + 1)
    let exponent := readExponent afterFrac
    let rest := match exponent with
      | some (_, r) => r
      | none => afterFrac
    let used := cs.length - rest.length
    if fracDigits.isEmpty && exponent.isNone then
      if intDigits.length > 4300 then .error (.tooManyDigits intDigits.length)
      else
        let n : Int := digitsValue intDigits
        .ok (.int (if negative then -n else n), rest, pos + used)
    else
      let e10 : Int := (match exponent with | some (e, _) => e | none => 0) - fracDigits.length
      .ok (.float (Binary64.ofDecimal negative (digitsValue (intDigits ++ fracDigits)) e10),
        rest, pos + used)

mutual

/-- Reads one value at `pos`, where `room` more arrays and objects may still open; `fuel` bounds
the work. -/
def readValue : Nat → Nat → List Char → Nat → Except ReadError (Json × List Char × Nat)
  | 0, _, _, pos => .error (.expectingValue pos)
  | fuel + 1, room, cs, pos =>
    match cs with
    | [] => .error (.expectingValue pos)
    | '"' :: rest =>
      match readString pos rest (pos + 1) [] with
      | .ok (s, r, p) => .ok (.str s, r, p)
      | .error e => .error e
    | '{' :: rest =>
      match room with
      | 0 => .error (.tooDeep true)
      | room + 1 =>
        match skipBlanks rest (pos + 1) with
        | ('}' :: r, p) => .ok (.obj [], r, p + 1)
        | (r, p) => readFields fuel room r p []
    | '[' :: rest =>
      match room with
      | 0 => .error (.tooDeep false)
      | room + 1 =>
        match skipBlanks rest (pos + 1) with
        | (']' :: r, p) => .ok (.arr [], r, p + 1)
        | (r, p) => readItems fuel room r p []
    | 'n' :: 'u' :: 'l' :: 'l' :: rest => .ok (.null, rest, pos + 4)
    | 't' :: 'r' :: 'u' :: 'e' :: rest => .ok (.bool true, rest, pos + 4)
    | 'f' :: 'a' :: 'l' :: 's' :: 'e' :: rest => .ok (.bool false, rest, pos + 5)
    | 'N' :: 'a' :: 'N' :: rest => .ok (.float .nan, rest, pos + 3)
    | 'I' :: 'n' :: 'f' :: 'i' :: 'n' :: 'i' :: 't' :: 'y' :: rest =>
      .ok (.float (.infinity false), rest, pos + 8)
    | '-' :: 'I' :: 'n' :: 'f' :: 'i' :: 'n' :: 'i' :: 't' :: 'y' :: rest =>
      .ok (.float (.infinity true), rest, pos + 9)
    | _ => readNumber cs pos

/-- Reads the items of an array from `pos`, after its first blanks; `acc` holds the items read
so far, last first. -/
def readItems : Nat → Nat → List Char → Nat → List Json → Except ReadError (Json × List Char × Nat)
  | 0, _, _, pos, _ => .error (.expectingValue pos)
  | fuel + 1, room, cs, pos, acc =>
    match readValue fuel room cs pos with
    | .error e => .error e
    | .ok (v, rest, p) =>
      match skipBlanks rest p with
      | (']' :: r, q) => .ok (.arr (v :: acc).reverse, r, q + 1)
      | (',' :: r, q) =>
        match skipBlanks r (q + 1) with
        | (r, q) => readItems fuel room r q (v :: acc)
      | (_, q) => .error (.expectingComma q)

/-- Reads the fields of an object from `pos`, after its first blanks. -/
def readFields : Nat → Nat → List Char → Nat → List (String × Json) →
    Except ReadError (Json × List Char × Nat)
  | 0, _, _, pos, _ => .error (.expectingValue pos)
  | fuel + 1, room, cs, pos, acc =>
    match cs with
    | '"' :: rest =>
      match readString pos rest (pos + 1) [] with
      | .error e => .error e
      | .ok (key, rest, p) =>
        match skipBlanks rest p with
        | (':' :: r, q) =>
          match skipBlanks r (q + 1) with
          | (r, q) =>
            match readValue fuel room r q with
            | .error e => .error e
            | .ok (v, rest, p) =>
              let acc := setField acc key v
              match skipBlanks rest p with
              | ('}' :: r, q) => .ok (.obj acc, r, q + 1)
              | (',' :: r, q) =>
                match skipBlanks r (q + 1) with
                | (r, q) => readFields fuel room r q acc
              | (_, q) => .error (.expectingComma q)
        | (_, q) => .error (.expectingColon q)
    | _ => .error (.expectingName pos)

end

/-- Reads the value that starts right at the beginning of `cs`, with arrays and objects nested at
most `room` deep, leaving what follows; positions count from `pos`. -/
def readPrefix (room : Nat) (cs : List Char) (pos : Nat := 0) :
    Except ReadError (Json × List Char × Nat) :=
  readValue (2 * cs.length + 4) room cs pos

/-- Reads a whole document, one value with only blanks around it, with arrays and objects nested
at most `room` deep. -/
def parseWithin (room : Nat) (s : String) : Except ReadError Json :=
  let cs := s.toList
  match skipBlanks cs 0 with
  | (start, p) =>
    match readPrefix room start p with
    | .error e => .error e
    | .ok (v, rest, q) =>
      match skipBlanks rest q with
      | ([], _) => .ok v
      | (_, q) => .error (.extraData q)

/-- Reads a whole document, however deep it nests. -/
def parse (s : String) : Except ReadError Json := parseWithin s.length s

end SecScan.Json
