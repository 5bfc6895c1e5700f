import SecScan.Json.Basic
import SecScan.Number.Shortest
import SecScan.Text.Printable
import SecScan.Text.Surrogate

/-!
Values written as literals, the way error messages quote what they were given: strings in
single quotes (double quotes when the text has a single quote and no double quote), with
escapes for the backslash, the quote, line breaks, tabs and characters that are not printable;
`True`, `False` and `None`; lists in brackets and mappings in braces.
-/

namespace SecScan.Json

open SecScan.Text

/-- A number in lower-case hexadecimal, padded with zeros to `width` digits. -/
def hexPadded (width n : Nat) : String :=
  let digits := Nat.toDigits 16 n
  String.ofList (List.replicate (width - digits.length) '0' ++ digits)

/-- One character inside a quoted literal that uses `quoteChar`. -/
def literalChar (quoteChar c : Char) : String :=
  if c == quoteChar || c == '\\' then "\\" ++ c.toString
  else if c == '\n' then "\\n"
  else if c == '\r' then "\\r"
  else if c == '\t' then "\\t"
  else if let some code := surrogateCode? c then "\\u" ++ hexPadded 4 code
  else if isPrintable c then c.toString
  else if c.toNat ≤ 0xff then "\\x" ++ hexPadded 2 c.toNat
  else if c.toNat ≤ 0xffff then "\\u" ++ hexPadded 4 c.toNat
  else "\\U" ++ hexPadded 8 c.toNat

/-- A text as a quoted literal. -/
def quoteLiteral (s : String) : String :=
  let cs := s.toList
  let quoteChar := if cs.contains '\'' && !cs.contains '"' then '"' else '\''
  quoteChar.toString ++ String.join (cs.map (literalChar quoteChar)) ++ quoteChar.toString

mutual

/-- A value as a literal. -/
def literal : Json → String
  | .null => "None"
  | .bool b => if b then "True" else "False"
  | .int n => toString n
  | .float x => x.toText
  | .str s => quoteLiteral s
  | .arr items => "[" ++ literalItems items ++ "]"
  | .obj fields => "\x7b" ++ literalFields fields ++ "\x7d"

/-- The items of a list literal. -/
def literalItems : List Json → String
  | [] => ""
  | [v] => literal v
  | v :: rest => literal v ++ ", " ++ literalItems rest

/-- The entries of a mapping literal. -/
def literalFields : List (String × Json) → String
  | [] => ""
  | [(k, v)] => quoteLiteral k ++ ": " ++ literal v
  | (k, v) :: rest => quoteLiteral k ++ ": " ++ literal v ++ ", " ++ literalFields rest

end

/-- A value as text the way the program's own text conversion writes it: text as it is, and any
other value as its literal. -/
def display : Json → String
  | .str s => s
  | v => literal v

/-- The message of text that cannot be written in ASCII, at its first run of other characters. -/
def asciiErrorText (cs : List Char) : Option String :=
  match cs.findIdx? (·.toNat ≥ 128) with
  | none => none
  | some i =>
    let run := ((cs.drop i).takeWhile (·.toNat ≥ 128)).length
    let c := cs.getD i ' '
    if run == 1 then
      let code := (surrogateCode? c).getD c.toNat
      let escaped :=
        if code ≤ 0xff then "\\x" ++ hexPadded 2 code
        else if code ≤ 0xffff then "\\u" ++ hexPadded 4 code
        else "\\U" ++ hexPadded 8 code
      some ("'ascii' codec can't encode character '" ++ escaped ++ "' in position " ++ toString i ++
        ": ordinal not in range(128)")
    else
      some ("'ascii' codec can't encode characters in position " ++ toString i ++ "-" ++
        toString (i + run - 1) ++ ": ordinal not in range(128)")

end SecScan.Json
