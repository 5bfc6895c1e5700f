import SecScan.Json.Basic
import SecScan.Number.Shortest
import SecScan.Text.Surrogate

/-!
Writing JSON text. Output is ASCII only: every character outside printable ASCII is written as
a `\u` escape, astral characters as a surrogate pair, and the stand-in of a lone surrogate as
the surrogate's escape. Floats are written in their shortest form,
and the three non-finite values as `NaN`, `Infinity` and `-Infinity`.
-/

namespace SecScan.Json

/-- Four lower-case hexadecimal digits. -/
def hex4 (n : Nat) : String :=
  let digit (k : Nat) : Char :=
    let v := n >>> (4 * k) % 16
    if v < 10 then Char.ofNat (48 + v) else Char.ofNat (87 + v)
  String.ofList [digit 3, digit 2, digit 1, digit 0]

/-- One character of a string literal. -/
def escapeChar (c : Char) : String :=
  match c with
  | '"' => "\\\""
  | '\\' => "\\\\"
  | '\n' => "\\n"
  | '\r' => "\\r"
  | '\t' => "\\t"
  | _ =>
    let n := c.toNat
    if let some code := Text.surrogateCode? c then "\\u" ++ hex4 code
    else if n = 8 then "\\b"
    else if n = 12 then "\\f"
    else if n < 0x20 ∨ (0x7f ≤ n ∧ n < 0x10000) then "\\u" ++ hex4 n
    else if n ≥ 0x10000 then
      let v := n - 0x10000
      "\\u" ++ hex4 (0xD800 + v / 0x400) ++ "\\u" ++ hex4 (0xDC00 + v % 0x400)
    else c.toString

/-- A string literal. -/
def quote (s : String) : String := "\"" ++ String.join (s.toList.map escapeChar) ++ "\""

/-- The text of a number. -/
def floatText : Binary64 → String
  | .nan => "NaN"
  | .infinity negative => if negative then "-Infinity" else "Infinity"
  | x => x.toText

/-- The indentation of a nesting depth: two spaces a level. -/
def pad (depth : Nat) : String := String.ofList (List.replicate (2 * depth) ' ')

mutual

/-- The compact text of a value, written after `out`. -/
def renderTo (out : String) : Json → String
  | .null => out ++ "null"
  | .bool b => out ++ if b then "true" else "false"
  | .int n => out ++ toString n
  | .float x => out ++ floatText x
  | .str s => out ++ quote s
  | .arr items => renderItemsTo (out ++ "[") items ++ "]"
  | .obj fields => renderFieldsTo (out ++ "\x7b") fields ++ "\x7d"

/-- The items of an array, separated by commas, written after `out`. -/
def renderItemsTo (out : String) : List Json → String
  | [] => out
  | [v] => renderTo out v
  | v :: rest => renderItemsTo (renderTo out v ++ ", ") rest

/-- The fields of an object, separated by commas, written after `out`. -/
def renderFieldsTo (out : String) : List (String × Json) → String
  | [] => out
  | [(k, v)] => renderTo (out ++ quote k ++ ": ") v
  | (k, v) :: rest => renderFieldsTo (renderTo (out ++ quote k ++ ": ") v ++ ", ") rest

end

/-- The compact text of a value. -/
def render (v : Json) : String := renderTo "" v

/-- One character of a string literal in text that keeps characters outside ASCII as they are:
only the quote, the backslash and the control characters are escaped. -/
def escapeKept (c : Char) : String :=
  if c.toNat < 0x20 || c == '"' || c == '\\' then escapeChar c else c.toString

mutual

/-- The tightest text of a value, with no space after a comma or a colon and characters
outside ASCII kept as they are, written after `out`. -/
def keptTo (out : String) : Json → String
  | .str s => out ++ "\"" ++ String.join (s.toList.map escapeKept) ++ "\""
  | .arr items => keptItemsTo (out ++ "[") items ++ "]"
  | .obj fields => keptFieldsTo (out ++ "\x7b") fields ++ "\x7d"
  | v => renderTo out v

/-- The items of an array in the tightest text, written after `out`. -/
def keptItemsTo (out : String) : List Json → String
  | [] => out
  | [v] => keptTo out v
  | v :: rest => keptItemsTo (keptTo out v ++ ",") rest

/-- The fields of an object in the tightest text, written after `out`. -/
def keptFieldsTo (out : String) : List (String × Json) → String
  | [] => out
  | [(k, v)] => keptTo (keptTo out (.str k) ++ ":") v
  | (k, v) :: rest => keptFieldsTo (keptTo (keptTo out (.str k) ++ ":") v ++ ",") rest

end

/-- The tightest text of a value, keeping characters outside ASCII: the form a request body is
sent in. -/
def renderKept (v : Json) : String := keptTo "" v

mutual

/-- The text of a value laid out over lines, written after `out`: each level of nesting is
indented two spaces more than the one around it, `depth` being the nesting of the value itself.
Empty arrays and objects stay on one line. -/
def indentedTo (out : String) (depth : Nat) : Json → String
  | .arr [] => out ++ "[]"
  | .obj [] => out ++ "\x7b\x7d"
  | .arr items => indentedItemsTo (out ++ "[") (depth + 1) items ++ "\n" ++ pad depth ++ "]"
  | .obj fields =>
    indentedFieldsTo (out ++ "\x7b") (depth + 1) fields ++ "\n" ++ pad depth ++ "\x7d"
  | v => renderTo out v

/-- The items of an array, each on its own line at `depth`, written after `out`. -/
def indentedItemsTo (out : String) (depth : Nat) : List Json → String
  | [] => out
  | [v] => indentedTo (out ++ "\n" ++ pad depth) depth v
  | v :: rest => indentedItemsTo (indentedTo (out ++ "\n" ++ pad depth) depth v ++ ",") depth rest

/-- The fields of an object, each on its own line at `depth`, written after `out`. -/
def indentedFieldsTo (out : String) (depth : Nat) : List (String × Json) → String
  | [] => out
  | [(k, v)] => indentedTo (out ++ "\n" ++ pad depth ++ quote k ++ ": ") depth v
  | (k, v) :: rest =>
    indentedFieldsTo (indentedTo (out ++ "\n" ++ pad depth ++ quote k ++ ": ") depth v ++ ",")
      depth rest

end

/-- The text of a value laid out over lines at nesting `depth`, two spaces a level. -/
def renderIndented (depth : Nat) (v : Json) : String := indentedTo "" depth v

end SecScan.Json
