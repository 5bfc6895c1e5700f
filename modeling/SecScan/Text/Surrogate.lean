/-!
Lone surrogates. A `\u` escape in JSON or YAML text may name a UTF-16 surrogate code point,
`0xD800` to `0xDFFF`, with no partner to make a character with it; the text read then holds that
code point on its own. Lean characters are Unicode scalar values, which leave the surrogates out,
so text here holds a stand-in for each: the surrogate `0xD800 + k` is kept as the character
`0x108000 + k`, a run of 2048 private-use code points in the middle of the last plane, away from
its ends where real text is likelier to reach. Anything that writes text out maps a stand-in back to its surrogate: an ASCII escape
writes it as `\ud800`, and encoding text as UTF-8 fails on it, since UTF-8 has no form for a
surrogate.
-/

namespace SecScan.Text

/-- The first surrogate code point. -/
def firstSurrogate : Nat := 0xD800

/-- The stand-in of the first surrogate; the others follow it in order. -/
def firstStandIn : Nat := 0x108000

/-- How many surrogate code points there are. -/
def surrogateCount : Nat := 0x800

/-- The stand-in of a surrogate code point. -/
def surrogateChar (code : Nat) : Char := Char.ofNat (firstStandIn + (code - firstSurrogate))

/-- Whether a character stands in for a surrogate. -/
def isSurrogate (c : Char) : Bool := firstStandIn ≤ c.toNat && c.toNat < firstStandIn + surrogateCount

/-- The surrogate code point a character stands in for. -/
def surrogateCode? (c : Char) : Option Nat :=
  if isSurrogate c then some (c.toNat - firstStandIn + firstSurrogate) else none

/-- Whether a text holds a surrogate. -/
def hasSurrogate (s : String) : Bool := s.toList.any isSurrogate

/-- Four lower-case hexadecimal digits of a number below `0x10000`. -/
def lowerHex4 (n : Nat) : String :=
  let digit (k : Nat) : Char :=
    let v := n >>> (4 * k) % 16
    if v < 10 then Char.ofNat (48 + v) else Char.ofNat (87 + v)
  String.ofList [digit 3, digit 2, digit 1, digit 0]

/-- The message of the error encoding text as UTF-8, at its first run of surrogates: the run is
named by its positions, or a single surrogate by its escape. -/
def utf8ErrorText (cs : List Char) : Option String :=
  match cs.findIdx? isSurrogate with
  | none => none
  | some i =>
    let run := ((cs.drop i).takeWhile isSurrogate).length
    if run == 1 then
      let code := ((cs.getD i ' ') |> surrogateCode?).getD firstSurrogate
      some ("'utf-8' codec can't encode character '\\u" ++ lowerHex4 code ++ "' in position " ++
        toString i ++ ": surrogates not allowed")
    else
      some ("'utf-8' codec can't encode characters in position " ++ toString i ++ "-" ++
        toString (i + run - 1) ++ ": surrogates not allowed")

end SecScan.Text
