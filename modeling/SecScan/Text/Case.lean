import SecScan.Text.CaseTable
import SecScan.Text.CasedTable

/-!
Lower and upper case of texts by the Unicode 14 mappings. Matching without regard to case uses
the simple lower case of single characters; turning a text to lower or upper case uses the full
mappings, under which a character may become several (`ß` upper-cases to `SS`), and a capital
sigma at the end of a word lower-cases to the final sigma.
-/

namespace SecScan.Text

/-- The simple lower case of a character. -/
def lowerChar (c : Char) : Char :=
  if c.toNat < 128 then c.toLower else Char.ofNat (Ranges.mapCode lowerRuns c.toNat)

/-- The full lower case of a character: the capital I with dot above keeps its dot as a
combining mark. -/
def lowerFull (c : Char) : List Char :=
  if c.toNat = 304 then ['i', Char.ofNat 775] else [lowerChar c]

/-- The full upper case of a character. -/
def upperFull (c : Char) : List Char :=
  if c.toNat < 128 then [c.toUpper]
  else
    match Ranges.lastAtMost Prod.fst upperExpansions c.toNat with
    | some (code, expansion) =>
      if code = c.toNat then expansion.map Char.ofNat
      else [Char.ofNat (Ranges.mapCode upperRuns c.toNat)]
    | none => [Char.ofNat (Ranges.mapCode upperRuns c.toNat)]

/-- Whether a character is cased and not case-ignorable. -/
def isCased (c : Char) : Bool := Ranges.contains casedRanges c.toNat

/-- Whether a character is case-ignorable. -/
def isCaseIgnorable (c : Char) : Bool := Ranges.contains caseIgnorableRanges c.toNat

/-- Whether a capital sigma ends a word: past the case-ignorable characters around it, a cased
character comes before it and none after it. `before` holds the characters before it, nearest
first, and `after` those after it. -/
def endsWord (before after : List Char) : Bool :=
  (match before.dropWhile isCaseIgnorable with
   | c :: _ => isCased c
   | [] => false) &&
  (match after.dropWhile isCaseIgnorable with
   | c :: _ => !isCased c
   | [] => true)

/-- The lower case of the characters `cs`, the ones before them in `before` (nearest first), added
in reverse to `acc`. -/
def lowerInto (before acc : List Char) : List Char → List Char
  | [] => acc.reverse
  | c :: rest =>
    let lowered :=
      if c.toNat = 931 then [Char.ofNat (if endsWord before rest then 962 else 963)]
      else lowerFull c
    lowerInto (c :: before) (lowered.reverse ++ acc) rest

/-- A text in lower case. -/
def toLower (s : String) : String := String.ofList (lowerInto [] [] s.toList)

/-- A text in upper case. -/
def toUpper (s : String) : String := String.ofList (s.toList.flatMap upperFull)

/-- Whether a text is in upper case: upper-casing leaves it as it is, and it has a character that
lower-casing changes. -/
def isUpperText (s : String) : Bool :=
  toUpper s == s && toLower s != s

end SecScan.Text
