/-!
Blank characters: the Unicode white space, as code points 9 to 13, 28 to 32, 133, 160, 5760,
8192 to 8202, 8232, 8233, 8239, 8287 and 12288. Stripping a text removes blanks from one or both
ends, and a pattern's blank class is this set.
-/

namespace SecScan.Text

/-- Whether a character is white space. -/
def isBlank (c : Char) : Bool :=
  let n := c.toNat
  (9 ≤ n && n ≤ 13) || (28 ≤ n && n ≤ 32) || n == 133 || n == 160 || n == 5760 ||
    (8192 ≤ n && n ≤ 8202) || n == 8232 || n == 8233 || n == 8239 || n == 8287 || n == 12288

/-- Drops the leading characters that satisfy `p`. -/
def trimStartBy (p : Char → Bool) (s : String) : String :=
  String.ofList (s.toList.dropWhile p)

/-- Drops the trailing characters that satisfy `p`. -/
def trimEndBy (p : Char → Bool) (s : String) : String :=
  String.ofList (s.toList.reverse.dropWhile p).reverse

/-- Drops the characters that satisfy `p` from both ends. -/
def trimBy (p : Char → Bool) (s : String) : String :=
  trimEndBy p (trimStartBy p s)

/-- Drops white space from both ends. -/
def strip (s : String) : String := trimBy isBlank s

/-- Drops white space from the start. -/
def stripStart (s : String) : String := trimStartBy isBlank s

/-- Drops white space from the end. -/
def stripEnd (s : String) : String := trimEndBy isBlank s

/-- The blank-separated words of a text. -/
def blankWords (cs : List Char) : List (List Char) :=
  (cs.splitBy fun a b => isBlank a == isBlank b).filter fun w => !w.all isBlank

/-- Whether a text is empty or only white space. -/
def isBlankText (s : String) : Bool := s.toList.all isBlank

end SecScan.Text
