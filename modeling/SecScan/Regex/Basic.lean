import SecScan.Text.WordChar
import SecScan.Text.Blank
import SecScan.Text.Case

/-!
Patterns over a line of text: characters, classes, concatenation, alternation, greedy and lazy
repetition, numbered groups with back-references, look-ahead and look-behind, and word
boundaries. A pattern may ignore case, which compares the simple lower cases of letters and
also counts the few letters that share a lower-case class (`ı` with `i`, `ſ` with `s`, and some
Greek and Cyrillic forms) as equal.
-/

namespace SecScan.Regex

open SecScan.Text

/-- One member of a character class. -/
inductive ClassItem where
  | single (c : Char)
  | range (lo hi : Char)
  /-- Any word character. -/
  | word
  /-- Any white space. -/
  | blank
  deriving Repr, DecidableEq

/-- A pattern. -/
inductive Regex where
  /-- Matches the empty text. -/
  | empty
  | char (c : Char)
  /-- Any character but a line feed. -/
  | dot
  /-- A character class, possibly negated. -/
  | set (negated : Bool) (items : List ClassItem)
  | cat (first second : Regex)
  /-- Tries `left` first. -/
  | alt (left right : Regex)
  /-- Zero or more repetitions; a greedy loop tries more repetitions first. -/
  | star (greedy : Bool) (body : Regex)
  /-- Records the span that `body` matches as group `index`. -/
  | group (index : Nat) (body : Regex)
  /-- Matches the text that group `index` matched. -/
  | backref (index : Nat)
  /-- Tests `body` at the current position without consuming text. -/
  | ahead (negated : Bool) (body : Regex)
  /-- Tests `body` on the text just before the current position. -/
  | behind (negated : Bool) (body : Regex)
  /-- A boundary between a word character and a non-word character or an end. -/
  | wordEdge
  /-- The start of the text. -/
  | textStart
  deriving Repr

/-- A pattern together with whether it ignores case. -/
structure Pattern where
  regex : Regex
  ignoreCase : Bool := false

namespace Regex

/-- The characters of a text, one after another. -/
def lit (s : String) : Regex :=
  s.toList.foldr (fun c rest => match rest with
    | .empty => .char c
    | _ => .cat (.char c) rest) .empty

/-- Patterns one after another. -/
def seq : List Regex → Regex
  | [] => .empty
  | [r] => r
  | r :: rs => .cat r (seq rs)

/-- The first of the patterns that matches. -/
def oneOf : List Regex → Regex
  | [] => .set false []
  | [r] => r
  | r :: rs => .alt r (oneOf rs)

/-- One or more greedy repetitions. -/
def plus (r : Regex) : Regex := .cat r (.star true r)

/-- An optional pattern, tried first. -/
def opt (r : Regex) : Regex := .alt r .empty

/-- Any run of white space, longest first. -/
def blanks : Regex := .star true (.set false [.blank])

/-- A class of the given characters. -/
def chars (s : String) : Regex := .set false (s.toList.map .single)

/-- A class of all characters except the given ones. -/
def noneOf (s : String) : Regex := .set true (s.toList.map .single)

/-- The length of the texts a fixed-width pattern matches, as a look-behind needs it. -/
def width : Regex → Nat
  | .empty => 0
  | .char _ => 1
  | .dot => 1
  | .set _ _ => 1
  | .cat a b => a.width + b.width
  | .alt a _ => a.width
  | .star _ _ => 0
  | .group _ r => r.width
  | .backref _ => 0
  | .ahead _ _ => 0
  | .behind _ _ => 0
  | .wordEdge => 0
  | .textStart => 0

end Regex

/-- Letters that count as equal to a lower-case letter when case is ignored, besides those with
the same lower case. -/
def caseExtras : List (Nat × List Nat) :=
  [(0x69, [0x131]), (0x73, [0x17f]), (0xb5, [0x3bc]), (0x131, [0x69]), (0x17f, [0x73]),
   (0x345, [0x3b9, 0x1fbe]), (0x390, [0x1fd3]), (0x3b0, [0x1fe3]), (0x3b2, [0x3d0]),
   (0x3b5, [0x3f5]), (0x3b8, [0x3d1]), (0x3b9, [0x345, 0x1fbe]), (0x3ba, [0x3f0]),
   (0x3bc, [0xb5]), (0x3c0, [0x3d6]), (0x3c1, [0x3f1]), (0x3c2, [0x3c3]), (0x3c3, [0x3c2]),
   (0x3c6, [0x3d5]), (0x3d0, [0x3b2]), (0x3d1, [0x3b8]), (0x3d5, [0x3c6]), (0x3d6, [0x3c0]),
   (0x3f0, [0x3ba]), (0x3f1, [0x3c1]), (0x3f5, [0x3b5]), (0x432, [0x1c80]), (0x434, [0x1c81]),
   (0x43e, [0x1c82]), (0x441, [0x1c83]), (0x442, [0x1c84, 0x1c85]), (0x44a, [0x1c86]),
   (0x463, [0x1c87]), (0x1c80, [0x432]), (0x1c81, [0x434]), (0x1c82, [0x43e]),
   (0x1c83, [0x441]), (0x1c84, [0x442, 0x1c85]), (0x1c85, [0x442, 0x1c84]), (0x1c86, [0x44a]),
   (0x1c87, [0x463]), (0x1c88, [0xa64b]), (0x1e61, [0x1e9b]), (0x1e9b, [0x1e61]),
   (0x1fbe, [0x345, 0x3b9]), (0x1fd3, [0x390]), (0x1fe3, [0x3b0]), (0xa64b, [0x1c88]),
   (0xfb05, [0xfb06]), (0xfb06, [0xfb05])]

/-- Whether text character `x` matches pattern character `c` when case is ignored. -/
def sameLetter (c x : Char) : Bool :=
  let lc := lowerChar c
  let lx := lowerChar x
  lx == lc || ((caseExtras.lookup lc.toNat).getD []).contains lx.toNat

/-- Whether a character has case: lower or upper casing changes it. -/
def isCased (c : Char) : Bool := lowerChar c != c || upperFull c != [c]

namespace ClassItem

/-- Whether a character belongs to the item, case counting. -/
def holds (x : Char) : ClassItem → Bool
  | .single c => x == c
  | .range lo hi => lo ≤ x && x ≤ hi
  | .word => isWordChar x
  | .blank => isBlank x

/-- Whether a character belongs to the item when case is ignored; the character is already in
lower case. -/
def holdsFolded (x : Char) : ClassItem → Bool
  | .single c => sameLetter c x
  | .range lo hi => lo ≤ x && x ≤ hi
  | .word => isWordChar x
  | .blank => isBlank x

/-- Whether the item names a letter with case; only such classes compare lower cases. -/
def hasCase : ClassItem → Bool
  | .single c => isCased c
  | .range _ _ => true
  | .word => false
  | .blank => false

end ClassItem

/-- Whether a character belongs to a class. When case is ignored and the class names a letter
with case, the character's lower case is tested instead. -/
def classHolds (ignoreCase : Bool) (negated : Bool) (items : List ClassItem) (x : Char) : Bool :=
  let inside :=
    if ignoreCase && items.any ClassItem.hasCase then
      items.any (ClassItem.holdsFolded (lowerChar x))
    else
      items.any (ClassItem.holds x)
  inside != negated

end SecScan.Regex
