import SecScan.Text.NormalTable

/-!
Canonical normalization (NFC) by the Unicode 14 data. A text is normalized in three steps: every
character is replaced by its full canonical decomposition; each run of characters with a
combining class other than zero is sorted by class, keeping the order of equal classes; then
each character is composed with the last starter before it when the pair has a primary
composite and no character between them blocks it. A character between a starter and a later
one blocks it when its class is zero or not below the later one's. Hangul syllables decompose
into their jamo and compose back by arithmetic.
-/

namespace SecScan.Text

/-- The first Hangul syllable. -/
def hangulFirst : Nat := 0xAC00

/-- How many Hangul syllables there are. -/
def hangulCount : Nat := 11172

/-- The first leading consonant jamo. -/
def leadFirst : Nat := 0x1100

/-- The first vowel jamo. -/
def vowelFirst : Nat := 0x1161

/-- The code point before the first trailing consonant jamo. -/
def trailBase : Nat := 0x11A7

/-- How many vowel jamo there are. -/
def vowelCount : Nat := 21

/-- How many trailing consonant positions there are, the empty one included. -/
def trailCount : Nat := 28

/-- The canonical combining class of a character. -/
def combiningClass (c : Char) : Nat :=
  match Ranges.lastAtMost Prod.fst combiningRuns c.toNat with
  | some (_, last, cls) => if c.toNat ≤ last then cls else 0
  | none => 0

/-- The full canonical decomposition of a character. -/
def decomposeChar (c : Char) : List Char :=
  let n := c.toNat
  if hangulFirst ≤ n && n < hangulFirst + hangulCount then
    let s := n - hangulFirst
    let lead := Char.ofNat (leadFirst + s / (vowelCount * trailCount))
    let vowel := Char.ofNat (vowelFirst + s % (vowelCount * trailCount) / trailCount)
    if s % trailCount == 0 then [lead, vowel]
    else [lead, vowel, Char.ofNat (trailBase + s % trailCount)]
  else
    match Ranges.lastAtMost Prod.fst decompositions n with
    | some (code, parts) => if code == n then parts.map Char.ofNat else [c]
    | none => [c]

/-- Sorts each run of characters with a class other than zero by class, stably. -/
def reorder (cs : List Char) : List Char :=
  let sortRun (run : List Char) : List Char :=
    run.mergeSort fun a b => combiningClass a ≤ combiningClass b
  let (done, run) := cs.foldl (fun (acc : List Char × List Char) c =>
    let (done, run) := acc
    if combiningClass c == 0 then (c :: (sortRun run.reverse).reverse ++ done, [])
    else (done, c :: run)) ([], [])
  ((sortRun run.reverse).reverse ++ done).reverse

/-- The primary composite of two characters, if they have one. -/
def composePair (a b : Char) : Option Char :=
  let x := a.toNat
  let y := b.toNat
  if leadFirst ≤ x && x < leadFirst + 19 && vowelFirst ≤ y && y < vowelFirst + vowelCount then
    some (Char.ofNat (hangulFirst + ((x - leadFirst) * vowelCount + (y - vowelFirst)) * trailCount))
  else if hangulFirst ≤ x && x < hangulFirst + hangulCount && (x - hangulFirst) % trailCount == 0 &&
      trailBase < y && y < trailBase + trailCount then
    some (Char.ofNat (x + (y - trailBase)))
  else
    let key := x * 0x110000 + y
    match Ranges.lastAtMost Prod.fst compositions key with
    | some (k, composite) => if k == key then some (Char.ofNat composite) else none
    | none => none

/-- The state of composition: the output before the last starter (reversed), that starter, the
output after it (reversed), and the class of the last character kept after it; the class is
256 while the text has not yet had a starter, which blocks every composition. -/
structure Composing where
  before : List Char
  starter : Char
  after : List Char
  lastClass : Nat

/-- Keeps a character that was not composed; one of class zero is the new starter. -/
def Composing.keep (st : Composing) (c : Char) (cls : Nat) : Composing :=
  if cls == 0 then
    { before := st.after ++ st.starter :: st.before, starter := c, after := [], lastClass := 0 }
  else { st with after := c :: st.after, lastClass := cls }

/-- Takes one more character into the composition. -/
def Composing.push (st : Composing) (c : Char) : Composing :=
  let cls := combiningClass c
  match composePair st.starter c with
  | some composite =>
    if st.lastClass < cls || st.lastClass == 0 then { st with starter := composite }
    else st.keep c cls
  | none => st.keep c cls

/-- Composes a decomposed, reordered text. -/
def compose : List Char → List Char
  | [] => []
  | c :: rest =>
    let start : Composing :=
      { before := [], starter := c, after := [], lastClass := if combiningClass c == 0 then 0 else 256 }
    let st := rest.foldl Composing.push start
    (st.after ++ st.starter :: st.before).reverse

/-- The canonical composition (NFC) of a text. -/
def nfc (cs : List Char) : List Char := compose (reorder (cs.flatMap decomposeChar))

/-- Whether a text is already in canonical composition. -/
def isNfc (cs : List Char) : Bool := nfc cs == cs

end SecScan.Text
