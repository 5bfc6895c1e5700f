import SecScan.Terminal.Width
import SecScan.Text.Blank

/-!
Laying text out in lines of a given width. A text is cut into words, each word being its
non-blank characters with the blanks after them (the first word also takes the blanks before
it). Words fill a line while their non-blank part fits; a word that fits no line either starts
a line of its own and overflows it, or, when folding, is chopped into pieces that fit. Each line
is then justified to the width: left pads it with spaces, right and center move it over, and a
line still too wide is cut, ending in an ellipsis when asked. Tabs are expanded to the next
multiple of eight cells before the text is cut. Widths are counted by graphemes, and a word is
only chopped between graphemes.
-/

namespace SecScan.Terminal

open SecScan.Text

/-- How a line is placed in its width. -/
inductive Justify where
  /-- Left as it is, not padded. -/
  | none
  | left
  | center
  | right
  deriving DecidableEq, Repr, Inhabited

/-- What happens to text too wide for its line. -/
inductive Overflow where
  /-- Words longer than a line are chopped across lines. -/
  | fold
  /-- Words longer than a line are cut, ending in an ellipsis. -/
  | ellipsis
  deriving DecidableEq, Repr, Inhabited

/-- The words of a text from position `start`: each with its start, its characters and the
blanks after them. -/
def wordsFrom (fuel : Nat) (cs : List Char) (start : Nat) : List (Nat × List Char) :=
  match fuel with
  | 0 => []
  | fuel + 1 =>
    let body := cs.takeWhile (!isBlank ·)
    if body.isEmpty then []
    else
      let blanks := (cs.drop body.length).takeWhile isBlank
      let word := body ++ blanks
      (start, word) :: wordsFrom fuel (cs.drop word.length) (start + word.length)

/-- The words of a text; the first takes the blanks before it. A text of blanks has none. -/
def words (cs : List Char) : List (Nat × List Char) :=
  let lead := cs.takeWhile isBlank
  match wordsFrom (cs.length + 1) (cs.drop lead.length) lead.length with
  | (_, w) :: rest => (0, lead ++ w) :: rest
  | [] => []

/-- A word chopped into pieces of at most `width` cells, cutting only between graphemes; a
grapheme wider than that takes a piece of its own. -/
def chopCells (width : Nat) (cs : List Char) : List (List Char) :=
  let step (acc : List (List Char) × List Char × Nat) (g : Grapheme) :=
    let (done, current, used) := acc
    if used + g.cells > width then (done ++ [current], g.chars, g.cells)
    else (done, current ++ g.chars, used + g.cells)
  let (lines, last, _) := (graphemes cs).foldl step ([], [], 0)
  lines ++ [last]

/-- Where lines break in a text laid out `width` cells wide, as positions in the text. -/
def breakPositions (cs : List Char) (width : Nat) (fold : Bool) : List Nat :=
  let (breaks, _) := (words cs).foldl (fun (acc : List Nat × Nat) (start, word) =>
    let (breaks, offset) := acc
    let stem := (word.reverse.dropWhile isBlank).reverse
    let wordLength := cellsOf stem
    if width - offset ≥ wordLength && offset ≤ width then (breaks, offset + cellsOf word)
    else if wordLength > width then
      if fold then
        let pieces := chopCells width word
        let (breaks, _, last) := pieces.foldl (fun (acc : List Nat × Nat × Nat) piece =>
          let (breaks, pos, _) := acc
          ((if pos > 0 then breaks ++ [pos] else breaks), pos + piece.length, cellsOf piece))
          (breaks, start, 0)
        (breaks, last)
      else ((if start > 0 then breaks ++ [start] else breaks), cellsOf word)
    else if offset > 0 && start > 0 then (breaks ++ [start], cellsOf word)
    else (breaks, offset)) ([], 0)
  breaks

/-- A text cut at positions. -/
def divideAt (cs : List Char) (positions : List Nat) : List (List Char) :=
  let bounds := 0 :: positions ++ [cs.length]
  (bounds.zip bounds.tail).map fun (a, b) => (cs.drop a).take (b - a)

/-- Drops trailing blanks from a line longer than `width` characters, as far as it is too long. -/
def trimOverhang (width : Nat) (line : List Char) : List Char :=
  if line.length > width then
    let trailing := (line.reverse.takeWhile isBlank).length
    line.take (line.length - min trailing (line.length - width))
  else line

/-- A line cut to `width` cells; with an ellipsis the cut line ends in `…`. -/
def cutTo (width : Nat) (overflow : Overflow) (line : List Char) : List Char :=
  if cellsOf line > width then
    match overflow with
    | .ellipsis => (cutCells (width - 1) (String.ofList line)).toList ++ ['…']
    | .fold => (cutCells width (String.ofList line)).toList
  else line

/-- Places a line in its width. -/
def justifyLine (width : Nat) (justify : Justify) (overflow : Overflow) (line : List Char) :
    List Char :=
  match justify with
  | .none => line
  | .left =>
    let length := cellsOf line
    let cut := cutTo width overflow line
    if length < width then cut ++ List.replicate (width - length) ' ' else cut
  | .center =>
    let cut := cutTo width overflow (line.reverse.dropWhile isBlank).reverse
    let left := (width - cellsOf cut) / 2
    let padded := List.replicate left ' ' ++ cut
    padded ++ List.replicate (width - cellsOf padded) ' '
  | .right =>
    let cut := cutTo width overflow (line.reverse.dropWhile isBlank).reverse
    List.replicate (width - cellsOf cut) ' ' ++ cut

/-- The pieces of a line each ending in a tab, and the rest after the last tab. -/
def tabPieces (line : List Char) : List (List Char) × List Char :=
  let parts := line.splitOn '\t'
  (parts.dropLast.map (· ++ ['\t']), parts.getLastD [])

/-- Replaces each tab by a space and the spaces up to the next multiple of eight cells, counting
the cells of each piece of the line up to a tab as a whole. -/
def expandTabs (line : List Char) : List Char :=
  let (pieces, rest) := tabPieces line
  let (out, _) := pieces.foldl (fun (acc : List Char × Nat) piece =>
    let (out, column) := acc
    let piece := piece.dropLast ++ [' ']
    let column := column + cellsOf piece
    let pad := if column % 8 == 0 then 0 else 8 - column % 8
    (out ++ piece ++ List.replicate pad ' ', column + pad)) ([], 0)
  out ++ rest

/-- The lines of a text laid out `width` cells wide. -/
def wrap (text : String) (width : Nat) (justify : Justify) (overflow : Overflow) :
    List (List Char) :=
  (text.splitOn "\n").flatMap fun raw =>
    let line := if raw.toList.contains '\t' then expandTabs raw.toList else raw.toList
    let pieces := (divideAt line (breakPositions line width (overflow == .fold))).map
      (trimOverhang width)
    pieces.map fun p => cutTo width overflow (justifyLine width justify overflow p)

end SecScan.Terminal
