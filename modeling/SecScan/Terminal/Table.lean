import SecScan.Terminal.Wrap
import SecScan.Terminal.Markup
import SecScan.Number.Binary64

/-!
Tables drawn with box characters: a heavy frame around the header and a light one around the
body, one space of padding on each side of every cell, and an optional title centred above.

Each column is measured by its cells: at least its longest word and at most its longest line,
plus padding. A column of fixed width takes that width. When the columns do not fit the width,
the widest wrappable columns are narrowed together, step by step, down towards the next widest;
if that is not enough every column gives up its share. Cells are then wrapped to their column,
words too long for it cut with an ellipsis, and a row is as tall as its tallest cell.
-/

namespace SecScan.Terminal

/-- A column: its header, how its cells are placed, and its width limits. -/
structure Column where
  header : String
  justify : Justify := .left
  /-- A fixed width for the cells' text. -/
  width : Option Nat := none
  /-- The widest the cells' text may be. -/
  maxWidth : Option Nat := none
  deriving Repr, Inhabited

/-- A table: its title, its columns and its rows of cells, all written as markup. -/
structure Table where
  title : Option String := none
  columns : List Column
  rows : List (List String)
  deriving Repr, Inhabited

/-- Whether a character ends a line of text. -/
def isLineBreak (c : Char) : Bool :=
  c == '\n' || c == '\r' || c.toNat == 11 || c.toNat == 12 || c.toNat == 28 || c.toNat == 29 ||
    c.toNat == 30 || c.toNat == 133 || c.toNat == 8232 || c.toNat == 8233

/-- The lines of a text, split at the line boundaries text may hold; a break at the very end
makes no empty last line. -/
def textLines (cs : List Char) : List (List Char) :=
  let pieces := cs.splitOnP isLineBreak
  match pieces.getLast? with
  | some [] => pieces.dropLast
  | _ => pieces

/-- A range of widths: the least a content can take and the most it wants. -/
structure Measure where
  least : Nat
  most : Nat
  deriving Repr, Inhabited, BEq

namespace Measure

/-- Makes the least no more than the most. -/
def normalize (m : Measure) : Measure := ⟨min m.least m.most, max (min m.least m.most) m.most⟩

/-- Caps both ends. -/
def atMost (m : Measure) (w : Nat) : Measure := ⟨min m.least w, min m.most w⟩

/-- Raises both ends. -/
def atLeast (m : Measure) (w : Nat) : Measure := ⟨max m.least w, max m.most w⟩

end Measure

/-- How wide a cell's text is, within `available` cells, padding included. -/
def measureCell (available : Nat) (plain : String) : Measure :=
  if available < 1 then ⟨0, 0⟩
  else if available < 3 then ⟨available, available⟩
  else
    let cs := plain.toList
    let longestLine := ((textLines cs).map cellsOf).foldl max 0
    let longestWord := match Text.blankWords cs with
      | [] => longestLine
      | ws => (ws.map cellsOf).foldl max 0
    let text := (Measure.normalize ⟨longestWord, longestLine⟩).atMost available
    let text := if text.most < 1 then ⟨0, 0⟩ else text.normalize
    let padded := (Measure.mk (text.least + 2) (text.most + 2)).atMost available
    let padded := padded.normalize.atMost available
    if padded.most < 1 then ⟨0, 0⟩ else padded.normalize

/-- How wide a column is, within `available` cells, padding included. -/
def measureColumn (available : Nat) (col : Column) (cells : List String) : Measure :=
  if available < 1 then ⟨0, 0⟩
  else
    match col.width with
    | some w => (Measure.mk (w + 2) (w + 2)).atMost available
    | none =>
      let ms := cells.map (measureCell available)
      let m : Measure := ⟨(ms.map (·.least)).foldl max (if ms.isEmpty then 1 else 0),
        if ms.isEmpty then available else (ms.map (·.most)).foldl max 0⟩
      let m := m.atMost available
      match col.maxWidth with
      | some w => m.atMost (w + 2)
      | none => m

/-- Takes `total` off the values in proportion to the ratios, no value giving more than its
maximum. -/
def ratioReduce (total : Nat) (ratios maximums values : List Nat) : List Nat :=
  let ratios := (ratios.zip maximums).map fun (r, m) => if m == 0 then 0 else r
  let totalRatio := ratios.foldl (· + ·) 0
  if totalRatio == 0 then values
  else
    let (out, _, _) := ((ratios.zip maximums).zip values).foldl
      (fun (acc : List Nat × Nat × Nat) ((ratio, maximum), value) =>
        let (out, remaining, ratioLeft) := acc
        if ratio > 0 && ratioLeft > 0 then
          let share := min maximum (Binary64.roundHalfEven (ratio * remaining) ratioLeft)
          (out ++ [value - share], remaining - share, ratioLeft - ratio)
        else (out ++ [value], remaining, ratioLeft)) ([], total, totalRatio)
    out

/-- Narrows the widest wrappable columns towards the next widest until the widths fit `limit`
or no wrappable column is wider than another. -/
def collapse (fuel : Nat) (widths : List Nat) (wrappable : List Bool) (limit : Nat) : List Nat :=
  match fuel with
  | 0 => widths
  | fuel + 1 =>
    let total := widths.foldl (· + ·) 0
    if total == 0 || total ≤ limit || !wrappable.any id then widths
    else
      let excess := total - limit
      let pairs := widths.zip wrappable
      let widest := (pairs.filterMap fun (w, ok) => if ok then some w else none).foldl max 0
      let next := (pairs.map fun (w, ok) => if ok && w != widest then w else 0).foldl max 0
      let gap := widest - next
      let ratios := pairs.map fun (w, ok) => if ok && w == widest then 1 else 0
      if ratios.all (· == 0) || gap == 0 then widths
      else
        let reduced := ratioReduce excess ratios (widths.map fun _ => min excess gap) widths
        collapse fuel reduced wrappable limit

/-- The widths of the columns, padding included, for a table `available` cells wide without its
borders. -/
def columnWidths (available : Nat) (cols : List Column) (cells : List (List String)) : List Nat :=
  let measures := (cols.zip cells).map fun (c, cs) => measureColumn available c cs
  let widths := measures.map fun m => if m.most == 0 then 1 else m.most
  if widths.foldl (· + ·) 0 > available then
    let widths := collapse (widths.foldl (· + ·) 0 + 1) widths (cols.map (·.width.isNone)) available
    let widths :=
      if widths.foldl (· + ·) 0 > available then
        ratioReduce (widths.foldl (· + ·) 0 - available) (widths.map fun _ => 1) widths widths
      else widths
    ((cols.zip cells).zip widths).map fun ((c, cs), w) => (measureColumn w c cs).most
  else widths

/-- The lines of a cell laid out `width` cells wide, padding included. A cell with less than
one cell of room inside its padding draws nothing at all. -/
def cellLines (width : Nat) (justify : Justify) (plain : String) : List String :=
  if width < 3 then []
  else
    let inner := width - 2
    (wrap plain inner justify .ellipsis).map fun line =>
      " " ++ fitCells inner (String.ofList line) ++ " "

/-- A horizontal rule: the left corner, the bar over each column, the joints and the right
corner. -/
def rule (left bar joint right : Char) (widths : List Nat) : String :=
  String.singleton left ++
    (String.singleton joint).intercalate (widths.map fun w => String.ofList (List.replicate w bar)) ++
    String.singleton right

/-- The lines of a row of cells, joined by a vertical bar. The row is as tall as its tallest
cell, and at least one line; a shorter cell is filled out with blank lines below it, or, in
the header, above it. -/
def rowLines (header : Bool) (bar : String) (widths : List Nat) (cols : List Column)
    (cells : List String) : List String :=
  let rendered := ((cols.zip cells).zip widths).map fun ((c, cell), w) => cellLines w c.justify cell
  let height := (rendered.map List.length).foldl max 1
  let blank (w : Nat) := String.ofList (List.replicate w ' ')
  let shaped := (rendered.zip widths).map fun (ls, w) =>
    let fill := List.replicate (height - ls.length) (blank w)
    if header then fill ++ ls else ls ++ fill
  (List.range height).map fun i =>
    bar ++ bar.intercalate ((shaped.zip widths).map fun (ls, w) => ls.getD i (blank w)) ++ bar

/-- The plain text of every cell, column by column, header first; the first markup refused is
the error. -/
def plainCells (t : Table) : Except MarkupProblem (List (List String)) :=
  t.columns.zipIdx.mapM fun (c, i) =>
    (c.header :: t.rows.map fun r => r.getD i "").mapM plainText

/-- The lines of a table drawn at most `width` cells wide. -/
def Table.render (t : Table) (width : Nat) : Except MarkupProblem (List String) := do
  let cells ← plainCells t
  let border := 2 + (t.columns.length - 1)
  let widths := columnWidths (width - border) t.columns cells
  let tableWidth := widths.foldl (· + ·) 0 + border
  let title ← match t.title with
    | some title => do
      let plain ← plainText title
      pure ((wrap plain tableWidth .center .fold).map String.ofList)
    | none => pure []
  let header := cells.map fun cs => cs.headD ""
  let body := (List.range t.rows.length).map fun i => cells.map fun cs => cs.getD (i + 1) ""
  pure (title ++ [rule '┏' '━' '┳' '┓' widths] ++ rowLines true "┃" widths t.columns header ++
    [rule '┡' '━' '╇' '┩' widths] ++ body.flatMap (rowLines false "│" widths t.columns) ++
    [rule '└' '─' '┴' '┘' widths])

end SecScan.Terminal
