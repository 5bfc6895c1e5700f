import SecScan.Terminal.Table

/-!
A console of fixed width that prints markup as plain text. Printed markup loses its tags, is cut
into lines at its line feeds, and each line is laid out by words within the width, a word too
long for a line chopped across lines; every printed line ends in a line feed. A table is drawn
within the width the same way. Markup that closes a tag never opened is refused, with the reason.
-/

namespace SecScan.Terminal

/-- The width of the console, in cells. -/
def consoleWidth : Nat := 80

/-- The text printing markup writes on a console `width` cells wide. -/
def printed (width : Nat) (markup : String) : Except MarkupProblem String := do
  let plain ← plainText markup
  pure (String.join ((wrap plain width .none .fold).map fun l => String.ofList l ++ "\n"))

/-- The text printing a table writes on a console `width` cells wide; a line wider than the
console, as a table too narrow for its own borders draws, is cut to it. -/
def printedTable (width : Nat) (t : Table) : Except MarkupProblem String := do
  let lines ← t.render width
  let cut (l : String) : String := if cellLen l > width then fitCells width l else l
  pure (String.join (lines.map fun l => cut l ++ "\n"))

end SecScan.Terminal
