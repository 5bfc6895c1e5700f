import SecScan.Diff.Matcher

/-!
Unified diffs between two texts taken line by line. Lines keep their line ends, so a last line
without one stays without one in the diff. The diff opens with the two file names and shows each
group of changes as a hunk: a header with the line ranges, then kept lines with a space, removed
lines with `-` and added lines with `+`, with three kept lines of context around the changes.
-/

namespace SecScan.Diff

/-- Whether a character ends a line: line feed, carriage return, vertical tab, form feed, the
file, group and record separators, next line, and the line and paragraph separators. -/
def isLineEnd (c : Char) : Bool :=
  c == '\n' || c == '\r' || c.toNat == 11 || c.toNat == 12 || c.toNat == 28 || c.toNat == 29 ||
    c.toNat == 30 || c.toNat == 133 || c.toNat == 8232 || c.toNat == 8233

/-- The lines of a list of characters with their line ends, after the lines `done` (latest
first) and the start `current` (reversed) of the line being read. -/
def linesFrom : List Char → List Char → List String → List String
  | [], current, done =>
    (if current.isEmpty then done else String.ofList current.reverse :: done).reverse
  | '\r' :: '\n' :: rest, current, done =>
    linesFrom rest [] (String.ofList ('\n' :: '\r' :: current).reverse :: done)
  | c :: rest, current, done =>
    if isLineEnd c then linesFrom rest [] (String.ofList (c :: current).reverse :: done)
    else linesFrom rest (c :: current) done

/-- The lines of a text with their line ends; a carriage return and line feed end one line
together. -/
def linesWithEnds (s : String) : List String := linesFrom s.toList [] []

/-- A hunk range: the first line, counting from 1, and the number of lines unless it is one. An
empty range starts at the line before it. -/
def hunkRange (start stop : Nat) : String :=
  let length := stop - start
  if length == 1 then toString (start + 1)
  else if length == 0 then toString start ++ ",0"
  else toString (start + 1) ++ "," ++ toString length

/-- The lines of the unified diff turning `a` into `b`, each with its own line end. -/
def unifiedDiff (a b : List String) (fromFile toFile : String) (context : Nat := 3) : List String :=
  let av := a.toArray
  let bv := b.toArray
  let groups := (Matcher.make av bv).groupedOpcodes context
  let slice (xs : Array String) (lo hi : Nat) : List String := ((xs.toList.drop lo).take (hi - lo))
  let hunks := groups.flatMap fun group =>
    match group.head?, group.getLast? with
    | some first, some last =>
      ("@@ -" ++ hunkRange first.i1 last.i2 ++ " +" ++ hunkRange first.j1 last.j2 ++ " @@\n") ::
        group.flatMap fun op =>
          match op.tag with
          | .equal => (slice av op.i1 op.i2).map (" " ++ ·)
          | .delete => (slice av op.i1 op.i2).map ("-" ++ ·)
          | .insert => (slice bv op.j1 op.j2).map ("+" ++ ·)
          | .replace => (slice av op.i1 op.i2).map ("-" ++ ·) ++ (slice bv op.j1 op.j2).map ("+" ++ ·)
    | _, _ => []
  if groups.isEmpty then []
  else ("--- " ++ fromFile ++ "\n") :: ("+++ " ++ toFile ++ "\n") :: hunks

end SecScan.Diff
