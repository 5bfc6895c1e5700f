import SecScan.Regex.Match

/-!
Replacing every match of a pattern, left to right. Matches do not overlap: the search goes on
where the last match stopped, and after an empty match the next match at the same position must
consume text, so an empty match is never reported twice. A replacement is written by a function
of the match; a template of literal text and group references is the common case, and a group
that did not take part in the match contributes nothing.
-/

namespace SecScan.Regex

/-- A piece of a replacement template. -/
inductive Piece where
  | text (s : String)
  /-- The text of a group; group zero is the whole match. -/
  | group (index : Nat)

namespace Subject

/-- The text of a group of a match, empty if the group did not take part. -/
def groupText (t : Subject) (m : Match) (index : Nat) : String :=
  match m.span? index with
  | some (start, stop) => t.slice start stop
  | none => ""

/-- The text of a group, or `none` if it did not take part. -/
def group? (t : Subject) (m : Match) (index : Nat) : Option String :=
  (m.span? index).map fun span => t.slice span.1 span.2

/-- Writes a template for a match. -/
def render (t : Subject) (m : Match) (pieces : List Piece) : String :=
  String.join <| pieces.map fun
    | .text s => s
    | .group index => t.groupText m index

end Subject

/-- The state of a sweep: text before `cursor` is written, and `emptyAt` is where an empty match
just ended. -/
structure Sweep where
  cursor : Nat := 0
  emptyAt : Option Nat := none
  written : String := ""

namespace Sweep

/-- Writes the text up to a match and its replacement. -/
def emit (t : Subject) (render : Match → String) (sweep : Sweep) (m : Match) : Sweep :=
  { cursor := m.stop
    emptyAt := if m.start = m.stop then some m.stop else none
    written := sweep.written ++ t.slice sweep.cursor m.start ++ render m }

/-- Looks for matches starting at position `p`. -/
def visit (t : Subject) (r : Regex) (render : Match → String) (sweep : Sweep) (p : Nat) : Sweep :=
  if p < sweep.cursor then sweep
  else
    let nonEmpty := sweep.emptyAt == some p
    match matchAt t r p nonEmpty with
    | none => sweep
    | some m =>
      let next := sweep.emit t render m
      if m.stop = p then
        match matchAt t r p true with
        | some longer => next.emit t render longer
        | none => next
      else next

end Sweep

/-- Replaces every match of `r` by `render` of it. -/
def replaceAll (t : Subject) (r : Regex) (render : Match → String) : String :=
  let done := (List.range (t.chars.size + 1)).foldl (Sweep.visit t r render) {}
  done.written ++ t.slice done.cursor t.chars.size

namespace Pattern

/-- Replaces every match in a text by a template. -/
def replace (p : Pattern) (s : String) (template : List Piece) : String :=
  let t := Subject.ofText p s
  replaceAll t p.regex fun m => t.render m template

end Pattern

end SecScan.Regex
