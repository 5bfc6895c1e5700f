import Std.Data.HashMap
import SecScan.Number.Binary64

/-!
Matching two sequences by their longest common blocks. The longest block of equal elements is
found first (the earliest in the first sequence, then in the second, among the longest), and the
parts before and after it are matched the same way. In a second sequence of two hundred or more
elements, an element occurring in more than one percent of it (plus one) is too common to start
a block, though a block found without it may still grow over it. The blocks describe how to turn
one sequence into the other: runs kept, replaced, deleted or inserted. A similarity ratio of
twice the matched elements over the total length ranks close matches of words.
-/

namespace SecScan.Diff

/-- Two sequences prepared for matching: where each usable element occurs in the second. -/
structure Matcher (α : Type) [BEq α] [Hashable α] where
  a : Array α
  b : Array α
  /-- The positions of each element in the second sequence, ascending; too common elements are
  left out. -/
  positions : Std.HashMap α (Array Nat)

variable {α : Type} [BEq α] [Hashable α]

/-- Prepares two sequences for matching. -/
def Matcher.make (a b : Array α) : Matcher α :=
  let all := b.zipIdx.foldl (fun (m : Std.HashMap α (Array Nat)) (x, j) =>
    m.insert x ((m.getD x #[]).push j)) {}
  let positions :=
    if b.size ≥ 200 then
      let limit := b.size / 100 + 1
      all.fold (fun (m : Std.HashMap α (Array Nat)) x js => if js.size > limit then m.erase x else m) all
    else all
  { a := a, b := b, positions := positions }

/-- A block of `size` equal elements at `i` in the first sequence and `j` in the second. -/
structure Block where
  i : Nat
  j : Nat
  size : Nat
  deriving Repr, Inhabited, BEq

namespace Matcher

/-- Grows a block backwards while the elements before it are equal. -/
def growBack (m : Matcher α) (alo blo : Nat) : Nat → Block → Block
  | 0, blk => blk
  | fuel + 1, blk =>
    if blk.i > alo && blk.j > blo && m.a[blk.i - 1]? == m.b[blk.j - 1]? then
      growBack m alo blo fuel ⟨blk.i - 1, blk.j - 1, blk.size + 1⟩
    else blk

/-- Grows a block forwards while the elements after it are equal. -/
def growFront (m : Matcher α) (ahi bhi : Nat) : Nat → Block → Block
  | 0, blk => blk
  | fuel + 1, blk =>
    if blk.i + blk.size < ahi && blk.j + blk.size < bhi &&
        m.a[blk.i + blk.size]? == m.b[blk.j + blk.size]? then
      growFront m ahi bhi fuel { blk with size := blk.size + 1 }
    else blk

/-- The longest block of equal elements within `a[alo:ahi]` and `b[blo:bhi]`: among the longest
that start with a usable element the earliest, grown over equal neighbours. -/
def longestMatch (m : Matcher α) (alo ahi blo bhi : Nat) : Block :=
  let step (acc : Block × Std.HashMap Nat Nat) (i : Nat) : Block × Std.HashMap Nat Nat :=
    let (best, runs) := acc
    let js := match m.a[i]? with
      | some x => (m.positions.getD x #[]).filter fun j => blo ≤ j && j < bhi
      | none => #[]
    js.foldl (fun (acc : Block × Std.HashMap Nat Nat) j =>
      let (best, fresh) := acc
      let k := (if j == 0 then 0 else runs.getD (j - 1) 0) + 1
      let fresh := fresh.insert j k
      if k > best.size then (⟨i + 1 - k, j + 1 - k, k⟩, fresh) else (best, fresh)) (best, {})
  let (best, _) := (List.range' alo (ahi - alo)).foldl step (⟨alo, blo, 0⟩, {})
  let best := m.growBack alo blo (ahi + bhi) best
  m.growFront ahi bhi (ahi + bhi) best

/-- The blocks of equal elements within `a[alo:ahi]` and `b[blo:bhi]`, in no particular order. -/
def blocksWithin (m : Matcher α) : Nat → Nat → Nat → Nat → Nat → List Block
  | 0, _, _, _, _ => []
  | fuel + 1, alo, ahi, blo, bhi =>
    let blk := m.longestMatch alo ahi blo bhi
    if blk.size == 0 then []
    else
      let before := if alo < blk.i && blo < blk.j then m.blocksWithin fuel alo blk.i blo blk.j else []
      let after :=
        if blk.i + blk.size < ahi && blk.j + blk.size < bhi then
          m.blocksWithin fuel (blk.i + blk.size) ahi (blk.j + blk.size) bhi
        else []
      before ++ [blk] ++ after

/-- Joins blocks that continue one another. -/
def joinAdjacent (blocks : List Block) : List Block :=
  let (done, last) := blocks.foldl (fun (acc : List Block × Block) blk =>
    let (done, cur) := acc
    if cur.i + cur.size == blk.i && cur.j + cur.size == blk.j then (done, { cur with size := cur.size + blk.size })
    else ((if cur.size > 0 then done ++ [cur] else done), blk)) ([], ⟨0, 0, 0⟩)
  if last.size > 0 then done ++ [last] else done

/-- The matching blocks in order, ending with an empty block at the ends of both sequences. -/
def matchingBlocks (m : Matcher α) : List Block :=
  let blocks := m.blocksWithin (m.a.size + m.b.size + 1) 0 m.a.size 0 m.b.size
  let sorted := blocks.mergeSort fun x y => x.i < y.i || (x.i == y.i && x.j ≤ y.j)
  joinAdjacent sorted ++ [⟨m.a.size, m.b.size, 0⟩]

end Matcher

/-- What a run of the first sequence becomes in the second. -/
inductive Tag where
  | equal
  | replace
  | delete
  | insert
  deriving DecidableEq, Repr, Inhabited

/-- A run `a[i1:i2]` that becomes `b[j1:j2]`. -/
structure Opcode where
  tag : Tag
  i1 : Nat
  i2 : Nat
  j1 : Nat
  j2 : Nat
  deriving Repr, Inhabited, BEq

/-- How to turn the first sequence into the second. -/
def Matcher.opcodes (m : Matcher α) : List Opcode :=
  let (out, _, _) := m.matchingBlocks.foldl (fun (acc : List Opcode × Nat × Nat) blk =>
    let (out, i, j) := acc
    let change : List Opcode :=
      if i < blk.i && j < blk.j then [⟨.replace, i, blk.i, j, blk.j⟩]
      else if i < blk.i then [⟨.delete, i, blk.i, j, blk.j⟩]
      else if j < blk.j then [⟨.insert, i, blk.i, j, blk.j⟩]
      else []
    let same : List Opcode :=
      if blk.size > 0 then [⟨.equal, blk.i, blk.i + blk.size, blk.j, blk.j + blk.size⟩] else []
    (out ++ change ++ same, blk.i + blk.size, blk.j + blk.size)) ([], 0, 0)
  out

/-- The changes grouped with up to `n` kept elements of context around them; long kept runs
separate groups. -/
def Matcher.groupedOpcodes (m : Matcher α) (n : Nat) : List (List Opcode) :=
  let codes : List Opcode := match m.opcodes with
    | [] => [⟨.equal, 0, 1, 0, 1⟩]
    | cs => cs
  let codes : List Opcode := match codes with
    | c :: rest =>
      if c.tag == .equal then { c with i1 := max c.i1 (c.i2 - n), j1 := max c.j1 (c.j2 - n) } :: rest
      else c :: rest
    | [] => []
  let codes : List Opcode := match codes.getLast? with
    | some c =>
      if c.tag == .equal then codes.dropLast ++ [{ c with i2 := min c.i2 (c.i1 + n), j2 := min c.j2 (c.j1 + n) }]
      else codes
    | none => codes
  let (groups, current) := codes.foldl (fun (acc : List (List Opcode) × List Opcode) c =>
    let (groups, current) := acc
    if c.tag == .equal && c.i2 - c.i1 > 2 * n then
      let closing := { c with i2 := min c.i2 (c.i1 + n), j2 := min c.j2 (c.j1 + n) }
      (groups ++ [current ++ [closing]],
        [{ c with i1 := max c.i1 (c.i2 - n), j1 := max c.j1 (c.j2 - n) }])
    else (groups, current ++ [c])) ([], [])
  match current with
  | [c] => if c.tag == .equal then groups else groups ++ [current]
  | [] => groups
  | _ => groups ++ [current]

/-- How many elements the two sequences have in common. -/
def Matcher.matched (m : Matcher α) : Nat := (m.matchingBlocks.map (·.size)).foldl (· + ·) 0

/-- Up to `n` of the candidates most similar to `word`, the most similar first, among those
whose similarity ratio reaches `cutoff`; equally similar candidates come in reverse order. -/
def closeMatches (word : String) (candidates : List String) (n : Nat := 3)
    (cutoff : Binary64 := Binary64.ofDecimal false 6 (-1)) : List String :=
  let scored := candidates.filterMap fun c =>
    let m := @Matcher.make Char _ instHashableChar c.toList.toArray word.toList.toArray
    let total := c.length + word.length
    let ratio := if total == 0 then Binary64.ofInt 1 else Binary64.ofRatio false (2 * m.matched) total
    if cutoff.le ratio then some (ratio, c) else none
  let sorted := scored.mergeSort fun x y => y.1.lt x.1 || (x.1 == y.1 && y.2 ≤ x.2)
  (sorted.take n).map (·.2)

end SecScan.Diff
