/-!
Sorted tables over code points. A set of characters is a sorted array of disjoint closed
intervals; a case mapping is a sorted array of runs, each run a stretch of code points that all
move by the same distance. Both are searched by halving the table.
-/

namespace SecScan.Text

/-- A run of a case mapping: every `step`-th code point from `first` to `last` maps to itself
moved by `shift`. -/
structure CaseRun where
  first : Nat
  last : Nat
  step : Nat
  shift : Int

/-- The image of a code point under a run, if the run covers it. -/
def CaseRun.image? (run : CaseRun) (code : Nat) : Option Nat :=
  if run.first ≤ code ∧ code ≤ run.last ∧ (code - run.first) % run.step = 0 then
    some (Int.toNat (code + run.shift))
  else
    none

namespace Ranges

/-- The last entry of a table sorted by `key` whose key is at most `n`. -/
def lastAtMost {α : Type} (key : α → Nat) (table : Array α) (n : Nat) : Option α :=
  go 0 table.size none
where
  /-- Searches the slots from `lo` up to, not including, `hi`; `best` is the last hit so far. -/
  go (lo hi : Nat) (best : Option α) : Option α :=
    if lo < hi then
      match table[(lo + hi) / 2]? with
      | some entry =>
        if key entry ≤ n then go ((lo + hi) / 2 + 1) hi (some entry)
        else go lo ((lo + hi) / 2) best
      | none => best
    else
      best
  termination_by hi - lo
  decreasing_by all_goals omega

/-- Whether `n` lies in one of the sorted, disjoint closed intervals. -/
def contains (table : Array (Nat × Nat)) (n : Nat) : Bool :=
  match lastAtMost Prod.fst table n with
  | some (_, last) => n ≤ last
  | none => false

/-- The image of `n` under a case mapping given by runs; a code point that no run covers maps
to itself. -/
def mapCode (runs : Array CaseRun) (n : Nat) : Nat :=
  match lastAtMost CaseRun.first runs n with
  | some run => (run.image? n).getD n
  | none => n

end Ranges

end SecScan.Text
