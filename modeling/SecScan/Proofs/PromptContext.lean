import Mathlib
import SecScan.Analysis.Reply

/-!
The code a prompt shows around a finding. `codeContext lines line radius` is meant to be the
lines numbered `line - radius` through `line + radius`, clipped to the text: the lines whose
number, counting from 1, lies in that window (`window`). It is exactly that whenever the window
ends at line 0 or later (`codeContext_lines`).

The window's end is used as a slice end, and a negative slice end counts back from the last
line. A window that ends before line 0, as one around a finding with a negative line does,
therefore gives the first lines of the text instead of none: with five lines, line -1 and
radius 0 give the first four (`context_before_text`).
-/

namespace SecScan.Proofs.PromptContext

open SecScan.Analysis

/-- The lines whose number, counting from 1, lies within `radius` of `line`, in order. -/
def window (lines : List String) (line radius : Int) : List String :=
  ((lines.zipIdx 1).filter fun p => line - radius ≤ p.2 ∧ (p.2 : Int) ≤ line + radius).map (·.1)

/-- The items numbered from `lo` to `hi`, when numbering starts at `s`, are a drop and a take. -/
theorem filter_zipIdx_between {α : Type} (l : List α) (s : Nat) (lo hi : Int) :
    ((l.zipIdx s).filter fun p => lo ≤ p.2 ∧ (p.2 : Int) ≤ hi).map (·.1) =
      (l.drop (lo - s).toNat).take ((hi + 1 - s).toNat - (lo - s).toNat) := by
  induction l generalizing s with
  | nil => simp
  | cons x l ih =>
    rw [List.zipIdx_cons]
    by_cases inside : lo ≤ s ∧ (s : Int) ≤ hi
    · have start : (lo - s).toNat = 0 := by omega
      have stop : (hi + 1 - s).toNat = (hi + 1 - (s + 1 : Nat)).toNat + 1 := by omega
      have start' : (lo - (s + 1 : Nat)).toNat = 0 := by omega
      rw [List.filter_cons_of_pos (by simpa using inside), List.map_cons, ih, start, start', stop]
      rfl
    · rw [List.filter_cons_of_neg (by simpa using inside), ih]
      -- the first item lies either before the window, which shifts the drop, or after it
      by_cases before : (s : Int) < lo
      · have start : (lo - s).toNat = (lo - (s + 1 : Nat)).toNat + 1 := by omega
        rw [start, List.drop_succ_cons]
        congr 1
        omega
      · have stop : (hi + 1 - s).toNat = 0 := by omega
        have stop' : (hi + 1 - (s + 1 : Nat)).toNat = 0 := by omega
        rw [stop, stop', Nat.zero_sub, Nat.zero_sub, List.take_zero, List.take_zero]

/-- Clipping both ends of a drop and take to the length of the list changes nothing. -/
theorem drop_take_clip {α : Type} (l : List α) (a b : Nat) :
    (l.drop (min l.length a)).take (min l.length b - min l.length a) = (l.drop a).take (b - a) := by
  by_cases inside : a ≤ l.length
  · rw [Nat.min_eq_right inside, List.take_eq_take_iff, List.length_drop]
    omega
  · rw [List.drop_of_length_le (by omega), List.drop_of_length_le (by omega), List.take_nil,
      List.take_nil]

/-- A slice whose ends are not negative takes the lines from the first end up to the second. -/
theorem sliceLines_of_nonneg (lines : List String) {start stop : Int} (fromStart : 0 ≤ start)
    (toStop : 0 ≤ stop) :
    sliceLines lines start stop = (lines.drop start.toNat).take (stop.toNat - start.toNat) := by
  have clip : ∀ k : Int, 0 ≤ k →
      (max 0 (min (lines.length : Int) (if k < 0 then k + lines.length else k))).toNat =
        min lines.length k.toNat := by
    intro k nonneg
    rw [if_neg (by omega)]
    omega
  unfold sliceLines
  dsimp only
  rw [clip start fromStart, clip stop toStop, drop_take_clip]

/-- A slice from the first line to a negative end stops that many lines before the last. -/
theorem sliceLines_of_neg (lines : List String) {stop : Int} (back : stop < 0) :
    sliceLines lines 0 stop = lines.take (lines.length + stop).toNat := by
  unfold sliceLines
  dsimp only
  rw [if_pos back, if_neg (Int.lt_irrefl 0)]
  have first : (max 0 (min (lines.length : Int) 0)).toNat = 0 := by omega
  have last : (max 0 (min (lines.length : Int) (stop + lines.length))).toNat =
      (lines.length + stop).toNat := by omega
  rw [first, last, List.drop_zero, Nat.sub_zero]

/-- The context around a line is the window of lines within the radius when the window ends at
line 0 or later; a window that ends before line 0 gives every line but the last
`-(line + radius)` instead. -/
theorem codeContext_lines (lines : List String) (line radius : Int) (spread : 0 ≤ radius) :
    codeContext lines line radius = "\n".intercalate
      (if 0 ≤ line + radius then window lines line radius
       else lines.take (lines.length + line + radius).toNat) := by
  unfold codeContext
  split
  · rename_i reach
    rw [sliceLines_of_nonneg lines (Int.le_max_left 0 _) (by omega), window,
      filter_zipIdx_between]
    have first : (max 0 (line - 1 - radius)).toNat = (line - radius - (1 : Nat)).toNat := by omega
    rw [first]
    -- the slice's end is clipped to the text, the window's is not
    congr 1
    rw [List.take_eq_take_iff, List.length_drop]
    omega
  · rename_i below
    have first : max 0 (line - 1 - radius) = 0 := by omega
    have last : min (lines.length : Int) (line + radius) = line + radius := by omega
    rw [first, last, sliceLines_of_neg lines (by omega), Int.add_assoc]

example : codeContext ["l1", "l2", "l3", "l4", "l5", "l6", "l7"] 4 3 =
    "l1\nl2\nl3\nl4\nl5\nl6\nl7" := by decide

/-- Around line -1 of five lines, with radius 0, the context holds the first four lines. -/
theorem context_wraps_around :
    (0 : Int) ≤ 0 ∧ codeContext ["a", "b", "c", "d", "e"] (-1) 0 = "\n".intercalate
      (if (0 : Int) ≤ -1 + 0 then window ["a", "b", "c", "d", "e"] (-1) 0
       else ["a", "b", "c", "d", "e"].take (5 + -1 + 0 : Int).toNat) :=
  ⟨Int.le_refl 0, codeContext_lines ["a", "b", "c", "d", "e"] (-1) 0 (Int.le_refl 0)⟩

/-- Around line -1 of five lines, with radius 0, the context is not the window of lines within
the radius: the window holds no line, the context the first four. -/
theorem context_before_text :
    codeContext ["a", "b", "c", "d", "e"] (-1) 0 ≠
      "\n".intercalate (window ["a", "b", "c", "d", "e"] (-1) 0) := by
  decide

end SecScan.Proofs.PromptContext
