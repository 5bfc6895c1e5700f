import Mathlib
import SecScan.Fix.Apply

/-!
Splitting a text at line feeds and joining lines back. Everything here follows from one
equation: a line feed splits a text into the lines before it and the lines after it
(`splitLines_append_newline`). Joining is then the left inverse of splitting, and splitting a
join gives the lines of every joined piece, so a buffer can be described by a list of entries
that may themselves span several lines.
-/

namespace SecScan.Proofs.LineSplit

open SecScan.Scan SecScan.Fix

/-- A text that holds no line feed. -/
def OneLine (s : String) : Prop := '\n' ∉ s.toList

instance (s : String) : Decidable (OneLine s) := inferInstanceAs (Decidable ('\n' ∉ s.toList))

@[simp] theorem oneLine_append {a b : String} : OneLine (a ++ b) ↔ OneLine a ∧ OneLine b := by
  simp [OneLine, String.toList_append, not_or]

@[simp] theorem oneLine_ofList {chars : List Char} : OneLine (String.ofList chars) ↔ '\n' ∉ chars := by
  simp [OneLine]

theorem oneLine_join {parts : List String} (single : ∀ s ∈ parts, OneLine s) :
    OneLine (String.join parts) := by
  simp only [OneLine, String.toList_join, List.mem_flatMap, not_exists, not_and]
  exact fun s member => single s member

/-- A text none of whose bytes is a line feed is one line: a line feed is encoded as that byte. -/
theorem oneLine_of_bytes {s : String} (noFeed : s.toByteArray.data.toList.contains 10 = false) :
    OneLine s := by
  intro feed
  have encoded : (10 : UInt8) ∈ s.toByteArray.data.toList := by
    rw [← String.utf8Encode_toList, List.utf8Encode, List.toList_data_toByteArray]
    exact List.mem_flatMap.mpr ⟨'\n', feed, by decide⟩
  have present := List.contains_iff_mem.mpr encoded
  rw [noFeed] at present
  cases present

theorem splitLines_ne_nil (s : String) : splitLines s ≠ [] := by
  simp [splitLines, List.splitOn_ne_nil]

theorem splitLines_append_newline (a b : String) :
    splitLines (a ++ "\n" ++ b) = splitLines a ++ splitLines b := by
  have chars : (a ++ "\n" ++ b).toList = a.toList ++ '\n' :: b.toList := by simp
  simp only [splitLines, chars, List.splitOn_append_cons_self, List.map_append]

theorem length_splitOn_newline (chars : List Char) :
    (chars.splitOn '\n').length = chars.count '\n' + 1 := by
  induction chars with
  | nil => simp
  | cons c rest ih =>
    rw [List.splitOn_cons_eq_if_modifyHead]
    split
    · rename_i feed
      rw [beq_iff_eq.mp feed, List.length_cons, ih, List.count_cons_self]
    · rename_i other
      have differs : c ≠ '\n' := fun same => other (beq_iff_eq.mpr same)
      rw [List.length_modifyHead, ih, List.count_cons_of_ne differs]

/-- A text has one line more than it has line feeds. -/
theorem length_splitLines (s : String) : (splitLines s).length = s.toList.count '\n' + 1 := by
  rw [splitLines, List.length_map, length_splitOn_newline]

theorem splitLines_of_oneLine {s : String} (single : OneLine s) : splitLines s = [s] := by
  simp [splitLines, List.splitOn_eq_singleton single]

/-- No piece of a split holds the character split on. -/
theorem not_mem_of_mem_splitOn {chars piece : List Char} (member : piece ∈ chars.splitOn '\n') :
    '\n' ∉ piece := by
  induction chars generalizing piece with
  | nil =>
    simp only [List.splitOn_nil, List.mem_singleton] at member
    simp [member]
  | cons c rest ih =>
    rw [List.splitOn_cons_eq_if_modifyHead] at member
    split at member
    · rcases List.mem_cons.mp member with rfl | later
      · simp
      · exact ih later
    · rename_i notFeed
      obtain ⟨first, others, split⟩ := List.exists_cons_of_ne_nil (List.splitOn_ne_nil '\n' rest)
      rw [split, List.modifyHead_cons] at member
      rcases List.mem_cons.mp member with rfl | later
      · have firstClean := ih (split ▸ List.mem_cons_self)
        simp only [beq_iff_eq] at notFeed
        simp [Ne.symm notFeed, firstClean]
      · exact ih (split ▸ List.mem_cons_of_mem _ later)

theorem oneLine_of_mem_splitLines {s l : String} (member : l ∈ splitLines s) : OneLine l := by
  simp only [splitLines, List.mem_map] at member
  obtain ⟨piece, inSplit, rfl⟩ := member
  simpa [OneLine] using not_mem_of_mem_splitOn inSplit

theorem joinLines_splitLines (s : String) : joinLines (splitLines s) = s := by
  apply String.ext
  simp [joinLines, splitLines, List.map_map]

theorem joinLines_cons_cons (a b : String) (rest : List String) :
    joinLines (a :: b :: rest) = a ++ "\n" ++ joinLines (b :: rest) := by
  simp [joinLines]

theorem splitLines_joinLines {lines : List String} (nonempty : lines ≠ []) :
    splitLines (joinLines lines) = lines.flatMap splitLines := by
  induction lines with
  | nil => exact absurd rfl nonempty
  | cons a rest ih =>
    cases rest with
    | nil => simp [joinLines]
    | cons b rest =>
      rw [joinLines_cons_cons, splitLines_append_newline, ih (List.cons_ne_nil b rest)]
      simp only [List.flatMap_cons]

theorem flatMap_splitLines_of_oneLine {lines : List String} (single : ∀ l ∈ lines, OneLine l) :
    lines.flatMap splitLines = lines := by
  induction lines with
  | nil => rfl
  | cons l rest ih =>
    rw [List.flatMap_cons, splitLines_of_oneLine (single l List.mem_cons_self),
      ih fun m member => single m (List.mem_cons_of_mem _ member)]
    rfl

/-- Joining sees only the lines of the joined pieces. -/
theorem joinLines_flatMap_splitLines (lines : List String) :
    joinLines (lines.flatMap splitLines) = joinLines lines := by
  cases lines with
  | nil => rfl
  | cons l rest =>
    rw [← splitLines_joinLines (List.cons_ne_nil l rest), joinLines_splitLines]

theorem joinLines_eq_of_flatMap {lines other : List String}
    (same : lines.flatMap splitLines = other.flatMap splitLines) :
    joinLines lines = joinLines other := by
  rw [← joinLines_flatMap_splitLines lines, same, joinLines_flatMap_splitLines]

/-- A text that is not one line differs from its first line. -/
theorem head_splitLines_ne {s : String} (several : ¬OneLine s) :
    (splitLines s).headD "" ≠ s := by
  obtain ⟨first, rest, split⟩ := List.exists_cons_of_ne_nil (splitLines_ne_nil s)
  have firstLine : OneLine first := oneLine_of_mem_splitLines (split ▸ List.mem_cons_self)
  rw [split, List.headD_cons]
  intro same
  exact several (same ▸ firstLine)

theorem oneLine_of_mem_flatMap {lines : List String} {l : String}
    (member : l ∈ lines.flatMap splitLines) : OneLine l := by
  obtain ⟨piece, _, inPiece⟩ := List.mem_flatMap.mp member
  exact oneLine_of_mem_splitLines inPiece

@[simp] theorem flatMap_splitLines_splitLines (s : String) :
    (splitLines s).flatMap splitLines = splitLines s :=
  flatMap_splitLines_of_oneLine fun _ member => oneLine_of_mem_splitLines member

/-- Splitting lines that are already split changes nothing. -/
theorem flatMap_splitLines_idem (lines : List String) :
    (lines.flatMap splitLines).flatMap splitLines = lines.flatMap splitLines :=
  flatMap_splitLines_of_oneLine fun _ member => oneLine_of_mem_flatMap member

/-- Setting the item right after a prefix replaces it between the prefix and the rest. -/
theorem set_append_length {α : Type} (front back : List α) (x y : α) :
    (front ++ y :: back).set front.length x = front ++ x :: back := by
  induction front with
  | nil => rfl
  | cons a rest ih => rw [List.cons_append, List.length_cons, List.set_cons_succ, ih]; rfl

/-- Inserting right after a prefix puts the line between the prefix and the rest. -/
theorem insertIdx_append_length {α : Type} (front back : List α) (x : α) :
    (front ++ back).insertIdx front.length x = front ++ x :: back := by
  induction front with
  | nil => exact List.insertIdx_zero
  | cons a rest ih => rw [List.cons_append, List.length_cons, List.insertIdx_succ_cons, ih]; rfl

end SecScan.Proofs.LineSplit
