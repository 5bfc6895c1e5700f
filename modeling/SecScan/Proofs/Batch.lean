import SecScan.Proofs.FixOutcome

/-!
Fixing many findings against one text. The batch visits findings from the last line up, so the
text of a line is only ever changed by findings on that same line, and a marker put above a line
only pushes down lines that are done. The text after any part of the batch is therefore fixed by
the entries done so far: every line of the original text becomes its block, the markers put above
it in order and then its last replacement or the line itself. `Tracks` is that invariant,
`step_tracks` shows that fixing one more finding keeps it, and `foldl_tracks` runs it over a whole
batch sorted by descending line.
-/

namespace SecScan.Proofs.Batch

open SecScan.Scan SecScan.Fix SecScan.Proofs.LineSplit SecScan.Proofs.FixOutcome

/-- A finding and what fixing it produced. -/
abbrev Entry := Finding × FixResult

/-- The markers that entries put above line `k`, in order. -/
def markersOn (entries : List Entry) (k : Int) : List String :=
  (entries.filter fun e => e.1.line == k && e.2.source == some .marker).map
    fun e => e.2.fixedLine.getD ""

/-- What the last entry that rewrote line `k` wrote there. -/
def lastFixOn (entries : List Entry) (k : Int) : Option String :=
  ((entries.filter fun e => e.1.line == k && e.2.success).getLast?).map
    fun e => e.2.fixedLine.getD ""

/-- What stands on line `k` below its markers: its last replacement, or the line as it was. -/
def standing (entries : List Entry) (original : String) (k : Int) : String :=
  (lastFixOn entries k).getD original

/-- What line `k` becomes: its markers, then what stands on it. -/
def block (entries : List Entry) (original : String) (k : Nat) : List String :=
  markersOn entries k ++ [standing entries original k]

/-- The blocks of consecutive lines, the first of them numbered `first`. -/
def blocks (entries : List Entry) (lines : List String) (first : Nat) : List String :=
  (lines.zipIdx first).flatMap fun numbered => block entries numbered.1 numbered.2

/-- The lines of a text after a batch: each line, numbered from 1, replaced by its block. -/
def layout (lines : List String) (entries : List Entry) : List String := blocks entries lines 1

/-- A finding whose type and rule id hold no line feed, so that its marker is one line. -/
def Plain (f : Finding) : Prop := OneLine f.kind ∧ OneLine f.ruleId

section Lines

variable {entries : List Entry} {f : Finding} {r : FixResult} {k : Int}

@[simp] theorem markersOn_append_single :
    markersOn (entries ++ [(f, r)]) k =
      markersOn entries k ++ if f.line = k ∧ r.source = some .marker then [r.fixedLine.getD ""]
        else [] := by
  by_cases hit : f.line = k ∧ r.source = some .marker
  · simp [markersOn, hit]
  · have miss : (f.line == k && r.source == some .marker) = false := by simpa using hit
    simp [markersOn, miss, hit]

@[simp] theorem lastFixOn_append_single :
    lastFixOn (entries ++ [(f, r)]) k =
      if f.line = k ∧ r.success = true then some (r.fixedLine.getD "") else lastFixOn entries k := by
  by_cases hit : f.line = k ∧ r.success = true
  · simp [lastFixOn, hit]
  · have miss : (f.line == k && r.success) = false := by simpa using hit
    simp [lastFixOn, miss, hit]

theorem markersOn_of_absent (absent : ∀ e ∈ entries, e.1.line ≠ k) : markersOn entries k = [] := by
  simp only [markersOn, List.map_eq_nil_iff, List.filter_eq_nil_iff, Bool.and_eq_true, beq_iff_eq,
    not_and]
  exact fun e member same => absurd same (absent e member)

theorem lastFixOn_of_absent (absent : ∀ e ∈ entries, e.1.line ≠ k) : lastFixOn entries k = none := by
  have none : entries.filter (fun e => e.1.line == k && e.2.success) = [] := by
    simp only [List.filter_eq_nil_iff, Bool.and_eq_true, beq_iff_eq, not_and]
    exact fun e member same => absurd same (absent e member)
  simp [lastFixOn, none]

/-- A line's last replacement is the fixed line of a successful entry on that line. -/
theorem mem_of_lastFixOn_eq_some {x : String} (last : lastFixOn entries k = some x) :
    ∃ e ∈ entries, e.1.line = k ∧ e.2.success = true ∧ x = e.2.fixedLine.getD "" := by
  unfold lastFixOn at last
  obtain ⟨e, isLast, rfl⟩ := Option.map_eq_some_iff.mp last
  obtain ⟨member, kept⟩ := List.mem_filter.mp (List.mem_of_getLast? isLast)
  simp only [Bool.and_eq_true, beq_iff_eq] at kept
  exact ⟨e, member, kept.1, kept.2, rfl⟩

/-- Markers and last replacements of a line depend only on the entries on that line. -/
theorem markersOn_congr {other : List Entry}
    (sameLine : entries.filter (·.1.line == k) = other.filter (·.1.line == k)) :
    markersOn entries k = markersOn other k := by
  have split (es : List Entry) : es.filter (fun e => e.1.line == k && e.2.source == some .marker) =
      (es.filter (·.1.line == k)).filter (·.2.source == some .marker) := by
    rw [List.filter_filter]
    congr 1
    funext e
    exact Bool.and_comm _ _
  simp only [markersOn, split, sameLine]

theorem lastFixOn_congr {other : List Entry}
    (sameLine : entries.filter (·.1.line == k) = other.filter (·.1.line == k)) :
    lastFixOn entries k = lastFixOn other k := by
  have split (es : List Entry) : es.filter (fun e => e.1.line == k && e.2.success) =
      (es.filter (·.1.line == k)).filter (·.2.success) := by
    rw [List.filter_filter]
    congr 1
    funext e
    exact Bool.and_comm _ _
  simp only [lastFixOn, split, sameLine]

end Lines

section Blocks

variable {entries other : List Entry}

@[simp] theorem blocks_nil (first : Nat) : blocks entries [] first = [] := rfl

@[simp] theorem blocks_cons (line : String) (lines : List String) (first : Nat) :
    blocks entries (line :: lines) first =
      block entries line first ++ blocks entries lines (first + 1) := by
  simp [blocks, List.zipIdx_cons]

theorem blocks_append (lines more : List String) (first : Nat) :
    blocks entries (lines ++ more) first =
      blocks entries lines first ++ blocks entries more (first + lines.length) := by
  simp [blocks, List.zipIdx_append]

/-- Lines that no entry touches stay as they were. -/
theorem blocks_of_untouched (lines : List String) (first : Nat)
    (untouched : ∀ e ∈ entries, e.1.line < first ∨ first + lines.length ≤ e.1.line) :
    blocks entries lines first = lines := by
  induction lines generalizing first with
  | nil => rfl
  | cons line lines ih =>
    have absent : ∀ e ∈ entries, e.1.line ≠ (first : Int) := fun e member => by
      have := untouched e member
      simp only [List.length_cons] at this
      omega
    have later : ∀ e ∈ entries, e.1.line < ↑(first + 1) ∨ ↑(first + 1 + lines.length) ≤ e.1.line :=
      fun e member => by
        have := untouched e member
        simp only [List.length_cons] at this
        omega
    rw [blocks_cons, ih (first + 1) later]
    simp [block, standing, markersOn_of_absent absent, lastFixOn_of_absent absent]

/-- Blocks agree where the entries on each of their lines agree. -/
theorem blocks_congr (lines : List String) (first : Nat)
    (sameLines : ∀ k : Nat, first ≤ k →
      entries.filter (·.1.line == (k : Int)) = other.filter (·.1.line == (k : Int))) :
    blocks entries lines first = blocks other lines first := by
  induction lines generalizing first with
  | nil => rfl
  | cons line lines ih =>
    rw [blocks_cons, blocks_cons, ih (first + 1) fun k later => sameLines k (by omega)]
    simp only [block, standing, markersOn_congr (sameLines first (Nat.le_refl _)),
      lastFixOn_congr (sameLines first (Nat.le_refl _))]

end Blocks

theorem markerLine_oneLine {f : Finding} {original language : String} (plain : Plain f)
    (single : OneLine original) : OneLine (markerLine f original language) := by
  have indent : '\n' ∉ (Gate.indentOf original).toList := fun member => by
    simp only [Gate.indentOf, String.toList_ofList] at member
    exact single ((List.takeWhile_sublist _).subset member)
  have token : '\n' ∉ (Gate.commentPrefix language f.fileName).toList := by
    unfold Gate.commentPrefix
    split
    · decide
    · split <;> decide
  simp only [OneLine, markerLine, String.toList_append, List.mem_append, not_or]
  exact ⟨⟨⟨⟨⟨⟨indent, token⟩, by decide⟩, plain.1⟩, by decide⟩, plain.2⟩, by decide⟩

/-- The text a batch expects on the line of `f`: its last replacement, or else the line `f` was
found on. -/
def expectedAfter (entries : List Entry) (f : Finding) : Option String :=
  match lastFixOn entries f.line with
  | some x => some x
  | none => f.sourceLine

/-- When fixing `f` after `entries` is refused as stale: its line is not in the text, or the
line it reads is not the text it expects, which is the last replacement of its line when there
is one and else the line it was found on. -/
def StaleAfter (lines : List String) (entries : List Entry) (f : Finding) : Prop :=
  (f.line < 1 ∨ lines.length < f.line) ∨
  (lastFixOn entries f.line = none ∧
    ∃ s, f.sourceLine = some s ∧ s ≠ lines.getD (f.line - 1).toNat "") ∨
  (∃ x, lastFixOn entries f.line = some x ∧ ¬OneLine x)

/-- How a batch in progress stands against the entries done so far, on a text of `lines`: the
buffer is the layout of the entries, the markers and replacements it remembers per line are
theirs, and entries whose line is not in the text changed nothing. -/
structure Tracks (lines : List String) (entries : List Entry) (p : Progress) : Prop where
  current : p.current = joinLines (layout lines entries)
  shift : ∀ k, (p.inserted.lookup k).getD 0 = (markersOn entries k).length
  rewritten : ∀ k, p.rewritten.lookup k = lastFixOn entries k
  markers : ∀ k, ∀ m ∈ markersOn entries k, OneLine m
  outside : ∀ e ∈ entries, (e.1.line < 1 ∨ lines.length < e.1.line) →
    e.2.success = false ∧ e.2.source ≠ some .marker

theorem tracks_start (t : String) : Tracks (splitLines t) [] { current := t } where
  current := by
    rw [layout, blocks_of_untouched _ _ (by simp), joinLines_splitLines]
  shift k := by simp [markersOn]
  rewritten k := by simp [lastFixOn]
  markers k := by simp [markersOn]
  outside := by simp

section Step

variable {t : String} {entries : List Entry} {p : Progress}

/-- The layout seen from line `line`, when every entry is on that line or below: the lines
above as they were, the block of `line`, and the blocks after it. -/
theorem layout_at (lines : List String) {line : Nat} (positive : 1 ≤ line)
    (inside : line ≤ lines.length) (below : ∀ e ∈ entries, (line : Int) ≤ e.1.line) :
    layout lines entries = lines.take (line - 1) ++ block entries (lines.getD (line - 1) "") line ++
      blocks entries (lines.drop line) (line + 1) := by
  have present : line - 1 < lines.length := by omega
  have whole : lines = lines.take (line - 1) ++ lines.getD (line - 1) "" :: lines.drop line := by
    have split := List.take_append_drop (line - 1) lines
    rw [List.drop_eq_getElem_cons present, show line - 1 + 1 = line by omega] at split
    rw [List.getD_eq_getElem?_getD, List.getElem?_eq_getElem present, Option.getD_some]
    exact split.symm
  have above : blocks entries (lines.take (line - 1)) 1 = lines.take (line - 1) :=
    blocks_of_untouched _ _ fun e member => by
      have := below e member
      simp only [List.length_take]
      omega
  have position : 1 + (lines.take (line - 1)).length = line := by
    simp only [List.length_take]
    omega
  conv => lhs; rw [layout, whole, blocks_append, blocks_cons, above, position]
  simp only [List.append_assoc]

/-- The buffer before a finding on line `line`, when every entry so far is on that line or
below: the lines above as they were, the markers put above the line, the lines of what stands
on it, and the rest. -/
theorem current_lines (tracks : Tracks (splitLines t) entries p) {line : Nat} (positive : 1 ≤ line)
    (inside : line ≤ (splitLines t).length) (below : ∀ e ∈ entries, (line : Int) ≤ e.1.line) :
    splitLines p.current =
      (splitLines t).take (line - 1) ++ markersOn entries line ++
        splitLines (standing entries ((splitLines t).getD (line - 1) "") line) ++
        (blocks entries ((splitLines t).drop line) (line + 1)).flatMap splitLines := by
  have lines : ∀ l ∈ (splitLines t).take (line - 1), OneLine l :=
    fun l member => oneLine_of_mem_splitLines (List.mem_of_mem_take member)
  rw [tracks.current, layout_at _ positive inside below, splitLines_joinLines (by simp [block])]
  simp only [block, List.flatMap_append, flatMap_splitLines_of_oneLine lines,
    flatMap_splitLines_of_oneLine (tracks.markers line), List.flatMap_cons, List.flatMap_nil,
    List.append_nil, List.append_assoc]

end Step

section Ready

variable {t : String} {entries : List Entry} {p : Progress} {line : Nat}

theorem inRange_current (tracks : Tracks (splitLines t) entries p) (positive : 1 ≤ line)
    (inside : line ≤ (splitLines t).length) (below : ∀ e ∈ entries, (line : Int) ≤ e.1.line) :
    InRange p.current ((line : Int) - 1 + (markersOn entries line).length) := by
  have stands := splitLines_ne_nil (standing entries ((splitLines t).getD (line - 1) "") line)
  have some := List.length_pos_iff.mpr stands
  unfold InRange
  rw [current_lines tracks positive inside below]
  simp only [List.length_append, List.length_take]
  omega

theorem lineAt_current (tracks : Tracks (splitLines t) entries p) (positive : 1 ≤ line)
    (inside : line ≤ (splitLines t).length) (below : ∀ e ∈ entries, (line : Int) ≤ e.1.line) :
    lineAt p.current ((line : Int) - 1 + (markersOn entries line).length) =
      (splitLines (standing entries ((splitLines t).getD (line - 1) "") line)).headD "" := by
  obtain ⟨first, rest, split⟩ := List.exists_cons_of_ne_nil
    (splitLines_ne_nil (standing entries ((splitLines t).getD (line - 1) "") line))
  have position : ((line : Int) - 1 + (markersOn entries line).length).toNat =
      ((splitLines t).take (line - 1) ++ markersOn entries line).length := by
    simp only [List.length_append, List.length_take]
    omega
  unfold lineAt
  rw [current_lines tracks positive inside below, position, split, List.append_assoc,
    List.append_assoc, List.getD_eq_getElem?_getD, ← List.append_assoc,
    List.getElem?_append_right (Nat.le_refl _), Nat.sub_self]
  rfl

/-- A finding in range is ready exactly when the batch does not find it stale. -/
theorem asExpected_iff (tracks : Tracks (splitLines t) entries p) (positive : 1 ≤ line)
    (inside : line ≤ (splitLines t).length) (below : ∀ e ∈ entries, (line : Int) ≤ e.1.line)
    {f : Finding} (onLine : f.line = line) :
    AsExpected p.current (f.line - 1 + (markersOn entries f.line).length) (expectedAfter entries f) ↔
      ¬StaleAfter (splitLines t) entries f := by
  have present : ¬(f.line < 1 ∨ ((splitLines t).length : Int) < f.line) := by omega
  have index : (f.line - 1).toNat = line - 1 := by omega
  unfold AsExpected StaleAfter expectedAfter
  rw [onLine, lineAt_current tracks positive inside below]
  rw [onLine] at present index
  simp only [present, false_or, index, standing]
  cases last : lastFixOn entries line with
  | some x =>
    simp only [Option.getD_some, Option.some.injEq, forall_eq', reduceCtorEq, false_and, false_or,
      exists_eq_left']
    constructor
    · intro same several
      exact head_splitLines_ne several same.symm
    · intro single
      rw [splitLines_of_oneLine (Decidable.not_not.mp single)]
      rfl
  | none =>
    have member : (splitLines t).getD (line - 1) "" ∈ splitLines t := by
      rw [List.getD_eq_getElem?_getD, List.getElem?_eq_getElem (by omega)]
      exact List.getElem_mem _
    have single : OneLine ((splitLines t).getD (line - 1) "") := oneLine_of_mem_splitLines member
    rw [Option.getD_none, splitLines_of_oneLine single]
    simp

end Ready

section Preserve

variable {t : String} {entries : List Entry} {p : Progress} {f : Finding} {r : FixResult}

/-- A refused fix leaves the text and what the batch remembers per line as they were. -/
theorem tracks_refused {lines : List String} (tracks : Tracks lines entries p)
    (notFixed : r.success = false) (source : r.source ≠ some .marker)
    (done : List (Nat × FixResult × Finding)) :
    Tracks lines (entries ++ [(f, r)]) { p with done := done } where
  current := by
    have same : layout lines (entries ++ [(f, r)]) = layout lines entries := by
      simp [layout, blocks, block, standing, notFixed, source]
    rw [same]
    exact tracks.current
  shift k := by simpa [source] using tracks.shift k
  rewritten k := by simpa [notFixed] using tracks.rewritten k
  markers k m member := by
    simp only [markersOn_append_single, source, and_false, if_false, List.append_nil] at member
    exact tracks.markers k m member
  outside e member out := by
    rcases List.mem_append.mp member with old | new
    · exact tracks.outside e old out
    · simp only [List.mem_singleton] at new
      subst new
      exact ⟨notFixed, source⟩

/-- Entries on line `line` leave the blocks after it alone. -/
theorem blocks_after_line {line : Nat} (onLine : f.line = line) (lines : List String) :
    blocks (entries ++ [(f, r)]) lines (line + 1) = blocks entries lines (line + 1) :=
  blocks_congr lines (line + 1) fun k later => by
    have other : (f.line == (k : Int)) = false := by simp only [beq_eq_false_iff_ne]; omega
    simp [List.filter_append, other]

variable {line : Nat}

theorem tracks_rewritten (tracks : Tracks (splitLines t) entries p) (positive : 1 ≤ line)
    (inside : line ≤ (splitLines t).length) (below : ∀ e ∈ entries, (line : Int) ≤ e.1.line)
    (onLine : f.line = line) {y : String} (success : r.success = true)
    (fixedLine : r.fixedLine = some y) (source : r.source ≠ some .marker)
    (single : OneLine (standing entries ((splitLines t).getD (line - 1) "") line))
    (done : List (Nat × FixResult × Finding)) :
    Tracks (splitLines t) (entries ++ [(f, r)])
      { p with
        current := joinLines ((splitLines p.current).set
                     ((splitLines t).take (line - 1) ++ markersOn entries line).length y)
        done := done
        rewritten := (f.line, r.fixedLine.getD "") :: p.rewritten } where
  current := by
    have below' : ∀ e ∈ entries ++ [(f, r)], (line : Int) ≤ e.1.line := by
      intro e member
      rcases List.mem_append.mp member with old | new
      · exact below e old
      · obtain rfl := List.mem_singleton.mp new
        dsimp only
        omega
    have rest := flatMap_splitLines_idem (blocks entries ((splitLines t).drop line) (line + 1))
    simp only
    rw [current_lines tracks positive inside below, splitLines_of_oneLine single,
      layout_at _ positive inside below', blocks_after_line onLine]
    apply joinLines_eq_of_flatMap
    simp [block, standing, onLine, success, fixedLine, source, rest]
  shift k := by simpa [source] using tracks.shift k
  rewritten k := by
    by_cases same : f.line = k
    · simp [same, success]
    · have other : (k == f.line) = false := beq_eq_false_iff_ne.mpr (Ne.symm same)
      simp [List.lookup_cons, same, success, tracks.rewritten k, other]
  markers k m member := by
    simp only [markersOn_append_single, source, and_false, if_false, List.append_nil] at member
    exact tracks.markers k m member
  outside e member out := by
    rcases List.mem_append.mp member with old | new
    · exact tracks.outside e old out
    · obtain rfl := List.mem_singleton.mp new
      dsimp only at out
      omega

theorem tracks_marked (tracks : Tracks (splitLines t) entries p) (positive : 1 ≤ line)
    (inside : line ≤ (splitLines t).length) (below : ∀ e ∈ entries, (line : Int) ≤ e.1.line)
    (onLine : f.line = line) {marker : String} (notFixed : r.success = false)
    (source : r.source = some .marker) (fixedLine : r.fixedLine = some marker)
    (single : OneLine marker) (done : List (Nat × FixResult × Finding)) :
    Tracks (splitLines t) (entries ++ [(f, r)])
      { p with
        current := joinLines ((splitLines p.current).insertIdx
                     ((splitLines t).take (line - 1) ++ markersOn entries line).length marker)
        done := done
        inserted := (f.line, (markersOn entries f.line).length + 1) :: p.inserted } where
  current := by
    have below' : ∀ e ∈ entries ++ [(f, r)], (line : Int) ≤ e.1.line := by
      intro e member
      rcases List.mem_append.mp member with old | new
      · exact below e old
      · obtain rfl := List.mem_singleton.mp new
        dsimp only
        omega
    have rest := flatMap_splitLines_idem (blocks entries ((splitLines t).drop line) (line + 1))
    have markers := flatMap_splitLines_of_oneLine (tracks.markers line)
    simp only
    rw [current_lines tracks positive inside below, List.append_assoc _ (splitLines _),
      insertIdx_append_length, layout_at _ positive inside below', blocks_after_line onLine]
    apply joinLines_eq_of_flatMap
    simp [block, standing, onLine, notFixed, fixedLine, source, rest, markers,
      splitLines_of_oneLine single]
  shift k := by
    by_cases same : f.line = k
    · simp [same, source]
    · have other : (k == f.line) = false := beq_eq_false_iff_ne.mpr (Ne.symm same)
      simp [List.lookup_cons, same, tracks.shift k, other]
  rewritten k := by simpa [notFixed] using tracks.rewritten k
  markers k m member := by
    simp only [markersOn_append_single, source, and_true, List.mem_append] at member
    rcases member with old | new
    · exact tracks.markers k m old
    · split at new
      · simp only [List.mem_singleton, fixedLine, Option.getD_some] at new
        exact new ▸ single
      · cases new
  outside e member out := by
    rcases List.mem_append.mp member with old | new
    · exact tracks.outside e old out
    · obtain rfl := List.mem_singleton.mp new
      dsimp only at out
      omega

end Preserve

/-- A result that fixing the entry's finding against some text could give. -/
def Made (suggestions : List (String × String)) (e : Entry) : Prop :=
  ∃ text index expected, e.2 = (applyAt e.1 text (suggestions.lookup e.1.id) index expected).1

theorem Made.findingId {suggestions : List (String × String)} {e : Entry}
    (made : Made suggestions e) : e.2.findingId = e.1.id := by
  obtain ⟨text, index, expected, made⟩ := made
  rw [made, applyAt_findingId]

section StepLemma

variable (suggestions : List (String × String)) {t : String} {entries : List Entry} {p : Progress}
  {f : Finding}

/-- A finding whose line is not in the text finds no markers above its line and an index outside
the buffer, since every entry done so far is on its line or below. -/
theorem missing_of_outside (tracks : Tracks (splitLines t) entries p)
    (descending : ∀ e ∈ entries, f.line ≤ e.1.line)
    (outside : f.line < 1 ∨ ((splitLines t).length : Int) < f.line) :
    markersOn entries f.line = [] ∧
      ¬InRange p.current (f.line - 1 + ((markersOn entries f.line).length : Int)) := by
  have noMarkers : markersOn entries f.line = [] := by
    simp only [markersOn, List.map_eq_nil_iff, List.filter_eq_nil_iff, Bool.and_eq_true,
      beq_iff_eq, not_and]
    intro e member same
    have gone := tracks.outside e member (same ▸ outside)
    simpa using gone.2
  refine ⟨noMarkers, ?_⟩
  rw [noMarkers, List.length_nil]
  unfold InRange
  rcases outside with before | after
  · omega
  · -- every entry lies past the end, so the buffer is the text itself
    have untouched : blocks entries (splitLines t) 1 = splitLines t :=
      blocks_of_untouched _ _ fun e member => by
        have := descending e member
        omega
    have same : splitLines p.current = splitLines t := by
      rw [tracks.current, layout, untouched, joinLines_splitLines]
    rw [same]
    omega

/-- What stands on a line that a batch finds ready is one line. -/
theorem standing_oneLine {line : Nat} (positive : 1 ≤ line) (inside : line ≤ (splitLines t).length)
    (onLine : f.line = line) (ready : ¬StaleAfter (splitLines t) entries f) :
    OneLine (standing entries ((splitLines t).getD (line - 1) "") line) := by
  unfold StaleAfter at ready
  rw [onLine] at ready
  unfold standing
  cases last : lastFixOn entries line with
  | some x =>
    have single := fun several => ready (.inr (.inr ⟨x, last, several⟩))
    exact Decidable.not_not.mp single
  | none =>
    have member : (splitLines t).getD (line - 1) "" ∈ splitLines t := by
      rw [List.getD_eq_getElem?_getD, List.getElem?_eq_getElem (by omega)]
      exact List.getElem_mem _
    exact oneLine_of_mem_splitLines member

/-- Fixing one more finding, on a line no lower than those done so far, keeps `Tracks`, and its
result is stale exactly when `StaleAfter` says so. -/
theorem step_tracks (k : Nat) (tracks : Tracks (splitLines t) entries p) (plain : Plain f)
    (descending : ∀ e ∈ entries, f.line ≤ e.1.line) :
    ∃ r : FixResult,
      (p.step suggestions (f, k)).done.map (fun d => (d.1, d.2.1)) =
        p.done.map (fun d => (d.1, d.2.1)) ++ [(k, r)] ∧
      Made suggestions (f, r) ∧
      Tracks (splitLines t) (entries ++ [(f, r)]) (p.step suggestions (f, k)) ∧
      (r.stale = true ↔ StaleAfter (splitLines t) entries f) := by
  have expectedEq : expectedAfter entries f = (match lastFixOn entries f.line with
      | some t => some t
      | none => f.sourceLine) := rfl
  unfold Progress.step
  dsimp only
  rw [tracks.shift f.line, tracks.rewritten f.line]
  generalize resultEq : applyAt f p.current (suggestions.lookup f.id)
      (f.line - 1 + ((markersOn entries f.line).length : Int)) (match lastFixOn entries f.line with
      | some t => some t
      | none => f.sourceLine) = result
  rw [← expectedEq] at resultEq
  obtain ⟨r, f'⟩ := result
  dsimp only
  -- everything known of the fix comes from the inversion lemmas
  have outcome := applyAt_outcome f p.current (suggestions.lookup f.id)
    (f.line - 1 + ((markersOn entries f.line).length : Int)) (expectedAfter entries f)
  have staleIff := applyAt_stale_iff f p.current (suggestions.lookup f.id)
    (f.line - 1 + ((markersOn entries f.line).length : Int)) (expectedAfter entries f)
  have ready := applyAt_ready f p.current (suggestions.lookup f.id)
    (f.line - 1 + ((markersOn entries f.line).length : Int)) (expectedAfter entries f)
  have made : Made suggestions (f, r) := ⟨p.current,
    f.line - 1 + ((markersOn entries f.line).length : Int), expectedAfter entries f,
    by rw [resultEq]⟩
  rw [resultEq] at outcome staleIff ready
  dsimp only at outcome staleIff ready
  refine ⟨r, ?_, made, ?_, ?_⟩
  · split
    · simp
    · split <;> simp
  · by_cases range : f.line < 1 ∨ ((splitLines t).length : Int) < f.line
    · -- a finding off the text changes nothing
      have missing := (missing_of_outside tracks descending range).2
      cases outcome with
      | rewritten success => exact absurd (ready (.inl success)).1 missing
      | marked _ source => exact absurd (ready (.inr source)).1 missing
      | refused notFixed source =>
        rw [if_neg (by simp [notFixed]), if_neg (by simpa using source)]
        exact tracks_refused tracks notFixed source _
    · obtain ⟨line, onLine⟩ : ∃ line : Nat, f.line = line := ⟨f.line.toNat, by omega⟩
      have positive : 1 ≤ line := by omega
      have inside : line ≤ (splitLines t).length := by omega
      have below : ∀ e ∈ entries, (line : Int) ≤ e.1.line := fun e member =>
        onLine ▸ descending e member
      have index : (f.line - 1 + ((markersOn entries f.line).length : Int)).toNat =
          ((splitLines t).take (line - 1) ++ markersOn entries line).length := by
        rw [onLine]
        simp only [List.length_append, List.length_take]
        omega
      cases outcome with
      | rewritten success sourceIs proposal fixedLine code =>
        have single := standing_oneLine positive inside onLine
          ((asExpected_iff tracks positive inside below onLine).mp (ready (.inl success)).2)
        rw [if_pos success, code, index]
        exact tracks_rewritten tracks positive inside below onLine success fixedLine
          (Outcome.rewritten_ne_marker sourceIs proposal) single _
      | marked notFixed source fixedLine code =>
        rw [if_neg (by simp [notFixed]), if_pos (by simp [source]), code, index]
        exact tracks_marked tracks positive inside below onLine notFixed source fixedLine
          (markerLine_oneLine plain (oneLine_lineAt _ _)) _
      | refused notFixed source =>
        rw [if_neg (by simp [notFixed]), if_neg (by simpa using source)]
        exact tracks_refused tracks notFixed source _
  · rw [staleIff]
    by_cases range : f.line < 1 ∨ ((splitLines t).length : Int) < f.line
    · simp [StaleAfter, range, (missing_of_outside tracks descending range).2]
    · obtain ⟨line, onLine⟩ : ∃ line : Nat, f.line = line := ⟨f.line.toNat, by omega⟩
      have positive : 1 ≤ line := by omega
      have inside : line ≤ (splitLines t).length := by omega
      have below : ∀ e ∈ entries, (line : Int) ≤ e.1.line := fun e member =>
        onLine ▸ descending e member
      have present := inRange_current tracks positive inside below
      rw [← onLine] at present
      have key := asExpected_iff tracks positive inside below onLine
      simp only [present, not_true, false_or]
      exact ⟨fun unready => Classical.byContradiction fun fresh => unready (key.mpr fresh),
        fun stale expected => key.mp expected stale⟩

end StepLemma

/-- Each added entry, done after `before` and the added entries ahead of it, is stale exactly
when `StaleAfter` says so. -/
def StaleFaithful (lines : List String) : List Entry → List Entry → Prop
  | _, [] => True
  | before, e :: rest =>
    (e.2.stale = true ↔ StaleAfter lines before e.1) ∧ StaleFaithful lines (before ++ [e]) rest

theorem staleFaithful_getElem {lines : List String} :
    ∀ {before added : List Entry}, StaleFaithful lines before added →
      ∀ j (h : j < added.length),
        (added[j].2.stale = true ↔ StaleAfter lines (before ++ added.take j) added[j].1)
  | _, [], _, j, h => absurd h (Nat.not_lt_zero j)
  | before, e :: rest, ⟨first, later⟩, j, h => by
    cases j with
    | zero => simpa using first
    | succ j =>
      have step := staleFaithful_getElem later j (by simpa using h)
      simpa [List.append_assoc] using step

section Run

variable (suggestions : List (String × String)) {t : String}

/-- Running a batch over findings sorted by descending line keeps `Tracks`: the entries added
are the findings in order with their results, each result is one that fixing its finding can
give, and each is stale
exactly when `StaleAfter` says so. -/
theorem foldl_tracks (order : List (Finding × Nat)) :
    ∀ (entries : List Entry) (p : Progress), Tracks (splitLines t) entries p →
      (∀ g ∈ order, Plain g.1) →
      order.Pairwise (fun a b => b.1.line ≤ a.1.line) →
      (∀ e ∈ entries, ∀ g ∈ order, g.1.line ≤ e.1.line) →
      ∃ added : List Entry, added.map Prod.fst = order.map Prod.fst ∧
        (order.foldl (Progress.step suggestions) p).done.map (fun d => (d.1, d.2.1)) =
          p.done.map (fun d => (d.1, d.2.1)) ++ (order.map Prod.snd).zip (added.map Prod.snd) ∧
        (∀ e ∈ added, Made suggestions e) ∧
        Tracks (splitLines t) (entries ++ added) (order.foldl (Progress.step suggestions) p) ∧
        StaleFaithful (splitLines t) entries added := by
  induction order with
  | nil =>
    intro entries p tracks _ _ _
    exact ⟨[], rfl, by simp, by simp, by simpa using tracks, trivial⟩
  | cons g rest ih =>
    intro entries p tracks plain sorted below
    obtain ⟨f, k⟩ := g
    have descending : ∀ e ∈ entries, f.line ≤ e.1.line := fun e member =>
      below e member (f, k) List.mem_cons_self
    obtain ⟨r, doneEq, made, tracks', staleIff⟩ :=
      step_tracks suggestions k tracks (plain (f, k) List.mem_cons_self) descending
    have restBelow : ∀ e ∈ entries ++ [(f, r)], ∀ g ∈ rest, g.1.line ≤ e.1.line := by
      intro e member g later
      rcases List.mem_append.mp member with old | new
      · exact below e old g (List.mem_cons_of_mem _ later)
      · obtain rfl := List.mem_singleton.mp new
        exact (List.pairwise_cons.mp sorted).1 g later
    obtain ⟨added, firsts, doneRest, madeRest, tracksRest, faithful⟩ :=
      ih (entries ++ [(f, r)]) (p.step suggestions (f, k)) tracks'
        (fun g later => plain g (List.mem_cons_of_mem _ later))
        (List.pairwise_cons.mp sorted).2 restBelow
    refine ⟨(f, r) :: added, by simp [firsts], ?_, ?_, by simpa using tracksRest, staleIff, faithful⟩
    · rw [List.foldl_cons, doneRest, doneEq]
      simp
    · intro e member
      rcases List.mem_cons.mp member with rfl | later
      · exact made
      · exact madeRest e later

end Run

end SecScan.Proofs.Batch
