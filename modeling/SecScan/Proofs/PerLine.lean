import SecScan.Proofs.Batch
import SecScan.Proofs.Detect
import SecScan.Proofs.FixLine

/-!
Fixing a batch of findings is fixing each line on its own. A batch works from the last line up
and reports in input order. The run lemma `foldl_tracks` describes the batch in the order it
works in; two facts about stable sorting carry that over to input order: the findings of one
line keep their input order when the batch sorts by line, and sorting the results back by
position puts every result in its finding's slot.

So the fixed text is the layout of the findings paired with their results in input order
(`applyAll_eq_layout`), and a result is stale exactly when the findings before it on its line
leave its line gone or changed (`applyAll_stale_iff`).
-/

namespace SecScan.Proofs.PerLine

open SecScan.Scan SecScan.Fix SecScan.Proofs.LineSplit SecScan.Proofs.FixOutcome
  SecScan.Proofs.Batch

section Sorting

variable {α : Type}

/-- A stable sort keeps in their order the elements it may not reorder among themselves. -/
theorem filter_mergeSort_of_related (le : α → α → Bool)
    (trans : ∀ a b c, le a b → le b c → le a c) (total : ∀ a b, le a b || le b a)
    (p : α → Bool) (l : List α) (related : ∀ a ∈ l, ∀ b ∈ l, p a → p b → le a b) :
    (l.mergeSort le).filter p = l.filter p := by
  have sorted : (l.filter p).Pairwise fun a b => le a b :=
    List.pairwise_of_forall_mem_list fun a memA b memB => by
      rw [List.mem_filter] at memA memB
      exact related a memA.1 b memB.1 memA.2 memB.2
  have kept : List.Sublist (l.filter p) (l.mergeSort le) :=
    List.sublist_mergeSort trans total sorted (List.filter_sublist)
  have idem : (l.filter p).filter p = l.filter p :=
    List.filter_eq_self.mpr fun a member => (List.mem_filter.mp member).2
  have keptFiltered : List.Sublist (l.filter p) ((l.mergeSort le).filter p) := idem ▸ kept.filter p
  have sameLength : ((l.mergeSort le).filter p).length = (l.filter p).length :=
    ((List.mergeSort_perm l le).filter p).length_eq
  exact (keptFiltered.eq_of_length sameLength.symm).symm

/-- Numbered elements taken in any order and sorted by number come back in their order. -/
theorem mergeSort_position_eq_zipIdx {xs : List α} {l : List (α × Nat)}
    (perm : List.Perm l xs.zipIdx) :
    l.mergeSort (fun a b => a.2 ≤ b.2) = xs.zipIdx := by
  -- one number names one element
  have antisymm : ∀ a b, a ∈ l.mergeSort (fun a b => a.2 ≤ b.2) → b ∈ xs.zipIdx →
      a.2 ≤ b.2 → b.2 ≤ a.2 → a = b := by
    intro a b memA memB below above
    have memA' : a ∈ xs.zipIdx := perm.subset (List.mem_mergeSort.mp memA)
    rw [List.mem_zipIdx_iff_getElem?] at memA' memB
    have samePosition : a.2 = b.2 := Nat.le_antisymm below above
    rw [samePosition, memB] at memA'
    exact Prod.ext (Option.some.inj memA').symm samePosition
  have sorted : (l.mergeSort fun a b => a.2 ≤ b.2).Pairwise fun a b => decide (a.2 ≤ b.2) :=
    List.pairwise_mergeSort (fun a b c ab bc => by simp only [decide_eq_true_eq] at *; omega)
      (fun a b => by simp only [Bool.or_eq_true, decide_eq_true_eq]; omega) l
  have increasing : (xs.zipIdx.map Prod.snd).Pairwise (· < ·) := by
    rw [List.zipIdx_map_snd]
    exact List.pairwise_lt_range'
  have ordered : xs.zipIdx.Pairwise fun a b => a.2 ≤ b.2 :=
    (List.pairwise_map.mp increasing).imp Nat.le_of_lt
  exact List.Perm.eq_of_pairwise antisymm (sorted.imp of_decide_eq_true) ordered
    ((List.mergeSort_perm l _).trans perm)

/-- In a list without repeats, what comes before an element is fixed by the element. -/
theorem prefix_eq_of_nodup {front back front' back' : List α} {x : α}
    (nodup : (front ++ x :: back).Nodup) (same : front ++ x :: back = front' ++ x :: back') :
    front = front' := by
  have first : (front ++ x :: back)[front.length]? = some x := by simp
  have second : (front ++ x :: back)[front'.length]? = some x := by rw [same]; simp
  have lengths : front.length = front'.length :=
    (List.getElem?_inj (by simp) nodup).mp (first.trans second.symm)
  calc front = (front ++ x :: back).take front.length := (List.take_left' rfl).symm
    _ = (front' ++ x :: back').take front'.length := by rw [same, lengths]
    _ = front' := List.take_left' rfl

/-- Filtering splits a list at an element it keeps. -/
theorem filter_eq_take_cons {p : α → Bool} {l : List α} {j : Nat} (inside : j < l.length)
    (keeps : p l[j]) :
    l.filter p = (l.take j).filter p ++ l[j] :: (l.drop (j + 1)).filter p := by
  conv => lhs; rw [← List.take_append_drop j l, List.drop_eq_getElem_cons inside]
  rw [List.filter_append, List.filter_cons_of_pos keeps]

end Sorting

/-- A finding with its position in the batch and its result. -/
abbrev Numbered := (Finding × Nat) × FixResult

/-- The finding and result of a numbered entry. -/
def entryOf (z : Numbered) : Entry := (z.1.1, z.2)

/-- Whether a numbered entry is on line `k`. -/
def onLine (k : Int) (z : Numbered) : Bool := z.1.1.line == k

/-- Numbered entries sorted back by position. -/
def byPosition (Z : List Numbered) : List Numbered := Z.mergeSort fun a b => a.1.2 ≤ b.1.2

theorem filter_map_entryOf (Z : List Numbered) (k : Int) :
    (Z.map entryOf).filter (·.1.line == k) = (Z.filter (onLine k)).map entryOf := by
  rw [List.filter_map]
  rfl

theorem staleAfter_congr {lines : List String} {entries other : List Entry} {f : Finding}
    (sameLine : entries.filter (·.1.line == f.line) = other.filter (·.1.line == f.line)) :
    StaleAfter lines entries f ↔ StaleAfter lines other f := by
  unfold StaleAfter
  rw [lastFixOn_congr sameLine]

section Positions

variable {F : List Finding} {Z : List Numbered}

/-- The numbered findings of one line are in order of position. -/
theorem pairwise_zipIdx_onLine (k : Int) :
    (F.zipIdx.filter (·.1.line == k)).Pairwise fun a b => a.2 < b.2 := by
  have increasing : (F.zipIdx.map Prod.snd).Pairwise (· < ·) := by
    rw [List.zipIdx_map_snd]
    exact List.pairwise_lt_range'
  exact (List.pairwise_map.mp increasing).filter _

/-- Entries whose findings of line `k` come in input order are in order of position there. -/
theorem pairwise_onLine {k : Int}
    (inOrder : (Z.map Prod.fst).filter (·.1.line == k) = F.zipIdx.filter (·.1.line == k)) :
    (Z.filter (onLine k)).Pairwise fun a b => a.1.2 < b.1.2 := by
  have numbered : (Z.filter (onLine k)).map Prod.fst = F.zipIdx.filter (·.1.line == k) := by
    rw [← inOrder, List.filter_map]
    rfl
  have sorted := pairwise_zipIdx_onLine (F := F) k
  rw [← numbered, List.pairwise_map] at sorted
  exact sorted

theorem map_fst_byPosition (perm : List.Perm (Z.map Prod.fst) F.zipIdx) :
    (byPosition Z).map Prod.fst = F.zipIdx := by
  unfold byPosition
  rw [List.map_mergeSort (r := fun a b : Numbered => decide (a.1.2 ≤ b.1.2))
    (s := fun a b : Finding × Nat => decide (a.2 ≤ b.2)) (f := Prod.fst) (fun _ _ _ _ => rfl)]
  exact mergeSort_position_eq_zipIdx perm

/-- Sorting back by position leaves the entries of each line as the run had them. -/
theorem filter_byPosition (perm : List.Perm (Z.map Prod.fst) F.zipIdx) {k : Int}
    (inOrder : (Z.map Prod.fst).filter (·.1.line == k) = F.zipIdx.filter (·.1.line == k)) :
    (byPosition Z).filter (onLine k) = Z.filter (onLine k) := by
  have sortedInOrder :
      ((byPosition Z).map Prod.fst).filter (·.1.line == k) = F.zipIdx.filter (·.1.line == k) := by
    rw [map_fst_byPosition perm]
  have increasing : ∀ a b, a ∈ (byPosition Z).filter (onLine k) → b ∈ Z.filter (onLine k) →
      a.1.2 < b.1.2 → b.1.2 < a.1.2 → a = b := by
    intro a b _ _ below above
    exact absurd (Nat.lt_trans below above) (Nat.lt_irrefl _)
  exact List.Perm.eq_of_pairwise increasing (pairwise_onLine sortedInOrder)
    (pairwise_onLine inOrder) ((List.mergeSort_perm Z _).filter _)

end Positions

section Batch

variable (F : List Finding) (t : String) (S : List (String × String))

/-- A batch seen through its run: each finding with its position and result, in the order the
batch worked, with the findings of each line in input order. -/
theorem applyAll_run (plain : ∀ f ∈ F, Plain f) :
    ∃ Z : List Numbered,
      List.Perm (Z.map Prod.fst) F.zipIdx ∧
      (∀ k : Int, (Z.map Prod.fst).filter (·.1.line == k) = F.zipIdx.filter (·.1.line == k)) ∧
      (applyAll F t S).1.results = (byPosition Z).map Prod.snd ∧
      (applyAll F t S).1.fixedCode = joinLines (layout (splitLines t) (Z.map entryOf)) ∧
      (∀ e ∈ Z.map entryOf, Made S e) ∧
      (∀ e ∈ Z.map entryOf, (e.1.line < 1 ∨ (splitLines t).length < e.1.line) →
        e.2.success = false ∧ e.2.source ≠ some .marker) ∧
      StaleFaithful (splitLines t) [] (Z.map entryOf) := by
  -- the batch works by descending line, a stable sort of the numbered findings
  let down : Finding × Nat → Finding × Nat → Bool := fun a b => b.1.line ≤ a.1.line
  have downTrans : ∀ a b c, down a b → down b c → down a c := by
    intro a b c ab bc
    simp only [down, decide_eq_true_eq] at *
    omega
  have downTotal : ∀ a b, down a b || down b a := by
    intro a b
    simp only [down, Bool.or_eq_true, decide_eq_true_eq]
    omega
  let order := F.zipIdx.mergeSort down
  have orderPerm : List.Perm order F.zipIdx := List.mergeSort_perm _ _
  have orderPlain : ∀ g ∈ order, Plain g.1 := by
    intro g member
    obtain ⟨inside, isAt⟩ := List.mem_zipIdx' (orderPerm.subset member)
    exact isAt ▸ plain _ (List.getElem_mem inside)
  have orderSorted : order.Pairwise fun a b => b.1.line ≤ a.1.line :=
    (List.pairwise_mergeSort downTrans downTotal _).imp of_decide_eq_true
  have sameLines : ∀ k : Int, order.filter (·.1.line == k) = F.zipIdx.filter (·.1.line == k) := by
    intro k
    apply filter_mergeSort_of_related down downTrans downTotal
    intro a _ b _ onA onB
    simp only [beq_iff_eq] at onA onB
    simp [down, onA, onB]
  obtain ⟨added, firsts, doneEq, made, tracks, faithful⟩ :=
    foldl_tracks S order [] { current := t } (tracks_start t) orderPlain orderSorted (by simp)
  -- pair each numbered finding with its result
  let Z := order.zip (added.map Prod.snd)
  have lengths : (added.map Prod.snd).length = order.length := by
    simpa using congrArg List.length firsts
  have numbered : Z.map Prod.fst = order := List.map_fst_zip (Nat.le_of_eq lengths.symm)
  have addedEq : added = Z.map entryOf := by
    calc added = (added.map Prod.fst).zip (added.map Prod.snd) := by
          rw [← List.unzip_fst, ← List.unzip_snd, List.zip_unzip]
      _ = Z.map entryOf := by rw [firsts, List.zip_map_left]; rfl
  have doneZ : ((order.foldl (Progress.step S) { current := t }).done.map
      fun d => (d.1, d.2.1)) = Z.map fun z => (z.1.2, z.2) := by
    rw [doneEq, List.zip_map_left]
    rfl
  refine ⟨Z, numbered ▸ orderPerm, numbered ▸ sameLines, ?_, ?_, addedEq ▸ made, ?_,
    addedEq ▸ faithful⟩
  · -- results, sorted back by position
    show ((order.foldl (Progress.step S) { current := t }).done.mergeSort
      fun a b => a.1 ≤ b.1).map (·.2.1) = _
    have through := List.map_mergeSort (l := (order.foldl (Progress.step S) { current := t }).done)
      (r := fun a b => decide (a.1 ≤ b.1)) (s := fun a b => decide (a.1 ≤ b.1))
      (f := fun d => (d.1, d.2.1)) (fun _ _ _ _ => rfl)
    have back := List.map_mergeSort (l := Z) (r := fun a b => decide (a.1.2 ≤ b.1.2))
      (s := fun a b => decide (a.1 ≤ b.1)) (f := fun z => (z.1.2, z.2)) (fun _ _ _ _ => rfl)
    calc _ = (((order.foldl (Progress.step S) { current := t }).done.mergeSort
            fun a b => a.1 ≤ b.1).map fun d => (d.1, d.2.1)).map Prod.snd := by
          rw [List.map_map]
          rfl
      _ = ((byPosition Z).map fun z => (z.1.2, z.2)).map Prod.snd := by
          rw [through, doneZ, ← back]
          rfl
      _ = (byPosition Z).map Prod.snd := by
          rw [List.map_map]
          rfl
  · show (order.foldl (Progress.step S) { current := t }).current = _
    rw [tracks.current, List.nil_append, addedEq]
  · intro e member outside
    rw [← addedEq] at member
    exact tracks.outside e (by simpa using member) outside

/-- The findings and results of a batch in input order, as the run's entries sorted back. -/
theorem zip_results_eq {Z : List Numbered} (perm : List.Perm (Z.map Prod.fst) F.zipIdx)
    (results : (applyAll F t S).1.results = (byPosition Z).map Prod.snd) :
    F = (byPosition Z).map (·.1.1) ∧ F.zip (applyAll F t S).1.results = (byPosition Z).map entryOf := by
  have findings : F = (byPosition Z).map (·.1.1) := by
    calc F = F.zipIdx.map Prod.fst := (List.zipIdx_map_fst 0 F).symm
      _ = ((byPosition Z).map Prod.fst).map Prod.fst := by rw [map_fst_byPosition perm]
      _ = (byPosition Z).map (·.1.1) := by rw [List.map_map]; rfl
  refine ⟨findings, ?_⟩
  rw [results]
  conv => lhs; rw [findings]
  rw [List.zip_map']
  rfl

theorem applyAll_results_length (plain : ∀ f ∈ F, Plain f) :
    (applyAll F t S).1.results.length = F.length := by
  obtain ⟨Z, perm, -, results, -⟩ := applyAll_run F t S plain
  obtain ⟨findings, -⟩ := zip_results_eq F t S perm results
  rw [results, findings, List.length_map, List.length_map]

/-- Each finding of a batch, with its result, is a fix of that finding. -/
theorem made_of_mem_zip (plain : ∀ f ∈ F, Plain f) :
    ∀ e ∈ F.zip (applyAll F t S).1.results, Made S e := by
  obtain ⟨Z, perm, -, results, -, made, -⟩ := applyAll_run F t S plain
  obtain ⟨-, zipped⟩ := zip_results_eq F t S perm results
  intro e member
  rw [zipped] at member
  exact made e (((List.mergeSort_perm Z _).map entryOf).subset member)

/-- A result of a batch is stale exactly when its line is gone, or when it no longer reads as
the findings before it on that line left it. -/
theorem applyAll_stale_iff (plain : ∀ f ∈ F, Plain f) (i : Nat) (inside : i < F.length) :
    ∃ r, (applyAll F t S).1.results[i]? = some r ∧
      (r.stale = true ↔
        StaleAfter (splitLines t) ((F.zip (applyAll F t S).1.results).take i) F[i]) := by
  obtain ⟨Z, perm, inOrder, results, -, -, -, faithful⟩ := applyAll_run F t S plain
  obtain ⟨findings, zipped⟩ := zip_results_eq F t S perm results
  have sorted : i < (byPosition Z).length := by
    have same := congrArg List.length findings
    simp only [List.length_map] at same
    omega
  -- the entry in slot `i`, and where the run met it
  obtain ⟨j, inRun, metAt⟩ := List.getElem_of_mem
    ((List.mergeSort_perm Z _).subset (List.getElem_mem sorted))
  have isF : ((byPosition Z)[i]).1.1 = F[i] := by
    simp only [findings, List.getElem_map]
  refine ⟨((byPosition Z)[i]).2,
    by rw [results, List.getElem?_map, List.getElem?_eq_getElem sorted]; rfl, ?_⟩
  have atJ := staleFaithful_getElem faithful j (by simpa using inRun)
  simp only [List.getElem_map, List.nil_append, metAt, entryOf, isF] at atJ
  rw [atJ]
  -- the entries before it on its line are the same in the run and in input order
  apply staleAfter_congr
  rw [zipped, ← List.map_take, ← List.map_take, filter_map_entryOf, filter_map_entryOf]
  congr 1
  have keeps : onLine F[i].line (byPosition Z)[i] = true := by simp [onLine, isF]
  have inRunSplit := filter_eq_take_cons inRun (p := onLine F[i].line) (by rw [metAt]; exact keeps)
  have sortedSplit := filter_eq_take_cons sorted (p := onLine F[i].line) keeps
  rw [metAt] at inRunSplit
  rw [← filter_byPosition perm (inOrder F[i].line), sortedSplit] at inRunSplit
  have nodup : ((byPosition Z).filter (onLine F[i].line)).Nodup := by
    have ordered := pairwise_onLine (Z := byPosition Z) (F := F) (k := F[i].line)
      (by rw [map_fst_byPosition perm])
    exact ordered.imp fun below same => by rw [same] at below; exact Nat.lt_irrefl _ below
  rw [sortedSplit] at nodup
  exact (prefix_eq_of_nodup nodup inRunSplit).symm

end Batch

section Scan

open SecScan.Proofs.Detect SecScan.Proofs.FixLine

/-- A batch of a scan's own findings, with no suggestions, never finds a line stale: each line
is where the scan saw it, markers above it are counted, and rule fixes keep it one line. -/
theorem detect_batch_not_stale (text language fileName : String) :
    ∀ r ∈ (applyAll (detect text language fileName) text []).1.results, r.stale = false := by
  have plain : ∀ f ∈ detect text language fileName, Plain f := by
    intro f member
    obtain ⟨_, _, _, _, _, kind, ruleId⟩ := detect_finding member
    exact ⟨kind, ruleId⟩
  intro r member
  obtain ⟨i, found⟩ := List.mem_iff_getElem?.mp member
  have inside : i < (detect text language fileName).length := by
    rw [← applyAll_results_length _ text [] plain]
    exact (List.getElem?_eq_some_iff.mp found).1
  obtain ⟨r', found', staleIff⟩ := applyAll_stale_iff _ text [] plain i inside
  obtain rfl : r = r' := Option.some.inj (found.symm.trans found')
  obtain ⟨j, lineInside, onLine, scanned, -, -, -⟩ := detect_finding (List.getElem_mem inside)
  cases stale : r.stale with
  | false => rfl
  | true =>
    exfalso
    rcases staleIff.mp stale with outside | ⟨-, s, source, differs⟩ | ⟨x, last, several⟩
    · -- the finding's line is in the text
      rw [onLine] at outside
      omega
    · -- the line reads as scanned
      rw [scanned] at source
      cases source
      have index : ((detect text language fileName)[i].line - 1).toNat = j := by
        rw [onLine]
        omega
      rw [index, List.getD_eq_getElem?_getD, List.getElem?_eq_getElem lineInside,
        Option.getD_some] at differs
      exact differs rfl
    · -- an earlier fix on the line wrote the rule's fix, which is one line
      obtain ⟨e, earlier, -, success, rfl⟩ := mem_of_lastFixOn_eq_some last
      have zipped := List.mem_of_mem_take earlier
      obtain ⟨c, index, expected, isFix⟩ :=
        made_of_mem_zip _ text [] plain e zipped
      obtain ⟨-, -, -, -, unsuggested, -, -⟩ := detect_finding (List.of_mem_zip zipped).1
      have noSuggestion : (List.lookup e.1.id ([] : List (String × String)) <|>
          e.1.suggestedFix) = none := by
        rw [unsuggested]
        rfl
      rw [isFix] at success several
      obtain ⟨line, fixedLine, single⟩ := applyAt_fixedLine_oneLine noSuggestion success
      rw [fixedLine] at several
      exact several single

end Scan

end SecScan.Proofs.PerLine
