import SecScan.Proofs.FixOutcome

/-!
Where the results of a batch come from. Each step of a batch fixes one finding against the text
as it then stands, and records the result and the finding it left under the finding's position;
sorting by position afterwards puts every pair in its finding's slot, whatever order the batch
worked in (`applyAll_slot`). A fix whose finding is offered no suggestion, neither by the batch
nor of its own, is the rule's fix, the rule's fix refused by the gate, a review marker, or a
stale failure (`applyAt_unsuggested`).
-/

namespace SecScan.Proofs.FixSource

open SecScan.Fix SecScan.Proofs.FixOutcome

/-- A result and the finding it left are one fix of `f`, against some text, at some index, with
the suggestion the batch holds for `f`'s id. -/
def Fixes (suggestions : List (String × String)) (f : Finding) (out : FixResult × Finding) : Prop :=
  ∃ text index expected, out = applyAt f text (suggestions.lookup f.id) index expected

section Steps

variable (suggestions : List (String × String))

/-- One step of a batch records one fix of its finding, under the finding's position. -/
theorem step_done (p : Progress) (f : Finding) (k : Nat) :
    ∃ out, Fixes suggestions f out ∧ (p.step suggestions (f, k)).done = p.done ++ [(k, out)] := by
  -- the step fixes `f` at its line shifted by the markers above it, expecting the line as an
  -- earlier fix in the batch left it, or else as scanned
  let index : Int := f.line - 1 + ((p.inserted.lookup f.line).getD 0 : Nat)
  cases rewritten : p.rewritten.lookup f.line with
  | none =>
    refine ⟨_, ⟨p.current, index, f.sourceLine, rfl⟩, ?_⟩
    simp only [Progress.step, rewritten, apply_ite Progress.done, ite_self]
    rfl
  | some line =>
    refine ⟨_, ⟨p.current, index, some line, rfl⟩, ?_⟩
    simp only [Progress.step, rewritten, apply_ite Progress.done, ite_self]
    rfl

/-- Running steps over findings with positions records, for each in turn, one fix of it under
its position. -/
theorem foldl_step_done (order : List (Finding × Nat)) (p : Progress) :
    ∃ added : List (Nat × FixResult × Finding),
      (order.foldl (Progress.step suggestions) p).done = p.done ++ added ∧
      added.map Prod.fst = order.map Prod.snd ∧
      ∀ d ∈ added, ∃ g ∈ order, d.1 = g.2 ∧ Fixes suggestions g.1 d.2 := by
  induction order generalizing p with
  | nil => exact ⟨[], by simp, rfl, by simp⟩
  | cons g rest ih =>
    obtain ⟨f, k⟩ := g
    obtain ⟨out, fixes, stepped⟩ := step_done suggestions p f k
    obtain ⟨added, done, positions, each⟩ := ih (p.step suggestions (f, k))
    refine ⟨(k, out) :: added, ?_, by simp [positions], ?_⟩
    · rw [List.foldl_cons, done, stepped, List.append_assoc]
      rfl
    · intro d member
      rcases List.mem_cons.mp member with rfl | later
      · exact ⟨(f, k), List.mem_cons_self, rfl, fixes⟩
      · obtain ⟨g, inRest, position, fixesG⟩ := each d later
        exact ⟨g, List.mem_cons_of_mem _ inRest, position, fixesG⟩

end Steps

/-- Positions that are a reordering of `0, …, n - 1`, sorted, are `0, …, n - 1`. -/
theorem mergeSort_eq_range {positions : List Nat} {n : Nat}
    (reordered : List.Perm positions (List.range n)) :
    positions.mergeSort (fun a b => a ≤ b) = List.range n := by
  have sorted : (positions.mergeSort fun a b => a ≤ b).Pairwise (· ≤ ·) := by
    have result : (positions.mergeSort fun a b => decide (a ≤ b)).Pairwise
        (fun a b => decide (a ≤ b)) :=
      List.pairwise_mergeSort (by intros; simp_all; omega) (by intros; simp_all; omega) positions
    simpa only [decide_eq_true_eq] using result
  exact List.Perm.eq_of_pairwise (fun _ _ _ _ => Nat.le_antisymm) sorted List.pairwise_le_range
    ((List.mergeSort_perm positions _).trans reordered)

section Batch

variable (F : List Finding) (t : String) (S : List (String × String))

/-- Entries recorded, in some order, under the positions of `F`, each a fix of the finding at
its position: sorted by position, the entry in slot `i` is a fix of `F[i]`. -/
theorem sorted_slots (order : List (Finding × Nat)) (orderPerm : List.Perm order F.zipIdx)
    (added : List (Nat × FixResult × Finding)) (positions : added.map Prod.fst = order.map Prod.snd)
    (each : ∀ d ∈ added, ∃ g ∈ order, d.1 = g.2 ∧ Fixes S g.1 d.2) :
    (added.mergeSort fun a b => a.1 ≤ b.1).length = F.length ∧
    ∀ i (inside : i < F.length) (inSorted : i < (added.mergeSort fun a b => a.1 ≤ b.1).length),
      Fixes S F[i] (added.mergeSort fun a b => a.1 ≤ b.1)[i].2 := by
  have reordered : List.Perm (added.map Prod.fst) (List.range F.length) := by
    rw [positions, List.range_eq_range', ← List.zipIdx_map_snd]
    exact orderPerm.map Prod.snd
  -- sorting by position lays the positions out as `0, …, n - 1`
  have slots : (added.mergeSort fun a b => a.1 ≤ b.1).map Prod.fst = List.range F.length := by
    rw [List.map_mergeSort (s := fun a b : Nat => decide (a ≤ b)) (fun _ _ _ _ => rfl)]
    exact mergeSort_eq_range reordered
  refine ⟨by simpa using congrArg List.length slots, fun i inside inSorted => ?_⟩
  have position : (added.mergeSort fun a b => a.1 ≤ b.1)[i].1 = i := by
    have atSlot := congrArg (·[i]?) slots
    simp only [List.getElem?_map, List.getElem?_eq_getElem inSorted,
      List.getElem?_range inside, Option.map_some, Option.some.injEq] at atSlot
    exact atSlot
  -- the entry in slot `i` was recorded under position `i`, so for the finding at `i`
  obtain ⟨g, inOrder, atPosition, fixes⟩ :=
    each _ ((List.mergeSort_perm added _).subset (List.getElem_mem inSorted))
  obtain ⟨_, isF⟩ := List.mem_zipIdx' (orderPerm.subset (show (g.1, g.2) ∈ order from inOrder))
  have finding : g.1 = F[i] := by
    rw [isF]
    congr 1
    omega
  rw [← finding]
  exact fixes

/-- Every slot of a batch holds one fix of the finding in that slot: its result and the finding
as the fix left it. -/
theorem applyAll_slot :
    (applyAll F t S).1.results.length = F.length ∧ (applyAll F t S).2.length = F.length ∧
    ∀ i (inside : i < F.length) (inResults : i < (applyAll F t S).1.results.length)
      (inFindings : i < (applyAll F t S).2.length),
      Fixes S F[i] ((applyAll F t S).1.results[i], (applyAll F t S).2[i]) := by
  unfold applyAll
  generalize orderDef : F.zipIdx.mergeSort (fun a b => decide (b.1.line ≤ a.1.line)) = order
  have orderPerm : List.Perm order F.zipIdx := orderDef ▸ List.mergeSort_perm _ _
  obtain ⟨added, done, positions, each⟩ := foldl_step_done S order { current := t }
  obtain ⟨sortedLength, slot⟩ := sorted_slots F S order orderPerm added positions each
  simp only [done, List.nil_append]
  refine ⟨by simp [sortedLength], by simp [sortedLength], fun i inside inResults _ => ?_⟩
  simp only [List.getElem_map]
  exact slot i inside (by simpa using inResults)

end Batch

section Unsuggested

variable {f : Finding} {text : String} {suggested : Option String} {index : Int}
  {expected : Option String}

/-- A proposed line keeps its source, whether the gate passes it or not. -/
theorem propose_source (lines : List String) (i : Nat) (original proposed : String)
    (source : FixSource) (predicates : List Rule) (explanation : String) (confidence : Int) :
    (propose f text lines i original proposed source predicates explanation confidence).1.source =
      some source := by
  unfold propose
  split <;> rfl

/-- Fixing a finding changes only its status and the fix it records as attempted. -/
theorem applyAt_finding : ∃ status attempted,
    (applyAt f text suggested index expected).2 = { f with status := status, attemptedFix := attempted } := by
  -- a proposal records its line as attempted when the gate refuses it
  have proposed : ∀ lines i original proposed source predicates explanation confidence,
      ∃ status attempted, (propose f text lines i original proposed source predicates explanation
        confidence).2 = { f with status := status, attemptedFix := attempted } := by
    intro lines i original proposed source predicates explanation confidence
    unfold propose
    split
    · exact ⟨_, _, rfl⟩
    · exact ⟨_, _, rfl⟩
  -- every branch ends in a stale failure, a proposal or a marker
  unfold applyAt
  dsimp only
  repeat' split
  all_goals first
    | exact proposed _ _ _ _ _ _ _ _
    | exact ⟨_, _, rfl⟩

/-- A finding offered no suggestion, by the batch or of its own, is fixed by its rule's fix, has
that fix refused by the gate, is marked for review, or is found stale. -/
theorem applyAt_unsuggested (unsuggested : (suggested <|> f.suggestedFix) = none) :
    (applyAt f text suggested index expected).1.source = some .rule ∨
    (applyAt f text suggested index expected).1.source = some .marker ∨
    ((applyAt f text suggested index expected).1.source = none ∧
      (applyAt f text suggested index expected).1.stale = true) := by
  by_cases inside : InRange text index
  · rcases asExpected_or_changed text index expected with current | ⟨e, expects, differs⟩
    · -- the line is there as expected: the rule's fix if it has one, else a marker
      unfold InRange at inside
      have present : ¬(index < 0 ∨ index ≥ ((Scan.splitLines text).length : Int)) := by omega
      have unchanged : (expected.isSome && expected != some (lineAt text index)) = false := by
        cases expects : expected with
        | none => rfl
        | some e => simp [current e expects]
      simp only [applyAt, present, if_false]
      rw [if_neg (by simpa [lineAt] using unchanged)]
      split
      · exact .inl (propose_source _ _ _ _ _ _ _ _)
      · rw [unsuggested]
        exact .inr (.inl rfl)
    · rw [applyAt_changed f text suggested index expected inside e expects differs]
      exact .inr (.inr ⟨rfl, by simp [FixResult.stale, failed]⟩)
  · rw [applyAt_outOfRange f text suggested index expected inside]
    exact .inr (.inr ⟨rfl, by simp [FixResult.stale, failed]⟩)

end Unsuggested

section Findings

variable (F : List Finding) (t : String) (S : List (String × String))

/-- A batch changes only the status and the attempted fix of the finding in each slot. -/
theorem applyAll_finding (i : Nat) (inside : i < F.length)
    (inFindings : i < (applyAll F t S).2.length) :
    ∃ status attempted,
      (applyAll F t S).2[i] = { F[i] with status := status, attemptedFix := attempted } := by
  obtain ⟨-, -, slot⟩ := applyAll_slot F t S
  obtain ⟨text, index, expected, fixes⟩ :=
    slot i inside (by rw [(applyAll_slot F t S).1]; exact inside) inFindings
  rw [show (applyAll F t S).2[i] = (applyAt F[i] text (S.lookup F[i].id) index expected).2 from
    congrArg Prod.snd fixes]
  exact applyAt_finding

/-- A batch keeps every finding's id, in order. -/
theorem applyAll_ids : (applyAll F t S).2.map Finding.id = F.map Finding.id := by
  have sameLength := (applyAll_slot F t S).2.1
  refine List.ext_getElem (by simp [sameLength]) fun i inFixed inF => ?_
  rw [List.length_map] at inFixed inF
  obtain ⟨status, attempted, kept⟩ := applyAll_finding F t S i inF inFixed
  simp [kept]

end Findings

end SecScan.Proofs.FixSource
