import SecScan.Proofs.Enrichment
import SecScan.Proofs.Runs

/-!
Finding ids. A supply issues its `k`-th id as `k` in hexadecimal, padded with zeros to twelve
digits; reading the digits back gives `k` (`hexValue_hex12`), so a supply never issues one id
twice. A scan labels its findings from the session's supply, labels the service's own findings
after them, keeps some of those, and enrichment keeps every finding's id: the findings of a scan
report carry pairwise distinct ids, all issued during the scan (`scan_ids`).
-/

namespace SecScan.Proofs.FindingIds

open SecScan.Pipeline SecScan.Analysis SecScan.Config SecScan.Proofs.Enrichment
open SecScan.Proofs.Runs

section Hex

/-- The value of a digit as `Nat.digitChar` writes the sixteen hexadecimal digits. -/
def hexDigitValue (c : Char) : Nat :=
  if c.isDigit then c.toNat - '0'.toNat else c.toNat - 'a'.toNat + 10

/-- A hexadecimal value with one more digit, least significant. -/
def hexStep (value : Nat) (c : Char) : Nat := 16 * value + hexDigitValue c

theorem hexDigitValue_digitChar : ∀ d < 16, hexDigitValue (Nat.digitChar d) = d := by
  decide

theorem foldl_hexStep_toDigits (n : Nat) : (Nat.toDigits 16 n).foldl hexStep 0 = n := by
  induction n using Nat.strongRecOn with
  | ind n ih =>
    rw [Nat.toDigits_eq_if (by decide)]
    split
    · rename_i small
      simp [hexStep, hexDigitValue_digitChar n small]
    · -- the leading digits read as `n / 16`, and the last digit adds `n % 16`
      rename_i large
      rw [List.foldl_append, ih (n / 16) (by omega)]
      simp only [List.foldl_cons, List.foldl_nil, hexStep,
        hexDigitValue_digitChar (n % 16) (Nat.mod_lt n (by decide))]
      omega

theorem foldl_hexStep_zeros (k : Nat) : (List.replicate k '0').foldl hexStep 0 = 0 := by
  induction k with
  | zero => rfl
  | succ k ih =>
    rw [List.replicate_succ', List.foldl_append, ih]
    rfl

/-- Reading an id's digits back gives the number it was issued for: the padding reads as zero. -/
theorem hexValue_hex12 (n : Nat) : (hex12 n).toList.foldl hexStep 0 = n := by
  simp only [hex12, String.toList_ofList, List.foldl_append, foldl_hexStep_zeros,
    foldl_hexStep_toDigits]

theorem hex12_injective : Function.Injective hex12 := by
  intro a b same
  have read := congrArg (fun id : String => id.toList.foldl hexStep 0) same
  simpa only [hexValue_hex12] using read

end Hex

section Supply

/-- Ids issued once each by a supply after its `lo`-th id and up to its `hi`-th. -/
def IssuedBetween (lo hi : Nat) (ids : List String) : Prop :=
  lo ≤ hi ∧ ids.Nodup ∧ ∀ id ∈ ids, ∃ k, lo < k ∧ k ≤ hi ∧ id = hex12 k

/-- The ids a supply issues next, `n` of them. -/
theorem issuedBetween_range (lo n : Nat) :
    IssuedBetween lo (lo + n) ((List.range' (lo + 1) n).map hex12) := by
  refine ⟨by omega,
    List.Pairwise.map hex12 (fun _ _ differ same => differ (hex12_injective same)) List.nodup_range',
    ?_⟩
  intro id member
  obtain ⟨k, inRange, rfl⟩ := List.mem_map.mp member
  rw [List.mem_range'_1] at inRange
  exact ⟨k, by omega, by omega, rfl⟩

/-- Ids issued over two spans, one after the other, are issued over both, once each. -/
theorem IssuedBetween.append {a b c : Nat} {xs ys : List String} (first : IssuedBetween a b xs)
    (second : IssuedBetween b c ys) : IssuedBetween a c (xs ++ ys) := by
  obtain ⟨ab, xsNodup, xsIssued⟩ := first
  obtain ⟨bc, ysNodup, ysIssued⟩ := second
  refine ⟨by omega, List.nodup_append.mpr ⟨xsNodup, ysNodup, ?_⟩, ?_⟩
  · -- an id of the first span is numbered at most `b`, one of the second above it
    intro x inXs y inYs same
    obtain ⟨k, -, kb, rfl⟩ := xsIssued x inXs
    obtain ⟨k', bk', -, rfl⟩ := ysIssued y inYs
    have := hex12_injective same
    omega
  · intro id member
    rcases List.mem_append.mp member with inXs | inYs
    · obtain ⟨k, ak, kb, rfl⟩ := xsIssued id inXs
      exact ⟨k, ak, by omega, rfl⟩
    · obtain ⟨k, bk, kc, rfl⟩ := ysIssued id inYs
      exact ⟨k, by omega, kc, rfl⟩

theorem IssuedBetween.sublist {lo hi : Nat} {xs ys : List String} (issued : IssuedBetween lo hi xs)
    (kept : ys.Sublist xs) : IssuedBetween lo hi ys :=
  ⟨issued.1, issued.2.1.sublist kept, fun id member => issued.2.2 id (kept.subset member)⟩

/-- Labelling gives the findings, in order, the supply's next ids. -/
theorem label_ids (s : IdSupply) (fs : List Finding) :
    (s.label fs).1.map Finding.id = (List.range' (s.issued + 1) fs.length).map hex12 ∧
    (s.label fs).2.issued = s.issued + fs.length := by
  induction fs generalizing s with
  | nil => simp [IdSupply.label]
  | cons f rest ih =>
    obtain ⟨ids, issued⟩ := ih ⟨s.issued + 1⟩
    dsimp only at ids issued
    simp only [IdSupply.label, IdSupply.fresh, List.map_cons, List.length_cons, List.range'_succ,
      List.map_cons]
    refine ⟨by rw [ids], by rw [issued]; omega⟩

theorem label_issued (s : IdSupply) (fs : List Finding) :
    IssuedBetween s.issued (s.label fs).2.issued ((s.label fs).1.map Finding.id) := by
  obtain ⟨ids, issued⟩ := label_ids s fs
  rw [ids, issued]
  exact issuedBetween_range _ _

/-- The service's findings a scan keeps are some of them, after all of its own. -/
theorem addNew_sublist (found extra : List Finding) :
    ∃ kept, kept.Sublist extra ∧ addNew found extra = found ++ kept := by
  -- the fold adds to what it has kept so far, each finding of `extra` in turn or not at all
  suffices general : ∀ (kept : List Finding),
      ∃ kept', kept'.Sublist (kept ++ extra) ∧
        extra.foldl (fun acc f =>
          if acc.any fun g => g.line == f.line && g.kind == f.kind then acc else acc ++ [f])
          (found ++ kept) = found ++ kept' by
    obtain ⟨kept, sub, folded⟩ := general []
    rw [List.append_nil] at folded
    exact ⟨kept, by simpa using sub, folded⟩
  induction extra with
  | nil => exact fun kept => ⟨kept, by simp, rfl⟩
  | cons f rest ih =>
    intro kept
    rw [List.foldl_cons]
    split
    · obtain ⟨kept', sub, folded⟩ := ih kept
      exact ⟨kept', sub.trans (by simp), folded⟩
    · obtain ⟨kept', sub, folded⟩ := ih (kept ++ [f])
      exact ⟨kept', by simpa using sub, by simpa using folded⟩

end Supply

section Scan

/-- Enriching some findings and reporting them: the report holds the findings with their ids
kept, and no id is drawn. -/
theorem enrich_report {loop : Nat} {svc : Service} {settings : LlmSettings} {fs : List Finding}
    {text language : String} {k : Summary × List Finding → ScanReport} {s s' : Session}
    {report : ScanReport}
    (ran : (withCallsOrCrash (enrichAll loop (some svc) settings fs text language) >>=
      fun x => pure (k x)).run s = .ok (report, s'))
    (reports : ∀ x, (k x).findings = x.2) :
    report.findings.map Finding.id = fs.map Finding.id ∧ s'.ids = s.ids := by
  obtain ⟨⟨summary, enriched⟩, s₁, enriching, rest⟩ := work_bind_ok ran
  obtain ⟨rfl, rfl⟩ := work_pure_ok.mp rest
  obtain ⟨passed, sameIds⟩ := withCallsOrCrash_ok enriching
  rw [reports]
  exact ⟨enrichAll_ids loop svc settings fs text language _ summary enriched passed, sameIds⟩

/-- The findings of a scan report carry pairwise distinct ids, all drawn from the session's supply
during the scan. -/
theorem scan_ids (room loop : Nat) (svc : Option Service) (settings : LlmSettings)
    (text language fileName : String) (enrich wholeFile : Bool) {s s' : Session}
    {report : ScanReport}
    (returned : (scan room loop svc settings text language fileName enrich wholeFile).run s =
      .ok (report, s')) :
    IssuedBetween s.ids.issued s'.ids.issued (report.findings.map Finding.id) := by
  cases scanned : Scan.run text language fileName with
  | error e =>
    simp only [scan, scanned] at returned
    obtain ⟨_, _, failed, -⟩ := work_bind_ok returned
    cases failed
  | ok found =>
    simp only [scan, scanned, pure_bind] at returned
    obtain ⟨labelled, s₁, labelling, rest⟩ := work_bind_ok returned
    simp only [run_labelAll, Except.ok.injEq, Prod.mk.injEq] at labelling
    obtain ⟨rfl, rfl⟩ := labelling
    have own := label_issued s.ids found
    split at rest
    · -- enriching, after labelling the service's own findings when asked to
      split at rest
      · obtain ⟨answer, s₂, asked, rest⟩ := work_bind_ok rest
        obtain ⟨extra, s₃, labellingExtra, rest⟩ := work_bind_ok rest
        -- asking the service draws no ids
        have sameSupply : s₂.ids = (s.ids.label found).2 := by
          simp only [run_withCalls, Except.ok.injEq, Prod.mk.injEq] at asked
          rw [← asked.2]
        simp only [run_labelAll, Except.ok.injEq, Prod.mk.injEq] at labellingExtra
        obtain ⟨rfl, rfl⟩ := labellingExtra
        obtain ⟨sameFindings, sameIds⟩ := enrich_report rest fun _ => rfl
        obtain ⟨kept, sub, added⟩ := addNew_sublist (s.ids.label found).1 (s₂.ids.label answer).1
        have theirs := label_issued s₂.ids answer
        rw [sameSupply] at theirs sub
        rw [sameFindings, sameIds, added, List.map_append, sameSupply]
        exact own.append (theirs.sublist (sub.map Finding.id))
      · obtain ⟨sameFindings, sameIds⟩ := enrich_report rest fun _ => rfl
        rw [sameFindings, sameIds]
        exact own
    · obtain ⟨rfl, rfl⟩ := work_pure_ok.mp rest
      exact own

end Scan

end SecScan.Proofs.FindingIds
