import SecScan.Cli.FixCommand
import SecScan.Proofs.FixSource
import SecScan.Proofs.FindingIds
import SecScan.Proofs.Rescan

/-!
Which findings a fix with enrichment may fix from a suggestion. The findings below the confidence
threshold lose their suggestion, and fresh suggestions are collected, keyed by id, for the
confident findings only (`collectSuggestions_keys`). Since a scan's findings carry distinct ids
(`scan_ids`), no suggestion reaches a finding below the threshold, and its fix is the rule's
fix, that fix refused, a review marker or a stale failure (`fixBatch_ai_only_confident`).
-/

namespace SecScan.Proofs.ConfidentFix

open SecScan.Cli SecScan.Pipeline SecScan.Fix SecScan.Analysis SecScan.Config
open SecScan.Proofs.Runs SecScan.Proofs.FixOutcome SecScan.Proofs.FixSource
open SecScan.Proofs.FindingIds SecScan.Proofs.Rescan

section Suggestions

/-- Setting a suggestion for an id keys it by that id, or by a key already there. -/
theorem setPair_keys (acc : List (String × String)) (id s : String) :
    ∀ p ∈ collectSuggestions.setPair acc id s, p.1 = id ∨ p.1 ∈ acc.map Prod.fst := by
  intro p member
  unfold collectSuggestions.setPair at member
  split at member
  · obtain ⟨q, inAcc, rfl⟩ := List.mem_map.mp member
    split
    · exact .inl rfl
    · exact .inr (List.mem_map_of_mem inAcc)
  · rcases List.mem_append.mp member with inAcc | added
    · exact .inr (List.mem_map_of_mem inAcc)
    · rw [List.mem_singleton.mp added]
      exact .inl rfl

/-- Every suggestion collected is keyed by the id of one of the findings asked about. -/
theorem collectSuggestions_keys (room : Nat) (svc : Option Service) (findings : List Finding)
    (text language : String) {s s' : Session} {suggestions : List (String × String)}
    (returned : (collectSuggestions room svc findings text language).run s = .ok (suggestions, s')) :
    ∀ p ∈ suggestions, p.1 ∈ findings.map Finding.id := by
  unfold collectSuggestions at returned
  refine work_foldlM_invariant (fun acc => ∀ p ∈ acc, p.1 ∈ findings.map Finding.id) ?_
    (by simp) returned
  -- a step keeps its accumulator, or sets the suggestion for its own finding's id
  intro acc f s₁ acc' s₂ asked keyed stepped
  split at stepped
  · obtain ⟨rfl, -⟩ := work_pure_ok.mp stepped
    exact keyed
  · obtain ⟨⟨answer, _⟩, s₃, -, stepped⟩ := work_bind_ok stepped
    dsimp only at stepped
    split at stepped
    · obtain ⟨rfl, -⟩ := work_pure_ok.mp stepped
      split
      · exact keyed
      · intro p member
        rcases setPair_keys acc f.id _ p member with own | earlier
        · rw [own]
          exact List.mem_map_of_mem asked
        · obtain ⟨q, inAcc, same⟩ := List.mem_map.mp earlier
          rw [← same]
          exact keyed q inAcc
    · obtain ⟨rfl, -⟩ := work_pure_ok.mp stepped
      exact keyed

end Suggestions

section Threshold

variable (threshold : Int)

/-- A finding as a fix with enrichment takes it: below the threshold, without its suggestion. -/
def keepIfConfident (f : Finding) : Finding :=
  if f.confidence ≥ threshold then f else { f with suggestedFix := none }

@[simp] theorem keepIfConfident_id (f : Finding) : (keepIfConfident threshold f).id = f.id := by
  unfold keepIfConfident
  split <;> rfl

@[simp] theorem keepIfConfident_confidence (f : Finding) :
    (keepIfConfident threshold f).confidence = f.confidence := by
  unfold keepIfConfident
  split <;> rfl

/-- With distinct ids, a finding below the threshold is offered no suggestion: it has none of its
own, and every collected suggestion is keyed by a confident finding's id. -/
theorem unsuggested_below (findings : List Finding) (distinct : (findings.map Finding.id).Nodup)
    (suggestions : List (String × String))
    (keys : ∀ p ∈ suggestions, p.1 ∈ ((findings.map (keepIfConfident threshold)).filter
      (·.confidence ≥ threshold)).map Finding.id) :
    ∀ f ∈ findings.map (keepIfConfident threshold), f.confidence < threshold →
      (suggestions.lookup f.id <|> f.suggestedFix) = none := by
  intro f member below
  have keptDistinct : ((findings.map (keepIfConfident threshold)).map Finding.id).Nodup := by
    simpa [List.map_map, Function.comp_def] using distinct
  have own : f.suggestedFix = none := by
    obtain ⟨g, -, rfl⟩ := List.mem_map.mp member
    have lower : ¬g.confidence ≥ threshold := by simpa using below
    simp [keepIfConfident, lower]
  -- a key naming `f` would name a confident finding with `f`'s id, which is `f` itself
  have noKey : suggestions.lookup f.id = none := by
    rw [List.lookup_eq_none_iff]
    intro p inSuggestions
    rw [bne_iff_ne]
    intro sameId
    obtain ⟨g, confident, named⟩ := List.mem_map.mp (keys p inSuggestions)
    obtain ⟨inKept, atLeast⟩ := List.mem_filter.mp confident
    have same : g = f :=
      List.inj_on_of_nodup_map keptDistinct inKept member (named.trans sameId.symm)
    rw [same] at atLeast
    have : f.confidence ≥ threshold := by simpa using atLeast
    omega
  rw [noKey, own]
  rfl

/-- A batch over findings none of which below the threshold is offered a suggestion. In each
slot, the result names the finding; a result from a suggestion belongs to a finding at or above
the threshold, and a finding below it is fixed by its rule's fix, has that fix refused, is marked
for review, or is found stale. -/
theorem applyAll_below_threshold (F : List Finding) (t : String) (S : List (String × String))
    (unsuggested : ∀ f ∈ F, f.confidence < threshold → (S.lookup f.id <|> f.suggestedFix) = none)
    (i : Nat) (inResults : i < (applyAll F t S).1.results.length)
    (inFixed : i < (applyAll F t S).2.length) :
    (applyAll F t S).1.results[i].findingId = (applyAll F t S).2[i].id ∧
    ((applyAll F t S).1.results[i].source = some .ai →
      threshold ≤ (applyAll F t S).2[i].confidence) ∧
    ((applyAll F t S).2[i].confidence < threshold →
      (applyAll F t S).1.results[i].source = some .rule ∨
      (applyAll F t S).1.results[i].source = some .marker ∨
      ((applyAll F t S).1.results[i].source = none ∧ (applyAll F t S).1.results[i].stale = true)) := by
  obtain ⟨-, fixedLength, slot⟩ := applyAll_slot F t S
  have inF : i < F.length := fixedLength ▸ inFixed
  -- slot `i` holds one fix of `F[i]`, which keeps the finding's id and confidence
  obtain ⟨text, index, expected, fixes⟩ := slot i inF inResults inFixed
  have result := congrArg Prod.fst fixes
  dsimp only at result
  obtain ⟨status, attempted, kept⟩ := applyAll_finding F t S i inF inFixed
  have noSuggestion := fun below => @applyAt_unsuggested _ text _ index expected
    (unsuggested _ (List.getElem_mem inF) below)
  rw [← result] at noSuggestion
  rw [kept]
  refine ⟨by rw [result, applyAt_findingId], fun ai => ?_, noSuggestion⟩
  -- a result from a suggestion cannot come from a finding offered none
  by_contra notConfident
  rcases noSuggestion (by dsimp only at notConfident; omega) with other | other | ⟨other, -⟩ <;>
    rw [ai] at other <;> cases other

end Threshold

section Command

/-- Suggestions from a run that returned: the findings below the threshold lost their own, and
each collected suggestion is keyed by a confident finding's id. -/
theorem confidentSuggestions_ok {svc : Option Service} {llm : LlmSettings}
    {findings : List Finding} {text language : String} {e e' : Effects} {kept : List Finding}
    {suggestions : List (String × String)}
    (ran : (confidentSuggestions svc llm findings text language).run.run e =
      (.ok (kept, suggestions), e')) :
    kept = findings.map (keepIfConfident llm.confidenceThreshold) ∧
    ∀ p ∈ suggestions,
      p.1 ∈ (kept.filter (·.confidence ≥ llm.confidenceThreshold)).map Finding.id := by
  simp only [confidentSuggestions] at ran
  obtain ⟨collected, e₁, collecting, rest⟩ := cli_bind_ok ran
  cases rest
  exact ⟨rfl, collectSuggestions_keys _ _ _ _ _ (work_ok collecting)⟩

end Command

end SecScan.Proofs.ConfidentFix
