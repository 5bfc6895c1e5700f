import Mathlib
import SecScan.Analysis.Bridge

/-!
How an enrichment pass settles. The pass makes one call per finding, in the order of the
findings, and by the time it stops each call has ended in one of three ways: the service
answered, the call never answered and its own timeout ended it, or it is still pending, for a
slot or for its answer (`callEnds`). The pass's results are these ends as the pass reads them
(`runPass_eq_callEnds`).

When the pass returns, every finding is detected and takes only its own call's outcome: a reply
that reads as an enrichment sets the finding's confidence, suggested fix and explanation, and
anything else leaves them as they were. The summary counts every call once: as a success, as
timed out (it gave up waiting, its timeout ended it, or the pass stopped first), or as a failure
(`enrichAll_settles_each_call`).
-/

namespace SecScan.Proofs.Enrichment

open SecScan.Analysis SecScan.Config

/-- How the call made for one finding had ended when its pass stopped. -/
inductive CallEnd where
  /-- The service answered. -/
  | answered (o : Outcome)
  /-- The call never answered, and its own timeout ended it before the pass stopped. -/
  | expired
  /-- The call was still waiting, for a slot or for its answer, when the pass stopped. -/
  | pending

namespace CallEnd

/-- What the pass makes of a call's end, reading replies with `room`; nothing for a call still
pending. -/
def read (room : Nat) : CallEnd → Option Enriched
  | .answered o => some (readEnrichment room o)
  | .expired => some (.failed "timeout" true)
  | .pending => none

/-- The enrichment a call's reply reads as, when the service answered with a text that reads
as one. -/
def payload (room : Nat) : CallEnd → Option Enrichment
  | .answered (.text reply) =>
    match parseEnrichment (room - 1) reply with
    | .ok e => some e
    | .error _ => none
  | _ => none

/-- Whether a call counts as timed out: it gave up waiting, its own timeout ended it, or the
pass stopped before it ended. -/
def timesOut : CallEnd → Bool
  | .answered .timedOut | .answered .silent | .expired | .pending => true
  | _ => false

/-- A finding as its pass leaves it: detected, and with the confidence, suggested fix and
explanation of its call's reply when the reply reads as an enrichment. -/
def settle (room : Nat) (c : CallEnd) (f : Finding) : Finding :=
  match c.payload room with
  | some e => { f with status := .detected, confidence := e.confidence
                       suggestedFix := e.suggestedFix, explanation := e.explanation }
  | none => { f with status := .detected }

@[simp] theorem settle_status (room : Nat) (c : CallEnd) (f : Finding) :
    (c.settle room f).status = .detected := by
  unfold settle
  split <;> rfl

@[simp] theorem settle_id (room : Nat) (c : CallEnd) (f : Finding) : (c.settle room f).id = f.id := by
  unfold settle
  split <;> rfl

end CallEnd

/-- How each call of a pass over `findings` had ended at `stop`, the calls scheduled as
`runPass` schedules them. -/
def callEnds (svc : Service) (timeout stop : Binary64) (lines : List String) (language : String) :
    List Binary64 → List Finding → Calls (List CallEnd)
  | _, [] => pure []
  | slots, f :: rest => do
    let (t, others) := takeEarliest slots
    if !startsBefore t stop then
      let later ← callEnds svc timeout stop lines language slots rest
      pure (.pending :: later)
    else
      let outcome ← svc.call analysisSystem (enrichmentPrompt f lines language)
      match outcome with
      | .silent =>
        let done := t.add timeout
        let later ← callEnds svc timeout stop lines language (done :: others) rest
        pure ((if done.lt stop then .expired else .pending) :: later)
      | o =>
        let later ← callEnds svc timeout stop lines language (t :: others) rest
        pure (.answered o :: later)

section Runs

variable {α β : Type}

@[simp] theorem run'_call_bind (svc : Service) (system prompt : String) (k : Outcome → Calls α)
    (made : List Call) :
    (svc.call system prompt >>= k).run' made =
      (k (svc.answer made.length system prompt)).run' (made ++ [⟨system, prompt⟩]) := rfl

@[simp] theorem run'_pure (a : α) (made : List Call) : (pure a : Calls α).run' made = a := rfl

@[simp] theorem run'_bind_pure (x : Calls α) (g : α → β) (made : List Call) :
    (x >>= fun a => pure (g a)).run' made = g (x.run' made) := rfl

end Runs

section Schedule

variable (svc : Service) (timeout stop : Binary64) (lines : List String) (language : String)

/-- A pass's results are the ends of its calls, as the pass reads them. -/
theorem runPass_eq_callEnds (loop : Nat) (slots : List Binary64) (findings : List Finding) :
    runPass loop svc timeout stop lines language slots findings =
      (·.map (CallEnd.read (loop - 1))) <$> callEnds svc timeout stop lines language slots findings := by
  induction findings generalizing slots with
  | nil => simp [runPass, callEnds]
  | cons f rest ih =>
    simp only [runPass, callEnds, ih]
    split
    · simp [CallEnd.read]
    · simp only [map_bind]
      congr 1
      funext outcome
      cases outcome
      case silent =>
        -- a call that never answers is read as timed out when its own timeout came first
        simp only [map_bind, map_pure, List.map_cons, bind_map_left]
        split <;> rfl
      -- any other call is read as the service answered it
      all_goals simp [CallEnd.read]

/-- A pass ends one call for each finding. -/
theorem length_callEnds (slots : List Binary64) (findings : List Finding) (made : List Call) :
    ((callEnds svc timeout stop lines language slots findings).run' made).length =
      findings.length := by
  induction findings generalizing slots made with
  | nil => rfl
  | cons f rest ih =>
    simp only [callEnds]
    split
    · simp only [run'_bind_pure, List.length_cons, ih]
    · rw [run'_call_bind]
      split <;> simp only [run'_bind_pure, List.length_cons, ih]

end Schedule

/-- A summary with one more call counted: as a success when its reply reads as an enrichment, as
timed out when it timed out, and as a failure otherwise. -/
def tally (room : Nat) (s : Summary) (c : CallEnd) : Summary :=
  match c.payload room with
  | some _ => { s with succeeded := s.succeeded + 1 }
  | none =>
    if c.timesOut then { s with timedOut := s.timedOut + 1 } else { s with failed := s.failed + 1 }

section Reading

variable (room : Nat)

/-- A reply that reads as an enrichment is a call that did not time out. -/
theorem timesOut_of_payload {c : CallEnd} {e : Enrichment} (accepted : c.payload room = some e) :
    c.timesOut = false := by
  -- only a text reply has a payload, and a text reply is no timeout
  cases c with
  | answered o =>
    cases o
    case text reply => rfl
    all_goals simp [CallEnd.payload] at accepted
  | expired | pending => simp [CallEnd.payload] at accepted

/-- What the pass makes of each way a call can end: a reply that reads as an enrichment is a
success with that enrichment; a call that timed out is pending or a timed-out failure; anything
else is a plain failure, or an error that stops the pass. -/
theorem read_cases (c : CallEnd) :
    (∃ e, c.payload room = some e ∧ c.read room = some (.ok e)) ∨
    (c.payload room = none ∧ c.timesOut = true ∧
      (c.read room = none ∨ ∃ reason, c.read room = some (.failed reason true))) ∨
    (c.payload room = none ∧ c.timesOut = false ∧
      ((∃ reason, c.read room = some (.failed reason false)) ∨
        ∃ kind message, c.read room = some (.broken kind message))) := by
  cases c with
  | expired => exact .inr (.inl ⟨rfl, rfl, .inr ⟨_, rfl⟩⟩)
  | pending => exact .inr (.inl ⟨rfl, rfl, .inl rfl⟩)
  | answered o =>
    cases o with
    | timedOut => exact .inr (.inl ⟨rfl, rfl, .inr ⟨_, rfl⟩⟩)
    | silent => exact .inr (.inl ⟨rfl, rfl, .inr ⟨_, rfl⟩⟩)
    | failed m => exact .inr (.inr ⟨rfl, rfl, .inl ⟨_, rfl⟩⟩)
    | crashed d => exact .inr (.inr ⟨rfl, rfl, .inl ⟨_, rfl⟩⟩)
    | text reply =>
      cases parsed : parseEnrichment (room - 1) reply with
      | ok e =>
        left
        exact ⟨e, by simp [CallEnd.payload, parsed], by simp [CallEnd.read, readEnrichment, parsed]⟩
      | error problem =>
        have noPayload : (CallEnd.answered (.text reply)).payload room = none := by
          simp [CallEnd.payload, parsed]
        right; right
        refine ⟨noPayload, rfl, ?_⟩
        by_cases valueError : problem.isValueError
        · exact .inl ⟨"unparseable reply: " ++ problem.message,
            by simp [CallEnd.read, readEnrichment, parsed, valueError]⟩
        · exact .inr ⟨problem.kind, problem.message,
            by simp [CallEnd.read, readEnrichment, parsed, valueError]⟩

/-- Applying one call's result counts the call in its bucket and leaves its finding settled. -/
theorem applyResult_read {s s' : Summary} {out out' : List Finding} {f : Finding} {c : CallEnd}
    (applied : applyResult (s, out) (f, c.read room) = .ok (s', out')) :
    s' = tally room s c ∧ out' = out ++ [c.settle room f] := by
  rcases read_cases room c with ⟨e, accepted, read⟩ | ⟨rejected, late, read⟩ | ⟨rejected, early, read⟩
  · rw [read] at applied
    simp only [applyResult, Except.ok.injEq, Prod.mk.injEq] at applied
    obtain ⟨rfl, rfl⟩ := applied
    simp [tally, CallEnd.settle, accepted]
  · have counted : tally room s c = { s with timedOut := s.timedOut + 1 } := by
      simp [tally, rejected, late]
    have settled : c.settle room f = { f with status := .detected } := by
      simp [CallEnd.settle, rejected]
    rcases read with read | ⟨reason, read⟩ <;>
    · rw [read] at applied
      simp only [applyResult, Except.ok.injEq, Prod.mk.injEq] at applied
      obtain ⟨rfl, rfl⟩ := applied
      exact ⟨counted.symm, by rw [settled]⟩
  · have counted : tally room s c = { s with failed := s.failed + 1 } := by
      simp [tally, rejected, early]
    have settled : c.settle room f = { f with status := .detected } := by
      simp [CallEnd.settle, rejected]
    rcases read with ⟨reason, read⟩ | ⟨kind, message, read⟩
    · rw [read] at applied
      simp only [applyResult, Except.ok.injEq, Prod.mk.injEq] at applied
      obtain ⟨rfl, rfl⟩ := applied
      exact ⟨counted.symm, by rw [settled]⟩
    · rw [read] at applied
      simp [applyResult] at applied

/-- Applying a pass's results in turn: the summary counts every call in its bucket, and the
findings are settled in order. -/
theorem foldlM_applyResult (pairs : List (Finding × CallEnd)) (s s' : Summary)
    (out out' : List Finding)
    (applied : (pairs.map fun p => (p.1, p.2.read room)).foldlM applyResult (s, out) =
      .ok (s', out')) :
    s' = (pairs.map Prod.snd).foldl (tally room) s ∧
      out' = out ++ pairs.map fun p => p.2.settle room p.1 := by
  induction pairs generalizing s out with
  | nil =>
    simp only [List.map_nil, List.foldlM_nil, pure, Except.pure, Except.ok.injEq,
      Prod.mk.injEq] at applied
    obtain ⟨rfl, rfl⟩ := applied
    simp
  | cons p pairs ih =>
    rw [List.map_cons, List.foldlM_cons] at applied
    cases step : applyResult (s, out) (p.1, p.2.read room) with
    | error problem => simp [step, bind, Except.bind] at applied
    | ok next =>
      obtain ⟨s₁, out₁⟩ := next
      obtain ⟨counted, settled⟩ := applyResult_read room step
      simp only [step, bind, Except.bind] at applied
      obtain ⟨summary, rest⟩ := ih s₁ out₁ applied
      refine ⟨by rw [summary, counted]; rfl, ?_⟩
      rw [rest, settled]
      simp

/-- Counting calls one by one adds, to each bucket, the calls that belong in it. -/
theorem foldl_tally (ends : List CallEnd) (s : Summary) :
    ends.foldl (tally room) s =
      { s with succeeded := s.succeeded + ends.countP fun c => (c.payload room).isSome
               failed := s.failed + ends.countP fun c => (c.payload room).isNone && !c.timesOut
               timedOut := s.timedOut + ends.countP CallEnd.timesOut } := by
  induction ends generalizing s with
  | nil => simp
  | cons c ends ih =>
    rw [List.foldl_cons, ih]
    cases accepted : c.payload room with
    | some e =>
      have early := timesOut_of_payload room accepted
      simp [tally, accepted, early]
      omega
    | none =>
      cases late : c.timesOut <;> simp [tally, accepted, late] <;> omega

/-- Every call is counted in exactly one bucket. -/
theorem countP_buckets (ends : List CallEnd) :
    (ends.countP fun c => (c.payload room).isSome) +
      (ends.countP fun c => (c.payload room).isNone && !c.timesOut) +
      ends.countP CallEnd.timesOut = ends.length := by
  induction ends with
  | nil => rfl
  | cons c ends ih =>
    cases accepted : c.payload room with
    | some e =>
      have early := timesOut_of_payload room accepted
      simp [accepted, early]
      omega
    | none =>
      cases late : c.timesOut <;> simp [accepted, late] <;> omega

end Reading

section Pass

variable (loop : Nat) (svc : Service) (settings : LlmSettings) (findings : List Finding)
  (text language : String) (made : List Call)

/-- How each call of the pass `enrichAll` makes had ended at the deadline, the calls made after
`made`. -/
def passEnds : List CallEnd :=
  (callEnds svc settings.timeout settings.deadline (Scan.splitLines text) language
    (passSlots settings findings.length) findings).run' made

/-- A pass over some findings reads its results from the ends of its calls. -/
theorem enrichAll_run (nonempty : findings ≠ []) :
    (enrichAll loop (some svc) settings findings text language).run' made =
      applyResults svc.name findings
        ((passEnds svc settings findings text language made).map (CallEnd.read (loop - 1))) := by
  have notEmpty : findings.isEmpty = false := List.isEmpty_eq_false_iff.mpr nonempty
  simp only [enrichAll, notEmpty, Bool.false_eq_true, if_false]
  rw [run'_bind_pure, runPass_eq_callEnds]
  rfl

/-- A pass that returns counts and settles each finding paired with its own call's end. -/
theorem enrichAll_applied (summary : Summary) (enriched : List Finding)
    (returned : (enrichAll loop (some svc) settings findings text language).run' made =
      .ok (summary, enriched)) :
    summary = (passEnds svc settings findings text language made).foldl (tally (loop - 1))
        { provider := svc.name, attempted := findings.length } ∧
      enriched = (findings.zip (passEnds svc settings findings text language made)).map
        fun p => p.2.settle (loop - 1) p.1 := by
  have endsLength : (passEnds svc settings findings text language made).length = findings.length :=
    length_callEnds _ _ _ _ _ _ _ _
  cases findings with
  | nil =>
    simp only [enrichAll, List.isEmpty_nil, if_true, run'_pure] at returned
    obtain ⟨rfl, rfl⟩ := returned
    simp [List.eq_nil_of_length_eq_zero endsLength]
  | cons f rest =>
    rw [enrichAll_run _ _ _ _ _ _ _ (List.cons_ne_nil f rest), applyResults,
      List.zip_map_right] at returned
    obtain ⟨counted, settled⟩ := foldlM_applyResult (loop - 1) _ _ _ _ _ returned
    rw [List.map_snd_zip (Nat.le_of_eq endsLength)] at counted
    exact ⟨counted, settled⟩

/-- A pass that returns keeps every finding's id, in order. -/
theorem enrichAll_ids (summary : Summary) (enriched : List Finding)
    (returned : (enrichAll loop (some svc) settings findings text language).run' made =
      .ok (summary, enriched)) :
    enriched.map Finding.id = findings.map Finding.id := by
  have endsLength : (passEnds svc settings findings text language made).length = findings.length :=
    length_callEnds _ _ _ _ _ _ _ _
  rw [(enrichAll_applied loop svc settings findings text language made summary enriched
    returned).2, List.map_map]
  calc (findings.zip (passEnds svc settings findings text language made)).map
        (Finding.id ∘ fun p => p.2.settle (loop - 1) p.1)
      = (findings.zip (passEnds svc settings findings text language made)).map
          (Finding.id ∘ Prod.fst) := by
        congr 1
        funext p
        simp
    _ = findings.map Finding.id := by
        rw [← List.map_map, List.map_fst_zip (Nat.le_of_eq endsLength.symm)]

/-- The summary of a pass that returns counts every call once, in the bucket its end belongs to. -/
theorem enrichAll_summary (summary : Summary) (enriched : List Finding)
    (returned : (enrichAll loop (some svc) settings findings text language).run' made =
      .ok (summary, enriched)) :
    let ends := passEnds svc settings findings text language made
    summary.attempted = findings.length ∧
    summary.attempted = summary.succeeded + summary.failed + summary.timedOut ∧
    summary.succeeded = ends.countP (fun c => (c.payload (loop - 1)).isSome) ∧
    summary.failed = ends.countP (fun c => (c.payload (loop - 1)).isNone && !c.timesOut) ∧
    summary.timedOut = ends.countP CallEnd.timesOut := by
  intro ends
  have endsLength : ends.length = findings.length := length_callEnds _ _ _ _ _ _ _ _
  have counted : summary = ends.foldl (tally (loop - 1))
      { provider := svc.name, attempted := findings.length } :=
    (enrichAll_applied loop svc settings findings text language made summary enriched returned).1
  rw [foldl_tally] at counted
  -- the buckets split the calls, and there is one call per finding
  have partition := countP_buckets (loop - 1) ends
  rw [counted]
  refine ⟨rfl, ?_, by simp, by simp, by simp⟩
  simp only [Nat.zero_add]
  omega

/-- Whenever a pass returns, every finding is detected and takes only its own call's outcome,
in its own place: the confidence, suggested fix and explanation of a reply that reads as an
enrichment, and otherwise nothing. The summary counts every call once, as a success, a failure
or timed out. -/
theorem enrichAll_settles_each_call (summary : Summary) (enriched : List Finding)
    (returned : (enrichAll loop (some svc) settings findings text language).run' made =
      .ok (summary, enriched)) :
    let ends := passEnds svc settings findings text language made
    ends.length = findings.length ∧ enriched.length = findings.length ∧
    (∀ f ∈ enriched, f.status = .detected) ∧
    summary.attempted = findings.length ∧
    summary.attempted = summary.succeeded + summary.failed + summary.timedOut ∧
    summary.succeeded = ends.countP (fun c => (c.payload (loop - 1)).isSome) ∧
    summary.failed = ends.countP (fun c => (c.payload (loop - 1)).isNone && !c.timesOut) ∧
    summary.timedOut = ends.countP CallEnd.timesOut ∧
    ∀ i (inFindings : i < findings.length) (inEnriched : i < enriched.length)
      (inEnds : i < ends.length),
      (∀ e, ends[i].payload (loop - 1) = some e →
        enriched[i] = { findings[i] with status := .detected, confidence := e.confidence
                                         suggestedFix := e.suggestedFix
                                         explanation := e.explanation }) ∧
      (ends[i].payload (loop - 1) = none →
        enriched[i] = { findings[i] with status := .detected }) := by
  intro ends
  have endsLength : ends.length = findings.length := length_callEnds _ _ _ _ _ _ _ _
  -- the pass counts each call once and settles each finding paired with its own call's end
  obtain ⟨attempted, partition, succeeded, failed, timedOut⟩ :=
    enrichAll_summary loop svc settings findings text language made summary enriched returned
  have settled : enriched = (findings.zip ends).map fun p => p.2.settle (loop - 1) p.1 :=
    (enrichAll_applied loop svc settings findings text language made summary enriched returned).2
  have enrichedLength : enriched.length = findings.length := by
    rw [settled, List.length_map, List.length_zip, endsLength, Nat.min_self]
  refine ⟨endsLength, enrichedLength, ?_, attempted, partition, succeeded, failed, timedOut, ?_⟩
  · -- every finding ends detected
    intro f member
    rw [settled] at member
    obtain ⟨p, -, rfl⟩ := List.mem_map.mp member
    exact CallEnd.settle_status _ _ _
  · -- each finding takes its own call's outcome
    intro i inFindings inEnriched inEnds
    have own : enriched[i] = ends[i].settle (loop - 1) findings[i] := by
      simp only [settled, List.getElem_map, List.getElem_zip]
    refine ⟨fun e accepted => ?_, fun rejected => ?_⟩
    · rw [own, CallEnd.settle, accepted]
    · rw [own, CallEnd.settle, rejected]

/-- A pass over two findings, one call at a time, whose first call gives up waiting and whose
second fails: it returns, and counts one call as timed out and one as failed. -/
theorem enrichAll_timed_out_and_failed :
    let svc : Service := ⟨"scripted", fun n _ _ => if n = 0 then .timedOut else .failed "offline"⟩
    let finding : Finding :=
      { ruleId := "python:eval", kind := "Code Injection", severity := .critical, line := 1
        message := "Using eval can lead to code injection vulnerabilities" }
    let findings := [finding, { finding with line := 2 }]
    let settings : LlmSettings := { maxConcurrency := 1 }
    (enrichAll loopRoom (some svc) settings findings "eval(a)\neval(b)" "python").run' [] =
      .ok ({ provider := "scripted", attempted := 2, failed := 1, timedOut := 1 },
        findings.map ({ · with status := .detected })) ∧
    (passEnds svc settings findings "eval(a)\neval(b)" "python" []).countP CallEnd.timesOut = 1 ∧
    (passEnds svc settings findings "eval(a)\neval(b)" "python" []).countP
      (fun c => (c.payload (loopRoom - 1)).isNone && !c.timesOut) = 1 := by
  intro svc finding findings settings
  have returned : (enrichAll loopRoom (some svc) settings findings "eval(a)\neval(b)" "python").run' [] =
      .ok ({ provider := "scripted", attempted := 2, failed := 1, timedOut := 1 },
        findings.map ({ · with status := .detected })) := by
    rfl
  obtain ⟨-, -, -, -, -, -, failed, timedOut, -⟩ :=
    enrichAll_settles_each_call loopRoom svc settings findings "eval(a)\neval(b)" "python" [] _ _
      returned
  exact ⟨returned, timedOut.symm, failed.symm⟩

end Pass

end SecScan.Proofs.Enrichment
