import Mathlib
import SecScan.Cli.Effects

/-!
How runs return. Pipeline work keeps a session and may stop on an error; a run that returns ran
each of its parts to a return, in turn (`work_bind_ok`), and a fold that returns kept every
property its steps keep (`work_foldlM_invariant`). A command runs pipeline work from its effects
and, when that work returns, carries on from the session the work left (`work_ok`).
-/

namespace SecScan.Proofs.Runs

open SecScan.Pipeline SecScan.Analysis SecScan.Cli

variable {α β : Type}

section Work

/-- Work that returns ran its first part to a return, and the rest from there. -/
theorem work_bind_ok {x : Work α} {f : α → Work β} {s s'' : Session} {b : β}
    (ran : (x >>= f).run s = .ok (b, s'')) :
    ∃ a s', x.run s = .ok (a, s') ∧ (f a).run s' = .ok (b, s'') := by
  rw [StateT.run_bind] at ran
  cases first : x.run s with
  | error e => simp [first, bind, Except.bind] at ran
  | ok p => exact ⟨p.1, p.2, rfl, by simpa [first, bind, Except.bind] using ran⟩

@[simp] theorem work_pure_ok {a b : α} {s s' : Session} :
    (pure a : Work α).run s = .ok (b, s') ↔ a = b ∧ s = s' := by
  simp [pure, StateT.pure, StateT.run, Except.pure]

@[simp] theorem run_labelAll (fs : List Finding) (s : Session) :
    (labelAll fs).run s = .ok ((s.ids.label fs).1, { s with ids := (s.ids.label fs).2 }) := rfl

@[simp] theorem run_withCalls (m : Calls α) (s : Session) :
    (withCalls m).run s = .ok ((m.run s.calls).1, { s with calls := (m.run s.calls).2 }) := rfl

/-- Service work that returns inside pipeline work returned, and drew no ids. -/
theorem withCallsOrCrash_ok {m : Calls (Except (String × String) α)} {s s' : Session} {a : α}
    (ran : (withCallsOrCrash m).run s = .ok (a, s')) : m.run' s.calls = .ok a ∧ s'.ids = s.ids := by
  obtain ⟨result, s₁, called, rest⟩ := work_bind_ok ran
  simp only [run_withCalls, Except.ok.injEq, Prod.mk.injEq] at called
  obtain ⟨rfl, rfl⟩ := called
  cases returned : (m.run s.calls).1 with
  | error problem =>
    simp only [returned] at rest
    cases rest
  | ok value =>
    simp only [returned, work_pure_ok] at rest
    obtain ⟨rfl, rfl⟩ := rest
    exact ⟨returned, rfl⟩

/-- A property of the accumulator that every step keeps holds of what a fold returns. -/
theorem work_foldlM_invariant (P : β → Prop) {step : β → α → Work β} {xs : List α}
    (keeps : ∀ b x s b' s', x ∈ xs → P b → (step b x).run s = .ok (b', s') → P b') :
    ∀ {b : β} {s s' : Session} {b' : β}, P b → (xs.foldlM step b).run s = .ok (b', s') → P b' := by
  induction xs with
  | nil =>
    intro b s s' b' holds ran
    obtain ⟨rfl, -⟩ := work_pure_ok.mp ran
    exact holds
  | cons x rest ih =>
    intro b s s' b' holds ran
    rw [List.foldlM_cons] at ran
    obtain ⟨b₁, s₁, first, ran⟩ := work_bind_ok ran
    have later : ∀ b x s b' s', x ∈ rest → P b → (step b x).run s = .ok (b', s') → P b' :=
      fun b x s b' s' member => keeps b x s b' s' (List.mem_cons_of_mem _ member)
    exact ih later (keeps b x s b₁ s₁ List.mem_cons_self holds first) ran

end Work

section Command

/-- A command's run of `x` and then `f`: `f` carries on from where `x` returned, and an exit of
`x` ends the run. -/
theorem cli_bind_eq (x : CliM α) (f : α → CliM β) (e : Effects) :
    (x >>= f).run.run e = match x.run.run e with
      | (.ok a, e') => (f a).run.run e'
      | (.error err, e') => (.error err, e') := by
  rcases first : x.run.run e with ⟨_ | a, e'⟩ <;>
    simp only [ExceptT.run_bind, StateT.run_bind, first] <;> rfl

@[simp] theorem run_get (e : Effects) : (get : CliM Effects).run.run e = (.ok e, e) := rfl

theorem cli_bind_ok {x : CliM α} {f : α → CliM β} {e e'' : Effects} {b : β}
    (ran : (x >>= f).run.run e = (.ok b, e'')) :
    ∃ a e', x.run.run e = (.ok a, e') ∧ (f a).run.run e' = (.ok b, e'') := by
  rw [cli_bind_eq] at ran
  split at ran
  · rename_i a e' first
    exact ⟨a, e', first, ran⟩
  · cases ran

/-- Pipeline work a command runs returned from the command's session, and left the session the
command carries on with. -/
theorem work_ok {w : Work α} {e e' : Effects} {a : α} (ran : (work w).run.run e = (.ok a, e')) :
    w.run e.work = .ok (a, e'.work) := by
  unfold work at ran
  rw [cli_bind_eq, run_get] at ran
  dsimp only at ran
  split at ran
  · rename_i worked
    cases ran
    exact worked
  · cases ran
  · cases ran

end Command

end SecScan.Proofs.Runs
