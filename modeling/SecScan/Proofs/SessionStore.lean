import Mathlib
import SecScan.Session.Store

/-!
The session store as a state machine. Callers add scans, record fixes, and read sessions and fix
history; reads leave the store as it is. Adding a session keeps the last `maxSessions` of them
(`List.rtake`), and recording a fix keeps the last `maxHistory` records and adds the record to
the live session it names, if there is one. The store after any run of operations is therefore
the unbounded account of the run cut down to its most recent entries: every session added, with
the fixes recorded against it since, and every record made (`Tracks`, `tracks_runOps`). Since a
session that has left the store never comes back, a live session has been live since it was
added, and so has every fix recorded against it.
-/

namespace SecScan.Proofs.SessionStore

open SecScan.Session

/-- An operation on the store: the two that change it, and the four reads. -/
inductive Op where
  | addScan (s : ScanSession)
  | recordFix (r : FixRecord) (sessionId : Option String)
  | get (id : String)
  | listSessions
  | findFinding (findingId : String)
  | history

/-- Whether an operation only reads the store. -/
def Op.isRead : Op → Bool
  | .addScan _ | .recordFix _ _ => false
  | .get _ | .listSessions | .findFinding _ | .history => true

/-- The store after an operation. -/
def perform (st : Store) : Op → Store
  | .addScan s => st.addScan s
  | .recordFix r sessionId => st.recordFix r sessionId
  | .get _ | .listSessions | .findFinding _ | .history => st

/-- The store after a run of operations. -/
def runOps (st : Store) (ops : List Op) : Store := ops.foldl perform st

theorem perform_read {op : Op} (read : op.isRead = true) (st : Store) : perform st op = st := by
  cases op <;> simp_all [Op.isRead, perform]

theorem runOps_append_single (st : Store) (ops : List Op) (op : Op) :
    runOps st (ops ++ [op]) = perform (runOps st ops) op := by
  simp [runOps, List.foldl_append]

section Account

/-- The session an operation adds. -/
def Op.added? : Op → Option ScanSession
  | .addScan s => some s
  | .recordFix _ _ | .get _ | .listSessions | .findFinding _ | .history => none

/-- The fix record an operation makes. -/
def Op.record? : Op → Option FixRecord
  | .recordFix r _ => some r
  | .addScan _ | .get _ | .listSessions | .findFinding _ | .history => none

/-- The fix record an operation makes against a session id. -/
def Op.recordAgainst? (id : String) : Op → Option FixRecord
  | .recordFix r sessionId => if sessionId = some id then some r else none
  | .addScan _ | .get _ | .listSessions | .findFinding _ | .history => none

/-- Every record the operations make, oldest first. -/
def recordsMade (ops : List Op) : List FixRecord := ops.filterMap Op.record?

/-- A session with the fixes that later operations record against it. -/
def withLaterFixes (later : List Op) (s : ScanSession) : ScanSession :=
  { s with fixes := s.fixes ++ later.filterMap (Op.recordAgainst? s.id) }

/-- Every session the operations add, oldest first, each with the fixes recorded against it
after it was added. -/
def sessionsAdded : List Op → List ScanSession
  | [] => []
  | op :: later => (op.added?.map (withLaterFixes later)).toList ++ sessionsAdded later

/-- A session with a record added to its fixes when the record names it. -/
def fixedBy (r : FixRecord) (sessionId : Option String) (s : ScanSession) : ScanSession :=
  if sessionId = some s.id then { s with fixes := s.fixes ++ [r] } else s

@[simp] theorem fixedBy_none (r : FixRecord) : fixedBy r none = id := by
  funext s
  simp [fixedBy]

@[simp] theorem withLaterFixes_id (later : List Op) (s : ScanSession) :
    (withLaterFixes later s).id = s.id := rfl

theorem withLaterFixes_append (ops more : List Op) (s : ScanSession) :
    withLaterFixes (ops ++ more) s = withLaterFixes more (withLaterFixes ops s) := by
  simp [withLaterFixes, List.filterMap_append]

/-- The sessions added by a longer run: those of the first part with the fixes the second part
records against them, then those of the second part. -/
theorem sessionsAdded_append (ops more : List Op) :
    sessionsAdded (ops ++ more) =
      (sessionsAdded ops).map (withLaterFixes more) ++ sessionsAdded more := by
  induction ops with
  | nil => simp [sessionsAdded]
  | cons op ops ih =>
    cases op <;> simp [sessionsAdded, Op.added?, ih, withLaterFixes_append]

/-- Operations that record nothing add no fixes to earlier sessions. -/
theorem withLaterFixes_single {op : Op} (none : op.record? = none) : withLaterFixes [op] = id := by
  funext s
  cases op <;> simp_all [Op.record?, withLaterFixes, Op.recordAgainst?, List.filterMap_cons]

theorem sessionsAdded_addScan (ops : List Op) (s : ScanSession) :
    sessionsAdded (ops ++ [.addScan s]) = sessionsAdded ops ++ [s] := by
  rw [sessionsAdded_append, withLaterFixes_single rfl]
  simp [sessionsAdded, Op.added?, withLaterFixes, Op.recordAgainst?]

theorem sessionsAdded_recordFix (ops : List Op) (r : FixRecord) (sessionId : Option String) :
    sessionsAdded (ops ++ [.recordFix r sessionId]) = (sessionsAdded ops).map (fixedBy r sessionId) := by
  rw [sessionsAdded_append]
  simp only [sessionsAdded, Op.added?, Option.map_none, Option.toList_none, List.append_nil]
  refine List.map_congr_left fun s _ => ?_
  by_cases named : sessionId = some s.id
  · simp [withLaterFixes, fixedBy, Op.recordAgainst?, named]
  · simp [withLaterFixes, fixedBy, Op.recordAgainst?, named]

theorem sessionsAdded_read (ops : List Op) {op : Op} (read : op.isRead = true) :
    sessionsAdded (ops ++ [op]) = sessionsAdded ops := by
  have quiet : op.record? = none := by cases op <;> simp_all [Op.isRead, Op.record?]
  rw [sessionsAdded_append, withLaterFixes_single quiet]
  cases op <;> simp_all [Op.isRead, sessionsAdded, Op.added?]

theorem recordsMade_read (ops : List Op) {op : Op} (read : op.isRead = true) :
    recordsMade (ops ++ [op]) = recordsMade ops := by
  cases op <;> simp_all [Op.isRead, recordsMade, Op.record?]

theorem sessionsAdded_ids (ops : List Op) :
    (sessionsAdded ops).map ScanSession.id = (ops.filterMap Op.added?).map ScanSession.id := by
  induction ops with
  | nil => rfl
  | cons op ops ih => cases op <;> simp [sessionsAdded, Op.added?, List.filterMap_cons, ih]

end Account

section Window

variable {α : Type}

/-- Cutting a list to its last `n` entries before or after adding one more gives the same. -/
theorem rtake_append_rtake (l : List α) (x : α) (n : Nat) :
    (l.rtake n ++ [x]).rtake n = (l ++ [x]).rtake n := by
  cases n with
  | zero => simp [List.rtake_zero]
  | succ n =>
    rw [List.rtake_concat_succ, List.rtake_concat_succ]
    simp only [List.rtake_eq_reverse_take_reverse, List.reverse_reverse, List.take_take]
    rw [Nat.min_eq_left (Nat.le_succ n)]

theorem rtake_map {β : Type} (f : α → β) (l : List α) (n : Nat) :
    (l.map f).rtake n = (l.rtake n).map f := by
  simp [List.rtake, List.map_drop]

@[simp] theorem length_rtake (l : List α) (n : Nat) : (l.rtake n).length = min l.length n := by
  simp only [List.rtake, List.length_drop]
  omega

theorem reverse_rtake (l : List α) (n : Nat) : (l.rtake n).reverse = l.reverse.take n := by
  rw [List.rtake_eq_reverse_take_reverse, List.reverse_reverse]

end Window

section Steps

variable (st : Store)

@[simp] theorem addScan_sessions (s : ScanSession) :
    (st.addScan s).sessions = (st.sessions ++ [s]).rtake st.maxSessions := rfl

@[simp] theorem addScan_history (s : ScanSession) : (st.addScan s).history = st.history := rfl

@[simp] theorem addScan_maxSessions (s : ScanSession) :
    (st.addScan s).maxSessions = st.maxSessions := rfl

@[simp] theorem addScan_maxHistory (s : ScanSession) :
    (st.addScan s).maxHistory = st.maxHistory := rfl

/-- Recording a fix adds it to the live sessions it names; no other session changes. -/
@[simp] theorem recordFix_sessions (r : FixRecord) (sessionId : Option String) :
    (st.recordFix r sessionId).sessions = st.sessions.map (fixedBy r sessionId) := by
  cases sessionId with
  | none => simp [Store.recordFix]
  | some target =>
    simp only [Store.recordFix]
    split
    · refine List.map_congr_left fun s _ => ?_
      by_cases named : s.id = target
      · simp [fixedBy, named]
      · simp [fixedBy, named, Ne.symm named]
    · -- no live session has the id, so the record touches none of them
      rename_i absent
      simp only [Store.get?, Option.isSome_iff_ne_none, ne_eq, not_not, List.find?_eq_none,
        beq_iff_eq] at absent
      calc st.sessions = st.sessions.map id := (List.map_id _).symm
        _ = st.sessions.map (fixedBy r (some target)) :=
          List.map_congr_left fun s live => by simp [fixedBy, Ne.symm (absent s live)]

@[simp] theorem recordFix_history (r : FixRecord) (sessionId : Option String) :
    (st.recordFix r sessionId).history = (st.history ++ [r]).rtake st.maxHistory := by
  cases sessionId with
  | none => rfl
  | some id => simp only [Store.recordFix]; split <;> rfl

@[simp] theorem recordFix_dropped (r : FixRecord) (sessionId : Option String) :
    (st.recordFix r sessionId).dropped = st.dropped := by
  cases sessionId with
  | none => rfl
  | some id => simp only [Store.recordFix]; split <;> rfl

@[simp] theorem recordFix_maxSessions (r : FixRecord) (sessionId : Option String) :
    (st.recordFix r sessionId).maxSessions = st.maxSessions := by
  cases sessionId with
  | none => rfl
  | some id => simp only [Store.recordFix]; split <;> rfl

@[simp] theorem recordFix_maxHistory (r : FixRecord) (sessionId : Option String) :
    (st.recordFix r sessionId).maxHistory = st.maxHistory := by
  cases sessionId with
  | none => rfl
  | some id => simp only [Store.recordFix]; split <;> rfl

end Steps

/-- The store after a run of operations holds the last `maxSessions` sessions the run added, with
the fixes recorded against them, and the last `maxHistory` records it made. -/
structure Tracks (maxSessions maxHistory : Nat) (ops : List Op) (st : Store) : Prop where
  maxSessions_eq : st.maxSessions = maxSessions
  maxHistory_eq : st.maxHistory = maxHistory
  sessions_eq : st.sessions = (sessionsAdded ops).rtake maxSessions
  history_eq : st.history = (recordsMade ops).rtake maxHistory

theorem tracks_empty (maxSessions maxHistory : Int) :
    Tracks (max 1 maxSessions).toNat (max 1 maxHistory).toNat [] (Store.empty maxSessions maxHistory) :=
  ⟨rfl, rfl, by simp [Store.empty, sessionsAdded], by simp [Store.empty, recordsMade]⟩

/-- One more operation keeps the account: an eviction forgets the oldest session of the window,
and a record against an evicted session changes only the part of the account outside it. -/
theorem tracks_perform {M H : Nat} {ops : List Op} {st : Store} (tracks : Tracks M H ops st)
    (op : Op) : Tracks M H (ops ++ [op]) (perform st op) := by
  obtain ⟨keptSessions, keptHistory, sessions, history⟩ := tracks
  cases op with
  | addScan s =>
    refine ⟨by simp [perform, keptSessions], by simp [perform, keptHistory], ?_, ?_⟩
    · simp only [perform, addScan_sessions, sessionsAdded_addScan, sessions, keptSessions]
      exact rtake_append_rtake _ s M
    · simp [perform, recordsMade, history, Op.record?, List.filterMap_cons]
  | recordFix r sessionId =>
    refine ⟨by simp [perform, keptSessions], by simp [perform, keptHistory], ?_, ?_⟩
    · simp only [perform, recordFix_sessions, sessionsAdded_recordFix, sessions]
      exact (rtake_map _ _ M).symm
    · simp only [perform, recordFix_history, recordsMade, List.filterMap_append, history,
        keptHistory]
      exact rtake_append_rtake _ r H
  | get _ | listSessions | findFinding _ | history =>
    refine ⟨keptSessions, keptHistory, ?_, ?_⟩
    · rw [perform_read rfl, sessionsAdded_read ops rfl, sessions]
    · rw [perform_read rfl, recordsMade_read ops rfl, history]

theorem tracks_runOps (maxSessions maxHistory : Int) (ops : List Op) :
    Tracks (max 1 maxSessions).toNat (max 1 maxHistory).toNat ops
      (runOps (Store.empty maxSessions maxHistory) ops) := by
  induction ops using List.reverseRecOn with
  | nil => exact tracks_empty maxSessions maxHistory
  | append_singleton ops op ih =>
    rw [runOps_append_single]
    exact tracks_perform ih op

section Reads

/-- In a list of sessions with distinct ids, looking an id up finds the one session with it. -/
theorem find?_id_eq_some_iff {l : List ScanSession} (distinct : (l.map ScanSession.id).Nodup)
    {id : String} {s : ScanSession} : l.find? (·.id == id) = some s ↔ s ∈ l ∧ s.id = id := by
  constructor
  · intro found
    exact ⟨List.mem_of_find?_eq_some found, by simpa using List.find?_some found⟩
  · rintro ⟨member, named⟩
    obtain ⟨t, found⟩ : ∃ t, l.find? (·.id == id) = some t :=
      Option.isSome_iff_exists.mp (List.find?_isSome.mpr ⟨s, member, by simpa using named⟩)
    have sameId : t.id = s.id := by simpa [named] using List.find?_some found
    rw [found, List.inj_on_of_nodup_map distinct (List.mem_of_find?_eq_some found) member sameId]

/-- The first finding of a session with an id. -/
theorem find?_eq_some_iff (s : ScanSession) (x : String) (f : Finding) :
    s.find? x = some f ↔
      ∃ before after, s.findings = before ++ f :: after ∧ f.id = x ∧ ∀ g ∈ before, g.id ≠ x := by
  simp only [ScanSession.find?, List.find?_eq_some_iff_append, beq_iff_eq, Bool.not_eq_eq_eq_not,
    Bool.not_true, beq_eq_false_iff_ne, ne_eq]
  constructor
  · rintro ⟨named, before, after, split, others⟩
    exact ⟨before, after, split, named, others⟩
  · rintro ⟨before, after, split, named, others⟩
    exact ⟨named, before, after, split, others⟩

theorem find?_eq_none_iff (s : ScanSession) (x : String) :
    s.find? x = none ↔ ∀ g ∈ s.findings, g.id ≠ x := by
  simp [ScanSession.find?, List.find?_eq_none]

/-- Looking a finding up gives the most recent listed session holding one of that id. -/
theorem findFinding?_eq_some_iff (st : Store) (x : String) (s : ScanSession) (f : Finding) :
    st.findFinding? x = some (s, f) ↔
      ∃ newer older, st.list = newer ++ s :: older ∧ (∀ t ∈ newer, t.find? x = none) ∧
        s.find? x = some f := by
  simp only [Store.findFinding?, List.findSome?_eq_some_iff, Option.map_eq_some_iff,
    Prod.mk.injEq, Option.map_eq_none_iff]
  constructor
  · rintro ⟨newer, t, older, split, ⟨g, found, rfl, rfl⟩, earlier⟩
    exact ⟨newer, older, split, earlier, found⟩
  · rintro ⟨newer, older, split, earlier, found⟩
    exact ⟨newer, s, older, split, ⟨f, found, rfl, rfl⟩, earlier⟩

@[simp] theorem fixMetrics_totalFixes (st : Store) :
    st.fixMetrics.field? "totalFixes" = some (.int st.history.length) := by
  simp [Store.fixMetrics, Json.field?]

@[simp] theorem fixMetrics_successfulFixes (st : Store) :
    st.fixMetrics.field? "successfulFixes" = some (.int (st.history.countP (·.success))) := by
  simp [Store.fixMetrics, Json.field?, List.countP_eq_length_filter]

end Reads

section Runs

variable (maxSessions maxHistory : Int) (ops : List Op)

/-- The store keeps the most recent sessions and fix records. After any run of operations whose
sessions have distinct ids, from a store whose bounds are raised to at least one: the listed
sessions are the last ones added, most recent first, each with the fixes recorded against it
since; a session is found by its id exactly when it is listed; the history is the last records
made, most recent first, and the metrics count them and their successes; a further record goes
to the listed sessions it names and to no dropped session; and a finding is found in the most
recent listed session that holds one of its id, as the first such finding there. -/
theorem store_keeps_recent (distinct : ((ops.filterMap Op.added?).map ScanSession.id).Nodup) :
    let st := runOps (Store.empty maxSessions maxHistory) ops
    let recent := (sessionsAdded ops).reverse.take (max 1 maxSessions).toNat
    let records := (recordsMade ops).reverse.take (max 1 maxHistory).toNat
    st.list = recent ∧
    (∀ id s, st.get? id = some s ↔ s ∈ recent ∧ s.id = id) ∧
    st.recentFixes = records ∧
    st.fixMetrics.field? "totalFixes" =
      some (.int (min (recordsMade ops).length (max 1 maxHistory).toNat : Nat)) ∧
    st.fixMetrics.field? "successfulFixes" = some (.int (records.countP (·.success))) ∧
    (∀ r sessionId, (st.recordFix r sessionId).list = st.list.map (fixedBy r sessionId) ∧
      (st.recordFix r sessionId).dropped = st.dropped) ∧
    (∀ x s f, st.findFinding? x = some (s, f) ↔
      ∃ newer older, recent = newer ++ s :: older ∧ (∀ t ∈ newer, ∀ g ∈ t.findings, g.id ≠ x) ∧
        ∃ before after, s.findings = before ++ f :: after ∧ f.id = x ∧ ∀ g ∈ before, g.id ≠ x) := by
  intro st recent records
  obtain ⟨-, -, sessions, history⟩ := tracks_runOps maxSessions maxHistory ops
  have listed : st.list = recent := by
    simp only [Store.list, st, sessions, reverse_rtake, recent]
  have recorded : st.recentFixes = records := by
    simp only [Store.recentFixes, st, history, reverse_rtake, records]
  -- the live sessions are among those added, whose ids are distinct
  have liveDistinct : (st.sessions.map ScanSession.id).Nodup := by
    rw [sessions, List.rtake]
    exact ((List.drop_sublist _ _).map _).nodup (by rwa [sessionsAdded_ids])
  refine ⟨listed, fun id s => ?_, recorded, ?_, ?_, fun r sessionId => ?_, fun x s f => ?_⟩
  · rw [Store.get?, find?_id_eq_some_iff liveDistinct, ← listed, Store.list, List.mem_reverse]
  · rw [fixMetrics_totalFixes, history, length_rtake]
  · rw [fixMetrics_successfulFixes, ← recorded, Store.recentFixes, List.countP_reverse]
  · simp [Store.list, List.map_reverse]
  · rw [findFinding?_eq_some_iff, listed, find?_eq_some_iff]
    simp only [find?_eq_none_iff]

/-- Two sessions under a bound of one: the first is dropped, and a fix recorded against it
reaches no listed session. -/
theorem store_keeps_recent_evicted :
    let first : ScanSession := { id := "a", fileName := "a.py", language := "python", findings := [] }
    let second : ScanSession := { first with id := "b", fileName := "b.py" }
    let record : FixRecord :=
      { id := "r", findingId := "f", kind := "Code Injection", severity := .critical, success := true
        source := "rule", confidence := 85, fileName := "a.py", reason := none }
    (runOps (Store.empty 1 1) [.addScan first, .addScan second, .recordFix record (some "a")]).list =
      [second] := by
  intro first second record
  obtain ⟨listed, -⟩ := store_keeps_recent 1 1
    [.addScan first, .addScan second, .recordFix record (some "a")] (by decide)
  rw [listed]
  rfl

end Runs

end SecScan.Proofs.SessionStore
