import Mathlib.Tactic.Common
import MiniGrc.ForStd.Run
import MiniGrc.App.ConcurrentJobs

/-!
# Claims of a job

What a step of the job queue can do, what holds along every run, and that two claims of
one job are kept apart: between them a step has returned the job to `pending`, or the
first one is stale. The argument looks at one job's history as a session sees it. As long
as its last claim stands, the row shows the time of that claim, and a guarded update that
matches the row finds it stale.

## Key results

- `step_effect`: what a step can do
- `claims_exclusive`: the claims of a job along every run
-/

namespace MiniGrc.Jobs

variable {ι : Type}

/-- The statuses of an update that may still be claimed. -/
theorem Job.candidate_iff {now : Time} {job : Job} :
    job.candidate now ↔ (job.status = .pending ∧ job.availableAt ≤ now) ∨
      (job.status = .running ∧
        ∃ t, job.claimedAt = some t ∧ t + staleRunningThreshold ≤ now) := by
  unfold Job.candidate
  cases h : job.status <;> simp [Option.any_eq_true]

/-! ## What a step can do -/

section Effect

variable [DecidableEq ι]

/-- Session `i` has no job at hand. -/
def Pc.Seeking (pc : Pc) : Prop := pc.job = none

/-- The session that a step makes claim a job, if the guard of its update holds. -/
def State.claiming (s : State ι) : Label ι → Option (ι × Id)
  | .update i =>
    match (s.session i).pc with
    | .updating _ _ id => some (i, id)
    | _ => none
  | .claimSpecific i _ id _ => some (i, id)
  | _ => none

/-- What a step can do. -/
inductive Effect (s : State ι) : Label ι → State ι → Prop
  | same (l : Label ι) : Effect s l s
  | insert (i : ι) (id : Id) (args : EnqueueArgs) (availableAt createdAt : Time)
      (hfresh : s.Fresh id) : Effect s (.enqueue i id args availableAt createdAt)
        (s.insert i id (args.job availableAt createdAt))
  /-- the session reads, or finds nothing to claim -/
  | look (l : Label ι) (i : ι) (pc : Pc) (hpc : (s.session i).pc.Seeking) (hnext : pc.Seeking) :
      Effect s l (s.setPc i pc)
  | claim (l : Label ι) (i : ι) (id : Id) (workerId : String) (now : Time) (row : Job)
      (hl : s.claiming l = some (i, id)) (hpc : (s.session i).pc.Seeking)
      (hfree : ¬ s.rows.Blocked i id) (hrow : s.rows.row i id = some row)
      (hguard : row.candidate now ∨ row.status = .pending) :
      Effect s l (s.claim i id (row.claim workerId now) now)
  | start (i : ι) (id : Id) (job : Job) (hpc : (s.session i).pc = .claimed id job) :
      Effect s (.start i) (s.start i id job)
  | handlerRollback (i : ι) (id : Id) (job : Option Job)
      (hpc : (s.session i).pc = .running id job) :
      Effect s (.handlerRollback i) (s.handlerRollback i id)
  | finish (i : ι) (id : Id) (job : Job) (outcome : Except String JsonObject) (now : Time)
      (hpc : (s.session i).pc = .running id (some job)) : Effect s (.finish i outcome now)
        (s.setPc i (.finished id (.between job (job.attempt.conclude outcome now))))
  | finishExpired (i : ι) (id : Id) (row : Job) (outcome : Except String JsonObject) (now : Time)
      (hpc : (s.session i).pc = .running id none) (hrow : s.rows.row i id = some row) :
      Effect s (.finish i outcome now) (s.setPc i (.finished id (.afterExpiry outcome now row)))
  | vanish (i : ι) (id : Id) (outcome : Except String JsonObject) (now : Time)
      (hpc : (s.session i).pc = .running id none) (hrow : s.rows.row i id = none) :
      Effect s (.finish i outcome now) (s.setPc i .idle)
  | record (i : ι) (id : Id) (update : JobUpdate) (row : Job)
      (hpc : (s.session i).pc = .finished id update) (hfree : ¬ s.rows.Blocked i id)
      (hrow : s.rows.row i id = some row) :
      Effect s (.flush i) (s.record i id row (update.apply row))
  | commit (i : ι)
      (hpc : (s.session i).pc = .idle ∨ ∃ id job, (s.session i).pc = .claimed id job) :
      Effect s (.commit i) (s.commit i)
  | rollback (i : ι) : Effect s (.rollback i) (s.rollback i)

variable [Fintype ι] {s s' : State ι} {l : Label ι}

theorem step_effect (h : step s l = some s') : Effect s l s' := by
  -- A case for each label: every guard that fails leaves `h` absurd.
  cases l with
  | enqueue i id args availableAt createdAt =>
    simp only [step] at h
    split at h
    · cases h
    split at h
    · cases h
      exact .same _
    split at h
    · cases h
    split at h
    · next hfresh =>
      cases h
      exact .insert i id args _ _ hfresh
    · cases h
  | poll i workerId now =>
    simp only [step] at h
    split at h
    · next hpc =>
      cases h
      exact .look _ i _ (by rw [hpc]; rfl) rfl
    · cases h
  | select i candidate =>
    simp only [step] at h
    split at h
    · next hpc =>
      split at h
      · cases h
        exact .look _ i _ (by rw [hpc]; rfl) rfl
      · cases h
    · next hpc =>
      split at h
      · cases h
        exact .look _ i _ (by rw [hpc]; rfl) rfl
      · cases h
    · cases h
  -- The conditional update finds the row as it was selected, or nothing happens.
  | update i =>
    simp only [step] at h
    split at h
    · next hpc =>
      have hseek : (s.session i).pc.Seeking := by rw [hpc]; rfl
      split at h
      · cases h
      next hfree =>
      split at h
      · next row hrow =>
        split at h
        · next hcandidate =>
          cases h
          exact .claim _ i _ _ _ row (by simp [State.claiming, hpc]) hseek hfree hrow
            (.inl hcandidate)
        · cases h
          exact .look _ i _ hseek rfl
      · cases h
        exact .look _ i _ hseek rfl
    · cases h
  | claimSpecific i workerId id now =>
    simp only [step] at h
    split at h
    · cases h
    next hcond =>
    simp only [not_or, not_not] at hcond
    have hseek : (s.session i).pc.Seeking := by rw [hcond.1]; rfl
    split at h
    · next row hrow =>
      split at h
      · next hpending =>
        cases h
        exact .claim _ i _ _ _ row rfl hseek hcond.2 hrow (.inr hpending)
      · cases h
        exact .same _
    · cases h
      exact .same _
  | start i =>
    simp only [step] at h
    split at h
    · next hpc =>
      cases h
      exact .start i _ _ hpc
    · cases h
  | handlerRollback i =>
    simp only [step] at h
    split at h
    · next hpc =>
      cases h
      exact .handlerRollback i _ _ hpc
    · cases h
  | finish i outcome now =>
    simp only [step] at h
    split at h
    · next hpc =>
      cases h
      exact .finish i _ _ outcome now hpc
    · next hpc =>
      split at h
      · next row hrow =>
        cases h
        exact .finishExpired i _ row outcome now hpc hrow
      · next hrow =>
        cases h
        exact .vanish i _ outcome now hpc hrow
    · cases h
  | flush i =>
    simp only [step] at h
    split at h
    · next hpc =>
      split at h
      · cases h
      next hfree =>
      obtain ⟨row, hrow, rfl⟩ := Option.map_eq_some_iff.1 h
      exact .record i _ _ row hpc hfree hrow
    · cases h
  | commit i =>
    simp only [step] at h
    split at h
    · next hpc =>
      cases h
      exact .commit i (.inl hpc)
    · next hpc =>
      cases h
      exact .commit i (.inr ⟨_, _, hpc⟩)
    · cases h
  | rollback i =>
    simp only [step] at h
    cases h
    exact .rollback i

end Effect

/-! ## Rows and histories -/

section History

@[simp] theorem ofJob_nil (id : Id) : ofJob ([] : List (Id × Entry ι)) id = [] := rfl

/-- The entries of a job are read through an appended log. -/
@[simp] theorem ofJob_append (log log' : List (Id × Entry ι)) (id : Id) :
    ofJob (log ++ log') id = ofJob log id ++ ofJob log' id := by
  simp [ofJob]

/-- An entry of the job itself is kept. -/
@[simp] theorem ofJob_singleton_self (id : Id) (e : Entry ι) : ofJob [(id, e)] id = [e] := by
  simp [ofJob]

/-- An entry of another job is passed over. -/
theorem ofJob_singleton_ne {id id' : Id} (h : id ≠ id') (e : Entry ι) :
    ofJob [(id, e)] id' = [] := by
  simp [ofJob, h]

/-- The entry of an update, for the history of its job. -/
def change (row row' : Job) : List (Entry ι) :=
  if row'.status = row.status then [] else [.changed row'.status]

/-- What a write logs for the job it writes. -/
theorem ofJob_changeOf_self (id : Id) (row row' : Job) :
    ofJob (State.changeOf id row row') id = (change row row' : List (Entry ι)) := by
  unfold State.changeOf change
  split
  · rfl
  · exact ofJob_singleton_self _ _

/-- A write logs nothing for the other jobs. -/
theorem ofJob_changeOf_ne {id id' : Id} (h : id ≠ id') (row row' : Job) :
    ofJob (State.changeOf id row row' : List (Id × Entry ι)) id' = [] := by
  unfold State.changeOf
  split
  · rfl
  · exact ofJob_singleton_ne h _

/-- No two transactions have written one job, and a transaction that has done something to
    a job has written its row. -/
structure State.Locked (s : State ι) : Prop where
  exclusive : s.rows.Exclusive
  logged : ∀ i (id : Id), (s.rows.own i)[id]? = none → ofJob (s.session i).ownLog id = []

/-- Before the first transaction no row is written by two sessions. -/
theorem locked_quiescent (jobs : Table Job) : (State.quiescent jobs : State ι).Locked where
  exclusive := OpenRows.exclusive_closed jobs
  logged _ _ _ := rfl

variable {s s' : State ι}

/-- A session sees the committed log of a job, then its own. -/
theorem State.history_eq (i : ι) (id : Id) :
    s.history i id = ofJob s.log id ++ ofJob (s.session i).ownLog id := ofJob_append _ _ _

/-- A session that has not written the row sees the committed row. -/
theorem State.Locked.view_eq (h : s.Locked) {i : ι} {id : Id} (hown : (s.rows.own i)[id]? = none) :
    s.rows.row i id = s.job id ∧ s.history i id = ofJob s.log id := by
  refine ⟨OpenRows.row_of_own_none hown, ?_⟩
  rw [State.history_eq, h.logged i id hown, List.append_nil]

variable [DecidableEq ι]

@[simp] theorem State.setPc_rows (i : ι) (pc : Pc) : (s.setPc i pc).rows = s.rows := rfl

/-- Moving on logs nothing. -/
@[simp] theorem State.setPc_ownLog (i j : ι) (pc : Pc) :
    ((s.setPc i pc).session j).ownLog = (s.session j).ownLog := by
  by_cases hj : j = i
  · subst hj
    simp [setPc, setSession]
  · simp [setPc, setSession, hj]

/-- Moving on leaves the history every session sees. -/
theorem State.setPc_history (i j : ι) (pc : Pc) (id : Id) :
    (s.setPc i pc).history j id = s.history j id := by
  simp only [history, setPc_ownLog]
  rfl

/-- Starting the handler logs nothing. -/
theorem State.start_history (i j : ι) (id id' : Id) (job : Job) :
    (s.start i id job).history j id' = s.history j id' := by
  by_cases hj : j = i
  · subst hj
    simp [history, start, setSession]
  · simp [history, start, setSession, hj]

/-- The claiming session sees its claim as the last entry. -/
theorem State.claim_history_self (i : ι) (id : Id) (job : Job) (now : Time) :
    (s.claim i id job now).history i id = s.history i id ++ [.claimed i now] := by
  simp [history, claim, setSession]

/-- Nobody else sees the claim, and it is of no other job. -/
theorem State.claim_history_of_ne {i j : ι} {id id' : Id} (h : j ≠ i ∨ id ≠ id') (job : Job)
    (now : Time) : (s.claim i id job now).history j id' = s.history j id' := by
  by_cases hj : j = i
  · subst hj
    have hid := h.resolve_left (fun hne => hne rfl)
    simp [history, claim, setSession, ofJob_singleton_ne hid]
  · simp [history, claim, setSession, hj]

/-- The recording session sees the change of status, if there is one. -/
theorem State.record_history_self (i : ι) (id : Id) (row row' : Job) :
    (s.record i id row row').history i id = s.history i id ++ change row row' := by
  simp [history, record, setSession, ofJob_changeOf_self]

/-- Nobody else sees the outcome, and it is of no other job. -/
theorem State.record_history_of_ne {i j : ι} {id id' : Id} (h : j ≠ i ∨ id ≠ id')
    (row row' : Job) : (s.record i id row row').history j id' = s.history j id' := by
  by_cases hj : j = i
  · subst hj
    have hid := h.resolve_left (fun hne => hne rfl)
    simp [history, record, setSession, ofJob_changeOf_ne hid]
  · simp [history, record, setSession, hj]

/-- After its rollback a session sees the committed log alone. -/
theorem State.handlerRollback_history_self (i : ι) (id id' : Id) :
    (s.handlerRollback i id).history i id' = ofJob s.log id' := by
  simp [history, handlerRollback, setSession]

/-- The rollback inside a handler is seen by no other session. -/
theorem State.handlerRollback_history_ne {i j : ι} (h : j ≠ i) (id id' : Id) :
    (s.handlerRollback i id).history j id' = s.history j id' := by
  simp [history, handlerRollback, setSession, h]

/-- After its rollback a session sees the committed log alone. -/
theorem State.rollback_history_self (i : ι) (id : Id) :
    (s.rollback i).history i id = ofJob s.log id := by
  simp [history, rollback, setSession]

/-- A rollback is seen by no other session. -/
theorem State.rollback_history_ne {i j : ι} (h : j ≠ i) (id : Id) :
    (s.rollback i).history j id = s.history j id := by
  simp [history, rollback, setSession, h]

/-- Committing changes nothing for the session itself. -/
theorem State.commit_history_self (i : ι) (id : Id) :
    (s.commit i).history i id = s.history i id := by
  simp [history, commit, setSession]

/-- The other sessions see what was committed before what they logged themselves. -/
theorem State.commit_history_ne {i j : ι} (h : j ≠ i) (id : Id) :
    (s.commit i).history j id = s.history i id ++ ofJob (s.session j).ownLog id := by
  simp [history, commit, setSession, h]

/-- After a commit another session sees the rows and histories that the committing session
    has seen, where its own transaction has not written. -/
theorem State.Locked.commit_view (h : s.Locked) {i j : ι} (hj : j ≠ i) (id : Id) :
    (s.rows.own i)[id]? = none ∧ (s.commit i).rows.row j id = s.rows.row j id ∧
        (s.commit i).history j id = s.history j id ∨
      (s.rows.own j)[id]? = none ∧ (s.commit i).rows.row j id = s.rows.row i id ∧
        (s.commit i).history j id = s.history i id := by
  rcases h.exclusive i j id (Ne.symm hj) with hown | hown
  · refine .inl ⟨hown, OpenRows.row_commit_of_none hown, ?_⟩
    rw [commit_history_ne hj, (h.view_eq hown).2, history_eq]
  · refine .inr ⟨hown, ?_, ?_⟩
    · show (s.rows.commit i).row j id = _
      rw [OpenRows.row_commit_ne hj, hown]
      rfl
    · rw [commit_history_ne hj, h.logged j id hown, List.append_nil]

omit [DecidableEq ι] in
/-- A step of one session leaves what the others have written as it is. -/
theorem State.Locked.logged_of_step (h : s.Locked) {i : ι}
    (hself : ∀ id : Id, (s'.rows.own i)[id]? = none → ofJob (s'.session i).ownLog id = [])
    (hothers : ∀ j, j ≠ i →
      s'.rows.own j = s.rows.own j ∧ (s'.session j).ownLog = (s.session j).ownLog) :
    ∀ j (id : Id), (s'.rows.own j)[id]? = none → ofJob (s'.session j).ownLog id = [] := by
  intro j id hown
  by_cases hj : j = i
  · exact hj ▸ hself id (hj ▸ hown)
  · obtain ⟨hrows, hlog⟩ := hothers j hj
    rw [hlog]
    exact h.logged j id (hrows ▸ hown)

variable {l : Label ι}

/-- The locks keep apart what the transactions write. -/
theorem State.Locked.step (h : s.Locked) (he : Effect s l s') : s'.Locked := by
  cases he with
  | same => exact h
  | insert i id args availableAt createdAt hfresh =>
    -- no session has a row under the new id, so there is no lock on it
    have hfree : ¬ s.rows.Blocked i id := fun ⟨j, _, hj⟩ => by
      rw [(hfresh.2 j).1] at hj
      cases hj
    refine ⟨h.exclusive.write hfree, fun j id' hown => h.logged j id' ?_⟩
    by_cases hid : id = id'
    · subst hid
      exact (hfresh.2 j).1
    · exact (OpenRows.write_own_of_ne hid).symm.trans hown
  | look _ i pc =>
    refine ⟨h.exclusive, fun j id' hown => ?_⟩
    rw [setPc_ownLog]
    exact h.logged j id' hown
  | claim _ i id workerId now row _ _ hfree =>
    refine ⟨h.exclusive.write hfree, h.logged_of_step (i := i) (fun id' hown => ?_) fun j hj =>
      ⟨OpenRows.write_own_ne hj, by simp [State.claim, setSession, hj]⟩⟩
    rw [show (s.claim i id _ now).rows.own i = (s.rows.write i id _).own i from rfl,
      OpenRows.write_own_self] at hown
    split at hown
    · cases hown
    · next hid =>
      simp [State.claim, setSession, h.logged i id' hown, ofJob_singleton_ne hid]
  | start i id job =>
    refine ⟨h.exclusive, fun j id' hown => ?_⟩
    by_cases hj : j = i
    · subst hj
      simpa [State.start, setSession] using h.logged j id' hown
    · simpa [State.start, setSession, hj] using h.logged j id' hown
  | handlerRollback i id =>
    exact ⟨h.exclusive.rollback, h.logged_of_step (i := i)
      (fun id' _ => by simp [State.handlerRollback, setSession]) fun j hj =>
      ⟨OpenRows.rollback_own_ne hj, by simp [State.handlerRollback, setSession, hj]⟩⟩
  | finish i | finishExpired i | vanish i =>
    refine ⟨h.exclusive, fun j id' hown => ?_⟩
    rw [setPc_ownLog]
    exact h.logged j id' hown
  | record i id update row _ hfree =>
    refine ⟨h.exclusive.write hfree, h.logged_of_step (i := i) (fun id' hown => ?_) fun j hj =>
      ⟨OpenRows.write_own_ne hj, by simp [State.record, setSession, hj]⟩⟩
    rw [show (s.record i id row _).rows.own i = (s.rows.write i id _).own i from rfl,
      OpenRows.write_own_self] at hown
    split at hown
    · cases hown
    · next hid =>
      simp [State.record, setSession, h.logged i id' hown, ofJob_changeOf_ne hid]
  | commit i =>
    exact ⟨h.exclusive.commit, h.logged_of_step (i := i)
      (fun id' _ => by simp [State.commit, setSession]) fun j hj =>
      ⟨OpenRows.commit_own_ne hj, by simp [State.commit, setSession, hj]⟩⟩
  | rollback i =>
    exact ⟨h.exclusive.rollback, h.logged_of_step (i := i)
      (fun id' _ => by simp [State.rollback, setSession]) fun j hj =>
      ⟨OpenRows.rollback_own_ne hj, by simp [State.rollback, setSession, hj]⟩⟩

/-- The rows and histories that the sessions see of the jobs, and the committed ones, all
    satisfy `P`. -/
def State.Everywhere (P : Option Job → List (Entry ι) → Prop) (s : State ι) : Prop :=
  (∀ id, P (s.job id) (ofJob s.log id)) ∧ ∀ i id, P (s.rows.row i id) (s.history i id)

/-- What the statements on a single row keep, every step keeps. -/
theorem State.Everywhere.step {P : Option Job → List (Entry ι) → Prop} (h : s.Everywhere P)
    (hlocked : s.Locked) (he : Effect s l s')
    (hinsert : ∀ (args : EnqueueArgs) availableAt createdAt h,
      P none h → P (some (args.job availableAt createdAt)) h)
    (hclaim : ∀ i workerId now (row : Job) h, row.candidate now ∨ row.status = .pending →
      P (some row) h → P (some (row.claim workerId now)) (h ++ [.claimed i now]))
    (hrecord : ∀ (update : JobUpdate) row h, P (some row) h →
      P (some (update.apply row)) (h ++ change row (update.apply row))) :
    s'.Everywhere P := by
  -- Only an insert, a claim and an outcome write a row: the others move what is written already.
  cases he with
  | same => exact h
  | insert i id args availableAt createdAt hfresh =>
    refine ⟨h.1, fun j id' => ?_⟩
    show P ((s.rows.write i id _).row j id') (s.history j id')
    by_cases hid : id = id'
    · subst hid
      by_cases hj : j = i
      · subst hj
        have hnone : s.rows.row j id = none := by
          rw [OpenRows.row_of_own_none (hfresh.2 j).1, hfresh.1.1]
        rw [OpenRows.row_write_self]
        exact hinsert _ _ _ _ (hnone ▸ h.2 j id)
      · rw [OpenRows.row_write_ne hj]
        exact h.2 j id
    · rw [OpenRows.row_write_of_ne hid]
      exact h.2 j id'
  | look _ i pc | finish i | finishExpired i | vanish i =>
    refine ⟨h.1, fun j id' => ?_⟩
    rw [setPc_rows, setPc_history]
    exact h.2 j id'
  | claim _ i id workerId now row _ _ _ hrow hguard =>
    refine ⟨h.1, fun j id' => ?_⟩
    show P ((s.rows.write i id _).row j id') _
    by_cases hsame : j = i ∧ id = id'
    · obtain ⟨rfl, rfl⟩ := hsame
      rw [OpenRows.row_write_self, claim_history_self]
      exact hclaim _ _ _ _ _ hguard (hrow ▸ h.2 j id)
    · have hne : j ≠ i ∨ id ≠ id' := not_and_or.1 hsame
      rw [claim_history_of_ne hne]
      rw [OpenRows.row_write_of_or hne]
      exact h.2 j id'
  | start i id job =>
    refine ⟨h.1, fun j id' => ?_⟩
    rw [start_history]
    exact h.2 j id'
  | handlerRollback i id =>
    refine ⟨h.1, fun j id' => ?_⟩
    show P ((s.rows.rollback i).row j id') _
    by_cases hj : j = i
    · subst hj
      rw [OpenRows.row_rollback_self, handlerRollback_history_self]
      exact h.1 id'
    · rw [OpenRows.row_rollback_ne hj, handlerRollback_history_ne hj]
      exact h.2 j id'
  | record i id update row _ _ hrow =>
    refine ⟨h.1, fun j id' => ?_⟩
    show P ((s.rows.write i id _).row j id') _
    by_cases hsame : j = i ∧ id = id'
    · obtain ⟨rfl, rfl⟩ := hsame
      rw [OpenRows.row_write_self, record_history_self]
      exact hrecord _ _ _ (hrow ▸ h.2 j id)
    · have hne : j ≠ i ∨ id ≠ id' := not_and_or.1 hsame
      rw [record_history_of_ne hne]
      rw [OpenRows.row_write_of_or hne]
      exact h.2 j id'
  | commit i =>
    refine ⟨fun id => ?_, fun j id => ?_⟩
    · show P (s.rows.commit i).committed[id]? (s.history i id)
      rw [OpenRows.get_commit]
      exact h.2 i id
    · by_cases hj : j = i
      · subst hj
        rw [commit_history_self]
        show P ((s.rows.commit j).row j id) _
        rw [OpenRows.row_commit_self]
        exact h.2 j id
      · -- Another session sees the committed row or one it wrote, never a mixture.
        rcases hlocked.commit_view hj id with ⟨_, hrow, hhist⟩ | ⟨_, hrow, hhist⟩
        · rw [hrow, hhist]
          exact h.2 j id
        · rw [hrow, hhist]
          exact h.2 i id
  | rollback i =>
    refine ⟨h.1, fun j id' => ?_⟩
    show P ((s.rows.rollback i).row j id') _
    by_cases hj : j = i
    · subst hj
      rw [OpenRows.row_rollback_self, rollback_history_self]
      exact h.1 id'
    · rw [OpenRows.row_rollback_ne hj, rollback_history_ne hj]
      exact h.2 j id'

end History

/-! ## Claims of one job -/

section Claims

/-- One entry more in a history whose last claim, if no return to `pending` has followed
    it, was made at `t`. -/
def standingStep (t : Option Time) : Entry ι → Option Time
  | .claimed _ claimedAt => some claimedAt
  | .changed .pending => none
  | .changed _ => t

/-- The time of the last claim, if no return to `pending` has followed it. -/
def standing (h : List (Entry ι)) : Option Time := h.foldl standingStep none

/-- Between two claims the job has been returned to `pending`, or the first one is stale. -/
def Separated (h : List (Entry ι)) : Prop :=
  ∀ before between after i j t t',
    h = before ++ .claimed i t :: (between ++ .claimed j t' :: after) →
      .changed .pending ∉ between → t + staleRunningThreshold ≤ t'

/-- The standing claim is folded entry by entry. -/
theorem standing_append (h : List (Entry ι)) (e : Entry ι) :
    standing (h ++ [e]) = standingStep (standing h) e := by
  simp [standing]

/-- No two claims stand in the empty history. -/
theorem separated_nil : Separated ([] : List (Entry ι)) := by
  intro before between after i j t t' h
  have hlength := congrArg List.length h
  simp at hlength

/-- A history that ends earlier has its claims as far apart. -/
theorem Separated.prefix {h : List (Entry ι)} {e : Entry ι} (hs : Separated (h ++ [e])) :
    Separated h := fun before between after i j t t' heq hno =>
  hs before between (after ++ [e]) i j t t' (by simp [heq]) hno

/-- A claim that no return to `pending` has followed is not later than the last claim. -/
theorem Separated.le_standing {before after : List (Entry ι)} {i : ι} {t : Time}
    (hs : Separated (before ++ .claimed i t :: after)) (hno : .changed .pending ∉ after) :
    ∃ t', standing (before ++ .claimed i t :: after) = some t' ∧ t ≤ t' := by
  -- From the right: the last claim of the history is the one that stands.
  induction after using List.reverseRecOn with
  | nil => exact ⟨t, by simp [standing_append, standingStep], Nat.le_refl t⟩
  | append_singleton after e ih =>
    rw [List.mem_append, not_or] at hno
    have hassoc : before ++ .claimed i t :: (after ++ [e]) =
        (before ++ .claimed i t :: after) ++ [e] := by simp
    rw [hassoc] at hs ⊢
    rw [standing_append]
    cases e with
    | claimed j t' =>
      refine ⟨t', rfl, ?_⟩
      have hlater := hs before after [] i j t t' (by simp) hno.1
      exact Nat.le_trans (Nat.le_add_right _ _) hlater
    | changed status =>
      have ⟨t', ht', hle⟩ := ih hs.prefix hno.1
      refine ⟨t', ?_, hle⟩
      cases status with
      | pending => exact absurd (by simp) hno.2
      | running | succeeded | failed => exact ht'

/-- One more claim keeps the claims apart if it finds the last one stale. -/
theorem Separated.claim {h : List (Entry ι)} (hs : Separated h) {i : ι} {now : Time}
    (hstale : ∀ t, standing h = some t → t + staleRunningThreshold ≤ now) :
    Separated (h ++ [.claimed i now]) := by
  intro before between after i' j t t' heq hno
  rcases List.eq_nil_or_concat after with rfl | ⟨after, e, rfl⟩
  · -- the later claim is the new one
    have heq' : h ++ [.claimed i now] =
        (before ++ .claimed i' t :: between) ++ [.claimed j t'] := by simp [heq]
    obtain ⟨rfl, hlast⟩ := List.append_inj' heq' rfl
    cases hlast
    obtain ⟨t₀, ht₀, hle⟩ := hs.le_standing hno
    exact Nat.le_trans (Nat.add_le_add_right hle _) (hstale t₀ ht₀)
  · have heq' : h ++ [.claimed i now] =
        (before ++ .claimed i' t :: (between ++ .claimed j t' :: after)) ++ [e] := by simp [heq]
    exact hs before between after i' j t t' (List.append_inj' heq' rfl).1 hno

/-- A change of status is no claim. -/
theorem Separated.changed {h : List (Entry ι)} (hs : Separated h) (status : JobStatus) :
    Separated (h ++ [.changed status]) := by
  intro before between after i j t t' heq hno
  rcases List.eq_nil_or_concat after with rfl | ⟨after, e, rfl⟩
  · have heq' : h ++ [.changed status] =
        (before ++ .claimed i t :: between) ++ [.claimed j t'] := by simp [heq]
    cases (List.append_inj' heq' rfl).2
  · have heq' : h ++ [.changed status] =
        (before ++ .claimed i t :: (between ++ .claimed j t' :: after)) ++ [e] := by simp [heq]
    exact hs before between after i j t t' (List.append_inj' heq' rfl).1 hno

/-- What a session sees of a job: its claims are separated, and as long as the last one
    stands the row shows its time. -/
structure ClaimInv (row : Option Job) (h : List (Entry ι)) : Prop where
  separated : Separated h
  current : ∀ t, standing h = some t →
    ∃ job, row = some job ∧ job.status ≠ .pending ∧ job.claimedAt = some t

/-- A claim of a candidate or of a pending job comes late enough. -/
theorem ClaimInv.claim {i : ι} {workerId : String} {now : Time} {row : Job} {h : List (Entry ι)}
    (hi : ClaimInv (some row) h) (hguard : row.candidate now ∨ row.status = .pending) :
    ClaimInv (some (row.claim workerId now)) (h ++ [.claimed i now]) where
  separated := by
    refine hi.separated.claim fun t ht => ?_
    obtain ⟨job, hjob, hstatus, hat⟩ := hi.current t ht
    cases hjob
    -- the update has matched a row that is not pending, so it has found the claim stale
    rcases hguard with hcandidate | hpending
    · rcases Job.candidate_iff.1 hcandidate with ⟨hpending, _⟩ | ⟨_, t', hat', hle⟩
      · exact absurd hpending hstatus
      · rw [hat] at hat'
        cases hat'
        exact hle
    · exact absurd hpending hstatus
  current t ht := by
    rw [standing_append] at ht
    cases ht
    exact ⟨_, rfl, JobStatus.noConfusion, rfl⟩

/-- An outcome lets the claim stand or ends it. -/
theorem ClaimInv.record {update : JobUpdate} {row : Job} {h : List (Entry ι)}
    (hi : ClaimInv (some row) h) :
    ClaimInv (some (update.apply row)) (h ++ change row (update.apply row)) := by
  unfold change
  split
  · next hsame =>
    refine ⟨by simpa using hi.separated, fun t ht => ?_⟩
    obtain ⟨job, hjob, hstatus, hat⟩ := hi.current t (by simpa using ht)
    cases hjob
    exact ⟨_, rfl, hsame ▸ hstatus, hat⟩
  · refine ⟨hi.separated.changed _, fun t ht => ?_⟩
    rw [standing_append] at ht
    refine ⟨_, rfl, fun hpending => ?_, ?_⟩
    · rw [hpending] at ht
      cases ht
    · -- A job returned to the queue has no standing claim; any other status keeps it.
      cases hstatus : (update.apply row).status with
      | pending =>
        rw [hstatus] at ht
        cases ht
      | running | succeeded | failed =>
        rw [hstatus] at ht
        obtain ⟨job, hjob, _, hat⟩ := hi.current t ht
        cases hjob
        exact hat

variable [DecidableEq ι] [Fintype ι] {jobs : Table Job} {s : State ι}

/-- What holds of every reachable state. -/
theorem claimInv_of_run {ok : State ι → Label ι → Prop}
    (h : Run step ok (.quiescent jobs) s) : s.Locked ∧ s.Everywhere ClaimInv := by
  -- The locks are part of the invariant: a commit is seen by the others through them.
  refine h.invariant (P := fun s => s.Locked ∧ s.Everywhere ClaimInv)
    ⟨locked_quiescent jobs, ?_⟩ ?_
  · have hnil : ∀ row : Option Job, ClaimInv row ([] : List (Entry ι)) := fun row =>
      ⟨separated_nil, fun t ht => by cases ht⟩
    exact ⟨fun id => hnil _, fun i id => hnil _⟩
  · intro s l u hs _ hl
    have he := step_effect hl
    refine ⟨hs.1.step he, hs.2.step hs.1 he ?_ ?_ ?_⟩
    · intro args availableAt createdAt h hi
      refine ⟨hi.separated, fun t ht => ?_⟩
      obtain ⟨job, hjob, _⟩ := hi.current t ht
      cases hjob
    · intro i workerId now row h hguard hi
      exact hi.claim hguard
    · intro update row h hi
      exact hi.record

/-- Session `k` sees all that has been done to the job, committed or not. -/
def State.Fullest (s : State ι) (k : ι) (id : Id) : Prop :=
  ∀ j, s.history j id <+: s.history k id

/-- The claim of session `i` at `t` stands: no step has returned the job to `pending` since,
    committed or not. -/
def State.Holds (s : State ι) (i : ι) (id : Id) (t : Time) : Prop :=
  ∀ k, s.Fullest k id → ∃ before after,
    s.history k id = before ++ .claimed i t :: after ∧ .changed .pending ∉ after

/-- A claim made at `t` is fresh. -/
def FreshAt (now t : Time) : Prop := t ≤ now ∧ now < t + staleRunningThreshold

omit [DecidableEq ι] [Fintype ι] in
/-- The session that has the job locked, or any session when none has, sees everything. -/
theorem State.Locked.exists_fullest (h : s.Locked) (i : ι) (id : Id) : ∃ k, s.Fullest k id := by
  by_cases hlock : ∃ k, (s.rows.own k)[id]? ≠ none
  · obtain ⟨k, hk⟩ := hlock
    refine ⟨k, fun j => ?_⟩
    by_cases hjk : j = k
    · rw [hjk]
    · have hown := (h.exclusive j k id hjk).resolve_right hk
      rw [(h.view_eq hown).2, history_eq]
      exact List.prefix_append _ _
  · refine ⟨i, fun j => ?_⟩
    have hown : ∀ k, (s.rows.own k)[id]? = none := fun k =>
      not_not.1 fun hk => hlock ⟨k, hk⟩
    rw [(h.view_eq (hown j)).2, (h.view_eq (hown i)).2]

omit [DecidableEq ι] [Fintype ι] in
/-- Two claims of one history that both stand are the same, or the earlier one is stale. -/
theorem Separated.same_or_stale {h before after before' after' : List (Entry ι)} {i j : ι}
    {t t' : Time} (hs : Separated h) (hi : h = before ++ .claimed i t :: after)
    (hno : .changed .pending ∉ after) (hj : h = before' ++ .claimed j t' :: after')
    (hno' : .changed .pending ∉ after') :
    i = j ∨ t + staleRunningThreshold ≤ t' ∨ t' + staleRunningThreshold ≤ t := by
  rw [hi] at hj
  -- One of the two claims is the earlier; `Separated` is applied to it.
  rcases List.append_eq_append_iff.1 hj with ⟨mid, hbefore, hafter⟩ | ⟨mid, hbefore, hafter⟩
  · cases mid with
    | nil =>
      cases hafter
      exact .inl rfl
    | cons e mid =>
      simp only [List.cons_append, List.cons.injEq] at hafter
      obtain ⟨rfl, rfl⟩ := hafter
      refine .inr (.inl (hs before mid after' i j t t' hi fun hmem => hno ?_))
      exact List.mem_append_left _ hmem
  · cases mid with
    | nil =>
      cases hafter
      exact .inl rfl
    | cons e mid =>
      simp only [List.cons_append, List.cons.injEq] at hafter
      obtain ⟨rfl, rfl⟩ := hafter
      refine .inr (.inr (hs before' mid after j i t' t (hi.trans hj) fun hmem => hno' ?_))
      exact List.mem_append_left _ hmem

/-- Along every run of any number of sessions, from any table of jobs: two claims of one job
    are separated by a step that has returned it to `pending`, or by the threshold; and of
    two sessions whose claims on one job stand, at most one is fresh. -/
theorem claims_exclusive (h : Run step (fun _ _ => True) (.quiescent jobs) s) (id : Id) :
    (∀ i, Separated (s.history i id)) ∧
      ∀ i j t t' now, s.Holds i id t → s.Holds j id t' → FreshAt now t → FreshAt now t' →
        i = j := by
  have ⟨hlocked, hinv⟩ := claimInv_of_run h
  refine ⟨fun i => (hinv.2 i id).separated, fun i j t t' now hi hj hfresh hfresh' => ?_⟩
  obtain ⟨k, hk⟩ := hlocked.exists_fullest i id
  obtain ⟨before, after, heq, hno⟩ := hi k hk
  obtain ⟨before', after', heq', hno'⟩ := hj k hk
  rcases (hinv.2 k id).separated.same_or_stale heq hno heq' hno' with hsame | hstale | hstale
  · exact hsame
  · exact absurd (Nat.lt_of_lt_of_le hfresh.2 hstale) (Nat.not_lt.2 hfresh'.1)
  · exact absurd (Nat.lt_of_lt_of_le hfresh'.2 hstale) (Nat.not_lt.2 hfresh.1)

/-- Worker 0 claims job 7 and is not heard of again; two minutes later worker 1 claims the
    job. -/
def reclaim : List (Label (Fin 2)) :=
  [.enqueue 0 7 ⟨"run_import", [], "admin", none, 3⟩ 0 0, .commit 0,
    .poll 0 "w0" 1, .select 0 (some 7), .update 0, .commit 0, .start 0,
    .poll 1 "w1" 120000001, .select 1 (some 7), .update 1, .commit 1]

/-- A worker that lets its claim grow old loses the job to another, two minutes later. -/
theorem claims_exclusive_reclaimed :
    ∃ s : State (Fin 2), s.history 0 7 = [.claimed 0 1, .claimed 1 120000001] ∧
      Separated (s.history 0 7) := by
  have hexec : ∃ s, Run.exec step (.quiescent ∅) reclaim = some s ∧
      s.history 0 7 = [.claimed 0 1, .claimed 1 120000001] := ⟨_, rfl, rfl⟩
  obtain ⟨s, hs, hhist⟩ := hexec
  exact ⟨s, hhist, (claims_exclusive (Run.of_exec_true reclaim hs) 7).1 0⟩

end Claims

end MiniGrc.Jobs
