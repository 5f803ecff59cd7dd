import MiniGrc.Spec.JobQueue

/-!
# Finished jobs stay finished

`run_job` writes its outcome without looking at the row again. Along every run in which a
worker starts a handler and writes an outcome only while no other worker has claimed the
job after it (`OwnClaims`), a job that is committed as `succeeded` or `failed` keeps its
status, and its handler is not started again. Without the condition, a worker that was
slow for two minutes runs a job that has succeeded, and returns it to `pending`.

## Key results

- `terminal_absorbing`: the runs under the condition
- `terminal_absorbing_slowWorker`: a slow worker's late outcome
-/

namespace MiniGrc.Jobs

variable {ι : Type}

/-- The session that has made the last claim. -/
def lastClaimant (h : List (Entry ι)) : Option ι :=
  h.foldl (fun last e => match e with | .claimed i _ => some i | .changed _ => last) none

/-- No session has claimed the job since session `i` has. -/
def State.Owns (s : State ι) (i : ι) (id : Id) : Prop := lastClaimant (s.history i id) = some i

instance [DecidableEq ι] (s : State ι) (i : ι) (id : Id) : Decidable (s.Owns i id) :=
  inferInstanceAs (Decidable (_ = _))

/-- If the step starts a handler or writes an outcome, its session still owns the job. -/
def OwnClaims (s : State ι) : Label ι → Prop
  | .start i | .flush i => ∀ id ∈ (s.session i).pc.job, s.Owns i id
  | _ => True

instance [DecidableEq ι] (s : State ι) : DecidablePred (OwnClaims s)
  | .start i | .flush i =>
    inferInstanceAs (Decidable (∀ id ∈ (s.session i).pc.job, s.Owns i id))
  | .enqueue .. | .poll .. | .select .. | .update _ | .claimSpecific .. | .handlerRollback _
  | .finish .. | .commit _ | .rollback _ => .isTrue trivial

/-! ## The invariant -/

/-- The last claim is the last entry's. -/
@[simp] theorem lastClaimant_claimed (h : List (Entry ι)) (i : ι) (t : Time) :
    lastClaimant (h ++ [.claimed i t]) = some i := by
  simp [lastClaimant]

/-- A change of status leaves the claim with whom it is. -/
@[simp] theorem lastClaimant_change (h : List (Entry ι)) (row row' : Job) :
    lastClaimant (h ++ change row row') = lastClaimant h := by
  unfold change
  split <;> simp [lastClaimant]

/-- What holds of session `j` and a job: the row that its transaction has written, the
    committed row, the history that it sees, and whether it works on the job. -/
structure SettledAt (j : ι) (own committed : Option Job) (h : List (Entry ι)) (working : Prop) :
    Prop where
  /-- an outcome is written by the job's owner, which is done with it -/
  ended : ∀ row, own = some row → row.status.terminal → lastClaimant h = some j ∧ ¬ working
  /-- nobody who still works on a finished job owns it -/
  settled : ∀ row, committed = some row → row.status.terminal →
    own = none ∧ (working → lastClaimant h ≠ some j)

/-- Finished jobs are nobody's. -/
def State.Settled (s : State ι) : Prop :=
  ∀ j id, SettledAt j (s.rows.own j)[id]? (s.job id) (s.history j id)
    ((s.session j).pc.job = some id)

/-- Before the first transaction nothing is settled by a session. -/
theorem settled_quiescent (jobs : Table Job) : (State.quiescent jobs : State ι).Settled :=
  fun j id => by
    have hown : ((State.quiescent jobs : State ι).rows.own j)[id]? = none := by
      simp [State.quiescent, OpenRows.closed]
    refine ⟨fun row hrow => ?_, fun row _ _ => ⟨hown, fun hw => ?_⟩⟩
    · rw [hown] at hrow
      cases hrow
    · cases hw

/-- A session that works on less has as much settled. -/
theorem SettledAt.mono {j : ι} {own committed : Option Job} {h : List (Entry ι)}
    {working working' : Prop} (hs : SettledAt j own committed h working)
    (himp : working' → working) : SettledAt j own committed h working' where
  ended row hrow ht := ⟨(hs.ended row hrow ht).1, fun hw => (hs.ended row hrow ht).2 (himp hw)⟩
  settled row hrow ht :=
    ⟨(hs.settled row hrow ht).1, fun hw => (hs.settled row hrow ht).2 (himp hw)⟩

/-- A session that has not written the job's row. -/
theorem SettledAt.unwritten {j : ι} {own own' committed : Option Job} {h : List (Entry ι)}
    {working : Prop} (hs : SettledAt j own committed h working) (hown : own' = none) :
    SettledAt j own' committed h working where
  ended row hrow := by
    rw [hown] at hrow
    cases hrow
  settled row hrow ht := ⟨hown, (hs.settled row hrow ht).2⟩

variable [DecidableEq ι] {s s' : State ι} {l : Label ι}

/-- The other sessions are left as they are. -/
theorem State.setSession_ne {i j : ι} (h : j ≠ i) (t : Session ι) :
    (s.setSession i t).session j = s.session j := by
  simp [setSession, h]

/-- The session itself is the new one. -/
theorem State.setSession_self (i : ι) (t : Session ι) : (s.setSession i t).session i = t := by
  simp [setSession]

/-- A step of the session that leaves its job, or stays with it. -/
theorem State.Settled.setPc (h : s.Settled) {i : ι} {pc : Pc}
    (hpc : ∀ id, pc.job = some id → (s.session i).pc.job = some id) :
    (s.setPc i pc).Settled := by
  intro j id
  rw [setPc_history]
  refine (h j id).mono fun hw => ?_
  by_cases hj : j = i
  · subst hj
    rw [State.setPc, setSession_self] at hw
    exact hpc id hw
  · rwa [State.setPc, setSession_ne hj] at hw

/-- A new job is pending, so nothing is settled by it. -/
theorem State.Settled.insert (h : s.Settled) {i : ι} {id : Id} {job : Job} (hfresh : s.Fresh id)
    (hpending : job.status = .pending) : (s.insert i id job).Settled := by
  -- Only the inserting session has a write more.
  intro j id'
  show SettledAt j ((s.rows.write i id job).own j)[id']? (s.job id') (s.history j id') _
  by_cases hj : j = i
  · subst hj
    rw [OpenRows.write_own_self]
    split
    · next hid =>
      subst hid
      refine ⟨fun row hrow ht => ?_, fun row hrow => ?_⟩
      · cases hrow
        rw [hpending] at ht
        cases ht
      · rw [State.job, hfresh.1.1] at hrow
        cases hrow
    · exact h j id'
  · rw [OpenRows.write_own_ne hj]
    exact h j id'

/-- The session that claims a job sees no finished one. -/
theorem State.Settled.claim (h : s.Settled) {i : ι} {id : Id} {workerId : String} {now : Time}
    {row : Job} (hrow : s.rows.row i id = some row)
    (hguard : row.candidate now ∨ row.status = .pending) :
    (s.claim i id (row.claim workerId now) now).Settled := by
  have hopen : row.status.terminal = false := by
    rcases hguard with hcandidate | hpending
    · rcases Job.candidate_iff.1 hcandidate with ⟨hst, _⟩ | ⟨hst, _⟩ <;>
        simp [hst, JobStatus.terminal]
    · simp [hpending, JobStatus.terminal]
  -- Were the committed row terminal, the session would have no write of its own and see it.
  have hcommitted : ∀ row', s.job id = some row' → row'.status.terminal = false := by
    intro row' hrow'
    by_contra hterm
    have hown := ((h i id).settled row' hrow' (by simpa using hterm)).1
    rw [OpenRows.row_of_own_none hown] at hrow
    cases hrow.symm.trans hrow'
    exact hterm hopen
  intro j id'
  show SettledAt j ((s.rows.write i id _).own j)[id']? (s.job id') _ _
  by_cases hid : id = id'
  · subst hid
    refine ⟨fun row' hown hterm => ?_, fun row' hrow' hterm => ?_⟩
    · by_cases hj : j = i
      · subst hj
        rw [OpenRows.write_own_self, if_pos rfl] at hown
        cases hown
        cases hterm
      · rw [OpenRows.write_own_ne hj] at hown
        rw [claim_history_of_ne (.inl hj)]
        refine ((h j id).mono fun hw => ?_).ended row' hown hterm
        rwa [State.claim, setSession_ne hj] at hw
    · rw [hcommitted row' hrow'] at hterm
      cases hterm
  · rw [OpenRows.write_own_of_ne hid, claim_history_of_ne (.inr hid)]
    refine (h j id').mono fun hw => ?_
    by_cases hj : j = i
    · subst hj
      rw [State.claim, setSession_self] at hw
      exact absurd (Option.some.inj hw) hid
    · rwa [State.claim, setSession_ne hj] at hw

/-- Starting the handler settles nothing. -/
theorem State.Settled.start (h : s.Settled) {i : ι} {id : Id} {job : Job}
    (hpc : (s.session i).pc = .claimed id job) : (s.start i id job).Settled := by
  intro j id'
  rw [start_history]
  refine (h j id').mono fun hw => ?_
  by_cases hj : j = i
  · subst hj
    rw [State.start, setSession_self] at hw
    rw [hpc]
    exact hw
  · rwa [State.start, setSession_ne hj] at hw

omit [DecidableEq ι] in
/-- A session whose transaction is dropped. -/
theorem SettledAt.dropped (hlocked : s.Locked) (h : s.Settled) {i : ι} {id : Id} {own : Option Job}
    (hown : own = none) {working : Prop} (himp : working → (s.session i).pc.job = some id) :
    SettledAt i own (s.job id) (ofJob s.log id) working where
  ended row hrow := by
    rw [hown] at hrow
    cases hrow
  settled row hrow ht := by
    obtain ⟨hnone, hnot⟩ := (h i id).settled row hrow ht
    rw [(hlocked.view_eq hnone).2] at hnot
    exact ⟨hown, fun hw => hnot (himp hw)⟩

/-- What a handler rolls back was never settled. -/
theorem State.Settled.handlerRollback (hlocked : s.Locked) (h : s.Settled) {i : ι} {id : Id}
    {job : Option Job} (hpc : (s.session i).pc = .running id job) :
    (s.handlerRollback i id).Settled := by
  intro j id'
  -- The session sees the committed row again; the others see what they saw.
  by_cases hj : j = i
  · subst hj
    rw [handlerRollback_history_self]
    refine .dropped hlocked h OpenRows.rollback_own_self fun hw => ?_
    rw [State.handlerRollback, setSession_self] at hw
    rw [hpc]
    exact hw
  · rw [handlerRollback_history_ne hj]
    show SettledAt j ((s.rows.rollback i).own j)[id']? (s.job id') _ _
    rw [OpenRows.rollback_own_ne hj]
    refine (h j id').mono fun hw => ?_
    rwa [State.handlerRollback, setSession_ne hj] at hw

/-- What a session rolls back was never settled. -/
theorem State.Settled.rollback (hlocked : s.Locked) (h : s.Settled) {i : ι} :
    (s.rollback i).Settled := by
  intro j id'
  by_cases hj : j = i
  · subst hj
    rw [rollback_history_self]
    refine .dropped hlocked h OpenRows.rollback_own_self fun hw => ?_
    rw [State.rollback, setSession_self] at hw
    cases hw
  · rw [rollback_history_ne hj]
    show SettledAt j ((s.rows.rollback i).own j)[id']? (s.job id') _ _
    rw [OpenRows.rollback_own_ne hj]
    refine (h j id').mono fun hw => ?_
    rwa [State.rollback, setSession_ne hj] at hw

/-- The owner of a job writes its outcome. -/
theorem State.Settled.record (h : s.Settled) {i : ι} {id : Id} {update : JobUpdate}
    {row row' : Job} (hpc : (s.session i).pc = .finished id update) (howns : s.Owns i id) :
    (s.record i id row row').Settled := by
  have hworking : (s.session i).pc.job = some id := by rw [hpc]; rfl
  intro j id'
  show SettledAt j ((s.rows.write i id row').own j)[id']? (s.job id') _ _
  -- The recorded job is settled by its claimant, and nobody else works on it.
  by_cases hid : id = id'
  · subst hid
    by_cases hj : j = i
    · subst hj
      rw [record_history_self]
      refine ⟨fun _ _ _ => ⟨by rw [lastClaimant_change]; exact howns, fun hw => ?_⟩,
        fun row₀ hrow₀ hterm => ?_⟩
      · rw [State.record, setSession_self] at hw
        cases hw
      · exact absurd howns (((h j id).settled row₀ hrow₀ hterm).2 hworking)
    · rw [OpenRows.write_own_ne hj, record_history_of_ne (.inl hj)]
      refine (h j id).mono fun hw => ?_
      rwa [State.record, setSession_ne hj] at hw
  · rw [OpenRows.write_own_of_ne hid, record_history_of_ne (.inr hid)]
    refine (h j id').mono fun hw => ?_
    by_cases hj : j = i
    · subst hj
      rw [State.record, setSession_self] at hw
      cases hw
    · rwa [State.record, setSession_ne hj] at hw

/-- A commit shows the outcome of the job's owner. -/
theorem State.Settled.commit (hlocked : s.Locked) (h : s.Settled) {i : ι} :
    (s.commit i).Settled := by
  have hpc : ∀ j, ((s.commit i).session j).pc = (s.session j).pc := fun j => by
    by_cases hj : j = i
    · subst hj
      rw [State.commit, setSession_self]
    · rw [State.commit, setSession_ne hj]
  have hjob : ∀ id, (s.commit i).job id = s.rows.row i id := fun id => OpenRows.get_commit
  intro j id
  rw [hpc j, hjob id]
  -- The session itself has nothing left to settle; the others see its rows now.
  by_cases hj : j = i
  · subst hj
    rw [commit_history_self]
    have hown : ((s.commit j).rows.own j)[id]? = none := OpenRows.commit_own_self
    cases hwrote : (s.rows.own j)[id]? with
    | none =>
      rw [OpenRows.row_of_own_none hwrote]
      exact (h j id).unwritten hown
    | some row =>
      rw [OpenRows.row_of_own hwrote]
      refine ⟨fun row' hrow' => ?_, fun row' hrow' hterm => ⟨hown, fun hw => ?_⟩⟩
      · rw [hown] at hrow'
        cases hrow'
      · cases hrow'
        exact absurd hw ((h j id).ended row hwrote hterm).2
  · have hown : (s.commit i).rows.own j = s.rows.own j := OpenRows.commit_own_ne hj
    rw [hown]
    rcases hlocked.commit_view hj id with ⟨hnone, _, hhist⟩ | ⟨hnone, _, hhist⟩
    · rw [hhist, OpenRows.row_of_own_none hnone]
      exact h j id
    · rw [hhist]
      cases hwrote : (s.rows.own i)[id]? with
      | none =>
        rw [OpenRows.row_of_own_none hwrote, (hlocked.view_eq hwrote).2,
          ← (hlocked.view_eq hnone).2]
        exact h j id
      | some row =>
        rw [OpenRows.row_of_own hwrote]
        refine ⟨fun row' hrow' => ?_, fun row' hrow' hterm => ⟨hnone, fun _ heq => hj ?_⟩⟩
        · rw [hnone] at hrow'
          cases hrow'
        · cases hrow'
          rw [((h i id).ended row hwrote hterm).1] at heq
          exact (Option.some.inj heq).symm

/-- Every step that records only for its own claim keeps terminal jobs settled. -/
theorem State.Settled.step (hlocked : s.Locked) (h : s.Settled) (hok : OwnClaims s l)
    (he : Effect s l s') : s'.Settled := by
  -- A step either writes the row of a job or moves a session on.
  cases he with
  | same => exact h
  | insert i id args availableAt createdAt hfresh => exact h.insert hfresh rfl
  | look _ i pc _ hnext =>
    refine h.setPc fun id hid => ?_
    rw [hnext] at hid
    cases hid
  | claim _ i id workerId now row _ _ _ hrow hguard => exact h.claim hrow hguard
  | start i id job hpc => exact h.start hpc
  | handlerRollback i id job hpc => exact h.handlerRollback hlocked hpc
  | finish i id job outcome now hpc =>
    refine h.setPc fun id' hid => ?_
    rw [hpc]
    exact hid
  | finishExpired i id row outcome now hpc =>
    refine h.setPc fun id' hid => ?_
    rw [hpc]
    exact hid
  | vanish => exact h.setPc fun id' hid => by cases hid
  | record i id update row hpc =>
    exact h.record hpc (hok id (by rw [hpc]; rfl))
  | commit => exact h.commit hlocked
  | rollback => exact h.rollback hlocked

/-! ## Absorption -/

/-- A step under the condition leaves a finished job as it is. -/
theorem State.Settled.keeps (h : s.Settled) {id : Id} {row : Job} (hrow : s.job id = some row)
    (hterm : row.status.terminal) (hok : OwnClaims s l) (he : Effect s l s') :
    s'.job id = some row ∧ s'.starts id = s.starts id := by
  -- Only a start and a commit change what the statement is about.
  cases he with
  | start i id' job hpc =>
    refine ⟨hrow, ?_⟩
    have hworking : (s.session i).pc.job = some id' := by rw [hpc]; rfl
    refine Function.update_of_ne (fun hid => ?_) _ _
    subst hid
    exact ((h i id).settled row hrow hterm).2 hworking (hok id hworking)
  | commit i =>
    refine ⟨?_, rfl⟩
    show (s.rows.commit i).committed[id]? = some row
    rw [OpenRows.get_commit, OpenRows.row_of_own_none ((h i id).settled row hrow hterm).1]
    exact hrow
  | _ => exact ⟨hrow, rfl⟩

variable [Fintype ι] {jobs : Table Job} {t u : State ι}

/-- In every run whose outcomes are recorded by the claimants, terminal jobs are settled. -/
theorem settled_of_run (h : Run step OwnClaims (.quiescent jobs) s) : s.Locked ∧ s.Settled := by
  refine h.invariant (P := fun s => s.Locked ∧ s.Settled)
    ⟨locked_quiescent jobs, settled_quiescent jobs⟩ fun s l u hs hok hl => ?_
  have he := step_effect hl
  exact ⟨hs.1.step he, hs.2.step hs.1 hok he⟩

/-- Along every run under the condition, of any number of sessions and from any table of
    jobs: once a job is committed as finished, no step changes its status and its handler is
    not started again. -/
theorem terminal_absorbing {id : Id} {job : Job} (h₁ : Run step OwnClaims (.quiescent jobs) t)
    (hjob : t.job id = some job) (hterminal : job.status.terminal)
    (h₂ : Run step OwnClaims t u) :
    (∃ job', u.job id = some job' ∧ job'.status = job.status) ∧ u.starts id = t.starts id := by
  have hinv : (u.Locked ∧ u.Settled) ∧ u.job id = some job ∧ u.starts id = t.starts id := by
    refine h₂.invariant (P := fun u => (u.Locked ∧ u.Settled) ∧ u.job id = some job ∧
      u.starts id = t.starts id) ⟨settled_of_run h₁, hjob, rfl⟩ fun s l u hs hok hl => ?_
    have ⟨⟨hlocked, hsettled⟩, hrow, hstarts⟩ := hs
    have he := step_effect hl
    have ⟨hrow', hstarts'⟩ := hsettled.keeps hrow hterminal hok he
    exact ⟨⟨hlocked.step he, hsettled.step hlocked hok he⟩, hrow', hstarts'.trans hstarts⟩
  exact ⟨⟨job, hinv.2.1, rfl⟩, hinv.2.2⟩

/-- Session `i` enqueues job 7 and commits. -/
def enqueueSeven (i : Fin 2) (maxAttempts : Int) : List (Label (Fin 2)) :=
  [.enqueue i 7 ⟨"run_import", [], "admin", none, maxAttempts⟩ 0 0, .commit i]

/-- Session `i` claims job 7 at `now` and commits. -/
def claimSeven (i : Fin 2) (now : Time) : List (Label (Fin 2)) :=
  [.poll i "worker" now, .select i (some 7), .update i, .commit i]

/-- Session `i` runs its job, and commits the outcome. -/
def runClaimed (i : Fin 2) (outcome : Except String JsonObject) (now : Time) :
    List (Label (Fin 2)) :=
  [.start i, .finish i outcome now, .flush i, .commit i]

/-- Worker `i` claims the job and stalls; two minutes later worker `j` claims it and
    succeeds. -/
def slowWorker (i j : Fin 2) : List (Label (Fin 2)) :=
  enqueueSeven i 3 ++ claimSeven i 1 ++ claimSeven j 120000001 ++
    runClaimed j (.ok []) 120000002

/-- Two workers, one after the other: the job stays succeeded and does not start again. -/
theorem terminal_absorbing_inTurn :
    ∃ t u : State (Fin 2), (t.job 7).map Job.status = some .succeeded ∧
      (u.job 7).map Job.status = some .succeeded ∧ u.starts 7 = t.starts 7 := by
  have hfirst : ∃ t,
      Run.exec (Run.guarded step OwnClaims) (.quiescent ∅) (slowWorker 0 1) = some t ∧
      (t.job 7).map Job.status = some .succeeded ∧
      ∃ u, Run.exec (Run.guarded step OwnClaims) t [.rollback 0, .poll 0 "worker" 999999999,
        .select 0 none] = some u := ⟨_, rfl, rfl, _, rfl⟩
  obtain ⟨t, ht, hstatus, u, hu⟩ := hfirst
  obtain ⟨job, hjob, hsucceeded⟩ := Option.map_eq_some_iff.1 hstatus
  obtain ⟨⟨job', hjob', hsame⟩, hstarts⟩ := terminal_absorbing (Run.of_exec_guarded _ ht) hjob
    (by rw [hsucceeded]; rfl) (Run.of_exec_guarded _ hu)
  exact ⟨t, u, hstatus, by rw [hjob']; simp [hsame, hsucceeded], hstarts⟩

/-- The stalled worker goes on: it runs the handler of the succeeded job again and returns
    the job to `pending`. -/
theorem terminal_absorbing_slowWorker :
    ¬ ∀ (t u : State (Fin 2)) (id : Id) (job : Job),
      Run step (fun _ _ => True) (.quiescent ∅) t → t.job id = some job → job.status.terminal →
      Run step (fun _ _ => True) t u →
        (∃ job', u.job id = some job' ∧ job'.status = job.status) ∧
          u.starts id = t.starts id := by
  intro hall
  -- The first worker is slower than the threshold; the second has succeeded meanwhile.
  have hruns : ∃ t, Run.exec step (.quiescent ∅) (slowWorker 0 1) = some t ∧
      (t.job 7).map Job.status = some .succeeded ∧
      ∃ u, Run.exec step t (runClaimed 0 (.error "boom") 120000003) = some u ∧
        (u.job 7).map Job.status = some .pending := ⟨_, rfl, rfl, _, rfl, rfl⟩
  obtain ⟨t, ht, hstatus, u, hu, hpending⟩ := hruns
  obtain ⟨job, hjob, hsucceeded⟩ := Option.map_eq_some_iff.1 hstatus
  obtain ⟨⟨job', hjob', hsame⟩, _⟩ := hall t u 7 job (Run.of_exec_true _ ht) hjob
    (by rw [hsucceeded]; rfl) (Run.of_exec_true _ hu)
  rw [hjob', Option.map_some, hsame, hsucceeded] at hpending
  cases hpending

end MiniGrc.Jobs
