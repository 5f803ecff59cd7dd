import MiniGrc.App.Worker
import MiniGrc.Spec.JobAttempts
import MiniGrc.Spec.JobRetries

/-!
# The queue makes progress

A turn of the worker that finds a job uses up one of the attempts that the job has left, so
a job that is due is passed over at most as often as the jobs ahead of it have attempts left,
however many jobs arrive after it; and the worker has work for as many turns at most as there
are attempts in the queue.

## Key results

- `turn_jobs`: what a turn does to the table of jobs
- `arrivals_enqueueJob`, `arrivals_claimSpecificJob`, `arrivals_processNextJob`: the commits of
  other processes that give no attempts back
- `passed_over_le`, `busy_turns_le`
-/

namespace MiniGrc.Worker

open Jobs hiding Session State
open JobRuns Connections Imports

variable {ρ : Type} {imps : Importers ρ} {workerId : String} {db db' : Db ρ} {id : Id} {row : Job}
  {env : ImportEnv} {probe : ExternalConnection → Option String} {now concludedAt : Time}

/-! ## The candidate -/

/-- There is no earliest job of the empty list. -/
theorem earliest_eq_none {l : List (Id × Job)} : earliest l = none ↔ l = [] := by
  cases l with
  | nil => simp [earliest]
  | cons x l =>
    simp only [earliest, reduceCtorEq, iff_false]
    split
    · simp
    · split <;> simp

/-- The first of the rows that have been created first. -/
theorem earliest_eq_some {l : List (Id × Job)} {x : Id × Job} (h : earliest l = some x) :
    x ∈ l ∧ ∀ y ∈ l, x.2.createdAt ≤ y.2.createdAt := by
  -- The earliest of the tail is compared with the head, as the query's order does.
  induction l generalizing x with
  | nil => cases h
  | cons z l ih =>
    simp only [earliest] at h
    split at h
    · next hnone =>
      cases h
      rw [earliest_eq_none.1 hnone]
      simp
    · next y hy =>
      obtain ⟨hmem, hle⟩ := ih hy
      split at h
      · next hlt =>
        cases h
        refine ⟨List.mem_cons_of_mem _ hmem, fun w hw => ?_⟩
        rcases List.mem_cons.1 hw with rfl | hw
        · exact Nat.le_of_lt hlt
        · exact hle w hw
      · next hge =>
        cases h
        refine ⟨List.mem_cons_self, fun w hw => ?_⟩
        rcases List.mem_cons.1 hw with rfl | hw
        · exact Nat.le_refl _
        · exact Nat.le_trans (Nat.not_lt.1 hge) (hle w hw)

/-- The candidates are the jobs of the table that can be claimed now. -/
theorem mem_candidates {x : Id × Job} :
    (x ∈ db.jobs.toList.filter fun x => x.2.candidate now) ↔
      db.jobs[x.1]? = some x.2 ∧ x.2.candidate now = true := by
  rw [List.mem_filter]
  exact and_congr_left fun _ => Std.ExtTreeMap.mem_toList_iff_getElem?_eq_some

/-- The candidate is a job that can be claimed, and none that can be is older. -/
theorem candidateOf_eq_some (h : candidateOf db now = some (id, row)) :
    (db.jobs[id]? = some row ∧ row.candidate now = true) ∧
      ∀ (id' : Id) row', db.jobs[id']? = some row' → row'.candidate now = true →
        row.createdAt ≤ row'.createdAt := by
  obtain ⟨hmem, hle⟩ := earliest_eq_some h
  exact ⟨mem_candidates.1 hmem, fun id' row' hrow' hdue =>
    hle (id', row') (mem_candidates.2 ⟨hrow', hdue⟩)⟩

/-! ## An attempt -/

/-- The attempts that a job has left: one at least while it is not over. -/
def remaining (job : Job) : Nat :=
  if job.status.terminal then 0 else (max 1 (job.maxAttempts - job.attempts)).toNat

/-- The job has used up an attempt; nothing has been done to what it is. -/
structure UsedUp (row row' : Job) : Prop where
  createdAt : row'.createdAt = row.createdAt
  payload : row'.payloadJson = row.payloadJson
  remaining : Worker.remaining row' + 1 ≤ Worker.remaining row

/-- A job is due only as long as it is not over. -/
theorem not_terminal_of_candidate (h : row.candidate now = true) : row.status.terminal = false := by
  unfold Job.candidate at h
  split at h
  · next hstatus => rw [hstatus]; rfl
  · next hstatus => rw [hstatus]; rfl
  · cases h
  · cases h

/-- An open job has at least one turn left. -/
theorem one_le_remaining (h : row.status.terminal = false) : 1 ≤ remaining row := by
  unfold remaining
  rw [h]
  simp only [Bool.false_eq_true, if_false]
  omega

/-- A job that is over has used up its attempts. -/
theorem UsedUp.of_terminal {row' : Job} (hrow : row.status.terminal = false)
    (hcreated : row'.createdAt = row.createdAt) (hpayload : row'.payloadJson = row.payloadJson)
    (hover : row'.status.terminal = true) : UsedUp row row' := by
  refine ⟨hcreated, hpayload, ?_⟩
  have hone := one_le_remaining hrow
  have hzero : Worker.remaining row' = 0 := by simp [Worker.remaining, hover]
  omega

/-- The update of an object that has been loaded makes the row what the object is. -/
theorem apply_between_status (job current : Job) :
    ((JobUpdate.between job current).apply job).status = current.status ∧
      ((JobUpdate.between job current).apply job).attempts = current.attempts :=
  ⟨JobUpdate.net_getD _ _, JobUpdate.net_getD _ _⟩

/-- A run that ends without a rollback uses up an attempt. -/
theorem usedUp_between {job : Job} (hrow : row.status.terminal = false)
    (hjob : job = row.claim workerId now) (outcome : Except String JsonObject) :
    UsedUp row ((JobUpdate.between job (job.attempt.conclude outcome concludedAt)).apply job) := by
  obtain ⟨hstatus, hattempts⟩ :=
    apply_between_status job (job.attempt.conclude outcome concludedAt)
  subst hjob
  -- A success ends the job; a failure ends it or takes one attempt from those left.
  cases outcome with
  | ok result =>
    refine .of_terminal hrow rfl rfl ?_
    rw [hstatus]
    rfl
  | error message =>
    by_cases hmax : row.maxAttempts ≤ ((row.attempts + 1 : Nat) : Int)
    · refine .of_terminal hrow rfl rfl ?_
      rw [hstatus]
      have hfailed := (Job.fail_status_iff (row.claim workerId now).attempt message
        concludedAt).2 hmax
      show (Job.fail _ _ _).status.terminal = true
      rw [hfailed]
      rfl
    · refine ⟨rfl, rfl, ?_⟩
      have hpending : ((row.claim workerId now).attempt.fail message concludedAt).status =
          .pending := by
        unfold Job.fail
        exact congrArg Job.status (if_neg hmax)
      have hleft : Worker.remaining ((JobUpdate.between (row.claim workerId now)
          ((row.claim workerId now).attempt.conclude (.error message) concludedAt)).apply
            (row.claim workerId now)) =
          (max 1 (row.maxAttempts - ((row.attempts + 1 : Nat) : Int))).toNat := by
        unfold Worker.remaining
        rw [hstatus, hattempts]
        show (if (Job.fail _ _ _).status.terminal then 0 else
          (max 1 (row.maxAttempts - (Job.fail _ _ _).attempts)).toNat) = _
        rw [hpending, Job.fail_attempts]
        rfl
      rw [hleft]
      unfold Worker.remaining
      rw [hrow]
      simp only [Bool.false_eq_true, if_false]
      omega

/-! ## The registered handlers -/

/-- The arguments of an import can be read from the payload, as `enqueue_and_run_import` has
    written it. -/
def Readable (job : Job) : Prop := argsOf job.payloadJson ≠ .error .brokenTransaction

/-- An import leaves the jobs alone, whether it rolls back or not. -/
theorem runImport_jobs (imps : Importers ρ) (env : ImportEnv) {s : JobRuns.Session ρ}
    (hs : s.committed.jobs = s.current.jobs) (args : ImportArgs) (maxBytes : Nat) :
    (runImport imps env none s args maxBytes).1.current.jobs = s.current.jobs := by
  simp only [runImport, reject, importRows, rejectAfterRollback, reduceCtorEq, if_false]
  split
  · rfl
  split
  · rfl
  split
  · rfl
  split
  · rfl
  split
  · -- what the importer raises rolls the session back
    exact hs
  · rfl

/-- A registered handler leaves the jobs alone, and it returns or raises before it has done
    anything. -/
theorem registered_ends {s s' : JobRuns.Session ρ} {jobType : String} {payload : JsonObject}
    {handler : JobHandler ρ} {r : Except Raised JsonObject}
    (hs : s.committed.jobs = s.current.jobs)
    (hreadable : argsOf payload ≠ .error .brokenTransaction)
    (hhandler : registered imps env none probe jobType = some handler)
    (h : handler s payload = (s', r)) :
    s'.current.jobs = s.current.jobs ∧
      ((∃ result, r = .ok result) ∨ ∃ message, r = .error (.exception message) ∧ s' = s) := by
  cases r with
  | ok result =>
    refine ⟨?_, .inl ⟨result, rfl⟩⟩
    unfold registered at hhandler
    split at hhandler
    · cases hhandler
      simp only [runImportJobHandler] at h
      split at h
      · cases h
      · cases h
      · next args _ =>
        have hjobs := runImport_jobs imps env hs args defaultMaxBytes
        split at h
        · cases h
        · next heq =>
          rw [heq] at hjobs
          cases h
          exact hjobs
    · split at hhandler
      · cases hhandler
        simp only [connectionTestJobHandler] at h
        split at h
        · cases h
        · split at h
          · cases h
          · cases h
            rfl
      · cases hhandler
  | error raised =>
    cases raised with
    | exception message =>
      obtain rfl := registered_unchanged hhandler h
      exact ⟨rfl, .inr ⟨message, rfl, rfl⟩⟩
    | brokenTransaction =>
      -- only unreadable arguments break the transaction
      exfalso
      unfold registered at hhandler
      split at hhandler
      · cases hhandler
        simp only [runImportJobHandler] at h
        split at h
        · next heq => exact hreadable heq
        · next raised hne heq =>
          cases h
          exact hreadable heq
        · next args _ =>
          obtain ⟨x, hx⟩ := runImport_returns imps env s args defaultMaxBytes
          split at h
          · next heq =>
            rw [heq] at hx
            cases hx
          · cases h
      · split at hhandler
        · cases hhandler
          simp only [connectionTestJobHandler] at h
          split at h
          · cases h
          · split at h
            · cases h
            · cases h
        · cases hhandler

/-- Without a rollback the outcome is written over the job as it was claimed. -/
theorem outcomeUpdate_of_not_rolledBack {s : JobRuns.Session ρ} {job : Job}
    {outcome : Except String JsonObject} (h : s.rolledBack = false) :
    outcomeUpdate s id job outcome now = .between job (job.attempt.conclude outcome now) := by
  unfold outcomeUpdate
  rw [h]
  rfl

/-- What `run_job` writes, if there still is a row. -/
theorem recordOutcome_row {s : JobRuns.Session ρ} {job current : Job}
    {outcome : Except String JsonObject} {actor : String}
    (hrow : s.current.jobs[id]? = some current) :
    (recordOutcome s id job outcome actor now).1.current.jobs =
      s.current.jobs.insert id ((outcomeUpdate s id job outcome now).apply current) := by
  simp only [recordOutcome, hrow]
  rfl

/-- A run that returns is over, whether it has rolled back or not. -/
theorem usedUp_returned {s : JobRuns.Session ρ} {job : Job} {result : JsonObject}
    (hrow : row.status.terminal = false) (hjob : job = row.claim workerId now)
    (hcurrent : s.current.jobs[id]? = some job) :
    UsedUp row ((outcomeUpdate s id job (.ok result) concludedAt).apply job) := by
  -- A rollback inside the handler expires the row: the outcome is written over the reloaded one.
  cases hrolled : s.rolledBack with
  | false =>
    rw [outcomeUpdate_of_not_rolledBack hrolled]
    exact usedUp_between hrow hjob _
  | true =>
    subst hjob
    have hupdate : outcomeUpdate s id (row.claim workerId now) (.ok result) concludedAt =
        JobUpdate.afterExpiry (.ok result) concludedAt (row.claim workerId now) := by
      unfold outcomeUpdate
      rw [if_pos hrolled, hcurrent]
      rfl
    rw [hupdate]
    exact .of_terminal hrow rfl rfl rfl

/-- `process_next_job` records that there is no handler. -/
theorem processNextJob_of_no_handler {handlers : String → Option (JobHandler ρ)}
    (workerId actor : String) (concludedAt : Time)
    (hcandidate : candidateOf db now = some (id, row)) (hhandler : handlers row.jobType = none) :
    ∃ message, processNextJob handlers db workerId actor now concludedAt =
      (recordOutcome (claimedSession db id (row.claim workerId now)) id (row.claim workerId now)
        (.error message) actor concludedAt).1.current := by
  have htype : (row.claim workerId now).jobType = row.jobType := rfl
  simp only [processNextJob, hcandidate, runJob, htype, hhandler]
  exact ⟨_, rfl⟩

/-- What a turn does to the jobs: the candidate uses up an attempt. -/
theorem turn_jobs (imps : Importers ρ) (workerId : String) (env : ImportEnv)
    (probe : ExternalConnection → Option String) (concludedAt : Time)
    (hcandidate : candidateOf db now = some (id, row)) (hreadable : Readable row) :
    ∃ row', UsedUp row row' ∧
      (processNextJob (registered imps env none probe) db workerId "worker" now concludedAt).jobs =
        db.jobs.insert id row' := by
  have hrow : row.status.terminal = false :=
    not_terminal_of_candidate (candidateOf_eq_some hcandidate).1.2
  have hclaimed : (claimedSession db id (row.claim workerId now)).current.jobs =
      db.jobs.insert id (row.claim workerId now) := rfl
  -- whatever the session is in which the outcome is recorded
  have hrecord : ∀ (s' : JobRuns.Session ρ) outcome,
      s'.current.jobs = db.jobs.insert id (row.claim workerId now) →
      UsedUp row ((outcomeUpdate s' id (row.claim workerId now) outcome concludedAt).apply
        (row.claim workerId now)) →
      ∃ row', UsedUp row row' ∧ (recordOutcome s' id (row.claim workerId now) outcome "worker"
        concludedAt).1.current.jobs = db.jobs.insert id row' := by
    intro s' outcome hjobs hused
    have hcurrent : s'.current.jobs[id]? = some (row.claim workerId now) := by
      rw [hjobs, Table.get_insert_self]
    refine ⟨_, hused, ?_⟩
    rw [recordOutcome_row hcurrent, hjobs, Table.insert_insert]
  cases hhandler : registered imps env none probe row.jobType with
  | none =>
    obtain ⟨message, hturn⟩ := processNextJob_of_no_handler workerId "worker"
      concludedAt hcandidate hhandler
    rw [hturn]
    refine hrecord _ _ hclaimed ?_
    rw [outcomeUpdate_of_not_rolledBack rfl]
    exact usedUp_between hrow rfl _
  | some handler =>
    obtain ⟨⟨s', r⟩, hrun⟩ : ∃ x, handler (claimedSession db id (row.claim workerId now))
      row.payloadJson = x := ⟨_, rfl⟩
    obtain ⟨hsame, hend⟩ := registered_ends rfl hreadable hhandler hrun
    have hr : r ≠ .error .brokenTransaction := by
      rcases hend with ⟨result, rfl⟩ | ⟨message, rfl, -⟩
      · exact fun heq => by cases heq
      · exact fun heq => by cases heq
    rw [processNextJob_of_handler hcandidate hhandler hrun hr]
    refine hrecord s' _ (hsame.trans hclaimed) ?_
    rcases hend with ⟨result, rfl⟩ | ⟨message, rfl, rfl⟩
    · exact usedUp_returned hrow rfl (by rw [hsame, hclaimed, Table.get_insert_self])
    · rw [outcomeUpdate_of_not_rolledBack rfl]
      exact usedUp_between hrow rfl _

/-! ## Runs of the worker -/

/-- The payloads of all jobs can be read. -/
def AllReadable (db : Db ρ) : Prop := ∀ (id : Id) job, db.jobs[id]? = some job → Readable job

/-- What another process may do to a job: it does not give attempts back. -/
structure Spends (row row' : Job) : Prop where
  createdAt : row'.createdAt = row.createdAt
  payload : row'.payloadJson = row.payloadJson
  remaining : Worker.remaining row' ≤ Worker.remaining row

theorem Spends.refl (row : Job) : Spends row row := ⟨rfl, rfl, Nat.le_refl _⟩

/-- A turn used up is a turn spent. -/
theorem UsedUp.spends {row' : Job} (h : UsedUp row row') : Spends row row' := by
  have hless := h.remaining
  exact ⟨h.createdAt, h.payload, by omega⟩

/-- A claim of a job that is not over takes no attempt yet. -/
theorem spends_claim (hrow : row.status.terminal = false) (now : Time) :
    Spends row (row.claim workerId now) := by
  have hrunning : (row.claim workerId now).status.terminal = false := rfl
  have hsame : Worker.remaining (row.claim workerId now) = Worker.remaining row := by
    unfold Worker.remaining
    rw [hrow, hrunning]
    rfl
  exact ⟨rfl, rfl, Nat.le_of_eq hsame⟩

/-- Other processes give none of the jobs attempts back that are there; those that they add
    meet `p`, and their payloads can be read. -/
def Arrivals (p : Job → Prop) (db : Db ρ) : Label ρ → Prop
  | .commit db' => db.jobs.Develops db'.jobs Spends fun _ job => p job ∧ Readable job
  | .turn _ _ _ _ => True

instance (job : Job) : Decidable (Readable job) :=
  match h : argsOf job.payloadJson with
  | .error .brokenTransaction => isFalse fun hreadable => hreadable h
  | .ok _ => isTrue fun heq => by rw [h] at heq; cases heq
  | .error (.exception _) => isTrue fun heq => by rw [h] at heq; cases heq

instance (row row' : Job) : Decidable (Spends row row') :=
  decidable_of_iff (row'.createdAt = row.createdAt ∧ row'.payloadJson = row.payloadJson ∧
      remaining row' ≤ remaining row)
    ⟨fun h => ⟨h.1, h.2.1, h.2.2⟩, fun h => ⟨h.createdAt, h.payload, h.remaining⟩⟩

instance (p : Job → Prop) [DecidablePred p] (db : Db ρ) (l : Label ρ) :
    Decidable (Arrivals p db l) :=
  match l with
  | .commit db' => inferInstanceAs (Decidable (db.jobs.Develops db'.jobs Spends _))
  | .turn _ _ _ _ => isTrue trivial

/-- A request that enqueues a job leaves the others alone. -/
theorem arrivals_enqueueJob {p : Job → Prop} {newId : Id} {args : EnqueueArgs}
    {availableAt createdAt : Time} (hfresh : newId ∉ db.jobs)
    (hp : p (args.job availableAt createdAt))
    (hreadable : Readable (args.job availableAt createdAt)) :
    Arrivals p db (.commit
      (enqueueJob (JobRuns.Session.fresh db) newId args availableAt createdAt).1.current) := by
  simp only [Arrivals, enqueueJob]
  split
  · exact .refl Spends.refl _ _
  · exact Table.develops_insert_new Spends.refl hfresh ⟨hp, hreadable⟩

/-- A request that claims the job that it has enqueued gives no attempts back. -/
theorem arrivals_claimSpecificJob {p : Job → Prop} (db : Db ρ) (id : Id) (workerId : String)
    (now : Time) :
    Arrivals p db (.commit
      (claimSpecificJob (JobRuns.Session.fresh db) id workerId now).1.current) := by
  simp only [Arrivals, claimSpecificJob]
  split
  · next row hrow =>
    split
    · next hpending =>
      have hopen : row.status.terminal = false := by rw [hpending]; rfl
      exact Table.develops_insert_old Spends.refl hrow (spends_claim hopen now)
    · exact .refl Spends.refl _ _
  · exact .refl Spends.refl _ _

/-- Nor does a whole turn of another worker. -/
theorem arrivals_processNextJob {p : Job → Prop} (hreadable : AllReadable db) :
    Arrivals p db (.commit
      (processNextJob (registered imps env none probe) db workerId "worker" now concludedAt)) := by
  simp only [Arrivals]
  cases hcandidate : candidateOf db now with
  | none =>
    simp only [processNextJob, hcandidate]
    exact .refl Spends.refl _ _
  | some x =>
    have hx := (candidateOf_eq_some hcandidate).1.1
    obtain ⟨row', hused, hjobs⟩ := turn_jobs imps workerId env probe concludedAt hcandidate
      (hreadable x.1 x.2 hx)
    rw [hjobs]
    exact Table.develops_insert_old Spends.refl hx hused.spends

/-- Every row stays readable. -/
theorem AllReadable.step {p : Job → Prop} {l : Label ρ} (h : AllReadable db)
    (hok : Arrivals p db l) (hs : step imps workerId db l = some db') : AllReadable db' := by
  intro k job hjob
  cases l with
  | commit db'' =>
    cases hs
    rcases hok.added k job hjob with hold | hnew
    · -- another process has left the payload alone
      obtain ⟨old, hold⟩ := Table.exists_get hold
      obtain ⟨job', hjob', hspends⟩ := hok.kept k old hold
      obtain rfl : job = job' := Option.some.inj (hjob.symm.trans hjob')
      rw [Readable, hspends.payload]
      exact h k old hold
    · exact hnew.2
  | turn env probe now concludedAt =>
    cases hs
    cases hcandidate : candidateOf db now with
    | none =>
      simp only [processNextJob, hcandidate] at hjob
      exact h k job hjob
    | some x =>
      have hx := (candidateOf_eq_some hcandidate).1.1
      obtain ⟨row', hused, hjobs⟩ := turn_jobs imps workerId env probe concludedAt hcandidate
        (h x.1 x.2 hx)
      rw [hjobs] at hjob
      rcases Table.of_get_insert hjob with ⟨-, rfl⟩ | hold
      · rw [Readable, hused.payload]
        exact h x.1 x.2 hx
      · exact h k job hold

/-! ## Being passed over -/

/-- What the jobs weigh that have been created no later than the job `j`. -/
def ahead (j : Id) (createdAt : Time) (k : Id) (job : Job) : Nat :=
  if k ≠ j ∧ job.createdAt ≤ createdAt then remaining job else 0

/-- A turn that takes another job although `j` is due. -/
def passesOver (j : Id) (db : Db ρ) : Label ρ → Nat
  | .commit _ => 0
  | .turn _ _ now _ =>
    match candidateOf db now, db.jobs[j]? with
    | some (id, _), some row => if id ≠ j ∧ row.candidate now = true then 1 else 0
    | _, _ => 0

/-- The row of `j` may change, but not when it was created. -/
def CreatedAt (j : Id) (createdAt : Time) (db : Db ρ) : Prop :=
  ∃ row, db.jobs[j]? = some row ∧ row.createdAt = createdAt

/-- A turn that passes over `j` uses up an attempt of a job ahead of it. -/
theorem passesOver_pays {j : Id} {createdAt : Time} {l : Label ρ} (hreadable : AllReadable db)
    (hj : CreatedAt j createdAt db)
    (hok : Arrivals (fun job => createdAt < job.createdAt) db l)
    (hs : step imps workerId db l = some db') :
    CreatedAt j createdAt db' ∧ passesOver j db l + Table.weight (ahead j createdAt) db'.jobs ≤
      Table.weight (ahead j createdAt) db.jobs := by
  obtain ⟨row, hrow, hcreated⟩ := hj
  cases l with
  | commit db'' =>
    cases hs
    obtain ⟨row', hrow', hspends⟩ := hok.kept j row hrow
    refine ⟨⟨row', hrow', hspends.createdAt.trans hcreated⟩, ?_⟩
    have hgain : Table.gain (ahead j createdAt) db.jobs db'.jobs = 0 :=
      Table.gain_eq_zero hok fun k job hnew => by
        have hlate : ¬ job.createdAt ≤ createdAt := Nat.not_le.2 hnew.1
        simp [ahead, hlate]
    have hweight := hok.weight_le (f := ahead j createdAt) fun k job job' hspends => by
      unfold ahead
      rw [hspends.createdAt]
      have hless := hspends.remaining
      split <;> omega
    show 0 + _ ≤ _
    omega
  | turn env probe now concludedAt =>
    cases hs
    cases hcandidate : candidateOf db now with
    | none =>
      simp only [passesOver, processNextJob, hcandidate]
      exact ⟨⟨row, hrow, hcreated⟩, by omega⟩
    | some x =>
      obtain ⟨k, first⟩ := x
      obtain ⟨⟨hfirst, -⟩, hle⟩ := candidateOf_eq_some hcandidate
      obtain ⟨first', hused, hjobs⟩ := turn_jobs imps workerId env probe concludedAt hcandidate
        (hreadable k first hfirst)
      have hweight := Table.weight_insert_old (f := ahead j createdAt) (r := first') hfirst
      have hcost : passesOver j db (.turn env probe now concludedAt) ≤ 1 := by
        simp only [passesOver, hcandidate, hrow]
        split <;> omega
      rw [hjobs]
      by_cases hkj : k = j
      · -- `j` itself has its turn
        subst hkj
        obtain rfl : first = row := Option.some.inj (hfirst.symm.trans hrow)
        refine ⟨⟨first', by rw [hjobs, Table.get_insert_self], hused.createdAt.trans hcreated⟩, ?_⟩
        have hself : ∀ job, ahead k createdAt k job = 0 := fun job => by simp [ahead]
        have hnone : passesOver k db (.turn env probe now concludedAt) = 0 := by
          simp [passesOver, hcandidate, hrow]
        rw [hself, hself] at hweight
        omega
      · refine ⟨⟨row, by rw [hjobs, Table.get_insert_ne hkj, hrow], hcreated⟩, ?_⟩
        have hsame := hused.createdAt
        have hless := hused.remaining
        by_cases hearly : first.createdAt ≤ createdAt
        · have hbefore : ahead j createdAt k first = remaining first := if_pos ⟨hkj, hearly⟩
          have hafter : ahead j createdAt k first' = remaining first' :=
            if_pos ⟨hkj, hsame ▸ hearly⟩
          rw [hbefore, hafter] at hweight
          omega
        · -- then `j` is not due, as it was created first
          have hbefore : ahead j createdAt k first = 0 := if_neg fun h => hearly h.2
          have hafter : ahead j createdAt k first' = 0 :=
            if_neg fun h => hearly (hsame ▸ h.2)
          have hnotdue : ¬ (k ≠ j ∧ row.candidate now = true) := fun h =>
            hearly (hcreated ▸ hle j row hrow h.2)
          have hnone : passesOver j db (.turn env probe now concludedAt) = 0 := by
            simp only [passesOver, hcandidate, hrow]
            exact if_neg hnotdue
          rw [hbefore, hafter] at hweight
          omega

/-- No job starves: in every run in which no other process gives attempts back, `j` is passed
    over while it is due at most as often as the jobs that were created no later have attempts
    left at the start, whatever arrives after it. -/
theorem passed_over_le {j : Id} {n : Nat} (hj : db.jobs[j]? = some row)
    (hreadable : AllReadable db)
    (h : Run (Run.metered (step imps workerId) (passesOver j))
      (fun u l => Arrivals (fun job => row.createdAt < job.createdAt) u.1 l) (db, 0) (db', n)) :
    n ≤ Table.weight (ahead j row.createdAt) db.jobs := by
  have hle := Run.cost_le (fun db => Table.weight (ahead j row.createdAt) db.jobs)
    (fun db => AllReadable db ∧ CreatedAt j row.createdAt db) h ⟨hreadable, row, hj, rfl⟩ ?_
  · exact (Nat.le_add_right _ _).trans hle
  · rintro u l v ⟨hu, hcreated⟩ hok hs
    obtain ⟨hcreated', hpays⟩ := passesOver_pays hu hcreated hok hs
    exact ⟨⟨hu.step hok hs, hcreated'⟩, hpays⟩

/-- A test of a connection that does not exist. -/
def sampleTest (maxAttempts : Int) : EnqueueArgs :=
  ⟨"connection_test", [("connection_id", .id 9)], "admin", none, maxAttempts⟩

/-- Two connection tests that fail are waiting, the first with two attempts. -/
def sampleQueue : Db Unit where
  jobs := ((∅ : Table Job).insert 1 ((sampleTest 2).job 1 1)).insert 2 ((sampleTest 1).job 2 2)
  importJobs := ∅
  connections := ∅
  auditEvents := []
  records := ∅

/-- A turn that claims at `now`. -/
def sampleTurn (now : Time) : Label Unit :=
  .turn ⟨10, 11, fun k => 20 + k, 5, 5, 6⟩ (fun _ => none) now (now + 1)

/-- There are no importers. -/
def sampleStep : Db Unit → Label Unit → Option (Db Unit) :=
  step ⟨fun _ => none, fun _ => ""⟩ "w"

/-- After the first turn a third job arrives. -/
def thirdJob : Label Unit :=
  .commit (((sampleStep sampleQueue (sampleTurn 10)).map fun db =>
    (enqueueJob (JobRuns.Session.fresh db) 3 (sampleTest 3) 20 20).1.current).getD sampleQueue)

/-- The first job has both of its attempts before the second one. -/
def sampleSchedule : List (Label Unit) :=
  [sampleTurn 10, thirdJob, sampleTurn 20000000, sampleTurn 20000010]

/-- The sample schedule passes over the job twice. -/
theorem passed_over_sampleSchedule :
    (Run.exec (Run.guarded (Run.metered sampleStep (passesOver 2))
      fun u l => Arrivals (fun job => 2 < job.createdAt) u.1 l) (sampleQueue, 0)
        sampleSchedule).map Prod.snd = some 2 := by
  decide +kernel

/-- Every row of the sample queue is readable. -/
theorem sampleQueue_readable : AllReadable sampleQueue :=
  Table.forall_of_toList (p := fun _ job => Readable job) (by decide +kernel)

/-- The second job is passed over twice, as often as the first one may be tried. -/
theorem passed_over_le_sampleSchedule :
    ∃ db' n, Run (Run.metered sampleStep (passesOver 2))
      (fun u l => Arrivals (fun job => 2 < job.createdAt) u.1 l) (sampleQueue, 0) (db', n) ∧
        n = 2 ∧ n ≤ Table.weight (ahead 2 2) sampleQueue.jobs := by
  obtain ⟨⟨db', n⟩, hexec, hn⟩ := Option.map_eq_some_iff.1 passed_over_sampleSchedule
  have hrun := Run.of_exec_guarded _ hexec
  have hsecond : sampleQueue.jobs[2]? = some ((sampleTest 1).job 2 2) := by decide +kernel
  exact ⟨db', n, hrun, hn, passed_over_le hsecond sampleQueue_readable hrun⟩

/-! ## Being busy -/

/-- A turn that finds a job. -/
def busy (db : Db ρ) : Label ρ → Nat
  | .commit _ => 0
  | .turn _ _ now _ => if (candidateOf db now).isSome then 1 else 0

/-- The attempts of the jobs that other processes add. -/
def arriving (db : Db ρ) : Label ρ → Nat
  | .commit db' => Table.gain (fun _ => remaining) db.jobs db'.jobs
  | .turn _ _ _ _ => 0

/-- The attempts that are left in the queue. -/
def backlog (db : Db ρ) : Nat := Table.weight (fun _ => remaining) db.jobs

/-- Nothing is left exactly if every job is over. -/
theorem backlog_eq_zero_iff :
    backlog db = 0 ↔ ∀ (id : Id) job, db.jobs[id]? = some job → job.status.terminal = true := by
  rw [backlog, Table.weight_eq_zero_iff]
  refine forall_congr' fun id => forall_congr' fun job => imp_congr_right fun _ => ?_
  constructor
  · intro hzero
    by_contra hnot
    have hone := one_le_remaining (Bool.eq_false_iff.2 hnot)
    omega
  · intro hover
    simp [remaining, hover]

/-- A busy turn uses up an attempt of the queue. -/
theorem busy_pays {p : Job → Prop} {l : Label ρ} (hreadable : AllReadable db)
    (hok : Arrivals p db l) (hs : step imps workerId db l = some db') :
    busy db l + backlog db' ≤ backlog db + arriving db l := by
  -- Other processes bring the turns they add; a busy turn takes one away.
  cases l with
  | commit db'' =>
    cases hs
    have hweight := hok.weight_le (f := fun _ => remaining) fun _ _ _ h => h.remaining
    simp only [busy, arriving, backlog]
    omega
  | turn env probe now concludedAt =>
    cases hs
    cases hcandidate : candidateOf db now with
    | none => simp [busy, arriving, processNextJob, hcandidate]
    | some x =>
      obtain ⟨k, first⟩ := x
      have hfirst := (candidateOf_eq_some hcandidate).1.1
      obtain ⟨first', hused, hjobs⟩ := turn_jobs imps workerId env probe concludedAt hcandidate
        (hreadable k first hfirst)
      have hweight := Table.weight_insert_old (f := fun _ => remaining) (r := first') hfirst
      have hless := hused.remaining
      simp only [busy, arriving, backlog, hcandidate, hjobs, Option.isSome_some, if_true]
      omega

/-- The worker catches up: in every run, it is busy for as many turns at most as attempts were
    left in the queue at the start and have arrived since, less those that are still left; and
    none are left exactly if every job is over. -/
theorem busy_turns_le {p : Job → Prop} {n m : Nat} (hreadable : AllReadable db)
    (h : Run (Run.metered (Run.metered (step imps workerId) busy) fun u l => arriving u.1 l)
      (fun u l => Arrivals p u.1.1 l) ((db, 0), 0) ((db', n), m)) :
    n + backlog db' ≤ backlog db + m ∧
      (backlog db' = 0 ↔
        ∀ (id : Id) job, db'.jobs[id]? = some job → job.status.terminal = true) :=
  ⟨Run.cost_add_le backlog AllReadable h hreadable fun _ _ _ hu hok hs =>
    ⟨hu.step hok hs, busy_pays hu hok hs⟩, backlog_eq_zero_iff⟩

/-- Of the three jobs two are over after the schedule, and one waits to be tried again. -/
theorem busy_sampleSchedule :
    (Run.exec (Run.guarded (Run.metered (Run.metered sampleStep busy) fun u l => arriving u.1 l)
      fun u l => Arrivals (fun _ => True) u.1.1 l) ((sampleQueue, 0), 0) sampleSchedule).map
        (fun u => (u.1.2, u.2)) = some (3, 3) := by
  decide +kernel

/-- Three busy turns, as many as the sample schedule brings attempts. -/
theorem busy_turns_le_sampleSchedule :
    ∃ db', Run (Run.metered (Run.metered sampleStep busy) fun u l => arriving u.1 l)
      (fun u l => Arrivals (fun _ => True) u.1.1 l) ((sampleQueue, 0), 0) ((db', 3), 3) ∧
        3 + backlog db' ≤ backlog sampleQueue + 3 := by
  obtain ⟨⟨⟨db', n⟩, m⟩, hexec, heq⟩ := Option.map_eq_some_iff.1 busy_sampleSchedule
  cases heq
  have hrun := Run.of_exec_guarded _ hexec
  exact ⟨db', hrun, (busy_turns_le sampleQueue_readable hrun).1⟩

end MiniGrc.Worker
