import MiniGrc.Spec.JobOwnership

/-!
# Bounded retries

`run_job` counts an attempt in memory, and the count is committed with the outcome. Along
every run in which each attempt's outcome is committed before the job is claimed or run
again (`CountsAttempts`), the handler is started at most `max_attempts` times, and a job
whose attempts have all failed ends as `failed`. An attempt whose session dies, or whose
handler raises after a rollback, is not counted.

## Key results

- `attempts_bounded`: the runs under the condition
- `attempts_bounded_crash`: a worker that dies in the handler
-/

namespace MiniGrc.Jobs

variable {ι : Type}

/-- The run of the job has begun, and its outcome is not written. -/
def Pc.InFlight (id : Id) : Pc → Prop
  | .running id' _ | .finished id' _ => id' = id
  | _ => False

/-- The row counts `n` attempts, and has failed if and only if no more are allowed; a job
    that has succeeded counts what it likes. -/
def Job.Counts (n : Nat) (row : Job) : Prop :=
  row.status = .succeeded ∨ row.attempts = n ∧ (row.status = .failed ↔ row.maxAttempts ≤ n)

namespace State

variable (s : State ι) (i : ι) (id : Id)

/-- No other session has written the job, or begun to run it, since it last committed. -/
def Alone : Prop := ∀ k, k ≠ i → id ∉ (s.session k).begun ∧ (s.rows.own k)[id]? = none

instance [DecidableEq ι] [Fintype ι] : Decidable (s.Alone i id) :=
  inferInstanceAs (Decidable (∀ k, k ≠ i → id ∉ (s.session k).begun ∧ _ = none))

/-- A handler that rolls back loses nothing but its own attempt: nothing else has been run
    in the transaction, and the claim has been committed (or the job has not). -/
def RollsBackAttempt : Prop :=
  (s.session i).begun = [id] ∧ (lastClaimant (ofJob s.log id) = some i ∨ s.job id = none)

instance [DecidableEq ι] : Decidable (s.RollsBackAttempt i id) :=
  inferInstanceAs (Decidable (_ = _ ∧ (_ = _ ∨ _ = _)))

end State

/-- The step keeps the count: a job is allowed an attempt at least; it is claimed or run
    only while no other session has an uncommitted run of it, and run only by its owner; a
    session that has begun a run does not die or roll back before it has committed the
    outcome, and a handler that has rolled back does not raise. -/
def CountsAttempts [DecidableEq ι] (s : State ι) : Label ι → Prop
  | .enqueue _ _ args _ _ => 1 ≤ args.maxAttempts
  | .update i => ∀ x ∈ s.claiming (.update i), s.Alone x.1 x.2
  | .claimSpecific i _ id _ => s.Alone i id
  | .start i => ∀ id ∈ (s.session i).pc.job, s.Owns i id ∧ s.Alone i id
  | .handlerRollback i => ∀ id ∈ (s.session i).pc.job, s.RollsBackAttempt i id
  | .finish i (.error _) _ => ∀ id ∈ (s.session i).pc.job, (s.session i).pc ≠ .running id none
  | .rollback i => (s.session i).begun = []
  | _ => True

instance [DecidableEq ι] [Fintype ι] (s : State ι) : DecidablePred (CountsAttempts s)
  | .enqueue _ _ args _ _ => inferInstanceAs (Decidable (1 ≤ args.maxAttempts))
  | .update i => inferInstanceAs (Decidable (∀ x ∈ s.claiming (.update i), s.Alone x.1 x.2))
  | .claimSpecific i _ id _ => inferInstanceAs (Decidable (s.Alone i id))
  | .start i =>
    inferInstanceAs (Decidable (∀ id ∈ (s.session i).pc.job, s.Owns i id ∧ s.Alone i id))
  | .handlerRollback i =>
    inferInstanceAs (Decidable (∀ id ∈ (s.session i).pc.job, s.RollsBackAttempt i id))
  | .finish i (.error _) _ => inferInstanceAs
    (Decidable (∀ id ∈ (s.session i).pc.job, (s.session i).pc ≠ .running id none))
  | .rollback i => inferInstanceAs (Decidable ((s.session i).begun = []))
  | .finish _ (.ok _) _ | .poll .. | .select .. | .flush _ | .commit _ => .isTrue trivial

/-! ## The invariant -/

/-- What holds of session `j` and a job. -/
structure CountAt (s : State ι) (j : ι) (id : Id) : Prop where
  alone : id ∈ (s.session j).begun → s.Alone j id
  written : ∀ row, (s.rows.own j)[id]? = some row → s.Owns j id ∨ s.job id = none
  sameMax : ∀ row row', (s.rows.own j)[id]? = some row → s.job id = some row' →
    row.maxAttempts = row'.maxAttempts
  bounded : ∀ row, s.rows.row j id = some row → (s.starts id : Int) ≤ row.maxAttempts
  present : ∀ job, (s.session j).pc = .claimed id job → s.rows.row j id ≠ none
  /-- an owner finds the row that it has claimed -/
  claimed : ∀ job, (s.session j).pc = .claimed id job → s.Owns j id →
    s.rows.row j id = some job ∧ job.status = .running
  running : ∀ job, (s.session j).pc = .running id (some job) →
    s.rows.row j id = some job ∧ job.status = .running ∧ s.starts id = job.attempts + 1
  finished : ∀ update row, (s.session j).pc = .finished id update →
    s.rows.row j id = some row → (update.apply row).Counts (s.starts id)
  begun : (s.session j).pc.InFlight id → id ∈ (s.session j).begun
  /-- the row that the session sees is right, unless it waits for an outcome -/
  counted : ∀ row, s.rows.row j id = some row → (∀ k, k ≠ j → id ∉ (s.session k).begun) →
    ¬ (s.session j).pc.InFlight id → row.Counts (s.starts id)
  committed : ∀ row, s.job id = some row → (∀ k, id ∉ (s.session k).begun) →
    row.Counts (s.starts id)
  kept : id ∈ (s.session j).begun → ¬ (s.session j).pc.InFlight id →
    (s.rows.own j)[id]? ≠ none ∨ s.job id = none
  owner : id ∈ (s.session j).begun → s.Owns j id ∨ (s.job id = none ∧ (s.rows.own j)[id]? = none)
  started : id ∈ (s.session j).begun → s.starts id ≠ 0

/-- The session of a step that does not concern the job is at the job where it was. -/
def SamePlace (id : Id) (pc pc' : Pc) : Prop :=
  pc' = pc ∨ ¬ pc.InFlight id ∧ pc'.job ≠ some id

/-- A session that works on another job has not this one in flight. -/
theorem Pc.not_inFlight {pc : Pc} {id : Id} (h : pc.job ≠ some id) : ¬ pc.InFlight id := by
  unfold Pc.InFlight
  split
  · exact fun hid => h (congrArg some hid)
  · exact fun hid => h (congrArg some hid)
  · exact not_false

/-- Two sessions at the same place have the same jobs in flight. -/
theorem SamePlace.inFlight_iff {id : Id} {pc pc' : Pc} (h : SamePlace id pc pc') :
    pc'.InFlight id ↔ pc.InFlight id := by
  rcases h with rfl | ⟨hnot, hjob⟩
  · rfl
  · exact ⟨fun h => absurd h (Pc.not_inFlight hjob), fun h => absurd h hnot⟩

/-- At the same place and working on the job, the two counters are equal. -/
theorem SamePlace.eq_of_job {id : Id} {pc pc' : Pc} (h : SamePlace id pc pc')
    (hjob : pc'.job = some id) : pc' = pc :=
  h.resolve_right fun hne => hne.2 hjob

variable {s s' : State ι} {i j : ι} {id : Id}

/-- A step that leaves what the session sees of the job keeps what holds of it. -/
theorem CountAt.frame (h : CountAt s j id)
    (hown : (s'.rows.own j)[id]? = (s.rows.own j)[id]?) (hjob : s'.job id = s.job id)
    (hhist : s'.history j id = s.history j id)
    (hpc : SamePlace id (s.session j).pc (s'.session j).pc)
    (hbegun : id ∈ (s'.session j).begun ↔ id ∈ (s.session j).begun)
    (hothers : ∀ k, k ≠ j → id ∈ (s.session k).begun → id ∈ (s'.session k).begun)
    (halone : id ∈ (s'.session j).begun → s'.Alone j id)
    (hstarts : s'.starts id = s.starts id) : CountAt s' j id := by
  have hrow : s'.rows.row j id = s.rows.row j id := by
    show ((s'.rows.own j)[id]?).or (s'.job id) = ((s.rows.own j)[id]?).or (s.job id)
    rw [hown, hjob]
  have howns : s'.Owns j id ↔ s.Owns j id := by simp only [State.Owns, hhist]
  -- Every clause of the invariant reads only what is the same in the two states.
  constructor
  · exact halone
  · simpa only [hown, hjob, howns] using h.written
  · simpa only [hown, hjob] using h.sameMax
  · simpa only [hrow, hstarts] using h.bounded
  · intro job hp
    rw [hpc.eq_of_job (by rw [hp]; rfl)] at hp
    rw [hrow]
    exact h.present job hp
  · intro job hp ho
    rw [hpc.eq_of_job (by rw [hp]; rfl)] at hp
    rw [hrow]
    exact h.claimed job hp (howns.1 ho)
  · intro job hp
    rw [hpc.eq_of_job (by rw [hp]; rfl)] at hp
    rw [hrow, hstarts]
    exact h.running job hp
  · intro update row hp hr
    rw [hpc.eq_of_job (by rw [hp]; rfl)] at hp
    rw [hstarts]
    exact h.finished update row hp (hrow ▸ hr)
  · rw [hpc.inFlight_iff, hbegun]
    exact h.begun
  · intro row hr hno hp
    rw [hstarts]
    refine h.counted row (hrow ▸ hr) (fun k hk hmem => hno k hk (hothers k hk hmem)) ?_
    rwa [hpc.inFlight_iff] at hp
  · intro row hr hno
    rw [hstarts]
    refine h.committed row (hjob ▸ hr) fun k hmem => ?_
    by_cases hk : k = j
    · subst hk
      exact hno k (hbegun.2 hmem)
    · exact hno k (hothers k hk hmem)
  · rw [hpc.inFlight_iff, hbegun, hown, hjob]
    exact h.kept
  · rw [hbegun, howns, hjob, hown]
    exact h.owner
  · rw [hbegun, hstarts]
    exact h.started

/-- A session that has neither written the job nor begun to run it sees the committed row. -/
theorem CountAt.of_committed (hown : (s.rows.own j)[id]? = none)
    (hbegun : id ∉ (s.session j).begun) (hflight : ¬ (s.session j).pc.InFlight id)
    (hbounded : ∀ row, s.job id = some row → (s.starts id : Int) ≤ row.maxAttempts)
    (hpresent : ∀ job, (s.session j).pc = .claimed id job → s.job id ≠ none)
    (hclaimed : ∀ job, (s.session j).pc = .claimed id job → s.Owns j id →
      s.job id = some job ∧ job.status = .running)
    (hcommitted : ∀ row, s.job id = some row → (∀ k, id ∉ (s.session k).begun) →
      row.Counts (s.starts id)) : CountAt s j id := by
  have hrow : s.rows.row j id = s.job id := OpenRows.row_of_own_none hown
  constructor
  · exact fun hb => absurd hb hbegun
  · exact fun row hr => absurd (hown.symm.trans hr) (Option.some_ne_none row ∘ Eq.symm)
  · exact fun row _ hr => absurd (hown.symm.trans hr) (Option.some_ne_none row ∘ Eq.symm)
  · exact hrow ▸ hbounded
  · exact hrow ▸ hpresent
  · exact hrow ▸ hclaimed
  · exact fun _ hp => absurd (by rw [hp]; rfl) hflight
  · exact fun _ _ hp => absurd (by rw [hp]; rfl) hflight
  · exact fun hp => absurd hp hflight
  · intro row hr hno _
    refine hcommitted row (hrow ▸ hr) fun k => ?_
    by_cases hk : k = j
    · exact hk ▸ hbegun
    · exact hno k hk
  · exact hcommitted
  · exact fun hb => absurd hb hbegun
  · exact fun hb => absurd hb hbegun
  · exact fun hb => absurd hb hbegun

/-- A session that owns the row which it has written, and waits for no outcome of the job. -/
theorem CountAt.of_own {row : Job} (hown : (s.rows.own j)[id]? = some row) (howns : s.Owns j id)
    (hflight : ¬ (s.session j).pc.InFlight id) (halone : id ∈ (s.session j).begun → s.Alone j id)
    (hmax : ∀ row', s.job id = some row' → row.maxAttempts = row'.maxAttempts)
    (hbounded : (s.starts id : Int) ≤ row.maxAttempts)
    (hclaimed : ∀ job, (s.session j).pc = .claimed id job → row = job ∧ job.status = .running)
    (hcounted : row.Counts (s.starts id))
    (hcommitted : ∀ row', s.job id = some row' → (∀ k, id ∉ (s.session k).begun) →
      row'.Counts (s.starts id))
    (hstarted : id ∈ (s.session j).begun → s.starts id ≠ 0) : CountAt s j id := by
  have hrow : s.rows.row j id = some row := OpenRows.row_of_own hown
  constructor
  · exact halone
  · exact fun _ _ => .inl howns
  · intro row₁ row₂ h₁ h₂
    cases hown.symm.trans h₁
    exact hmax row₂ h₂
  · intro row₁ h₁
    cases hrow.symm.trans h₁
    exact hbounded
  · exact fun _ _ hnone => Option.some_ne_none row (hrow.symm.trans hnone)
  · intro job hp _
    obtain ⟨rfl, hrunning⟩ := hclaimed job hp
    exact ⟨hrow, hrunning⟩
  · exact fun _ hp => absurd (by rw [hp]; rfl) hflight
  · exact fun _ _ hp => absurd (by rw [hp]; rfl) hflight
  · exact fun hp => absurd hp hflight
  · intro row₁ h₁ _ _
    cases hrow.symm.trans h₁
    exact hcounted
  · exact hcommitted
  · exact fun _ _ => .inl (by rw [hown]; exact Option.some_ne_none _)
  · exact fun _ => .inl howns
  · exact hstarted

/-- What holds along every run under `CountsAttempts`. -/
def State.Counted (s : State ι) : Prop := ∀ j id, CountAt s j id

/-- Before the first transaction no attempt is counted. -/
theorem counted_quiescent : (State.quiescent ∅ : State ι).Counted := by
  intro j id
  have hown : ((State.quiescent ∅ : State ι).rows.own j)[id]? = none := by
    simp [State.quiescent, OpenRows.closed]
  have hjob : (State.quiescent ∅ : State ι).job id = none := by
    simp [State.quiescent, OpenRows.closed, State.job]
  have hrow : (State.quiescent ∅ : State ι).rows.row j id = none := by
    rw [OpenRows.row_of_own_none hown]
    exact hjob
  have hbegun : ∀ k, ((State.quiescent ∅ : State ι).session k).begun = [] := fun _ => rfl
  have hpc : ((State.quiescent ∅ : State ι).session j).pc = .idle := rfl
  constructor <;> simp [hown, hjob, hrow, hbegun, hpc, Pc.InFlight]

/-! ## What a step keeps -/

section Steps

variable [DecidableEq ι] {pc : Pc}

/-- Moving on begins no attempt. -/
@[simp] theorem State.setPc_begun (i j : ι) (pc : Pc) :
    ((s.setPc i pc).session j).begun = (s.session j).begun := by
  by_cases hj : j = i
  · subst hj
    rw [setPc, setSession_self]
  · rw [setPc, setSession_ne hj]

/-- The session that moves on is where it moves to. -/
theorem State.setPc_pc_self (i : ι) (pc : Pc) : ((s.setPc i pc).session i).pc = pc := by
  rw [setPc, setSession_self]

/-- The other sessions stay where they are. -/
theorem State.setPc_session_ne (h : j ≠ i) (pc : Pc) :
    (s.setPc i pc).session j = s.session j := setSession_ne h _

/-- A move of a session, for the jobs that it does not concern. -/
theorem CountAt.setPc (h : CountAt s j id) (hne : j ≠ i ∨ SamePlace id (s.session i).pc pc) :
    CountAt (s.setPc i pc) j id := by
  refine h.frame rfl rfl (State.setPc_history i j pc id) ?_ (by rw [State.setPc_begun])
    (fun k _ => by rw [State.setPc_begun]; exact fun hk => hk) ?_ rfl
  · by_cases hj : j = i
    · subst hj
      rw [State.setPc_pc_self]
      exact hne.resolve_left fun hjj => hjj rfl
    · exact .inl (congrArg Session.pc (State.setPc_session_ne hj pc))
  · rw [State.setPc_begun]
    intro hb k hk
    rw [State.setPc_begun]
    exact h.alone hb k hk

/-- Looking for a job counts nothing. -/
theorem State.Counted.look (h : s.Counted) (hpc : (s.session i).pc.Seeking) (hnext : pc.Seeking) :
    (s.setPc i pc).Counted := by
  intro j id
  refine (h j id).setPc (.inr (.inr ⟨Pc.not_inFlight ?_, ?_⟩))
  · rw [hpc]
    exact Option.some_ne_none id ∘ Eq.symm
  · rw [hnext]
    exact Option.some_ne_none id ∘ Eq.symm

/-- A new job has no attempt behind it and at least one before it. -/
theorem State.Counted.insert (h : s.Counted) {job : Job} (hfresh : s.Fresh id)
    (hpending : job.status = .pending) (hnew : job.attempts = 0) (hmax : 1 ≤ job.maxAttempts) :
    (s.insert i id job).Counted := by
  have hbegun : ∀ k, id ∉ (s.session k).begun := fun k hk => (h k id).started hk hfresh.1.2
  have hjob : s.job id = none := hfresh.1.1
  have hstarts : (s.insert i id job).starts id = 0 := hfresh.1.2
  intro j id'
  -- Only the new job's row changes, and only in the session that inserts it.
  by_cases hid : id = id'
  · subst hid
    by_cases hj : j = i
    · subst hj
      have hown : ((s.insert j id job).rows.own j)[id]? = some job := by
        show ((s.rows.write j id job).own j)[id]? = some job
        rw [OpenRows.write_own_self, if_pos rfl]
      have hrow : (s.insert j id job).rows.row j id = some job := OpenRows.row_of_own hown
      have hnot : (s.session j).pc.job ≠ some id := (hfresh.2 j).2
      constructor
      · exact fun hb => absurd hb (hbegun j)
      · exact fun _ _ => .inr hjob
      · exact fun _ _ _ hrow' => absurd (hrow'.symm.trans hjob) (Option.some_ne_none _)
      · intro row hr
        rw [hrow] at hr
        cases hr
        rw [hstarts]
        exact Int.le_trans (by decide) hmax
      · exact fun _ hp => absurd (by rw [show (s.session j).pc = _ from hp]; rfl) hnot
      · exact fun _ hp => absurd (by rw [show (s.session j).pc = _ from hp]; rfl) hnot
      · exact fun _ hp => absurd (by rw [show (s.session j).pc = _ from hp]; rfl) hnot
      · exact fun _ _ hp => absurd (by rw [show (s.session j).pc = _ from hp]; rfl) hnot
      · exact fun hp => absurd hp (Pc.not_inFlight hnot)
      · intro row hr _ _
        rw [hrow] at hr
        cases hr
        rw [hstarts]
        refine .inr ⟨hnew, ?_⟩
        rw [hpending]
        constructor
        · intro hf
          cases hf
        · intro hle
          omega
      · exact fun row hr => absurd (hr.symm.trans hjob) (Option.some_ne_none _)
      · exact fun hb => absurd hb (hbegun j)
      · exact fun hb => absurd hb (hbegun j)
      · exact fun hb => absurd hb (hbegun j)
    · refine (h j id).frame ?_ rfl rfl (.inl rfl) Iff.rfl (fun _ _ hk => hk)
        (fun hb => absurd hb (hbegun j)) rfl
      exact congrArg (fun t : Table Job => t[id]?) (OpenRows.write_own_ne hj)
  · refine (h j id').frame (OpenRows.write_own_of_ne hid) rfl rfl (.inl rfl) Iff.rfl
      (fun _ _ hk => hk) (fun hb k hk => ?_) rfl
    refine ⟨((h j id').alone hb k hk).1, ?_⟩
    exact (OpenRows.write_own_of_ne hid).trans ((h j id').alone hb k hk).2

omit [DecidableEq ι] in
/-- The row that a session sees is allowed as many attempts as the committed one. -/
theorem CountAt.max_row (h : CountAt s j id) {row row' : Job} (hrow : s.rows.row j id = some row)
    (hjob : s.job id = some row') : row.maxAttempts = row'.maxAttempts := by
  cases hown : (s.rows.own j)[id]? with
  | none =>
    rw [OpenRows.row_of_own_none hown] at hrow
    cases hrow.symm.trans hjob
    rfl
  | some row₀ =>
    rw [OpenRows.row_of_own hown] at hrow
    cases hrow
    exact h.sameMax _ _ hown hjob

omit [DecidableEq ι] in
/-- No more attempts have started than the committed row allows. -/
theorem CountAt.bounded_committed (h : CountAt s j id) {row : Job} (hjob : s.job id = some row) :
    (s.starts id : Int) ≤ row.maxAttempts := by
  have hrow : ∃ row', s.rows.row j id = some row' := by
    cases hown : (s.rows.own j)[id]? with
    | none => exact ⟨row, (OpenRows.row_of_own_none hown).trans hjob⟩
    | some row' => exact ⟨row', OpenRows.row_of_own hown⟩
  obtain ⟨row', hrow⟩ := hrow
  rw [← h.max_row hrow hjob]
  exact h.bounded row' hrow

/-- A row that may be claimed has attempts left. -/
theorem Job.Counts.lt_max {n : Nat} {row : Job} (h : row.Counts n)
    (hopen : row.status = .pending ∨ row.status = .running) :
    row.attempts = n ∧ (n : Int) < row.maxAttempts := by
  rcases h with hs | ⟨hn, hf⟩
  · rcases hopen with hp | hr
    · cases hp.symm.trans hs
    · cases hr.symm.trans hs
  · refine ⟨hn, not_le.1 fun hle => ?_⟩
    have hfailed := hf.2 hle
    rcases hopen with hp | hr
    · cases hp.symm.trans hfailed
    · cases hr.symm.trans hfailed

/-- A row with attempts left counts as well in an open status. -/
theorem Job.counts_of_lt {n : Nat} {row : Job} (hn : row.attempts = n)
    (hlt : (n : Int) < row.maxAttempts) (hopen : row.status ≠ .failed) : row.Counts n :=
  .inr ⟨hn, fun hf => absurd hf hopen, fun hle => absurd hlt (not_lt.2 hle)⟩

/-- A claim begins no attempt: the handler has not started. -/
@[simp] theorem State.claim_begun (i j : ι) (id : Id) (job : Job) (now : Time) :
    ((s.claim i id job now).session j).begun = (s.session j).begun := by
  by_cases hj : j = i
  · subst hj
    rw [claim, setSession_self]
  · rw [claim, setSession_ne hj]

/-- The write of a row that nobody else works on, for the other sessions and the other jobs. -/
theorem CountAt.write_ne {id' : Id} {row : Job} (h : CountAt s j id') (halone : s.Alone i id)
    (hne : j ≠ i ∨ id ≠ id') (hrows : s'.rows = s.rows.write i id row)
    (hhist : s'.history j id' = s.history j id')
    (hsession : ∀ k, k ≠ i → s'.session k = s.session k)
    (hplace : id ≠ id' → SamePlace id' (s.session i).pc (s'.session i).pc)
    (hbegun : ∀ k, (s'.session k).begun = (s.session k).begun) (hstarts : s'.starts = s.starts) :
    CountAt s' j id' := by
  refine h.frame ?_ (by rw [State.job, hrows]; rfl) hhist ?_ (by rw [hbegun])
    (fun k _ hk => by rwa [hbegun]) (fun hb k hk => ?_) (congrFun hstarts id')
  · rw [hrows]
    rcases hne with hj | hid
    · rw [OpenRows.write_own_ne hj]
    · exact OpenRows.write_own_of_ne hid
  · by_cases hj : j = i
    · subst hj
      exact hplace (hne.resolve_left fun hjj => hjj rfl)
    · exact .inl (congrArg Session.pc (hsession j hj))
  · rw [hbegun] at hb ⊢
    -- a session that has begun to run the job would not let another one write it
    have hid : id ≠ id' := by
      rintro rfl
      exact (halone j (hne.resolve_right fun hidd => hidd rfl)).1 hb
    rw [hrows]
    exact ⟨(h.alone hb k hk).1, (OpenRows.write_own_of_ne hid).trans (h.alone hb k hk).2⟩

/-- A claim is made of a job whose attempts are not used up, so one more fits. -/
theorem State.Counted.claim (h : s.Counted) {workerId : String} {now : Time} {row : Job}
    (halone : s.Alone i id) (hpc : (s.session i).pc.Seeking) (hrow : s.rows.row i id = some row)
    (hguard : row.candidate now ∨ row.status = .pending) :
    (s.claim i id (row.claim workerId now) now).Counted := by
  have hnot : ∀ id', ¬ (s.session i).pc.InFlight id' := fun id' => Pc.not_inFlight (by
    rw [hpc]
    exact Option.some_ne_none id' ∘ Eq.symm)
  have hopen : row.status = .pending ∨ row.status = .running := by
    rcases hguard with hcandidate | hpending
    · rcases Job.candidate_iff.1 hcandidate with ⟨hst, _⟩ | ⟨hst, _⟩
      · exact .inl hst
      · exact .inr hst
    · exact .inl hpending
  -- The row counts every start so far, and it is open: fewer than its maximum.
  have hcounts := ((h i id).counted row hrow (fun k hk => (halone k hk).1) (hnot id)).lt_max hopen
  intro j id'
  -- Only the claimed job's row changes, and only in the session that claims it.
  by_cases hsame : j = i ∧ id = id'
  · obtain ⟨rfl, rfl⟩ := hsame
    let s' := s.claim j id (row.claim workerId now) now
    have hown : (s'.rows.own j)[id]? = some (row.claim workerId now) := by
      show ((s.rows.write j id _).own j)[id]? = _
      rw [OpenRows.write_own_self, if_pos rfl]
    have howns : s'.Owns j id := by
      rw [State.Owns, State.claim_history_self, lastClaimant_claimed]
    have hpc' : (s'.session j).pc = .claimed id (row.claim workerId now) := by
      show ((s.setSession j _).session j).pc = _
      rw [State.setSession_self]
    have hbegun : ∀ k, (s'.session k).begun = (s.session k).begun := fun k =>
      State.claim_begun ..
    refine .of_own hown howns (by rw [hpc']; exact not_false) ?_ ?_ ((h j id).bounded row hrow) ?_
      (Job.counts_of_lt hcounts.1 hcounts.2 JobStatus.noConfusion) ?_ ?_
    · intro _ k hk
      rw [hbegun]
      exact ⟨(halone k hk).1, (congrArg (fun t : Table Job => t[id]?)
        (OpenRows.write_own_ne hk)).trans (halone k hk).2⟩
    · intro row₂ h₂
      have hmax := (h j id).max_row hrow h₂
      exact hmax
    · intro job hp
      cases hpc'.symm.trans hp
      exact ⟨rfl, rfl⟩
    · exact fun row₁ h₁ hno => (h j id).committed row₁ h₁ fun k hk => hno k (by rwa [hbegun])
    · rw [hbegun]
      exact (h j id).started
  · have hne := not_and_or.1 hsame
    refine (h j id').write_ne halone hne rfl (State.claim_history_of_ne hne _ _)
      (fun k hk => State.setSession_ne hk _) (fun hid => .inr ⟨hnot id', ?_⟩)
      (fun k => State.claim_begun ..) rfl
    rw [State.claim, State.setSession_self]
    exact fun heq => hid (Option.some.inj heq)

/-- The other sessions do not see a handler start. -/
@[simp] theorem State.start_session_ne (h : j ≠ i) (job : Job) :
    (s.start i id job).session j = s.session j := setSession_ne h _

/-- The handler starts on a claimed job, and the start is counted at once for every session. -/
theorem State.Counted.start (h : s.Counted) {job : Job} (hpc : (s.session i).pc = .claimed id job)
    (howns : s.Owns i id) (halone : s.Alone i id) : (s.start i id job).Counted := by
  have ⟨hrow, hrunning⟩ := (h i id).claimed job hpc howns
  have hnot : ∀ id', ¬ (s.session i).pc.InFlight id' := fun id' => by
    rw [hpc]
    exact not_false
  -- The claim is the session's own and nobody else works on the job.
  have hcounts := ((h i id).counted job hrow (fun k hk => (halone k hk).1) (hnot id)).lt_max
    (.inr hrunning)
  let s' := s.start i id job
  have hpc' : (s'.session i).pc = .running id (some job) := by
    show ((s.setSession i _).session i).pc = _
    rw [State.setSession_self]
  have hbegun : (s'.session i).begun = (s.session i).begun ++ [id] := by
    show ((s.setSession i _).session i).begun = _
    rw [State.setSession_self]
  have hgrows : ∀ k id', id' ∈ (s.session k).begun → id' ∈ (s'.session k).begun := by
    intro k id' hk
    by_cases hki : k = i
    · subst hki
      rw [hbegun]
      exact List.mem_append_left _ hk
    · rwa [State.start_session_ne hki]
  intro j id'
  -- The start is counted for the job in every session, and for no other job.
  by_cases hid : id = id'
  · subst hid
    have hstarts : s'.starts id = s.starts id + 1 := Function.update_self ..
    by_cases hj : j = i
    · subst hj
      constructor
      · intro _ k hk
        rw [State.start_session_ne hk]
        exact halone k hk
      · exact fun _ _ => .inl (by rw [State.Owns, State.start_history]; exact howns)
      · exact (h j id).sameMax
      · intro row hr
        cases hrow.symm.trans hr
        rw [hstarts]
        push_cast
        omega
      · intro _ hp
        cases hpc'.symm.trans hp
      · intro _ hp
        cases hpc'.symm.trans hp
      · intro job' hp
        cases hpc'.symm.trans hp
        refine ⟨hrow, hrunning, ?_⟩
        rw [hstarts, hcounts.1]
      · intro _ _ hp
        cases hpc'.symm.trans hp
      · intro _
        rw [hbegun]
        simp
      · intro _ _ _ hp
        rw [hpc'] at hp
        exact absurd rfl hp
      · intro _ _ hno
        exact absurd (by rw [hbegun]; simp) (hno j)
      · intro _ hp
        rw [hpc'] at hp
        exact absurd rfl hp
      · exact fun _ => .inl (by rw [State.Owns, State.start_history]; exact howns)
      · intro _
        rw [hstarts]
        exact Nat.succ_ne_zero _
    · -- Another session has no write and no attempt of this job: it sees the committed row.
      have hnone := (halone j hj).2
      have hbegun' : id ∉ (s.session j).begun := (halone j hj).1
      have hflight : ¬ (s.session j).pc.InFlight id := fun hp => hbegun' ((h j id).begun hp)
      have hsession : s'.session j = s.session j := State.start_session_ne hj job
      have hseen : s.rows.row j id = s.job id := OpenRows.row_of_own_none hnone
      refine .of_committed hnone (by rwa [hsession]) (by rwa [hsession]) ?_ ?_ ?_ ?_
      · intro row hr
        rw [hstarts, ← (h i id).max_row hrow hr]
        push_cast
        omega
      · rw [hsession]
        exact hseen ▸ (h j id).present
      · rw [hsession, State.Owns, State.start_history]
        exact hseen ▸ (h j id).claimed
      · intro _ _ hno
        exact absurd (by rw [hbegun]; simp) (hno i)
  · have hiff : ∀ k, id' ∈ (s'.session k).begun ↔ id' ∈ (s.session k).begun := fun k => by
      refine ⟨fun hk => ?_, hgrows k id'⟩
      by_cases hki : k = i
      · subst hki
        rw [hbegun, List.mem_append, List.mem_singleton] at hk
        exact hk.resolve_right (Ne.symm hid)
      · rwa [State.start_session_ne hki] at hk
    refine (h j id').frame rfl rfl (State.start_history ..) ?_ (hiff j)
      (fun k _ => (hiff k).2) (fun hb k hk => ?_) (Function.update_of_ne (Ne.symm hid) _ _)
    · by_cases hj : j = i
      · subst hj
        refine .inr ⟨hnot id', ?_⟩
        rw [hpc']
        exact fun heq => hid (Option.some.inj heq)
      · exact .inl (congrArg Session.pc (State.start_session_ne hj job))
    · have hold := (h j id').alone ((hiff j).1 hb) k hk
      exact ⟨fun hm => hold.1 ((hiff k).1 hm), hold.2⟩

/-- A failure leaves the attempts counted. -/
theorem Job.fail_attempts (job : Job) (message : String) (now : Time) :
    (job.fail message now).attempts = job.attempts := by
  simp only [fail]
  split
  · rfl
  · rfl

/-- A failure is the last one exactly when the attempts are used up. -/
theorem Job.fail_status_iff (job : Job) (message : String) (now : Time) :
    (job.fail message now).status = .failed ↔ job.maxAttempts ≤ job.attempts := by
  simp only [fail]
  split
  · next hle => exact ⟨fun _ => hle, fun _ => rfl⟩
  · next hlt => exact ⟨fun hf => (by cases hf), fun hle => absurd hle hlt⟩

/-- An attribute that has been loaded from the row has its value after the update. -/
theorem JobUpdate.net_getD {α : Type} [DecidableEq α] (a b : α) : (net a b).getD a = b := by
  unfold net
  split
  · next hab => exact hab.symm
  · rfl

/-- The outcome of a run that has been counted. -/
theorem Job.counts_conclude {job : Job} {n : Nat} (hn : n = job.attempts + 1)
    (outcome : Except String JsonObject) (now : Time) :
    (JobUpdate.apply (.between job (job.attempt.conclude outcome now)) job).Counts n := by
  cases outcome with
  | ok result => exact .inl (JobUpdate.net_getD job.status _)
  | error message =>
    refine .inr ⟨(JobUpdate.net_getD job.attempts _).trans ?_, ?_⟩
    · show (job.attempt.fail message now).attempts = n
      rw [fail_attempts, hn]
      rfl
    · show (JobUpdate.net job.status (job.attempt.fail message now).status).getD job.status = _ ↔ _
      rw [JobUpdate.net_getD, fail_status_iff, hn]
      exact Iff.rfl

/-- The handler ends: the session waits for the flush. -/
theorem State.Counted.finish (h : s.Counted) {update : JobUpdate} {job : Option Job}
    (hpc : (s.session i).pc = .running id job)
    (hupdate : ∀ row, s.rows.row i id = some row → (update.apply row).Counts (s.starts id)) :
    (s.setPc i (.finished id update)).Counted := by
  have hflight : (s.session i).pc.InFlight id := by rw [hpc]; rfl
  intro j id'
  -- The outcome is kept in the session: only its own place changes.
  by_cases hsame : j = i ∧ id = id'
  · obtain ⟨rfl, rfl⟩ := hsame
    have hpc' := State.setPc_pc_self (s := s) j (.finished id update)
    have hb := State.setPc_begun (s := s) j j (.finished id update)
    constructor
    · rw [hb]
      intro hmem k hk
      rw [State.setPc_begun]
      exact (h j id).alone hmem k hk
    · rw [State.Owns, State.setPc_history]
      exact (h j id).written
    · exact (h j id).sameMax
    · exact (h j id).bounded
    · intro _ hp
      cases hpc'.symm.trans hp
    · intro _ hp
      cases hpc'.symm.trans hp
    · intro _ hp
      cases hpc'.symm.trans hp
    · intro _ row hp hr
      cases hpc'.symm.trans hp
      exact hupdate row hr
    · rw [hb]
      exact fun _ => (h j id).begun hflight
    · intro _ _ _ hp
      rw [hpc'] at hp
      exact absurd rfl hp
    · intro row hr hno
      exact (h j id).committed row hr fun k hk => hno k (by rwa [State.setPc_begun])
    · intro _ hp
      rw [hpc'] at hp
      exact absurd rfl hp
    · rw [hb, State.Owns, State.setPc_history]
      exact (h j id).owner
    · rw [hb]
      exact (h j id).started
  · refine (h j id').setPc ((not_and_or.1 hsame).imp_right fun hid => .inr ⟨?_, ?_⟩)
    · rw [hpc]
      exact hid
    · exact fun heq => hid (Option.some.inj heq)

/-- The object has no row any more: there is nothing to write. -/
theorem State.Counted.vanish (h : s.Counted) (hpc : (s.session i).pc = .running id none)
    (hrow : s.rows.row i id = none) : (s.setPc i .idle).Counted := by
  intro j id'
  -- A row that is gone has no committed row behind it either.
  by_cases hsame : j = i ∧ id = id'
  · obtain ⟨rfl, rfl⟩ := hsame
    have hpc' := State.setPc_pc_self (s := s) j .idle
    have hb := State.setPc_begun (s := s) j j .idle
    have hjob : s.job id = none := by
      rw [OpenRows.row, Option.or_eq_none_iff] at hrow
      exact hrow.2
    constructor
    · rw [hb]
      intro hmem k hk
      rw [State.setPc_begun]
      exact (h j id).alone hmem k hk
    · exact fun _ _ => .inr hjob
    · exact (h j id).sameMax
    · exact (h j id).bounded
    · intro _ hp
      cases hpc'.symm.trans hp
    · intro _ hp
      cases hpc'.symm.trans hp
    · intro _ hp
      cases hpc'.symm.trans hp
    · intro _ _ hp
      cases hpc'.symm.trans hp
    · rw [hpc']
      exact False.elim
    · exact fun row hr => absurd (hrow.symm.trans hr) (Option.some_ne_none row ∘ Eq.symm)
    · exact fun row hr => absurd (hjob.symm.trans hr) (Option.some_ne_none row ∘ Eq.symm)
    · exact fun _ _ => .inr hjob
    · rw [hb, State.Owns, State.setPc_history]
      exact (h j id).owner
    · rw [hb]
      exact (h j id).started
  · refine (h j id').setPc ((not_and_or.1 hsame).imp_right fun hid => .inr ⟨?_, ?_⟩)
    · rw [hpc]
      exact hid
    · exact Option.some_ne_none id' ∘ Eq.symm

/-- Recording the outcome begins no attempt. -/
@[simp] theorem State.record_begun (i j : ι) (id : Id) (row row' : Job) :
    ((s.record i id row row').session j).begun = (s.session j).begun := by
  by_cases hj : j = i
  · subst hj
    rw [record, setSession_self]
  · rw [record, setSession_ne hj]

/-- The outcome is written. -/
theorem State.Counted.record (h : s.Counted) {update : JobUpdate} {row : Job}
    (hpc : (s.session i).pc = .finished id update) (hrow : s.rows.row i id = some row) :
    (s.record i id row (update.apply row)).Counted := by
  have hflight : (s.session i).pc.InFlight id := by rw [hpc]; rfl
  have hbegun : id ∈ (s.session i).begun := (h i id).begun hflight
  have halone := (h i id).alone hbegun
  let s' := s.record i id row (update.apply row)
  have hpc' : (s'.session i).pc = .idle := by
    show ((s.setSession i _).session i).pc = _
    rw [State.setSession_self]
  intro j id'
  -- Only the finished job's row changes, and only in the session that records it.
  by_cases hsame : j = i ∧ id = id'
  · obtain ⟨rfl, rfl⟩ := hsame
    have hown : (s'.rows.own j)[id]? = some (update.apply row) := by
      show ((s.rows.write j id _).own j)[id]? = _
      rw [OpenRows.write_own_self, if_pos rfl]
    have howns : s'.Owns j id := by
      rw [State.Owns, State.record_history_self, lastClaimant_change]
      refine ((h j id).owner hbegun).resolve_right fun hnone => ?_
      rw [OpenRows.row_of_own_none hnone.2] at hrow
      exact Option.some_ne_none row (hrow.symm.trans hnone.1)
    refine .of_own hown howns (by rw [hpc']; exact not_false) ?_ ?_ ((h j id).bounded row hrow) ?_
      ((h j id).finished update row hpc hrow) ?_ ?_
    · intro _ k hk
      rw [State.record_begun]
      exact ⟨(halone k hk).1, (congrArg (fun t : Table Job => t[id]?)
        (OpenRows.write_own_ne hk)).trans (halone k hk).2⟩
    · intro row₂ h₂
      have hmax := (h j id).max_row hrow h₂
      exact hmax
    · intro _ hp
      cases hpc'.symm.trans hp
    · exact fun _ _ hno => absurd (by rwa [State.record_begun]) (hno j)
    · rw [State.record_begun]
      exact (h j id).started
  · have hne := not_and_or.1 hsame
    refine (h j id').write_ne halone hne rfl (State.record_history_of_ne hne _ _)
      (fun k hk => State.setSession_ne hk _) (fun hid => .inr ⟨by rw [hpc]; exact hid, ?_⟩)
      (fun k => State.record_begun ..) rfl
    rw [hpc']
    exact Option.some_ne_none id' ∘ Eq.symm

omit [DecidableEq ι] in
/-- A session that drops its transaction, for a job that it has not begun to run there. -/
theorem CountAt.dropped (h : CountAt s i id) (hbegun : id ∉ (s.session i).begun)
    (hown : (s'.rows.own i)[id]? = none) (hjob : s'.job id = s.job id)
    (hpc : (s'.session i).pc = .idle ∨ ∃ id' job, id' ≠ id ∧ (s'.session i).pc = .running id' job)
    (hbegun' : ∀ k, id ∈ (s'.session k).begun ↔ id ∈ (s.session k).begun)
    (hstarts : s'.starts id = s.starts id) : CountAt s' i id := by
  have hnot : (s'.session i).pc.job ≠ some id := by
    rcases hpc with hp | ⟨id', job, hne, hp⟩
    · rw [hp]
      exact Option.some_ne_none id ∘ Eq.symm
    · rw [hp]
      exact fun heq => hne (Option.some.inj heq)
  have hnone : id ∉ (s'.session i).begun := fun hb => hbegun ((hbegun' i).1 hb)
  -- With its writes gone, the session sees the committed row, which `h.committed` counts.
  refine .of_committed hown hnone (Pc.not_inFlight hnot) ?_ ?_ ?_ ?_
  · intro row hr
    rw [hstarts]
    exact h.bounded_committed (hjob.symm.trans hr)
  · exact fun _ hp => absurd (by rw [hp]; rfl) hnot
  · exact fun _ hp => absurd (by rw [hp]; rfl) hnot
  · intro row hr hno
    rw [hstarts]
    exact h.committed row (hjob.symm.trans hr) fun k hk => hno k ((hbegun' k).2 hk)

/-- Another session drops its transaction, in which it has not begun to run the job. -/
theorem CountAt.dropped_ne (h : CountAt s j id) (hj : j ≠ i)
    (hrows : s'.rows = s.rows.rollback i) (hsession : s'.session j = s.session j)
    (hhist : s'.history j id = s.history j id)
    (hbegun : ∀ k, id ∈ (s'.session k).begun ↔ id ∈ (s.session k).begun)
    (hstarts : s'.starts id = s.starts id) : CountAt s' j id := by
  -- The other sessions keep their writes.
  refine h.frame ?_ (by rw [State.job, hrows]; rfl) hhist (.inl (by rw [hsession])) (hbegun j)
    (fun k _ => (hbegun k).2) (fun hb k hk => ?_) hstarts
  · rw [hrows, OpenRows.rollback_own_ne hj]
  · have hold := h.alone ((hbegun j).1 hb) k hk
    refine ⟨fun hm => hold.1 ((hbegun k).1 hm), ?_⟩
    rw [hrows]
    by_cases hki : k = i
    · subst hki
      exact OpenRows.rollback_own_self
    · rw [OpenRows.rollback_own_ne hki]
      exact hold.2

/-- A session that has begun nothing loses nothing by a rollback. -/
theorem State.Counted.rollback (h : s.Counted) (hnil : (s.session i).begun = []) :
    (s.rollback i).Counted := by
  have hself : (s.rollback i).session i = {} := by rw [State.rollback, setSession_self]
  have hne : ∀ k, k ≠ i → (s.rollback i).session k = s.session k := fun k hk =>
    State.setSession_ne hk _
  have hbegun : ∀ k id, id ∈ ((s.rollback i).session k).begun ↔ id ∈ (s.session k).begun :=
    fun k id => by
      by_cases hk : k = i
      · subst hk
        rw [hself, hnil]
      · rw [hne k hk]
  intro j id
  -- The session itself drops its writes; the others keep theirs.
  by_cases hj : j = i
  · subst hj
    refine (h j id).dropped (by rw [hnil]; exact List.not_mem_nil) OpenRows.rollback_own_self rfl
      (.inl (by rw [hself])) (fun k => hbegun k id) rfl
  · exact (h j id).dropped_ne hj rfl (hne j hj) (State.rollback_history_ne hj id)
      (fun k => hbegun k id) rfl

/-- The handler rolls back nothing but its own attempt. -/
theorem State.Counted.handlerRollback (h : s.Counted) {job : Option Job}
    (hpc : (s.session i).pc = .running id job) (hown : s.RollsBackAttempt i id) :
    (s.handlerRollback i id).Counted := by
  let s' := s.handlerRollback i id
  have hself : s'.session i = { s.session i with ownLog := [], pc := .running id none } := by
    show (s.setSession i _).session i = _
    rw [setSession_self]
  have hne : ∀ k, k ≠ i → s'.session k = s.session k := fun k hk => State.setSession_ne hk _
  have hbegun : ∀ k id, id ∈ (s'.session k).begun ↔ id ∈ (s.session k).begun := fun k id => by
    by_cases hk : k = i
    · subst hk
      rw [hself]
    · rw [hne k hk]
  intro j id'
  -- The session drops its writes and keeps its attempt; the others keep theirs.
  by_cases hj : j = i
  · subst hj
    by_cases hid : id = id'
    · subst hid
      have hflight : (s.session j).pc.InFlight id := by rw [hpc]; rfl
      have hpc' : (s'.session j).pc = .running id none := by rw [hself]
      have hnone : (s'.rows.own j)[id]? = none := OpenRows.rollback_own_self
      constructor
      · intro hb k hk
        have hold := (h j id).alone ((hbegun j id).1 hb) k hk
        refine ⟨fun hm => hold.1 ((hbegun k id).1 hm), ?_⟩
        exact (congrArg (fun t : Table Job => t[id]?) (OpenRows.rollback_own_ne hk)).trans hold.2
      · exact fun row hr => absurd (hnone.symm.trans hr) (Option.some_ne_none row ∘ Eq.symm)
      · exact fun row _ hr => absurd (hnone.symm.trans hr) (Option.some_ne_none row ∘ Eq.symm)
      · exact fun row hr =>
          (h j id).bounded_committed ((OpenRows.row_of_own_none hnone).symm.trans hr)
      · intro _ hp
        cases hpc'.symm.trans hp
      · intro _ hp
        cases hpc'.symm.trans hp
      · intro _ hp
        cases hpc'.symm.trans hp
      · intro _ _ hp
        cases hpc'.symm.trans hp
      · exact fun _ => (hbegun j id).2 ((h j id).begun hflight)
      · intro _ _ _ hp
        rw [hpc'] at hp
        exact absurd rfl hp
      · intro row hr hno
        exact (h j id).committed row hr fun k hk => hno k ((hbegun k id).2 hk)
      · intro _ hp
        rw [hpc'] at hp
        exact absurd rfl hp
      · intro _
        rcases hown.2 with hlast | hjob
        · exact .inl (by rw [State.Owns, State.handlerRollback_history_self]; exact hlast)
        · exact .inr ⟨hjob, hnone⟩
      · exact fun hb => (h j id).started ((hbegun j id).1 hb)
    · refine (h j id').dropped ?_ OpenRows.rollback_own_self rfl (.inr ⟨id, none, hid, ?_⟩)
        (fun k => hbegun k id') rfl
      · rw [hown.1, List.mem_singleton]
        exact Ne.symm hid
      · rw [hself]
  · exact (h j id').dropped_ne hj rfl (hne j hj) (State.handlerRollback_history_ne hj id id')
      (fun k => hbegun k id') rfl

/-- A commit empties the log of the session and the attempts it has begun. -/
theorem State.commit_session_self (s : State ι) (i : ι) :
    (s.commit i).session i = { s.session i with ownLog := [], begun := [] } := by
  rw [commit, setSession_self]

/-- The other sessions are left as they are. -/
theorem State.commit_session_ne (h : j ≠ i) : (s.commit i).session j = s.session j :=
  setSession_ne h _

/-- The session that commits. -/
theorem CountAt.commit_self (h : CountAt s i id) (hflight : ¬ (s.session i).pc.InFlight id) :
    CountAt (s.commit i) i id := by
  have hnone : ((s.commit i).rows.own i)[id]? = none := OpenRows.commit_own_self
  have hjob : (s.commit i).job id = s.rows.row i id := OpenRows.get_commit
  have hpc : ((s.commit i).session i).pc = (s.session i).pc := by rw [State.commit_session_self]
  have hbegun : id ∉ ((s.commit i).session i).begun := by
    rw [State.commit_session_self]
    exact List.not_mem_nil
  -- The session's writes are the committed rows now, so what it saw stays what it sees.
  refine .of_committed hnone hbegun (by rwa [hpc]) ?_ ?_ ?_ ?_
  · rw [hjob]
    exact h.bounded
  · rw [hpc, hjob]
    exact h.present
  · rw [hpc, hjob, State.Owns, State.commit_history_self]
    exact h.claimed
  · rw [hjob]
    exact fun row hr hno => h.counted row hr (fun k hk hm =>
      hno k (by rwa [State.commit_session_ne hk])) hflight

/-- A session that has not begun to run a job whose row, as it sees it, another session's
    commit replaces. -/
theorem CountAt.commit_replaces (h : CountAt s j id) (hi : CountAt s i id) (hj : j ≠ i) {row : Job}
    (hown : (s.rows.own i)[id]? = some row) (hnone : (s.rows.own j)[id]? = none)
    (hhist : (s.commit i).history j id = s.history i id)
    (hflight : ¬ (s.session i).pc.InFlight id) : CountAt (s.commit i) j id := by
  have hbegun : id ∉ (s.session j).begun := fun hb =>
    Option.some_ne_none row (hown.symm.trans (h.alone hb i (Ne.symm hj)).2)
  have hsession : (s.commit i).session j = s.session j := State.commit_session_ne hj
  have hnone' : ((s.commit i).rows.own j)[id]? = none :=
    (congrArg (fun t : Table Job => t[id]?) (OpenRows.commit_own_ne hj)).trans hnone
  have hnot : ¬ (s.session j).pc.InFlight id := fun hp => hbegun (h.begun hp)
  have hrowi : s.rows.row i id = some row := OpenRows.row_of_own hown
  have hjob : (s.commit i).job id = some row := OpenRows.get_commit.trans hrowi
  refine .of_committed hnone' (by rwa [hsession]) (by rwa [hsession]) ?_ ?_ ?_ ?_
  · intro row' hr
    cases hjob.symm.trans hr
    exact hi.bounded row hrowi
  · exact fun _ _ hr => Option.some_ne_none row (hjob.symm.trans hr)
  · -- the commit shows another claim, or a row that nobody else can have claimed
    intro job hp howns
    rw [hsession] at hp
    rw [State.Owns, hhist] at howns
    rcases hi.written row hown with hlast | hjobnone
    · exact absurd (Option.some.inj (howns.symm.trans hlast)) hj
    · exact absurd ((OpenRows.row_of_own_none hnone).trans hjobnone) (h.present job hp)
  · intro row' hr hno
    cases hjob.symm.trans hr
    refine hi.counted row hrowi (fun k hk hm => ?_) hflight
    by_cases hkj : k = j
    · exact hbegun (hkj ▸ hm)
    · exact hno k (by rwa [State.commit_session_ne hk])

omit [DecidableEq ι] in
/-- A session that sees no row of the job. -/
theorem CountAt.absent (h : CountAt s j id) (hbegun : id ∉ (s.session j).begun)
    (hrow : s.rows.row j id = none) (hown : (s'.rows.own j)[id]? = (s.rows.own j)[id]?)
    (hjob : s'.job id = s.job id) (hsession : s'.session j = s.session j) : CountAt s' j id := by
  have hrows := Option.or_eq_none_iff.1 hrow
  have hnone : s'.job id = none := hjob.trans hrows.2
  have hflight : ¬ (s.session j).pc.InFlight id := fun hp => hbegun (h.begun hp)
  have hpresent : ∀ job, (s.session j).pc ≠ .claimed id job := fun job hp => h.present job hp hrow
  refine .of_committed (hown.trans hrows.1) (by rwa [hsession]) (by rwa [hsession]) ?_ ?_ ?_ ?_
  · exact fun row hr => absurd (hnone.symm.trans hr) (Option.some_ne_none row ∘ Eq.symm)
  · exact fun job hp => absurd (hsession ▸ hp) (hpresent job)
  · exact fun job hp => absurd (hsession ▸ hp) (hpresent job)
  · exact fun row hr => absurd (hnone.symm.trans hr) (Option.some_ne_none row ∘ Eq.symm)

theorem State.Counted.commit (hlocked : s.Locked) (h : s.Counted)
    (hflight : ∀ id, ¬ (s.session i).pc.InFlight id) : (s.commit i).Counted := by
  intro j id
  by_cases hj : j = i
  · subst hj
    exact (h j id).commit_self (hflight id)
  have hsession : (s.commit i).session j = s.session j := State.commit_session_ne hj
  have hown' : ((s.commit i).rows.own j)[id]? = (s.rows.own j)[id]? :=
    congrArg (fun t : Table Job => t[id]?) (OpenRows.commit_own_ne hj)
  cases hown : (s.rows.own i)[id]? with
  | some row =>
    rcases hlocked.commit_view hj id with ⟨hnone, _⟩ | ⟨hnone, _, hhist⟩
    · exact absurd (hown.symm.trans hnone) (Option.some_ne_none row)
    · exact (h j id).commit_replaces (h i id) hj hown hnone hhist (hflight id)
  | none =>
    have hjob : (s.commit i).job id = s.job id :=
      OpenRows.get_commit.trans (OpenRows.row_of_own_none hown)
    have hhist : (s.commit i).history j id = s.history j id := by
      rw [State.commit_history_ne hj, (hlocked.view_eq hown).2, State.history_eq]
    by_cases hbegun : id ∈ (s.session i).begun
    · -- the run has come to nothing, and the job has no row
      have hnone := ((h i id).kept hbegun (hflight id)).resolve_left fun hne => hne hown
      have halone := (h i id).alone hbegun j hj
      exact (h j id).absent halone.1 ((OpenRows.row_of_own_none halone.2).trans hnone) hown' hjob
        hsession
    · refine (h j id).frame hown' hjob hhist (.inl (by rw [hsession])) (by rw [hsession])
        (fun k _ hk => ?_) (fun hb k hk => ?_) rfl
      · by_cases hki : k = i
        · exact absurd (hki ▸ hk) hbegun
        · rwa [State.commit_session_ne hki]
      · rw [hsession] at hb
        by_cases hki : k = i
        · subst hki
          rw [State.commit_session_self]
          exact ⟨List.not_mem_nil, OpenRows.commit_own_self⟩
        · rw [State.commit_session_ne hki]
          exact ⟨((h j id).alone hb k hk).1, (congrArg (fun t : Table Job => t[id]?)
            (OpenRows.commit_own_ne hki)).trans ((h j id).alone hb k hk).2⟩

/-! ## Runs -/

variable {l : Label ι}

theorem State.Counted.step (hlocked : s.Locked) (h : s.Counted) (hok : CountsAttempts s l)
    (he : Effect s l s') : s'.Counted := by
  cases he with
  | same => exact h
  | insert i id args availableAt createdAt hfresh => exact h.insert hfresh rfl rfl hok
  | look _ i pc hpc hnext => exact h.look hpc hnext
  | claim _ i id workerId now row hl hpc _ hrow hguard =>
    have halone : s.Alone i id := by
      cases l with
      | update => exact hok _ hl
      | claimSpecific =>
        cases hl
        exact hok
      | _ => cases hl
    exact h.claim halone hpc hrow hguard
  | start i id job hpc =>
    have ⟨howns, halone⟩ := hok id (by rw [hpc]; rfl)
    exact h.start hpc howns halone
  | handlerRollback i id job hpc => exact h.handlerRollback hpc (hok id (by rw [hpc]; rfl))
  | finish i id job outcome now hpc =>
    refine h.finish hpc fun row hr => ?_
    have ⟨hrow, _, hstarts⟩ := (h i id).running job hpc
    cases hrow.symm.trans hr
    exact Job.counts_conclude hstarts outcome now
  | finishExpired i id row outcome now hpc =>
    refine h.finish hpc fun row' _ => ?_
    cases outcome with
    | ok result => exact .inl rfl
    | error message => exact absurd hpc (hok id (by rw [hpc]; rfl))
  | vanish i id outcome now hpc hrow => exact h.vanish hpc hrow
  | record i id update row hpc _ hrow => exact h.record hpc hrow
  | commit i hpc =>
    refine h.commit hlocked fun id hp => ?_
    rcases hpc with hpc | ⟨id', job, hpc⟩
    · rw [hpc] at hp
      exact hp
    · rw [hpc] at hp
      exact hp
  | rollback i => exact h.rollback hok

variable [Fintype ι]

/-- Along every run under the condition, of any number of sessions: the handler of a job is
    started at most `max_attempts` times; and a job that has not succeeded and is not being
    run has counted its attempts, and has failed exactly when all of them are used up. -/
theorem attempts_bounded (h : Run step CountsAttempts (.quiescent ∅) s) {row : Job}
    (hrow : s.job id = some row) : (s.starts id : Int) ≤ row.maxAttempts ∧
      ((∀ j, id ∉ (s.session j).begun) → row.status ≠ .succeeded →
        row.attempts = s.starts id ∧
          (row.status = .failed ↔ (s.starts id : Int) = row.maxAttempts)) := by
  have hinv : (s.Locked ∧ s.Counted) ∧ (Nonempty ι ∨ s.job id = none) := by
    refine h.invariant (P := fun s => (s.Locked ∧ s.Counted) ∧ (Nonempty ι ∨ s.job id = none))
      ⟨⟨locked_quiescent ∅, counted_quiescent⟩, .inr ?_⟩ fun s l u hs hok hl => ?_
    · simp [State.job, State.quiescent, OpenRows.closed]
    · have he := step_effect hl
      refine ⟨⟨hs.1.1.step he, hs.1.2.step hs.1.1 hok he⟩, .inl ?_⟩
      cases l <;> exact ⟨‹ι›⟩
  obtain ⟨j⟩ := hinv.2.resolve_right fun hnone =>
    Option.some_ne_none row (hrow.symm.trans hnone)
  have hcount := hinv.1.2 j id
  have hbound := hcount.bounded_committed hrow
  refine ⟨hbound, fun hno hstatus => ?_⟩
  obtain ⟨hattempts, hfailed⟩ := (hcount.committed row hrow hno).resolve_left hstatus
  refine ⟨hattempts, hfailed.trans ⟨fun hle => ?_, fun heq => ?_⟩⟩
  · omega
  · omega

/-- Two attempts of job 7 that fail, the second one for good. -/
def failTwice (i j : Fin 2) : List (Label (Fin 2)) :=
  enqueueSeven i 2 ++ claimSeven i 1 ++ runClaimed i (.error "boom") 2 ++
    claimSeven j 9000000 ++ runClaimed j (.error "boom") 9000001

theorem attempts_bounded_failTwice :
    ∃ (s : State (Fin 2)) (row : Job), s.job 7 = some row ∧ row.status = .failed ∧
      s.starts 7 = 2 ∧ row.attempts = s.starts 7 := by
  have hruns : ∃ s, Run.exec (Run.guarded step CountsAttempts) (.quiescent ∅)
      (failTwice 0 1) = some s ∧
      (s.job 7).map Job.status = some .failed ∧ s.starts 7 = 2 ∧
      ∀ j, 7 ∉ (s.session j).begun := ⟨_, rfl, rfl, rfl, by decide⟩
  obtain ⟨s, hs, hfailed, htwo, hno⟩ := hruns
  obtain ⟨row, hrow, hstatus⟩ := Option.map_eq_some_iff.1 hfailed
  have ⟨_, hcount⟩ := attempts_bounded (Run.of_exec_guarded _ hs) hrow
  have ⟨hattempts, _⟩ := hcount hno (by rw [hstatus]; exact JobStatus.noConfusion)
  exact ⟨s, row, hrow, hstatus, htwo, hattempts⟩

/-- Job 7 is allowed a single attempt. The worker that runs it dies in the handler, two
    minutes later the next worker starts the handler again. -/
def crashLoop (i j : Fin 2) : List (Label (Fin 2)) :=
  enqueueSeven i 1 ++ claimSeven i 1 ++ [.start i, .rollback i] ++ claimSeven j 120000001 ++
    [.start j]

theorem attempts_bounded_crash :
    ¬ ∀ (s : State (Fin 2)) (id : Id) (row : Job),
      Run step (fun _ _ => True) (.quiescent ∅) s → s.job id = some row →
        (s.starts id : Int) ≤ row.maxAttempts ∧
          ((∀ j, id ∉ (s.session j).begun) → row.status ≠ .succeeded →
            row.attempts = s.starts id ∧
              (row.status = .failed ↔ (s.starts id : Int) = row.maxAttempts)) := by
  intro hall
  have hruns : ∃ s, Run.exec step (.quiescent ∅) (crashLoop 0 1) = some s ∧
      (s.job 7).map Job.maxAttempts = some 1 ∧ s.starts 7 = 2 := ⟨_, rfl, rfl, rfl⟩
  obtain ⟨s, hs, hone, htwo⟩ := hruns
  obtain ⟨row, hrow, hmax⟩ := Option.map_eq_some_iff.1 hone
  have ⟨hbound, _⟩ := hall s 7 row (Run.of_exec_true _ hs) hrow
  omega

end Steps

end MiniGrc.Jobs
