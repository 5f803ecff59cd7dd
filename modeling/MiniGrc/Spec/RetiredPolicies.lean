import MiniGrc.Spec.VersionCommands
import MiniGrc.App.ConcurrentPolicies

/-!
# Retired policies

The status of a policy and the lifecycles of its versions are written by different requests.
`retire_policy` withdraws the effective version that it has found. `update_policy` writes any
status and leaves the versions alone, and `make_version_effective` does not look at the status
of the policy, so that the two of them alone make a retired policy with an effective version;
so does a version that becomes effective after a retirement has loaded the versions.

## Key results

- `retired_of_run`: if no commit retires a policy that keeps an effective version or makes a
  version of a retired policy effective, retired policies have no effective version
- `retirePolicy_alone_careful`: a retirement that is served alone finds what it has to find
- `retired_updated`, `retired_raced`: schedules that leave a retired policy an effective version
-/

namespace MiniGrc.ConcurrentPolicies

open Events VersionLifecycle PolicyLifecycle
open ConcurrentScope (written)
open TrustCenter (Policy PolicyForm PolicyStatus)

variable {ι : Type} [DecidableEq ι] {clock : Clock} {t t' : Tables} {change : Change}

/-! ## Retired policies -/

/-- No version of a retired policy is effective. -/
def RetiredHaveNone (t : Tables) : Prop :=
  ∀ (p : Id) (policy : Policy), t.policies[p]? = some policy → policy.status = .retired →
    ∀ (k : Id) (v : PolicyVersion), t.versions[k]? = some v → v.policyId = p →
      v.lifecycleStatus ≠ .effective

/-- Every version belongs to a policy. -/
def Owned (t : Tables) : Prop :=
  ∀ (k : Id) (v : PolicyVersion), t.versions[k]? = some v → v.policyId ∈ t.policies

/-- The effective versions of a policy. -/
def Tables.effectiveIds (t : Tables) (policyId : Id) : List Id :=
  (t.versions.toList.filter fun x =>
    x.2.policyId = policyId ∧ x.2.lifecycleStatus = .effective).map Prod.fst

/-- What a commit has to find: whoever retires a policy that was not retired withdraws its
    effective versions, and the policy of a version that is made effective is not retired. -/
def Change.Careful (t : Tables) : Change → Prop
  | .update policyId loaded policy =>
    policy.status = .retired → loaded.status ≠ .retired → t.effectiveIds policyId = []
  | .retire policyId loaded effective _ =>
    loaded.status ≠ .retired → ∀ k ∈ t.effectiveIds policyId, ∃ x ∈ effective, x.1.1 = k
  | .append appends =>
    ∀ a ∈ appends, a.event = .madeEffective → ∀ v ∈ t.versions[a.versionId]?,
      ∀ policy ∈ t.policies[v.policyId]?, policy.status ≠ .retired
  | _ => True

instance (t : Tables) : (change : Change) → Decidable (change.Careful t)
  | .none | .create _ _ _ | .addVersion _ _ _ => isTrue trivial
  | .update policyId loaded policy => inferInstanceAs (Decidable (policy.status = .retired →
    loaded.status ≠ .retired → t.effectiveIds policyId = []))
  | .retire policyId loaded effective _ => inferInstanceAs (Decidable (loaded.status ≠ .retired →
    ∀ k ∈ t.effectiveIds policyId, ∃ x ∈ effective, x.1.1 = k))
  | .append appends => inferInstanceAs (Decidable (∀ a ∈ appends, a.event = .madeEffective →
    ∀ v ∈ t.versions[a.versionId]?, ∀ policy ∈ t.policies[v.policyId]?,
      policy.status ≠ .retired))

theorem mem_effectiveIds {p k : Id} :
    k ∈ t.effectiveIds p ↔ ∃ v : PolicyVersion, t.versions[k]? = some v ∧ v.policyId = p ∧
      v.lifecycleStatus = .effective := by
  simp [Tables.effectiveIds]

/-! ## Appends -/

@[simp] theorem written_self {γ : Type} [DecidableEq γ] (old new : γ) :
    written old new old = new := by
  unfold written
  split
  · next h => exact h.symm
  · rfl

/-- A row that nobody has changed since it was loaded is left as the projector leaves it. -/
theorem writeColumns_self (old new : LifecycleColumns) : writeColumns old new old = new := by
  simp [writeColumns]

/-- On such a row the projector does what it does in a session alone. -/
theorem projection_project_eq {a : Append} {rows : Tracked PolicyVersion} {event : Event}
    {v : PolicyVersion} (hv : rows.current[event.aggregate]? = some v)
    (hloaded : v.toLifecycleColumns = a.loaded) :
    a.projection.project rows event = PolicyLifecycle.project rows event := by
  simp only [Append.projection, PolicyLifecycle.project, VersionLifecycle.project, hv, hloaded,
    writeColumns_self]
  rw [← hloaded]
  rfl

/-- A flush changes no row. -/
theorem flush_current {rows rows' : Tracked PolicyVersion}
    (h : VersionLifecycle.flush rows = .ok rows') : rows'.current = rows.current := by
  unfold VersionLifecycle.flush at h
  split at h
  · cases h
  · next hflush =>
    obtain rfl := Except.ok.inj h
    rw [Tracked.flush_eq_clean hflush, Tracked.clean_current]

/-- What an append does to the rows. -/
theorem append_returns (a : Append) (s : PolicySession) :
    (appendAndProject a.projection clock s a.args).Returns fun s' =>
      ∃ (v : PolicyVersion) (at' : Time), s.rows.current[a.versionId]? = some v ∧
        s'.rows.current = s.rows.current.insert a.versionId { v with
          toLifecycleColumns := writeColumns a.loaded (a.loaded.apply a.event at' a.actor.actorId)
            v.toLifecycleColumns } := by
  have hfresh : s.Fresh a.args := rfl
  cases hflush : a.projection.flush s.rows with
  | error e =>
    simp only [appendAndProject, appendEvent_of_fresh hfresh, hflush, if_true]
    trivial
  | ok rows =>
    have hcurrent : rows.current = s.rows.current := flush_current hflush
    cases hproject : a.projection.project rows (nextEvent clock s a.args) with
    | error e =>
      rw [appendAndProject_raised hfresh hflush hproject]
      trivial
    | ok rows' =>
      rw [appendAndProject_eq hfresh hflush hproject]
      simp only [Append.projection] at hproject
      split at hproject
      · cases hproject
      · next v hv =>
        obtain rfl := Except.ok.inj hproject
        exact ⟨v, _, hcurrent ▸ hv, by rw [← hcurrent]; rfl⟩

/-- What appends leave of the versions: an effective one was effective before or has been made
    so, and none has another policy. -/
def Promotes (appends : List Append) (s s' : PolicySession) : Prop :=
  ∀ (k : Id) (v' : PolicyVersion), s'.rows.current[k]? = some v' →
    ∃ v : PolicyVersion, s.rows.current[k]? = some v ∧ v'.policyId = v.policyId ∧
      (v'.lifecycleStatus = .effective → v.lifecycleStatus = .effective ∨
        ∃ a ∈ appends, a.versionId = k ∧ a.event = .madeEffective)

theorem append_promotes (a : Append) (s : PolicySession) :
    (appendAndProject a.projection clock s a.args).Returns (Promotes [a] s) := by
  refine (append_returns a s).mono fun s' h => ?_
  obtain ⟨v, at', hv, hrows⟩ := h
  intro k v' hv'
  -- Only the row of the append changes.
  rw [hrows, Table.get_insert] at hv'
  split at hv'
  · next hk =>
    subst hk
    obtain rfl := Option.some.inj hv'
    refine ⟨v, hv, rfl, fun heffective => ?_⟩
    have hstatus : written a.loaded.lifecycleStatus
        (lifecycle.next a.loaded.lifecycleStatus a.event) v.lifecycleStatus = .effective := by
      rw [← LifecycleColumns.apply_status a.loaded a.event at' a.actor.actorId]
      exact heffective
    unfold written at hstatus
    split at hstatus
    · exact .inl hstatus
    · exact .inr ⟨a, by simp, rfl, lifecycle_next_eq_effective.1 hstatus⟩
  · exact ⟨v', hv', rfl, .inl⟩

theorem appendAll_promotes (appends : List Append) (s : PolicySession) :
    (appendAll clock appends s).Returns (Promotes appends s) := by
  -- over the appends: what is effective was so before or is made so by one of them
  induction appends generalizing s with
  | nil => exact fun k v hv => ⟨v, hv, rfl, .inl⟩
  | cons a rest ih =>
    refine (append_promotes a s).andThen fun s₁ hfirst => (ih s₁).mono fun s₂ hrest => ?_
    intro k v₂ hv₂
    obtain ⟨v₁, hv₁, hpolicy₁, heffective₁⟩ := hrest k v₂ hv₂
    obtain ⟨v, hv, hpolicy, heffective⟩ := hfirst k v₁ hv₁
    refine ⟨v, hv, hpolicy₁.trans hpolicy, fun h => ?_⟩
    rcases heffective₁ h with h | ⟨b, hb, hmade⟩
    · rcases heffective h with h | ⟨b, hb, hmade⟩
      · exact .inl h
      · exact .inr ⟨b, by simp_all, hmade⟩
    · exact .inr ⟨b, List.mem_cons_of_mem _ hb, hmade⟩

/-! ## Commits -/

/-- What a commit writes of the versions. -/
theorem commit_eq_ok {o : Outcome PolicySession} (h : t.commit o = .ok t') :
    ∃ s, o = .returned s ∧ t'.policies = t.policies ∧ t'.versions = s.rows.current := by
  unfold Tables.commit at h
  cases o with
  | raised s e => cases h
  | returned s =>
    simp only [Outcome.andThen, flushSession] at h
    cases hflush : PolicyLifecycle.projection.flush s.rows with
    | error e => simp only [hflush] at h; cases h
    | ok rows =>
      simp only [hflush] at h
      obtain rfl := Except.ok.inj h
      exact ⟨s, rfl, rfl, flush_current hflush⟩

/-- What holds of the committed tables. -/
structure Inv (t : Tables) : Prop where
  none : RetiredHaveNone t
  owned : Owned t

/-- A new version is not effective. -/
theorem Inv.insertVersion (h : Inv t) {k p : Id} {n : Nat}
    (hinsert : t.insertVersion clock k p n = .ok t') : Inv t' := by
  unfold Tables.insertVersion at hinsert
  split at hinsert
  · cases hinsert
  · next hadmitted =>
    obtain ⟨s, hs, hpolicies, hversions⟩ := commit_eq_ok hinsert
    obtain rfl := Outcome.returned.inj hs
    have hp : p ∈ t.policies := by
      by_contra hp
      exact hadmitted (.inr hp)
    constructor
    · intro q policy hpolicy hretired j v hv hq
      rw [hpolicies] at hpolicy
      rw [hversions, Tracked.set_current, Table.get_insert] at hv
      split at hv
      · obtain rfl := Option.some.inj hv
        simp
      · exact h.none q policy hpolicy hretired j v hv hq
    · intro j v hv
      rw [hpolicies]
      rw [hversions, Tracked.set_current, Table.get_insert] at hv
      split at hv
      · obtain rfl := Option.some.inj hv
        exact hp
      · exact h.owned j v hv

/-- A new policy has no versions. -/
theorem Inv.insertPolicy (h : Inv t) {p : Id} (hnew : p ∉ t.policies) (policy : Policy) :
    Inv { t with policies := t.policies.insert p policy } := by
  constructor
  · intro q policy' hpolicy hretired k v hv hq
    rw [Table.get_insert] at hpolicy
    split at hpolicy
    · next hpq => exact absurd (h.owned k v hv) (by rwa [hq, ← hpq])
    · exact h.none q policy' hpolicy hretired k v hv hq
  · intro k v hv
    exact Std.ExtTreeMap.mem_insert.2 (.inr (h.owned k v hv))

/-- After an `UPDATE` a policy is retired if it was, or if the status was changed to that. -/
theorem status_writePolicy {old new current : Policy}
    (h : (writePolicy old new current).status = .retired) :
    current.status = .retired ∨ new.status = .retired ∧ old.status ≠ .retired := by
  have h : written old.status new.status current.status = .retired := h
  unfold written at h
  split at h
  · exact .inl h
  · next hne => exact .inr ⟨h, fun hold => hne (h.trans hold.symm)⟩

theorem retired_updatePolicy {p q : Id} {old new policy' : Policy}
    (h : (t.updatePolicy p old new).policies[q]? = some policy')
    (hretired : policy'.status = .retired) :
    (∃ policy, t.policies[q]? = some policy ∧ policy.status = .retired) ∨
      p = q ∧ new.status = .retired ∧ old.status ≠ .retired := by
  simp only [Tables.updatePolicy, Table.get_alter] at h
  split at h
  · next hpq =>
    obtain ⟨policy, hpolicy, rfl⟩ := Option.map_eq_some_iff.1 h
    rcases status_writePolicy hretired with hretired | hset
    · exact .inl ⟨policy, hpq ▸ hpolicy, hretired⟩
    · exact .inr ⟨hpq, hset⟩
  · exact .inl ⟨policy', h, hretired⟩

theorem mem_updatePolicy {p q : Id} {old new : Policy} :
    q ∈ (t.updatePolicy p old new).policies ↔ q ∈ t.policies := by
  simp only [Std.ExtTreeMap.mem_iff_isSome_getElem?, Tables.updatePolicy, Table.get_alter]
  split
  · next h => subst h; simp
  · rfl

/-- An update leaves the versions alone. -/
theorem Inv.updatePolicy (h : Inv t) {p : Id} {old new : Policy}
    (hcareful : new.status = .retired → old.status ≠ .retired → t.effectiveIds p = []) :
    Inv (t.updatePolicy p old new) := by
  constructor
  · intro q policy' hpolicy hretired k v hv hq heffective
    rcases retired_updatePolicy hpolicy hretired with ⟨policy, hpolicy, hretired⟩ | ⟨rfl, hset⟩
    · exact h.none q policy hpolicy hretired k v hv hq heffective
    · have hmem : k ∈ t.effectiveIds p := mem_effectiveIds.2 ⟨v, hv, hq, heffective⟩
      rw [hcareful hset.1 hset.2] at hmem
      cases hmem
  · exact fun k v hv => mem_updatePolicy.2 (h.owned k v hv)

/-- A version of a retired policy is not made effective. -/
theorem Inv.append (h : Inv t) {appends : List Append}
    (hcareful : Change.Careful t (.append appends))
    (happly : Change.apply clock (.append appends) t = .ok t') : Inv t' := by
  obtain ⟨s, hs, hpolicies, hversions⟩ := commit_eq_ok happly
  have hpromotes : (appendAll clock appends t.session).Returns (Promotes appends t.session) :=
    appendAll_promotes appends t.session
  rw [hs] at hpromotes
  -- By `hcareful` nothing of a retired policy is made effective.
  constructor
  · intro p policy hpolicy hretired k v' hv' hp heffective
    rw [hpolicies] at hpolicy
    rw [hversions] at hv'
    obtain ⟨v, hv, hsame, hpromoted⟩ := hpromotes k v' hv'
    rcases hpromoted heffective with hold | ⟨a, ha, rfl, hmade⟩
    · exact h.none p policy hpolicy hretired k v hv (hsame.symm.trans hp) hold
    · refine hcareful a ha hmade v hv policy ?_ hretired
      rwa [← hsame, hp]
  · intro k v' hv'
    rw [hversions] at hv'
    obtain ⟨v, hv, hsame, -⟩ := hpromotes k v' hv'
    rw [hpolicies, hsame]
    exact h.owned k v hv

/-- A withdrawn version is not effective, and no other becomes effective. -/
theorem withdrawal_returns (x : { x : Id × PolicyVersion // x.2.lifecycleStatus = .effective })
    (userId : String) (s : PolicySession) :
    (appendAll clock [withdrawal x.1 userId] s).Returns fun s' => Promotes [] s s' ∧
      ∀ v', s'.rows.current[x.1.1]? = some v' → v'.lifecycleStatus ≠ .effective := by
  refine (append_returns (withdrawal x.1 userId) s).andThen fun s' h => ?_
  obtain ⟨v, at', hv, hrows⟩ := h
  -- the loaded status is effective, so that the new one is written
  have hwithdrawn : written x.1.2.lifecycleStatus .withdrawn v.lifecycleStatus = .withdrawn := by
    rw [x.2]
    rfl
  have hnot : ∀ v', s'.rows.current[x.1.1]? = some v' → v'.lifecycleStatus ≠ .effective := by
    intro v' hv' heffective
    rw [hrows] at hv'
    obtain rfl := Option.some.inj (Table.get_insert_self.symm.trans hv')
    cases hwithdrawn.symm.trans heffective
  refine ⟨fun k v' hv' => ?_, hnot⟩
  by_cases hk : x.1.1 = k
  · subst hk
    refine ⟨v, hv, ?_, fun heffective => absurd heffective (hnot v' hv')⟩
    rw [hrows] at hv'
    obtain rfl := Option.some.inj (Table.get_insert_self.symm.trans hv')
    rfl
  · rw [hrows] at hv'
    exact ⟨v', (Table.get_insert_ne hk).symm.trans hv', rfl, .inl⟩

/-- What a retirement leaves of the versions. -/
theorem retirement_returns
    (effective : Option { x : Id × PolicyVersion // x.2.lifecycleStatus = .effective })
    (userId : String) (s : PolicySession) :
    (appendAll clock (effective.toList.map fun x => withdrawal x.1 userId) s).Returns fun s' =>
      Promotes [] s s' ∧ ∀ x ∈ effective, ∀ v', s'.rows.current[x.1.1]? = some v' →
        v'.lifecycleStatus ≠ .effective := by
  cases effective with
  | none => exact ⟨fun k v hv => ⟨v, hv, rfl, .inl⟩, by simp⟩
  | some x =>
    refine (withdrawal_returns x userId s).mono fun s' h => ⟨h.1, ?_⟩
    rintro _ ⟨⟩
    exact h.2

/-- A retirement leaves the policy without an effective version. -/
theorem Inv.retire (h : Inv t) {p : Id} {loaded : Policy}
    {effective : Option { x : Id × PolicyVersion // x.2.lifecycleStatus = .effective }}
    {userId : String} (hcareful : Change.Careful t (.retire p loaded effective userId))
    (happly : Change.apply clock (.retire p loaded effective userId) t = .ok t') : Inv t' := by
  obtain ⟨s, hs, hpolicies, hversions⟩ := commit_eq_ok happly
  have hreturns := @retirement_returns clock effective userId t.session
  rw [hs] at hreturns
  obtain ⟨hpromotes, hwithdrawn⟩ := hreturns
  -- By `hcareful` the retirement has found every effective version.
  constructor
  · intro q policy hpolicy hretired k v' hv' hq heffective
    rw [hpolicies] at hpolicy
    rw [hversions] at hv'
    obtain ⟨v, hv, hsame, hpromoted⟩ := hpromotes k v' hv'
    have hold : v.lifecycleStatus = .effective := by simpa using hpromoted heffective
    rcases retired_updatePolicy hpolicy hretired with ⟨policy, hpolicy, hretired⟩ | ⟨rfl, hset⟩
    · exact h.none q policy hpolicy hretired k v hv (hsame.symm.trans hq) hold
    · obtain ⟨x, hx, rfl⟩ := hcareful hset.2 k
        (mem_effectiveIds.2 ⟨v, hv, hsame.symm.trans hq, hold⟩)
      exact hwithdrawn x hx v' hv' heffective
  · intro k v' hv'
    rw [hversions] at hv'
    obtain ⟨v, hv, hsame, -⟩ := hpromotes k v' hv'
    rw [hpolicies, hsame]
    exact mem_updatePolicy.2 (h.owned k v hv)

theorem Inv.apply (h : Inv t) (hcareful : change.Careful t)
    (happly : change.apply clock t = .ok t') : Inv t' := by
  cases change with
  | none =>
    obtain rfl := Except.ok.inj happly
    exact h
  | create p policy versionId =>
    simp only [Change.apply] at happly
    split at happly
    · cases happly
    · next hnew =>
      cases versionId with
      | none =>
        obtain rfl := Except.ok.inj happly
        exact h.insertPolicy hnew policy
      | some k => exact (h.insertPolicy hnew policy).insertVersion happly
  | update p loaded policy =>
    obtain rfl := Except.ok.inj happly
    exact h.updatePolicy hcareful
  | addVersion k p n => exact h.insertVersion happly
  | append appends => exact h.append hcareful happly
  | retire p loaded effective userId => exact h.retire hcareful happly

/-! ## Requests alone -/

/-- The effective version that a retirement finds, if there is at most one. -/
theorem effectiveVersion_of_mem {p k : Id} (hone : ∀ k' ∈ t.effectiveIds p, k' = k)
    (hk : k ∈ t.effectiveIds p) : ∃ x ∈ effectiveVersion t p, x.1.1 = k := by
  obtain ⟨v, hv, hp, heffective⟩ := mem_effectiveIds.1 hk
  have hmem : (k, v) ∈ versionsOf t.session p := mem_versionsOf.2 ⟨hv, hp⟩
  -- The version found is effective, so it is the only one.
  cases hfound : effectiveVersion t p with
  | none =>
    have hempty := List.head?_eq_none_iff.1 hfound
    rw [List.filterMap_eq_nil_iff] at hempty
    simpa [heffective] using hempty _ hmem
  | some x =>
    refine ⟨x, rfl, hone _ ?_⟩
    obtain ⟨y, hy, hx⟩ := List.mem_filterMap.1 (List.mem_of_mem_head? hfound)
    obtain ⟨hrow, hparent⟩ := mem_versionsOf.1 hy
    split at hx
    · next hstatus =>
      obtain rfl := Option.some.inj hx
      exact mem_effectiveIds.2 ⟨y.2, hrow, hparent, hstatus⟩
    · cases hx

/-- A retirement that is served alone withdraws the effective version: there is at most one, by
    the unique index. -/
theorem retirePolicy_alone_careful {p : Id} {userId : String}
    (hone : ∀ k ∈ t.effectiveIds p, ∀ k' ∈ t.effectiveIds p, k' = k) :
    ((retirePolicy p userId).alone t).1.Careful t := by
  simp only [retirePolicy, getPolicy, Txn.alone_query]
  split
  · trivial
  · exact fun _ k hk => effectiveVersion_of_mem (hone k hk) hk

/-! ## Runs -/

/-- Every commit finds what it has to find. -/
def CarefulCommit (s : State ι) (label : Server.Label ι Request) : Prop :=
  ∀ change ∈ s.committing label, change.Careful s.committed

instance (s : State ι) (label : Server.Label ι Request) : Decidable (CarefulCommit s label) :=
  inferInstanceAs (Decidable (∀ change ∈ s.committing label, change.Careful s.committed))

/-- If every commit finds what it has to find, no version of a retired policy is effective in
    any committed state. -/
theorem retired_of_run {t₀ : Tables} (hnone : RetiredHaveNone t₀) (howned : Owned t₀)
    {s : State ι} (h : Run (step clock) CarefulCommit (Server.idle t₀) s) :
    RetiredHaveNone s.committed := by
  refine (h.invariant (P := fun s => Inv s.committed) ⟨hnone, howned⟩ ?_).none
  intro u label v hu hcareful hs
  rcases Server.committed_step hs with heq | ⟨change, hchange, happly⟩
  · rwa [heq]
  · exact hu.apply (hcareful change hchange) happly

/-! ## Schedules -/

/-- A request that is served without another one in between. -/
def aloneSteps (i : Nat) (request : Request) (statements : Nat) : List (Server.Label Nat Request) :=
  .start i request :: List.replicate statements (.statement i)

/-- Policy 1 with the approved version 2. -/
def approvedSteps : List (Server.Label Nat Request) :=
  aloneSteps 0 (.createPolicy 1 { title := "Access control" } (some (.ok 2))) 1 ++
    aloneSteps 0 (.submitForReview 1 2 "author") 2 ++
    aloneSteps 0 (.reviewVersion 1 2 "approved" "" "reviewer") 2

/-- The version is made effective. -/
def effectiveSteps : List (Server.Label Nat Request) :=
  approvedSteps ++ aloneSteps 0 (.makeVersionEffective 1 2 "approver") 3

/-- The application without requests under way, and with nothing committed. -/
def start : State Nat := Server.idle Tables.initial

theorem retiredHaveNone_initial : RetiredHaveNone Tables.initial := by
  simp [RetiredHaveNone, Tables.initial]

theorem owned_initial : Owned Tables.initial := by
  simp [Owned, Tables.initial]

/-- The policy is retired by `retire_policy`. -/
theorem retired_of_run_retirePolicy :
    ∃ s, Run (step tickingClock) CarefulCommit start s ∧
      (s.committed.policies[1]?.map fun policy => policy.status) = some .retired ∧
      (s.committed.versions[2]?.map fun v => v.lifecycleStatus) = some .withdrawn ∧
      RetiredHaveNone s.committed := by
  obtain ⟨s, hrun, hretired, hwithdrawn⟩ :
      ∃ s, Run.exec (Run.guarded (step tickingClock) CarefulCommit) start
          (effectiveSteps ++ aloneSteps 0 (.retirePolicy 1 "owner") 3) = some s ∧
        (s.committed.policies[1]?.map fun policy => policy.status) = some .retired ∧
        (s.committed.versions[2]?.map fun v => v.lifecycleStatus) = some .withdrawn :=
    ⟨_, rfl, rfl, rfl⟩
  have hrun := Run.of_exec_guarded _ hrun
  exact ⟨s, hrun, hretired, hwithdrawn,
    retired_of_run retiredHaveNone_initial owned_initial hrun⟩

/-- The policy is retired by `update_policy`: its version stays effective. -/
theorem retired_updated :
    ∃ s, Run (step tickingClock) (fun _ _ => True) start s ∧ ¬ RetiredHaveNone s.committed := by
  obtain ⟨s, hrun, policy, hpolicy, hretired, v, hv, hp, heffective⟩ :
      ∃ s, Run.exec (step tickingClock) start (effectiveSteps ++
          aloneSteps 0 (.updatePolicy 1 { title := "Access control", status := "retired" }) 2) =
          some s ∧
        ∃ policy : Policy, s.committed.policies[1]? = some policy ∧ policy.status = .retired ∧
          ∃ v : PolicyVersion, s.committed.versions[2]? = some v ∧ v.policyId = 1 ∧
            v.lifecycleStatus = .effective :=
    ⟨_, rfl, _, rfl, rfl, _, rfl, rfl, rfl⟩
  exact ⟨s, Run.of_exec_true _ hrun, fun h => h 1 policy hpolicy hretired 2 v hv hp heffective⟩

/-- Request 0 retires the policy, and loads its versions before request 1 makes version 2
    effective: nothing is withdrawn. -/
theorem retired_raced :
    ∃ s, Run (step tickingClock) (fun _ _ => True) start s ∧ ¬ RetiredHaveNone s.committed := by
  obtain ⟨s, hrun, policy, hpolicy, hretired, v, hv, hp, heffective⟩ :
      ∃ s, Run.exec (step tickingClock) start (approvedSteps ++
          [.start 0 (.retirePolicy 1 "owner"), .statement 0, .statement 0] ++
          aloneSteps 1 (.makeVersionEffective 1 2 "approver") 3 ++ [.statement 0]) = some s ∧
        ∃ policy : Policy, s.committed.policies[1]? = some policy ∧ policy.status = .retired ∧
          ∃ v : PolicyVersion, s.committed.versions[2]? = some v ∧ v.policyId = 1 ∧
            v.lifecycleStatus = .effective :=
    ⟨_, rfl, _, rfl, rfl, _, rfl, rfl, rfl⟩
  exact ⟨s, Run.of_exec_true _ hrun, fun h => h 1 policy hpolicy hretired 2 v hv hp heffective⟩

end MiniGrc.ConcurrentPolicies
