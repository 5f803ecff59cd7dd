import MiniGrc.App.AuditPackage
import MiniGrc.Spec.Dates
import MiniGrc.Spec.PolicyHistory

/-!
# The policy versions of an audit period

What `_policy_versions_for_period` selects in every state that the policy commands reach.
It looks at when a version was superseded and not at when it was withdrawn.

## Key results

- `endsInOrder`: a version is superseded no earlier than it became effective, and a
  superseded version is never withdrawn
- `policyVersionsForPeriod_iff`: the selection is what was in force during the period exactly
  if no version of the policy was withdrawn too early
-/

namespace MiniGrc.AuditPackage

open Events PolicyLifecycle VersionLifecycle

variable {clock : Clock} {s : PolicySession} {policyId k : Id} {period : AuditPeriod}
  {v : PolicyVersion}

/-! ## When a version is in force -/

/-- The version is in force on a day: it has become effective by then, and it was neither
    superseded nor withdrawn before that day. -/
def InForceOn (v : PolicyVersion) (day : Nat) : Prop :=
  (∃ effectiveAt, v.effectiveAt = some effectiveAt ∧ Time.dateOrdinal effectiveAt ≤ day) ∧
    (∀ supersededAt, v.supersededAt = some supersededAt → day ≤ Time.dateOrdinal supersededAt) ∧
    ∀ withdrawnAt, v.withdrawnAt = some withdrawnAt → day ≤ Time.dateOrdinal withdrawnAt

/-- The version is in force on some day of the period. -/
def InForceDuring (v : PolicyVersion) (period : AuditPeriod) : Prop :=
  ∃ day, (period.startsOn.toordinal ≤ day ∧ day ≤ period.endsOn.toordinal) ∧ InForceOn v day

/-- The selection holds the versions of the policy that were in force during the period. -/
def SelectsInForce (s : PolicySession) (policyId : Id) (period : AuditPeriod) : Prop :=
  ∀ (k : Id) v, (k, v) ∈ policyVersionsForPeriod id (versionsOf s policyId) period.toPeriod ↔
    s.rows.stored[k]? = some v ∧ v.policyId = policyId ∧ InForceDuring v period

/-- If the version became effective by the last day of the period and was withdrawn, it
    was withdrawn neither before the first day of the period nor before the day on which it
    became effective. -/
def WithdrawnLate (v : PolicyVersion) (period : AuditPeriod) : Prop :=
  ∀ effectiveAt withdrawnAt, v.effectiveAt = some effectiveAt → v.withdrawnAt = some withdrawnAt →
    Time.dateOrdinal effectiveAt ≤ period.endsOn.toordinal →
    period.startsOn.toordinal ≤ Time.dateOrdinal withdrawnAt ∧
      Time.dateOrdinal effectiveAt ≤ Time.dateOrdinal withdrawnAt

theorem dateOrdinal_mono {t t' : Time} (h : t ≤ t') : Time.dateOrdinal t ≤ Time.dateOrdinal t' :=
  Nat.add_le_add_right (Nat.div_le_div_right h) 1

/-! ## The dates of a version -/

/-- How the dates of a version follow each other. -/
structure EndsInOrder (c : LifecycleColumns) : Prop where
  notSuperseded : c.lifecycleStatus ≠ .superseded → c.supersededAt = none
  notWithdrawn : c.lifecycleStatus ≠ .withdrawn → c.withdrawnAt = none
  effective : c.lifecycleStatus = .effective → c.effectiveAt ≠ none
  superseded : ∀ t, c.supersededAt = some t → ∃ e, c.effectiveAt = some e ∧ e ≤ t

/-- The date on which a version became effective is that of an event of it. -/
theorem exists_of_effectiveAt {h : List Entry} {t : Time}
    (ht : (columnsAfter h).effectiveAt = some t) :
    ∃ e ∈ h, e.body = .madeEffective ∧ e.occurredAt = t := by
  induction h using List.reverseRecOn with
  | nil => cases ht
  | append_singleton h e ih =>
    rw [columnsAfter_snoc, LifecycleColumns.after] at ht
    cases hb : e.body with
    | madeEffective =>
      rw [hb] at ht
      exact ⟨e, by simp, hb, Option.some.inj ht⟩
    | _ =>
      rw [hb] at ht
      obtain ⟨e', he', hb', rfl⟩ := ih ht
      exact ⟨e', List.mem_append_left _ he', hb', rfl⟩

/-- Entries recorded in order, of which only withdrawals may be dated otherwise, leave dates
    in order. -/
theorem endsInOrder_columnsAfter {h : List Entry} (ha : lifecycle.Accepts .draft (bodies h))
    (hordered : h.Pairwise fun e e' => e.recordedAt ≤ e'.recordedAt)
    (hdated : ∀ e ∈ h, e.occurredAt = e.recordedAt ∨ ∃ reason, e.body = .withdrawn reason) :
    EndsInOrder (columnsAfter h) := by
  induction h using List.reverseRecOn with
  | nil => exact ⟨fun _ => rfl, fun _ => rfl, by simp, fun _ ht => (by cases ht)⟩
  | append_singleton h e ih =>
    rw [bodies, List.map_append, GuardedMachine.accepts_append] at ha
    obtain ⟨hacc, hg, -⟩ := ha
    rw [← columnsAfter_status] at hg
    obtain ⟨hordered, -, hlast⟩ := List.pairwise_append.1 hordered
    have ih := ih hacc hordered fun e he => hdated e (List.mem_append_left _ he)
    rw [columnsAfter_snoc, LifecycleColumns.after]
    cases hb : e.body with
    | submittedForReview =>
      rw [hb] at hg
      have hst : (columnsAfter h).lifecycleStatus = .draft := hg
      have hsup := ih.notSuperseded (by simp [hst])
      have hwd := ih.notWithdrawn (by simp [hst])
      exact ⟨fun _ => hsup, fun _ => hwd, fun h => (by cases h), ih.superseded⟩
    | reviewed d c =>
      rw [hb] at hg
      have hst : (columnsAfter h).lifecycleStatus = .inReview := hg
      have hsup := ih.notSuperseded (by simp [hst])
      have hwd := ih.notWithdrawn (by simp [hst])
      refine ⟨fun _ => hsup, fun _ => hwd, fun h => ?_, ih.superseded⟩
      cases d <;> cases h
    | madeEffective =>
      rw [hb] at hg
      have hst : (columnsAfter h).lifecycleStatus = .approved := hg
      have hsup := ih.notSuperseded (by simp [hst])
      have hwd := ih.notWithdrawn (by simp [hst])
      refine ⟨fun _ => hsup, fun _ => hwd, fun _ => by simp [LifecycleColumns.apply,
        LifecycleColumns.madeEffective], fun t ht => ?_⟩
      exact absurd (hsup.symm.trans ht) (by simp)
    | superseded w =>
      rw [hb] at hg
      have hst : (columnsAfter h).lifecycleStatus = .effective := hg
      have hwd := ih.notWithdrawn (by simp [hst])
      refine ⟨fun h => absurd rfl h, fun _ => hwd, fun h => (by cases h), fun t ht => ?_⟩
      obtain rfl := Option.some.inj ht
      obtain ⟨t, ht⟩ := Option.ne_none_iff_exists'.1 (ih.effective hst)
      refine ⟨t, ht, ?_⟩
      -- both events carry the time at which they were recorded
      obtain ⟨e', he', hb', rfl⟩ := exists_of_effectiveAt ht
      have hrec' : e'.occurredAt = e'.recordedAt := by
        simpa [hb'] using hdated e' (List.mem_append_left _ he')
      have hrec : e.occurredAt = e.recordedAt := by simpa [hb] using hdated e (by simp)
      rw [hrec', hrec]
      exact hlast e' he' e (by simp)
    | withdrawn reason =>
      rw [hb] at hg
      have hst : (columnsAfter h).lifecycleStatus ≠ .superseded := fun hst => by
        rw [hst] at hg
        simp [lifecycle] at hg
      have hsup := ih.notSuperseded hst
      exact ⟨fun _ => hsup, fun h => absurd rfl h, fun h => (by cases h), ih.superseded⟩

/-- In every run the events carry the time at which they were recorded, except for
    withdrawals that are given a date. -/
theorem dated_run (h : Run (PolicyLifecycle.step clock) (fun _ _ => True) initial s) :
    Between clock s ∧
      ∀ e ∈ s.events, e.occurredAt = e.recordedAt ∨ ∃ reason, e.body = .withdrawn reason := by
  refine h.invariant (P := fun s => Between clock s ∧
    ∀ e ∈ s.events, e.occurredAt = e.recordedAt ∨ ∃ reason, e.body = .withdrawn reason)
    ⟨between_initial, fun _ he => by cases he⟩ ?_
  rintro s c s' ⟨hb, hd⟩ - hs
  obtain ⟨hb', es, hes, hdated⟩ := hb.step hs
  refine ⟨hb', fun e he => ?_⟩
  rw [hes] at he
  rcases List.mem_append.1 he with he | he
  · exact hd e he
  · rcases (hdated e he).occurred with heq | ⟨hw, -⟩
    · exact .inl heq
    · exact .inr hw

/-- The dates of every version follow each other. -/
theorem endsInOrder (h : Run (PolicyLifecycle.step clock) (fun _ _ => True) initial s)
    (hv : s.rows.stored[k]? = some v) : EndsInOrder v.toLifecycleColumns := by
  obtain ⟨hb, hdated⟩ := dated_run h
  rw [hb.clean, Tracked.clean_stored] at hv
  have hcolumns : v.toLifecycleColumns = columnsAfter (history projection s.events k) :=
    hb.session.inv.columns k v hv
  have hacc := hb.session.inv.accepted k
  rw [hcolumns]
  rw [history_eq] at hacc ⊢
  exact endsInOrder_columnsAfter hacc (hb.session.logged.ordered.filter _)
    fun e he => hdated e (mem_ofAggregate.1 he).1

/-! ## The selection -/

theorem policyVersionInPeriod_iff :
    policyVersionInPeriod period.toPeriod v ↔ ∃ effectiveAt, v.effectiveAt = some effectiveAt ∧
      Time.dateOrdinal effectiveAt ≤ period.endsOn.toordinal ∧
      ∀ supersededAt, v.supersededAt = some supersededAt →
        period.startsOn.toordinal ≤ Time.dateOrdinal supersededAt := by
  unfold policyVersionInPeriod
  cases v.effectiveAt <;> cases v.supersededAt <;> simp

/-- A version is in force during the period if it became effective by the last day and ended,
    if at all, neither before the first day nor before it became effective. -/
theorem inForceDuring_iff :
    InForceDuring v period ↔ ∃ effectiveAt, v.effectiveAt = some effectiveAt ∧
      Time.dateOrdinal effectiveAt ≤ period.endsOn.toordinal ∧
      ∀ t, v.supersededAt = some t ∨ v.withdrawnAt = some t →
        period.startsOn.toordinal ≤ Time.dateOrdinal t ∧
          Time.dateOrdinal effectiveAt ≤ Time.dateOrdinal t := by
  constructor
  · rintro ⟨day, ⟨hstart, hend⟩, ⟨effectiveAt, heff, hle⟩, hsup, hwd⟩
    refine ⟨effectiveAt, heff, hle.trans hend, fun t ht => ?_⟩
    have hday : day ≤ Time.dateOrdinal t := ht.elim (hsup t) (hwd t)
    exact ⟨hstart.trans hday, hle.trans hday⟩
  · rintro ⟨effectiveAt, heff, hle, hends⟩
    -- the first day of the period on which the version is effective
    refine ⟨max period.startsOn.toordinal (Time.dateOrdinal effectiveAt), ⟨le_max_left .., ?_⟩,
      ⟨effectiveAt, heff, le_max_right ..⟩, fun t ht => ?_, fun t ht => ?_⟩
    · exact max_le (Date.toordinal_le_iff.2 period.startsOn_le) hle
    · exact max_le (hends t (.inl ht)).1 (hends t (.inl ht)).2
    · exact max_le (hends t (.inr ht)).1 (hends t (.inr ht)).2

/-- Of a version with dates in order, the condition of the source says whether it was in force
    unless it was withdrawn too early. -/
theorem EndsInOrder.policyVersionInPeriod_iff (h : EndsInOrder v.toLifecycleColumns) :
    (policyVersionInPeriod period.toPeriod v ↔ InForceDuring v period) ↔
      WithdrawnLate v period := by
  rw [AuditPackage.policyVersionInPeriod_iff, inForceDuring_iff]
  cases heff : v.effectiveAt with
  | none => simp [WithdrawnLate, heff]
  | some effectiveAt =>
    have hsup : ∀ t, v.supersededAt = some t →
        Time.dateOrdinal effectiveAt ≤ Time.dateOrdinal t := by
      intro t ht
      obtain ⟨e, he, hle⟩ := h.superseded t ht
      obtain rfl := Option.some.inj (heff.symm.trans he)
      exact dateOrdinal_mono hle
    have hnot : ∀ t, v.withdrawnAt = some t → v.supersededAt = none := fun t ht =>
      h.notSuperseded fun hst => by
        have hnone := h.notWithdrawn (by rw [hst]; simp)
        rw [hnone] at ht
        cases ht
    constructor
    · rintro hiff e w he hw hle
      obtain rfl := Option.some.inj (heff.symm.trans he)
      obtain ⟨e, he, -, hends⟩ := hiff.1 ⟨_, rfl, hle, fun t ht => by
        rw [hnot w hw] at ht
        cases ht⟩
      obtain rfl := Option.some.inj he
      exact hends w (.inr hw)
    · intro hlate
      refine exists_congr fun e => and_congr_right fun he => and_congr_right fun hle => ?_
      obtain rfl := Option.some.inj he
      constructor
      · rintro hstart t (ht | ht)
        · exact ⟨hstart t ht, hsup t ht⟩
        · exact hlate _ _ heff ht hle
      · exact fun hends t ht => (hends t (.inl ht)).1

/-- In every state that the policy commands lead to, the selection for an audit period holds
    what was in force during it exactly if no version of the policy was withdrawn too
    early. -/
theorem policyVersionsForPeriod_iff
    (h : Run (PolicyLifecycle.step clock) (fun _ _ => True) initial s) (policyId : Id)
    (period : AuditPeriod) :
    SelectsInForce s policyId period ↔
      ∀ (k : Id) v, s.rows.stored[k]? = some v → v.policyId = policyId →
        WithdrawnLate v period := by
  obtain ⟨hb, -⟩ := dated_run h
  have hstored : s.rows.stored = s.rows.current := by rw [hb.clean]; rfl
  have hmem : ∀ (k : Id) v,
      (k, v) ∈ policyVersionsForPeriod id (versionsOf s policyId) period.toPeriod ↔
        (s.rows.stored[k]? = some v ∧ v.policyId = policyId) ∧
          policyVersionInPeriod period.toPeriod v := by
    intro k v
    rw [policyVersionsForPeriod, List.mem_filter, mem_versionsOf, hstored]
    rfl
  refine forall_congr' fun k => forall_congr' fun v => ?_
  rw [hmem, ← and_assoc]
  constructor
  · intro hiff hv hp
    exact (endsInOrder h hv).policyVersionInPeriod_iff.1 (and_congr_right_iff.1 hiff ⟨hv, hp⟩)
  · intro hlate
    refine and_congr_right fun ⟨hv, hp⟩ => ?_
    exact (endsInOrder h hv).policyVersionInPeriod_iff.2 (hlate hv hp)

/-! ## A withdrawal before the period -/

/-- A clock that advances by a day with every reading, from 1 October 2025 on. -/
def dailyClock : Clock :=
  ⟨fun n => (739524 + n) * 86400000000, fun _ _ h => Nat.mul_le_mul_right _ (by omega),
    fun _ n => (739524 + n) * 86400000000⟩

/-- A day of October 2025. -/
def october (day : Nat) (h : 1 ≤ day ∧ day ≤ 31) : Date where
  year := 2025
  month := 10
  day := day
  year_mem := by decide
  month_mem := by decide
  day_mem := h

theorem mem_october_22 : 1 ≤ 22 ∧ 22 ≤ 31 := by decide

theorem mem_october_31 : 1 ≤ 31 ∧ 31 ≤ 31 := by decide

theorem october_le : october 22 mem_october_22 ≤ october 31 mem_october_31 :=
  Date.toordinal_le_iff.1 (by decide)

/-- The last ten days of the month. -/
def lastTenDays : AuditPeriod := ⟨⟨_, _⟩, october_le⟩

/-- The version 1 of the policy 7 becomes effective and is withdrawn, all in the first ten
    days. -/
def withdrawnFirst : List Command := firstVersion ++ [.withdrawVersion 1 "obsolete" {} none]

/-- A version that was withdrawn before the period began is selected. -/
theorem selectsInForce_withdrawn :
    ∃ s, Run.exec (PolicyLifecycle.step dailyClock) initial withdrawnFirst = some s ∧
      ¬ SelectsInForce s 7 lastTenDays := by
  refine ⟨_, rfl, fun hselects => ?_⟩
  obtain ⟨-, -, day, ⟨hstart, -⟩, -, -, hwithdrawn⟩ := (hselects 1 _).1 <|
    List.mem_filter.2 ⟨mem_versionsOf.2 ⟨rfl, rfl⟩, by decide⟩
  exact absurd (hstart.trans (hwithdrawn _ rfl)) (by decide)

/-- `policyVersionsForPeriod_iff` over two versions that succeed each other. -/
theorem policyVersionsForPeriod_iff_twoVersions :
    ∃ s, Run.exec (PolicyLifecycle.step dailyClock) initial (firstVersion ++ secondVersion) =
        some s ∧
      (SelectsInForce s 7 lastTenDays ↔
        ∀ (k : Id) v, s.rows.stored[k]? = some v → v.policyId = 7 →
          WithdrawnLate v lastTenDays) := by
  refine ⟨_, rfl, ?_⟩
  exact policyVersionsForPeriod_iff (Run.of_exec_true (firstVersion ++ secondVersion) rfl) 7
    lastTenDays

end MiniGrc.AuditPackage
