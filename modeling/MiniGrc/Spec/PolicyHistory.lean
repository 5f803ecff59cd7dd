import MiniGrc.App.History
import MiniGrc.Spec.PolicyRebuild

/-!
# Point-in-time reconstruction of policies

The snapshots of `reconstruct_policy_as_of` against the projected rows, at a cut-off after
every event and at every earlier one.

## Key results

- `mem_reconstructPolicyAsOf`: a version's snapshot is what its events up to the cut-off
  leave
- `lifecycle_implementations_agree`: the live columns, the rebuilt ones and the snapshots
  after every event agree
-/

namespace MiniGrc.History

open Events PolicyLifecycle VersionLifecycle

variable {clock : Clock} {s : PolicySession} {t : Table PolicyVersion} {events : List Event}
  {policyId k : Id} {asOf : Time}

/-- The snapshot with the given lifecycle columns. -/
def snapshotOf (id : Id) (versionNumber : Nat) (c : LifecycleColumns) : PolicyVersionSnapshot where
  versionId := id
  versionNumber := versionNumber
  lifecycleStatus := c.lifecycleStatus
  submittedBy := c.submittedBy
  submittedAt := c.submittedAt
  reviewedBy := c.reviewedBy
  reviewedAt := c.reviewedAt
  reviewDecision := c.reviewDecision
  reviewComment := c.reviewComment
  effectiveAt := c.effectiveAt
  supersededAt := c.supersededAt
  supersededByVersionId := c.supersededByVersionId
  withdrawnAt := c.withdrawnAt
  withdrawnReason := c.withdrawnReason

/-- The appliers mirror the projectors. -/
theorem apply_snapshotOf (id : Id) (versionNumber : Nat) (c : LifecycleColumns) (e : Event) :
    apply (snapshotOf id versionNumber c) e = snapshotOf id versionNumber (c.after e) := by
  unfold LifecycleColumns.after apply
  cases e.body <;> rfl

/-- What an event does to a version's snapshot, if there is one. -/
def applied (snapshot : Option PolicyVersionSnapshot) (e : Event) : Option PolicyVersionSnapshot :=
  snapshot.map (apply · e)

theorem foldl_applied (id : Id) (versionNumber : Nat) (c : LifecycleColumns) (es : List Event) :
    es.foldl applied (some (snapshotOf id versionNumber c)) =
      some (snapshotOf id versionNumber (es.foldl LifecycleColumns.after c)) := by
  induction es generalizing c with
  | nil => rfl
  | cons e es ih =>
    rw [List.foldl_cons, List.foldl_cons, ← ih, ← apply_snapshotOf]
    rfl

theorem foldl_applied_none (es : List Event) : es.foldl applied none = none := by
  induction es with
  | nil => rfl
  | cons e es ih => exact ih

/-- The events of a version that had occurred by the cut-off, in insertion order. -/
def upTo (events : List Event) (asOf : Time) (k : Id) : List Event :=
  (ofAggregate events k).filter fun e => e.occurredAt ≤ asOf

theorem mem_upTo {e : Event} :
    e ∈ upTo events asOf k ↔ (e ∈ events ∧ e.aggregate = k) ∧ e.occurredAt ≤ asOf := by
  simp [upTo, mem_ofAggregate]

theorem mem_versionsAsOf {v : PolicyVersion} :
    (versionsAsOf t policyId asOf)[k]? = some v ↔
      t[k]? = some v ∧ v.policyId = policyId ∧ v.createdAt ≤ asOf := by
  rw [versionsAsOf, Table.get_filter_eq_some, decide_eq_true_eq]

/-- The order of the reconstruction keeps the order of each known version. -/
theorem ofAggregate_eventsAsOf (h : s.Logged clock) {known : Table PolicyVersion}
    (hk : k ∈ known) : ofAggregate (eventsAsOf known s.events asOf) k = upTo s.events asOf k := by
  have hcomm : (s.events.filter fun e => e.aggregate ∈ known ∧ e.occurredAt ≤ asOf).filter
      (fun e => e.aggregate = k) = upTo s.events asOf k := by
    unfold upTo ofAggregate
    rw [List.filter_filter, List.filter_filter]
    refine List.filter_congr fun e _ => ?_
    by_cases he : e.aggregate = k
    · simp [he, hk]
    · simp [he]
  rw [← hcomm]
  refine List.filter_insertionSort ?_
  rw [hcomm]
  refine (((h.ordered.filter _).and (h.wellFormed.sequence_lt k)).filter _).imp ?_
  intro e e' ⟨hrec, hseq⟩
  rcases Nat.lt_or_eq_of_le hrec with hlt | heq
  · exact .inl hlt
  · exact .inr ⟨heq, hseq.le⟩

/-- Each version's snapshot has undergone the version's own events. -/
theorem get_snapshotsAsOf (h : s.Logged clock) (known : Table PolicyVersion) (k : Id) :
    (snapshotsAsOf known (eventsAsOf known s.events asOf))[k]? =
      known[k]?.map fun v =>
        snapshotOf k v.versionNumber (columnsAfter (upTo s.events asOf k)) := by
  have hfold := Table.getElem?_foldl_alter DomainEvent.aggregate applied
    (eventsAsOf known s.events asOf) (known.map fun id v => snapshotOf id v.versionNumber {}) k
  rw [Std.ExtTreeMap.getElem?_map] at hfold
  refine hfold.trans ?_
  cases hv : known[k]? with
  | none => exact foldl_applied_none _
  | some v =>
    have hk : k ∈ known := Table.mem_of_get hv
    show (ofAggregate _ k).foldl applied _ = _
    rw [ofAggregate_eventsAsOf h hk]
    exact foldl_applied k v.versionNumber {} _

/-- The snapshots are those of the versions created by the cut-off, each with the columns
    that its events up to the cut-off leave. -/
theorem mem_reconstructPolicyAsOf (h : s.Logged clock) {snapshot : PolicyVersionSnapshot} :
    snapshot ∈ reconstructPolicyAsOf t s.events policyId asOf ↔
      ∃ (k : Id) (v : PolicyVersion), t[k]? = some v ∧ v.policyId = policyId ∧
        v.createdAt ≤ asOf ∧
        snapshot = snapshotOf k v.versionNumber (columnsAfter (upTo s.events asOf k)) := by
  unfold reconstructPolicyAsOf
  simp only [List.mem_insertionSort, List.mem_map, Prod.exists, exists_eq_right,
    Std.ExtTreeMap.mem_toList_iff_getElem?_eq_some, get_snapshotsAsOf h, Option.map_eq_some_iff,
    mem_versionsAsOf, and_assoc]
  refine exists_congr fun k => exists_congr fun v => ?_
  rw [eq_comm (a := snapshot)]

/-! ## After every event -/

theorem upTo_eq_ofAggregate (h : ∀ e ∈ events, e.occurredAt ≤ asOf) :
    upTo events asOf k = ofAggregate events k := by
  refine List.filter_eq_self.2 fun e he => ?_
  simpa using h e (mem_ofAggregate.1 he).1

/-- In every state that the policy commands lead to, the rebuilt rows are the live ones, and
    the snapshots at a cut-off after every event are the live rows of the versions created
    by then. -/
theorem lifecycle_implementations_agree
    (h : Run (PolicyLifecycle.step clock) (fun _ _ => True) initial s) :
    rebuildPolicyVersionLifecycleProjection s.rows s.events = .ok s.rows ∧
      ∀ policyId asOf, (∀ e ∈ s.events, e.occurredAt ≤ asOf) → ∀ snapshot,
        snapshot ∈ reconstructPolicyAsOf s.rows.stored s.events policyId asOf ↔
          ∃ (k : Id) (v : PolicyVersion), s.rows.stored[k]? = some v ∧ v.policyId = policyId ∧
            v.createdAt ≤ asOf ∧
            snapshot = snapshotOf k v.versionNumber v.toLifecycleColumns := by
  obtain ⟨hb, -⟩ := between_initial.run h
  refine ⟨hb.rebuild_eq, fun policyId asOf hafter snapshot => ?_⟩
  rw [mem_reconstructPolicyAsOf hb.session.logged]
  refine exists_congr fun k => exists_congr fun v => and_congr_right fun hv => ?_
  rw [hb.clean, Tracked.clean_stored] at hv
  have hcolumns : v.toLifecycleColumns = columnsAfter (history projection s.events k) :=
    hb.session.inv.columns k v hv
  rw [upTo_eq_ofAggregate hafter, hcolumns, history_eq]

/-- `lifecycle_implementations_agree` over a succession. -/
theorem lifecycle_implementations_agree_twoVersions :
    ∃ s, Run.exec (PolicyLifecycle.step tickingClock) initial (firstVersion ++ secondVersion) =
        some s ∧
      rebuildPolicyVersionLifecycleProjection s.rows s.events = .ok s.rows ∧
      ∀ snapshot, snapshot ∈ reconstructPolicyAsOf s.rows.stored s.events 7 20 ↔
        ∃ (k : Id) (v : PolicyVersion), s.rows.stored[k]? = some v ∧ v.policyId = 7 ∧
          v.createdAt ≤ 20 ∧ snapshot = snapshotOf k v.versionNumber v.toLifecycleColumns := by
  refine ⟨_, rfl, ?_, ?_⟩
  · exact (lifecycle_implementations_agree
      (Run.of_exec_true (firstVersion ++ secondVersion) rfl)).1
  · exact (lifecycle_implementations_agree
      (Run.of_exec_true (firstVersion ++ secondVersion) rfl)).2 7 20 (by decide)

/-! ## At every cut-off -/

section CutOff

variable {e : Event}

/-- A version that is past a draft at a cut-off got its status from an event by then. -/
theorem exists_event_of_status (h : (columnsAfter (upTo events asOf k)).lifecycleStatus ≠ .draft) :
    ∃ e ∈ upTo events asOf k,
      (columnsAfter (upTo events asOf k)).lifecycleStatus = lifecycle.next .draft e.body := by
  rcases List.eq_nil_or_concat (upTo events asOf k) with hnil | ⟨es, e, hes⟩
  · rw [hnil] at h
    exact absurd rfl h
  · rw [hes, List.concat_eq_append]
    exact ⟨e, by simp, by rw [columnsAfter_snoc, LifecycleColumns.after_status]; rfl⟩

/-- The status at a cut-off after a version's terminal event is the one it leads to. -/
theorem status_of_terminal
    (h : lifecycle.Accepts .draft (bodies (ofAggregate events k)))
    (he : e ∈ upTo events asOf k) (ht : e.body.Terminal) :
    (columnsAfter (upTo events asOf k)).lifecycleStatus = lifecycle.next .draft e.body := by
  obtain ⟨pre, post, hsplit⟩ := List.append_of_mem (List.mem_of_mem_filter he)
  have hpost : post = [] := by
    rw [hsplit, bodies, List.map_append, List.map_cons] at h
    exact List.map_eq_nil_iff.1 (terminal_is_last h ht)
  have hocc : e.occurredAt ≤ asOf := (mem_upTo.1 he).2
  have hlast : upTo events asOf k = pre.filter (fun e => e.occurredAt ≤ asOf) ++ [e] := by
    rw [upTo, hsplit, hpost]
    simp [hocc]
  rw [hlast, columnsAfter_snoc, LifecycleColumns.after_status]
  rfl

end CutOff

/-- What the dates of the events satisfy if no withdrawal is postdated. -/
def Dated (events : List Event) : Prop :=
  ∀ e ∈ events, e.occurredAt ≤ e.recordedAt ∧
    (e.occurredAt = e.recordedAt ∨ ∃ reason, e.body = .withdrawn reason)

/-- A command is given no date after the recording time of its event. -/
def NeverPostdated (clock : Clock) (s : PolicySession) (c : Command) : Prop :=
  ∀ t, c.occurredAt = some t → t ≤ clock.reading s.ticks

instance (s : PolicySession) : DecidablePred (NeverPostdated clock s) := fun c =>
  match h : c.occurredAt with
  | none => .isTrue fun _ ht => nomatch h.symm.trans ht
  | some t => decidable_of_iff (t ≤ clock.reading s.ticks)
      ⟨fun hle _ ht => Option.some.inj (h.symm.trans ht) ▸ hle, fun hall => hall t h⟩

theorem dated_run (h : Run (PolicyLifecycle.step clock) (NeverPostdated clock) initial s) :
    Between clock s ∧ Dated s.events := by
  refine h.invariant (P := fun s => Between clock s ∧ Dated s.events)
    ⟨between_initial, fun _ he => nomatch he⟩ ?_
  rintro s c s' ⟨hb, hd⟩ hok hs
  obtain ⟨hb', es, hes, hdated⟩ := hb.step hs
  refine ⟨hb', fun e he => ?_⟩
  rw [hes] at he
  rcases List.mem_append.1 he with he | he
  · exact hd e he
  · obtain ⟨hrec, hocc⟩ := hdated e he
    rcases hocc with heq | ⟨hw, hat⟩
    · exact ⟨heq.le, .inl heq⟩
    · exact ⟨(hok _ hat).trans hrec, .inr hw⟩

/-- Of two versions of a policy that are effective at a cut-off, neither was made effective
    before the other. -/
theorem not_both_effective (hb : Between clock s) (hd : Dated s.events) {k k' : Id}
    {v v' : PolicyVersion} (hv : s.rows.current[k]? = some v)
    (hv' : s.rows.current[k']? = some v') (hp : v.policyId = v'.policyId) (hne : k ≠ k')
    (heff : (columnsAfter (upTo s.events asOf k)).lifecycleStatus = .effective)
    {pre post : List Event} {e e' : Event} (hsplit : s.events = pre ++ e' :: post) (he : e ∈ pre)
    (hk : e.aggregate = k) (hbody : e.body = .madeEffective) (hk' : e'.aggregate = k')
    (hbody' : e'.body = .madeEffective) (hocc' : e'.occurredAt ≤ asOf) : False := by
  have hinv := hb.session.inv
  -- the first version was not effective any more when the second was made effective
  have hnot : statusIn projection pre k ≠ .effective := by
    refine hinv.alone pre e' post hsplit (congrArg some hbody') k v v' hv ?_ hp ?_
    · rw [hk']
      exact hv'
    · rwa [hk']
  have haccepts : lifecycle.Accepts .draft (bodies (history projection pre k)) := by
    have hall := hinv.accepted k
    rw [hsplit, history_append, bodies, List.map_append, GuardedMachine.accepts_append] at hall
    exact hall.1
  have hmade : .madeEffective ∈ bodies (history projection pre k) :=
    mem_bodies_history.2 ⟨e, he, hk, congrArg some hbody⟩
  obtain ⟨b, hb', hterminal⟩ := terminal_of_madeEffective haccepts hmade hnot
  obtain ⟨x, hx, hxk, hxb⟩ := mem_bodies_history.1 hb'
  obtain rfl := Option.some.inj hxb
  -- so a terminal event of it had occurred by the cut-off
  have hxs : x ∈ s.events := by simp [hsplit, hx]
  have hordered := hb.session.logged.ordered
  rw [hsplit, List.pairwise_append] at hordered
  have he's : e' ∈ s.events := by simp [hsplit]
  have hrec : e'.occurredAt = e'.recordedAt := by
    rcases (hd e' he's).2 with heq | ⟨r, hr⟩
    · exact heq
    · rw [hbody'] at hr
      cases hr
  have hxat : x.occurredAt ≤ asOf := by
    calc x.occurredAt ≤ x.recordedAt := (hd x hxs).1
      _ ≤ e'.recordedAt := hordered.2.2 x hx e' (by simp)
      _ = e'.occurredAt := hrec.symm
      _ ≤ asOf := hocc'
  have hacc := hinv.accepted k
  rw [history_eq] at hacc
  have hstatus := status_of_terminal hacc (mem_upTo.2 ⟨⟨hxs, hxk⟩, hxat⟩) hterminal
  rw [heff] at hstatus
  rcases terminal_iff.1 hterminal with hs | hs <;> rw [hs] at hstatus <;> cases hstatus

/-- At every cut-off at most one version of a policy is effective, and a version that is
    superseded or withdrawn at a cut-off is so at every later one. -/
theorem reconstruction_coherent
    (h : Run (PolicyLifecycle.step clock) (NeverPostdated clock) initial s) (policyId : Id) :
    (∀ asOf, ∀ a ∈ reconstructPolicyAsOf s.rows.stored s.events policyId asOf,
      ∀ b ∈ reconstructPolicyAsOf s.rows.stored s.events policyId asOf,
        a.lifecycleStatus = .effective → b.lifecycleStatus = .effective → a = b) ∧
    ∀ asOf asOf', asOf ≤ asOf' →
      ∀ a ∈ reconstructPolicyAsOf s.rows.stored s.events policyId asOf,
        a.lifecycleStatus = .superseded ∨ a.lifecycleStatus = .withdrawn →
          (∃ b ∈ reconstructPolicyAsOf s.rows.stored s.events policyId asOf',
            b.versionId = a.versionId) ∧
          ∀ b ∈ reconstructPolicyAsOf s.rows.stored s.events policyId asOf',
            b.versionId = a.versionId → b.lifecycleStatus = a.lifecycleStatus := by
  obtain ⟨hb, hd⟩ := dated_run h
  have hstored : s.rows.stored = s.rows.current := by rw [hb.clean]; rfl
  simp only [hstored, mem_reconstructPolicyAsOf hb.session.logged]
  constructor
  · rintro asOf _ ⟨k, v, hv, hp, -, rfl⟩ _ ⟨k', v', hv', hp', -, rfl⟩ hs hs'
    by_cases hk : k = k'
    · subst hk
      obtain rfl := Option.some.inj (hv.symm.trans hv')
      rfl
    · have hs : (columnsAfter (upTo s.events asOf k)).lifecycleStatus = .effective := hs
      have hs' : (columnsAfter (upTo s.events asOf k')).lifecycleStatus = .effective := hs'
      obtain ⟨e, he, hnext⟩ := exists_event_of_status (by rw [hs]; simp)
      obtain ⟨e', he', hnext'⟩ := exists_event_of_status (by rw [hs']; simp)
      have hbody := lifecycle_next_eq_effective.1 (hnext.symm.trans hs)
      have hbody' := lifecycle_next_eq_effective.1 (hnext'.symm.trans hs')
      obtain ⟨⟨hmem, hek⟩, hocc⟩ := mem_upTo.1 he
      obtain ⟨⟨hmem', hek'⟩, hocc'⟩ := mem_upTo.1 he'
      have hpp : v.policyId = v'.policyId := hp.trans hp'.symm
      -- one of the two events comes first
      obtain ⟨pre, post, hsplit⟩ := List.append_of_mem hmem'
      rw [hsplit, List.mem_append, List.mem_cons] at hmem
      rcases hmem with hpre | rfl | hpost
      · exact (not_both_effective hb hd hv hv' hpp hk hs hsplit hpre hek hbody hek' hbody'
          hocc').elim
      · exact absurd (hek.symm.trans hek') hk
      · obtain ⟨mid, post', rfl⟩ := List.append_of_mem hpost
        have hsplit' : s.events = (pre ++ e' :: mid) ++ e :: post' := by simp [hsplit]
        exact (not_both_effective hb hd hv' hv hpp.symm (Ne.symm hk) hs' hsplit' (by simp) hek'
          hbody' hek hbody hocc).elim
  · rintro asOf asOf' hle _ ⟨k, v, hv, hp, hcreated, rfl⟩ hterminal
    refine ⟨⟨_, ⟨k, v, hv, hp, hcreated.trans hle, rfl⟩, rfl⟩, ?_⟩
    rintro _ ⟨k', v', -, -, -, rfl⟩ hid
    obtain rfl : k' = k := hid
    have hterminal : (columnsAfter (upTo s.events asOf k')).lifecycleStatus = .superseded ∨
        (columnsAfter (upTo s.events asOf k')).lifecycleStatus = .withdrawn := hterminal
    show (columnsAfter (upTo s.events asOf' k')).lifecycleStatus =
      (columnsAfter (upTo s.events asOf k')).lifecycleStatus
    obtain ⟨e, he, hnext⟩ := exists_event_of_status (by
      rcases hterminal with hs | hs <;> rw [hs] <;> simp)
    have hacc := hb.session.inv.accepted k'
    rw [history_eq] at hacc
    rw [hnext] at hterminal ⊢
    obtain ⟨hmem, hocc⟩ := mem_upTo.1 he
    exact status_of_terminal hacc (mem_upTo.2 ⟨hmem, hocc.trans hle⟩) (terminal_iff.2 hterminal)

/-- The second version is withdrawn in the end, as of before it was made effective. -/
def backdatedWithdrawal : List Command :=
  firstVersion ++ secondVersion ++ [.withdrawVersion 2 "never valid" {} (some 8)]

/-- `reconstruction_coherent` over a backdated withdrawal. -/
theorem reconstruction_coherent_backdated :
    ∃ s, Run.exec (PolicyLifecycle.step tickingClock) initial backdatedWithdrawal = some s ∧
      (s.rows.stored[2]?.map (·.lifecycleStatus)) = some .withdrawn ∧
      ∀ asOf, ∀ a ∈ reconstructPolicyAsOf s.rows.stored s.events 7 asOf,
        ∀ b ∈ reconstructPolicyAsOf s.rows.stored s.events 7 asOf,
          a.lifecycleStatus = .effective → b.lifecycleStatus = .effective → a = b := by
  have hcoherent {s} (h : Run.exec (Run.guarded (PolicyLifecycle.step tickingClock)
      (NeverPostdated tickingClock)) initial backdatedWithdrawal = some s) :=
    reconstruction_coherent (Run.of_exec_guarded backdatedWithdrawal h) 7
  exact ⟨_, rfl, rfl, (hcoherent rfl).1⟩

end MiniGrc.History
