import MiniGrc.App.Migrations
import MiniGrc.Spec.PolicyRebuild

/-!
# The backfill of the policy lifecycle

What `upgrade()` of `c4e8a7f2b391` finds to do, and what it leaves. It updates one row and
inserts one event for each transition, under the sequence number 1, unless a migration has
inserted an event of the version before: the rows agree with the log if the log holds
nothing but the events of transitions that the backfill finds again.

## Key results

- `callsFor_iff`: the transitions of the backfill, by the versions that they are about
- `Bootstrapped.backfill_eq`: the backfill of a log of such events
- `Bootstrapped.synced`: and its rows agree with its log
-/

namespace MiniGrc.Migrations

open Events VersionLifecycle
open PolicyLifecycle (PolicyVersion Synced Sketch withLifecycleDefaults)

variable {policies : Table String} {capturedAt : Id → Time} {rows : Table PolicyVersion}
  {events : List PolicyLifecycle.Event} {policyId k : Id} {status : String} {v : PolicyVersion}

/-! ## The transitions -/

/-- The version `w` is the next one of the policy of `v`. -/
def Next (rows : Table PolicyVersion) (v w : PolicyVersion) : Prop :=
  v.policyId = w.policyId ∧ v.versionNumber < w.versionNumber ∧
    ∀ x ∈ rows.toList, x.2.policyId = v.policyId →
      x.2.versionNumber ≤ v.versionNumber ∨ w.versionNumber ≤ x.2.versionNumber

/-- The version is the latest one of its policy. -/
def Latest (rows : Table PolicyVersion) (v : PolicyVersion) : Prop :=
  ∀ x ∈ rows.toList, x.2.policyId = v.policyId → x.2.versionNumber ≤ v.versionNumber

/-- The policy of the version is approved or retired. -/
def InForce (policies : Table String) (v : PolicyVersion) : Prop :=
  ∃ status ∈ policies[v.policyId]?, status = "approved" ∨ status = "retired"

/-- Some version followed by another one, or the latest version of a policy in force, calls
    for a transition of which `p` holds. -/
def CallsFor (policies : Table String) (capturedAt : Id → Time) (rows : Table PolicyVersion)
    (p : Transition → Prop) : Prop :=
  (∃ x ∈ rows.toList, ∃ y ∈ rows.toList, Next rows x.2 y.2 ∧ x.2.policyId ∈ policies ∧
    p (.superseded x.1 y.1 (capturedAt y.1))) ∨
  ∃ x ∈ rows.toList, Latest rows x.2 ∧ InForce policies x.2 ∧ p (.effective x.1 (capturedAt x.1))

instance : Decidable (InForce policies v) :=
  inferInstanceAs (Decidable (∃ status ∈ policies[v.policyId]?, _))

instance (w : PolicyVersion) : Decidable (Next rows v w) :=
  inferInstanceAs (Decidable (_ ∧ _ ∧ ∀ x ∈ rows.toList, _))

instance : Decidable (Latest rows v) := inferInstanceAs (Decidable (∀ x ∈ rows.toList, _))

instance (p : Transition → Prop) [DecidablePred p] :
    Decidable (CallsFor policies capturedAt rows p) :=
  inferInstanceAs (Decidable ((∃ x ∈ rows.toList, ∃ y ∈ rows.toList, _) ∨ ∃ x ∈ rows.toList, _))

theorem mem_versionsOf {x : Id × PolicyVersion} :
    x ∈ versionsOf rows policyId ↔ x ∈ rows.toList ∧ x.2.policyId = policyId := by
  rw [versionsOf, List.mem_insertionSort, List.mem_filter, decide_eq_true_eq]

/-- No two versions of a policy have one number. -/
theorem versionNumber_ne (h : constraints.Holds rows) {x y : Id × PolicyVersion}
    (hx : x ∈ rows.toList) (hy : y ∈ rows.toList) (hne : x.1 ≠ y.1)
    (hp : x.2.policyId = y.2.policyId) : x.2.versionNumber ≠ y.2.versionNumber := by
  rw [Std.ExtTreeMap.mem_toList_iff_getElem?_eq_some] at hx hy
  have hfree := ((Constraints.holds_iff.1 h) x.1 x.2 hx).1 y.1 y.2 hy hne.symm
  simp only [constraints, decide_eq_false_iff_not, not_and, not_or] at hfree
  exact (hfree hp).1

theorem versionsOf_increasing (h : constraints.Holds rows) :
    (versionsOf rows policyId).Pairwise fun x y => x.2.versionNumber < y.2.versionNumber := by
  have htotal : Std.Total fun x y : Id × PolicyVersion =>
      x.2.versionNumber ≤ y.2.versionNumber := ⟨fun x y => Nat.le_total ..⟩
  have htrans : IsTrans (Id × PolicyVersion) fun x y => x.2.versionNumber ≤ y.2.versionNumber :=
    ⟨fun _ _ _ hxy hyz => Nat.le_trans hxy hyz⟩
  have hsorted : (versionsOf rows policyId).Pairwise
      fun x y => x.2.versionNumber ≤ y.2.versionNumber := List.pairwise_insertionSort _ _
  have hkeys : (versionsOf rows policyId).Pairwise fun x y => x.1 ≠ y.1 := by
    rw [versionsOf, (List.perm_insertionSort ..).pairwise_iff Ne.symm]
    exact ((Table.toList_keys_lt rows).imp Nat.ne_of_lt).filter _
  -- Sorted by number, and two versions of a policy have different numbers.
  refine (hsorted.and hkeys).imp_of_mem fun {x y} hx hy hxy => ?_
  have hx := mem_versionsOf.1 hx
  have hy := mem_versionsOf.1 hy
  exact Nat.lt_of_le_of_ne hxy.1 (versionNumber_ne h hx.1 hy.1 hxy.2 (hx.2.trans hy.2.symm))

/-- Versions stand next to each other in the order of their numbers exactly if one is the
    next one of the other. -/
theorem mem_zip_versionsOf (h : constraints.Holds rows) {x y : Id × PolicyVersion} :
    (x, y) ∈ (versionsOf rows policyId).zip (versionsOf rows policyId).tail ↔
      x ∈ rows.toList ∧ y ∈ rows.toList ∧ x.2.policyId = policyId ∧ Next rows x.2 y.2 := by
  rw [List.mem_zip_tail_iff (versionsOf_increasing h), mem_versionsOf, mem_versionsOf]
  constructor
  · rintro ⟨⟨hx, rfl⟩, ⟨hy, hp⟩, hlt, hgap⟩
    exact ⟨hx, hy, rfl, hp.symm, hlt, fun z hz hzp => hgap z (mem_versionsOf.2 ⟨hz, hzp⟩)⟩
  · rintro ⟨hx, hy, rfl, hp, hlt, hgap⟩
    refine ⟨⟨hx, rfl⟩, ⟨hy, hp.symm⟩, hlt, fun z hz => ?_⟩
    obtain ⟨hz, hzp⟩ := mem_versionsOf.1 hz
    exact hgap z hz hzp

theorem getLast?_versionsOf (h : constraints.Holds rows) {x : Id × PolicyVersion} :
    (versionsOf rows policyId).getLast? = some x ↔
      x ∈ rows.toList ∧ x.2.policyId = policyId ∧ Latest rows x.2 := by
  rw [List.mem_getLast?_iff (versionsOf_increasing h), mem_versionsOf]
  constructor
  · rintro ⟨⟨hx, rfl⟩, hmax⟩
    exact ⟨hx, rfl, fun z hz hzp => hmax z (mem_versionsOf.2 ⟨hz, hzp⟩)⟩
  · rintro ⟨hx, rfl, hlatest⟩
    refine ⟨⟨hx, rfl⟩, fun z hz => ?_⟩
    obtain ⟨hz, hzp⟩ := mem_versionsOf.1 hz
    exact hlatest z hz hzp

theorem mem_transitionsOf {versions : List (Id × PolicyVersion)} {t : Transition} :
    t ∈ transitionsOf capturedAt status versions ↔
      (∃ x y, (x, y) ∈ versions.zip versions.tail ∧ t = .superseded x.1 y.1 (capturedAt y.1)) ∨
      ∃ x, versions.getLast? = some x ∧ (status = "approved" ∨ status = "retired") ∧
        t = .effective x.1 (capturedAt x.1) := by
  rw [transitionsOf, List.mem_append]
  refine or_congr ?_ ?_
  · simp only [List.mem_map, Prod.exists, eq_comm]
  · cases versions.getLast? with
    | none => simp
    | some latest =>
      simp only [Option.some.injEq, exists_eq_left']
      split <;> simp_all

/-- The transitions that the backfill finds are those that the versions call for. -/
theorem callsFor_iff (h : constraints.Holds rows) {p : Transition → Prop} :
    CallsFor policies capturedAt rows p ↔ ∃ t ∈ transitions policies capturedAt rows, p t := by
  constructor
  · rintro (⟨x, hx, y, hy, hnext, hpolicy, ht⟩ | ⟨x, hx, hlatest, ⟨status, hstatus, hin⟩, ht⟩)
    · obtain ⟨status, hstatus⟩ := Table.exists_get hpolicy
      refine ⟨_, List.mem_flatMap.2 ⟨(x.2.policyId, status), ?_, mem_transitionsOf.2
        (.inl ⟨x, y, (mem_zip_versionsOf h).2 ⟨hx, hy, rfl, hnext⟩, rfl⟩)⟩, ht⟩
      rwa [Std.ExtTreeMap.mem_toList_iff_getElem?_eq_some]
    · refine ⟨_, List.mem_flatMap.2 ⟨(x.2.policyId, status), ?_, mem_transitionsOf.2
        (.inr ⟨x, (getLast?_versionsOf h).2 ⟨hx, rfl, hlatest⟩, hin, rfl⟩)⟩, ht⟩
      rwa [Std.ExtTreeMap.mem_toList_iff_getElem?_eq_some]
  · rintro ⟨t, ht, hpt⟩
    obtain ⟨⟨policyId, status⟩, hstatus, ht⟩ := List.mem_flatMap.1 ht
    rw [Std.ExtTreeMap.mem_toList_iff_getElem?_eq_some] at hstatus
    rcases mem_transitionsOf.1 ht with ⟨x, y, hxy, rfl⟩ | ⟨x, hlast, hin, rfl⟩
    · obtain ⟨hx, hy, rfl, hnext⟩ := (mem_zip_versionsOf h).1 hxy
      exact .inl ⟨x, hx, y, hy, hnext, Table.mem_of_get hstatus, hpt⟩
    · obtain ⟨hx, rfl, hlatest⟩ := (getLast?_versionsOf h).1 hlast
      exact .inr ⟨x, hx, hlatest, ⟨status, hstatus, hin⟩, hpt⟩

/-- A transition is about a version of the policy. -/
theorem exists_versionOf {t : Transition}
    (ht : t ∈ transitionsOf capturedAt status (versionsOf rows policyId)) :
    ∃ v, rows[t.versionId]? = some v ∧ v.policyId = policyId := by
  obtain ⟨x, hx, hid⟩ : ∃ x ∈ versionsOf rows policyId, x.1 = t.versionId := by
    rcases mem_transitionsOf.1 ht with ⟨x, y, hxy, rfl⟩ | ⟨x, hx, -, rfl⟩
    · exact ⟨x, (List.of_mem_zip hxy).1, rfl⟩
    · exact ⟨x, List.mem_of_getLast? hx, rfl⟩
  obtain ⟨hx, hp⟩ := mem_versionsOf.1 hx
  rw [Std.ExtTreeMap.mem_toList_iff_getElem?_eq_some, hid] at hx
  exact ⟨x.2, hx, hp⟩

/-- The versions of a policy but the last one are superseded, the last one may become
    effective. -/
theorem versionId_transitionsOf (versions : List (Id × PolicyVersion)) :
    ((transitionsOf capturedAt status versions).map Transition.versionId).Sublist
      (versions.map Prod.fst) := by
  -- All versions but the latest are superseded.
  rcases List.eq_nil_or_concat versions with rfl | ⟨front, latest, rfl⟩
  · exact .slnil
  · have hfront : (((front ++ [latest]).zip (front ++ [latest]).tail).map
        fun x => Transition.superseded x.1.1 x.2.1 (capturedAt x.2.1)).map Transition.versionId =
          front.map Prod.fst := by
      rw [List.map_map]
      show (((front ++ [latest]).zip (front ++ [latest]).tail).map (Prod.fst ∘ Prod.fst)) = _
      rw [← List.map_map, List.map_fst_zip_tail, List.dropLast_concat]
    rw [List.concat_eq_append, transitionsOf, List.map_append, hfront, List.map_append,
      List.getLast?_concat]
    refine (List.Sublist.refl _).append ?_
    show (List.map _ (if _ then _ else _)).Sublist _
    split
    · exact .refl _
    · exact List.nil_sublist _

/-- No version has two transitions. -/
theorem transitions_apart :
    (transitions policies capturedAt rows).Pairwise fun t t' => t.versionId ≠ t'.versionId := by
  rw [transitions, List.pairwise_flatMap]
  -- Within a policy the versions differ, and two policies share none.
  constructor
  · intro policy _
    have hkeys : ((versionsOf rows policy.1).map Prod.fst).Nodup := by
      rw [List.Nodup, List.pairwise_map, versionsOf,
        (List.perm_insertionSort ..).pairwise_iff Ne.symm]
      exact ((Table.toList_keys_lt rows).imp Nat.ne_of_lt).filter _
    exact List.pairwise_map.1 (hkeys.sublist (versionId_transitionsOf _))
  · refine (Table.toList_keys_lt policies).imp fun {x y} hlt t ht t' ht' heq => ?_
    obtain ⟨v, hv, hp⟩ := exists_versionOf ht
    obtain ⟨v', hv', hp'⟩ := exists_versionOf ht'
    rw [heq, hv'] at hv
    obtain rfl := Option.some.inj hv
    exact Nat.ne_of_lt hlt (hp.symm.trans hp')

/-! ## The backfill -/

section Backfill

@[simp] theorem Transition.event_aggregate (t : Transition) : t.event.aggregate = t.versionId := by
  cases t <;> rfl

@[simp] theorem Transition.event_aggregateSequence (t : Transition) :
    t.event.aggregateSequence = 1 := by
  cases t <;> rfl

@[simp] theorem Transition.event_actorType (t : Transition) : t.event.actorType = "migration" := by
  cases t <;> rfl

@[simp] theorem Transition.event_idempotencyKey (t : Transition) :
    t.event.idempotencyKey = none := by
  cases t <;> rfl

/-- The event leaves the columns that the `UPDATE` sets. -/
theorem Transition.update_eq_columnsAfter (t : Transition) :
    t.update {} = columnsAfter [t.event] := by
  cases t <;> rfl

/-- An event of an aggregate without events, and without a key, can be inserted. -/
theorem insertEvent_eq {β : Type} {log : List (DomainEvent Id β String)}
    {e : DomainEvent Id β String} (hkey : e.idempotencyKey = none)
    (hnew : ∀ e' ∈ log, ¬ SameSlot e' e) : insertEvent log e = .ok (log ++ [e]) := by
  unfold insertEvent
  refine if_neg ?_
  rintro ⟨e', he', hslot | ⟨hsome, heq⟩⟩
  · exact hnew e' he' hslot
  · exact hsome (heq.trans hkey)

/-- The rounds of the backfill, one after another. -/
theorem foldlM_backfillTransition (already : List Id) (ts : List Transition)
    (rows : Table PolicyVersion) (events : List PolicyLifecycle.Event)
    (hids : ts.Pairwise fun t t' => t.versionId ≠ t'.versionId)
    (hnew : ∀ t ∈ ts, t.versionId ∉ already → ∀ e ∈ events, e.aggregate ≠ t.versionId) :
    ts.foldlM (backfillTransition already) (rows, events) =
      .ok (ts.foldl updateVersion rows,
        events ++ (ts.filter fun t => t.versionId ∉ already).map Transition.event) := by
  -- over the transitions: each inserts its event unless the version has one
  induction ts generalizing rows events with
  | nil => simp [pure, Except.pure]
  | cons t ts ih =>
    rw [List.pairwise_cons] at hids
    rw [List.forall_mem_cons] at hnew
    rw [List.foldlM_cons, List.foldl_cons]
    by_cases ht : t.versionId ∈ already
    · have hround : backfillTransition already (rows, events) t =
          .ok (updateVersion rows t, events) := if_pos ht
      rw [hround, List.filter_cons_of_neg (by simpa using ht)]
      exact ih _ _ hids.2 hnew.2
    · have hinsert : insertEvent events t.event = .ok (events ++ [t.event]) :=
        insertEvent_eq t.event_idempotencyKey fun e he hslot =>
          hnew.1 ht e he (hslot.1.trans t.event_aggregate)
      have hround : backfillTransition already (rows, events) t =
          .ok (updateVersion rows t, events ++ [t.event]) := by
        simp only [backfillTransition, ht, if_false, hinsert, Except.map]
      have hrest := ih (updateVersion rows t) (events ++ [t.event]) hids.2 (by
        intro t' ht' hnot e he
        rcases List.mem_append.1 he with he | he
        · exact hnew.2 t' ht' hnot e he
        · rw [List.mem_singleton.1 he, t.event_aggregate]
          exact hids.1 t' ht')
      rw [hround, List.filter_cons_of_pos (by simpa using ht), List.map_cons]
      rw [List.append_assoc, List.singleton_append] at hrest
      exact hrest

/-- A table without lifecycle columns, and a log that holds nothing but the events of
    transitions that the backfill finds again. -/
structure Bootstrapped (policies : Table String) (capturedAt : Id → Time)
    (rows : Table PolicyVersion) (events : List PolicyLifecycle.Event) : Prop where
  holds : constraints.Holds rows
  defaults : ∀ (k : Id) v, rows[k]? = some v → v.toLifecycleColumns = {}
  wellFormed : WellFormed events
  again : ∀ e ∈ events, ∃ t ∈ transitions policies capturedAt rows, t.event = e

/-- The rows after the backfill. -/
def backfilledRows (policies : Table String) (capturedAt : Id → Time)
    (rows : Table PolicyVersion) : Table PolicyVersion :=
  (transitions policies capturedAt rows).foldl updateVersion rows

/-- The log after the backfill. -/
def backfilledEvents (policies : Table String) (capturedAt : Id → Time)
    (rows : Table PolicyVersion) (events : List PolicyLifecycle.Event) :
    List PolicyLifecycle.Event :=
  events ++ ((transitions policies capturedAt rows).filter
    fun t => t.versionId ∉ alreadyBackfilled events).map Transition.event

namespace Bootstrapped

variable (h : Bootstrapped policies capturedAt rows events)
include h

/-- A version with events is one of those already backfilled. -/
theorem mem_alreadyBackfilled {e : PolicyLifecycle.Event} (he : e ∈ events) :
    e.aggregate ∈ alreadyBackfilled events := by
  obtain ⟨t, -, rfl⟩ := h.again e he
  exact List.mem_map.2 ⟨_, List.mem_filter.2 ⟨he, by simp⟩, rfl⟩

/-- The backfill raises nothing. -/
theorem backfill_eq : backfillLifecycle policies capturedAt rows events =
    .ok (backfilledRows policies capturedAt rows,
      backfilledEvents policies capturedAt rows events) := by
  refine foldlM_backfillTransition _ _ _ _ transitions_apart fun t _ hnot e he heq => ?_
  exact hnot (heq ▸ h.mem_alreadyBackfilled he)

/-- A version without a transition has no event. -/
theorem ofAggregate_eq_nil
    (hk : ∀ t ∈ transitions policies capturedAt rows, t.versionId ≠ k) :
    ofAggregate (backfilledEvents policies capturedAt rows events) k = [] := by
  refine List.filter_eq_nil_iff.2 fun e he => ?_
  rw [decide_eq_true_eq]
  rcases List.mem_append.1 he with he | he
  · obtain ⟨t, ht, rfl⟩ := h.again e he
    rw [t.event_aggregate]
    exact hk t ht
  · obtain ⟨t, ht, rfl⟩ := List.mem_map.1 he
    rw [t.event_aggregate]
    exact hk t (List.mem_of_mem_filter ht)

/-- A version with a transition has its event, and no other. -/
theorem ofAggregate_eq {t : Transition} (ht : t ∈ transitions policies capturedAt rows) :
    ofAggregate (backfilledEvents policies capturedAt rows events) t.versionId = [t.event] := by
  have hunique : ∀ t' ∈ transitions policies capturedAt rows,
      t'.versionId = t.versionId → t' = t := by
    intro t' ht' heq
    have hmem : t' ∈ (transitions policies capturedAt rows).filter
        fun x => x.versionId = t.versionId := List.mem_filter.2 ⟨ht', by simpa using heq⟩
    rw [List.filter_key_eq_singleton transitions_apart ht] at hmem
    exact List.mem_singleton.1 hmem
  rw [backfilledEvents, ofAggregate_append]
  by_cases hin : t.versionId ∈ alreadyBackfilled events
  · -- a migration has inserted the event before
    obtain ⟨e, he, heq⟩ := List.mem_map.1 hin
    have he := List.mem_of_mem_filter he
    have hevent : ∀ e' ∈ events, e'.aggregate = t.versionId → e' = t.event := by
      intro e' he' haggr
      obtain ⟨t', ht', rfl⟩ := h.again e' he'
      rw [hunique t' ht' (by rw [← haggr, t'.event_aggregate])]
    obtain rfl := hevent e he heq
    have hold := h.wellFormed.ofAggregate_eq_singleton he fun e' he' haggr => by
      rw [hevent e' he' (haggr.trans heq), t.event_aggregateSequence]
    have hnone : ofAggregate (((transitions policies capturedAt rows).filter
        fun t => t.versionId ∉ alreadyBackfilled events).map Transition.event) t.versionId =
        [] := by
      refine List.filter_eq_nil_iff.2 fun e' he' => ?_
      obtain ⟨t', ht', rfl⟩ := List.mem_map.1 he'
      simp only [List.mem_filter, decide_eq_true_eq] at ht'
      simp only [t'.event_aggregate, decide_eq_true_eq]
      exact fun hid => ht'.2 (hid ▸ hin)
    rw [← heq, hold, heq, hnone, List.append_nil]
  · have hold : ofAggregate events t.versionId = [] := by
      refine List.filter_eq_nil_iff.2 fun e he => ?_
      rw [decide_eq_true_eq]
      exact fun haggr => hin (haggr ▸ h.mem_alreadyBackfilled he)
    have hnew : ((transitions policies capturedAt rows).filter
        fun t => t.versionId ∉ alreadyBackfilled events).filter
          (fun x => x.versionId = t.versionId) = [t] :=
      List.filter_key_eq_singleton (transitions_apart.filter _)
        (List.mem_filter.2 ⟨ht, by simpa using hin⟩)
    rw [hold, List.nil_append, ofAggregate, List.filter_map]
    simp only [Function.comp_def, Transition.event_aggregate, hnew, List.map_singleton]

/-- After the backfill every event carries the number 1 of its version. -/
theorem wellFormed_backfilled :
    WellFormed (backfilledEvents policies capturedAt rows events) where
  sequences := by
    intro k
    by_cases hk : ∃ t ∈ transitions policies capturedAt rows, t.versionId = k
    · obtain ⟨t, ht, rfl⟩ := hk
      rw [h.ofAggregate_eq ht]
      simp
    · rw [h.ofAggregate_eq_nil fun t ht heq => hk ⟨t, ht, heq⟩]
      rfl
  keys := by
    refine List.pairwise_of_forall_mem_list fun e he e' _ hsame => hsame.1 ?_
    rcases List.mem_append.1 he with he | he
    · obtain ⟨t, -, rfl⟩ := h.again e he
      exact t.event_idempotencyKey
    · obtain ⟨t, -, rfl⟩ := List.mem_map.1 he
      exact t.event_idempotencyKey

/-- After the backfill every version has at most one event. -/
theorem recordedInOrder :
    RecordedInOrder (backfilledEvents policies capturedAt rows events) := by
  intro k
  by_cases hk : ∃ t ∈ transitions policies capturedAt rows, t.versionId = k
  · obtain ⟨t, ht, rfl⟩ := hk
    rw [h.ofAggregate_eq ht]
    exact List.pairwise_singleton ..
  · rw [h.ofAggregate_eq_nil fun t ht heq => hk ⟨t, ht, heq⟩]
    exact .nil

omit h in
/-- The `UPDATE`s of a version's row. -/
theorem getElem?_backfilledRows (k : Id) :
    (backfilledRows policies capturedAt rows)[k]? =
      ((transitions policies capturedAt rows).filter fun t => t.versionId = k).foldl
        (fun o t => o.map fun v => { v with toLifecycleColumns := t.update v.toLifecycleColumns })
        rows[k]? :=
  Table.getElem?_foldl_alter Transition.versionId _ _ rows k

/-- A row after the backfill has the columns that its event, if any, leaves. -/
theorem backfilledRow (hv : rows[k]? = some v) :
    (backfilledRows policies capturedAt rows)[k]? =
      some { v with toLifecycleColumns :=
        columnsAfter (ofAggregate (backfilledEvents policies capturedAt rows events) k) } := by
  rw [getElem?_backfilledRows, hv]
  by_cases hk : ∃ t ∈ transitions policies capturedAt rows, t.versionId = k
  · obtain ⟨t, ht, rfl⟩ := hk
    rw [List.filter_key_eq_singleton transitions_apart ht, h.ofAggregate_eq ht,
      ← t.update_eq_columnsAfter, ← h.defaults _ v hv]
    rfl
  · have hnone : ∀ t ∈ transitions policies capturedAt rows, t.versionId ≠ k :=
      fun t ht heq => hk ⟨t, ht, heq⟩
    have hfilter : ((transitions policies capturedAt rows).filter fun t => t.versionId = k) = [] :=
      List.filter_eq_nil_iff.2 fun t ht => by simpa using hnone t ht
    rw [hfilter, h.ofAggregate_eq_nil hnone, columnsAfter_nil, ← h.defaults k v hv]
    rfl

omit h in
theorem exists_row {r : PolicyVersion}
    (hr : (backfilledRows policies capturedAt rows)[k]? = some r) : ∃ v, rows[k]? = some v := by
  cases hv : rows[k]? with
  | some v => exact ⟨v, rfl⟩
  | none =>
    rw [getElem?_backfilledRows, hv, List.foldl_fixed' fun _ => rfl] at hr
    cases hr

/-- The columns that the backfill leaves come from the transition of the version. -/
theorem exists_transition
    (hne : columnsAfter (ofAggregate (backfilledEvents policies capturedAt rows events) k) ≠ {}) :
    ∃ t ∈ transitions policies capturedAt rows, t.versionId = k ∧
      columnsAfter (ofAggregate (backfilledEvents policies capturedAt rows events) k) =
        t.update {} := by
  by_cases hk : ∃ t ∈ transitions policies capturedAt rows, t.versionId = k
  · obtain ⟨t, ht, rfl⟩ := hk
    refine ⟨t, ht, rfl, ?_⟩
    rw [h.ofAggregate_eq ht, t.update_eq_columnsAfter]
  · rw [h.ofAggregate_eq_nil fun t ht heq => hk ⟨t, ht, heq⟩] at hne
    exact absurd rfl hne

/-- A version that the backfill makes effective is the latest one of its policy. -/
theorem latest_of_effective (hv : rows[k]? = some v)
    (hst : (columnsAfter (ofAggregate (backfilledEvents policies capturedAt rows events)
      k)).lifecycleStatus = .effective) : Latest rows v := by
  obtain ⟨t, ht, rfl, hcolumns⟩ := h.exists_transition fun hnone => by
    rw [hnone] at hst
    cases hst
  rw [hcolumns] at hst
  rcases (callsFor_iff h.holds).2 ⟨t, ht, rfl⟩ with
    ⟨_, _, _, _, _, _, rfl⟩ | ⟨x, hx, hlatest, -, rfl⟩
  · cases hst
  · rw [Std.ExtTreeMap.mem_toList_iff_getElem?_eq_some] at hx
    obtain rfl := Option.some.inj (hv.symm.trans hx)
    exact hlatest

/-- The version that supersedes another one is there. -/
theorem mem_of_superseded {w : Id}
    (hw : (columnsAfter (ofAggregate (backfilledEvents policies capturedAt rows events)
      k)).supersededByVersionId = some w) : w ∈ rows := by
  obtain ⟨t, ht, rfl, hcolumns⟩ := h.exists_transition fun hnone => by
    rw [hnone] at hw
    cases hw
  rw [hcolumns] at hw
  rcases (callsFor_iff h.holds).2 ⟨t, ht, rfl⟩ with ⟨_, _, y, hy, -, -, rfl⟩ | ⟨_, _, _, _, rfl⟩
  · obtain rfl := Option.some.inj hw
    exact Table.mem_of_get (Std.ExtTreeMap.mem_toList_iff_getElem?_eq_some.1 hy)
  · cases hw

/-- The rows after the backfill satisfy the unique indexes and the foreign key. -/
theorem holds_backfilled : constraints.Holds (backfilledRows policies capturedAt rows) := by
  refine Constraints.holds_iff.2 fun k r hr => ?_
  obtain ⟨v, hv⟩ := exists_row hr
  rw [h.backfilledRow hv, Option.some_inj] at hr
  subst hr
  constructor
  · intro j r' hr' hj
    obtain ⟨v', hv'⟩ := exists_row hr'
    rw [h.backfilledRow hv', Option.some_inj] at hr'
    subst hr'
    have hmem := Std.ExtTreeMap.mem_toList_iff_getElem?_eq_some.2 hv
    have hmem' := Std.ExtTreeMap.mem_toList_iff_getElem?_eq_some.2 hv'
    simp only [constraints, decide_eq_false_iff_not]
    rintro ⟨hp, hn | ⟨hs, hs'⟩⟩
    · exact versionNumber_ne h.holds hmem hmem' hj.symm hp hn
    · -- two latest versions of one policy would have one number
      have hle := h.latest_of_effective hv hs _ hmem' (Eq.symm hp)
      have hge := h.latest_of_effective hv' hs' _ hmem hp
      exact versionNumber_ne h.holds hmem hmem' hj.symm hp (Nat.le_antisymm hge hle)
  · intro w hw
    obtain ⟨v', hv'⟩ := Table.exists_get (h.mem_of_superseded (Option.mem_toList.1 hw))
    exact Table.mem_of_get (h.backfilledRow hv')

/-- After the backfill the rows are what the events leave. -/
theorem synced : Synced (backfilledRows policies capturedAt rows)
    (backfilledEvents policies capturedAt rows events) where
  holds := h.holds_backfilled
  known := by
    intro e he
    obtain ⟨t, ht, rfl⟩ : ∃ t ∈ transitions policies capturedAt rows, t.event = e := by
      rcases List.mem_append.1 he with he | he
      · exact h.again e he
      · obtain ⟨t, ht, rfl⟩ := List.mem_map.1 he
        exact ⟨t, List.mem_of_mem_filter ht, rfl⟩
    obtain ⟨policy, -, ht⟩ := List.mem_flatMap.1 ht
    obtain ⟨v, hv, -⟩ := exists_versionOf ht
    rw [t.event_aggregate]
    exact Table.mem_of_get (h.backfilledRow hv)
  columns := by
    intro k r hr
    obtain ⟨v, hv⟩ := exists_row hr
    rw [h.backfilledRow hv, Option.some_inj] at hr
    subst hr
    rfl

end Bootstrapped

end Backfill

/-! ## Between two upgrades -/

section Between

variable {clock : Clock} {s : PolicyLifecycle.PolicySession} {lifecycle : Bool}

/-- What holds of the versions and their log at either revision: the lifecycle columns,
    where they exist, are what the events leave. -/
structure VersionsInv (lifecycle : Bool) (rows : Tracked PolicyVersion)
    (events : List PolicyLifecycle.Event) : Prop where
  holds : constraints.Holds rows.stored
  known : ∀ e ∈ events, e.aggregate ∈ rows.current
  wellFormed : WellFormed events
  columns : ∀ (k : Id) v, rows.current[k]? = some v →
    v.toLifecycleColumns = if lifecycle then columnsAfter (ofAggregate events k) else {}

/-- An append keeps the columns what the events leave. -/
theorem VersionsInv.append {args : AppendArgs Id LifecycleEvent String}
    (h : VersionsInv true s.rows s.events) :
    (appendAndProject PolicyLifecycle.projection.toProjection clock s args).Returns
      fun s' => VersionsInv true s'.rows s'.events := by
  by_cases hkey : s.Fresh args
  · unfold appendAndProject
    simp only [appendEvent_of_fresh hkey, if_true]
    split
    · trivial
    · next rows hflush =>
      obtain ⟨rfl, hholds⟩ := flush_eq_ok h.holds hflush
      split
      · trivial
      · next rows' hproject =>
        simp only [PolicyLifecycle.projection, PolicyLifecycle.project, VersionLifecycle.project,
          Tracked.clean_current] at hproject
        split at hproject
        · cases hproject
        · next v hv =>
          obtain rfl := Except.ok.inj hproject
          set e := nextEvent clock s args
          refine ⟨hholds, fun e' he' => ?_, ?_, fun k r hr => ?_⟩
          · rcases List.mem_append.1 he' with he' | he'
            · simp [h.known e' he']
            · simp [List.mem_singleton.1 he']
          · exact h.wellFormed.snoc (h.wellFormed.nextAggregateSequence _)
              fun _ he' => hkey.not_sameKey he'
          · rw [if_pos rfl]
            simp only [Tracked.set_current, Tracked.clean_current] at hr
            by_cases hk : e.aggregate = k
            · subst hk
              rw [Table.get_insert_self, Option.some_inj] at hr
              subst hr
              rw [ofAggregate_snoc_self, columnsAfter_snoc, ← (h.columns _ v hv).trans (if_pos rfl)]
              rfl
            · rw [Table.get_insert_ne hk] at hr
              rw [ofAggregate_snoc_ne hk]
              exact (h.columns k r hr).trans (if_pos rfl)
  · -- A repeated key writes nothing.
    rw [appendAndProject_of_not_fresh hkey]
    exact h

/-- A flush writes the changes. -/
theorem VersionsInv.flush (h : VersionsInv lifecycle s.rows s.events) :
    (flushSession PolicyLifecycle.projection.toProjection s).Returns fun s' =>
      VersionsInv lifecycle s'.rows s'.events ∧ s'.rows = Tracked.clean s'.rows.current := by
  unfold flushSession
  split
  · trivial
  · next rows hflush =>
    obtain ⟨rfl, hholds⟩ := flush_eq_ok h.holds hflush
    exact ⟨⟨hholds, h.known, h.wellFormed, h.columns⟩, rfl⟩

/-- A command that appends events keeps the columns what the events leave. -/
theorem VersionsInv.command {c : PolicyLifecycle.Command} (hc : ¬ IsUpload c)
    (h : VersionsInv true s.rows s.events) :
    (c.run clock s).Returns fun s' => VersionsInv true s'.rows s'.events := by
  have hscript : Script PolicyLifecycle.projection.toProjection clock s (c.run clock s) := by
    cases c with
    | uploadVersion id policyId => exact absurd trivial hc
    | submitForReview id actor => exact submitForReview_script
    | reviewVersion id decision comment actor => exact reviewVersion_script
    | withdrawVersion id reason actor occurredAt => exact withdrawVersion_script
    | makeVersionEffective id actor => exact makeVersionEffective_script.andThen fun s => .flush s
  exact hscript.returns (R := fun s => VersionsInv true s.rows s.events) h
    (fun _ _ hs => hs.append) fun _ hs => hs.flush.mono fun _ hs' => hs'.1

/-- A captured version has no events yet, and the defaults in the lifecycle columns. -/
theorem VersionsInv.upload {id : Id} (h : VersionsInv lifecycle s.rows s.events) :
    (PolicyLifecycle.uploadVersion clock s id policyId).Returns
      fun s' => VersionsInv lifecycle s'.rows s'.events := by
  unfold PolicyLifecycle.uploadVersion
  split
  · trivial
  · next hid =>
    refine ⟨h.holds, fun e he => by simp [h.known e he], h.wellFormed, fun k r hr => ?_⟩
    simp only [Tracked.set_current] at hr
    -- The new version has no events.
    by_cases hk : id = k
    · subst hk
      rw [Table.get_insert_self, Option.some_inj] at hr
      subst hr
      have hnil : ofAggregate s.events id = [] :=
        List.filter_eq_nil_iff.2 fun e he => by
          rw [decide_eq_true_eq]
          exact fun heq => hid (heq ▸ h.known e he)
      rw [hnil, columnsAfter_nil, ite_self]
    · rw [Table.get_insert_ne hk] at hr
      exact h.columns k r hr

/-- A request keeps what its command keeps. -/
theorem VersionsInv.request (command : PolicyLifecycle.PolicySession →
    Outcome PolicyLifecycle.PolicySession)
    (hcommand : (command s).Returns fun s' => VersionsInv lifecycle s'.rows s'.events)
    (h : VersionsInv lifecycle s.rows s.events) (hclean : s.rows = Tracked.clean s.rows.current) :
    let s' := MiniGrc.request PolicyLifecycle.projection.toProjection command s
    VersionsInv lifecycle s'.rows s'.events ∧ s'.rows = Tracked.clean s'.rows.current := by
  have hends := hcommand.andThen fun _ hs' => hs'.flush
  unfold MiniGrc.request
  cases ho : (command s).andThen (flushSession PolicyLifecycle.projection.toProjection) with
  | raised s' e => exact ⟨h, hclean⟩
  | returned s' =>
    rw [ho] at hends
    exact hends

/-- Without the lifecycle columns the rows still satisfy their constraints. -/
theorem VersionsInv.dropColumns {t : Table PolicyVersion}
    (h : VersionsInv lifecycle (Tracked.clean t) events) :
    VersionsInv false (Tracked.clean (t.map fun _ => withLifecycleDefaults)) events := by
  have hrow : ∀ (k : Id) r, (t.map fun _ => withLifecycleDefaults)[k]? = some r →
      ∃ v, t[k]? = some v ∧ r = withLifecycleDefaults v := by
    intro k r hr
    rw [Std.ExtTreeMap.getElem?_map, Option.map_eq_some_iff] at hr
    obtain ⟨v, hv, rfl⟩ := hr
    exact ⟨v, hv, rfl⟩
  refine ⟨Constraints.holds_iff.2 fun k r hr => ⟨fun j r' hr' hj => ?_, fun w hw => ?_⟩, ?_,
    h.wellFormed, fun k r hr => ?_⟩
  · obtain ⟨v, hv, rfl⟩ := hrow k r hr
    obtain ⟨v', hv', rfl⟩ := hrow j r' hr'
    have hk : Sketch t k (withLifecycleDefaults v) := ⟨v, hv, .inr rfl⟩
    exact hk.conflict_eq_false h.holds ⟨v', hv', .inr rfl⟩ hj
  · obtain ⟨v, hv, rfl⟩ := hrow k r hr
    cases hw
  · intro e he
    simpa using h.known e he
  · obtain ⟨v, hv, rfl⟩ := hrow k r hr
    rfl

/-- The rows agree with the log as long as the columns exist. -/
theorem VersionsInv.synced {t : Table PolicyVersion}
    (h : VersionsInv true (Tracked.clean t) events) : Synced t events :=
  ⟨h.holds, h.known, fun k v hv => (h.columns k v hv).trans (if_pos rfl)⟩

/-- A log of events of transitions that are found again is ready for the backfill. -/
theorem VersionsInv.bootstrapped {t : Table PolicyVersion}
    (h : VersionsInv false (Tracked.clean t) events)
    (hagain : ∀ e ∈ events, CallsFor policies capturedAt t fun x => x.event = e) :
    Bootstrapped policies capturedAt t events :=
  ⟨h.holds, h.columns, h.wellFormed, fun e he => (callsFor_iff h.holds).1 (hagain e he)⟩

/-- The backfill leaves the columns that the events leave. -/
theorem Bootstrapped.versionsInv (h : Bootstrapped policies capturedAt rows events) :
    VersionsInv true (Tracked.clean (backfilledRows policies capturedAt rows))
      (backfilledEvents policies capturedAt rows events) :=
  ⟨h.synced.holds, h.synced.known, h.wellFormed_backfilled,
    fun k v hv => (h.synced.columns k v hv).trans (if_pos rfl).symm⟩

end Between

end MiniGrc.Migrations
