import MiniGrc.Spec.PolicyLifecycle

/-!
# Rebuilding the policy lifecycle

`rebuild_policy_version_lifecycle_projection` succeeds in every state between requests and
leaves the rows as they are: the reset and the commit flush rows that are drafts or have
the columns that they had before, so that no statement meets a second effective version.
-/

namespace MiniGrc.PolicyLifecycle

open Events VersionLifecycle

variable {clock : Clock} {s : PolicySession} {t : Table PolicyVersion} {events : List Event}

theorem history_eq (events : List Event) (k : Id) :
    history projection events k = ofAggregate events k := by
  rw [history]
  exact List.filterMap_some

/-- What the events of one version do to its row, if there is one. -/
def replayed (row : Option PolicyVersion) (e : Event) : Option PolicyVersion :=
  row.map fun v => applyTo v e.body e.occurredAt e.actorId

/-- Replaying events of known versions changes each version's row by its own events and
    writes nothing. -/
theorem foldlM_project (events : List Event) (rows : Tracked PolicyVersion)
    (h : ∀ e ∈ events, e.aggregate ∈ rows.current) :
    ∃ rows', events.foldlM project rows = .ok rows' ∧ rows'.stored = rows.stored ∧
      ∀ k : Id, rows'.current[k]? = (ofAggregate events k).foldl replayed rows.current[k]? := by
  induction events generalizing rows with
  | nil => exact ⟨rows, rfl, rfl, fun _ => rfl⟩
  | cons e events ih =>
    rw [List.forall_mem_cons] at h
    obtain ⟨v, hv⟩ := Table.exists_get h.1
    have hproject : project rows e =
        .ok (rows.set e.aggregate (applyTo v e.body e.occurredAt e.actorId)) := by
      simp [project, VersionLifecycle.project, hv]
    obtain ⟨rows', hrows', hstored, hcurrent⟩ :=
      ih (rows.set e.aggregate (applyTo v e.body e.occurredAt e.actorId))
        fun e' he' => by simp [h.2 e' he']
    refine ⟨rows', ?_, hstored, fun k => ?_⟩
    · rw [List.foldlM_cons, hproject]
      exact hrows'
    · rw [hcurrent k, ofAggregate, ofAggregate]
      by_cases hk : e.aggregate = k
      · subst hk
        simp [Tracked.set_current, replayed, hv]
      · simp [Tracked.set_current, Table.get_insert_ne hk, hk]

theorem foldl_replayed (es : List Event) (v : PolicyVersion) :
    es.foldl replayed (some v) =
      some { v with
        toLifecycleColumns := es.foldl LifecycleColumns.after v.toLifecycleColumns } := by
  have hsome : es.foldl replayed (some v) =
      some (es.foldl (fun v e => applyTo v e.body e.occurredAt e.actorId) v) := by
    induction es generalizing v with
    | nil => rfl
    | cons e es ih => exact ih _
  rw [hsome, foldl_applyTo]
  rfl

theorem foldl_replayed_none (es : List Event) : es.foldl replayed none = none := by
  induction es with
  | nil => rfl
  | cons e es ih => exact ih

/-! ## The flushes of a rebuild -/

/-- The row is the version's row, as it is or with the defaults. -/
def Sketch (t : Table PolicyVersion) (k : Id) (r : PolicyVersion) : Prop :=
  ∃ v, t[k]? = some v ∧ (r = v ∨ r = withLifecycleDefaults v)

/-- Rows with defaults violate no unique index that the rows themselves satisfy. -/
theorem Sketch.conflict_eq_false {k k' : Id} {r r' : PolicyVersion} (h : constraints.Holds t)
    (hr : Sketch t k r) (hr' : Sketch t k' r') (hne : k' ≠ k) :
    constraints.conflict r r' = false := by
  obtain ⟨v, hv, hr⟩ := hr
  obtain ⟨v', hv', hr'⟩ := hr'
  have hfree := ((Constraints.holds_iff.1 h) k v hv).1 k' v' hv' hne
  simp only [constraints, decide_eq_false_iff_not, not_and, not_or] at hfree ⊢
  obtain rfl | rfl := hr <;> obtain rfl | rfl := hr'
  · exact hfree
  · exact fun hp => ⟨(hfree hp).1, fun _ hs => by cases hs⟩
  · exact fun hp => ⟨(hfree hp).1, fun hs _ => by cases hs⟩
  · exact fun hp => ⟨(hfree hp).1, fun hs _ => by cases hs⟩

/-- A flush that takes some rows to their defaults or back is accepted. -/
theorem flush_sketch {rows : Tracked PolicyVersion} (h : constraints.Holds t)
    (hstored : ∀ (k : Id) r, rows.stored[k]? = some r → Sketch t k r)
    (hcurrent : ∀ (k : Id) r, rows.current[k]? = some r → Sketch t k r)
    (hall : ∀ k ∈ t, k ∈ rows.stored) : flush rows = .ok (Tracked.clean rows.current) := by
  have hfound : ∀ (k j : Id) r, rows.foundBy k j = some r → Sketch t j r := by
    intro k j r hr
    unfold Tracked.foundBy at hr
    split at hr
    · exact hcurrent j r hr
    · exact hstored j r hr
  have hsome : (rows.flush constraints).isSome := by
    rw [Tracked.flush_isSome_iff]
    intro k r hr _
    constructor
    · exact fun j r' hj hr' => (hcurrent k r hr).conflict_eq_false h (hfound k j r' hr') hj
    · intro j hj
      obtain ⟨v, hv, rfl | rfl⟩ := hcurrent k r hr
      · have hin : j ∈ rows.stored := hall j (((Constraints.holds_iff.1 h) k r hv).2 j hj)
        refine .inr ?_
        unfold Tracked.foundBy
        split
        · exact Std.ExtTreeMap.mem_iff_isSome_getElem?.1 (rows.keeps j hin)
        · exact Std.ExtTreeMap.mem_iff_isSome_getElem?.1 hin
      · simp [constraints, VersionRow.columns, withLifecycleDefaults] at hj
  obtain ⟨rows', hrows'⟩ := Option.isSome_iff_exists.1 hsome
  unfold flush
  rw [hrows', Tracked.flush_eq_clean hrows']

/-! ## The rebuild -/

/-- Each version's columns are what its events leave. -/
structure Synced (t : Table PolicyVersion) (events : List Event) : Prop where
  holds : constraints.Holds t
  known : ∀ e ∈ events, e.aggregate ∈ t
  columns : ∀ (k : Id) v, t[k]? = some v →
    v.toLifecycleColumns = columnsAfter (ofAggregate events k)

/-- A rebuild that replays each version's events in their order, and its commit, succeed and
    change nothing. -/
theorem Synced.rebuild_eq (h : Synced t events)
    (horder : ∀ k, ofAggregate (replayOrder events) k = ofAggregate events k) :
    rebuildPolicyVersionLifecycleProjection (Tracked.clean t) events = .ok (Tracked.clean t) := by
  have hreset : resetPolicyVersionLifecycle (Tracked.clean t) =
      .ok (Tracked.clean (t.map fun _ => withLifecycleDefaults)) := by
    refine flush_sketch h.holds (fun k r hr => ⟨r, hr, .inl rfl⟩) ?_ fun k hk => hk
    intro k r hr
    simp only [Tracked.mapRows_current, Tracked.clean_current, Std.ExtTreeMap.getElem?_map,
      Option.map_eq_some_iff] at hr
    obtain ⟨v, hv, rfl⟩ := hr
    exact ⟨v, hv, .inr rfl⟩
  obtain ⟨rows, hrows, hstored, hcurrent⟩ :=
    foldlM_project (replayOrder events)
      (Tracked.clean (t.map fun _ => withLifecycleDefaults)) fun e he => by
        simpa using h.known e (mem_replayOrder.1 he)
  -- each version's own events lead its row back to what it was
  have hback : rows.current = t := by
    refine Table.ext fun k => ?_
    rw [hcurrent k, horder, Tracked.clean_current, Std.ExtTreeMap.getElem?_map]
    cases hv : t[k]? with
    | none => exact foldl_replayed_none _
    | some v =>
      rw [Option.map_some, foldl_replayed]
      show some { v with toLifecycleColumns := columnsAfter (ofAggregate events k) } = some v
      rw [← h.columns k v hv]
  have hcommit : flush rows = .ok (Tracked.clean rows.current) := by
    refine flush_sketch h.holds ?_ ?_ ?_
    · intro k r hr
      rw [hstored, Tracked.clean_stored, Std.ExtTreeMap.getElem?_map, Option.map_eq_some_iff] at hr
      obtain ⟨v, hv, rfl⟩ := hr
      exact ⟨v, hv, .inr rfl⟩
    · intro k r hr
      rw [hback] at hr
      exact ⟨r, hr, .inl rfl⟩
    · intro k hk
      rw [hstored]
      simpa using hk
  unfold rebuildPolicyVersionLifecycleProjection rebuildAndCommit rebuildProjection
  show ((resetPolicyVersionLifecycle (Tracked.clean t)).bind _).bind _ = _
  rw [hreset]
  show ((replayOrder events).foldlM project _).bind flush = _
  rw [hrows]
  show flush rows = _
  rw [hcommit, hback]

/-- Between requests the versions are synced. -/
theorem Between.synced (h : Between clock s) : Synced s.rows.current s.events where
  holds := by
    have hinv : Inv projection s.rows.current s.events := h.session.inv
    refine Constraints.holds_iff.2 fun k r hr => ⟨fun j r' hr' hj => ?_, fun j hj => ?_⟩
    · simp only [constraints, decide_eq_false_iff_not]
      rintro ⟨hp, hn | ⟨hs, hs'⟩⟩
      · exact hj (hinv.numbers k j r r' hr hr' hp hn).symm
      · exact hj (hinv.oneEffective k j r r' hr hr' hp hs hs').symm
    · obtain ⟨v', hv', -⟩ := hinv.successor k r j hr (by simpa [constraints] using hj)
      exact Table.mem_of_get hv'
  known := h.session.inv.known
  columns k v hv := by
    rw [← history_eq]
    exact h.session.inv.columns k v hv

/-- A rebuild and its commit succeed and change nothing. -/
theorem Between.rebuild_eq (h : Between clock s) :
    rebuildPolicyVersionLifecycleProjection s.rows s.events = .ok s.rows := by
  have hrebuild := h.synced.rebuild_eq h.session.logged.ofAggregate_replayOrder
  rwa [← h.clean] at hrebuild

end MiniGrc.PolicyLifecycle
