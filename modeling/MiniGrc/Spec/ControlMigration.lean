import Mathlib.Data.List.Pairwise
import MiniGrc.Spec.ControlDefinitionLifecycle
import MiniGrc.Spec.PolicyMigration

/-!
# The backfill of the control-definition versions

What `upgrade()` of `96fd3c35a6ae` leaves: a version for each control, with its two events
under the sequence numbers 1 and 2. A control that had one before gets the version of its
recorded bootstrap again, under the id that the log knows.

## Key results

- `replayOrder_flatMap`: a replay takes the two events of a bootstrap one after the other
- `rebuild_bootstrapped`: it inserts the row that the backfill inserted
- `Recoverable.agrees`: the backfill, of a log that holds such pairs only, agrees with it
-/

namespace MiniGrc.Migrations

open Events VersionLifecycle
open ControlDefinitionLifecycle (InternalControlVersion rebuildInternalControlVersionProjection)

variable {bs bs' : List Bootstrap} {b b' : Bootstrap} {k : Id} {r : InternalControlVersion}
  {events : List ControlDefinitionLifecycle.Event} {controls : Table Control} {newId : Id → Id}

/-! ## The rows of bootstraps -/

/-- Bootstraps of different versions, of different controls. -/
def Apart (b b' : Bootstrap) : Prop :=
  b.versionId ≠ b'.versionId ∧ b.draftedPayload.controlId ≠ b'.draftedPayload.controlId

theorem Apart.symm (h : Apart b b') : Apart b' b := ⟨h.1.symm, h.2.symm⟩

instance : Std.Symm Apart := ⟨fun _ _ => Apart.symm⟩

/-- The table with the rows of the bootstraps. -/
def bootstrapped (bs : List Bootstrap) : Table InternalControlVersion :=
  bs.foldl (fun t b => t.insert b.versionId b.row) ∅

@[simp] theorem bootstrapped_nil : bootstrapped [] = ∅ := rfl

/-- A bootstrap adds its row. -/
@[simp] theorem bootstrapped_snoc :
    bootstrapped (bs ++ [b]) = (bootstrapped bs).insert b.versionId b.row := by
  simp [bootstrapped]

/-- A row is the one of a bootstrap. -/
theorem get_bootstrapped (h : bs.Pairwise Apart) :
    (bootstrapped bs)[k]? = some r ↔ ∃ b ∈ bs, b.versionId = k ∧ b.row = r := by
  -- From the right: the last bootstrap adds its row.
  induction bs using List.reverseRecOn with
  | nil => simp
  | append_singleton bs b ih =>
    rw [List.pairwise_append] at h
    rw [bootstrapped_snoc, Table.get_insert]
    split
    · next hk =>
      subst hk
      constructor
      · intro hr
        exact ⟨b, by simp, rfl, Option.some.inj hr⟩
      · rintro ⟨b', hb', hid, rfl⟩
        rcases List.mem_append.1 hb' with hb' | hb'
        · exact absurd hid (h.2.2 b' hb' b List.mem_cons_self).1
        · rw [List.mem_singleton.1 hb']
    · next hk =>
      rw [ih h.1]
      constructor
      · rintro ⟨b', hb', hrow⟩
        exact ⟨b', List.mem_append_left _ hb', hrow⟩
      · rintro ⟨b', hb', hid, hrow⟩
        rcases List.mem_append.1 hb' with hb' | hb'
        · exact ⟨b', hb', hid, hrow⟩
        · rw [List.mem_singleton.1 hb'] at hid
          exact absurd hid hk

/-- The order in which the rows are inserted does not matter. -/
theorem bootstrapped_congr (h : bs.Pairwise Apart) (h' : bs'.Pairwise Apart)
    (hmem : ∀ b, b ∈ bs ↔ b ∈ bs') : bootstrapped bs = bootstrapped bs' := by
  refine Table.ext fun k => Option.ext fun r => ?_
  rw [get_bootstrapped h, get_bootstrapped h']
  exact exists_congr fun b => and_congr_left fun _ => hmem b

/-- The database accepts a row of a control that no other row is about. -/
theorem admits_of_control {t : Table InternalControlVersion}
    (hother : ∀ (j : Id) r', t[j]? = some r' → j ≠ k → r'.controlId ≠ r.controlId)
    (hnone : r.supersededByVersionId = none) : constraints.Admits t k r := by
  constructor
  · rintro ⟨j, r'⟩ hmem hj
    rw [Std.ExtTreeMap.mem_toList_iff_getElem?_eq_some] at hmem
    simp only [constraints, decide_eq_false_iff_not]
    exact fun hp => hother j r' hmem hj (Eq.symm hp.1)
  · intro w hw
    have hw : r.supersededByVersionId = some w := Option.mem_toList.1 hw
    rw [hnone] at hw
    cases hw

/-- No row of a control apart from the others is there. -/
theorem not_bootstrapped (h : (bs ++ [b]).Pairwise Apart) :
    (∀ (j : Id) r, (bootstrapped bs)[j]? = some r → r.controlId ≠ b.draftedPayload.controlId) ∧
      b.versionId ∉ bootstrapped bs := by
  rw [List.pairwise_append] at h
  constructor
  · intro j r hr
    obtain ⟨b', hb', -, rfl⟩ := (get_bootstrapped h.1).1 hr
    exact (h.2.2 b' hb' b List.mem_cons_self).2
  · intro hmem
    obtain ⟨r, hr⟩ := Table.exists_get hmem
    obtain ⟨b', hb', hid, -⟩ := (get_bootstrapped h.1).1 hr
    exact (h.2.2 b' hb' b List.mem_cons_self).1 hid

/-- A bootstrap that is apart is inserted. -/
theorem insertVersion_eq (h : (bs ++ [b]).Pairwise Apart) :
    insertVersion (bootstrapped bs) b = .ok (bootstrapped (bs ++ [b])) := by
  obtain ⟨hcontrol, hid⟩ := not_bootstrapped h
  rw [bootstrapped_snoc]
  exact if_pos ⟨hid, admits_of_control (fun j r' hr' _ => hcontrol j r' hr') rfl⟩

/-! ## A replay of bootstraps -/

/-- The order in which bootstraps are replayed. -/
def BootstrapLe (b b' : Bootstrap) : Prop :=
  b.occurredAt < b'.occurredAt ∨ b.occurredAt = b'.occurredAt ∧ b.versionId ≤ b'.versionId

instance : DecidableRel BootstrapLe := fun _ _ => inferInstanceAs (Decidable (_ ∨ _))

instance : Std.Total BootstrapLe where
  total b b' := by
    unfold BootstrapLe
    grind

instance : IsTrans Bootstrap BootstrapLe where
  trans b₁ b₂ b₃ := by
    unfold BootstrapLe
    grind

/-- The events of a bootstrap, by their sequence numbers. -/
theorem mem_bootstrap_events {e : ControlDefinitionLifecycle.Event} (he : e ∈ b.events) :
    e.aggregate = b.versionId ∧ e.recordedAt = b.occurredAt ∧ e.idempotencyKey = none ∧
      (e.aggregateSequence = 1 ∧ e = b.drafted ∨
        e.aggregateSequence = 2 ∧ e = b.madeEffective) := by
  rcases List.mem_cons.1 he with rfl | he
  · exact ⟨rfl, rfl, rfl, .inl ⟨rfl, rfl⟩⟩
  · obtain rfl := List.mem_singleton.1 he
    exact ⟨rfl, rfl, rfl, .inr ⟨rfl, rfl⟩⟩

/-- Bootstraps that stand apart share no slot. -/
theorem eq_of_sameSlot {e e' : ControlDefinitionLifecycle.Event} (h : bs.Pairwise Apart)
    (hb : b ∈ bs) (hb' : b' ∈ bs) (he : e ∈ b.events) (he' : e' ∈ b'.events)
    (hslot : SameSlot e e') : e = e' := by
  obtain ⟨ha, -, -, hseq⟩ := mem_bootstrap_events he
  obtain ⟨ha', -, -, hseq'⟩ := mem_bootstrap_events he'
  obtain rfl : b = b' := by
    by_contra hne
    exact (h.forall hb hb' hne).1 (ha.symm.trans (hslot.1.trans ha'))
  rcases hseq with ⟨hs, rfl⟩ | ⟨hs, rfl⟩ <;> rcases hseq' with ⟨hs', rfl⟩ | ⟨hs', rfl⟩
  · rfl
  · exact absurd (hs.symm.trans (hslot.2.trans hs')) (by decide)
  · exact absurd (hs.symm.trans (hslot.2.trans hs')) (by decide)
  · rfl

/-- A replay takes the two events of a bootstrap one after the other. -/
theorem replayOrder_flatMap (h : bs.Pairwise Apart) :
    replayOrder (bs.flatMap Bootstrap.events) =
      (bs.insertionSort BootstrapLe).flatMap Bootstrap.events := by
  have hperm := List.perm_insertionSort BootstrapLe bs
  have hapart : (bs.insertionSort BootstrapLe).Pairwise Apart :=
    (hperm.pairwise_iff Apart.symm).2 h
  refine List.Perm.eq_of_pairwise ?_ (List.pairwise_insertionSort ReplayLe _) ?_
    ((List.perm_insertionSort _ _).trans (hperm.symm.flatMap_right _))
  · intro e e' he he' hle hge
    obtain ⟨b, hb, he⟩ := List.mem_flatMap.1 ((List.perm_insertionSort _ _).mem_iff.1 he)
    obtain ⟨b', hb', he'⟩ := List.mem_flatMap.1 he'
    exact eq_of_sameSlot h hb (hperm.mem_iff.1 hb') he he' (hle.sameSlot hge)
  · rw [List.pairwise_flatMap]
    refine ⟨fun b _ => ?_, ((List.pairwise_insertionSort BootstrapLe bs).and hapart).imp ?_⟩
    · exact List.pairwise_pair.2 (.inr ⟨rfl, .inr ⟨rfl, Nat.le_succ 1⟩⟩)
    · rintro b b' ⟨hle, hne, -⟩ e he e' he'
      obtain ⟨ha, hr, -⟩ := mem_bootstrap_events he
      obtain ⟨ha', hr', -⟩ := mem_bootstrap_events he'
      unfold ReplayLe
      rw [ha, hr, ha', hr']
      rcases hle with hlt | ⟨heq, hle⟩
      · exact .inl hlt
      · exact .inr ⟨heq, .inl (Nat.lt_of_le_of_ne hle hne)⟩

/-- The two events of a bootstrap insert its row. -/
theorem foldlM_project_events (h : (bs ++ [b]).Pairwise Apart) :
    b.events.foldlM ControlDefinitionLifecycle.project (Tracked.clean (bootstrapped bs)) =
      .ok (Tracked.clean (bootstrapped (bs ++ [b]))) := by
  obtain ⟨hcontrol, hid⟩ := not_bootstrapped h
  let drafted := ControlDefinitionLifecycle.draftedRow b.drafted b.draftedPayload
  have hdrafted : ControlDefinitionLifecycle.project (Tracked.clean (bootstrapped bs)) b.drafted =
      .ok (Tracked.clean ((bootstrapped bs).insert b.versionId drafted)) := by
    have hadmits : constraints.Admits (bootstrapped bs) b.versionId drafted :=
      admits_of_control (fun j r' hr' _ => hcontrol j r' hr') rfl
    have hflush := flush_set_clean hadmits
    have hnew : b.drafted.aggregate ∉ (Tracked.clean (bootstrapped bs)).current := hid
    show (if _ then _ else _ : Except PyError _).bind flush = _
    rw [if_neg hnew]
    exact hflush
  have hrow : ((bootstrapped bs).insert b.versionId drafted)[b.versionId]? = some drafted :=
    Table.get_insert_self
  have hadmits : constraints.Admits ((bootstrapped bs).insert b.versionId drafted) b.versionId
      b.row := by
    refine admits_of_control (fun j r' hr' hj => ?_) rfl
    rw [Table.get_insert_ne (Ne.symm hj)] at hr'
    exact hcontrol j r' hr'
  have hmade : ControlDefinitionLifecycle.project
      (Tracked.clean ((bootstrapped bs).insert b.versionId drafted)) b.madeEffective =
        .ok (Tracked.clean (bootstrapped (bs ++ [b]))) := by
    have hflush := flush_set_clean hadmits
    rw [Table.insert_insert, ← bootstrapped_snoc] at hflush
    show (VersionLifecycle.project _ _ _).bind flush = _
    have hproject : VersionLifecycle.project
        (Tracked.clean ((bootstrapped bs).insert b.versionId drafted)) b.madeEffective
          .madeEffective =
        .ok ((Tracked.clean ((bootstrapped bs).insert b.versionId drafted)).set b.versionId
          b.row) := by
      unfold VersionLifecycle.project
      split
      · next hnone => exact absurd (hnone.symm.trans hrow) (by simp)
      · next v hv =>
        obtain rfl := Option.some.inj (hrow.symm.trans hv)
        rfl
    rw [hproject]
    exact hflush
  rw [Bootstrap.events, List.foldlM_cons, hdrafted]
  show [b.madeEffective].foldlM ControlDefinitionLifecycle.project _ = _
  rw [List.foldlM_cons, hmade]
  rfl

/-- The events of bootstraps project to their rows. -/
theorem foldlM_project_flatMap (bs bs' : List Bootstrap) (h : (bs' ++ bs).Pairwise Apart) :
    (bs.flatMap Bootstrap.events).foldlM ControlDefinitionLifecycle.project
      (Tracked.clean (bootstrapped bs')) = .ok (Tracked.clean (bootstrapped (bs' ++ bs))) := by
  induction bs generalizing bs' with
  | nil => simp [pure, Except.pure]
  | cons b bs ih =>
    rw [List.append_cons] at h ⊢
    have hfirst : (bs' ++ [b]).Pairwise Apart := (List.pairwise_append.1 h).1
    rw [List.flatMap_cons, List.foldlM_append, foldlM_project_events hfirst]
    exact ih _ h

/-- A rebuild inserts the rows that the bootstraps inserted. -/
theorem rebuild_bootstrapped (rows : Tracked InternalControlVersion) (h : bs.Pairwise Apart) :
    rebuildInternalControlVersionProjection rows (bs.flatMap Bootstrap.events) =
      .ok (Tracked.clean (bootstrapped bs)) := by
  have hperm := List.perm_insertionSort BootstrapLe bs
  have hsorted : (bs.insertionSort BootstrapLe).Pairwise Apart :=
    (hperm.pairwise_iff Apart.symm).2 h
  have hreplay := foldlM_project_flatMap (bs.insertionSort BootstrapLe) [] hsorted
  have hrows : bootstrapped (bs.insertionSort BootstrapLe) = bootstrapped bs :=
    bootstrapped_congr hsorted h fun b => hperm.mem_iff
  rw [bootstrapped_nil, List.nil_append, hrows] at hreplay
  show ((replayOrder (bs.flatMap Bootstrap.events)).foldlM ControlDefinitionLifecycle.project
    (Tracked.clean ∅)).bind flush = _
  rw [replayOrder_flatMap h, hreplay]
  show flush (Tracked.clean (bootstrapped bs)) = _
  simp [flush]

/-! ## The backfill -/

/-- The bootstrap of a control: the recorded one, or a new one. -/
def bootstrapFor (existing : Id → Option Bootstrap) (newId : Id → Id) (control : Id × Control) :
    Bootstrap :=
  (existing control.1).getD (newBootstrap (newId control.1) control.1 control.2)

/-- The bootstraps of the controls that had none. -/
def newBootstraps (existing : Id → Option Bootstrap) (newId : Id → Id)
    (controls : List (Id × Control)) : List Bootstrap :=
  (controls.filter fun control => (existing control.1).isNone).map (bootstrapFor existing newId)

/-- A control without a version gets a bootstrap. -/
theorem mem_newBootstraps {existing : Id → Option Bootstrap} {cs : List (Id × Control)} :
    b ∈ newBootstraps existing newId cs ↔
      ∃ c ∈ cs, existing c.1 = none ∧ bootstrapFor existing newId c = b := by
  simp only [newBootstraps, List.mem_map, List.mem_filter, Option.isNone_iff_eq_none, and_assoc]

/-- The bootstrap of a control that has none gets through. -/
theorem backfillControl_new {existing : Id → Option Bootstrap} {control : Id × Control}
    (hnone : existing control.1 = none)
    (hb : b = newBootstrap (newId control.1) control.1 control.2)
    (hinsert : insertVersion (bootstrapped bs) b = .ok (bootstrapped (bs ++ [b])))
    (hnew : ∀ e ∈ events, e.aggregate ≠ b.versionId) :
    backfillControl existing newId (bootstrapped bs, events) control =
      .ok (bootstrapped (bs ++ [b]), events ++ b.events) := by
  have hdrafted : insertEvent events b.drafted = .ok (events ++ [b.drafted]) :=
    insertEvent_eq rfl fun e he hslot => hnew e he hslot.1
  have hmade : insertEvent (events ++ [b.drafted]) b.madeEffective =
      .ok (events ++ [b.drafted] ++ [b.madeEffective]) := by
    refine insertEvent_eq rfl fun e he hslot => ?_
    rcases List.mem_append.1 he with he | he
    · exact hnew e he hslot.1
    · -- the first event of the version, under the number 1
      obtain rfl := List.mem_singleton.1 he
      exact absurd hslot.2 (Nat.ne_of_lt Nat.one_lt_two)
  unfold backfillControl
  simp only [hnone, ← hb, hdrafted, hmade, hinsert, Except.bind, Except.map]
  rw [List.append_assoc]
  rfl

/-- The rounds of the backfill, one after another. -/
theorem foldlM_backfillControl (existing : Id → Option Bootstrap) (newId : Id → Id)
    (controls : List (Id × Control)) (bs : List Bootstrap)
    (events : List ControlDefinitionLifecycle.Event)
    (hapart : (bs ++ controls.map (bootstrapFor existing newId)).Pairwise Apart)
    (hfresh : ∀ b ∈ newBootstraps existing newId controls, ∀ e ∈ events,
      e.aggregate ≠ b.versionId) :
    controls.foldlM (backfillControl existing newId) (bootstrapped bs, events) =
      .ok (bootstrapped (bs ++ controls.map (bootstrapFor existing newId)),
        events ++ (newBootstraps existing newId controls).flatMap Bootstrap.events) := by
  -- Over the controls: one that has its draft logs nothing.
  induction controls generalizing bs events with
  | nil => simp [newBootstraps, pure, Except.pure]
  | cons control controls ih =>
    rw [List.map_cons, List.append_cons] at hapart
    have hinsert := insertVersion_eq (List.pairwise_append.1 hapart).1
    rw [List.foldlM_cons, List.map_cons, List.append_cons]
    cases hexisting : existing control.1 with
    | some b =>
      have hfor : bootstrapFor existing newId control = b := by simp [bootstrapFor, hexisting]
      rw [hfor] at hinsert hapart ⊢
      have hround : backfillControl existing newId (bootstrapped bs, events) control =
          .ok (bootstrapped (bs ++ [b]), events) := by
        simp only [backfillControl, hexisting, hinsert, Except.map]
      have hnew : newBootstraps existing newId (control :: controls) =
          newBootstraps existing newId controls := by simp [newBootstraps, hexisting]
      rw [hnew] at hfresh ⊢
      rw [hround]
      exact ih _ _ hapart hfresh
    | none =>
      have hfor : bootstrapFor existing newId control =
          newBootstrap (newId control.1) control.1 control.2 := by simp [bootstrapFor, hexisting]
      have hnew : newBootstraps existing newId (control :: controls) =
          bootstrapFor existing newId control :: newBootstraps existing newId controls := by
        simp [newBootstraps, hexisting]
      rw [hnew, List.forall_mem_cons] at hfresh
      have hround := backfillControl_new hexisting hfor hinsert hfresh.1
      rw [hround, hnew, List.flatMap_cons, ← List.append_assoc]
      refine ih _ _ hapart fun b hb e he => ?_
      rcases List.mem_append.1 he with he | he
      · exact hfresh.2 b hb e he
      · obtain ⟨c, hc, -, rfl⟩ := mem_newBootstraps.1 hb
        rw [(mem_bootstrap_events he).1]
        exact ((List.pairwise_append.1 hapart).2.2 _ (by simp) _ (List.mem_map_of_mem hc)).1

/-! ## Logs that can be recovered from -/

/-- The log holds nothing but the two events of one bootstrap each, for some of the
    controls. -/
def BootstrapsOnly (controls : Table Control) (events : List ControlDefinitionLifecycle.Event) :
    Prop :=
  events = (recordedBootstraps events).flatMap Bootstrap.events ∧
    ((recordedBootstraps events).map fun b => b.draftedPayload.controlId).Nodup ∧
    ∀ b ∈ recordedBootstraps events, b.draftedPayload.controlId ∈ controls

/-- The ids that are drawn are new and differ. -/
def FreshIds (controls : Table Control) (newId : Id → Id)
    (events : List ControlDefinitionLifecycle.Event) : Prop :=
  (controls.toList.map fun c => newId c.1).Nodup ∧
    ∀ c ∈ controls.toList, ∀ e ∈ events, e.aggregate ≠ newId c.1

instance : Decidable (BootstrapsOnly controls events) := inferInstanceAs (Decidable (_ ∧ _))

instance : Decidable (FreshIds controls newId events) := inferInstanceAs (Decidable (_ ∧ _))

/-- The bootstraps of all controls. -/
def allBootstraps (controls : Table Control) (newId : Id → Id)
    (events : List ControlDefinitionLifecycle.Event) : List Bootstrap :=
  controls.toList.map (bootstrapFor (existingDrafted events) newId)

/-- The bootstraps of the log after the backfill. -/
def loggedBootstraps (controls : Table Control) (newId : Id → Id)
    (events : List ControlDefinitionLifecycle.Event) : List Bootstrap :=
  recordedBootstraps events ++ newBootstraps (existingDrafted events) newId controls.toList

/-- The draft found is the one recorded of the control. -/
theorem existingDrafted_eq_some
    (h : ((recordedBootstraps events).map fun b => b.draftedPayload.controlId).Nodup) :
    existingDrafted events k = some b ↔
      b ∈ recordedBootstraps events ∧ b.draftedPayload.controlId = k := by
  constructor
  · intro hb
    exact ⟨List.mem_reverse.1 (List.mem_of_find?_eq_some hb), by simpa using List.find?_some hb⟩
  · rintro ⟨hb, rfl⟩
    rw [existingDrafted, ← List.head?_filter, List.filter_reverse,
      List.filter_key_eq_singleton (List.pairwise_map.1 h) hb]
    rfl

/-- The recorded bootstraps are of different versions: their `Drafted` events share no slot. -/
theorem BootstrapsOnly.recorded_apart (h : BootstrapsOnly controls events)
    (hwf : WellFormed events) : (recordedBootstraps events).Pairwise Apart := by
  have hslots := hwf.not_sameSlot
  rw [h.1, List.pairwise_flatMap] at hslots
  refine hslots.2.imp₂ (fun b b' hslot hcontrol => ⟨fun hid => ?_, hcontrol⟩)
    (List.pairwise_map.1 h.2.1)
  exact hslot b.drafted List.mem_cons_self b'.drafted List.mem_cons_self ⟨hid, rfl⟩

/-- A recorded version has an event in the log. -/
theorem BootstrapsOnly.mem_events (h : BootstrapsOnly controls events)
    (hb : b ∈ recordedBootstraps events) : b.drafted ∈ events := by
  rw [h.1]
  exact List.mem_flatMap.2 ⟨b, hb, List.mem_cons_self⟩

/-- A table of versions that is to be created again, and a log from which it can be. -/
structure Recoverable (controls : Table Control) (newId : Id → Id)
    (events : List ControlDefinitionLifecycle.Event) : Prop where
  wellFormed : WellFormed events
  only : BootstrapsOnly controls events
  fresh : FreshIds controls newId events

namespace Recoverable

variable (h : Recoverable controls newId events)
include h

/-- The bootstrap of a control is of the control. -/
theorem bootstrapFor_control {c : Id × Control} :
    (bootstrapFor (existingDrafted events) newId c).draftedPayload.controlId = c.1 := by
  unfold bootstrapFor
  cases hexisting : existingDrafted events c.1 with
  | none => rfl
  | some b => exact ((existingDrafted_eq_some h.only.2.1).1 hexisting).2

/-- A bootstrap is recorded, or has an id that was drawn. -/
theorem bootstrapFor_cases (c : Id × Control) :
    bootstrapFor (existingDrafted events) newId c ∈ recordedBootstraps events ∨
      (bootstrapFor (existingDrafted events) newId c).versionId = newId c.1 := by
  unfold bootstrapFor
  cases hexisting : existingDrafted events c.1 with
  | none => exact .inr rfl
  | some b => exact .inl ((existingDrafted_eq_some h.only.2.1).1 hexisting).1

/-- No recorded version has an id that was drawn. -/
theorem versionId_ne (hb : b ∈ recordedBootstraps events) {c : Id × Control}
    (hc : c ∈ controls.toList) : b.versionId ≠ newId c.1 :=
  h.fresh.2 c hc b.drafted (h.only.mem_events hb)

/-- The bootstraps of different controls stand apart. -/
theorem all_apart : (allBootstraps controls newId events).Pairwise Apart := by
  have hkeys := Table.toList_keys_lt controls
  have hids := List.pairwise_map.1 h.fresh.1
  refine List.pairwise_map.2 ((hkeys.and hids).imp_of_mem ?_)
  rintro c c' hc hc' ⟨hlt, hid⟩
  have hcontrol : (bootstrapFor (existingDrafted events) newId c).draftedPayload.controlId ≠
      (bootstrapFor (existingDrafted events) newId c').draftedPayload.controlId := by
    rw [h.bootstrapFor_control, h.bootstrapFor_control]
    exact Nat.ne_of_lt hlt
  refine ⟨?_, hcontrol⟩
  -- Recorded bootstraps are apart, and new identifiers are new.
  rcases h.bootstrapFor_cases c with hold | hnew <;>
    rcases h.bootstrapFor_cases c' with hold' | hnew'
  · have hne : bootstrapFor (existingDrafted events) newId c ≠
        bootstrapFor (existingDrafted events) newId c' := fun heq => hcontrol (by rw [heq])
    exact ((h.only.recorded_apart h.wellFormed).forall hold hold' hne).1
  · rw [hnew']
    exact h.versionId_ne hold hc'
  · rw [hnew]
    exact (h.versionId_ne hold' hc).symm
  · rw [hnew, hnew']
    exact hid

/-- The log after the backfill records the bootstraps of all controls. -/
theorem mem_logged : b ∈ loggedBootstraps controls newId events ↔
    b ∈ allBootstraps controls newId events := by
  rw [loggedBootstraps, List.mem_append, mem_newBootstraps, allBootstraps, List.mem_map]
  constructor
  · rintro (hb | ⟨c, hc, -, rfl⟩)
    · obtain ⟨control, hcontrol⟩ := Table.exists_get (h.only.2.2 b hb)
      refine ⟨(b.draftedPayload.controlId, control),
        Std.ExtTreeMap.mem_toList_iff_getElem?_eq_some.2 hcontrol, ?_⟩
      rw [bootstrapFor, (existingDrafted_eq_some h.only.2.1).2 ⟨hb, rfl⟩, Option.getD_some]
    · exact ⟨c, hc, rfl⟩
  · rintro ⟨c, hc, rfl⟩
    -- A bootstrap is recorded already, or is logged now.
    cases hexisting : existingDrafted events c.1 with
    | none => exact .inr ⟨c, hc, hexisting, rfl⟩
    | some b =>
      rw [bootstrapFor, hexisting, Option.getD_some]
      exact .inl ((existingDrafted_eq_some h.only.2.1).1 hexisting).1

/-- The bootstraps logged are apart. -/
theorem logged_apart : (loggedBootstraps controls newId events).Pairwise Apart := by
  have hnew : (newBootstraps (existingDrafted events) newId controls.toList).Sublist
      (allBootstraps controls newId events) := List.filter_sublist.map _
  refine List.pairwise_append.2 ⟨h.only.recorded_apart h.wellFormed, h.all_apart.sublist hnew, ?_⟩
  intro b hb b' hb'
  refine h.all_apart.forall (h.mem_logged.1 (List.mem_append_left _ hb)) (hnew.subset hb') ?_
  -- the control of a new bootstrap had none
  rintro rfl
  obtain ⟨c, -, hnone, rfl⟩ := mem_newBootstraps.1 hb'
  have hsome := (existingDrafted_eq_some h.only.2.1).2 ⟨hb, rfl⟩
  rw [h.bootstrapFor_control, hnone] at hsome
  cases hsome

/-- The backfill raises nothing. -/
theorem backfill_eq : backfillInitialEffectiveVersions controls newId events =
    .ok (bootstrapped (allBootstraps controls newId events),
      (loggedBootstraps controls newId events).flatMap Bootstrap.events) := by
  have hfold := foldlM_backfillControl (existingDrafted events) newId controls.toList [] events
    h.all_apart fun b hb e he => ?_
  · rw [List.nil_append] at hfold
    rw [loggedBootstraps, List.flatMap_append, ← h.only.1]
    exact hfold
  · obtain ⟨c, hc, hnone, rfl⟩ := mem_newBootstraps.1 hb
    rw [bootstrapFor, hnone, Option.getD_none]
    exact h.fresh.2 c hc e he

/-- A rebuild changes nothing. -/
theorem rebuild_eq : rebuildInternalControlVersionProjection
      (Tracked.clean (bootstrapped (allBootstraps controls newId events)))
      ((loggedBootstraps controls newId events).flatMap Bootstrap.events) =
    .ok (Tracked.clean (bootstrapped (allBootstraps controls newId events))) := by
  rw [rebuild_bootstrapped _ h.logged_apart,
    bootstrapped_congr h.logged_apart h.all_apart fun b => h.mem_logged]

end Recoverable

/-- The events of a version are those of its bootstrap. -/
theorem ofAggregate_flatMap (bs : List Bootstrap) (k : Id) :
    ofAggregate (bs.flatMap Bootstrap.events) k =
      (bs.filter fun b => b.versionId = k).flatMap Bootstrap.events := by
  induction bs with
  | nil => rfl
  | cons b bs ih =>
    rw [List.flatMap_cons, ofAggregate_append, ih]
    by_cases hk : b.versionId = k
    · have hall : ofAggregate b.events k = b.events :=
        List.filter_eq_self.2 fun e he => by simpa [(mem_bootstrap_events he).1] using hk
      rw [hall, List.filter_cons_of_pos (by simpa using hk), List.flatMap_cons]
    · have hnone : ofAggregate b.events k = [] :=
        List.filter_eq_nil_iff.2 fun e he => by simpa [(mem_bootstrap_events he).1] using hk
      rw [hnone, List.nil_append, List.filter_cons_of_neg (by simpa using hk)]

/-- The events of bootstraps that stand apart carry the numbers 1 and 2 of their versions. -/
theorem wellFormed_flatMap (h : bs.Pairwise Apart) :
    WellFormed (bs.flatMap Bootstrap.events) where
  sequences := by
    intro k
    rw [ofAggregate_flatMap]
    -- A version has the events of its bootstrap, or none.
    by_cases hk : ∃ b ∈ bs, b.versionId = k
    · obtain ⟨b, hb, rfl⟩ := hk
      rw [List.filter_key_eq_singleton (h.imp fun {_ _} hapart => hapart.1) hb]
      rfl
    · have hnone : (bs.filter fun b => b.versionId = k) = [] :=
        List.filter_eq_nil_iff.2 fun b hb => by simpa using fun heq => hk ⟨b, hb, heq⟩
      rw [hnone]
      rfl
  keys := by
    refine List.pairwise_of_forall_mem_list fun e he e' _ hsame => hsame.1 ?_
    obtain ⟨b, -, he⟩ := List.mem_flatMap.1 he
    exact (mem_bootstrap_events he).2.2.1

end MiniGrc.Migrations
