import MiniGrc.App.LoadedVersions
import MiniGrc.Spec.ControlDefinitionLifecycle

/-!
# Promotion over a loaded collection

`make_version_effective` looks for the previous effective version among the loaded members
of `control.versions`. A draft reloads the collection and then adds a row that does not
enter it, so the newest version of a control may be missing from it.

The reload may lose the last change of a version, whose event stays in the log. So the rows are
not those of the log of the session, but those of another one, over which the commands end alike.

## Key results

- `unseen_is_newest`: a version that the loaded collection lacks is the control's newest
- `makeVersionEffective_iff`: in every state of the session, making an approved version
  effective works exactly if the collection does not lack the effective one
-/

namespace MiniGrc.ControlDefinitionLifecycle

open Events VersionLifecycle

variable {clock : Clock} {t t' : ControlSession} {s s' : LoadedSession} {id controlId : Id}
  {actor : Actor} {v : InternalControlVersion}

namespace LoadedSession

/-! ## What promotion is for -/

/-- The effective version of the control, if any, is in its collection, or that is not
    loaded. -/
def SeesEffective (s : LoadedSession) (controlId : Id) : Prop :=
  ∀ ids, s.loaded[controlId]? = some ids → ∀ (k : Id) v, s.session.rows.current[k]? = some v →
    v.controlId = controlId → status v = .effective → k ∈ ids

/-- Of the versions of the control exactly `id` is effective, and what was effective before is
    superseded by it. -/
structure Promoted (s s' : LoadedSession) (id controlId : Id) : Prop where
  present : ∃ v, s'.session.rows.current[id]? = some v ∧ v.controlId = controlId
  effective : ∀ (k : Id) v, s'.session.rows.current[k]? = some v → v.controlId = controlId →
    (status v = .effective ↔ k = id)
  superseded : ∀ (k : Id) v, s.session.rows.current[k]? = some v → v.controlId = controlId →
    status v = .effective → ∃ v', s'.session.rows.current[k]? = some v' ∧
      status v' = .superseded ∧ v'.supersededByVersionId = some id
  /-- and the database accepts what is held back -/
  settled : Settled projection s'.session

/-- `make_version_effective` returns, and does what it is for. -/
def Promotes (clock : Clock) (s : LoadedSession) (id controlId : Id) (actor : Actor) : Prop :=
  ∃ s', s.makeVersionEffective clock id actor = .returned s' ∧ Promoted s s' id controlId

/-! ## The versions of a session -/

/-- The versions of `t` are those of `t'`, whatever their columns. -/
def SameVersions (t t' : ControlSession) : Prop :=
  ∀ (k : Id), (t'.rows.current[k]?.map fun v => v.toDraft) =
    t.rows.current[k]?.map fun v => v.toDraft

theorem SameVersions.trans {t'' : ControlSession} (h : SameVersions t t')
    (h' : SameVersions t' t'') : SameVersions t t'' := fun k => (h' k).trans (h k)

theorem SameVersions.symm (h : SameVersions t t') : SameVersions t' t := fun k => (h k).symm

/-- A version of the one is a version of the other, with the same draft. -/
theorem SameVersions.get (h : SameVersions t t') {k : Id} (hv : t.rows.current[k]? = some v) :
    ∃ v', t'.rows.current[k]? = some v' ∧ v'.toDraft = v.toDraft := by
  have hk := h k
  rw [hv, Option.map_some, Option.map_eq_some_iff] at hk
  exact hk

/-- An event of a version leaves the versions as they are. -/
theorem sameVersions_of_appended {b : LifecycleEvent} {occurredAt : Option Time}
    (h : AppendedOne projection clock id actor b occurredAt t t') : SameVersions t t' := by
  obtain ⟨v, hv, -, hcur⟩ := h.1.rows
  intro k
  rw [hcur, Table.get_insert]
  split
  · next hk =>
    subst hk
    rw [hv]
    rfl
  · rfl

/-- Promoting a version changes statuses, not versions. -/
theorem sameVersions_of_madeEffective (h : MadeEffective projection clock id actor t t') :
    SameVersions t t' := by
  cases h with
  | first happ => exact sameVersions_of_appended happ
  | successor _ _ _ hsup heff =>
    exact (sameVersions_of_appended hsup).trans (sameVersions_of_appended heff)

/-! ## The loaded members -/

/-- What a session has loaded of a control: versions of the control, and all but its newest
    at the most. -/
structure Members (t : ControlSession) (controlId : Id) (ids : List Id) : Prop where
  known : ∀ k ∈ ids, ∃ v, t.rows.current[k]? = some v ∧ v.controlId = controlId
  unseen : ∀ (k : Id) v, t.rows.current[k]? = some v → v.controlId = controlId → k ∉ ids →
    ∀ (k' : Id) v', t.rows.current[k']? = some v' → v'.controlId = controlId →
      v'.versionNumber ≤ v.versionNumber

/-- A loaded collection stays right while the versions are the same. -/
theorem Members.of_sameVersions {ids : List Id} (h : Members t controlId ids)
    (hsame : SameVersions t t') : Members t' controlId ids where
  known k hk := by
    obtain ⟨v, hv, hp⟩ := h.known k hk
    obtain ⟨v', hv', hdraft⟩ := hsame.get hv
    exact ⟨v', hv', by rw [hdraft, hp]⟩
  unseen k v hv hp hk k' v' hv' hp' := by
    obtain ⟨u, hu, hdraft⟩ := hsame.symm.get hv
    obtain ⟨u', hu', hdraft'⟩ := hsame.symm.get hv'
    rw [← hdraft, ← hdraft']
    exact h.unseen k u hu (by rw [hdraft, hp]) hk k' u' hu' (by rw [hdraft', hp'])

/-- A collection that has just been loaded lacks no version. -/
theorem members_load (t : ControlSession) (controlId : Id) :
    Members t controlId ((versionsOf t controlId).map Prod.fst) where
  known k hk := by
    obtain ⟨x, hx, rfl⟩ := List.mem_map.1 hk
    exact ⟨x.2, mem_versionsOf.1 hx⟩
  unseen k v hv hp hk := by
    exact absurd (List.mem_map.2 ⟨(k, v), mem_versionsOf.2 ⟨hv, hp⟩, rfl⟩) hk

/-- A new version of the control is newer than all others and is the one that the collection
    lacks; new versions of other controls do not matter. -/
theorem Members.insert {ids : List Id} {u : InternalControlVersion} (h : Members t controlId ids)
    (hid : id ∉ t.rows.current) (hcur : t'.rows.current = t.rows.current.insert id u)
    (hall : u.controlId = controlId → ∀ (k : Id) v, t.rows.current[k]? = some v →
      v.controlId = controlId → k ∈ ids ∧ v.versionNumber ≤ u.versionNumber) :
    Members t' controlId ids where
  -- The new version is the one the collection gains; the others keep their numbers.
  known k hk := by
    obtain ⟨v, hv, hp⟩ := h.known k hk
    have hne : id ≠ k := by
      rintro rfl
      exact hid (Table.mem_of_get hv)
    exact ⟨v, by rw [hcur, Table.get_insert_ne hne, hv], hp⟩
  unseen k v hv hp hk k' v' hv' hp' := by
    rw [hcur, Table.get_insert] at hv hv'
    split at hv
    · obtain rfl := Option.some.inj hv
      split at hv'
      · obtain rfl := Option.some.inj hv'
        exact le_rfl
      · exact (hall hp k' v' hv' hp').2
    · split at hv'
      · obtain rfl := Option.some.inj hv'
        exact absurd (hall hp' k v hv hp).1 hk
      · exact h.unseen k v hv hp hk k' v' hv' hp'

/-! ## The invariant -/

/-- The rows are those that the projectors make of some log. -/
def Projected (clock : Clock) (rows : Tracked InternalControlVersion) (ticks : Nat) : Prop :=
  ∃ events, Within clock ⟨rows, events, ticks⟩

/-- The passing of time does not matter. -/
theorem Projected.wait {rows : Tracked InternalControlVersion} {ticks ticks' : Nat}
    (h : Projected clock rows ticks) (ht : ticks ≤ ticks') : Projected clock rows ticks' := by
  obtain ⟨events, h⟩ := h
  exact ⟨events, ⟨h.session.settled, h.session.inv, h.session.logged.wait ht⟩, h.drafted⟩

/-- What is flushed is still what the log projects to. -/
theorem Projected.flushed {rows : Tracked InternalControlVersion} {ticks : Nat}
    (h : Projected clock rows ticks) : Projected clock (Tracked.clean rows.current) ticks := by
  obtain ⟨events, h⟩ := h
  exact ⟨events, h.session.flushed lawful, h.drafted⟩

/-- The rows satisfy the constraints of the table. -/
theorem Projected.oneEffective {rows : Tracked InternalControlVersion} {ticks : Nat}
    (h : Projected clock rows ticks) {k k' : Id} {v v' : InternalControlVersion}
    (hv : rows.current[k]? = some v) (hv' : rows.current[k']? = some v')
    (hp : v.controlId = v'.controlId) (hst : status v = .effective)
    (hst' : status v' = .effective) : k = k' := by
  obtain ⟨events, h⟩ := h
  exact h.session.inv.oneEffective k k' v v' hv hv' hp hst hst'

/-- A session whose rows are projected has nothing half done. -/
theorem Projected.settled (h : Projected clock t.rows t.ticks) : Settled projection t := by
  obtain ⟨events, h⟩ := h
  exact h.session.settled

/-- The change of at most one version is held back, and it does not make the version
    effective. -/
def Pending (rows : Tracked InternalControlVersion) : Prop :=
  ∃ k, rows.PendingAt k ∧ ∀ v, rows.current[k]? = some v →
    ∃ w, rows.stored[k]? = some w ∧ w.toDraft = v.toDraft ∧ (status v = .effective → w = v)

/-- After a flush nothing is pending. -/
theorem pending_clean (t : Table InternalControlVersion) : Pending (Tracked.clean t) :=
  ⟨0, Tracked.pendingAt_clean t 0, fun v hv => ⟨v, hv, rfl, fun _ => rfl⟩⟩

/-- One version held back is all that a lifecycle command leaves pending. -/
theorem pending_of_oneHeld (h : OneHeld t t') : Pending t'.rows := by
  obtain ⟨k, v, w, hv, hrows, hdraft, hst⟩ := h
  rw [hrows]
  refine ⟨k, Tracked.pendingAt_set (Table.mem_of_get hv) w, fun u hu => ⟨v, hv, ?_, ?_⟩⟩
  · rw [Tracked.set_current, Tracked.clean_current, Table.get_insert_self] at hu
    obtain rfl := Option.some.inj hu
    exact hdraft.symm
  · rw [Tracked.set_current, Tracked.clean_current, Table.get_insert_self] at hu
    obtain rfl := Option.some.inj hu
    exact fun heff => absurd heff hst

/-- Where a change is lost, the version stays. -/
theorem Pending.sameVersions (h : Pending t.rows) :
    SameVersions t { t with rows := Tracked.clean t.rows.stored } := by
  obtain ⟨k, hpending, hrow⟩ := h
  intro j
  show (t.rows.stored[j]?.map fun v => v.toDraft) = _
  -- Only the version held back differs, in columns that no draft has.
  by_cases hj : j = k
  · subst hj
    cases hv : t.rows.current[j]? with
    | none =>
      have hnot : j ∉ t.rows.stored := fun hs => by
        obtain ⟨r, hr⟩ := Table.exists_get (t.rows.keeps j hs)
        rw [hv] at hr
        cases hr
      rw [Std.ExtTreeMap.getElem?_eq_none hnot]
    | some v =>
      obtain ⟨w, hw, hdraft, -⟩ := hrow v hv
      rw [hw, Option.map_some, Option.map_some, hdraft]
  · rw [hpending.others j hj]

/-- What holds of a session of the application. -/
structure Inv (clock : Clock) (s : LoadedSession) : Prop where
  current : Projected clock s.session.rows s.session.ticks
  stored : Projected clock (Tracked.clean s.session.rows.stored) s.session.ticks
  committed : Projected clock (Tracked.clean s.committed.1) s.session.ticks
  pending : Pending s.session.rows
  members : ∀ (c : Id) ids, s.loaded[c]? = some ids → Members s.session c ids

/-- Nothing is loaded in a new session. -/
theorem inv_initial : Inv clock initial where
  current := ⟨[], between_initial.toWithin⟩
  stored := ⟨[], between_initial.toWithin⟩
  committed := ⟨[], between_initial.toWithin⟩
  pending := pending_clean ∅
  members c ids h := by simp [initial] at h

/-- A rollback leaves a session with nothing loaded. -/
theorem Inv.rollback (h : Inv clock s) : Inv clock s.rollback where
  current := h.committed
  stored := h.committed
  committed := h.committed
  pending := pending_clean _
  members c ids h := by simp [LoadedSession.rollback] at h

/-- What leaves the versions as they are keeps the invariant, if the rows are those of a log and
    so are the stored ones. -/
theorem Inv.of_sameVersions (h : Inv clock s) (hcurrent : Projected clock t.rows t.ticks)
    (hstored : Projected clock (Tracked.clean t.rows.stored) t.ticks) (hpending : Pending t.rows)
    (hticks : s.session.ticks ≤ t.ticks) (hsame : SameVersions s.session t) :
    Inv clock { s with session := t } where
  current := hcurrent
  stored := hstored
  committed := h.committed.wait hticks
  pending := hpending
  members c ids hc := (h.members c ids hc).of_sameVersions hsame

/-- The same where nothing is held back. -/
theorem Inv.of_clean (h : Inv clock s) (hcurrent : Projected clock t.rows t.ticks)
    (hclean : t.rows = Tracked.clean t.rows.current) (hticks : s.session.ticks ≤ t.ticks)
    (hsame : SameVersions s.session t) : Inv clock { s with session := t } := by
  refine h.of_sameVersions hcurrent ?_ ?_ hticks hsame
  · rw [hclean] at hcurrent ⊢
    exact hcurrent
  · rw [hclean]
    exact pending_clean _

/-- The log and the passing of time do not matter. -/
theorem Inv.of_rows (h : Inv clock s) (hrows : t.rows = s.session.rows)
    (hticks : s.session.ticks ≤ t.ticks) : Inv clock { s with session := t } := by
  refine h.of_sameVersions ?_ ?_ ?_ hticks ?_
  · rw [hrows]
    exact h.current.wait hticks
  · rw [hrows]
    exact h.stored.wait hticks
  · rw [hrows]
    exact h.pending
  · intro k
    rw [hrows]

/-! ## Refresh and load -/

/-- A refresh leaves the rows as they are, or loses the change that is held back. -/
theorem Inv.refresh_rows (h : Inv clock s) (controlId : Id) :
    (s.refresh controlId).session.rows = s.session.rows ∨
      (s.refresh controlId).session.rows = Tracked.clean s.session.rows.stored := by
  obtain ⟨k, hpending, -⟩ := h.pending
  show s.session.rows.expire _ = _ ∨ s.session.rows.expire _ = _
  rw [Tracked.expire_of_pendingAt hpending]
  split
  · exact .inr rfl
  · exact .inl rfl

/-- A refresh drops the loaded collection of its control, and what it had pending. -/
theorem Inv.refresh (h : Inv clock s) (controlId : Id) : Inv clock (s.refresh controlId) := by
  have hsession : Inv clock { s with session := (s.refresh controlId).session } := by
    -- The refresh loses a pending update of one of its control's versions, or nothing.
    rcases h.refresh_rows controlId with hrows | hrows
    · exact h.of_rows hrows le_rfl
    · refine h.of_clean ?_ ?_ le_rfl ?_
      · rw [hrows]
        exact h.stored
      · rw [hrows, Tracked.clean_current]
      · have hsame := h.pending.sameVersions
        intro k
        rw [hrows]
        exact hsame k
  refine ⟨hsession.current, hsession.stored, hsession.committed, hsession.pending,
    fun c ids hc => ?_⟩
  simp only [LoadedSession.refresh, Std.ExtTreeMap.getElem?_erase] at hc
  split at hc
  · cases hc
  · exact hsession.members c ids hc

/-- Loading a collection shows the rows that are stored. -/
theorem Inv.load (h : Inv clock s) (controlId : Id) : Inv clock (s.load controlId) := by
  unfold LoadedSession.load
  split
  · exact h
  · refine ⟨h.current, h.stored, h.committed, h.pending, fun c ids hc => ?_⟩
    rcases Table.of_get_insert hc with ⟨rfl, rfl⟩ | hc
    · exact members_load ..
    · exact h.members c ids hc

/-- Loading writes nothing. -/
@[simp] theorem load_session (s : LoadedSession) (controlId : Id) :
    (s.load controlId).session = s.session := by
  unfold LoadedSession.load
  split <;> rfl

/-- Loading commits nothing. -/
@[simp] theorem load_committed (s : LoadedSession) (controlId : Id) :
    (s.load controlId).committed = s.committed := by
  unfold LoadedSession.load
  split <;> rfl

/-- A refresh, then a load: the collection is the stored one. -/
theorem Inv.reload (h : Inv clock s) (controlId : Id) : Inv clock (s.reload controlId) :=
  (h.refresh controlId).load controlId

/-- Reloading changes the session as the refresh does. -/
theorem reload_session (s : LoadedSession) (controlId : Id) :
    (s.reload controlId).session = (s.refresh controlId).session :=
  load_session ..

/-- Reloading commits nothing. -/
@[simp] theorem reload_committed (s : LoadedSession) (controlId : Id) :
    (s.reload controlId).committed = s.committed :=
  load_committed ..

/-- After a reload the collection of the control holds all of its versions. -/
theorem loaded_reload (s : LoadedSession) (controlId c : Id) :
    (s.reload controlId).loaded[c]? =
      if controlId = c then
        some ((versionsOf (s.reload controlId).session controlId).map Prod.fst)
      else s.loaded[c]? := by
  have hnot : controlId ∉ (s.refresh controlId).loaded := by simp [LoadedSession.refresh]
  rw [reload_session, LoadedSession.reload, LoadedSession.load, if_neg hnot, Table.get_insert]
  split
  · rfl
  · next hne => simp [LoadedSession.refresh, Std.ExtTreeMap.getElem?_erase, hne]

/-! ## What is logged -/

/-- The versions that a session sees, and its log. -/
def versionsAndLog (t : ControlSession) : Table InternalControlVersion × List Event :=
  (t.rows.current, t.events)

/-- An event is logged, and its version is changed or added. -/
inductive Logs : Table InternalControlVersion × List Event →
    Table InternalControlVersion × List Event → Prop
  | lifecycle {rows : Table InternalControlVersion} {log : List Event} {e : Event}
      {b : LifecycleEvent} {v : InternalControlVersion} (occurredAt : Time)
      (actorId : Option String) (hbody : e.body = .lifecycle b) (hv : rows[e.aggregate]? = some v) :
      Logs (rows, log)
        (rows.insert e.aggregate (applyTo v b occurredAt actorId), log ++ [e])
  /-- under a new id, with the next number of its control -/
  | drafted {rows : Table InternalControlVersion} {log : List Event} {e : Event} {d : Draft}
      {row : InternalControlVersion} (hbody : e.body = .drafted d) (hid : e.aggregate ∉ rows)
      (hdraft : row.toDraft = d) (hstatus : status row = .draft)
      (hnumber : d.versionNumber = nextVersionNumber ⟨Tracked.clean rows, log, 0⟩ d.controlId) :
      Logs (rows, log) (rows.insert e.aggregate row, log ++ [e])

/-- The session on which a command works. -/
def before (s : LoadedSession) : Command → LoadedSession
  | .draft _ control _ _ => s.reload control.id
  | _ => s

/-- How a command leaves the session if the database has refused nothing. -/
structure Ran (clock : Clock) (c : Command) (s s' : LoadedSession) : Prop where
  inv : Inv clock s'
  committed : s'.committed = s.committed
  logs : Relation.ReflTransGen Logs (versionsAndLog (s.before c).session)
    (versionsAndLog s'.session)

/-- One event of a version, over the rows of the session and some log. -/
theorem logs_of_appended {u u' : ControlSession} {e : Event} {b : LifecycleEvent}
    {occurredAt : Option Time} (hrows : t.rows = u.rows) (hrows' : t'.rows = u'.rows)
    (happ : AppendedOne projection clock id actor b occurredAt u u')
    (hevents : t'.events = t.events ++ [e]) (haggregate : e.aggregate = id)
    (hbody : e.body = .lifecycle b) : Logs (versionsAndLog t) (versionsAndLog t') := by
  obtain ⟨v, hv, -, hcur⟩ := happ.1.rows
  subst haggregate
  have hstep : Logs (u.rows.current, t.events) _ :=
    .lifecycle (occurredAt.getD (clock.reading u.ticks)) actor.actorId hbody hv
  unfold versionsAndLog
  rw [hrows', hcur, hevents, hrows]
  exact hstep

/-- The events of a promotion, over the rows of the session and some log. -/
theorem logs_of_madeEffective {u u' : ControlSession} (hrows : t.rows = u.rows)
    (h : Alike t u t' u') (hm : MadeEffective projection clock id actor u u') :
    Relation.ReflTransGen Logs (versionsAndLog t) (versionsAndLog t') := by
  cases hm with
  | first happ =>
    obtain ⟨e, hevents, haggregate, hbody⟩ := h.added_one happ.1.events
    exact .single (logs_of_appended hrows h.rows happ hevents haggregate hbody)
  | successor previous mid hne hsup heff =>
    obtain ⟨es, es', ht', hu', hsame⟩ := h.added
    rw [heff.1.events, hsup.1.events, List.append_assoc] at hu'
    obtain rfl := List.append_cancel_left hu'
    obtain ⟨e₁, es, rfl, hcontent₁, hsame⟩ := List.map_eq_cons_iff.1 hsame
    obtain ⟨e₂, rfl, hcontent₂⟩ := List.map_eq_singleton_iff.1 hsame
    obtain ⟨haggregate₁, hbody₁⟩ : e₁.aggregate = previous ∧
        e₁.body = .lifecycle (.superseded id) := Prod.mk.inj hcontent₁
    obtain ⟨haggregate₂, hbody₂⟩ : e₂.aggregate = id ∧ e₂.body = .lifecycle .madeEffective :=
      Prod.mk.inj hcontent₂
    -- the session between the two events has the rows of `mid`
    let between : ControlSession := ⟨mid.rows, t.events ++ [e₁], mid.ticks⟩
    have hmid : between.rows = mid.rows := rfl
    have hsup' : Logs (versionsAndLog t) (versionsAndLog between) :=
      logs_of_appended hrows hmid hsup rfl haggregate₁ hbody₁
    have heff' : Logs (versionsAndLog between) (versionsAndLog t') := by
      refine logs_of_appended hmid h.rows heff (e := e₂) ?_ haggregate₂ hbody₂
      rw [ht', List.append_assoc]
      rfl
    exact (Relation.ReflTransGen.single hsup').tail heff'

/-! ## Drafts -/

/-- A draft fails in the database, or adds a version. -/
theorem Inv.draft (h : Inv clock s) (id : Id) (control : InternalControl) (revision : Revision)
    (actor : Actor) :
    (∃ s', s.draft clock id control revision actor = .raised s' .integrityError) ∨
      ∃ s', s.draft clock id control revision actor = .returned s' ∧
        Ran clock (.draft id control revision actor) s s' := by
  have hreload := h.reload control.id
  obtain ⟨kept, hwithin⟩ := hreload.current
  set r := s.reload control.id with hr
  let u : ControlSession := { r.session with events := kept }
  -- the payload of the draft does not depend on the log
  have halike : EndsAlike r.session u
      (draftControlDefinitionVersion clock r.session id control revision actor)
      (draftControlDefinitionVersion clock u id control revision actor) :=
    appendAndProject_alike ignoresSequence rfl rfl rfl
  have hclean : (draftControlDefinitionVersion clock u id control revision actor).Returns
      fun u' => u'.rows = Tracked.clean u'.rows.current :=
    appendAndProject_clean rfl rfl
  have hlater : (draftControlDefinitionVersion clock u id control revision actor).Returns
      u.Later :=
    (Command.run_script (.draft id control revision actor)).later
  unfold LoadedSession.draft
  rw [← hr]
  rcases draft_cases hwithin id control revision actor with ⟨u', hu'⟩ | ⟨hid, -⟩
  · -- the id is taken
    rw [hu'] at halike
    generalize draftControlDefinitionVersion clock r.session id control revision actor = o
      at halike ⊢
    cases halike with
    | raised _ _ => exact .inl ⟨_, rfl⟩
  · obtain ⟨u', hu', hcur, hevents, hwithin'⟩ := draft_returned hwithin hid control revision actor
    rw [hu'] at halike hclean hlater
    generalize draftControlDefinitionVersion clock r.session id control revision actor = o
      at halike ⊢
    cases halike with
    | @returned t' _ h' =>
      have hcurrent : Projected clock t'.rows t'.ticks := by
        rw [h'.rows, h'.ticks]
        exact ⟨u'.events, hwithin'⟩
      have hrows : t'.rows = Tracked.clean t'.rows.current := by
        rw [h'.rows]
        exact hclean
      have hticks : r.session.ticks ≤ t'.ticks := by
        rw [h'.ticks]
        exact hlater.ticks
      have hcur' : t'.rows.current = r.session.rows.current.insert id
          (newRow clock u id control revision actor) := by
        rw [h'.rows]
        exact hcur
      refine .inr ⟨_, rfl, ⟨hcurrent, ?_, hreload.committed.wait hticks, ?_,
        fun c ids hc => ?_⟩, reload_committed .., ?_⟩
      · show Projected clock (Tracked.clean t'.rows.stored) t'.ticks
        rw [hrows] at hcurrent ⊢
        exact hcurrent
      · show Pending t'.rows
        rw [hrows]
        exact pending_clean _
      · have hloaded := hc
        rw [hr, loaded_reload, ← hr] at hloaded
        split at hloaded
        · next hk =>
          subst hk
          obtain rfl := Option.some.inj hloaded
          -- the number of the draft exceeds those of the versions that have been loaded
          refine (members_load r.session control.id).insert hid hcur' fun _ k v hv hp =>
            ⟨?_, ?_⟩
          · exact List.mem_map.2 ⟨(k, v), mem_versionsOf.2 ⟨hv, hp⟩, rfl⟩
          · exact (lt_nextVersionNumber (s := u) hv hp).le
        · next hne =>
          exact (hreload.members c ids hc).insert hid hcur' fun hp => absurd hp hne
      · obtain ⟨e, he, haggregate, hbody⟩ := h'.added_one hevents
        show Relation.ReflTransGen Logs (versionsAndLog r.session) (versionsAndLog t')
        refine .single ?_
        unfold versionsAndLog
        rw [hcur', he]
        obtain rfl : e.aggregate = id := haggregate
        exact .drafted (d := draftPayload u control revision) hbody hid rfl rfl rfl

/-! ## Promotion -/

/-- The versions a control shows are the loaded ones, as the session holds them. -/
theorem mem_versions {ids : List Id} (hids : s.loaded[controlId]? = some ids)
    {x : Id × InternalControlVersion} :
    x ∈ s.versions controlId ↔ x.1 ∈ ids ∧ s.session.rows.current[x.1]? = some x.2 := by
  simp only [versions, hids, Option.getD_some, List.mem_filterMap, Option.map_eq_some_iff]
  constructor
  · rintro ⟨k, hk, v, hv, rfl⟩
    exact ⟨hk, hv⟩
  · exact fun ⟨hk, hv⟩ => ⟨x.1, hk, x.2, hv, rfl⟩

/-- What is found among the loaded members is the effective version of the control. -/
theorem Inv.previousEffective_some (h : Inv clock s) {ids : List Id}
    (hids : s.loaded[v.controlId]? = some ids) {x : Id × InternalControlVersion}
    (hx : s.previousEffective id v = some x) :
    x.1 ∈ ids ∧ s.session.rows.current[x.1]? = some x.2 ∧ x.2.controlId = v.controlId ∧
      status x.2 = .effective ∧ x.1 ≠ id := by
  obtain ⟨hk, hrow⟩ := (mem_versions hids).1 (List.mem_of_find?_eq_some hx)
  have hfound := List.find?_some hx
  simp only [decide_eq_true_eq] at hfound
  obtain ⟨u, hu, hp⟩ := (h.members _ _ hids).known _ hk
  obtain rfl := Option.some.inj (hrow.symm.trans hu)
  exact ⟨hk, hrow, hp, hfound⟩

/-- A collection loaded now shows the effective version. -/
theorem SeesEffective.load (h : s.SeesEffective controlId) :
    (s.load controlId).SeesEffective controlId := by
  unfold LoadedSession.load
  split
  · exact h
  · intro ids hids k v hv hp hst
    rw [Table.get_insert, if_pos rfl] at hids
    obtain rfl := Option.some.inj hids
    exact List.mem_map.2 ⟨(k, v), mem_versionsOf.2 ⟨hv, hp⟩, rfl⟩

/-- After a load there is a collection. -/
theorem exists_loaded (s : LoadedSession) (controlId : Id) :
    ∃ ids, (s.load controlId).loaded[controlId]? = some ids := by
  unfold LoadedSession.load
  split
  · next hmem => exact Table.exists_get hmem
  · exact ⟨_, by rw [Table.get_insert, if_pos rfl]⟩

/-- If the collection does not lack the effective version, the look-up finds what a look-up
    in the table finds. -/
theorem Inv.previousEffective_eq (h : Inv clock s) (hsees : s.SeesEffective v.controlId) :
    (s.load v.controlId).previousEffective id v =
      VersionLifecycle.previousEffective s.session id v := by
  obtain ⟨ids, hids⟩ := exists_loaded s v.controlId
  cases hprev : VersionLifecycle.previousEffective s.session id v with
  | none =>
    refine Option.eq_none_iff_forall_ne_some.2 fun x hx => ?_
    obtain ⟨-, hrow, hp, hst, hne⟩ := (h.load v.controlId).previousEffective_some hids hx
    rw [load_session] at hrow
    exact previousEffective_none hprev x.1 x.2 hrow hne hp hst
  | some y =>
    obtain ⟨hrow, hp, hst, hne⟩ := VersionLifecycle.previousEffective_some hprev
    have hmem : y ∈ (s.load v.controlId).versions v.controlId := by
      rw [mem_versions hids, load_session]
      refine ⟨hsees.load ids hids y.1 y.2 ?_ hp hst, hrow⟩
      rw [load_session, hrow]
    have hsome : ((s.load v.controlId).previousEffective id v).isSome := by
      rw [LoadedSession.previousEffective, List.find?_isSome]
      exact ⟨y, hmem, by simp [hst, hne]⟩
    obtain ⟨x, hx⟩ := Option.isSome_iff_exists.1 hsome
    obtain ⟨-, hrow', hp', hst', -⟩ := (h.load v.controlId).previousEffective_some hids hx
    rw [load_session] at hrow'
    -- a control has one effective version
    have hkey : x.1 = y.1 :=
      h.current.oneEffective hrow' hrow (hp'.trans hp.symm) hst' hst
    rw [hkey, hrow] at hrow'
    rw [hx, Prod.ext hkey (Option.some.inj hrow').symm]

/-- If the collection lacks the effective version, the look-up finds nothing. -/
theorem Inv.previousEffective_eq_none (h : Inv clock s) {ids : List Id} {k : Id}
    {w : InternalControlVersion} (hids : s.loaded[v.controlId]? = some ids) (hk : k ∉ ids)
    (hw : s.session.rows.current[k]? = some w) (hp : w.controlId = v.controlId)
    (hst : status w = .effective) : s.previousEffective id v = none := by
  refine Option.eq_none_iff_forall_ne_some.2 fun x hx => ?_
  obtain ⟨hmem, hrow, hp', hst', -⟩ := h.previousEffective_some hids hx
  have hkey : x.1 = k := h.current.oneEffective hrow hw (hp'.trans hp.symm) hst' hst
  exact hk (hkey ▸ hmem)

/-- An approved version is promoted over the effective one that the collection shows. -/
theorem makeVersionEffective_eq_promote (hv : t.rows.current[id]? = some v)
    (hst : status v = .approved) :
    VersionLifecycle.makeVersionEffective projection clock t id actor =
      promote clock t id actor (VersionLifecycle.previousEffective t id v) := by
  simp only [VersionLifecycle.makeVersionEffective, withVersion, hv, hst, ne_eq,
    not_true_eq_false, if_false]
  cases VersionLifecycle.previousEffective t id v <;> rfl

/-- A version does not become effective beside another effective one: the unique index
    refuses it. -/
theorem promote_none_raised (h : Within clock t) (actor : Actor) (hv : t.rows.current[id]? = some v)
    (hst : status v = .approved) {k : Id} {w : InternalControlVersion}
    (hw : t.rows.current[k]? = some w) (hp : w.controlId = v.controlId)
    (hst' : status w = .effective) :
    ∃ t', promote clock t id actor none = .raised t' .integrityError := by
  set e := eventOf projection clock t id actor .madeEffective none with he
  set u := applyTo v .madeEffective e.occurredAt e.actorId with hu
  have hne : k ≠ id := by
    rintro rfl
    obtain rfl := Option.some.inj (hv.symm.trans hw)
    rw [hst] at hst'
    cases hst'
  have heff : status u = .effective := by simp [hu, status, lifecycle]
  -- The control has an effective version already: a second one violates the partial index.
  have hflush : ((Tracked.clean t.rows.current).set id u).flush constraints = none := by
    refine Tracked.flush_set_clean_eq_none ?_ hne hw ?_
    · rw [hv]
      rintro heq
      rw [Option.some.inj heq, heff] at hst
      cases hst
    · have hparent : VersionRow.parentId u = VersionRow.parentId w := by
        rw [hu, parentId_applyTo]
        exact hp.symm
      simp [constraints, hparent, heff, hst']
  have hproject : projection.project (Tracked.clean t.rows.current) e =
      .error .integrityError := by
    have hchanged : VersionLifecycle.project (Tracked.clean t.rows.current) e .madeEffective =
        .ok ((Tracked.clean t.rows.current).set id u) := by
      have hget : t.rows.current[e.aggregate]? = some v := hv
      simp only [VersionLifecycle.project, Tracked.clean_current, hget]
      rfl
    show project _ e = _
    have hbody : e.body = .lifecycle .madeEffective := rfl
    simp only [project, hbody, hchanged, Body.flushes, if_true]
    simp only [Except.bind, flush, hflush]
  have hkey : t.Fresh
      { aggregate := id, body := .lifecycle .madeEffective, occurredAt := none,
        actorType := actor.actorType, actorId := actor.actorId } := rfl
  exact ⟨_, appendAndProject_raised hkey h.session.settled hproject⟩

/-- The look-up decides over any log what is appended. -/
theorem promote_alike {u : ControlSession} (hrows : t.rows = u.rows) (hticks : t.ticks = u.ticks)
    (previous : Option (Id × InternalControlVersion)) :
    EndsAlike t u (promote clock t id actor previous) (promote clock u id actor previous) := by
  unfold promote
  refine EndsAlike.andThen ?_ fun _ _ hrows' hticks' =>
    append_alike ignoresSequence hrows' hticks'
  cases previous with
  | none => exact .returned (.refl hrows hticks)
  | some previous => exact append_alike ignoresSequence hrows hticks

/-- The last projector of a promotion flushes. -/
theorem promote_clean (previous : Option (Id × InternalControlVersion)) :
    (promote clock t id actor previous).Returns fun t' =>
      t'.rows = Tracked.clean t'.rows.current := by
  unfold promote
  refine Outcome.Returns.andThen (R := fun _ => True) ?_ fun t' _ =>
    appendAndProject_clean (s := t') rfl rfl
  cases previous with
  | none => trivial
  | some previous => exact append_script.later.mono fun _ _ => trivial

/-- Once a version is effective, every other one that was has been superseded by it. -/
theorem Promoted.of_rows (hcurrent : Projected clock s'.session.rows s'.session.ticks)
    (heff : ∃ u, s'.session.rows.current[id]? = some u ∧ u.controlId = controlId ∧
      status u = .effective)
    (hothers : ∀ (k : Id) w, s.session.rows.current[k]? = some w → status w = .effective →
      ∃ w', s'.session.rows.current[k]? = some w' ∧ w'.controlId = w.controlId ∧ k ≠ id ∧
        (status w' = .effective ∨ status w' = .superseded ∧ w'.supersededByVersionId = some id)) :
    Promoted s s' id controlId where
  present := by
    obtain ⟨u, hu, hp, -⟩ := heff
    exact ⟨u, hu, hp⟩
  effective k w hw hp := by
    obtain ⟨u, hu, hpu, hst⟩ := heff
    constructor
    · exact fun hst' => hcurrent.oneEffective hw hu (hp.trans hpu.symm) hst' hst
    · rintro rfl
      rw [Option.some.inj (hw.symm.trans hu), hst]
  superseded k w hw hp hst := by
    obtain ⟨u, hu, hpu, hstu⟩ := heff
    obtain ⟨w', hw', hp', hne, hst' | hst'⟩ := hothers k w hw hst
    · have hkey : k = id :=
        hcurrent.oneEffective hw' hu (hp'.trans (hp.trans hpu.symm)) hst' hstu
      exact absurd hkey hne
    · exact ⟨w', hw', hst'⟩
  settled := hcurrent.settled

/-- What superseding the effective version and making its successor effective leaves. -/
theorem promoted_of_madeEffective {u u' : ControlSession} (hrows : s.session.rows = u.rows)
    (hrows' : s'.session.rows = u'.rows)
    (hcurrent : Projected clock s'.session.rows s'.session.ticks)
    (hv : u.rows.current[id]? = some v)
    (hst : status v = .approved) (hm : MadeEffective projection clock id actor u u') :
    Promoted s s' id v.controlId := by
  have hne : ∀ (k : Id) w, u.rows.current[k]? = some w → status w = .effective → k ≠ id := by
    rintro k w hw hstw rfl
    obtain rfl := Option.some.inj (hv.symm.trans hw)
    rw [hst] at hstw
    cases hstw
  -- The first effective version of the control has no predecessor to supersede.
  cases hm with
  | first happ =>
    obtain ⟨w₀, hw₀, -, hcur⟩ := happ.1.rows
    obtain rfl := Option.some.inj (hv.symm.trans hw₀)
    have hrow : s'.session.rows.current[id]? = some (applyTo v .madeEffective
        (clock.reading u.ticks) actor.actorId) := by
      rw [hrows', hcur]
      exact Table.get_insert_self
    refine .of_rows hcurrent ⟨_, hrow, rfl, rfl⟩ ?_
    intro k w hw hstw
    rw [hrows] at hw
    refine ⟨w, ?_, rfl, hne k w hw hstw, .inl hstw⟩
    rw [hrows', hcur, Table.get_insert_ne (hne k w hw hstw).symm, hw]
  | successor previous mid hprev hsup heff =>
    obtain ⟨p, hp, -, hcur⟩ := hsup.1.rows
    obtain ⟨w₀, hw₀, -, hcur'⟩ := heff.1.rows
    rw [hcur, Table.get_insert_ne hprev] at hw₀
    obtain rfl := Option.some.inj (hv.symm.trans hw₀)
    have hrow : s'.session.rows.current[id]? = some (applyTo v .madeEffective
        (clock.reading mid.ticks) actor.actorId) := by
      rw [hrows', hcur']
      exact Table.get_insert_self
    refine .of_rows hcurrent ⟨_, hrow, rfl, rfl⟩ ?_
    intro k w hw hstw
    rw [hrows] at hw
    rw [hrows', hcur', Table.get_insert_ne (hne k w hw hstw).symm, hcur, Table.get_insert]
    split
    · next hk =>
      subst hk
      obtain rfl := Option.some.inj (hp.symm.trans hw)
      exact ⟨_, rfl, rfl, hprev, .inr ⟨rfl, rfl⟩⟩
    · exact ⟨w, hw, rfl, hne k w hw hstw, .inl hstw⟩

/-- A promotion over the effective version that a look-up in the table finds. -/
theorem Inv.promote (h : Inv clock s) (actor : Actor) (hv : s.session.rows.current[id]? = some v)
    (hst : status v = .approved) :
    ∃ t, promote clock s.session id actor (VersionLifecycle.previousEffective s.session id v) =
        .returned t ∧ Projected clock t.rows t.ticks ∧ t.rows = Tracked.clean t.rows.current ∧
      s.session.ticks ≤ t.ticks ∧ SameVersions s.session t ∧
      Relation.ReflTransGen Logs (versionsAndLog s.session) (versionsAndLog t) ∧
      ∀ s' : LoadedSession, s'.session = t → Promoted s s' id v.controlId := by
  obtain ⟨kept, hwithin⟩ := h.current
  let u : ControlSession := { s.session with events := kept }
  obtain ⟨u', hu', hm⟩ := makeVersionEffective_returned lawful (s := u) hwithin.session actor hv hst
  have hreturns : Within clock u' := by
    have hreturns := (Command.makeVersionEffective id actor).run_returns hwithin
    simp only [Command.run, ControlDefinitionLifecycle.makeVersionEffective] at hreturns
    rw [hu'] at hreturns
    exact hreturns
  have hlater : u.Later u' := by
    have hreturns : (VersionLifecycle.makeVersionEffective projection clock u id
        actor).Returns u.Later := makeVersionEffective_script.later
    rw [hu'] at hreturns
    exact hreturns
  rw [makeVersionEffective_eq_promote (t := u) hv hst] at hu'
  -- the look-up does not read the log
  have halike : EndsAlike s.session u
      (LoadedSession.promote clock s.session id actor
        (VersionLifecycle.previousEffective s.session id v))
      (LoadedSession.promote clock u id actor (VersionLifecycle.previousEffective u id v)) :=
    promote_alike (t := s.session) (u := u) rfl rfl _
  have hclean : (LoadedSession.promote clock u id actor
      (VersionLifecycle.previousEffective u id v)).Returns fun u' =>
        u'.rows = Tracked.clean u'.rows.current := promote_clean _
  rw [hu'] at halike hclean
  generalize LoadedSession.promote clock s.session id actor
    (VersionLifecycle.previousEffective s.session id v) = o at halike ⊢
  cases halike with
  | @returned t _ h' =>
    have hcurrent : Projected clock t.rows t.ticks := by
      rw [h'.rows, h'.ticks]
      exact ⟨u'.events, hreturns⟩
    refine ⟨t, rfl, hcurrent, ?_, ?_, ?_, logs_of_madeEffective (u := u) rfl h' hm, ?_⟩
    · rw [h'.rows]
      exact hclean
    · rw [h'.ticks]
      exact hlater.ticks
    · have hsame := sameVersions_of_madeEffective hm
      intro k
      rw [h'.rows]
      exact hsame k
    · rintro s' rfl
      exact promoted_of_madeEffective (u := u) rfl h'.rows hcurrent hv hst hm

/-- How `make_version_effective` ends: it finds nothing to make effective, it works, or the
    collection lacks the effective version and the database refuses a second one. -/
theorem Inv.makeVersionEffective (h : Inv clock s) (id : Id) (actor : Actor) :
    ((∀ v, s.session.rows.current[id]? = some v → status v ≠ .approved) ∧
      ∃ e, s.makeVersionEffective clock id actor = .raised s e) ∨
    (∃ v s', s.session.rows.current[id]? = some v ∧ status v = .approved ∧
      s.SeesEffective v.controlId ∧ s.makeVersionEffective clock id actor = .returned s' ∧
      Promoted s s' id v.controlId ∧ Ran clock (.makeVersionEffective id actor) s s') ∨
    ∃ v s', s.session.rows.current[id]? = some v ∧ status v = .approved ∧
      ¬ s.SeesEffective v.controlId ∧
      s.makeVersionEffective clock id actor = .raised s' .integrityError := by
  unfold LoadedSession.makeVersionEffective
  split
  · next hnone =>
    refine .inl ⟨fun v hv => ?_, _, rfl⟩
    rw [hnone] at hv
    cases hv
  · next v hv =>
    split
    · next hst =>
      refine .inl ⟨fun u hu => ?_, _, rfl⟩
      rw [← Option.some.inj (hv.symm.trans hu)]
      exact hst
    · next hst =>
      have hst : status v = .approved := not_not.1 hst
      right
      -- A collection that hides the effective version promotes over nothing and violates the index.
      by_cases hsees : s.SeesEffective v.controlId
      · left
        rw [h.previousEffective_eq hsees]
        obtain ⟨t, ht, hcurrent, hclean, hticks, hsame, hlogs, hpromoted⟩ := h.promote actor hv hst
        rw [ht]
        refine ⟨v, _, hv, hst, hsees, rfl, hpromoted _ rfl, ?_, load_committed .., hlogs⟩
        exact (h.load v.controlId).of_clean hcurrent hclean (by rw [load_session]; exact hticks)
          (by rw [load_session]; exact hsame)
      · right
        refine ⟨v, ?_⟩
        have hsees' := hsees
        simp only [SeesEffective, not_forall] at hsees'
        obtain ⟨ids, hids, k, w, hw, hp, hstw, hk⟩ := hsees'
        have hload : s.load v.controlId = s := by
          rw [LoadedSession.load, if_pos (Table.mem_of_get hids)]
        rw [hload, h.previousEffective_eq_none hids hk hw hp hstw]
        obtain ⟨kept, hwithin⟩ := h.current
        let u : ControlSession := { s.session with events := kept }
        obtain ⟨u', hu'⟩ := promote_none_raised (t := u) hwithin actor hv hst hw hp hstw
        have halike : EndsAlike s.session u
            (LoadedSession.promote clock s.session id actor none)
            (LoadedSession.promote clock u id actor none) :=
          promote_alike (t := s.session) (u := u) rfl rfl none
        rw [hu'] at halike
        generalize LoadedSession.promote clock s.session id actor none = o at halike ⊢
        cases halike with
        | raised _ _ => exact ⟨_, hv, hst, hsees, rfl⟩

/-! ## Runs -/

/-- A command ends as it should, or the database has refused a flush of it. -/
def Kept (clock : Clock) (c : Command) (s : LoadedSession) : Outcome LoadedSession → Prop
  | .returned s' => Ran clock c s s'
  | .raised s' e => e = .integrityError ∨ Ran clock c s s'

/-- A command that raises before it does anything. -/
theorem Inv.ran_self (h : Inv clock s) {c : Command} (hc : s.before c = s) : Ran clock c s s where
  inv := h
  committed := rfl
  logs := by
    rw [hc]

/-- A command that appends one event of a version and holds its change back, or raises before it
    changes anything, over the rows of the session and some log. -/
theorem Inv.of_ends {c : Command} {u : ControlSession} {o o' : Outcome ControlSession}
    {occurredAt : Option Time} (h : Inv clock s) (hc : s.before c = s)
    (hrows : s.session.rows = u.rows) (hticks : s.session.ticks = u.ticks)
    (hwithin : Within clock u)
    (ho' : Ends u (fun u' => ∃ b, AppendedOne projection clock id actor b occurredAt u u') o')
    (hheld : o'.Returns (OneHeld u)) (ho : EndsAlike s.session u o o') :
    Kept clock c s (o.map fun session => { s with session }) := by
  rcases (ho'.and_returns hheld).of_alike ho with
    ⟨t, e, rfl, halike⟩ | ⟨t, u', rfl, halike, ⟨b, happ⟩, hheld⟩
  · have hinv := h.of_rows (halike.rows.trans hrows.symm)
      (Nat.le_of_eq (hticks.trans halike.ticks.symm))
    -- nothing has been logged over `u`, and so nothing over the log of the session
    obtain ⟨es, es', ht, hu, hsame⟩ := halike.added
    obtain rfl : es' = [] := List.self_eq_append_right.1 hu
    obtain rfl := List.map_eq_nil_iff.1 hsame
    refine .inr ⟨hinv, rfl, ?_⟩
    have hlog : versionsAndLog t = versionsAndLog s.session := by
      unfold versionsAndLog
      rw [halike.rows, hrows, ht, List.append_nil]
    rw [hc, hlog]
  · have hle : s.session.ticks ≤ t.ticks := by
      rw [halike.ticks, happ.1.ticks, hticks]
      exact Nat.le_succ _
    have hpending : Pending t.rows := by
      rw [halike.rows]
      exact pending_of_oneHeld hheld
    have hcurrent : Projected clock t.rows t.ticks := by
      rw [halike.rows, halike.ticks]
      exact ⟨u'.events, hwithin.of_appended happ⟩
    -- what was held back before has been written
    have hstored : Projected clock (Tracked.clean t.rows.stored) t.ticks := by
      obtain ⟨k, v, w, -, hset, -⟩ := hheld
      rw [halike.rows, hset, Tracked.set_stored, Tracked.clean_stored, ← hrows]
      exact h.current.flushed.wait hle
    have hsame : SameVersions s.session t := by
      intro k
      rw [halike.rows, hrows]
      exact sameVersions_of_appended happ k
    obtain ⟨e, hevents, haggregate, hbody⟩ := halike.added_one happ.1.events
    refine ⟨h.of_sameVersions hcurrent hstored hpending hle hsame, rfl, ?_⟩
    rw [hc]
    exact .single (logs_of_appended hrows halike.rows happ hevents haggregate hbody)

/-- Submitting a version holds back one update. -/
theorem submitForReview_oneHeld (hsettled : Settled projection t) :
    (VersionLifecycle.submitForReview projection clock t id actor).Returns (OneHeld t) := by
  refine withVersion_returns fun v => ?_
  split
  · trivial
  · exact append_oneHeld hsettled rfl

/-- Reviewing a version holds back one update. -/
theorem reviewVersion_oneHeld (hsettled : Settled projection t) (decision comment : String) :
    (VersionLifecycle.reviewVersion projection clock t id actor decision comment).Returns
      (OneHeld t) := by
  refine withVersion_returns fun v => ?_
  split
  · trivial
  · split
    · trivial
    · split
      · trivial
      · exact append_oneHeld hsettled rfl

/-- Withdrawing a version holds back one update. -/
theorem withdrawVersion_oneHeld (hsettled : Settled projection t) (reason : String)
    (occurredAt : Option Time) :
    (VersionLifecycle.withdrawVersion projection clock t id actor reason occurredAt).Returns
      (OneHeld t) := by
  refine withVersion_returns fun v => ?_
  split
  · trivial
  · exact append_oneHeld hsettled rfl

/-- Every command keeps what a loaded session is, with what it says it does. -/
theorem Inv.run (h : Inv clock s) (c : Command) : Kept clock c s (s.run clock c) := by
  -- Only a draft and a promotion can end in an integrity error.
  cases c with
  | draft id control revision actor =>
    rcases h.draft id control revision actor with ⟨s', hs'⟩ | ⟨s', hs', hran⟩
    · rw [LoadedSession.run, hs']
      exact .inl rfl
    · rw [LoadedSession.run, hs']
      exact hran
  | makeVersionEffective id actor =>
    rcases h.makeVersionEffective id actor with ⟨-, e, he⟩ | ⟨v, s', -, -, -, hs', -, hran⟩ |
      ⟨v, s', -, -, -, hs'⟩
    · rw [LoadedSession.run, he]
      exact .inr (h.ran_self rfl)
    · rw [LoadedSession.run, hs']
      exact hran
    · rw [LoadedSession.run, hs']
      exact .inl rfl
  | submitForReview id actor =>
    obtain ⟨kept, hwithin⟩ := h.current
    let u : ControlSession := { s.session with events := kept }
    exact h.of_ends (u := u) rfl rfl rfl hwithin
      ((submitForReview_ends lawful (s := u) hwithin.session).mono fun _ ht => ⟨_, ht⟩)
      (submitForReview_oneHeld hwithin.session.settled)
      (submitForReview_alike (s := s.session) (u := u) ignoresSequence rfl rfl)
  | reviewVersion id decision comment actor =>
    obtain ⟨kept, hwithin⟩ := h.current
    let u : ControlSession := { s.session with events := kept }
    exact h.of_ends (u := u) rfl rfl rfl hwithin
      ((reviewVersion_ends lawful (s := u) hwithin.session).mono fun _ ⟨_, ht⟩ => ⟨_, ht⟩)
      (reviewVersion_oneHeld hwithin.session.settled decision comment)
      (reviewVersion_alike (s := s.session) (u := u) ignoresSequence rfl rfl)
  | withdrawVersion id reason actor occurredAt =>
    obtain ⟨kept, hwithin⟩ := h.current
    let u : ControlSession := { s.session with events := kept }
    exact h.of_ends (u := u) rfl rfl rfl hwithin
      ((withdrawVersion_ends lawful (s := u) hwithin.session).mono fun _ ht => ⟨_, ht⟩)
      (withdrawVersion_oneHeld hwithin.session.settled reason occurredAt)
      (withdrawVersion_alike (s := s.session) (u := u) ignoresSequence rfl rfl)

/-- A commit, a rollback and a command all keep it. -/
theorem Inv.step (h : Inv clock s) {a : Action} (hs : step clock s a = some s') :
    Inv clock s' := by
  cases a with
  | rollback =>
    obtain rfl := Option.some.inj hs
    exact h.rollback
  | commit =>
    have hflush : flush s.session.rows = .ok (Tracked.clean s.session.rows.current) :=
      h.current.settled
    simp only [LoadedSession.step, hflush] at hs
    obtain rfl := Option.some.inj hs
    exact ⟨h.current.flushed, h.current.flushed, h.current.flushed, pending_clean _,
      fun c ids hc => (h.members c ids hc).of_sameVersions fun _ => rfl⟩
  | command c =>
    have hkept := h.run c
    simp only [LoadedSession.step] at hs
    cases ho : s.run clock c with
    | returned t =>
      rw [ho] at hs hkept
      obtain rfl := Option.some.inj hs
      exact hkept.inv
    | raised t e =>
      rw [ho] at hs hkept
      -- The database answers an integrity error with a rollback; the others leave the session as it
      -- is.
      by_cases he : e = .integrityError
      · subst he
        obtain rfl := Option.some.inj hs
        exact h.rollback
      · have ht : t = s' := by
          cases e with
          | integrityError => exact absurd rfl he
          | valueError _ => exact Option.some.inj hs
          | attributeError => exact Option.some.inj hs
        exact ht ▸ (hkept.resolve_left he).inv

/-- Every session of a run is one. -/
theorem inv_run (h : Run (step clock) (fun _ _ => True) initial s) : Inv clock s :=
  h.invariant inv_initial fun _ _ _ ht _ hu => ht.step hu

/-- A version that the loaded collection lacks is the newest one of its control. -/
theorem unseen_is_newest (h : Run (step clock) (fun _ _ => True) initial s) {ids : List Id}
    {k k' : Id} {w w' : InternalControlVersion} (hids : s.loaded[controlId]? = some ids)
    (hw : s.session.rows.current[k]? = some w) (hp : w.controlId = controlId) (hk : k ∉ ids)
    (hw' : s.session.rows.current[k']? = some w') (hp' : w'.controlId = controlId)
    (hne : k' ≠ k) : w'.versionNumber < w.versionNumber := by
  have hinv := inv_run h
  obtain ⟨kept, hwithin⟩ := hinv.current
  refine lt_of_le_of_ne ((hinv.members _ _ hids).unseen k w hw hp hk k' w' hw' hp') fun heq => ?_
  exact hne (hwithin.session.inv.numbers k' k w' w hw' hw (hp'.trans hp.symm) heq)

/-- In every state that commands, commits and rollbacks of one session lead to, making an
    approved version effective does what it is for exactly if the loaded collection of its
    control does not lack the effective version. -/
theorem makeVersionEffective_iff (h : Run (step clock) (fun _ _ => True) initial s)
    (hv : s.session.rows.current[id]? = some v) (hst : status v = .approved) (actor : Actor) :
    Promotes clock s id v.controlId actor ↔ s.SeesEffective v.controlId := by
  have hends := (inv_run h).makeVersionEffective id actor
  -- One direction each: the promotion returns, and it returns only where the effective version is
  -- seen.
  constructor
  · rintro ⟨s', hs', -⟩
    rcases hends with ⟨-, e, he⟩ | ⟨u, -, hu, -, hsees, -⟩ | ⟨u, t, -, -, -, ht⟩
    · cases he.symm.trans hs'
    · rw [Option.some.inj (hv.symm.trans hu)]
      exact hsees
    · cases ht.symm.trans hs'
  · intro hsees
    rcases hends with ⟨hnot, -⟩ | ⟨u, s', hu, -, -, hs', hpromoted, -⟩ | ⟨u, -, hu, -, hnot, -⟩
    · exact absurd hst (hnot v hv)
    · rw [Option.some.inj (hv.symm.trans hu)]
      exact ⟨s', hs', hpromoted⟩
    · rw [← Option.some.inj (hv.symm.trans hu)] at hnot
      exact absurd hsees hnot

/-! ## Two drafts before the first promotion -/

/-- The control 7. -/
def sampleControl : InternalControl := ⟨7, "Access review", "", "active", "quarterly", []⟩

/-- The version `id` of the control is drafted and approved. -/
def approve (id : Id) : List Action :=
  [.command (.draft id sampleControl {} {}), .command (.submitForReview id {}),
    .command (.reviewVersion id "approved" "" {})]

/-- The second version becomes effective first: the collection was loaded before it was
    drafted, so the first version cannot take over from it. -/
theorem promotes_unseen :
    ∃ s v, Run.exec (step tickingClock) initial
        (approve 1 ++ approve 2 ++ [.command (.makeVersionEffective 2 {})]) = some s ∧
      s.session.rows.current[(1 : Id)]? = some v ∧ status v = .approved ∧
      ¬ Promotes tickingClock s 1 v.controlId {} := by
  have hraised : ∃ s v, Run.exec (step tickingClock) initial
        (approve 1 ++ approve 2 ++ [.command (.makeVersionEffective 2 {})]) = some s ∧
      s.session.rows.current[(1 : Id)]? = some v ∧ status v = .approved ∧
      ∃ t, s.makeVersionEffective tickingClock 1 {} = .raised t .integrityError :=
    ⟨_, _, rfl, rfl, rfl, _, rfl⟩
  obtain ⟨s, v, hs, hv, hst, t, ht⟩ := hraised
  refine ⟨s, v, hs, hv, hst, ?_⟩
  rintro ⟨s', hs', -⟩
  cases ht.symm.trans hs'

/-- `makeVersionEffective_iff` where the second version is drafted after the first one has
    become effective. -/
theorem makeVersionEffective_iff_successor :
    ∃ s v, Run.exec (step tickingClock) initial
        (approve 1 ++ [.command (.makeVersionEffective 1 {})] ++ approve 2) = some s ∧
      s.session.rows.current[(2 : Id)]? = some v ∧
      (Promotes tickingClock s 2 v.controlId {} ↔ s.SeesEffective v.controlId) := by
  refine ⟨_, _, rfl, rfl, ?_⟩
  exact makeVersionEffective_iff (Run.of_exec_true
    (approve 1 ++ [.command (.makeVersionEffective 1 {})] ++ approve 2) rfl) rfl rfl {}

end LoadedSession
end MiniGrc.ControlDefinitionLifecycle
