import MiniGrc.App.StarterControls
import MiniGrc.ForStd.Except
import MiniGrc.ForStd.Stems
import MiniGrc.Spec.LoadedVersions

/-!
# Starter controls fill the gap

What `generate_starter_controls_for_framework` leaves of the database: one control for each
requirement that had none, mapped to that requirement, with one definition version that went
through the whole lifecycle.
-/

namespace MiniGrc.StarterControls

open Events VersionLifecycle
open ControlDefinitionLifecycle (ControlSession LoadedSession Command Body InternalControlVersion
  Draft Within Between projection lawful draftArgs newRow)
open ControlDefinitionLifecycle.LoadedSession (Inv)

/-! ## What the generation is for -/

/-- The requirement belongs to the framework and no control is mapped to it. -/
structure Uncovered (tables : Tables) (frameworkId : Id)
    (requirement : Id × FrameworkRequirement) : Prop where
  row : tables.requirements[requirement.1]? = some requirement.2
  framework : requirement.2.frameworkId = frameworkId
  unmapped : ∀ (k : Id) m, tables.mappings[k]? = some m → m.requirementId ≠ requirement.1

/-- The definition of a starter control. -/
def starterDraft (controlId : Id) (requirement : Id × FrameworkRequirement) : Draft where
  controlId := controlId
  versionNumber := 1
  name := starterName requirement.2
  description := (starterControl requirement.2).description
  statusSnapshot := "not_started"
  reviewFrequencySnapshot := "annual"
  mappedRequirementIds := [requirement.1]

/-- The bodies of the events of a bootstrapped version. -/
def bootstrapBodies (draft : Draft) : List Body :=
  [.drafted draft, .lifecycle .submittedForReview, .lifecycle (.reviewed .approved ""),
    .lifecycle .madeEffective]

/-- A new control for the requirement: with one mapping, to the requirement, and one definition
    version, which is effective after its whole lifecycle and snapshots the requirement. -/
structure IsStarter (old new : Database) (requirement : Id × FrameworkRequirement)
    (controlId : Id) : Prop where
  absent : controlId ∉ old.tables.controls
  row : new.tables.controls[controlId]? = some (starterControl requirement.2)
  mapped : ∃ k, Table.OnlyRow new.tables.mappings (fun m => m.controlId = controlId) k
    ⟨controlId, requirement.1⟩
  versioned : ∃ k v,
    Table.OnlyRow new.versions.rows.current (fun v => v.controlId = controlId) k v ∧
    v.toDraft = starterDraft controlId requirement ∧ status v = .effective ∧
    (ofAggregate new.versions.events k).map DomainEvent.body = bootstrapBodies v.toDraft

/-- The new controls are starter controls, one for each uncovered requirement, and nothing else
    has changed but the audit trail. -/
structure FillsGap (frameworkId : Id) (old : Database) (created : List Id) (new : Database) :
    Prop where
  starters : ∃ gap : List (Id × FrameworkRequirement), gap.Nodup ∧
    (∀ x, x ∈ gap ↔ Uncovered old.tables frameworkId x) ∧
    List.Forall₂ (IsStarter old new) gap created
  nodup : created.Nodup
  requirements : new.tables.requirements = old.tables.requirements
  controls : Table.Extends old.tables.controls new.tables.controls fun k _ => k ∈ created
  mappings : Table.Extends old.tables.mappings new.tables.mappings
    fun _ m => m.controlId ∈ created
  versions : Table.Extends old.versions.rows.current new.versions.rows.current
    fun _ v => v.controlId ∈ created
  events : ∀ k ∈ old.versions.rows.current,
    ofAggregate new.versions.events k = ofAggregate old.versions.events k

/-- The generation in a new session returns, what it has done is committed and fills the gap, and
    after that it creates nothing, in the same session or in a later one. -/
def Fills (env : Environment) (framework : Framework) (actor : String) (db : Database) : Prop :=
  ∃ created s new,
    env.generateStarterControlsForFramework framework actor (.start db) = .ok (created, s) ∧
    env.commit s = .ok new ∧ FillsGap framework.id db created new ∧
    (∀ actor', env.generateStarterControlsForFramework framework actor' s = .ok ([], s)) ∧
    ∀ (env' : Environment) actor',
      env'.generateStarterControlsForFramework framework actor' (.start new) =
        .ok ([], env'.loadRequirements (.start new) framework.id)

/-- What the database and the requests on versions keep: the foreign keys lead somewhere, and the
    versions are in order. -/
structure Consistent (clock : Clock) (db : Database) : Prop where
  mappedControl : ∀ (k : Id) m, db.tables.mappings[k]? = some m → m.controlId ∈ db.tables.controls
  versionControl : ∀ (k : Id) v, db.versions.rows.current[k]? = some v →
    v.controlId ∈ db.tables.controls
  versions : Between clock db.versions

/-- `new_id()` gives new ids. -/
structure NewIds (env : Environment) (db : Database) : Prop where
  injective : Function.Injective env.newId
  controls : ∀ n, env.newId n ∉ db.tables.controls
  mappings : ∀ n, env.newId n ∉ db.tables.mappings
  versions : ∀ n, env.newId n ∉ db.versions.rows.current

/-! ## From a draft to an effective version -/

section Bootstrap

variable {clock : Clock} {base s : LoadedSession} {id : Id} {v : InternalControlVersion}
  {bodies : List Body}

/-- What holds of a session in which no refresh has lost anything: the rows are those of its
    log. -/
structure InStep (clock : Clock) (s : LoadedSession) : Prop extends Inv clock s where
  within : Within clock s.session

/-- The version `id` of a control without versions has been added to `base`, and the bodies of
    its events are `bodies`. -/
structure Grown (clock : Clock) (base : LoadedSession) (id : Id) (v : InternalControlVersion)
    (bodies : List Body) (s : LoadedSession) : Prop where
  inv : InStep clock s
  only : ∀ (k : Id) w, base.session.rows.current[k]? = some w → w.controlId ≠ v.controlId
  rows : s.session.rows.current = base.session.rows.current.insert id v
  events : ∃ es : List ControlDefinitionLifecycle.Event,
    s.session.events = base.session.events ++ es ∧ (∀ e ∈ es, e.aggregate = id) ∧
      es.map DomainEvent.body = bodies

/-- The version that has grown is a row. -/
theorem Grown.row (h : Grown clock base id v bodies s) :
    s.session.rows.current[id]? = some v := by
  rw [h.rows]
  exact Table.get_insert_self

/-- The control has no other version. -/
theorem Grown.eq_of_controlId (h : Grown clock base id v bodies s) {k : Id}
    {w : InternalControlVersion} (hw : s.session.rows.current[k]? = some w)
    (hp : w.controlId = v.controlId) : k = id := by
  rw [h.rows] at hw
  rcases Table.of_get_insert hw with ⟨hk, -⟩ | hw
  · exact hk.symm
  · exact absurd hp (h.only k w hw)

/-- What a command leaves that returns. -/
theorem inv_of_run (h : Inv clock s) {c : Command} {s' : LoadedSession}
    (hs : s.run clock c = .returned s') : Inv clock s' := by
  have hkept := h.run c
  rw [hs] at hkept
  exact hkept.inv

/-- A lifecycle event that its guard allows. -/
theorem Grown.append (h : Grown clock base id v bodies s) (actor : Actor) {b : LifecycleEvent}
    (hg : lifecycle.guard (status v) b) (hb : ∀ w, b ≠ .superseded w) :
    ∃ t, append projection clock s.session id actor b = .returned t ∧
      ∃ u, u.toDraft = v.toDraft ∧ status u = lifecycle.next (status v) b ∧
        ∀ s', s'.session = t → Inv clock s' →
          Grown clock base id u (bodies ++ [.lifecycle b]) s' := by
  obtain ⟨t, ht, happ, hinv⟩ := append_returned lawful h.inv.within.session actor b none h.row hg
    (fun _ k w hw hk hp _ => hk (h.eq_of_controlId hw hp)) (fun w hw => absurd hw (hb w))
  obtain ⟨w, hw, -, hcur⟩ := happ.rows
  obtain rfl := Option.some.inj (h.row.symm.trans hw)
  refine ⟨t, ht, applyTo v b (clock.reading s.session.ticks) actor.actorId, rfl,
    LifecycleColumns.apply_status .., ?_⟩
  rintro s' rfl hs'
  refine ⟨⟨hs', h.inv.within.of_appended ⟨happ, hinv⟩⟩, h.only, ?_, ?_⟩
  · rw [hcur, h.rows, Table.insert_insert]
    rfl
  · obtain ⟨es, hes, hid, hbodies⟩ := h.events
    refine ⟨es ++ [eventOf projection clock s.session id actor b none], ?_, ?_, ?_⟩
    · rw [happ.events, hes, List.append_assoc]
    · intro e he
      rcases List.mem_append.1 he with he | he
      · exact hid e he
      · rw [List.mem_singleton.1 he]
        rfl
    · rw [List.map_append, hbodies]
      rfl

/-- The refresh of a control without versions reads nothing again. -/
theorem refresh_session (h : Inv clock s) {controlId : Id}
    (hnone : ∀ (k : Id) w, s.session.rows.current[k]? = some w → w.controlId ≠ controlId) :
    (s.refresh controlId).session = s.session := by
  have hnil : s.loaded[controlId]?.getD [] = [] := by
    cases hids : s.loaded[controlId]? with
    | none => rfl
    | some ids =>
      refine List.eq_nil_iff_forall_not_mem.2 fun k hk => ?_
      obtain ⟨w, hw, hp⟩ := (h.members controlId ids hids).known k hk
      exact hnone k w hw hp
  rw [LoadedSession.refresh, hnil, Tracked.expire_nil]

/-- A draft for a control without versions. -/
theorem grown_of_draft (h : InStep clock s) (hid : id ∉ s.session.rows.current)
    {control : ControlDefinitionLifecycle.InternalControl}
    (hnone : ∀ (k : Id) w, s.session.rows.current[k]? = some w → w.controlId ≠ control.id)
    (actor : Actor) :
    ∃ s' v, s.run clock (.draft id control {} actor) = .returned s' ∧
      v.toDraft = ⟨control.id, 1, control.name, control.description, control.status,
        control.reviewFrequency, control.mappedRequirementIds⟩ ∧
      status v = .draft ∧ Grown clock s id v [.drafted v.toDraft] s' := by
  obtain ⟨t, ht, hcur, hevents, hwithin⟩ :=
    ControlDefinitionLifecycle.draft_returned h.within hid control {} actor
  have hreload : (s.reload control.id).session = s.session :=
    (LoadedSession.reload_session s control.id).trans (refresh_session h.toInv hnone)
  have hdraft : s.run clock (.draft id control {} actor) = .returned
      { s.reload control.id with session := t } := by
    show LoadedSession.draft clock s id control {} actor = _
    rw [LoadedSession.draft, hreload, ht]
    rfl
  -- the control has no versions, so the new one has the number 1
  have hnumber : ControlDefinitionLifecycle.nextVersionNumber s.session control.id = 1 := by
    have hnil : versionsOf s.session control.id = [] :=
      List.eq_nil_iff_forall_not_mem.2 fun x hx =>
        hnone x.1 x.2 (mem_versionsOf.1 hx).1 (mem_versionsOf.1 hx).2
    rw [ControlDefinitionLifecycle.nextVersionNumber, hnil]
    rfl
  have htoDraft : (newRow clock s.session id control {} actor).toDraft =
      ⟨control.id, 1, control.name, control.description, control.status,
        control.reviewFrequency, control.mappedRequirementIds⟩ := by
    rw [← hnumber]
    rfl
  refine ⟨_, newRow clock s.session id control {} actor, hdraft, htoDraft, rfl,
    ⟨inv_of_run h.toInv hdraft, hwithin⟩, hnone, hcur,
    [nextEvent clock s.session (draftArgs s.session id control {} actor)], hevents, ?_, rfl⟩
  intro e he
  rw [List.mem_singleton.1 he]
  rfl

/-- A command that returns goes on to the others. -/
theorem runCommands_cons {c : Command} {commands : List Command} {s' : LoadedSession}
    (h : s.run clock c = .returned s') :
    runCommands clock (c :: commands) s = runCommands clock commands s' := by
  rw [runCommands, List.foldlM_cons, h]
  rfl

/-- A draft is submitted. -/
theorem Grown.submit (h : Grown clock base id v bodies s) (hst : status v = .draft)
    (actor : Actor) :
    ∃ s' u, s.run clock (.submitForReview id actor) = .returned s' ∧ u.toDraft = v.toDraft ∧
      status u = .inReview ∧
      Grown clock base id u (bodies ++ [.lifecycle .submittedForReview]) s' := by
  obtain ⟨t, ht, u, hdraft, hu, hgrown⟩ :=
    h.append actor (b := .submittedForReview) hst (fun _ => by simp)
  have hrun : s.run clock (.submitForReview id actor) = .returned { s with session := t } := by
    simp [LoadedSession.run, Command.run, ControlDefinitionLifecycle.submitForReview,
      VersionLifecycle.submitForReview, withVersion, h.row, hst, ht, Outcome.map]
  exact ⟨_, u, hrun, hdraft, hu, hgrown _ rfl (inv_of_run h.inv.toInv hrun)⟩

/-- A version in review is approved. -/
theorem Grown.approve (h : Grown clock base id v bodies s) (hst : status v = .inReview)
    (actor : Actor) :
    ∃ s' u, s.run clock (.reviewVersion id "approved" "" actor) = .returned s' ∧
      u.toDraft = v.toDraft ∧ status u = .approved ∧
      Grown clock base id u (bodies ++ [.lifecycle (.reviewed .approved "")]) s' := by
  obtain ⟨t, ht, u, hdraft, hu, hgrown⟩ :=
    h.append actor (b := .reviewed .approved "") hst (fun _ => by simp)
  have hrun : s.run clock (.reviewVersion id "approved" "" actor) =
      .returned { s with session := t } := by
    simp [LoadedSession.run, Command.run, ControlDefinitionLifecycle.reviewVersion,
      VersionLifecycle.reviewVersion, withVersion, h.row, hst, ht, Outcome.map,
      ReviewDecision.parse]
  exact ⟨_, u, hrun, hdraft, hu, hgrown _ rfl (inv_of_run h.inv.toInv hrun)⟩

/-- An approved version is made effective; there is no other that it could supersede. -/
theorem Grown.makeEffective (h : Grown clock base id v bodies s) (hst : status v = .approved)
    (actor : Actor) :
    ∃ s' u, s.run clock (.makeVersionEffective id actor) = .returned s' ∧
      u.toDraft = v.toDraft ∧ status u = .effective ∧
      Grown clock base id u (bodies ++ [.lifecycle .madeEffective]) s' := by
  obtain ⟨t, ht, u, hdraft, hu, hgrown⟩ :=
    h.append actor (b := .madeEffective) hst (fun _ => by simp)
  have hload := h.inv.load v.controlId
  obtain ⟨ids, hids⟩ := ControlDefinitionLifecycle.LoadedSession.exists_loaded s v.controlId
  have hprevious : (s.load v.controlId).previousEffective id v = none := by
    refine Option.eq_none_iff_forall_ne_some.2 fun x hx => ?_
    obtain ⟨-, hrow, hp, -, hne⟩ := hload.previousEffective_some hids hx
    rw [ControlDefinitionLifecycle.LoadedSession.load_session] at hrow
    exact hne (h.eq_of_controlId hrow hp)
  have hrun : s.run clock (.makeVersionEffective id actor) =
      .returned { s.load v.controlId with session := t } := by
    simp [LoadedSession.run, LoadedSession.makeVersionEffective, h.row, hst, hprevious,
      LoadedSession.promote, Outcome.andThen, ht, Outcome.map]
  exact ⟨_, u, hrun, hdraft, hu, hgrown _ rfl (inv_of_run h.inv.toInv hrun)⟩

/-- `bootstrap_initial_effective_version` for a control without versions. -/
theorem runCommands_bootstrap (h : InStep clock s) (hid : id ∉ s.session.rows.current)
    (control : ControlDefinitionLifecycle.InternalControl)
    (hnone : ∀ (k : Id) w, s.session.rows.current[k]? = some w → w.controlId ≠ control.id)
    (actor : Actor) :
    ∃ s' v, runCommands clock
        (ControlDefinitionLifecycle.bootstrapInitialEffectiveVersion id control actor) s =
        .ok s' ∧
      v.toDraft = ⟨control.id, 1, control.name, control.description, control.status,
        control.reviewFrequency, control.mappedRequirementIds⟩ ∧
      status v = .effective ∧ Grown clock s id v (bootstrapBodies v.toDraft) s' := by
  obtain ⟨s₁, v₁, hs₁, hv₁, hst₁, hgrown₁⟩ := grown_of_draft h hid hnone actor
  obtain ⟨s₂, v₂, hs₂, hv₂, hst₂, hgrown₂⟩ := hgrown₁.submit hst₁ actor
  obtain ⟨s₃, v₃, hs₃, hv₃, hst₃, hgrown₃⟩ := hgrown₂.approve hst₂ actor
  obtain ⟨s₄, v₄, hs₄, hv₄, hst₄, hgrown₄⟩ := hgrown₃.makeEffective hst₃ actor
  have hdraft : v₄.toDraft = v₁.toDraft := hv₄.trans (hv₃.trans hv₂)
  refine ⟨s₄, v₄, ?_, hdraft.trans hv₁, hst₄, ?_⟩
  · rw [ControlDefinitionLifecycle.bootstrapInitialEffectiveVersion, runCommands_cons hs₁,
      runCommands_cons hs₂, runCommands_cons hs₃, runCommands_cons hs₄]
    rfl
  · rw [hdraft]
    exact hgrown₄

end Bootstrap

/-! ## One turn of the loop -/

section Turn

variable {env : Environment} {s : StarterSession} {framework : Framework} {actor : String}
  {requirement : Id × FrameworkRequirement}

/-- What holds of a session between the turns of the loop: nothing but audit events waits for a
    flush, and the foreign keys lead somewhere. -/
structure Ready (env : Environment) (s : StarterSession) : Prop where
  versions : InStep env.clock s.versions
  newControls : s.newControls = []
  newMappings : s.newMappings = []
  mappedControl : ∀ (k : Id) m, s.tables.mappings[k]? = some m → m.controlId ∈ s.tables.controls
  versionControl : ∀ (k : Id) v, s.versions.session.rows.current[k]? = some v →
    v.controlId ∈ s.tables.controls
  newIds : ∀ n, s.drawn ≤ n → env.newId n ∉ s.tables.controls ∧
    env.newId n ∉ s.tables.mappings ∧ env.newId n ∉ s.versions.session.rows.current

/-- The session after a flush of its versions. -/
def StarterSession.flushed (s : StarterSession) : StarterSession :=
  { s with
    tables := { s.tables with auditEvents := s.tables.auditEvents ++ s.newAuditEvents }
    versions := { s.versions with session := { s.versions.session with
      rows := Tracked.clean s.versions.session.rows.current } }
    newControls := []
    newMappings := []
    newAuditEvents := [] }

/-- A session that is ready has nothing half written. -/
theorem Ready.settled (h : Ready env s) : VersionLifecycle.flush s.versions.session.rows =
    .ok (Tracked.clean s.versions.session.rows.current) :=
  h.versions.within.session.settled

/-- A flush that writes no controls and no mappings. -/
theorem flush_eq (hsettled : VersionLifecycle.flush s.versions.session.rows =
      .ok (Tracked.clean s.versions.session.rows.current))
    (hcontrols : s.newControls = []) (hmappings : s.newMappings = []) :
    env.flush s = .ok s.flushed := by
  rw [Environment.flush, hcontrols, hmappings, hsettled]
  rfl

/-- A flush that writes one control. -/
theorem flush_control (id : Id) (control : InternalControl)
    (hsettled : VersionLifecycle.flush s.versions.session.rows =
      .ok (Tracked.clean s.versions.session.rows.current))
    (hcontrols : s.newControls = [(id, control)]) (hmappings : s.newMappings = [])
    (hid : id ∉ s.tables.controls) :
    env.flush s = if env.holds control.name then
      .ok { s with
        tables := { s.tables with controls := s.tables.controls.insert id control } }.flushed
    else .error .dataError := by
  rw [Environment.flush, hcontrols, hmappings, hsettled, List.foldlM_cons,
    Environment.insertControl, if_neg hid]
  split <;> rfl

/-- A flush that writes one mapping. -/
theorem flush_mapping {id : Id} {mapping : ControlRequirementMapping}
    (hsettled : VersionLifecycle.flush s.versions.session.rows =
      .ok (Tracked.clean s.versions.session.rows.current))
    (hcontrols : s.newControls = []) (hmappings : s.newMappings = [(id, mapping)])
    (hid : id ∉ s.tables.mappings)
    (hnew : ∀ (k : Id) m, s.tables.mappings[k]? = some m → m.controlId ≠ mapping.controlId)
    (hcontrol : mapping.controlId ∈ s.tables.controls)
    (hrequirement : mapping.requirementId ∈ s.tables.requirements) :
    env.flush s = .ok { s with
      tables := { s.tables with mappings := s.tables.mappings.insert id mapping } }.flushed := by
  have hpair : ¬ (s.tables.mappings.toList.any fun x => x.2 = mapping) = true := by
    rw [Bool.not_eq_true, Table.any_toList_eq_false (p := fun m => decide (m = mapping))]
    intro k m hm
    exact decide_eq_false fun heq => hnew k m hm (congrArg ControlRequirementMapping.controlId heq)
  have hinsert : insertMapping s.tables (id, mapping) =
      .ok { s.tables with mappings := s.tables.mappings.insert id mapping } := by
    rw [insertMapping, if_neg]
    rintro (h | h | h | h)
    · exact hid h
    · exact hpair h
    · exact h hcontrol
    · exact h hrequirement
  rw [Environment.flush, hcontrols, hmappings, hsettled]
  simp only [List.foldlM_nil, List.foldlM_cons, pure_bind, hinsert]
  rfl

/-- A flush keeps the versions in step. -/
theorem inStep_flushed {clock : Clock} {versions : LoadedSession} (h : InStep clock versions) :
    InStep clock { versions with session := { versions.session with
      rows := Tracked.clean versions.session.rows.current } } where
  toInv := h.of_clean (t := { versions.session with
      rows := Tracked.clean versions.session.rows.current })
    h.current.flushed rfl le_rfl fun _ => rfl
  within := ⟨h.within.session.flushed lawful, h.within.drafted⟩

/-- The one mapping of a control that had none. -/
theorem requirementIdsOf_insert {tables : Tables} {id : Id} (mapping : ControlRequirementMapping)
    (hid : id ∉ tables.mappings)
    (hnew : ∀ (k : Id) m, tables.mappings[k]? = some m → m.controlId ≠ mapping.controlId) :
    ({ tables with mappings := tables.mappings.insert id mapping } : Tables).requirementIdsOf
      mapping.controlId = [mapping.requirementId] := by
  have hnil : tables.mappings.toList.filter
      (fun x => x.2.controlId = mapping.controlId) = [] := by
    refine List.filter_eq_nil_iff.2 fun x hx => ?_
    simpa using hnew x.1 x.2 (Std.ExtTreeMap.mem_toList_iff_getElem?_eq_some.1 hx)
  have hperm := (Table.toList_insert_perm (r := mapping) hid).filter
    fun x => x.2.controlId = mapping.controlId
  rw [List.filter_cons_of_pos (by simp), hnil] at hperm
  rw [Tables.requirementIdsOf, List.perm_singleton.1 hperm]
  rfl

/-- A control with a mapping to the requirement and an effective version was added. -/
structure Added (requirement : Id × FrameworkRequirement) (s : StarterSession) (controlId : Id)
    (s' : StarterSession) : Prop where
  new : controlId ∉ s.tables.controls
  loaded : s'.requirements = s.requirements
  requirements : s'.tables.requirements = s.tables.requirements
  controls : s'.tables.controls = s.tables.controls.insert controlId (starterControl requirement.2)
  mappings : ∃ k ∉ s.tables.mappings,
    s'.tables.mappings = s.tables.mappings.insert k ⟨controlId, requirement.1⟩
  versions : ∃ k ∉ s.versions.session.rows.current, ∃ v,
    s'.versions.session.rows.current = s.versions.session.rows.current.insert k v ∧
      v.toDraft = starterDraft controlId requirement ∧ status v = .effective ∧
      ∃ es : List ControlDefinitionLifecycle.Event,
        s'.versions.session.events = s.versions.session.events ++ es ∧
          (∀ e ∈ es, e.aggregate = k) ∧ es.map DomainEvent.body = bootstrapBodies v.toDraft

/-- The refresh makes the snapshot that of the table. -/
theorem definition_refresh_loadMappings (controlId : Id) (control : InternalControl) :
    ((s.refresh controlId).loadMappings controlId).definition controlId control =
      ⟨controlId, control.name, control.description, control.status, control.reviewFrequency,
        s.tables.requirementIdsOf controlId⟩ := by
  have hnot : controlId ∉ (s.refresh controlId).mappings := by simp [StarterSession.refresh]
  rw [StarterSession.loadMappings, if_neg hnot]
  simp [StarterSession.definition, StarterSession.refresh]

/-- Loading the mappings changes the loaded mappings alone. -/
theorem loadMappings_eq (controlId : Id) : ∃ mappings,
    (s.refresh controlId).loadMappings controlId = { s with mappings := mappings } := by
  unfold StarterSession.loadMappings
  split
  · exact ⟨_, rfl⟩
  · exact ⟨_, rfl⟩

/-- The version of a control without versions. -/
theorem bootstrap_returned (controlId : Id) (control : InternalControl)
    (hinv : InStep env.clock s.versions) (hcontrols : s.newControls = [])
    (hmappings : s.newMappings = []) (hcontrol : s.tables.controls[controlId]? = some control)
    (hnone : ∀ (k : Id) w, s.versions.session.rows.current[k]? = some w →
      w.controlId ≠ controlId)
    (hid : env.newId s.drawn ∉ s.versions.session.rows.current) :
    ∃ versions mappings v, env.bootstrapInitialEffectiveVersion s controlId =
        .ok { s.flushed with versions := versions, mappings := mappings, drawn := s.drawn + 1 } ∧
      v.toDraft = ⟨controlId, 1, control.name, control.description, control.status,
        control.reviewFrequency, s.tables.requirementIdsOf controlId⟩ ∧
      status v = .effective ∧
      Grown env.clock s.versions (env.newId s.drawn) v (bootstrapBodies v.toDraft) versions := by
  obtain ⟨mappings, hload⟩ := loadMappings_eq (s := s) controlId
  have hdefinition := definition_refresh_loadMappings (s := s) controlId control
  obtain ⟨versions, v, hrun, hdraft, hst, hgrown⟩ := runCommands_bootstrap (inStep_flushed hinv) hid
    ⟨controlId, control.name, control.description, control.status, control.reviewFrequency,
      s.tables.requirementIdsOf controlId⟩ hnone { actorType := "system" }
  refine ⟨versions, mappings, v, ?_, hdraft, hst, hgrown.inv, hgrown.only, hgrown.rows,
    hgrown.events⟩
  have hrow : (s.refresh controlId).tables.controls[controlId]? = some control := hcontrol
  simp only [Environment.bootstrapInitialEffectiveVersion, hrow]
  have hflush : env.flush { s with mappings := mappings } =
      .ok { s with mappings := mappings }.flushed :=
    flush_eq hinv.within.session.settled hcontrols hmappings
  rw [hdefinition, hload, hflush, Except.ok_bind]
  exact Except.bind_eq_ok.2 ⟨versions, hrun, rfl⟩

/-- A requirement without a mapping, whose control has a name that the column holds. -/
theorem Ready.generateStarterControl (h : Ready env s) (hinj : Function.Injective env.newId)
    (framework : Framework) (actor : String)
    (hrequirement : requirement.1 ∈ s.tables.requirements)
    (hheld : env.holds (starterName requirement.2)) :
    ∃ controlId s', env.generateStarterControl framework actor s requirement =
      .ok (controlId, s') ∧ Added requirement s controlId s' ∧ Ready env s' := by
  have hc : env.newId s.drawn ∉ s.tables.controls := (h.newIds _ le_rfl).1
  have hm : env.newId (s.drawn + 1) ∉ s.tables.mappings := (h.newIds _ (Nat.le_add_right ..)).2.1
  have hv : env.newId (s.drawn + 2) ∉ s.versions.session.rows.current :=
    (h.newIds _ (Nat.le_add_right ..)).2.2
  have hmapped : ∀ (k : Id) m, s.tables.mappings[k]? = some m →
      m.controlId ≠ env.newId s.drawn := fun k m hk heq => hc (heq ▸ h.mappedControl k m hk)
  have hversioned : ∀ (k : Id) w, s.versions.session.rows.current[k]? = some w →
      w.controlId ≠ env.newId s.drawn := fun k w hk heq => hc (heq ▸ h.versionControl k w hk)
  -- the control is written
  obtain ⟨s₁, hs₁⟩ : ∃ s₁, s₁ = ({ s with
        tables := { s.tables with
          controls := s.tables.controls.insert (env.newId s.drawn) (starterControl requirement.2) }
        drawn := s.drawn + 1 } : StarterSession).flushed := ⟨_, rfl⟩
  have hflush₁ : env.flush { s with
      newControls := s.newControls ++ [(env.newId s.drawn, starterControl requirement.2)]
      drawn := s.drawn + 1 } = .ok s₁ := by
    rw [hs₁]
    exact (flush_control (s := { s with
      newControls := s.newControls ++ [(env.newId s.drawn, starterControl requirement.2)]
      drawn := s.drawn + 1 }) _ _ h.settled (congrArg (· ++ _) h.newControls) h.newMappings
        hc).trans (if_pos hheld)
  have hcontrol : s₁.tables.controls[env.newId s.drawn]? =
      some (starterControl requirement.2) := by
    rw [hs₁]
    exact Table.get_insert_self
  have hinv₁ : InStep env.clock s₁.versions := by
    rw [hs₁]
    exact inStep_flushed h.versions
  -- then the mapping
  obtain ⟨s₂, hs₂⟩ : ∃ s₂, s₂ = ({ s₁ with
        tables := { s₁.tables with
          mappings := s₁.tables.mappings.insert (env.newId (s.drawn + 1))
            ⟨env.newId s.drawn, requirement.1⟩ }
        drawn := s₁.drawn + 1 } : StarterSession).flushed := ⟨_, rfl⟩
  have hflush₂ : env.flush { s₁ with
      newMappings := s₁.newMappings ++
        [(env.newId s₁.drawn, ⟨env.newId s.drawn, requirement.1⟩)]
      drawn := s₁.drawn + 1 } = .ok s₂ := by
    have hdrawn : s₁.drawn = s.drawn + 1 := by rw [hs₁]; rfl
    rw [hs₂, hdrawn]
    refine flush_mapping (s := { s₁ with
      newMappings := s₁.newMappings ++
        [(env.newId (s.drawn + 1), ⟨env.newId s.drawn, requirement.1⟩)]
      drawn := s.drawn + 1 + 1 }) hinv₁.within.session.settled ?_ ?_ ?_ ?_ ?_ ?_
    · rw [hs₁]
      rfl
    · rw [hs₁]
      rfl
    · rw [hs₁]
      exact hm
    · rw [hs₁]
      exact hmapped
    · exact Table.mem_of_get hcontrol
    · rw [hs₁]
      exact hrequirement
  have hinv₂ : InStep env.clock s₂.versions := by
    rw [hs₂]
    exact inStep_flushed hinv₁
  -- and the version goes through its lifecycle
  have hids : s₂.tables.requirementIdsOf (env.newId s.drawn) = [requirement.1] := by
    rw [hs₂, hs₁]
    exact requirementIdsOf_insert ⟨env.newId s.drawn, requirement.1⟩ hm hmapped
  have hdrawn : s₂.drawn = s.drawn + 2 := by
    rw [hs₂, hs₁]
    rfl
  have hrows : s₂.versions.session.rows.current = s.versions.session.rows.current := by
    rw [hs₂, hs₁]
    rfl
  have hevents : s₂.versions.session.events = s.versions.session.events := by
    rw [hs₂, hs₁]
    rfl
  obtain ⟨versions, mappings, v, hboot, hdraft, hst, hgrown⟩ :=
    bootstrap_returned (s := s₂) (env.newId s.drawn) (starterControl requirement.2) hinv₂
      (by rw [hs₂]; rfl) (by rw [hs₂]; rfl) (by rw [hs₂]; exact hcontrol)
      (by rw [hrows]; exact hversioned) (by rw [hrows, hdrawn]; exact hv)
  rw [hids] at hdraft
  have hcontrols : s₂.tables.controls =
      s.tables.controls.insert (env.newId s.drawn) (starterControl requirement.2) := by
    rw [hs₂, hs₁]
    rfl
  have hmappings : s₂.tables.mappings =
      s.tables.mappings.insert (env.newId (s.drawn + 1)) ⟨env.newId s.drawn, requirement.1⟩ := by
    rw [hs₂, hs₁]
    rfl
  have hgrownRows := hgrown.rows
  obtain ⟨es, hes, haggregate, hbodies⟩ := hgrown.events
  rw [hrows, hdrawn] at hgrownRows
  rw [hevents] at hes
  rw [hdrawn] at haggregate
  refine ⟨env.newId s.drawn, _, Except.bind_eq_ok.2 ⟨s₁, hflush₁, Except.bind_eq_ok.2 ⟨s₂, hflush₂,
    Except.bind_eq_ok.2 ⟨_, hboot, rfl⟩⟩⟩, ?_, ?_⟩
  · refine ⟨hc, ?_, ?_, hcontrols, ⟨_, hm, hmappings⟩,
      ⟨_, hv, v, hgrownRows, hdraft, hst, es, hes, haggregate, hbodies⟩⟩
    · show s₂.requirements = _
      rw [hs₂, hs₁]
      rfl
    · show s₂.tables.requirements = _
      rw [hs₂, hs₁]
      rfl
  · refine ⟨hgrown.inv, rfl, rfl, ?_, ?_, ?_⟩
    · intro k m hk
      show m.controlId ∈ s₂.tables.controls
      have hk : s₂.tables.mappings[k]? = some m := hk
      rw [hmappings] at hk
      rw [hcontrols, Std.ExtTreeMap.mem_insert]
      rcases Table.of_get_insert hk with ⟨-, rfl⟩ | hk
      · exact .inl (Nat.compare_eq_eq.2 rfl)
      · exact .inr (h.mappedControl k m hk)
    · intro k w hk
      show w.controlId ∈ s₂.tables.controls
      have hk : versions.session.rows.current[k]? = some w := hk
      rw [hgrownRows] at hk
      rw [hcontrols, Std.ExtTreeMap.mem_insert]
      rcases Table.of_get_insert hk with ⟨-, rfl⟩ | hk
      · rw [show w.controlId = env.newId s.drawn from congrArg Draft.controlId hdraft]
        exact .inl (Nat.compare_eq_eq.2 rfl)
      · exact .inr (h.versionControl k w hk)
    · intro n hn
      have hn : s.drawn + 3 ≤ n := by
        have hn : s₂.drawn + 1 ≤ n := hn
        omega
      have hne : ∀ i, i < 3 → env.newId (s.drawn + i) ≠ env.newId n := fun i hi heq => by
        have := hinj heq
        omega
      obtain ⟨hnc, hnm, hnv⟩ := h.newIds n (by omega)
      refine ⟨?_, ?_, ?_⟩
      · show env.newId n ∉ s₂.tables.controls
        rw [hcontrols, Std.ExtTreeMap.mem_insert, not_or]
        exact ⟨fun heq => hne 0 (by omega) (Nat.compare_eq_eq.1 heq), hnc⟩
      · show env.newId n ∉ s₂.tables.mappings
        rw [hmappings, Std.ExtTreeMap.mem_insert, not_or]
        exact ⟨fun heq => hne 1 (by omega) (Nat.compare_eq_eq.1 heq), hnm⟩
      · show env.newId n ∉ versions.session.rows.current
        rw [hgrownRows, Std.ExtTreeMap.mem_insert, not_or]
        exact ⟨fun heq => hne 2 (by omega) (Nat.compare_eq_eq.1 heq), hnv⟩

/-- A requirement whose control has a name that the column does not hold. -/
theorem Ready.generateStarterControl_eq_error (h : Ready env s) (framework : Framework)
    (actor : String) (hheld : ¬ env.holds (starterName requirement.2)) :
    env.generateStarterControl framework actor s requirement = .error .dataError := by
  have hflush : env.flush { s with
      newControls := s.newControls ++ [(env.newId s.drawn, starterControl requirement.2)]
      drawn := s.drawn + 1 } = .error .dataError :=
    (flush_control (s := { s with
      newControls := s.newControls ++ [(env.newId s.drawn, starterControl requirement.2)]
      drawn := s.drawn + 1 }) _ _ h.settled (congrArg (· ++ _) h.newControls) h.newMappings
        (h.newIds _ le_rfl).1).trans (if_neg hheld)
  exact Except.bind_eq_error.2 (.inl hflush)

end Turn

/-! ## The loop -/

section Loop

variable {env : Environment} {db : Database} {s s' : StarterSession} {framework : Framework}
  {actor : String} {requirement x : Id × FrameworkRequirement} {controlId c : Id}
  {done : List (Id × FrameworkRequirement)} {created : List Id}

/-- What the transaction sees. -/
def StarterSession.database (s : StarterSession) : Database := ⟨s.tables, s.versions.session⟩

/-- After the turns for `done`, with `created` as the new controls. -/
structure Progress (env : Environment) (db : Database)
    (requirements : Table (List (Id × FrameworkRequirement)))
    (done : List (Id × FrameworkRequirement)) (created : List Id) (s : StarterSession) : Prop where
  ready : Ready env s
  loaded : s.requirements = requirements
  requirements : s.tables.requirements = db.tables.requirements
  starters : List.Forall₂ (IsStarter db s.database) done created
  nodup : created.Nodup
  controls : Table.Extends db.tables.controls s.tables.controls fun k _ => k ∈ created
  mappings : Table.Extends db.tables.mappings s.tables.mappings fun _ m => m.controlId ∈ created
  versions : Table.Extends db.versions.rows.current s.versions.session.rows.current
    fun _ v => v.controlId ∈ created
  events : ∀ k ∈ db.versions.rows.current,
    ofAggregate s.versions.session.events k = ofAggregate db.versions.events k

/-- Events of one version more do not matter to the others. -/
theorem ofAggregate_append_ne {events es : List ControlDefinitionLifecycle.Event} {k a : Id}
    (hes : ∀ e ∈ es, e.aggregate = a) (hne : a ≠ k) :
    ofAggregate (events ++ es) k = ofAggregate events k := by
  have hnil : ofAggregate es k = [] :=
    List.filter_eq_nil_iff.2 fun e he => by simpa [hes e he] using hne
  rw [ofAggregate, List.filter_append]
  show ofAggregate events k ++ ofAggregate es k = _
  rw [hnil, List.append_nil]

/-- A turn for another requirement leaves a starter control as it is. -/
theorem IsStarter.of_added (h : IsStarter db s.database x c)
    (hadd : Added requirement s controlId s') : IsStarter db s'.database x c := by
  have hne : controlId ≠ c := by
    rintro rfl
    exact hadd.new (Table.mem_of_get h.row)
  obtain ⟨k, hk⟩ := h.mapped
  obtain ⟨k', v, hv, hdraft, hst, hbodies⟩ := h.versioned
  obtain ⟨m, hm, hmappings⟩ := hadd.mappings
  obtain ⟨w, hw, u, hrows, hu, -, es, hes, haggregate, -⟩ := hadd.versions
  refine ⟨h.absent, ?_, ⟨k, ?_⟩, ⟨k', v, ?_, hdraft, hst, ?_⟩⟩
  · show s'.tables.controls[c]? = _
    rw [hadd.controls, Table.get_insert_ne hne]
    exact h.row
  · show Table.OnlyRow s'.tables.mappings _ _ _
    rw [hmappings]
    exact hk.insert hm hne
  · show Table.OnlyRow s'.versions.session.rows.current _ _ _
    rw [hrows]
    refine hv.insert hw ?_
    rw [show u.controlId = controlId from congrArg Draft.controlId hu]
    exact hne
  · show (ofAggregate s'.versions.session.events k').map _ = _
    rw [hes, ofAggregate_append_ne haggregate]
    · exact hbodies
    · rintro rfl
      exact hw (Table.mem_of_get hv.get.1)

/-- What a turn adds is a starter control. -/
theorem Ready.isStarter (h : Ready env s) (hadd : Added requirement s controlId s')
    (hnew : controlId ∉ db.tables.controls) : IsStarter db s'.database requirement controlId := by
  obtain ⟨m, hm, hmappings⟩ := hadd.mappings
  obtain ⟨w, hw, u, hrows, hu, hst, es, hes, haggregate, hbodies⟩ := hadd.versions
  have hcontrol : u.controlId = controlId := congrArg Draft.controlId hu
  refine ⟨hnew, ?_, ⟨m, ?_⟩, ⟨w, u, ?_, hu, hst, ?_⟩⟩
  · show s'.tables.controls[controlId]? = _
    rw [hadd.controls]
    exact Table.get_insert_self
  · show Table.OnlyRow s'.tables.mappings _ _ _
    rw [hmappings]
    refine Table.onlyRow_insert hm (fun a r hr hp => ?_) rfl
    exact hadd.new (hp ▸ h.mappedControl a r hr)
  · show Table.OnlyRow s'.versions.session.rows.current _ _ _
    rw [hrows]
    refine Table.onlyRow_insert hw (fun a r hr hp => ?_) hcontrol
    exact hadd.new (hp ▸ h.versionControl a r hr)
  · show (ofAggregate s'.versions.session.events w).map _ = _
    have hnil : ofAggregate s.versions.session.events w = [] :=
      List.filter_eq_nil_iff.2 fun e he => by
        simpa using fun heq : e.aggregate = w =>
          hw (heq ▸ h.versions.within.session.inv.known e he)
    have hall : ofAggregate es w = es :=
      List.filter_eq_self.2 fun e he => by simpa using haggregate e he
    rw [hes, ofAggregate, List.filter_append]
    show (ofAggregate s.versions.session.events w ++ ofAggregate es w).map _ = _
    rw [hnil, hall, List.nil_append, hbodies]

/-- Another requirement is done. -/
theorem Progress.added {requirements : Table (List (Id × FrameworkRequirement))}
    (h : Progress env db requirements done created s) (hadd : Added x s c s')
    (hready : Ready env s') :
    Progress env db requirements (done ++ [x]) (created ++ [c]) s' := by
  have hnotmem : c ∉ created := by
    intro hmem
    obtain ⟨y, -, hy⟩ := List.Forall₂.exists_of_mem_right h.starters hmem
    exact hadd.new (Table.mem_of_get hy.row)
  have hnew : c ∉ db.tables.controls := by
    intro hmem
    obtain ⟨r, hr⟩ := Table.exists_get hmem
    exact hadd.new (Table.mem_of_get (h.controls.kept c r hr))
  obtain ⟨m, hm, hmappings⟩ := hadd.mappings
  obtain ⟨w, hw, u, hrows, hu, -, es, hes, haggregate, -⟩ := hadd.versions
  have hcontrol : u.controlId = c := congrArg Draft.controlId hu
  refine ⟨hready, hadd.loaded.trans h.loaded, hadd.requirements.trans h.requirements, ?_, ?_, ?_,
    ?_, ?_, ?_⟩
  · exact List.rel_append (h.starters.imp fun _ _ hy => hy.of_added hadd)
      (.cons (h.ready.isStarter hadd hnew) .nil)
  · exact List.nodup_append.2 ⟨h.nodup, List.nodup_singleton c, fun a ha b hb heq =>
      hnotmem (List.mem_singleton.1 hb ▸ heq ▸ ha)⟩
  · rw [hadd.controls]
    exact h.controls.insert hadd.new (fun a r ha => List.mem_append_left _ ha) (by simp)
  · rw [hmappings]
    exact h.mappings.insert hm (fun a r ha => List.mem_append_left _ ha) (by simp)
  · rw [hrows]
    exact h.versions.insert hw (fun a r ha => List.mem_append_left _ ha) (by simp [hcontrol])
  · intro k hk
    obtain ⟨r, hr⟩ := Table.exists_get hk
    rw [hes, ofAggregate_append_ne haggregate]
    · exact h.events k hk
    · rintro rfl
      exact hw (Table.mem_of_get (h.versions.kept _ r hr))

/-- The loop, if the column holds the names of the new controls. -/
theorem Progress.fold {requirements : Table (List (Id × FrameworkRequirement))}
    (hinj : Function.Injective env.newId) (framework : Framework) (actor : String)
    {mapped : List Id} (l : List (Id × FrameworkRequirement))
    (hl : ∀ x ∈ l, x.1 ∈ db.tables.requirements)
    (hheld : ∀ x ∈ l, x.1 ∉ mapped → env.holds (starterName x.2))
    (h : Progress env db requirements done created s) :
    ∃ created' s', l.foldlM (env.generateUnlessMapped framework actor mapped) (created, s) =
        .ok (created', s') ∧
      Progress env db requirements (done ++ l.filter fun x => x.1 ∉ mapped) created' s' := by
  -- Over the requirements: one that is mapped is passed over, the others get a control.
  induction l generalizing done created s with
  | nil =>
    refine ⟨created, s, rfl, ?_⟩
    rw [List.filter_nil, List.append_nil]
    exact h
  | cons x l ih =>
    rw [List.forall_mem_cons] at hl hheld
    by_cases hx : x.1 ∈ mapped
    · obtain ⟨created', s', hfold, hprogress⟩ := ih hl.2 hheld.2 h
      refine ⟨created', s', ?_, ?_⟩
      · rw [List.foldlM_cons, Environment.generateUnlessMapped, if_pos hx, Except.ok_bind, hfold]
      · rw [List.filter_cons_of_neg (by simpa using hx)]
        exact hprogress
    · obtain ⟨c, s₁, hturn, hadd, hready⟩ := h.ready.generateStarterControl hinj framework actor
        (by rw [h.requirements]; exact hl.1) (hheld.1 hx)
      obtain ⟨created', s', hfold, hprogress⟩ := ih hl.2 hheld.2 (h.added hadd hready)
      refine ⟨created', s', ?_, ?_⟩
      · rw [List.foldlM_cons, Environment.generateUnlessMapped, if_neg hx, hturn]
        exact hfold
      · rw [List.filter_cons_of_pos (by simpa using hx), List.append_cons]
        exact hprogress

/-- The loop raises at the first name that the column does not hold. -/
theorem Ready.fold_eq_error (hinj : Function.Injective env.newId) (framework : Framework)
    (actor : String) {mapped : List Id} (l : List (Id × FrameworkRequirement))
    (hl : ∀ x ∈ l, x.1 ∈ s.tables.requirements)
    (hnot : ∃ x ∈ l, x.1 ∉ mapped ∧ ¬ env.holds (starterName x.2)) (created : List Id)
    (h : Ready env s) :
    l.foldlM (env.generateUnlessMapped framework actor mapped) (created, s) =
      .error .dataError := by
  -- Over the requirements: the first name that does not fit ends the loop.
  induction l generalizing created s with
  | nil =>
    obtain ⟨x, hx, -⟩ := hnot
    cases hx
  | cons x l ih =>
    rw [List.forall_mem_cons] at hl
    rw [List.foldlM_cons, Environment.generateUnlessMapped]
    by_cases hx : x.1 ∈ mapped
    · rw [if_pos hx, Except.ok_bind]
      refine ih hl.2 ?_ created h
      obtain ⟨y, hy, hunmapped, hheld⟩ := hnot
      rcases List.mem_cons.1 hy with rfl | hy
      · exact absurd hx hunmapped
      · exact ⟨y, hy, hunmapped, hheld⟩
    · rw [if_neg hx]
      by_cases hheld : env.holds (starterName x.2)
      · obtain ⟨c, s₁, hturn, hadd, hready⟩ :=
          h.generateStarterControl hinj framework actor hl.1 hheld
        rw [hturn]
        refine ih (fun y hy => ?_) ?_ (created ++ [c]) hready
        · rw [hadd.requirements]
          exact hl.2 y hy
        obtain ⟨y, hy, hunmapped, hnot⟩ := hnot
        rcases List.mem_cons.1 hy with rfl | hy
        · exact absurd hheld hnot
        · exact ⟨y, hy, hunmapped, hnot⟩
      · rw [h.generateStarterControl_eq_error framework actor hheld]
        rfl

/-- The loop creates nothing if every requirement has a mapping. -/
theorem fold_mapped (framework : Framework) (actor : String) {mapped : List Id}
    (l : List (Id × FrameworkRequirement)) (hl : ∀ x ∈ l, x.1 ∈ mapped) (created : List Id)
    (s : StarterSession) :
    l.foldlM (env.generateUnlessMapped framework actor mapped) (created, s) =
      .ok (created, s) := by
  induction l with
  | nil => rfl
  | cons x l ih =>
    rw [List.forall_mem_cons] at hl
    rw [List.foldlM_cons, Environment.generateUnlessMapped, if_pos hl.1, Except.ok_bind, ih hl.2]

end Loop

/-! ## The gap -/

section Gap

variable {env : Environment} {db new : Database} {tables : Tables} {framework : Framework}
  {frameworkId id : Id} {x : Id × FrameworkRequirement} {created : List Id}

/-- The requirements of a framework are the rows that name it. -/
theorem mem_requirementsOf (env : Environment) : x ∈ env.requirementsOf tables frameworkId ↔
    tables.requirements[x.1]? = some x.2 ∧ x.2.frameworkId = frameworkId := by
  rw [Environment.requirementsOf, List.mem_insertionSort, List.mem_filter, decide_eq_true_eq,
    Std.ExtTreeMap.mem_toList_iff_getElem?_eq_some]

/-- No requirement is listed twice. -/
theorem nodup_requirementsOf : (env.requirementsOf tables frameworkId).Nodup :=
  (List.perm_insertionSort _ _).nodup_iff.2 ((Table.nodup_toList _).filter _)

/-- A requirement counts as mapped when a mapping names it. -/
theorem mem_mappedRequirementIds : id ∈ tables.mappedRequirementIds frameworkId ↔
    (∃ (k : Id) (m : ControlRequirementMapping), tables.mappings[k]? = some m ∧
      m.requirementId = id) ∧
      ∃ r, tables.requirements[id]? = some r ∧ r.frameworkId = frameworkId := by
  rw [Tables.mappedRequirementIds, List.mem_filterMap]
  constructor
  · rintro ⟨y, hy, hid⟩
    -- A mapping may name a requirement of another framework.
    cases hr : tables.requirements[y.2.requirementId]? with
    | none => simp [hr] at hid
    | some r =>
      simp only [hr, Option.ite_none_right_eq_some, Option.some.injEq] at hid
      obtain ⟨hframework, rfl⟩ := hid
      exact ⟨⟨y.1, y.2, Std.ExtTreeMap.mem_toList_iff_getElem?_eq_some.1 hy, rfl⟩, r, hr,
        hframework⟩
  · rintro ⟨⟨k, m, hm, rfl⟩, r, hr, hframework⟩
    refine ⟨(k, m), Std.ExtTreeMap.mem_toList_iff_getElem?_eq_some.2 hm, ?_⟩
    simp [hr, hframework]

/-- The requirements for which the loop creates a control. -/
theorem mem_gap (env : Environment) : x ∈ (env.requirementsOf tables frameworkId).filter
    (fun x => x.1 ∉ tables.mappedRequirementIds frameworkId) ↔ Uncovered tables frameworkId x := by
  rw [List.mem_filter, mem_requirementsOf, decide_eq_true_eq, mem_mappedRequirementIds]
  constructor
  · rintro ⟨⟨hrow, hframework⟩, hnot⟩
    exact ⟨hrow, hframework, fun k m hm heq => hnot ⟨⟨k, m, hm, heq⟩, x.2, hrow, hframework⟩⟩
  · rintro ⟨hrow, hframework, hunmapped⟩
    exact ⟨⟨hrow, hframework⟩, fun ⟨⟨k, m, hm, heq⟩, _⟩ => hunmapped k m hm heq⟩

/-- After the generation every requirement of the framework has a mapping. -/
theorem FillsGap.mapped (h : FillsGap frameworkId db created new)
    (hx : x ∈ env.requirementsOf new.tables frameworkId) :
    x.1 ∈ new.tables.mappedRequirementIds frameworkId := by
  obtain ⟨hrow, hframework⟩ := (mem_requirementsOf env).1 hx
  refine mem_mappedRequirementIds.2 ⟨?_, x.2, hrow, hframework⟩
  obtain ⟨gap, -, hgap, hstarters⟩ := h.starters
  -- A requirement without a mapping gets one, the others have theirs.
  by_cases hunmapped : ∀ (k : Id) m, db.tables.mappings[k]? = some m → m.requirementId ≠ x.1
  · have hmem : x ∈ gap := (hgap x).2 ⟨by rw [← h.requirements, hrow], hframework, hunmapped⟩
    obtain ⟨c, -, hc⟩ := (List.Forall₂.flip (R := fun c x => IsStarter db new x c)
      hstarters).exists_of_mem_right hmem
    obtain ⟨k, hk⟩ := hc.mapped
    exact ⟨k, _, hk.get.1, rfl⟩
  · push Not at hunmapped
    obtain ⟨k, m, hm, heq⟩ := hunmapped
    exact ⟨k, m, h.mappings.kept k m hm, heq⟩

end Gap

/-! ## The generation -/

section Generation

variable {env : Environment} {db : Database} {framework : Framework} {actor : String}

/-- A consistent database makes a session that is ready. -/
theorem Consistent.ready (h : Consistent env.clock db) (hids : NewIds env db) (frameworkId : Id) :
    Ready env (env.loadRequirements (.start db) frameworkId) := by
  have hwithin : Within env.clock db.versions := h.versions.toWithin
  have hcommitted : Within env.clock
      ⟨Tracked.clean db.versions.rows.current, db.versions.events, db.versions.ticks⟩ := by
    rw [← h.versions.clean]
    exact hwithin
  have hinv : InStep env.clock (StarterSession.start db).versions := by
    refine ⟨⟨⟨_, hwithin⟩, ?_, ⟨_, hcommitted⟩, ?_, fun c ids hc => ?_⟩, hwithin⟩
    · show ControlDefinitionLifecycle.LoadedSession.Projected _ (Tracked.clean
        db.versions.rows.stored) _
      rw [h.versions.clean]
      exact ⟨_, hcommitted⟩
    · show ControlDefinitionLifecycle.LoadedSession.Pending db.versions.rows
      rw [h.versions.clean]
      exact ControlDefinitionLifecycle.LoadedSession.pending_clean _
    · simp [StarterSession.start] at hc
  unfold Environment.loadRequirements
  rw [if_neg (by simp [StarterSession.start])]
  exact ⟨hinv, rfl, rfl, h.mappedControl, h.versionControl,
    fun n _ => ⟨hids.controls n, hids.mappings n, hids.versions n⟩⟩

/-- The loaded requirements are the framework's. -/
theorem requirements_loadRequirements (frameworkId : Id) :
    (env.loadRequirements (.start db) frameworkId).requirements[frameworkId]? =
      some (env.requirementsOf db.tables frameworkId) := by
  unfold Environment.loadRequirements
  rw [if_neg (by simp [StarterSession.start])]
  exact Table.get_insert_self

/-- Loading writes nothing. -/
theorem tables_loadRequirements (s : StarterSession) (frameworkId : Id) :
    (env.loadRequirements s frameworkId).tables = s.tables := by
  unfold Environment.loadRequirements
  split <;> rfl

/-- The generation in a new session. -/
theorem generate_start (framework : Framework) (actor : String) (db : Database) :
    env.generateStarterControlsForFramework framework actor (.start db) =
      (env.requirementsOf db.tables framework.id).foldlM
        (env.generateUnlessMapped framework actor (db.tables.mappedRequirementIds framework.id))
        ([], env.loadRequirements (.start db) framework.id) := by
  rw [Environment.generateStarterControlsForFramework]
  simp only [requirements_loadRequirements, Option.getD_some]
  rfl

/-- A requirement of the framework is a row. -/
theorem mem_requirements_of_requirementsOf {tables : Tables} {x : Id × FrameworkRequirement}
    {frameworkId : Id} (hx : x ∈ env.requirementsOf tables frameworkId) :
    x.1 ∈ tables.requirements :=
  Table.mem_of_get ((mem_requirementsOf env).1 hx).1

/-- A generation that returns has written the names of all controls that were missing. -/
theorem held_of_fills (hdb : Consistent env.clock db) (hids : NewIds env db)
    (h : Fills env framework actor db) {x : Id × FrameworkRequirement}
    (hx : Uncovered db.tables framework.id x) : env.holds (starterName x.2) := by
  obtain ⟨created, s, new, hgenerate, -⟩ := h
  by_contra hheld
  have hgap := (mem_gap env).2 hx
  rw [List.mem_filter, decide_eq_true_eq] at hgap
  have hrequirements : ∀ y ∈ env.requirementsOf db.tables framework.id,
      y.1 ∈ (env.loadRequirements (.start db) framework.id).tables.requirements := by
    rw [tables_loadRequirements]
    exact fun y hy => mem_requirements_of_requirementsOf hy
  rw [generate_start, (hdb.ready hids framework.id).fold_eq_error hids.injective framework actor _
    hrequirements ⟨x, hgap.1, hgap.2, hheld⟩] at hgenerate
  cases hgenerate

/-- The generation creates exactly what is missing if and only if the column holds the names of
    the controls that are missing. -/
theorem fills_iff (hdb : Consistent env.clock db) (hids : NewIds env db) :
    Fills env framework actor db ↔
      ∀ x, Uncovered db.tables framework.id x → env.holds (starterName x.2) := by
  have hready := hdb.ready hids framework.id
  have htables : (env.loadRequirements (.start db) framework.id).tables = db.tables :=
    tables_loadRequirements ..
  constructor
  · exact fun h x hx => held_of_fills hdb hids h hx
  · intro hheld
    have hstart : Progress env db (env.loadRequirements (.start db) framework.id).requirements [] []
        (env.loadRequirements (.start db) framework.id) := by
      have hversions : (env.loadRequirements (.start db) framework.id).versions.session =
          db.versions := by
        unfold Environment.loadRequirements
        split <;> rfl
      refine ⟨hready, rfl, by rw [htables], .nil, List.nodup_nil, ?_, ?_, ?_, ?_⟩
      · rw [htables]
        exact .refl ..
      · rw [htables]
        exact .refl ..
      · rw [hversions]
        exact .refl ..
      · rw [hversions]
        exact fun _ _ => rfl
    obtain ⟨created, s, hfold, h⟩ := hstart.fold hids.injective framework actor
      (env.requirementsOf db.tables framework.id)
      (fun x hx => mem_requirements_of_requirementsOf hx)
      (fun x hx hnot => hheld x ((mem_gap env).1 (List.mem_filter.2 ⟨hx, decide_eq_true hnot⟩)))
    rw [List.nil_append] at h
    have hfills : FillsGap framework.id db created ⟨s.flushed.tables, s.flushed.versions.session⟩ :=
      ⟨⟨_, nodup_requirementsOf.filter _, fun x => mem_gap env,
          h.starters.imp fun _ _ hx => ⟨hx.absent, hx.row, hx.mapped, hx.versioned⟩⟩,
        h.nodup, h.requirements, h.controls, h.mappings, h.versions, h.events⟩
    refine ⟨created, s, ⟨s.flushed.tables, s.flushed.versions.session⟩, ?_, ?_, hfills, ?_, ?_⟩
    · rw [generate_start]
      exact hfold
    · rw [Environment.commit, flush_eq h.ready.settled h.ready.newControls h.ready.newMappings]
      rfl
    · intro actor'
      -- the session has the requirements of the first call
      have hloaded : s.requirements[framework.id]? =
          some (env.requirementsOf db.tables framework.id) := by
        rw [h.loaded, requirements_loadRequirements]
      have hload : env.loadRequirements s framework.id = s := by
        rw [Environment.loadRequirements, if_pos (Table.mem_of_get hloaded)]
      rw [Environment.generateStarterControlsForFramework]
      simp only [hload, hloaded, Option.getD_some]
      refine fold_mapped framework actor' _ (fun x hx => ?_) [] s
      refine hfills.mapped ((mem_requirementsOf env).2 ?_)
      obtain ⟨hrow, hframework⟩ := (mem_requirementsOf env).1 hx
      exact ⟨by rw [hfills.requirements, hrow], hframework⟩
    · intro env' actor'
      rw [generate_start]
      exact fold_mapped framework actor' _ (fun x hx => hfills.mapped hx) [] _

end Generation

/-! ## A name that does not fit -/

/-- A database of the kind that refuses what is longer than 255 characters. -/
def postgres : Environment where
  clock := tickingClock
  newId n := n + 100
  holds text := text.length ≤ 255
  textLe a b := a ≤ b

/-- How long the name of a starter control is. -/
theorem length_starterName (requirement : FrameworkRequirement) :
    (starterName requirement).length =
      22 + requirement.referenceCode.length + requirement.title.length := by
  have hfor : "Starter control for ".length = 20 := by decide +kernel
  have hcolon : ": ".length = 2 := by decide +kernel
  unfold starterName
  rw [String.length_append, String.length_append, String.length_append]
  rw [hfor]
  rw [hcolon]
  generalize requirement.referenceCode.length = m
  generalize requirement.title.length = n
  -- so that `omega` does not evaluate the texts
  clear hfor hcolon
  omega

/-- PostgreSQL holds no name that is too long. -/
theorem not_holds_of_lt_length {requirement : FrameworkRequirement}
    (h : 233 < requirement.referenceCode.length + requirement.title.length) :
    ¬ postgres.holds (starterName requirement) := by
  intro hheld
  have hlength := of_decide_eq_true hheld
  rw [length_starterName] at hlength
  omega

/-- One framework with one requirement, no controls. -/
def sampleDatabase (title : String) : Database where
  tables := {
    requirements := (∅ : Table FrameworkRequirement).insert 2 ⟨1, "CC6.1", title, 0⟩
    controls := ∅
    mappings := ∅ }
  versions := ControlDefinitionLifecycle.initial

/-- The sample database is consistent. -/
theorem consistent_sampleDatabase (title : String) :
    Consistent postgres.clock (sampleDatabase title) where
  mappedControl k m hm := by simp [sampleDatabase] at hm
  versionControl k v hv := by simp [sampleDatabase, ControlDefinitionLifecycle.initial] at hv
  versions := ControlDefinitionLifecycle.between_initial

/-- The new identifiers of the sample are unused. -/
theorem newIds_sampleDatabase (title : String) : NewIds postgres (sampleDatabase title) where
  injective _ _ h := Nat.add_right_cancel h
  controls _ := Std.ExtTreeMap.not_mem_empty
  mappings _ := Std.ExtTreeMap.not_mem_empty
  versions _ := Std.ExtTreeMap.not_mem_empty

/-- The sample requirement has no control. -/
theorem uncovered_sampleDatabase (title : String) :
    Uncovered (sampleDatabase title).tables 1 (2, ⟨1, "CC6.1", title, 0⟩) where
  row := Table.get_insert_self
  framework := rfl
  unmapped k m hm := by simp [sampleDatabase] at hm

/-- The title has 240 characters and fits into its column, but not with what the name of the
    control puts before it. -/
theorem not_fills_of_long_title :
    ¬ Fills postgres ⟨1, "SOC 2"⟩ "system"
      (sampleDatabase (String.ofList (.replicate 240 'A'))) := by
  intro h
  have hheld := held_of_fills (consistent_sampleDatabase _) (newIds_sampleDatabase _) h
    (uncovered_sampleDatabase _)
  have hcode : "CC6.1".length = 5 := by decide +kernel
  have htitle : (String.ofList (.replicate 240 'A')).length = 240 :=
    String.length_ofList.trans List.length_replicate
  have hlt : ∀ m n : Nat, m = 5 → n = 240 → 233 < m + n := by omega
  revert hheld
  exact not_holds_of_lt_length (hlt _ _ hcode htitle)

/-- `fills_iff` for a title that leaves room. -/
theorem fills_iff_sampleDatabase :
    Fills postgres ⟨1, "SOC 2"⟩ "system" (sampleDatabase "Logical access") ↔
      ∀ x, Uncovered (sampleDatabase "Logical access").tables 1 x →
        postgres.holds (starterName x.2) :=
  fills_iff (consistent_sampleDatabase _) (newIds_sampleDatabase _)

end MiniGrc.StarterControls
