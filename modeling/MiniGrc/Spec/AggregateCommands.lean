import MiniGrc.App.ComplianceScope
import MiniGrc.App.EvidenceRepository
import MiniGrc.App.FindingLifecycle
import MiniGrc.App.FrameworkAdoption
import MiniGrc.Spec.Aggregates

/-!
# The commands on aggregates with a row each

The aggregate types of occurrences, evidence-artifact versions, tests, the scope, findings
and adoptions are lawful, and their commands do nothing but append. Whenever link rows are
flushed, the rows of occurrences, tests and findings are the same up to `created_at` of their
links.
-/

namespace MiniGrc

open Events AggregateType

variable {clock : Clock} {flushed flushed' : FlushTimes}

/-! ## Links -/

namespace Link

/-- The link with a blank `created_at`. -/
def unstamped (link : Link) : Link := { link with createdAt := 0 }

@[simp] theorem target_unstamped (link : Link) : link.unstamped.target = link.target := rfl

/-- Links without their times have the same targets. -/
@[simp] theorem map_target_unstamped (links : List Link) :
    (links.map unstamped).map target = links.map target := by
  simp [Function.comp_def]

@[simp] theorem unstamped_addedBy {β : Type} (event : DomainEvent Id β String) (id : Id) :
    (addedBy flushed event id).unstamped = addedBy (fun _ _ => 0) event id := rfl

variable {β : Type} {es : List (DomainEvent Id β String)}
  {linked : DomainEvent Id β String → Option Id}

/-- The links that events have added are the same whenever these were flushed, only if each was
    flushed at the same time. -/
theorem filterMap_addedBy_eq_iff :
    (es.filterMap fun e => (linked e).map (addedBy flushed e)) =
        (es.filterMap fun e => (linked e).map (addedBy flushed' e)) ↔
      ∀ e ∈ es, linked e ≠ none →
        flushed' e.aggregate e.aggregateSequence = flushed e.aggregate e.aggregateSequence := by
  induction es with
  | nil => simp
  | cons e es ih =>
    rw [List.forall_mem_cons, ← ih]
    cases hlinked : linked e with
    | none => simp [hlinked]
    | some id => simp [hlinked, addedBy, eq_comm]

/-- Links that are flushed later are the same only if there are none. -/
theorem eq_nil_of_filterMap_addedBy (hlater : ∀ k n, flushed k n < flushed' k n)
    (h : (es.filterMap fun e => (linked e).map (addedBy flushed e)) =
      es.filterMap fun e => (linked e).map (addedBy flushed' e)) :
    (es.filterMap fun e => (linked e).map (addedBy flushed e)) = [] := by
  rw [List.filterMap_eq_nil_iff]
  intro e he
  have hnone : linked e = none := by
    by_contra hsome
    exact Nat.ne_of_gt (hlater _ _) (filterMap_addedBy_eq_iff.1 h e he hsome)
  simp [hnone]

end Link

/-! ## Occurrences -/

namespace ControlOccurrences

variable {P : Projection (Table ControlOccurrence) Body} {s : OccurrenceSession}

/-- An update leaves the control, the period and the due date as they are. -/
theorem row_update {o o' : ControlOccurrence} {e : Event} (h : row flushed (some o) e = .ok o') :
    o'.controlId = o.controlId ∧ o'.controlPeriodId = o.controlPeriodId ∧ o'.dueAt = o.dueAt := by
  -- No event on an occurrence that exists writes what makes it unique.
  cases hb : e.body with
  | materialized payload => simp [row, hb] at h
  | recordedManually payload => simp [row, hb] at h
  | performed payload =>
    obtain rfl : projectPerformed e payload o = o' := by simpa [row, hb] using h
    exact ⟨rfl, rfl, rfl⟩
  | evidenceLinked id =>
    simp only [row, hb] at h
    split at h
    · cases h
    · obtain rfl := Except.ok.inj h
      exact ⟨rfl, rfl, rfl⟩
  | evidenceArtifactLinked id =>
    simp only [row, hb] at h
    split at h
    · cases h
    · obtain rfl := Except.ok.inj h
      exact ⟨rfl, rfl, rfl⟩

/-- Occurrences conflict symmetrically. -/
theorem lawful : Lawful (aggregateType flushed) where
  symm o o' := by
    refine decide_eq_decide.2 ⟨?_, ?_⟩ <;> rintro ⟨hc, hp, hne, hd⟩ <;>
      exact ⟨hc.symm, hp.symm, hd ▸ hne, hd.symm⟩
  conflict o e o' h x := by
    obtain ⟨hc, hp, hd⟩ := row_update h
    simp only [aggregateType, constraints, hc, hp, hd]
  refs _ _ _ _ := rfl

/-- The occurrence without the times at which its links were flushed. -/
def ControlOccurrence.unstamped (o : ControlOccurrence) : ControlOccurrence :=
  { o with
    evidence := o.evidence.map Link.unstamped
    evidenceArtifacts := o.evidenceArtifacts.map Link.unstamped }

/-- The evidence is the same without the times of its links. -/
@[simp] theorem evidenceSnapshotIds_unstamped (o : ControlOccurrence) :
    o.unstamped.evidenceSnapshotIds = o.evidenceSnapshotIds :=
  Link.map_target_unstamped o.evidence

/-- The artifacts are the same without the times of their links. -/
@[simp] theorem evidenceArtifactVersionIds_unstamped (o : ControlOccurrence) :
    o.unstamped.evidenceArtifactVersionIds = o.evidenceArtifactVersionIds :=
  Link.map_target_unstamped o.evidenceArtifacts

/-- Without a link there is no time to lose. -/
theorem unstamped_eq_self {o : ControlOccurrence} (h : o.evidence = [])
    (h' : o.evidenceArtifacts = []) : o.unstamped = o := by
  cases o
  cases h
  cases h'
  rfl

/-- The projector reads no time of a link. -/
theorem row_unstamped (x : Option ControlOccurrence) (e : Event) :
    (row flushed x e).map ControlOccurrence.unstamped =
      row (fun _ _ => 0) (x.map ControlOccurrence.unstamped) e := by
  -- An event creates a row without links, or adds one to those it finds.
  cases x with
  | none => cases hb : e.body <;> simp [row, hb, Except.map] <;> rfl
  | some o =>
    cases hb : e.body with
    | evidenceLinked id =>
      simp only [row, hb, Option.map_some, evidenceSnapshotIds_unstamped]
      split
      · rfl
      · simp [Except.map, ControlOccurrence.unstamped]
    | evidenceArtifactLinked id =>
      simp only [row, hb, Option.map_some, evidenceArtifactVersionIds_unstamped]
      split
      · rfl
      · simp [Except.map, ControlOccurrence.unstamped]
    | _ => simp [row, hb, Except.map] <;> rfl

/-- Erasing the times of the links commutes with the projection. -/
theorem erases : Erases (aggregateType flushed) (aggregateType fun _ _ => 0)
    ControlOccurrence.unstamped where
  row := row_unstamped
  foreignKeys o := by
    show foreignKeys o = foreignKeys o.unstamped
    unfold foreignKeys
    rw [evidenceSnapshotIds_unstamped, evidenceArtifactVersionIds_unstamped]
    rfl
  conflict _ _ := rfl
  refs _ := rfl

/-- Whenever links are flushed, the rows agree. -/
theorem agree (flushed flushed' : FlushTimes) :
    Agree (aggregateType flushed) (aggregateType flushed') ControlOccurrence.unstamped :=
  erases.agree erases

/-- The evidence snapshot that an event links to its occurrence. -/
def Body.evidenceSnapshot : Body → Option Id
  | .evidenceLinked id => some id
  | _ => none

/-- The evidence-artifact version that an event links to its occurrence. -/
def Body.evidenceArtifact : Body → Option Id
  | .evidenceArtifactLinked id => some id
  | _ => none

/-- An event adds the links that it records, and no other event touches them. -/
theorem row_links {x : Option ControlOccurrence} {e : Event} {o : ControlOccurrence}
    (h : row flushed x e = .ok o) :
    o.evidence = x.elim [] (·.evidence) ++
        (e.body.evidenceSnapshot.map (Link.addedBy flushed e)).toList ∧
      o.evidenceArtifacts = x.elim [] (·.evidenceArtifacts) ++
        (e.body.evidenceArtifact.map (Link.addedBy flushed e)).toList := by
  -- The two link events add one link each; every other one leaves them.
  cases x with
  | none =>
    cases hb : e.body <;> simp only [row, hb] at h <;> cases h <;> exact ⟨rfl, rfl⟩
  | some before =>
    cases hb : e.body with
    | evidenceLinked id =>
      simp only [row, hb] at h
      split at h <;> cases h
      simp [Body.evidenceSnapshot, Body.evidenceArtifact]
    | evidenceArtifactLinked id =>
      simp only [row, hb] at h
      split at h <;> cases h
      simp [Body.evidenceSnapshot, Body.evidenceArtifact]
    | performed payload =>
      obtain rfl : projectPerformed e payload before = o := by simpa [row, hb] using h
      simp [projectPerformed, Body.evidenceSnapshot, Body.evidenceArtifact]
    | _ => simp [row, hb] at h

/-- The links of an occurrence are those that its events record. -/
theorem links_of_rowAfter {es : List Event} {o : ControlOccurrence}
    (h : (aggregateType flushed).rowAfter es = .ok (some o)) :
    o.evidence = es.filterMap (fun e => e.body.evidenceSnapshot.map (Link.addedBy flushed e)) ∧
      o.evidenceArtifacts =
        es.filterMap fun e => e.body.evidenceArtifact.map (Link.addedBy flushed e) :=
  ⟨column_of_rowAfter (fun _ _ _ hrow => (row_links hrow).1) h,
    column_of_rowAfter (fun _ _ _ hrow => (row_links hrow).2) h⟩

/-- An occurrence whose links are flushed later is the same only if it has none. -/
theorem restamped_eq_iff {es : List Event} {o o' : ControlOccurrence}
    (h : (aggregateType flushed).rowAfter es = .ok (some o))
    (h' : (aggregateType flushed').rowAfter es = .ok (some o'))
    (herase : o.unstamped = o'.unstamped) (hlater : ∀ k n, flushed k n < flushed' k n) :
    o' = o ↔ o.evidence = [] ∧ o.evidenceArtifacts = [] := by
  obtain ⟨hevidence, hartifacts⟩ := links_of_rowAfter h
  obtain ⟨hevidence', hartifacts'⟩ := links_of_rowAfter h'
  -- Equal rows have equal links, and a link is stamped later by `hlater`.
  constructor
  · rintro rfl
    have hsame := Link.eq_nil_of_filterMap_addedBy hlater (hevidence.symm.trans hevidence')
    have hsame' := Link.eq_nil_of_filterMap_addedBy hlater (hartifacts.symm.trans hartifacts')
    exact ⟨hevidence.trans hsame, hartifacts.trans hsame'⟩
  · rintro ⟨hnil, hnil'⟩
    have hnone : o'.evidence = [] := by
      simpa [ControlOccurrence.unstamped, hnil] using congrArg (·.evidence) herase.symm
    have hnone' : o'.evidenceArtifacts = [] := by
      simpa [ControlOccurrence.unstamped, hnil'] using congrArg (·.evidenceArtifacts) herase.symm
    rw [← unstamped_eq_self hnil hnil', ← unstamped_eq_self hnone hnone', herase]

section Generate

variable {σ τ : Type} {start : σ} {round : Nat → Date → Id → σ → Outcome σ}
  {control : InternalControl} {period : Option ControlPeriod} {horizonMonths : Int} {today : Date}
  {newIds : Nat → Id}

/-- What holds of a generation that ends before its loop, and of every loop, holds of the
    generation. -/
theorem generateRounds_rule {Q : Outcome σ → Prop} (hreturned : Q (.returned start))
    (hraised : ∀ e, Q (.raised start e))
    (hloop : ∀ (interval : Int) (hinterval : 0 < interval.toNat) dates,
      control.cadenceType = some .calendar → control.cadenceIntervalMonths = some interval →
      (¬ ∃ p ∈ period, p.status ≠ .active) →
      computeDueDates s control.id interval.toNat hinterval period today horizonMonths =
        .ok dates →
      Q (dates.zipIdx.foldl (fun outcome x => outcome.andThen
        (round interval.toNat x.1 (newIds x.2))) (.returned start))) :
    Q (generateRounds s start round control period horizonMonths today newIds) := by
  unfold generateRounds
  -- The refusals come first, each with the session as it was.
  split
  · next interval htype hmonths =>
    split
    · next hinterval =>
      split
      · exact hraised _
      · next hactive =>
        split
        · exact hraised _
        · next dates hdates => exact hloop interval hinterval dates htype hmonths hactive hdates
    · exact hreturned
  · exact hreturned

/-- A part of what the loop carries along is carried along by itself. -/
theorem generateRounds_map (f : σ → τ) {round' : Nat → Date → Id → τ → Outcome τ}
    (hround : ∀ interval d newId x,
      (round interval d newId x).map f = round' interval d newId (f x)) :
    (generateRounds s start round control period horizonMonths today newIds).map f =
      generateRounds s (f start) round' control period horizonMonths today newIds := by
  have hfold : ∀ interval (l : List (Date × Nat)) (o : Outcome σ),
      (l.foldl (fun o x => o.andThen (round interval x.1 (newIds x.2))) o).map f =
        l.foldl (fun o x => o.andThen (round' interval x.1 (newIds x.2))) (o.map f) := by
    intro interval l
    -- Over the dates: a round that raises ends the loop on both sides.
    induction l with
    | nil => exact fun o => rfl
    | cons x l ih =>
      intro o
      rw [List.foldl_cons, List.foldl_cons, ih]
      congr 1
      cases o with
      | raised u e => rfl
      | returned u => exact hround interval x.1 (newIds x.2) u
  unfold generateRounds
  split
  · split
    · split
      · rfl
      · split
        · rfl
        · exact hfold ..
    · rfl
  · rfl

/-- The session that a generation leaves, without the list. -/
theorem generateOccurrences_session {version : Option Id} {actor : Actor} :
    (generateOccurrences P clock s control period horizonMonths today version newIds actor).map
        Prod.fst =
      generateRounds s s (fun interval d newId s => materialize P clock s control interval
        (period.map ControlPeriod.id) version actor d newId)
        control period horizonMonths today newIds := by
  refine generateRounds_map Prod.fst fun interval d newId r => ?_
  unfold materializeInto
  cases materialize P clock r.1 control interval (period.map ControlPeriod.id) version actor d
    newId <;> rfl

end Generate

/-- Every command is a script of appends. -/
theorem Command.run_script {effectiveVersion : Id → Option Id} (c : Command) :
    Script P clock s (c.run P clock s effectiveVersion) := by
  -- Every command checks first, then appends.
  cases c with
  | generate control period horizonMonths today newIds actor =>
    show Script P clock s ((generateOccurrences P clock s control period horizonMonths today _
      newIds actor).map Prod.fst)
    rw [generateOccurrences_session]
    exact generateRounds_rule (.returned s) (.raised s s) fun _ _ _ _ _ _ _ =>
      (Script.returned s).foldl _ fun _ _ => .append ..
  | recordManually id controlId controlPeriodId dueAt scopeNote actor =>
    unfold Command.run recordOccurrenceManually
    exact .append ..
  | perform id occurredAt performedByPersonId scopeNote evidenceNote actor =>
    unfold Command.run performOccurrence
    exact .append ..
  | linkEvidence id evidenceSnapshotId actor =>
    unfold Command.run ControlOccurrences.linkEvidence
    exact .append ..
  | linkEvidenceArtifactVersion id evidenceArtifactVersionId actor =>
    unfold Command.run ControlOccurrences.linkEvidenceArtifactVersion
    exact .append ..

end ControlOccurrences

/-! ## Evidence-artifact versions -/

namespace EvidenceRepository

variable {P : Projection (Table EvidenceArtifactVersion) Body} {s : EvidenceSession}

/-- Versions are not updated. -/
theorem row_update {v : EvidenceArtifactVersion} {e : Event} :
    row (some v) e = .error .integrityError := by
  cases hb : e.body with
  | captured payload => simp [row]

theorem lawful : Lawful aggregateType where
  symm v v' := decide_eq_decide.2 ⟨fun h => ⟨h.1.symm, h.2.symm⟩, fun h => ⟨h.1.symm, h.2.symm⟩⟩
  conflict v e v' h := by
    have h : row (some v) e = .ok v' := h
    rw [row_update] at h
    cases h
  refs _ _ _ _ := rfl

theorem Command.run_script (c : Command) : Script P clock s (c.run P clock s) := by
  cases c with
  | capture id artifactId file actor occurredAt =>
    show Script P clock s (captureEvidenceVersion P clock s id artifactId file actor occurredAt)
    unfold captureEvidenceVersion
    split
    · exact .returned s
    · exact .append ..

end EvidenceRepository

/-! ## Tests -/

namespace ControlTests

variable {P : Projection (Table ControlTest) Body} {s : TestSession}

/-- An update only adds a link. -/
theorem row_update {test test' : ControlTest} {e : Event}
    (h : row flushed (some test) e = .ok test') : test'.toRecorded = test.toRecorded := by
  cases hb : e.body with
  | recorded payload => simp [row, hb] at h
  | evidenceLinked id =>
    simp only [row, hb] at h
    split at h
    · cases h
    · obtain rfl := Except.ok.inj h
      rfl

theorem lawful : Lawful (aggregateType flushed) where
  symm _ _ := rfl
  conflict _ _ _ _ _ := rfl
  refs test e test' h := by
    simp only [aggregateType, constraints, row_update h]

/-- The test without the times at which its links were flushed. -/
def ControlTest.unstamped (test : ControlTest) : ControlTest :=
  { test with evidenceArtifacts := test.evidenceArtifacts.map Link.unstamped }

@[simp] theorem evidenceArtifactVersionIds_unstamped (test : ControlTest) :
    test.unstamped.evidenceArtifactVersionIds = test.evidenceArtifactVersionIds :=
  Link.map_target_unstamped test.evidenceArtifacts

theorem row_unstamped (x : Option ControlTest) (e : Event) :
    (row flushed x e).map ControlTest.unstamped =
      row (fun _ _ => 0) (x.map ControlTest.unstamped) e := by
  -- Without a row only a recording succeeds; a repeated link is refused either way.
  cases x with
  | none =>
    cases hb : e.body with
    | recorded payload =>
      simp only [row, hb, Option.map_none]
      rfl
    | evidenceLinked id => simp [row, hb, Except.map]
  | some test =>
    cases hb : e.body with
    | recorded payload => simp [row, hb, Except.map]
    | evidenceLinked id =>
      simp only [row, hb, Option.map_some, evidenceArtifactVersionIds_unstamped]
      split
      · rfl
      · simp [Except.map, ControlTest.unstamped]

theorem erases : Erases (aggregateType flushed) (aggregateType fun _ _ => 0)
    ControlTest.unstamped where
  row := row_unstamped
  foreignKeys test := by
    show foreignKeys test = foreignKeys test.unstamped
    unfold foreignKeys
    rw [evidenceArtifactVersionIds_unstamped]
    rfl
  conflict _ _ := rfl
  refs _ := rfl

/-- Whenever links are flushed, the rows agree. -/
theorem agree (flushed flushed' : FlushTimes) :
    Agree (aggregateType flushed) (aggregateType flushed') ControlTest.unstamped :=
  erases.agree erases

theorem Command.run_script {tables : Samples} (c : Command) :
    Script P clock s (c.run P clock tables s) := by
  cases c with
  | record args actor =>
    show Script P clock s (recordTest P clock tables s args actor)
    unfold recordTest
    split
    · exact .raised ..
    · exact .append ..
  | linkEvidence id evidenceArtifactVersionId actor =>
    unfold Command.run linkTestEvidence
    exact .append ..

end ControlTests

/-! ## The scope -/

namespace ComplianceScopes

variable {P : Projection (Table ComplianceScope) Body} {s : ScopeSession}

theorem lawful : Lawful aggregateType where
  symm _ _ := rfl
  conflict _ _ _ _ _ := rfl
  refs _ _ _ _ := rfl

theorem Command.run_script (c : Command) : Script P clock s (c.run P clock s) := by
  cases c with
  | defineOrRevise newId fields actor =>
    show Script P clock s (defineOrReviseScope P clock s newId fields actor)
    unfold defineOrReviseScope
    split
    · exact .raised ..
    · split
      · exact .raised ..
      · dsimp only
        split <;> exact .append ..

end ComplianceScopes

/-! ## Findings -/

namespace FindingLifecycle

variable {P : Projection (Table Finding) Body} {s : FindingSession} {id : Id} {actor : Actor}

theorem lawful : Lawful (aggregateType flushed) where
  symm _ _ := rfl
  conflict _ _ _ _ _ := rfl
  refs _ _ _ _ := rfl

/-- The finding without the times at which its retests were flushed. -/
def Finding.unstamped (finding : Finding) : Finding :=
  { finding with retests := finding.retests.map Link.unstamped }

@[simp] theorem retestTestIds_unstamped (finding : Finding) :
    finding.unstamped.retestTestIds = finding.retestTestIds :=
  Link.map_target_unstamped finding.retests

theorem row_unstamped (x : Option Finding) (e : Event) :
    (row flushed x e).map Finding.unstamped =
      row (fun _ _ => 0) (x.map Finding.unstamped) e := by
  cases x with
  | none =>
    cases hb : e.body with
    | opened payload =>
      simp only [row, hb, Option.map_none]
      rfl
    | _ => simp [row, hb, Except.map]
  | some finding =>
    cases hb : e.body with
    | retestRecorded testId testResult =>
      simp [row, hb, Except.map, projectRetestRecorded, Finding.unstamped]
    | _ => simp [row, hb, Except.map] <;> rfl

theorem erases : Erases (aggregateType flushed) (aggregateType fun _ _ => 0)
    Finding.unstamped where
  row := row_unstamped
  foreignKeys finding := by
    show foreignKeys finding = foreignKeys finding.unstamped
    unfold foreignKeys
    rw [retestTestIds_unstamped]
    rfl
  conflict _ _ := rfl
  refs _ := rfl

/-- Whenever retests are flushed, the rows agree. -/
theorem agree (flushed flushed' : FlushTimes) :
    Agree (aggregateType flushed) (aggregateType flushed') Finding.unstamped :=
  erases.agree erases

theorem checked_script {check : Finding → Except PyError Body} :
    Script P clock s (checked P clock s id actor check) := by
  unfold checked
  split
  · exact .raised ..
  · split
    · exact .raised ..
    · exact .append ..

theorem Command.run_script {tests : Table ControlTests.ControlTest} (c : Command) :
    Script P clock s (c.run P clock s tests) := by
  cases c with
  | openFinding id args actor =>
    show Script P clock s (FindingLifecycle.openFinding P clock s id actor args)
    unfold FindingLifecycle.openFinding
    split
    · exact .raised ..
    · exact .append ..
  | recordRemediationUpdate id note link actor => exact checked_script
  | requestRetest id actor => exact checked_script
  | recordRetest id testId actor =>
    show Script P clock s (FindingLifecycle.recordRetest P clock s id actor tests testId)
    unfold FindingLifecycle.recordRetest
    split
    · exact .raised ..
    · exact checked_script
  | closeFinding id decision note actor => exact checked_script

end FindingLifecycle

/-! ## Adoptions -/

namespace FrameworkAdoptions

variable {P : Projection (Table FrameworkAdoption) Body} {s : AdoptionSession}

/-- An upgrade leaves the catalog family as it is. -/
theorem row_update {a a' : FrameworkAdoption} {e : Event} (h : row (some a) e = .ok a') :
    a'.catalogFamily = a.catalogFamily := by
  cases hb : e.body with
  | adopted family framework => simp [row, hb] at h
  | upgraded family source target =>
    obtain rfl : projectUpgraded e source target a = a' := by simpa [row, hb] using h
    rfl

theorem lawful : Lawful aggregateType where
  symm _ _ := decide_eq_decide.2 eq_comm
  conflict a e a' h x := by
    simp only [aggregateType, constraints, row_update h]
  refs _ _ _ _ := rfl

theorem Command.run_script (c : Command) : Script P clock s (c.run P clock s) := by
  cases c with
  | adopt newId framework actor =>
    show Script P clock s (adoptFramework P clock s newId framework actor)
    unfold adoptFramework
    split
    · exact .raised ..
    · split
      · split
        · exact .returned s
        · exact .raised ..
      · exact .append ..
  | upgrade id toFramework actor =>
    show Script P clock s (upgradeFrameworkAdoption P clock s id toFramework actor)
    unfold upgradeFrameworkAdoption
    split
    · exact .raised ..
    · split
      · exact .raised ..
      · split
        · exact .raised ..
        · split
          · exact .raised ..
          · exact .append ..

end FrameworkAdoptions

end MiniGrc
