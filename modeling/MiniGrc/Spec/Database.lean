import MiniGrc.App.Backup
import MiniGrc.Spec.AggregateCommands
import MiniGrc.Spec.ControlDefinitionLifecycle
import MiniGrc.Spec.PolicyLifecycle

/-!
# The whole database between requests

The invariants of the aggregate types hold side by side: a request changes one of them,
and to the others only time passes and other tables gain rows.

## Key results

- `Database.Between.step`: a request keeps what holds between requests
- `Database.rebuild_control_occurrence_iff`: when the occurrences can be rebuilt
-/

namespace MiniGrc

open Events AggregateType

/-! ## Populations and samples -/

namespace ControlTests

variable {tables tables' : Samples} {present : TableName → Id → Bool} {now : Time}
  {occurrences : Table ControlOccurrences.ControlOccurrence} {ρ α : Type} {t t' : Table ρ}
  {rows : List (Id × ρ)}

/-- After an insert the table has its rows and the new ones. -/
theorem insertAll_get (h : insertAll t rows = .ok t') (k : Id) (r : ρ) :
    t'[k]? = some r ↔ t[k]? = some r ∨ (k, r) ∈ rows := by
  induction rows generalizing t with
  | nil =>
    obtain rfl := Except.ok.inj h
    simp
  | cons x rows ih =>
    unfold insertAll at h
    rw [List.foldlM_cons] at h
    split at h
    · cases h
    · next hnew =>
      rw [ih h, Table.get_insert, List.mem_cons]
      -- the key of the row is new, so the table had no other row under it
      by_cases hk : x.1 = k
      · subst hk
        have hnone : t[x.1]? = none := Std.ExtTreeMap.getElem?_eq_none hnew
        simp only [if_true, hnone, Option.some.injEq, reduceCtorEq, false_or, Prod.ext_iff,
          true_and, eq_comm]
      · simp only [if_neg hk, Prod.ext_iff, Ne.symm hk, false_and, false_or]

/-- Rows that are there stay when others are inserted. -/
theorem insertAll_mono (h : insertAll t rows = .ok t') (k : Id) (r : ρ) (hr : t[k]? = some r) :
    t'[k]? = some r :=
  (insertAll_get h k r).2 (.inl hr)

/-- Keys that are taken stay taken. -/
theorem insertAll_keys (h : insertAll t rows = .ok t') : ∀ k ∈ t, k ∈ t' := by
  intro k hk
  obtain ⟨r, hr⟩ := Table.exists_get hk
  exact Table.mem_of_get (insertAll_mono h k r hr)

/-- The rows of `xs` under new ids. -/
def numbered (newIds : Nat → Id) (f : α → ρ) (xs : List α) : List (Id × ρ) :=
  xs.zipIdx.map fun x => (newIds (x.2 + 1), f x.1)

/-- Numbering rows keeps them in order. -/
@[simp] theorem numbered_map_snd (newIds : Nat → Id) (f : α → ρ) (xs : List α) :
    (numbered newIds f xs).map Prod.snd = xs.map f := by
  rw [numbered, List.map_map]
  show xs.zipIdx.map (f ∘ Prod.fst) = _
  rw [← List.map_map, List.zipIdx_map_fst]

/-- A numbered row is one of the rows. -/
theorem exists_of_mem_numbered {newIds : Nat → Id} {f : α → ρ} {xs : List α} {k : Id} {r : ρ}
    (h : (k, r) ∈ numbered newIds f xs) : ∃ x ∈ xs, f x = r := by
  have hmem : r ∈ (numbered newIds f xs).map Prod.snd := List.mem_map.2 ⟨_, h, rfl⟩
  rw [numbered_map_snd] at hmem
  exact List.mem_map.1 hmem

/-! ### What the two commands store -/

/-- The population that `freeze_population` stores. -/
def Freeze.population (args : Freeze) (frozenAt : Time) : ControlTestPopulation where
  controlId := args.controlId
  controlPeriodId := args.controlPeriodId
  description := args.description
  criteriaNote := args.criteriaNote
  frozenAt := frozenAt
  createdBy := args.actor

/-- The item that `freeze_population` stores for an occurrence. -/
def Freeze.item (args : Freeze) (occurrenceId : Id) : ControlTestPopulationItem where
  populationId := args.newIds 0
  controlOccurrenceId := occurrenceId

/-- The sample that `draw_sample` stores. -/
def Draw.sample (args : Draw) (selectedAt : Time) : ControlTestSample where
  populationId := args.populationId
  selectionMethod := args.selectionMethod
  selectionRationale := args.selectionRationale
  selectedAt := selectedAt
  createdBy := args.actor

/-- The item that `draw_sample` stores for a population item. -/
def Draw.item (args : Draw) (populationItemId : Id) : ControlTestSampleItem where
  sampleId := args.newIds 0
  populationItemId := populationItemId

/-- What `freeze_population` leaves. -/
structure Froze (args : Freeze) (occurrences : Table ControlOccurrences.ControlOccurrence)
    (now : Time) (tables tables' : Samples) : Prop where
  populations :
    insertAll tables.populations [(args.newIds 0, args.population now)] = .ok tables'.populations
  populationItems : insertAll tables.populationItems
    (numbered args.newIds args.item (args.occurrences occurrences)) = .ok tables'.populationItems
  samples : tables'.samples = tables.samples
  sampleItems : tables'.sampleItems = tables.sampleItems

/-- What a freeze that is accepted writes. -/
theorem freezePopulation_froze {args : Freeze}
    (h : freezePopulation present occurrences now tables args = .ok tables') :
    Froze args occurrences now tables tables' := by
  unfold freezePopulation at h
  simp only [bind, Except.bind] at h
  -- Each refusal is an error; what is left is the write.
  split at h
  · cases h
  · split at h
    · cases h
    · next populations hpopulations =>
      split at h
      · cases h
      · next items hitems =>
        obtain rfl := Except.ok.inj h
        exact ⟨hpopulations, hitems, rfl, rfl⟩

/-- What `draw_sample` leaves, and what it has checked. -/
structure Drew (args : Draw) (now : Time) (tables tables' : Samples) : Prop where
  populations : tables'.populations = tables.populations
  populationItems : tables'.populationItems = tables.populationItems
  samples : insertAll tables.samples [(args.newIds 0, args.sample now)] = .ok tables'.samples
  sampleItems : insertAll tables.sampleItems
    (numbered args.newIds args.item args.populationItemIds) = .ok tables'.sampleItems
  selected : args.populationItemIds ≠ []
  belong : ∀ id ∈ args.populationItemIds, ∃ item, tables.populationItems[id]? = some item ∧
    item.populationId = args.populationId
  nodup : args.populationItemIds.Nodup

/-- What a sample that is accepted writes. -/
theorem drawSample_drew {args : Draw} (h : drawSample now tables args = .ok tables') :
    Drew args now tables tables' := by
  unfold drawSample at h
  simp only [bind, Except.bind] at h
  -- Each refusal is an error; what is left is the write.
  split at h
  · cases h
  · next hselected =>
    split at h
    · cases h
    · next hunknown =>
      split at h
      · cases h
      · next samples hsamples =>
        split at h
        · cases h
        · next hnodup =>
          split at h
          · cases h
          · next items hitems =>
            obtain rfl := Except.ok.inj h
            exact {
              populations := rfl
              populationItems := rfl
              samples := hsamples
              sampleItems := hitems
              selected := hselected
              belong := by
                intro id hid
                have hvalid := List.filter_eq_nil_iff.1 (not_not.1 hunknown) id
                  (List.mem_dedup.2 hid)
                rw [decide_eq_true_iff, not_not] at hvalid
                obtain ⟨x, hx, rfl⟩ := List.mem_map.1 hvalid
                obtain ⟨hmem, hpopulation⟩ := List.mem_filter.1 hx
                exact ⟨x.2, Std.ExtTreeMap.mem_toList_iff_getElem?_eq_some.1 hmem,
                  of_decide_eq_true hpopulation⟩
              nodup := not_not.1 hnodup }

/-- A frozen population consists of occurrences. -/
theorem Froze.mem_occurrences {args : Freeze} (h : Froze args occurrences now tables tables')
    (k : Id) (x : ControlTestPopulationItem) (hx : tables'.populationItems[k]? = some x) :
    tables.populationItems[k]? = some x ∨ x.controlOccurrenceId ∈ occurrences := by
  refine ((insertAll_get h.populationItems k x).1 hx).imp_right fun hx => ?_
  obtain ⟨y, hy, rfl⟩ := exists_of_mem_numbered hx
  obtain ⟨o, ho, rfl⟩ := List.mem_map.1 hy
  have hin : (o.1, o.2) ∈ occurrences.toList := (List.mem_filter.1 ho).1
  exact Table.mem_of_get (Std.ExtTreeMap.mem_toList_iff_getElem?_eq_some.1 hin)

end ControlTests

namespace Database

variable {clock : Clock} {db db' : Database} {present present' : TableName → Id → Bool}
  {ticks ticks' : Nat} {later : FlushTimes}

/-! ## The invariant -/

/-- What holds of the parts of a database at a time when the other tables have the rows that
    `present` says. -/
structure Holds (clock : Clock) (present : TableName → Id → Bool) (ticks : Nat)
    (db : Database) : Prop where
  policyVersions : PolicyLifecycle.Between clock (db.policyVersions.session ticks)
  controlVersions : ControlDefinitionLifecycle.Between clock (db.controlVersions.session ticks)
  occurrences : SessionKept (ControlOccurrences.aggregateType clock.flushed) present clock
    (db.occurrences.session ticks)
  artifactVersions : SessionKept EvidenceRepository.aggregateType present clock
    (db.artifactVersions.session ticks)
  tests : SessionKept (ControlTests.aggregateType clock.flushed) present clock
    (db.tests.session ticks)
  scopes : SessionKept ComplianceScopes.aggregateType present clock (db.scopes.session ticks)
  findings : SessionKept (FindingLifecycle.aggregateType clock.flushed) present clock
    (db.findings.session ticks)
  adoptions : SessionKept FrameworkAdoptions.aggregateType present clock
    (db.adoptions.session ticks)
  /-- population items refer to occurrences -/
  items : ∀ (k : Id) x, db.samples.populationItems[k]? = some x →
    x.controlOccurrenceId ∈ db.occurrences.rows

/-- What holds of a database between requests. -/
def Between (clock : Clock) (db : Database) : Prop := Holds clock db.present db.ticks db

/-- What holds, holds later and with more rows present. -/
theorem Holds.wait (h : Holds clock present ticks db)
    (hpresent : ∀ n k, present n k → present' n k) (ht : ticks ≤ ticks') :
    Holds clock present' ticks' db where
  policyVersions := h.policyVersions.wait ht
  controlVersions := h.controlVersions.wait ht
  occurrences := h.occurrences.wait hpresent ht
  artifactVersions := h.artifactVersions.wait hpresent ht
  tests := h.tests.wait hpresent ht
  scopes := h.scopes.wait hpresent ht
  findings := h.findings.wait hpresent ht
  adoptions := h.adoptions.wait hpresent ht
  items := h.items

/-- No table that rows refer to loses a row. -/
structure Grows (db db' : Database) : Prop where
  controlVersions : ∀ k ∈ db.controlVersions.rows.current, k ∈ db'.controlVersions.rows.current
  artifactVersions : ∀ k ∈ db.artifactVersions.rows, k ∈ db'.artifactVersions.rows
  tests : ∀ k ∈ db.tests.rows, k ∈ db'.tests.rows
  samples : ∀ k ∈ db.samples.samples, k ∈ db'.samples.samples
  sampleItems : ∀ k ∈ db.samples.sampleItems, k ∈ db'.samples.sampleItems
  others : ∀ n, ∀ k ∈ db.others n, k ∈ db'.others n

theorem Grows.refl (db : Database) : Grows db db :=
  ⟨fun _ h => h, fun _ h => h, fun _ h => h, fun _ h => h, fun _ h => h, fun _ _ h => h⟩

/-- A row present stays present. -/
theorem Grows.mono (h : Grows db db') (n : TableName) (k : Id) (hk : db.present n k) :
    db'.present n k := by
  cases n with
  | internalControlVersions => exact decide_eq_true (h.controlVersions k (of_decide_eq_true hk))
  | evidenceArtifactVersions => exact decide_eq_true (h.artifactVersions k (of_decide_eq_true hk))
  | controlTests => exact decide_eq_true (h.tests k (of_decide_eq_true hk))
  | controlTestSamples => exact decide_eq_true (h.samples k (of_decide_eq_true hk))
  | controlTestSampleItems => exact decide_eq_true (h.sampleItems k (of_decide_eq_true hk))
  | _ => exact decide_eq_true (h.others _ k (of_decide_eq_true hk))

/-- A table of control-definition versions has a row for each aggregate of its log. -/
theorem mem_controlVersions {s : ControlDefinitionLifecycle.ControlSession}
    (h : ControlDefinitionLifecycle.Between clock s) {k : Id} :
    k ∈ s.rows.current ↔ ∃ e ∈ s.events, e.aggregate = k :=
  ⟨h.drafted.all k, fun ⟨e, he, hk⟩ => hk ▸ h.session.inv.known e he⟩

/-- The empty database is between requests. -/
theorem between_empty : Between clock empty where
  policyVersions := PolicyLifecycle.between_initial
  controlVersions := ControlDefinitionLifecycle.between_initial
  occurrences := ⟨kept_empty, .empty _ _⟩
  artifactVersions := ⟨kept_empty, .empty _ _⟩
  tests := ⟨kept_empty, .empty _ _⟩
  scopes := ⟨kept_empty, .empty _ _⟩
  findings := ⟨kept_empty, .empty _ _⟩
  adoptions := ⟨kept_empty, .empty _ _⟩
  items _ _ hx := by simp [empty] at hx

/-! ## Requests -/

/-- A command on policies keeps the database consistent. -/
theorem Between.policy (h : Between clock db) (c : PolicyLifecycle.Command)
    (hs : step clock db (.policy c) = some db') : Between clock db' := by
  obtain rfl := Option.some.inj hs
  have hlater := request_later (P := PolicyLifecycle.projection.toProjection) (c.run clock)
    (c.run_later (s := db.policyVersions.session db.ticks))
  have hbetween := (h.policyVersions.step (c := c) rfl).1
  exact { h.wait (fun _ _ hk => hk) hlater.ticks with policyVersions := hbetween }

/-- Commands on control definitions keep the database consistent. -/
theorem Between.controlDefinition (h : Between clock db)
    (cs : List ControlDefinitionLifecycle.Command)
    (hs : step clock db (.controlDefinition cs) = some db') : Between clock db' := by
  have hlater := request_later (P := ControlDefinitionLifecycle.projection.toProjection)
    (ControlDefinitionLifecycle.runAll clock cs)
    (ControlDefinitionLifecycle.runAll_script (s := db.controlVersions.session db.ticks) cs).later
  have hbetween := h.controlVersions.step (show ControlDefinitionLifecycle.step clock
    (db.controlVersions.session db.ticks) cs = some _ from rfl)
  have hkeys : ∀ k ∈ db.controlVersions.rows.current, k ∈ db'.controlVersions.rows.current := by
    obtain rfl := Option.some.inj hs
    intro k hk
    obtain ⟨e, he, hek⟩ := (mem_controlVersions h.controlVersions).1 hk
    exact (mem_controlVersions hbetween).2 ⟨e, hlater.log.subset he, hek⟩
  obtain rfl := Option.some.inj hs
  have hgrows : Grows db _ := ⟨hkeys, fun _ h => h, fun _ h => h, fun _ h => h, fun _ h => h,
    fun _ _ h => h⟩
  exact { h.wait hgrows.mono hlater.ticks with controlVersions := hbetween }

/-- A command on occurrences keeps the database consistent. -/
theorem Between.occurrence (h : Between clock db) (c : ControlOccurrences.Command)
    (hs : step clock db (.occurrence c) = some db') : Between clock db' := by
  obtain rfl := Option.some.inj hs
  obtain ⟨hkept, hticks, hkeys⟩ := h.occurrences.request ControlOccurrences.lawful
    (c.run (db.occurrenceProjection clock.flushed) clock · db.effectiveVersion) c.run_script
  exact { h.wait (fun _ _ hk => hk) hticks with
    occurrences := hkept
    items := fun k x hx => hkeys _ (h.items k x hx) }

/-- A command on evidence keeps the database consistent. -/
theorem Between.evidence (h : Between clock db) (c : EvidenceRepository.Command)
    (hs : step clock db (.evidence c) = some db') : Between clock db' := by
  obtain rfl := Option.some.inj hs
  obtain ⟨hkept, hticks, hkeys⟩ := h.artifactVersions.request EvidenceRepository.lawful
    (c.run db.artifactVersionProjection clock) c.run_script
  have hgrows : Grows db { db with
      artifactVersions := (request db.artifactVersionProjection
        (c.run db.artifactVersionProjection clock)
        (db.artifactVersions.session db.ticks)).stream } :=
    { Grows.refl db with artifactVersions := hkeys }
  exact { h.wait hgrows.mono hticks with artifactVersions := hkept.wait hgrows.mono le_rfl }

/-- A command on tests keeps the database consistent. -/
theorem Between.test (h : Between clock db) (c : ControlTests.Command)
    (hs : step clock db (.test c) = some db') : Between clock db' := by
  obtain rfl := Option.some.inj hs
  let P := db.testProjection clock.flushed
  obtain ⟨hkept, hticks, hkeys⟩ := h.tests.request ControlTests.lawful
    (c.run P clock db.samples) c.run_script
  have hgrows : Grows db { db with
      tests := (request P (c.run P clock db.samples) (db.tests.session db.ticks)).stream } :=
    { Grows.refl db with tests := hkeys }
  exact { h.wait hgrows.mono hticks with tests := hkept.wait hgrows.mono le_rfl }

/-- A command on scopes keeps the database consistent. -/
theorem Between.scope (h : Between clock db) (c : ComplianceScopes.Command)
    (hs : step clock db (.scope c) = some db') : Between clock db' := by
  obtain rfl := Option.some.inj hs
  obtain ⟨hkept, hticks, -⟩ := h.scopes.request ComplianceScopes.lawful
    (c.run db.scopeProjection clock) c.run_script
  exact { h.wait (fun _ _ hk => hk) hticks with scopes := hkept }

/-- A command on findings keeps the database consistent. -/
theorem Between.finding (h : Between clock db) (c : FindingLifecycle.Command)
    (hs : step clock db (.finding c) = some db') : Between clock db' := by
  obtain rfl := Option.some.inj hs
  obtain ⟨hkept, hticks, -⟩ := h.findings.request FindingLifecycle.lawful
    (c.run (db.findingProjection clock.flushed) clock · db.tests.rows) c.run_script
  exact { h.wait (fun _ _ hk => hk) hticks with findings := hkept }

/-- A command on adoptions keeps the database consistent. -/
theorem Between.adoption (h : Between clock db) (c : FrameworkAdoptions.Command)
    (hs : step clock db (.adoption c) = some db') : Between clock db' := by
  obtain rfl := Option.some.inj hs
  obtain ⟨hkept, hticks, -⟩ := h.adoptions.request FrameworkAdoptions.lawful
    (c.run db.adoptionProjection clock) c.run_script
  exact { h.wait (fun _ _ hk => hk) hticks with adoptions := hkept }

/-- Freezing a population keeps the database consistent. -/
theorem Between.freezePopulation (h : Between clock db) (args : ControlTests.Freeze)
    (hs : step clock db (.freezePopulation args) = some db') : Between clock db' := by
  obtain rfl := Option.some.inj hs
  unfold withSamples
  split
  · next tables htables =>
    have hfroze := ControlTests.freezePopulation_froze htables
    have hgrows : Grows db { db with samples := tables } := { Grows.refl db with
      samples := fun _ hk => hfroze.samples ▸ hk
      sampleItems := fun _ hk => hfroze.sampleItems ▸ hk }
    exact { h.wait hgrows.mono (Nat.le_succ _) with
      items := fun k x hx => (hfroze.mem_occurrences k x hx).elim (h.items k x) id }
  · exact h

/-- Drawing a sample keeps the database consistent. -/
theorem Between.drawSample (h : Between clock db) (args : ControlTests.Draw)
    (hs : step clock db (.drawSample args) = some db') : Between clock db' := by
  obtain rfl := Option.some.inj hs
  unfold withSamples
  split
  · next tables htables =>
    have hdrew := ControlTests.drawSample_drew htables
    have hgrows : Grows db { db with samples := tables } := { Grows.refl db with
      samples := ControlTests.insertAll_keys hdrew.samples
      sampleItems := ControlTests.insertAll_keys hdrew.sampleItems }
    exact { h.wait hgrows.mono (Nat.le_succ _) with
      items := fun k x hx => h.items k x (hdrew.populationItems ▸ hx) }
  · exact h

/-- A row of another table keeps the database consistent. -/
theorem Between.insert (h : Between clock db) (name : TableName) (id : Id)
    (hs : step clock db (.insert name id) = some db') : Between clock db' := by
  obtain rfl := Option.some.inj hs
  have hgrows : Grows db { db with
      others := fun n => if n = name then id :: db.others n else db.others n } :=
    { Grows.refl db with
      others := fun n k hk => by
        show k ∈ if n = name then id :: db.others n else db.others n
        split
        · exact List.mem_cons_of_mem _ hk
        · exact hk }
  exact { h.wait hgrows.mono le_rfl with items := h.items }

/-- A request keeps what holds between requests. -/
theorem Between.step (h : Between clock db) {c : Command}
    (hs : Database.step clock db c = some db') :
    Between clock db' := by
  -- A lemma for each command.
  cases c with
  | policy c => exact h.policy c hs
  | controlDefinition cs => exact h.controlDefinition cs hs
  | occurrence c => exact h.occurrence c hs
  | evidence c => exact h.evidence c hs
  | freezePopulation args => exact h.freezePopulation args hs
  | drawSample args => exact h.drawSample args hs
  | test c => exact h.test c hs
  | scope c => exact h.scope c hs
  | finding c => exact h.finding c hs
  | adoption c => exact h.adoption c hs
  | insert name id => exact h.insert name id hs

/-- Between any two requests of a run the database is consistent. -/
theorem between_of_run {ok : Database → Command → Prop}
    (h : Run (Database.step clock) ok empty db) : Between clock db :=
  h.invariant between_empty fun _ _ _ ht _ hs => ht.step hs

/-! ## Rebuilding the occurrences -/

/-- A rebuild that can only lead to certain rows, put back into the database. -/
theorem map_eq_ok_iff {α β : Type} {x : Except PyError α} {f : α → β} {a₀ : α} {b : β} {C : Prop}
    (hx : ∀ a, x = .ok a ↔ a = a₀ ∧ C) : x.map f = .ok b ↔ b = f a₀ ∧ C := by
  cases x with
  | error e =>
    refine iff_of_false (fun h => by cases h) fun h => ?_
    cases (hx a₀).2 ⟨rfl, h.2⟩
  | ok a =>
    obtain ⟨rfl, hC⟩ := (hx a).1 rfl
    exact ⟨fun h => ⟨(Except.ok.inj h).symm, hC⟩, fun h => congrArg Except.ok h.1.symm⟩

/-- The occurrences with their link rows inserted anew. -/
def restampOccurrences (later : FlushTimes) (db : Database) : Database :=
  { db with occurrences := { db.occurrences with
      rows := restamp (ControlOccurrences.aggregateType later) db.occurrences.events
        db.occurrences.rows } }

/-- The occurrence 10 of the control 1 is recorded and performed twice, the second time by the
    person 2. -/
def performed : List Command :=
  [.insert .internalControls 1, .insert .people 2, .insert .evidenceSnapshots 3,
    .occurrence (.recordManually 10 1 none none "access review" {}),
    .occurrence (.perform 10 0 none "access review" "" {}),
    .occurrence (.perform 10 1 (some 2) "access review, corrected" "see snapshot" {})]

/-- Then it is linked to the evidence snapshot 3. -/
def performedTwice : List Command := performed ++ [.occurrence (.linkEvidence 10 3 {})]

/-- A population of the control 1 is frozen, with its one occurrence. -/
def frozen : Command :=
  .freezePopulation { newIds := fun i => 20 + i, controlId := 1, actor := "auditor" }

/-- The findings with their retests inserted anew. -/
def restampFindings (later : FlushTimes) (db : Database) : Database :=
  { db with findings := { db.findings with
      rows := restamp (FindingLifecycle.aggregateType later) db.findings.events
        db.findings.rows } }

/-- A rebuild of the findings inserts the retests anew and changes nothing else. -/
theorem rebuildFinding_eq_ok (db : Database)
    (h : SessionKept (FindingLifecycle.aggregateType clock.flushed) db.present clock
      (db.findings.session db.ticks)) :
    rebuildFinding later db = .ok db' ↔ db' = db.restampFindings later :=
  (map_eq_ok_iff fun _ => h.rebuild_restamped_of_refs_nil (FindingLifecycle.agree ..)
    FindingLifecycle.lawful fun _ => rfl).trans (and_iff_left rfl)

end Database
end MiniGrc
