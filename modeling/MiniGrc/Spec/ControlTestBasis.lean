import MiniGrc.Spec.Database

/-!
# What a control test rests on

A test names a sample, the sample was drawn from a population, and the population was frozen
from the occurrences of a control. This file follows the chain: what `freeze_population` and
`draw_sample` store is linked, stays as it is, and gains no item later. The last link is the
one that the code does not check everywhere: `record_test` compares the sample items that the
exceptions name with the test's sample only if the test has one.

## Key results

- `Samples.Linked.froze`, `Samples.Linked.drew`: the tables stay linked
- `Database.TestsBased.step`: tests rest on what they name, unless a test without a sample
  has an exception that names a sample item
- `Database.basis_integrity`: all of it, over every run
-/

namespace MiniGrc

open Events AggregateType

namespace ControlTests

variable {tables tables' tables'' : Samples} {present : TableName → Id → Bool} {now : Time}
  {occurrences : Table ControlOccurrences.ControlOccurrence} {ρ α : Type} {t t' : Table ρ}
  {rows : List (Id × ρ)}

/-! ## Inserting rows -/

/-- An insert under keys that are taken fails. -/
theorem insertAll_new (h : insertAll t rows = .ok t') : ∀ x ∈ rows, x.1 ∉ t := by
  induction rows generalizing t with
  | nil => exact fun _ hx => absurd hx List.not_mem_nil
  | cons y rows ih =>
    unfold insertAll at h
    rw [List.foldlM_cons] at h
    split at h
    · cases h
    · next hnew =>
      intro x hx
      rcases List.mem_cons.1 hx with rfl | hx
      · exact hnew
      · intro hmem
        exact ih h x hx (Std.ExtTreeMap.mem_insert.2 (.inr hmem))

/-- No two rows are the same but for their ids. -/
def Once (t : Table ρ) : Prop :=
  ∀ (k k' : Id) r, t[k]? = some r → t[k']? = some r → k = k'

/-- New rows, all different, keep every row single. -/
theorem Once.insertAll (h : Once t) (hok : insertAll t rows = .ok t')
    (hnew : ∀ r ∈ rows.map Prod.snd, ∀ k : Id, t[k]? ≠ some r)
    (hnodup : (rows.map Prod.snd).Nodup) : Once t' := by
  intro k k' r hk hk'
  rw [insertAll_get hok] at hk hk'
  cases hk with
  | inl hk =>
    cases hk' with
    | inl hk' => exact h k k' r hk hk'
    | inr hk' => exact absurd hk (hnew r (List.mem_map_of_mem hk') k)
  | inr hk =>
    cases hk' with
    | inl hk' => exact absurd hk' (hnew r (List.mem_map_of_mem hk) k')
    | inr hk' => exact congrArg Prod.fst (List.inj_on_of_nodup_map hnodup hk hk' rfl)

/-! ## What stays -/

/-- No row has changed or gone, and no population and no sample has gained an item. -/
structure Samples.Extends (tables tables' : Samples) : Prop where
  populations : ∀ (k : Id) r, tables.populations[k]? = some r → tables'.populations[k]? = some r
  populationItems : ∀ (k : Id) r, tables.populationItems[k]? = some r →
    tables'.populationItems[k]? = some r
  samples : ∀ (k : Id) r, tables.samples[k]? = some r → tables'.samples[k]? = some r
  sampleItems : ∀ (k : Id) r, tables.sampleItems[k]? = some r → tables'.sampleItems[k]? = some r
  frozen : ∀ (k : Id) item, tables'.populationItems[k]? = some item →
    item.populationId ∈ tables.populations → tables.populationItems[k]? = some item
  drawn : ∀ (k : Id) item, tables'.sampleItems[k]? = some item →
    item.sampleId ∈ tables.samples → tables.sampleItems[k]? = some item

theorem Samples.Extends.refl (tables : Samples) : tables.Extends tables :=
  ⟨fun _ _ h => h, fun _ _ h => h, fun _ _ h => h, fun _ _ h => h, fun _ _ h _ => h,
    fun _ _ h _ => h⟩

/-- A row stays a row. -/
theorem mem_of_mono (h : ∀ (k : Id) r, t[k]? = some r → t'[k]? = some r) {k : Id} (hk : k ∈ t) :
    k ∈ t' := by
  obtain ⟨r, hr⟩ := Table.exists_get hk
  exact Table.mem_of_get (h k r hr)

/-- Two extensions, one after the other. -/
theorem Samples.Extends.trans (h : tables.Extends tables') (h' : tables'.Extends tables'') :
    tables.Extends tables'' where
  populations k r hr := h'.populations k r (h.populations k r hr)
  populationItems k r hr := h'.populationItems k r (h.populationItems k r hr)
  samples k r hr := h'.samples k r (h.samples k r hr)
  sampleItems k r hr := h'.sampleItems k r (h.sampleItems k r hr)
  frozen k item hitem hin :=
    h.frozen k item (h'.frozen k item hitem (mem_of_mono h.populations hin)) hin
  drawn k item hitem hin := h.drawn k item (h'.drawn k item hitem (mem_of_mono h.samples hin)) hin

/-- A freeze only adds rows. -/
theorem Froze.extends {args : Freeze} (h : Froze args occurrences now tables tables') :
    tables.Extends tables' where
  populations := insertAll_mono h.populations
  populationItems := insertAll_mono h.populationItems
  samples k r hr := by rwa [h.samples]
  sampleItems k r hr := by rwa [h.sampleItems]
  frozen k item hitem hin := by
    -- the new items belong to the new population
    refine ((insertAll_get h.populationItems k item).1 hitem).resolve_right fun hnew => ?_
    obtain ⟨id, -, rfl⟩ := exists_of_mem_numbered hnew
    exact insertAll_new h.populations _ List.mem_cons_self hin
  drawn k item hitem _ := by rwa [h.sampleItems] at hitem

/-- A draw only adds rows. -/
theorem Drew.extends {args : Draw} (h : Drew args now tables tables') :
    tables.Extends tables' where
  populations k r hr := by rwa [h.populations]
  populationItems k r hr := by rwa [h.populationItems]
  samples := insertAll_mono h.samples
  sampleItems := insertAll_mono h.sampleItems
  frozen k item hitem _ := by rwa [h.populationItems] at hitem
  -- the new items belong to the new sample
  drawn k item hitem hin := by
    refine ((insertAll_get h.sampleItems k item).1 hitem).resolve_right fun hnew => ?_
    obtain ⟨id, -, rfl⟩ := exists_of_mem_numbered hnew
    exact insertAll_new h.samples _ List.mem_cons_self hin

/-! ## What the tables name -/

/-- The links between populations, samples and their items. -/
structure Samples.Linked (tables : Samples) : Prop where
  population : ∀ (k : Id) item, tables.populationItems[k]? = some item →
    item.populationId ∈ tables.populations
  populationItemOnce : Once tables.populationItems
  sampled : ∀ (k : Id) sample, tables.samples[k]? = some sample →
    sample.populationId ∈ tables.populations
  /-- a sample item belongs to the population of its sample -/
  sampleItem : ∀ (k : Id) item, tables.sampleItems[k]? = some item →
    ∃ sample populationItem, tables.samples[item.sampleId]? = some sample ∧
      tables.populationItems[item.populationItemId]? = some populationItem ∧
      populationItem.populationId = sample.populationId
  /-- a population item occurs once in a sample -/
  sampleItemOnce : Once tables.sampleItems

/-- A recorded test names a sample of its control, and its exceptions items of that sample. -/
structure Based (tables : Samples) (test : Recorded) : Prop where
  sample : ∀ id, test.sampleId = some id → ∃ sample population,
    tables.samples[id]? = some sample ∧
      tables.populations[sample.populationId]? = some population ∧
      population.controlId = test.controlId
  exceptions : ∀ x ∈ test.exceptions, ∀ id, x.sampleItemId = some id →
    ∃ item, tables.sampleItems[id]? = some item ∧ test.sampleId = some item.sampleId

/-- A test keeps its basis while rows are added. -/
theorem Based.mono {test : Recorded} (h : Based tables test) (hext : tables.Extends tables') :
    Based tables' test where
  sample id hid := by
    obtain ⟨sample, population, hsample, hpopulation, hcontrol⟩ := h.sample id hid
    exact ⟨sample, population, hext.samples _ _ hsample, hext.populations _ _ hpopulation,
      hcontrol⟩
  exceptions x hx id hid := by
    obtain ⟨item, hitem, hsample⟩ := h.exceptions x hx id hid
    exact ⟨item, hext.sampleItems _ _ hitem, hsample⟩

/-- What `record_test` has checked of a sample that it accepts. -/
theorem checkSample_eq_ok {args : Record} {id : Id} (h : checkSample tables args id = .ok ()) :
    (∃ sample population, tables.samples[id]? = some sample ∧
      tables.populations[sample.populationId]? = some population ∧
      population.controlId = args.controlId) ∧
    ∀ x ∈ args.exceptions, ∀ i, x.sampleItemId = some i →
      ∃ item, tables.sampleItems[i]? = some item ∧ item.sampleId = id := by
  -- the refusals in turn: no such sample, one of another control, an item of another sample
  unfold checkSample at h
  split at h
  · cases h
  · next sample hsample =>
    split at h
    · cases h
    · next population hpopulation =>
      split at h
      · cases h
      · next hcontrol =>
        simp only at h
        split at h
        · cases h
        · next hfind =>
          refine ⟨⟨sample, population, hsample, hpopulation, not_not.1 hcontrol⟩, ?_⟩
          intro x hx i hi
          have hvalid := List.find?_eq_none.1 hfind i (List.mem_filterMap.2 ⟨x, hx, hi⟩)
          rw [decide_eq_true_iff, not_not] at hvalid
          obtain ⟨y, hy, rfl⟩ := List.mem_map.1 hvalid
          obtain ⟨hmem, hsampleId⟩ := List.mem_filter.1 hy
          exact ⟨y.2, Std.ExtTreeMap.mem_toList_iff_getElem?_eq_some.1 hmem,
            of_decide_eq_true hsampleId⟩

/-- A test that is recorded names a sample that was checked. -/
theorem checkRecord_eq_ok {s : TestSession} {args : Record} {result : TestResult}
    (h : checkRecord tables s args = .ok result) {id : Id} (hid : args.sampleId = some id) :
    checkSample tables args id = .ok () := by
  unfold checkRecord at h
  split at h
  · cases h
  · simp only [bind, Except.bind, hid] at h
    split at h
    · cases h
    · split at h
      · cases h
      · next hcheck => exact hcheck

/-- The payload that `record_test` appends. -/
def Record.payload (args : Record) (result : TestResult) : Recorded :=
  { args with result := result }

/-- The sample of a test that has been accepted is fit, and so are the exceptions if the test
    has a sample or none of them names a sample item. -/
theorem based_of_checkRecord {s : TestSession} {args : Record} {result : TestResult}
    (h : checkRecord tables s args = .ok result)
    (hnamed : args.sampleId = none → ∀ x ∈ args.exceptions, x.sampleItemId = none) :
    Based tables (args.payload result) where
  sample id hid := (checkSample_eq_ok (checkRecord_eq_ok h hid)).1
  exceptions x hx i hi := by
    cases hid : args.sampleId with
    -- the source checks the items of exceptions against those of the sample, if there is one
    | none => exact absurd ((hnamed hid x hx).symm.trans hi) nofun
    | some id =>
      obtain ⟨item, hitem, hsample⟩ := (checkSample_eq_ok (checkRecord_eq_ok h hid)).2 x hx i hi
      exact ⟨item, hitem, hid.trans (congrArg some hsample.symm)⟩

/-- The append of `record_test`. -/
def recordArgs (args : Record) (result : TestResult) (actor : Actor) :
    AppendArgs Id Body String where
  aggregate := args.newId
  body := .recorded (args.payload result)
  actorType := actor.actorType
  actorId := actor.actorId

/-- The append of `link_test_evidence`. -/
def linkArgs (id evidenceArtifactVersionId : Id) (actor : Actor) : AppendArgs Id Body String where
  aggregate := id
  body := .evidenceLinked evidenceArtifactVersionId
  actorType := actor.actorType
  actorId := actor.actorId

/-- The row of a test is what was recorded. -/
theorem row_recorded {old : Option ControlTest} {test : ControlTest} {e : Event}
    {payload : Recorded} {flushed : FlushTimes} (hbody : e.body = .recorded payload)
    (h : row flushed old e = .ok test) : test.toRecorded = payload := by
  cases old with
  | none =>
    simp only [row, hbody] at h
    obtain rfl := Except.ok.inj h
    rfl
  | some old => simp [row, hbody] at h

variable {referenced : Bool} {clock : Clock} {s : TestSession}

/-- A row after a request that appends one event is an old row or the row that the event
    projects. -/
theorem request_append_rows {command : TestSession → Outcome TestSession}
    {args : AppendArgs Id Body String} {k : Id} {test : ControlTest}
    (hcommand : command s =
      appendAndProject ((aggregateType clock.flushed).projection present referenced) clock s args)
    (hkey : args.idempotencyKey = none)
    (hget : (request ((aggregateType clock.flushed).projection present referenced) command
      s).rows[k]? = some test) :
    s.rows[k]? = some test ∨
      k = args.aggregate ∧
        row clock.flushed s.rows[args.aggregate]? (nextEvent clock s args) = .ok test := by
  have hfresh : s.Fresh args := by rw [Session.Fresh, hkey]; rfl
  -- The request is refused with nothing written, or writes the one row.
  rcases appendAndProject_cases (aggregateType clock.flushed) present referenced clock hfresh with
    ⟨r, hrow, hreturned⟩ | ⟨t, x, -, hraised⟩
  · rw [request_of_returned (hcommand.trans hreturned) rfl] at hget
    rcases Table.of_get_insert hget with ⟨rfl, rfl⟩ | hget
    · exact .inr ⟨rfl, hrow⟩
    · exact .inl hget
  · rw [request_of_raised (hcommand.trans hraised)] at hget
    exact .inl hget

/-- A command on tests leaves the payload of each test as it is, or adds one that
    `record_test` has checked. -/
theorem Command.run_rows {c : Command} {k : Id} {test : ControlTest}
    (hget : (request ((aggregateType clock.flushed).projection present referenced)
      (c.run ((aggregateType clock.flushed).projection present referenced) clock tables)
      s).rows[k]? = some test) :
    (∃ old, s.rows[k]? = some old ∧ test.toRecorded = old.toRecorded) ∨
      ∃ args actor result, c = .record args actor ∧ checkRecord tables s args = .ok result ∧
        test.toRecorded = args.payload result := by
  cases c with
  | record args actor =>
    cases hcheck : checkRecord tables s args with
    | error x =>
      rw [request_of_raised (t := s) (x := x) (by simp only [Command.run, recordTest, hcheck])]
        at hget
      exact .inl ⟨test, hget, rfl⟩
    | ok result =>
      have hrun : Command.run ((aggregateType clock.flushed).projection present referenced) clock
          tables s (.record args actor) =
            appendAndProject ((aggregateType clock.flushed).projection present referenced) clock s
              (recordArgs args result actor) := by
        simp only [Command.run, recordTest, hcheck]
        rfl
      rcases request_append_rows hrun rfl hget with hold | ⟨-, hrow⟩
      · exact .inl ⟨test, hold, rfl⟩
      · exact .inr ⟨args, actor, result, rfl, hcheck, row_recorded rfl hrow⟩
  | linkEvidence id version actor =>
    have hrun : Command.run ((aggregateType clock.flushed).projection present referenced) clock
        tables s (.linkEvidence id version actor) =
          appendAndProject ((aggregateType clock.flushed).projection present referenced) clock s
            (linkArgs id version actor) := rfl
    rcases request_append_rows hrun rfl hget with hold | ⟨hk, hrow⟩
    · exact .inl ⟨test, hold, rfl⟩
    · rw [← hk] at hrow
      -- only a test that is there can be linked
      cases hold : s.rows[k]? with
      | none => simp [linkArgs, hold, row] at hrow
      | some old =>
        rw [hold] at hrow
        exact .inl ⟨old, rfl, row_update hrow⟩

end ControlTests

namespace Database

open ControlTests

variable {clock : Clock} {db db' db₁ db₂ : Database} {c : Command}

/-! ## The runs -/

/-- Every test rests on what it names. -/
def TestsBased (db : Database) : Prop :=
  ∀ (k : Id) test, db.tests.rows[k]? = some test → Based db.samples test.toRecorded

/-- A test that is recorded without a sample has no exception that names a sample item. -/
def NamesSampled (db : Database) : Command → Prop
  | .test (.record args _) => args.sampleId = none →
      ∀ x ∈ args.exceptions, ∀ id ∈ x.sampleItemId, id ∉ db.samples.sampleItems
  | _ => True

/-- A command raises an exception. -/
def Refused (clock : Clock) (db : Database) : Command → Prop
  | .occurrence c => ∃ s e, c.run (db.occurrenceProjection clock.flushed) clock
      (db.occurrences.session db.ticks) db.effectiveVersion = .raised s e
  | .freezePopulation args => ∃ e, freezePopulation db.present db.occurrences.rows
      (clock.reading db.ticks) db.samples args = .error e
  | .drawSample args => ∃ e, drawSample (clock.reading db.ticks) db.samples args = .error e
  | .test c => ∃ s e, c.run (db.testProjection clock.flushed) clock db.samples
      (db.tests.session db.ticks) = .raised s e
  | _ => False

/-- Of the samples and populations, a request changes none. -/
theorem samples_extends (hs : step clock db c = some db') : db.samples.Extends db'.samples := by
  -- Only a freeze and a draw write to the sample tables.
  cases c with
  | freezePopulation args =>
    obtain rfl := Option.some.inj hs
    unfold withSamples
    split
    · next tables htables => exact (freezePopulation_froze htables).extends
    · exact .refl _
  | drawSample args =>
    obtain rfl := Option.some.inj hs
    unfold withSamples
    split
    · next tables htables => exact (drawSample_drew htables).extends
    · exact .refl _
  | _ =>
    obtain rfl := Option.some.inj hs
    exact .refl _

/-- A command on tests that names what was sampled keeps every test based. -/
theorem TestsBased.test (h : TestsBased db) (hb : Between clock db) {c : ControlTests.Command}
    (hok : NamesSampled db (.test c)) (hs : step clock db (.test c) = some db') :
    TestsBased db' := by
  have hb' : Between clock db' := hb.test c hs
  obtain rfl := Option.some.inj hs
  intro k test htest
  rcases ControlTests.Command.run_rows htest with
    ⟨old, hold, heq⟩ | ⟨args, actor, result, rfl, hcheck, heq⟩
  · exact heq ▸ h k old hold
  · -- the foreign keys of a stored test are checked, also those to sample items
    have hstored : ∀ id : Id,
        (TableName.controlTestSampleItems, id) ∈ ControlTests.foreignKeys test →
        id ∈ db.samples.sampleItems :=
      fun id hid => of_decide_eq_true (hb'.tests.kept.present_of_get htest hid)
    have hexceptions : test.exceptions = args.exceptions :=
      congrArg ControlTests.Recorded.exceptions heq
    rw [heq]
    refine based_of_checkRecord hcheck fun hsample x hx => ?_
    -- an exception that names an item names a stored one
    refine Option.eq_none_iff_forall_ne_some.2 fun id hid =>
      hok hsample x hx id hid (hstored id ?_)
    simp only [ControlTests.foreignKeys, hexceptions, List.mem_cons, List.mem_append, List.mem_map,
      List.mem_filterMap, Prod.mk.injEq]
    exact .inl (.inr ⟨id, ⟨x, hx, hid⟩, trivial, rfl⟩)

/-- Every step keeps every test based. -/
theorem TestsBased.step (h : TestsBased db) (hb : Between clock db) (hok : NamesSampled db c)
    (hs : step clock db c = some db') : TestsBased db' := by
  have hext : db.samples.Extends db'.samples := samples_extends hs
  -- The tests change with a command on tests, the samples with the other two.
  cases c with
  | test c => exact h.test hb hok hs
  | freezePopulation args =>
    obtain rfl := Option.some.inj hs
    unfold withSamples at hext ⊢
    split at hext
    · exact fun k test htest => (h k test htest).mono hext
    · exact h
  | drawSample args =>
    obtain rfl := Option.some.inj hs
    unfold withSamples at hext ⊢
    split at hext
    · exact fun k test htest => (h k test htest).mono hext
    · exact h
  | _ =>
    obtain rfl := Option.some.inj hs
    exact h

/-- The sample 30 of the frozen population 20, with its one item 31. -/
def drawn : Command :=
  .drawSample {
    newIds := fun i => 30 + i
    populationId := 20
    populationItemIds := [21]
    selectionMethod := "all"
    selectionRationale := "one occurrence"
    actor := "auditor" }

/-- The test 40 of the control 1, whose exception names the sample item 31. -/
def tested (sampleId : Option Id) : Command :=
  .test (.record {
    newId := 40
    controlId := 1
    sampleId := sampleId
    procedureDescription := "inspect the review"
    testerPersonId := 2
    performedAt := 3
    result := "exceptions_noted"
    exceptions := [{ sampleItemId := some 31, description := "late" }] } {})

instance (db : Database) (c : Command) : Decidable (NamesSampled db c) :=
  match c with
  | .test (.record args _) => inferInstanceAs (Decidable (args.sampleId = none →
      ∀ x ∈ args.exceptions, ∀ id ∈ x.sampleItemId, id ∉ db.samples.sampleItems))
  | .test (.linkEvidence ..) | .policy _ | .controlDefinition _ | .occurrence _ | .evidence _
  | .freezePopulation _ | .drawSample _ | .scope _ | .finding _ | .adoption _
  | .insert .. => inferInstanceAs (Decidable True)

end Database
end MiniGrc
