import MiniGrc.App.Readiness
import MiniGrc.Spec.Dates

/-!
# The readiness queue and its stage

The queue of a framework is the unfiltered one without the items of other controls, no
occurrence has two items, the items stand in the order of their due dates, and nothing but
an item that is not upcoming keeps an audit package from being ready.

## Key results

- `filter_sortItems`: filter and sort can change places
- `allItems_apart`: no two items are about one occurrence
- `stageOfQueue_eq_ready_iff`: the two sets of categories cover what is not upcoming
- `queue_and_stage_agree`
-/

namespace MiniGrc.Readiness

variable {db : Database} {clock : Clock}

/-! ## Frameworks -/

/-- The control is mapped to a requirement of the framework. -/
def MappedTo (db : Database) (controlId frameworkId : Id) : Prop :=
  ∃ requirementId, (controlId, requirementId) ∈ db.controlRequirementMappings ∧
    db.frameworkRequirements.get? requirementId = some frameworkId

/-- The item has no control, or one that is mapped to the framework. -/
def InFramework (db : Database) (frameworkId : Id) (item : ReadinessItem) : Prop :=
  item.controlId = none ∨
    ∃ controlId, item.controlId = some controlId ∧ MappedTo db controlId frameworkId

/-- A control is listed with the frameworks it is mapped to. -/
theorem mem_mappedFrameworks {controlId frameworkId : Id} :
    (controlId, frameworkId) ∈ mappedFrameworks db ↔ MappedTo db controlId frameworkId := by
  simp only [mappedFrameworks, List.mem_filterMap, Option.map_eq_some_iff, Prod.mk.injEq,
    Prod.exists, MappedTo]
  constructor
  · rintro ⟨_, requirementId, hmapping, _, hframework, rfl, rfl⟩
    exact ⟨requirementId, hmapping, hframework⟩
  · rintro ⟨requirementId, hmapping, hframework⟩
    exact ⟨controlId, requirementId, hmapping, frameworkId, hframework, rfl, rfl⟩

/-- A row adds its framework to its control. -/
theorem mem_addFramework {mapping : Dict Id (List Id)} {row : Id × Id}
    {controlId frameworkId : Id} :
    frameworkId ∈ ((addFramework mapping row).get? controlId).getD [] ↔
      (controlId, frameworkId) = row ∨ frameworkId ∈ (mapping.get? controlId).getD [] := by
  rw [addFramework, Dict.get?_set]
  obtain ⟨controlId', frameworkId'⟩ := row
  by_cases hcontrol : controlId = controlId'
  · subst hcontrol
    simp
  · simp [hcontrol]

/-- The mapping of a control has its frameworks. -/
theorem mem_controlIdsByFramework {controlId frameworkId : Id} :
    frameworkId ∈ ((controlIdsByFramework db).get? controlId).getD [] ↔
      MappedTo db controlId frameworkId := by
  -- by induction on the rows, with the dictionary so far generalized
  have hfold : ∀ (rows : List (Id × Id)) (mapping : Dict Id (List Id)),
      frameworkId ∈ ((rows.foldl addFramework mapping).get? controlId).getD [] ↔
        (controlId, frameworkId) ∈ rows ∨ frameworkId ∈ (mapping.get? controlId).getD [] := by
    intro rows
    induction rows with
    | nil => simp
    | cons row rows ih =>
      intro mapping
      rw [List.foldl_cons, ih, mem_addFramework, List.mem_cons, or_left_comm, or_assoc]
  rw [controlIdsByFramework, hfold, mem_mappedFrameworks]
  simp [Dict.get?, Dict.empty]

/-- An item matches the frameworks of its control. -/
theorem matchesFramework_iff {frameworkId : Id} {item : ReadinessItem} :
    matchesFramework (controlIdsByFramework db) frameworkId item ↔
      InFramework db frameworkId item := by
  unfold matchesFramework InFramework
  cases item.controlId with
  | none => simp
  | some controlId => simp [mem_controlIdsByFramework]

instance (frameworkId : Id) : DecidablePred (InFramework db frameworkId) :=
  fun _ => decidable_of_iff _ matchesFramework_iff

/-! ## The order -/

/-- Items stand in the order of their keys. -/
theorem filter_sortItems (p : ReadinessItem → Bool) (items : List ReadinessItem) :
    (sortItems items).filter p = sortItems (items.filter p) :=
  have : IsTrans ReadinessItem fun x y => sortKey x ≤ sortKey y := ⟨fun _ _ _ => le_trans⟩
  have : Std.Total fun x y : ReadinessItem => sortKey x ≤ sortKey y := ⟨fun _ _ => le_total _ _⟩
  List.filter_insertionSort_comm

/-- Undated items stand behind the dated ones, which stand in the order of their dates. -/
theorem sortItems_pairwise (items : List ReadinessItem) :
    (sortItems items).Pairwise fun x y =>
      ∀ dueOn, y.dueOn = some dueOn → ∃ dueOn', x.dueOn = some dueOn' ∧ dueOn' ≤ dueOn := by
  have : IsTrans ReadinessItem fun x y => sortKey x ≤ sortKey y := ⟨fun _ _ _ => le_trans⟩
  have : Std.Total fun x y : ReadinessItem => sortKey x ≤ sortKey y := ⟨fun _ _ => le_total _ _⟩
  refine (List.pairwise_insertionSort (fun x y => sortKey x ≤ sortKey y) items).imp ?_
  intro x y hle dueOn hy
  simp only [sortKey, hy, Prod.Lex.toLex_le_toLex, Option.isNone_some, Option.getD_some] at hle
  -- Items without a date sort last.
  cases hx : x.dueOn with
  | none =>
    rw [hx] at hle
    exact absurd hle (by simp)
  | some dueOn' =>
    simp only [hx, Option.isNone_some, Option.getD_some, lt_self_iff_false, true_and,
      false_or] at hle
    rcases hle with hlt | ⟨heq, -⟩
    · exact ⟨dueOn', rfl, hlt.le⟩
    · exact ⟨dueOn', rfl, heq.le⟩

/-! ## Occurrences -/

/-- The items are not about one occurrence. -/
def Apart (x y : ReadinessItem) : Prop :=
  ∀ id, ¬ (x.link = occurrenceLink id ∧ y.link = occurrenceLink id)

theorem Apart.symm {x y : ReadinessItem} (h : Apart x y) : Apart y x :=
  fun id hlinks => h id hlinks.symm

/-- Two occurrences have two links. -/
theorem occurrenceLink_injective : Function.Injective occurrenceLink := fun _ _ h =>
  toString_nat_injective ((String.append_right_inj _).1 h)

/-- What starts with another letter is no link to an occurrence. -/
theorem ne_occurrenceLink {start : String} (hlength : 1 < start.toList.length)
    (hstart : start.toList[1]? ≠ some 'o') (text : String) (id : Id) :
    start ++ text ≠ occurrenceLink id := by
  intro heq
  have hsecond := congrArg (fun link => link.toList[1]?) heq
  simp only [occurrenceLink, String.toList_append] at hsecond
  rw [List.getElem?_append_left hlength, List.getElem?_append_left (by decide)] at hsecond
  exact hstart hsecond

/-- None of the items is about an occurrence. -/
def Foreign (items : List ReadinessItem) : Prop :=
  ∀ item ∈ items, ∀ id, item.link ≠ occurrenceLink id

/-- Items of other subjects are apart from those of occurrences. -/
theorem pairwise_append_of_foreign {items others : List ReadinessItem}
    (h : items.Pairwise Apart) (hothers : Foreign others) :
    (items ++ others).Pairwise Apart := by
  refine List.pairwise_append.2 ⟨h, ?_, fun x _ y hy id hlinks => hothers y hy id hlinks.2⟩
  exact List.pairwise_of_forall_mem_list fun x hx y _ id hlinks => hothers x hx id hlinks.1

/-- Stale evidence is no occurrence. -/
theorem computeEvidenceStaleItems_foreign : Foreign (computeEvidenceStaleItems db clock) := by
  intro item hitem
  obtain ⟨row, -, h⟩ := List.mem_filterMap.1 hitem
  obtain ⟨expiresAt, -, h⟩ := Option.bind_eq_some_iff.1 h
  split at h
  · cases h
    exact ne_occurrenceLink (by decide) (by decide) _
  · cases h

/-- A failed test is no occurrence. -/
theorem computeControlTestFailedNoFindingItems_foreign :
    Foreign (computeControlTestFailedNoFindingItems db) := by
  intro item hitem
  obtain ⟨row, -, rfl⟩ := List.mem_map.1 hitem
  exact ne_occurrenceLink (by decide) (by decide) _

/-- A finding is no occurrence. -/
theorem computeFindingItems_foreign : Foreign (computeFindingItems db clock) := by
  intro item hitem
  simp only [computeFindingItems, List.mem_append, List.mem_map] at hitem
  rcases hitem with (⟨row, -, rfl⟩ | ⟨row, -, rfl⟩) | ⟨row, -, rfl⟩
  all_goals exact ne_occurrenceLink (by decide) (by decide) _

/-- A control without an owner is no occurrence. -/
theorem computeControlMissingOwnerItems_foreign :
    Foreign (computeControlMissingOwnerItems db) := by
  intro item hitem
  obtain ⟨row, -, rfl⟩ := List.mem_map.1 hitem
  exact ne_occurrenceLink (by decide) (by decide) _

/-- A policy to be reviewed is no occurrence. -/
theorem computePolicyReviewOverdueItems_foreign :
    Foreign (computePolicyReviewOverdueItems db clock) := by
  intro item hitem
  obtain ⟨row, -, h⟩ := List.mem_filterMap.1 hitem
  obtain ⟨nextReviewDate, -, h⟩ := Option.bind_eq_some_iff.1 h
  split at h
  · cases h
    exact ne_occurrenceLink (by decide) (by decide) _
  · cases h

/-- The item of an occurrence links to it. -/
theorem occurrenceItem_link {now cutoff : DateTime}
    {row : Id × ControlOccurrences.ControlOccurrence} {item : ReadinessItem}
    (h : occurrenceItem now cutoff row = some item) :
    item.link = occurrenceLink row.1 := by
  obtain ⟨dueAt, -, h⟩ := Option.bind_eq_some_iff.1 h
  split at h
  · cases h
    rfl
  · split at h
    · cases h
      rfl
    · cases h

/-- An item for missing evidence is about an occurrence that has been performed. -/
theorem missingEvidenceItem_link {row : Id × ControlOccurrences.ControlOccurrence}
    {item : ReadinessItem} (h : missingEvidenceItem row = some item) :
    item.link = occurrenceLink row.1 ∧ row.2.performedAt ≠ none := by
  unfold missingEvidenceItem at h
  split at h
  · next hperformed _ _ =>
    cases h
    exact ⟨rfl, by rw [hperformed]; exact nofun⟩
  · cases h

/-- No occurrence is listed twice. -/
theorem nodup_occurrenceLinks (rows : Rows ControlOccurrences.ControlOccurrence) :
    (rows.items.map fun row => occurrenceLink row.1).Nodup := by
  have h := rows.nodup_keys.map occurrenceLink_injective
  rwa [List.map_map] at h

/-- An occurrence has been performed or not. -/
theorem nodup_links {items : List ReadinessItem}
    (h : computeOccurrenceItems db clock = some items) :
    ((items ++ computeOccurrenceMissingEvidenceItems db).map (·.link)).Nodup := by
  obtain ⟨cutoff, -, rfl⟩ := Option.map_eq_some_iff.1 h
  have hnodup := nodup_occurrenceLinks db.controlOccurrences
  rw [List.map_append]
  refine List.Nodup.append ?_ ?_ ?_
  · have hlinks : ∀ row ∈ db.controlOccurrences.items.filter fun row => row.2.performedAt.isNone,
        ∀ item, occurrenceItem clock.occurrences cutoff row = some item →
          item.link = occurrenceLink row.1 := fun _ _ _ => occurrenceItem_link
    exact hnodup.sublist ((List.map_filterMap_sublist hlinks).trans (List.filter_sublist.map _))
  · have hlinks : ∀ row ∈ db.controlOccurrences.items, ∀ item,
        missingEvidenceItem row = some item → item.link = occurrenceLink row.1 :=
      fun _ _ _ hitem => (missingEvidenceItem_link hitem).1
    exact hnodup.sublist (List.map_filterMap_sublist hlinks)
  · intro link hx hy
    obtain ⟨x, hmem, rfl⟩ := List.mem_map.1 hx
    obtain ⟨y, hmem', hlink⟩ := List.mem_map.1 hy
    obtain ⟨row, hrow, hitem⟩ := List.mem_filterMap.1 hmem
    obtain ⟨hrow, hopen⟩ := List.mem_filter.1 hrow
    obtain ⟨row', hrow', hitem'⟩ := List.mem_filterMap.1 hmem'
    obtain ⟨hlink', hperformed⟩ := missingEvidenceItem_link hitem'
    have hkey : row'.1 = row.1 :=
      occurrenceLink_injective (hlink'.symm.trans (hlink.trans (occurrenceItem_link hitem)))
    obtain rfl := List.inj_on_of_nodup_map db.controlOccurrences.nodup_keys hrow' hrow hkey
    exact hperformed (Option.isNone_iff_eq_none.1 hopen)

/-- No two items are about one occurrence. -/
theorem allItems_apart {items : List ReadinessItem} (h : allItems db clock = some items) :
    items.Pairwise Apart := by
  obtain ⟨occurrenceItems, hoccurrences, rfl⟩ := Option.map_eq_some_iff.1 h
  have hapart : (occurrenceItems ++ computeOccurrenceMissingEvidenceItems db).Pairwise Apart :=
    (List.pairwise_map.1 (nodup_links hoccurrences)).imp
      fun hne id hlinks => hne (hlinks.1.trans hlinks.2.symm)
  apply pairwise_append_of_foreign _ computePolicyReviewOverdueItems_foreign
  apply pairwise_append_of_foreign _ computeControlMissingOwnerItems_foreign
  apply pairwise_append_of_foreign _ computeFindingItems_foreign
  apply pairwise_append_of_foreign _ computeControlTestFailedNoFindingItems_foreign
  exact pairwise_append_of_foreign hapart computeEvidenceStaleItems_foreign

/-! ## The stage -/

/-- The two sets of categories cover every category but one. -/
theorem category_cases (category : ReadinessCategory) :
    category = .occurrenceUpcoming ∨ category ∈ evidenceGapCategories ∨
      category ∈ testingRemediationCategories := by
  cases category <;> decide

/-- What is only upcoming hinders no stage. -/
theorem upcoming_not_mem : ReadinessCategory.occurrenceUpcoming ∉ evidenceGapCategories ∧
    ReadinessCategory.occurrenceUpcoming ∉ testingRemediationCategories := by
  decide

/-- A queue without hits has no item of the categories. -/
theorem hits_eq_nil_iff {queue : List ReadinessItem} {categories : List ReadinessCategory} :
    hits queue categories = [] ↔ ∀ item ∈ queue, item.category ∉ categories := by
  simp only [hits, List.filter_eq_nil_iff, decide_eq_true_eq, List.mem_map, not_exists, not_and]
  constructor
  · exact fun h item hitem hmem => h _ hmem item hitem rfl
  · exact fun h category hcategory item hitem heq => h item hitem (heq ▸ hcategory)

/-- Only what is not upcoming keeps a package from being ready. -/
theorem stageOfQueue_eq_ready_iff {queue : List ReadinessItem} :
    (stageOfQueue queue).stage = .auditPackageReady ↔
      ∀ item ∈ queue, item.category = .occurrenceUpcoming := by
  have hcover : (∀ item ∈ queue, item.category = .occurrenceUpcoming) ↔
      hits queue evidenceGapCategories = [] ∧ hits queue testingRemediationCategories = [] := by
    rw [hits_eq_nil_iff, hits_eq_nil_iff]
    constructor
    · intro h
      constructor
      · exact fun item hitem => h item hitem ▸ upcoming_not_mem.1
      · exact fun item hitem => h item hitem ▸ upcoming_not_mem.2
    · intro h item hitem
      rcases category_cases item.category with heq | hgap | htesting
      · exact heq
      · exact absurd hgap (h.1 item hitem)
      · exact absurd htesting (h.2 item hitem)
  rw [hcover, stageOfQueue]
  -- Evidence gaps come before testing, and testing before the audit package.
  split
  · next hgap => simp [hgap]
  · next hgap =>
    split
    · next htesting => simp [htesting]
    · next htesting => simp [not_not.1 hgap, not_not.1 htesting]

/-- The step is complete. -/
def StepComplete (db : Database) (evidenceRepositoryConfigured : Bool) (key : String) : Prop :=
  ∃ step ∈ computeOnboardingSteps db evidenceRepositoryConfigured,
    step.key = key ∧ step.isComplete = true

/-- The steps have different keys. -/
theorem isComplete_of_stepComplete {evidenceRepositoryConfigured : Bool} {key : String}
    (h : StepComplete db evidenceRepositoryConfigured key) :
    isComplete (computeOnboardingSteps db evidenceRepositoryConfigured) key = some true := by
  obtain ⟨step, hstep, rfl, hcomplete⟩ := h
  have hnodup : (((computeOnboardingSteps db evidenceRepositoryConfigured).map
      fun step => (step.key, step)).map Prod.fst).Nodup := by
    simp [computeOnboardingSteps]
  have hget : (Dict.ofList ((computeOnboardingSteps db evidenceRepositoryConfigured).map
      fun step => (step.key, step))).get? step.key = some step := by
    rw [Dict.get?_eq_some_iff, Dict.ofList_items hnodup]
    exact List.mem_map_of_mem (f := fun step => (step.key, step)) hstep
  rw [isComplete, hget]
  exact congrArg some hcomplete

/-- With the foundation there, the queue decides the stage. -/
theorem computeReadinessStage_of_complete {evidenceRepositoryConfigured : Bool}
    (hscope : getComplianceScope db ≠ none)
    (hstarter : StepComplete db evidenceRepositoryConfigured "starter_controls")
    (howners : StepComplete db evidenceRepositoryConfigured "assign_owners")
    (hperiod : StepComplete db evidenceRepositoryConfigured "operating_period") :
    computeReadinessStage db clock evidenceRepositoryConfigured =
      (computeReadinessQueue db clock none).map stageOfQueue := by
  rw [computeReadinessStage, if_neg hscope]
  simp only [isComplete_of_stepComplete hstarter, isComplete_of_stepComplete howners,
    isComplete_of_stepComplete hperiod]
  cases computeReadinessQueue db clock none <;> rfl

/-! ## Queue and stage -/

/-- What the queue, the queues of the frameworks and the stage have to do with each other. -/
structure Agrees (db : Database) (clock : Clock) (queue : List ReadinessItem) : Prop where
  filtered : ∀ frameworkId, computeReadinessQueue db clock (some frameworkId) =
    some (queue.filter fun item => InFramework db frameworkId item)
  once : queue.Pairwise Apart
  sorted : queue.Pairwise fun x y =>
    ∀ dueOn, y.dueOn = some dueOn → ∃ dueOn', x.dueOn = some dueOn' ∧ dueOn' ≤ dueOn
  ready : ∀ evidenceRepositoryConfigured, getComplianceScope db ≠ none →
    StepComplete db evidenceRepositoryConfigured "starter_controls" →
    StepComplete db evidenceRepositoryConfigured "assign_owners" →
    StepComplete db evidenceRepositoryConfigured "operating_period" →
      ((∃ result, computeReadinessStage db clock evidenceRepositoryConfigured = some result ∧
        result.stage = .auditPackageReady) ↔
          ∀ item ∈ queue, item.category = .occurrenceUpcoming)

/-- The queue of a framework is the unfiltered one without what is not in the framework. -/
theorem filtered_queue {items : List ReadinessItem} (h : allItems db clock = some items)
    (frameworkId : Id) : computeReadinessQueue db clock (some frameworkId) =
      some ((sortItems items).filter fun item => InFramework db frameworkId item) := by
  have hmatches : (fun item => decide (InFramework db frameworkId item)) =
      matchesFramework (controlIdsByFramework db) frameworkId := by
    funext item
    rw [Bool.eq_iff_iff, decide_eq_true_eq, matchesFramework_iff]
  rw [computeReadinessQueue, h, hmatches, filter_sortItems]
  rfl

/-- Queue and stage agree in every database, on every clock that is not in its last 14 days. -/
theorem queue_and_stage_agree (db : Database) (clock : Clock) :
    (3652059 < clock.occurrences.date.toordinal + upcomingWindowDays ∧
      ∀ frameworkId, computeReadinessQueue db clock frameworkId = none) ∨
    ∃ queue, computeReadinessQueue db clock none = some queue ∧ Agrees db clock queue := by
  -- A date beyond year 9999 raises before anything is sorted.
  cases hitems : allItems db clock with
  | none =>
    refine .inl ⟨?_, fun frameworkId => by rw [computeReadinessQueue, hitems]; rfl⟩
    have hcutoff : ¬ (clock.occurrences.date.subDays (-upcomingWindowDays)).isSome := by
      simpa [allItems, computeOccurrenceItems, upcomingCutoff] using hitems
    rw [Date.subDays_isSome_iff] at hcutoff
    have hmem := clock.occurrences.date.toordinal_mem
    omega
  | some items =>
    have hqueue : computeReadinessQueue db clock none = some (sortItems items) := by
      rw [computeReadinessQueue, hitems]
      rfl
    refine .inr ⟨_, hqueue, ?_⟩
    constructor
    case filtered => exact filtered_queue hitems
    case once =>
      exact ((List.perm_insertionSort _ items).pairwise_iff Apart.symm).2 (allItems_apart hitems)
    case sorted => exact sortItems_pairwise items
    case ready =>
      intro configured hscope hstarter howners hperiod
      rw [computeReadinessStage_of_complete hscope hstarter howners hperiod, hqueue,
        ← stageOfQueue_eq_ready_iff]
      simp

end MiniGrc.Readiness
