import MiniGrc.App.FrameworkRequirements
import MiniGrc.ForStd.Run
import MiniGrc.Spec.BulkUpdates

/-!
# The framework of a requirement

Every writer of `framework_requirements` but the register only adds rows. The register lets a
client set the scope field too, so a requirement keeps its framework along the runs in which
no accepted request sets it to another value (`KeepsFrameworks`).

## Key results

- `Extends`: requirements, assessments and mappings stay where they are
- `addRequirement_extends`, `reconcileCatalog_extends`: the other writers
- `requirement_stays`: the runs under the condition
- `requirement_moves`: a request that moves a requirement
-/

namespace MiniGrc.FrameworkRequirements

open Registers FrameworkAdoptions

variable {clock : UpdateClock} {newId : Nat → Id} {model : Table FrameworkRow → Model} {env : Env}
  {s t u : State clock} {frameworkId id : Id} {new : NewRequirement}

/-! ## What stays -/

/-- The framework of a requirement. -/
def frameworkOf (register : Register clock) (k : Id) : Option Json :=
  (register.rows[k]?).map fun row => row.values "framework_id"

/-- The framework of the requirement that a row of another table refers to. -/
def pinnedTo (references : Table Id) (register : Register clock) (a : Id) : Option Json :=
  (references[a]?).bind (frameworkOf register)

/-- Every requirement is still there, in its framework, and so are the assessments and the
    mappings, with their requirements. -/
structure Extends (s t : State clock) : Prop where
  frameworkOf : ∀ k f, frameworkOf s.requirements k = some f →
    FrameworkRequirements.frameworkOf t.requirements k = some f
  assessments : ∀ (a : Id) k, s.assessments[a]? = some k → t.assessments[a]? = some k
  mappings : t.mappings = s.mappings

theorem Extends.refl (s : State clock) : Extends s s :=
  ⟨fun _ _ => id, fun _ _ => id, rfl⟩

theorem Extends.trans (h : Extends s t) (h' : Extends t u) : Extends s u :=
  ⟨fun k f hf => h'.frameworkOf k f (h.frameworkOf k f hf),
    fun a k ha => h'.assessments a k (h.assessments a k ha), h'.mappings.trans h.mappings⟩

/-- A loop extends the state if each of its turns does. -/
theorem extends_foldlM {α ε : Type} {f : State clock → α → Except ε (State clock)}
    (hf : ∀ s a t, f s a = .ok t → Extends s t) {l : List α} (h : l.foldlM f s = .ok t) :
    Extends s t := by
  induction l generalizing s with
  | nil =>
    cases h
    exact .refl _
  | cons a l ih =>
    obtain ⟨u, hu, hrest⟩ := Except.foldlM_cons_eq_ok.1 h
    exact (hf s a u hu).trans (ih hrest)

/-! ## New requirements -/

/-- An `INSERT` leaves the rows that are there. -/
theorem insert_row {m : Model} {register register' : Register clock} {fields : JsonDict}
    (h : m.insert register id fields = .ok register') {k : Id} {row : Row}
    (hrow : register.rows[k]? = some row) : register'.rows[k]? = some row := by
  unfold Model.insert at h
  simp only at h
  split at h
  · cases h
  · split at h
    · next hadmits =>
      cases h
      have hne : id ≠ k := fun heq => hadmits.1 (heq ▸ Table.mem_of_get hrow)
      rw [Table.get_insert_ne hne]
      exact hrow
    · cases h

/-- Adding a requirement leaves the frameworks of the others. -/
theorem addRequirement_extends (h : addRequirement newId model frameworkId s new = .ok t) :
    Extends s t := by
  obtain ⟨register, hinsert, h⟩ := Except.bind_eq_ok.1 h
  simp only at h
  split at h
  · cases h
  · next hassessment =>
    cases h
    refine ⟨fun k f hf => ?_, fun a k ha => ?_, rfl⟩
    · obtain ⟨row, hrow, rfl⟩ := Option.map_eq_some_iff.1 hf
      exact Option.map_eq_some_iff.2 ⟨row, insert_row hinsert hrow, rfl⟩
    · -- the new assessment has a new id
      have hne : newId (s.drawn + 1) ≠ a := fun heq => hassessment (heq ▸ Table.mem_of_get ha)
      change (s.assessments.insert _ _)[a]? = _
      rw [Table.get_insert_ne hne]
      exact ha

/-- Creating a requirement leaves the frameworks of the others. -/
theorem createRequirement_extends (h : createRequirement newId model s frameworkId new = .ok t) :
    Extends s t := by
  unfold createRequirement at h
  simp only at h
  split at h
  · cases h
    exact .refl _
  · exact addRequirement_extends h

/-- The importer leaves the frameworks of the others. -/
theorem importRequirementsCsv_extends {py : Python} {rawBytes : List UInt8} {created : Nat}
    {errors : List String}
    (h : importRequirementsCsv newId model py s frameworkId rawBytes = .ok (t, created, errors)) :
    Extends s t := by
  unfold importRequirementsCsv at h
  split at h
  · cases h
  · cases h
    exact .refl _
  · -- every row of the file has passed the checks
    split at h
    · cases h
    · next hadd =>
      cases h
      exact extends_foldlM (fun _ _ _ => addRequirement_extends) hadd

/-- The import route leaves the frameworks of the others. -/
theorem importFrameworkRequirements_extends {py : Python} {rawBytes : List UInt8}
    (h : importFrameworkRequirements newId model py s frameworkId rawBytes = .ok t) :
    Extends s t := by
  unfold importFrameworkRequirements at h
  split at h
  · cases h
  · split at h
    · cases h
    · next himport =>
      cases h
      exact importRequirementsCsv_extends himport
    · cases h

/-! ## The system catalogs -/

/-- Creating a framework leaves the requirements. -/
theorem findOrCreateFramework_extends {catalog : SystemCatalog} {framework : FrameworkRow}
    (h : findOrCreateFramework newId s catalog = .ok (id, framework, t)) : Extends s t := by
  unfold findOrCreateFramework at h
  split at h
  · cases h
    exact .refl _
  · simp only at h
    split at h
    · cases h
    · cases h
      exact ⟨fun _ _ hf => hf, fun _ _ ha => ha, rfl⟩

/-- Creating a catalog's requirement leaves the others. -/
theorem findOrCreateRequirement_extends {catalogKey : String}
    (h : findOrCreateRequirement newId model frameworkId catalogKey s new = .ok t) :
    Extends s t := by
  unfold findOrCreateRequirement at h
  split at h
  · cases h
    exact .refl _
  · split at h
    · next hadd =>
      cases h
      exact addRequirement_extends hadd
    · cases h
    · cases h

/-- An adoption leaves the requirements. -/
theorem withAdoptions_extends {outcome : Outcome AdoptionSession}
    (h : s.withAdoptions outcome = .ok t) : Extends s t := by
  unfold State.withAdoptions at h
  split at h
  · cases h
    exact ⟨fun _ _ hf => hf, fun _ _ ha => ha, rfl⟩
  · cases h

/-- Adopting a framework leaves the requirements. -/
theorem adopt_extends {framework : FrameworkRow} {actor : Actor}
    (h : adopt newId s id framework actor = .ok t) : Extends s t :=
  have hdrawn : Extends s { s with drawn := s.drawn + 1 } :=
    ⟨fun _ _ hf => hf, fun _ _ ha => ha, rfl⟩
  hdrawn.trans (withAdoptions_extends h)

/-- Reconciling a catalog leaves the frameworks of the requirements. -/
theorem reconcileCatalog_extends {catalog : SystemCatalog}
    (h : reconcileCatalog newId model s catalog = .ok t) : Extends s t := by
  obtain ⟨⟨id, framework, s₁⟩, hframework, h⟩ := Except.bind_eq_ok.1 h
  obtain ⟨s₂, hrequirements, h⟩ := Except.bind_eq_ok.1 h
  have h₁ := findOrCreateFramework_extends hframework
  have h₂ := extends_foldlM (fun _ _ _ => findOrCreateRequirement_extends) hrequirements
  refine (h₁.trans h₂).trans ?_
  split at h
  · cases h
    exact .refl _
  · exact adopt_extends h

/-- Upgrading an adoption leaves the requirements. -/
theorem upgrade_extends {adoptionId : Id} {actor : Actor}
    (h : upgrade s adoptionId frameworkId actor = .ok t) : Extends s t := by
  unfold upgrade at h
  split at h
  · cases h
  · exact withAdoptions_extends h

/-! ## The register -/

/-- What the updates set for the framework of a row is stored as the value that it has. -/
def SetsNoOther (model : Model) (register : Register clock) (updates : List Update) : Prop :=
  ∀ (k : Id) row, register.rows[k]? = some row →
    ∀ value ∈ model.change row (assigned updates k) "framework_id",
      model.bind "framework_id" value = some (row.values "framework_id")

/-- No request that is accepted moves a requirement to another framework. -/
def KeepsFrameworks (env : Env) (s : State clock) : Label → Prop
  | .patch role update => ∀ register,
      updateRow requirementsRegisterConfig (env.model s.frameworks) s.requirements role update =
        .ok register → SetsNoOther (env.model s.frameworks) s.requirements [update]
  | .bulk role updates => ∀ register,
      bulkUpdate requirementsRegisterConfig (env.model s.frameworks) s.requirements role updates =
        .ok register → SetsNoOther (env.model s.frameworks) s.requirements updates
  | _ => True

/-- The framework of a requirement is its column. -/
theorem frameworkOf_eq (register : Register clock) (k : Id) :
    frameworkOf register k = (register.values k).map fun values => values "framework_id" := by
  rw [Register.values, Option.map_map]
  rfl

/-- A row keeps its framework if what is assigned to it is stored as the value that it has. -/
theorem effect_framework {m : Model} {row : Row} {fields : JsonDict}
    (h : ∀ value ∈ m.change row fields "framework_id",
      m.bind "framework_id" value = some (row.values "framework_id")) :
    m.effect row.values fields "framework_id" = row.values "framework_id" := by
  have heffect : m.effect row.values fields "framework_id" =
      ((m.change row fields "framework_id").bind (m.bind "framework_id")).getD
        (row.values "framework_id") := rfl
  rw [heffect]
  -- a column that is not changed is not bound either
  cases hchange : m.change row fields "framework_id" with
  | none => rfl
  | some value => rw [Option.bind_some, h value hchange, Option.getD_some]

/-- The rows of a register keep their frameworks if each does. -/
theorem frameworkOf_of_values {m : Model} {register register' : Register clock}
    {updates : List Update} (hsets : SetsNoOther m register updates)
    (hvalues : ∀ k, register'.values k =
      (register.values k).map fun values => m.effect values (assigned updates k))
    (k : Id) : frameworkOf register' k = frameworkOf register k := by
  rw [frameworkOf_eq, frameworkOf_eq, hvalues, Option.map_map]
  cases hrow : register.rows[k]? with
  | none => simp [Register.values, hrow]
  | some row =>
    simp only [Register.values, hrow, Option.map_some, Function.comp_def]
    exact congrArg some (effect_framework (hsets k row hrow))

/-- One update assigns its own fields. -/
theorem assigned_singleton (update : Update) (k : Id) :
    assigned [update] k = if update.id = k then setattrs [] update.fields else [] := by
  by_cases hk : update.id = k
  · simp [assigned, hk]
  · simp [assigned, hk]

/-- An update writes the row it names. -/
theorem updateRow_values {m : Model} {config : RegisterConfig} {role : String} {update : Update}
    {register register' : Register clock}
    (h : updateRow config m register role update = .ok register') (k : Id) :
    register'.values k =
      (register.values k).map fun values => m.effect values (assigned [update] k) := by
  rw [write_values (updateRow_eq_ok.1 h).2.2 k]
  congr 1
  funext values
  rw [assigned_singleton]
  by_cases hk : update.id = k
  · simp [Update.write, hk]
  · have hkeeps : m.Keeps values [] := fun _ => rfl
    simp [Update.write, hk, hkeeps.effect_eq]

/-- A bulk update writes the rows it names. -/
theorem bulkUpdate_values {m : Model} {config : RegisterConfig} {role : String}
    {updates : List Update} {register register' : Register clock}
    (h : bulkUpdate config m register role updates = .ok register') (k : Id) :
    register'.values k =
      (register.values k).map fun values => m.effect values (assigned updates k) := by
  rw [writeAll_values (bulkUpdate_eq_ok.1 h).2.2 k]
  congr 1
  funext values
  exact foldl_fieldsOf_flushOrder values k

/-- A request to the register keeps the frameworks if, once accepted, it sets no other. -/
theorem afterRequest_extends {answer : Except Refusal (Register clock)} {updates : List Update}
    (hsets : ∀ register, answer = .ok register →
      SetsNoOther (env.model s.frameworks) s.requirements updates)
    (hvalues : ∀ register, answer = .ok register → ∀ k, register.values k =
      (s.requirements.values k).map fun values =>
        (env.model s.frameworks).effect values (assigned updates k)) :
    Extends s (s.afterRequest answer) := by
  refine ⟨fun k f hf => ?_, fun _ _ ha => ha, rfl⟩
  cases hanswer : answer with
  -- a refused request is rolled back
  | error e => exact hf
  | ok register =>
    have hkeeps := frameworkOf_of_values (hsets register hanswer) (hvalues register hanswer) k
    exact hkeeps.trans hf

/-! ## Runs -/

/-- A request that fails leaves the state. -/
theorem after_extends {ε : Type} {result : Except ε (State clock)}
    (h : ∀ t, result = .ok t → Extends s t) : Extends s (s.after result) := by
  cases hresult : result with
  | error e => exact .refl s
  | ok t => exact h t hresult

theorem step_extends {l : Label} (hok : KeepsFrameworks env s l) (h : step env s l = some t) :
    Extends s t := by
  -- Only the registers write to a requirement that exists, and `hok` keeps them off its framework.
  cases l with
  | patch role update =>
    cases h
    exact afterRequest_extends hok fun _ hanswer => updateRow_values hanswer
  | bulk role updates =>
    cases h
    exact afterRequest_extends hok fun _ hanswer => bulkUpdate_values hanswer
  | create frameworkId new =>
    cases h
    exact after_extends fun _ => createRequirement_extends
  | importCsv frameworkId rawBytes =>
    cases h
    exact after_extends fun _ => importFrameworkRequirements_extends
  | reconcile =>
    cases h
    exact after_extends fun _ => extends_foldlM fun _ _ _ => reconcileCatalog_extends
  | adopt frameworkId actor =>
    simp only [step] at h
    split at h
    · cases h
      exact .refl _
    · cases h
      exact after_extends fun _ => adopt_extends
  | upgrade adoptionId toFrameworkId actor =>
    cases h
    exact after_extends fun _ => upgrade_extends

/-- A requirement stays in its framework, and the assessments and mappings stay pinned to it,
    along every run in which no accepted request sets another framework. -/
theorem requirement_stays (h : Run (step env) (KeepsFrameworks env) s t) :
    (∀ k f, frameworkOf s.requirements k = some f → frameworkOf t.requirements k = some f) ∧
      (∀ a f, pinnedTo s.assessments s.requirements a = some f →
        pinnedTo t.assessments t.requirements a = some f) ∧
      ∀ a f, pinnedTo s.mappings s.requirements a = some f →
        pinnedTo t.mappings t.requirements a = some f := by
  have hext : Extends s t :=
    h.invariant (P := Extends s) (.refl s) fun _ _ _ ht hok hl => ht.trans (step_extends hok hl)
  refine ⟨hext.frameworkOf, fun a f hf => ?_, fun a f hf => ?_⟩
  · obtain ⟨k, hk, hf⟩ := Option.bind_eq_some_iff.1 hf
    exact Option.bind_eq_some_iff.2 ⟨k, hext.assessments a k hk, hext.frameworkOf k f hf⟩
  · obtain ⟨k, hk, hf⟩ := Option.bind_eq_some_iff.1 hf
    exact Option.bind_eq_some_iff.2 ⟨k, by rw [hext.mappings]; exact hk, hext.frameworkOf k f hf⟩

/-- Two frameworks. -/
def twoFrameworks : Table FrameworkRow :=
  ((∅ : Table FrameworkRow).insert 1 ⟨some "iso27001-2022-sample", some "iso27001", true⟩).insert 2
    ⟨some "soc2-2017-sample", some "soc2", true⟩

/-- The constraints of the requirements, for texts, with the foreign key into the frameworks. -/
def requirementsIn (frameworks : Table FrameworkRow) : Model :=
  { requirementTexts with
    admits := fun values => requirementTexts.admits values &&
      frameworks.toList.any fun x => isText (values "framework_id") (toString x.1) }

/-- One catalog, whose framework is there, with one requirement. -/
def oneCatalog : Env where
  newId n := 100 + n
  model := requirementsIn
  python := ⟨CsvReader.plain, fun _ => "", String.toInt?⟩
  systemCatalogs := [{
    catalogKey := "soc2-2017-sample"
    catalogFamily := "soc2"
    name := "SOC 2"
    requirements := [{ referenceCode := "CC1.1", title := "Control environment" }] }]

/-- A requirement of the first framework, with its assessment and a mapping. -/
def oneRequirement : State counter where
  frameworks := twoFrameworks
  requirements :=
    { rows := (∅ : Table Row).insert 1 {
        values := fun column =>
          if column = "framework_id" then .str "1"
          else if column = "reference_code" then .str "A.5.1"
          else .str "Policies"
        updatedAt := 0 }
      ticks := 1
      past := Table.forall_of_toList (p := fun _ (row : Row) => row.updatedAt < 1) (by decide) }
  assessments := (∅ : Table Id).insert 5 1
  mappings := (∅ : Table Id).insert 6 1
  adoptions := { rows := ∅, events := [], ticks := 0 }

/-- A `PATCH` of the requirement. -/
def patchRequirement (field value : String) : Label :=
  .patch "operator" { id := 1, expectedUpdatedAt := some 0, fields := [(field, .str value)] }

/-- A new title and a reconciliation leave the requirement in its framework. -/
theorem requirement_stays_retitled :
    ∃ t, Run (step oneCatalog) (KeepsFrameworks oneCatalog) oneRequirement t ∧
      pinnedTo t.assessments t.requirements 5 = some (.str "1") := by
  obtain ⟨t, ht⟩ :
      ∃ t, step oneCatalog oneRequirement (patchRequirement "title" "Policy") = some t :=
    ⟨_, rfl⟩
  obtain ⟨u, hu⟩ : ∃ u, step oneCatalog t .reconcile = some u := ⟨_, rfl⟩
  have hkeeps : KeepsFrameworks oneCatalog oneRequirement (patchRequirement "title" "Policy") := by
    intro register _ k row _ value hvalue
    rw [assigned_singleton] at hvalue
    split at hvalue
    · cases hvalue
    · cases hvalue
  have hrun : Run (step oneCatalog) (KeepsFrameworks oneCatalog) oneRequirement u :=
    (Run.refl.tail _ hkeeps ht).tail .reconcile trivial hu
  exact ⟨u, hrun, (requirement_stays hrun).2.1 5 (.str "1") rfl⟩

/-- A `PATCH` of the scope field moves a requirement, and its assessment, to another framework. -/
theorem requirement_moves :
    ∃ t, Run (step oneCatalog) (fun _ _ => True) oneRequirement t ∧
      frameworkOf oneRequirement.requirements 1 = some (.str "1") ∧
      frameworkOf t.requirements 1 = some (.str "2") ∧
      pinnedTo t.assessments t.requirements 5 = some (.str "2") := by
  obtain ⟨t, ht, hframework, hpinned⟩ : ∃ t, Run.exec (step oneCatalog) oneRequirement
      [patchRequirement "framework_id" "2"] = some t ∧
        frameworkOf t.requirements 1 = some (.str "2") ∧
        pinnedTo t.assessments t.requirements 5 = some (.str "2") := ⟨_, rfl, rfl, rfl⟩
  exact ⟨t, Run.of_exec_true _ ht, rfl, hframework, hpinned⟩

end MiniGrc.FrameworkRequirements
