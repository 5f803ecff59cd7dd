import MiniGrc.ForStd.Stems
import MiniGrc.App.CsvImporters

/-!
# Imported text

The risk importer neutralises each text column after trimming it. The importer of framework
requirements trims the columns and stores them.

## Key results

- `imports_neutralised_iff`: when the rows of an accepted file are neutralised
-/

namespace MiniGrc.CsvImporters

open Imports FrameworkRequirements
open JobRuns (Target)

/-! ## Neutralisation -/

/-- A neutralised value starts with no trigger. -/
@[simp] theorem startsFormula_neutralize (value : String) :
    startsFormula (neutralizeCsvFormula value) = false := by
  unfold neutralizeCsvFormula
  split
  · rw [startsFormula, String.toList_ofList]
    rfl
  · next h => exact Bool.eq_false_iff.2 h

/-- Neutralisation changes only values that start with a trigger. -/
theorem startsFormula_of_ne {value : String} (h : neutralizeCsvFormula value ≠ value) :
    startsFormula value = true := by
  by_contra hnot
  exact h (if_neg hnot)

/-! ## The texts of a row -/

/-- The text columns of a row that an importer adds. Those of an assessment are constants. -/
def Record.texts : Record → List String
  | .framework | .requirementAssessment => []
  | .requirement _ new => [new.referenceCode, new.title, new.summary]
  | .risk r => [r.title, r.description, r.category, r.owner, r.status, r.treatmentPlan]

/-- No text column of the row starts with a trigger. -/
def Neutralised (record : Record) : Prop := ∀ text ∈ record.texts, startsFormula text = false

/-- The columns of a requirements file that hold text. -/
def textColumns : List String := ["reference_code", "title", "description"]

/-- No text column of the row of a file starts with a trigger, once trimmed. -/
def PlainRow (row : String → Option String) : Prop :=
  ∀ column ∈ textColumns, startsFormula (cell row column) = false

/-! ## Requirements -/

/-- The requirement of a row of a file. -/
def OfRow (row : String → Option String) (new : NewRequirement) : Prop :=
  new.referenceCode = cell row "reference_code" ∧ new.title = cell row "title" ∧
    new.summary = cell row "description"

variable {parseInt : String → Option Int} {hasCode : String → Bool} {checked : Checked}
  {line : Nat × (String → Option String)} {lines : List (Nat × (String → Option String))}

/-- A row is refused, or parsed. -/
theorem checkCsvRow_cases (parseInt : String → Option Int) (hasCode : String → Bool)
    (checked : Checked) (line : Nat × (String → Option String)) :
    (checkCsvRow parseInt hasCode checked line).errors ≠ [] ∨
    (checkCsvRow parseInt hasCode checked line).errors = checked.errors ∧ ∃ new,
      OfRow line.2 new ∧
        (checkCsvRow parseInt hasCode checked line).parsed = checked.parsed ++ [new] := by
  obtain ⟨lineNumber, row⟩ := line
  unfold checkCsvRow
  simp only
  split_ifs
  · exact .inl (by simp)
  · exact .inl (by simp)
  · exact .inl (by simp)
  · exact .inl (by simp)
  · exact .inr ⟨rfl, _, ⟨rfl, rfl, rfl⟩, rfl⟩
  · split
    · exact .inr ⟨rfl, _, ⟨rfl, rfl, rfl⟩, rfl⟩
    · exact .inl (by simp)

/-- An error stays. -/
theorem checkCsvRow_errors (h : checked.errors ≠ []) :
    (checkCsvRow parseInt hasCode checked line).errors ≠ [] := by
  rcases checkCsvRow_cases parseInt hasCode checked line with hne | ⟨heq, -⟩
  · exact hne
  · rwa [heq]

/-- Without an error, each row has its requirement. -/
theorem parsed_of_errors_eq_nil
    (h : (lines.foldl (checkCsvRow parseInt hasCode) checked).errors = []) :
    ∃ news, (lines.foldl (checkCsvRow parseInt hasCode) checked).parsed = checked.parsed ++ news ∧
      List.Forall₂ OfRow (lines.map Prod.snd) news := by
  have hstay : ∀ lines : List (Nat × (String → Option String)), ∀ checked : Checked,
      checked.errors ≠ [] →
        (lines.foldl (checkCsvRow parseInt hasCode) checked).errors ≠ [] := by
    intro lines
    induction lines with
    | nil => exact fun _ h => h
    | cons line lines ih => exact fun checked h => ih _ (checkCsvRow_errors h)
  induction lines generalizing checked with
  | nil => exact ⟨[], (List.append_nil _).symm, .nil⟩
  | cons line lines ih =>
    rw [List.foldl_cons] at h ⊢
    rcases checkCsvRow_cases parseInt hasCode checked line with hne | ⟨-, new, hnew, hparsed⟩
    · exact absurd h (hstay lines _ hne)
    · obtain ⟨news, hnews, hall⟩ := ih h
      refine ⟨new :: news, ?_, .cons hnew hall⟩
      rw [hnews, hparsed, List.append_assoc]
      rfl

theorem OfRow.neutralised_iff {row : String → Option String} {new : NewRequirement} {id : Id}
    (h : OfRow row new) : Neutralised (.requirement id new) ↔ PlainRow row := by
  obtain ⟨hcode, htitle, hsummary⟩ := h
  simp [Neutralised, Record.texts, PlainRow, textColumns, hcode, htitle, hsummary]

variable {py : Python} {records : Table Record} {rawBytes : List UInt8} {target : Target}
  {rows : List Record}

/-- What the importer of requirements adds for a file that it accepts. -/
theorem checkRequirementsCsv_eq_ok {created : List NewRequirement}
    (h : checkRequirementsCsv py hasCode rawBytes = .ok (created, [])) :
    List.Forall₂ OfRow (py.readCsv rawBytes).rows created := by
  unfold checkRequirementsCsv at h
  split at h
  · cases h
  · simp only at h
    split at h
    · cases h
    · split at h
      · cases (Prod.mk.inj (Except.ok.inj h)).2
      · split at h
        · cases h
        · split_ifs at h with herrors hparsed
          · exact absurd (Prod.mk.inj (Except.ok.inj h)).2 herrors
          · cases (Prod.mk.inj (Except.ok.inj h)).2
          · obtain ⟨news, hnews, hall⟩ := parsed_of_errors_eq_nil (not_not.1 herrors)
            rw [CsvReader.lines, List.map_map, show Prod.snd ∘ Prod.swap = Prod.fst from rfl,
              List.zipIdx_map_fst] at hall
            obtain rfl : news = created := hnews.symm.trans (Prod.mk.inj (Except.ok.inj h)).1
            exact hall

/-- The rows of the importer of requirements are neutralised exactly if those of the file are. -/
theorem importFrameworkRequirements_iff
    (h : importFrameworkRequirements py records rawBytes target = .ok rows) :
    (∀ record ∈ rows, Neutralised record) ↔ ∀ row ∈ (py.readCsv rawBytes).rows, PlainRow row := by
  unfold importFrameworkRequirements at h
  split at h
  · cases h
  · next framework _ =>
    split at h
    · cases h
    · next created hcreated =>
      obtain rfl := Except.ok.inj h
      have hrows : (∀ row ∈ (py.readCsv rawBytes).rows, PlainRow row) ↔
          ∀ new ∈ created, Neutralised (.requirement framework new) :=
        (checkRequirementsCsv_eq_ok hcreated).forall_mem_iff fun _ _ hnew =>
          hnew.neutralised_iff.symm
      have hassessment : Neutralised .requirementAssessment := fun _ hmem => by cases hmem
      constructor
      · intro hneutral
        refine hrows.2 fun new hnew => hneutral _ (List.mem_flatMap.2 ⟨new, hnew, by simp⟩)
      · intro hplain record hrecord
        obtain ⟨new, hnew, hmem⟩ := List.mem_flatMap.1 hrecord
        rcases List.mem_pair.1 hmem with rfl | rfl
        · exact hrows.1 hplain new hnew
        · exact hassessment
    · cases h

/-! ## Risks -/

/-- Every parsed risk is neutralised. -/
theorem checkRiskRow_neutralised {checked : CheckedRisks}
    (h : ∀ r ∈ checked.parsed, Neutralised (.risk r)) :
    ∀ r ∈ (checkRiskRow py checked line).parsed, Neutralised (.risk r) := by
  obtain ⟨lineNumber, row⟩ := line
  unfold checkRiskRow
  simp only
  split_ifs with htitle hstatus
  · exact h
  · split
    · split_ifs
      · exact h
      · intro r hr
        rcases List.mem_append.1 hr with hr | hr
        · exact h r hr
        · obtain rfl := List.mem_singleton.1 hr
          -- the status is one of a fixed list
          have hplain : startsFormula (cellOr row "status" "open") = false :=
            (by decide : ∀ s ∈ riskStatuses, startsFormula s = false) _ hstatus
          simp [Neutralised, Record.texts, hplain]
    · exact h
  · exact h

/-- The rows of the risk importer are neutralised. -/
theorem importRiskRegister_neutralised
    (h : importRiskRegister py records rawBytes target = .ok rows) :
    ∀ record ∈ rows, Neutralised record := by
  have hfold : ∀ (lines : List (Nat × (String → Option String))) (checked : CheckedRisks),
      (∀ r ∈ checked.parsed, Neutralised (.risk r)) →
        ∀ r ∈ (lines.foldl (checkRiskRow py) checked).parsed, Neutralised (.risk r) := by
    intro lines
    induction lines with
    | nil => exact fun _ h => h
    | cons line lines ih => exact fun checked h => ih _ (checkRiskRow_neutralised h)
  unfold importRiskRegister at h
  split at h
  · cases h
  · simp only at h
    split at h
    · cases h
    · split at h
      · cases h
      · split at h
        · cases h
        · split_ifs at h
          obtain rfl := Except.ok.inj h
          intro record hrecord
          obtain ⟨r, hr, rfl⟩ := List.mem_map.1 hrecord
          exact hfold _ _ (fun _ hmem => by cases hmem) r hr

/-! ## Every importer -/

/-- Neutralisation changes only values that start with a trigger; and for every registered
    importer and every file that it accepts, the rows that it adds are neutralised exactly if it
    is the importer of risks or no text column of a row of the file starts with a trigger. -/
theorem imports_neutralised_iff (py : Python) (computeChecksum : List UInt8 → String) :
    (∀ value, neutralizeCsvFormula value ≠ value → startsFormula value = true) ∧
    ∀ (name : String) (importer : Importer Record) (records : Table Record)
      (rawBytes : List UInt8) (target : Target) (rows : List Record),
      (importers py computeChecksum).get name = some importer →
        importer.fn records rawBytes target = .ok rows →
          ((∀ record ∈ rows, Neutralised record) ↔
            name = "risk_register_csv" ∨ ∀ row ∈ (py.readCsv rawBytes).rows, PlainRow row) := by
  refine ⟨fun _ => startsFormula_of_ne, fun name importer records rawBytes target rows hget h => ?_⟩
  simp only [importers] at hget
  split at hget
  · obtain rfl := Option.some.inj hget
    rw [importFrameworkRequirements_iff h, or_iff_right (by decide)]
  · obtain rfl := Option.some.inj hget
    have hall : ∀ record ∈ rows, Neutralised record :=
      @importRiskRegister_neutralised py records rawBytes target rows h
    exact iff_of_true hall (.inl rfl)
  · cases hget

/-! ## Files of plain cells -/

/-- The standard library on plain files without `display_order`. -/
def plainPython : Python := ⟨CsvReader.plain, fun _ => "", fun _ => none⟩

/-- A requirement whose title is a formula is stored as it is. -/
theorem requirement_formula :
    ∃ importer rows, (importers plainPython fun _ => "").get "framework_requirements_csv" =
        some importer ∧
      importer.fn ((∅ : Table Record).insert 1 .framework)
        (CsvReader.ascii "reference_code,title\nA.1,=1+1\n") [("framework_id", "1")] = .ok rows ∧
      ¬ ∀ record ∈ rows, Neutralised record := by
  refine ⟨_, _, rfl, rfl, fun h => ?_⟩
  have htitle := h _ List.mem_cons_self "=1+1" (by decide)
  revert htitle
  decide

/-- `imports_neutralised_iff` for a file without formulas. -/
theorem imports_neutralised_iff_plain :
    ∃ rows, importFrameworkRequirements plainPython ((∅ : Table Record).insert 1 .framework)
        (CsvReader.ascii "reference_code,title\nA.1,Access\n") [("framework_id", "1")] = .ok rows ∧
      ∀ record ∈ rows, Neutralised record := by
  obtain ⟨rows, hrows⟩ : ∃ rows, importFrameworkRequirements plainPython
      ((∅ : Table Record).insert 1 .framework)
      (CsvReader.ascii "reference_code,title\nA.1,Access\n")
      [("framework_id", "1")] = .ok rows := ⟨_, rfl⟩
  refine ⟨rows, hrows, ((imports_neutralised_iff plainPython fun _ => "").2
    "framework_requirements_csv" _ ((∅ : Table Record).insert 1 .framework)
    (CsvReader.ascii "reference_code,title\nA.1,Access\n") [("framework_id", "1")] rows rfl hrows).2
    (.inr fun row hrow => ?_)⟩
  obtain rfl := List.mem_singleton.1 hrow
  unfold PlainRow
  decide

end MiniGrc.CsvImporters
