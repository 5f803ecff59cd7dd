import MiniGrc.App.ConnectorManifests
import MiniGrc.Spec.CsvImporters
import MiniGrc.Spec.RequirementFrameworks

/-!
# Accepted requirement files

`import_requirements_csv` accepts the files whose rows are all valid, and then adds a
requirement with an assessment for each row. It goes wrong where the reader raises, where
`int()` refuses an integer, and where the database refuses a value.

## Key results

- `foldl_checkCsvRow`: what the loop over the rows finds
- `foldlM_addRequirement`: what is written for the rows
- `import_exact_iff`: which imports accept exactly the valid files
-/

namespace MiniGrc.RequirementImports

open Connectors (pyInt)
open CsvImporters (OfRow)
open FrameworkRequirements Registers
open Imports (isUtf8)

/-! ## Rows of a file -/

/-- The code of a row. -/
def codeOf (line : Nat × CsvRow) : String := cell line.2 "reference_code"

/-- The text that a row gives for the display order. -/
def orderText (line : Nat × CsvRow) : String := cell line.2 "display_order"

variable {parseInt : String → Option Int} {known : String → Bool} {checked : Checked}
  {line : Nat × CsvRow} {lines : List (Nat × CsvRow)}

/-- The row passes the checks that do not look at other rows. -/
structure RowFits (parseInt : String → Option Int) (known : String → Bool)
    (line : Nat × CsvRow) : Prop where
  code : codeOf line ≠ ""
  title : cell line.2 "title" ≠ ""
  new : known (codeOf line) = false
  order : orderText line = "" ∨ (parseInt (orderText line)).isSome

/-- The requirement of a row. -/
def newOf (parseInt : String → Option Int) (line : Nat × CsvRow) : NewRequirement where
  referenceCode := codeOf line
  title := cell line.2 "title"
  summary := cell line.2 "description"
  displayOrder :=
    if orderText line = "" then line.1 - 1 else (parseInt (orderText line)).getD 0

/-- One turn of the loop notes an error or takes the row. -/
theorem checkCsvRow_eq (parseInt : String → Option Int) (known : String → Bool) (checked : Checked)
    (line : Nat × CsvRow) :
    RowFits parseInt known line ∧ codeOf line ∉ checked.seenInFile ∧
        checkCsvRow parseInt known checked line = {
          checked with
          seenInFile := checked.seenInFile ++ [codeOf line]
          parsed := checked.parsed ++ [newOf parseInt line] } ∨
      ¬ (RowFits parseInt known line ∧ codeOf line ∉ checked.seenInFile) ∧
        ∃ message, checkCsvRow parseInt known checked line =
          { checked with errors := checked.errors ++ [message] } := by
  obtain ⟨lineNumber, row⟩ := line
  unfold checkCsvRow
  simp only
  split_ifs with hcode htitle hknown hseen horder
  · exact .inr ⟨fun h => h.1.code hcode, _, rfl⟩
  · exact .inr ⟨fun h => h.1.title htitle, _, rfl⟩
  · exact .inr ⟨fun h => Bool.false_ne_true (h.1.new.symm.trans hknown), _, rfl⟩
  · exact .inr ⟨fun h => h.2 hseen, _, rfl⟩
  · refine .inl ⟨⟨hcode, htitle, Bool.eq_false_iff.2 hknown, .inl horder⟩, hseen, ?_⟩
    simp [newOf, orderText, codeOf, horder]
  · -- A line fits, or has an error.
    split
    · next n hn =>
      refine .inl ⟨⟨hcode, htitle, Bool.eq_false_iff.2 hknown, .inr ?_⟩, hseen, ?_⟩
      · simp [orderText, hn]
      · simp [newOf, orderText, codeOf, horder, hn]
    · next hn =>
      refine .inr ⟨fun h => ?_, _, rfl⟩
      rcases h.1.order with hempty | hsome
      · exact horder hempty
      · simp [orderText, hn] at hsome

/-- The rows pass the checks, and have different codes, which have not been seen. -/
structure Acceptable (parseInt : String → Option Int) (known : String → Bool) (seen : List String)
    (lines : List (Nat × CsvRow)) : Prop where
  fits : ∀ line ∈ lines, RowFits parseInt known line
  nodup : (lines.map codeOf).Nodup
  new : ∀ line ∈ lines, codeOf line ∉ seen

/-- The first line fits, and the others do after it. -/
theorem acceptable_cons {seen : List String} :
    Acceptable parseInt known seen (line :: lines) ↔
      (RowFits parseInt known line ∧ codeOf line ∉ seen) ∧
        Acceptable parseInt known (seen ++ [codeOf line]) lines := by
  constructor
  · rintro ⟨hfits, hnodup, hnew⟩
    rw [List.forall_mem_cons] at hfits hnew
    rw [List.map_cons, List.nodup_cons] at hnodup
    refine ⟨⟨hfits.1, hnew.1⟩, hfits.2, hnodup.2, fun line' hline' hmem => ?_⟩
    -- A code seen before, or the first line's.
    rcases List.mem_append.1 hmem with hmem | hmem
    · exact hnew.2 line' hline' hmem
    · rw [← List.mem_singleton.1 hmem] at hnodup
      exact hnodup.1 (List.mem_map_of_mem hline')
  · rintro ⟨⟨hfits, hnew⟩, h⟩
    refine ⟨List.forall_mem_cons.2 ⟨hfits, h.fits⟩, ?_, List.forall_mem_cons.2 ⟨hnew, ?_⟩⟩
    · rw [List.map_cons, List.nodup_cons]
      refine ⟨fun hmem => ?_, h.nodup⟩
      obtain ⟨line', hline', heq⟩ := List.mem_map.1 hmem
      exact h.new line' hline' (by simp [heq])
    · exact fun line' hline' hmem => h.new line' hline' (List.mem_append_left _ hmem)

/-- An error noted stays noted. -/
theorem foldl_checkCsvRow_errors (h : checked.errors ≠ []) :
    (lines.foldl (checkCsvRow parseInt known) checked).errors ≠ [] := by
  induction lines generalizing checked with
  | nil => exact h
  | cons line lines ih => exact ih (CsvImporters.checkCsvRow_errors h)

/-- The loop takes all rows, or it notes an error. -/
theorem foldl_checkCsvRow (h : checked.errors = []) :
    Acceptable parseInt known checked.seenInFile lines ∧
        lines.foldl (checkCsvRow parseInt known) checked = {
          checked with
          seenInFile := checked.seenInFile ++ lines.map codeOf
          parsed := checked.parsed ++ lines.map (newOf parseInt) } ∨
      ¬ Acceptable parseInt known checked.seenInFile lines ∧
        (lines.foldl (checkCsvRow parseInt known) checked).errors ≠ [] := by
  -- Over the lines: the codes seen and the new rows go along.
  induction lines generalizing checked with
  | nil => exact .inl ⟨⟨by simp, by simp, by simp⟩, by simp⟩
  | cons line lines ih =>
    rw [acceptable_cons, List.foldl_cons]
    rcases checkCsvRow_eq parseInt known checked line with ⟨hfits, hseen, heq⟩ |
      ⟨hnot, message, heq⟩
    · rw [heq]
      rcases @ih { checked with
          seenInFile := checked.seenInFile ++ [codeOf line]
          parsed := checked.parsed ++ [newOf parseInt line] } h with ⟨hrest, heq⟩ | ⟨hnot, herrors⟩
      · exact .inl ⟨⟨⟨hfits, hseen⟩, hrest⟩, by rw [heq]; simp⟩
      · exact .inr ⟨fun hall => hnot hall.2, herrors⟩
    · refine .inr ⟨fun hall => hnot hall.1, ?_⟩
      rw [heq]
      exact foldl_checkCsvRow_errors (by simp)

/-! ## Files -/

variable {py : Python} {rawBytes : List UInt8}

/-- The file has the columns, and the reader gets to its rows. -/
structure HasColumns (py : Python) (rawBytes : List UInt8) : Prop where
  utf8 : isUtf8 rawBytes
  columns : ∃ fieldnames, (py.readCsv rawBytes).fieldnames = .ok fieldnames ∧
    CsvReader.missing requiredColumns fieldnames = []

/-- The import comes to a `csv.Error`: it reads the names of the columns, and all rows if the
    columns are there. -/
def RaisesCsvError (py : Python) (rawBytes : List UInt8) : Prop :=
  isUtf8 rawBytes ∧ (∃ message, (py.readCsv rawBytes).fieldnames = .error message) ∨
    HasColumns py rawBytes ∧ (py.readCsv rawBytes).failure ≠ none

/-- The file passes the checks. -/
structure Passes (py : Python) (known : String → Bool) (rawBytes : List UInt8) : Prop
    extends HasColumns py rawBytes where
  rows_ne : (py.readCsv rawBytes).lines ≠ []
  acceptable : Acceptable py.parseInt known [] (py.readCsv rawBytes).lines

/-- What the checks make of the rows of a file. -/
theorem check_of_columns (known : String → Bool) (h : HasColumns py rawBytes)
    (hends : (py.readCsv rawBytes).failure = none) :
    Passes py known rawBytes ∧ checkRequirementsCsv py known rawBytes =
        .ok ((py.readCsv rawBytes).lines.map (newOf py.parseInt), []) ∨
      ¬ Passes py known rawBytes ∧ ∃ error errors,
        checkRequirementsCsv py known rawBytes = .ok ([], error :: errors) := by
  obtain ⟨fieldnames, hnames, hmissing⟩ := h.columns
  unfold checkRequirementsCsv
  simp only [h.utf8, hnames, hmissing, hends]
  rcases @foldl_checkCsvRow py.parseInt known {} (py.readCsv rawBytes).lines rfl with
    ⟨hacceptable, heq⟩ | ⟨hnot, herrors⟩
  · rw [heq]
    -- A file without rows is refused.
    by_cases hrows : (py.readCsv rawBytes).lines = []
    · exact .inr ⟨fun hpasses => hpasses.rows_ne hrows, "CSV file contained no data rows.", [],
        by simp [hrows]⟩
    · exact .inl ⟨⟨h, hrows, hacceptable⟩, by simp [hrows]⟩
  · obtain ⟨error, errors, heq⟩ := List.exists_cons_of_ne_nil herrors
    exact .inr ⟨fun hpasses => hnot hpasses.acceptable, error, errors, by simp [heq]⟩

/-- What the checks make of a file. -/
theorem check_cases (py : Python) (known : String → Bool) (rawBytes : List UInt8) :
    (RaisesCsvError py rawBytes ∧
        ∃ message, checkRequirementsCsv py known rawBytes = .error message) ∨
      ¬ RaisesCsvError py rawBytes ∧
        (Passes py known rawBytes ∧ checkRequirementsCsv py known rawBytes =
            .ok ((py.readCsv rawBytes).lines.map (newOf py.parseInt), []) ∨
          ¬ Passes py known rawBytes ∧ ∃ error errors,
            checkRequirementsCsv py known rawBytes = .ok ([], error :: errors)) := by
  -- The bytes may be no text, the header no CSV, or a column may be missing.
  by_cases hutf8 : isUtf8 rawBytes
  · cases hnames : (py.readCsv rawBytes).fieldnames with
    | error message =>
      refine .inl ⟨.inl ⟨hutf8, message, hnames⟩, message, ?_⟩
      simp [checkRequirementsCsv, hutf8, hnames]
    | ok fieldnames =>
      by_cases hmissing : CsvReader.missing requiredColumns fieldnames = []
      · have hcolumns : HasColumns py rawBytes := ⟨hutf8, fieldnames, hnames, hmissing⟩
        cases hfailure : (py.readCsv rawBytes).failure with
        | some message =>
          refine .inl ⟨.inr ⟨hcolumns, by simp [hfailure]⟩, message, ?_⟩
          simp [checkRequirementsCsv, hutf8, hnames, hmissing, hfailure]
        | none =>
          refine .inr ⟨by simp [RaisesCsvError, hnames, hfailure], ?_⟩
          exact check_of_columns known hcolumns hfailure
      · have hnot : ¬ HasColumns py rawBytes := by
          rintro ⟨-, names, hnames', hmissing'⟩
          cases hnames.symm.trans hnames'
          exact hmissing hmissing'
        refine .inr ⟨by simp [RaisesCsvError, hnames, hnot],
          .inr ⟨fun h => hnot h.toHasColumns, ?_⟩⟩
        exact ⟨"Missing required column(s): " ++
          ", ".intercalate (CsvReader.missing requiredColumns fieldnames), [],
          by simp [checkRequirementsCsv, hutf8, hnames, hmissing]⟩
  · have hnot : ¬ HasColumns py rawBytes := fun h => hutf8 h.utf8
    refine .inr ⟨by simp [RaisesCsvError, hutf8, hnot], .inr ⟨fun h => hnot h.toHasColumns, ?_⟩⟩
    exact ⟨"File is not valid UTF-8 text.", [],
      by simp [checkRequirementsCsv, hutf8]⟩

/-! ## New rows -/

/-- The columns that `add_requirement` gives a requirement. -/
def fieldsOf (frameworkId : Id) (new : NewRequirement) : JsonDict := [
  ("framework_id", frameworkRef frameworkId),
  ("reference_code", .str new.referenceCode),
  ("title", .str new.title),
  ("summary", .str new.summary),
  ("display_order", .int new.displayOrder)]

/-- The values of the row of a requirement. -/
def valuesOf (frameworkId : Id) (new : NewRequirement) (column : String) : Json :=
  ((fieldsOf frameworkId new).get? column).getD .null

/-- A column stores the texts and integers that it accepts as they are, and the one unique
    constraint is that of the code within a framework. -/
structure Stores (m : Model) : Prop where
  str : ∀ column text value, m.bind column (.str text) = some value → value = .str text
  int : ∀ column n value, m.bind column (.int n) = some value → value = .int n
  conflict : ∀ v w, m.conflict v w = true →
    v "framework_id" = w "framework_id" ∧ v "reference_code" = w "reference_code"

/-- The columns accept the values of the requirement, and so do the constraints of its row. -/
structure Fits (m : Model) (frameworkId : Id) (new : NewRequirement) : Prop where
  binds : ∀ field ∈ fieldsOf frameworkId new, (m.bind field.1 field.2).isSome
  admits : m.admits (valuesOf frameworkId new)

variable {clock : UpdateClock} {newId : Nat → Id} {model : Table FrameworkRow → Model} {m : Model}
  {s t u : State clock} {frameworkId : Id} {new : NewRequirement} {news : List NewRequirement}

/-- What is stored of a requirement are its fields. -/
theorem stored_fieldsOf (hm : Stores m) (hbinds : ∀ field ∈ fieldsOf frameworkId new,
    (m.bind field.1 field.2).isSome) (column : String) :
    (m.stored (fieldsOf frameworkId new) column).getD .null = valuesOf frameworkId new column := by
  unfold Model.stored valuesOf
  cases hfield : (fieldsOf frameworkId new).get? column with
  | none => rfl
  | some value =>
    obtain ⟨field, hfind, rfl⟩ := Option.map_eq_some_iff.1 hfield
    have hmem := List.mem_of_find?_eq_some hfind
    obtain rfl : field.1 = column := by simpa using List.find?_some hfind
    obtain ⟨stored, hstored⟩ := Option.isSome_iff_exists.1 (hbinds field hmem)
    rw [Option.bind_some, hstored, Option.getD_some, Option.getD_some]
    -- every value is a text, but the display order
    simp only [fieldsOf, List.mem_cons, List.not_mem_nil, or_false] at hmem
    rcases hmem with rfl | rfl | rfl | rfl | rfl
    · exact hm.str _ _ _ hstored
    · exact hm.str _ _ _ hstored
    · exact hm.str _ _ _ hstored
    · exact hm.str _ _ _ hstored
    · exact hm.int _ _ _ hstored

/-- Each column has one value. -/
theorem get?_fieldsOf {field : String × Json} (h : field ∈ fieldsOf frameworkId new) :
    (fieldsOf frameworkId new).get? field.1 = some field.2 := by
  simp only [fieldsOf, List.mem_cons, List.not_mem_nil, or_false] at h
  rcases h with rfl | rfl | rfl | rfl | rfl <;> rfl

/-- Every field is stored when every field can be bound. -/
theorem any_stored_eq_false :
    ((fieldsOf frameworkId new).map Prod.fst).any
        (fun column => (m.stored (fieldsOf frameworkId new) column).isNone) = false ↔
      ∀ field ∈ fieldsOf frameworkId new, (m.bind field.1 field.2).isSome := by
  rw [List.any_eq_false]
  constructor
  · intro h field hfield
    have hsome := h field.1 (List.mem_map_of_mem hfield)
    rw [Model.stored, get?_fieldsOf hfield, Option.bind_some] at hsome
    simpa [Option.isSome_iff_ne_none] using hsome
  · intro h column hcolumn
    obtain ⟨field, hfield, rfl⟩ := List.mem_map.1 hcolumn
    rw [Model.stored, get?_fieldsOf hfield, Option.bind_some]
    simpa [Option.isSome_iff_ne_none] using h field hfield

/-- The ids that are drawn next are not in use, and every assessment has its requirement. -/
structure Sound (newId : Nat → Id) (s : State clock) : Prop where
  injective : Function.Injective newId
  requirements : ∀ n, s.drawn ≤ n → newId n ∉ s.requirements.rows
  assessments : ∀ n, s.drawn ≤ n → newId n ∉ s.assessments
  references : ∀ (a : Id) k, s.assessments[a]? = some k → k ∈ s.requirements.rows

/-- The state after a requirement and its assessment have been added. -/
structure AddsOne (newId : Nat → Id) (frameworkId : Id) (new : NewRequirement)
    (s t : State clock) : Prop where
  frameworks : t.frameworks = s.frameworks
  mappings : t.mappings = s.mappings
  adoptions : t.adoptions = s.adoptions
  drawn : t.drawn = s.drawn + 2
  requirements : ∃ time, t.requirements.rows =
    s.requirements.rows.insert (newId s.drawn) ⟨valuesOf frameworkId new, time⟩
  assessments : t.assessments = s.assessments.insert (newId (s.drawn + 1)) (newId s.drawn)

/-- A row of the framework with the code is known to the checks. -/
theorem hasCode_of_row {k : Id} {row : Row} {code : String}
    (hrow : s.requirements.rows[k]? = some row)
    (hframework : row.values "framework_id" = frameworkRef frameworkId)
    (hcode : row.values "reference_code" = .str code) : hasCode s frameworkId code = true := by
  unfold hasCode
  rw [List.any_eq_true]
  refine ⟨(k, row), Std.ExtTreeMap.mem_toList_iff_getElem?_eq_some.2 hrow, ?_⟩
  simp [hframework, hcode, frameworkRef, isText]

/-- A new code is added. -/
theorem addRequirement_ok (hm : Stores (model s.frameworks)) (hs : Sound newId s)
    (hfits : Fits (model s.frameworks) frameworkId new)
    (hnew : hasCode s frameworkId new.referenceCode = false) :
    ∃ t, addRequirement newId model frameworkId s new = .ok t ∧
      AddsOne newId frameworkId new s t := by
  have hvalues : (fun column => ((model s.frameworks).stored (fieldsOf frameworkId new) column).getD
      .null) = valuesOf frameworkId new := funext (stored_fieldsOf hm hfits.binds)
  have hconflict : ∀ x ∈ s.requirements.rows.toList,
      (model s.frameworks).conflict x.2.values (valuesOf frameworkId new) = false := by
    intro x hx
    by_contra hsame
    obtain ⟨hframework, hcode⟩ := hm.conflict _ _ (by simpa using hsame)
    have hrow := Std.ExtTreeMap.mem_toList_iff_getElem?_eq_some.1 hx
    exact absurd (hasCode_of_row hrow hframework hcode) (by simp [hnew])
  obtain ⟨register, hinsert, hrows⟩ : ∃ register : Register clock, (model s.frameworks).insert
      s.requirements (newId s.drawn) (fieldsOf frameworkId new) = .ok register ∧
        ∃ time, register.rows =
          s.requirements.rows.insert (newId s.drawn) ⟨valuesOf frameworkId new, time⟩ := by
    unfold Model.insert
    rw [if_neg (by rw [any_stored_eq_false.2 hfits.binds]; simp)]
    simp only [hvalues]
    rw [if_pos ⟨hs.requirements _ le_rfl, hfits.admits, hconflict⟩]
    exact ⟨_, rfl, _, rfl⟩
  refine ⟨{
    s with
    requirements := register
    assessments := s.assessments.insert (newId (s.drawn + 1)) (newId s.drawn)
    drawn := s.drawn + 2 }, ?_, ⟨rfl, rfl, rfl, rfl, hrows, rfl⟩⟩
  rw [addRequirement, Except.bind_eq_ok]
  refine ⟨register, hinsert, ?_⟩
  simp only
  rw [if_neg (hs.assessments _ (Nat.le_succ _))]
  rfl

/-- A requirement that has been added was accepted by its columns and constraints. -/
theorem fits_of_addRequirement (hm : Stores (model s.frameworks))
    (h : addRequirement newId model frameworkId s new = .ok t) :
    Fits (model s.frameworks) frameworkId new ∧ t.frameworks = s.frameworks := by
  obtain ⟨register, hinsert, h⟩ := Except.bind_eq_ok.1 h
  have hframeworks : t.frameworks = s.frameworks := by
    simp only at h
    split at h
    · cases h
    · cases h
      rfl
  refine ⟨?_, hframeworks⟩
  change (model s.frameworks).insert s.requirements (newId s.drawn) (fieldsOf frameworkId new) =
    .ok register at hinsert
  unfold Model.insert at hinsert
  simp only at hinsert
  split at hinsert
  · cases hinsert
  · next hany =>
    have hbinds := any_stored_eq_false.1 (Bool.eq_false_iff.2 hany)
    split at hinsert
    · next hadmits =>
      refine ⟨hbinds, ?_⟩
      rw [← funext (stored_fieldsOf hm hbinds)]
      exact hadmits.2.1
    · cases hinsert

/-- Every requirement of the list has been added under its id, with the one assessment of its
    other id; nothing else has changed. -/
structure Creates (frameworkId : Id) (added : List (Id × Id × NewRequirement))
    (s t : State clock) : Prop where
  nodup : (added.map (·.1)).Nodup
  newRequirements : ∀ x ∈ added, x.1 ∉ s.requirements.rows
  newAssessments : ∀ x ∈ added, x.2.1 ∉ s.assessments
  rows : ∀ x ∈ added, ∃ time, t.requirements.rows[x.1]? = some ⟨valuesOf frameworkId x.2.2, time⟩
  assessments : ∀ x ∈ added, ∀ a : Id, t.assessments[a]? = some x.1 ↔ a = x.2.1
  otherRequirements : ∀ k, k ∉ added.map (·.1) → t.requirements.rows[k]? = s.requirements.rows[k]?
  otherAssessments : ∀ a, a ∉ added.map (·.2.1) → t.assessments[a]? = s.assessments[a]?
  frameworks : t.frameworks = s.frameworks
  mappings : t.mappings = s.mappings
  adoptions : t.adoptions = s.adoptions

/-- Nothing is created. -/
theorem Creates.nil (s : State clock) : Creates frameworkId [] s s where
  nodup := List.nodup_nil
  newRequirements := by simp
  newAssessments := by simp
  rows := by simp
  assessments := by simp
  otherRequirements _ _ := rfl
  otherAssessments _ _ := rfl
  frameworks := rfl
  mappings := rfl
  adoptions := rfl

/-- A state stays sound with a requirement more. -/
theorem Sound.addsOne (hs : Sound newId s) (h : AddsOne newId frameworkId new s u) :
    Sound newId u where
  injective := hs.injective
  requirements n hn hmem := by
    obtain ⟨time, hrows⟩ := h.requirements
    rw [h.drawn] at hn
    rw [hrows, Std.ExtTreeMap.mem_insert, compare_eq_iff_eq] at hmem
    rcases hmem with heq | hmem
    · have := hs.injective heq
      omega
    · exact hs.requirements n (by omega) hmem
  assessments n hn hmem := by
    rw [h.drawn] at hn
    rw [h.assessments, Std.ExtTreeMap.mem_insert, compare_eq_iff_eq] at hmem
    rcases hmem with heq | hmem
    · have := hs.injective heq
      omega
    · exact hs.assessments n (by omega) hmem
  references a k ha := by
    obtain ⟨time, hrows⟩ := h.requirements
    rw [h.assessments] at ha
    rw [hrows, Std.ExtTreeMap.mem_insert]
    rcases Table.of_get_insert ha with ⟨-, rfl⟩ | ha
    · exact .inl (compare_eq_iff_eq.2 rfl)
    · exact .inr (hs.references a k ha)

/-- The first requirement, and then the others. -/
theorem Creates.cons {added : List (Id × Id × NewRequirement)} (hs : Sound newId s)
    (h : AddsOne newId frameworkId new s u) (h' : Creates frameworkId added u t) :
    Creates frameworkId ((newId s.drawn, newId (s.drawn + 1), new) :: added) s t := by
  obtain ⟨time, hrows⟩ := h.requirements
  have hmemRow : newId s.drawn ∈ u.requirements.rows := by simp [hrows]
  have hmemAssessment : newId (s.drawn + 1) ∈ u.assessments := by simp [h.assessments]
  have hne : ∀ x ∈ added, x.1 ≠ newId s.drawn :=
    fun x hx heq => h'.newRequirements x hx (heq ▸ hmemRow)
  have hne' : ∀ x ∈ added, x.2.1 ≠ newId (s.drawn + 1) :=
    fun x hx heq => h'.newAssessments x hx (heq ▸ hmemAssessment)
  have hfirst : newId s.drawn ∉ added.map (·.1) := by
    intro hmem
    obtain ⟨x, hx, heq⟩ := List.mem_map.1 hmem
    exact hne x hx heq
  have hfirst' : newId (s.drawn + 1) ∉ added.map (·.2.1) := by
    intro hmem
    obtain ⟨x, hx, heq⟩ := List.mem_map.1 hmem
    exact hne' x hx heq
  exact {
    nodup := List.nodup_cons.2 ⟨hfirst, h'.nodup⟩
    newRequirements := List.forall_mem_cons.2 ⟨hs.requirements _ le_rfl, fun x hx hmem =>
      h'.newRequirements x hx (by rw [hrows]; exact Std.ExtTreeMap.mem_insert.2 (.inr hmem))⟩
    newAssessments := List.forall_mem_cons.2 ⟨hs.assessments _ (Nat.le_succ _), fun x hx hmem =>
      h'.newAssessments x hx (by rw [h.assessments]; exact Std.ExtTreeMap.mem_insert.2 (.inr hmem))⟩
    rows := by
      refine List.forall_mem_cons.2 ⟨⟨time, ?_⟩, h'.rows⟩
      rw [h'.otherRequirements _ hfirst, hrows, Table.get_insert_self]
    assessments := by
      refine List.forall_mem_cons.2 ⟨fun a => ?_, h'.assessments⟩
      by_cases ha : a ∈ added.map (·.2.1)
      · -- it is the assessment of another requirement
        obtain ⟨x, hx, rfl⟩ := List.mem_map.1 ha
        rw [(h'.assessments x hx _).2 rfl, Option.some_inj]
        exact iff_of_false (hne x hx) (hne' x hx)
      · rw [h'.otherAssessments a ha, h.assessments, Table.get_insert]
        split
        · next heq => exact iff_of_true rfl heq.symm
        · next hne =>
          refine iff_of_false (fun ha => ?_) (fun heq => hne heq.symm)
          exact hs.requirements _ le_rfl (hs.references a _ ha)
    otherRequirements := fun k hk => by
      rw [List.map_cons, List.mem_cons, not_or] at hk
      rw [h'.otherRequirements k hk.2, hrows, Table.get_insert_ne (Ne.symm hk.1)]
    otherAssessments := fun a ha => by
      rw [List.map_cons, List.mem_cons, not_or] at ha
      rw [h'.otherAssessments a ha.2, h.assessments, Table.get_insert_ne (Ne.symm ha.1)]
    frameworks := h'.frameworks.trans h.frameworks
    mappings := h'.mappings.trans h.mappings
    adoptions := h'.adoptions.trans h.adoptions }

/-- A code that is known after a requirement has been added was known before, or is its. -/
theorem hasCode_addsOne (h : AddsOne newId frameworkId new s u) {code : String}
    (hcode : hasCode u frameworkId code = true) :
    hasCode s frameworkId code = true ∨ code = new.referenceCode := by
  obtain ⟨time, hrows⟩ := h.requirements
  unfold hasCode at hcode
  rw [hrows, List.any_eq_true] at hcode
  obtain ⟨x, hx, htext⟩ := hcode
  rcases Table.of_get_insert (Std.ExtTreeMap.mem_toList_iff_getElem?_eq_some.1 hx) with
    ⟨-, hnew⟩ | hold
  · refine .inr ?_
    rw [Bool.and_eq_true, hnew] at htext
    simpa [isText, valuesOf, fieldsOf, JsonDict.get?, eq_comm] using htext.2
  · refine .inl ?_
    unfold hasCode
    exact List.any_eq_true.2 ⟨x, Std.ExtTreeMap.mem_toList_iff_getElem?_eq_some.2 hold, htext⟩

/-- The rows of the file are added one after the other. -/
theorem foldlM_addRequirement (hm : Stores (model s.frameworks)) (hs : Sound newId s)
    (hfits : ∀ new ∈ news, Fits (model s.frameworks) frameworkId new)
    (hnew : ∀ new ∈ news, hasCode s frameworkId new.referenceCode = false)
    (hnodup : (news.map (·.referenceCode)).Nodup) :
    ∃ t added, news.foldlM (addRequirement newId model frameworkId) s = .ok t ∧
      added.map (·.2.2) = news ∧ Creates frameworkId added s t := by
  -- Over the requirements: a code added before is not the next one's.
  induction news generalizing s with
  | nil => exact ⟨s, [], rfl, rfl, .nil s⟩
  | cons new news ih =>
    rw [List.forall_mem_cons] at hfits hnew
    rw [List.map_cons, List.nodup_cons] at hnodup
    obtain ⟨u, hadd, hone⟩ := addRequirement_ok hm hs hfits.1 hnew.1
    have hnew' : ∀ new' ∈ news, hasCode u frameworkId new'.referenceCode = false := by
      intro new' hmem
      by_contra hknown
      rcases hasCode_addsOne hone (by simpa using hknown) with hold | heq
      · exact absurd (hnew.2 new' hmem) (by simp [hold])
      · exact hnodup.1 (List.mem_map.2 ⟨new', hmem, heq⟩)
    rw [← hone.frameworks] at hm hfits
    obtain ⟨t, added, hrun, hadded, hcreates⟩ :=
      ih hm (hs.addsOne hone) hfits.2 hnew' hnodup.2
    refine ⟨t, (newId s.drawn, newId (s.drawn + 1), new) :: added, ?_, ?_, hcreates.cons hs hone⟩
    · exact Except.foldlM_cons_eq_ok.2 ⟨u, hadd, hrun⟩
    · rw [List.map_cons, hadded]

/-- Requirements that have been added were accepted by their columns and constraints. -/
theorem fits_of_foldlM (hm : Stores (model s.frameworks))
    (h : news.foldlM (addRequirement newId model frameworkId) s = .ok t) :
    ∀ new ∈ news, Fits (model s.frameworks) frameworkId new := by
  induction news generalizing s with
  | nil => exact fun _ hmem => by cases hmem
  | cons new news ih =>
    obtain ⟨u, hadd, hrest⟩ := Except.foldlM_cons_eq_ok.1 h
    obtain ⟨hfits, hframeworks⟩ := fits_of_addRequirement hm hadd
    rw [← hframeworks] at hm hfits ⊢
    exact List.forall_mem_cons.2 ⟨hfits, ih hm hrest⟩

/-! ## Valid files -/

variable {Integer : String → Int → Prop}

/-- A row with a code that the framework does not have, a title, and an integer if it gives an
    order; `Integer` says which integer a text denotes. -/
structure ValidRow (Integer : String → Int → Prop) (known : String → Bool) (line : Nat × CsvRow) :
    Prop where
  code : codeOf line ≠ ""
  title : cell line.2 "title" ≠ ""
  new : known (codeOf line) = false
  order : orderText line = "" ∨ ∃ n, Integer (orderText line) n

/-- A UTF-8 text with the columns and at least one row, whose rows are valid and have different
    codes. -/
structure Valid (Integer : String → Int → Prop) (py : Python) (known : String → Bool)
    (rawBytes : List UInt8) : Prop extends HasColumns py rawBytes where
  rows_ne : (py.readCsv rawBytes).lines ≠ []
  rows : ∀ line ∈ (py.readCsv rawBytes).lines, ValidRow Integer known line
  nodup : ((py.readCsv rawBytes).lines.map codeOf).Nodup

/-- `int()` reads the orders that the file gives. -/
def ReadsOrders (py : Python) (rawBytes : List UInt8) : Prop :=
  ∀ line ∈ (py.readCsv rawBytes).lines,
    orderText line = "" ∨ (py.parseInt (orderText line)).isSome

/-- The files that pass the checks are the valid ones with orders that `int()` reads. -/
theorem passes_iff (hint : ∀ text n, py.parseInt text = some n → Integer text n) :
    Passes py known rawBytes ↔ Valid Integer py known rawBytes ∧ ReadsOrders py rawBytes := by
  constructor
  · intro h
    refine ⟨⟨h.toHasColumns, h.rows_ne, fun line hline => ?_, h.acceptable.nodup⟩,
      fun line hline => (h.acceptable.fits line hline).order⟩
    obtain ⟨hcode, htitle, hnew, horder⟩ := h.acceptable.fits line hline
    refine ⟨hcode, htitle, hnew, horder.imp_right fun hsome => ?_⟩
    obtain ⟨n, hn⟩ := Option.isSome_iff_exists.1 hsome
    exact ⟨n, hint _ _ hn⟩
  · rintro ⟨h, horders⟩
    refine ⟨h.toHasColumns, h.rows_ne, fun line hline => ?_, h.nodup, fun _ _ => List.not_mem_nil⟩
    have hrow := h.rows line hline
    exact ⟨hrow.code, hrow.title, hrow.new, horders line hline⟩

/-- The requirement has the values of the row, and the order that the row gives, or its
    position. -/
structure RowStored (Integer : String → Int → Prop) (line : Nat × CsvRow) (new : NewRequirement) :
    Prop where
  ofRow : OfRow line.2 new
  position : orderText line = "" → new.displayOrder = line.1 - 1
  order : orderText line ≠ "" → Integer (orderText line) new.displayOrder

/-- A row is stored with its text and the number it denotes. -/
theorem rowStored_newOf (hint : ∀ text n, py.parseInt text = some n → Integer text n)
    (h : orderText line = "" ∨ (py.parseInt (orderText line)).isSome) :
    RowStored Integer line (newOf py.parseInt line) where
  ofRow := ⟨rfl, rfl, rfl⟩
  position hempty := by simp [newOf, hempty]
  order hne := by
    obtain ⟨n, hn⟩ := Option.isSome_iff_exists.1 (h.resolve_left hne)
    simpa [newOf, hne, hn] using hint _ _ hn

/-- The import returns errors for an invalid file and leaves everything as it is, or returns the
    number of the rows of a valid file, each of which it has added. -/
def AcceptsExactly (Integer : String → Int → Prop) (py : Python) (s : State clock)
    (frameworkId : Id) (rawBytes : List UInt8) :
    Except Failure (State clock × Nat × List String) → Prop
  | .ok (t, n, errors) =>
    (¬ Valid Integer py (hasCode s frameworkId) rawBytes ∧ n = 0 ∧ errors ≠ [] ∧ t = s) ∨
      (Valid Integer py (hasCode s frameworkId) rawBytes ∧
        n = (py.readCsv rawBytes).rows.length ∧ errors = [] ∧
        ∃ added, Creates frameworkId added s t ∧
          List.Forall₂ (RowStored Integer) (py.readCsv rawBytes).lines (added.map (·.2.2)))
  | .error _ => False

/-- No `csv.Error` is reached; and if the file is valid, `int()` reads its orders and the
    database takes its rows. -/
def Careful (Integer : String → Int → Prop) (py : Python) (model : Table FrameworkRow → Model)
    (s : State clock) (frameworkId : Id) (rawBytes : List UInt8) : Prop :=
  ¬ RaisesCsvError py rawBytes ∧
    (Valid Integer py (hasCode s frameworkId) rawBytes → ReadsOrders py rawBytes ∧
      ∀ line ∈ (py.readCsv rawBytes).lines,
        Fits (model s.frameworks) frameworkId (newOf py.parseInt line))

/-- There are as many lines as rows. -/
theorem length_lines (reader : CsvReader) : reader.lines.length = reader.rows.length := by
  simp [CsvReader.lines]

/-- For every framework and every file: the import accepts exactly the valid files, and adds their
    rows, exactly if it is careful. -/
theorem import_exact_iff (Integer : String → Int → Prop) (py : Python) (newId : Nat → Id)
    (model : Table FrameworkRow → Model) (s : State clock) (frameworkId : Id)
    (rawBytes : List UInt8) (hint : ∀ text n, py.parseInt text = some n → Integer text n)
    (hm : Stores (model s.frameworks)) (hs : Sound newId s) :
    AcceptsExactly Integer py s frameworkId rawBytes
        (importRequirementsCsv newId model py s frameworkId rawBytes) ↔
      Careful Integer py model s frameworkId rawBytes := by
  unfold importRequirementsCsv Careful
  -- The reader raises, or the checks refuse the file or pass it.
  rcases check_cases py (hasCode s frameworkId) rawBytes with ⟨hraises, message, hcheck⟩ |
    ⟨hraises, ⟨hpasses, hcheck⟩ | ⟨hnot, error, errors, hcheck⟩⟩
  · rw [hcheck]
    exact iff_of_false (fun h => h) fun h => h.1 hraises
  · obtain ⟨hvalid, horders⟩ := (passes_iff hint).1 hpasses
    rw [hcheck, and_iff_right hraises, forall_prop_of_true hvalid, and_iff_right horders]
    simp only
    constructor
    · intro h
      split at h
      · exact h.elim
      · next t hadded => exact List.forall_mem_map.1 (fits_of_foldlM hm hadded)
    · intro hfits
      have hnew : ∀ new ∈ (py.readCsv rawBytes).lines.map (newOf py.parseInt),
          hasCode s frameworkId new.referenceCode = false :=
        List.forall_mem_map.2 fun line hline => (hvalid.rows line hline).new
      have hnodup : (((py.readCsv rawBytes).lines.map (newOf py.parseInt)).map
          (·.referenceCode)).Nodup := by
        rw [List.map_map]
        exact hvalid.nodup
      obtain ⟨t, added, hrun, hadded, hcreates⟩ :=
        foldlM_addRequirement hm hs (List.forall_mem_map.2 hfits) hnew hnodup
      rw [hrun]
      refine .inr ⟨hvalid, ?_, rfl, added, hcreates, ?_⟩
      · rw [List.length_map, length_lines]
      · rw [hadded]
        exact List.forall₂_map_right_iff.2
          (List.forall₂_same.2 fun line hline => rowStored_newOf hint (horders line hline))
  · rw [hcheck, and_iff_right hraises]
    have hiff : AcceptsExactly Integer py s frameworkId rawBytes (.ok (s, 0, error :: errors)) ↔
        ¬ Valid Integer py (hasCode s frameworkId) rawBytes := by
      simp [AcceptsExactly]
    refine hiff.trans ⟨fun hinvalid hvalid => absurd hvalid hinvalid, fun h hvalid => ?_⟩
    exact hnot ((passes_iff hint).2 ⟨hvalid, (h hvalid).1⟩)

/-! ## Two small files -/

/-- The standard library on plain files. -/
def plainPython : Python := ⟨CsvReader.plain, fun _ => "", fun text => pyInt text.toList⟩

/-- A file with two rows, of which one gives its display order. -/
def twoRows : List UInt8 :=
  CsvReader.ascii "reference_code,title,display_order\nA.1,Access,20\nA.2,Logging,\n"

/-- A file with carriage returns at the ends of its lines. -/
def carriageReturns : List UInt8 := CsvReader.ascii "reference_code,title\rA.1,Access\r"

/-- The integers that texts denote. -/
def Denotes (text : String) (n : Int) : Prop := pyInt text.toList = some n

/-- Two values of one text are equal. -/
theorem sameText_eq {v w : Json} (h : sameText v w = true) : v = w := by
  unfold sameText at h
  split at h
  · rw [of_decide_eq_true h]
  · rfl
  · cases h

/-- The sample model stores what it is given. -/
theorem stores_requirementTexts : Stores requirementTexts where
  str _ _ _ h := (Option.some.inj h).symm
  int _ _ _ h := (Option.some.inj h).symm
  conflict v w h := by
    obtain ⟨hframework, hcode⟩ := Bool.and_eq_true_iff.1 h
    exact ⟨sameText_eq hframework, sameText_eq hcode⟩

/-- The sample state is sound. -/
theorem sound_oneRequirement : Sound (100 + ·) oneRequirement where
  injective _ _ := Nat.add_left_cancel
  requirements n _ hmem := by
    rcases Std.ExtTreeMap.mem_insert.1 hmem with heq | hmem
    · have := compare_eq_iff_eq.1 heq
      omega
    · exact Std.ExtTreeMap.not_mem_empty hmem
  assessments n _ hmem := by
    rcases Std.ExtTreeMap.mem_insert.1 hmem with heq | hmem
    · have := compare_eq_iff_eq.1 heq
      omega
    · exact Std.ExtTreeMap.not_mem_empty hmem
  references a k ha := by
    rcases Table.of_get_insert ha with ⟨-, rfl⟩ | ha
    · exact Std.ExtTreeMap.mem_insert.2 (.inl rfl)
    · exact absurd ha Table.not_get_empty

/-- The sample file is one the import is careful with. -/
theorem twoRows_careful :
    Careful Denotes plainPython (fun _ => requirementTexts) oneRequirement 1 twoRows := by
  have hnames : (plainPython.readCsv twoRows).fieldnames =
      .ok ["reference_code", "title", "display_order"] := rfl
  have hfailure : (plainPython.readCsv twoRows).failure = none := by decide +kernel
  have horders : ReadsOrders plainPython twoRows := by
    unfold ReadsOrders
    decide +kernel
  refine ⟨?_, fun _ => ⟨horders, fun _ _ => ⟨fun _ _ => rfl, rfl⟩⟩⟩
  rintro (⟨-, message, herror⟩ | ⟨-, hends⟩)
  · rw [hnames] at herror
    cases herror
  · exact hends hfailure

/-- `import_exact_iff` for a file with two rows. -/
theorem import_exact_twoRows :
    AcceptsExactly Denotes plainPython oneRequirement 1 twoRows
      (importRequirementsCsv (100 + ·) (fun _ => requirementTexts) plainPython oneRequirement 1
        twoRows) := by
  rw [import_exact_iff Denotes plainPython (100 + ·) (fun _ => requirementTexts) oneRequirement 1
    twoRows (fun _ _ h => h) stores_requirementTexts sound_oneRequirement]
  exact twoRows_careful

/-- A file whose lines end in carriage returns raises a `csv.Error`. -/
theorem import_exact_carriageReturns :
    ¬ AcceptsExactly Denotes plainPython oneRequirement 1 carriageReturns
      (importRequirementsCsv (100 + ·) (fun _ => requirementTexts) plainPython oneRequirement 1
        carriageReturns) := by
  have hutf8 : isUtf8 carriageReturns = true := by decide +kernel
  have hnames : (plainPython.readCsv carriageReturns).fieldnames =
      .error CsvReader.newLineError := rfl
  have hrun : importRequirementsCsv (100 + ·) (fun _ => requirementTexts) plainPython
      oneRequirement 1 carriageReturns = .error (.csvError CsvReader.newLineError) := by
    rw [importRequirementsCsv, checkRequirementsCsv]
    simp only [hutf8, hnames, Bool.not_true, Bool.false_eq_true, if_false]
  rw [hrun]
  exact fun h => h

end MiniGrc.RequirementImports
