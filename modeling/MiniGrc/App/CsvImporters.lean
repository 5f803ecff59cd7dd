import MiniGrc.App.FrameworkRequirements

/-!
# The registered importers

The importers of `app/imports.py` with `app/csv_import.py`: what rows they add for a file.
The rows of the requirements are kept as `Record`s, with those of the risks.
-/

namespace MiniGrc.CsvImporters

open Imports FrameworkRequirements
open JobRuns (Target)

/-! ## Neutralisation -/

/-- `_FORMULA_TRIGGER_CHARS`. -/
def formulaTriggerChars : List Char := ['=', '+', '-', '@']

/-- `value and value[0] in _FORMULA_TRIGGER_CHARS`. -/
def startsFormula (value : String) : Bool :=
  value.toList.head?.any fun c => formulaTriggerChars.contains c

/-- `neutralize_csv_formula`: a single quote (39) before a leading trigger. -/
def neutralizeCsvFormula (value : String) : String :=
  if startsFormula value then String.ofList (Char.ofNat 39 :: value.toList) else value

/-! ## Rows -/

/-- The columns that the importer gives a new `risks` row. -/
structure Risk where
  title : String
  description : String
  category : String
  likelihood : Int
  impact : Int
  owner : String
  status : String
  treatmentPlan : String
  deriving DecidableEq, Repr

/-- The rows that importers read and add. -/
inductive Record
  | framework
  | requirement (framework : Id) (requirement : NewRequirement)
  /-- of the requirement that was added before it -/
  | requirementAssessment
  | risk (risk : Risk)

variable (py : Python)

/-! ## Framework requirements -/

/-- `session.get(Framework, target.get("framework_id"))`. -/
def findFramework (records : Table Record) (target : Target) : Option Id :=
  (records.toList.find? fun x => match x.2 with
    | .framework => target.lookup "framework_id" = some (toString x.1)
    | _ => false).map Prod.fst

/-- The reference codes of `framework.requirements`. -/
def existingCodes (records : Table Record) (framework : Id) (code : String) : Bool :=
  records.toList.any fun x => match x.2 with
    | .requirement framework' requirement =>
      framework' = framework && requirement.referenceCode = code
    | _ => false

/-- `_import_framework_requirements`. -/
def importFrameworkRequirements (records : Table Record) (rawBytes : List UInt8)
    (target : Target) : Except String (List Record) :=
  match findFramework records target with
  | none =>
    .error ("framework " ++ (target.lookup "framework_id").getD "None" ++ " not found")
  | some framework =>
    match checkRequirementsCsv py (existingCodes records framework) rawBytes with
    | .error message => .error message
    | .ok (created, []) =>
      .ok (created.flatMap fun new => [.requirement framework new, .requirementAssessment])
    | .ok (_, errors) => .error ("; ".intercalate (errors.take 10))

/-! ## Risks -/

/-- `RISK_STATUSES`. -/
def riskStatuses : List String := ["open", "mitigating", "accepted", "closed"]

/-- `(row.get(column) or default).strip()`. -/
def cellOr (row : String → Option String) (column default : String) : String :=
  let value := (row column).getD ""
  stripText (if value = "" then default else value)

/-- What the check of the rows has found. -/
structure CheckedRisks where
  errors : List String := []
  parsed : List Risk := []

/-- One turn of the loop over the rows. -/
def checkRiskRow (checked : CheckedRisks) (line : Nat × (String → Option String)) :
    CheckedRisks :=
  let (lineNumber, row) := line
  let title := cell row "title"
  let status := cellOr row "status" "open"
  let fail (message : String) : CheckedRisks :=
    { checked with errors := checked.errors ++ ["Row " ++ toString lineNumber ++ ": " ++ message] }
  if title = "" then fail "title is required"
  else if status ∉ riskStatuses then
    fail ("status must be one of " ++ ", ".intercalate riskStatuses)
  else match py.parseInt (cellOr row "likelihood" "1"), py.parseInt (cellOr row "impact" "1") with
    | some likelihood, some impact =>
      if ¬ (1 ≤ likelihood ∧ likelihood ≤ 5) ∨ ¬ (1 ≤ impact ∧ impact ≤ 5) then
        fail "likelihood/impact must be between 1 and 5"
      else
        { checked with
          parsed := checked.parsed ++ [{
            title := neutralizeCsvFormula title
            description := neutralizeCsvFormula (cell row "description")
            category := neutralizeCsvFormula (cellOr row "category" "general")
            likelihood := likelihood
            impact := impact
            owner := neutralizeCsvFormula (cell row "owner")
            status := status
            treatmentPlan := neutralizeCsvFormula (cell row "treatment_plan") }] }
    | _, _ => fail "likelihood/impact must be integers"

/-- `_import_risk_register`. -/
def importRiskRegister (_records : Table Record) (rawBytes : List UInt8) (_target : Target) :
    Except String (List Record) :=
  if !isUtf8 rawBytes then .error (py.decodeError rawBytes)
  else
    let reader := py.readCsv rawBytes
    match reader.fieldnames with
    | .error message => .error message
    | .ok fieldnames =>
      let missing := CsvReader.missing ["title"] fieldnames
      let checked := reader.lines.foldl (checkRiskRow py) {}
      if missing ≠ [] then
        .error ("Missing required column(s): " ++ ", ".intercalate missing)
      else match reader.failure with
        | some message => .error message
        | none =>
          if checked.errors ≠ [] then .error ("; ".intercalate (checked.errors.take 10))
          else if checked.parsed = [] then .error "CSV file contained no data rows."
          else .ok (checked.parsed.map .risk)

/-! ## The registry -/

/-- `_IMPORTERS` with the registered importers. -/
def importers (computeChecksum : List UInt8 → String) : Importers Record where
  get
    | "framework_requirements_csv" =>
      some ⟨"framework_requirement", importFrameworkRequirements py⟩
    | "risk_register_csv" => some ⟨"risk", importRiskRegister py⟩
    | _ => none
  computeChecksum

end MiniGrc.CsvImporters
