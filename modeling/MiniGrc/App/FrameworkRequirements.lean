import MiniGrc.App.CsvReader
import MiniGrc.App.FrameworkAdoption
import MiniGrc.App.Imports
import MiniGrc.App.RegisterConfigs

/-!
# Framework requirements

What writes `framework_requirements`: the register of `app/routers/frameworks.py`,
`add_requirement` of `app/requirements.py` and its callers (the form, `app/csv_import.py`,
`app/framework_catalog.py`), beside the adoptions, which only move a pointer. The requirements
are a register, whose rows hold the texts of their framework's ids. A request or job that
raises is rolled back.
-/

namespace MiniGrc.FrameworkRequirements

open Imports (isUtf8)
open Registers FrameworkAdoptions PolicyStorage

/-- The columns of `frameworks` that are read here. -/
structure FrameworkRow where
  catalogKey : Option String
  catalogFamily : Option String
  isActive : Bool := true

/-- The tables, and how many ids of `new_id()` are used up. -/
structure State (clock : UpdateClock) where
  frameworks : Table FrameworkRow
  requirements : Register clock
  /-- the `requirement_id` of each assessment -/
  assessments : Table Id
  /-- the `requirement_id` of each mapping to a control -/
  mappings : Table Id
  adoptions : AdoptionSession
  drawn : Nat := 0

/-- Why an operation raises. -/
inductive Failure
  | valueError (message : String)
  | runtimeError (message : String)
  | csvError (message : String)
  | database (error : DbError)
  | adoption (error : PyError)
  deriving DecidableEq, Repr

/-- The value that a requirement has for its framework. -/
def frameworkRef (id : Id) : Json := .str (toString id)

/-- The text is the value of the column. -/
def isText (value : Json) (text : String) : Bool :=
  match value with
  | .str text' => text' = text
  | _ => false

/-! ## New requirements -/

section Create

variable {clock : UpdateClock} (newId : Nat → Id) (model : Table FrameworkRow → Model)

/-- The arguments of `add_requirement`. -/
structure NewRequirement where
  referenceCode : String
  title : String
  summary : String := ""
  displayOrder : Int := 0

/-- `add_requirement`. -/
def addRequirement (frameworkId : Id) (s : State clock) (new : NewRequirement) :
    Except DbError (State clock) := do
  let id := newId s.drawn
  let requirements ← (model s.frameworks).insert s.requirements id [
    ("framework_id", frameworkRef frameworkId),
    ("reference_code", .str new.referenceCode),
    ("title", .str new.title),
    ("summary", .str new.summary),
    ("display_order", .int new.displayOrder)]
  let assessmentId := newId (s.drawn + 1)
  if assessmentId ∈ s.assessments then throw .integrityError
  return {
    s with
    requirements := requirements
    assessments := s.assessments.insert assessmentId id
    drawn := s.drawn + 2 }

/-- `create_requirement`; what it does not add, it answers with a message. -/
def createRequirement (s : State clock) (frameworkId : Id) (new : NewRequirement) :
    Except DbError (State clock) :=
  let new := { new with
    referenceCode := stripText new.referenceCode
    title := stripText new.title }
  if frameworkId ∉ s.frameworks ∨ new.referenceCode = "" ∨ new.title = "" then .ok s
  else addRequirement newId model frameworkId s new

/-! ### A CSV file -/

/-- The standard library: `csv.DictReader` on the decoded bytes, the text of a
    `UnicodeDecodeError`, and `int()`. -/
structure Python where
  readCsv : List UInt8 → CsvReader
  decodeError : List UInt8 → String
  parseInt : String → Option Int

/-- `REQUIRED_COLUMNS`, sorted. -/
def requiredColumns : List String := ["reference_code", "title"]

/-- What the check of the rows has found. -/
structure Checked where
  seenInFile : List String := []
  errors : List String := []
  parsed : List NewRequirement := []

/-- `(row.get(column) or "").strip()`. -/
def cell (row : CsvRow) (column : String) : String :=
  stripText ((row column).getD "")

/-- The codes of `framework.requirements`. -/
def hasCode (s : State clock) (frameworkId : Id) (code : String) : Bool :=
  s.requirements.rows.toList.any fun x =>
    isText (x.2.values "framework_id") (toString frameworkId) &&
      isText (x.2.values "reference_code") code

/-- One turn of the loop over the rows, with `int()`. -/
def checkCsvRow (parseInt : String → Option Int) (hasCode : String → Bool) (checked : Checked)
    (line : Nat × CsvRow) : Checked :=
  let (lineNumber, row) := line
  let code := cell row "reference_code"
  let title := cell row "title"
  let displayOrderRaw := cell row "display_order"
  let fail (message : String) : Checked :=
    { checked with errors := checked.errors ++ ["Row " ++ toString lineNumber ++ ": " ++ message] }
  if code = "" then fail "reference_code is required"
  else if title = "" then fail "title is required"
  else if hasCode code then
    fail ("reference_code '" ++ code ++ "' already exists in this framework")
  else if code ∈ checked.seenInFile then
    fail ("duplicate reference_code '" ++ code ++ "' within the file")
  else
    let accept (displayOrder : Int) : Checked :=
      { checked with
        seenInFile := checked.seenInFile ++ [code]
        parsed := checked.parsed ++ [{
          referenceCode := code
          title := title
          summary := cell row "description"
          displayOrder := displayOrder }] }
    if displayOrderRaw = "" then accept (lineNumber - 1)
    else match parseInt displayOrderRaw with
      | some displayOrder => accept displayOrder
      | none => fail "display_order must be an integer"

/-- The checks of `import_requirements_csv`: the requirements of the rows, and the errors; or the
    text of the `csv.Error` of the reader. -/
def checkRequirementsCsv (py : Python) (hasCode : String → Bool) (rawBytes : List UInt8) :
    Except String (List NewRequirement × List String) :=
  if !isUtf8 rawBytes then .ok ([], ["File is not valid UTF-8 text."])
  else
    let reader := py.readCsv rawBytes
    match reader.fieldnames with
    | .error message => .error message
    | .ok fieldnames =>
      let missing := CsvReader.missing requiredColumns fieldnames
      let checked := reader.lines.foldl (checkCsvRow py.parseInt hasCode) {}
      if missing ≠ [] then .ok ([], ["Missing required column(s): " ++ ", ".intercalate missing])
      else match reader.failure with
        | some message => .error message
        | none =>
          if checked.errors ≠ [] then .ok ([], checked.errors)
          else if checked.parsed = [] then .ok ([], ["CSV file contained no data rows."])
          else .ok (checked.parsed, [])

/-- `import_requirements_csv`, with the number and the errors that it returns. -/
def importRequirementsCsv (py : Python) (s : State clock) (frameworkId : Id)
    (rawBytes : List UInt8) : Except Failure (State clock × Nat × List String) :=
  match checkRequirementsCsv py (hasCode s frameworkId) rawBytes with
  | .error message => .error (.csvError message)
  | .ok (_, error :: errors) => .ok (s, 0, error :: errors)
  | .ok (parsed, []) =>
    match parsed.foldlM (addRequirement newId model frameworkId) s with
    | .error error => .error (.database error)
    | .ok s => .ok (s, parsed.length, [])

/-- `_import_framework_requirements`. -/
def importFrameworkRequirements (py : Python) (s : State clock) (frameworkId : Id)
    (rawBytes : List UInt8) : Except Failure (State clock) :=
  if frameworkId ∉ s.frameworks then
    .error (.valueError ("framework " ++ toString frameworkId ++ " not found"))
  else match importRequirementsCsv newId model py s frameworkId rawBytes with
    | .error failure => .error failure
    | .ok (s, _, []) => .ok s
    | .ok (_, _, errors) => .error (.valueError ("; ".intercalate (errors.take 10)))

/-! ### The system catalogs -/

/-- `SystemCatalog`. -/
structure SystemCatalog where
  catalogKey : String
  catalogFamily : String
  name : String
  requirements : List NewRequirement

/-- `_find_or_create_catalog_framework`. -/
def findOrCreateFramework (s : State clock) (catalog : SystemCatalog) :
    Except Failure (Id × FrameworkRow × State clock) :=
  match s.frameworks.toList.find? fun x => x.2.catalogKey = some catalog.catalogKey with
  | some (id, framework) => .ok (id, framework, s)
  | none =>
    let id := newId s.drawn
    let framework : FrameworkRow :=
      { catalogKey := some catalog.catalogKey, catalogFamily := some catalog.catalogFamily }
    if id ∈ s.frameworks then
      .error (.runtimeError ("IntegrityError creating catalog framework '" ++ catalog.catalogKey ++
        "' but no row with that catalog_key exists — not a concurrent-creation race, re-raising"))
    else .ok (id, framework, {
      s with
      frameworks := s.frameworks.insert id framework
      drawn := s.drawn + 1 })

/-- `_find_or_create_catalog_requirement`. -/
def findOrCreateRequirement (frameworkId : Id) (catalogKey : String) (s : State clock)
    (requirement : NewRequirement) : Except Failure (State clock) :=
  if hasCode s frameworkId requirement.referenceCode then .ok s
  else match addRequirement newId model frameworkId s requirement with
    | .ok s => .ok s
    | .error .integrityError =>
      .error (.runtimeError ("IntegrityError creating requirement '" ++ requirement.referenceCode ++
        "' for framework '" ++ catalogKey ++
        "' but no matching row exists — not a concurrent-creation race, re-raising"))
    | .error .dataError => .error (.database .dataError)

/-- The projection of the adoptions, where the frameworks are there. -/
def adoptionProjection (s : State clock) : Projection (Table FrameworkAdoption) Body :=
  aggregateType.projection
    (fun table id => decide (table = .frameworks) && decide (id ∈ s.frameworks)) false

/-- The state after a command on adoptions, which raises or not. -/
def State.withAdoptions (s : State clock) (outcome : Outcome AdoptionSession) :
    Except Failure (State clock) :=
  match outcome with
  | .returned adoptions => .ok { s with adoptions }
  | .raised _ e => .error (.adoption e)

/-- The clock of the event store. The events of adoptions add no link rows. -/
def eventClock (clock : UpdateClock) : Clock :=
  ⟨clock.reading, clock.strictMono.monotone, fun _ n => clock.reading n⟩

/-- `adopt_framework` of a framework that has been loaded. -/
def adopt (s : State clock) (id : Id) (framework : FrameworkRow) (actor : Actor) :
    Except Failure (State clock) :=
  { s with drawn := s.drawn + 1 }.withAdoptions
    (adoptFramework (adoptionProjection s) (eventClock clock) s.adoptions (newId s.drawn)
      ⟨id, framework.catalogFamily, framework.isActive⟩ actor)

/-- One turn of the loop of `reconcile_system_catalogs`. -/
def reconcileCatalog (s : State clock) (catalog : SystemCatalog) :
    Except Failure (State clock) := do
  let (id, framework, s) ← findOrCreateFramework newId s catalog
  let s ← catalog.requirements.foldlM
    (findOrCreateRequirement newId model id catalog.catalogKey) s
  match getAdoption s.adoptions catalog.catalogFamily with
  | some _ => return s
  | none => adopt newId s id framework { actorType := "system", actorId := none }

/-- `reconcile_system_catalogs`. -/
def reconcileSystemCatalogs (systemCatalogs : List SystemCatalog) (s : State clock) :
    Except Failure (State clock) :=
  systemCatalogs.foldlM (reconcileCatalog newId model) s

/-- `upgrade_framework_adoption` to a framework. -/
def upgrade (s : State clock) (adoptionId toFrameworkId : Id) (actor : Actor) :
    Except Failure (State clock) :=
  match s.frameworks[toFrameworkId]? with
  | none => .error (.valueError "Framework not found")
  | some framework =>
    s.withAdoptions (upgradeFrameworkAdoption (adoptionProjection s) (eventClock clock)
      s.adoptions adoptionId ⟨toFrameworkId, framework.catalogFamily, framework.isActive⟩ actor)

end Create

/-! ## The operations -/

/-- The operations. -/
inductive Label
  | patch (role : String) (update : Update)
  | bulk (role : String) (updates : List Update)
  | create (frameworkId : Id) (new : NewRequirement)
  | importCsv (frameworkId : Id) (rawBytes : List UInt8)
  | reconcile
  | adopt (frameworkId : Id) (actor : Actor)
  | upgrade (adoptionId toFrameworkId : Id) (actor : Actor)

/-- What the operations depend on: `new_id()`, the constraints of the requirements beside the
    frameworks, the standard library and `SYSTEM_CATALOGS`. -/
structure Env where
  newId : Nat → Id
  model : Table FrameworkRow → Model
  python : Python
  systemCatalogs : List SystemCatalog

variable {clock : UpdateClock} {ε : Type}

/-- The state after an operation: nothing is committed if it raises. -/
def State.after (s : State clock) (result : Except ε (State clock)) : State clock :=
  match result with
  | .ok s => s
  | .error _ => s

/-- The state after a request to the register. -/
def State.afterRequest (s : State clock) (answer : Except Refusal (Register clock)) :
    State clock :=
  { s with requirements := committed s.requirements answer }

/-- One operation. -/
def step (env : Env) (s : State clock) : Label → Option (State clock)
  | .patch role update =>
    some (s.afterRequest (updateRow requirementsRegisterConfig (env.model s.frameworks)
      s.requirements role update))
  | .bulk role updates =>
    some (s.afterRequest (bulkUpdate requirementsRegisterConfig (env.model s.frameworks)
      s.requirements role updates))
  | .create frameworkId new =>
    some (s.after (createRequirement env.newId env.model s frameworkId new))
  | .importCsv frameworkId rawBytes =>
    some (s.after
      (importFrameworkRequirements env.newId env.model env.python s frameworkId rawBytes))
  | .reconcile =>
    some (s.after (reconcileSystemCatalogs env.newId env.model env.systemCatalogs s))
  | .adopt frameworkId actor =>
    match s.frameworks[frameworkId]? with
    | none => some s
    | some framework =>
      some (s.after (FrameworkRequirements.adopt env.newId s frameworkId framework actor))
  | .upgrade adoptionId toFrameworkId actor =>
    some (s.after (FrameworkRequirements.upgrade s adoptionId toFrameworkId actor))

end MiniGrc.FrameworkRequirements
