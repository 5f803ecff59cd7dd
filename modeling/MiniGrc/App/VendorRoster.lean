import MiniGrc.ForStd.Dict
import MiniGrc.App.ConnectorLifecycle
import MiniGrc.App.CsvReader
import MiniGrc.App.FrameworkRequirements
import MiniGrc.App.Imports
import MiniGrc.App.Users

/-!
# Vendor user rosters

`app/vendor_roster_import.py`: the import of a CSV file as a snapshot of a vendor's users, and
the difference between two snapshots. A snapshot and its rows are never changed.
-/

namespace MiniGrc.VendorRosters

open Connectors (insertRow Person)
open FrameworkRequirements (cell)
open Registers (DbError)
open Users (normalizeEmail)

variable {DateTime : Type}

/-! ## Rows -/

/-- A row of the file as it has been parsed. -/
structure RosterEntry (DateTime : Type) where
  normalizedEmail : String
  importedEmail : String
  importedName : String
  importedRole : String
  importedStatus : String
  importedLastLoginAt : Option DateTime
  deriving DecidableEq, Repr

/-- `VendorUserSnapshotRow`. -/
structure VendorUserSnapshotRow (DateTime : Type) extends RosterEntry DateTime where
  snapshotId : Id
  matchedPersonId : Option Id
  deriving DecidableEq, Repr

/-- `VendorUserSnapshot`. -/
structure VendorUserSnapshot where
  vendorSystemId : Id
  importedAt : Time
  importedByUserId : String
  originalFilename : String
  sha256 : String
  rowCount : Nat
  deriving DecidableEq, Repr

/-- The column of `vendor_systems` that an import writes. -/
structure VendorSystem where
  rosterLastConfirmedAt : Option Time
  deriving DecidableEq, Repr

/-! ## Parsing -/

/-- Why an import raises. -/
inductive Failure
  | vendorRosterImportError (message : String)
  | csvError (message : String)
  | database (error : DbError)
  deriving DecidableEq, Repr

/-- The standard library: `csv.DictReader` on the decoded bytes, `str.lower`,
    `datetime.fromisoformat` (`none` where it raises) and `hashlib.sha256`. -/
structure Python (DateTime : Type) where
  readCsv : List UInt8 → CsvReader
  lower : String → String
  fromIsoFormat : String → Option DateTime
  sha256 : List UInt8 → String

variable (py : Python DateTime)

/-- `REQUIRED_COLUMNS`, sorted. -/
def requiredColumns : List String := ["email", "last_login_at", "name", "role", "status"]

/-- `_parse_last_login`, of a value that has been stripped. -/
def parseLastLogin (value : String) : Except Failure (Option DateTime) :=
  if value = "" then .ok none
  else match py.fromIsoFormat (replaceZ value) with
    | some time => .ok (some time)
    | none => .error (.vendorRosterImportError ("Invalid last_login_at value: '" ++ value ++ "'"))

/-- What the loop over the rows has gathered. -/
structure Parsed (DateTime : Type) where
  rows : List (RosterEntry DateTime) := []
  seenEmails : List String := []

/-- One turn of the loop over the rows. -/
def parseRow (maxRows : Nat) (parsed : Parsed DateTime) (line : Nat × CsvRow) :
    Except Failure (Parsed DateTime) :=
  let (lineNumber, row) := line
  let refuse (message : String) : Except Failure (Parsed DateTime) :=
    .error (.vendorRosterImportError message)
  let email := cell row "email"
  let normalized := normalizeEmail py.lower email
  if lineNumber - 1 > maxRows then
    refuse ("CSV file exceeds the maximum of " ++ toString maxRows ++ " rows.")
  else if email = "" then refuse ("Row " ++ toString lineNumber ++ ": email is required")
  else if normalized ∈ parsed.seenEmails then
    refuse ("Row " ++ toString lineNumber ++ ": duplicate normalized email '" ++ normalized ++ "'")
  else do
    let lastLogin ← parseLastLogin py (cell row "last_login_at")
    return {
      rows := parsed.rows ++ [{
        normalizedEmail := normalized
        importedEmail := email
        importedName := cell row "name"
        importedRole := cell row "role"
        importedStatus := cell row "status"
        importedLastLoginAt := lastLogin }]
      seenEmails := normalized :: parsed.seenEmails }

/-- The loop of `parse_roster_csv` over the rows, and its check for an empty file. -/
def parseRows (reader : CsvReader) (maxRows : Nat) :
    Except Failure (List (RosterEntry DateTime)) := do
  let parsed ← reader.lines.foldlM (parseRow py maxRows) {}
  -- the reader raises when the loop asks it for the next row
  match reader.failure with
  | some message => .error (.csvError message)
  | none =>
    if parsed.rows = [] then
      .error (.vendorRosterImportError "CSV file contained no data rows.")
    else .ok parsed.rows

/-- `parse_roster_csv`. -/
def parseRosterCsv (rawBytes : List UInt8) (maxRows : Nat) :
    Except Failure (List (RosterEntry DateTime)) :=
  if !Imports.isUtf8 rawBytes then
    .error (.vendorRosterImportError "File is not valid UTF-8 text.")
  else
    let reader := py.readCsv rawBytes
    match reader.fieldnames with
    | .error message => .error (.csvError message)
    | .ok fieldnames =>
      let missing := CsvReader.missing requiredColumns fieldnames
      if missing ≠ [] then
        .error (.vendorRosterImportError
          ("Missing required column(s): " ++ ", ".intercalate missing))
      else parseRows py reader maxRows

/-! ## Import -/

/-- The tables, and how many ids of `new_id()` are used up. -/
structure Tables (DateTime : Type) where
  people : Table Person
  vendors : Table VendorSystem
  snapshots : Table VendorUserSnapshot
  rows : Table (VendorUserSnapshotRow DateTime)
  drawn : Nat := 0

/-- What the database refuses for a reason of its own: a query for so many addresses, or a row
    with values that do not fit the columns. -/
structure Refusals (DateTime : Type) where
  query : List String → Option DbError := fun _ => none
  snapshot : VendorUserSnapshot → Option DbError := fun _ => none
  row : VendorUserSnapshotRow DateTime → Option DbError := fun _ => none

/-- The arguments of `import_vendor_roster_snapshot`, and the times that it draws. -/
structure ImportArgs where
  vendorId : Id
  rawBytes : List UInt8
  originalFilename : String
  importedByUserId : String
  maxRows : Nat
  importedAt : Time
  confirmedAt : Time

/-- The unique constraint `uq_snapshot_row_email`. -/
def sameSnapshotEmail (row row' : VendorUserSnapshotRow DateTime) : Bool :=
  row.snapshotId = row'.snapshotId ∧ row.normalizedEmail = row'.normalizedEmail

/-- `people_by_email`, for the addresses of the rows. -/
def peopleByEmail (people : Table Person) (normalizedEmails : List String) : Dict String Id :=
  .ofList ((people.toList.filter fun x => x.2.email ∈ normalizedEmails).map
    fun x => (x.2.email, x.1))

/-- The row of a snapshot for a row of the file. -/
def snapshotRow (snapshotId : Id) (peopleByEmail : Dict String Id) (row : RosterEntry DateTime) :
    VendorUserSnapshotRow DateTime :=
  { row with
    snapshotId := snapshotId
    matchedPersonId := peopleByEmail.get? row.normalizedEmail }

variable (newId : Nat → Id) (db : Refusals DateTime)

/-- The flush of the new snapshot. -/
def flushSnapshot (snapshot : VendorUserSnapshot) : EStateM Failure (Tables DateTime) Id := fun t =>
  let id := newId t.drawn
  match db.snapshot snapshot, insertRow (fun _ _ => false) t.snapshots (id, snapshot) with
  | none, some snapshots => .ok id { t with snapshots := snapshots, drawn := t.drawn + 1 }
  | some error, _ => .error (.database error) t
  | none, none => .error (.database .integrityError) t

/-- The flush of a new row. -/
def flushRow (row : VendorUserSnapshotRow DateTime) : EStateM Failure (Tables DateTime) Unit :=
  fun t =>
    match db.row row, insertRow sameSnapshotEmail t.rows (newId t.drawn, row) with
    | none, some rows => .ok () { t with rows := rows, drawn := t.drawn + 1 }
    | some error, _ => .error (.database error) t
    | none, none => .error (.database .integrityError) t

/-- What `import_vendor_roster_snapshot` does with the rows that have been parsed. -/
def storeSnapshot (args : ImportArgs) (rows : List (RosterEntry DateTime)) :
    EStateM Failure (Tables DateTime) Id := do
  let t ← get
  let peopleByEmail := peopleByEmail t.people (rows.map (·.normalizedEmail))
  let snapshotId ← flushSnapshot newId db {
    vendorSystemId := args.vendorId
    importedAt := args.importedAt
    importedByUserId := args.importedByUserId
    originalFilename := args.originalFilename
    sha256 := py.sha256 args.rawBytes
    rowCount := rows.length }
  (rows.map (snapshotRow snapshotId peopleByEmail)).forM (flushRow newId db)
  modify fun t => { t with
    vendors := t.vendors.alter args.vendorId
      (Option.map fun _ => { rosterLastConfirmedAt := some args.confirmedAt }) }
  return snapshotId

/-- `import_vendor_roster_snapshot`. -/
def importVendorRosterSnapshot (args : ImportArgs) : EStateM Failure (Tables DateTime) Id :=
  fun t =>
    match parseRosterCsv py args.rawBytes args.maxRows with
    | .error failure => .error failure t
    | .ok rows =>
      match db.query (rows.map (·.normalizedEmail)) with
      | some error => .error (.database error) t
      | none => storeSnapshot py newId db args rows t

/-! ## Differences -/

/-- A changed role or status. -/
structure Change where
  email : String
  before : String
  after : String
  deriving DecidableEq, Repr

/-- What `compute_delta` returns. -/
structure Delta (DateTime : Type) where
  added : List (VendorUserSnapshotRow DateTime)
  removed : List (VendorUserSnapshotRow DateTime)
  roleChanges : List Change := []
  statusChanges : List Change := []
  newlyAssignedAdmins : List (VendorUserSnapshotRow DateTime) := []
  deriving DecidableEq, Repr

/-- `{r.normalized_email: r for r in rows}`. -/
def byEmail (rows : List (VendorUserSnapshotRow DateTime)) :
    Dict String (VendorUserSnapshotRow DateTime) :=
  .ofList (rows.map fun r => (r.normalizedEmail, r))

/-- The rows of a dictionary whose addresses the other one does not have. -/
def notIn (other rows : Dict String (VendorUserSnapshotRow DateTime)) :
    List (VendorUserSnapshotRow DateTime) :=
  (rows.items.filter fun x => (other.get? x.1).isNone).map Prod.snd

/-- One turn of the loop over the current rows. -/
def compareRow (lower : String → String)
    (previousByEmail : Dict String (VendorUserSnapshotRow DateTime)) (delta : Delta DateTime)
    (item : String × VendorUserSnapshotRow DateTime) : Delta DateTime :=
  let (email, currentRow) := item
  match previousByEmail.get? email with
  | none => delta
  | some previousRow =>
    let before := previousRow.importedRole
    let after := currentRow.importedRole
    let delta :=
      if before ≠ after then
        { delta with
          roleChanges := delta.roleChanges ++ [⟨email, before, after⟩]
          newlyAssignedAdmins := delta.newlyAssignedAdmins ++
            if lower after = "admin" ∧ lower before ≠ "admin" then [currentRow] else [] }
      else delta
    if previousRow.importedStatus ≠ currentRow.importedStatus then
      { delta with
        statusChanges := delta.statusChanges ++
          [⟨email, previousRow.importedStatus, currentRow.importedStatus⟩] }
    else delta

/-- `compute_delta`. -/
def computeDelta (lower : String → String)
    (previousRows currentRows : List (VendorUserSnapshotRow DateTime)) : Delta DateTime :=
  let previousByEmail := byEmail previousRows
  let currentByEmail := byEmail currentRows
  currentByEmail.items.foldl (compareRow lower previousByEmail) {
    added := notIn previousByEmail currentByEmail
    removed := notIn currentByEmail previousByEmail }

end MiniGrc.VendorRosters
