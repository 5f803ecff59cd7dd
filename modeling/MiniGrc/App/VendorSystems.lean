import MiniGrc.App.Dependencies
import MiniGrc.App.PolicyStorage
import MiniGrc.ForStd.Decimal

/-!
# Vendor systems

The form of `app/routers/vendor_systems.py` with the texts that `Decimal` and `int` read, the
computed columns of `VendorSystem` and `compute_flags` of `app/vendor_flags.py`.

`str.upper`, the decimal digits that are not ASCII, `datetime.date.fromisoformat`, the limits
of `Decimal` and `int`, and the rows that the database takes are parameters.
-/

namespace MiniGrc.VendorSystems

open PolicyStorage Routes

/-- An exception. -/
inductive PyError
  | valueError (message : String)
  | attributeError
  /-- `OverflowError` and `decimal.Overflow` -/
  | overflow
  /-- the database refuses a statement -/
  | databaseError
  | httpException (statusCode : Nat) (detail : String)
  deriving DecidableEq, Repr

/-! ## Rows -/

/-- What a form says about a vendor system. -/
structure VendorFields where
  systemName : String
  vendorName : String
  lifecycleStatus : String
  accessUrl : String
  adminConsoleUrl : Option String
  primaryDepartment : String
  businessOwnerPersonId : Option FormValue
  inScope : Bool
  usesSharedLogin : Bool
  sharedCredentialReferenceUrl : Option String
  primaryAdminPersonId : Option FormValue
  secondaryAdminPersonId : Option FormValue
  billingFrequency : String
  currency : String
  seatCount : Option Int
  contractUrl : Option String
  contractStartDate : Option Date
  renewalDate : Option Date
  autoRenew : String
  cancellationNoticeDays : Option Int
  renewalOwnerPersonId : Option FormValue
  supportPortalUrl : Option String
  supportEmail : Option String
  supportPhone : Option String
  accountManagerName : Option String
  accountManagerEmail : Option String
  emergencyEscalationInstructions : String
  customerAccountReference : Option String

/-- A row of `vendor_systems`. -/
structure VendorSystem extends VendorFields where
  billingAmountMinor : Option Int
  costPerSeatMinor : Option Int
  rosterLastConfirmedAt : Option DateTime

/-- The parameters. -/
structure Environment where
  upper : String → String
  /-- the digit that a character outside ASCII stands for -/
  digit : Char → Option Nat
  fromisoformat : String → Option Date
  /-- `decimal.MAX_EMAX` and `decimal.MIN_ETINY` -/
  maxEmax : Int
  minEtiny : Int
  /-- `sys.get_int_max_str_digits()`; 0 for no limit -/
  intMaxStrDigits : Nat
  accepts : VendorSystem → Bool

variable (env : Environment)

/-! ## `Decimal(text)` and `int(text)` -/

/-- The value of a decimal digit. -/
def Environment.digitValue (c : Char) : Option Nat :=
  if c.isDigit then some (c.toNat - 48) else if c.toNat < 128 then none else env.digit c

/-- The digits at the front of a text, and the rest. -/
def Environment.digits : List Char → List Nat × List Char
  | [] => ([], [])
  | c :: text =>
    match env.digitValue c with
    | none => ([], c :: text)
    | some n => ((n :: (digits text).1), (digits text).2)

/-- The number with these digits. -/
def ofDigits (digits : List Nat) : Nat := digits.foldl (fun n digit => 10 * n + digit) 0

/-- A sign in front of a text: whether it is a minus, and the rest. -/
def readSign : List Char → Bool × List Char
  | '-' :: text => (true, text)
  | '+' :: text => (false, text)
  | text => (false, text)

/-- The exponent behind the digits; nothing for 0. -/
def Environment.exponent : List Char → Option Int
  | [] => some 0
  | c :: text =>
    if c = 'e' ∨ c = 'E' then
      let (negative, text) := readSign text
      let (digits, rest) := env.digits text
      if digits ≠ [] ∧ rest = [] then some (Decimal.signed negative (ofDigits digits)) else none
    else none

/-- A number without its sign: digits with a point, and an exponent. What does not fit the
    limits cannot be converted exactly. -/
def Environment.finite (negative : Bool) (text : List Char) : Option Decimal :=
  let (whole, rest) := env.digits text
  let (fraction, rest) :=
    match rest with
    | '.' :: rest => env.digits rest
    | rest => ([], rest)
  if whole = [] ∧ fraction = [] then none
  else match env.exponent rest with
  | none => none
  | some exponent =>
    let c := ofDigits (whole ++ fraction)
    let e := exponent - fraction.length
    if e + Decimal.numDigits c - 1 ≤ env.maxEmax ∧ env.minEtiny ≤ e then
      some (.finite negative c e)
    else none

/-- A NaN without its sign, with digits that say nothing here. -/
def Environment.nan (text : List Char) : Option Decimal :=
  let read (signaling : Bool) (rest : List Char) : Option Decimal :=
    if (env.digits rest).2 = [] then some (.nan signaling) else none
  match text.map Char.toLower with
  | 'n' :: 'a' :: 'n' :: _ => read false (text.drop 3)
  | 's' :: 'n' :: 'a' :: 'n' :: _ => read true (text.drop 4)
  | _ => none

/-- `Decimal(text)`, or `none` for `InvalidOperation`: white space around the text and
    underscores do not count. -/
def Environment.decimal (text : String) : Option Decimal :=
  let (negative, text) := readSign ((strip text.toList).filter (· ≠ '_'))
  if text.map Char.toLower ∈ ["inf".toList, "infinity".toList] then some (.infinity negative)
  else (env.nan text).or (env.finite negative text)

/-- The digits of an integer: single underscores may stand between them. -/
def Environment.intDigits : List Char → Option (List Nat)
  | [] => none
  | [c] => (env.digitValue c).map fun n => [n]
  | c :: '_' :: text => do return (← env.digitValue c) :: (← intDigits text)
  | c :: text => do return (← env.digitValue c) :: (← intDigits text)

/-- `int(text)`, or `none` for `ValueError`. -/
def Environment.int (text : String) : Option Int :=
  let (negative, text) := readSign (strip text.toList)
  match env.intDigits text with
  | none => none
  | some digits =>
    if env.intMaxStrDigits = 0 ∨ digits.length ≤ env.intMaxStrDigits then
      some (Decimal.signed negative (ofDigits digits))
    else none

/-! ## Parsers of the form -/

/-- `decimal.DefaultContext`. -/
def defaultContext : Decimal.Context where
  precision := 28
  minExponent := -999999
  maxExponent := 999999
  precision_pos := by decide
  minExponent_neg := by decide
  precision_le := by decide

/-- `int(d)`. -/
def intOfDecimal : Decimal → Except PyError Int
  | .finite negative c e =>
    .ok (Decimal.signed negative
      (if 0 ≤ e then c * 10 ^ e.toNat else c / 10 ^ (-e).toNat))
  | .infinity _ => .error .overflow
  | .nan _ => .error (.valueError "cannot convert NaN to integer")

/-- The exception for a text that is refused. -/
def notAnAmount (value : String) : PyError :=
  .valueError ("'" ++ value ++ "' is not a valid amount")

/-- `_parse_minor_units`. -/
def parseMinorUnits (value : String) : Except PyError (Option Int) :=
  let value := stripText value
  if value = "" then .ok none
  else match env.decimal value with
  | none => .error (notAnAmount value)
  | some amount =>
    match defaultContext.mul amount (.finite false 100 0) >>= Decimal.toIntegralValue with
    | .error .invalidOperation => .error (notAnAmount value)
    -- `decimal.Overflow` is no `InvalidOperation`
    | .error .overflow => .error .overflow
    | .ok amount =>
      match intOfDecimal amount with
      | .error (.valueError _) => .error (notAnAmount value)
      -- nor is `OverflowError` a `ValueError`
      | .error e => .error e
      | .ok minorUnits => .ok (some minorUnits)

/-- `_parse_date`. -/
def parseDate (value : String) : Option Date :=
  if stripText value = "" then none else env.fromisoformat (stripText value)

/-- `_parse_int`. -/
def parseInt (value : String) : Option Int :=
  if stripText value = "" then none else env.int (stripText value)

/-! ## Forms -/

/-- The fields of a form. -/
abbrev Form := List (String × FormValue)

/-- `form.get(key)`: the last of the name. -/
def Form.get? (form : Form) (key : String) : Option FormValue :=
  (form.reverse.find? fun entry => entry.1 = key).map Prod.snd

/-- A field as the text on which a method of `str` is called; a file has none. -/
def Form.text (form : Form) (key : String) (default : String) : Except PyError String :=
  match Form.get? form key with
  | none => .ok default
  | some (.text value) => .ok value
  | some (.file _ _) => .error .attributeError

/-- `form.get(key, "").strip() or None`. -/
def Form.optionalText (form : Form) (key : String) : Except PyError (Option String) := do
  let value := stripText (← form.text key "")
  return if value = "" then none else some value

/-- `form.get(key) or None`; a file is truthy. -/
def Form.reference (form : Form) (key : String) : Option FormValue :=
  match Form.get? form key with
  | some (.text value) => if value = "" then none else some (.text value)
  | value => value

/-- `form.get(key) if form.get(key) in choices else default`. -/
def Form.choice (form : Form) (key : String) (choices : List String) (default : String) : String :=
  match Form.get? form key with
  | some (.text value) => if value ∈ choices then value else default
  | _ => default

/-- `form.get(key) == "on"`. -/
def Form.checked (form : Form) (key : String) : Bool :=
  match Form.get? form key with
  | some (.text value) => value = "on"
  | _ => false

/-- `VENDOR_LIFECYCLE_STATUSES`. -/
def vendorLifecycleStatuses : List String := ["trial", "active", "cancelling", "cancelled"]

/-- `BILLING_FREQUENCIES`. -/
def billingFrequencies : List String := ["monthly", "annual", "other"]

/-- `TRI_STATE_VALUES`. -/
def triStateValues : List String := ["yes", "no", "unknown"]

/-- `value or default`. -/
def orDefault (value default : String) : String := if value = "" then default else value

/-- `_extract_vendor_fields`. -/
def extractVendorFields (form : Form) : Except PyError VendorFields := do
  return {
    systemName := stripText (← form.text "system_name" "")
    vendorName := stripText (← form.text "vendor_name" "")
    lifecycleStatus := form.choice "lifecycle_status" vendorLifecycleStatuses "active"
    accessUrl := stripText (← form.text "access_url" "")
    adminConsoleUrl := ← form.optionalText "admin_console_url"
    primaryDepartment := stripText (← form.text "primary_department" "")
    businessOwnerPersonId := form.reference "business_owner_person_id"
    inScope := form.checked "in_scope"
    usesSharedLogin := form.checked "uses_shared_login"
    sharedCredentialReferenceUrl := ← form.optionalText "shared_credential_reference_url"
    primaryAdminPersonId := form.reference "primary_admin_person_id"
    secondaryAdminPersonId := form.reference "secondary_admin_person_id"
    billingFrequency := form.choice "billing_frequency" billingFrequencies "other"
    currency := .ofList
      ((env.upper (stripText (orDefault (← form.text "currency" "USD") "USD"))).toList.take 3)
    seatCount := parseInt env (← form.text "seat_count" "")
    contractUrl := ← form.optionalText "contract_url"
    contractStartDate := parseDate env (← form.text "contract_start_date" "")
    renewalDate := parseDate env (← form.text "renewal_date" "")
    autoRenew := form.choice "auto_renew" triStateValues "unknown"
    cancellationNoticeDays := parseInt env (← form.text "cancellation_notice_days" "")
    renewalOwnerPersonId := form.reference "renewal_owner_person_id"
    supportPortalUrl := ← form.optionalText "support_portal_url"
    supportEmail := ← form.optionalText "support_email"
    supportPhone := ← form.optionalText "support_phone"
    accountManagerName := ← form.optionalText "account_manager_name"
    accountManagerEmail := ← form.optionalText "account_manager_email"
    emergencyEscalationInstructions :=
      stripText (← form.text "emergency_escalation_instructions" "")
    customerAccountReference := ← form.optionalText "customer_account_reference" }

/-! ## Computed columns -/

/-- `cancellation_deadline`. -/
def VendorSystem.cancellationDeadline (vendor : VendorSystem) : Except PyError (Option Date) :=
  match vendor.renewalDate, vendor.cancellationNoticeDays with
  | some renewalDate, some days =>
    match renewalDate.subDays days with
    | some deadline => .ok (some deadline)
    | none => .error .overflow
  | _, _ => .ok none

/-! ## `app/vendor_flags.py` -/

/-- `(d - today).days`. -/
def daysUntil (d today : Date) : Int := d.toordinal - today.toordinal

/-- `(datetime.combine(today, time.min) - t).days`. -/
def daysSince (t : DateTime) (today : Date) : Int :=
  ((today.toordinal : Int) * 86400000000 - (t.date.toordinal * 86400000000 + t.time)) / 86400000000

/-- `INACTIVE_EMPLOYMENT_STATUSES`. -/
def inactiveEmploymentStatuses : List String := ["suspended", "departed"]

/-- The flag of one of the two admins; `employmentStatus` is that of a person, if there is one. -/
def adminFlags (role lowerRole : String) (person : Option FormValue)
    (employmentStatus : FormValue → Option String) : List String :=
  match person with
  | none => ["Missing " ++ lowerRole ++ " admin"]
  | some id =>
    match employmentStatus id with
    | some status =>
      if status ∈ inactiveEmploymentStatuses then [role ++ " admin is " ++ status] else []
    | none => []

/-- `compute_flags`. -/
def computeFlags (employmentStatus : FormValue → Option String) (vendor : VendorSystem)
    (today : Date) (departedRosterEmails : List String) : Except PyError (List String) := do
  let flag (text : String) (raised : Bool) : List String := if raised then [text] else []
  let before :=
    flag "Shared login in use" vendor.usesSharedLogin ++
    adminFlags "Primary" "primary" vendor.primaryAdminPersonId employmentStatus ++
    adminFlags "Secondary" "secondary" vendor.secondaryAdminPersonId employmentStatus ++
    flag "Contract missing" ((vendor.contractUrl.getD "") = "") ++
    flag "Renewal approaching" (vendor.renewalDate.any fun renewalDate =>
      0 ≤ daysUntil renewalDate today ∧ daysUntil renewalDate today ≤ 60)
  let deadline ← vendor.cancellationDeadline
  return before ++
    flag "Cancellation deadline approaching" (deadline.any fun deadline =>
      0 ≤ daysUntil deadline today ∧ daysUntil deadline today ≤ 30) ++
    flag "Auto-renew status unknown" (vendor.autoRenew = "unknown") ++
    flag "Support/escalation path missing" (vendor.supportPortalUrl.getD "" = "" ∧
      vendor.supportEmail.getD "" = "" ∧ vendor.supportPhone.getD "" = "") ++
    flag "Roster not confirmed within 90 days"
      (vendor.rosterLastConfirmedAt.all fun t => 90 < daysSince t today) ++
    flag "Former employee appears in latest vendor roster" (departedRosterEmails ≠ [])

/-! ## Routes -/

/-- The rows of `vendor_systems`. -/
abbrev Database := Table VendorSystem

/-- A redirect with a message. -/
structure Flash where
  url : String
  message : String
  kind : String := "success"

/-- The two amounts of a form. -/
def readAmounts (form : Form) : Except PyError (Option Int × Option Int) := do
  let billingAmountMinor ← parseMinorUnits env (← form.text "billing_amount" "")
  let costPerSeatMinor ← parseMinorUnits env (← form.text "cost_per_seat" "")
  return (billingAmountMinor, costPerSeatMinor)

/-- What both routes do before they touch a row: the fields and the two amounts, or a redirect to
    `url`. -/
def readForm (form : Form) (url : String) :
    Except PyError (Flash ⊕ VendorFields × Option Int × Option Int) := do
  let systemName := stripText (← form.text "system_name" "")
  let vendorName := stripText (← form.text "vendor_name" "")
  if systemName = "" ∨ vendorName = "" then
    return .inl ⟨url, "System name and vendor name are required.", "error"⟩
  else
    match readAmounts env form with
    | .error (.valueError message) => return .inl ⟨url, message, "error"⟩
    | .error e => .error e
    | .ok amounts => return .inr (← extractVendorFields env form, amounts)

/-- The row of a form; the confirmation of the roster stays as it is. -/
def vendorRow (fields : VendorFields) (amounts : Option Int × Option Int)
    (rosterLastConfirmedAt : Option DateTime) : VendorSystem where
  toVendorFields := fields
  billingAmountMinor := amounts.1
  costPerSeatMinor := amounts.2
  rosterLastConfirmedAt := rosterLastConfirmedAt

/-- How both routes go on after the form has been read: the row is written under `id`. -/
def finish (db : Database) (id : Id) (rosterLastConfirmedAt : Option DateTime) (message : String)
    (read : Except PyError (Flash ⊕ VendorFields × Option Int × Option Int)) :
    Database × Except PyError Flash :=
  match read with
  | .error e => (db, .error e)
  | .ok (.inl flash) => (db, .ok flash)
  | .ok (.inr (fields, amounts)) =>
    let vendor := vendorRow fields amounts rosterLastConfirmedAt
    if env.accepts vendor then
      (db.insert id vendor, .ok ⟨"/vendors/" ++ toString id, message, "success"⟩)
    else (db, .error .databaseError)

/-- `create_vendor`, with the new id. -/
def createVendor (form : Form) (newId : Id) (db : Database) : Database × Except PyError Flash :=
  finish env db newId none "Vendor system added." (readForm env form "/vendors/new")

/-- `update_vendor`. -/
def updateVendor (vendorId : Id) (form : Form) (db : Database) :
    Database × Except PyError Flash :=
  match db[vendorId]? with
  | none => (db, .error (.httpException 404 "Vendor system not found"))
  | some vendor =>
    finish env db vendorId vendor.rosterLastConfirmedAt "Vendor system updated."
      (readForm env form ("/vendors/" ++ toString vendorId ++ "/edit"))

end MiniGrc.VendorSystems
