import Mathlib.Data.List.Dedup
import Mathlib.Data.List.Sort
import Mathlib.Order.Monotone.Basic
import MiniGrc.App.JsonValues
import MiniGrc.App.Projection

/-!
# Registers

`app/registers/config.py` and the routes of `app/registers/router.py` that update rows. What
the database does with an `UPDATE` is a `Model`: the types of its columns and its constraints.
The rows that the responses show, and the audit events, are left out.
-/

namespace MiniGrc.Registers

/-! ## Configurations -/

/-- `FieldType`. -/
inductive FieldType
  | text
  | number
  | date
  | bool
  | enum
  deriving DecidableEq, Repr

/-- `FieldSpec`, without the function that computes a read-only field. -/
structure FieldSpec where
  name : String
  type : FieldType
  required : Bool := false
  maxLength : Option Nat := none
  choices : Option (List String) := none
  readOnly : Bool := false

/-- `RegisterAction`. -/
inductive RegisterAction
  | list
  | create
  | edit
  | delete
  deriving DecidableEq, Repr

/-- `RegisterConfig`, without the functions. -/
structure RegisterConfig where
  name : String
  entityType : String
  fields : List FieldSpec
  requireAdminFor : List RegisterAction := []
  scopeField : Option String := none
  creatable : Bool := true
  deletable : Bool := true
  bulkEnabled : Bool := true

/-! ## Refusals -/

/-- Messages by field, in the order in which the fields were first found at fault. -/
abbrev Errors := List (String × List String)

/-- `errors.setdefault(key, []).append(message)`. -/
def Errors.add (errors : Errors) (key message : String) : Errors :=
  if errors.any fun entry => entry.1 = key then
    errors.map fun entry => if entry.1 = key then (key, entry.2 ++ [message]) else entry
  else errors ++ [(key, [message])]

/-- The responses that refuse a request. -/
inductive Refusal
  | forbidden (detail : String)
  | notFound (detail : String)
  /-- with the row, whose `updated_at` is another -/
  | conflict (id : Id)
  | unprocessable (errors : Errors)
  /-- an exception that no route handles -/
  | serverError
  deriving DecidableEq, Repr

/-- The status code. -/
def Refusal.status : Refusal → Nat
  | .forbidden _ => 403
  | .notFound _ => 404
  | .conflict _ => 409
  | .unprocessable _ => 422
  | .serverError => 500

/-! ## Checks -/

/-- The names that a payload may use. -/
def RegisterConfig.editableNames (config : RegisterConfig) : List String :=
  (config.fields.filter fun spec => !spec.readOnly).map FieldSpec.name ++ config.scopeField.toList

/-- What `_validate` notes for a field that the payload has. -/
def FieldSpec.check (spec : FieldSpec) (value : Json) (errors : Errors) : Errors :=
  let blank := match value with
    | .null => true
    | .str text => isBlank text
    | _ => false
  let errors := if spec.required && blank then errors.add spec.name "required" else errors
  let errors := match spec.maxLength, value with
    | some maxLength, .str text =>
      if maxLength < text.length then
        errors.add spec.name ("must be at most " ++ toString maxLength ++ " characters")
      else errors
    | _, _ => errors
  match spec.choices, value with
  | none, _ | some _, .null => errors
  | some choices, .str text =>
    if text ∈ choices then errors
    else errors.add spec.name ("must be one of " ++ ", ".intercalate choices)
  | some choices, _ => errors.add spec.name ("must be one of " ++ ", ".intercalate choices)

/-- `_validate`. -/
def validate (config : RegisterConfig) (payload : JsonDict) (isPartial : Bool) : Errors :=
  let errors := payload.foldl (fun (errors : Errors) field =>
    if field.1 ∈ config.editableNames then errors
    else errors.add field.1 "unknown or read-only field") ([] : Errors)
  config.fields.foldl (fun (errors : Errors) spec =>
    if spec.readOnly then errors
    else match payload.get? spec.name with
      | none => if !isPartial && spec.required then errors.add spec.name "required" else errors
      | some value => spec.check value errors) errors

/-- `WRITE_ROLES`. -/
def writeRoles : List String := ["admin", "operator"]

/-- `_check_permission`, for a write. -/
def checkPermission (config : RegisterConfig) (action : RegisterAction) (role : String) :
    Except Refusal Unit :=
  if action ∈ config.requireAdminFor ∧ role ≠ "admin" then
    .error (.forbidden "Admin privileges required")
  else if role ∉ writeRoles then .error (.forbidden "Write access required")
  else .ok ()

/-! ## Rows -/

/-- A row: the values of its columns, and its `updated_at`. -/
structure Row where
  values : String → Json
  updatedAt : Time

/-- A clock of which every reading is later than the last. -/
structure UpdateClock where
  reading : Nat → Time
  strictMono : StrictMono reading

/-- A table, and how often the clock has been read; it was read later than any row was
    updated. -/
structure Register (clock : UpdateClock) where
  rows : Table Row
  ticks : Nat
  past : ∀ (k : Id) row, rows[k]? = some row → row.updatedAt < clock.reading ticks

/-- Why the database refuses a statement. -/
inductive DbError
  | integrityError
  /-- a value that does not fit its column -/
  | dataError
  deriving DecidableEq, Repr

/-- What the session and the database make of the values of a table. -/
structure Model where
  /-- `==` of a column's values -/
  same : Json → Json → Bool
  /-- the value that a column stores for a value that is bound to it, if it accepts it -/
  bind : String → Json → Option Json
  /-- the `NOT NULL`, `CHECK` and foreign-key constraints -/
  admits : (String → Json) → Bool
  /-- two rows violate a unique constraint together -/
  conflict : (String → Json) → (String → Json) → Bool

namespace Model

variable (model : Model) {clock : UpdateClock}

/-- The value with which a column of a row differs from the row after `setattr`. -/
def change (row : Row) (assigned : JsonDict) (column : String) : Option Json :=
  (assigned.get? column).filter fun value => !model.same (row.values column) value

/-- The columns of an `UPDATE`. -/
def changed (row : Row) (assigned : JsonDict) : List String :=
  (assigned.map Prod.fst).filter fun column => (model.change row assigned column).isSome

/-- The values of a row after an `UPDATE`. -/
def updated (row : Row) (assigned : JsonDict) (column : String) : Json :=
  ((model.change row assigned column).bind (model.bind column)).getD (row.values column)

/-- The database accepts an `UPDATE` of a row. -/
def Accepts (rows : Table Row) (id : Id) (row : Row) (assigned : JsonDict) : Prop :=
  model.admits (model.updated row assigned) ∧
    ∀ x ∈ rows.toList, x.1 ≠ id → model.conflict x.2.values (model.updated row assigned) = false

instance (rows : Table Row) (id : Id) (row : Row) (assigned : JsonDict) :
    Decidable (model.Accepts rows id row assigned) :=
  inferInstanceAs (Decidable (_ ∧ _))

theorem past_insert {register : Register clock} {id : Id} {values : String → Json} :
    ∀ (k : Id) row,
      (register.rows.insert id ⟨values, clock.reading register.ticks⟩)[k]? = some row →
      row.updatedAt < clock.reading (register.ticks + 1) := by
  intro k row hrow
  rw [Table.get_insert] at hrow
  split at hrow
  · obtain rfl := Option.some.inj hrow
    exact clock.strictMono (Nat.lt_succ_self _)
  · exact (register.past k row hrow).trans (clock.strictMono (Nat.lt_succ_self _))

/-- The flush of a row: no statement if no column has changed; `onupdate=utcnow`. -/
def write (register : Register clock) (id : Id) (assigned : JsonDict) :
    Except DbError (Register clock) :=
  match register.rows[id]? with
  | none => .ok register
  | some row =>
    if model.changed row assigned = [] then .ok register
    else if ∃ column ∈ model.changed row assigned,
        ((model.change row assigned column).bind (model.bind column)).isNone then
      .error .dataError
    else if model.Accepts register.rows id row assigned then
      .ok {
        rows := register.rows.insert id
          ⟨model.updated row assigned, clock.reading register.ticks⟩
        ticks := register.ticks + 1
        past := past_insert }
    else .error .integrityError

/-- A flush of several rows, one after another. -/
def writeAll (register : Register clock) (writes : List (Id × JsonDict)) :
    Except DbError (Register clock) :=
  writes.foldlM (fun register w => model.write register w.1 w.2) register

/-- The value that a column of a new row stores. -/
def stored (fields : JsonDict) (column : String) : Option Json :=
  (fields.get? column).bind (model.bind column)

/-- An `INSERT` of the given columns; the others are `None`. -/
def insert (register : Register clock) (id : Id) (fields : JsonDict) :
    Except DbError (Register clock) :=
  let values column := (model.stored fields column).getD .null
  if (fields.map Prod.fst).any fun column => (model.stored fields column).isNone then
    .error .dataError
  else if id ∉ register.rows ∧ model.admits values ∧
      ∀ x ∈ register.rows.toList, model.conflict x.2.values values = false then
    .ok {
      rows := register.rows.insert id ⟨values, clock.reading register.ticks⟩
      ticks := register.ticks + 1
      past := past_insert }
  else .error .integrityError

end Model

/-! ## Requests -/

/-- The fields of one update: those of a `PATCH` and its row, or an element of `updates`.
    The text of `expected_updated_at` is the `_iso` of a time, or of none. -/
structure Update where
  id : Id
  expectedUpdatedAt : Option Time
  fields : JsonDict := []

section Requests

variable {clock : UpdateClock} (config : RegisterConfig) (model : Model)
  (register : Register clock) (role : String)

/-- The text of the response to a constraint violation. -/
def constraintViolation : Errors := [("__all__", ["duplicate or constraint violation"])]

/-- What `update_row` checks of its row, and `bulk_update` of the row of each update in turn. -/
def checkRow (row : Row) (update : Update) : Except Refusal Unit :=
  if update.expectedUpdatedAt ≠ some row.updatedAt then .error (.conflict update.id)
  else if validate config update.fields true ≠ [] then
    .error (.unprocessable (validate config update.fields true))
  else .ok ()

/-- The same with the look-up of the row, with the text for a missing one. -/
def checkUpdate (missing : String) (update : Update) : Except Refusal Unit :=
  match register.rows[update.id]? with
  | none => .error (.notFound missing)
  | some row => checkRow config row update

/-- `setattr(row, key, value)` for the fields in turn, over what has been set already. -/
def setattrs (assigned fields : JsonDict) : JsonDict :=
  fields.foldl (fun assigned field => assigned.set field.1 field.2) assigned

/-- `update_row`: an `IntegrityError` of the flush is answered, any other exception is not. -/
def updateRow (update : Update) : Except Refusal (Register clock) := do
  checkPermission config .edit role
  checkUpdate config register "Row not found" update
  match model.write register update.id (setattrs [] update.fields) with
  | .ok register => return register
  | .error .integrityError => throw (.unprocessable constraintViolation)
  | .error .dataError => throw .serverError

/-- What the updates of one row set, the later ones over the earlier ones. -/
def assigned (updates : List Update) (id : Id) : JsonDict :=
  ((updates.filter fun update => update.id = id).map Update.fields).foldl setattrs []

/-- The rows of a flush, in the order of their primary keys. -/
def flushOrder (updates : List Update) : List (Id × JsonDict) :=
  ((updates.map Update.id).dedup.insertionSort (· ≤ ·)).map fun id => (id, assigned updates id)

/-- `bulk_update`: no exception of the flush is answered. -/
def bulkUpdate (updates : List Update) : Except Refusal (Register clock) := do
  checkPermission config .edit role
  updates.forM fun update =>
    checkUpdate config register ("Row " ++ toString update.id ++ " not found") update
  match model.writeAll register (flushOrder updates) with
  | .ok register => return register
  | .error _ => throw .serverError

/-- `get_db`: the session of a request that is refused is rolled back. -/
def committed (answer : Except Refusal (Register clock)) : Register clock :=
  match answer with
  | .ok written => written
  | .error _ => register

/-- The updates as `PATCH` requests, one after another. -/
def updateRows (updates : List Update) : Except Refusal (Register clock) :=
  updates.foldlM (fun register update => updateRow config model register role update) register

end Requests

end MiniGrc.Registers
