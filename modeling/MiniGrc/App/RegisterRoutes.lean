import MiniGrc.App.RegisterConfigs

/-!
# The routes of the registers

The routes of `app/registers/router.py` that write, for bodies of any shape, and what the
application computes with a stored interval. What FastAPI, SQLAlchemy and `json` make of unusual
values is an `Env`; the texts of the rows in the responses, and the audit events, are left out.
-/

namespace MiniGrc.Registers

/-! ## Bodies -/

/-- What the routes need of Python and of the libraries. -/
structure Env where
  /-- `_iso` -/
  iso : Time → String
  /-- `str(value)` -/
  str : Json → String
  /-- the row that `Session.get` looks up by a value, if there is one; `none` where it raises -/
  ident : Json → Option (Option Id)
  /-- the response of a route can carry the value -/
  rendersResult : Json → Bool
  /-- the `detail` of an error can carry the value -/
  rendersDetail : Json → Bool

/-- `iter(value)`, where it does not raise. -/
def iterate : Json → Option (List Json)
  | .list items => some items
  | .dict fields => some (fields.map fun field => .str field.1)
  | .str text => some (text.toList.map fun c => .str c.toString)
  | .null | .bool _ | .int _ | .float _ => none

/-- `value.items()`, which only an object has. -/
def itemsOf : Json → Except Refusal JsonDict
  | .dict fields => .ok fields
  | _ => .error .serverError

section Validation

variable (env : Env) (config : RegisterConfig)

/-- The first loop of `_validate`, for a key of any type. Equal numbers of different types are
    kept apart here. -/
def checkKey (errors : Errors) : Json → Except Refusal Errors
  | .list _ | .dict _ => .error .serverError
  | .str name =>
    if name ∈ config.editableNames then .ok errors
    else .ok (errors.add name "unknown or read-only field")
  | key =>
    -- the errors are answered, so the key has to be written
    if env.rendersDetail key then .ok (errors.add (env.str key) "unknown or read-only field")
    else .error .serverError

/-- `_validate`, for a payload of any type: only an object has `get`. -/
def validateJson (payload : Json) (isPartial : Bool) : Except Refusal Errors :=
  match payload with
  | .dict fields => .ok (validate config fields isPartial)
  | payload =>
    match iterate payload with
    | none => .error .serverError
    | some keys => do
      let errors ← keys.foldlM (checkKey env config) []
      if config.fields.any fun spec => !spec.readOnly then .error .serverError else .ok errors

/-- The response can carry `serialize(row)`, with what the session has assigned to the row. The
    read-only fields are texts, times and counts. -/
def shows (renders : Json → Bool) (row : Row) (assigned : JsonDict) : Bool :=
  config.fields.all fun spec =>
    spec.readOnly || renders ((assigned.get? spec.name).getD (row.values spec.name))

/-- `expected_updated_at` is that of the row. -/
def isExpected (row : Row) (body : JsonDict) : Bool :=
  match body.get? "expected_updated_at" with
  | some (.str text) => text = env.iso row.updatedAt
  | _ => false

/-- `payload.get("fields", {})`. -/
def fieldsOf? (body : JsonDict) : Json := (body.get? "fields").getD (.dict [])

/-- What `update_row` and `bulk_update` check of a row: its `fields`. -/
def checkBody (id : Id) (row : Row) (body : JsonDict) : Except Refusal Json :=
  if isExpected env row body then
    match validateJson env config (fieldsOf? body) true with
    | .ok [] => .ok (fieldsOf? body)
    | .ok errors => .error (.unprocessable errors)
    | .error e => .error e
  else if shows config env.rendersDetail row [] then .error (.conflict id)
  else .error .serverError

end Validation

/-! ## Routes -/

section Routes

variable {clock : UpdateClock} (env : Env) (config : RegisterConfig) (model : Model)
  (register : Register clock) (role : String)

/-- The answer after a flush that may raise `IntegrityError`, with the row of the response. -/
def answerWrite (shown : Bool) : Except DbError (Register clock) → Except Refusal (Register clock)
  | .ok written => if shown then .ok written else .error .serverError
  | .error .integrityError => .error (.unprocessable constraintViolation)
  | .error .dataError => .error .serverError

/-- The answer after a flush of which no exception is answered. -/
def answerFlush (shown : Bool) : Except DbError (Register clock) → Except Refusal (Register clock)
  | .ok written => if shown then .ok written else .error .serverError
  | .error _ => .error .serverError

/-- The columns that have a default in `app/models.py`. -/
def columnDefaults : String → JsonDict
  | "control" =>
    [("description", .str ""), ("owner", .str ""), ("status", .str "not_started"),
      ("review_frequency", .str "annual")]
  | "trust_center_section" =>
    [("visibility", .str "internal"), ("status", .str "draft"), ("display_order", .int 0),
      ("draft_body_markdown", .str "")]
  | _ => []

/-- The columns of a new row: a column that is given as `None` takes its default. -/
def insertedFields (payload : JsonDict) : JsonDict :=
  let given := (config.fields.filter fun spec => !spec.readOnly).filterMap fun spec =>
    match payload.get? spec.name with
    | none | some .null => none
    | some value => some (spec.name, value)
  given ++ (columnDefaults config.entityType).filter fun column =>
    given.all fun field => field.1 ≠ column.1

/-- The checks of `create_row`. -/
def checkCreate (payload : JsonDict) : Except Refusal Unit := do
  checkPermission config .create role
  match config.scopeField.filter fun scope => !((payload.get? scope).getD .null).truthy with
  | some scope => .error (.unprocessable [(scope, ["required"])])
  | none =>
    if validate config payload false = [] then .ok ()
    else .error (.unprocessable (validate config payload false))

/-- `create_row`, with the id that `new_id()` gives. -/
def createRoute (newId : Id) (payload : JsonDict) : Except Refusal (Register clock) := do
  checkCreate config role payload
  let fields := insertedFields config payload
  answerWrite (shows config env.rendersResult ⟨fun _ => .null, 0⟩ fields)
    (model.insert register newId fields)

/-- `update_row`. -/
def updateRoute (id : Id) (payload : JsonDict) : Except Refusal (Register clock) := do
  checkPermission config .edit role
  match register.rows[id]? with
  | none => .error (.notFound "Row not found")
  | some row =>
    let fields ← checkBody env config id row payload
    let assigned := setattrs [] (← itemsOf fields)
    answerWrite (shows config env.rendersResult row assigned) (model.write register id assigned)

/-- The body of the first loop of `bulk_update`: a planned update. -/
def checkItem (item : Json) : Except Refusal (Id × Json) :=
  match item with
  | .dict update =>
    let ident := (JsonDict.get? update "id").getD .null
    match env.ident ident with
    | none => .error .serverError
    | some named =>
      match named.bind fun id => (register.rows[id]?).map fun row => (id, row) with
      | none => .error (.notFound ("Row " ++ env.str ident ++ " not found"))
      | some (id, row) => do
        let fields ← checkBody env config id row update
        return (id, fields)
  | _ => .error .serverError

/-- What the second loop of `bulk_update` sets for a planned update. -/
def planUpdate (planned : Id × Json) : Except Refusal Update := do
  let fields ← itemsOf planned.2
  return { id := planned.1, expectedUpdatedAt := none, fields := fields }

/-- The response can carry the rows of the updates, with all that they have set. -/
def showsAll (updates : List Update) : Bool :=
  updates.all fun update =>
    (register.rows[update.id]?).all fun row =>
      shows config env.rendersResult row (assigned updates update.id)

/-- `bulk_update`. -/
def bulkRoute (payload : JsonDict) : Except Refusal (Register clock) := do
  checkPermission config .edit role
  match iterate ((payload.get? "updates").getD (.list [])) with
  | none => .error .serverError
  | some items =>
    let planned ← items.mapM (checkItem env config register)
    let updates ← planned.mapM planUpdate
    answerFlush (showsAll env config register updates)
      (model.writeAll register (flushOrder updates))

end Routes

/-! ## Requests -/

/-- A request that writes, with the body that it carries. -/
inductive Action
  /-- with the id that `new_id()` gives -/
  | create (newId : Id) (body : Json)
  | patch (id : Id) (body : Json)
  | bulk (body : Json)

/-- A request of a user of a role. -/
structure Request where
  role : String
  action : Action

/-- The error responses. -/
inductive Denial
  /-- a router without the route -/
  | methodNotAllowed
  /-- a body that is not an object, by FastAPI -/
  | invalidBody
  | route (refusal : Refusal)

/-- The status code. -/
def Denial.status : Denial → Nat
  | .methodNotAllowed => 405
  | .invalidBody => 422
  | .route refusal => refusal.status

section Requests

variable {clock : UpdateClock} (env : Env) (config : RegisterConfig) (model : Model)
  (register : Register clock)

/-- The parameter `payload: dict[str, Any]`: the error shows a body of another type. -/
def withPayload {α : Type} (body : Json) (route : JsonDict → Except Refusal α) :
    Except Denial α :=
  match body with
  | .dict payload => (route payload).mapError .route
  | body => if env.rendersDetail body then .error .invalidBody else .error (.route .serverError)

/-- The response to a request: the rows to be committed, or an error. -/
def respond (request : Request) : Except Denial (Register clock) :=
  match request.action with
  | .create newId body =>
    if config.creatable then
      withPayload env body (createRoute env config model register request.role newId)
    else .error .methodNotAllowed
  | .patch id body =>
    withPayload env body (updateRoute env config model register request.role id)
  | .bulk body =>
    if config.bulkEnabled then
      withPayload env body (bulkRoute env config model register request.role)
    else .error .methodNotAllowed

/-- The rows after a request: `get_db` rolls back what is not answered with success. -/
def afterRequest (request : Request) : Register clock :=
  match respond env config model register request with
  | .ok written => written
  | .error _ => register

end Requests

/-! ## Computations over rows -/

/-- The exceptions of a computation with an interval. -/
inductive IntervalError
  /-- a `TypeError` of the comparison with 0 -/
  | typeError (message : String)
  /-- what `calendar.monthrange` raises for a month that is no integer: an `IllegalMonthError` if
      it is not between 1 and 12, else the `TypeError` of `datetime.date` -/
  | monthrange
  deriving DecidableEq, Repr

/-- What `generate_occurrences` and `_add_months` make of a stored `cadence_interval_months`: the
    number of months, if there is something to generate. -/
def occurrenceInterval (stored : Json) : Except IntervalError (Option Int) :=
  if !stored.truthy then .ok none
  else match stored with
    | .bool _ => .ok (some 1)
    | .int months => .ok (if months ≤ 0 then none else some months)
    | .float text =>
      if text.startsWith "-" then .ok none
      -- `month_index % 12 + 1` is no integer, also for an integral or infinite `text`
      else .error .monthrange
    | stored =>
      -- `control.cadence_interval_months <= 0`
      .error (.typeError
        ("'<=' not supported between instances of '" ++ stored.typeName ++ "' and 'int'"))

end MiniGrc.Registers
