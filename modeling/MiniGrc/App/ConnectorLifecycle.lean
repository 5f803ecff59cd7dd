import MiniGrc.ForStd.Table
import MiniGrc.App.ConnectorResults

/-!
# Runs of connectors

`app/connectors/ingestion.py` and `run_connector_instance` of `app/connector_lifecycle.py`,
each call in a transaction of its own, which the caller commits when the call returns and
rolls back when it raises. A session holds its changes back until it flushes
(`autoflush=False`), so an ingestion reads the committed rows; new rows are known to the
database only from the flush that also writes the execution.
-/

namespace MiniGrc.Connectors

/-! ## The tables -/

/-- A row of `evidence_snapshots`; the key is its `id`. -/
structure EvidenceSnapshot where
  sourceType : String
  sourceConnectionId : Option String
  checkKey : String
  status : String
  title : String
  summary : String
  collectedAt : Time
  collectorVersion : String
  normalizedPayloadJson : String
  rawPayloadSha256 : String

/-- A row of `people`; the key is its `id`. The columns that a connector's values go into as
    they are hold these values. -/
structure Person where
  email : String
  displayName : Json
  employmentStatus : String
  source : String
  externalId : Json
  lastSyncedAt : Option Time

/-- The tables that ingestions write. -/
structure Facts where
  snapshots : Table EvidenceSnapshot
  people : Table Person

/-- `CONNECTOR_EXECUTION_STATUSES`. -/
inductive ExecutionStatus
  | success
  | failure
  | error
  deriving DecidableEq, Repr

/-- `CONNECTOR_EXECUTION_TRIGGERS`. -/
def executionTriggers : List String := ["manual", "system"]

/-- A row of `connector_executions`; the key is its `id`. -/
structure ConnectorExecution where
  connectorInstanceId : Id
  idempotencyKey : String
  status : ExecutionStatus
  resultSummary : String := ""
  errorSummary : String := ""
  triggeredBy : String
  actorId : Option String
  startedAt : Time
  finishedAt : Time
  deriving DecidableEq, Repr

/-- The columns of a row of `connector_instances` that a run reads or writes. -/
structure ConnectorInstance where
  displayName : String
  enabled : Bool
  configJson : JsonDict
  secretRefJson : List (String × Id)
  lastSuccessAt : Option Time := none
  lastFailureAt : Option Time := none
  lastErrorSummary : String := ""

/-- A row of `secrets`, by its kind. -/
inductive Secret
  | encrypted (ciphertext : String)
  | envRef (envVarName : String)

/-- The tables that a run reads or writes. -/
structure Database where
  facts : Facts
  executions : Table ConnectorExecution
  instances : Table ConnectorInstance
  secrets : Table Secret

/-! ## Ingestion -/

/-- What a session holds back: changed rows of `people`, and new rows with the ids drawn for
    them. -/
structure Pending where
  people : Table Person
  newPeople : List (Id × Person)
  newSnapshots : List (Id × EvidenceSnapshot)

/-- Nothing is held back: the state at the start, and after `session.rollback()`. -/
def Facts.pending (facts : Facts) : Pending := ⟨facts.people, [], []⟩

/-- `select(Person).where(Person.email == email)`; the rows that are only held back are not
    found. -/
def Pending.personByEmail (pending : Pending) (email : String) : Option (Id × Person) :=
  pending.people.toList.find? fun x => x.2.email = email

/-- What a loop over users has done so far: what the session holds back, `created` and
    `updated`. -/
structure Counted where
  pending : Pending
  created : Nat := 0
  updated : Nat := 0

/-- Insert a row; a primary key or a unique column that is taken is refused. -/
def insertRow {ρ : Type} (conflict : ρ → ρ → Bool) (rows : Table ρ) (x : Id × ρ) :
    Option (Table ρ) :=
  if x.1 ∈ rows ∨ rows.toList.any fun y => conflict x.2 y.2 then none
  else some (rows.insert x.1 x.2)

/-- Write what is held back. -/
def Pending.write (pending : Pending) (facts : Facts) : Option Facts :=
  match pending.newSnapshots.foldlM (insertRow fun _ _ => false) facts.snapshots,
    pending.newPeople.foldlM (insertRow fun p q => p.email == q.email) pending.people with
  | some snapshots, some people => some ⟨snapshots, people⟩
  | _, _ => none

variable (platform : Platform)

/-- `ingest_configuration_snapshot`. -/
def ingestConfigurationSnapshot (result : ConnectorResult) (manifest : ConnectorManifest)
    (newId : Nat → Id) (pending : Pending) : Ended Pending :=
  match validateResult platform result manifest with
  | .error exc => .raised pending exc
  | .ok () =>
    let canonicalJson := platform.dumps result.normalizedPayload
    let snapshot : EvidenceSnapshot :=
      { sourceType := manifest.connectorId
        sourceConnectionId := result.provenance.sourceConnectionId
        checkKey := result.checkKey
        status := result.status
        title := result.title
        summary := truncated result.summary
        collectedAt := result.provenance.collectedAt
        collectorVersion := result.provenance.collectorVersion
        normalizedPayloadJson := canonicalJson
        rawPayloadSha256 := platform.sha256 canonicalJson }
    .returned { pending with newSnapshots := pending.newSnapshots ++ [(newId 0, snapshot)] }

/-- The values that `for user in users` runs over. -/
def iterate : Json → Except PyException (List Json)
  | .list items => .ok items
  | .dict fields => .ok (fields.map fun field => .str field.1)
  | .str value => .ok (value.toList.map fun c => .str (.ofList [c]))
  | value => .error (.exception ("'" ++ value.typeName ++ "' object is not iterable"))

/-- `user["email"].strip().lower()`, with the mapping that `user` then is. -/
def normalizedEmail (user : Json) : Except PyException (JsonDict × String) :=
  match user with
  | .dict fields =>
    match JsonDict.get? fields "email" with
    | none => .error (.exception "'email'")
    | some (.str email) => .ok (fields, platform.lower (stripText email))
    | some value =>
      .error (.exception ("'" ++ value.typeName ++ "' object has no attribute 'strip'"))
  | .str _ => .error (.exception "string indices must be integers, not 'str'")
  | .list _ => .error (.exception "list indices must be integers or slices, not str")
  | value => .error (.exception ("'" ++ value.typeName ++ "' object is not subscriptable"))

/-- The body of the loop of `ingest_identity_population`, for a user with an address. -/
def upsertPerson (result : ConnectorResult) (manifest : ConnectorManifest) (newId : Nat → Id)
    (user : JsonDict) (email : String) (c : Counted) : Counted :=
  let status := if ((user.get? "suspended").getD .null).truthy then "suspended" else "active"
  match c.pending.personByEmail email with
  | none =>
    let person : Person :=
      { email := email
        displayName := (user.get? "display_name").getD (.str "")
        employmentStatus := status
        source := manifest.connectorId
        externalId := (user.get? "external_id").getD .null
        lastSyncedAt := some result.provenance.collectedAt }
    { c with
      pending :=
        { c.pending with
          newPeople := c.pending.newPeople ++ [(newId c.pending.newPeople.length, person)] }
      created := c.created + 1 }
  | some (id, person) =>
    let displayName := (user.get? "display_name").getD .null
    let person :=
      { person with
        displayName := if displayName.truthy then displayName else person.displayName
        employmentStatus := status
        source := manifest.connectorId
        externalId := (user.get? "external_id").getD .null
        lastSyncedAt := some result.provenance.collectedAt }
    { c with
      pending := { c.pending with people := c.pending.people.insert id person }
      updated := c.updated + 1 }

/-- The loop of `ingest_identity_population`. -/
def upsertPeople (result : ConnectorResult) (manifest : ConnectorManifest) (newId : Nat → Id) :
    List Json → Counted → Ended Counted
  | [], c => .returned c
  | user :: users, c =>
    match normalizedEmail platform user with
    | .error exc => .raised c exc
    | .ok (fields, email) =>
      if email = "" then upsertPeople result manifest newId users c
      else
        upsertPeople result manifest newId users
          (upsertPerson result manifest newId fields email c)

/-- `ingest_identity_population`, with the counts that it returns. -/
def ingestIdentityPopulation (result : ConnectorResult) (manifest : ConnectorManifest)
    (newId : Nat → Id) (pending : Pending) : Ended Counted :=
  match validateResult platform result manifest with
  | .error exc => .raised { pending := pending } exc
  | .ok () =>
    match iterate ((result.normalizedPayload.get? "users").getD (.list [])) with
    | .error exc => .raised { pending := pending } exc
    | .ok users => upsertPeople platform result manifest newId users { pending := pending }

/-- `_INGESTION_DISPATCH`. -/
def ingestionDispatch (capability : String) : Option (ConnectorResult → ConnectorManifest →
    (Nat → Id) → Pending → Ended Pending) :=
  if capability ∈ ["configuration.snapshot", "evidence.collect"] then
    some (ingestConfigurationSnapshot platform)
  -- a run has no use for the counts
  else if capability = "identity.population" then
    some fun result manifest newId pending =>
      (ingestIdentityPopulation platform result manifest newId pending).map Counted.pending
  else none

/-- What is done with a result: it is validated and goes to the ingestion function of its
    capability. -/
def ingest (result : ConnectorResult) (manifest : ConnectorManifest) (newId : Nat → Id)
    (pending : Pending) : Ended Pending :=
  match validateResult platform result manifest with
  | .error exc => .raised pending exc
  | .ok () =>
    match ingestionDispatch platform result.capability with
    | none =>
      .raised pending (.lifecycleError
        ("no ingestion path registered for capability " ++ pyRepr result.capability))
    | some ingest => ingest result manifest newId pending

/-! ## A run -/

/-- `resolve_secret`, or `None` where it raises. -/
def resolveSecret (secret : Secret) (encryptionKey : String) : Json :=
  let value := match secret with
    | .encrypted ciphertext => platform.decrypt ciphertext encryptionKey
    | .envRef envVarName => platform.environ envVarName
  match value with
  | some plaintext => .str plaintext
  | none => .null

/-- `resolve_connector_config`. -/
def resolveConnectorConfig (secrets : Table Secret) (instance' : ConnectorInstance)
    (encryptionKey : String) : JsonDict :=
  instance'.secretRefJson.foldl (fun config (field : String × Id) =>
    match secrets[field.2]? with
    | none => config
    | some secret => config.set field.1 (resolveSecret platform secret encryptionKey))
    instance'.configJson

/-- A call of `run_connector_instance`, with what its environment supplies: the connector, the
    ids and the times that are drawn, and whether the database fails for a reason of its own in
    the flush or in the caller's commit. -/
structure Call where
  instanceId : Id
  manifest : ConnectorManifest
  connectorCallable : JsonDict → Except PyException ConnectorResult
  idempotencyKey : String
  encryptionKey : String
  triggeredBy : String := "manual"
  actorId : Option String := none
  executionId : Id
  newId : Nat → Id
  startedAt : Time
  finishedAt : Time
  flushFails : Bool := false
  commitFails : Bool := false

/-- The look-up of the execution for a key. -/
def findExecution (executions : Table ConnectorExecution) (instanceId : Id) (key : String) :
    Option (Id × ConnectorExecution) :=
  executions.toList.find? fun x =>
    x.2.connectorInstanceId = instanceId ∧ x.2.idempotencyKey = key

/-- The row of an execution. -/
def Call.execution (c : Call) (status : ExecutionStatus) (resultSummary errorSummary : String) :
    ConnectorExecution where
  connectorInstanceId := c.instanceId
  idempotencyKey := c.idempotencyKey
  status := status
  resultSummary := resultSummary
  errorSummary := errorSummary
  triggeredBy := c.triggeredBy
  actorId := c.actorId
  startedAt := c.startedAt
  finishedAt := c.finishedAt

/-- The flush that ends a run: the facts, the execution, the instance. -/
def flush (db : Database) (c : Call) (pending : Pending) (execution : ConnectorExecution)
    (instance' : ConnectorInstance) : Option Database :=
  if c.flushFails ∨ execution.triggeredBy ∉ executionTriggers then none
  else
    match pending.write db.facts,
      insertRow (fun e e' => e.connectorInstanceId == e'.connectorInstanceId &&
        e.idempotencyKey == e'.idempotencyKey) db.executions (c.executionId, execution) with
    | some facts, some executions =>
      some { db with
        facts := facts
        executions := executions
        instances := db.instances.insert c.instanceId instance' }
    | _, _ => none

/-- How a run ends. -/
inductive RunOutcome
  | returned (db : Database) (id : Id) (execution : ConnectorExecution)
  | raised (db : Database) (exc : PyException)

/-- The flush of an execution, and its return. -/
def finish (db : Database) (c : Call) (pending : Pending) (execution : ConnectorExecution)
    (instance' : ConnectorInstance) : RunOutcome :=
  match flush db c pending execution instance' with
  | some db => .returned db c.executionId execution
  | none => .raised db .databaseError

/-- The status of an execution that an exception has ended. -/
def PyException.status : PyException → ExecutionStatus
  | .lifecycleError _ | .contractError _ => .error
  | _ => .failure

/-- The `except` branch: the session is rolled back and holds the new execution only. What is
    no `Exception` is not caught. -/
def recordFailure (db : Database) (c : Call) (instance' : ConnectorInstance) (exc : PyException) :
    RunOutcome :=
  if exc = .baseException then .raised db exc
  else
    let execution := c.execution exc.status "" (truncated exc.message)
    finish db c db.facts.pending execution
      { instance' with
        lastFailureAt := some c.finishedAt
        lastErrorSummary := execution.errorSummary }

/-- `run_connector_instance`, and whether it has invoked the connector. -/
def runConnectorInstance (db : Database) (instance' : ConnectorInstance) (c : Call) :
    RunOutcome × Bool :=
  if ¬ instance'.enabled then
    (.raised db (.lifecycleError
      ("connector instance '" ++ instance'.displayName ++ "' is disabled")), false)
  else
    match findExecution db.executions c.instanceId c.idempotencyKey with
    | some existing => (.returned db existing.1 existing.2, false)
    | none =>
      let config := resolveConnectorConfig platform db.secrets instance' c.encryptionKey
      match c.connectorCallable config with
      | .error exc => (recordFailure db c instance' exc, true)
      | .ok result =>
        match ingest platform result c.manifest c.newId db.facts.pending with
        | .raised _ exc => (recordFailure db c instance' exc, true)
        | .returned pending =>
          let summary := truncated (result.capability ++ ": " ++ result.title)
          (finish db c pending (c.execution .success summary "")
            { instance' with lastSuccessAt := some c.finishedAt }, true)

/-! ## Sequences of calls -/

/-- The committed rows, and the invocations of connectors so far, by instance and key. -/
structure State where
  db : Database
  invocations : List (Id × String)

/-- What the application does. -/
inductive Action
  | call (c : Call)
  /-- `set_connector_instance_enabled` -/
  | setEnabled (instanceId : Id) (enabled : Bool)

/-- What the caller's commit or rollback leaves of a run. -/
def committed (db : Database) (c : Call) : RunOutcome → Database
  | .returned db' _ _ => if c.commitFails then db else db'
  | .raised _ _ => db

/-- A step of the application, on an instance that is there. -/
def step (s : State) : Action → Option State
  | .call c =>
    s.db.instances[c.instanceId]?.map fun instance' =>
      let (outcome, invoked) := runConnectorInstance platform s.db instance' c
      { db := committed s.db c outcome
        invocations :=
          if invoked then s.invocations ++ [(c.instanceId, c.idempotencyKey)]
          else s.invocations }
  | .setEnabled instanceId enabled =>
    s.db.instances[instanceId]?.map fun instance' =>
      { s with
        db :=
          { s.db with
            instances := s.db.instances.insert instanceId { instance' with enabled } } }

end MiniGrc.Connectors
