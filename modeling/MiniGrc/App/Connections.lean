import MiniGrc.App.JobRuns

/-!
# Connection tests

`run_connection_test` and `_connection_test_job_handler` of `app/connections.py`. What the
test finds on the network is `probe`: it covers the whole `try` block, whose exceptions
become the result of the test.
-/

namespace MiniGrc.Connections

open Jobs JobRuns

variable {ρ : Type}

/-- `ConnectionTestResult`. -/
structure ConnectionTestResult where
  status : String
  message : String
  deriving DecidableEq, Repr

/-- The result of a test, given the type of the exception that it has met. -/
def resultOf : Option String → ConnectionTestResult
  | none => ⟨"success", "Connection succeeded."⟩
  | some exceptionType => ⟨"failure", s!"{exceptionType}: connection failed"⟩

/-- The audit event of a test. -/
def testEvent (id : Id) (conn : ExternalConnection) (result : ConnectionTestResult)
    (actor : String) : AuditEvent where
  entityType := "external_connection"
  entityId := id
  action := "test"
  detail := s!"Connection test for {Char.ofNat 39}{conn.name}{Char.ofNat 39}: " ++
    s!"{result.status} — {result.message}"
  actor := actor

/-- `run_connection_test`. -/
def runConnectionTest (probe : ExternalConnection → Option String) (now : Time) (s : Session ρ)
    (id : Id) (conn : ExternalConnection) (actor : String) : Session ρ × ConnectionTestResult :=
  let result := resultOf (probe conn)
  let tested := { conn with
    lastTestedAt := some now, lastTestStatus := result.status, lastTestMessage := result.message }
  ((s.setConnection id tested).audit (testEvent id conn result actor), result)

/-- `payload.get("actor", "worker")`. -/
def actorOf (payload : JsonObject) : String :=
  ((payload.lookup "actor").map JsonValue.str).getD "worker"

/-- `session.get(ExternalConnection, value)`, with the id that the value then is. -/
def connectionOf (s : Session ρ) : JsonValue → Option (Id × ExternalConnection)
  | .id connectionId => s.current.connections[connectionId]?.map (connectionId, ·)
  | _ => none

/-- `_connection_test_job_handler`. -/
def connectionTestJobHandler (probe : ExternalConnection → Option String) (now : Time) :
    JobHandler ρ := fun s payload =>
  match payload.lookup "connection_id" with
  | none => (s, .error (keyError "connection_id"))
  | some value =>
    match connectionOf s value with
    | none => (s, .error (.exception ("connection " ++ value.str ++ " not found")))
    | some (connectionId, conn) =>
      let (s, result) := runConnectionTest probe now s connectionId conn (actorOf payload)
      (s, .ok [("status", .text result.status), ("message", .text result.message)])

end MiniGrc.Connections
