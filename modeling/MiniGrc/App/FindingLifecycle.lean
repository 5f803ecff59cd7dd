import MiniGrc.App.ControlTests

/-!
# Findings

`app/finding_lifecycle.py` and the `Finding` table of `app/models.py`, with its remediation
updates and retests:

    open → remediating ⇄ retesting
      └────────┴────────────┴→ closed
-/

namespace MiniGrc.FindingLifecycle

open Events ControlTests

/-- `FINDING_STATUSES`. -/
inductive FindingStatus
  | opened
  | remediating
  | retesting
  | closed
  deriving DecidableEq, Repr

/-- `{status!r}`. -/
def FindingStatus.pyRepr : FindingStatus → String
  | .opened => "'open'"
  | .remediating => "'remediating'"
  | .retesting => "'retesting'"
  | .closed => "'closed'"

/-- `FINDING_SEVERITIES`. -/
inductive FindingSeverity
  | low
  | medium
  | high
  | critical
  deriving DecidableEq, Repr

/-- The severity that a caller's string names. -/
def FindingSeverity.parse (severity : String) : Option FindingSeverity :=
  if severity = "low" then some .low
  else if severity = "medium" then some .medium
  else if severity = "high" then some .high
  else if severity = "critical" then some .critical
  else none

/-- `FINDING_CLOSURE_DECISIONS`. -/
inductive ClosureDecision
  | remediatedAndRetested
  | riskAccepted
  | falsePositive
  | other
  deriving DecidableEq, Repr

/-- The decision that a caller's string names. -/
def ClosureDecision.parse (decision : String) : Option ClosureDecision :=
  if decision = "remediated_and_retested" then some .remediatedAndRetested
  else if decision = "risk_accepted" then some .riskAccepted
  else if decision = "false_positive" then some .falsePositive
  else if decision = "other" then some .other
  else none

/-- The payload of `FindingOpened`. -/
structure Opened where
  title : String
  description : String
  severity : FindingSeverity
  controlId : Option Id
  sourceTestId : Option Id
  ownerPersonId : Option Id
  dueDate : Option Date
  deriving DecidableEq, Repr

/-- A row of `finding_remediation_updates`. -/
structure FindingRemediationUpdate where
  note : String
  actor : String
  linkedEvidenceArtifactVersionId : Option Id
  createdAt : Time
  deriving DecidableEq, Repr

/-- A row of `findings`, with its remediation updates and its retests; the key is its `id`. -/
structure Finding extends Opened where
  status : FindingStatus := .opened
  closureDecision : Option ClosureDecision := none
  closureNote : String := ""
  createdAt : Time
  updatedAt : Time
  /-- `finding_remediation_updates` -/
  remediationUpdates : List FindingRemediationUpdate := []
  /-- `finding_retests` -/
  retests : List Link := []
  deriving DecidableEq, Repr

/-- The tests of a finding's retests. -/
def Finding.retestTestIds (finding : Finding) : List Id := finding.retests.map Link.target

/-- The bodies of the events of the type `finding`, with their payloads. -/
inductive Body
  | opened (payload : Opened)
  | remediationUpdateRecorded (note : String) (linkedEvidenceArtifactVersionId : Option Id)
  | retestRequested
  | retestRecorded (testId : Id) (testResult : TestResult)
  | closed (decision : ClosureDecision) (note : String)
  deriving DecidableEq, Repr

/-- A row of `domain_events` of this type. -/
abbrev Event := DomainEvent Id Body String

/-! ## The projectors -/

/-- The row that `_project_opened` adds. -/
def projectOpened (event : Event) (payload : Opened) : Finding where
  toOpened := payload
  createdAt := event.recordedAt
  updatedAt := event.recordedAt

/-- `event.actor_id or event.actor_type`. -/
def actorOf (event : Event) : String :=
  match event.actorId with
  | some actorId => if actorId = "" then event.actorType else actorId
  | none => event.actorType

/-- `_project_remediation_update_recorded`. -/
def projectRemediationUpdateRecorded (event : Event) (note : String)
    (linkedEvidenceArtifactVersionId : Option Id) (finding : Finding) : Finding :=
  { finding with
    remediationUpdates := finding.remediationUpdates ++ [{
      note := note
      actor := actorOf event
      linkedEvidenceArtifactVersionId := linkedEvidenceArtifactVersionId
      createdAt := event.recordedAt }]
    status := if finding.status = .opened then .remediating else finding.status
    updatedAt := event.recordedAt }

/-- `_project_retest_requested`. -/
def projectRetestRequested (event : Event) (finding : Finding) : Finding :=
  { finding with status := .retesting, updatedAt := event.recordedAt }

/-- `_project_retest_recorded`. -/
def projectRetestRecorded (flushed : FlushTimes) (event : Event) (testId : Id)
    (testResult : TestResult) (finding : Finding) : Finding :=
  { finding with
    retests := finding.retests ++ [.addedBy flushed event testId]
    status := if testResult = .exceptionsNoted then .remediating else .retesting
    updatedAt := event.recordedAt }

/-- `_project_closed`. -/
def projectClosed (event : Event) (decision : ClosureDecision) (note : String)
    (finding : Finding) : Finding :=
  { finding with
    status := .closed
    closureDecision := some decision
    closureNote := note
    updatedAt := event.recordedAt }

/-- `FINDING_PROJECTORS`. -/
def row (flushed : FlushTimes) (finding : Option Finding) (event : Event) :
    Except PyError Finding :=
  match event.body, finding with
  | .opened payload, none => .ok (projectOpened event payload)
  | .opened _, some _ => .error .integrityError
  | .remediationUpdateRecorded note link, some finding =>
    .ok (projectRemediationUpdateRecorded event note link finding)
  | .retestRequested, some finding => .ok (projectRetestRequested event finding)
  | .retestRecorded testId testResult, some finding =>
    .ok (projectRetestRecorded flushed event testId testResult finding)
  | .closed decision note, some finding => .ok (projectClosed event decision note finding)
  | _, none => .error .attributeError

/-- The foreign keys of a finding, its remediation updates and its retests. -/
def foreignKeys (finding : Finding) : List (TableName × Id) :=
  finding.controlId.toList.map (.internalControls, ·) ++
    finding.sourceTestId.toList.map (.controlTests, ·) ++
    finding.ownerPersonId.toList.map (.people, ·) ++
    (finding.remediationUpdates.filterMap fun x => x.linkedEvidenceArtifactVersionId).map
      (.evidenceArtifactVersions, ·) ++
    finding.retestTestIds.map (.controlTests, ·)

/-- The aggregate type `finding`: no unique index. -/
def aggregateType (flushed : FlushTimes) : AggregateType Finding Body where
  row := row flushed
  foreignKeys := foreignKeys
  constraints := ⟨fun _ _ => false, fun _ => []⟩

/-! ## The commands -/

/-- A session on the findings. -/
abbrev FindingSession := Session (Table Finding) Body

variable (P : Projection (Table Finding) Body) (clock : Clock) (s : FindingSession) (id : Id)
  (actor : Actor)

/-- `append_and_project` for an event of the finding `id`. -/
def append (body : Body) : Outcome FindingSession :=
  appendAndProject P clock s
    { aggregate := id, body := body, actorType := actor.actorType, actorId := actor.actorId }

/-- Run a command that has checked the row of the finding, which the callers have loaded. -/
def checked (check : Finding → Except PyError Body) : Outcome FindingSession :=
  match s.rows[id]? with
  | none => .raised s .attributeError
  | some finding =>
    match check finding with
    | .error e => .raised s e
    | .ok body => append P clock s id actor body

/-- The arguments of `open_finding`. -/
structure Open where
  title : String
  description : String := ""
  severity : String
  controlId : Option Id := none
  sourceTestId : Option Id := none
  ownerPersonId : Option Id := none
  dueDate : Option Date := none

/-- The checks of `open_finding`. -/
def checkOpen (args : Open) : Except PyError Body :=
  match FindingSeverity.parse args.severity with
  | none => .error (.valueError
      ("severity must be one of ('low', 'medium', 'high', 'critical'), got " ++
        MiniGrc.pyRepr args.severity))
  | some severity =>
    if isBlank args.title then .error (.valueError "title is required")
    else .ok (.opened { args with severity := severity })

/-- The checks of `record_remediation_update`. -/
def checkRemediationUpdate (note : String) (linkedEvidenceArtifactVersionId : Option Id)
    (finding : Finding) : Except PyError Body :=
  if finding.status = .closed then
    .error (.valueError "Cannot record a remediation update on a closed finding")
  else if isBlank note then .error (.valueError "note is required")
  else .ok (.remediationUpdateRecorded note linkedEvidenceArtifactVersionId)

/-- The check of `request_retest`. -/
def checkRequestRetest (finding : Finding) : Except PyError Body :=
  if finding.status ≠ .remediating then
    .error (.valueError ("Cannot request a retest from status=" ++ finding.status.pyRepr ++
      " (must be 'remediating')"))
  else .ok .retestRequested

/-- The checks of `record_retest`. -/
def checkRecordRetest (testId : Id) (test : ControlTest) (finding : Finding) :
    Except PyError Body :=
  if finding.status ≠ .retesting then
    .error (.valueError ("Cannot record a retest from status=" ++ finding.status.pyRepr ++
      " (must be 'retesting')"))
  else if finding.sourceTestId ≠ none ∧ test.retestOfTestId ≠ finding.sourceTestId then
    .error (.valueError ("test.retest_of_test_id must reference this finding's source_test_id (" ++
      reprOptionalId finding.sourceTestId ++ "), got " ++ reprOptionalId test.retestOfTestId))
  else if finding.sourceTestId = none ∧ finding.controlId ≠ none ∧
      some test.controlId ≠ finding.controlId then
    .error (.valueError ("test.control_id (" ++ reprId test.controlId ++
      ") does not match this finding's control_id (" ++ reprOptionalId finding.controlId ++ ")"))
  else .ok (.retestRecorded testId test.result)

/-- The checks of `close_finding`. -/
def checkClose (decision note : String) (finding : Finding) : Except PyError Body :=
  if finding.status = .closed then .error (.valueError "Finding is already closed")
  else
    match ClosureDecision.parse decision with
    | none => .error (.valueError
        ("decision must be one of ('remediated_and_retested', 'risk_accepted', " ++
          "'false_positive', 'other'), got " ++ MiniGrc.pyRepr decision))
    | some decision => .ok (.closed decision note)

/-- `open_finding`, under the fresh `new_id()`. -/
def openFinding (args : Open) : Outcome FindingSession :=
  match checkOpen args with
  | .error e => .raised s e
  | .ok body => append P clock s id actor body

/-- `record_remediation_update`. -/
def recordRemediationUpdate (note : String) (linkedEvidenceArtifactVersionId : Option Id) :
    Outcome FindingSession :=
  checked P clock s id actor (checkRemediationUpdate note linkedEvidenceArtifactVersionId)

/-- `request_retest`. -/
def requestRetest : Outcome FindingSession := checked P clock s id actor checkRequestRetest

/-- `record_retest`, on the row of the test, which the callers have loaded. -/
def recordRetest (tests : Table ControlTest) (testId : Id) : Outcome FindingSession :=
  match tests[testId]? with
  | none => .raised s .attributeError
  | some test => checked P clock s id actor (checkRecordRetest testId test)

/-- `close_finding`. -/
def closeFinding (decision note : String) : Outcome FindingSession :=
  checked P clock s id actor (checkClose decision note)

/-- The commands on findings. -/
inductive Command
  | openFinding (id : Id) (args : Open) (actor : Actor)
  | recordRemediationUpdate (id : Id) (note : String)
      (linkedEvidenceArtifactVersionId : Option Id) (actor : Actor)
  | requestRetest (id : Id) (actor : Actor)
  | recordRetest (id testId : Id) (actor : Actor)
  | closeFinding (id : Id) (decision note : String) (actor : Actor)

/-- Run a command. -/
def Command.run (tests : Table ControlTest) : Command → Outcome FindingSession
  | .openFinding id args actor => FindingLifecycle.openFinding P clock s id actor args
  | .recordRemediationUpdate id note link actor =>
    FindingLifecycle.recordRemediationUpdate P clock s id actor note link
  | .requestRetest id actor => FindingLifecycle.requestRetest P clock s id actor
  | .recordRetest id testId actor => FindingLifecycle.recordRetest P clock s id actor tests testId
  | .closeFinding id decision note actor =>
    FindingLifecycle.closeFinding P clock s id actor decision note

end MiniGrc.FindingLifecycle
