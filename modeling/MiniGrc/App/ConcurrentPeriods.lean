import MiniGrc.ForStd.Transactions
import MiniGrc.App.ControlOccurrences

/-!
# Control periods under concurrent requests

The requests of `app/routers/control_periods.py` and `app/routers/controls.py` that change the
status of a period or add occurrences, each in a read-committed transaction of its own. A
session keeps the period that it has loaded: its status is read once.

What a request writes is written when it commits. A status goes to the database with the flush
of the commit; the events and rows of `append_and_project` are there before, but nobody sees
them, and whoever would insert the same waits for the commit, so that it does not matter when.
A change that violates a constraint is rolled back with its request.
-/

namespace MiniGrc.ConcurrentPeriods

open Events ControlOccurrences

/-- A row of `control_periods`; the key is its `id`. -/
structure PeriodRow where
  name : String
  startsOn : Date
  endsOn : Date
  status : ControlPeriodStatus := .planned
  closedAt : Option Time := none

/-- The row with its id, as `generate_occurrences` reads it. -/
def PeriodRow.period (row : PeriodRow) (id : Id) : ControlPeriod :=
  ⟨id, row.startsOn, row.endsOn, row.status⟩

/-- What is committed. -/
structure Tables where
  periods : Table PeriodRow
  /-- each under its `id` -/
  controls : Table InternalControl
  effectiveVersions : Id → Option Id
  occurrences : OccurrenceSession
  /-- the rows that foreign keys may refer to -/
  present : TableName → Id → Bool

/-! ## Changes -/

/-- An occurrence to be added. -/
inductive NewOccurrence
  | generated (control : InternalControl) (interval : Nat) (version : Option Id)
      (dueDate : Date) (newId : Id) (actor : Actor)
  | manual (controlId : Id) (version : Option Id) (dueAt : Option DateTime) (scopeNote : String)
      (newId : Id) (actor : Actor)

/-- Its `append_and_project`. -/
def NewOccurrence.append (P : Projection (Table ControlOccurrence) Body) (clock : Clock)
    (periodId : Option Id) (s : OccurrenceSession) : NewOccurrence → Outcome OccurrenceSession
  | .generated control interval version dueDate newId actor =>
    materialize P clock s control interval periodId version actor dueDate newId
  | .manual controlId version dueAt scopeNote newId actor =>
    recordOccurrenceManually P clock s newId controlId periodId dueAt scopeNote version actor

/-- The appends of a request, one after the other. -/
def appendAll (P : Projection (Table ControlOccurrence) Body) (clock : Clock)
    (periodId : Option Id) : List NewOccurrence → OccurrenceSession → Outcome OccurrenceSession
  | [], s => .returned s
  | occurrence :: rest, s =>
    (occurrence.append P clock periodId s).andThen (appendAll P clock periodId rest)

/-- What a request commits. -/
inductive Change
  | none
  | activate (periodId : Id)
  | close (periodId : Id) (now : Time)
  /-- occurrences of one period, or of none -/
  | add (periodId : Option Id) (occurrences : List NewOccurrence)

/-- An `UPDATE` of a period. -/
def Tables.updatePeriod (t : Tables) (periodId : Id) (f : PeriodRow → PeriodRow) : Tables :=
  { t with periods := t.periods.alter periodId (Option.map f) }

/-- A change in the database. -/
def Change.apply (clock : Clock) : Change → Tables → Except PyError Tables
  | .none, t => .ok t
  | .activate periodId, t => .ok (t.updatePeriod periodId fun row => { row with
      status := .active })
  | .close periodId now, t => .ok (t.updatePeriod periodId fun row => { row with
      status := .closed, closedAt := some now })
  | .add periodId occurrences, t =>
    match appendAll ((aggregateType clock.flushed).projection t.present true) clock periodId
      occurrences t.occurrences with
    | .returned s => .ok { t with occurrences := s }
    | .raised _ e => .error e

/-! ## Requests -/

/-- How a request is answered. -/
inductive Answer
  | httpError (statusCode : Nat) (detail : String)
  | redirectWithFlash (url message kind : String)
  | raised (error : PyError)

/-- A request in its transaction. -/
abbrev PeriodTxn := Txn Tables Change Answer

/-- A request that ends without a change. -/
def answer (a : Answer) : PeriodTxn := .finish .none a

/-- `db.get(ControlPeriod, period_id)`, or a 404. -/
def getPeriod (periodId : Id) (next : PeriodRow → PeriodTxn) : PeriodTxn :=
  .query fun t =>
    match t.periods[periodId]? with
    | none => answer (.httpError 404 "Control period not found")
    | some row => next row

/-- `db.get(InternalControl, control_id)`, or a 404. -/
def getControl (controlId : Id) (next : InternalControl → PeriodTxn) : PeriodTxn :=
  .query fun t =>
    match t.controls[controlId]? with
    | none => answer (.httpError 404 "Control not found")
    | some control => next control

/-- `/control-periods/{id}`. -/
def periodUrl (periodId : Id) : String := "/control-periods/" ++ toString periodId

/-- `/controls/{id}`. -/
def controlUrl (controlId : Id) : String := "/controls/" ++ toString controlId

/-- `activate_control_period`. -/
def activate (periodId : Id) : PeriodTxn :=
  getPeriod periodId fun row =>
    if row.status ≠ .planned then
      answer (.redirectWithFlash (periodUrl periodId) "Only a planned period can be activated."
        "error")
    else
      .finish (.activate periodId)
        (.redirectWithFlash (periodUrl periodId) "Control period activated." "success")

/-- `close_control_period`. -/
def close (periodId : Id) (now : Time) : PeriodTxn :=
  getPeriod periodId fun row =>
    if row.status = .closed then
      answer (.redirectWithFlash (periodUrl periodId) "That period is already closed." "success")
    else
      .finish (.close periodId now)
        (.redirectWithFlash (periodUrl periodId) "Control period closed." "success")

/-- `generate_occurrences` with `horizon_months` 12: the occurrences to be added. The query of
    the last due date is made without a period only; `session.refresh` is one more query. -/
def generate (control : InternalControl) (period : Option ControlPeriod) (today : Date)
    (newIds : Nat → Id) (actor : Actor) (next : List NewOccurrence → PeriodTxn) : PeriodTxn :=
  match control.cadenceType, control.cadenceIntervalMonths with
  | some .calendar, some interval =>
    if hinterval : 0 < interval.toNat then
      if ∃ p ∈ period, p.status ≠ .active then
        answer (.raised
          (.valueError "Cannot generate occurrences for a control period that is not active"))
      else
        .query fun t =>
        match computeDueDates t.occurrences control.id interval.toNat hinterval period today 12 with
        | .error e => answer (.raised e)
        | .ok dueDates =>
          .query fun t =>
          next (dueDates.zipIdx.map fun x => .generated control interval.toNat
            (t.effectiveVersions control.id) x.1 (newIds x.2) actor)
    else next []
  | _, _ => next []

/-- The loop of `generate_period_occurrences` over the controls. -/
def generateEach (period : ControlPeriod) (today : Date) (newIds : Id → Nat → Id) (actor : Actor)
    (next : List NewOccurrence → PeriodTxn) : List InternalControl → List NewOccurrence → PeriodTxn
  | [], added => next added
  | control :: controls, added =>
    generate control (some period) today (newIds control.id) actor fun occurrences =>
      generateEach period today newIds actor next controls (added ++ occurrences)

/-- `Generated/confirmed .. occurrence(s) ..`. -/
def generatedMessage (total : Nat) (rest : String) : String :=
  "Generated/confirmed " ++ toString total ++ " occurrence(s)" ++ rest ++ "."

/-- `generate_period_occurrences`. -/
def generatePeriod (periodId : Id) (today : Date) (newIds : Id → Nat → Id) (actor : Actor) :
    PeriodTxn :=
  getPeriod periodId fun row =>
    if row.status ≠ .active then
      answer (.redirectWithFlash (periodUrl periodId)
        "Occurrences can only be generated for an active period." "error")
    else
      .query fun t =>
      let controls := (t.controls.toList.map Prod.snd).filter fun control =>
        control.cadenceType = some .calendar
      generateEach (row.period periodId) today newIds actor (fun occurrences =>
        .finish (.add (some periodId) occurrences)
          (.redirectWithFlash (periodUrl periodId) (generatedMessage occurrences.length
            (" across " ++ toString controls.length ++ " control(s)")) "success")) controls []

/-- `generate_control_occurrences`. -/
def generateControl (controlId : Id) (today : Date) (newIds : Nat → Id) (actor : Actor) :
    PeriodTxn :=
  getControl controlId fun control =>
    generate control none today newIds actor fun occurrences =>
      .finish (.add none occurrences)
        (.redirectWithFlash (controlUrl controlId) (generatedMessage occurrences.length "")
          "success")

/-- `create_control_occurrence` after the period has been checked: `due` is what `_parse_due_on`
    makes of the due date, if it does not raise. -/
def recordManually (controlId : Id) (periodId : Option Id) (due : Option (Option DateTime))
    (scopeNote : String) (newId : Id) (actor : Actor) : PeriodTxn :=
  match due with
  | none => answer (.redirectWithFlash (controlUrl controlId) "Due date must be a valid date."
      "error")
  | some dueAt =>
    .query fun t =>
    .finish (.add periodId [.manual controlId (t.effectiveVersions controlId) dueAt scopeNote
        newId actor])
      (.redirectWithFlash (controlUrl controlId) "Occurrence recorded." "success")

/-- `create_control_occurrence`. -/
def record (controlId : Id) (periodId : Option Id) (due : Option (Option DateTime))
    (scopeNote : String) (newId : Id) (actor : Actor) : PeriodTxn :=
  getControl controlId fun _ =>
    match periodId with
    | none => recordManually controlId none due scopeNote newId actor
    | some id =>
      getPeriod id fun row =>
        if row.status ≠ .active then
          answer (.redirectWithFlash (controlUrl controlId)
            "Occurrences can only be associated with an active control period." "error")
        else recordManually controlId (some id) due scopeNote newId actor

/-- The requests, with what the environment contributes. -/
inductive Request
  | activate (periodId : Id)
  | close (periodId : Id) (now : Time)
  | generatePeriod (periodId : Id) (today : Date) (newIds : Id → Nat → Id) (actor : Actor)
  | generateControl (controlId : Id) (today : Date) (newIds : Nat → Id) (actor : Actor)
  | record (controlId : Id) (periodId : Option Id) (due : Option (Option DateTime))
      (scopeNote : String) (newId : Id) (actor : Actor)

/-- The transaction of a request. -/
def Request.serve : Request → PeriodTxn
  | .activate periodId => ConcurrentPeriods.activate periodId
  | .close periodId now => ConcurrentPeriods.close periodId now
  | .generatePeriod periodId today newIds actor =>
    ConcurrentPeriods.generatePeriod periodId today newIds actor
  | .generateControl controlId today newIds actor =>
    ConcurrentPeriods.generateControl controlId today newIds actor
  | .record controlId periodId due scopeNote newId actor =>
    ConcurrentPeriods.record controlId periodId due scopeNote newId actor

/-- The application with its requests under way. -/
abbrev State (ι : Type) := Server ι Request Tables Change Answer

/-- One statement of a request, or a request that comes in. -/
def step {ι : Type} [DecidableEq ι] (clock : Clock) :
    State ι → Server.Label ι Request → Option (State ι) :=
  Server.step Request.serve (Change.apply clock)

end MiniGrc.ConcurrentPeriods
