import MiniGrc.App.ComplianceScope
import MiniGrc.App.ConcurrentAppend

/-!
# The compliance scope from several sessions

`define_or_revise_scope` of `app/compliance_scope.py`, each call in a transaction of its own.
A call checks its arguments, reads the scope and calls `append_and_project`, which runs
statement by statement as in `ConcurrentAppend`. Its projector works on the row that the
call has read, which the session keeps until the transaction ends, and the commit writes the
columns whose value has changed. An exception rolls the transaction back.
-/

namespace MiniGrc.ConcurrentScope

open Events ComplianceScopes

variable {ι : Type}

/-- The transaction of a call: what `get_compliance_scope` has returned, and the row that the
    projector has left. -/
structure Transaction where
  existing : Option (Id × ComplianceScope)
  projected : Option (Id × ComplianceScope) := none

/-- The event store, the committed rows, the open transactions and the latest clock reading. -/
structure State (ι : Type) where
  store : Store ι Id Body String
  rows : Table ComplianceScope
  transaction : ι → Option Transaction
  time : Time

/-- The steps of the system. -/
inductive Label (ι : Type)
  /-- session `i` calls `define_or_revise_scope`, up to `append_and_project`; `newId` is the
      result of `new_id()` -/
  | call (i : ι) (newId : Id) (fields : Fields) (actor : Actor)
  /-- session `i`'s call reads the clock -/
  | clock (i : ι) (now : Time)
  /-- session `i`'s call executes its next statement -/
  | statement (i : ι)
  /-- session `i` commits -/
  | commit (i : ι)
  /-- session `i` rolls back, or dies, at any point -/
  | rollback (i : ι)

/-- Nothing has happened yet. -/
def State.initial : State ι where
  store := Store.quiescent []
  rows := ∅
  transaction _ := none
  time := 0

/-! ## A call -/

/-- The payload of a call that passes the checks. -/
def payloadOf (fields : Fields) : Except PyError Payload :=
  (validatePeriod fields.auditPeriodStartsOn fields.auditPeriodEndsOn).bind fun _ =>
    (normalizeCategories fields.trustServiceCategories).map fun categories =>
      { fields with trustServiceCategories := categories }

/-- `get_compliance_scope`: `LIMIT 1`, here in key order. -/
def getScope (rows : Table ComplianceScope) : Option (Id × ComplianceScope) := rows.toList.head?

/-- What a call passes to `append_and_project`. -/
def appendArgs (existing : Option (Id × ComplianceScope)) (newId : Id) (payload : Payload)
    (actor : Actor) : AppendArgs Id Body String :=
  match existing with
  | some (id, _) =>
    { aggregate := id, body := .revised payload,
      actorType := actor.actorType, actorId := actor.actorId }
  | none =>
    { aggregate := newId, body := .defined payload,
      actorType := actor.actorType, actorId := actor.actorId }

/-! ## Its projector and its commit -/

/-- `COMPLIANCE_SCOPE_PROJECTORS` in a transaction: `session.get` finds the row that the call
    has read, and other rows in the database. -/
def Transaction.project (t : Transaction) (rows : Table ComplianceScope) (event : Event) :
    Except PyError Transaction :=
  let scope := match t.existing with
    | some (id, scope) => if id = event.aggregate then some scope else rows[event.aggregate]?
    | none => rows[event.aggregate]?
  (row scope event).map fun scope => { t with projected := some (event.aggregate, scope) }

/-- The value of a column after an `UPDATE`, which only sets columns that have changed. -/
def written {γ : Type} [DecidableEq γ] (old new current : γ) : γ :=
  if new = old then current else new

/-- The row after the `UPDATE` of a row read as `old` and left as `new`. -/
def writeRow (old new current : ComplianceScope) : ComplianceScope where
  serviceDescription :=
    written old.serviceDescription new.serviceDescription current.serviceDescription
  trustServiceCategories :=
    written old.trustServiceCategories new.trustServiceCategories current.trustServiceCategories
  auditPeriodStartsOn :=
    written old.auditPeriodStartsOn new.auditPeriodStartsOn current.auditPeriodStartsOn
  auditPeriodEndsOn := written old.auditPeriodEndsOn new.auditPeriodEndsOn current.auditPeriodEndsOn
  dataCategories := written old.dataCategories new.dataCategories current.dataCategories
  locations := written old.locations new.locations current.locations
  exclusions := written old.exclusions new.exclusions current.exclusions
  exclusionsRationale :=
    written old.exclusionsRationale new.exclusionsRationale current.exclusionsRationale
  revision := written old.revision new.revision current.revision
  createdAt := written old.createdAt new.createdAt current.createdAt
  updatedAt := written old.updatedAt new.updatedAt current.updatedAt

/-- The rows after a commit. -/
def Transaction.write (t : Transaction) (rows : Table ComplianceScope) : Table ComplianceScope :=
  match t.existing, t.projected with
  | _, none => rows
  | none, some (id, scope) => rows.insert id scope
  | some (id, old), some (_, new) => rows.alter id (Option.map (writeRow old new))

/-! ## The steps -/

variable [DecidableEq ι]

/-- Session `i` has the transaction `t`. -/
def State.setTransaction (s : State ι) (i : ι) (t : Option Transaction) : State ι :=
  { s with transaction := Function.update s.transaction i t }

variable [Fintype ι]

/-- One step of the system. A call whose checks fail raises before its first statement, which
    is no step; the clock does not go back. -/
def step (s : State ι) : Label ι → Option (State ι)
  | .call i newId fields actor =>
    match s.transaction i, payloadOf fields with
    | none, .ok payload =>
      let existing := getScope s.rows
      (Events.step s.store (.call i { appendArgs existing newId payload actor with })).map
        fun store => { s.setTransaction i (some { existing }) with store := store }
    | _, _ => none
  | .clock i now =>
    if s.time ≤ now then
      (Events.step s.store (.clock i now)).map fun store => { s with store := store, time := now }
    else none
  | .statement i =>
    match s.transaction i, (s.store.session i).call with
    | some t, some (.running _ (.project event)) =>
      match t.project s.rows event with
      | .ok t =>
        (Events.step s.store (.statement i)).map fun store =>
          { s.setTransaction i (some t) with store := store }
      | .error _ =>
        (Events.step s.store (.rollback i)).map fun store =>
          { s.setTransaction i none with store := store }
    | _, _ => (Events.step s.store (.statement i)).map fun store => { s with store := store }
  | .commit i =>
    match s.transaction i, (s.store.session i).call with
    | some t, some (.returned ..) =>
      (Events.step s.store (.commit i)).map fun store =>
        { s.setTransaction i none with store := store, rows := t.write s.rows }
    | _, _ => none
  | .rollback i =>
    (Events.step s.store (.rollback i)).map fun store =>
      { s.setTransaction i none with store := store }

end MiniGrc.ConcurrentScope
