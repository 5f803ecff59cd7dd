import MiniGrc.App.Registers

/-!
# A register row from several sessions

The `PATCH` and bulk requests of `app/registers/router.py` on one row, each in a transaction
of its own that reads what is committed. A request reads the row and checks its updates of it,
flushes what it has assigned, and commits. The `UPDATE` has no condition on the version that
was read; it locks the row until its transaction ends. What a bulk request does to other rows,
and what the database makes of their constraints, only shows in where it rolls back.
-/

namespace MiniGrc.ConcurrentRegister

open Registers

variable {ι : Type} {clock : UpdateClock}

/-- What the flush of a request has done to the row. -/
inductive Flush
  | pending
  /-- no column differs from the row that was read -/
  | unchanged
  /-- the row that the `UPDATE` has left, which is not committed -/
  | written (row : Row)

/-- A request that has passed its checks. -/
structure Request where
  /-- its updates of the row: the one of a `PATCH`, or those of a bulk request -/
  updates : List Update
  /-- the row that it has read, which its session keeps -/
  loaded : Row
  /-- how many updates of the row were committed when it was read -/
  seen : Nat
  flush : Flush := .pending

/-- A request that was accepted. -/
structure Accepted where
  updates : List Update
  changed : Bool
  /-- `updated_at` of the row right before the commit -/
  before : Time

/-- The committed row and the number of its committed updates, the readings of the clock, the
    session that has locked the row, the open requests, and the accepted ones in the order in
    which they were committed. -/
structure State (clock : UpdateClock) (ι : Type) where
  row : Row
  version : Nat
  ticks : Nat
  lock : Option ι
  request : ι → Option Request
  accepted : List Accepted

/-- No request has been made of a row. -/
def State.initial (row : Row) (ticks : Nat) : State clock ι where
  row := row
  version := 0
  ticks := ticks
  lock := none
  request _ := none
  accepted := []

/-- The steps of the system. -/
inductive Label (ι : Type)
  /-- session `i` reads the row and checks the updates of a request -/
  | read (i : ι) (role : String) (updates : List Update)
  /-- session `i` flushes -/
  | flush (i : ι)
  /-- session `i` commits -/
  | commit (i : ι)
  /-- session `i` rolls back: another row was refused, or an exception was raised -/
  | rollback (i : ι)

section Steps

variable [DecidableEq ι] (config : RegisterConfig) (model : Model) (id : Id)

/-- Session `i` has the request `r`. -/
def State.setRequest (s : State clock ι) (i : ι) (r : Option Request) : State clock ι :=
  { s with request := Function.update s.request i r }

/-- The checks of a request, on the row that it has read. -/
def checkRequest (row : Row) (role : String) (updates : List Update) : Except Refusal Unit := do
  checkPermission config .edit role
  updates.forM (checkRow config row)

/-- The values that an `UPDATE` leaves: it sets the columns in which the assigned fields differ
    from the row that was read, and leaves the others as they are. -/
def writtenValues (loaded current : Row) (fields : JsonDict) (column : String) : Json :=
  ((model.change loaded fields column).bind (model.bind column)).getD (current.values column)

/-- The database takes the columns of the `UPDATE`. -/
def Takes (loaded current : Row) (fields : JsonDict) : Prop :=
  (∀ column ∈ model.changed loaded fields,
    ((model.change loaded fields column).bind (model.bind column)).isSome) ∧
  model.admits (writtenValues model loaded current fields)

instance (loaded current : Row) (fields : JsonDict) :
    Decidable (Takes model loaded current fields) :=
  inferInstanceAs (Decidable (_ ∧ _))

/-- One step of the system. -/
def step (s : State clock ι) : Label ι → Option (State clock ι)
  | .read i role updates =>
    let own := updates.filter fun update => update.id = id
    match s.request i with
    | some _ => none
    | none =>
      if own = [] then none
      else match checkRequest config s.row role own with
        | .error _ => some s
        | .ok () =>
          some (s.setRequest i (some { updates := own, loaded := s.row, seen := s.version }))
  | .flush i =>
    match s.request i with
    | none => none
    | some r =>
      match r.flush with
      | .unchanged | .written _ => none
      | .pending =>
        let fields := assigned r.updates id
        if model.changed r.loaded fields = [] then
          some (s.setRequest i (some { r with flush := .unchanged }))
        -- the statement waits for the transaction that has locked the row
        else if s.lock.isSome then none
        else if Takes model r.loaded s.row fields then
          let row : Row :=
            { values := writtenValues model r.loaded s.row fields
              updatedAt := clock.reading s.ticks }
          some {
            s.setRequest i (some { r with flush := .written row }) with
            ticks := s.ticks + 1
            lock := some i }
        else some (s.setRequest i none)
  | .commit i =>
    match s.request i with
    | none => none
    | some r =>
      match r.flush with
      | .pending => none
      | .unchanged => some {
          s.setRequest i none with
          accepted := s.accepted ++ [⟨r.updates, false, s.row.updatedAt⟩] }
      | .written row => some {
          s.setRequest i none with
          row := row
          version := s.version + 1
          lock := none
          accepted := s.accepted ++ [⟨r.updates, true, s.row.updatedAt⟩] }
  | .rollback i =>
    match s.request i with
    | none => none
    | some r => some {
        s.setRequest i none with
        lock := match r.flush with
          | .written _ => none
          | .pending | .unchanged => s.lock }

end Steps

end MiniGrc.ConcurrentRegister
