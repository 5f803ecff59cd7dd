import MiniGrc.ForStd.GuardedMachine
import MiniGrc.App.ConcurrentAppend

/-!
# Lifecycle commands from several sessions

A lifecycle command loads the row of its aggregate, checks the row's status and calls
`append_and_project`, which runs statement by statement as in `ConcurrentAppend`. A
session keeps the rows that it has loaded until its transaction ends: neither the append
nor a retry reads the status again, and the projector works on the loaded row.

The lifecycle is any guarded machine: the guard of an event is what the command that
appends it checks, and the machine goes on as the projector does. Only the status of a row
is kept. A status that a projector has changed is written, and seen by other sessions, by
the commit; that a written row is locked until then is left out, since it only makes other
sessions wait.
-/

namespace MiniGrc.ConcurrentLifecycle

open Events

variable {ι α ε σ : Type}

/-- The event store, the committed statuses, and the rows of the open transactions. -/
structure State (ι α ε σ : Type) where
  store : Store ι α ε String
  status : α → σ
  /-- the statuses in the rows that a transaction has loaded -/
  loaded : ι → α → Option σ
  /-- the rows whose status a transaction has changed -/
  changed : ι → α → Bool

/-- The steps of the system. -/
inductive Label (ι α ε : Type)
  /-- session `i` loads the row of an aggregate -/
  | load (i : ι) (a : α)
  /-- session `i` checks the loaded status and calls `append_and_project` -/
  | command (i : ι) (args : AppendArgs α ε String)
  /-- session `i`'s call reads the clock -/
  | clock (i : ι) (now : Time)
  /-- session `i`'s call executes its next statement -/
  | statement (i : ι)
  /-- session `i` commits, between two calls -/
  | commit (i : ι)
  /-- session `i` rolls back, or dies, at any point -/
  | rollback (i : ι)

namespace State

/-- Nothing has happened yet; every aggregate has the status `s₀`. -/
def initial (s₀ : σ) : State ι α ε σ where
  store := Store.quiescent []
  status _ := s₀
  loaded _ _ := none
  changed _ _ := false

variable [DecidableEq ι] [DecidableEq α] (s : State ι α ε σ) (i : ι)

/-- A row that the transaction has loaded already is not read again. -/
def load (a : α) : State ι α ε σ :=
  let status := (s.loaded i a).getD (s.status a)
  { s with
    loaded := Function.update s.loaded i (Function.update (s.loaded i) a (some status)) }

/-- The projector of `event`, on the loaded row. -/
def project [DecidableEq σ] (m : GuardedMachine σ ε) (event : DomainEvent α ε String) :
    State ι α ε σ :=
  match s.loaded i event.aggregate with
  | none => s
  | some status =>
    let next := m.next status event.body
    let changed := s.changed i event.aggregate || decide (next ≠ status)
    { s with
      loaded := Function.update s.loaded i
        (Function.update (s.loaded i) event.aggregate (some next))
      changed := Function.update s.changed i
        (Function.update (s.changed i) event.aggregate changed) }

/-- The rows that the statement of a running call changes. -/
def statementRows [DecidableEq σ] (m : GuardedMachine σ ε) : State ι α ε σ :=
  match (s.store.session i).call with
  | some (.running _ (.project event)) => s.project i m event
  | _ => s

/-- The rows of session `i`'s transaction are dropped. -/
def dropRows : State ι α ε σ :=
  { s with
    loaded := Function.update s.loaded i fun _ => none
    changed := Function.update s.changed i fun _ => false }

/-- The changed statuses are written. -/
def writeRows : State ι α ε σ :=
  { s with
    status := fun a => if s.changed i a then (s.loaded i a).getD (s.status a) else s.status a }

end State

variable [DecidableEq ι] [Fintype ι] [DecidableEq α] [DecidableEq σ] (m : GuardedMachine σ ε)
  [∀ status event, Decidable (m.guard status event)]

/-- One step of the system. A command whose check fails raises, which is no step. -/
def step (s : State ι α ε σ) : Label ι α ε → Option (State ι α ε σ)
  | .load i a => some (s.load i a)
  | .command i args =>
    match s.loaded i args.aggregate with
    | none => none
    | some status =>
      if m.guard status args.body then
        (Events.step s.store (.call i { args with })).map fun store => { s with store := store }
      else none
  | .clock i now =>
    (Events.step s.store (.clock i now)).map fun store => { s with store := store }
  | .statement i =>
    (Events.step s.store (.statement i)).map fun store =>
      { s.statementRows i m with store := store }
  | .commit i =>
    (Events.step s.store (.commit i)).map fun store =>
      { (s.writeRows i).dropRows i with store := store }
  | .rollback i =>
    (Events.step s.store (.rollback i)).map fun store => { s.dropRows i with store := store }

end MiniGrc.ConcurrentLifecycle
