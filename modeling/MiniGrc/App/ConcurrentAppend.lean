import Mathlib.Data.Fintype.Basic
import Mathlib.Logic.Function.Basic
import MiniGrc.App.Events

/-!
# Appending to the event store from several sessions

`_append_event_with_created_flag` of `app/events.py` cut into its SQL statements, so
that the statements of any number of sessions interleave. A session is a worker `i : ι`
with at most one open transaction; it sees the committed rows of all others at every
statement (read committed) and its own uncommitted rows. An insert that meets an
uncommitted row of another session waits for that session's end, which is a step that
cannot be taken yet.

A call runs through

    checkKey → readClock → attempt 0 → readMax → insert → project → returned
                              ↑                     ↓
                              └──── slotCheck ←── IntegrityError

where `attempt n` is the head of the `n`-th round of the retry loop. The labels of the
step function name the session and, where the environment decides it, the arguments of
the call and the reading of the clock.
-/

namespace MiniGrc.Events

variable {ι α β κ : Type}

/-- The arguments of a call; `project` tells `append_and_project` from `append_event`. -/
structure Request (α β κ : Type) extends AppendArgs α β κ where
  project : Bool := true

/-- What a call can raise. -/
inductive AppendError
  | integrityError
  | concurrentAppendError
  deriving DecidableEq, Repr

/-- The statement at which a running call stands, with its local variables. -/
inductive Pc (α β κ : Type)
  /-- the look-up before the loop -/
  | checkKey
  /-- `recorded_at = utcnow()` -/
  | readClock
  /-- the head of round `n`, with its look-up -/
  | attempt (n : Nat) (recordedAt : Time)
  /-- `_next_aggregate_sequence` -/
  | readMax (n : Nat) (recordedAt : Time)
  /-- the insert inside the savepoint -/
  | insert (n : Nat) (recordedAt : Time) (nextSequence : Nat)
  /-- the `slot_taken` query after an `IntegrityError` -/
  | slotCheck (n : Nat) (recordedAt : Time) (nextSequence : Nat)
  /-- the event is stored, `append_and_project` still has to run its projector -/
  | project (event : DomainEvent α β κ)

/-- A session's latest call: its statement, or how it ended. -/
inductive Call (α β κ : Type)
  | running (req : Request α β κ) (pc : Pc α β κ)
  | returned (req : Request α β κ) (event : DomainEvent α β κ) (created : Bool)
  | raised (req : Request α β κ) (error : AppendError)

/-- A session: the events its open transaction has appended, the events whose projector
    it has run there, and its latest call. -/
structure Session (α β κ : Type) where
  own : List (DomainEvent α β κ)
  projected : List (DomainEvent α β κ)
  call : Option (Call α β κ)

/-- The database and its sessions. -/
structure Store (ι α β κ : Type) where
  committed : List (DomainEvent α β κ)
  projected : List (DomainEvent α β κ)
  session : ι → Session α β κ

namespace Store

/-- No session has done anything yet; every event of the log has been projected. -/
def quiescent (log : List (DomainEvent α β κ)) : Store ι α β κ :=
  ⟨log, log, fun _ => ⟨[], [], none⟩⟩

/-- The events that session `i` sees: the committed ones and its own. -/
def visible (s : Store ι α β κ) (i : ι) : List (DomainEvent α β κ) :=
  s.committed ++ (s.session i).own

/-- The events whose projector's writes session `i` sees. -/
def projectedBy (s : Store ι α β κ) (i : ι) : List (DomainEvent α β κ) :=
  s.projected ++ (s.session i).projected

variable [DecidableEq ι]

/-- Replace session `i`. -/
def setSession (s : Store ι α β κ) (i : ι) (t : Session α β κ) : Store ι α β κ :=
  { s with session := Function.update s.session i t }

/-- Move session `i`'s call. -/
def setCall (s : Store ι α β κ) (i : ι) (c : Call α β κ) : Store ι α β κ :=
  s.setSession i { s.session i with call := some c }

/-- Store a candidate row: the call goes on to its projector. -/
def insertRow (s : Store ι α β κ) (i : ι) (req : Request α β κ) (e : DomainEvent α β κ) :
    Store ι α β κ :=
  s.setSession i { s.session i with
    own := (s.session i).own ++ [e], call := some (.running req (.project e)) }

/-- Run the projector of an event the call has stored (`append_event` has none). -/
def runProjector (s : Store ι α β κ) (i : ι) (req : Request α β κ) (e : DomainEvent α β κ) :
    Store ι α β κ :=
  s.setSession i { s.session i with
    projected := (s.session i).projected ++ (if req.project then [e] else [])
    call := some (.returned req e true) }

/-- Commit session `i`'s transaction. -/
def commit (s : Store ι α β κ) (i : ι) : Store ι α β κ where
  committed := s.visible i
  projected := s.projectedBy i
  session := Function.update s.session i ⟨[], [], (s.session i).call⟩

/-- Roll session `i`'s transaction back; its call, running or not, is void. -/
def rollback (s : Store ι α β κ) (i : ι) : Store ι α β κ :=
  s.setSession i ⟨[], [], none⟩

end Store

/-- The steps of the system. -/
inductive Label (ι α β κ : Type)
  /-- session `i` calls `append_event` or `append_and_project` -/
  | call (i : ι) (req : Request α β κ)
  /-- session `i`'s call reads the clock -/
  | clock (i : ι) (now : Time)
  /-- session `i`'s call executes its next statement -/
  | statement (i : ι)
  /-- session `i` commits, between two calls -/
  | commit (i : ι)
  /-- session `i` rolls back, or dies, at any point -/
  | rollback (i : ι)

variable [DecidableEq ι] [Fintype ι] [DecidableEq α] [DecidableEq κ]

/-- The insert has to wait: another session holds an uncommitted conflicting row. -/
def Blocked (s : Store ι α β κ) (i : ι) (candidate : DomainEvent α β κ) : Prop :=
  ∃ j, j ≠ i ∧ ∃ e ∈ (s.session j).own, Conflicts e candidate

/-- The insert raises `IntegrityError`: a visible row conflicts. -/
def Refused (s : Store ι α β κ) (i : ι) (candidate : DomainEvent α β κ) : Prop :=
  ∃ e ∈ s.visible i, Conflicts e candidate

/-- The `slot_taken` query: a visible row occupies the slot that was tried. -/
def SlotTaken (s : Store ι α β κ) (i : ι) (a : α) (nextSequence : Nat) : Prop :=
  ∃ e ∈ s.visible i, e.aggregate = a ∧ e.aggregateSequence = nextSequence

instance (s : Store ι α β κ) (i : ι) (c : DomainEvent α β κ) : Decidable (Blocked s i c) :=
  inferInstanceAs (Decidable (∃ j, j ≠ i ∧ ∃ e ∈ (s.session j).own, Conflicts e c))

instance (s : Store ι α β κ) (i : ι) (c : DomainEvent α β κ) : Decidable (Refused s i c) :=
  inferInstanceAs (Decidable (∃ e ∈ s.visible i, Conflicts e c))

instance (s : Store ι α β κ) (i : ι) (a : α) (n : Nat) : Decidable (SlotTaken s i a n) :=
  inferInstanceAs (Decidable (∃ e ∈ s.visible i, e.aggregate = a ∧ e.aggregateSequence = n))

/-- The look-up of the call's key, if it carries one. -/
def Store.existing (s : Store ι α β κ) (i : ι) (req : Request α β κ) :
    Option (DomainEvent α β κ) :=
  req.idempotencyKey.bind (findByIdempotencyKey (s.visible i))

/-- Execute the statement `pc` of session `i`'s call. -/
def execStatement (s : Store ι α β κ) (i : ι) (req : Request α β κ) :
    Pc α β κ → Option (Store ι α β κ)
  | .checkKey =>
    match s.existing i req with
    | some e => some (s.setCall i (.returned req e false))
    | none => some (s.setCall i (.running req .readClock))
  | .readClock => none
  | .attempt n t =>
    if n < maxAppendAttempts then
      match s.existing i req with
      | some e => some (s.setCall i (.returned req e false))
      | none => some (s.setCall i (.running req (.readMax n t)))
    else some (s.setCall i (.raised req .concurrentAppendError))
  | .readMax n t =>
    some (s.setCall i (.running req
      (.insert n t (nextAggregateSequence (s.visible i) req.aggregate))))
  | .insert n t next =>
    let candidate := req.candidate t next
    if Refused s i candidate then
      -- the savepoint is rolled back: nothing is stored
      some (s.setCall i (.running req (.slotCheck n t next)))
    else if Blocked s i candidate then none
    else some (s.insertRow i req candidate)
  | .slotCheck n t next =>
    if SlotTaken s i req.aggregate next then
      some (s.setCall i (.running req (.attempt (n + 1) t)))
    else some (s.setCall i (.raised req .integrityError))
  | .project e => some (s.runProjector i req e)

/-- One step of the system. -/
def step (s : Store ι α β κ) : Label ι α β κ → Option (Store ι α β κ)
  | .call i req =>
    match (s.session i).call with
    | some (.running _ _) => none
    | _ => some (s.setCall i (.running req .checkKey))
  | .clock i now =>
    match (s.session i).call with
    | some (.running req .readClock) => some (s.setCall i (.running req (.attempt 0 now)))
    | _ => none
  | .statement i =>
    match (s.session i).call with
    | some (.running req pc) => execStatement s i req pc
    | _ => none
  | .commit i =>
    match (s.session i).call with
    | some (.running _ _) => none
    | _ => some (s.commit i)
  | .rollback i => some (s.rollback i)

end MiniGrc.Events
