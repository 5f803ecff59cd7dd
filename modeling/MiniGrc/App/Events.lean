import Mathlib.Data.List.Sort
import Mathlib.Order.Basic

/-!
# The domain-event store

The data and the single-session functions of `app/events.py`: the immutable
`DomainEvent` row, the next sequence number of an aggregate, the look-up by
idempotency key, the unique constraints of `domain_events`, an append with no other
writer in between, and the order in which `rebuild_projection` replays the log.

The model keeps the columns that some function of the application reads. `α` stands
for the pair `(aggregate_type, aggregate_id)` with its lexicographic order (a module
that holds one aggregate type uses the id alone), `β` for `event_type` with its
payload, and `κ` for idempotency keys. The log is a list in insertion order.
-/

namespace MiniGrc

/-- A clock reading (`utcnow()`), in microseconds. -/
abbrev Time := Nat

/-- A primary key. `new_id()` gives 32 lower-case hexadecimal digits, which sort as
    the numbers they denote. -/
abbrev Id := Nat

namespace Events

variable {α β κ : Type}

/-- A row of `domain_events`. -/
structure DomainEvent (α β κ : Type) where
  aggregate : α
  aggregateSequence : Nat
  body : β
  occurredAt : Time
  recordedAt : Time
  actorType : String
  actorId : Option String
  idempotencyKey : Option κ
  deriving DecidableEq, Repr

/-- The keyword arguments of `append_event`. -/
structure AppendArgs (α β κ : Type) where
  aggregate : α
  body : β
  occurredAt : Option Time := none
  actorType : String := "system"
  actorId : Option String := none
  idempotencyKey : Option κ := none
  deriving DecidableEq, Repr

/-- `_MAX_APPEND_ATTEMPTS`. -/
def maxAppendAttempts : Nat := 5

/-- The row that a call tries to insert: `recorded_at` is the call's clock reading and
    `occurred_at` defaults to it. -/
def AppendArgs.candidate (args : AppendArgs α β κ) (recordedAt : Time) (nextSequence : Nat) :
    DomainEvent α β κ where
  aggregate := args.aggregate
  aggregateSequence := nextSequence
  body := args.body
  occurredAt := args.occurredAt.getD recordedAt
  recordedAt := recordedAt
  actorType := args.actorType
  actorId := args.actorId
  idempotencyKey := args.idempotencyKey

/-- The events of one aggregate, in insertion order. -/
def ofAggregate [DecidableEq α] (log : List (DomainEvent α β κ)) (a : α) :
    List (DomainEvent α β κ) :=
  log.filter fun e => e.aggregate = a

/-- `_next_aggregate_sequence`: `(max(aggregate_sequence) or 0) + 1`. -/
def nextAggregateSequence [DecidableEq α] (log : List (DomainEvent α β κ)) (a : α) : Nat :=
  ((ofAggregate log a).map DomainEvent.aggregateSequence).foldr max 0 + 1

/-- `_find_by_idempotency_key`. -/
def findByIdempotencyKey [DecidableEq κ] (log : List (DomainEvent α β κ)) (k : κ) :
    Option (DomainEvent α β κ) :=
  log.find? fun e => e.idempotencyKey = some k

/-- The two rows occupy one slot of `uq_domain_event_aggregate_sequence`. -/
def SameSlot (e e' : DomainEvent α β κ) : Prop :=
  e.aggregate = e'.aggregate ∧ e.aggregateSequence = e'.aggregateSequence

/-- The two rows carry one key of `uq_domain_event_idempotency_key` (NULLs differ). -/
def SameKey (e e' : DomainEvent α β κ) : Prop :=
  e.idempotencyKey ≠ none ∧ e.idempotencyKey = e'.idempotencyKey

/-- The two rows violate a unique constraint of `domain_events` together. -/
def Conflicts (e e' : DomainEvent α β κ) : Prop :=
  SameSlot e e' ∨ SameKey e e'

instance [DecidableEq α] (e e' : DomainEvent α β κ) : Decidable (SameSlot e e') :=
  inferInstanceAs (Decidable (_ ∧ _))

instance [DecidableEq κ] (e e' : DomainEvent α β κ) : Decidable (SameKey e e') :=
  inferInstanceAs (Decidable (_ ∧ _))

instance [DecidableEq α] [DecidableEq κ] (e e' : DomainEvent α β κ) : Decidable (Conflicts e e') :=
  inferInstanceAs (Decidable (_ ∨ _))

theorem Conflicts.symm {e e' : DomainEvent α β κ} (h : Conflicts e e') : Conflicts e' e := by
  rcases h with ⟨ha, hs⟩ | ⟨hne, hk⟩
  · exact .inl ⟨ha.symm, hs.symm⟩
  · exact .inr ⟨hk ▸ hne, hk.symm⟩

/-- `_append_event_with_created_flag` when no other session writes during the call:
    the stored log, the returned event, and whether it was created. -/
def appendEventWithCreatedFlag [DecidableEq α] [DecidableEq κ] (log : List (DomainEvent α β κ))
    (args : AppendArgs α β κ) (recordedAt : Time) :
    List (DomainEvent α β κ) × DomainEvent α β κ × Bool :=
  match args.idempotencyKey.bind (findByIdempotencyKey log) with
  | some existing => (log, existing, false)
  | none =>
    let candidate := args.candidate recordedAt (nextAggregateSequence log args.aggregate)
    (log ++ [candidate], candidate, true)

/-! ## The order of a replay -/

/-- `ORDER BY recorded_at, aggregate_type, aggregate_id, aggregate_sequence`. -/
def ReplayLe [LinearOrder α] (e e' : DomainEvent α β κ) : Prop :=
  e.recordedAt < e'.recordedAt ∨ e.recordedAt = e'.recordedAt ∧
    (e.aggregate < e'.aggregate ∨ e.aggregate = e'.aggregate ∧
      e.aggregateSequence ≤ e'.aggregateSequence)

instance [LinearOrder α] : DecidableRel (ReplayLe : DomainEvent α β κ → DomainEvent α β κ → Prop) :=
  fun _ _ => inferInstanceAs (Decidable (_ ∨ _))

/-- The events in the order in which `rebuild_projection` replays them. -/
def replayOrder [LinearOrder α] (log : List (DomainEvent α β κ)) : List (DomainEvent α β κ) :=
  log.insertionSort ReplayLe

end Events
end MiniGrc
