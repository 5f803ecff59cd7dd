import MiniGrc.ForStd.UnitOfWork
import MiniGrc.App.PythonStrings

/-!
# Commands and projections in one session

`append_and_project` and `rebuild_projection` of `app/events.py` for one session at a
time, over any aggregate type. An aggregate type is given by its `Projection`: how its
tables are flushed, what its projectors do and how they are reset. `τ` stands for the
tables, `β` for the bodies of the events.

A command returns or raises, and either way leaves the session in some state; a request
commits what a returned command leaves and rolls back what a raising one leaves.
-/

namespace MiniGrc

open Events

/-! ## Outcomes -/

/-- The exceptions that commands and projectors raise. -/
inductive PyError
  | valueError (message : String)
  /-- an attribute of `None`, the result of a look-up that found no row -/
  | attributeError
  | integrityError
  deriving DecidableEq, Repr

/-- How a command ends, with the state it leaves. -/
inductive Outcome (σ : Type)
  | returned (s : σ)
  | raised (s : σ) (error : PyError)

/-- Go on with `f` unless an exception was raised. -/
def Outcome.andThen {σ : Type} (o : Outcome σ) (f : σ → Outcome σ) : Outcome σ :=
  match o with
  | .returned s => f s
  | .raised s e => .raised s e

/-- Keep a part of the state. -/
def Outcome.map {σ σ' : Type} (f : σ → σ') : Outcome σ → Outcome σ'
  | .returned s => .returned (f s)
  | .raised s e => .raised (f s) e

/-- `actor_type` and `actor_id`. -/
structure Actor where
  actorType : String := "user"
  actorId : Option String := none
  deriving DecidableEq, Repr

/-! ## Sessions -/

/-- For each event, by its aggregate and its sequence number there: the result of `utcnow()` in
    the flush that inserts the link row which the event's projector adds. -/
abbrev FlushTimes := Id → Nat → Time

/-- The successive results of `utcnow()` in the commands, and those in flushes. -/
structure Clock where
  reading : Nat → Time
  mono : Monotone reading
  flushed : FlushTimes

/-- An aggregate type: its flush, its projectors and its reset function. -/
structure Projection (τ β : Type) where
  flush : τ → Except PyError τ
  project : τ → DomainEvent Id β String → Except PyError τ
  reset : τ → Except PyError τ

/-- A session's view of an aggregate type: its tables, its events in insertion order, and
    how often the clock has been read. -/
structure Session (τ β : Type) where
  rows : τ
  events : List (DomainEvent Id β String)
  ticks : Nat

variable {τ β : Type}

/-- `append_and_project`. The savepoint around the insert flushes the tables first. -/
def appendAndProject (P : Projection τ β) (clock : Clock) (s : Session τ β)
    (args : AppendArgs Id β String) : Outcome (Session τ β) :=
  let (events, event, created) :=
    appendEventWithCreatedFlag s.events args (clock.reading s.ticks)
  if created then
    match P.flush s.rows with
    | .error e => .raised { s with ticks := s.ticks + 1 } e
    | .ok rows =>
      match P.project rows event with
      | .error e => .raised ⟨rows, events, s.ticks + 1⟩ e
      | .ok rows => .returned ⟨rows, events, s.ticks + 1⟩
  else .returned s

/-- The event that `append_and_project` returns. -/
def returnedEvent (clock : Clock) (s : Session τ β) (args : AppendArgs Id β String) :
    DomainEvent Id β String :=
  (appendEventWithCreatedFlag s.events args (clock.reading s.ticks)).2.1

/-- An explicit `session.flush()`. -/
def flushSession (P : Projection τ β) (s : Session τ β) : Outcome (Session τ β) :=
  match P.flush s.rows with
  | .error e => .raised s e
  | .ok rows => .returned { s with rows := rows }

/-- A request: the command, then the commit, which flushes. An exception rolls back. -/
def request (P : Projection τ β) (command : Session τ β → Outcome (Session τ β))
    (s : Session τ β) : Session τ β :=
  match (command s).andThen (flushSession P) with
  | .returned s' => s'
  | .raised _ _ => s

/-- `rebuild_projection`: reset the tables, then replay the events. -/
def rebuildProjection (P : Projection τ β) (rows : τ) (events : List (DomainEvent Id β String)) :
    Except PyError τ :=
  (P.reset rows).bind fun rows => (replayOrder events).foldlM P.project rows

/-- A rebuild and the caller's commit. -/
def rebuildAndCommit (P : Projection τ β) (rows : τ)
    (events : List (DomainEvent Id β String)) : Except PyError τ :=
  (rebuildProjection P rows events).bind P.flush

end MiniGrc
