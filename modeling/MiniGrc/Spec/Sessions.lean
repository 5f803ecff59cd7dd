import MiniGrc.App.Projection
import MiniGrc.Spec.ReplayOrder

/-!
# One session after another

What `append_and_project` does in a session without concurrent writers, and what holds
of the log that such sessions leave: it is well formed, and its events were recorded in
insertion order, so that a replay follows the append order of every aggregate.
-/

namespace MiniGrc

open Events

variable {τ β : Type} {P : Projection τ β} {clock : Clock} {s : Session τ β}
  {args : AppendArgs Id β String}

/-- A clock that advances by one with every reading. -/
def tickingClock : Clock := ⟨fun n => n, monotone_id, fun _ n => n⟩

/-- The event that an append without a stored key adds. -/
def nextEvent (clock : Clock) (s : Session τ β) (args : AppendArgs Id β String) :
    DomainEvent Id β String :=
  args.candidate (clock.reading s.ticks) (nextAggregateSequence s.events args.aggregate)

@[simp] theorem nextEvent_aggregate : (nextEvent clock s args).aggregate = args.aggregate := rfl

@[simp] theorem nextEvent_body : (nextEvent clock s args).body = args.body := rfl

@[simp] theorem nextEvent_idempotencyKey :
    (nextEvent clock s args).idempotencyKey = args.idempotencyKey := rfl

/-- No stored event has the key of the append. -/
def Session.Fresh (s : Session τ β) (args : AppendArgs Id β String) : Prop :=
  args.idempotencyKey.bind (findByIdempotencyKey s.events) = none

/-- A request that nothing in the log answers is appended. -/
theorem appendEvent_of_fresh (hkey : s.Fresh args) :
    appendEventWithCreatedFlag s.events args (clock.reading s.ticks) =
      (s.events ++ [nextEvent clock s args], nextEvent clock s args, true) := by
  unfold appendEventWithCreatedFlag
  rw [hkey]
  rfl

/-- An append under a fresh key, or none, flushes, stores the event and runs its projector. -/
theorem appendAndProject_eq {rows rows' : τ} (hkey : s.Fresh args)
    (hf : P.flush s.rows = .ok rows) (hp : P.project rows (nextEvent clock s args) = .ok rows') :
    appendAndProject P clock s args =
      .returned ⟨rows', s.events ++ [nextEvent clock s args], s.ticks + 1⟩ := by
  simp only [appendAndProject, appendEvent_of_fresh hkey, hf, hp, if_true]

/-- An exception of the projector reaches the caller. -/
theorem appendAndProject_raised {rows : τ} {e : PyError} (hkey : s.Fresh args)
    (hf : P.flush s.rows = .ok rows) (hp : P.project rows (nextEvent clock s args) = .error e) :
    appendAndProject P clock s args =
      .raised ⟨rows, s.events ++ [nextEvent clock s args], s.ticks + 1⟩ e := by
  simp only [appendAndProject, appendEvent_of_fresh hkey, hf, hp, if_true]

/-- An append under a stored key changes nothing. -/
theorem appendAndProject_of_not_fresh (hkey : ¬ s.Fresh args) :
    appendAndProject P clock s args = .returned s := by
  obtain ⟨existing, hexisting⟩ := Option.ne_none_iff_exists'.1 hkey
  unfold appendAndProject appendEventWithCreatedFlag
  rw [hexisting]
  rfl

/-- The event of an append under a fresh key shares its key with no stored event. -/
theorem Session.Fresh.not_sameKey (hkey : s.Fresh args) {e : DomainEvent Id β String}
    (he : e ∈ s.events) : ¬ SameKey e (nextEvent clock s args) := by
  rintro ⟨hne, heq⟩
  obtain ⟨key, hk⟩ := Option.ne_none_iff_exists'.1 hne
  have hargs : args.idempotencyKey = some key := heq.symm.trans hk
  rw [Session.Fresh, hargs] at hkey
  have hnot := List.find?_eq_none.1 hkey e he
  simp [hk] at hnot

/-! ## How a command ends -/

/-- A command raises and leaves the session as it was, or returns with an effect. -/
inductive Ends (s : Session τ β) (R : Session τ β → Prop) : Outcome (Session τ β) → Prop
  | raised (e : PyError) : Ends s R (.raised s e)
  | returned (s' : Session τ β) : R s' → Ends s R (.returned s')

/-- A command that ends well ends well in a weaker sense too. -/
theorem Ends.mono {R R' : Session τ β → Prop} {o : Outcome (Session τ β)} (h : Ends s R o)
    (himp : ∀ s', R s' → R' s') : Ends s R' o := by
  cases h with
  | raised e => exact .raised e
  | returned s' hs' => exact .returned s' (himp s' hs')

/-- If it returns, a command has an effect. -/
def Outcome.Returns {σ : Type} (R : σ → Prop) : Outcome σ → Prop
  | .returned s => R s
  | .raised _ _ => True

/-- What a command ends with holds where it returns. -/
theorem Ends.returns {R : Session τ β → Prop} {o : Outcome (Session τ β)} (h : Ends s R o) :
    o.Returns R := by
  cases h with
  | raised e => trivial
  | returned s' hs' => exact hs'

/-- What holds where a command returns may be added to what it ends with. -/
theorem Ends.and_returns {R R' : Session τ β → Prop} {o : Outcome (Session τ β)} (h : Ends s R o)
    (h' : o.Returns R') : Ends s (fun s' => R s' ∧ R' s') o := by
  cases h with
  | raised e => exact .raised e
  | returned s' hs' => exact .returned s' ⟨hs', h'⟩

/-- A command after another returns what the second does. -/
theorem Outcome.Returns.andThen {σ : Type} {R R' : σ → Prop} {o : Outcome σ} {f : σ → Outcome σ}
    (h : o.Returns R) (hf : ∀ s, R s → (f s).Returns R') : (o.andThen f).Returns R' := by
  cases o with
  | returned s => exact hf s h
  | raised s e => trivial

/-- If the pending changes of every effect can be flushed, a request either leaves the
    session as it was or flushes what its command left. -/
theorem request_of_returns {R : Session τ β → Prop}
    (command : Session τ β → Outcome (Session τ β)) (flushed : τ → τ)
    (h : (command s).Returns R) (hflush : ∀ s', R s' → P.flush s'.rows = .ok (flushed s'.rows)) :
    request P command s = s ∨
      ∃ s', R s' ∧ request P command s = { s' with rows := flushed s'.rows } := by
  unfold request
  cases ho : command s with
  | raised s' e => exact .inl rfl
  | returned s' =>
    rw [ho] at h
    exact .inr ⟨s', h, by simp [Outcome.andThen, flushSession, hflush s' h]⟩

/-- A request whose command leaves nothing to flush. -/
theorem request_of_returned {command : Session τ β → Outcome (Session τ β)} {s' : Session τ β}
    (h : command s = .returned s') (hflush : P.flush s'.rows = .ok s'.rows) :
    request P command s = s' := by
  simp only [request, h, Outcome.andThen, flushSession, hflush]

/-- An exception rolls the request back. -/
theorem request_of_raised {f : Session τ β → Outcome (Session τ β)} {t : Session τ β}
    {x : PyError} (h : f s = .raised t x) : request P f s = s := by
  simp only [request, h, Outcome.andThen]

/-- What holds where a command returns, holds in a weaker sense too. -/
theorem Outcome.Returns.mono {σ : Type} {R R' : σ → Prop} {o : Outcome σ} (h : o.Returns R)
    (himp : ∀ s, R s → R' s) : o.Returns R' := by
  cases o with
  | returned s => exact himp s h
  | raised s e => trivial

/-- A loop of commands keeps what each of them keeps. -/
theorem Outcome.Returns.foldl {σ ι : Type} {R : σ → Prop} {o : Outcome σ} {f : ι → σ → Outcome σ}
    (h : o.Returns R) (l : List ι) (hf : ∀ x s, R s → (f x s).Returns R) :
    (l.foldl (fun o x => o.andThen (f x)) o).Returns R := by
  induction l generalizing o with
  | nil => exact h
  | cons x l ih => exact ih (h.andThen fun s hs => hf x s hs)

/-- A command appends and flushes, in sequence, unless it raises. -/
inductive Script (P : Projection τ β) (clock : Clock) :
    Session τ β → Outcome (Session τ β) → Prop
  | returned (s : Session τ β) : Script P clock s (.returned s)
  | raised (s s' : Session τ β) (e : PyError) : Script P clock s (.raised s' e)
  | append (s : Session τ β) (args : AppendArgs Id β String) :
      Script P clock s (appendAndProject P clock s args)
  | flush (s : Session τ β) : Script P clock s (flushSession P s)
  | andThen {s : Session τ β} {o : Outcome (Session τ β)}
      {f : Session τ β → Outcome (Session τ β)} :
      Script P clock s o → (∀ s, Script P clock s (f s)) → Script P clock s (o.andThen f)

/-- A loop of scripts is a script. -/
theorem Script.foldl {ι : Type} {o : Outcome (Session τ β)}
    {f : ι → Session τ β → Outcome (Session τ β)} (h : Script P clock s o) (l : List ι)
    (hf : ∀ x s, Script P clock s (f x s)) :
    Script P clock s (l.foldl (fun o x => o.andThen (f x)) o) := by
  induction l generalizing o with
  | nil => exact h
  | cons x l ih => exact ih (h.andThen fun s => hf x s)

/-- What every append and every flush keeps is kept by the command. -/
theorem Script.returns {R : Session τ β → Prop} {o : Outcome (Session τ β)}
    (h : Script P clock s o) (hs : R s)
    (happend : ∀ s args, R s → (appendAndProject P clock s args).Returns R)
    (hflush : ∀ s, R s → (flushSession P s).Returns R) : o.Returns R := by
  induction h with
  | returned s => exact hs
  | raised s s' e => trivial
  | append s args => exact happend s args hs
  | flush s => exact hflush s hs
  | andThen _ _ iho ihf => exact (iho hs).andThen fun s hs => ihf s hs

/-! ## What comes later -/

/-- Events are only added, and time only passes. -/
structure Session.Later (s s' : Session τ β) : Prop where
  log : s.events <+: s'.events
  ticks : s.ticks ≤ s'.ticks

theorem Session.Later.refl (s : Session τ β) : s.Later s := ⟨List.prefix_rfl, le_rfl⟩

theorem Session.Later.trans {s s' s'' : Session τ β} (h : s.Later s') (h' : s'.Later s'') :
    s.Later s'' :=
  ⟨h.log.trans h'.log, h.ticks.trans h'.ticks⟩

/-- An append takes time. -/
theorem appendAndProject_later : (appendAndProject P clock s args).Returns s.Later := by
  by_cases hkey : s.Fresh args
  · unfold appendAndProject
    simp only [appendEvent_of_fresh hkey, if_true]
    split
    · trivial
    · split
      · trivial
      · exact ⟨List.prefix_append .., Nat.le_succ _⟩
  · rw [appendAndProject_of_not_fresh hkey]
    exact .refl s

/-- A flush takes no time back. -/
theorem flushSession_later : (flushSession P s).Returns s.Later := by
  unfold flushSession
  split
  · trivial
  · exact ⟨List.prefix_rfl, le_rfl⟩

/-- A script takes no time back. -/
theorem Script.later {o : Outcome (Session τ β)} (h : Script P clock s o) : o.Returns s.Later :=
  h.returns (.refl s) (fun _ _ hs => appendAndProject_later.mono fun _ => hs.trans)
    fun _ hs => flushSession_later.mono fun _ => hs.trans

/-- The events of a request that raises are rolled back, those of one that returns stay. -/
theorem request_later (command : Session τ β → Outcome (Session τ β))
    (h : (command s).Returns s.Later) : s.Later (request P command s) := by
  have hreturns : ((command s).andThen (flushSession P)).Returns s.Later :=
    h.andThen fun _ hs => flushSession_later.mono fun _ => hs.trans
  unfold request
  cases ho : (command s).andThen (flushSession P) with
  | raised s' e => exact .refl s
  | returned s' =>
    rw [ho] at hreturns
    exact hreturns

/-! ## Sessions with different logs -/

/-- What an event says, and of which aggregate. -/
def DomainEvent.content (e : DomainEvent Id β String) : Id × β := (e.aggregate, e.body)

/-- The projectors do not read sequence numbers. -/
def Projection.IgnoresSequence (P : Projection τ β) : Prop :=
  ∀ rows (e : DomainEvent Id β String) n,
    P.project rows { e with aggregateSequence := n } = P.project rows e

/-- The sessions `s'` and `u'` have the same rows at the same time, and events that say the same
    have been added to the logs of `s` and `u`. -/
structure Alike (s u s' u' : Session τ β) : Prop where
  rows : s'.rows = u'.rows
  ticks : s'.ticks = u'.ticks
  added : ∃ es es', s'.events = s.events ++ es ∧ u'.events = u.events ++ es' ∧
    es.map DomainEvent.content = es'.map DomainEvent.content

/-- A command ends in the same way in `s` and in `u`. -/
inductive EndsAlike (s u : Session τ β) : Outcome (Session τ β) → Outcome (Session τ β) → Prop
  | returned {s' u' : Session τ β} (h : Alike s u s' u') :
      EndsAlike s u (.returned s') (.returned u')
  | raised {s' u' : Session τ β} (e : PyError) (h : Alike s u s' u') :
    EndsAlike s u (.raised s' e) (.raised u' e)

section Alike

variable {s' s'' u u' u'' : Session τ β} {o o' : Outcome (Session τ β)}

theorem Alike.refl (hrows : s.rows = u.rows) (hticks : s.ticks = u.ticks) : Alike s u s u :=
  ⟨hrows, hticks, [], [], by simp⟩

/-- Two stretches that go alike, one after the other. -/
theorem Alike.trans (h : Alike s u s' u') (h' : Alike s' u' s'' u'') : Alike s u s'' u'' := by
  obtain ⟨es, es', hs, hu, hsame⟩ := h.added
  obtain ⟨fs, fs', hs', hu', hsame'⟩ := h'.added
  refine ⟨h'.rows, h'.ticks, es ++ fs, es' ++ fs', ?_, ?_, ?_⟩
  · rw [hs', hs, List.append_assoc]
  · rw [hu', hu, List.append_assoc]
  · rw [List.map_append, List.map_append, hsame, hsame']

/-- Where one event has been added to one of the logs, one that says the same has been added to
    the other. -/
theorem Alike.added_one (h : Alike s u s' u') {e : DomainEvent Id β String}
    (he : u'.events = u.events ++ [e]) :
    ∃ e', s'.events = s.events ++ [e'] ∧ e'.aggregate = e.aggregate ∧ e'.body = e.body := by
  obtain ⟨es, es', hs, hu, hsame⟩ := h.added
  obtain rfl : es' = [e] := List.append_cancel_left (hu.symm.trans he)
  obtain ⟨e', rfl, hcontent⟩ := List.map_eq_singleton_iff.1 hsame
  obtain ⟨haggregate, hbody⟩ := Prod.mk.inj hcontent
  exact ⟨e', hs, haggregate, hbody⟩

/-- Commands that go alike, one after the other, go alike. -/
theorem EndsAlike.andThen {f g : Session τ β → Outcome (Session τ β)} (h : EndsAlike s u o o')
    (hf : ∀ s' u', s'.rows = u'.rows → s'.ticks = u'.ticks → EndsAlike s' u' (f s') (g u')) :
    EndsAlike s u (o.andThen f) (o'.andThen g) := by
  -- The first commands both raise, or both return and the second ones follow.
  cases h with
  | raised e h => exact .raised e h
  | @returned s' u' h =>
    have hnext := hf s' u' h.rows h.ticks
    simp only [Outcome.andThen]
    cases hs : f s' with
    | returned s'' =>
      rw [hs] at hnext
      generalize g u' = o' at hnext ⊢
      cases hnext with
      | returned h' => exact .returned (h.trans h')
    | raised s'' e =>
      rw [hs] at hnext
      generalize g u' = o' at hnext ⊢
      cases hnext with
      | raised e h' => exact .raised e (h.trans h')

/-- An append without a key ends in the same way over any log. -/
theorem appendAndProject_alike (hP : P.IgnoresSequence) (hrows : s.rows = u.rows)
    (hticks : s.ticks = u.ticks) (hkey : args.idempotencyKey = none) :
    EndsAlike s u (appendAndProject P clock s args) (appendAndProject P clock u args) := by
  have hs : s.Fresh args := by rw [Session.Fresh, hkey]; rfl
  have hu : u.Fresh args := by rw [Session.Fresh, hkey]; rfl
  have hadded : ∀ rows, Alike s u ⟨rows, s.events ++ [nextEvent clock s args], s.ticks + 1⟩
      ⟨rows, u.events ++ [nextEvent clock u args], u.ticks + 1⟩ := fun rows =>
    ⟨rfl, congrArg (· + 1) hticks, [_], [_], rfl, rfl, rfl⟩
  -- the two events differ in their sequence numbers
  have hproject : ∀ rows, P.project rows (nextEvent clock s args) =
      P.project rows (nextEvent clock u args) := by
    intro rows
    rw [← hP rows (nextEvent clock s args) (nextEvent clock u args).aggregateSequence]
    simp only [nextEvent, AppendArgs.candidate, hticks]
  unfold appendAndProject
  simp only [appendEvent_of_fresh hs, appendEvent_of_fresh hu, if_true, hrows, hproject]
  cases P.flush u.rows with
  | error e => exact .raised e ⟨rfl, congrArg (· + 1) hticks, [], [], by simp⟩
  | ok rows =>
    simp only
    cases P.project rows (nextEvent clock u args) with
    | error e => exact .raised e (hadded rows)
    | ok rows => exact .returned (hadded rows)

/-- What a command does to the rows of `u` it does to those of `s`. -/
theorem Ends.of_alike {R : Session τ β → Prop} (h : Ends u R o') (ho : EndsAlike s u o o') :
    (∃ s' e, o = .raised s' e ∧ Alike s u s' u) ∨
      ∃ s' u', o = .returned s' ∧ Alike s u s' u' ∧ R u' := by
  cases h with
  | raised e =>
    cases ho with
    | raised _ h => exact .inl ⟨_, e, rfl, h⟩
  | returned u' hu =>
    cases ho with
    | returned h => exact .inr ⟨_, u', rfl, h, hu⟩

end Alike

/-! ## The log -/

/-- What holds of the log of a session. -/
structure Session.Logged (clock : Clock) (s : Session τ β) : Prop where
  wellFormed : WellFormed s.events
  ordered : s.events.Pairwise fun e e' => e.recordedAt ≤ e'.recordedAt
  past : ∀ e ∈ s.events, e.recordedAt ≤ clock.reading s.ticks

/-- The empty log is logged. -/
theorem Session.Logged.empty (rows : τ) (ticks : Nat) :
    Session.Logged clock (⟨rows, [], ticks⟩ : Session τ β) :=
  ⟨wellFormed_nil, .nil, fun _ he => absurd he List.not_mem_nil⟩

/-- The tables and the passing of time do not matter for the log. -/
theorem Session.Logged.wait (h : s.Logged clock) {rows : τ} {ticks : Nat}
    (ht : s.ticks ≤ ticks) : Session.Logged clock ⟨rows, s.events, ticks⟩ :=
  ⟨h.wellFormed, h.ordered, fun e he => (h.past e he).trans (clock.mono ht)⟩

/-- An append under a fresh key, or none, keeps the log. -/
theorem Session.Logged.append (h : s.Logged clock) (hkey : s.Fresh args) {rows : τ} :
    Session.Logged clock ⟨rows, s.events ++ [nextEvent clock s args], s.ticks + 1⟩ where
  wellFormed := h.wellFormed.snoc (h.wellFormed.nextAggregateSequence _)
    fun _ he => hkey.not_sameKey he
  ordered := by
    rw [List.pairwise_append]
    refine ⟨h.ordered, List.pairwise_singleton .., ?_⟩
    intro e he e' he'
    obtain rfl := List.mem_singleton.1 he'
    exact h.past e he
  past := by
    intro e he
    have hstep := clock.mono (Nat.le_succ s.ticks)
    -- An event of the log, or the new one.
    rcases List.mem_append.1 he with he | he
    · exact (h.past e he).trans hstep
    · obtain rfl := List.mem_singleton.1 he
      exact hstep

/-- An append keeps the log well formed. -/
theorem appendAndProject_wellFormed (h : WellFormed s.events) :
    (appendAndProject P clock s args).Returns fun s' => WellFormed s'.events := by
  by_cases hkey : s.Fresh args
  · have hsnoc : WellFormed (s.events ++ [nextEvent clock s args]) :=
      h.snoc (h.nextAggregateSequence _) fun _ he => hkey.not_sameKey he
    unfold appendAndProject
    simp only [appendEvent_of_fresh hkey, if_true]
    split
    · trivial
    · split
      · trivial
      · exact hsnoc
  · rw [appendAndProject_of_not_fresh hkey]
    exact h

/-- A flush leaves the log well formed. -/
theorem flushSession_wellFormed (h : WellFormed s.events) :
    (flushSession P s).Returns fun s' => WellFormed s'.events := by
  unfold flushSession
  split
  · trivial
  · exact h

/-- A request keeps the log well formed, whatever the tables hold. -/
theorem Script.request_wellFormed {command : Session τ β → Outcome (Session τ β)}
    (h : Script P clock s (command s)) (hs : WellFormed s.events) :
    WellFormed (request P command s).events := by
  have hreturns : (command s).Returns fun s' => WellFormed s'.events :=
    h.returns (R := fun s => WellFormed s.events) hs (fun _ _ => appendAndProject_wellFormed)
      fun _ => flushSession_wellFormed
  have hends := hreturns.andThen fun _ => flushSession_wellFormed (P := P)
  unfold request
  cases ho : (command s).andThen (flushSession P) with
  | raised s' e => exact hs
  | returned s' =>
    rw [ho] at hends
    exact hends

/-- A replay follows the append order of every aggregate. -/
theorem Session.Logged.ofAggregate_replayOrder (h : s.Logged clock) (a : Id) :
    ofAggregate (replayOrder s.events) a = ofAggregate s.events a :=
  Events.ofAggregate_replayOrder h.wellFormed (fun _ => h.ordered.filter _) a

/-- The replay has the events of the log. -/
theorem mem_replayOrder {log : List (DomainEvent Id β String)} {e : DomainEvent Id β String} :
    e ∈ replayOrder log ↔ e ∈ log :=
  List.mem_insertionSort _

end MiniGrc
