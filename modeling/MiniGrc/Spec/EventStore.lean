import Mathlib.Data.List.Infix
import MiniGrc.ForStd.Run
import MiniGrc.App.ConcurrentAppend

/-!
# The event-store invariant

Every state that an interleaving of appends reaches holds, for each aggregate, the
sequence numbers `1..n` without gap or duplicate, and each idempotency key at most once.

The invariant `Store.Inv` says this of what each session sees (`WellFormed`), that no
two sessions hold conflicting uncommitted rows, and that a call about to insert holds a
sequence number at most one past the aggregate's last. `step_cases` says what one step
can do; the run lemmas follow from it.

## Key results

- `event_store_invariant`: the invariant in every reachable state, what a step may do to
  the stored events, and that a call which raises has stored nothing
-/

namespace MiniGrc.Events

variable {ι α β κ : Type}

/-! ## Well-formed logs -/

section WellFormed

variable [DecidableEq α]

/-- Each aggregate's events carry `1..n` in insertion order, and no key occurs twice. -/
structure WellFormed (log : List (DomainEvent α β κ)) : Prop where
  sequences : ∀ a, (ofAggregate log a).map DomainEvent.aggregateSequence =
    List.range' 1 (ofAggregate log a).length
  keys : log.Pairwise fun e e' => ¬ SameKey e e'

/-- The events of an aggregate in two logs, one after the other. -/
@[simp] theorem ofAggregate_append (log log' : List (DomainEvent α β κ)) (a : α) :
    ofAggregate (log ++ log') a = ofAggregate log a ++ ofAggregate log' a :=
  List.filter_append ..

/-- The events of an aggregate are those that name it. -/
theorem mem_ofAggregate {log : List (DomainEvent α β κ)} {a : α} {e : DomainEvent α β κ} :
    e ∈ ofAggregate log a ↔ e ∈ log ∧ e.aggregate = a := by
  simp [ofAggregate]

/-- An event is the last one of its own aggregate. -/
theorem ofAggregate_snoc_self {log : List (DomainEvent α β κ)} {e : DomainEvent α β κ} :
    ofAggregate (log ++ [e]) e.aggregate = ofAggregate log e.aggregate ++ [e] := by
  simp [ofAggregate]

/-- An event leaves the other aggregates alone. -/
theorem ofAggregate_snoc_ne {log : List (DomainEvent α β κ)} {e : DomainEvent α β κ} {a : α}
    (ha : e.aggregate ≠ a) : ofAggregate (log ++ [e]) a = ofAggregate log a := by
  simp [ofAggregate, ha]

/-- The empty log is well formed. -/
theorem wellFormed_nil : WellFormed ([] : List (DomainEvent α β κ)) :=
  ⟨fun _ => rfl, .nil⟩

/-- The `i`-th event of an aggregate carries the number `i + 1`. -/
theorem WellFormed.sequence_getElem {log : List (DomainEvent α β κ)} (h : WellFormed log) (a : α)
    (i : Nat) (hi : i < (ofAggregate log a).length) :
    (ofAggregate log a)[i].aggregateSequence = i + 1 := by
  have hmap := congrArg (·[i]?) (h.sequences a)
  simpa [List.getElem?_map, List.getElem?_eq_getElem hi, List.getElem?_range' hi,
    Nat.add_comm] using hmap

/-- The numbers of an aggregate lie between `1` and the number of its events. -/
theorem WellFormed.sequence_bounds {log : List (DomainEvent α β κ)} (h : WellFormed log)
    {e : DomainEvent α β κ} (he : e ∈ log) :
    1 ≤ e.aggregateSequence ∧ e.aggregateSequence ≤ (ofAggregate log e.aggregate).length := by
  obtain ⟨i, hi, heq⟩ := List.getElem_of_mem (mem_ofAggregate.2 ⟨he, rfl⟩)
  have := h.sequence_getElem e.aggregate i hi
  rw [heq] at this
  omega

/-- Every number between `1` and the number of events of an aggregate is taken. -/
theorem WellFormed.exists_sequence {log : List (DomainEvent α β κ)} (h : WellFormed log) {a : α}
    {n : Nat} (h1 : 1 ≤ n) (hn : n ≤ (ofAggregate log a).length) :
    ∃ e ∈ log, e.aggregate = a ∧ e.aggregateSequence = n := by
  have hi : n - 1 < (ofAggregate log a).length := by omega
  have hmem := mem_ofAggregate.1 (List.getElem_mem hi)
  refine ⟨_, hmem.1, hmem.2, ?_⟩
  rw [h.sequence_getElem a (n - 1) hi]
  omega

/-- The largest number of a range that starts at one. -/
private theorem foldr_max_range' (s n : Nat) :
    (List.range' (s + 1) n).foldr max 0 = if n = 0 then 0 else s + n := by
  induction n generalizing s with
  | zero => rfl
  | succ n ih =>
    rw [List.range'_succ, List.foldr_cons, ih (s + 1)]
    split <;> simp <;> omega

/-- `max + 1` is one past the number of events. -/
theorem WellFormed.nextAggregateSequence {log : List (DomainEvent α β κ)} (h : WellFormed log)
    (a : α) : nextAggregateSequence log a = (ofAggregate log a).length + 1 := by
  rw [Events.nextAggregateSequence, h.sequences a, foldr_max_range' 0]
  split <;> omega

/-- Appending the next number of an aggregate under a fresh key keeps the log well formed. -/
theorem WellFormed.snoc {log : List (DomainEvent α β κ)} (h : WellFormed log)
    {e : DomainEvent α β κ}
    (hseq : e.aggregateSequence = (ofAggregate log e.aggregate).length + 1)
    (hkey : ∀ e' ∈ log, ¬ SameKey e' e) : WellFormed (log ++ [e]) := by
  constructor
  · intro a
    -- only the sequence of the new event's aggregate grows
    rw [ofAggregate_append]
    by_cases ha : e.aggregate = a
    · subst ha
      have hone : ofAggregate [e] e.aggregate = [e] := by simp [ofAggregate]
      rw [hone, List.map_append, h.sequences, List.length_append, List.length_singleton,
        List.range'_concat]
      simp [hseq, Nat.add_comm]
    · have hnil : ofAggregate [e] a = [] := by simp [ofAggregate, ha]
      rw [hnil, List.append_nil, h.sequences]
  · rw [List.pairwise_append]
    exact ⟨h.keys, List.pairwise_singleton .., fun e' he' e'' he'' => by
      obtain rfl := List.mem_singleton.1 he''
      exact hkey e' he'⟩

/-- Two sessions' uncommitted rows over one committed log: without a conflict at most one
    of them touches a given aggregate. -/
theorem WellFormed.ofAggregate_eq_nil {c x y : List (DomainEvent α β κ)}
    (hx : WellFormed (c ++ x)) (hy : WellFormed (c ++ y))
    (hxy : ∀ e ∈ x, ∀ e' ∈ y, ¬ Conflicts e e') (a : α) :
    ofAggregate x a = [] ∨ ofAggregate y a = [] := by
  by_contra hne
  simp only [not_or] at hne
  -- the first event of each carries the number after the committed ones
  have first : ∀ z, WellFormed (c ++ z) → ofAggregate z a ≠ [] →
      ∃ e ∈ z, e.aggregate = a ∧ e.aggregateSequence = (ofAggregate c a).length + 1 := by
    intro z hz hza
    have hpos : 0 < (ofAggregate z a).length := List.length_pos_iff.2 hza
    have hi : (ofAggregate c a).length < (ofAggregate (c ++ z) a).length := by simp [hpos]
    have hseq := hz.sequence_getElem a _ hi
    simp only [ofAggregate_append, List.getElem_append_right (Nat.le_refl _), Nat.sub_self] at hseq
    have hmem := mem_ofAggregate.1 (List.getElem_mem hpos)
    exact ⟨_, hmem.1, hmem.2, hseq⟩
  obtain ⟨e, he, hea, hes⟩ := first x hx hne.1
  obtain ⟨e', he', hea', hes'⟩ := first y hy hne.2
  exact hxy e he e' he' (.inl ⟨hea.trans hea'.symm, hes.trans hes'.symm⟩)

/-- Committing one session's rows keeps what another session sees well formed. -/
theorem WellFormed.merge {c x y : List (DomainEvent α β κ)}
    (hx : WellFormed (c ++ x)) (hy : WellFormed (c ++ y))
    (hxy : ∀ e ∈ x, ∀ e' ∈ y, ¬ Conflicts e e') : WellFormed (c ++ x ++ y) := by
  constructor
  · intro a
    -- an aggregate has new events in one of the two logs at most
    rcases WellFormed.ofAggregate_eq_nil hx hy hxy a with hnil | hnil
    · simpa [ofAggregate_append, hnil] using hy.sequences a
    · simpa [ofAggregate_append, hnil] using hx.sequences a
  · have hkx := hx.keys
    have hky := hy.keys
    rw [List.pairwise_append] at hkx hky ⊢
    refine ⟨hx.keys, hky.2.1, ?_⟩
    intro e he e' he'
    rcases List.mem_append.1 he with he | he
    · exact hky.2.2 e he e' he'
    · exact fun hk => hxy e he e' he' (.inr hk)

end WellFormed

/-! ## What a step can do -/

section Steps

variable [DecidableEq ι]

namespace Store

variable {s : Store ι α β κ} {i j : ι} {c : Call α β κ} {req : Request α β κ}
  {e : DomainEvent α β κ}

@[simp] theorem setCall_committed : (s.setCall i c).committed = s.committed := rfl

@[simp] theorem setCall_projected : (s.setCall i c).projected = s.projected := rfl

/-- A call moves on without a write. -/
@[simp] theorem setCall_own : ((s.setCall i c).session j).own = (s.session j).own := by
  by_cases h : j = i
  · subst h; simp [setCall, setSession]
  · simp [setCall, setSession, h]

/-- The call is where it moved to. -/
@[simp] theorem setCall_call : ((s.setCall i c).session i).call = some c := by
  simp [setCall, setSession]

/-- The call of another session stays. -/
theorem setCall_call_ne (h : j ≠ i) : ((s.setCall i c).session j).call = (s.session j).call := by
  simp [setCall, setSession, h]

/-- A call moves on without a change in what is seen. -/
@[simp] theorem setCall_visible : (s.setCall i c).visible j = s.visible j := by
  simp [visible]

@[simp] theorem insertRow_committed : (s.insertRow i req e).committed = s.committed := rfl

/-- The inserting session holds the event. -/
@[simp] theorem insertRow_own_self :
    ((s.insertRow i req e).session i).own = (s.session i).own ++ [e] := by
  simp [insertRow, setSession]

/-- An insert leaves the other sessions. -/
theorem insertRow_session_ne (h : j ≠ i) : (s.insertRow i req e).session j = s.session j := by
  simp [insertRow, setSession, h]

/-- The event inserted is projected next. -/
@[simp] theorem insertRow_call :
    ((s.insertRow i req e).session i).call = some (.running req (.project e)) := by
  simp [insertRow, setSession]

/-- The inserting session sees the event last. -/
@[simp] theorem insertRow_visible_self : (s.insertRow i req e).visible i = s.visible i ++ [e] := by
  simp [visible]

/-- Another session does not see the row before the commit. -/
theorem insertRow_visible_ne (h : j ≠ i) : (s.insertRow i req e).visible j = s.visible j := by
  simp [visible, insertRow_session_ne h]

@[simp] theorem runProjector_committed : (s.runProjector i req e).committed = s.committed := rfl

/-- A projection writes no event. -/
@[simp] theorem runProjector_own :
    ((s.runProjector i req e).session j).own = (s.session j).own := by
  by_cases h : j = i
  · subst h; simp [runProjector, setSession]
  · simp [runProjector, setSession, h]

/-- The event projected is returned as new. -/
@[simp] theorem runProjector_call :
    ((s.runProjector i req e).session i).call = some (.returned req e true) := by
  simp [runProjector, setSession]

/-- A projection leaves the other sessions. -/
theorem runProjector_session_ne (h : j ≠ i) :
    (s.runProjector i req e).session j = s.session j := by
  simp [runProjector, setSession, h]

/-- A projection leaves the events that are seen. -/
@[simp] theorem runProjector_visible : (s.runProjector i req e).visible j = s.visible j := by
  simp [visible]

@[simp] theorem commit_committed : (s.commit i).committed = s.visible i := rfl

/-- After a commit the session holds nothing. -/
@[simp] theorem commit_own_self : ((s.commit i).session i).own = [] := by simp [commit]

/-- A commit leaves the calls. -/
@[simp] theorem commit_call : ((s.commit i).session j).call = (s.session j).call := by
  by_cases h : j = i
  · subst h; simp [commit]
  · simp [commit, h]

/-- A commit leaves the other sessions. -/
theorem commit_session_ne (h : j ≠ i) : (s.commit i).session j = s.session j := by
  simp [commit, h]

/-- A commit leaves what the session sees. -/
@[simp] theorem commit_visible_self : (s.commit i).visible i = s.visible i := by
  simp [visible]

/-- What another session sees after a commit. -/
theorem commit_visible_ne (h : j ≠ i) :
    (s.commit i).visible j = s.committed ++ (s.session i).own ++ (s.session j).own := by
  simp [visible, commit_session_ne h]

@[simp] theorem rollback_committed : (s.rollback i).committed = s.committed := rfl

/-- After a rollback the session holds nothing. -/
@[simp] theorem rollback_own_self : ((s.rollback i).session i).own = [] := by
  simp [rollback, setSession]

/-- A rollback ends the call. -/
@[simp] theorem rollback_call_self : ((s.rollback i).session i).call = none := by
  simp [rollback, setSession]

/-- A rollback leaves the other sessions. -/
theorem rollback_session_ne (h : j ≠ i) : (s.rollback i).session j = s.session j := by
  simp [rollback, setSession, h]

/-- After a rollback the session sees the log. -/
@[simp] theorem rollback_visible_self : (s.rollback i).visible i = s.committed := by
  simp [visible]

/-- Another session sees after a rollback what it saw. -/
theorem rollback_visible_ne (h : j ≠ i) : (s.rollback i).visible j = s.visible j := by
  simp [visible, rollback_session_ne h]

end Store

variable [Fintype ι] [DecidableEq α] [DecidableEq κ]
variable {s s' : Store ι α β κ} {l : Label ι α β κ}

/-- The slot that a call is about to insert into, or has just tried. -/
def Call.slot : Call α β κ → Option (α × Nat)
  | .running req (.insert _ _ next) | .running req (.slotCheck _ _ next) =>
    some (req.aggregate, next)
  | _ => none

/-- The session and the row it tries to insert, if the step is an insert. -/
def Store.attempted (s : Store ι α β κ) : Label ι α β κ → Option (ι × DomainEvent α β κ)
  | .statement i =>
    match (s.session i).call with
    | some (.running req (.insert _ t next)) => some (i, req.candidate t next)
    | _ => none
  | _ => none

omit [DecidableEq ι] [Fintype ι] [DecidableEq α] [DecidableEq κ] in
/-- The row that the insert statement of a call attempts. -/
theorem Store.attempted_insert {i : ι} {req : Request α β κ} {n next : Nat} {t : Time}
    (hc : (s.session i).call = some (.running req (.insert n t next))) :
    s.attempted (.statement i) = some (i, req.candidate t next) := by
  simp [attempted, hc]

/-- A session whose call is not running. -/
def Session.Idle (t : Session α β κ) : Prop := ∀ req pc, t.call ≠ some (.running req pc)

/-- The moves of a call that store nothing: the label, the call before, the call after. -/
inductive CallMove (s : Store ι α β κ) (i : ι) :
    Label ι α β κ → Option (Call α β κ) → Call α β κ → Prop
  | start {c} (req : Request α β κ) (h : ∀ req pc, c ≠ some (.running req pc)) :
    CallMove s i (.call i req) c (.running req .checkKey)
  | foundFirst {req e} (h : s.existing i req = some e) :
    CallMove s i (.statement i) (some (.running req .checkKey)) (.returned req e false)
  | notFoundFirst {req} (h : s.existing i req = none) :
    CallMove s i (.statement i) (some (.running req .checkKey)) (.running req .readClock)
  | clock {req} (t : Time) :
    CallMove s i (.clock i t) (some (.running req .readClock)) (.running req (.attempt 0 t))
  | exhausted {req n t} (h : maxAppendAttempts ≤ n) :
    CallMove s i (.statement i) (some (.running req (.attempt n t)))
      (.raised req .concurrentAppendError)
  | found {req n t e} (h : s.existing i req = some e) :
    CallMove s i (.statement i) (some (.running req (.attempt n t))) (.returned req e false)
  | notFound {req n t} (h : s.existing i req = none) :
    CallMove s i (.statement i) (some (.running req (.attempt n t))) (.running req (.readMax n t))
  | next {req n t} :
    CallMove s i (.statement i) (some (.running req (.readMax n t)))
      (.running req (.insert n t (nextAggregateSequence (s.visible i) req.aggregate)))
  | refused {req n t next} (h : Refused s i (req.candidate t next)) :
    CallMove s i (.statement i) (some (.running req (.insert n t next)))
      (.running req (.slotCheck n t next))
  | retry {req n t next} (h : SlotTaken s i req.aggregate next) :
    CallMove s i (.statement i) (some (.running req (.slotCheck n t next)))
      (.running req (.attempt (n + 1) t))
  | raise {req n t next} (h : ¬ SlotTaken s i req.aggregate next) :
    CallMove s i (.statement i) (some (.running req (.slotCheck n t next)))
      (.raised req .integrityError)

/-- Everything a step can do: move a call, store a row, run a projector, commit or roll
    back. -/
inductive Effect (s : Store ι α β κ) : Label ι α β κ → Store ι α β κ → Prop
  | move {l i c} (h : CallMove s i l (s.session i).call c) : Effect s l (s.setCall i c)
  | insert {i req n t next} (hc : (s.session i).call = some (.running req (.insert n t next)))
    (hr : ¬ Refused s i (req.candidate t next)) (hb : ¬ Blocked s i (req.candidate t next)) :
    Effect s (.statement i) (s.insertRow i req (req.candidate t next))
  | project {i req e} (hc : (s.session i).call = some (.running req (.project e))) :
    Effect s (.statement i) (s.runProjector i req e)
  | commit {i} (h : (s.session i).Idle) : Effect s (.commit i) (s.commit i)
  | rollback {i} : Effect s (.rollback i) (s.rollback i)

/-- A statement of a call has one of the effects. -/
private theorem statement_cases {i : ι} {req : Request α β κ} {pc : Pc α β κ}
    (hc : (s.session i).call = some (.running req pc)) (h : execStatement s i req pc = some s') :
    Effect s (.statement i) s' := by
  have move : ∀ {c}, CallMove s i (.statement i) (some (.running req pc)) c →
      Effect s (.statement i) (s.setCall i c) :=
    fun hm => .move (hc ▸ hm)
  -- one case for each place that a call can be at
  cases pc with
  | checkKey =>
    simp only [execStatement] at h
    split at h <;> obtain rfl := Option.some.inj h
    · exact move (.foundFirst (by assumption))
    · exact move (.notFoundFirst (by assumption))
  | readClock => exact nomatch h
  | attempt n t =>
    simp only [execStatement] at h
    split at h
    · split at h <;> obtain rfl := Option.some.inj h
      · exact move (.found (by assumption))
      · exact move (.notFound (by assumption))
    · obtain rfl := Option.some.inj h
      exact move (.exhausted (by omega))
  | readMax n t =>
    obtain rfl := Option.some.inj h
    exact move .next
  | insert n t next =>
    simp only [execStatement] at h
    split at h
    · obtain rfl := Option.some.inj h
      exact move (.refused (by assumption))
    · split at h
      · exact nomatch h
      · obtain rfl := Option.some.inj h
        exact .insert hc (by assumption) (by assumption)
  | slotCheck n t next =>
    simp only [execStatement] at h
    split at h <;> obtain rfl := Option.some.inj h
    · exact move (.retry (by assumption))
    · exact move (.raise (by assumption))
  | project e =>
    obtain rfl := Option.some.inj h
    exact .project hc

/-- Every step has one of the effects. -/
theorem step_cases (h : step s l = some s') : Effect s l s' := by
  -- the labels that the store refuses have no case of their own
  cases l with
  | call i req =>
    simp only [step] at h
    split at h
    · exact nomatch h
    · rename_i hidle
      obtain rfl := Option.some.inj h
      exact .move (.start req hidle)
  | clock i t =>
    simp only [step] at h
    split at h
    · rename_i req hc
      obtain rfl := Option.some.inj h
      exact .move (hc ▸ .clock t)
    · exact nomatch h
  | statement i =>
    simp only [step] at h
    split at h
    · exact statement_cases (by assumption) h
    · exact nomatch h
  | commit i =>
    simp only [step] at h
    split at h
    · exact nomatch h
    · rename_i hidle
      obtain rfl := Option.some.inj h
      exact .commit hidle
  | rollback i =>
    obtain rfl := Option.some.inj h
    exact .rollback

/-- The session whose step the label is. -/
def Label.session : Label ι α β κ → ι
  | .call i _ | .clock i _ | .statement i | .commit i | .rollback i => i

omit [DecidableEq ι] [Fintype ι] [DecidableEq α] in
/-- A call moves by a step of its own session. -/
theorem CallMove.session_eq [DecidableEq α] {i : ι} {o : Option (Call α β κ)} {c : Call α β κ}
    (h : CallMove s i l o c) : l.session = i := by
  cases h <;> rfl

/-- A running call executes its statement. -/
theorem step_statement {i : ι} {req : Request α β κ} {pc : Pc α β κ}
    (hc : (s.session i).call = some (.running req pc)) :
    step s (.statement i) = execStatement s i req pc := by
  simp only [step, hc]

/-- A statement waits for the clock, or is an insert that waits for another session. -/
theorem execStatement_eq_none {i : ι} {req : Request α β κ} {pc : Pc α β κ}
    (h : execStatement s i req pc = none) :
    pc = .readClock ∨ ∃ n t next, pc = .insert n t next ∧ Blocked s i (req.candidate t next) := by
  -- only the clock and a row that another session blocks keep a call waiting
  cases pc with
  | readClock => exact .inl rfl
  | insert n t next =>
    simp only [execStatement] at h
    split at h
    · exact nomatch h
    · split at h
      · exact .inr ⟨n, t, next, rfl, by assumption⟩
      · exact nomatch h
  | checkKey => simp only [execStatement] at h; split at h <;> exact nomatch h
  | attempt n t =>
    simp only [execStatement] at h
    split at h
    · split at h <;> exact nomatch h
    · exact nomatch h
  | slotCheck n t next => simp only [execStatement] at h; split at h <;> exact nomatch h
  | _ => exact nomatch h

end Steps

/-! ## The invariant -/

section Invariant

variable [DecidableEq α] {s s' : Store ι α β κ} {l : Label ι α β κ}

/-- What every reachable state satisfies. -/
structure Store.Inv (s : Store ι α β κ) : Prop where
  committed : WellFormed s.committed
  visible : ∀ i, WellFormed (s.visible i)
  /-- no two sessions hold conflicting uncommitted rows -/
  disjoint : ∀ i j, i ≠ j → ∀ e ∈ (s.session i).own, ∀ e' ∈ (s.session j).own, ¬ Conflicts e e'
  /-- a number about to be inserted is at most one past the aggregate's last -/
  slot : ∀ i c a n, (s.session i).call = some c → c.slot = some (a, n) →
    1 ≤ n ∧ n ≤ (ofAggregate (s.visible i) a).length + 1

/-- A store without calls, on a well-formed log. -/
theorem inv_quiescent {log : List (DomainEvent α β κ)} (h : WellFormed log) :
    (Store.quiescent log : Store ι α β κ).Inv where
  committed := h
  visible := fun i => by simpa [Store.visible, Store.quiescent] using h
  disjoint := fun i j _ e he => by simp [Store.quiescent] at he
  slot := fun i c a n hc => by simp [Store.quiescent] at hc

section Preserved

variable [DecidableEq ι]

/-- The projection writes no event. -/
theorem Store.Inv.project {i : ι} {req : Request α β κ} {e : DomainEvent α β κ} (h : s.Inv) :
    (s.runProjector i req e).Inv where
  committed := h.committed
  visible := fun j => by simpa using h.visible j
  disjoint := fun j k hjk => by simpa using h.disjoint j k hjk
  slot := fun j c a m hc hs => by
    by_cases hj : j = i
    · subst hj
      obtain rfl := Option.some.inj (Store.runProjector_call.symm.trans hc)
      exact nomatch hs
    · rw [Store.runProjector_visible]
      exact h.slot j c a m (by rwa [Store.runProjector_session_ne hj] at hc) hs

/-- A commit stores what its session has seen, which is well formed. -/
theorem Store.Inv.commit {i : ι} (h : s.Inv) : (s.commit i).Inv where
  committed := h.visible i
  visible := fun j => by
    by_cases hj : j = i
    · subst hj
      rw [Store.commit_visible_self]
      exact h.visible j
    · rw [Store.commit_visible_ne hj]
      exact (h.visible i).merge (h.visible j) (h.disjoint i j (Ne.symm hj))
  disjoint := fun j k hjk e he e' he' => by
    by_cases hj : j = i
    · subst hj; simp at he
    · by_cases hk : k = i
      · subst hk; simp at he'
      · rw [Store.commit_session_ne hj] at he
        rw [Store.commit_session_ne hk] at he'
        exact h.disjoint j k hjk e he e' he'
  slot := fun j c a m hc hs => by
    rw [Store.commit_call] at hc
    have hold := h.slot j c a m hc hs
    by_cases hj : j = i
    · subst hj
      rw [Store.commit_visible_self]
      exact hold
    · -- committed rows only add to what the others see
      rw [Store.commit_visible_ne hj]
      simp only [Store.visible, ofAggregate_append, List.length_append] at hold ⊢
      omega

/-- A rollback takes the events of its session away. -/
theorem Store.Inv.rollback {i : ι} (h : s.Inv) : (s.rollback i).Inv where
  committed := h.committed
  visible := fun j => by
    -- the session that rolls back sees the committed log again
    by_cases hj : j = i
    · subst hj
      rw [Store.rollback_visible_self]
      exact h.committed
    · rw [Store.rollback_visible_ne hj]
      exact h.visible j
  disjoint := fun j k hjk e he e' he' => by
    by_cases hj : j = i
    · subst hj; simp at he
    · by_cases hk : k = i
      · subst hk; simp at he'
      · rw [Store.rollback_session_ne hj] at he
        rw [Store.rollback_session_ne hk] at he'
        exact h.disjoint j k hjk e he e' he'
  slot := fun j c a m hc hs => by
    by_cases hj : j = i
    · subst hj; simp at hc
    · rw [Store.rollback_visible_ne hj]
      exact h.slot j c a m (by rwa [Store.rollback_session_ne hj] at hc) hs

end Preserved

variable [DecidableEq κ]

/-- A move that stores nothing either picks the next number of the aggregate or keeps the
    slot it had. -/
theorem CallMove.slot {i : ι} {o : Option (Call α β κ)} {c : Call α β κ}
    (h : CallMove s i l o c)
    {a : α} {n : Nat} (hs : c.slot = some (a, n)) :
    n = nextAggregateSequence (s.visible i) a ∨ ∃ c', o = some c' ∧ c'.slot = some (a, n) := by
  cases h with
  | next =>
    obtain ⟨rfl, rfl⟩ := Prod.mk.inj (Option.some.inj hs)
    exact .inl rfl
  | refused => exact .inr ⟨_, rfl, hs⟩
  | _ => exact nomatch hs

variable [DecidableEq ι]

/-- A statement that inserts nothing. -/
theorem Store.Inv.move {i : ι} {c : Call α β κ} (h : s.Inv)
    (hm : CallMove s i l (s.session i).call c) : (s.setCall i c).Inv where
  committed := by simpa using h.committed
  visible := fun j => by simpa using h.visible j
  disjoint := fun j k hjk => by simpa using h.disjoint j k hjk
  slot := fun j c' a n hc hs => by
    rw [Store.setCall_visible]
    by_cases hj : j = i
    · subst hj
      obtain rfl := Option.some.inj (Store.setCall_call.symm.trans hc)
      rcases hm.slot hs with rfl | ⟨c₀, hc₀, hs₀⟩
      · rw [(h.visible j).nextAggregateSequence]; omega
      · exact h.slot j c₀ a n hc₀ hs₀
    · exact h.slot j c' a n (by rwa [Store.setCall_call_ne hj] at hc) hs

omit [DecidableEq κ] [DecidableEq ι] in
/-- A row that is neither refused nor blocked carries the aggregate's next number. -/
theorem Store.Inv.insert_sequence {i : ι} {req : Request α β κ} {n next : Nat} {t : Time}
    (h : s.Inv) (hc : (s.session i).call = some (.running req (.insert n t next)))
    (hr : ¬ Refused s i (req.candidate t next)) :
    next = (ofAggregate (s.visible i) req.aggregate).length + 1 := by
  obtain ⟨h1, hle⟩ := h.slot i _ req.aggregate next hc rfl
  by_contra hne
  obtain ⟨e, he, hea, hes⟩ := (h.visible i).exists_sequence (a := req.aggregate) h1 (by omega)
  exact hr ⟨e, he, .inl ⟨hea, hes⟩⟩

omit [DecidableEq κ] in
/-- An insert that is neither refused nor blocked has the next number of its aggregate. -/
theorem Store.Inv.insert {i : ι} {req : Request α β κ} {n next : Nat} {t : Time} (h : s.Inv)
    (hc : (s.session i).call = some (.running req (.insert n t next)))
    (hr : ¬ Refused s i (req.candidate t next)) (hb : ¬ Blocked s i (req.candidate t next)) :
    (s.insertRow i req (req.candidate t next)).Inv where
  committed := h.committed
  visible := fun j => by
    by_cases hj : j = i
    · subst hj
      rw [Store.insertRow_visible_self]
      exact (h.visible j).snoc (h.insert_sequence hc hr) fun e he hk => hr ⟨e, he, .inr hk⟩
    · rw [Store.insertRow_visible_ne hj]
      exact h.visible j
  disjoint := by
    -- the new row conflicts with no other session's row: the insert was not blocked
    have free : ∀ j, j ≠ i → ∀ e ∈ (s.session j).own, ¬ Conflicts e (req.candidate t next) :=
      fun j hj e he hcf => hb ⟨j, hj, e, he, hcf⟩
    intro j k hjk e he e' he'
    by_cases hj : j = i
    · subst hj
      rw [Store.insertRow_session_ne (Ne.symm hjk)] at he'
      rw [Store.insertRow_own_self, List.mem_append, List.mem_singleton] at he
      rcases he with he | rfl
      · exact h.disjoint j k hjk e he e' he'
      · exact fun hcf => free k (Ne.symm hjk) e' he' hcf.symm
    · rw [Store.insertRow_session_ne hj] at he
      by_cases hk : k = i
      · subst hk
        rw [Store.insertRow_own_self, List.mem_append, List.mem_singleton] at he'
        rcases he' with he' | rfl
        · exact h.disjoint j k hjk e he e' he'
        · exact free j hj e he
      · rw [Store.insertRow_session_ne hk] at he'
        exact h.disjoint j k hjk e he e' he'
  slot := fun j c a m hc' hs => by
    by_cases hj : j = i
    · subst hj
      obtain rfl := Option.some.inj (Store.insertRow_call.symm.trans hc')
      exact nomatch hs
    · rw [Store.insertRow_visible_ne hj]
      exact h.slot j c a m (by rwa [Store.insertRow_session_ne hj] at hc') hs

variable [Fintype ι]

/-- One step preserves the invariant. -/
theorem Store.Inv.step (h : s.Inv) (hs : step s l = some s') : s'.Inv := by
  cases step_cases hs with
  | move hm => exact h.move hm
  | insert hc hr hb => exact h.insert hc hr hb
  | project _ => exact h.project
  | commit _ => exact h.commit
  | rollback => exact h.rollback

/-- The invariant holds along every run. -/
theorem Store.Inv.run {ok : Store ι α β κ → Label ι α β κ → Prop} (h : s.Inv)
    (hr : Run Events.step ok s s') : s'.Inv :=
  hr.invariant h fun _ _ _ hi _ hs => hi.step hs

/-! ## What a call does to the stored events -/

omit [DecidableEq κ] in
/-- The label is not a step that starts a call of session `i` or ends its transaction. -/
def WithinCall (i : ι) : Label ι α β κ → Prop
  | .call j _ | .commit j | .rollback j => j ≠ i
  | .clock _ _ | .statement _ => True

omit [DecidableEq α] [DecidableEq κ] [Fintype ι] in
instance (i : ι) : DecidablePred (WithinCall i : Label ι α β κ → Prop)
  | .call j _ | .commit j | .rollback j => inferInstanceAs (Decidable (j ≠ i))
  | .clock _ _ | .statement _ => .isTrue trivial

/-- Stored events stay: committed ones for ever, uncommitted ones until their session's
    transaction ends, and a commit keeps them all. -/
structure KeepsStored (s : Store ι α β κ) (l : Label ι α β κ) (s' : Store ι α β κ) : Prop where
  committed : s.committed <+: s'.committed
  uncommitted : ∀ i, l ≠ .commit i → l ≠ .rollback i → (s.session i).own <+: (s'.session i).own
  commit : ∀ i, l = .commit i → s'.committed = s.committed ++ (s.session i).own

/-- Every step keeps what is stored. -/
theorem step_keepsStored (hs : step s l = some s') : KeepsStored s l s' := by
  -- only a commit adds to the log, and only a rollback takes from a session
  cases step_cases hs with
  | @move _ i c hm =>
    refine ⟨by simp, by simp, fun j hj => ?_⟩
    subst hj
    exact nomatch hm
  | @insert i req n t next hc hr hb =>
    refine ⟨List.prefix_rfl, fun j _ _ => ?_, fun j hj => nomatch hj⟩
    by_cases hj : j = i
    · subst hj; simp
    · rw [Store.insertRow_session_ne hj]
  | project hc => exact ⟨List.prefix_rfl, by simp, fun j hj => nomatch hj⟩
  | @commit i hidle =>
    refine ⟨List.prefix_append .., fun j hj _ => ?_, fun j hj => ?_⟩
    · rw [Store.commit_session_ne fun h => hj (by rw [h])]
    · obtain rfl := Label.commit.inj hj
      rfl
  | @rollback i =>
    refine ⟨List.prefix_rfl, fun j _ hj => ?_, fun j hj => nomatch hj⟩
    rw [Store.rollback_session_ne fun h => hj (by rw [h])]

/-- Within a call the session's rows stay as they were until the call has stored its event,
    after which it returns. -/
theorem own_of_withinCall {i : ι} {own : List (DomainEvent α β κ)}
    (hr : Run step (fun _ l => WithinCall i l) s s') (hown : (s.session i).own = own) :
    (∃ req e, (s'.session i).call = some (.running req (.project e))) ∨
      (∃ req e b, (s'.session i).call = some (.returned req e b)) ∨ (s'.session i).own = own := by
  -- by induction on the run: the call inserts once, and then it cannot raise any more
  induction hr with
  | refl => exact .inr (.inr hown)
  | tail l _ hok hs ih =>
  cases step_cases hs with
  | @move _ j c hm =>
    by_cases hj : j = i
    · subst hj
      rcases ih with ⟨req, e, hc⟩ | ⟨req, e, b, hc⟩ | ih
      · rw [hc] at hm
        cases hm with
        | start _ h => exact absurd rfl (h _ _)
      · rw [hc] at hm
        cases hm with
        | start req' _ => exact absurd rfl hok
      · exact .inr (.inr (by simpa using ih))
    · simpa [Store.setCall_call_ne (Ne.symm hj)] using ih
  | @insert j req n t' next hc hr hb =>
    by_cases hj : j = i
    · subst hj
      exact .inl ⟨req, _, Store.insertRow_call⟩
    · simpa [Store.insertRow_session_ne (Ne.symm hj)] using ih
  | @project j req e hc =>
    by_cases hj : j = i
    · subst hj
      exact .inr (.inl ⟨req, e, true, Store.runProjector_call⟩)
    · simpa [Store.runProjector_session_ne (Ne.symm hj)] using ih
  | @commit j hidle =>
    rw [Store.commit_session_ne (Ne.symm hok)]
    exact ih
  | @rollback j =>
    rw [Store.rollback_session_ne (Ne.symm hok)]
    exact ih

/-- In every state that an interleaving of appends reaches: the stored events of each
    aggregate carry `1..n`, committed or as any session sees them, and no key occurs twice;
    no step of a call changes or removes a stored event, and a commit keeps them; and a
    call that ends by raising has stored nothing. -/
theorem event_store_invariant (h : Run step (fun _ _ => True) (Store.quiescent []) s) :
    (WellFormed s.committed ∧ ∀ i, WellFormed (s.visible i)) ∧
      (∀ l s', step s l = some s' → KeepsStored s l s') ∧
      ∀ i req s₁ s₂ req' error, step s (.call i req) = some s₁ →
        Run step (fun _ l => WithinCall i l) s₁ s₂ →
        (s₂.session i).call = some (.raised req' error) →
        (s₂.session i).own = (s.session i).own := by
  have hinv := (inv_quiescent wellFormed_nil).run h
  refine ⟨⟨hinv.committed, hinv.visible⟩, fun l s' hs => step_keepsStored hs, ?_⟩
  intro i req s₁ s₂ req' error hcall hrun hraised
  have hown : (s₁.session i).own = (s.session i).own := by
    cases step_cases hcall with
    | move _ => simp
  -- a call that has inserted is projecting or has returned, so it has not raised
  rcases own_of_withinCall hrun hown with ⟨_, _, hc⟩ | ⟨_, _, _, hc⟩ | ho
  · rw [hc] at hraised; exact nomatch hraised
  · rw [hc] at hraised; exact nomatch hraised
  · exact ho

end Invariant

/-! ## Two racing sessions -/

section Race

/-- Two sessions. -/
inductive Writer
  | a
  | b
  deriving DecidableEq

/-- There are two writers. -/
theorem Writer.mem_all (w : Writer) : w ∈ ({.a, .b} : Finset Writer) := by cases w <;> simp

instance : Fintype Writer := ⟨{.a, .b}, Writer.mem_all⟩

/-- Session `i`'s call up to the look-up of the next number: its key is not stored yet. -/
def lookUps (i : ι) (req : Request α β κ) (now : Time) : List (Label ι α β κ) :=
  [.call i req, .statement i, .clock i now, .statement i]

/-- The rest of a call that wins its slot at once, and the commit. -/
def storeAndCommit (i : ι) : List (Label ι α β κ) :=
  [.statement i, .statement i, .statement i, .commit i]

/-- A request on one of two aggregates, under one key. -/
def keyedRequest (a : Nat) : Request Nat Unit Nat where
  aggregate := a
  body := ()
  idempotencyKey := some 7

/-- The steps after writer `b` has called: both sessions find the key absent, writer `a`
    stores its event and commits, then writer `b` is refused on the key. -/
def keyRace : List (Label Writer Nat Unit Nat) :=
  [.statement .b, .clock .b 11, .statement .b] ++ lookUps .a (keyedRequest 0) 12 ++
    storeAndCommit .a ++ [.statement .b, .statement .b, .statement .b]

/-- `event_store_invariant` at the end of the race and over the call that loses it. -/
theorem event_store_invariant_race :
    ∃ s₁ s : Store Writer Nat Unit Nat,
      step (Store.quiescent []) (.call .b (keyedRequest 1)) = some s₁ ∧
      Run.exec step s₁ keyRace = some s ∧
      (s.session .b).call = some (.raised (keyedRequest 1) .integrityError) ∧
      WellFormed s.committed ∧ (s.session .b).own = [] := by
  refine ⟨_, _, rfl, rfl, rfl, ?_, ?_⟩
  · exact (event_store_invariant
      (Run.of_exec_true (.call .b (keyedRequest 1) :: keyRace) rfl)).1.1
  · exact (event_store_invariant .refl).2.2 .b (keyedRequest 1) _ _ _ _ rfl
      (Run.of_exec_guarded keyRace rfl) rfl

end Race
end MiniGrc.Events
