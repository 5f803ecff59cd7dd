import MiniGrc.Spec.OccurrenceGeneration
import MiniGrc.App.ConcurrentPeriods

/-!
# Closed control periods

Every request that activates a period or adds occurrences to it has found the period open,
but it looks only once: the period may be closed by the time the request commits. Then it is
opened again, or it gains the occurrences all the same. As long as every such request finds
the period open when it commits, too, the statuses only advance and a closed period stays as
it is.

## Key results

- `serve_alone_open`: a request that is served alone finds the period open
- `closed_of_run`: if the requests that commit still find the period open, then closed periods
  gain nothing
- `closed_gains`: a schedule in which a closed period gains an occurrence
- `closed_reopened`: a schedule in which a closed period becomes active again
-/

namespace MiniGrc.ConcurrentPeriods

open Events ControlOccurrences

variable {ι : Type} [DecidableEq ι] {clock : Clock} {t t' : Tables} {p : Id} {change : Change}

/-! ## Closed periods in a history -/

/-- The status of a period. -/
def Tables.status (t : Tables) (periodId : Id) : Option ControlPeriodStatus :=
  (t.periods[periodId]?).map PeriodRow.status

/-- A status stays, or a planned period is activated, an active one closed, or a planned one
    closed. -/
inductive StatusMove : Option ControlPeriodStatus → Option ControlPeriodStatus → Prop
  | same (status : Option ControlPeriodStatus) : StatusMove status status
  | activated : StatusMove (some .planned) (some .active)
  | closed : StatusMove (some .active) (some .closed)
  | closedUnused : StatusMove (some .planned) (some .closed)

/-- A closed period stays closed. -/
theorem StatusMove.eq_closed {status : Option ControlPeriodStatus}
    (h : StatusMove (some .closed) status) : status = some .closed := by
  cases h
  rfl

/-- The occurrences that the period has in `t'` are those of `t`. -/
def GainsNone (periodId : Id) (t t' : Tables) : Prop :=
  ∀ (k : Id) (row : ControlOccurrence), t'.occurrences.rows[k]? = some row →
    row.controlPeriodId = some periodId → t.occurrences.rows[k]? = some row

/-- What is promised of the committed states, in their order. -/
structure ClosedForGood (states : List Tables) : Prop where
  status : states.IsChain fun t t' => ∀ p, StatusMove (t.status p) (t'.status p)
  gains : states.Pairwise fun t t' => ∀ p, t.status p = some .closed → GainsNone p t t'

/-! ## What a commit relies on -/

/-- Whether the occurrence still has to be added: a generated one is found by its key. -/
def NewOccurrence.isNew (periodId : Option Id) (s : OccurrenceSession) : NewOccurrence → Bool
  | .generated control _ _ dueDate _ _ =>
    (findByIdempotencyKey s.events (materializeKey control.id periodId dueDate)).isNone
  | .manual _ _ _ _ _ _ => true

/-- The period that the change takes to be open. -/
def Change.opens (t : Tables) : Change → Option Id
  | .activate periodId => some periodId
  | .add periodId occurrences =>
    if occurrences.any (NewOccurrence.isNew periodId t.occurrences) then periodId else .none
  | _ => .none

/-- A request that commits an activation of a period, or new occurrences for one, still finds
    the period open. -/
def StillOpen (s : State ι) (label : Server.Label ι Request) : Prop :=
  ∀ change ∈ s.committing label, ∀ p ∈ change.opens s.committed,
    s.committed.status p ≠ some .closed

instance (s : State ι) (label : Server.Label ι Request) : Decidable (StillOpen s label) :=
  inferInstanceAs (Decidable (∀ change ∈ s.committing label, ∀ p ∈ change.opens s.committed,
    s.committed.status p ≠ some .closed))

/-! ## Appended occurrences -/

/-- An append of an occurrence that is not new changes nothing. -/
theorem append_of_not_isNew {P : Projection (Table ControlOccurrence) Body}
    {periodId : Option Id} {s : OccurrenceSession} {occurrence : NewOccurrence}
    (h : occurrence.isNew periodId s = false) :
    occurrence.append P clock periodId s = .returned s := by
  cases occurrence with
  | generated control interval version dueDate newId actor =>
    refine appendAndProject_of_not_fresh (not_fresh_iff.2 ?_)
    exact Option.isSome_iff_exists.1 (by simpa [NewOccurrence.isNew] using h)
  | manual _ _ _ _ _ _ => cases h

/-- Appends of occurrences that are not new change nothing. -/
theorem appendAll_of_not_isNew {P : Projection (Table ControlOccurrence) Body}
    {periodId : Option Id} {s : OccurrenceSession} {occurrences : List NewOccurrence}
    (h : occurrences.any (NewOccurrence.isNew periodId s) = false) :
    appendAll P clock periodId occurrences s = .returned s := by
  induction occurrences with
  | nil => rfl
  | cons occurrence rest ih =>
    simp only [List.any_cons, Bool.or_eq_false_iff] at h
    rw [appendAll, append_of_not_isNew h.1]
    exact ih h.2

/-- The period of an occurrence that a session adds. -/
def AddsTo (periodId : Option Id) (s s' : OccurrenceSession) : Prop :=
  ∀ (k : Id) (row : ControlOccurrence), s'.rows[k]? = some row →
    s.rows[k]? = some row ∨ row.controlPeriodId = periodId

theorem AddsTo.refl (periodId : Option Id) (s : OccurrenceSession) : AddsTo periodId s s :=
  fun _ _ h => .inl h

/-- Two additions, one after the other. -/
theorem AddsTo.trans {periodId : Option Id} {s s' s'' : OccurrenceSession}
    (h : AddsTo periodId s s') (h' : AddsTo periodId s' s'') : AddsTo periodId s s'' := by
  intro k row hrow
  rcases h' k row hrow with hrow | hperiod
  · exact h k row hrow
  · exact .inr hperiod

/-- The event of an occurrence to be added creates its row, with the period of the body. -/
theorem row_new {flushed : FlushTimes} {before : Option ControlOccurrence}
    {o : ControlOccurrence} {e : Event} {periodId : Option Id} (h : row flushed before e = .ok o)
    (hbody : (∃ p, e.body = .materialized p ∧ p.controlPeriodId = periodId) ∨
      ∃ p, e.body = .recordedManually p ∧ p.controlPeriodId = periodId) :
    o.controlPeriodId = periodId := by
  rcases hbody with ⟨p, hb, rfl⟩ | ⟨p, hb, rfl⟩
  · cases before <;> simp only [row, hb, reduceCtorEq, Except.ok.injEq] at h
    exact h ▸ rfl
  · cases before <;> simp only [row, hb, reduceCtorEq, Except.ok.injEq] at h
    exact h ▸ rfl

/-- An event that creates an occurrence adds it to its period. -/
theorem appendAndProject_addsTo {present : TableName → Id → Bool} {referenced : Bool}
    {periodId : Option Id} {s : OccurrenceSession} {args : AppendArgs Id Body String}
    (hbody : (∃ p, args.body = .materialized p ∧ p.controlPeriodId = periodId) ∨
      ∃ p, args.body = .recordedManually p ∧ p.controlPeriodId = periodId) :
    (appendAndProject ((aggregateType clock.flushed).projection present referenced) clock s
      args).Returns (AddsTo periodId s) := by
  -- A repeated key appends nothing.
  by_cases hkey : s.Fresh args
  · rcases AggregateType.appendAndProject_cases (aggregateType clock.flushed) present referenced
      clock hkey with ⟨o, hrow, heq⟩ | ⟨t, x, -, heq⟩
    · rw [heq]
      intro k row hk
      rw [Table.get_insert] at hk
      split at hk
      · obtain rfl := Option.some.inj hk
        exact .inr (row_new hrow hbody)
      · exact .inl hk
    · rw [heq]
      trivial
  · rw [appendAndProject_of_not_fresh hkey]
    exact AddsTo.refl periodId s

/-- A new occurrence is added to its period. -/
theorem append_addsTo {present : TableName → Id → Bool} {referenced : Bool}
    (periodId : Option Id) (s : OccurrenceSession) (occurrence : NewOccurrence) :
    (occurrence.append ((aggregateType clock.flushed).projection present referenced) clock periodId
      s).Returns (AddsTo periodId s) := by
  cases occurrence with
  | generated control interval version dueDate newId actor =>
    unfold NewOccurrence.append materialize
    exact appendAndProject_addsTo (.inl ⟨_, rfl, rfl⟩)
  | manual controlId version dueAt scopeNote newId actor =>
    unfold NewOccurrence.append recordOccurrenceManually
    exact appendAndProject_addsTo (.inr ⟨_, rfl, rfl⟩)

/-- New occurrences are added to their period. -/
theorem appendAll_addsTo {present : TableName → Id → Bool} {referenced : Bool}
    (periodId : Option Id) (s : OccurrenceSession) (occurrences : List NewOccurrence) :
    (appendAll ((aggregateType clock.flushed).projection present referenced) clock periodId
      occurrences s).Returns (AddsTo periodId s) := by
  induction occurrences generalizing s with
  | nil => exact AddsTo.refl periodId s
  | cons occurrence rest ih =>
    refine (append_addsTo periodId s occurrence).andThen fun s₁ hfirst => ?_
    exact (ih s₁).mono fun s₂ => hfirst.trans

/-! ## Commits -/

/-- An update of one period leaves the status of the others. -/
theorem status_updatePeriod {f : PeriodRow → PeriodRow} {q : Id} :
    (t.updatePeriod q f).status p =
      if q = p then (t.periods[p]?).map fun row => (f row).status else t.status p := by
  simp only [Tables.status, Tables.updatePeriod, Table.get_alter]
  split
  · next h => subst h; simp [Function.comp_def]
  · rfl

/-- What a commit does to a period. -/
def Respects (t t' : Tables) : Prop :=
  ∀ p, StatusMove (t.status p) (t'.status p) ∧ (t.status p = some .closed → GainsNone p t t')

theorem Respects.refl (t : Tables) : Respects t t :=
  fun _ => ⟨.same _, fun _ _ _ hrow _ => hrow⟩

/-- An update of a status adds no occurrence. -/
theorem respects_updatePeriod {q : Id} {f : PeriodRow → PeriodRow}
    (hf : ∀ row, t.periods[q]? = some row → StatusMove (some row.status) (some (f row).status)) :
    Respects t (t.updatePeriod q f) := by
  intro p
  refine ⟨?_, fun _ _ _ hrow _ => hrow⟩
  rw [status_updatePeriod]
  split
  · next h =>
    subst h
    unfold Tables.status
    cases hrow : t.periods[q]? with
    | none => exact .same _
    | some row => exact hf row hrow
  · exact .same _

/-- A change that still finds its period open moves the statuses on, and leaves the occurrences
    of closed periods alone. -/
theorem respects_apply (happly : change.apply clock t = .ok t')
    (hopen : ∀ p ∈ change.opens t, t.status p ≠ some .closed) : Respects t t' := by
  cases change with
  | none =>
    obtain rfl := Except.ok.inj happly
    exact .refl t
  | activate q =>
    obtain rfl := Except.ok.inj happly
    refine respects_updatePeriod fun row hrow => ?_
    have hnot : row.status ≠ .closed := by
      simpa [Tables.status, hrow] using hopen q rfl
    cases hstatus : row.status with
    | planned => exact .activated
    | active => exact .same _
    | closed => exact absurd hstatus hnot
  | close q now =>
    obtain rfl := Except.ok.inj happly
    refine respects_updatePeriod fun row _ => ?_
    cases row.status with
    | planned => exact .closedUnused
    | active => exact .closed
    | closed => exact .same _
  | add periodId occurrences =>
    have hadds : (appendAll ((aggregateType clock.flushed).projection t.present true) clock periodId
        occurrences t.occurrences).Returns (AddsTo periodId t.occurrences) :=
      appendAll_addsTo periodId t.occurrences occurrences
    simp only [Change.apply] at happly
    split at happly
    · next s' hs' =>
      obtain rfl := Except.ok.inj happly
      rw [hs'] at hadds
      refine fun p => ⟨.same _, fun hclosed k row hk hperiod => ?_⟩
      rcases hadds k row hk with hold | hnew
      · exact hold
      -- the period of the row is closed, so that none of the occurrences was new
      · have hfound : occurrences.any (NewOccurrence.isNew periodId t.occurrences) = false := by
          refine Bool.eq_false_iff.2 fun hany => hopen p ?_ hclosed
          simp only [Change.opens, hany, if_true]
          exact hnew.symm.trans hperiod
        rw [appendAll_of_not_isNew hfound] at hs'
        exact Outcome.returned.inj hs' ▸ hk
    · cases happly

/-- A step respects the closed periods if it finds the period open. -/
theorem respects_step {s s' : State ι} {l : Server.Label ι Request} (hok : StillOpen s l)
    (hs : step clock s l = some s') : Respects s.committed s'.committed := by
  rcases Server.committed_step hs with heq | ⟨change, hchange, happly⟩
  · exact heq ▸ .refl _
  · exact respects_apply happly (hok change hchange)

/-! ## Requests alone -/

/-- The change of a request that is served alone finds its period open. -/
def FindsOpen (t : Tables) (result : Change × Answer) : Prop :=
  ∀ p ∈ result.1.opens t, t.status p ≠ some .closed

/-- To change nothing needs no period. -/
theorem findsOpen_none (a : Answer) : FindsOpen t (.none, a) := by
  rintro p ⟨⟩

/-- Occurrences without a period do not need one. -/
theorem findsOpen_add_none (occurrences : List NewOccurrence) (a : Answer) :
    FindsOpen t (.add none occurrences, a) := by
  intro p hp
  simp [Change.opens] at hp

/-- Adding to a period needs it active. -/
theorem findsOpen_add {q : Id} {row : PeriodRow} (hrow : t.periods[q]? = some row)
    (hactive : row.status = .active) (occurrences : List NewOccurrence) (a : Answer) :
    FindsOpen t (.add (some q) occurrences, a) := by
  intro p hp
  simp only [Change.opens, Option.mem_def, Option.ite_none_right_eq_some, Option.some.injEq] at hp
  obtain ⟨-, rfl⟩ := hp
  simp [Tables.status, hrow, hactive]

/-- A period that is missing is not found open. -/
theorem getPeriod_alone {q : Id} {next : PeriodRow → PeriodTxn}
    (h : ∀ row, t.periods[q]? = some row → FindsOpen t ((next row).alone t)) :
    FindsOpen t ((getPeriod q next).alone t) := by
  simp only [getPeriod, Txn.alone_query]
  split
  · exact findsOpen_none _
  · next row hrow => exact h row hrow

/-- A control that is missing changes nothing. -/
theorem getControl_alone {c : Id} {next : InternalControl → PeriodTxn}
    (h : ∀ control, FindsOpen t ((next control).alone t)) :
    FindsOpen t ((getControl c next).alone t) := by
  simp only [getControl, Txn.alone_query]
  split
  · exact findsOpen_none _
  · exact h _

/-- Generating occurrences finds the period open, or fails. -/
theorem generate_alone {control : InternalControl} {period : Option ControlPeriod} {today : Date}
    {newIds : Nat → Id} {actor : Actor} {next : List NewOccurrence → PeriodTxn}
    (h : ∀ occurrences, FindsOpen t ((next occurrences).alone t)) :
    FindsOpen t ((generate control period today newIds actor next).alone t) := by
  unfold generate
  -- Every refusal changes nothing.
  split
  · split
    · split
      · exact findsOpen_none _
      · simp only [Txn.alone_query]
        split
        · exact findsOpen_none _
        · exact h _
    · exact h _
  · exact h _

/-- Generating for every control finds the period open, or fails. -/
theorem generateEach_alone {period : ControlPeriod} {today : Date} {newIds : Id → Nat → Id}
    {actor : Actor} {next : List NewOccurrence → PeriodTxn}
    (h : ∀ occurrences, FindsOpen t ((next occurrences).alone t)) (controls : List InternalControl)
    (added : List NewOccurrence) :
    FindsOpen t ((generateEach period today newIds actor next controls added).alone t) := by
  induction controls generalizing added with
  | nil => exact h added
  | cons control controls ih => exact generate_alone fun occurrences => ih _

/-- Recording by hand finds the period open, or fails. -/
theorem recordManually_alone {c : Id} {periodId : Option Id} {due : Option (Option DateTime)}
    {scopeNote : String} {newId : Id} {actor : Actor}
    (h : ∀ occurrences a, FindsOpen t (.add periodId occurrences, a)) :
    FindsOpen t ((recordManually c periodId due scopeNote newId actor).alone t) := by
  cases due with
  | none => exact findsOpen_none _
  | some dueAt => exact h _ _

/-- Every request checks the period: served alone, it finds the period open when it commits. -/
theorem serve_alone_open (request : Request) (t : Tables) :
    ∀ p ∈ (request.serve.alone t).1.opens t, t.status p ≠ some .closed := by
  change FindsOpen t (request.serve.alone t)
  -- A request opens the periods it activates and adds to those that are active.
  cases request with
  | activate q =>
    refine getPeriod_alone fun row hrow => ?_
    split
    · exact findsOpen_none _
    · next hplanned =>
      rintro p ⟨⟩
      simp [Tables.status, hrow, not_not.1 hplanned]
  | close q now =>
    refine getPeriod_alone fun row hrow => ?_
    split
    · exact findsOpen_none _
    · rintro p ⟨⟩
  | generatePeriod q today newIds actor =>
    refine getPeriod_alone fun row hrow => ?_
    split
    · exact findsOpen_none _
    · next hactive =>
      exact generateEach_alone (fun _ => findsOpen_add hrow (not_not.1 hactive) _ _) _ _
  | generateControl c today newIds actor =>
    exact getControl_alone fun control => generate_alone fun _ => findsOpen_add_none _ _
  | record c periodId due scopeNote newId actor =>
    refine getControl_alone fun control => ?_
    cases periodId with
    | none => exact recordManually_alone findsOpen_add_none
    | some q =>
      refine getPeriod_alone fun row hrow => ?_
      split
      · exact findsOpen_none _
      · next hactive => exact recordManually_alone (findsOpen_add hrow (not_not.1 hactive))

/-! ## Histories -/

/-- Closed periods stay closed, and have no new occurrences. -/
def KeepsClosed (t t' : Tables) : Prop :=
  ∀ p, t.status p = some .closed → t'.status p = some .closed ∧ GainsNone p t t'

/-- Tables that respect a closed period keep it closed. -/
theorem Respects.keepsClosed (h : Respects t t') : KeepsClosed t t' := by
  intro p hclosed
  obtain ⟨hmove, hgains⟩ := h p
  refine ⟨?_, hgains hclosed⟩
  exact StatusMove.eq_closed (hclosed ▸ hmove)

instance : Trans KeepsClosed KeepsClosed KeepsClosed where
  trans h h' p hclosed := by
    obtain ⟨hclosed', hgains⟩ := h p hclosed
    obtain ⟨hclosed'', hgains'⟩ := h' p hclosed'
    exact ⟨hclosed'', fun k row hk hperiod => hgains k row (hgains' k row hk hperiod) hperiod⟩

/-- In every history in which the requests that commit an activation or new occurrences of a
    period still find it open, the statuses of the periods only advance, and no occurrence of a
    period is committed after the period has been closed. -/
theorem closed_of_run {t₀ : Tables} {past : List (State ι)} {s : State ι}
    (h : Run (Run.recorded (step clock)) (fun h l => StillOpen h.2 l) ([], Server.idle t₀)
      (past, s)) :
    ClosedForGood ((past ++ [s]).map Server.committed) := by
  have hchain : ((past ++ [s]).map Server.committed).IsChain Respects :=
    (List.isChain_map _).2 (Run.isChain_recorded h fun _ _ _ => respects_step)
  refine ⟨hchain.imp fun t t' h p => (h p).1, ?_⟩
  have hkeeps : ((past ++ [s]).map Server.committed).IsChain KeepsClosed :=
    hchain.imp fun _ _ => Respects.keepsClosed
  exact (List.isChain_iff_pairwise.1 hkeeps).imp fun h p hclosed => (h p hclosed).2

/-! ## Schedules -/

/-- Control 1, and period 2 in the given status. -/
def januaryTables (status : ControlPeriodStatus) : Tables where
  periods := (∅ : Table PeriodRow).insert 2
    { name := "January", startsOn := Database.januaryPeriod.startsOn
      endsOn := Database.januaryPeriod.endsOn, status := status }
  controls := (∅ : Table InternalControl).insert 1 Database.quarterly
  effectiveVersions _ := none
  occurrences := ⟨∅, [], 0⟩
  present _ _ := true

/-- An occurrence of control 1 in period 2, without a due date. -/
def recordInJanuary (newId : Id) : Request :=
  .record 1 (some 2) (some none) "spot check" newId {}

/-- The application with its history, before any request has come in. -/
def januaryStart (status : ControlPeriodStatus) : List (State Nat) × State Nat :=
  ([], Server.idle (januaryTables status))

/-- Request 0 records an occurrence in period 2, request 1 closes the period, and request 2,
    which comes later, is refused. -/
theorem closed_of_run_refused :
    ∃ past s, Run (Run.recorded (step tickingClock)) (fun h l => StillOpen h.2 l)
        (januaryStart .active) (past, s) ∧
      s.committed.status 2 = some .closed ∧ s.committed.occurrences.rows[10]?.isSome ∧
      ClosedForGood ((past ++ [s]).map Server.committed) := by
  obtain ⟨past, s, hrun, hclosed, hrow⟩ :
      ∃ past s, Run.exec (Run.guarded (Run.recorded (step tickingClock))
          fun h l => StillOpen h.2 l) (januaryStart .active)
          [.start 0 (recordInJanuary 10), .statement 0, .statement 0, .statement 0, .statement 0,
            .start 1 (.close 2 0), .statement 1, .statement 1,
            .start 2 (recordInJanuary 11), .statement 2, .statement 2, .statement 2] =
          some (past, s) ∧
        s.committed.status 2 = some .closed ∧ s.committed.occurrences.rows[10]?.isSome :=
    ⟨_, _, rfl, rfl, rfl⟩
  have hrun := Run.of_exec_guarded _ hrun
  exact ⟨past, s, hrun, hclosed, hrow, closed_of_run hrun⟩

/-- Request 0 finds period 2 active, request 1 closes it, and request 0 commits its occurrence:
    the closed period gains it. -/
theorem closed_gains :
    ∃ past s, Run (Run.recorded (step tickingClock)) (fun _ _ => True) (januaryStart .active)
      (past, s) ∧ ¬ ClosedForGood ((past ++ [s]).map Server.committed) := by
  obtain ⟨past, s, hrun, u, hu, hclosed, o, ho, hperiod, hnone⟩ :
      ∃ past s, Run.exec (Run.recorded (step tickingClock)) (januaryStart .active)
          [.start 0 (recordInJanuary 10), .statement 0, .statement 0, .start 1 (.close 2 0),
            .statement 1, .statement 1, .statement 0, .statement 0] = some (past, s) ∧
        ∃ u, past[6]? = some u ∧ u.committed.status 2 = some .closed ∧
          ∃ o : ControlOccurrence, s.committed.occurrences.rows[10]? = some o ∧
            o.controlPeriodId = some 2 ∧ u.committed.occurrences.rows[10]? = none :=
    ⟨_, _, rfl, _, rfl, rfl, _, rfl, rfl, rfl⟩
  refine ⟨past, s, Run.of_exec_true _ hrun, fun h => ?_⟩
  have hgains := h.gains
  rw [List.map_append, List.pairwise_append] at hgains
  have hold := hgains.2.2 _ (List.mem_map_of_mem (List.mem_of_getElem? hu)) _ (by simp) 2 hclosed
    10 o ho hperiod
  rw [hnone] at hold
  cases hold

/-- Request 0 finds period 2 planned, request 1 closes it, and request 0 commits the
    activation: the closed period is active again. -/
theorem closed_reopened :
    ∃ past s, Run (Run.recorded (step tickingClock)) (fun _ _ => True) (januaryStart .planned)
      (past, s) ∧ (∃ u ∈ past, u.committed.status 2 = some .closed) ∧
        s.committed.status 2 = some .active := by
  obtain ⟨past, s, hrun, u, hu, hclosed, hactive⟩ :
      ∃ past s, Run.exec (Run.recorded (step tickingClock)) (januaryStart .planned)
          [.start 0 (.activate 2), .statement 0, .start 1 (.close 2 0), .statement 1,
            .statement 1, .statement 0] = some (past, s) ∧
        ∃ u, past[5]? = some u ∧ u.committed.status 2 = some .closed ∧
          s.committed.status 2 = some .active :=
    ⟨_, _, rfl, _, rfl, rfl, rfl⟩
  exact ⟨past, s, Run.of_exec_true _ hrun, ⟨u, List.mem_of_getElem? hu, hclosed⟩, hactive⟩

end MiniGrc.ConcurrentPeriods
