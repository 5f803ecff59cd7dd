import MiniGrc.Spec.Schedules

/-!
# Month steps

`_add_months` by at least one month leads to a later date, so that the `while` loops of
`_compute_due_dates` end. The loops are written here as the source has them, with the list
that they append to; the number of their rounds is a parameter.

## Key results

- `addMonths_sound`: what `_add_months` returns
- `dueDatesLoop_eq_every`: a loop ends after as many rounds as there are months
- `month_stepping_sound`: both loops end with a strictly increasing list
-/

namespace MiniGrc.ControlOccurrences

open Events

variable {interval rounds : Nat} {current last d e : Date} {dates : List Date}

/-! ## One step -/

/-- What `_add_months` returns for a positive number of months, and that it grows with the
    date. -/
theorem addMonths_sound (d : Date) {months : Nat} (hpos : 1 ≤ months)
    (hyear : (d.monthIndex + months) / 12 ≤ 9999) :
    ∃ d', d.addMonths months = .ok d' ∧ d'.monthIndex = d.monthIndex + months ∧
      d'.day = min d.day (daysInMonth d'.year d'.month) ∧ d < d' ∧
      ∀ e ≤ d, ∃ e', e.addMonths months = .ok e' ∧ e' ≤ d' := by
  have hmonths : d.monthIndex + months < 120000 := by omega
  obtain ⟨d', hd'⟩ := Date.exists_addMonths.2 hmonths
  have hday := Date.day_addMonths hd'
  rw [Date.monthLength_monthIndex] at hday
  refine ⟨d', hd', Date.monthIndex_addMonths hd', hday, Date.lt_addMonths hpos hd', fun e he => ?_⟩
  -- an earlier date stays in the supported years
  have hle := Date.monthIndex_le he
  obtain ⟨e', he'⟩ := Date.exists_addMonths.2 (show e.monthIndex + months < 120000 by omega)
  exact ⟨e', he', Date.addMonths_le he he' hd'⟩

/-! ## The loops -/

/-- `while current <= last: dates.append(current); current = _add_months(current, interval)`,
    for a number of rounds. `none` is a loop that has not ended. -/
def dueDatesLoop (interval : Nat) (last : Date) :
    Nat → Date → List Date → Option (Except PyError (List Date))
  | 0, _, _ => none
  | rounds + 1, current, dates =>
    if current ≤ last then
      match current.addMonths interval with
      | .error e => some (.error e)
      | .ok next => dueDatesLoop interval last rounds next (dates ++ [current])
    else some (.ok dates)

/-- `_compute_due_dates`, with a number of rounds for its loops. -/
def computeDueDatesWithin (rounds : Nat) (s : OccurrenceSession) (controlId : Id)
    (interval : Nat) (period : Option ControlPeriod) (today : Date) (horizonMonths : Int) :
    Option (Except PyError (List Date)) :=
  match period with
  | some period => dueDatesLoop interval period.endsOn rounds period.startsOn []
  | none =>
    match today.addMonths horizonMonths with
    | .error e => some (.error e)
    | .ok horizonEnd =>
      match firstDue s controlId interval today with
      | .error e => some (.error e)
      | .ok current => dueDatesLoop interval horizonEnd rounds current []

/-- A loop ends after as many rounds as there are months up to its last day, with the dates
    of the schedule behind those it had. -/
theorem dueDatesLoop_eq_every (hinterval : 0 < interval)
    (hrounds : last.monthIndex + 1 - current.monthIndex < rounds) :
    dueDatesLoop interval last rounds current dates =
      some ((Date.every interval hinterval current last).map (dates ++ ·)) := by
  induction rounds generalizing current dates with
  | zero => omega
  | succ rounds ih =>
    rw [dueDatesLoop]
    by_cases hle : current ≤ last
    · rw [if_pos hle]
      cases hnext : current.addMonths interval with
      | error e =>
        rw [Date.every_eq_error hle hnext]
        rfl
      | ok next =>
        -- the months that are left become fewer in each round
        have hmonths := Date.monthIndex_addMonths hnext
        have hbound := Date.monthIndex_le hle
        show dueDatesLoop interval last rounds next (dates ++ [current]) = _
        rw [ih (by omega), Date.every_eq_map hle hnext]
        cases Date.every interval hinterval next last with
        | error e => rfl
        | ok rest =>
          show some (Except.ok (dates ++ [current] ++ rest)) = some (.ok (dates ++ current :: rest))
          rw [List.append_assoc]
          rfl
    · rw [if_neg hle, Date.every_eq_nil (not_le.1 hle)]
      show _ = some (Except.ok (dates ++ []))
      rw [List.append_nil]

/-- No loop of `_compute_due_dates` takes more rounds than there are months in the supported
    years. -/
theorem computeDueDatesWithin_eq (s : OccurrenceSession) (controlId : Id)
    (hinterval : 0 < interval) (period : Option ControlPeriod) (today : Date)
    (horizonMonths : Int) (hrounds : 120000 < rounds) :
    computeDueDatesWithin rounds s controlId interval period today horizonMonths =
      some (computeDueDates s controlId interval hinterval period today horizonMonths) := by
  have hloop : ∀ current last : Date, dueDatesLoop interval last rounds current [] =
      some (Date.every interval hinterval current last) := fun current last => by
    have hlast := last.monthIndex_lt
    rw [dueDatesLoop_eq_every hinterval (by omega)]
    cases Date.every interval hinterval current last <;> rfl
  cases period with
  | some period => exact hloop period.startsOn period.endsOn
  | none =>
    rw [computeDueDates_none]
    unfold computeDueDatesWithin
    cases today.addMonths horizonMonths with
    | error e => rfl
    | ok horizonEnd =>
      cases firstDue s controlId interval today with
      | error e => rfl
      | ok current => exact hloop current horizonEnd

/-- A schedule whose last day plus one interval lies in the supported years is computed. -/
theorem exists_every (hinterval : 0 < interval)
    (hyear : (last.monthIndex + interval) / 12 ≤ 9999) :
    ∃ dates, Date.every interval hinterval current last = .ok dates ∧
      dates.Pairwise (· < ·) := by
  have hstays : Date.StaysInYears interval current last := fun k hreaches => by
    rw [Nat.succ_mul]
    unfold Date.Reaches at hreaches
    omega
  obtain ⟨dates, hdates⟩ := Date.every_ok_iff.2 hstays
  exact ⟨dates, hdates, Date.every_sorted hdates⟩

/-- Without a period the first date is missing only where the last due date lies beyond the
    end of the horizon, and its next date beyond the supported years. -/
theorem firstDue_eq_error {s : OccurrenceSession} {controlId : Id} {today horizonEnd : Date}
    {err : PyError} (hyear : (horizonEnd.monthIndex + interval) / 12 ≤ 9999)
    (h : firstDue s controlId interval today = .error err) :
    ∃ due, lastDue s controlId = some due ∧ horizonEnd < due.date ∧
      due.date.addMonths interval = .error err := by
  unfold firstDue at h
  cases hlast : lastDue s controlId with
  | none => rw [hlast] at h; cases h
  | some due =>
    rw [hlast] at h
    refine ⟨due, rfl, not_le.1 fun hle => ?_, h⟩
    have hmonths := Date.monthIndex_le hle
    obtain ⟨next, hnext⟩ :=
      Date.exists_addMonths.2 (show due.date.monthIndex + interval < 120000 by omega)
    cases h.symm.trans hnext

/-- For a positive number of months and a result in the supported years, `_add_months` gives
    the date that many months later, with the day clamped to the month; it is later than the
    date and monotone in it. So for every positive interval the loops of `_compute_due_dates`
    end, with a strictly increasing list, if their last day plus one interval lies in the
    supported years. (Without a period, a last due date beyond the horizon whose next date
    is unsupported raises before the loop.) -/
theorem month_stepping_sound :
    (∀ (d : Date) (months : Nat), 1 ≤ months → (d.monthIndex + months) / 12 ≤ 9999 →
      ∃ d', d.addMonths months = .ok d' ∧ d'.monthIndex = d.monthIndex + months ∧
        d'.day = min d.day (daysInMonth d'.year d'.month) ∧ d < d' ∧
        ∀ e ≤ d, ∃ e', e.addMonths months = .ok e' ∧ e' ≤ d') ∧
    ∀ (s : OccurrenceSession) (controlId : Id) (interval : Nat) (today : Date)
      (horizonMonths : Int) (rounds : Nat), 0 < interval → 120000 < rounds →
      (∀ period : ControlPeriod, (period.endsOn.monthIndex + interval) / 12 ≤ 9999 →
        ∃ dates, computeDueDatesWithin rounds s controlId interval (some period) today
          horizonMonths = some (.ok dates) ∧ dates.Pairwise (· < ·)) ∧
      ∀ horizonEnd, today.addMonths horizonMonths = .ok horizonEnd →
        (horizonEnd.monthIndex + interval) / 12 ≤ 9999 →
        (∃ dates, computeDueDatesWithin rounds s controlId interval none today horizonMonths =
          some (.ok dates) ∧ dates.Pairwise (· < ·)) ∨
        ∃ due err, lastDue s controlId = some due ∧ horizonEnd < due.date ∧
          due.date.addMonths interval = .error err ∧
          computeDueDatesWithin rounds s controlId interval none today horizonMonths =
            some (.error err) := by
  constructor
  · intro d months hpos hyear
    exact addMonths_sound d hpos hyear
  · intro s controlId interval today horizonMonths rounds hinterval hrounds
    constructor
    · intro period hyear
      rw [computeDueDatesWithin_eq s controlId hinterval (some period) today horizonMonths hrounds]
      obtain ⟨dates, hdates, hsorted⟩ := exists_every hinterval hyear
      exact ⟨dates, congrArg some hdates, hsorted⟩
    · intro horizonEnd hend hyear
      rw [computeDueDatesWithin_eq s controlId hinterval none today horizonMonths hrounds,
        computeDueDates_none, hend]
      cases hfirst : firstDue s controlId interval today with
      | error err =>
        obtain ⟨due, hlast, hbeyond, herror⟩ := firstDue_eq_error hyear hfirst
        exact .inr ⟨due, err, hlast, hbeyond, herror, rfl⟩
      | ok current =>
        obtain ⟨dates, hdates, hsorted⟩ := exists_every hinterval hyear
        exact .inl ⟨dates, congrArg some hdates, hsorted⟩

/-- From the last day of a long month, the day stays clamped. -/
example :
    (dueDatesLoop 1 ⟨2024, 4, 30, by decide, by decide, by decide⟩ 9
      ⟨2024, 1, 31, by decide, by decide, by decide⟩ []).map (·.map (·.map Date.isoformat)) =
    some (.ok ["2024-01-31", "2024-02-29", "2024-03-29", "2024-04-29"]) := by
  decide +kernel

end MiniGrc.ControlOccurrences
