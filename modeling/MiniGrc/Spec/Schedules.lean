import Mathlib.Order.MinMax
import MiniGrc.Spec.OccurrenceGeneration

/-!
# Due dates

The `while` loops of `_compute_due_dates` go on from the date that was clamped last. So the
day of a due date never grows again, and a schedule agrees with its closed form until a
month is shorter than the day of a later date.

## Key results

- `Date.every_getElem?`: the dates of a schedule in closed form
- `Date.every_ok_iff`: when the computation of a schedule stays in the supported years
- `compute_due_dates_period_iff`: when the schedule of a period does not drift
- `compute_due_dates_rolling_iff`: when a schedule without a period keeps to its window
-/

namespace MiniGrc

theorem daysInMonth_le (year month : Nat) : daysInMonth year month ≤ 31 := by
  unfold daysInMonth
  split_ifs <;> omega

/-- The length of a month, given by its index. -/
def monthLength (index : Nat) : Nat := daysInMonth (index / 12) (index % 12 + 1)

namespace Date

variable {interval : Nat} {hinterval : 0 < interval} {current start last d d' e e' : Date}
  {dates : List Date} {k : Nat}

/-! ## Months and days -/

theorem monthLength_monthIndex (d : Date) :
    monthLength d.monthIndex = daysInMonth d.year d.month := by
  have hm := d.month_mem
  have hyear : d.monthIndex / 12 = d.year := by unfold monthIndex; omega
  have hmonth : d.monthIndex % 12 + 1 = d.month := by unfold monthIndex; omega
  rw [monthLength, hyear, hmonth]

theorem day_le_monthLength (d : Date) : d.day ≤ monthLength d.monthIndex :=
  d.monthLength_monthIndex ▸ d.day_mem.2

theorem monthIndex_lt (d : Date) : d.monthIndex < 120000 := by
  have hy := d.year_mem
  have hm := d.month_mem
  unfold monthIndex
  omega

/-- Dates compare by month and day. -/
theorem le_iff_monthIndex :
    d ≤ d' ↔ d.monthIndex < d'.monthIndex ∨ d.monthIndex = d'.monthIndex ∧ d.day ≤ d'.day := by
  have hm := d.month_mem
  have hm' := d'.month_mem
  show d.key ≤ d'.key ↔ _
  simp only [key, Prod.Lex.toLex_le_toLex, monthIndex]
  omega

/-- A date is determined by its month and day. -/
theorem eq_of_monthIndex (hmonth : d.monthIndex = d'.monthIndex) (hday : d.day = d'.day) :
    d = d' :=
  le_antisymm (le_iff_monthIndex.2 (.inr ⟨hmonth, hday.le⟩))
    (le_iff_monthIndex.2 (.inr ⟨hmonth.symm, hday.ge⟩))

/-- `_add_months` clamps the day to the length of the month. -/
theorem day_addMonths {months : Nat} (h : d.addMonths months = .ok e) :
    e.day = min d.day (monthLength e.monthIndex) := by
  have hm := d.month_mem
  unfold addMonths at h
  simp only at h
  split at h
  · obtain rfl := Except.ok.inj h
    have hyear : ∀ y m : Nat, m < 12 → (y * 12 + (m + 1 - 1)) / 12 = y := by omega
    have hmonth : ∀ y m : Nat, m < 12 → (y * 12 + (m + 1 - 1)) % 12 = m := by omega
    have hlt : ((d.month - 1 + months : Int) % 12).toNat < 12 := by omega
    simp only [monthLength, monthIndex, hyear _ _ hlt, hmonth _ _ hlt]
  · cases h

/-- `_add_months` succeeds in the supported years. -/
theorem exists_addMonths {months : Nat} :
    (∃ e, d.addMonths months = .ok e) ↔ d.monthIndex + months < 120000 := by
  constructor
  · rintro ⟨e, h⟩
    rw [← monthIndex_addMonths h]
    exact e.monthIndex_lt
  · intro h
    have hm := d.month_mem
    have hy := d.year_mem
    unfold addMonths
    simp only
    split
    · exact ⟨_, rfl⟩
    · next hyears =>
      unfold monthIndex at h
      omega

/-- What `_add_months` returns. -/
theorem addMonths_eq_ok {months : Nat} : d.addMonths months = .ok e ↔
    e.monthIndex = d.monthIndex + months ∧ e.day = min d.day (monthLength e.monthIndex) := by
  constructor
  · exact fun h => ⟨monthIndex_addMonths h, day_addMonths h⟩
  · rintro ⟨hmonth, hday⟩
    obtain ⟨e', he'⟩ := exists_addMonths.2 (hmonth ▸ e.monthIndex_lt)
    have hsame : e'.monthIndex = e.monthIndex := (monthIndex_addMonths he').trans hmonth.symm
    have hdays : e'.day = e.day := by rw [day_addMonths he', hday, hsame]
    rw [he', eq_of_monthIndex hsame hdays]

/-- Later dates stay later. -/
theorem addMonths_le {months : Nat} (hle : d ≤ d') (h : d.addMonths months = .ok e)
    (h' : d'.addMonths months = .ok e') : e ≤ e' := by
  obtain ⟨hmonth, hday⟩ := addMonths_eq_ok.1 h
  obtain ⟨hmonth', hday'⟩ := addMonths_eq_ok.1 h'
  rcases le_iff_monthIndex.1 hle with hlt | ⟨heq, hdays⟩
  · exact le_iff_monthIndex.2 (.inl (by omega))
  · have hsame : e.monthIndex = e'.monthIndex := by omega
    refine le_iff_monthIndex.2 (.inr ⟨hsame, ?_⟩)
    rw [hday, hday', hsame]
    exact min_le_min hdays le_rfl

/-! ## Rounds of the loop -/

/-- The day after `k` rounds: it is clamped in every month on the way. -/
def stepDay (interval : Nat) (start : Date) : Nat → Nat
  | 0 => start.day
  | k + 1 => min (stepDay interval start k)
      (monthLength (start.monthIndex + (k + 1) * interval))

/-- The date is the one after `k` rounds. -/
def IsStep (interval : Nat) (start : Date) (k : Nat) (d : Date) : Prop :=
  d.monthIndex = start.monthIndex + k * interval ∧ d.day = stepDay interval start k

/-- The day is the least of the start's and of the lengths of the months on the way. -/
theorem stepDay_le_iff {day : Nat} : stepDay interval start k ≤ day ↔
    start.day ≤ day ∨ ∃ j ≤ k, monthLength (start.monthIndex + j * interval) ≤ day := by
  induction k with
  | zero =>
    constructor
    · exact .inl
    · rintro (h | ⟨j, hj, h⟩)
      · exact h
      · obtain rfl := Nat.le_zero.1 hj
        rw [Nat.zero_mul, Nat.add_zero] at h
        exact start.day_le_monthLength.trans h
  | succ k ih =>
    rw [stepDay, min_le_iff, ih, or_assoc]
    refine or_congr_right ⟨?_, ?_⟩
    · rintro (⟨j, hj, h⟩ | h)
      · exact ⟨j, hj.trans k.le_succ, h⟩
      · exact ⟨k + 1, le_rfl, h⟩
    · rintro ⟨j, hj, h⟩
      rcases Nat.le_succ_iff.1 hj with hj | rfl
      · exact .inl ⟨j, hj, h⟩
      · exact .inr h

@[simp] theorem isStep_zero : IsStep interval start 0 d ↔ d = start := by
  constructor
  · rintro ⟨hmonth, hday⟩
    exact eq_of_monthIndex (by omega) hday
  · rintro rfl
    exact ⟨by omega, rfl⟩

/-- One more round. -/
theorem IsStep.succ_iff (h : IsStep interval start k d) :
    IsStep interval start (k + 1) e ↔ d.addMonths interval = .ok e := by
  obtain ⟨hmonth, hday⟩ := h
  have hindex : start.monthIndex + (k + 1) * interval = d.monthIndex + interval := by
    rw [hmonth, Nat.succ_mul, Nat.add_assoc]
  rw [IsStep, addMonths_eq_ok, stepDay, hindex, hday]
  constructor
  · rintro ⟨hm, hd⟩
    exact ⟨hm, hm ▸ hd⟩
  · rintro ⟨hm, hd⟩
    exact ⟨hm, hm ▸ hd⟩

/-- One more round, at the front. -/
theorem isStep_succ_iff (h : current.addMonths interval = .ok start) :
    IsStep interval current (k + 1) d ↔ IsStep interval start k d := by
  obtain ⟨hmonth, hday⟩ := addMonths_eq_ok.1 h
  have hindex : ∀ j, current.monthIndex + (j + 1) * interval =
      start.monthIndex + j * interval := by
    intro j
    rw [hmonth, Nat.succ_mul, Nat.add_assoc, Nat.add_comm interval]
  have hdays : stepDay interval current (k + 1) = stepDay interval start k := by
    induction k with
    | zero => rw [stepDay, stepDay, hday, hindex, Nat.zero_mul, Nat.add_zero, stepDay]
    | succ k ih => rw [stepDay, ih, stepDay, hindex]
  rw [IsStep, IsStep, hindex, hdays]

theorem IsStep.start_le (h : IsStep interval start k d) (hinterval : 0 < interval) :
    start ≤ d := by
  cases k with
  | zero => exact (isStep_zero.1 h).ge
  | succ k =>
    have hpos : 0 < (k + 1) * interval := Nat.mul_pos k.succ_pos hinterval
    exact le_iff_monthIndex.2 (.inl (by rw [h.1]; omega))

/-- The dates of a schedule are those after so many rounds, up to the last day. -/
theorem every_getElem? (h : every interval hinterval current last = .ok dates) :
    dates[k]? = some d ↔ IsStep interval current k d ∧ d ≤ last := by
  induction dates generalizing current k with
  | nil =>
    rcases every_cases h with ⟨hlt, -⟩ | ⟨-, _, _, _, _, hcons⟩
    · constructor
      · exact fun h => by cases h
      · rintro ⟨hstep, hle⟩
        exact absurd ((hstep.start_le hinterval).trans hle) (not_le.2 hlt)
    · cases hcons
  | cons x rest ih =>
    rcases every_cases h with ⟨-, hnil⟩ | ⟨hle, next, rest', hnext, hrest, hdates⟩
    · cases hnil
    · obtain ⟨rfl, rfl⟩ := List.cons.inj hdates
      cases k with
      | zero =>
        rw [List.getElem?_cons_zero, Option.some_inj, isStep_zero]
        constructor
        · rintro rfl
          exact ⟨rfl, hle⟩
        · exact fun h => h.1.symm
      | succ k => rw [List.getElem?_cons_succ, ih hrest, isStep_succ_iff hnext]

/-- The computation of a schedule succeeds exactly if each of its dates is followed by one
    in the supported years. -/
theorem every_ok_iff_isStep : (∃ dates, every interval hinterval current last = .ok dates) ↔
    ∀ k d, IsStep interval current k d → d ≤ last → ∃ e, d.addMonths interval = .ok e := by
  constructor
  · rintro ⟨dates, h⟩
    induction dates generalizing current with
    | nil =>
      intro k d hstep hle
      have hnone := (every_getElem? h).2 ⟨hstep, hle⟩
      cases hnone
    | cons x rest ih =>
      intro k d hstep hle
      rcases every_cases h with ⟨-, hnil⟩ | ⟨-, next, rest', hnext, hrest, hdates⟩
      · cases hnil
      · obtain ⟨rfl, rfl⟩ := List.cons.inj hdates
        cases k with
        | zero => exact isStep_zero.1 hstep ▸ ⟨next, hnext⟩
        | succ k => exact ih hrest k d ((isStep_succ_iff hnext).1 hstep) hle
  · intro h
    -- the measure of the loop: the months that are left
    induction hn : last.monthIndex + 1 - current.monthIndex using Nat.strong_induction_on
      generalizing current with
    | h n ih =>
      by_cases hle : current ≤ last
      · obtain ⟨next, hnext⟩ := h 0 current (isStep_zero.2 rfl) hle
        have hmonths := monthIndex_le hle
        have hless : last.monthIndex + 1 - next.monthIndex < n := by
          have hindex := monthIndex_addMonths hnext
          omega
        obtain ⟨rest, hrest⟩ := ih _ hless (fun k d hstep =>
          h (k + 1) d ((isStep_succ_iff hnext).2 hstep)) rfl
        exact ⟨_, every_eq_cons hle hnext hrest⟩
      · exact ⟨[], every_eq_nil (not_le.1 hle)⟩

/-- The date after `k` rounds is not beyond the last day. -/
def Reaches (interval : Nat) (start last : Date) (k : Nat) : Prop :=
  start.monthIndex + k * interval < last.monthIndex ∨
    start.monthIndex + k * interval = last.monthIndex ∧
      (start.day ≤ last.day ∨
        ∃ j ≤ k, monthLength (start.monthIndex + j * interval) ≤ last.day)

theorem IsStep.le_iff (h : IsStep interval start k d) :
    d ≤ last ↔ Reaches interval start last k := by
  rw [le_iff_monthIndex, Reaches, h.1, h.2, stepDay_le_iff]

/-- A round that is not beyond the last day has a date. -/
theorem exists_isStep (h : start.monthIndex + k * interval < 120000) :
    ∃ d, IsStep interval start k d := by
  induction k with
  | zero => exact ⟨start, isStep_zero.2 rfl⟩
  | succ k ih =>
    rw [Nat.succ_mul, ← Nat.add_assoc] at h
    obtain ⟨d, hd⟩ := ih (by omega)
    obtain ⟨e, he⟩ := exists_addMonths.2 (hd.1 ▸ h)
    exact ⟨e, hd.succ_iff.2 he⟩

/-- Each date up to the last day is followed by a month of a supported year. -/
def StaysInYears (interval : Nat) (start last : Date) : Prop :=
  ∀ k, Reaches interval start last k → start.monthIndex + (k + 1) * interval < 120000

theorem every_ok_iff : (∃ dates, every interval hinterval start last = .ok dates) ↔
    StaysInYears interval start last := by
  have hmonths : ∀ k d, IsStep interval start k d →
      ((∃ e, d.addMonths interval = .ok e) ↔
        start.monthIndex + (k + 1) * interval < 120000) := fun k d hstep => by
    rw [exists_addMonths, hstep.1, Nat.succ_mul, Nat.add_assoc]
  rw [every_ok_iff_isStep]
  constructor
  · intro h k hreaches
    have hlt : start.monthIndex + k * interval < 120000 := by
      have := last.monthIndex_lt
      unfold Reaches at hreaches
      omega
    obtain ⟨d, hstep⟩ := exists_isStep hlt
    exact (hmonths k d hstep).1 (h k d hstep (hstep.le_iff.2 hreaches))
  · intro h k d hstep hle
    exact (hmonths k d hstep).2 (h k (hstep.le_iff.1 hle))

end Date

namespace ControlOccurrences

variable {interval : Nat} {start last : Date} {dates : List Date}

/-! ## The schedule of a period -/

/-- The schedule of a period in closed form: the `k`-th date lies `k` intervals after the
    start, with the start's day clamped to the length of its own month. -/
structure PeriodSchedule (interval : Nat) (start last : Date) (dates : List Date) : Prop where
  closed : ∀ (k : Nat) (d : Date), dates[k]? = some d ↔
    start.addMonths (k * interval : Nat) = .ok d ∧ d ≤ last
  increasing : dates.Pairwise (· < ·)
  first : start ≤ last → dates.head? = some start
  lastDay : start.day = 31 → ∀ d ∈ dates, d.day = daysInMonth d.year d.month

/-- No month of the schedule is shorter than the day of a later date, unless the later date
    clamped to that length lies beyond the last day. -/
def NoShorterMonth (interval : Nat) (start last : Date) : Prop :=
  ∀ j k, j < k → monthLength (start.monthIndex + j * interval) <
      min start.day (monthLength (start.monthIndex + k * interval)) →
    last.monthIndex < start.monthIndex + k * interval ∨
      last.monthIndex = start.monthIndex + k * interval ∧
        last.day < monthLength (start.monthIndex + j * interval)

/-- The `k`-th date in closed form. -/
theorem addMonths_mul_eq_ok {k : Nat} {d : Date} :
    start.addMonths (k * interval : Nat) = .ok d ↔
      d.monthIndex = start.monthIndex + k * interval ∧
        d.day = min start.day (monthLength (start.monthIndex + k * interval)) := by
  rw [Date.addMonths_eq_ok]
  exact and_congr_right fun h => by rw [h]

/-- The clamped day is at most that of the closed form. -/
theorem stepDay_le {k : Nat} : Date.stepDay interval start k ≤
    min start.day (monthLength (start.monthIndex + k * interval)) :=
  le_min (Date.stepDay_le_iff.2 (.inl le_rfl)) (Date.stepDay_le_iff.2 (.inr ⟨k, le_rfl, le_rfl⟩))

/-- A date up to the last day is that of the closed form if no month before was shorter. -/
theorem NoShorterMonth.closed (h : NoShorterMonth interval start last) {k : Nat} {d : Date}
    (hstep : Date.IsStep interval start k d) (hle : d ≤ last) :
    start.addMonths (k * interval : Nat) = .ok d := by
  refine addMonths_mul_eq_ok.2 ⟨hstep.1, hstep.2.trans (stepDay_le.antisymm ?_)⟩
  by_contra hless
  -- the month in which the day was clamped
  rcases Date.stepDay_le_iff.1 (le_refl (Date.stepDay interval start k)) with hday | ⟨j, hj, hday⟩
  · exact hless ((min_le_left _ _).trans hday)
  · have hlt : j < k := by
      refine lt_of_le_of_ne hj fun heq => hless ?_
      subst heq
      exact (min_le_right _ _).trans hday
    have hbeyond := h j k hlt (hday.trans_lt (not_le.1 hless))
    rw [← hstep.1] at hbeyond
    rw [← hstep.2] at hday
    have hmonths := Date.le_iff_monthIndex.1 hle
    omega

/-- For every period, the due dates are those of the closed form exactly if no month of the
    schedule is shorter than the day of a later date, and the schedule stays in the supported
    years. -/
theorem compute_due_dates_period_iff (s : OccurrenceSession) (controlId : Id) (interval : Nat)
    (hinterval : 0 < interval) (period : ControlPeriod) (today : Date) (horizonMonths : Int) :
    (∃ dates, computeDueDates s controlId interval hinterval (some period) today horizonMonths =
        .ok dates ∧ PeriodSchedule interval period.startsOn period.endsOn dates) ↔
      NoShorterMonth interval period.startsOn period.endsOn ∧
        Date.StaysInYears interval period.startsOn period.endsOn := by
  show (∃ dates, Date.every interval hinterval period.startsOn period.endsOn = .ok dates ∧ _) ↔ _
  generalize period.startsOn = start
  generalize period.endsOn = last
  constructor
  · rintro ⟨dates, hdates, hclosed, -, -, -⟩
    refine ⟨fun j k hjk hshort => ?_, Date.every_ok_iff.1 ⟨dates, hdates⟩⟩
    by_contra hbeyond
    -- the date of round `k` would be in the range, with a day that was clamped before
    have hlt := last.monthIndex_lt
    have hmonths : start.monthIndex + k * interval < 120000 := by omega
    obtain ⟨d, hstep⟩ := Date.exists_isStep hmonths
    have hday : d.day ≤ monthLength (start.monthIndex + j * interval) := by
      rw [hstep.2]
      exact Date.stepDay_le_iff.2 (.inr ⟨j, hjk.le, le_rfl⟩)
    have hle : d ≤ last := Date.le_iff_monthIndex.2 (by rw [hstep.1]; omega)
    obtain ⟨hok, -⟩ := (hclosed k d).1 ((Date.every_getElem? hdates).2 ⟨hstep, hle⟩)
    have hlonger := (addMonths_mul_eq_ok.1 hok).2
    omega
  · rintro ⟨hshort, hyears⟩
    obtain ⟨dates, hdates⟩ := Date.every_ok_iff.2 hyears
    have hclosed : ∀ (k : Nat) (d : Date), dates[k]? = some d ↔
        start.addMonths (k * interval : Nat) = .ok d ∧ d ≤ last := by
      intro k d
      rw [Date.every_getElem? hdates]
      constructor
      · rintro ⟨hstep, hle⟩
        exact ⟨hshort.closed hstep hle, hle⟩
      · rintro ⟨hok, hle⟩
        refine ⟨?_, hle⟩
        obtain ⟨hmonth, hday⟩ := addMonths_mul_eq_ok.1 hok
        have hmonths : start.monthIndex + k * interval < 120000 := hmonth ▸ d.monthIndex_lt
        obtain ⟨e, hstep⟩ := Date.exists_isStep hmonths
        have hed : e ≤ d := Date.le_iff_monthIndex.2
          (.inr ⟨hstep.1.trans hmonth.symm, by rw [hstep.2, hday]; exact stepDay_le⟩)
        rwa [← Except.ok.inj (hok.symm.trans (hshort.closed hstep (hed.trans hle)))] at hstep
    refine ⟨dates, hdates, hclosed, Date.every_sorted hdates, fun hle => ?_, fun hday d hd => ?_⟩
    · rw [List.head?_eq_getElem?, Date.every_getElem? hdates]
      exact ⟨Date.isStep_zero.2 rfl, hle⟩
    · obtain ⟨k, hk⟩ := List.getElem?_of_mem hd
      obtain ⟨hmonth, hmin⟩ := addMonths_mul_eq_ok.1 ((hclosed k d).1 hk).1
      rw [← hmonth, hday, Date.monthLength_monthIndex] at hmin
      rw [hmin, min_eq_right (daysInMonth_le _ _)]

/-- A period from January 1 to June 30, every three months. -/
theorem compute_due_dates_period_iff_quarterly :
    ∃ dates, computeDueDates ⟨∅, [], 0⟩ 1 3 (by decide)
        (some ⟨1, ⟨2026, 1, 1, by decide, by decide, by decide⟩,
          ⟨2026, 6, 30, by decide, by decide, by decide⟩, .active⟩)
        ⟨2026, 1, 1, by decide, by decide, by decide⟩ 12 = .ok dates ∧
      PeriodSchedule 3 ⟨2026, 1, 1, by decide, by decide, by decide⟩
        ⟨2026, 6, 30, by decide, by decide, by decide⟩ dates := by
  refine (compute_due_dates_period_iff ⟨∅, [], 0⟩ 1 3 (by decide) ⟨1, ⟨2026, 1, 1, _, _, _⟩,
    ⟨2026, 6, 30, _, _, _⟩, .active⟩ _ 12).2 ⟨fun j k _ hshort => ?_, fun k hreaches => ?_⟩
  · have hlength : 28 ≤ monthLength (2026 * 12 + 0 + j * 3) := le_daysInMonth _ _
    have hday : monthLength (2026 * 12 + 0 + j * 3) < 1 := hshort.trans_le (min_le_left _ _)
    omega
  · show 2026 * 12 + 0 + (k + 1) * 3 < 120000
    have hmonths : 2026 * 12 + 0 + k * 3 < 2026 * 12 + 5 ∨
        2026 * 12 + 0 + k * 3 = 2026 * 12 + 5 ∧ _ := hreaches
    omega

/-- A period from January 31 to March 31: the third date is March 28. -/
theorem compute_due_dates_period_drifts :
    ¬ ∃ dates, computeDueDates ⟨∅, [], 0⟩ 1 1 (by decide)
        (some ⟨1, ⟨2026, 1, 31, by decide, by decide, by decide⟩,
          ⟨2026, 3, 31, by decide, by decide, by decide⟩, .active⟩)
        ⟨2026, 1, 1, by decide, by decide, by decide⟩ 12 = .ok dates ∧
      PeriodSchedule 1 ⟨2026, 1, 31, by decide, by decide, by decide⟩
        ⟨2026, 3, 31, by decide, by decide, by decide⟩ dates := by
  rintro ⟨dates, hdates, hschedule⟩
  have hstep : Date.IsStep 1 ⟨2026, 1, 31, by decide, by decide, by decide⟩ 2
      ⟨2026, 3, 28, by decide, by decide, by decide⟩ := ⟨rfl, rfl⟩
  have hdate := (Date.every_getElem? hdates).2 ⟨hstep, by decide⟩
  have hclosed := addMonths_mul_eq_ok.1 ((hschedule.closed 2 _).1 hdate).1
  have hday := hclosed.2
  revert hday
  decide

/-! ## The schedule without a period -/

/-- The later of the last due date and today. -/
def laterOf (last : Option DateTime) (today : Date) : Date :=
  match last with
  | none => today
  | some due => max due.date today

/-- The schedule without a period, in the window from `later` to the end of the horizon. -/
structure RollingSchedule (interval : Nat) (later horizonEnd : Date) (dates : List Date) :
    Prop where
  window : ∀ d ∈ dates, later ≤ d ∧ d ≤ horizonEnd
  apart : ∀ (k : Nat) (d d' : Date), dates[k]? = some d → dates[k + 1]? = some d' →
    d.addMonths interval = .ok d'
  first : ∀ next, later.addMonths interval = .ok next → next ≤ horizonEnd →
    ∃ d, dates.head? = some d ∧ d ≤ next

/-- No due date yet; or one interval after the last due date is not before today, or
    beyond the horizon. -/
def NotOverdue (interval : Nat) (last : Option DateTime) (today horizonEnd : Date) : Prop :=
  match last with
  | none => Date.StaysInYears interval today horizonEnd
  | some due => ∃ next, due.date.addMonths interval = .ok next ∧
    (today ≤ next ∨ horizonEnd < next) ∧ Date.StaysInYears interval next horizonEnd

/-- The due dates of a schedule lie one interval apart. -/
theorem every_apart {hinterval : 0 < interval}
    (h : Date.every interval hinterval start last = .ok dates) {k : Nat} {d d' : Date}
    (hd : dates[k]? = some d) (hd' : dates[k + 1]? = some d') :
    d.addMonths interval = .ok d' :=
  ((Date.every_getElem? h).1 hd).1.succ_iff.1 ((Date.every_getElem? h).1 hd').1

/-- A schedule that begins at most one interval after the later date keeps to the window if it
    does not begin before that date. -/
theorem rollingSchedule_iff {hinterval : 0 < interval} {later : Date}
    (h : Date.every interval hinterval start last = .ok dates)
    (hnext : ∀ next, later.addMonths interval = .ok next → start ≤ next) :
    RollingSchedule interval later last dates ↔ later ≤ start ∨ last < start := by
  have hhead : start ≤ last → dates.head? = some start := fun hle => by
    rw [List.head?_eq_getElem?, Date.every_getElem? h]
    exact ⟨Date.isStep_zero.2 rfl, hle⟩
  constructor
  · rintro ⟨hwindow, -, -⟩
    rcases le_or_gt start last with hle | hlt
    · exact .inl (hwindow start (List.mem_of_head? (hhead hle))).1
    · exact .inr hlt
  · intro hstart
    refine ⟨fun d hd => ?_, fun k d d' hd hd' => every_apart h hd hd', fun next hok hle => ?_⟩
    · obtain ⟨hlow, hhigh⟩ := Date.every_bounds h d hd
      rcases hstart with hlater | hbeyond
      · exact ⟨hlater.trans hlow, hhigh⟩
      · exact absurd (hlow.trans hhigh) (not_le.2 hbeyond)
    · exact ⟨start, hhead ((hnext next hok).trans hle), hnext next hok⟩

section

variable {s : OccurrenceSession} {controlId : Id} {hinterval : 0 < interval}
  {today horizonEnd : Date} {horizonMonths : Int}

/-- A schedule without a period, from its first due date. -/
theorem rolling_iff_of_firstDue (hend : today.addMonths horizonMonths = .ok horizonEnd)
    (hfirst : firstDue s controlId interval today = .ok start)
    (hnext : ∀ next, (laterOf (lastDue s controlId) today).addMonths interval = .ok next →
      start ≤ next) :
    (∃ dates, computeDueDates s controlId interval hinterval none today horizonMonths = .ok dates ∧
        RollingSchedule interval (laterOf (lastDue s controlId) today) horizonEnd dates) ↔
      (laterOf (lastDue s controlId) today ≤ start ∨ horizonEnd < start) ∧
        Date.StaysInYears interval start horizonEnd := by
  constructor
  · rintro ⟨dates, hdates, hrolling⟩
    obtain ⟨e, c, he, hc, hevery⟩ := computeDueDates_none_eq_ok.1 hdates
    obtain rfl := Except.ok.inj (hend.symm.trans he)
    obtain rfl := Except.ok.inj (hfirst.symm.trans hc)
    exact ⟨(rollingSchedule_iff hevery hnext).1 hrolling, Date.every_ok_iff.1 ⟨dates, hevery⟩⟩
  · rintro ⟨hstart, hyears⟩
    obtain ⟨dates, hevery⟩ := Date.every_ok_iff.2 hyears
    exact ⟨dates, computeDueDates_none_eq_ok.2 ⟨_, _, hend, hfirst, hevery⟩,
      (rollingSchedule_iff hevery hnext).2 hstart⟩

/-- Without a due date yet, the schedule starts today. -/
theorem rolling_iff_none (hend : today.addMonths horizonMonths = .ok horizonEnd)
    (hlast : lastDue s controlId = none) :
    (∃ dates, computeDueDates s controlId interval hinterval none today horizonMonths = .ok dates ∧
        RollingSchedule interval (laterOf (lastDue s controlId) today) horizonEnd dates) ↔
      NotOverdue interval (lastDue s controlId) today horizonEnd := by
  have hfirst : firstDue s controlId interval today = .ok today := by
    unfold firstDue
    rw [hlast]
  have hlater : laterOf (lastDue s controlId) today = today := by
    rw [hlast]
    rfl
  rw [rolling_iff_of_firstDue hend hfirst, hlater, hlast]
  · exact and_iff_right (.inl le_rfl)
  · intro next hok
    rw [hlater] at hok
    exact (Date.lt_addMonths hinterval hok).le

/-- After a due date, the schedule starts one interval later. -/
theorem rolling_iff_some {due : DateTime}
    (hend : today.addMonths horizonMonths = .ok horizonEnd)
    (hlast : lastDue s controlId = some due) :
    (∃ dates, computeDueDates s controlId interval hinterval none today horizonMonths = .ok dates ∧
        RollingSchedule interval (laterOf (lastDue s controlId) today) horizonEnd dates) ↔
      NotOverdue interval (lastDue s controlId) today horizonEnd := by
  have hfirst : firstDue s controlId interval today = due.date.addMonths interval := by
    unfold firstDue
    rw [hlast]
  have hlater : laterOf (lastDue s controlId) today = max due.date today := by
    rw [hlast]
    rfl
  have hstart : ∀ start, due.date.addMonths interval = .ok start →
      ((∃ dates, computeDueDates s controlId interval hinterval none today horizonMonths =
          .ok dates ∧
          RollingSchedule interval (laterOf (lastDue s controlId) today) horizonEnd dates) ↔
        (today ≤ start ∨ horizonEnd < start) ∧ Date.StaysInYears interval start horizonEnd) := by
    intro start hok
    rw [rolling_iff_of_firstDue hend (hfirst.trans hok), hlater, max_le_iff,
      and_iff_right (Date.lt_addMonths hinterval hok).le]
    intro next hnext
    rw [hlater] at hnext
    exact Date.addMonths_le (le_max_left _ _) hok hnext
  rw [hlast] at hstart ⊢
  constructor
  · rintro ⟨dates, hdates, hrolling⟩
    obtain ⟨-, start, -, hc, -⟩ := computeDueDates_none_eq_ok.1 hdates
    have hok := hfirst.symm.trans hc
    exact ⟨start, hok, (hstart start hok).1 ⟨dates, hdates, hrolling⟩⟩
  · rintro ⟨next, hok, hcondition⟩
    exact (hstart next hok).2 hcondition

end

/-- For every set of occurrences and every day, the due dates without a period keep to the
    window exactly if the schedule is not overdue and stays in the supported years. -/
theorem compute_due_dates_rolling_iff (s : OccurrenceSession) (controlId : Id) (interval : Nat)
    (hinterval : 0 < interval) (today : Date) (horizonMonths : Int) :
    (∃ horizonEnd dates, today.addMonths horizonMonths = .ok horizonEnd ∧
        computeDueDates s controlId interval hinterval none today horizonMonths = .ok dates ∧
        RollingSchedule interval (laterOf (lastDue s controlId) today) horizonEnd dates) ↔
      ∃ horizonEnd, today.addMonths horizonMonths = .ok horizonEnd ∧
        NotOverdue interval (lastDue s controlId) today horizonEnd := by
  refine exists_congr fun horizonEnd => ?_
  rw [exists_and_left]
  refine and_congr_right fun hend => ?_
  cases hlast : lastDue s controlId with
  | none => exact hlast ▸ rolling_iff_none hend hlast
  | some due => exact hlast ▸ rolling_iff_some hend hlast

/-- An occurrence that was due in January. -/
def januaryOccurrence : ControlOccurrence where
  controlId := 1
  controlPeriodId := none
  origin := .generated
  dueAt := some (.dueAtForDate Database.januaryPeriod.startsOn)
  scopeNote := ""
  evidenceNote := ""
  controlDefinitionVersionId := none
  createdAt := 0
  updatedAt := 0

/-- An occurrence that was due in July. -/
def julyOccurrence : ControlOccurrence :=
  { januaryOccurrence with
    dueAt := some (.dueAtForDate { Database.januaryPeriod.startsOn with
      month := 7
      day := 20
      month_mem := by decide
      day_mem := by decide }) }

/-- The occurrences of the control 1, due in January and in July. -/
def dueInJuly : OccurrenceSession :=
  ⟨((∅ : Table ControlOccurrence).insert 7 januaryOccurrence).insert 8 julyOccurrence, [], 0⟩

/-- In August, the schedule of every three months goes on in October. -/
theorem compute_due_dates_rolling_iff_july :
    ∃ horizonEnd dates,
      Date.addMonths ⟨2026, 8, 15, by decide, by decide, by decide⟩ 12 = .ok horizonEnd ∧
        computeDueDates dueInJuly 1 3 (by decide) none
          ⟨2026, 8, 15, by decide, by decide, by decide⟩ 12 = .ok dates ∧
        RollingSchedule 3 (laterOf (lastDue dueInJuly 1)
          ⟨2026, 8, 15, by decide, by decide, by decide⟩) horizonEnd dates := by
  have hlast : lastDue dueInJuly 1 = julyOccurrence.dueAt := by decide
  refine (compute_due_dates_rolling_iff dueInJuly 1 3 (by decide) ⟨2026, 8, 15, _, _, _⟩ 12).2
    ⟨⟨2027, 8, 15, by decide, by decide, by decide⟩, rfl, ?_⟩
  rw [hlast]
  refine ⟨⟨2026, 10, 20, by decide, by decide, by decide⟩, rfl, .inl (by decide),
    fun k hreaches => ?_⟩
  show 2026 * 12 + 9 + (k + 1) * 3 < 120000
  have hmonths : 2026 * 12 + 9 + k * 3 < 2027 * 12 + 7 ∨
      2026 * 12 + 9 + k * 3 = 2027 * 12 + 7 ∧ _ := hreaches
  omega

/-- In August, the schedule after a due date in January goes on in February. -/
theorem compute_due_dates_rolling_overdue :
    ¬ ∃ horizonEnd dates,
      Date.addMonths ⟨2026, 8, 15, by decide, by decide, by decide⟩ 12 = .ok horizonEnd ∧
        computeDueDates ⟨(∅ : Table ControlOccurrence).insert 7 januaryOccurrence, [], 0⟩ 1 1
          (by decide) none ⟨2026, 8, 15, by decide, by decide, by decide⟩ 12 = .ok dates ∧
        RollingSchedule 1
          (laterOf (lastDue ⟨(∅ : Table ControlOccurrence).insert 7 januaryOccurrence, [], 0⟩ 1)
            ⟨2026, 8, 15, by decide, by decide, by decide⟩) horizonEnd dates := by
  rintro ⟨horizonEnd, dates, hend, hdates, hwindow, -, -⟩
  have hlast : lastDue ⟨(∅ : Table ControlOccurrence).insert 7 januaryOccurrence, [], 0⟩ 1 =
      januaryOccurrence.dueAt := rfl
  obtain ⟨e, start, he, hfirst, hevery⟩ := computeDueDates_none_eq_ok.1 hdates
  obtain rfl := Except.ok.inj (hend.symm.trans he)
  obtain rfl := Except.ok.inj ((rfl : Except.ok (ε := PyError)
    (⟨2027, 8, 15, by decide, by decide, by decide⟩ : Date) = _).trans hend)
  unfold firstDue at hfirst
  rw [hlast] at hfirst hwindow
  obtain rfl := Except.ok.inj ((rfl : Except.ok (ε := PyError)
    (⟨2026, 2, 1, by decide, by decide, by decide⟩ : Date) = _).trans hfirst)
  have hhead := (Date.every_getElem? hevery (k := 0)).2 ⟨Date.isStep_zero.2 rfl, by decide⟩
  have hlater := (hwindow _ (List.mem_of_getElem? hhead)).1
  revert hlater
  decide

end ControlOccurrences
end MiniGrc
