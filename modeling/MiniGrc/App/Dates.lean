import Mathlib.Data.Prod.Lex
import MiniGrc.App.Projection

/-!
# Dates

`datetime.date` and `datetime.datetime` (in UTC) as far as the application computes with
them, and `_add_months` of `app/control_occurrences.py`.
-/

namespace MiniGrc

/-- `calendar.isleap`. -/
def isLeap (year : Nat) : Bool := year % 4 = 0 ∧ (year % 100 ≠ 0 ∨ year % 400 = 0)

/-- `calendar.monthrange(year, month)[1]`. -/
def daysInMonth (year month : Nat) : Nat :=
  if month = 2 then (if isLeap year then 29 else 28)
  else if month ∈ [4, 6, 9, 11] then 30
  else 31

theorem le_daysInMonth (year month : Nat) : 28 ≤ daysInMonth year month := by
  unfold daysInMonth
  split_ifs <;> omega

/-- A `datetime.date`. -/
structure Date where
  year : Nat
  month : Nat
  day : Nat
  year_mem : 1 ≤ year ∧ year ≤ 9999
  month_mem : 1 ≤ month ∧ month ≤ 12
  day_mem : 1 ≤ day ∧ day ≤ daysInMonth year month
  deriving Repr

namespace Date

/-- Dates compare by year, month and day. -/
def key (d : Date) : ℕ ×ₗ ℕ ×ₗ ℕ := toLex (d.year, toLex (d.month, d.day))

theorem key_injective : Function.Injective key := by
  intro d d' h
  cases d
  cases d'
  simp only [key, EmbeddingLike.apply_eq_iff_eq, Prod.mk.injEq] at h
  obtain ⟨rfl, rfl, rfl⟩ := h
  rfl

instance : LinearOrder Date := LinearOrder.lift' key key_injective

/-- The months up to the date's month. -/
def monthIndex (d : Date) : Nat := d.year * 12 + (d.month - 1)

theorem monthIndex_le {d d' : Date} (h : d ≤ d') : d.monthIndex ≤ d'.monthIndex := by
  have hkey : d.key ≤ d'.key := h
  have hm := d.month_mem
  have hm' := d'.month_mem
  simp only [key, Prod.Lex.toLex_le_toLex] at hkey
  unfold monthIndex
  omega

/-- The digits of a number, with zeros in front. -/
def zeroPad (width n : Nat) : String := String.ofList ((toString n).toList.leftpad width '0')

/-- `date.isoformat()`. -/
def isoformat (d : Date) : String :=
  zeroPad 4 d.year ++ "-" ++ zeroPad 2 d.month ++ "-" ++ zeroPad 2 d.day

/-- `_days_before_year` of `datetime`. -/
def daysBeforeYear (year : Nat) : Nat :=
  (year - 1) * 365 + (year - 1) / 4 - (year - 1) / 100 + (year - 1) / 400

/-- `_days_before_month` of `datetime`. -/
def daysBeforeMonth (year month : Nat) : Nat :=
  match month with
  | 0 | 1 => 0
  | month + 2 => daysBeforeMonth year (month + 1) + daysInMonth year (month + 1)

/-- `date.toordinal()`: 1 for the first day of the year 1. -/
def toordinal (d : Date) : Nat :=
  daysBeforeYear d.year + daysBeforeMonth d.year d.month + d.day

/-- `_add_months`, for a month that may lie outside the supported years: the day is clamped
    to the last day of the month. -/
def addMonths (d : Date) (months : Int) : Except PyError Date :=
  let monthIndex : Int := d.month - 1 + months
  let year : Int := d.year + monthIndex / 12
  if h : 1 ≤ year ∧ year ≤ 9999 then
    let month := (monthIndex % 12).toNat + 1
    .ok {
      year := year.toNat
      month := month
      day := min d.day (daysInMonth year.toNat month)
      year_mem := by omega
      month_mem := by omega
      day_mem := by
        have := le_daysInMonth year.toNat month
        have := d.day_mem
        omega }
  else .error (.valueError s!"year {year} is out of range")

/-- Going on by some months moves the month by as many. -/
theorem monthIndex_addMonths {d d' : Date} {months : Nat} (h : d.addMonths months = .ok d') :
    d'.monthIndex = d.monthIndex + months := by
  unfold addMonths at h
  have hm := d.month_mem
  simp only at h
  split at h
  · obtain rfl := Except.ok.inj h
    simp only [monthIndex]
    omega
  · cases h

/-- The `while` loops of `_compute_due_dates`: a date every `interval` months from `current`
    up to `last`. -/
def every (interval : Nat) (hinterval : 0 < interval) (current last : Date) :
    Except PyError (List Date) :=
  if _hle : current ≤ last then
    match _h : current.addMonths interval with
    | .error e => .error e
    | .ok next => (every interval hinterval next last).map (current :: ·)
  else .ok []
termination_by last.monthIndex + 1 - current.monthIndex
decreasing_by
  have := monthIndex_addMonths _h
  have := monthIndex_le _hle
  omega

end Date

/-- `t.date().toordinal()`, for a reading in microseconds since the year 1 began. -/
def Time.dateOrdinal (t : Time) : Nat := t / 86400000000 + 1

/-! ## Texts of times -/

/-- `_ord2ymd` of `datetime`: the year, the month and the day of an ordinal. The days are
    counted off in cycles of 400, 100, 4 and 1 years. -/
def ord2ymd (ordinal : Nat) : Nat × Nat × Nat :=
  let (n400, n) := ((ordinal - 1) / 146097, (ordinal - 1) % 146097)
  let (n100, n) := (n / 36524, n % 36524)
  let (n4, n) := (n / 1461, n % 1461)
  let (n1, n) := (n / 365, n % 365)
  let year := n400 * 400 + n100 * 100 + n4 * 4 + n1 + 1
  -- the last day of a cycle that ends with a leap year
  if n1 = 4 ∨ n100 = 4 then (year - 1, 12, 31)
  else
    let month := (n + 50) / 32
    if n < Date.daysBeforeMonth year month then
      (year, month - 1, n - Date.daysBeforeMonth year (month - 1) + 1)
    else (year, month, n - Date.daysBeforeMonth year month + 1)

theorem Date.daysInMonth_congr {year year' : Nat} (h : isLeap year = isLeap year') (month : Nat) :
    daysInMonth year month = daysInMonth year' month := by
  simp only [daysInMonth, h]

theorem Date.daysBeforeMonth_congr {year year' : Nat} (h : isLeap year = isLeap year')
    (month : Nat) : daysBeforeMonth year month = daysBeforeMonth year' month := by
  fun_induction daysBeforeMonth year' month with
  | case1 => rfl
  | case2 => rfl
  | case3 month ih => rw [daysBeforeMonth, ih, daysInMonth_congr h]

/-- The month and the day of a day of a year, from the days before it. -/
def monthAndDay (year n : Nat) : Nat × Nat :=
  let month := (n + 50) / 32
  if n < Date.daysBeforeMonth year month then
    (month - 1, n - Date.daysBeforeMonth year (month - 1) + 1)
  else (month, n - Date.daysBeforeMonth year month + 1)

/-- A day of a year has a month, and its day lies in it. -/
theorem monthAndDay_mem {year n : Nat} (h : n < 365) :
    (1 ≤ (monthAndDay year n).1 ∧ (monthAndDay year n).1 ≤ 12) ∧
      1 ≤ (monthAndDay year n).2 ∧
        (monthAndDay year n).2 ≤ daysInMonth year (monthAndDay year n).1 := by
  -- a year with a leap day and one without stand for the others
  have hall : ∀ n < 365, ∀ year ∈ [1, 4],
      (1 ≤ (monthAndDay year n).1 ∧ (monthAndDay year n).1 ≤ 12) ∧
        1 ≤ (monthAndDay year n).2 ∧
          (monthAndDay year n).2 ≤ daysInMonth year (monthAndDay year n).1 := by
    decide +kernel
  have hsame : ∀ year', isLeap year = isLeap year' → monthAndDay year n = monthAndDay year' n := by
    intro year' h
    simp only [monthAndDay, Date.daysBeforeMonth_congr h]
  cases hleap : isLeap year with
  | false =>
    rw [hsame 1 hleap, Date.daysInMonth_congr (show isLeap year = isLeap 1 from hleap)]
    exact hall n h 1 (by decide)
  | true =>
    rw [hsame 4 hleap, Date.daysInMonth_congr (show isLeap year = isLeap 4 from hleap)]
    exact hall n h 4 (by decide)

/-- An ordinal up to that of the last day of the year 9999 has a year, a month and a day. -/
theorem ord2ymd_mem {ordinal : Nat} (h : 1 ≤ ordinal ∧ ordinal ≤ 3652059) :
    (1 ≤ (ord2ymd ordinal).1 ∧ (ord2ymd ordinal).1 ≤ 9999) ∧
      (1 ≤ (ord2ymd ordinal).2.1 ∧ (ord2ymd ordinal).2.1 ≤ 12) ∧
        1 ≤ (ord2ymd ordinal).2.2 ∧
          (ord2ymd ordinal).2.2 ≤ daysInMonth (ord2ymd ordinal).1 (ord2ymd ordinal).2.1 := by
  have hnormal : ord2ymd ordinal =
      let n := ordinal - 1
      let n100 := n % 146097 / 36524
      let n4 := n % 146097 % 36524 / 1461
      let n1 := n % 146097 % 36524 % 1461 / 365
      let year := n / 146097 * 400 + n100 * 100 + n4 * 4 + n1 + 1
      if n1 = 4 ∨ n100 = 4 then (year - 1, 12, 31)
      else (year, monthAndDay year (n % 146097 % 36524 % 1461 % 365)) := by
    unfold ord2ymd monthAndDay
    simp only
    split_ifs <;> rfl
  rw [hnormal]
  simp only
  split
  · next hlast =>
    refine ⟨by omega, ?_, ?_, ?_⟩
    · show 1 ≤ 12 ∧ 12 ≤ 12
      omega
    · show 1 ≤ 31
      omega
    · show 31 ≤ daysInMonth _ 12
      simp [daysInMonth]
  · next hother =>
    exact ⟨by omega, monthAndDay_mem (by omega)⟩

namespace Date

/-- `date.fromordinal(ordinal)`. -/
def ofOrdinal (ordinal : Nat) (h : 1 ≤ ordinal ∧ ordinal ≤ 3652059) : Date where
  year := (ord2ymd ordinal).1
  month := (ord2ymd ordinal).2.1
  day := (ord2ymd ordinal).2.2
  year_mem := (ord2ymd_mem h).1
  month_mem := (ord2ymd_mem h).2.1
  day_mem := (ord2ymd_mem h).2.2

/-- `d - datetime.timedelta(days=days)`, or `none` for `OverflowError`: the days of a `timedelta`
    are limited, and so are the years of a date. -/
def subDays (d : Date) (days : Int) : Option Date :=
  if 999999999 < days.natAbs then none
  else if h : 1 ≤ (d.toordinal - days).toNat ∧ (d.toordinal - days).toNat ≤ 3652059 then
    some (ofOrdinal (d.toordinal - days).toNat h)
  else none

end Date

example : (Date.ofOrdinal 739525 (by decide)).isoformat = "2025-10-01" := by decide

/-- The time of the day in `datetime.isoformat()`, from the microseconds since it began. -/
def isoTime (time : Nat) : String :=
  "T" ++ Date.zeroPad 2 (time / 3600000000) ++ ":" ++ Date.zeroPad 2 (time / 60000000 % 60) ++
    ":" ++ Date.zeroPad 2 (time / 1000000 % 60) ++
    if time % 1000000 = 0 then "" else "." ++ Date.zeroPad 6 (time % 1000000)

/-- `datetime.isoformat()`. -/
def Time.isoformat (t : Time) : String :=
  let (year, month, day) := ord2ymd (Time.dateOrdinal t)
  Date.zeroPad 4 year ++ "-" ++ Date.zeroPad 2 month ++ "-" ++ Date.zeroPad 2 day ++
    isoTime (t % 86400000000)

example : Time.isoformat (739524 * 86400000000 + 3661500000) = "2025-10-01T01:01:01.500000" := by
  decide

/-- A `datetime.datetime`: the day and the microseconds since it began. -/
structure DateTime where
  date : Date
  time : Nat
  deriving Repr

namespace DateTime

/-- Datetimes compare by day and time. -/
def key (d : DateTime) : Date ×ₗ ℕ := toLex (d.date, d.time)

theorem key_injective : Function.Injective key := by
  intro d d' h
  cases d
  cases d'
  simp only [key, EmbeddingLike.apply_eq_iff_eq, Prod.mk.injEq] at h
  obtain ⟨rfl, rfl⟩ := h
  rfl

instance : LinearOrder DateTime := LinearOrder.lift' key key_injective

/-- `_due_at_for_date`: the end of the day (`datetime.time.max`). -/
def dueAtForDate (d : Date) : DateTime := ⟨d, 86399999999⟩

/-- `datetime.isoformat()`. -/
def isoformat (d : DateTime) : String := d.date.isoformat ++ isoTime d.time

end DateTime
end MiniGrc
