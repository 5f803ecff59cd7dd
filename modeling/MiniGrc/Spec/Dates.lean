import MiniGrc.ForStd.List
import MiniGrc.App.Dates

/-!
# Dates and schedules

The ISO text of a date determines the date, and a schedule that goes on by a positive
number of months is strictly increasing.

## Key results

- `Date.isoformat_injective`
- `Date.toordinal_le_iff`: dates compare as their ordinals
- `Date.every_sorted`, `Date.every_bounds`: the dates of a schedule
- `Date.every_getLast`: a schedule ends where the next date lies beyond its last day
- `Date.subDays_isSome_iff`: when a date can be moved back
-/

namespace MiniGrc

/-! ## Texts -/

/-- The digits of a number determine it, and zeros in front do not matter. -/
theorem Date.zeroPad_injective (width : Nat) : Function.Injective (Date.zeroPad width) := by
  have hvalue : ∀ n, Nat.ofDigitChars 10 (Date.zeroPad width n).toList 0 = n := by
    intro n
    unfold Date.zeroPad
    rw [String.toList_ofList, List.leftpad, Nat.ofDigitChars_append,
      Nat.ofDigitChars_replicate_zero, Nat.mul_zero]
    show Nat.ofDigitChars 10 n.repr.toList 0 = n
    rw [Nat.toList_repr, Nat.ofDigitChars_ten_toDigits]
  intro n m h
  rw [← hvalue n, h, hvalue m]

/-- Two numbers of one text are equal. -/
theorem toString_nat_injective : Function.Injective (toString : Nat → String) := by
  have hvalue : ∀ n : Nat, Nat.ofDigitChars 10 (toString n).toList 0 = n := fun n => by
    show Nat.ofDigitChars 10 n.repr.toList 0 = n
    rw [Nat.toList_repr, Nat.ofDigitChars_ten_toDigits]
  intro n m h
  rw [← hvalue n, h, hvalue m]

/-- Numbers are written in digits. -/
theorem isDigit_of_mem_toString {n : Nat} {c : Char} (h : c ∈ (toString n).toList) : c.isDigit := by
  have h : c ∈ n.repr.toList := h
  rw [Nat.toList_repr] at h
  exact Nat.isDigit_of_mem_toDigits (by decide) (by decide) h

/-- A padded number has digits only. -/
theorem Date.isDigit_of_mem_zeroPad {width n : Nat} {c : Char}
    (h : c ∈ (Date.zeroPad width n).toList) : c.isDigit := by
  rw [zeroPad, String.toList_ofList, List.leftpad, List.mem_append] at h
  rcases h with h | h
  · rw [List.eq_of_mem_replicate h]
    decide
  · exact isDigit_of_mem_toString h

/-- The characters of an ISO date. -/
theorem Date.isoformat_toList (d : Date) :
    d.isoformat.toList = (zeroPad 4 d.year).toList ++
      '-' :: ((zeroPad 2 d.month).toList ++ '-' :: (zeroPad 2 d.day).toList) := by
  simp [isoformat, String.toList_append]

/-- A date can be read off its ISO text. -/
theorem Date.isoformat_injective : Function.Injective Date.isoformat := by
  intro d d' h
  have hdash : ∀ width n, '-' ∉ (zeroPad width n).toList := fun width n hmem => by
    have hdigit := isDigit_of_mem_zeroPad hmem
    cases hdigit
  have hlist := congrArg String.toList h
  rw [isoformat_toList, isoformat_toList] at hlist
  obtain ⟨hyear, hlist⟩ := List.separated_inj (hdash _ _) (hdash _ _) hlist
  obtain ⟨hmonth, hday⟩ := List.separated_inj (hdash _ _) (hdash _ _) hlist
  have hyear := zeroPad_injective 4 (String.toList_inj.1 hyear)
  have hmonth := zeroPad_injective 2 (String.toList_inj.1 hmonth)
  have hday := zeroPad_injective 2 (String.toList_inj.1 hday)
  cases d
  cases d'
  cases hyear
  cases hmonth
  cases hday
  rfl

/-! ## Schedules -/

namespace Date

variable {interval : Nat} {hinterval : 0 < interval} {current last d d' : Date} {dates : List Date}

/-- Going on by a positive number of months leads to a later date. -/
theorem lt_addMonths {months : Nat} (hpos : 0 < months) (h : d.addMonths months = .ok d') :
    d < d' := by
  by_contra hle
  have hindex := monthIndex_le (not_lt.1 hle)
  have := monthIndex_addMonths h
  omega

/-- A schedule is empty, or begins with its first date and goes on with the rest. -/
theorem every_cases (h : every interval hinterval current last = .ok dates) :
    (last < current ∧ dates = []) ∨ current ≤ last ∧ ∃ next rest,
      current.addMonths interval = .ok next ∧
        every interval hinterval next last = .ok rest ∧ dates = current :: rest := by
  rw [every] at h
  split at h
  · next hle =>
    split at h
    · cases h
    · next next hnext =>
      cases hrest : every interval hinterval next last with
      | error e => rw [hrest] at h; cases h
      | ok rest =>
        rw [hrest] at h
        exact .inr ⟨hle, next, rest, hnext, hrest, (Except.ok.inj h).symm⟩
  · next hle => exact .inl ⟨not_le.1 hle, (Except.ok.inj h).symm⟩

/-- A date that lies beyond the last day is the start of an empty schedule. -/
theorem every_eq_nil (h : last < current) : every interval hinterval current last = .ok [] := by
  rw [every, dif_neg (not_le.2 h)]

/-- A schedule whose second date is unsupported is not computed. -/
theorem every_eq_error {e : PyError} (hle : current ≤ last)
    (hnext : current.addMonths interval = .error e) :
    every interval hinterval current last = .error e := by
  rw [every, dif_pos hle]
  split
  · next herror => rw [Except.error.inj (hnext.symm.trans herror)]
  · next hnext' => cases hnext.symm.trans hnext'

/-- One round of a schedule. -/
theorem every_eq_map {next : Date} (hle : current ≤ last)
    (hnext : current.addMonths interval = .ok next) :
    every interval hinterval current last =
      (every interval hinterval next last).map (current :: ·) := by
  rw [every, dif_pos hle]
  split
  · next herror => cases hnext.symm.trans herror
  · next hnext' =>
    obtain rfl := Except.ok.inj (hnext.symm.trans hnext')
    rfl

/-- A schedule begins with its first date. -/
theorem every_eq_cons {next : Date} {rest : List Date} (hle : current ≤ last)
    (hnext : current.addMonths interval = .ok next)
    (hrest : every interval hinterval next last = .ok rest) :
    every interval hinterval current last = .ok (current :: rest) := by
  rw [every_eq_map hle hnext, hrest]
  rfl

/-- The dates of a schedule lie between its start and its last day. -/
theorem every_bounds (h : every interval hinterval current last = .ok dates) :
    ∀ d ∈ dates, current ≤ d ∧ d ≤ last := by
  induction dates generalizing current with
  | nil => exact fun d hd => absurd hd List.not_mem_nil
  | cons x rest ih =>
    rcases every_cases h with ⟨-, hnil⟩ | ⟨hle, next, rest', hnext, hrest, hdates⟩
    · cases hnil
    · obtain ⟨rfl, rfl⟩ := List.cons.inj hdates
      intro d hd
      rcases List.mem_cons.1 hd with rfl | hd
      · exact ⟨le_rfl, hle⟩
      · obtain ⟨hlow, hhigh⟩ := ih hrest d hd
        exact ⟨(lt_addMonths hinterval hnext).le.trans hlow, hhigh⟩

/-- The dates of a schedule increase. -/
theorem every_sorted (h : every interval hinterval current last = .ok dates) :
    dates.Pairwise (· < ·) := by
  induction dates generalizing current with
  | nil => exact .nil
  | cons x rest ih =>
    rcases every_cases h with ⟨-, hnil⟩ | ⟨-, next, rest', hnext, hrest, hdates⟩
    · cases hnil
    · obtain ⟨rfl, rfl⟩ := List.cons.inj hdates
      refine List.pairwise_cons.2 ⟨fun d hd => ?_, ih hrest⟩
      exact (lt_addMonths hinterval hnext).trans_le (every_bounds hrest d hd).1

end Date

/-! ## Ordinals -/

namespace Date

variable {d d' : Date}

/-- The leap days before a year: one more after each leap year. -/
theorem leapDays_succ (n : Nat) :
    (n + 1) / 4 - (n + 1) / 100 + (n + 1) / 400 =
      n / 4 - n / 100 + n / 400 + if isLeap (n + 1) then 1 else 0 := by
  have hle : n / 100 ≤ n / 4 := Nat.div_le_div_left (by decide) (by decide)
  have h4 : 4 ∣ n + 1 ↔ (n + 1) % 4 = 0 := Nat.dvd_iff_mod_eq_zero
  have h100 : 100 ∣ n + 1 ↔ (n + 1) % 100 = 0 := Nat.dvd_iff_mod_eq_zero
  have h400 : 400 ∣ n + 1 ↔ (n + 1) % 400 = 0 := Nat.dvd_iff_mod_eq_zero
  simp only [Nat.succ_div, h4, h100, h400, isLeap, decide_eq_true_eq]
  generalize n / 4 = a at *
  generalize n / 100 = b at *
  split_ifs <;> omega

/-- The days of a year are those of its months. -/
theorem daysBeforeYear_succ {year : Nat} (h : 1 ≤ year) :
    daysBeforeYear (year + 1) = daysBeforeYear year + daysBeforeMonth year 12 + 31 := by
  have hdays : daysBeforeMonth year 12 = 334 + if isLeap year then 1 else 0 := by
    simp only [daysBeforeMonth, daysInMonth]
    cases isLeap year <;> rfl
  obtain ⟨n, rfl⟩ := Nat.exists_eq_add_of_le' h
  have hleap := leapDays_succ n
  have hle : n / 100 ≤ n / 4 := Nat.div_le_div_left (by decide) (by decide)
  have hle' : (n + 1) / 100 ≤ (n + 1) / 4 := Nat.div_le_div_left (by decide) (by decide)
  simp only [daysBeforeYear, Nat.add_sub_cancel, hdays]
  generalize (if isLeap (n + 1) then 1 else 0) = leap at *
  omega

/-- A later year has as many days before it, or more. -/
theorem daysBeforeYear_mono {year year' : Nat} (h : 1 ≤ year) (hle : year ≤ year') :
    daysBeforeYear year ≤ daysBeforeYear year' := by
  induction year', hle using Nat.le_induction with
  | base => exact le_rfl
  | succ n hn ih =>
    rw [daysBeforeYear_succ (h.trans hn)]
    omega

/-- The next month has the days of this one before it. -/
theorem daysBeforeMonth_succ {year month : Nat} (h : 1 ≤ month) :
    daysBeforeMonth year (month + 1) = daysBeforeMonth year month + daysInMonth year month := by
  obtain ⟨m, rfl⟩ := Nat.exists_eq_add_of_le' h
  rfl

/-- A later month has as many days before it, or more. -/
theorem daysBeforeMonth_mono {year month month' : Nat} (h : 1 ≤ month) (hle : month ≤ month') :
    daysBeforeMonth year month ≤ daysBeforeMonth year month' := by
  induction month', hle using Nat.le_induction with
  | base => exact le_rfl
  | succ n hn ih =>
    rw [daysBeforeMonth_succ (h.trans hn)]
    omega

/-- A date comes before the first day of the next month. -/
theorem day_le_daysBeforeMonth_succ (d : Date) :
    daysBeforeMonth d.year d.month + d.day ≤ daysBeforeMonth d.year (d.month + 1) := by
  rw [daysBeforeMonth_succ d.month_mem.1]
  exact Nat.add_le_add_left d.day_mem.2 _

/-- A date comes before the first day of the next year. -/
theorem toordinal_le_daysBeforeYear_succ (d : Date) :
    d.toordinal ≤ daysBeforeYear (d.year + 1) := by
  have hday := d.day_le_daysBeforeMonth_succ
  have hmonth : daysBeforeMonth d.year (d.month + 1) ≤ daysBeforeMonth d.year 13 :=
    daysBeforeMonth_mono (by omega) (by have := d.month_mem; omega)
  have hdecember : daysBeforeMonth d.year 13 = daysBeforeMonth d.year 12 + 31 := rfl
  rw [toordinal, daysBeforeYear_succ d.year_mem.1]
  omega

/-- Dates compare as their ordinals. -/
theorem toordinal_lt (h : d < d') : d.toordinal < d'.toordinal := by
  have hkey : d.key < d'.key := h
  have hday := d'.day_mem.1
  simp only [key, Prod.Lex.toLex_lt_toLex] at hkey
  -- The year differs, or the month, or the day.
  rcases hkey with hyear | ⟨hyear, hmonth | ⟨hmonth, hlt⟩⟩
  · have hyears := daysBeforeYear_mono (by omega : 1 ≤ d.year + 1) hyear
    have hle := d.toordinal_le_daysBeforeYear_succ
    simp only [toordinal] at hle ⊢
    omega
  · have hmonths : daysBeforeMonth d.year (d.month + 1) ≤ daysBeforeMonth d.year d'.month :=
      daysBeforeMonth_mono (by omega) (Nat.succ_le_of_lt hmonth)
    have hle := d.day_le_daysBeforeMonth_succ
    simp only [toordinal, ← hyear]
    omega
  · simp only [toordinal, ← hyear, ← hmonth]
    omega

/-- Ordinals are in the order of the dates. -/
theorem toordinal_le_iff : d.toordinal ≤ d'.toordinal ↔ d ≤ d' := by
  constructor
  · intro h
    by_contra hnot
    exact absurd (toordinal_lt (not_le.1 hnot)) (not_lt.2 h)
  · intro h
    rcases h.lt_or_eq with hlt | rfl
    · exact (toordinal_lt hlt).le
    · exact le_rfl

/-! ## Going back by days -/

/-- The ordinals of the years 1 to 9999. -/
theorem toordinal_mem (d : Date) : 1 ≤ d.toordinal ∧ d.toordinal ≤ 3652059 := by
  have hday := d.day_mem.1
  have hyear := d.year_mem
  have hlast : daysBeforeYear 10000 = 3652059 := rfl
  have hle := (toordinal_le_daysBeforeYear_succ d).trans
    (daysBeforeYear_mono (by omega) (by omega : d.year + 1 ≤ 10000))
  unfold toordinal at *
  omega

/-- A date can be moved back if it stays within the supported years. -/
theorem subDays_isSome_iff {days : Int} : (d.subDays days).isSome ↔
    1 ≤ (d.toordinal : Int) - days ∧ (d.toordinal : Int) - days ≤ 3652059 := by
  have hd := d.toordinal_mem
  unfold subDays
  split
  · simp only [Option.isSome_none, Bool.false_eq_true, false_iff]
    omega
  · split
    · simp only [Option.isSome_some, true_iff]
      omega
    · simp only [Option.isSome_none, Bool.false_eq_true, false_iff]
      omega

end Date

/-! ## The end of the day -/

end MiniGrc
