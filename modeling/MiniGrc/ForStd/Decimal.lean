import Mathlib.Data.Nat.Log
import Mathlib.Algebra.Order.Field.Power
import Mathlib.Algebra.Order.Field.Rat
import Mathlib.Tactic.Positivity
import Mathlib.Tactic.Ring

/-!
# Decimal floating-point numbers

The numbers of the general decimal arithmetic: coefficients with a sign and an exponent,
infinities and NaNs. The result of an operation is rounded half to even to the precision of
a context; numbers above its greatest exponent overflow. Infinities and quiet NaNs are values
like others, a signaling NaN is an invalid operand.

A number that is an integer below `10 ^ (precision - 1)` is not changed when it is rounded to
the precision and then to an integer, and a number from that bound on does not fall below it.

## Key results

- `integral_round_eq`: small integers are exact
- `exists_round_of_lt`: small numbers do not overflow
- `le_integral_round`: large numbers stay large
-/

/-- A decimal floating-point number. -/
inductive Decimal
  | finite (negative : Bool) (coefficient : Nat) (exponent : Int)
  | infinity (negative : Bool)
  | nan (signaling : Bool)
  deriving DecidableEq, Repr

namespace Decimal

/-- The precision and the exponents of a context. -/
structure Context where
  precision : Nat
  minExponent : Int
  maxExponent : Int
  precision_pos : 0 < precision
  minExponent_neg : minExponent < 0
  precision_le : precision ≤ maxExponent + 1

/-- A trapped condition. -/
inductive Signal
  | invalidOperation
  | overflow
  deriving DecidableEq, Repr

/-! ## Operations -/

/-- The number of digits; zero has one. -/
def numDigits (n : Nat) : Nat := Nat.log 10 n + 1

/-- `c / d`, rounded to the nearest integer and half to even. -/
def roundHalfEven (c d : Nat) : Nat :=
  if 2 * (c % d) < d ∨ 2 * (c % d) = d ∧ c / d % 2 = 0 then c / d else c / d + 1

namespace Context

/-- The least exponent of a subnormal number. -/
def etiny (ctx : Context) : Int := ctx.minExponent - (ctx.precision - 1)

/-- The greatest exponent of a number with all digits. -/
def etop (ctx : Context) : Int := ctx.maxExponent - (ctx.precision - 1)

/-- The least exponent with which a coefficient of this size is represented. -/
def least (ctx : Context) (c : Nat) (e : Int) : Int :=
  max (numDigits c + e - ctx.precision) ctx.etiny

/-- Round a coefficient to the precision; a coefficient that becomes too long ends in a
    zero, which is dropped. -/
def round (ctx : Context) (negative : Bool) (c : Nat) (e : Int) : Except Signal Decimal :=
  if c = 0 then .ok (.finite negative 0 (max (min e ctx.maxExponent) ctx.etiny))
  else if ctx.etop < numDigits c + e - ctx.precision then .error .overflow
  else if ctx.least c e ≤ e then .ok (.finite negative c e)
  else
    let q := roundHalfEven c (10 ^ (ctx.least c e - e).toNat)
    if numDigits q ≤ ctx.precision then .ok (.finite negative q (ctx.least c e))
    else if ctx.etop < ctx.least c e + 1 then .error .overflow
    else .ok (.finite negative (q / 10) (ctx.least c e + 1))

/-- The product of two numbers. -/
def mul (ctx : Context) : Decimal → Decimal → Except Signal Decimal
  | .nan true, _ | _, .nan true => .error .invalidOperation
  | .nan false, _ | _, .nan false => .ok (.nan false)
  | .infinity s, .infinity s' => .ok (.infinity (s ^^ s'))
  | .infinity s, .finite s' c _ | .finite s c _, .infinity s' =>
    if c = 0 then .error .invalidOperation else .ok (.infinity (s ^^ s'))
  | .finite s c e, .finite s' c' e' => ctx.round (s ^^ s') (c * c') (e + e')

end Context

/-- The nearest integer of a coefficient with an exponent. -/
def integral (c : Nat) (e : Int) : Nat :=
  if 0 ≤ e then c * 10 ^ e.toNat else roundHalfEven c (10 ^ (-e).toNat)

/-- Round to an integer, without a limit of the precision. -/
def toIntegralValue : Decimal → Except Signal Decimal
  | .finite s c e => .ok (if 0 ≤ e then .finite s c e else .finite s (integral c e) 0)
  | .infinity s => .ok (.infinity s)
  | .nan true => .error .invalidOperation
  | .nan false => .ok (.nan false)

/-- The magnitude with a sign. -/
def signed (negative : Bool) (n : Nat) : Int := if negative then -n else n

/-- The number that a coefficient with a sign and an exponent stands for. -/
def value (negative : Bool) (c : Nat) (e : Int) : ℚ := (if negative then -1 else 1) * (c * 10 ^ e)

/-! ## Rounding to an integer -/

variable {c d m q : Nat} {e : Int}

/-- What is a multiple is not rounded. -/
theorem roundHalfEven_mul (hd : 0 < d) : roundHalfEven (m * d) d = m := by
  rw [roundHalfEven, Nat.mul_mod_left, Nat.mul_div_cancel _ hd, if_pos (.inl (by omega))]

theorem le_roundHalfEven (hd : 0 < d) (h : m * d ≤ c) : m ≤ roundHalfEven c d := by
  have hle := (Nat.le_div_iff_mul_le hd).2 h
  unfold roundHalfEven
  split <;> omega

theorem integral_of_nonneg (h : 0 ≤ e) : integral c e = c * 10 ^ e.toNat := if_pos h

/-- What is an integer is not rounded. -/
theorem integral_eq (h : c * 10 ^ e.toNat = m * 10 ^ (-e).toNat) : integral c e = m := by
  unfold integral
  split
  · next he =>
    rw [h, show (-e).toNat = 0 by omega, Nat.pow_zero, Nat.mul_one]
  · next he =>
    rw [show e.toNat = 0 by omega, Nat.pow_zero, Nat.mul_one] at h
    rw [h]
    exact roundHalfEven_mul (by positivity)

/-! ## Digits -/

theorem pow_numDigits_le (h : c ≠ 0) : 10 ^ (numDigits c - 1) ≤ c := Nat.pow_log_le_self 10 h

theorem lt_pow_numDigits (c : Nat) : c < 10 ^ numDigits c := Nat.lt_pow_succ_log_self (by omega) c

theorem le_of_lt_numDigits {n : Nat} (h : n < numDigits c) (hc : c ≠ 0) : 10 ^ n ≤ c :=
  (Nat.pow_le_pow_right (by omega) (by omega)).trans (pow_numDigits_le hc)

/-- Of a number and its digits, the power of ten decides. -/
theorem numDigits_lt {n k j : Nat} (hc : c ≠ 0) (h : c * 10 ^ k < 10 ^ n * 10 ^ j) :
    numDigits c + k ≤ n + j := by
  have hlt : 10 ^ (numDigits c - 1 + k) < 10 ^ (n + j) := by
    rw [Nat.pow_add, Nat.pow_add]
    exact (Nat.mul_le_mul_right _ (pow_numDigits_le hc)).trans_lt h
  have hpos : 0 < numDigits c := Nat.succ_pos _
  have hexp := (Nat.pow_lt_pow_iff_right (by omega)).1 hlt
  omega

theorem lt_numDigits {n k j : Nat} (h : 10 ^ n * 10 ^ j ≤ c * 10 ^ k) :
    n + j < numDigits c + k := by
  have hlt : 10 ^ (n + j) < 10 ^ (numDigits c + k) := by
    rw [Nat.pow_add, Nat.pow_add]
    exact h.trans_lt (Nat.mul_lt_mul_of_pos_right (lt_pow_numDigits c) (by positivity))
  exact (Nat.pow_lt_pow_iff_right (by omega)).1 hlt

/-! ## Rounding to the precision -/

variable {ctx : Context} {negative : Bool} {f : Int}

/-- How a coefficient is rounded. -/
theorem round_cases (hok : ctx.round negative c e = .ok (.finite negative q f)) (hc : c ≠ 0) :
    (ctx.least c e ≤ e ∧ q = c ∧ f = e) ∨
      e < ctx.least c e ∧
        ((numDigits (roundHalfEven c (10 ^ (ctx.least c e - e).toNat)) ≤ ctx.precision ∧
          q = roundHalfEven c (10 ^ (ctx.least c e - e).toNat) ∧ f = ctx.least c e) ∨
        (ctx.precision < numDigits (roundHalfEven c (10 ^ (ctx.least c e - e).toNat)) ∧
          q = roundHalfEven c (10 ^ (ctx.least c e - e).toNat) / 10 ∧ f = ctx.least c e + 1)) := by
  simp only [Context.round, if_neg hc] at hok
  split at hok
  · cases hok
  · split at hok
    · next hle =>
      cases hok
      exact .inl ⟨hle, rfl, rfl⟩
    · next hlt =>
      refine .inr ⟨by omega, ?_⟩
      split at hok
      · next hdigits =>
        cases hok
        exact .inl ⟨hdigits, rfl, rfl⟩
      · next hdigits =>
        split at hok
        · cases hok
        · cases hok
          exact .inr ⟨by omega, rfl, rfl⟩

/-- A number that is rounded is finite or overflows. -/
theorem round_finite_or_overflow (ctx : Context) (negative : Bool) (c : Nat) (e : Int) :
    (∃ q f, ctx.round negative c e = .ok (.finite negative q f)) ∨
      ctx.round negative c e = .error .overflow := by
  unfold Context.round
  split
  · exact .inl ⟨_, _, rfl⟩
  · split
    · exact .inr rfl
    · split
      · exact .inl ⟨_, _, rfl⟩
      · simp only
        split
        · exact .inl ⟨_, _, rfl⟩
        · split
          · exact .inr rfl
          · exact .inl ⟨_, _, rfl⟩

/-- A number below `10 ^ (precision - 1)` is rounded, if at all, behind the point, and does not
    overflow. -/
theorem least_neg (hc : c ≠ 0)
    (h : c * 10 ^ e.toNat < 10 ^ (ctx.precision - 1) * 10 ^ (-e).toNat) :
    numDigits c + e - ctx.precision < 0 ∧ ctx.least c e < 0 := by
  have hdigits := numDigits_lt hc h
  have hprecision := ctx.precision_pos
  have hmin := ctx.minExponent_neg
  unfold Context.least Context.etiny
  omega

/-- A small number does not overflow. -/
theorem exists_round_of_lt (ctx : Context) (negative : Bool)
    (h : c * 10 ^ e.toNat < 10 ^ (ctx.precision - 1) * 10 ^ (-e).toNat) :
    ∃ q f, ctx.round negative c e = .ok (.finite negative q f) := by
  by_cases hc : c = 0
  · exact ⟨0, _, by rw [Context.round, if_pos hc]⟩
  obtain ⟨hexcess, hleast⟩ := least_neg hc h
  have htop : 0 ≤ ctx.etop := by
    have hle := ctx.precision_le
    have hpos := ctx.precision_pos
    unfold Context.etop
    omega
  simp only [Context.round, if_neg hc]
  rw [if_neg (by omega)]
  split
  · exact ⟨_, _, rfl⟩
  · split
    · exact ⟨_, _, rfl⟩
    · rw [if_neg (by omega)]
      exact ⟨_, _, rfl⟩

/-- Zero stays zero. -/
theorem coefficient_of_round_zero (hok : ctx.round negative 0 e = .ok (.finite negative q f)) :
    q = 0 := by
  rw [Context.round, if_pos rfl] at hok
  cases hok
  rfl

/-- An integer below `10 ^ (precision - 1)` is exact. -/
theorem integral_round_eq (hok : ctx.round negative c e = .ok (.finite negative q f))
    (h : c * 10 ^ e.toNat < 10 ^ (ctx.precision - 1) * 10 ^ (-e).toNat)
    (hm : c * 10 ^ e.toNat = m * 10 ^ (-e).toNat) : integral q f = m := by
  by_cases hc : c = 0
  · subst hc
    have hzero : m = 0 := by
      have hpos : 0 < 10 ^ (-e).toNat := by positivity
      rw [Nat.zero_mul] at hm
      exact (Nat.mul_eq_zero.1 hm.symm).resolve_right hpos.ne'
    rw [coefficient_of_round_zero hok, hzero]
    exact integral_eq (by rw [Nat.zero_mul, Nat.zero_mul])
  rcases round_cases hok hc with ⟨-, rfl, rfl⟩ | ⟨hlt, hcases⟩
  · exact integral_eq hm
  -- the digits that are rounded off are zeros behind the point
  obtain ⟨-, hleast⟩ := least_neg hc h
  have hq : roundHalfEven c (10 ^ (ctx.least c e - e).toNat) =
      m * 10 ^ (-ctx.least c e).toNat := by
    have hc : c = m * 10 ^ (-ctx.least c e).toNat * 10 ^ (ctx.least c e - e).toNat := by
      rw [Nat.mul_assoc, ← Nat.pow_add,
        show (-ctx.least c e).toNat + (ctx.least c e - e).toNat = (-e).toNat by omega, ← hm,
        show e.toNat = 0 by omega, Nat.pow_zero, Nat.mul_one]
    generalize ctx.least c e = l at *
    rw [hc]
    exact roundHalfEven_mul (by positivity)
  rcases hcases with ⟨-, rfl, rfl⟩ | ⟨-, rfl, rfl⟩
  · refine integral_eq ?_
    rw [hq, show (ctx.least c e).toNat = 0 by omega, Nat.pow_zero, Nat.mul_one]
  · refine integral_eq ?_
    rw [hq, show (-ctx.least c e).toNat = (-(ctx.least c e + 1)).toNat + 1 by omega, Nat.pow_succ,
      ← Nat.mul_assoc, Nat.mul_div_cancel _ (by omega),
      show (ctx.least c e + 1).toNat = 0 by omega, Nat.pow_zero, Nat.mul_one]

/-- A number from `10 ^ (precision - 1)` on does not fall below it. -/
theorem le_integral_round (hok : ctx.round negative c e = .ok (.finite negative q f))
    (h : 10 ^ (ctx.precision - 1) * 10 ^ (-e).toNat ≤ c * 10 ^ e.toNat) :
    10 ^ (ctx.precision - 1) ≤ integral q f := by
  have hc : c ≠ 0 := by
    rintro rfl
    have hpos : 0 < 10 ^ (ctx.precision - 1) * 10 ^ (-e).toNat := by positivity
    omega
  have hdigits := lt_numDigits h
  have hprecision := ctx.precision_pos
  have hmin := ctx.minExponent_neg
  -- the coefficient is rounded in front of the point
  have hleast : ctx.least c e = numDigits c + e - ctx.precision := by
    unfold Context.least Context.etiny
    omega
  have hnonneg : 0 ≤ ctx.least c e := by omega
  have hle : ∀ n : Nat, 10 ^ (ctx.precision - 1) ≤ n → ∀ k : Int, 0 ≤ k →
      10 ^ (ctx.precision - 1) ≤ integral n k := by
    intro n hn k hk
    rw [integral_of_nonneg hk]
    exact hn.trans (Nat.le_mul_of_pos_right n (by positivity))
  rcases round_cases hok hc with ⟨hle', rfl, rfl⟩ | ⟨hlt, hcases⟩
  · rw [integral_of_nonneg (by omega)]
    rwa [show (-f).toNat = 0 by omega, Nat.pow_zero, Nat.mul_one] at h
  have hq : 10 ^ (ctx.precision - 1) ≤ roundHalfEven c (10 ^ (ctx.least c e - e).toNat) := by
    refine le_roundHalfEven (by positivity) ?_
    rw [← Nat.pow_add]
    exact (Nat.pow_le_pow_right (by omega) (by omega)).trans (pow_numDigits_le hc)
  rcases hcases with ⟨-, rfl, rfl⟩ | ⟨hlong, rfl, rfl⟩
  · exact hle _ hq _ hnonneg
  · refine hle _ ?_ _ (by omega)
    refine (Nat.le_div_iff_mul_le (by omega)).2 ?_
    rw [← Nat.pow_succ, show (ctx.precision - 1).succ = ctx.precision by omega]
    exact le_of_lt_numDigits hlong (by
      have hpos : 0 < 10 ^ (ctx.precision - 1) := by positivity
      omega)

/-! ## Values -/

theorem zpow_eq (e : Int) : (10 : ℚ) ^ e = 10 ^ e.toNat / 10 ^ (-e).toNat := by
  rcases Int.le_total 0 e with h | h
  · rw [show (-e).toNat = 0 by omega, pow_zero, div_one, ← zpow_natCast, Int.toNat_of_nonneg h]
  · rw [show e.toNat = 0 by omega, pow_zero, one_div, ← zpow_natCast, ← zpow_neg,
      Int.toNat_of_nonneg (by omega), neg_neg]

/-- Magnitudes are compared over the integers. -/
theorem magnitude_lt_iff : (c : ℚ) * 10 ^ e < m ↔ c * 10 ^ e.toNat < m * 10 ^ (-e).toNat := by
  rw [zpow_eq, mul_div_assoc', div_lt_iff₀ (by positivity)]
  exact_mod_cast Iff.rfl

theorem magnitude_eq_iff : (c : ℚ) * 10 ^ e = m ↔ c * 10 ^ e.toNat = m * 10 ^ (-e).toNat := by
  rw [zpow_eq, mul_div_assoc', div_eq_iff (by positivity)]
  exact_mod_cast Iff.rfl

theorem abs_value (negative : Bool) (c : Nat) (e : Int) : |value negative c e| = c * 10 ^ e := by
  have hnonneg : (0 : ℚ) ≤ c * 10 ^ e := by positivity
  cases negative with
  | false => simp [value, abs_of_nonneg hnonneg]
  | true => simp [value, abs_of_nonneg hnonneg]

/-- The magnitude of a number that is an integer. -/
theorem magnitude_of_value_eq {n : Int} (h : value negative c e = n) :
    (c : ℚ) * 10 ^ e = (n.natAbs : Nat) ∧ n = signed negative n.natAbs := by
  have hnonneg : (0 : ℚ) ≤ c * 10 ^ e := by positivity
  have habs : (c : ℚ) * 10 ^ e = (n.natAbs : Nat) := by
    rw [← abs_value negative, h, Nat.cast_natAbs, Int.cast_abs]
  refine ⟨habs, ?_⟩
  cases negative with
  | false =>
    have hn : (0 : ℚ) ≤ n := by rw [← h]; simpa [value] using hnonneg
    have hn : 0 ≤ n := by exact_mod_cast hn
    show n = n.natAbs
    omega
  | true =>
    have hn : (n : ℚ) ≤ 0 := by rw [← h]; simpa [value] using hnonneg
    have hn : n ≤ 0 := by exact_mod_cast hn
    show n = -(n.natAbs : Int)
    omega

/-- The product of two numbers, before it is rounded. -/
theorem value_mul (negative : Bool) (c c' : Nat) (e e' : Int) :
    value negative (c * c') (e + e') = value negative c e * (c' * 10 ^ e') := by
  simp only [value, zpow_add₀ (show (10 : ℚ) ≠ 0 by norm_num), Nat.cast_mul]
  ring

end Decimal
