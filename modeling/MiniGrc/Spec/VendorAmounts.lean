import MiniGrc.App.VendorSystems
import MiniGrc.ForStd.Except
import MiniGrc.Spec.Dates

/-!
# Amounts and days of vendor systems

A form for a vendor system is refused with a message or stored with its exact amounts, and
what is computed of the row on any day does not fail, unless an amount is infinite or too
large, a field is a file, the database refuses the row, or the days of notice lead out of the
supported years.

## Key results

- `parseMinorUnits_exact`, `parseMinorUnits_eq_overflow_iff`: what becomes of an amount
- `requests_sound_iff`: when a request does what it should
-/

namespace MiniGrc

namespace VendorSystems

open PolicyStorage Routes

variable {env : Environment} {form : Form} {text : String}

/-! ## Amounts -/

/-- The text denotes a number. -/
def Denotes (env : Environment) (text : String) (v : ℚ) : Prop :=
  stripText text ≠ "" ∧ ∃ negative c e,
    env.decimal (stripText text) = some (.finite negative c e) ∧ v = Decimal.value negative c e

/-- The text is an infinity. -/
def IsInfinite (env : Environment) (text : String) : Prop :=
  stripText text ≠ "" ∧ ∃ negative, env.decimal (stripText text) = some (.infinity negative)

/-- The text is there, but is no number. -/
def NotANumber (env : Environment) (text : String) : Prop :=
  stripText text ≠ "" ∧ (env.decimal (stripText text) = none ∨
    ∃ signaling, env.decimal (stripText text) = some (.nan signaling))

/-- The amount is infinite, or too large for an exponent of the decimal context. -/
def Overflows (env : Environment) (text : String) : Prop :=
  IsInfinite env text ∨ stripText text ≠ "" ∧ ∃ negative c e,
    env.decimal (stripText text) = some (.finite negative c e) ∧
      defaultContext.mul (.finite negative c e) (.finite false 100 0) = .error .overflow

/-- A hundredfold is rounded as the context says. -/
theorem mul_hundred (negative : Bool) (c : Nat) (e : Int) :
    defaultContext.mul (.finite negative c e) (.finite false 100 0) =
      defaultContext.round negative (c * 100) e := by
  rw [Decimal.Context.mul, Bool.xor_false, Int.add_zero]

/-- How a number is turned into minor units. -/
theorem parseMinorUnits_of_finite {negative : Bool} {c : Nat} {e : Int}
    (hblank : stripText text ≠ "")
    (h : env.decimal (stripText text) = some (.finite negative c e)) :
    (∃ q f, defaultContext.round negative (c * 100) e = .ok (.finite negative q f) ∧
      parseMinorUnits env text = .ok (some (Decimal.signed negative (Decimal.integral q f)))) ∨
    defaultContext.round negative (c * 100) e = .error .overflow ∧
      parseMinorUnits env text = .error .overflow := by
  rcases Decimal.round_finite_or_overflow defaultContext negative (c * 100) e with
    ⟨q, f, hround⟩ | hround
  · refine .inl ⟨q, f, hround, ?_⟩
    -- Rounding away the fraction leaves an integer either way.
    by_cases hf : 0 ≤ f
    · have hint : intOfDecimal (.finite negative q f) =
          .ok (Decimal.signed negative (Decimal.integral q f)) := by
        rw [intOfDecimal, if_pos hf, Decimal.integral_of_nonneg hf]
      simp [parseMinorUnits, hblank, h, mul_hundred, hround, bind, Except.bind,
        Decimal.toIntegralValue, hf, hint]
    · have hint : intOfDecimal (.finite negative (Decimal.integral q f) 0) =
          .ok (Decimal.signed negative (Decimal.integral q f)) := by
        simp [intOfDecimal]
      simp [parseMinorUnits, hblank, h, mul_hundred, hround, bind, Except.bind,
        Decimal.toIntegralValue, hf, hint]
  · refine .inr ⟨hround, ?_⟩
    simp [parseMinorUnits, hblank, h, mul_hundred, hround, bind, Except.bind]

/-- The minor units before they are rounded. -/
theorem minorUnits_value (negative : Bool) (c : Nat) (e : Int) :
    100 * Decimal.value negative c e = Decimal.value negative (c * 100) e := by
  have h := Decimal.value_mul negative c 100 e 0
  rw [Int.add_zero, zpow_zero, mul_one] at h
  rw [h, mul_comm]
  rfl

/-- The context has digits enough for the minor units. -/
theorem abs_value_lt_iff (negative : Bool) (c : Nat) (e : Int) :
    |Decimal.value negative c e| < 10 ^ 25 ↔ c * 100 * 10 ^ e.toNat <
      10 ^ (defaultContext.precision - 1) * 10 ^ (-e).toNat := by
  have hbound : ((10 ^ (defaultContext.precision - 1) : Nat) : ℚ) = |(100 : ℚ)| * 10 ^ 25 := by
    norm_num [defaultContext]
  rw [← Decimal.magnitude_lt_iff, ← Decimal.abs_value negative, ← minorUnits_value, abs_mul, hbound,
    mul_lt_mul_iff_right₀ (by norm_num)]

/-- An amount below 10^25 with no more than two decimals has its exact minor units. -/
theorem parseMinorUnits_of_lt {v : ℚ} {m : Int} (hdenotes : Denotes env text v)
    (hv : |v| < 10 ^ 25) (hm : 100 * v = m) : parseMinorUnits env text = .ok (some m) := by
  obtain ⟨hblank, negative, c, e, hdecimal, rfl⟩ := hdenotes
  have hlt := (abs_value_lt_iff negative c e).1 hv
  rw [minorUnits_value] at hm
  obtain ⟨hmagnitude, hsigned⟩ := Decimal.magnitude_of_value_eq hm
  rcases parseMinorUnits_of_finite hblank hdecimal with ⟨q, f, hround, hparse⟩ | ⟨hover, -⟩
  · rw [hparse, Decimal.integral_round_eq hround hlt (Decimal.magnitude_eq_iff.1 hmagnitude),
      ← hsigned]
  · obtain ⟨q, f, hround⟩ := Decimal.exists_round_of_lt defaultContext negative hlt
    rw [hover] at hround
    cases hround

/-- Minor units that fit into 64 bits are exact if the amount has no more than two decimals:
    larger amounts do not become small. -/
theorem parseMinorUnits_exact {v : ℚ} {n : Int} (hdenotes : Denotes env text v)
    (hparse : parseMinorUnits env text = .ok (some n)) (hn : n.natAbs ≤ 2 ^ 63) (m : Int)
    (hm : 100 * v = m) : n = m := by
  -- A value of 26 digits or more cannot be an amount of 64 bits.
  by_cases hv : |v| < 10 ^ 25
  · rw [parseMinorUnits_of_lt hdenotes hv hm] at hparse
    exact (Option.some.inj (Except.ok.inj hparse)).symm
  obtain ⟨hblank, negative, c, e, hdecimal, rfl⟩ := hdenotes
  rcases parseMinorUnits_of_finite hblank hdecimal with ⟨q, f, hround, hparse'⟩ | ⟨-, hover⟩
  · rw [hparse] at hparse'
    obtain rfl := Option.some.inj (Except.ok.inj hparse')
    rw [abs_value_lt_iff] at hv
    have hlarge := Decimal.le_integral_round hround (not_lt.1 hv)
    have habs : (Decimal.signed negative (Decimal.integral q f)).natAbs = Decimal.integral q f := by
      cases negative <;> simp [Decimal.signed]
    rw [habs] at hn
    exact absurd (hlarge.trans hn) (by decide)
  · rw [hover] at hparse
    cases hparse

/-- What a text can be. -/
theorem text_cases (env : Environment) (text : String) :
    stripText text = "" ∨ NotANumber env text ∨ IsInfinite env text ∨ ∃ v, Denotes env text v := by
  by_cases hblank : stripText text = ""
  · exact .inl hblank
  cases hdecimal : env.decimal (stripText text) with
  | none => exact .inr (.inl ⟨hblank, .inl hdecimal⟩)
  | some d =>
    cases d with
    | finite negative c e =>
      exact .inr (.inr (.inr ⟨_, hblank, negative, c, e, hdecimal, rfl⟩))
    | infinity negative => exact .inr (.inr (.inl ⟨hblank, negative, hdecimal⟩))
    | nan signaling => exact .inr (.inl ⟨hblank, .inr ⟨signaling, hdecimal⟩⟩)

/-- A blank text is no amount. -/
theorem parseMinorUnits_of_blank (h : stripText text = "") :
    parseMinorUnits env text = .ok none := if_pos h

/-- What is no number is refused. -/
theorem parseMinorUnits_of_notANumber (h : NotANumber env text) :
    parseMinorUnits env text = .error (notAnAmount (stripText text)) := by
  obtain ⟨hblank, hdecimal | ⟨signaling, hdecimal⟩⟩ := h
  · rw [parseMinorUnits, if_neg hblank, hdecimal]
  · rw [parseMinorUnits, if_neg hblank, hdecimal]
    cases signaling <;> rfl

/-- Infinity has no integral value. -/
theorem parseMinorUnits_of_isInfinite (h : IsInfinite env text) :
    parseMinorUnits env text = .error .overflow := by
  obtain ⟨hblank, negative, hdecimal⟩ := h
  rw [parseMinorUnits, if_neg hblank, hdecimal]
  rfl

/-- A text that is refused is no number. -/
theorem notANumber_of_valueError {message : String}
    (h : parseMinorUnits env text = .error (.valueError message)) :
    NotANumber env text ∧ PyError.valueError message = notAnAmount (stripText text) := by
  -- Only what is no number is refused with a message.
  rcases text_cases env text with hblank | hnot | hinf | ⟨v, hblank, negative, c, e, hdecimal, -⟩
  · rw [parseMinorUnits_of_blank hblank] at h
    cases h
  · rw [parseMinorUnits_of_notANumber hnot] at h
    exact ⟨hnot, (Except.error.inj h).symm⟩
  · rw [parseMinorUnits_of_isInfinite hinf] at h
    cases h
  · rcases parseMinorUnits_of_finite hblank hdecimal with ⟨q, f, -, hparse⟩ | ⟨-, hover⟩
    · rw [hparse] at h
      cases h
    · rw [hover] at h
      cases h

/-- When the arithmetic raises. -/
theorem parseMinorUnits_eq_overflow_iff :
    parseMinorUnits env text = .error .overflow ↔ Overflows env text := by
  constructor
  · intro h
    rcases text_cases env text with hblank | hnot | hinf | ⟨v, hblank, negative, c, e, hdecimal, -⟩
    · rw [parseMinorUnits_of_blank hblank] at h
      cases h
    · rw [parseMinorUnits_of_notANumber hnot] at h
      cases h
    · exact .inl hinf
    · rcases parseMinorUnits_of_finite hblank hdecimal with ⟨q, f, -, hparse⟩ | ⟨hround, -⟩
      · rw [hparse] at h
        cases h
      · exact .inr ⟨hblank, negative, c, e, hdecimal, (mul_hundred negative c e).trans hround⟩
  · rintro (hinf | ⟨hblank, negative, c, e, hdecimal, hover⟩)
    · exact parseMinorUnits_of_isInfinite hinf
    · rw [mul_hundred] at hover
      rcases parseMinorUnits_of_finite hblank hdecimal with ⟨q, f, hround, -⟩ | ⟨-, hparse⟩
      · rw [hover] at hround
        cases hround
      · exact hparse

/-- An amount that does not overflow is refused because it is no number, or it is stored. -/
theorem parseMinorUnits_of_not_overflows (h : ¬ Overflows env text) :
    (NotANumber env text ∧ parseMinorUnits env text = .error (notAnAmount (stripText text))) ∨
      ¬ NotANumber env text ∧ ∃ stored, parseMinorUnits env text = .ok stored := by
  -- Of the errors, only the overflow is left out.
  cases hparse : parseMinorUnits env text with
  | ok stored =>
    refine .inr ⟨fun hnot => ?_, stored, rfl⟩
    rw [parseMinorUnits_of_notANumber hnot] at hparse
    cases hparse
  | error e =>
    rcases text_cases env text with hblank | hnot | hinf | ⟨v, hblank, negative, c, e, hdecimal, -⟩
    · rw [parseMinorUnits_of_blank hblank] at hparse
      cases hparse
    · rw [parseMinorUnits_of_notANumber hnot] at hparse
      exact .inl ⟨hnot, hparse.symm⟩
    · exact absurd (.inl hinf) h
    · rcases parseMinorUnits_of_finite hblank hdecimal with ⟨q, f, -, hok⟩ | ⟨hround, -⟩
      · rw [hok] at hparse
        cases hparse
      · exact absurd (.inr ⟨hblank, negative, c, e, hdecimal,
          (mul_hundred negative c e).trans hround⟩) h

/-- An amount that is read is a number and fits. -/
theorem not_overflows_of_ok {stored : Option Int} (h : parseMinorUnits env text = .ok stored) :
    ¬ Overflows env text ∧ ¬ NotANumber env text := by
  constructor
  · intro hover
    rw [parseMinorUnits_eq_overflow_iff.2 hover] at h
    cases h
  · intro hnot
    rw [parseMinorUnits_of_notANumber hnot] at h
    cases h

/-- What is no number does not overflow. -/
theorem not_overflows_of_notANumber (h : NotANumber env text) : ¬ Overflows env text := by
  intro hover
  have hparse := parseMinorUnits_eq_overflow_iff.2 hover
  rw [parseMinorUnits_of_notANumber h] at hparse
  cases hparse

/-- What is stored for a text: nothing if it is blank, and else the minor units of the number,
    exactly if it has no more than two decimals. -/
def StoredExactly (env : Environment) (text : String) (stored : Option Int) : Prop :=
  (stripText text = "" ∧ stored = none) ∨
    ∃ v n, Denotes env text v ∧ stored = some n ∧ ∀ m : Int, 100 * v = m → n = m

/-- What is stored in 64 bits is stored exactly. -/
theorem storedExactly_of_ok {stored : Option Int} (h : parseMinorUnits env text = .ok stored)
    (hbits : ∀ n, stored = some n → n.natAbs ≤ 2 ^ 63) : StoredExactly env text stored := by
  obtain ⟨hover, hnot⟩ := not_overflows_of_ok h
  -- Blank, no number, infinite or finite: only blank and finite texts are read.
  rcases text_cases env text with hblank | hnot' | hinf | ⟨v, hdenotes⟩
  · rw [parseMinorUnits_of_blank hblank] at h
    exact .inl ⟨hblank, (Except.ok.inj h).symm⟩
  · exact absurd hnot' hnot
  · exact absurd (.inl hinf) hover
  · cases stored with
    | some n => exact .inr ⟨v, n, hdenotes, rfl, parseMinorUnits_exact hdenotes h (hbits n rfl)⟩
    | none =>
      obtain ⟨hblank, negative, c, e, hdecimal, -⟩ := hdenotes
      rcases parseMinorUnits_of_finite hblank hdecimal with ⟨q, f, -, hok⟩ | ⟨-, hraised⟩
      · rw [hok] at h
        cases h
      · rw [hraised] at h
        cases h

/-! ## Fields of a form -/

/-- The text of a field; a file has none. -/
def textOf (form : Form) (key default : String) : String :=
  match Form.get? form key with
  | some (.text value) => value
  | _ => default

/-- The field is no file. -/
def IsText (form : Form) (key : String) : Prop :=
  ∀ filename content, Form.get? form key ≠ some (.file filename content)

/-- A field is read when it is a text. -/
theorem text_eq_ok_iff {key default value : String} :
    form.text key default = .ok value ↔ IsText form key ∧ value = textOf form key default := by
  unfold Form.text IsText textOf
  cases Form.get? form key with
  | none => simp [@eq_comm _ value]
  | some field =>
    cases field with
    | text text => simp [@eq_comm _ value]
    | file filename content => simp

/-- A field that is an upload has no text. -/
theorem text_of_not_isText {key default : String} (h : ¬ IsText form key) :
    form.text key default = .error .attributeError := by
  unfold Form.text
  cases hget : Form.get? form key with
  | none => exact absurd (fun _ _ => by rw [hget]; exact nofun) h
  | some field =>
    cases field with
    | text text => exact absurd (fun _ _ => by rw [hget]; exact nofun) h
    | file filename content => rfl

/-- An optional field is read when it is a text, and blank is nothing. -/
theorem optionalText_eq_ok_iff {key : String} {value : Option String} :
    form.optionalText key = .ok value ↔ IsText form key ∧
      value = if stripText (textOf form key "") = "" then none
        else some (stripText (textOf form key "")) := by
  simp only [Form.optionalText, Except.bind_eq_ok, text_eq_ok_iff]
  constructor
  · rintro ⟨_, ⟨htext, rfl⟩, heq⟩
    exact ⟨htext, (Except.ok.inj heq).symm⟩
  · rintro ⟨htext, rfl⟩
    exact ⟨_, ⟨htext, rfl⟩, rfl⟩

/-- The fields on which a method of `str` is called. -/
def textKeys : List String := [
  "system_name", "vendor_name", "access_url", "admin_console_url", "primary_department",
  "shared_credential_reference_url", "currency", "seat_count", "contract_url",
  "contract_start_date", "renewal_date", "cancellation_notice_days", "support_portal_url",
  "support_email", "support_phone", "account_manager_name", "account_manager_email",
  "emergency_escalation_instructions", "customer_account_reference"]

/-- The fields of a form are found if they are texts. -/
theorem exists_extractVendorFields :
    (∃ fields, extractVendorFields env form = .ok fields) ↔ ∀ key ∈ textKeys, IsText form key := by
  simp only [extractVendorFields, Except.bind_eq_ok, text_eq_ok_iff, optionalText_eq_ok_iff,
    textKeys, List.forall_mem_cons, and_assoc, exists_and_left, exists_eq_left]
  simp [pure, Except.pure]

/-- The renewal date and the days of notice are those of the form. -/
theorem renewal_of_extractVendorFields {fields : VendorFields}
    (h : extractVendorFields env form = .ok fields) :
    fields.renewalDate = parseDate env (textOf form "renewal_date" "") ∧
      fields.cancellationNoticeDays =
        parseInt env (textOf form "cancellation_notice_days" "") := by
  simp only [extractVendorFields, Except.bind_eq_ok, text_eq_ok_iff, optionalText_eq_ok_iff,
    and_assoc, exists_and_left, exists_eq_left, pure, Except.pure, Except.ok.injEq] at h
  grind

/-! ## Requests -/

/-- The text of the billing amount. -/
def billingText (form : Form) : String := textOf form "billing_amount" ""

/-- The text of the cost per seat. -/
def costText (form : Form) : String := textOf form "cost_per_seat" ""

/-- The names are there. -/
def NamesGiven (form : Form) : Prop :=
  stripText (textOf form "system_name" "") ≠ "" ∧ stripText (textOf form "vendor_name" "") ≠ ""

/-- What the form refuses a request with. -/
def IsRefusal (form : Form) (flash : Flash) : Prop :=
  flash.kind = "error" ∧
    (flash.message = "System name and vendor name are required." ∨
      PyError.valueError flash.message = notAnAmount (stripText (billingText form)) ∨
      PyError.valueError flash.message = notAnAmount (stripText (costText form)))

/-- What is computed of a row does not fail on any day; `annualized_cost_minor` never does. -/
def Computes (vendor : VendorSystem) : Prop :=
  (∃ deadline, vendor.cancellationDeadline = .ok deadline) ∧
    ∀ employmentStatus today departedRosterEmails,
      ∃ flags, computeFlags employmentStatus vendor today departedRosterEmails = .ok flags

/-- A request does what it should: it is refused with a message of the form, or a row is
    written with both amounts, and what is computed of it does not fail. -/
def Sound (env : Environment) (form : Form) (db : Database) (id : Id)
    (result : Database × Except PyError Flash) : Prop :=
  (∃ flash, result = (db, .ok flash) ∧ IsRefusal form flash) ∨
    ∃ vendor flash, result = (db.insert id vendor, .ok flash) ∧
      StoredExactly env (billingText form) vendor.billingAmountMinor ∧
      StoredExactly env (costText form) vendor.costPerSeatMinor ∧ Computes vendor

/-- The days of notice do not lead out of the supported years. -/
def DeadlineInRange (env : Environment) (form : Form) : Prop :=
  ∀ d days, parseDate env (textOf form "renewal_date" "") = some d →
    parseInt env (textOf form "cancellation_notice_days" "") = some days →
      1 ≤ (d.toordinal : Int) - days ∧ (d.toordinal : Int) - days ≤ 3652059

/-- A form can be processed, as far as it is read: its fields are texts, its amounts do not
    overflow, the days of notice stay within the supported years, and the database takes the
    row. -/
structure Processable (env : Environment) (form : Form) (confirmed : Option DateTime) : Prop where
  systemName : IsText form "system_name"
  vendorName : IsText form "vendor_name"
  billing : NamesGiven form → IsText form "billing_amount" ∧ ¬ Overflows env (billingText form)
  cost : NamesGiven form → ¬ NotANumber env (billingText form) →
    IsText form "cost_per_seat" ∧ ¬ Overflows env (costText form)
  texts : NamesGiven form → ¬ NotANumber env (billingText form) →
    ¬ NotANumber env (costText form) → ∀ key ∈ textKeys, IsText form key
  deadline : NamesGiven form → ¬ NotANumber env (billingText form) →
    ¬ NotANumber env (costText form) → DeadlineInRange env form
  accepts : NamesGiven form → ∀ fields amounts, extractVendorFields env form = .ok fields →
    parseMinorUnits env (billingText form) = .ok amounts.1 →
      parseMinorUnits env (costText form) = .ok amounts.2 →
        env.accepts (vendorRow fields amounts confirmed)

/-- When what is computed of a row does not fail. -/
theorem computes_iff {vendor : VendorSystem} : Computes vendor ↔
    ∀ d days, vendor.renewalDate = some d → vendor.cancellationNoticeDays = some days →
      1 ≤ (d.toordinal : Int) - days ∧ (d.toordinal : Int) - days ≤ 3652059 := by
  have hflags : Computes vendor ↔ ∃ deadline, vendor.cancellationDeadline = .ok deadline := by
    refine ⟨fun h => h.1, fun h => ⟨h, fun employmentStatus today emails => ?_⟩⟩
    obtain ⟨deadline, hdeadline⟩ := h
    rw [computeFlags, hdeadline]
    exact ⟨_, rfl⟩
  rw [hflags]
  unfold VendorSystem.cancellationDeadline
  constructor
  · rintro ⟨deadline, h⟩ d days hd hdays
    simp only [hd, hdays] at h
    split at h
    · next hsub => exact Date.subDays_isSome_iff.1 (by rw [hsub]; rfl)
    · cases h
  · intro h
    split
    · next d days hd hdays =>
      obtain ⟨deadline, hsub⟩ :=
        Option.isSome_iff_exists.1 (Date.subDays_isSome_iff.2 (h d days hd hdays))
      rw [hsub]
      exact ⟨_, rfl⟩
    · exact ⟨_, rfl⟩

/-- Both amounts are read if both are texts and neither is refused. -/
theorem readAmounts_eq_ok_iff {amounts : Option Int × Option Int} :
    readAmounts env form = .ok amounts ↔
      (IsText form "billing_amount" ∧ parseMinorUnits env (billingText form) = .ok amounts.1) ∧
        IsText form "cost_per_seat" ∧ parseMinorUnits env (costText form) = .ok amounts.2 := by
  obtain ⟨b, c⟩ := amounts
  simp only [readAmounts, Except.bind_eq_ok, text_eq_ok_iff, and_assoc, exists_and_left,
    exists_eq_left]
  simp [pure, Except.pure, billingText, costText]

/-- Reading a field raises no value error. -/
theorem text_ne_valueError {key default message : String} :
    form.text key default ≠ .error (.valueError message) := by
  by_cases h : IsText form key
  · rw [text_eq_ok_iff.2 ⟨h, rfl⟩]
    exact nofun
  · rw [text_of_not_isText h]
    exact nofun

/-- The first amount that is no number refuses the form. -/
theorem readAmounts_eq_valueError_iff {message : String} :
    readAmounts env form = .error (.valueError message) ↔
      (IsText form "billing_amount" ∧
        parseMinorUnits env (billingText form) = .error (.valueError message)) ∨
      (IsText form "billing_amount" ∧ ∃ b, parseMinorUnits env (billingText form) = .ok b ∧
        IsText form "cost_per_seat" ∧
          parseMinorUnits env (costText form) = .error (.valueError message)) := by
  simp only [readAmounts, Except.bind_eq_error, text_eq_ok_iff, text_ne_valueError, false_or,
    and_assoc, exists_and_left, exists_eq_left]
  rw [← and_or_left]
  simp [pure, Except.pure, costText, billingText]

/-- How a form with its names is read. -/
theorem readForm_of_names (hsystem : IsText form "system_name")
    (hvendor : IsText form "vendor_name") (hgiven : NamesGiven form) (url : String) :
    readForm env form url =
      match readAmounts env form with
      | .error (.valueError message) => .ok (.inl ⟨url, message, "error"⟩)
      | .error e => .error e
      | .ok amounts => (extractVendorFields env form).map fun fields => .inr (fields, amounts) := by
  rw [readForm, text_eq_ok_iff.2 ⟨hsystem, rfl⟩, Except.ok_bind,
    text_eq_ok_iff.2 ⟨hvendor, rfl⟩, Except.ok_bind,
    if_neg (not_or.2 hgiven)]
  cases readAmounts env form with
  | ok amounts => cases extractVendorFields env form <;> rfl
  | error e => cases e <;> rfl

/-- A form without names is refused. -/
theorem readForm_of_not_names (hsystem : IsText form "system_name")
    (hvendor : IsText form "vendor_name") (hgiven : ¬ NamesGiven form) (url : String) :
    readForm env form url =
      .ok (.inl ⟨url, "System name and vendor name are required.", "error"⟩) := by
  rw [readForm, text_eq_ok_iff.2 ⟨hsystem, rfl⟩, Except.ok_bind,
    text_eq_ok_iff.2 ⟨hvendor, rfl⟩, Except.ok_bind,
    if_pos (not_and_or.1 hgiven |>.imp not_not.1 not_not.1)]
  rfl

/-- The names are looked at first. -/
theorem isText_of_readForm {url : String} {read : Flash ⊕ VendorFields × Option Int × Option Int}
    (h : readForm env form url = .ok read) :
    IsText form "system_name" ∧ IsText form "vendor_name" := by
  obtain ⟨_, hsystem, h⟩ := Except.bind_eq_ok.1 h
  obtain ⟨_, hvendor, -⟩ := Except.bind_eq_ok.1 h
  exact ⟨(text_eq_ok_iff.1 hsystem).1, (text_eq_ok_iff.1 hvendor).1⟩

variable {db : Database} {id : Id} {confirmed : Option DateTime} {message url : String}

/-- A request that goes on from what has been read of a form. -/
theorem sound_finish_iff {read : Except PyError (Flash ⊕ VendorFields × Option Int × Option Int)}
    (hread : ∀ flash, read = .ok (.inl flash) → IsRefusal form flash) :
    Sound env form db id (finish env db id confirmed message read) ↔
      (∃ flash, read = .ok (.inl flash)) ∨
        ∃ fields amounts, read = .ok (.inr (fields, amounts)) ∧
          env.accepts (vendorRow fields amounts confirmed) ∧
          StoredExactly env (billingText form) amounts.1 ∧
          StoredExactly env (costText form) amounts.2 ∧
          Computes (vendorRow fields amounts confirmed) := by
  unfold finish Sound
  -- The form raises, is refused or gives a vendor.
  cases read with
  | error e => simp
  | ok read =>
    cases read with
    | inl flash =>
      have hrefusal := hread flash rfl
      simp [hrefusal]
    | inr read =>
      obtain ⟨fields, amounts⟩ := read
      simp only
      split
      · next haccepts =>
        constructor
        · rintro (⟨flash, heq, hkind, -⟩ | ⟨vendor, flash, heq, hsound⟩)
          · obtain rfl := Except.ok.inj (Prod.mk.inj heq).2
            have hne : ¬ "success" = "error" := by decide
            exact absurd hkind hne
          · have hget := congrArg (fun t : Database => t[id]?) (Prod.mk.inj heq).1
            simp only [Table.get_insert_self, Option.some.injEq] at hget
            obtain rfl := hget
            exact .inr ⟨fields, amounts, rfl, haccepts, hsound⟩
        · rintro (⟨_, heq⟩ | ⟨_, _, heq, -, hsound⟩)
          · cases heq
          · cases heq
            exact .inr ⟨_, _, rfl, hsound⟩
      · next haccepts =>
        constructor
        · rintro (⟨_, heq, -⟩ | ⟨_, _, heq, -⟩) <;> cases (Prod.mk.inj heq).2
        · rintro (⟨_, heq⟩ | ⟨_, _, heq, hacc, -⟩)
          · cases heq
          · cases heq
            exact absurd hacc haccepts

/-- A form with its names is refused for its amounts. -/
theorem readAmounts_of_refused {flash : Flash} (hsystem : IsText form "system_name")
    (hvendor : IsText form "vendor_name") (hgiven : NamesGiven form)
    (h : readForm env form url = .ok (.inl flash)) :
    readAmounts env form = .error (.valueError flash.message) ∧ flash.kind = "error" := by
  rw [readForm_of_names hsystem hvendor hgiven] at h
  -- Both amounts are read before any other field.
  cases hamounts : readAmounts env form with
  | ok amounts =>
    rw [hamounts] at h
    simp only at h
    cases hextract : extractVendorFields env form with
    | ok fields =>
      rw [hextract] at h
      cases h
    | error e =>
      rw [hextract] at h
      cases h
  | error e =>
    rw [hamounts] at h
    cases e with
    | valueError message =>
      cases h
      exact ⟨rfl, rfl⟩
    | _ => cases h

/-- The form refuses a request for the names or for one of the amounts. -/
theorem isRefusal_of_readForm {flash : Flash} (h : readForm env form url = .ok (.inl flash)) :
    IsRefusal form flash := by
  obtain ⟨hsystem, hvendor⟩ := isText_of_readForm h
  by_cases hgiven : NamesGiven form
  · obtain ⟨hamounts, hkind⟩ := readAmounts_of_refused hsystem hvendor hgiven h
    rcases readAmounts_eq_valueError_iff.1 hamounts with ⟨-, hparse⟩ | ⟨-, _, -, -, hparse⟩
    · exact ⟨hkind, .inr (.inl (notANumber_of_valueError hparse).2)⟩
    · exact ⟨hkind, .inr (.inr (notANumber_of_valueError hparse).2)⟩
  · rw [readForm_of_not_names hsystem hvendor hgiven] at h
    cases h
    exact ⟨rfl, .inl rfl⟩

/-- The amounts of a row that the database takes fit into 64 bits. -/
def InRange (vendor : VendorSystem) : Prop :=
  (∀ n, vendor.billingAmountMinor = some n → n.natAbs ≤ 2 ^ 63) ∧
    ∀ n, vendor.costPerSeatMinor = some n → n.natAbs ≤ 2 ^ 63

/-- What is read of a form that can be processed. -/
theorem readForm_of_processable (hrange : ∀ vendor, env.accepts vendor → InRange vendor)
    (h : Processable env form confirmed) (url : String) :
    (∃ flash, readForm env form url = .ok (.inl flash)) ∨
      ∃ fields amounts, readForm env form url = .ok (.inr (fields, amounts)) ∧
        env.accepts (vendorRow fields amounts confirmed) ∧
        StoredExactly env (billingText form) amounts.1 ∧
        StoredExactly env (costText form) amounts.2 ∧
        Computes (vendorRow fields amounts confirmed) := by
  -- Names first, then the two amounts, then the other fields.
  by_cases hgiven : NamesGiven form
  case neg => exact .inl ⟨_, readForm_of_not_names h.systemName h.vendorName hgiven url⟩
  rw [readForm_of_names h.systemName h.vendorName hgiven]
  obtain ⟨hbilling, hover⟩ := h.billing hgiven
  rcases parseMinorUnits_of_not_overflows hover with ⟨-, hrefused⟩ | ⟨hnumber, b, hb⟩
  · rw [readAmounts_eq_valueError_iff.2 (.inl ⟨hbilling, hrefused⟩)]
    exact .inl ⟨_, rfl⟩
  obtain ⟨hcost, hover'⟩ := h.cost hgiven hnumber
  rcases parseMinorUnits_of_not_overflows hover' with ⟨-, hrefused⟩ | ⟨hnumber', c, hc⟩
  · rw [readAmounts_eq_valueError_iff.2 (.inr ⟨hbilling, b, hb, hcost, hrefused⟩)]
    exact .inl ⟨_, rfl⟩
  obtain ⟨fields, hfields⟩ := exists_extractVendorFields.2 (h.texts hgiven hnumber hnumber')
  have hamounts : readAmounts env form = .ok (b, c) :=
    readAmounts_eq_ok_iff.2 ⟨⟨hbilling, hb⟩, hcost, hc⟩
  have haccepts := h.accepts hgiven fields (b, c) hfields hb hc
  refine .inr ⟨fields, (b, c), ?_, haccepts, storedExactly_of_ok hb (hrange _ haccepts).1,
    storedExactly_of_ok hc (hrange _ haccepts).2, ?_⟩
  · rw [hamounts, hfields]
    rfl
  · obtain ⟨hrenewal, hdays⟩ := renewal_of_extractVendorFields hfields
    refine computes_iff.2 fun d days hd hn => ?_
    exact h.deadline hgiven hnumber hnumber' d days (hrenewal ▸ hd) (hdays ▸ hn)

/-- A form that is refused can be processed. -/
theorem processable_of_refused {flash : Flash} (h : readForm env form url = .ok (.inl flash)) :
    Processable env form confirmed := by
  obtain ⟨hsystem, hvendor⟩ := isText_of_readForm h
  -- Names first: without them nothing else is read.
  by_cases hgiven : NamesGiven form
  case neg =>
    exact ⟨hsystem, hvendor, fun hg => absurd hg hgiven, fun hg => absurd hg hgiven,
      fun hg => absurd hg hgiven, fun hg => absurd hg hgiven, fun hg => absurd hg hgiven⟩
  obtain ⟨hamounts, -⟩ := readAmounts_of_refused hsystem hvendor hgiven h
  rcases readAmounts_eq_valueError_iff.1 hamounts with
    ⟨hbilling, hparse⟩ | ⟨hbilling, b, hb, hcost, hparse⟩
  · obtain ⟨hnot, -⟩ := notANumber_of_valueError hparse
    refine ⟨hsystem, hvendor, fun _ => ⟨hbilling, not_overflows_of_notANumber hnot⟩,
      fun _ hnumber => absurd hnot hnumber, fun _ hnumber => absurd hnot hnumber,
      fun _ hnumber => absurd hnot hnumber, fun _ _ _ _ hb => ?_⟩
    rw [hparse] at hb
    cases hb
  · obtain ⟨hnot, -⟩ := notANumber_of_valueError hparse
    refine ⟨hsystem, hvendor, fun _ => ⟨hbilling, (not_overflows_of_ok hb).1⟩,
      fun _ _ => ⟨hcost, not_overflows_of_notANumber hnot⟩,
      fun _ _ hnumber => absurd hnot hnumber, fun _ _ hnumber => absurd hnot hnumber,
      fun _ _ _ _ _ hc => ?_⟩
    rw [hparse] at hc
    cases hc

/-- A form whose row is written, with a deadline on which it computes, can be processed. -/
theorem processable_of_read {fields : VendorFields} {amounts : Option Int × Option Int}
    (h : readForm env form url = .ok (.inr (fields, amounts)))
    (haccepts : env.accepts (vendorRow fields amounts confirmed))
    (hcomputes : Computes (vendorRow fields amounts confirmed)) :
    Processable env form confirmed := by
  obtain ⟨hsystem, hvendor⟩ := isText_of_readForm h
  -- Names first: without them nothing else is read.
  by_cases hgiven : NamesGiven form
  case neg =>
    rw [readForm_of_not_names hsystem hvendor hgiven] at h
    cases h
  rw [readForm_of_names hsystem hvendor hgiven] at h
  cases hamounts : readAmounts env form with
  | error e =>
    rw [hamounts] at h
    cases e <;> cases h
  | ok amounts' =>
    rw [hamounts] at h
    cases hfields : extractVendorFields env form with
    | error e =>
      rw [hfields] at h
      cases h
    | ok fields' =>
      rw [hfields] at h
      cases h
      obtain ⟨⟨hbilling, hb⟩, hcost, hc⟩ := readAmounts_eq_ok_iff.1 hamounts
      obtain ⟨hrenewal, hdays⟩ := renewal_of_extractVendorFields hfields
      refine ⟨hsystem, hvendor, fun _ => ⟨hbilling, (not_overflows_of_ok hb).1⟩,
        fun _ _ => ⟨hcost, (not_overflows_of_ok hc).1⟩,
        fun _ _ _ => exists_extractVendorFields.1 ⟨fields, hfields⟩,
        fun _ _ _ d days hd hn =>
          computes_iff.1 hcomputes d days (hrenewal.trans hd) (hdays.trans hn), ?_⟩
      intro _ fields' amounts' hfields' hb' hc'
      rw [hfields] at hfields'
      rw [hb] at hb'
      rw [hc] at hc'
      cases hfields'
      cases Prod.ext (Except.ok.inj hb') (Except.ok.inj hc')
      exact haccepts

/-- What both routes do with a form is as it should be exactly if the form can be processed. -/
theorem sound_iff_processable (hrange : ∀ vendor, env.accepts vendor → InRange vendor) :
    Sound env form db id (finish env db id confirmed message (readForm env form url)) ↔
      Processable env form confirmed := by
  rw [sound_finish_iff fun flash hflash => isRefusal_of_readForm hflash]
  constructor
  · rintro (⟨flash, h⟩ | ⟨fields, amounts, h, haccepts, -, -, hcomputes⟩)
    · exact processable_of_refused h
    · exact processable_of_read h haccepts hcomputes
  · exact fun h => readForm_of_processable hrange h url

/-- A request to create or to update a vendor does what it should exactly if its form can be
    processed. -/
theorem requests_sound_iff (hrange : ∀ vendor, env.accepts vendor → InRange vendor) (form : Form)
    (db : Database) :
    (∀ newId, Sound env form db newId (createVendor env form newId db) ↔
      Processable env form none) ∧
    ∀ vendorId vendor, db[vendorId]? = some vendor →
      (Sound env form db vendorId (updateVendor env vendorId form db) ↔
        Processable env form vendor.rosterLastConfirmedAt) := by
  refine ⟨fun newId => sound_iff_processable hrange, fun vendorId vendor hvendor => ?_⟩
  rw [updateVendor, hvendor]
  exact sound_iff_processable hrange

/-! ## Forms -/

/-- Python's limits, no digits beyond ASCII, and a database that stores integers in 64 bits. -/
def plainEnvironment : Environment where
  upper text := text.map Char.toUpper
  digit _ := none
  fromisoformat text :=
    if text = "2026-03-01" then some (Date.ofOrdinal 739676 (by decide)) else none
  maxEmax := 999999999999999999
  minEtiny := -1999999999999999997
  intMaxStrDigits := 4300
  accepts vendor :=
    vendor.billingAmountMinor.all (fun n => n.natAbs ≤ 2 ^ 63) &&
      vendor.costPerSeatMinor.all fun n => n.natAbs ≤ 2 ^ 63

/-- What the sample database accepts is in range. -/
theorem inRange_of_accepts (vendor : VendorSystem) (h : plainEnvironment.accepts vendor) :
    InRange vendor := by
  obtain ⟨hbilling, hcost⟩ := Bool.and_eq_true_iff.1 h
  constructor
  · intro n hn
    simpa [hn] using hbilling
  · intro n hn
    simpa [hn] using hcost

/-- A form with a billing amount, and a renewal date with days of notice. -/
def plainForm (amount days : String) : Form := [
  ("system_name", .text "GitHub"), ("vendor_name", .text "GitHub, Inc."),
  ("billing_amount", .text amount), ("renewal_date", .text "2026-03-01"),
  ("cancellation_notice_days", .text days)]

/-- The sample form has texts only. -/
theorem isText_plainForm (amount days key : String) : IsText (plainForm amount days) key := by
  intro filename content h
  obtain ⟨entry, hfind, hvalue⟩ := Option.map_eq_some_iff.1 h
  have hmem := List.mem_reverse.1 (List.mem_of_find?_eq_some hfind)
  simp only [plainForm, List.mem_cons, List.not_mem_nil, or_false] at hmem
  rcases hmem with rfl | rfl | rfl | rfl | rfl <;> cases hvalue

/-- The sample form has the names. -/
theorem namesGiven_plainForm (amount days : String) : NamesGiven (plainForm amount days) := by
  have hsystem : textOf (plainForm amount days) "system_name" "" = "GitHub" := rfl
  have hvendor : textOf (plainForm amount days) "vendor_name" "" = "GitHub, Inc." := rfl
  rw [NamesGiven, hsystem, hvendor]
  decide +kernel

/-- An amount of 49.99, and no cost per seat. -/
theorem parseMinorUnits_plainForm (days : String) :
    parseMinorUnits plainEnvironment (billingText (plainForm "49.99" days)) = .ok (some 4999) ∧
      parseMinorUnits plainEnvironment (costText (plainForm "49.99" days)) = .ok none := by
  have hbilling : billingText (plainForm "49.99" days) = "49.99" := rfl
  have hcost : costText (plainForm "49.99" days) = "" := rfl
  rw [hbilling, hcost]
  constructor <;> decide +kernel

/-- The renewal date of the form, and its days of notice. -/
theorem renewal_plainForm (amount days : String) :
    textOf (plainForm amount days) "cancellation_notice_days" "" = days ∧
      ∃ d, parseDate plainEnvironment (textOf (plainForm amount days) "renewal_date" "") = some d ∧
        d.toordinal = 739676 := by
  have hdate : textOf (plainForm amount days) "renewal_date" "" = "2026-03-01" := rfl
  have hordinal : (parseDate plainEnvironment "2026-03-01").map Date.toordinal = some 739676 := by
    decide +kernel
  rw [hdate]
  exact ⟨rfl, Option.map_eq_some_iff.1 hordinal⟩

/-- The sample form creates its vendor. -/
theorem requests_sound_iff_plainForm : Sound plainEnvironment (plainForm "49.99" "30") ∅ 1
    (createVendor plainEnvironment (plainForm "49.99" "30") 1 ∅) := by
  refine ((requests_sound_iff inRange_of_accepts (plainForm "49.99" "30") ∅).1 1).2 ?_
  obtain ⟨hbilling, hcost⟩ := parseMinorUnits_plainForm "30"
  obtain ⟨hdays, d', hd', hordinal⟩ := renewal_plainForm "49.99" "30"
  have htext := isText_plainForm "49.99" "30"
  refine ⟨htext _, htext _, fun _ => ⟨htext _, (not_overflows_of_ok hbilling).1⟩,
    fun _ _ => ⟨htext _, (not_overflows_of_ok hcost).1⟩, fun _ _ _ key _ => htext key,
    fun _ _ _ d days hd hn => ?_, fun _ fields amounts _ hb hc => ?_⟩
  · have hthirty : parseInt plainEnvironment "30" = some 30 := by decide +kernel
    rw [hdays, hthirty] at hn
    obtain rfl := Option.some.inj (hd'.symm.trans hd)
    obtain rfl := Option.some.inj hn
    omega
  · obtain ⟨b, c⟩ := amounts
    obtain rfl := Except.ok.inj (hbilling.symm.trans hb)
    obtain rfl := Except.ok.inj (hcost.symm.trans hc)
    rfl

/-- An infinite amount is not refused, and a row with too many days of notice is written. -/
theorem not_sound_of_infinity :
    ¬ Sound plainEnvironment (plainForm "Infinity" "30") ∅ 1
        (createVendor plainEnvironment (plainForm "Infinity" "30") 1 ∅) ∧
      ¬ Sound plainEnvironment (plainForm "49.99" "999999") ∅ 1
        (createVendor plainEnvironment (plainForm "49.99" "999999") 1 ∅) := by
  constructor
  · intro h
    have hbilling :=
      ((sound_iff_processable inRange_of_accepts).1 h).billing (namesGiven_plainForm _ _)
    refine hbilling.2 (.inl ⟨by decide +kernel, false, ?_⟩)
    decide +kernel
  · intro h
    have hprocessable := (sound_iff_processable inRange_of_accepts).1 h
    obtain ⟨hbilling, hcost⟩ := parseMinorUnits_plainForm "999999"
    obtain ⟨hdays, d, hd, hordinal⟩ := renewal_plainForm "49.99" "999999"
    have hmany : parseInt plainEnvironment "999999" = some 999999 := by decide +kernel
    have hrange := hprocessable.deadline (namesGiven_plainForm _ _) (not_overflows_of_ok hbilling).2
      (not_overflows_of_ok hcost).2 d 999999 hd (hdays ▸ hmany)
    omega

end VendorSystems

end MiniGrc
