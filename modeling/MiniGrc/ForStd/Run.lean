import Mathlib.Data.List.Chain

/-!
# Labelled runs

A system is a partial step function `step : σ → ℓ → Option σ`: `step s l` is the
state after the step labelled `l`, or `none` when the step cannot be taken in `s`.
A run is a sequence of steps that all meet a condition `ok` on the state before the
step and its label; `fun _ _ => True` gives all runs. Safety is proved once, by
`Run.invariant`, from what a single step preserves.
-/

/-- `Run step ok s t`: `t` is reached from `s` by steps that all meet `ok`. -/
inductive Run {σ ℓ : Type} (step : σ → ℓ → Option σ) (ok : σ → ℓ → Prop) (s : σ) : σ → Prop
  | refl : Run step ok s s
  | tail {t u : σ} (l : ℓ) : Run step ok s t → ok t l → step t l = some u → Run step ok s u

namespace Run

variable {σ ℓ : Type} {step : σ → ℓ → Option σ} {ok ok' : σ → ℓ → Prop} {s t u : σ}

/-- What holds at the start and is preserved by every step of the run holds at its end. -/
theorem invariant {P : σ → Prop} (h : Run step ok s t) (h0 : P s)
    (hstep : ∀ t l u, P t → ok t l → step t l = some u → P u) : P t := by
  induction h with
  | refl => exact h0
  | tail l _ hok hl ih => exact hstep _ l _ ih hok hl

/-- A run under a stronger condition is a run under a weaker one. -/
theorem mono (h : Run step ok s t) (himp : ∀ s l, ok s l → ok' s l) : Run step ok' s t := by
  induction h with
  | refl => exact .refl
  | tail l _ hok hl ih => exact ih.tail l (himp _ _ hok) hl

/-- Runs compose. -/
theorem trans (h₁ : Run step ok s t) (h₂ : Run step ok t u) : Run step ok s u := by
  induction h₂ with
  | refl => exact h₁
  | tail l _ hok hl ih => exact ih.tail l hok hl

/-- The state after the steps `ls`, if each of them can be taken. -/
def exec (step : σ → ℓ → Option σ) : σ → List ℓ → Option σ
  | s, [] => some s
  | s, l :: ls => (step s l).bind fun t => exec step t ls

theorem exec_append {ls ls' : List ℓ} :
    exec step s (ls ++ ls') = (exec step s ls).bind fun t => exec step t ls' := by
  induction ls generalizing s with
  | nil => rfl
  | cons l ls ih =>
    rw [List.cons_append, exec, exec, Option.bind_assoc]
    exact congrArg _ (funext fun t => ih)

/-- The run up to the last step, and that step. -/
theorem exec_concat_eq_some {ls : List ℓ} {l : ℓ} :
    exec step s (ls ++ [l]) = some t ↔ ∃ u, exec step s ls = some u ∧ step u l = some t := by
  rw [exec_append, Option.bind_eq_some_iff]
  simp only [exec, Option.bind_fun_some]

/-- The steps of a system that also keeps the states that it has passed through. -/
def recorded (step : σ → ℓ → Option σ) (h : List σ × σ) (l : ℓ) : Option (List σ × σ) :=
  (step h.2 l).map fun t => (h.1 ++ [h.2], t)

/-- The states of a run, one after the other, are related as a step relates them. -/
theorem isChain_recorded {R : σ → σ → Prop} {past : List σ}
    (h : Run (recorded step) (fun h l => ok h.2 l) ([], s) (past, t))
    (hstep : ∀ u l v, ok u l → step u l = some v → R u v) : (past ++ [t]).IsChain R := by
  refine h.invariant (P := fun h => (h.1 ++ [h.2]).IsChain R) (by simp) ?_
  rintro ⟨past, u⟩ l ⟨past', v⟩ ih hok hs
  obtain ⟨v', hv, heq⟩ := Option.map_eq_some_iff.1 hs
  obtain ⟨rfl, rfl⟩ := Prod.mk.inj heq
  rw [List.isChain_append]
  refine ⟨ih, by simp, fun x hx y hy => ?_⟩
  obtain rfl : x = u := by simpa using hx.symm
  obtain rfl : y = v' := by simpa using hy.symm
  exact hstep x l y hok hv

/-- The steps that meet `ok`. -/
def guarded (step : σ → ℓ → Option σ) (ok : σ → ℓ → Prop) [∀ s l, Decidable (ok s l)] :
    σ → ℓ → Option σ :=
  fun s l => if ok s l then step s l else none

/-- An executed schedule is a run. -/
theorem of_exec {step' : σ → ℓ → Option σ} (ls : List ℓ)
    (hstep : ∀ s l u, step' s l = some u → ok s l ∧ step s l = some u)
    (h : exec step' s ls = some t) : Run step ok s t := by
  induction ls generalizing s with
  | nil =>
    simp only [exec, Option.some.injEq] at h
    subst h
    exact .refl
  | cons l ls ih =>
    simp only [exec, Option.bind_eq_some_iff] at h
    obtain ⟨v, hv, hrest⟩ := h
    have ⟨hok, hv'⟩ := hstep s l v hv
    exact trans (.tail l .refl hok hv') (ih hrest)

/-- An executed schedule is a run under no condition. -/
theorem of_exec_true (ls : List ℓ) (h : exec step s ls = some t) :
    Run step (fun _ _ => True) s t :=
  of_exec ls (fun _ _ _ hu => ⟨trivial, hu⟩) h

/-- A schedule whose steps all meet `ok` is a run under `ok`. -/
theorem of_exec_guarded [∀ s l, Decidable (ok s l)] (ls : List ℓ)
    (h : exec (guarded step ok) s ls = some t) : Run step ok s t :=
  of_exec ls (fun _ _ _ hu => by
    simp only [guarded, Option.ite_none_right_eq_some] at hu
    exact hu) h

end Run
