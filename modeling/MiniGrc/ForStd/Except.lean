import Mathlib.Data.List.Forall2

/-!
# Fallible computations

When a computation in `Except` that consists of others succeeds.
-/

namespace Except

variable {ε α β σ : Type}

/-- What goes on with a value. -/
theorem ok_bind (a : α) (f : α → Except ε β) : (Except.ok a >>= f) = f a := rfl

/-- A computation that goes on has succeeded so far. -/
theorem bind_eq_ok {x : Except ε α} {f : α → Except ε β} {b : β} :
    x >>= f = .ok b ↔ ∃ a, x = .ok a ∧ f a = .ok b := by
  cases x with
  | error e =>
    constructor
    · intro h
      cases h
    · rintro ⟨a, ha, -⟩
      cases ha
  | ok a =>
    constructor
    · exact fun h => ⟨a, rfl, h⟩
    · rintro ⟨a', ha, h⟩
      cases ha
      exact h

/-- A value that is checked before it is returned. -/
theorem checked_eq_ok {x : Except ε α} {p : α → Prop} [DecidablePred p] {e : ε} {a : α} :
    (do
      let a ← x
      if ¬ p a then throw e
      return a) = .ok a ↔ x = .ok a ∧ p a := by
  rw [bind_eq_ok]
  constructor
  · rintro ⟨a', hx, h⟩
    dsimp only at h
    split at h
    · cases h
    · next hp =>
      cases h
      exact ⟨hx, not_not.1 hp⟩
  · rintro ⟨hx, hp⟩
    refine ⟨a, hx, ?_⟩
    dsimp only
    rw [if_neg (not_not.2 hp)]
    rfl

/-- A computation fails where it starts or where it goes on. -/
theorem bind_eq_error {x : Except ε α} {f : α → Except ε β} {e : ε} :
    x >>= f = .error e ↔ x = .error e ∨ ∃ a, x = .ok a ∧ f a = .error e := by
  cases x with
  | error e' =>
    constructor
    · intro h
      cases h
      exact .inl rfl
    · rintro (h | ⟨a, ha, -⟩)
      · cases h
        rfl
      · cases ha
  | ok a =>
    constructor
    · exact fun h => .inr ⟨a, rfl, h⟩
    · rintro (h | ⟨a', ha, h⟩)
      · cases h
      · cases ha
        exact h

/-- Fail with `e` if the condition holds. -/
def throwIf (c : Prop) [Decidable c] (e : ε) : Except ε Unit := if c then .error e else .ok ()

@[simp] theorem throwIf_eq_ok {c : Prop} [Decidable c] {e : ε} {u : Unit} :
    throwIf c e = .ok u ↔ ¬c := by
  unfold throwIf
  split <;> simp [*]

/-- The value, or else the failure with `e`. -/
def ofOption (x : Option α) (e : ε) : Except ε α := x.elim (.error e) .ok

@[simp] theorem ofOption_eq_ok {x : Option α} {e : ε} {a : α} :
    ofOption x e = .ok a ↔ x = some a := by
  cases x <;> simp [ofOption]

/-- A failure is only given another name. -/
theorem mapError_eq_ok {ε' : Type} {x : Except ε α} {f : ε → ε'} {a : α} :
    x.mapError f = .ok a ↔ x = .ok a := by
  cases x <;> simp [Except.mapError]

theorem map_eq_ok {x : Except ε α} {f : α → β} {b : β} :
    x.map f = .ok b ↔ ∃ a, x = .ok a ∧ f a = b := by
  cases x <;> simp [Except.map]

theorem eq_ok_of_toOption {x : Except ε α} {a : α} (h : x.toOption = some a) : x = .ok a := by
  cases x with
  | error e => cases h
  | ok a' =>
    cases h
    rfl

/-- A loop succeeds exactly if each of its turns does. -/
theorem forM_eq_ok {f : α → Except ε Unit} {l : List α} :
    l.forM f = .ok () ↔ ∀ a ∈ l, f a = .ok () := by
  induction l with
  | nil => simp [pure, Except.pure]
  | cons a l ih =>
    rw [List.forall_mem_cons, ← ih]
    change f a >>= (fun _ => l.forM f) = .ok () ↔ _
    rw [bind_eq_ok]
    constructor
    · rintro ⟨⟨⟩, ha, hl⟩
      exact ⟨ha, hl⟩
    · rintro ⟨ha, hl⟩
      exact ⟨(), ha, hl⟩

/-- A loop fails in one of its turns. -/
theorem exists_of_forM_eq_error {f : α → Except ε Unit} {l : List α} {e : ε}
    (h : l.forM f = .error e) : ∃ a ∈ l, f a = .error e := by
  induction l with
  | nil => cases h
  | cons a l ih =>
    change f a >>= (fun _ => l.forM f) = .error e at h
    rcases bind_eq_error.1 h with ha | ⟨-, -, hl⟩
    · exact ⟨a, List.mem_cons_self, ha⟩
    · obtain ⟨b, hb, hfb⟩ := ih hl
      exact ⟨b, List.mem_cons_of_mem _ hb, hfb⟩

/-- A fold succeeds if its first step does, and the fold over the rest from there. -/
theorem foldlM_cons_eq_ok {f : σ → α → Except ε σ} {a : α} {l : List α} {s t : σ} :
    (a :: l).foldlM f s = .ok t ↔ ∃ u, f s a = .ok u ∧ l.foldlM f u = .ok t := by
  rw [List.foldlM_cons, bind_eq_ok]

/-- What holds at the start of a fold and is kept by every step that succeeds holds at its end;
    it may speak of the elements that have been folded. -/
theorem foldlM_induction {P : List α → σ → Prop} {f : σ → α → Except ε σ} {l : List α} {s t : σ}
    (h : l.foldlM f s = .ok t) (h0 : P [] s)
    (hstep : ∀ done a u v, P done u → f u a = .ok v → P (done ++ [a]) v) : P l t := by
  suffices hrest : ∀ done s, P done s → l.foldlM f s = .ok t → P (done ++ l) t from hrest [] s h0 h
  clear h h0 s
  induction l with
  | nil =>
    intro done s hs h
    cases h
    rwa [List.append_nil]
  | cons a l ih =>
    intro done s hs h
    obtain ⟨u, hu, hl⟩ := foldlM_cons_eq_ok.1 h
    rw [List.append_cons]
    exact ih (done ++ [a]) u (hstep done a s u hs hu) hl

/-- A loop that collects results succeeds exactly if each of its turns does. -/
theorem mapM_eq_ok {f : α → Except ε β} {l : List α} {bs : List β} :
    l.mapM f = .ok bs ↔ List.Forall₂ (fun a b => f a = .ok b) l bs := by
  induction l generalizing bs with
  | nil =>
    rw [List.mapM_nil, List.forall₂_nil_left_iff]
    exact ⟨fun h => (Except.ok.inj h).symm, fun h => h ▸ rfl⟩
  | cons a l ih =>
    rw [List.mapM_cons, bind_eq_ok, List.forall₂_cons_left_iff]
    constructor
    · rintro ⟨b, hb, h⟩
      obtain ⟨bs', hbs', h⟩ := bind_eq_ok.1 h
      exact ⟨b, bs', hb, ih.1 hbs', (Except.ok.inj h).symm⟩
    · rintro ⟨b, bs', hb, hbs', rfl⟩
      exact ⟨b, hb, bind_eq_ok.2 ⟨bs', ih.2 hbs', rfl⟩⟩

/-! ## What a computation ends in -/

/-- The computation does not fail with `bad`, and what it returns meets `P`. -/
def Avoids (bad : ε) (P : α → Prop) : Except ε α → Prop
  | .ok a => P a
  | .error e => e ≠ bad

section Avoids

variable {bad e : ε} {P Q : α → Prop} {x : Except ε α} {a : α}

@[simp] theorem avoids_ok : Avoids bad P (.ok a) ↔ P a := Iff.rfl

@[simp] theorem avoids_error : Avoids bad P (.error e : Except ε α) ↔ e ≠ bad := Iff.rfl

theorem avoids_iff : Avoids bad P x ↔ x ≠ .error bad ∧ ∀ a, x = .ok a → P a := by
  cases x with
  | ok a => simp
  | error e => simp

/-- Only the values that the computation returns matter. -/
theorem avoids_congr (h : ∀ a, x = .ok a → (P a ↔ Q a)) : Avoids bad P x ↔ Avoids bad Q x := by
  cases x with
  | ok a => exact h a rfl
  | error e => exact Iff.rfl

/-- The rule of composition. -/
theorem avoids_bind {P : β → Prop} {f : α → Except ε β} :
    Avoids bad P (x >>= f) ↔ Avoids bad (fun a => Avoids bad P (f a)) x := by
  cases x with
  | ok a => exact Iff.rfl
  | error e => exact Iff.rfl

/-- A loop that collects results ends at the first turn that fails. -/
theorem avoids_mapM {f : α → Except ε β} {l : List α} {P : List β → Prop} :
    Avoids bad P (l.mapM f) ↔
      (∀ pre a post, l = pre ++ a :: post → (∀ x ∈ pre, ∃ b, f x = .ok b) → f a ≠ .error bad) ∧
        ∀ bs, List.Forall₂ (fun a b => f a = .ok b) l bs → P bs := by
  induction l generalizing P with
  | nil =>
    rw [List.mapM_nil]
    constructor
    · intro h
      refine ⟨fun pre a post hl => by simp at hl, fun bs hbs => ?_⟩
      obtain rfl := List.forall₂_nil_left_iff.1 hbs
      exact h
    · exact fun h => h.2 [] .nil
  | cons a l ih =>
    rw [List.mapM_cons, avoids_bind]
    cases ha : f a with
    | error e =>
      rw [avoids_error]
      constructor
      · intro he
        refine ⟨fun pre a' post hl hpre => ?_, fun bs hbs => ?_⟩
        · cases pre with
          | nil =>
            obtain ⟨rfl, rfl⟩ := List.cons.inj hl
            exact fun h => he (Except.error.inj (ha.symm.trans h))
          | cons x pre =>
            obtain ⟨rfl, -⟩ := List.cons.inj hl
            obtain ⟨b, hb⟩ := hpre a List.mem_cons_self
            rw [ha] at hb
            cases hb
        · obtain ⟨b, bs', hb, -, -⟩ := List.forall₂_cons_left_iff.1 hbs
          rw [ha] at hb
          cases hb
      · rintro ⟨hfirst, -⟩ rfl
        exact hfirst [] a l rfl (by simp) ha
    | ok b =>
      rw [avoids_ok, avoids_bind, ih]
      refine and_congr ⟨fun h pre a' post hl hpre => ?_, fun h pre a' post hl hpre => ?_⟩
        ⟨fun h bs hbs => ?_, fun h bs hbs => ?_⟩
      · cases pre with
        | nil =>
          obtain ⟨rfl, rfl⟩ := List.cons.inj hl
          rw [ha]
          exact fun h => by cases h
        | cons x pre =>
          obtain ⟨rfl, rfl⟩ := List.cons.inj hl
          exact h pre a' post rfl fun y hy => hpre y (List.mem_cons_of_mem _ hy)
      · refine h (a :: pre) a' post (by rw [hl, List.cons_append]) fun y hy => ?_
        rcases List.mem_cons.1 hy with rfl | hy
        · exact ⟨b, ha⟩
        · exact hpre y hy
      · obtain ⟨b', bs', hb', hbs', rfl⟩ := List.forall₂_cons_left_iff.1 hbs
        rw [ha] at hb'
        cases hb'
        exact h bs' hbs'
      · exact h (b :: bs) (.cons ha hbs)

end Avoids

end Except
