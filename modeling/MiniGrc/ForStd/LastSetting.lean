import MiniGrc.ForStd.Run

/-!
# What the last of the steps has set

A value of the state, which only some labels touch, is there at the end of a run exactly if one
of the steps has set it and no step since then has touched it.
-/

namespace Run

variable {σ ℓ α : Type} {step : σ → ℓ → Option σ} {s t : σ} {a : α} {l : ℓ} {ls : List ℓ}

/-- Some step of `ls`, from `s`, has set `a`, and no step after it has touched the value. -/
def LastSets (step : σ → ℓ → Option σ) (touches : ℓ → Prop) (sets : σ → ℓ → α → Prop) (s : σ)
    (ls : List ℓ) (a : α) : Prop :=
  ∃ before l after u, ls = before ++ l :: after ∧ exec step s before = some u ∧ sets u l a ∧
    ∀ l' ∈ after, ¬ touches l'

variable {touches : ℓ → Prop} {sets : σ → ℓ → α → Prop}

/-- A step that does not touch the value changes nothing of what was set last. -/
theorem lastSets_concat_of_not_touches (hsets : ∀ u l a, sets u l a → touches l)
    (hl : ¬ touches l) :
    LastSets step touches sets s (ls ++ [l]) a ↔ LastSets step touches sets s ls a := by
  constructor
  · rintro ⟨before, l', after, u, heq, hu, hset, hafter⟩
    -- the setting is not the last step, which touches nothing
    rcases List.eq_nil_or_concat after with rfl | ⟨after, l'', rfl⟩
    · obtain ⟨-, hlast⟩ := List.append_inj' heq rfl
      obtain ⟨rfl, -⟩ := List.cons.inj hlast
      exact absurd (hsets u l a hset) hl
    · rw [List.concat_eq_append, ← List.cons_append, ← List.append_assoc] at heq
      obtain ⟨heq, -⟩ := List.append_inj' heq rfl
      refine ⟨before, l', after, u, heq, hu, hset, fun x hx => hafter x ?_⟩
      rw [List.concat_eq_append]
      exact List.mem_append_left _ hx
  · rintro ⟨before, l', after, u, rfl, hu, hset, hafter⟩
    refine ⟨before, l', after ++ [l], u, by simp, hu, hset, fun x hx => ?_⟩
    rcases List.mem_append.1 hx with hx | hx
    · exact hafter x hx
    · obtain rfl := List.mem_singleton.1 hx
      exact hl

/-- After a step that touches the value, only what it has set itself counts. -/
theorem lastSets_concat_of_touches {u : σ} (hu : exec step s ls = some u) (hl : touches l) :
    LastSets step touches sets s (ls ++ [l]) a ↔ sets u l a := by
  constructor
  · rintro ⟨before, l', after, v, heq, hv, hset, hafter⟩
    rcases List.eq_nil_or_concat after with rfl | ⟨after, l'', rfl⟩
    · obtain ⟨rfl, hcons⟩ := List.append_inj' heq rfl
      obtain ⟨rfl, -⟩ := List.cons.inj hcons
      obtain rfl := Option.some.inj (hu.symm.trans hv)
      exact hset
    · rw [List.concat_eq_append, ← List.cons_append, ← List.append_assoc] at heq
      obtain ⟨-, hlast⟩ := List.append_inj' heq rfl
      obtain ⟨rfl, -⟩ := List.cons.inj hlast
      exact absurd hl (hafter l (by simp))
  · exact fun hset => ⟨ls, l, [], u, rfl, hu, hset, by simp⟩

/-- The value at the end of a run that starts without one, in a system with the invariant `I`. -/
theorem eq_some_iff_lastSets (value : σ → Option α) {I : σ → Prop} (hI : I s)
    (hinv : ∀ u l v, I u → step u l = some v → I v) (hsets : ∀ u l a, sets u l a → touches l)
    (hkeep : ∀ u l v, I u → step u l = some v → ¬ touches l → value v = value u)
    (hset : ∀ u l v a, I u → step u l = some v → touches l → (value v = some a ↔ sets u l a))
    (h0 : value s = none) (h : exec step s ls = some t) :
    value t = some a ↔ LastSets step touches sets s ls a := by
  suffices hboth : I t ∧ (value t = some a ↔ LastSets step touches sets s ls a) from hboth.2
  induction ls using List.reverseRecOn generalizing t with
  | nil =>
    obtain rfl : s = t := Option.some.inj h
    refine ⟨hI, ?_⟩
    rw [h0]
    constructor
    · exact fun hnone => by cases hnone
    · rintro ⟨before, l, after, u, heq, -⟩
      simp at heq
  | append_singleton ls l ih =>
    obtain ⟨u, hu, hl⟩ := exec_concat_eq_some.1 h
    obtain ⟨hIu, hlast⟩ := ih hu
    refine ⟨hinv u l t hIu hl, ?_⟩
    by_cases htouch : touches l
    · rw [hset u l t a hIu hl htouch, lastSets_concat_of_touches hu htouch]
    · rw [hkeep u l t hIu hl htouch, hlast, lastSets_concat_of_not_touches hsets htouch]

end Run
