import Mathlib
import MiniGrc.ForStd.Run
import MiniGrc.ForStd.Table

/-!
# Counting along runs

A metered system adds up what its steps cost. When a weight of the state pays for every
cost, the weight at the start bounds the sum; the weights of tables are what is needed for
systems that work off rows.

## Key results

- `Table.weight_insert_new`, `Table.weight_insert_old`, `Table.Develops.weight_le`
- `Run.cost_le`, `Run.cost_add_le`: the weight pays
-/

/-! ## Weights of tables -/

namespace Table

variable {ρ : Type} (f : Nat → ρ → Nat) {t t' : Table ρ} {k : Nat} {r : ρ}

/-- The sum of the weights of the rows. -/
def weight (t : Table ρ) : Nat := (t.toList.map fun x => f x.1 x.2).sum

variable {f}

/-- A row under a new key. -/
theorem weight_insert_new (hk : k ∉ t) : weight f (t.insert k r) = f k r + weight f t := by
  unfold weight
  rw [((toList_insert_perm hk).map _).sum_eq]
  rfl

/-- A row that replaces another one. -/
theorem weight_insert_old {old : ρ} (hk : t[k]? = some old) :
    weight f (t.insert k r) + f k old = weight f t + f k r := by
  have hnot : k ∉ t.erase k := by simp
  have hinsert : ∀ r', (t.erase k).insert k r' = t.insert k r' := fun r' =>
    Table.ext fun a => by
      rw [get_insert, get_insert]
      split
      · rfl
      · next hne => simp [Std.ExtTreeMap.getElem?_erase, hne]
  have hold : weight f t = f k old + weight f (t.erase k) := by
    rw [← weight_insert_new hnot, hinsert, insert_eq_self hk]
  have hnew : weight f (t.insert k r) = f k r + weight f (t.erase k) := by
    rw [← weight_insert_new hnot, hinsert]
  omega

theorem weight_eq_zero_iff :
    weight f t = 0 ↔ ∀ (k : Nat) r, t[k]? = some r → f k r = 0 := by
  unfold weight
  rw [List.sum_eq_zero_iff_forall_eq_nat]
  constructor
  · intro h k r hr
    exact h _ (List.mem_map.2
      ⟨(k, r), Std.ExtTreeMap.mem_toList_iff_getElem?_eq_some.2 hr, rfl⟩)
  · intro h n hn
    obtain ⟨x, hx, rfl⟩ := List.mem_map.1 hn
    exact h x.1 x.2 (Std.ExtTreeMap.mem_toList_iff_getElem?_eq_some.1 hx)

/-- The weight of the rows that are new in a table. -/
def gain (f : Nat → ρ → Nat) (t t' : Table ρ) : Nat :=
  weight (fun k r => if k ∈ t then 0 else f k r) t'

instance {R : ρ → ρ → Prop} {p : Nat → ρ → Prop} [∀ r r', Decidable (R r r')]
    [∀ k r, Decidable (p k r)] : Decidable (t.Develops t' R p) :=
  decidable_of_iff ((∀ x ∈ t.toList, ∃ r' ∈ t'[x.1]?, R x.2 r') ∧
      ∀ x ∈ t'.toList, x.1 ∈ t ∨ p x.1 x.2) ⟨fun h =>
    ⟨forall_of_toList h.1, forall_of_toList h.2⟩, fun h =>
    ⟨fun x hx => h.kept x.1 x.2 (Std.ExtTreeMap.mem_toList_iff_getElem?_eq_some.1 hx),
      fun x hx => h.added x.1 x.2 (Std.ExtTreeMap.mem_toList_iff_getElem?_eq_some.1 hx)⟩⟩

theorem gain_eq_zero {R : ρ → ρ → Prop} {p : Nat → ρ → Prop} (h : t.Develops t' R p)
    (hzero : ∀ (k : Nat) r, p k r → f k r = 0) : gain f t t' = 0 := by
  rw [gain, weight_eq_zero_iff]
  intro k r hr
  split
  · rfl
  · next hnew =>
    rcases h.added k r hr with hold | hp
    · exact absurd hold hnew
    · exact hzero k r hp

/-- The weight of a table is that of the rows under the keys of another one, and of the rest. -/
theorem weight_eq_known_add_gain (f : Nat → ρ → Nat) (t t' : Table ρ) :
    weight f t' =
      ((t'.toList.filter fun x => x.1 ∈ t).map fun x => f x.1 x.2).sum + gain f t t' := by
  unfold weight gain weight
  induction t'.toList with
  | nil => rfl
  | cons x l ih =>
    by_cases hx : x.1 ∈ t
    · simp only [List.map_cons, List.sum_cons, List.filter_cons, hx, decide_true, if_true, ih]
      omega
    · simp only [List.map_cons, List.sum_cons, List.filter_cons, hx, decide_false, if_false, ih,
        Bool.false_eq_true]
      omega

/-- Where the rows do not become heavier, a table weighs at most as much more as its new rows. -/
theorem Develops.weight_le {R : ρ → ρ → Prop} {p : Nat → ρ → Prop} (h : t.Develops t' R p)
    (hle : ∀ (k : Nat) r r', R r r' → f k r' ≤ f k r) :
    weight f t' ≤ weight f t + gain f t t' := by
  -- what the row under a key weighs in the new table
  let now : Nat → Nat := fun k => (t'[k]?.map (f k)).getD 0
  have hkeys : ((t'.toList.filter fun x => x.1 ∈ t).map Prod.fst).Perm
      (t.toList.map Prod.fst) := by
    refine (List.perm_ext_iff_of_nodup ?_ ?_).2 fun k => ?_
    · exact ((toList_keys_lt t').filter _).map Prod.fst (fun _ _ hlt => Nat.ne_of_lt hlt)
    · exact (toList_keys_lt t).map Prod.fst (fun _ _ hlt => Nat.ne_of_lt hlt)
    · simp only [List.mem_map, List.mem_filter, decide_eq_true_eq]
      constructor
      · rintro ⟨x, ⟨-, hmem⟩, rfl⟩
        obtain ⟨r, hr⟩ := exists_get hmem
        exact ⟨(x.1, r), Std.ExtTreeMap.mem_toList_iff_getElem?_eq_some.2 hr, rfl⟩
      · rintro ⟨x, hx, rfl⟩
        have hx := Std.ExtTreeMap.mem_toList_iff_getElem?_eq_some.1 hx
        obtain ⟨r', hr', -⟩ := h.kept x.1 x.2 hx
        exact ⟨(x.1, r'), ⟨Std.ExtTreeMap.mem_toList_iff_getElem?_eq_some.2 hr',
          mem_of_get hx⟩, rfl⟩
  have hnow : ((t'.toList.filter fun x => x.1 ∈ t).map fun x => f x.1 x.2) =
      ((t'.toList.filter fun x => x.1 ∈ t).map Prod.fst).map now := by
    rw [List.map_map]
    refine List.map_congr_left fun x hx => ?_
    have hx := Std.ExtTreeMap.mem_toList_iff_getElem?_eq_some.1 (List.mem_filter.1 hx).1
    simp [now, hx]
  have hpoint : (t.toList.map fun x => now x.1).sum ≤ weight f t := by
    refine List.sum_le_sum fun x hx => ?_
    obtain ⟨r', hr', hR⟩ := h.kept x.1 x.2 (Std.ExtTreeMap.mem_toList_iff_getElem?_eq_some.1 hx)
    simpa [now, hr'] using hle x.1 x.2 r' hR
  have hold : (((t'.toList.filter fun x => x.1 ∈ t).map Prod.fst).map now).sum =
      (t.toList.map fun x => now x.1).sum := by
    rw [(hkeys.map now).sum_eq, List.map_map]
    rfl
  rw [weight_eq_known_add_gain f t t', hnow, hold]
  omega

end Table

/-! ## Metered runs -/

namespace Run

variable {σ ℓ : Type} {step : σ → ℓ → Option σ} {ok : σ → ℓ → Prop} {s t : σ} {n : Nat}

/-- The steps of a system that adds up what they cost. -/
def metered (step : σ → ℓ → Option σ) (cost : σ → ℓ → Nat) (s : σ × Nat) (l : ℓ) :
    Option (σ × Nat) :=
  (step s.1 l).map fun t => (t, s.2 + cost s.1 l)

/-- What a step costs and what it leaves of the weight is paid for by the weight before. -/
theorem cost_le {cost : σ → ℓ → Nat} (weight : σ → Nat) (I : σ → Prop)
    (h : Run (metered step cost) (fun s l => ok s.1 l) (s, 0) (t, n)) (hs : I s)
    (hstep : ∀ u l v, I u → ok u l → step u l = some v →
      I v ∧ cost u l + weight v ≤ weight u) :
    n + weight t ≤ weight s := by
  have hinv := h.invariant (P := fun u => I u.1 ∧ u.2 + weight u.1 ≤ weight s)
    ⟨hs, Nat.le_of_eq (Nat.zero_add _)⟩ ?_
  · exact hinv.2
  · rintro ⟨u, a⟩ l v ⟨hu, hle⟩ hok hv
    obtain ⟨u', hstep', rfl⟩ := Option.map_eq_some_iff.1 hv
    obtain ⟨hI, hpays⟩ := hstep u l u' hu hok hstep'
    refine ⟨hI, ?_⟩
    simp only at hle ⊢
    omega

/-- The same where steps bring in weight, which is added up as well. -/
theorem cost_add_le {cost gain : σ → ℓ → Nat} (weight : σ → Nat) (I : σ → Prop) {m : Nat}
    (h : Run (metered (metered step cost) fun s l => gain s.1 l) (fun s l => ok s.1.1 l)
      ((s, 0), 0) ((t, n), m))
    (hs : I s)
    (hstep : ∀ u l v, I u → ok u l → step u l = some v →
      I v ∧ cost u l + weight v ≤ weight u + gain u l) :
    n + weight t ≤ weight s + m := by
  have hinv := h.invariant
    (P := fun u => I u.1.1 ∧ u.1.2 + weight u.1.1 ≤ weight s + u.2)
    ⟨hs, Nat.le_of_eq (Nat.zero_add _)⟩ ?_
  · exact hinv.2
  · rintro ⟨⟨u, a⟩, b⟩ l v ⟨hu, hle⟩ hok hv
    obtain ⟨⟨u', a'⟩, hinner, rfl⟩ := Option.map_eq_some_iff.1 hv
    obtain ⟨u'', hstep', heq⟩ := Option.map_eq_some_iff.1 hinner
    obtain ⟨rfl, rfl⟩ := Prod.mk.inj heq
    obtain ⟨hI, hpays⟩ := hstep u l u'' hu hok hstep'
    refine ⟨hI, ?_⟩
    simp only at hle ⊢
    omega

end Run
