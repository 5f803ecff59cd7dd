import MiniGrc.ForStd.List

/-!
# Names that begin with a stem

Objects that are made for the elements of a list, each under a name that begins with the
stem of its element. If no name begins with the stems of two elements, the names are
distinct, and the stem of an element finds its object and no other.

## Key results

- `Forall₂.nodup_names`, `Forall₂.filter_stem`
- `forall₂_of_mapM_ok`: what a fallible function makes of the elements of a list
-/

namespace List

/-! ## Fallible functions -/

/-- A fallible function that succeeds on a list has succeeded on each element. -/
theorem forall₂_of_mapM_ok {α β ε : Type} {f : α → Except ε β} {l : List α} {l' : List β}
    (h : l.mapM f = .ok l') : Forall₂ (fun a b => f a = .ok b) l l' := by
  induction l generalizing l' with
  | nil =>
    obtain rfl := Except.ok.inj h
    exact .nil
  | cons a l ih =>
    rw [mapM_cons] at h
    cases hf : f a with
    | error e =>
      rw [hf] at h
      cases h
    | ok b =>
      cases hl : l.mapM f with
      | error e =>
        rw [hf, hl] at h
        cases h
      | ok bs =>
        rw [hf, hl] at h
        obtain rfl := Except.ok.inj h
        exact .cons hf (ih hl)

/-- Lists that match part by part match as a whole. -/
theorem Forall₂.flatMap_flatten {α β γ : Type} {R : γ → β → Prop} {f : α → List γ} {l : List α}
    {l' : List (List β)} (h : Forall₂ (fun a bs => Forall₂ R (f a) bs) l l') :
    Forall₂ R (l.flatMap f) l'.flatten := by
  induction h with
  | nil => exact .nil
  | cons hab _ ih =>
    rw [flatMap_cons, flatten_cons]
    exact rel_append hab ih

variable {α β γ : Type}

/-- What an element of the second list belongs to. -/
theorem Forall₂.exists_of_mem_right {R : α → β → Prop} {l : List α} {l' : List β} {b : β}
    (h : Forall₂ R l l') (hb : b ∈ l') : ∃ a ∈ l, R a b := by
  induction h with
  | nil => cases hb
  | @cons a b' l l' hab _ ih =>
    rcases mem_cons.1 hb with rfl | hb
    · exact ⟨a, mem_cons_self, hab⟩
    · obtain ⟨a', ha', hab'⟩ := ih hb
      exact ⟨a', mem_cons_of_mem _ ha', hab'⟩

/-- Predicates that agree on what belongs together hold throughout both lists or neither. -/
theorem Forall₂.forall_mem_iff {R : α → β → Prop} {P : α → Prop} {Q : β → Prop} {l : List α}
    {l' : List β} (h : Forall₂ R l l') (hR : ∀ a b, R a b → (P a ↔ Q b)) :
    (∀ a ∈ l, P a) ↔ ∀ b ∈ l', Q b := by
  induction h with
  | nil => simp
  | cons hab _ ih => rw [forall_mem_cons, forall_mem_cons, hR _ _ hab, ih]

/-! ## Stems -/

/-- No list begins with both. -/
def Apart (s s' : List α) : Prop := ∀ p, s <+: p → ¬ s' <+: p

/-- Stems that begin differently up to a separator are apart. -/
theorem apart_of_ne {c : α} {x x' z z' : List α} (hx : c ∉ x) (hx' : c ∉ x') (h : x ≠ x') :
    Apart (x ++ c :: z) (x' ++ c :: z') := by
  rintro p ⟨t, rfl⟩ ⟨t', ht'⟩
  rw [append_assoc, append_assoc, cons_append, cons_append] at ht'
  exact h (separated_inj hx' hx ht').1.symm

/-- A common beginning does not matter. -/
theorem Apart.append_left {s s' : List α} (h : Apart s s') (r : List α) :
    Apart (r ++ s) (r ++ s') := by
  rintro p ⟨t, rfl⟩ hp
  rw [append_assoc, prefix_append_right_inj] at hp
  exact h (s ++ t) (prefix_append ..) hp

/-- Stems that begin with different letters are apart. -/
theorem apart_cons {c c' : α} {s s' : List α} (h : c ≠ c') : Apart (c :: s) (c' :: s') := by
  rintro p ⟨t, rfl⟩ ⟨t', ht'⟩
  exact h (cons.inj ht').1.symm

variable (stem : α → List γ) (name : β → List γ) {R : α → β → Prop} {l : List α} {l' : List β}

/-- Distinct names, one for each element. -/
theorem Forall₂.nodup_names (h : Forall₂ R l l') (hR : ∀ a b, R a b → stem a <+: name b)
    (hl : l.Pairwise fun a a' => Apart (stem a) (stem a')) : (l'.map name).Nodup := by
  induction h with
  | nil => exact nodup_nil
  | @cons a b l l' hab hrest ih =>
    obtain ⟨ha, hl⟩ := pairwise_cons.1 hl
    rw [map_cons, nodup_cons]
    refine ⟨fun hmem => ?_, ih hl⟩
    -- the name of a later object begins with the stem of a later element
    obtain ⟨b', hb', hname⟩ := mem_map.1 hmem
    obtain ⟨a', ha', hab'⟩ := hrest.exists_of_mem_right hb'
    exact ha a' ha' (name b) (hR a b hab) (hname ▸ hR a' b' hab')

/-- The stem of an element finds its object and no other. -/
theorem Forall₂.filter_stem [DecidableEq γ] (h : Forall₂ R l l')
    (hR : ∀ a b, R a b → stem a <+: name b)
    (hl : l.Pairwise fun a a' => Apart (stem a) (stem a')) {a : α} (ha : a ∈ l) :
    ∃ b, (l'.filter fun b => (stem a).isPrefixOf (name b)) = [b] ∧ R a b := by
  induction h with
  | nil => cases ha
  | @cons a' b l l' hab hrest ih =>
    obtain ⟨hapart, hl⟩ := pairwise_cons.1 hl
    rcases mem_cons.1 ha with rfl | ha
    · refine ⟨b, ?_, hab⟩
      rw [filter_cons, if_pos ( isPrefixOf_iff_prefix.2 (hR a b hab)), filter_eq_nil_iff.2]
      intro b' hb' hprefix
      obtain ⟨a', ha', hab'⟩ := hrest.exists_of_mem_right hb'
      exact hapart a' ha' (name b') ( isPrefixOf_iff_prefix.1 hprefix) (hR a' b' hab')
    · obtain ⟨b', hfilter, hab'⟩ := ih hl ha
      refine ⟨b', ?_, hab'⟩
      rw [filter_cons, if_neg, hfilter]
      exact fun hprefix =>
        hapart a ha (name b) (hR a' b hab) ( isPrefixOf_iff_prefix.1 hprefix)

end List
