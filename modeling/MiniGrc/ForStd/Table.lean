import Std.Data.ExtTreeMap
import Mathlib.Data.List.Basic

/-!
# Tables

A table maps primary keys to rows and lists them in key order. The general lemma
`getElem?_foldl_alter` says that folding operations over a table, each on the row of its
own key, comes down to folding the operations of one key over one row.
-/

/-- Rows by primary key, listed in key order. -/
abbrev Table (ρ : Type) := Std.ExtTreeMap Nat ρ

namespace Table

variable {ρ ε : Type} {t t' : Table ρ} {k a : Nat} {r : ρ}

/-- Two tables are equal when their rows are. -/
theorem ext (h : ∀ k : Nat, t[k]? = t'[k]?) : t = t' := Std.ExtTreeMap.ext_getElem? h

/-- A row that is found is there. -/
theorem mem_of_get (h : t[k]? = some r) : k ∈ t :=
  Std.ExtTreeMap.mem_iff_isSome_getElem?.2 (by rw [h]; rfl)

/-- A row that is there is found. -/
theorem exists_get (h : k ∈ t) : ∃ r, t[k]? = some r :=
  Option.isSome_iff_exists.1 (Std.ExtTreeMap.mem_iff_isSome_getElem?.1 h)

/-- The row found after an insert. -/
theorem get_insert : (t.insert k r)[a]? = if k = a then some r else t[a]? := by
  simp [Std.ExtTreeMap.getElem?_insert]

/-- A row inserted is found. -/
theorem get_insert_self : (t.insert k r)[k]? = some r := by
  simp

/-- An insert leaves the other rows. -/
theorem get_insert_ne (h : k ≠ a) : (t.insert k r)[a]? = t[a]? := by
  simp [get_insert, h]

/-- A row after a write is the one that is written, or was there before. -/
theorem of_get_insert {new : ρ} (h : (t.insert k new)[a]? = some r) :
    k = a ∧ r = new ∨ t[a]? = some r := by
  rw [get_insert] at h
  split at h
  · next hka => exact .inl ⟨hka, (Option.some.inj h).symm⟩
  · exact .inr h

/-- The rows after a write under a new key. -/
theorem get_insert_eq_some_iff {new : ρ} (h : k ∉ t) :
    (t.insert k new)[a]? = some r ↔ t[a]? = some r ∨ a = k ∧ r = new := by
  constructor
  · intro hget
    rcases of_get_insert hget with ⟨rfl, rfl⟩ | hget
    · exact .inr ⟨rfl, rfl⟩
    · exact .inl hget
  · rintro (hget | ⟨rfl, rfl⟩)
    · have hne : k ≠ a := fun heq => h (heq ▸ mem_of_get hget)
      rw [get_insert_ne hne, hget]
    · exact get_insert_self

/-- Every row after a write comes from one before it, if the row that is written does. -/
theorem exists_of_get_insert {old new : ρ} {R : ρ → ρ → Prop} (h : (t.insert k new)[a]? = some r)
    (hold : t[k]? = some old) (hnew : R old new) (hrefl : ∀ r, R r r) :
    ∃ r', t[a]? = some r' ∧ R r' r := by
  rcases of_get_insert h with ⟨rfl, rfl⟩ | h
  · exact ⟨old, hold, hnew⟩
  · exact ⟨r, h, hrefl r⟩

/-- The row found after an alteration. -/
theorem get_alter {f : Option ρ → Option ρ} :
    (t.alter k f)[a]? = if k = a then f t[k]? else t[a]? := by
  simp [Std.ExtTreeMap.getElem?_alter]

/-- The rows that are left are those that pass. -/
theorem get_filter_eq_some {p : Nat → ρ → Bool} :
    (t.filter p)[k]? = some r ↔ t[k]? = some r ∧ p k r := by
  simp [Std.ExtTreeMap.getElem?_filter]

/-- A table lists its rows in key order. -/
theorem toList_keys_lt (t : Table ρ) : t.toList.Pairwise fun x y => x.1 < y.1 := by
  refine Std.ExtTreeMap.ordered_keys_toList.imp ?_
  intro x y h
  exact Nat.compare_eq_lt.1 h

/-- No row is listed twice. -/
theorem nodup_toList (t : Table ρ) : t.toList.Nodup :=
  (toList_keys_lt t).imp fun hlt heq => absurd (heq ▸ hlt) (Nat.lt_irrefl _)

/-- A row under a new key is listed beside the others. -/
theorem toList_insert_perm (h : k ∉ t) : (t.insert k r).toList.Perm ((k, r) :: t.toList) := by
  have hnew : (k, r) ∉ t.toList :=
    fun hmem => h (mem_of_get (Std.ExtTreeMap.mem_toList_iff_getElem?_eq_some.1 hmem))
  refine (List.perm_ext_iff_of_nodup (nodup_toList _)
    (List.nodup_cons.2 ⟨hnew, nodup_toList _⟩)).2 fun x => ?_
  obtain ⟨a, r'⟩ := x
  rw [List.mem_cons, Std.ExtTreeMap.mem_toList_iff_getElem?_eq_some,
    Std.ExtTreeMap.mem_toList_iff_getElem?_eq_some, get_insert, Prod.mk.injEq]
  by_cases hk : k = a
  · subst hk
    have hnone : t[k]? = none := by simpa using h
    simp [hnone, eq_comm]
  · simp [hk, Ne.symm hk]

/-- What holds of any two rows under different keys holds of the rows of a table in turn. -/
theorem pairwise_filter {p : ρ → Bool} {R : ρ → ρ → Prop}
    (h : ∀ (k k' : Nat) r r', t[k]? = some r → t[k']? = some r' → p r → p r' → k ≠ k' → R r r') :
    ((t.toList.map Prod.snd).filter p).Pairwise R := by
  rw [List.pairwise_filter, List.pairwise_map]
  refine (toList_keys_lt t).imp_of_mem fun {x y} hx hy hlt hpx hpy => ?_
  exact h x.1 y.1 x.2 y.2 (Std.ExtTreeMap.mem_toList_iff_getElem?_eq_some.1 hx)
    (Std.ExtTreeMap.mem_toList_iff_getElem?_eq_some.1 hy) hpx hpy (Nat.ne_of_lt hlt)

/-- Writing an entry that is there already changes nothing. -/
theorem insert_eq_self (h : t[k]? = some r) : t.insert k r = t := by
  refine ext fun a => ?_
  rw [get_insert]
  split
  · next hk => rw [← hk, h]
  · rfl

/-- A later write of a row replaces an earlier one. -/
@[simp] theorem insert_insert {r' : ρ} : (t.insert k r).insert k r' = t.insert k r' := by
  refine ext fun a => ?_
  simp only [get_insert]
  split <;> rfl

/-- An empty table has no row. -/
theorem not_get_empty : ¬ (∅ : Table ρ)[k]? = some r := by simp

/-- A table without rows is empty. -/
theorem eq_empty (h : ∀ (k : Nat) r, t[k]? ≠ some r) : t = ∅ :=
  ext fun k => by simpa using Option.eq_none_iff_forall_ne_some.2 (h k)

/-- What holds of the listed rows holds of the rows. -/
theorem forall_of_toList {p : Nat → ρ → Prop} (h : ∀ x ∈ t.toList, p x.1 x.2) (k : Nat) (r : ρ)
    (hr : t[k]? = some r) : p k r :=
  h (k, r) (Std.ExtTreeMap.mem_toList_iff_getElem?_eq_some.2 hr)

/-- No row of a table passes a test. -/
theorem any_toList_eq_false {p : ρ → Bool} :
    (t.toList.any fun x => p x.2) = false ↔ ∀ (k : Nat) r, t[k]? = some r → p r = false := by
  rw [List.any_eq_false]
  constructor
  · intro h k r hr
    exact Bool.eq_false_iff.2 (h (k, r) (Std.ExtTreeMap.mem_toList_iff_getElem?_eq_some.2 hr))
  · intro h x hx
    exact Bool.eq_false_iff.1 (h x.1 x.2 (Std.ExtTreeMap.mem_toList_iff_getElem?_eq_some.1 hx))

/-- The rows of `t` are in `t'`, and what `t'` has besides them meets `p`. -/
structure Extends (t t' : Table ρ) (p : Nat → ρ → Prop) : Prop where
  kept : ∀ (k : Nat) r, t[k]? = some r → t'[k]? = some r
  added : ∀ (k : Nat) r, t'[k]? = some r → t[k]? = some r ∨ p k r

theorem Extends.refl (t : Table ρ) (p : Nat → ρ → Prop) : t.Extends t p :=
  ⟨fun _ _ h => h, fun _ _ h => .inl h⟩

/-- A row under a new key. -/
theorem Extends.insert {p q : Nat → ρ → Prop} (h : t.Extends t' p) (hk : k ∉ t')
    (hpq : ∀ a r, p a r → q a r) (hq : q k r) : t.Extends (t'.insert k r) q where
  kept a r' hr' := by
    have hne : k ≠ a := by
      rintro rfl
      exact hk (mem_of_get (h.kept _ _ hr'))
    rw [get_insert_ne hne, h.kept a r' hr']
  added a r' hr' := by
    rcases of_get_insert hr' with ⟨rfl, rfl⟩ | hr'
    · exact .inr hq
    · exact (h.added a r' hr').imp_right (hpq a r')

/-- The rows of `t` are in `t'` and have changed as `R` allows, and what `t'` has besides them
    meets `p`. -/
structure Develops (t t' : Table ρ) (R : ρ → ρ → Prop) (p : Nat → ρ → Prop) : Prop where
  kept : ∀ (k : Nat) r, t[k]? = some r → ∃ r', t'[k]? = some r' ∧ R r r'
  added : ∀ (k : Nat) r, t'[k]? = some r → k ∈ t ∨ p k r

theorem Develops.refl {R : ρ → ρ → Prop} (hrefl : ∀ r, R r r) (t : Table ρ)
    (p : Nat → ρ → Prop) : t.Develops t R p :=
  ⟨fun _ r h => ⟨r, h, hrefl r⟩, fun _ _ h => .inl (mem_of_get h)⟩

/-- A row under a new key. -/
theorem develops_insert_new {R : ρ → ρ → Prop} {p : Nat → ρ → Prop} (hrefl : ∀ r, R r r)
    (hk : k ∉ t) (hp : p k r) : t.Develops (t.insert k r) R p where
  kept a r' hr' := by
    have hne : k ≠ a := fun heq => hk (heq ▸ mem_of_get hr')
    exact ⟨r', by rw [get_insert_ne hne, hr'], hrefl r'⟩
  added a r' hr' := by
    rcases of_get_insert hr' with ⟨rfl, rfl⟩ | hr'
    · exact .inr hp
    · exact .inl (mem_of_get hr')

/-- An update of a row. -/
theorem develops_insert_old {R : ρ → ρ → Prop} {p : Nat → ρ → Prop} {old : ρ}
    (hrefl : ∀ r, R r r) (hk : t[k]? = some old) (hold : R old r) :
    t.Develops (t.insert k r) R p where
  kept a r' hr' := by
    by_cases hka : k = a
    · subst hka
      obtain rfl : old = r' := Option.some.inj (hk.symm.trans hr')
      exact ⟨r, get_insert_self, hold⟩
    · exact ⟨r', by rw [get_insert_ne hka, hr'], hrefl r'⟩
  added a r' hr' := by
    rcases of_get_insert hr' with ⟨rfl, -⟩ | hr'
    · exact .inl (mem_of_get hk)
    · exact .inl (mem_of_get hr')

/-- The only row with the property `p` is `r`, under the key `k`. -/
def OnlyRow (t : Table ρ) (p : ρ → Prop) (k : Nat) (r : ρ) : Prop :=
  ∀ (a : Nat) r', t[a]? = some r' ∧ p r' ↔ a = k ∧ r' = r

/-- The only row is found, with its property. -/
theorem OnlyRow.get {p : ρ → Prop} (h : t.OnlyRow p k r) : t[k]? = some r ∧ p r :=
  (h k r).2 ⟨rfl, rfl⟩

/-- The first row with the property. -/
theorem onlyRow_insert {p : ρ → Prop} (hk : k ∉ t)
    (hnone : ∀ (a : Nat) r', t[a]? = some r' → ¬ p r') (hr : p r) :
    OnlyRow (t.insert k r) p k r := by
  intro a r'
  rw [get_insert_eq_some_iff hk]
  constructor
  · rintro ⟨hr' | heq, hp⟩
    · exact absurd hp (hnone a r' hr')
    · exact heq
  · rintro ⟨rfl, rfl⟩
    exact ⟨.inr ⟨rfl, rfl⟩, hr⟩

/-- A row without the property does not matter. -/
theorem OnlyRow.insert {p : ρ → Prop} {b : Nat} {new : ρ} (h : t.OnlyRow p k r) (hb : b ∉ t)
    (hnew : ¬ p new) : OnlyRow (t.insert b new) p k r := by
  intro a r'
  rw [get_insert_eq_some_iff hb, ← h a r']
  constructor
  · rintro ⟨hr' | ⟨-, rfl⟩, hp⟩
    · exact ⟨hr', hp⟩
    · exact absurd hp hnew
  · exact fun hr' => ⟨.inl hr'.1, hr'.2⟩

/-- After a run of operations, each on the row of its own key, a row has undergone the
    operations of its key. -/
theorem getElem?_foldl_alter (key : ε → Nat) (f : Option ρ → ε → Option ρ) (es : List ε)
    (t : Table ρ) (k : Nat) :
    (es.foldl (fun t e => t.alter (key e) (f · e)) t)[k]? =
      (es.filter fun e => key e = k).foldl f t[k]? := by
  induction es generalizing t with
  | nil => rfl
  | cons e es ih =>
    rw [List.foldl_cons, ih, get_alter]
    by_cases hk : key e = k
    · simp [hk]
    · simp [hk]

end Table
