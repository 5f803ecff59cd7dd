import Mathlib.Data.Option.Basic
import MiniGrc.ForStd.Table

/-!
# Units of work

A session of an object-relational mapper holds the changes to its rows back until a
flush, which writes the changed rows one statement at a time in key order. Each
statement is checked against the table as the statements before it have left it, so a
flush can fail although the state it leads to satisfies every constraint.

## Key results

- `Tracked.flush_isSome_iff`: when a flush succeeds
- `Tracked.flush_eq_clean`: what it leaves
- `Tracked.flush_holds`: a successful flush keeps the constraints
- `Tracked.expire_of_pendingAt`: what is lost when rows are read again
-/

/-- The constraints on a table that look at several of its rows. -/
structure Constraints (ρ : Type) where
  /-- the two rows violate a unique index together -/
  conflict : ρ → ρ → Bool
  /-- the foreign keys of a row into the table itself -/
  refs : ρ → List Nat

/-- A table as a session sees it: the rows that its statements have written, and the
    rows with the changes that it holds back. Rows are not removed. -/
structure Tracked (ρ : Type) where
  stored : Table ρ
  current : Table ρ
  keeps : ∀ k ∈ stored, k ∈ current

variable {ρ : Type}

/-- The database accepts the row `r` under the key `k`. -/
def Constraints.Admits (C : Constraints ρ) (t : Table ρ) (k : Nat) (r : ρ) : Prop :=
  (∀ x ∈ t.toList, x.1 ≠ k → C.conflict r x.2 = false) ∧ ∀ j ∈ C.refs r, j = k ∨ j ∈ t

instance (C : Constraints ρ) (t : Table ρ) (k : Nat) (r : ρ) : Decidable (C.Admits t k r) :=
  inferInstanceAs (Decidable (_ ∧ _))

/-- The rows of the table satisfy the constraints. -/
def Constraints.Holds (C : Constraints ρ) (t : Table ρ) : Prop :=
  ∀ x ∈ t.toList, C.Admits t x.1 x.2

instance (C : Constraints ρ) (t : Table ρ) : Decidable (C.Holds t) :=
  inferInstanceAs (Decidable (∀ x ∈ t.toList, _))

/-- The constraints hold row by row. -/
theorem Constraints.holds_iff {C : Constraints ρ} {t : Table ρ} :
    C.Holds t ↔ ∀ (k : Nat) (r : ρ), t[k]? = some r →
      (∀ (j : Nat) r', t[j]? = some r' → j ≠ k → C.conflict r r' = false) ∧
        ∀ j ∈ C.refs r, j ∈ t := by
  simp only [Constraints.Holds, Constraints.Admits, Prod.forall,
    Std.ExtTreeMap.mem_toList_iff_getElem?_eq_some]
  refine forall₂_congr fun k r => ?_
  refine forall_congr' fun hr => and_congr_right fun _ => forall₂_congr fun j _ => ?_
  -- a row that refers to itself refers to a row of the table
  exact or_iff_right_of_imp fun hj => hj ▸ Table.mem_of_get hr

namespace Tracked

/-- Nothing is held back. -/
def clean (t : Table ρ) : Tracked ρ := ⟨t, t, fun _ h => h⟩

/-- Change a row, or add one; the statement is held back. -/
def set (t : Tracked ρ) (k : Nat) (r : ρ) : Tracked ρ where
  stored := t.stored
  current := t.current.insert k r
  keeps := fun j hj => by simp [t.keeps j hj]

/-- Change every row. -/
def mapRows (t : Tracked ρ) (f : ρ → ρ) : Tracked ρ where
  stored := t.stored
  current := t.current.map fun _ => f
  keeps := fun j hj => by simp [t.keeps j hj]

/-- Read the rows `ks` again: the changes of them that are held back are lost. A row that has
    never been written stays. -/
def expire (t : Tracked ρ) (ks : List Nat) : Tracked ρ where
  stored := t.stored
  current := t.current.map fun k r => if k ∈ ks then t.stored[k]?.getD r else r
  keeps := fun j hj => by simp [t.keeps j hj]

/-- At most the change of the row `k` is held back. -/
structure PendingAt (t : Tracked ρ) (k : Nat) : Prop where
  written : ∀ j ∈ t.current, j ∈ t.stored
  others : ∀ j : Nat, j ≠ k → t.current[j]? = t.stored[j]?

variable (C : Constraints ρ)

/-- Write the row `x` unless it is stored already. -/
def emit [DecidableEq ρ] (stored : Table ρ) (x : Nat × ρ) : Option (Table ρ) :=
  if stored[x.1]? = some x.2 then some stored
  else if C.Admits stored x.1 x.2 then some (stored.insert x.1 x.2) else none

/-- Write every changed row, in key order. -/
def flush [DecidableEq ρ] (t : Tracked ρ) : Option (Tracked ρ) :=
  (t.current.toList.foldlM (emit C) t.stored).map fun _ => clean t.current

variable {C}

@[simp] theorem clean_stored (t : Table ρ) : (clean t).stored = t := rfl

@[simp] theorem clean_current (t : Table ρ) : (clean t).current = t := rfl

@[simp] theorem set_stored (t : Tracked ρ) (k : Nat) (r : ρ) : (t.set k r).stored = t.stored := rfl

@[simp] theorem set_current (t : Tracked ρ) (k : Nat) (r : ρ) :
    (t.set k r).current = t.current.insert k r := rfl

@[simp] theorem mapRows_current (t : Tracked ρ) (f : ρ → ρ) :
    (t.mapRows f).current = t.current.map fun _ => f := rfl

/-- An expired row is seen as it is stored. -/
theorem expire_current_get (t : Tracked ρ) (ks : List Nat) (j : Nat) :
    (t.expire ks).current[j]? =
      t.current[j]?.map fun r => if j ∈ ks then t.stored[j]?.getD r else r := by
  simp [expire, Std.ExtTreeMap.getElem?_map]

/-- Two units of work are equal when their tables are. -/
theorem ext_tables {t t' : Tracked ρ} (hstored : t.stored = t'.stored)
    (hcurrent : ∀ j : Nat, t.current[j]? = t'.current[j]?) : t = t' := by
  cases t
  cases t'
  obtain rfl := hstored
  obtain rfl := Table.ext hcurrent
  rfl

/-- After a flush nothing is pending anywhere. -/
theorem pendingAt_clean (t : Table ρ) (k : Nat) : (clean t).PendingAt k :=
  ⟨fun _ h => h, fun _ _ => rfl⟩

/-- A change of a row of a table without other changes. -/
theorem pendingAt_set {t : Table ρ} {k : Nat} (hk : k ∈ t) (r : ρ) :
    ((clean t).set k r).PendingAt k where
  written j hj := by
    rcases Std.ExtTreeMap.mem_insert.1 hj with heq | hj
    · obtain rfl : k = j := Nat.compare_eq_eq.1 heq
      exact hk
    · exact hj
  others j hj := by
    simp [Table.get_insert_ne (Ne.symm hj)]

/-- To expire no row changes nothing. -/
@[simp] theorem expire_nil (t : Tracked ρ) : t.expire [] = t := by
  refine ext_tables rfl fun j => ?_
  rw [expire_current_get]
  simp

/-- The change that is held back is lost if its row is read again. -/
theorem expire_of_pendingAt {t : Tracked ρ} {k : Nat} (h : t.PendingAt k) (ks : List Nat) :
    t.expire ks = if k ∈ ks then clean t.stored else t := by
  have hsame : ∀ j : Nat, j ≠ k → (t.expire ks).current[j]? = t.current[j]? := by
    intro j hj
    rw [expire_current_get, ← h.others j hj]
    cases t.current[j]? <;> simp
  -- The one row that is pending is among those expired, or none is.
  split
  · next hk =>
    refine ext_tables rfl fun j => ?_
    by_cases hj : j = k
    · subst hj
      rw [expire_current_get, clean_current]
      cases hr : t.current[j]? with
      | none =>
        have hnot : j ∉ t.stored := fun hs => by
          obtain ⟨r, hr'⟩ := Table.exists_get (t.keeps j hs)
          rw [hr] at hr'
          cases hr'
        rw [Std.ExtTreeMap.getElem?_eq_none hnot]
        rfl
      | some r =>
        obtain ⟨r', hr'⟩ := Table.exists_get (h.written j (Table.mem_of_get hr))
        simp [hk, hr']
    · rw [hsame j hj, h.others j hj, clean_current]
  · next hk =>
    refine ext_tables rfl fun j => ?_
    by_cases hj : j = k
    · subst hj
      rw [expire_current_get]
      cases t.current[j]? <;> simp [hk]
    · exact hsame j hj

/-- What the statement for the row under `k` finds under `j`: the change, if it has been
    written before, and else the stored row. -/
def foundBy (t : Tracked ρ) (k j : Nat) : Option ρ := if j < k then t.current[j]? else t.stored[j]?

/-- A row set finds the other rows as they are stored. -/
theorem foundBy_set_clean {t : Table ρ} {k j : Nat} {r : ρ} (hj : j ≠ k) :
    ((clean t).set k r).foundBy k j = t[j]? := by
  simp [foundBy, Table.get_insert_ne (Ne.symm hj)]

/-- The statement for the row `r` under `k` is accepted in its turn. -/
def Accepted (C : Constraints ρ) (t : Tracked ρ) (k : Nat) (r : ρ) : Prop :=
  (∀ j r', j ≠ k → t.foundBy k j = some r' → C.conflict r r' = false) ∧
    ∀ j ∈ C.refs r, j = k ∨ (t.foundBy k j).isSome

/-- Rows that differ from the stored ones only by statements in key order. -/
private def AfterStatements (t : Tracked ρ) (rest : List (Nat × ρ)) (stored : Table ρ) : Prop :=
  ∀ j : Nat, stored[j]? = if j ∈ rest.map Prod.fst then t.stored[j]? else t.current[j]?

/-- What a statement finds, after those before it. -/
private theorem AfterStatements.found {t : Tracked ρ} {before rest : List (Nat × ρ)} {k j : Nat}
    {r : ρ} {stored : Table ρ} (h : AfterStatements t ((k, r) :: rest) stored)
    (hl : t.current.toList = before ++ (k, r) :: rest) (hj : j ≠ k) :
    stored[j]? = t.foundBy k j := by
  have hsorted := t.current.toList_keys_lt
  rw [hl, List.pairwise_append, List.pairwise_cons] at hsorted
  obtain ⟨_, ⟨hrest, _⟩, hbefore⟩ := hsorted
  rw [h j, foundBy]
  simp only [List.map_cons, List.mem_cons, hj, false_or]
  by_cases hmem : j ∈ rest.map Prod.fst
  · -- a row whose statement is still to come has a greater key
    obtain ⟨x, hx, rfl⟩ := List.mem_map.1 hmem
    have := hrest x hx
    rw [if_pos hmem, if_neg (by omega)]
  · rw [if_neg hmem]
    split
    · rfl
    · -- no row has this key
      have hnone : t.current[j]? = none := by
        refine Option.eq_none_iff_forall_ne_some.2 fun r' hr' => ?_
        have hin : (j, r') ∈ t.current.toList := by simpa using hr'
        rw [hl, List.mem_append, List.mem_cons] at hin
        rcases hin with hin | hin | hin
        · have := hbefore _ hin (k, r) (by simp)
          simp only at this
          omega
        · exact hj (Prod.mk.inj hin).1
        · exact hmem (List.mem_map.2 ⟨_, hin, rfl⟩)
      have hnot : j ∉ t.stored := fun hs => by
        have hcur := t.keeps j hs
        rw [Std.ExtTreeMap.mem_iff_isSome_getElem?, hnone] at hcur
        exact nomatch hcur
      rw [hnone]
      simpa using hnot

/-- A statement is admitted as its row is accepted. -/
private theorem AfterStatements.admits_iff {t : Tracked ρ} {before rest : List (Nat × ρ)} {k : Nat}
    {r : ρ} {stored : Table ρ} (h : AfterStatements t ((k, r) :: rest) stored)
    (hl : t.current.toList = before ++ (k, r) :: rest) :
    C.Admits stored k r ↔ t.Accepted C k r := by
  refine and_congr ?_ ?_
  · simp only [Prod.forall, Std.ExtTreeMap.mem_toList_iff_getElem?_eq_some]
    refine forall₂_congr fun j r' => ?_
    by_cases hj : j = k
    · simp [hj]
    · simp [hj, h.found hl hj]
  · refine forall₂_congr fun j _ => ?_
    by_cases hj : j = k
    · simp [hj]
    · simp [hj, ← h.found hl hj]

variable [DecidableEq ρ]

/-- The statements all go through when every changed row is accepted. -/
private theorem isSome_foldlM_emit (t : Tracked ρ) (before rest : List (Nat × ρ))
    (stored : Table ρ) (h : AfterStatements t rest stored)
    (hl : t.current.toList = before ++ rest) :
    (rest.foldlM (emit C) stored).isSome ↔
      ∀ x ∈ rest, t.stored[x.1]? ≠ some x.2 → t.Accepted C x.1 x.2 := by
  -- Over the rows still to be emitted, with those before them stored.
  induction rest generalizing before stored with
  | nil => simp
  | cons x rest ih =>
    obtain ⟨k, r⟩ := x
    have hk : stored[k]? = t.stored[k]? := by simpa using h k
    have hr : t.current[k]? = some r := by
      have hmem : (k, r) ∈ t.current.toList := by simp [hl]
      simpa using hmem
    have hnext : ∀ stored' : Table ρ, stored'[k]? = some r →
        (∀ j, j ≠ k → stored'[j]? = stored[j]?) → AfterStatements t rest stored' := by
      intro stored' hk' hne j
      have hsorted := t.current.toList_keys_lt
      rw [hl, List.pairwise_append, List.pairwise_cons] at hsorted
      by_cases hj : j = k
      · subst hj
        have hnot : j ∉ rest.map Prod.fst := fun hmem => by
          obtain ⟨x, hx, rfl⟩ := List.mem_map.1 hmem
          exact absurd (hsorted.2.1.1 x hx) (Nat.lt_irrefl _)
        rw [if_neg hnot, hk', hr]
      · rw [hne j hj, h j]
        simp only [List.map_cons, List.mem_cons, hj, false_or]
    rw [List.foldlM_cons, List.forall_mem_cons]
    by_cases hsame : stored[k]? = some r
    · simp only [emit, hsame, if_true, Option.bind_eq_bind, Option.bind_some]
      rw [ih (before ++ [(k, r)]) stored (hnext stored hsame fun _ _ => rfl) (by simp [hl])]
      simp [← hk, hsame]
    · by_cases hadm : C.Admits stored k r
      · simp only [emit, hsame, hadm, if_true, if_false, Option.bind_eq_bind, Option.bind_some]
        rw [ih (before ++ [(k, r)]) _ (hnext _ (by simp)
          fun j hj => Table.get_insert_ne (Ne.symm hj)) (by simp [hl])]
        simp [(h.admits_iff hl).1 hadm]
      · have := mt (h.admits_iff hl).2 hadm
        simp [emit, hsame, hadm, ← hk, this]

/-- A flush succeeds exactly when each changed row is accepted in its turn. -/
theorem flush_isSome_iff (t : Tracked ρ) :
    (t.flush C).isSome ↔
      ∀ (k : Nat) (r : ρ), t.current[k]? = some r → t.stored[k]? ≠ some r → t.Accepted C k r := by
  have h : AfterStatements t t.current.toList t.stored := by
    intro j
    split
    · rfl
    · next hmem =>
      have hcur : j ∉ t.current := fun hin => by
        obtain ⟨r, hr⟩ := Table.exists_get hin
        exact hmem (List.mem_map.2 ⟨(j, r), by simpa using hr, rfl⟩)
      have hst : j ∉ t.stored := mt (t.keeps j) hcur
      simp [hcur, hst]
  rw [flush, Option.isSome_map, isSome_foldlM_emit t [] _ _ h rfl]
  simp [Prod.forall]

/-- A flush of changes to rows that satisfy the constraints leaves rows that do. -/
theorem flush_holds {t t' : Tracked ρ} (hsymm : ∀ r r', C.conflict r r' = C.conflict r' r)
    (hstored : C.Holds t.stored) (h : t.flush C = some t') : C.Holds t.current := by
  have haccepted := (flush_isSome_iff t (C := C)).1 (by rw [h]; rfl)
  rw [Constraints.holds_iff] at hstored ⊢
  have later : ∀ (k j : Nat) r r', t.current[k]? = some r → t.current[j]? = some r' → j < k →
      C.conflict r r' = false := by
    -- of two rows, the one whose statement comes later has been checked against the other
    intro k j r r' hr hr' hlt
    by_cases hk : t.stored[k]? = some r
    · by_cases hj : t.stored[j]? = some r'
      · exact (hstored k r hk).1 j r' hj (Nat.ne_of_lt hlt)
      · rw [hsymm]
        exact (haccepted j r' hr' hj).1 k r (Nat.ne_of_gt hlt)
          (by rwa [foundBy, if_neg (Nat.lt_asymm hlt)])
    · exact (haccepted k r hr hk).1 j r' (Nat.ne_of_lt hlt) (by rwa [foundBy, if_pos hlt])
  intro k r hr
  constructor
  · intro j r' hr' hj
    rcases Nat.lt_or_gt_of_ne hj with hlt | hlt
    · exact later k j r r' hr hr' hlt
    · rw [hsymm]
      exact later j k r' r hr' hr hlt
  · intro j hj
    by_cases hk : t.stored[k]? = some r
    · exact t.keeps j ((hstored k r hk).2 j hj)
    · rcases (haccepted k r hr hk).2 j hj with rfl | hfound
      · exact Table.mem_of_get hr
      · obtain ⟨r', hr'⟩ := Option.isSome_iff_exists.1 hfound
        unfold foundBy at hr'
        split at hr'
        · exact Table.mem_of_get hr'
        · exact t.keeps j (Table.mem_of_get hr')

/-- After a flush nothing is held back. -/
theorem flush_eq_clean {t t' : Tracked ρ} (h : t.flush C = some t') : t' = clean t.current := by
  simp only [flush, Option.map_eq_some_iff] at h
  obtain ⟨_, _, rfl⟩ := h
  rfl

/-- Nothing to write is written. -/
@[simp] theorem flush_clean (t : Table ρ) : (clean t).flush C = some (clean t) := by
  have hsome : ((clean t).flush C).isSome := by
    rw [flush_isSome_iff]
    exact fun k r hr hne => absurd hr hne
  obtain ⟨t', ht'⟩ := Option.isSome_iff_exists.1 hsome
  rw [ht', flush_eq_clean ht', clean_current]

/-- A single change is written if the table admits it. -/
theorem flush_set_clean {t : Table ρ} {k : Nat} {r : ρ} (h : C.Admits t k r) :
    ((clean t).set k r).flush C = some (clean (t.insert k r)) := by
  have hsome : (((clean t).set k r).flush C).isSome := by
    rw [flush_isSome_iff]
    intro k' r' hr' hne
    -- The row itself, or one that is stored already.
    by_cases hk : k' = k
    · subst hk
      obtain rfl : r = r' := by simpa using hr'
      refine ⟨fun j r'' hj hr'' => ?_, fun j hj => ?_⟩
      · rw [foundBy_set_clean hj] at hr''
        exact h.1 (j, r'') (by simpa using hr'') hj
      · by_cases hjk : j = k'
        · exact .inl hjk
        · rw [foundBy_set_clean hjk]
          exact (h.2 j hj).imp_right fun hin => by simpa using hin
    · exact absurd hr' (by simpa [Table.get_insert_ne (Ne.symm hk)] using hne)
  obtain ⟨t', ht'⟩ := Option.isSome_iff_exists.1 hsome
  rw [ht', flush_eq_clean ht', set_current, clean_current]

/-- A change of a row that violates a unique index together with another row is refused. -/
theorem flush_set_clean_eq_none {t : Table ρ} {k j : Nat} {r r' : ρ} (hne : t[k]? ≠ some r)
    (hj : j ≠ k) (hr' : t[j]? = some r') (hconflict : C.conflict r r' = true) :
    ((clean t).set k r).flush C = none := by
  rw [← Option.not_isSome_iff_eq_none, flush_isSome_iff]
  intro haccepted
  have hfree := (haccepted k r (by simp) hne).1 j r' hj (by rw [foundBy_set_clean hj, hr'])
  rw [hconflict] at hfree
  cases hfree

end Tracked
