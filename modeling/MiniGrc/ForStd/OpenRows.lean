import Mathlib.Data.Fintype.Basic
import Mathlib.Data.Set.Finite.Lattice
import Mathlib.Logic.Function.Basic
import MiniGrc.ForStd.Table

/-!
# Rows of open transactions

One table under any number of read-committed sessions: the committed rows, and for each
session the rows that its open transaction has written. A session sees its own rows over
the committed ones. A row that a transaction has written is locked until the
transaction ends: another session's statement on it waits, so no two open transactions
have written the same row (`Exclusive`).

## Key results

- `Exclusive.write`, `Exclusive.commit`, `Exclusive.rollback`: what keeps the locks apart
- `OnlyInserts.write`, `OnlyInserts.commit`: sessions that write no row of another one
- `Consistent.write`, `Consistent.commit`: what a unique index keeps apart
- `Grows.write`, `Grows.commit`, `Grows.rollback`: a table that only gains rows
-/

/-- The committed rows, and the rows that each session's open transaction has written. -/
structure OpenRows (ι ρ : Type) where
  committed : Table ρ
  own : ι → Table ρ

namespace OpenRows

variable {ι ρ : Type}

/-- No transaction is open. -/
def closed (t : Table ρ) : OpenRows ι ρ := ⟨t, fun _ => ∅⟩

variable (s : OpenRows ι ρ) (i j : ι) (k : Nat)

/-- The rows that session `i` sees. -/
def visible : Table ρ := s.committed ∪ s.own i

/-- The row that session `i` sees under a key. -/
def row : Option ρ := (s.own i)[k]?.or s.committed[k]?

/-- A statement of session `i` on the row has to wait. -/
def Blocked : Prop := ∃ j, j ≠ i ∧ ((s.own j)[k]?).isSome

instance [Fintype ι] [DecidableEq ι] : Decidable (s.Blocked i k) :=
  inferInstanceAs (Decidable (∃ j, j ≠ i ∧ ((s.own j)[k]?).isSome))

/-- There is no row under the key, committed or not. -/
def Unused : Prop := s.committed[k]? = none ∧ ∀ i, (s.own i)[k]? = none

instance [Fintype ι] : Decidable (s.Unused k) :=
  inferInstanceAs (Decidable (_ ∧ ∀ i, (s.own i)[k]? = none))

/-- The row is committed or has been written by an open transaction. -/
def Has (r : ρ) : Prop := s.committed[k]? = some r ∨ ∃ i, (s.own i)[k]? = some r

/-- The rows of open transactions are new: they are neither committed nor another's. -/
def OnlyInserts : Prop :=
  ∀ i (k : Nat) r, (s.own i)[k]? = some r →
    s.committed[k]? = none ∧ ∀ j, j ≠ i → (s.own j)[k]? = none

/-- Another open transaction has written a row that conflicts with this one; a unique index
    makes the session wait for it. -/
def Waits (conflict : ρ → ρ → Bool) (r : ρ) : Prop :=
  ∃ j, j ≠ i ∧ ∃ x ∈ (s.own j).toList, conflict r x.2

instance [Fintype ι] [DecidableEq ι] (conflict : ρ → ρ → Bool) (r : ρ) :
    Decidable (s.Waits i conflict r) :=
  inferInstanceAs (Decidable (∃ j, j ≠ i ∧ ∃ x ∈ (s.own j).toList, conflict r x.2))

/-- No two rows, committed or not, conflict. -/
def Consistent (conflict : ρ → ρ → Bool) : Prop :=
  ∀ k k' r r', s.Has k r → s.Has k' r' → k ≠ k' → conflict r r' = false

/-- Of two open transactions at most one has written the row. -/
def Exclusive : Prop := ∀ i j (k : Nat), i ≠ j → (s.own i)[k]? = none ∨ (s.own j)[k]? = none

variable [DecidableEq ι]

/-- Session `i` writes a row. -/
def write (r : ρ) : OpenRows ι ρ :=
  { s with own := Function.update s.own i ((s.own i).insert k r) }

/-- Session `i` commits. -/
def commit : OpenRows ι ρ where
  committed := s.visible i
  own := Function.update s.own i ∅

/-- Session `i` rolls back, or dies. -/
def rollback : OpenRows ι ρ :=
  { s with own := Function.update s.own i ∅ }

variable {s i j k} {r : ρ} {a : Nat}

omit [DecidableEq ι] in
/-- What a session sees of a row. -/
theorem get_visible : (s.visible i)[k]? = s.row i k := Std.ExtTreeMap.getElem?_union

omit [DecidableEq ι] in
/-- A session sees its own write. -/
theorem row_of_own (h : (s.own i)[k]? = some r) : s.row i k = some r := by
  simp [row, h]

omit [DecidableEq ι] in
/-- A row that the session has not written is the committed one. -/
theorem row_of_own_none (h : (s.own i)[k]? = none) : s.row i k = s.committed[k]? := by
  simp [row, h]

omit [DecidableEq ι] in
/-- A session that has written nothing sees what is committed. -/
theorem visible_eq (h : ∀ k : Nat, (s.own i)[k]? = none) : s.visible i = s.committed :=
  Table.ext fun k => by rw [get_visible, row_of_own_none (h k)]

omit [DecidableEq ι] in
/-- Nobody else has written a row that no other session blocks. -/
theorem own_eq_none (h : ¬ s.Blocked i k) (hij : j ≠ i) : (s.own j)[k]? = none :=
  Option.not_isSome_iff_eq_none.1 fun hsome => h ⟨j, hij, hsome⟩

omit [DecidableEq ι] in
/-- There always are unused keys, as many as wanted. -/
theorem exists_unused [Finite ι] (s : OpenRows ι ρ) : ∃ f : Nat ↪ Nat, ∀ n, s.Unused (f n) := by
  have hkeys : ∀ t : Table ρ, {k : Nat | t[k]? ≠ none}.Finite := fun t =>
    t.keys.finite_toSet.subset fun k hk => Std.ExtTreeMap.mem_keys.2
      (Std.ExtTreeMap.mem_iff_isSome_getElem?.2 (Option.isSome_iff_ne_none.2 hk))
  have hunused := ((hkeys s.committed).union
    (Set.finite_iUnion fun i => hkeys (s.own i))).infinite_compl
  refine ⟨(hunused.natEmbedding _).trans (.subtype _), fun n => ?_⟩
  have hn := (hunused.natEmbedding _ n).2
  rw [Set.mem_compl_iff, Set.mem_union, Set.mem_iUnion, not_or, not_exists] at hn
  exact ⟨Classical.not_not.1 hn.1, fun i => Classical.not_not.1 (hn.2 i)⟩

/-! ## Writing -/

@[simp] theorem write_committed : (s.write i k r).committed = s.committed := rfl

/-- A write adds the row to those of its session. -/
theorem write_own_eq : (s.write i k r).own i = (s.own i).insert k r := by simp [write]

/-- What the writing session holds after a write. -/
theorem write_own_self : ((s.write i k r).own i)[a]? = if k = a then some r else (s.own i)[a]? := by
  simp [write, Table.get_insert]

/-- A write leaves what the other sessions hold. -/
theorem write_own_ne (h : j ≠ i) : (s.write i k r).own j = s.own j := by
  simp [write, h]

/-- A write leaves the other rows of every session. -/
theorem write_own_of_ne (h : k ≠ a) : ((s.write i k r).own j)[a]? = (s.own j)[a]? := by
  by_cases hj : j = i
  · subst hj
    rw [write_own_self, if_neg h]
  · rw [write_own_ne hj]

/-- Writing one row uses no other key. -/
theorem Unused.write (h : s.Unused a) (hne : k ≠ a) : (s.write i k r).Unused a :=
  ⟨h.1, fun j => (write_own_of_ne hne).trans (h.2 j)⟩

/-- The writing session sees its write. -/
theorem row_write_self : (s.write i k r).row i k = some r :=
  row_of_own (by rw [write_own_self, if_pos rfl])

/-- The other sessions do not see it. -/
theorem row_write_ne (h : j ≠ i) : (s.write i k r).row j a = s.row j a := by
  simp [row, write_own_ne h]

/-- The other rows look the same to everybody. -/
theorem row_write_of_ne (h : k ≠ a) : (s.write i k r).row j a = s.row j a := by
  simp [row, write_own_of_ne h]

/-- A write of one session shows in no other row, and to no other session. -/
theorem row_write_of_or (h : j ≠ i ∨ k ≠ a) : (s.write i k r).row j a = s.row j a := by
  rcases h with hj | hk
  · exact row_write_ne hj
  · exact row_write_of_ne hk

/-- A row that nobody blocks can be written. -/
theorem Exclusive.write (h : s.Exclusive) (hb : ¬ s.Blocked i k) : (s.write i k r).Exclusive := by
  intro j j' a hne
  by_cases ha : k = a
  · subst ha
    by_cases hj : j = i
    · subst hj
      exact .inr (by rw [write_own_ne (Ne.symm hne)]; exact own_eq_none hb (Ne.symm hne))
    · exact .inl (by rw [write_own_ne hj]; exact own_eq_none hb hj)
  · rw [write_own_of_ne ha, write_own_of_ne ha]
    exact h j j' a hne

/-! ## Commit and rollback -/

omit [DecidableEq ι] in
/-- Without open writes, no row is written twice. -/
theorem exclusive_closed (t : Table ρ) : (closed t : OpenRows ι ρ).Exclusive := fun _ _ _ _ =>
  .inl (by simp [closed])

/-- A commit stores what its session has seen. -/
theorem get_commit : (s.commit i).committed[k]? = s.row i k := get_visible

/-- After a commit the session holds nothing back. -/
theorem commit_own_self : ((s.commit i).own i)[k]? = none := by simp [commit]

/-- A commit leaves what the other sessions hold. -/
theorem commit_own_ne (h : j ≠ i) : (s.commit i).own j = s.own j := by simp [commit, h]

@[simp] theorem rollback_committed : (s.rollback i).committed = s.committed := rfl

/-- After a rollback the session holds nothing back. -/
theorem rollback_own_self : ((s.rollback i).own i)[k]? = none := by simp [rollback]

/-- A rollback leaves what the other sessions hold. -/
theorem rollback_own_ne (h : j ≠ i) : (s.rollback i).own j = s.own j := by simp [rollback, h]

/-- A key that nobody uses is unused after a rollback. -/
theorem Unused.rollback (h : s.Unused k) : (s.rollback i).Unused k := by
  refine ⟨h.1, fun j => ?_⟩
  by_cases hj : j = i
  · subst hj
    exact rollback_own_self
  · rw [rollback_own_ne hj]
    exact h.2 j

/-- A key that nobody uses is unused after a commit. -/
theorem Unused.commit (h : s.Unused k) : (s.commit i).Unused k := by
  refine ⟨?_, fun j => ?_⟩
  · rw [get_commit, row_of_own_none (h.2 i)]
    exact h.1
  · by_cases hj : j = i
    · subst hj
      exact commit_own_self
    · rw [commit_own_ne hj]
      exact h.2 j

/-- A commit does not change what its own session sees. -/
theorem row_commit_self : (s.commit i).row i k = s.row i k := by
  rw [row_of_own_none commit_own_self, get_commit]

/-- Another session sees the rows of a commit. -/
theorem row_commit_ne (h : j ≠ i) :
    (s.commit i).row j k = (s.own j)[k]?.or (s.row i k) := by
  simp [row, commit_own_ne h, get_commit]

/-- A row that the committing transaction has not written stays as it is. -/
theorem row_commit_of_none (h : (s.own i)[k]? = none) : (s.commit i).row j k = s.row j k := by
  by_cases hj : j = i
  · subst hj
    exact row_commit_self
  · rw [row_commit_ne hj, row_of_own_none h]
    rfl

/-- After a rollback the session sees the committed rows. -/
theorem row_rollback_self : (s.rollback i).row i k = s.committed[k]? :=
  row_of_own_none rollback_own_self

/-- The other sessions see what they saw. -/
theorem row_rollback_ne (h : j ≠ i) : (s.rollback i).row j k = s.row j k := by
  simp [row, rollback_own_ne h]

/-- A commit releases the rows of its session. -/
theorem Exclusive.commit (h : s.Exclusive) : (s.commit i).Exclusive := by
  intro j j' a hne
  by_cases hj : j = i
  · subst hj
    exact .inl commit_own_self
  by_cases hj' : j' = i
  · subst hj'
    exact .inr commit_own_self
  rw [commit_own_ne hj, commit_own_ne hj']
  exact h j j' a hne

/-- A rollback releases the rows of its session. -/
theorem Exclusive.rollback (h : s.Exclusive) : (s.rollback i).Exclusive := by
  intro j j' a hne
  by_cases hj : j = i
  · subst hj
    exact .inl rollback_own_self
  by_cases hj' : j' = i
  · subst hj'
    exact .inr rollback_own_self
  rw [rollback_own_ne hj, rollback_own_ne hj']
  exact h j j' a hne

/-! ## Where rows come from -/

/-- A row after a write is the one that is written, or was there before. -/
theorem has_write {x : ρ} (h : (s.write i k r).Has a x) : (k = a ∧ x = r) ∨ s.Has a x := by
  obtain h | ⟨j, h⟩ := h
  · exact .inr (.inl h)
  by_cases hj : j = i
  · subst hj
    rw [write_own_self] at h
    split at h
    · next hk => exact .inl ⟨hk, (Option.some.inj h).symm⟩
    · exact .inr (.inr ⟨j, h⟩)
  · rw [write_own_ne hj] at h
    exact .inr (.inr ⟨j, h⟩)

/-- A commit makes no row up. -/
theorem has_commit {x : ρ} (h : (s.commit i).Has a x) : s.Has a x := by
  obtain h | ⟨j, h⟩ := h
  · rw [get_commit, row, Option.or_eq_some_iff] at h
    obtain h | ⟨_, h⟩ := h
    · exact .inr ⟨i, h⟩
    · exact .inl h
  by_cases hj : j = i
  · subst hj
    rw [commit_own_self] at h
    cases h
  · rw [commit_own_ne hj] at h
    exact .inr ⟨j, h⟩

/-- A rollback makes no row up. -/
theorem has_rollback {x : ρ} (h : (s.rollback i).Has a x) : s.Has a x := by
  obtain h | ⟨j, h⟩ := h
  · exact .inl h
  by_cases hj : j = i
  · subst hj
    rw [rollback_own_self] at h
    cases h
  · rw [rollback_own_ne hj] at h
    exact .inr ⟨j, h⟩

omit [DecidableEq ι] in
/-- Without open writes, nothing but inserts is held back. -/
theorem onlyInserts_closed (t : Table ρ) : (closed t : OpenRows ι ρ).OnlyInserts := by
  intro i k r h
  simp [closed] at h

/-- A write to a row that nobody else has keeps the rows of open transactions new. -/
theorem OnlyInserts.write (h : s.OnlyInserts) (hcommitted : s.committed[k]? = none)
    (hothers : ∀ j, j ≠ i → (s.own j)[k]? = none) : (s.write i k r).OnlyInserts := by
  intro j a x hx
  by_cases ha : k = a
  · subst ha
    -- only the writing session holds the new row
    have hj : j = i := by
      by_contra hj
      rw [write_own_ne hj, hothers j hj] at hx
      cases hx
    subst hj
    exact ⟨hcommitted, fun j' hj' => by rw [write_own_ne hj', hothers j' hj']⟩
  · rw [write_own_of_ne ha] at hx
    refine ⟨(h j a x hx).1, fun j' hj' => ?_⟩
    rw [write_own_of_ne ha]
    exact (h j a x hx).2 j' hj'

omit [DecidableEq ι] in
/-- A committed row is not written by an open transaction. -/
theorem OnlyInserts.own_eq_none (h : s.OnlyInserts) (hk : s.committed[k]? = some r) (i : ι) :
    (s.own i)[k]? = none := by
  by_contra hne
  obtain ⟨x, hx⟩ := Option.ne_none_iff_exists'.1 hne
  cases (h i k x hx).1.symm.trans hk

/-- What is committed stays as it is. -/
theorem OnlyInserts.commit_committed (h : s.OnlyInserts) (hk : s.committed[k]? = some r) :
    (s.commit i).committed[k]? = some r := by
  rw [get_commit, row_of_own_none (h.own_eq_none hk i), hk]

/-- A commit keeps the open writes inserts. -/
theorem OnlyInserts.commit (h : s.OnlyInserts) : (s.commit i).OnlyInserts := by
  intro j a x hx
  have hj : j ≠ i := by
    rintro rfl
    rw [commit_own_self] at hx
    cases hx
  rw [commit_own_ne hj] at hx
  obtain ⟨hcommitted, hothers⟩ := h j a x hx
  refine ⟨?_, fun j' hj' => ?_⟩
  · rw [get_commit, row_of_own_none (hothers i (Ne.symm hj)), hcommitted]
  · by_cases hi : j' = i
    · subst hi
      exact commit_own_self
    · rw [commit_own_ne hi, hothers j' hj']

/-- A rollback keeps the open writes inserts. -/
theorem OnlyInserts.rollback (h : s.OnlyInserts) : (s.rollback i).OnlyInserts := by
  intro j a x hx
  have hj : j ≠ i := by
    rintro rfl
    rw [rollback_own_self] at hx
    cases hx
  rw [rollback_own_ne hj] at hx
  obtain ⟨hcommitted, hothers⟩ := h j a x hx
  refine ⟨hcommitted, fun j' hj' => ?_⟩
  by_cases hi : j' = i
  · subst hi
    exact rollback_own_self
  · rw [rollback_own_ne hi, hothers j' hj']

/-! ## Unique indexes -/

section Unique

variable {conflict : ρ → ρ → Bool}

omit [DecidableEq ι] in
/-- An empty table has no two rows in conflict. -/
theorem consistent_closed (conflict : ρ → ρ → Bool) :
    (closed (∅ : Table ρ) : OpenRows ι ρ).Consistent conflict := by
  intro k k' r r' h
  simp [Has, closed] at h

omit [DecidableEq ι] in
/-- A row that the committed rows admit and that waits for no other conflicts with none. -/
theorem conflict_eq_false (hadmits : ∀ x ∈ s.committed.toList, x.1 ≠ k → conflict r x.2 = false)
    (hwaits : ¬ s.Waits i conflict r) (hown : ∀ a x, (s.own i)[a]? = some x → a = k)
    {x : ρ} (hx : s.Has a x) (hne : a ≠ k) : conflict r x = false := by
  obtain hx | ⟨j, hx⟩ := hx
  · exact hadmits (a, x) (Std.ExtTreeMap.mem_toList_iff_getElem?_eq_some.2 hx) hne
  by_cases hj : j = i
  · subst hj
    exact absurd (hown a x hx) hne
  · refine Bool.eq_false_iff.2 fun hconflict => hwaits ⟨j, hj, (a, x), ?_, hconflict⟩
    exact Std.ExtTreeMap.mem_toList_iff_getElem?_eq_some.2 hx

/-- A write that is in conflict with no other row keeps the table consistent. -/
theorem Consistent.write (h : s.Consistent conflict)
    (hsymm : ∀ x y, conflict x y = conflict y x)
    (hnew : ∀ a x, s.Has a x → a ≠ k → conflict r x = false) :
    (s.write i k r).Consistent conflict := by
  intro a a' x x' hx hx' hne
  obtain ⟨rfl, rfl⟩ | hold := has_write hx <;> obtain ⟨rfl, rfl⟩ | hold' := has_write hx'
  · exact absurd rfl hne
  · exact hnew a' x' hold' (Ne.symm hne)
  · rw [hsymm]
    exact hnew a x hold hne
  · exact h a a' x x' hold hold' hne

/-- A commit keeps the table consistent. -/
theorem Consistent.commit (h : s.Consistent conflict) : (s.commit i).Consistent conflict :=
  fun a a' x x' hx hx' => h a a' x x' (has_commit hx) (has_commit hx')

/-- A rollback keeps the table consistent. -/
theorem Consistent.rollback (h : s.Consistent conflict) : (s.rollback i).Consistent conflict :=
  fun a a' x x' hx hx' => h a a' x x' (has_rollback hx) (has_rollback hx')

end Unique

/-! ## Inserts -/

/-- How an insert into a table with a unique index goes. -/
inductive Insertion (ι ρ : Type)
  /-- another open transaction has to end first -/
  | waits
  /-- the index refuses the row -/
  | refused
  | done (s : OpenRows ι ρ)

/-- Session `i` inserts a row under a new key. -/
def insert [Fintype ι] (s : OpenRows ι ρ) (conflict : ρ → ρ → Bool) (i : ι) (k : Nat) (r : ρ) :
    Insertion ι ρ :=
  if ∃ x ∈ (s.visible i).toList, conflict r x.2 then .refused
  else if s.Waits i conflict r then .waits
  else .done (s.write i k r)

/-- What inserts keep of a table that was `t` at first: the rows of open transactions are new, no
    two rows conflict, and the rows of `t` are still there. -/
structure Grows (t : Table ρ) (conflict : ρ → ρ → Bool) (s : OpenRows ι ρ) : Prop where
  onlyInserts : s.OnlyInserts
  consistent : s.Consistent conflict
  kept : ∀ (k : Nat) r, t[k]? = some r → s.committed[k]? = some r

section Inserts

variable {t : Table ρ} {conflict : ρ → ρ → Bool}

omit [DecidableEq ι] in
/-- Under a key there is one row. -/
theorem OnlyInserts.has_unique (h : s.OnlyInserts) {x y : ρ} (hx : s.Has k x) (hy : s.Has k y) :
    x = y := by
  obtain hx | ⟨j, hx⟩ := hx <;> obtain hy | ⟨j', hy⟩ := hy
  · exact Option.some.inj (hx.symm.trans hy)
  · cases (h j' k y hy).1.symm.trans hx
  · cases (h j k x hx).1.symm.trans hy
  · by_cases hj : j' = j
    · subst hj
      exact Option.some.inj (hx.symm.trans hy)
    · cases ((h j k x hx).2 j' hj).symm.trans hy

omit [DecidableEq ι] in
/-- A row that a session sees is committed or held back. -/
theorem has_of_visible (h : (s.visible i)[k]? = some r) : s.Has k r := by
  rw [get_visible, row, Option.or_eq_some_iff] at h
  obtain h | ⟨-, h⟩ := h
  · exact .inr ⟨i, h⟩
  · exact .inl h

omit [DecidableEq ι] in
/-- A session sees its own rows. -/
theorem visible_of_own (h : (s.own i)[k]? = some r) : (s.visible i)[k]? = some r := by
  rw [get_visible, row_of_own h]

omit [DecidableEq ι] in
/-- With nothing but inserts, every session sees the committed rows. -/
theorem OnlyInserts.visible_of_committed (h : s.OnlyInserts) (hk : s.committed[k]? = some r) :
    (s.visible i)[k]? = some r := by
  rw [get_visible, row_of_own_none (h.own_eq_none hk i), hk]

omit [DecidableEq ι] in
/-- What a session sees is committed or its own. -/
theorem own_or_committed (h : (s.visible i)[k]? = some r) :
    (s.own i)[k]? = some r ∨ s.committed[k]? = some r := by
  rw [get_visible, row, Option.or_eq_some_iff] at h
  exact h.imp_right And.right

/-- A session still sees a row after an insert. -/
theorem visible_write (hunused : s.Unused k) {x : ρ} (h : (s.visible j)[a]? = some x) :
    ((s.write i k r).visible j)[a]? = some x := by
  have hne : k ≠ a := by
    rintro rfl
    rw [get_visible, row, hunused.1, hunused.2 j] at h
    cases h
  rwa [get_visible, row_write_of_ne hne, ← get_visible]

/-- The writing session sees its write. -/
theorem visible_write_self : ((s.write i k r).visible i)[k]? = some r := by
  rw [get_visible, row_write_self]

/-- A session still sees a row after the commit of another. -/
theorem OnlyInserts.visible_commit (hs : s.OnlyInserts) {x : ρ}
    (h : (s.visible j)[a]? = some x) : ((s.commit i).visible j)[a]? = some x := by
  by_cases hj : j = i
  · subst hj
    rwa [get_visible, row_commit_self, ← get_visible]
  · rw [get_visible, row_commit_ne hj]
    rcases own_or_committed h with hown | hcommitted
    · simp [hown]
    · simp [hs.own_eq_none hcommitted, row, hcommitted]

/-- A rollback changes nothing for the other sessions. -/
theorem visible_rollback (hj : j ≠ i) : ((s.rollback i).visible j)[a]? = (s.visible j)[a]? := by
  rw [get_visible, row_rollback_ne hj, get_visible]

section

variable [Fintype ι] {s' : OpenRows ι ρ}

/-- An insert is refused for a row that its session sees. -/
theorem insert_refused (h : s.insert conflict i k r = .refused) :
    ∃ (a : Nat) (x : ρ), (s.visible i)[a]? = some x ∧ conflict r x := by
  unfold insert at h
  split at h
  · next hex =>
    obtain ⟨x, hx, hconflict⟩ := hex
    exact ⟨x.1, x.2, Std.ExtTreeMap.mem_toList_iff_getElem?_eq_some.1 hx, hconflict⟩
  · split at h <;> cases h

/-- An insert waits for a row that another session holds back. -/
theorem insert_waits (h : s.insert conflict i k r = .waits) :
    ∃ j, j ≠ i ∧ ∃ (a : Nat) (x : ρ), (s.own j)[a]? = some x ∧ conflict r x := by
  unfold insert at h
  split at h
  · cases h
  · split at h
    · next hwaits =>
      obtain ⟨j, hj, x, hx, hconflict⟩ := hwaits
      exact ⟨j, hj, x.1, x.2, Std.ExtTreeMap.mem_toList_iff_getElem?_eq_some.1 hx, hconflict⟩
    · cases h

/-- An insert that succeeds is a write. -/
theorem eq_write_of_insert (h : s.insert conflict i k r = .done s') : s' = s.write i k r := by
  unfold insert at h
  split at h
  · cases h
  · split at h
    · cases h
    · exact (Insertion.done.inj h).symm

/-- The index lets a row in that conflicts with no other, committed or not. -/
theorem OnlyInserts.conflict_of_insert (hs : s.OnlyInserts)
    (h : s.insert conflict i k r = .done s') {x : ρ} (hx : s.Has a x) : conflict r x = false := by
  unfold insert at h
  split at h
  · cases h
  · next hvisible =>
    split at h
    · cases h
    · next hwaits =>
      -- a row in conflict would have refused the insert or kept it waiting
      refine Bool.eq_false_iff.2 fun hconflict => ?_
      have hnot : (s.visible i)[a]? ≠ some x := fun hv => hvisible
        ⟨(a, x), Std.ExtTreeMap.mem_toList_iff_getElem?_eq_some.2 hv, hconflict⟩
      obtain hx | ⟨j, hx⟩ := hx
      · exact hnot (hs.visible_of_committed hx)
      · by_cases hj : j = i
        · exact hnot (visible_of_own (hj ▸ hx))
        · have hmem := Std.ExtTreeMap.mem_toList_iff_getElem?_eq_some.2 hx
          exact hwaits ⟨j, hj, (a, x), hmem, hconflict⟩

end

omit [DecidableEq ι] in
/-- A table without conflicts is where its growth starts. -/
theorem grows_closed (h : ∀ (k k' : Nat) r r', t[k]? = some r → t[k']? = some r' → k ≠ k' →
    conflict r r' = false) : Grows t conflict (closed t : OpenRows ι ρ) where
  onlyInserts := onlyInserts_closed t
  consistent k k' r r' hr hr' := by
    have hcommitted : ∀ {a : Nat} {x : ρ}, (closed t : OpenRows ι ρ).Has a x → t[a]? = some x := by
      rintro a x (hx | ⟨j, hx⟩)
      · exact hx
      · simp [closed] at hx
    exact h k k' r r' (hcommitted hr) (hcommitted hr')
  kept _ _ hr := hr

/-- An unused id without conflicts lets the table grow. -/
theorem Grows.write (h : Grows t conflict s) (hsymm : ∀ x y, conflict x y = conflict y x)
    (hunused : s.Unused k) (hnew : ∀ (a : Nat) x, s.Has a x → conflict r x = false) :
    Grows t conflict (s.write i k r) where
  onlyInserts := h.onlyInserts.write hunused.1 fun j _ => hunused.2 j
  consistent := h.consistent.write hsymm fun a x hx _ => hnew a x hx
  kept := h.kept

/-- A commit keeps the growth. -/
theorem Grows.commit (h : Grows t conflict s) : Grows t conflict (s.commit i) where
  onlyInserts := h.onlyInserts.commit
  consistent := h.consistent.commit
  kept k r hr := h.onlyInserts.commit_committed (h.kept k r hr)

/-- A rollback keeps the growth. -/
theorem Grows.rollback (h : Grows t conflict s) : Grows t conflict (s.rollback i) where
  onlyInserts := h.onlyInserts.rollback
  consistent := h.consistent.rollback
  kept := h.kept

end Inserts

end OpenRows
