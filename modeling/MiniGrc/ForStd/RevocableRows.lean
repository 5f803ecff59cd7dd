import MiniGrc.ForStd.Table

/-!
# Revocable rows

Rows that are marked as revoked when they are not to be used any more, and are never
removed: sessions, tokens, connections. A journal lists the writes that have reached the
table. Whatever the writes and their order, a row can be used exactly if the journal has its
insertion and has no revocation of it. Rows may be looked up by a key that is unique.

## Key results

- `Journaled.insert`, `Journaled.revoke`, `Journaled.update`: what the writes keep
- `Journaled.live_iff`: the rows that can be used
- `UniqueKeys.find_iff`: the row of a key
- `KeyJournaled.usable_iff`: the rows that can be found and used
-/

/-- What matters of the rows of a table: the columns that never change, and whether a row is
    revoked. -/
structure Revocable (ρ φ : Type) where
  fixed : ρ → φ
  revoked : ρ → Bool

/-- What a write does to a table of revocable rows. -/
inductive RowWrite (φ : Type)
  | inserted (k : Nat) (columns : φ)
  | revoked (k : Nat)
  /-- whatever else is written -/
  | other
  deriving DecidableEq

namespace Revocable

/-! ## The journal -/

variable {ρ φ κ : Type} (R : Revocable ρ φ)

/-- The journal of the writes that have reached the table. -/
structure Journaled (t : Table ρ) (journal : List (RowWrite φ)) : Prop where
  sound : ∀ (k : Nat) r, t[k]? = some r → .inserted k (R.fixed r) ∈ journal
  complete : ∀ (k : Nat) columns, .inserted k columns ∈ journal →
    ∃ r, t[k]? = some r ∧ R.fixed r = columns
  revoked : ∀ (k : Nat) r, t[k]? = some r → (R.revoked r = true ↔ .revoked k ∈ journal)
  known : ∀ k : Nat, .revoked k ∈ journal → k ∈ t

variable {R} {t : Table ρ} {journal : List (RowWrite φ)} {k : Nat} {r r' : ρ}

theorem journaled_empty : R.Journaled ∅ [] where
  sound _ _ h := absurd h Table.not_get_empty
  complete k columns h := by cases h
  revoked _ _ h := absurd h Table.not_get_empty
  known k h := by cases h

/-- A write elsewhere. -/
theorem Journaled.other (h : R.Journaled t journal) : R.Journaled t (journal ++ [.other]) where
  sound k r hr := List.mem_append_left _ (h.sound k r hr)
  complete k columns hk := h.complete k columns (by simpa using hk)
  revoked k r hr := by
    rw [h.revoked k r hr]
    simp
  known k hk := h.known k (by simpa using hk)

/-- A row under a new id, which is not revoked. -/
theorem Journaled.insert (h : R.Journaled t journal) (hk : k ∉ t) (hlive : R.revoked r = false) :
    R.Journaled (t.insert k r) (journal ++ [.inserted k (R.fixed r)]) where
  sound a s hs := by
    rcases (Table.get_insert_eq_some_iff hk).1 hs with hs | ⟨rfl, rfl⟩
    · exact List.mem_append_left _ (h.sound a s hs)
    · simp
  complete a columns ha := by
    rw [List.mem_append, List.mem_singleton] at ha
    rcases ha with ha | ha
    · obtain ⟨s, hs, hcolumns⟩ := h.complete a columns ha
      exact ⟨s, (Table.get_insert_eq_some_iff hk).2 (.inl hs), hcolumns⟩
    · cases ha
      exact ⟨r, Table.get_insert_self, rfl⟩
  revoked a s hs := by
    have hmem : .revoked a ∈ journal ++ [.inserted k (R.fixed r)] ↔ .revoked a ∈ journal := by
      simp
    rw [hmem]
    rcases (Table.get_insert_eq_some_iff hk).1 hs with hs | ⟨rfl, rfl⟩
    · exact h.revoked a s hs
    · -- nothing was known of the new id
      rw [hlive]
      simp [mt (h.known a) hk]
  known a ha := by
    have ha' := h.known a (by simpa using ha)
    simp [ha']

/-- What is known of the insertions after a row has been written. -/
theorem Journaled.rows_insert (h : R.Journaled t journal) (hr : t[k]? = some r)
    (hfixed : R.fixed r' = R.fixed r) :
    (∀ (a : Nat) s, (t.insert k r')[a]? = some s → .inserted a (R.fixed s) ∈ journal) ∧
      ∀ (a : Nat) columns, .inserted a columns ∈ journal →
        ∃ s, (t.insert k r')[a]? = some s ∧ R.fixed s = columns := by
  constructor
  · intro a s hs
    rcases Table.of_get_insert hs with ⟨rfl, rfl⟩ | hs
    · rw [hfixed]
      exact h.sound k r hr
    · exact h.sound a s hs
  · intro a columns ha
    obtain ⟨s, hs, hcolumns⟩ := h.complete a columns ha
    by_cases hka : k = a
    · subst hka
      obtain rfl : r = s := Option.some.inj (hr.symm.trans hs)
      exact ⟨r', Table.get_insert_self, hfixed.trans hcolumns⟩
    · exact ⟨s, by rw [Table.get_insert_ne hka, hs], hcolumns⟩

/-- A row is revoked. -/
theorem Journaled.revoke (h : R.Journaled t journal) (hr : t[k]? = some r)
    (hfixed : R.fixed r' = R.fixed r) (hrevoked : R.revoked r' = true) :
    R.Journaled (t.insert k r') (journal ++ [.revoked k]) where
  sound a s hs := List.mem_append_left _ ((h.rows_insert hr hfixed).1 a s hs)
  complete a columns ha := (h.rows_insert hr hfixed).2 a columns (by simpa using ha)
  revoked a s hs := by
    by_cases hka : k = a
    · subst hka
      obtain rfl : r' = s := by simpa using hs
      simp [hrevoked]
    · rw [Table.get_insert_ne hka] at hs
      rw [h.revoked a s hs]
      simp [Ne.symm hka]
  known a ha := by
    rw [List.mem_append, List.mem_singleton] at ha
    rcases ha with ha | ha
    · simp [h.known a ha]
    · cases ha
      simp

/-- Columns of a row change that do not matter here. -/
theorem Journaled.update (h : R.Journaled t journal) (hr : t[k]? = some r)
    (hfixed : R.fixed r' = R.fixed r) (hrevoked : R.revoked r' = R.revoked r) :
    R.Journaled (t.insert k r') (journal ++ [.other]) where
  sound a s hs := List.mem_append_left _ ((h.rows_insert hr hfixed).1 a s hs)
  complete a columns ha := (h.rows_insert hr hfixed).2 a columns (by simpa using ha)
  revoked a s hs := by
    have hmem : .revoked a ∈ journal ++ [RowWrite.other] ↔ .revoked a ∈ journal := by simp
    rw [hmem]
    rcases Table.of_get_insert hs with ⟨rfl, rfl⟩ | hs
    · rw [hrevoked]
      exact h.revoked k r hr
    · exact h.revoked a s hs
  known a ha := by
    have ha' := h.known a (by simpa using ha)
    simp [ha']

/-- A row with the columns is not revoked exactly if the journal has its insertion and no
    revocation of it. -/
theorem Journaled.live_iff (h : R.Journaled t journal) {columns : φ} :
    (∃ r, t[k]? = some r ∧ R.fixed r = columns ∧ R.revoked r = false) ↔
      .inserted k columns ∈ journal ∧ .revoked k ∉ journal := by
  constructor
  · rintro ⟨r, hr, hcolumns, hlive⟩
    refine ⟨hcolumns ▸ h.sound k r hr, fun hrevoked => ?_⟩
    rw [(h.revoked k r hr).2 hrevoked] at hlive
    cases hlive
  · rintro ⟨hinserted, hrevoked⟩
    obtain ⟨r, hr, hcolumns⟩ := h.complete k columns hinserted
    exact ⟨r, hr, hcolumns, Bool.eq_false_iff.2 (mt (h.revoked k r hr).1 hrevoked)⟩

/-! ## Look-ups by a key -/

variable (R) (key : φ → κ)

/-- The row of a key. -/
def find [DecidableEq κ] (t : Table ρ) (x : κ) : Option (Nat × ρ) :=
  t.toList.find? fun row => key (R.fixed row.2) = x

/-- No row has the key. -/
def KeyFree (t : Table ρ) (x : κ) : Prop :=
  ∀ (k : Nat) r, t[k]? = some r → key (R.fixed r) ≠ x

/-- No two rows have one key. -/
def UniqueKeys (t : Table ρ) : Prop :=
  ∀ (k k' : Nat) r r', t[k]? = some r → t[k']? = some r' →
    key (R.fixed r) = key (R.fixed r') → k = k'

variable {R} {key}

theorem uniqueKeys_empty : R.UniqueKeys key ∅ := fun _ _ _ _ h => absurd h Table.not_get_empty

/-- A row under a new id and a new key. -/
theorem UniqueKeys.insert (h : R.UniqueKeys key t) (hk : k ∉ t)
    (hkey : R.KeyFree key t (key (R.fixed r))) : R.UniqueKeys key (t.insert k r) := by
  intro a b s s' hs hs' hsame
  rcases (Table.get_insert_eq_some_iff hk).1 hs with ha | ⟨rfl, rfl⟩
  · rcases (Table.get_insert_eq_some_iff hk).1 hs' with hb | ⟨rfl, rfl⟩
    · exact h a b s s' ha hb hsame
    · exact absurd hsame (hkey a s ha)
  · rcases (Table.get_insert_eq_some_iff hk).1 hs' with hb | ⟨rfl, rfl⟩
    · exact absurd hsame.symm (hkey b s' hb)
    · rfl

/-- A row whose fixed columns stay as they are keeps its key. -/
theorem UniqueKeys.write (h : R.UniqueKeys key t) (hr : t[k]? = some r)
    (hfixed : R.fixed r' = R.fixed r) : R.UniqueKeys key (t.insert k r') := by
  have hold : ∀ (c : Nat) u, (t.insert k r')[c]? = some u →
      ∃ v, t[c]? = some v ∧ R.fixed v = R.fixed u := fun c u hu =>
    Table.exists_of_get_insert (R := fun v u => R.fixed v = R.fixed u) hu hr hfixed.symm
      fun _ => rfl
  intro a b s s' hs hs' hsame
  obtain ⟨v, hv, hfv⟩ := hold a s hs
  obtain ⟨v', hv', hfv'⟩ := hold b s' hs'
  exact h a b v v' hv hv' (by rw [hfv, hfv', hsame])

variable [DecidableEq κ]

/-- The look-up by a key finds the only row that has it. -/
theorem UniqueKeys.find_iff (h : R.UniqueKeys key t) {x : κ} :
    R.find key t x = some (k, r) ↔ t[k]? = some r ∧ key (R.fixed r) = x := by
  constructor
  · intro hfind
    have hmem := List.mem_of_find?_eq_some hfind
    have hkey := List.find?_some hfind
    exact ⟨Std.ExtTreeMap.mem_toList_iff_getElem?_eq_some.1 hmem, by simpa using hkey⟩
  · rintro ⟨hr, hkey⟩
    have hsome : (R.find key t x).isSome := by
      rw [find, List.find?_isSome]
      exact ⟨(k, r), by simpa using hr, by simpa using hkey⟩
    obtain ⟨y, hy⟩ := Option.isSome_iff_exists.1 hsome
    have hmem := List.mem_of_find?_eq_some hy
    have hkey' := List.find?_some hy
    rw [Std.ExtTreeMap.mem_toList_iff_getElem?_eq_some] at hmem
    have hk : y.1 = k := h y.1 k y.2 r hmem hr (by rw [hkey]; simpa using hkey')
    rw [hk, hr] at hmem
    rw [hy]
    exact congrArg some (Prod.ext hk (Option.some.inj hmem).symm)

omit [DecidableEq κ]

/-- The journal of the writes to a table with unique keys. -/
structure KeyJournaled (R : Revocable ρ φ) (key : φ → κ) (t : Table ρ)
    (journal : List (RowWrite φ)) : Prop extends R.Journaled t journal where
  unique : R.UniqueKeys key t

theorem keyJournaled_empty : R.KeyJournaled key ∅ [] := ⟨journaled_empty, uniqueKeys_empty⟩

theorem KeyJournaled.other (h : R.KeyJournaled key t journal) :
    R.KeyJournaled key t (journal ++ [.other]) :=
  ⟨h.toJournaled.other, h.unique⟩

theorem KeyJournaled.insert (h : R.KeyJournaled key t journal) (hk : k ∉ t)
    (hkey : R.KeyFree key t (key (R.fixed r))) (hlive : R.revoked r = false) :
    R.KeyJournaled key (t.insert k r) (journal ++ [.inserted k (R.fixed r)]) :=
  ⟨h.toJournaled.insert hk hlive, h.unique.insert hk hkey⟩

theorem KeyJournaled.revoke (h : R.KeyJournaled key t journal) (hr : t[k]? = some r)
    (hfixed : R.fixed r' = R.fixed r) (hrevoked : R.revoked r' = true) :
    R.KeyJournaled key (t.insert k r') (journal ++ [.revoked k]) :=
  ⟨h.toJournaled.revoke hr hfixed hrevoked, h.unique.write hr hfixed⟩

theorem KeyJournaled.update (h : R.KeyJournaled key t journal) (hr : t[k]? = some r)
    (hfixed : R.fixed r' = R.fixed r) (hrevoked : R.revoked r' = R.revoked r) :
    R.KeyJournaled key (t.insert k r') (journal ++ [.other]) :=
  ⟨h.toJournaled.update hr hfixed hrevoked, h.unique.write hr hfixed⟩

/-- A row with the columns is found and not revoked exactly if the journal has its insertion
    and no revocation of it. -/
theorem KeyJournaled.usable_iff [DecidableEq κ] (h : R.KeyJournaled key t journal)
    {columns : φ} :
    (∃ r, R.find key t (key columns) = some (k, r) ∧ R.fixed r = columns ∧
      R.revoked r = false) ↔ .inserted k columns ∈ journal ∧ .revoked k ∉ journal := by
  rw [← h.toJournaled.live_iff]
  refine exists_congr fun r => ?_
  rw [h.unique.find_iff, and_assoc]
  refine and_congr_right fun _ => ⟨fun hrow => hrow.2, fun hrow => ⟨by rw [hrow.1], hrow⟩⟩

end Revocable
