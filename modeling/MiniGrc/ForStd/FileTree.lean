import Std.Data.ExtTreeMap
import Mathlib.Data.List.Basic
import Mathlib.Logic.Function.Basic

/-!
# Directories of files

Finitely many directories `δ`, each with files under names `κ`. `move` is a rename as on
POSIX: it replaces a file that has the name in the target directory. Files may carry a
tag that tells them apart, whatever happens to their names; the lemmas on `AtMostOnce` and
`Located` say when a tagged file stays in exactly one place.

## Key results

- `AtMostOnce.put`, `AtMostOnce.move`: a tag is not found twice
- `Located.put`, `Located.move`: a tag is not lost, unless its file is replaced
-/

/-- The files of each directory, by name. -/
abbrev FileTree (δ κ φ : Type) [Ord κ] := δ → Std.ExtTreeMap κ φ

namespace FileTree

variable {δ κ φ τ : Type} [Ord κ] [Std.TransOrd κ]

/-- No files. -/
def empty : FileTree δ κ φ := fun _ => ∅

variable (t : FileTree δ κ φ)

/-- The file under a name. -/
def file (d : δ) (n : κ) : Option φ := (t d)[n]?

/-- The names in a directory, in order. -/
def names (d : δ) : List κ := (t d).keys

/-- How many files are in a directory. -/
def count (d : δ) : Nat := (t d).size

variable [DecidableEq δ]

/-- Write a file. -/
def put (d : δ) (n : κ) (f : φ) : FileTree δ κ φ := Function.update t d ((t d).insert n f)

/-- Take a file away. -/
def erase (d : δ) (n : κ) : FileTree δ κ φ := Function.update t d ((t d).erase n)

/-- Rename a file from one directory to another; it is `f` from then on. -/
def move (src dst : δ) (n : κ) (f : φ) : FileTree δ κ φ := (t.erase src n).put dst n f

variable {t} {d d' src dst : δ} {n m : κ} {f g : φ}

omit [DecidableEq δ] in
/-- The empty tree has no file. -/
@[simp] theorem file_empty : (empty : FileTree δ κ φ).file d n = none := by
  simp [empty, file]

variable [Std.LawfulEqOrd κ]

omit [DecidableEq δ] in
/-- The names of a directory are those of its files. -/
theorem mem_names : n ∈ t.names d ↔ (t.file d n).isSome := by
  rw [names, file, Std.ExtTreeMap.mem_keys, Std.ExtTreeMap.mem_iff_isSome_getElem?]

variable [DecidableEq κ]

/-- The file found after a file is put. -/
theorem file_put :
    (t.put d n f).file d' m = if d = d' ∧ n = m then some f else t.file d' m := by
  by_cases hd : d = d'
  · subst hd
    simp [put, file, Std.ExtTreeMap.getElem?_insert]
  · simp [put, file, hd, Function.update_of_ne (Ne.symm hd)]

/-- The file found after a file is erased. -/
theorem file_erase :
    (t.erase d n).file d' m = if d = d' ∧ n = m then none else t.file d' m := by
  by_cases hd : d = d'
  · subst hd
    simp [erase, file, Std.ExtTreeMap.getElem?_erase]
  · simp [erase, file, hd, Function.update_of_ne (Ne.symm hd)]

/-- The file found after a file is moved. -/
theorem file_move :
    (t.move src dst n f).file d' m =
      if dst = d' ∧ n = m then some f
      else if src = d' ∧ n = m then none else t.file d' m := by
  rw [move, file_put, file_erase]

/-- A file put is found. -/
theorem file_put_self : (t.put d n f).file d n = some f := by
  rw [file_put, if_pos ⟨rfl, rfl⟩]

/-- A file moved is found where it moved to. -/
theorem file_move_dst : (t.move src dst n f).file dst n = some f := by
  rw [file_move, if_pos ⟨rfl, rfl⟩]

/-- A file moved is gone from where it was. -/
theorem file_move_src (h : dst ≠ src) : (t.move src dst n f).file src n = none := by
  rw [file_move, if_neg fun hm => h hm.1, if_pos ⟨rfl, rfl⟩]

/-- Files of another name stay where they are. -/
theorem file_move_of_ne (h : n ≠ m) : (t.move src dst n f).file d' m = t.file d' m := by
  simp [file_move, h]

/-- Putting a file leaves the other names. -/
theorem file_put_of_ne (h : n ≠ m) : (t.put d n f).file d' m = t.file d' m := by
  simp [file_put, h]

/-! ## Numbers of files -/

omit [DecidableEq κ] [Std.LawfulEqOrd κ] in
/-- Putting a file leaves the count of the other directories. -/
theorem count_put_ne (h : d' ≠ d) : (t.put d n f).count d' = t.count d' := by
  simp [put, count, Function.update_of_ne h]

omit [DecidableEq κ] [Std.LawfulEqOrd κ] in
/-- A rename takes a file out of its directory. -/
theorem count_move_src (hfile : t.file src n = some g) (h : dst ≠ src) :
    (t.move src dst n f).count src + 1 = t.count src := by
  have hmem : n ∈ t src := Std.ExtTreeMap.mem_iff_isSome_getElem?.2 (Option.isSome_of_eq_some hfile)
  have hpos : 0 < (t src).size := by
    refine Nat.pos_of_ne_zero fun hzero => ?_
    rw [← Std.ExtTreeMap.eq_empty_iff_size_eq_zero] at hzero
    rw [hzero] at hmem
    exact Std.ExtTreeMap.not_mem_empty hmem
  rw [move, count_put_ne (Ne.symm h)]
  rw [erase, count, Function.update_self, Std.ExtTreeMap.size_erase,
    if_pos (Std.ExtTreeMap.mem_iff_contains.1 hmem), Nat.sub_add_cancel hpos, count]

omit [DecidableEq κ] [Std.LawfulEqOrd κ] in
/-- A move adds one file at most where it goes to. -/
theorem count_move_dst (h : dst ≠ src) :
    (t.move src dst n f).count dst ≤ t.count dst + 1 := by
  simp only [move, put, erase, count, Function.update_self, Function.update_of_ne h]
  exact Std.ExtTreeMap.size_insert_le

omit [DecidableEq κ] [Std.LawfulEqOrd κ] in
/-- A move leaves the count of the other directories. -/
theorem count_move_ne (hsrc : d ≠ src) (hdst : d ≠ dst) :
    (t.move src dst n f).count d = t.count d := by
  rw [move, count_put_ne hdst, erase, count, Function.update_of_ne hsrc, count]

/-! ## Tagged files -/

section Tags

variable (tag : φ → Option τ) (t)

/-- The file with the tag `x` is at the path. -/
def Holds (x : τ) (p : δ × κ) : Prop := ∃ f, t.file p.1 p.2 = some f ∧ tag f = some x

/-- No tag is found at two paths. -/
def AtMostOnce : Prop := ∀ x p q, t.Holds tag x p → t.Holds tag x q → p = q

/-- The file with the tag is somewhere. -/
def Located (x : τ) : Prop := ∃ p, t.Holds tag x p

end Tags

variable {tag : φ → Option τ} {x : τ} {p : δ × κ}

/-- A mark held after a file is put is the file's, or was held before. -/
theorem holds_put (h : (t.put d n f).Holds tag x p) :
    (p = (d, n) ∧ tag f = some x) ∨ t.Holds tag x p := by
  obtain ⟨g, hg, htag⟩ := h
  rw [file_put] at hg
  split at hg
  · next hp =>
    cases hg
    exact .inl ⟨Prod.ext hp.1.symm hp.2.symm, htag⟩
  · exact .inr ⟨g, hg, htag⟩

/-- A mark held after a move is the file's, or was held elsewhere. -/
theorem holds_move (h : (t.move src dst n g).Holds tag x p) :
    (p = (dst, n) ∧ tag g = some x) ∨ (t.Holds tag x p ∧ p ≠ (src, n)) := by
  obtain ⟨g', hg, htag⟩ := h
  rw [file_move] at hg
  split at hg
  · next hp =>
    cases hg
    exact .inl ⟨Prod.ext hp.1.symm hp.2.symm, htag⟩
  split at hg
  · cases hg
  · next hp =>
    refine .inr ⟨⟨g', hg, htag⟩, fun heq => ?_⟩
    rw [heq] at hp
    exact hp ⟨rfl, rfl⟩

/-- A new file whose tag is nowhere else. -/
theorem AtMostOnce.put (h : t.AtMostOnce tag)
    (hnew : ∀ x, tag f = some x → ∀ p, ¬ t.Holds tag x p) : (t.put d n f).AtMostOnce tag := by
  intro x p q hp hq
  obtain ⟨rfl, htag⟩ | hp := holds_put hp <;> obtain ⟨rfl, htag'⟩ | hq := holds_put hq
  · rfl
  · exact absurd hq (hnew x htag q)
  · exact absurd hp (hnew x htag' p)
  · exact h x p q hp hq

/-- A rename takes the tag along. -/
theorem AtMostOnce.move (h : t.AtMostOnce tag) (hfile : t.file src n = some f)
    (htag : tag g = tag f) : (t.move src dst n g).AtMostOnce tag := by
  have hsrc : ∀ x, tag g = some x → t.Holds tag x (src, n) := fun x hx =>
    ⟨f, hfile, htag.symm.trans hx⟩
  intro x p q hp hq
  obtain ⟨rfl, hx⟩ | ⟨hp, hne⟩ := holds_move hp <;> obtain ⟨rfl, hx'⟩ | ⟨hq, hne'⟩ := holds_move hq
  · rfl
  · exact absurd (h x q _ hq (hsrc x hx)) hne'
  · exact absurd (h x p _ hp (hsrc x hx')) hne
  · exact h x p q hp hq

/-- A file that is not replaced stays. -/
theorem Located.put (h : t.Located tag x)
    (hreplaced : ∀ g, t.file d n = some g → tag g ≠ some x) : (t.put d n f).Located tag x := by
  obtain ⟨⟨d', m⟩, g, hg, htag⟩ := h
  refine ⟨(d', m), g, ?_, htag⟩
  rw [file_put, if_neg, hg]
  rintro ⟨rfl, rfl⟩
  exact hreplaced g hg htag

/-- A file put has its mark located. -/
theorem located_put (htag : tag f = some x) : (t.put d n f).Located tag x :=
  ⟨(d, n), f, file_put_self, htag⟩

/-- A rename loses no file but the one that it replaces. -/
theorem Located.move (h : t.Located tag x) (hfile : t.file src n = some f) (htag : tag g = tag f)
    (hreplaced : ∀ f', t.file dst n = some f' → tag f' ≠ some x) :
    (t.move src dst n g).Located tag x := by
  obtain ⟨⟨d', m⟩, f', hf', hx⟩ := h
  by_cases hsrc : src = d' ∧ n = m
  · obtain ⟨rfl, rfl⟩ := hsrc
    cases hfile.symm.trans hf'
    exact ⟨(dst, n), g, file_move_dst, htag.trans hx⟩
  · refine ⟨(d', m), f', ?_, hx⟩
    rw [file_move, if_neg, if_neg hsrc, hf']
    rintro ⟨rfl, rfl⟩
    exact hreplaced f' hf' hx

end FileTree
