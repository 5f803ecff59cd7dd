import Mathlib.Computability.Language

/-!
# Regular expressions

Regular expressions over classes of characters, with their language and a search by
derivatives.

## Key results

- `Regex.search_iff`: a search succeeds exactly if a part of the text is in the language
-/

open scoped Computability

/-- A regular expression. -/
inductive Regex (α : Type)
  | empty
  | eps
  | sat (p : α → Bool)
  | alt (r s : Regex α)
  | cat (r s : Regex α)
  | star (r : Regex α)

namespace Regex

variable {α : Type} {r s : Regex α} {a : α} {w : List α}

/-- The words that an expression describes. -/
def language : Regex α → Language α
  | empty => 0
  | eps => 1
  | sat p => {w | ∃ a, p a = true ∧ w = [a]}
  | alt r s => r.language + s.language
  | cat r s => r.language * s.language
  | star r => r.language∗

/-- Whether the empty word is one of them. -/
def nullable : Regex α → Bool
  | empty => false
  | eps => true
  | sat _ => false
  | alt r s => r.nullable || s.nullable
  | cat r s => r.nullable && s.nullable
  | star _ => true

/-- `alt`, without an empty side. -/
def mkAlt : Regex α → Regex α → Regex α
  | empty, s => s
  | r, empty => r
  | r, s => alt r s

/-- `cat`, without an empty side or a trivial first. -/
def mkCat : Regex α → Regex α → Regex α
  | empty, _ => empty
  | eps, s => s
  | r, s => cat r s

/-- What is left of the words that begin with `a`. -/
def deriv (a : α) : Regex α → Regex α
  | empty => empty
  | eps => empty
  | sat p => if p a then eps else empty
  | alt r s => mkAlt (r.deriv a) (s.deriv a)
  | cat r s =>
    if r.nullable then mkAlt (mkCat (r.deriv a) s) (s.deriv a) else mkCat (r.deriv a) s
  | star r => mkCat (r.deriv a) (star r)

/-- Whether the text begins with a word. -/
def begins (r : Regex α) : List α → Bool
  | [] => r.nullable
  | a :: w => r.nullable || (r.deriv a).begins w

/-- Whether a word stands somewhere in the text. -/
def search (r : Regex α) : List α → Bool
  | [] => r.nullable
  | a :: w => r.begins (a :: w) || r.search w

/-- `r{n}`. -/
def times (r : Regex α) : Nat → Regex α
  | 0 => eps
  | n + 1 => cat r (r.times n)

/-- `r{n,}`. -/
def atLeast (r : Regex α) (n : Nat) : Regex α := cat (r.times n) (star r)

/-- `r?`. -/
def opt (r : Regex α) : Regex α := alt r eps

/-- One expression after the other. -/
def seq : List (Regex α) → Regex α
  | [] => eps
  | [r] => r
  | r :: rs => cat r (seq rs)

/-- Any of the expressions. -/
def any : List (Regex α) → Regex α
  | [] => empty
  | [r] => r
  | r :: rs => alt r (any rs)

/-! ## The language -/

theorem nullable_iff : r.nullable = true ↔ [] ∈ r.language := by
  induction r with
  | empty => simp [nullable, language, Language.notMem_zero]
  | eps => simp [nullable, language]
  | sat p =>
    constructor
    · exact fun h => by cases h
    · rintro ⟨a, -, h⟩
      cases h
  | alt r s ihr ihs =>
    rw [nullable, Bool.or_eq_true, ihr, ihs, language, Language.mem_add]
  | cat r s ihr ihs =>
    rw [nullable, Bool.and_eq_true, ihr, ihs, language, Language.mem_mul]
    constructor
    · exact fun ⟨hr, hs⟩ => ⟨[], hr, [], hs, rfl⟩
    · rintro ⟨u, hu, v, hv, huv⟩
      obtain ⟨rfl, rfl⟩ := List.append_eq_nil_iff.1 huv
      exact ⟨hu, hv⟩
  | star r => simp [nullable, language, Language.nil_mem_kstar]

/-- A word of a product that begins with `a` takes it from the first factor, or the first
    factor has the empty word. -/
theorem cons_mem_mul {l m : Language α} : a :: w ∈ l * m ↔
    (∃ u v, a :: u ∈ l ∧ v ∈ m ∧ u ++ v = w) ∨ [] ∈ l ∧ a :: w ∈ m := by
  rw [Language.mem_mul]
  constructor
  · rintro ⟨u, hu, v, hv, huv⟩
    cases u with
    | nil => exact .inr ⟨hu, huv ▸ hv⟩
    | cons b u =>
      obtain ⟨rfl, hw⟩ := List.cons.inj huv
      exact .inl ⟨u, v, hu, hv, hw⟩
  · rintro (⟨u, v, hu, hv, rfl⟩ | ⟨hnil, hw⟩)
    · exact ⟨a :: u, hu, v, hv, rfl⟩
    · exact ⟨[], hnil, a :: w, hw, rfl⟩

/-- A word of a repetition that begins with `a` begins with a word of the repeated language. -/
theorem cons_mem_kstar {l : Language α} : a :: w ∈ l∗ ↔
    ∃ u v, a :: u ∈ l ∧ v ∈ l∗ ∧ u ++ v = w := by
  constructor
  · intro h
    obtain ⟨parts, hparts, hmem⟩ := Language.mem_kstar_iff_exists_nonempty.1 h
    cases parts with
    | nil => cases hparts
    | cons part parts =>
      obtain ⟨hpart, hne⟩ := hmem part List.mem_cons_self
      cases part with
      | nil => exact absurd rfl hne
      | cons b u =>
        obtain ⟨rfl, hw⟩ := List.cons.inj hparts
        refine ⟨u, parts.flatten, hpart, Language.join_mem_kstar fun y hy => ?_, hw.symm⟩
        exact (hmem y (List.mem_cons_of_mem _ hy)).1
  · rintro ⟨u, v, hu, hv, rfl⟩
    obtain ⟨parts, rfl, hmem⟩ := Language.mem_kstar.1 hv
    refine Language.mem_kstar.2 ⟨(a :: u) :: parts, rfl, fun y hy => ?_⟩
    rcases List.mem_cons.1 hy with rfl | hy
    · exact hu
    · exact hmem y hy

@[simp] theorem language_mkAlt : (mkAlt r s).language = r.language + s.language := by
  unfold mkAlt
  split
  · exact (zero_add _).symm
  · exact (add_zero _).symm
  · rfl

@[simp] theorem language_mkCat : (mkCat r s).language = r.language * s.language := by
  unfold mkCat
  split
  · exact (zero_mul _).symm
  · exact (one_mul _).symm
  · rfl

theorem mem_language_deriv : w ∈ (r.deriv a).language ↔ a :: w ∈ r.language := by
  induction r generalizing w with
  | empty => rfl
  | eps => simp [deriv, language, Language.notMem_zero, Language.mem_one]
  | sat p =>
    rw [deriv]
    split
    · next hp =>
      constructor
      · rintro rfl
        exact ⟨a, hp, rfl⟩
      · rintro ⟨b, -, h⟩
        exact (List.cons.inj h).2
    · next hp =>
      refine ⟨fun h => absurd h (Language.notMem_zero w), ?_⟩
      rintro ⟨b, hb, h⟩
      exact absurd ((List.cons.inj h).1 ▸ hb) hp
  | alt r s ihr ihs =>
    rw [deriv, language_mkAlt, Language.mem_add, ihr, ihs, language, Language.mem_add]
  | cat r s ihr ihs =>
    have hcat : w ∈ (r.deriv a).language * s.language ↔
        ∃ u v, a :: u ∈ r.language ∧ v ∈ s.language ∧ u ++ v = w := by
      rw [Language.mem_mul]
      constructor
      · rintro ⟨u, hu, v, hv, huv⟩
        exact ⟨u, v, ihr.1 hu, hv, huv⟩
      · rintro ⟨u, v, hu, hv, huv⟩
        exact ⟨u, ihr.2 hu, v, hv, huv⟩
    rw [deriv, language, cons_mem_mul, ← nullable_iff]
    split
    · next hnull =>
      rw [language_mkAlt, language_mkCat, Language.mem_add, hcat, ihs, and_iff_right hnull]
    · next hnull => rw [language_mkCat, hcat, or_iff_left fun h => hnull h.1]
  | star r ih =>
    rw [deriv, language_mkCat, language, cons_mem_kstar, Language.mem_mul]
    constructor
    · rintro ⟨u, hu, v, hv, huv⟩
      exact ⟨u, v, ih.1 hu, hv, huv⟩
    · rintro ⟨u, v, hu, hv, huv⟩
      exact ⟨u, ih.2 hu, v, hv, huv⟩

/-! ## The search -/

theorem begins_iff : r.begins w = true ↔ ∃ u v, u ++ v = w ∧ u ∈ r.language := by
  induction w generalizing r with
  | nil =>
    rw [begins, nullable_iff]
    constructor
    · exact fun h => ⟨[], [], rfl, h⟩
    · rintro ⟨u, v, huv, hu⟩
      obtain ⟨rfl, -⟩ := List.append_eq_nil_iff.1 huv
      exact hu
  | cons a w ih =>
    rw [begins, Bool.or_eq_true, nullable_iff, ih]
    constructor
    · rintro (h | ⟨u, v, rfl, hu⟩)
      · exact ⟨[], a :: w, rfl, h⟩
      · exact ⟨a :: u, v, rfl, mem_language_deriv.1 hu⟩
    · rintro ⟨u, v, huv, hu⟩
      cases u with
      | nil => exact .inl hu
      | cons b u =>
        obtain ⟨rfl, hw⟩ := List.cons.inj huv
        exact .inr ⟨u, v, hw, mem_language_deriv.2 hu⟩

/-- A search succeeds exactly if a part of the text is in the language. -/
theorem search_iff : r.search w = true ↔ ∃ before found after,
    before ++ found ++ after = w ∧ found ∈ r.language := by
  induction w with
  | nil =>
    rw [search, nullable_iff]
    constructor
    · exact fun h => ⟨[], [], [], rfl, h⟩
    · rintro ⟨before, found, after, heq, hfound⟩
      obtain ⟨heq, -⟩ := List.append_eq_nil_iff.1 heq
      obtain ⟨-, rfl⟩ := List.append_eq_nil_iff.1 heq
      exact hfound
  | cons a w ih =>
    rw [search, Bool.or_eq_true, begins_iff, ih]
    constructor
    · rintro (⟨u, v, huv, hu⟩ | ⟨before, found, after, heq, hfound⟩)
      · exact ⟨[], u, v, huv, hu⟩
      · exact ⟨a :: before, found, after, congrArg (a :: ·) heq, hfound⟩
    · rintro ⟨before, found, after, heq, hfound⟩
      cases before with
      | nil => exact .inl ⟨found, after, heq, hfound⟩
      | cons b before => exact .inr ⟨before, found, after, (List.cons.inj heq).2, hfound⟩

end Regex
