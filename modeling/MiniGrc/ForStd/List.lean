import Mathlib.Data.List.Induction
import Mathlib.Data.List.Sort

/-!
# List lemmas

What a stable sort does to the elements that satisfy a predicate, what a condition on
each element and the elements before it asks of the last element, the last element that a
partial function takes, lists with a separator, neighbours in a list in increasing order, and
the first element of each key.
-/

namespace List

variable {α : Type} {r : α → α → Prop} [DecidableRel r] {p : α → Bool} {l : List α}

/-- If the elements satisfying `p` stand in order already, sorting the list does not
    change the order among them. -/
theorem filter_insertionSort (h : (l.filter p).Pairwise r) :
    (l.insertionSort r).filter p = l.filter p := by
  have hsub : l.filter p <+ l.insertionSort r := sublist_insertionSort h filter_sublist
  have hsub' : (l.filter p).filter p <+ (l.insertionSort r).filter p := hsub.filter p
  simp only [filter_filter, Bool.and_self] at hsub'
  exact (hsub'.eq_of_length ((perm_insertionSort r l).filter p).length_eq.symm).symm

/-- A stable insertion into a list in order puts an element that satisfies `p` where it would go
    among the others that do. -/
theorem filter_orderedInsert [IsTrans α r] {a : α} (h : l.Pairwise r) :
    (l.orderedInsert r a).filter p =
      if p a then (l.filter p).orderedInsert r a else l.filter p := by
  induction l with
  | nil => simp [filter_cons]
  | cons b l ih =>
    obtain ⟨hb, hl⟩ := pairwise_cons.1 h
    by_cases hab : r a b
    · rw [orderedInsert_cons_of_le r l hab, filter_cons]
      refine if_congr Iff.rfl ?_ rfl
      have hall : ∀ c ∈ (b :: l).filter p, r a c := by
        intro c hc
        rcases mem_cons.1 (mem_filter.1 hc).1 with rfl | hc
        · exact hab
        · exact IsTrans.trans a b c hab (hb c hc)
      cases hfilter : (b :: l).filter p with
      | nil => rfl
      | cons c m =>
        rw [hfilter] at hall
        exact (orderedInsert_cons_of_le r m (hall c mem_cons_self)).symm
    · rw [orderedInsert_of_not_le r l hab, filter_cons, ih hl, filter_cons]
      by_cases hpb : p b
      · rw [if_pos hpb, if_pos hpb, orderedInsert_of_not_le r _ hab]
        split <;> rfl
      · rw [if_neg hpb, if_neg hpb]

/-- A stable sort and a filter can change places. -/
theorem filter_insertionSort_comm [IsTrans α r] [Std.Total r] :
    (l.insertionSort r).filter p = (l.filter p).insertionSort r := by
  induction l with
  | nil => rfl
  | cons a l ih =>
    rw [insertionSort_cons, filter_orderedInsert (pairwise_insertionSort r l), ih, filter_cons]
    split
    · exact (insertionSort_cons r a _).symm
    · rfl

/-- What is taken of each element stands in the order of the elements. -/
theorem map_filterMap_sublist {β γ : Type} {f : α → Option β} {g : β → γ} {k : α → γ}
    (h : ∀ a ∈ l, ∀ b, f a = some b → g b = k a) : (l.filterMap f).map g <+ l.map k := by
  induction l with
  | nil => exact .slnil
  | cons a l ih =>
    have ih := ih fun a ha => h a (mem_cons_of_mem _ ha)
    cases hf : f a with
    | none =>
      rw [filterMap_cons_none hf]
      exact ih.cons _
    | some b =>
      rw [filterMap_cons_some hf, map_cons, h a mem_cons_self b hf]
      exact ih.cons_cons _

/-- A condition on every element and the elements before it, taken apart at the end. -/
theorem forall_split_snoc {Q : List α → α → Prop} {a : α} :
    (∀ p x post, l ++ [a] = p ++ x :: post → Q p x) ↔
      (∀ p x post, l = p ++ x :: post → Q p x) ∧ Q l a := by
  constructor
  · intro h
    exact ⟨fun p x post hl => h p x (post ++ [a]) (by simp [hl]), h l a [] rfl⟩
  · rintro ⟨hl, ha⟩ p x post hsplit
    rcases eq_nil_or_concat post with rfl | ⟨post, y, rfl⟩
    · obtain ⟨rfl, hlast⟩ := append_inj' hsplit rfl
      obtain rfl := (cons.inj hlast).1
      exact ha
    · rw [concat_eq_append, ← cons_append, ← append_assoc] at hsplit
      obtain ⟨heq, -⟩ := append_inj' hsplit rfl
      exact hl p x post heq

/-- Where the last value of a partial function on a list comes from. -/
theorem exists_of_getLast?_filterMap {β : Type} {f : α → Option β} {b : β}
    (h : (l.filterMap f).getLast? = some b) :
    ∃ pre a post, l = pre ++ a :: post ∧ f a = some b ∧ ∀ x ∈ post, f x = none := by
  induction l using List.reverseRecOn with
  | nil => cases h
  | append_singleton l a ih =>
    rw [filterMap_append] at h
    cases ha : f a with
    | some b' =>
      obtain rfl : b' = b := by simpa [ha] using h
      exact ⟨l, a, [], rfl, ha, fun x hx => absurd hx not_mem_nil⟩
    | none =>
      obtain ⟨pre, a', post, rfl, ha', hpost⟩ := ih (by simpa [ha] using h)
      refine ⟨pre, a', post ++ [a], by simp, ha', fun x hx => ?_⟩
      rcases mem_append.1 hx with hx | hx
      · exact hpost x hx
      · obtain rfl := mem_singleton.1 hx
        exact ha

/-- Two lists with a separator that does not occur before it have the same parts. -/
theorem separated_inj {α : Type} {c : α} {x x' z z' : List α} (hx : c ∉ x) (hx' : c ∉ x')
    (h : x ++ c :: z = x' ++ c :: z') : x = x' ∧ z = z' := by
  induction x generalizing x' with
  | nil =>
    cases x' with
    | nil => exact ⟨rfl, (List.cons.inj h).2⟩
    | cons d x' => exact absurd (List.cons.inj h).1 fun hd => hx' (hd ▸ List.mem_cons_self)
  | cons d x ih =>
    cases x' with
    | nil => exact absurd (List.cons.inj h).1 fun hd => hx (hd ▸ List.mem_cons_self)
    | cons d' x' =>
      obtain ⟨rfl, htail⟩ := List.cons.inj h
      obtain ⟨rfl, hz⟩ := ih (fun hm => hx (List.mem_cons_of_mem _ hm))
        (fun hm => hx' (List.mem_cons_of_mem _ hm)) htail
      exact ⟨rfl, hz⟩

/-- Of the elements of a list with distinct keys, one has the key of an element. -/
theorem filter_key_eq_singleton {γ : Type} [DecidableEq γ] {f : α → γ} {a : α}
    (h : l.Pairwise fun x y => f x ≠ f y) (ha : a ∈ l) : l.filter (fun x => f x = f a) = [a] := by
  induction l with
  | nil => cases ha
  | cons b l ih =>
    rw [pairwise_cons] at h
    rcases mem_cons.1 ha with rfl | ha
    · have hnone : l.filter (fun x => f x = f a) = [] :=
        filter_eq_nil_iff.2 fun x hx => by simpa using (h.1 x hx).symm
      rw [filter_cons_of_pos (by simp), hnone]
    · rw [filter_cons_of_neg (by simpa using h.1 a ha), ih h.2 ha]

/-! ## Neighbours in a list in increasing order -/

section Increasing

variable {β : Type} [LinearOrder β]

/-- In a list in increasing order, two elements stand next to each other exactly if no key
    lies between theirs. -/
theorem mem_zip_tail_iff {f : α → β} {l : List α} (h : l.Pairwise fun x y => f x < f y) {a b : α} :
    (a, b) ∈ l.zip l.tail ↔
      a ∈ l ∧ b ∈ l ∧ f a < f b ∧ ∀ x ∈ l, f x ≤ f a ∨ f b ≤ f x := by
  induction l with
  | nil => simp
  | cons x l ih =>
    rw [pairwise_cons] at h
    cases l with
    | nil =>
      simp only [tail_cons, zip_nil_right, not_mem_nil, mem_singleton, false_iff]
      rintro ⟨rfl, rfl, hlt, -⟩
      exact lt_irrefl _ hlt
    | cons y l =>
      have ih := ih h.2
      have hy : ∀ z ∈ y :: l, f y ≤ f z := by
        intro z hz
        rcases mem_cons.1 hz with rfl | hz
        · exact le_rfl
        · exact ((pairwise_cons.1 h.2).1 z hz).le
      rw [tail_cons] at ih ⊢
      rw [zip_cons_cons, mem_cons, ih]
      constructor
      · rintro (heq | ⟨ha, hb, hlt, hgap⟩)
        · obtain ⟨rfl, rfl⟩ := Prod.mk.inj heq
          refine ⟨mem_cons_self, mem_cons_of_mem _ mem_cons_self, h.1 _ mem_cons_self, ?_⟩
          intro z hz
          rcases mem_cons.1 hz with rfl | hz
          · exact .inl le_rfl
          · exact .inr (hy z hz)
        · refine ⟨mem_cons_of_mem _ ha, mem_cons_of_mem _ hb, hlt, ?_⟩
          intro z hz
          rcases mem_cons.1 hz with rfl | hz
          · exact .inl (h.1 a ha).le
          · exact hgap z hz
      · rintro ⟨ha, hb, hlt, hgap⟩
        have hb' : b ∈ y :: l := by
          rcases mem_cons.1 hb with rfl | hb
          · -- no key is less than the first one
            rcases mem_cons.1 ha with rfl | ha
            · exact absurd hlt (lt_irrefl _)
            · exact absurd hlt (h.1 a ha).asymm
          · exact hb
        rcases mem_cons.1 ha with rfl | ha
        · refine .inl ?_
          rcases hgap y (mem_cons_of_mem _ mem_cons_self) with hle | hle
          · exact absurd hle (h.1 y mem_cons_self).not_ge
          · rcases mem_cons.1 hb' with rfl | hbl
            · rfl
            · exact absurd hle ((pairwise_cons.1 h.2).1 b hbl).not_ge
        · exact .inr ⟨ha, hb', hlt, fun z hz => hgap z (mem_cons_of_mem _ hz)⟩

/-- The last element of a list in increasing order is the greatest. -/
theorem mem_getLast?_iff {f : α → β} {l : List α} (h : l.Pairwise fun x y => f x < f y) {a : α} :
    l.getLast? = some a ↔ a ∈ l ∧ ∀ x ∈ l, f x ≤ f a := by
  induction l using List.reverseRecOn with
  | nil => simp
  | append_singleton l b _ =>
    rw [pairwise_append] at h
    rw [getLast?_concat, Option.some_inj]
    constructor
    · rintro rfl
      refine ⟨by simp, fun x hx => ?_⟩
      rcases mem_append.1 hx with hx | hx
      · exact (h.2.2 x hx b mem_cons_self).le
      · rw [mem_singleton.1 hx]
    · rintro ⟨ha, hmax⟩
      rcases mem_append.1 ha with ha | ha
      · exact absurd (hmax b (by simp)) (h.2.2 a ha b mem_cons_self).not_ge
      · exact (mem_singleton.1 ha).symm

/-- The elements but the last one, paired with the next, and the last one. -/
theorem map_fst_zip_tail (l : List α) : (l.zip l.tail).map Prod.fst = l.dropLast := by
  induction l with
  | nil => rfl
  | cons x l ih =>
    cases l with
    | nil => rfl
    | cons y l =>
      rw [tail_cons] at ih ⊢
      rw [zip_cons_cons, map_cons, ih, dropLast_cons_cons]

end Increasing

/-! ## The first element of each key -/

section FirstOfEachKey

variable {κ : Type} [DecidableEq κ] {key : α → κ} {seen : List κ}

/-- The elements whose key has not been seen, nor belongs to an earlier element. -/
def firstBy (key : α → κ) : List κ → List α → List α
  | _, [] => []
  | seen, a :: l =>
    if key a ∈ seen then firstBy key seen l else a :: firstBy key (seen ++ [key a]) l

/-- An element that is left stands behind none of its key. -/
theorem mem_firstBy_iff {a : α} : a ∈ firstBy key seen l ↔
    key a ∉ seen ∧ ∃ pre post, l = pre ++ a :: post ∧ ∀ x ∈ pre, key x ≠ key a := by
  induction l generalizing seen with
  | nil => simp [firstBy]
  | cons b l ih =>
    rw [firstBy]
    split
    · next hseen =>
      rw [ih]
      refine and_congr_right fun ha => ?_
      constructor
      · rintro ⟨pre, post, rfl, hpre⟩
        refine ⟨b :: pre, post, rfl, fun x hx => ?_⟩
        rcases mem_cons.1 hx with rfl | hx
        · exact fun heq => ha (heq ▸ hseen)
        · exact hpre x hx
      · rintro ⟨pre, post, hl, hpre⟩
        cases pre with
        | nil => exact absurd ((cons.inj hl).1 ▸ hseen) ha
        | cons c pre =>
          exact ⟨pre, post, (cons.inj hl).2, fun x hx => hpre x (mem_cons_of_mem _ hx)⟩
    · next hseen =>
      rw [mem_cons, ih, mem_append, mem_singleton, not_or]
      constructor
      · rintro (rfl | ⟨⟨ha, hne⟩, pre, post, rfl, hpre⟩)
        · exact ⟨hseen, [], l, rfl, fun x hx => absurd hx not_mem_nil⟩
        · refine ⟨ha, b :: pre, post, rfl, fun x hx => ?_⟩
          rcases mem_cons.1 hx with rfl | hx
          · exact Ne.symm hne
          · exact hpre x hx
      · rintro ⟨ha, pre, post, hl, hpre⟩
        cases pre with
        | nil => exact .inl (cons.inj hl).1.symm
        | cons c pre =>
          obtain ⟨rfl, rfl⟩ := cons.inj hl
          exact .inr ⟨⟨ha, Ne.symm (hpre b mem_cons_self)⟩, pre, post, rfl,
            fun x hx => hpre x (mem_cons_of_mem _ hx)⟩

/-- The keys that are left are those that have not been seen. -/
theorem mem_map_firstBy_iff {k : κ} :
    k ∈ (firstBy key seen l).map key ↔ k ∈ l.map key ∧ k ∉ seen := by
  induction l generalizing seen with
  | nil => simp [firstBy]
  | cons a l ih =>
    rw [firstBy]
    split
    · next hseen =>
      rw [ih, map_cons, mem_cons]
      constructor
      · exact fun h => ⟨.inr h.1, h.2⟩
      · exact fun h => ⟨h.1.resolve_left fun heq => h.2 (heq ▸ hseen), h.2⟩
    · next hseen =>
      rw [map_cons, map_cons, mem_cons, mem_cons, ih, mem_append, mem_singleton]
      constructor
      · rintro (rfl | ⟨hk, hnew⟩)
        · exact ⟨.inl rfl, hseen⟩
        · exact ⟨.inr hk, fun h => hnew (.inl h)⟩
      · rintro ⟨rfl | hk, hnew⟩
        · exact .inl rfl
        · by_cases heq : k = key a
          · exact .inl heq
          · exact .inr ⟨hk, not_or.2 ⟨hnew, heq⟩⟩

/-- One element of each key is left. -/
theorem nodup_map_firstBy : ((firstBy key seen l).map key).Nodup := by
  induction l generalizing seen with
  | nil => exact nodup_nil
  | cons a l ih =>
    rw [firstBy]
    split
    · exact ih
    · rw [map_cons, nodup_cons]
      refine ⟨fun h => ?_, ih⟩
      exact (mem_map_firstBy_iff.1 h).2 (mem_append_right _ (mem_singleton_self _))

/-- Nothing is left of elements whose keys have been seen. -/
theorem firstBy_eq_nil (h : ∀ a ∈ l, key a ∈ seen) : firstBy key seen l = [] := by
  induction l with
  | nil => rfl
  | cons a l ih =>
    rw [firstBy, if_pos (h a mem_cons_self)]
    exact ih fun x hx => h x (mem_cons_of_mem _ hx)

end FirstOfEachKey

end List
