import Mathlib.Data.List.Nodup

/-!
# Dictionaries

A dictionary lists its items in the order in which their keys were first set. A list of
items with distinct keys is the list of the items of the dictionary that is made of it.
-/

/-- Values by key. -/
structure Dict (κ α : Type) where
  items : List (κ × α)
  nodup_keys : (items.map Prod.fst).Nodup

namespace Dict

variable {κ α : Type} [DecidableEq κ] {d : Dict κ α} {k k' : κ} {a a' : α} {l : List (κ × α)}

/-- The dictionary without items. -/
def empty : Dict κ α := ⟨[], List.nodup_nil⟩

/-- The value under a key. -/
def get? (d : Dict κ α) (k : κ) : Option α := (d.items.find? fun x => x.1 = k).map Prod.snd

/-- The item, with the value in place of the one under its key. -/
def replace (k : κ) (a : α) (item : κ × α) : κ × α := if item.1 = k then (k, a) else item

theorem map_fst_replace (l : List (κ × α)) :
    (l.map (replace k a)).map Prod.fst = l.map Prod.fst := by
  rw [List.map_map]
  refine List.map_congr_left fun x _ => ?_
  simp only [Function.comp_apply, replace]
  split
  · next h => exact h.symm
  · rfl

omit [DecidableEq κ] in
theorem nodup_append_item (hl : (l.map Prod.fst).Nodup) (h : k ∉ l.map Prod.fst) :
    ((l ++ [(k, a)]).map Prod.fst).Nodup := by
  rw [List.map_append]
  refine hl.append (List.nodup_singleton _) fun x hx hx' => ?_
  obtain rfl : x = k := List.mem_singleton.1 hx'
  exact h hx

/-- Sets the value under a key, which keeps its place. -/
def set (d : Dict κ α) (k : κ) (a : α) : Dict κ α :=
  if h : k ∈ d.items.map Prod.fst then
    ⟨d.items.map (replace k a), by rw [map_fst_replace]; exact d.nodup_keys⟩
  else
    ⟨d.items ++ [(k, a)], nodup_append_item d.nodup_keys h⟩

/-- The dictionary that items make, one after the other. -/
def ofList (l : List (κ × α)) : Dict κ α := l.foldl (fun d x => d.set x.1 x.2) empty

/-! ## Values -/

theorem get?_eq_some_iff : d.get? k = some a ↔ (k, a) ∈ d.items := by
  unfold get?
  constructor
  · intro h
    obtain ⟨⟨k', a'⟩, hfind, rfl⟩ := Option.map_eq_some_iff.1 h
    obtain rfl : k' = k := by simpa using List.find?_some hfind
    exact List.mem_of_find?_eq_some hfind
  · intro h
    cases hfind : d.items.find? fun x => x.1 = k with
    | none =>
      have hne := List.find?_eq_none.1 hfind _ h
      simp at hne
    | some x =>
      have hkey : x.1 = k := by simpa using List.find?_some hfind
      have heq : x = (k, a) :=
        List.inj_on_of_nodup_map d.nodup_keys (List.mem_of_find?_eq_some hfind) h hkey
      rw [heq]
      rfl

/-- The items after a value has been set. -/
theorem mem_set_items : (k', a') ∈ (d.set k a).items ↔
    k' = k ∧ a' = a ∨ k' ≠ k ∧ (k', a') ∈ d.items := by
  unfold set
  split
  · next hk =>
    simp only [List.mem_map, replace]
    constructor
    · rintro ⟨item, hitem, heq⟩
      split at heq
      · obtain ⟨rfl, rfl⟩ := Prod.mk.inj heq
        exact .inl ⟨rfl, rfl⟩
      · next hne =>
        obtain rfl := heq
        exact .inr ⟨hne, hitem⟩
    · rintro (⟨rfl, rfl⟩ | ⟨hne, hitem⟩)
      · obtain ⟨item, hitem, hkey⟩ := List.mem_map.1 hk
        exact ⟨item, hitem, if_pos hkey⟩
      · exact ⟨(k', a'), hitem, if_neg hne⟩
  · next hk =>
    rw [List.mem_append, List.mem_singleton, Prod.mk.injEq]
    constructor
    · rintro (hitem | heq)
      · refine .inr ⟨?_, hitem⟩
        rintro rfl
        exact hk (List.mem_map_of_mem (f := Prod.fst) hitem)
      · exact .inl heq
    · rintro (heq | ⟨-, hitem⟩)
      · exact .inr heq
      · exact .inl hitem

/-- The values after a value has been set. -/
theorem get?_set : (d.set k a).get? k' = if k' = k then some a else d.get? k' := by
  ext a'
  rw [get?_eq_some_iff, mem_set_items]
  split
  · next h => simp [h, @eq_comm _ a]
  · next h => simp [h, get?_eq_some_iff]

/-! ## Dictionaries of items with distinct keys -/

theorem set_items (h : k ∉ d.items.map Prod.fst) : (d.set k a).items = d.items ++ [(k, a)] := by
  rw [set, dif_neg h]

theorem foldl_set_items (h : ((d.items ++ l).map Prod.fst).Nodup) :
    (l.foldl (fun d x => d.set x.1 x.2) d).items = d.items ++ l := by
  induction l generalizing d with
  | nil => exact (List.append_nil _).symm
  | cons x l ih =>
    have hnew : x.1 ∉ d.items.map Prod.fst := by
      rw [List.map_append, List.nodup_append'] at h
      exact fun hx => h.2.2 hx (by simp)
    have hset : (d.set x.1 x.2).items = d.items ++ [x] := set_items hnew
    rw [List.foldl_cons, ih (by rwa [hset, List.append_assoc]), hset, List.append_assoc]
    rfl

/-- Items with distinct keys stay as they are. -/
theorem ofList_items (h : (l.map Prod.fst).Nodup) : (ofList l).items = l := foldl_set_items h

end Dict
