import Mathlib.Data.List.Basic

/-!
# Listings page by page

The keys of a store, in order, fetched page by page while the store changes. A page starts
after the last key of the pages before it, and holds the next keys that are in the store
when it is fetched. The listing ends with the page after which no key is left.

## Key results

- `Reached.page`: a key that is there all the time is not skipped
- `mem_page_of_isLast`: and is listed in the end
-/

namespace PagedListing

variable {κ : Type} [Ord κ]

/-- The keys that come after all listed ones. -/
def rest (keys listed : List κ) : List κ :=
  keys.filter fun k => listed.all fun x => compare x k = .lt

/-- The keys that are listed after the next page. -/
def page (keys listed : List κ) (size : Nat) : List κ := listed ++ (rest keys listed).take size

/-- The next page is the last one. -/
def IsLast (keys listed : List κ) (size : Nat) : Prop := (rest keys listed).length ≤ size

instance (keys listed : List κ) (size : Nat) : Decidable (IsLast keys listed size) :=
  inferInstanceAs (Decidable (_ ≤ _))

/-- The key is listed, or comes after all that are. -/
def Reached (listed : List κ) (k : κ) : Prop := k ∈ listed ∨ ∀ x ∈ listed, compare x k = .lt

variable {keys listed : List κ} {k : κ} {size : Nat}

theorem reached_nil : Reached [] k := .inr fun _ h => by cases h

theorem mem_rest : k ∈ rest keys listed ↔ k ∈ keys ∧ ∀ x ∈ listed, compare x k = .lt := by
  simp [rest]

/-- A key of the store is listed by now, or still comes after all listed ones. -/
theorem Reached.page (h : Reached listed k) (hsorted : keys.Pairwise fun x y => compare x y = .lt)
    (hk : k ∈ keys) : Reached (page keys listed size) k := by
  obtain hlisted | hafter := h
  · exact .inl (List.mem_append_left _ hlisted)
  have hrest : (rest keys listed).Pairwise fun x y => compare x y = .lt := hsorted.filter _
  have hmem : k ∈ (rest keys listed).take size ++ (rest keys listed).drop size := by
    rw [List.take_append_drop]
    exact mem_rest.2 ⟨hk, hafter⟩
  rw [← List.take_append_drop size (rest keys listed), List.pairwise_append] at hrest
  obtain hpage | hlater := List.mem_append.1 hmem
  · exact .inl (List.mem_append_right _ hpage)
  · refine .inr fun x hx => ?_
    obtain hx | hx := List.mem_append.1 hx
    · exact hafter x hx
    · exact hrest.2.2 x hx k hlater

/-- After the last page every key of the store that has been reached is listed. -/
theorem mem_page_of_isLast (h : Reached listed k) (hk : k ∈ keys)
    (hlast : IsLast keys listed size) : k ∈ page keys listed size := by
  obtain hlisted | hafter := h
  · exact List.mem_append_left _ hlisted
  · refine List.mem_append_right _ ?_
    rw [List.take_of_length_le hlast]
    exact mem_rest.2 ⟨hk, hafter⟩

end PagedListing
