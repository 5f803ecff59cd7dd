import MiniGrc.ForStd.Except

/-!
# Computations and the flaws of what they read

A computation that stops at the first flaw of its input, against the list of all the flaws
in the order of reading: rules by which the lists of the parts make up that of the whole.
The two need not use the same names for a flaw; they agree in which flaws are of a kind, that
`E` tells of the errors and `D` of the flaws.
-/

namespace List

variable {α β : Type} {f : List α → α → List β}

/-- What every element adds, given the elements before it. -/
def flatMapAfter (f : List α → α → List β) (before : List α) : List α → List β
  | [] => []
  | a :: l => f before a ++ flatMapAfter f (before ++ [a]) l

/-- Nothing is added if no element adds anything. -/
theorem flatMapAfter_eq_nil_iff {before l : List α} :
    flatMapAfter f before l = [] ↔
      ∀ pre a post, l = pre ++ a :: post → f (before ++ pre) a = [] := by
  induction l generalizing before with
  | nil => simp [flatMapAfter]
  | cons a l ih =>
    rw [flatMapAfter, append_eq_nil_iff, ih]
    constructor
    · rintro ⟨ha, hl⟩ pre b post heq
      cases pre with
      | nil =>
        obtain ⟨rfl, rfl⟩ := cons.inj heq
        rwa [append_nil]
      | cons c pre =>
        obtain ⟨rfl, rfl⟩ := cons.inj heq
        rw [append_cons]
        exact hl pre b post rfl
    · intro h
      refine ⟨by simpa using h [] a l rfl, fun pre b post heq => ?_⟩
      rw [append_assoc]
      exact h (a :: pre) b post (by rw [heq, cons_append])

/-- The elements may be mapped first. -/
theorem flatMapAfter_map {γ : Type} {g : γ → α} (before l : List γ) :
    flatMapAfter f (before.map g) (l.map g) =
      flatMapAfter (fun pre a => f (pre.map g) (g a)) before l := by
  induction l generalizing before with
  | nil => rfl
  | cons a l ih =>
    rw [map_cons, flatMapAfter, flatMapAfter, ← ih, map_append, map_singleton]

/-- A relation to every element before is one between all pairs. -/
theorem pairwise_iff_split {r : α → α → Prop} {l : List α} :
    l.Pairwise r ↔ ∀ pre a post, l = pre ++ a :: post → ∀ b ∈ pre, r b a := by
  constructor
  · rintro h pre a post rfl b hb
    exact (pairwise_append.1 h).2.2 b hb a mem_cons_self
  · intro h
    induction l with
    | nil => exact .nil
    | cons a l ih =>
      refine pairwise_cons.2 ⟨fun b hb => ?_, ih fun pre b post heq c hc => ?_⟩
      · obtain ⟨pre, post, rfl⟩ := append_of_mem hb
        exact h (a :: pre) b post rfl a mem_cons_self
      · exact h (a :: pre) b post (by rw [heq, cons_append]) c (mem_cons_of_mem a hc)

end List

namespace Except

variable {ε ε' φ α β σ : Type} {E : ε → Prop} {D : φ → Prop} {flaws flaws' : List φ}

/-- The computation fails with the first of the flaws, and succeeds if there is none. -/
def Detects (E : ε → Prop) (D : φ → Prop) (flaws : List φ) (x : Except ε α) : Prop :=
  match flaws with
  | [] => ∃ a, x = .ok a
  | flaw :: _ => ∃ e, x = .error e ∧ (E e ↔ D flaw)

/-- What returns a value has no flaw. -/
theorem detects_ok {a : α} : Detects E D [] (.ok a : Except ε α) := ⟨a, rfl⟩

/-- A single flaw. -/
theorem detects_error {e : ε} {flaw : φ} (h : E e ↔ D flaw) :
    Detects E D [flaw] (.error e : Except ε α) := ⟨e, rfl, h⟩

/-- What reads two parts, the second by what it has made of the first. -/
theorem Detects.bind {x : Except ε α} {f : α → Except ε β} (hx : Detects E D flaws x)
    (hf : ∀ a, x = .ok a → Detects E D flaws' (f a)) :
    Detects E D (flaws ++ flaws') (x >>= f) := by
  cases flaws with
  | nil =>
    obtain ⟨a, rfl⟩ := hx
    exact hf a rfl
  | cons flaw flaws =>
    obtain ⟨e, rfl, he⟩ := hx
    exact ⟨e, rfl, he⟩

/-- What reads a list. -/
theorem Detects.mapM {f : α → Except ε β} {flawsOf : α → List φ} {l : List α}
    (hf : ∀ a, Detects E D (flawsOf a) (f a)) : Detects E D (l.flatMap flawsOf) (l.mapM f) := by
  induction l with
  | nil =>
    rw [List.mapM_nil]
    exact detects_ok
  | cons a l ih =>
    rw [List.mapM_cons, List.flatMap_cons]
    refine (hf a).bind fun b _ => ?_
    rw [← List.append_nil (l.flatMap flawsOf)]
    exact ih.bind fun bs _ => detects_ok

/-- What goes through a list with a state. -/
theorem Detects.foldlM {f : σ → α → Except ε σ} {flawsOf : List α → α → List φ}
    {I : List α → σ → Prop} {before l : List α} {s : σ} (h : I before s)
    (hf : ∀ before s a, I before s → Detects E D (flawsOf before a) (f s a))
    (hI : ∀ before s a s', I before s → f s a = .ok s' → I (before ++ [a]) s') :
    Detects E D (List.flatMapAfter flawsOf before l) (l.foldlM f s) := by
  induction l generalizing before s with
  | nil => exact detects_ok
  | cons a l ih =>
    rw [List.foldlM_cons, List.flatMapAfter]
    exact (hf before s a h).bind fun s' hs' => ih (hI before s a s' h hs')

/-- What is raised in another form. -/
theorem Detects.mapError {E : ε' → Prop} {x : Except ε α} {g : ε → ε'}
    (h : Detects (fun e => E (g e)) D flaws x) : Detects E D flaws (x.mapError g) := by
  cases flaws with
  | nil =>
    obtain ⟨a, rfl⟩ := h
    exact ⟨a, rfl⟩
  | cons flaw flaws =>
    obtain ⟨e, rfl, he⟩ := h
    exact ⟨g e, rfl, he⟩

/-- Every error is of the kind `E`, every value meets `P`. -/
def Ends (E : ε → Prop) (P : α → Prop) : Except ε α → Prop
  | .ok a => P a
  | .error e => E e

/-- The rule of composition. -/
theorem Ends.bind {P : α → Prop} {Q : β → Prop} {x : Except ε α} {f : α → Except ε β}
    (hx : Ends E P x) (hf : ∀ a, P a → Ends E Q (f a)) : Ends E Q (x >>= f) := by
  cases x with
  | ok a => exact hf a hx
  | error e => exact hx

/-- How a computation ends is read off the first flaw. -/
theorem Detects.ends_cons_iff {flaw : φ} {P : α → Prop} {x : Except ε α}
    (h : Detects E D (flaw :: flaws) x) : Ends E P x ↔ D flaw := by
  obtain ⟨e, rfl, he⟩ := h
  exact he

end Except
