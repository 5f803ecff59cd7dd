import Mathlib.Data.List.Induction

/-!
# Guarded machines

A state machine whose events may only happen in states where their guard holds. A
sequence of events is accepted if every guard holds in the state that the events before
it lead to.
-/

/-- A state machine with guards. -/
structure GuardedMachine (σ ε : Type) where
  next : σ → ε → σ
  guard : σ → ε → Prop

namespace GuardedMachine

variable {σ ε : Type} (m : GuardedMachine σ ε) {s : σ} {es es' : List ε} {e : ε}

/-- The state after a sequence of events. -/
def run (s : σ) (es : List ε) : σ := es.foldl m.next s

/-- Every event's guard holds in the state that the events before it lead to. -/
def Accepts : σ → List ε → Prop
  | _, [] => True
  | s, e :: es => m.guard s e ∧ Accepts (m.next s e) es

variable {m}

@[simp] theorem run_nil : m.run s [] = s := rfl

@[simp] theorem run_append : m.run s (es ++ es') = m.run (m.run s es) es' :=
  List.foldl_append ..

@[simp] theorem run_singleton : m.run s [e] = m.next s e := rfl

theorem accepts_append : m.Accepts s (es ++ es') ↔ m.Accepts s es ∧ m.Accepts (m.run s es) es' := by
  induction es generalizing s with
  | nil => simp [Accepts]
  | cons e es ih => simp only [List.cons_append, Accepts, ih, and_assoc]; rfl

/-- An accepted sequence goes on with an event whose guard holds at its end. -/
theorem Accepts.snoc (h : m.Accepts s es) (he : m.guard (m.run s es) e) :
    m.Accepts s (es ++ [e]) :=
  accepts_append.2 ⟨h, he, trivial⟩

/-- What holds of the empty sequence and is kept by every accepted event holds of every
    accepted sequence. -/
theorem Accepts.invariant {p : List ε → σ → Prop} (h : m.Accepts s es) (h0 : p [] s)
    (hstep : ∀ es s e, p es s → m.guard s e → p (es ++ [e]) (m.next s e)) :
    p es (m.run s es) := by
  induction es using List.reverseRecOn with
  | nil => exact h0
  | append_singleton es e ih =>
    obtain ⟨hes, hg, _⟩ := accepts_append.1 h
    rw [run_append, run_singleton]
    exact hstep es _ e (ih hes) hg

end GuardedMachine
