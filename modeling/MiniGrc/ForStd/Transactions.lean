import Mathlib.Logic.Function.Basic
import MiniGrc.ForStd.Run

/-!
# Read-committed transactions

A request is served in a transaction of its own: queries, each of which sees what is
committed when it is made, and then one change, which is committed with the answer unless
the database refuses it. `Txn.run` serves a request alone; in `Server.step` the statements
of any number of requests interleave.

`Server.invariant_of_run` is the rule for invariants of interleaved requests: what a
request has made sure of with its last query has to survive the commits of the others.
-/

/-- A request in its transaction: what is left of it. -/
inductive Txn (σ δ ω : Type)
  /-- a query, and how the request goes on after what it sees -/
  | query (next : σ → Txn σ δ ω)
  /-- the change to be committed, and the answer -/
  | finish (change : δ) (answer : ω)

namespace Txn

variable {σ δ ω ε : Type}

/-- The change and the answer of a request that is served alone. -/
def alone : Txn σ δ ω → σ → δ × ω
  | .query next, s => (next s).alone s
  | .finish change answer, _ => (change, answer)

/-- The request alone: the state that it commits, and its answer. -/
def run (apply : δ → σ → Except ε σ) (txn : Txn σ δ ω) (s : σ) : Except ε (σ × ω) :=
  (apply (txn.alone s).1 s).map fun s' => (s', (txn.alone s).2)

@[simp] theorem alone_query (next : σ → Txn σ δ ω) (s : σ) :
    (query next).alone s = (next s).alone s := rfl

@[simp] theorem alone_finish (change : δ) (answer : ω) (s : σ) :
    (finish change answer).alone s = (change, answer) := rfl

/-- Whatever change a query decides on meets `P` in the state that the query sees. -/
def Decides (P : σ → δ → Prop) : Txn σ δ ω → Prop
  | .query next => ∀ s, (∀ change answer, next s = .finish change answer → P s change) ∧
      (next s).Decides P
  | .finish _ _ => True

theorem Decides.mono {P Q : σ → δ → Prop} (h : ∀ s change, P s change → Q s change)
    {txn : Txn σ δ ω} (hP : txn.Decides P) : txn.Decides Q := by
  induction txn with
  | query next ih =>
    exact fun s => ⟨fun change answer heq => h s change ((hP s).1 change answer heq),
      ih s (hP s).2⟩
  | finish _ _ => trivial

theorem decides_of_forall {P : σ → δ → Prop} (h : ∀ s change, P s change) (txn : Txn σ δ ω) :
    txn.Decides P := by
  induction txn with
  | query next ih => exact fun s => ⟨fun change _ _ => h s change, ih s⟩
  | finish _ _ => trivial

/-- `Decides`, and a change that is all that is left meets `P` in the state `s`. -/
def Settles (P : σ → δ → Prop) (s : σ) (txn : Txn σ δ ω) : Prop :=
  (∀ change answer, txn = .finish change answer → P s change) ∧ txn.Decides P

theorem settles_finish {P : σ → δ → Prop} {s : σ} {change : δ} {answer : ω} (h : P s change) :
    (finish change answer).Settles P s :=
  ⟨fun _ _ heq => (Txn.finish.inj heq).1 ▸ h, trivial⟩

theorem settles_query {P : σ → δ → Prop} {s : σ} {next : σ → Txn σ δ ω}
    (h : ∀ t, (next t).Settles P t) : (query next).Settles P s := by
  refine ⟨fun _ _ heq => ?_, h⟩
  cases heq

/-- The request has a query before its change. -/
def Asks : Txn σ δ ω → Prop
  | .query _ => True
  | .finish _ _ => False

end Txn

/-- The committed state, and the requests under way with what is left of them. -/
structure Server (ι ρ σ δ ω : Type) where
  committed : σ
  running : ι → Option (ρ × Txn σ δ ω)

namespace Server

variable {ι ρ σ δ ω ε : Type}

/-- What happens next. -/
inductive Label (ι ρ : Type)
  /-- a request comes in -/
  | start (i : ι) (request : ρ)
  /-- a request makes its next query, or commits -/
  | statement (i : ι)

/-- The state `s` with no request under way. -/
def idle (s : σ) : Server ι ρ σ δ ω := ⟨s, fun _ => none⟩

/-- The change that a step commits, unless the database refuses it. -/
def committing (s : Server ι ρ σ δ ω) : Label ι ρ → Option δ
  | .start _ _ => none
  | .statement i =>
    match s.running i with
    | some (_, .finish change _) => some change
    | _ => none

variable [DecidableEq ι] (serve : ρ → Txn σ δ ω) (apply : δ → σ → Except ε σ)

/-- A step. A change that the database refuses is rolled back with its request. -/
def step (s : Server ι ρ σ δ ω) : Label ι ρ → Option (Server ι ρ σ δ ω)
  | .start i request =>
    match s.running i with
    | some _ => none
    | none => some { s with
        running := Function.update s.running i (some (request, serve request)) }
  | .statement i =>
    match s.running i with
    | none => none
    | some (request, .query next) => some { s with
        running := Function.update s.running i (some (request, next s.committed)) }
    | some (_, .finish change _) => some {
        committed := ((apply change s.committed).toOption).getD s.committed
        running := Function.update s.running i none }

/-- What is committed stays as it is, or the step commits a change. -/
theorem committed_step {serve : ρ → Txn σ δ ω} {apply : δ → σ → Except ε σ}
    {s t : Server ι ρ σ δ ω} {l : Label ι ρ} (hs : step serve apply s l = some t) :
    t.committed = s.committed ∨
      ∃ change ∈ s.committing l, apply change s.committed = .ok t.committed := by
  cases l with
  | start i request =>
    simp only [step] at hs
    split at hs
    · cases hs
    · exact .inl (Option.some.inj hs ▸ rfl)
  | statement i =>
    simp only [step] at hs
    split at hs
    · cases hs
    · exact .inl (Option.some.inj hs ▸ rfl)
    · next request change answer hi =>
      obtain rfl := Option.some.inj hs
      cases happly : apply change s.committed with
      | error e => exact .inl rfl
      | ok s' => exact .inr ⟨change, by simp [committing, hi], happly⟩

/-- What holds of the committed state, and of the changes that wait to be committed. -/
structure Inv (I : σ → Prop) (P : ρ → σ → δ → Prop) (s : Server ι ρ σ δ ω) : Prop where
  committed : I s.committed
  decides : ∀ i request txn, s.running i = some (request, txn) →
    txn.Decides fun s change => I s → P request s change
  pending : ∀ i request change answer, s.running i = some (request, .finish change answer) →
    P request s.committed change

variable {serve apply} {I : σ → Prop} {P : ρ → σ → δ → Prop} {s t : Server ι ρ σ δ ω}
  {ok : Server ι ρ σ δ ω → Label ι ρ → Prop}

/-- A request goes on, or comes in. -/
theorem Inv.set (h : Inv I P s) (i : ι) {request : ρ} {txn : Txn σ δ ω}
    (hdecides : txn.Decides fun s change => I s → P request s change)
    (hpending : ∀ change answer, txn = .finish change answer → P request s.committed change) :
    Inv I P { s with running := Function.update s.running i (some (request, txn)) } where
  committed := h.committed
  decides j request' txn' hj := by
    simp only [Function.update_apply] at hj
    split at hj
    · obtain ⟨rfl, rfl⟩ := Prod.mk.inj (Option.some.inj hj)
      exact hdecides
    · exact h.decides j request' txn' hj
  pending j request' change answer hj := by
    simp only [Function.update_apply] at hj
    split at hj
    · obtain ⟨rfl, hfinish⟩ := Prod.mk.inj (Option.some.inj hj)
      exact hpending change answer hfinish
    · exact h.pending j request' change answer hj

/-- One step of the rule below. -/
theorem Inv.step {l : Label ι ρ} (h : Inv I P s)
    (hserve : ∀ request, (serve request).Asks ∧
      (serve request).Decides fun s change => I s → P request s change)
    (hcommit : ∀ i request change answer s', l = .statement i →
      s.running i = some (request, .finish change answer) →
      apply change s.committed = .ok s' →
      I s' ∧ ∀ j request' change' answer', j ≠ i →
        s.running j = some (request', .finish change' answer') →
        P request' s.committed change' → P request' s' change')
    (hs : step serve apply s l = some t) : Inv I P t := by
  cases l with
  | start i request =>
    simp only [Server.step] at hs
    split at hs
    · cases hs
    · obtain rfl := Option.some.inj hs
      refine h.set i (hserve request).2 fun change answer hserved => ?_
      -- the request has not decided on a change yet
      have hasks := (hserve request).1
      rw [hserved] at hasks
      cases hasks
  | statement i =>
    simp only [Server.step] at hs
    split at hs
    · cases hs
    · next request next hi =>
      obtain rfl := Option.some.inj hs
      obtain ⟨hdecides, hrest⟩ := h.decides i request _ hi s.committed
      exact h.set i hrest fun change answer hfinish => hdecides change answer hfinish h.committed
    · next request change answer hi =>
      obtain rfl := Option.some.inj hs
      -- what is left of the others has not changed
      have hdecides : ∀ j request' txn,
          Function.update s.running i none j = some (request', txn) →
          j ≠ i ∧ s.running j = some (request', txn) := by
        intro j request' txn hj
        rw [Function.update_apply] at hj
        split at hj
        · cases hj
        · next hne => exact ⟨hne, hj⟩
      cases happly : apply change s.committed with
      | error e =>
        exact ⟨h.committed, fun j request' txn hj => h.decides j _ _ (hdecides j _ _ hj).2,
          fun j request' change' answer' hj => h.pending j _ _ answer' (hdecides j _ _ hj).2⟩
      | ok s' =>
        obtain ⟨hI, hP⟩ := hcommit i request change answer s' rfl hi happly
        refine ⟨hI, fun j request' txn hj => h.decides j _ _ (hdecides j _ _ hj).2,
          fun j request' change' answer' hj => ?_⟩
        obtain ⟨hne, hj⟩ := hdecides j _ _ hj
        exact hP j request' change' answer' hne hj (h.pending j _ _ answer' hj)

/-- If a commit keeps what the other requests have made sure of, and keeps `I` provided that
    its own request has made sure of it, then `I` holds of what is committed throughout. -/
theorem invariant_of_run (h : Run (step serve apply) ok s t) (h₀ : I s.committed)
    (hidle : ∀ i, s.running i = none)
    (hserve : ∀ request, (serve request).Asks ∧
      (serve request).Decides fun s change => I s → P request s change)
    (hcommit : ∀ (u : Server ι ρ σ δ ω) i request change answer s', Inv I P u →
      ok u (.statement i) → u.running i = some (request, .finish change answer) →
      apply change u.committed = .ok s' →
      I s' ∧ ∀ j request' change' answer', j ≠ i →
        u.running j = some (request', .finish change' answer') →
        P request' u.committed change' → P request' s' change') :
    I t.committed := by
  have hinv : Inv I P t := by
    refine h.invariant (P := Inv I P) ⟨h₀, fun i _ _ hi => ?_, fun i _ _ _ hi => ?_⟩ ?_
    · rw [hidle i] at hi
      cases hi
    · rw [hidle i] at hi
      cases hi
    · intro u l v hu hok hs
      refine hu.step hserve (fun i request change answer s' hl hi happly => ?_) hs
      subst hl
      exact hcommit u i request change answer s' hu hok hi happly
  exact hinv.committed

end Server
