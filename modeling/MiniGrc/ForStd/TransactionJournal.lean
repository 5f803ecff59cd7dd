import MiniGrc.ForStd.Transactions

/-!
# Journals of transactions

A server that keeps a journal of the changes that it has committed, in their order, and of the
requests that have come in.
`Server.journal_of_run` is the rule for what such a journal says about the committed state:
whatever the interleaving of the requests, only the changes that reach the database count.
`AllChanges.of_run` is the rule for what the requests say about such a journal.
A request on a part of the state, `Txn.onPart`, is one on the whole state.
-/

namespace Txn

variable {σ σ' δ δ' ω ω' : Type}

/-- A request whose queries see a part of the state. -/
def onPart (part : σ' → σ) (conclude : δ → ω → Txn σ' δ' ω') : Txn σ δ ω → Txn σ' δ' ω'
  | .query next => .query fun s => (next (part s)).onPart part conclude
  | .finish change answer => conclude change answer

/-- Whatever the queries see, the change meets `Q`. -/
def Leaves (Q : δ → Prop) : Txn σ δ ω → Prop
  | .query next => ∀ s, (next s).Leaves Q
  | .finish change _ => Q change

end Txn

namespace Server

variable {ι ρ σ δ ω ε : Type}

/-- The changes that a step commits: one at most, and none that the database refuses. -/
def accepted (apply : δ → σ → Except ε σ) (s : Server ι ρ σ δ ω) (l : Label ι ρ) : List δ :=
  match s.committing l with
  | none => []
  | some change =>
    match apply change s.committed with
    | .ok _ => [change]
    | .error _ => []

/-- The request that comes in. -/
def Label.request : Label ι ρ → Option ρ
  | .start _ request => some request
  | .statement _ => none

/-- A server, the changes that it has committed, and the requests that have come in. -/
structure Journaling (ι ρ σ δ ω : Type) where
  server : Server ι ρ σ δ ω
  journal : List δ
  received : List ρ

variable [DecidableEq ι] (serve : ρ → Txn σ δ ω) (apply : δ → σ → Except ε σ)

/-- A step of the server. -/
def journaledStep (s : Journaling ι ρ σ δ ω) (l : Label ι ρ) :
    Option (Journaling ι ρ σ δ ω) :=
  (step serve apply s.server l).map fun t =>
    ⟨t, s.journal ++ s.server.accepted apply l, s.received ++ l.request.toList⟩

variable {serve apply} {s t : Journaling ι ρ σ δ ω}

/-- A step leaves the committed state and the journal as they are, or commits one change. -/
theorem journaledStep_cases {l : Label ι ρ} (h : journaledStep serve apply s l = some t) :
    (t.server.committed = s.server.committed ∧ t.journal = s.journal) ∨
      ∃ change, apply change s.server.committed = .ok t.server.committed ∧
        t.journal = s.journal ++ [change] := by
  obtain ⟨u, hu, rfl⟩ := Option.map_eq_some_iff.1 h
  cases l with
  | start i request =>
    simp only [step] at hu
    split at hu
    · cases hu
    · cases hu
      exact .inl ⟨rfl, by simp [accepted, committing]⟩
  | statement i =>
    simp only [step] at hu
    split at hu
    · cases hu
    · next hi =>
      cases hu
      exact .inl ⟨rfl, by simp [accepted, committing, hi]⟩
    · next change answer hi =>
      cases hu
      cases happly : apply change s.server.committed with
      | error e => exact .inl ⟨rfl, by simp [accepted, committing, hi, happly]⟩
      | ok s' => exact .inr ⟨change, happly, by simp [accepted, committing, hi, happly]⟩

/-- What relates a journal to the state that its changes lead to, and is kept by every
    further change, holds in every state of a run. -/
theorem journal_of_run {J : List δ → σ → Prop}
    {ok : Journaling ι ρ σ δ ω → Label ι ρ → Prop}
    (h : Run (journaledStep serve apply) ok s t) (h₀ : J s.journal s.server.committed)
    (hchange : ∀ journal u change u', J journal u → apply change u = .ok u' →
      J (journal ++ [change]) u') :
    J t.journal t.server.committed := by
  refine h.invariant (P := fun u => J u.journal u.server.committed) h₀ fun u l v hu _ hs => ?_
  rcases journaledStep_cases hs with ⟨hcommitted, hjournal⟩ | ⟨change, happly, hjournal⟩
  · rw [hcommitted, hjournal]
    exact hu
  · rw [hjournal]
    exact hchange _ _ change _ hu happly

/-- What every request makes sure of its change holds of every change in the journal, for a
    request that has come in. -/
structure AllChanges (Q : ρ → δ → Prop) (s : Journaling ι ρ σ δ ω) : Prop where
  running : ∀ i request txn, s.server.running i = some (request, txn) →
    request ∈ s.received ∧ txn.Leaves (Q request)
  journal : ∀ change ∈ s.journal, ∃ request ∈ s.received, Q request change

theorem AllChanges.step {Q : ρ → δ → Prop} {l : Label ι ρ} (h : AllChanges Q s)
    (hserve : ∀ request, (serve request).Leaves (Q request))
    (hs : journaledStep serve apply s l = some t) : AllChanges Q t := by
  -- requests of which one goes on, comes in or ends
  have hset : ∀ (i : ι) (entry : Option (ρ × Txn σ δ ω)) (more : List ρ),
      (∀ request txn, entry = some (request, txn) →
        request ∈ s.received ++ more ∧ txn.Leaves (Q request)) →
      ∀ j request txn, Function.update s.server.running i entry j = some (request, txn) →
        request ∈ s.received ++ more ∧ txn.Leaves (Q request) := by
    intro i entry more hentry j request txn hj
    rw [Function.update_apply] at hj
    split at hj
    · exact hentry request txn hj
    · obtain ⟨hmem, hleaves⟩ := h.running j request txn hj
      exact ⟨List.mem_append_left _ hmem, hleaves⟩
  -- what is in the journal stays accounted for
  have hkept : ∀ (more : List ρ), ∀ change ∈ s.journal,
      ∃ request ∈ s.received ++ more, Q request change := by
    intro more change hmem
    obtain ⟨request, hrequest, hQ⟩ := h.journal change hmem
    exact ⟨request, List.mem_append_left _ hrequest, hQ⟩
  obtain ⟨u, hu, rfl⟩ := Option.map_eq_some_iff.1 hs
  cases l with
  | start i request =>
    simp only [Server.step] at hu
    split at hu
    · cases hu
    · cases hu
      refine ⟨hset i _ _ fun request' txn heq => ?_, fun change hmem => hkept _ change ?_⟩
      · cases heq
        exact ⟨List.mem_append_right _ (List.mem_singleton_self _), hserve request⟩
      · simpa [accepted, committing] using hmem
  | statement i =>
    simp only [Server.step] at hu
    split at hu
    · cases hu
    · next request next hi =>
      cases hu
      obtain ⟨hmem, hleaves⟩ := h.running i request _ hi
      refine ⟨hset i _ _ fun request' txn heq => ?_, fun change hchange => hkept _ change ?_⟩
      · cases heq
        exact ⟨List.mem_append_left _ hmem, hleaves _⟩
      · simpa [accepted, committing, hi] using hchange
    · next request change answer hi =>
      cases hu
      refine ⟨hset i none _ (fun request' txn heq => by cases heq), fun change' hmem => ?_⟩
      rcases List.mem_append.1 hmem with hmem | hmem
      · exact hkept _ change' hmem
      · obtain ⟨hrequest, hQ⟩ := h.running i request _ hi
        simp only [accepted, committing, hi] at hmem
        split at hmem
        · obtain rfl := List.mem_singleton.1 hmem
          exact ⟨request, List.mem_append_left _ hrequest, hQ⟩
        · cases hmem

theorem AllChanges.of_run {Q : ρ → δ → Prop} {ok : Journaling ι ρ σ δ ω → Label ι ρ → Prop}
    (h : Run (journaledStep serve apply) ok s t) (h₀ : AllChanges Q s)
    (hserve : ∀ request, (serve request).Leaves (Q request)) : AllChanges Q t :=
  h.invariant h₀ fun _ _ _ hu _ hs => hu.step hserve hs

omit [DecidableEq ι] in
theorem allChanges_idle {Q : ρ → δ → Prop} (u : σ) :
    AllChanges Q (⟨idle u, [], []⟩ : Journaling ι ρ σ δ ω) where
  running i request txn h := by cases h
  journal change h := by cases h

end Server
