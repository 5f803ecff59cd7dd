import MiniGrc.App.ConcurrentLifecycle
import MiniGrc.App.ControlDefinitionLifecycle
import MiniGrc.App.FindingLifecycle
import MiniGrc.Spec.EventStore
import MiniGrc.Spec.VersionLifecycle

/-!
# Lifecycle guards under interleaving

A command checks the status that its transaction has loaded, and its event is stored
later. Along every run in which no other session has committed another status in between
(`ReadCurrent`), the stored events of each aggregate are accepted by the lifecycle. The
retry of a lost sequence number does not look at the status: two sessions that have both
loaded a draft both submit it.

## Key results

- `lifecycle_guards_survive`: the runs under the condition, for the three lifecycles
- `lifecycle_guards_submittedTwice`: two sessions submit one draft
-/

namespace MiniGrc.ConcurrentLifecycle

open Events

variable {ι α ε σ : Type}

section Definitions

variable [DecidableEq α]

/-- The stored events of an aggregate. -/
def bodiesOf (log : List (DomainEvent α ε String)) (a : α) : List ε :=
  (ofAggregate log a).map DomainEvent.body

/-- If the step stores the first event of a transaction on an aggregate, then the committed
    status of the aggregate is the one that the transaction has loaded. -/
def ReadCurrent (s : State ι α ε σ) : Label ι α ε → Prop
  | .statement i => ∀ x ∈ s.store.attempted (.statement i), ¬ Refused s.store x.1 x.2 →
      ofAggregate (s.store.session i).own x.2.aggregate = [] →
        s.loaded i x.2.aggregate = some (s.status x.2.aggregate)
  | _ => True

instance [DecidableEq σ] (s : State ι α ε σ) : DecidablePred (ReadCurrent s)
  | .statement i => inferInstanceAs (Decidable (∀ x ∈ s.store.attempted (.statement i), _ →
      ofAggregate _ _ = [] → _ = _))
  | .load _ _ | .command _ _ | .clock _ _ | .commit _ | .rollback _ => .isTrue trivial

end Definitions

/-! ## The invariant -/

section Invariant

variable [DecidableEq α] (m : GuardedMachine σ ε) (s₀ : σ)

@[simp] theorem bodiesOf_append (log log' : List (DomainEvent α ε String)) (a : α) :
    bodiesOf (log ++ log') a = bodiesOf log a ++ bodiesOf log' a := by
  simp [bodiesOf]

theorem bodiesOf_eq_nil {log : List (DomainEvent α ε String)} {a : α} :
    bodiesOf log a = [] ↔ ofAggregate log a = [] := by
  simp [bodiesOf]

theorem bodiesOf_singleton_self (e : DomainEvent α ε String) :
    bodiesOf [e] e.aggregate = [e.body] := by
  simp [bodiesOf, ofAggregate]

theorem bodiesOf_singleton_ne {e : DomainEvent α ε String} {a : α} (h : e.aggregate ≠ a) :
    bodiesOf [e] a = [] := by
  simp [bodiesOf, ofAggregate, h]

/-- What holds of the latest call of a session: a command has checked the loaded status,
    and the events of the transaction have been projected, up to one that is stored. -/
def CallInv (own projected : List (DomainEvent α ε String)) (loaded : α → Option σ) :
    Option (Call α ε String) → Prop
  | some (.running req (.project e)) => req.project = true ∧ own = projected ++ [e]
  | some (.running req _) => req.project = true ∧ own = projected ∧
      ∃ status, loaded req.aggregate = some status ∧ m.guard status req.body
  | _ => own = projected

/-- What holds of a session, over the committed events and statuses. -/
structure SessionInv (committed : List (DomainEvent α ε String)) (status : α → σ)
    (t : Events.Session α ε String) (loaded : α → Option σ) (changed : α → Bool) : Prop where
  accepted : ∀ a, m.Accepts s₀ (bodiesOf (committed ++ t.own) a)
  /-- a row with an event of the transaction shows what the projected events leave -/
  current : ∀ a, bodiesOf t.own a ≠ [] →
    loaded a = some (m.run s₀ (bodiesOf (committed ++ t.projected) a))
  unchanged : ∀ a, changed a = false → bodiesOf t.own a ≠ [] → loaded a = some (status a)
  stored : ∀ a, changed a = true → bodiesOf t.own a ≠ []
  call : CallInv m t.own t.projected loaded t.call

/-- What every state of a run under `ReadCurrent` satisfies. -/
structure State.Inv (s : State ι α ε σ) : Prop where
  store : s.store.Inv
  status : ∀ a, s.status a = m.run s₀ (bodiesOf s.store.committed a)
  accepted : ∀ a, m.Accepts s₀ (bodiesOf s.store.committed a)
  session : ∀ i, SessionInv m s₀ s.store.committed s.status (s.store.session i) (s.loaded i)
    (s.changed i)

variable {m s₀} {s s' : State ι α ε σ}

theorem inv_initial : (State.initial s₀ : State ι α ε σ).Inv m s₀ where
  store := inv_quiescent wellFormed_nil
  status a := by simp [State.initial, Store.quiescent, bodiesOf, ofAggregate]
  accepted a := by simp [State.initial, Store.quiescent, bodiesOf, ofAggregate,
    GuardedMachine.Accepts]
  session i := by
    constructor <;> simp [State.initial, Store.quiescent, bodiesOf, ofAggregate,
      GuardedMachine.Accepts, CallInv]

/-! ## What a step keeps -/

variable [DecidableEq ι]

/-- A loaded row stays as it is when a row is loaded. -/
theorem State.load_loaded {i j : ι} {a b : α} {st : σ} (h : s.loaded j b = some st) :
    (s.load i a).loaded j b = some st := by
  by_cases hj : j = i
  · subst hj
    by_cases hb : b = a
    · subst hb
      simp [load, h]
    · simp [load, hb, h]
  · simp [load, hj, h]

/-- A session whose transaction has no events keeps nothing of it. -/
theorem SessionInv.empty {committed : List (DomainEvent α ε String)} (status : α → σ)
    (call : Option (Call α ε String)) (hc : ∀ a, m.Accepts s₀ (bodiesOf committed a))
    (hcall : CallInv m [] [] (fun _ => none) call) :
    SessionInv m s₀ committed status ⟨[], [], call⟩ (fun _ => none) fun _ => false where
  accepted a := by simpa using hc a
  current a h := absurd rfl h
  unchanged a _ h := absurd rfl h
  stored a h := by cases h
  call := hcall

omit [DecidableEq α] [DecidableEq ι] in
/-- More loaded rows do not matter for a call. -/
theorem CallInv.mono {own projected : List (DomainEvent α ε String)} {loaded loaded' : α → Option σ}
    {c : Option (Call α ε String)} (h : CallInv m own projected loaded c)
    (himp : ∀ a st, loaded a = some st → loaded' a = some st) :
    CallInv m own projected loaded' c := by
  unfold CallInv at h ⊢
  split at h
  · exact h
  · obtain ⟨hproject, hown, st, hst, hg⟩ := h
    exact ⟨hproject, hown, st, himp _ _ hst, hg⟩
  · exact h

theorem State.Inv.load (h : s.Inv m s₀) (i : ι) (a : α) : (s.load i a).Inv m s₀ where
  store := h.store
  status := h.status
  accepted := h.accepted
  session j := by
    have hj := h.session j
    refine ⟨hj.accepted, fun b hb => State.load_loaded (hj.current b hb),
      fun b hc hb => State.load_loaded (hj.unchanged b hc hb), hj.stored, ?_⟩
    exact hj.call.mono fun b st hst => State.load_loaded hst

omit [DecidableEq ι] in
/-- A move of a call that stores nothing keeps what holds of its session. -/
theorem CallInv.move {i : ι} {l : Events.Label ι α ε String} {c : Call α ε String}
    {own projected : List (DomainEvent α ε String)} {loaded : α → Option σ}
    {o : Option (Call α ε String)} (hm : CallMove s.store i l o c)
    (h : CallInv m own projected loaded o)
    (hstart : ∀ req, l = .call i req → req.project = true ∧
      ∃ status, loaded req.aggregate = some status ∧ m.guard status req.body) :
    CallInv m own projected loaded (some c) := by
  cases hm with
  | start req hidle =>
    obtain ⟨hproject, hguard⟩ := hstart req rfl
    refine ⟨hproject, ?_, hguard⟩
    unfold CallInv at h
    split at h
    · exact absurd rfl (hidle _ _)
    · exact absurd rfl (hidle _ _)
    · exact h
  | foundFirst _ => exact h.2.1
  | exhausted _ => exact h.2.1
  | found _ => exact h.2.1
  | raise _ => exact h.2.1
  | _ => exact h

/-- A move of session `i`'s call. -/
theorem State.Inv.move (h : s.Inv m s₀) {i : ι} {l : Events.Label ι α ε String}
    {c : Call α ε String} (hm : CallMove s.store i l (s.store.session i).call c)
    (hstart : ∀ req, l = .call i req → req.project = true ∧
      ∃ status, s.loaded i req.aggregate = some status ∧ m.guard status req.body) :
    ({ s with store := s.store.setCall i c } : State ι α ε σ).Inv m s₀ where
  store := h.store.move hm
  status := h.status
  accepted := h.accepted
  session j := by
    have hj := h.session j
    by_cases hji : j = i
    · subst hji
      have hcall := hj.call.move hm hstart
      refine ⟨by simpa using hj.accepted, ?_, by simpa using hj.unchanged,
        by simpa using hj.stored, ?_⟩
      · simpa [Store.setCall, Store.setSession] using hj.current
      · simpa [Store.setCall, Store.setSession] using hcall
    · have hsession : (s.store.setCall i c).session j = s.store.session j := by
        simp [Store.setCall, Store.setSession, hji]
      show SessionInv m s₀ s.store.committed s.status ((s.store.setCall i c).session j) _ _
      rw [hsession]
      exact hj

omit [DecidableEq ι] in
/-- The first event of a transaction on an aggregate follows the status that its row
    shows. -/
theorem SessionInv.loaded_eq (h : s.Inv m s₀) {i : ι} {a : α} {st : σ}
    (hown : (s.store.session i).own = (s.store.session i).projected)
    (hst : s.loaded i a = some st)
    (hcurrent : ofAggregate (s.store.session i).own a = [] → s.loaded i a = some (s.status a)) :
    st = m.run s₀ (bodiesOf (s.store.visible i) a) := by
  unfold Store.visible
  by_cases hnil : bodiesOf (s.store.session i).own a = []
  · rw [hcurrent (bodiesOf_eq_nil.1 hnil)] at hst
    rw [bodiesOf_append, hnil, List.append_nil, ← h.status a]
    exact (Option.some.inj hst).symm
  · rw [(h.session i).current a hnil, ← hown] at hst
    exact (Option.some.inj hst).symm

/-- An event is stored after the events that have led to the status its command checked. -/
theorem State.Inv.insert (h : s.Inv m s₀) {i : ι} {req : Request α ε String} {n next : Nat}
    {t : Time} (hc : (s.store.session i).call = some (.running req (.insert n t next)))
    (hr : ¬ Refused s.store i (req.candidate t next))
    (hb : ¬ Blocked s.store i (req.candidate t next))
    (hcurrent : ofAggregate (s.store.session i).own req.aggregate = [] →
      s.loaded i req.aggregate = some (s.status req.aggregate)) :
    ({ s with store := s.store.insertRow i req (req.candidate t next) } : State ι α ε σ).Inv
      m s₀ where
  store := h.store.insert hc hr hb
  status := h.status
  accepted := h.accepted
  session j := by
    have hj := h.session j
    by_cases hji : j = i
    · subst hji
      have hcall := hj.call
      rw [hc] at hcall
      obtain ⟨hproject, hown, st, hst, hguard⟩ := hcall
      have hrun := SessionInv.loaded_eq h hown hst hcurrent
      let e := req.candidate t next
      have hsession : (s.store.insertRow j req e).session j =
          ⟨(s.store.session j).own ++ [e], (s.store.session j).projected,
            some (.running req (.project e))⟩ := by
        simp [Store.insertRow, Store.setSession]
      show SessionInv m s₀ s.store.committed s.status ((s.store.insertRow j req e).session j) _ _
      rw [hsession]
      refine ⟨fun a => ?_, fun a ha => ?_, fun a hu ha => ?_, fun a ha => ?_, hproject, ?_⟩
      · by_cases ha : e.aggregate = a
        · subst ha
          rw [← List.append_assoc, bodiesOf_append, bodiesOf_singleton_self]
          exact (hj.accepted _).snoc (hrun ▸ hguard)
        · simpa [bodiesOf_singleton_ne ha] using hj.accepted a
      · by_cases hnil : bodiesOf (s.store.session j).own a = []
        · -- the event is the first of its aggregate
          have ha' : e.aggregate = a := by
            by_contra hne
            simp [hnil, bodiesOf_singleton_ne hne] at ha
          subst ha'
          show s.loaded j req.aggregate = _
          rw [hst, hrun]
          simp only [Store.visible, hown, bodiesOf_append]
          rfl
        · exact hj.current a hnil
      · by_cases hnil : bodiesOf (s.store.session j).own a = []
        · have ha' : e.aggregate = a := by
            by_contra hne
            simp [hnil, bodiesOf_singleton_ne hne] at ha
          subst ha'
          exact hcurrent (bodiesOf_eq_nil.1 hnil)
        · exact hj.unchanged a hu hnil
      · rw [bodiesOf_append]
        exact fun hnil => hj.stored a ha (List.append_eq_nil_iff.1 hnil).1
      · rw [hown]
    · show SessionInv m s₀ s.store.committed s.status
        ((s.store.insertRow i req (req.candidate t next)).session j) _ _
      rw [Store.insertRow_session_ne hji]
      exact hj

omit [DecidableEq ι] in
/-- Of two transactions at most one has events of an aggregate. -/
theorem State.Inv.alone (h : s.Inv m s₀) {i j : ι} (hij : i ≠ j) (a : α) :
    bodiesOf (s.store.session i).own a = [] ∨ bodiesOf (s.store.session j).own a = [] := by
  simp only [bodiesOf_eq_nil]
  exact WellFormed.ofAggregate_eq_nil (h.store.visible i) (h.store.visible j)
    (h.store.disjoint i j hij) a

/-- A commit writes the statuses that the committed events leave. -/
theorem State.Inv.commit (h : s.Inv m s₀) {i : ι} (hidle : (s.store.session i).Idle) :
    ({ (s.writeRows i).dropRows i with store := s.store.commit i } : State ι α ε σ).Inv m s₀ := by
  have hi := h.session i
  -- between two calls all events of the transaction have been projected
  have hown : (s.store.session i).own = (s.store.session i).projected := by
    have hcall := hi.call
    unfold CallInv at hcall
    split at hcall
    · next heq => exact absurd heq (hidle _ _)
    · next heq => exact absurd heq (hidle _ _)
    · exact hcall
  have hstatus : ∀ a, bodiesOf (s.store.session i).own a = [] →
      (s.writeRows i).status a = s.status a := fun a hnil => by
    refine if_neg fun hchanged => ?_
    exact hi.stored a hchanged hnil
  have hcommitted : ∀ a, bodiesOf (s.store.session i).own a = [] →
      bodiesOf (s.store.visible i) a = bodiesOf s.store.committed a := fun a hnil => by
    rw [Store.visible, bodiesOf_append, hnil, List.append_nil]
  refine ⟨h.store.commit, fun a => ?_, hi.accepted, fun j => ?_⟩
  · show (s.writeRows i).status a = m.run s₀ (bodiesOf (s.store.visible i) a)
    by_cases hnil : bodiesOf (s.store.session i).own a = []
    · rw [hstatus a hnil, hcommitted a hnil]
      exact h.status a
    · have hloaded := hi.current a hnil
      rw [← hown] at hloaded
      show (if s.changed i a then (s.loaded i a).getD (s.status a) else s.status a) = _
      split
      · rw [hloaded]
        rfl
      · next hchanged =>
        have hsame := hi.unchanged a (Bool.eq_false_iff.2 hchanged) hnil
        exact Option.some.inj (hsame.symm.trans hloaded)
  · by_cases hji : j = i
    · subst hji
      have hcall : CallInv m [] [] (fun _ : α => (none : Option σ)) (s.store.session j).call := by
        unfold CallInv
        split
        · next heq => exact absurd heq (hidle _ _)
        · next heq => exact absurd heq (hidle _ _)
        · rfl
      have hempty := SessionInv.empty (s.writeRows j).status _ hi.accepted hcall
      simpa [State.dropRows, Store.commit, Store.visible] using hempty
    · have hj := h.session j
      have hother : ∀ a, bodiesOf (s.store.session j).own a ≠ [] →
          bodiesOf (s.store.session i).own a = [] :=
        fun a ha => (h.alone (Ne.symm hji) a).resolve_right ha
      have hkeep : SessionInv m s₀ (s.store.visible i) (s.writeRows i).status (s.store.session j)
          (s.loaded j) (s.changed j) := by
        refine ⟨fun a => ?_, fun a ha => ?_, fun a hc ha => ?_, hj.stored, hj.call⟩
        · rcases h.alone (Ne.symm hji) a with hnil | hnil
          · rw [bodiesOf_append, hcommitted a hnil, ← bodiesOf_append]
            exact hj.accepted a
          · rw [bodiesOf_append, hnil, List.append_nil]
            exact hi.accepted a
        · rw [bodiesOf_append, hcommitted a (hother a ha), ← bodiesOf_append]
          exact hj.current a ha
        · rw [hstatus a (hother a ha)]
          exact hj.unchanged a hc ha
      simpa [State.dropRows, State.writeRows, Store.commit, hji] using hkeep

/-- A rollback drops the events of the transaction with its rows. -/
theorem State.Inv.rollback (h : s.Inv m s₀) (i : ι) :
    ({ s.dropRows i with store := s.store.rollback i } : State ι α ε σ).Inv m s₀ where
  store := h.store.rollback
  status := h.status
  accepted := h.accepted
  session j := by
    by_cases hji : j = i
    · subst hji
      have hempty := SessionInv.empty s.status none h.accepted rfl
      simpa [State.dropRows, Store.rollback, Store.setSession] using hempty
    · simpa [State.dropRows, Store.rollback, Store.setSession, hji] using h.session j

variable [DecidableEq σ]

/-- A projector leads its row on. -/
theorem State.Inv.project (h : s.Inv m s₀) {i : ι} {req : Request α ε String}
    {e : DomainEvent α ε String}
    (hc : (s.store.session i).call = some (.running req (.project e))) :
    ({ s.project i m e with store := s.store.runProjector i req e } : State ι α ε σ).Inv m s₀ := by
  have hi := h.session i
  have hcall := hi.call
  rw [hc] at hcall
  obtain ⟨hproject, hown⟩ := hcall
  have hne : bodiesOf (s.store.session i).own e.aggregate ≠ [] := by
    rw [hown, bodiesOf_append, bodiesOf_singleton_self]
    simp
  obtain ⟨st, hloaded, hst⟩ : ∃ st, s.loaded i e.aggregate = some st ∧
      st = m.run s₀ (bodiesOf (s.store.committed ++ (s.store.session i).projected) e.aggregate) :=
    ⟨_, hi.current e.aggregate hne, rfl⟩
  have hrows : s.project i m e = { s with
      loaded := Function.update s.loaded i
        (Function.update (s.loaded i) e.aggregate (some (m.next st e.body)))
      changed := Function.update s.changed i (Function.update (s.changed i) e.aggregate
        (s.changed i e.aggregate || decide (m.next st e.body ≠ st))) } := by
    unfold State.project
    rw [hloaded]
  rw [hrows]
  refine ⟨h.store.project, h.status, h.accepted, fun j => ?_⟩
  by_cases hji : j = i
  · subst hji
    have hsession : (s.store.runProjector j req e).session j =
        ⟨(s.store.session j).own, (s.store.session j).projected ++ [e],
          some (.returned req e true)⟩ := by
      simp [Store.runProjector, Store.setSession, hproject]
    show SessionInv m s₀ s.store.committed s.status ((s.store.runProjector j req e).session j) _ _
    simp only [hsession, Function.update_self]
    refine ⟨hi.accepted, fun a ha => ?_, fun a hu ha => ?_, fun a ha => ?_, hown⟩
    · by_cases hea : a = e.aggregate
      · subst hea
        rw [Function.update_self, ← List.append_assoc, bodiesOf_append, bodiesOf_singleton_self,
          GuardedMachine.run_append, ← hst]
        rfl
      · rw [Function.update_of_ne hea, ← List.append_assoc, bodiesOf_append,
          bodiesOf_singleton_ne (Ne.symm hea), List.append_nil]
        exact hi.current a ha
    · by_cases hea : a = e.aggregate
      · subst hea
        rw [Function.update_self] at hu ⊢
        simp only [Bool.or_eq_false_iff, decide_eq_false_iff_not, not_not] at hu
        rw [hu.2, ← hloaded]
        exact hi.unchanged _ hu.1 ha
      · rw [Function.update_of_ne hea] at hu ⊢
        exact hi.unchanged a hu ha
    · by_cases hea : a = e.aggregate
      · subst hea
        exact hne
      · rw [Function.update_of_ne hea] at ha
        exact hi.stored a ha
  · simpa [Store.runProjector, Store.setSession, hji] using h.session j

variable [Fintype ι] [∀ status event, Decidable (m.guard status event)]

/-- A step under `ReadCurrent` keeps the invariant. -/
theorem State.Inv.step {l : Label ι α ε} (h : s.Inv m s₀) (hok : ReadCurrent s l)
    (hs : ConcurrentLifecycle.step m s l = some s') : s'.Inv m s₀ := by
  cases l with
  | load i a =>
    obtain rfl := Option.some.inj hs
    exact h.load i a
  | command i args =>
    simp only [ConcurrentLifecycle.step] at hs
    split at hs
    · cases hs
    · next st hst =>
      split at hs
      · next hguard =>
        obtain ⟨store, hstore, rfl⟩ := Option.map_eq_some_iff.1 hs
        cases step_cases hstore with
        | @move _ j c hm =>
          obtain rfl : i = j := hm.session_eq
          refine h.move hm fun req hreq => ?_
          obtain ⟨-, rfl⟩ := Events.Label.call.inj hreq
          exact ⟨rfl, st, hst, hguard⟩
      · cases hs
  | clock i now =>
    obtain ⟨store, hstore, rfl⟩ := Option.map_eq_some_iff.1 hs
    cases step_cases hstore with
    | @move _ j c hm =>
      obtain rfl : i = j := hm.session_eq
      exact h.move hm fun req hreq => by cases hreq
  | statement i =>
    obtain ⟨store, hstore, rfl⟩ := Option.map_eq_some_iff.1 hs
    cases step_cases hstore with
    | @move _ j c hm =>
      obtain rfl : i = j := hm.session_eq
      have hrows : s.statementRows i m = s := by
        unfold State.statementRows
        generalize (s.store.session i).call = o at hm
        cases hm <;> rfl
      rw [hrows]
      exact h.move hm fun req hreq => by cases hreq
    | @insert _ req n t next hc hr hb =>
      have hrows : s.statementRows i m = s := by
        unfold State.statementRows
        rw [hc]
      rw [hrows]
      exact h.insert hc hr hb (hok _ (Store.attempted_insert hc) hr)
    | project hc =>
      unfold State.statementRows
      rw [hc]
      exact h.project hc
  | commit i =>
    obtain ⟨store, hstore, rfl⟩ := Option.map_eq_some_iff.1 hs
    cases step_cases hstore with
    | move hm => cases hm
    | commit hidle => exact h.commit hidle
  | rollback i =>
    obtain rfl := Option.some.inj hs
    exact h.rollback i

/-- Along a run under `ReadCurrent` the stored events of each aggregate are accepted. -/
theorem accepts_of_run (h : Run (ConcurrentLifecycle.step m) ReadCurrent (State.initial s₀) s)
    (a : α) : m.Accepts s₀ (bodiesOf s.store.committed a) :=
  (h.invariant (P := State.Inv m s₀) inv_initial fun _ _ _ hi hok hs => hi.step hok hs).accepted a

end Invariant

end MiniGrc.ConcurrentLifecycle

/-! ## The three lifecycles -/

namespace MiniGrc

open Events

instance (status : LifecycleStatus) : (event : LifecycleEvent) →
    Decidable (lifecycle.guard status event)
  | .submittedForReview => inferInstanceAs (Decidable (status = .draft))
  | .reviewed _ _ => inferInstanceAs (Decidable (status = .inReview))
  | .madeEffective => inferInstanceAs (Decidable (status = .approved))
  | .superseded _ => inferInstanceAs (Decidable (status = .effective))
  | .withdrawn _ =>
    inferInstanceAs (Decidable (status ∈ [.draft, .inReview, .approved, .effective]))

namespace ControlDefinitionLifecycle

/-- The lifecycle of a control-definition version, which its first event creates. -/
def controlLifecycle : GuardedMachine (Option LifecycleStatus) Body where
  next status body :=
    match body with
    | .drafted _ => some .draft
    | .lifecycle event => status.map (lifecycle.next · event)
  guard status body :=
    match body with
    | .drafted _ => status = none
    | .lifecycle event => ∃ s ∈ status, lifecycle.guard s event

instance (status : Option LifecycleStatus) : (body : Body) →
    Decidable (controlLifecycle.guard status body)
  | .drafted _ => inferInstanceAs (Decidable (status = none))
  | .lifecycle event => inferInstanceAs (Decidable (∃ s ∈ status, lifecycle.guard s event))

/-- A flush changes no row. -/
theorem flushed_current {changed : Except PyError (Tracked InternalControlVersion)} {flushes : Bool}
    {rows : Tracked InternalControlVersion}
    (h : (if flushes then changed.bind VersionLifecycle.flush else changed) = .ok rows) :
    ∃ rows', changed = .ok rows' ∧ rows.current = rows'.current := by
  cases changed with
  | error e => split at h <;> cases h
  | ok rows' =>
    refine ⟨rows', rfl, ?_⟩
    split at h
    · have h : VersionLifecycle.flush rows' = .ok rows := h
      unfold VersionLifecycle.flush at h
      split at h
      · cases h
      · next hflush =>
        obtain rfl := Except.ok.inj h
        rw [Tracked.flush_eq_clean hflush, Tracked.clean_current]
    · obtain rfl := Except.ok.inj h
      rfl

/-- The projectors run through the machine. -/
theorem project_status {rows rows' : Tracked InternalControlVersion} {event : Event}
    (h : project rows event = .ok rows') :
    rows'.current[event.aggregate]?.map VersionLifecycle.status =
      controlLifecycle.next (rows.current[event.aggregate]?.map VersionLifecycle.status)
        event.body := by
  unfold project at h
  obtain ⟨changed, hchanged, hcurrent⟩ := flushed_current h
  rw [hcurrent]
  cases hbody : event.body with
  | drafted draft =>
    rw [hbody] at hchanged
    dsimp only at hchanged
    split at hchanged
    · cases hchanged
    · obtain rfl := Except.ok.inj hchanged
      rw [Tracked.set_current, Table.get_insert, if_pos rfl]
      rfl
  | lifecycle body =>
    rw [hbody] at hchanged
    dsimp only at hchanged
    unfold VersionLifecycle.project at hchanged
    split at hchanged
    · cases hchanged
    · next v hv =>
      obtain rfl := Except.ok.inj hchanged
      rw [Tracked.set_current, Table.get_insert, if_pos rfl, hv]
      show some (VersionLifecycle.status (VersionLifecycle.applyTo v body _ _)) = some _
      rw [VersionLifecycle.status, VersionLifecycle.columns_applyTo,
        LifecycleColumns.apply_status]

end ControlDefinitionLifecycle

namespace FindingLifecycle

/-- The lifecycle of a finding, which its first event creates. -/
def findingLifecycle : GuardedMachine (Option FindingStatus) Body where
  next status body :=
    match body with
    | .opened _ => some .opened
    | .remediationUpdateRecorded _ _ => status.map fun s => if s = .opened then .remediating else s
    | .retestRequested => status.map fun _ => .retesting
    | .retestRecorded _ testResult =>
      status.map fun _ => if testResult = .exceptionsNoted then .remediating else .retesting
    | .closed _ _ => status.map fun _ => .closed
  guard status body :=
    match body with
    | .opened _ => status = none
    | .remediationUpdateRecorded _ _ => ∃ s ∈ status, s ≠ .closed
    | .retestRequested => status = some .remediating
    | .retestRecorded _ _ => status = some .retesting
    | .closed _ _ => ∃ s ∈ status, s ≠ .closed

instance (status : Option FindingStatus) : (body : Body) →
    Decidable (findingLifecycle.guard status body)
  | .opened _ => inferInstanceAs (Decidable (status = none))
  | .remediationUpdateRecorded _ _ => inferInstanceAs (Decidable (∃ s ∈ status, s ≠ .closed))
  | .retestRequested => inferInstanceAs (Decidable (status = some .remediating))
  | .retestRecorded _ _ => inferInstanceAs (Decidable (status = some .retesting))
  | .closed _ _ => inferInstanceAs (Decidable (∃ s ∈ status, s ≠ .closed))

/-- The projectors run through the machine. -/
theorem row_status {flushed : FlushTimes} {finding : Option Finding} {event : Event}
    {finding' : Finding} (h : row flushed finding event = .ok finding') :
    some finding'.status =
      findingLifecycle.next (finding.map fun f => f.status) event.body := by
  cases hbody : event.body with
  | opened payload =>
    unfold row at h
    rw [hbody] at h
    cases finding <;> cases h
    rfl
  | _ =>
    unfold row at h
    rw [hbody] at h
    cases finding <;> cases h
    rfl

/-- A command on a finding checks the guard of the event that it appends. -/
theorem checked_guard {finding : Finding} {body : Body}
    (h : (∃ note link, checkRemediationUpdate note link finding = .ok body) ∨
      checkRequestRetest finding = .ok body ∨
      (∃ testId test, checkRecordRetest testId test finding = .ok body) ∨
      ∃ decision note, checkClose decision note finding = .ok body) :
    findingLifecycle.guard (some finding.status) body := by
  rcases h with ⟨note, link, h⟩ | h | ⟨testId, test, h⟩ | ⟨decision, note, h⟩
  · unfold checkRemediationUpdate at h
    split at h
    · cases h
    · next hopen =>
      split at h <;> cases h
      exact ⟨_, rfl, hopen⟩
  · unfold checkRequestRetest at h
    split at h <;> cases h
    next hst => exact congrArg some (not_not.1 hst)
  · unfold checkRecordRetest at h
    split at h
    · cases h
    · next hst =>
      split at h
      · cases h
      · split at h <;> cases h
        exact congrArg some (not_not.1 hst)
  · unfold checkClose at h
    split at h
    · cases h
    · next hopen =>
      split at h <;> cases h
      exact ⟨_, rfl, hopen⟩

end FindingLifecycle

namespace ConcurrentLifecycle

open ControlDefinitionLifecycle (controlLifecycle)
open FindingLifecycle (findingLifecycle)

/-- In every run in which a transaction stores its first event of an aggregate only while
    the committed status is the one that it has loaded, the stored events of every policy
    version, control-definition version and finding are accepted by its lifecycle. -/
theorem lifecycle_guards_survive {ι : Type} [DecidableEq ι] [Fintype ι] :
    (∀ s : State ι Id LifecycleEvent LifecycleStatus,
      Run (step lifecycle) ReadCurrent (State.initial .draft) s →
        ∀ a, lifecycle.Accepts .draft (bodiesOf s.store.committed a)) ∧
    (∀ s : State ι Id ControlDefinitionLifecycle.Body (Option LifecycleStatus),
      Run (step controlLifecycle) ReadCurrent (State.initial none) s →
        ∀ a, controlLifecycle.Accepts none (bodiesOf s.store.committed a)) ∧
    ∀ s : State ι Id FindingLifecycle.Body (Option FindingLifecycle.FindingStatus),
      Run (step findingLifecycle) ReadCurrent (State.initial none) s →
        ∀ a, findingLifecycle.Accepts none (bodiesOf s.store.committed a) :=
  ⟨fun _ h a => accepts_of_run h a, fun _ h a => accepts_of_run h a,
    fun _ h a => accepts_of_run h a⟩

/-- Session `i` submits the version 0, up to the look-up of the next number. -/
def submitUpToNumber (i : Writer) (now : Time) : List (Label Writer Id LifecycleEvent) :=
  [.load i 0, .command i { aggregate := 0, body := .submittedForReview }, .statement i,
    .clock i now, .statement i, .statement i]

/-- Writer `a` submits the version and commits; writer `b`, which has loaded the draft
    before, loses the number 1 and wins the number 2. -/
def submittedTwice : List (Label Writer Id LifecycleEvent) :=
  submitUpToNumber .b 10 ++ submitUpToNumber .a 11 ++
    [.statement .a, .statement .a, .commit .a] ++
    [.statement .b, .statement .b, .statement .b, .statement .b, .statement .b, .statement .b,
      .commit .b]

/-- A draft is submitted twice, the second time while it is in review. -/
theorem lifecycle_guards_submittedTwice :
    ∃ s : State Writer Id LifecycleEvent LifecycleStatus,
      Run (step lifecycle) (fun _ _ => True) (State.initial .draft) s ∧
      bodiesOf s.store.committed 0 = [.submittedForReview, .submittedForReview] ∧
      ¬ lifecycle.Accepts .draft (bodiesOf s.store.committed 0) := by
  refine ⟨_, Run.of_exec_true submittedTwice rfl, rfl, fun h => ?_⟩
  have hguard : LifecycleStatus.inReview = .draft := h.2.1
  cases hguard

/-- Writer `a` submits the version; writer `b` loads it after the commit and approves it. -/
def submittedThenReviewed : List (Label Writer Id LifecycleEvent) :=
  submitUpToNumber .a 10 ++ [.statement .a, .statement .a, .commit .a] ++
    [.load .b 0, .command .b { aggregate := 0, body := .reviewed .approved "" }, .statement .b,
      .clock .b 11, .statement .b, .statement .b, .statement .b, .statement .b, .commit .b]

/-- `lifecycle_guards_survive` over a submission and a review in turn. -/
theorem lifecycle_guards_survive_inTurn :
    ∃ s : State Writer Id LifecycleEvent LifecycleStatus,
      Run.exec (Run.guarded (step lifecycle) ReadCurrent) (State.initial .draft)
        submittedThenReviewed = some s ∧
      bodiesOf s.store.committed 0 = [.submittedForReview, .reviewed .approved ""] ∧
      lifecycle.Accepts .draft (bodiesOf s.store.committed 0) :=
  ⟨_, rfl, rfl,
    lifecycle_guards_survive.1 _ (Run.of_exec_guarded submittedThenReviewed rfl) 0⟩

end ConcurrentLifecycle
end MiniGrc
