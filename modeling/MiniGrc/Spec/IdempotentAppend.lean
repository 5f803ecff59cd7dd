import MiniGrc.Spec.EventStore

/-!
# Racing appends under one idempotency key

Any number of sessions append under one key. As long as a call whose insert meets the
key also meets its slot taken (`SlotTakenWithKey`), the look-up of the next round finds
the winner's event: every call returns it, and its projector runs once. A call on an
aggregate of its own meets the key alone, and so does a call on the winner's aggregate
if the winner commits between its look-up and its query for the next number. The
`IntegrityError` then reaches the caller.

## Key results

- `idempotent_append`: along every run whose inserts never meet the key alone
- `raises_of_keyAlone`: an insert that meets the key alone ends in `IntegrityError`
- `idempotent_append_two_aggregates`: two calls on different aggregates
-/

namespace MiniGrc.Events

variable {ι α β κ : Type}

/-! ## Calls under one key -/

/-- The calls that the step starts carry the key `k`; with `projects`, they are calls of
    `append_and_project`. -/
def CallsCarry (k : κ) (projects : Bool) : Label ι α β κ → Prop
  | .call _ req => req.idempotencyKey = some k ∧ (projects = true → req.project = true)
  | _ => True

instance [DecidableEq κ] (k : κ) (projects : Bool) :
    DecidablePred (CallsCarry k projects : Label ι α β κ → Prop)
  | .call _ req => inferInstanceAs (Decidable (_ ∧ (_ → req.project = true)))
  | .clock _ _ | .statement _ | .commit _ | .rollback _ => .isTrue trivial

/-- If the step is an insert that meets a stored event of its key, it meets one in its
    slot as well. -/
def SlotTakenWithKey (s : Store ι α β κ) (l : Label ι α β κ) : Prop :=
  ∀ x ∈ s.attempted l, (∃ e ∈ s.visible x.1, SameKey e x.2) → ∃ e ∈ s.visible x.1, SameSlot e x.2

instance [DecidableEq α] [DecidableEq κ] (s : Store ι α β κ) :
    DecidablePred (SlotTakenWithKey s) :=
  fun l => inferInstanceAs (Decidable (∀ x ∈ s.attempted l, (∃ e ∈ s.visible x.1, _) →
    ∃ e ∈ s.visible x.1, _))

/-- The events that carry the key. -/
def withKey [DecidableEq κ] (k : κ) (log : List (DomainEvent α β κ)) : List (DomainEvent α β κ) :=
  log.filter fun e => e.idempotencyKey = some k

section WithKey

variable [DecidableEq κ] {k : κ} {log log' : List (DomainEvent α β κ)} {e : DomainEvent α β κ}

/-- The events of a key are read piece by piece. -/
@[simp] theorem withKey_append : withKey k (log ++ log') = withKey k log ++ withKey k log' :=
  List.filter_append ..

/-- The events of a key are those that carry it. -/
@[simp] theorem mem_withKey : e ∈ withKey k log ↔ e ∈ log ∧ e.idempotencyKey = some k := by
  simp [withKey]

/-- None is found exactly when no event carries the key. -/
theorem findByIdempotencyKey_eq_none :
    findByIdempotencyKey log k = none ↔ ∀ e ∈ log, e.idempotencyKey ≠ some k := by
  simp [findByIdempotencyKey]

/-- The event found carries the key. -/
theorem mem_of_findByIdempotencyKey (h : findByIdempotencyKey log k = some e) :
    e ∈ log ∧ e.idempotencyKey = some k :=
  ⟨List.mem_of_find?_eq_some h, by simpa using List.find?_some h⟩

variable [DecidableEq α]

/-- If the key is stored, exactly one event carries it. -/
theorem WellFormed.withKey_eq (h : WellFormed log) (he : e ∈ log)
    (hk : e.idempotencyKey = some k) : withKey k log = [e] := by
  have hpair : (withKey k log).Pairwise fun e e' => ¬ SameKey e e' := h.keys.filter _
  have hmem : e ∈ withKey k log := mem_withKey.2 ⟨he, hk⟩
  have hkey : ∀ x ∈ withKey k log, x.idempotencyKey = some k := fun x hx => (mem_withKey.1 hx).2
  match hlog : withKey k log with
  | [] => simp [hlog] at hmem
  | [x] => simpa [hlog, eq_comm] using hmem
  | x :: y :: rest =>
    -- the first two would carry one key
    rw [hlog] at hpair hkey
    have hxy := (List.pairwise_cons.1 hpair).1 y (by simp)
    have hx := hkey x (by simp)
    exact absurd ⟨by simp [hx], hx.trans (hkey y (by simp)).symm⟩ hxy

/-- A well-formed log holds at most one event of a key. -/
theorem WellFormed.eq_of_key (h : WellFormed log) {e' : DomainEvent α β κ} (he : e ∈ log)
    (he' : e' ∈ log) (hk : e.idempotencyKey = some k) (hk' : e'.idempotencyKey = some k) :
    e = e' := by
  have hmem : e' ∈ withKey k log := mem_withKey.2 ⟨he', hk'⟩
  rw [h.withKey_eq he hk, List.mem_singleton] at hmem
  exact hmem.symm

end WithKey

/-! ## The invariant of a run -/

/-- The key is stored, as far as the session sees. -/
def KeyStored (k : κ) (visible : List (DomainEvent α β κ)) : Prop :=
  ∃ e ∈ visible, e.idempotencyKey = some k

/-- What holds at each point of a call: until the call stores its event its session has
    stored none, a slot can only be lost to the event of the key, and a second round
    starts only when that event is stored. -/
def CallInv (k : κ) (projects : Bool) (visible : List (DomainEvent α β κ)) (t : Session α β κ) :
    Call α β κ → Prop
  | .running req pc =>
    (req.idempotencyKey = some k ∧ (projects = true → req.project = true)) ∧
    match pc with
    | .checkKey => True
    | .readClock => t.own = []
    | .attempt n _ => t.own = [] ∧ (n = 0 ∨ n = 1 ∧ KeyStored k visible)
    | .readMax n _ => t.own = [] ∧ n = 0
    | .insert n _ next => t.own = [] ∧ n = 0 ∧ ∀ e ∈ visible, e.aggregate = req.aggregate →
        e.aggregateSequence = next → e.idempotencyKey = some k
    | .slotCheck n _ next => t.own = [] ∧ n = 0 ∧ KeyStored k visible ∧
        ∃ e ∈ visible, e.aggregate = req.aggregate ∧ e.aggregateSequence = next
    | .project e => t.own = [e] ∧ t.projected = []
  | .returned _ e _ => e ∈ visible ∧ e.idempotencyKey = some k
  | .raised _ _ => False

/-- What holds of a session that sees the events `visible`. -/
structure SessionInv (k : κ) (projects : Bool) (visible : List (DomainEvent α β κ))
    (t : Session α β κ) : Prop where
  own : ∀ e ∈ t.own, e.idempotencyKey = some k
  call : ∀ c, t.call = some c → CallInv k projects visible t c
  /-- unless the call is about to run its projector, it has run if it ever will -/
  projected : (∀ req e, t.call ≠ some (.running req (.project e))) →
    t.projected.Sublist t.own ∧ (projects = true → t.projected = t.own)

/-- The session may come to see more events of the key. -/
theorem SessionInv.grow {k : κ} {projects : Bool} {visible visible' : List (DomainEvent α β κ)}
    {t : Session α β κ} (h : SessionInv k projects visible t)
    (hsub : ∀ e ∈ visible, e ∈ visible')
    (hnew : ∀ e ∈ visible', e ∈ visible ∨ e.idempotencyKey = some k) :
    SessionInv k projects visible' t where
  own := h.own
  projected := h.projected
  call := fun c hc => by
    have stored : KeyStored k visible → KeyStored k visible' := fun ⟨e, he, hk⟩ =>
      ⟨e, hsub e he, hk⟩
    have hold := h.call c hc
    -- Each place is about events that are seen, and more are seen now.
    cases c with
    | running req pc =>
      refine ⟨hold.1, ?_⟩
      cases pc with
      | attempt n _ => exact ⟨hold.2.1, hold.2.2.imp_right (.imp_right stored)⟩
      | insert n _ next =>
        refine ⟨hold.2.1, hold.2.2.1, fun e he ha hs => ?_⟩
        rcases hnew e he with he | hk
        · exact hold.2.2.2 e he ha hs
        · exact hk
      | slotCheck n _ next =>
        have ⟨hown, hn, hst, e, he, hslot⟩ := hold.2
        exact ⟨hown, hn, stored hst, e, hsub e he, hslot⟩
      | _ => exact hold.2
    | returned _ e _ => exact ⟨hsub e hold.1, hold.2⟩
    | raised _ _ => exact hold

section Steps

variable [DecidableEq κ] {k : κ} {projects : Bool} {s s' : Store ι α β κ} {i : ι}
  {l : Label ι α β κ}

/-- What every state of the run satisfies. -/
structure Store.KeyedInv [DecidableEq α] (k : κ) (projects : Bool) (s : Store ι α β κ) : Prop where
  inv : s.Inv
  session : ∀ i, SessionInv k projects (s.visible i) (s.session i)
  projected : (withKey k s.projected).Sublist (withKey k s.committed) ∧
    (projects = true → withKey k s.projected = withKey k s.committed)

omit [DecidableEq κ] in
/-- A session whose transaction is new and whose call, if any, has ended. -/
theorem SessionInv.fresh {visible : List (DomainEvent α β κ)} {c : Option (Call α β κ)}
    (hcall : ∀ c', c = some c' → CallInv k projects visible ⟨[], [], c⟩ c') :
    SessionInv k projects visible ⟨[], [], c⟩ where
  own := fun _ he => absurd he List.not_mem_nil
  call := hcall
  projected := fun _ => ⟨.refl _, fun _ => rfl⟩

/-- Before the first call no event of the key is open. -/
theorem keyedInv_quiescent [DecidableEq α] {log : List (DomainEvent α β κ)} (h : WellFormed log) :
    (Store.quiescent log : Store ι α β κ).KeyedInv k projects where
  inv := inv_quiescent h
  session := fun _ => .fresh fun _ hc => absurd hc (Option.some_ne_none _).symm
  projected := ⟨.refl _, fun _ => rfl⟩

omit [DecidableEq κ] in
/-- A session that stores events of the key only, and sees none, has stored none. -/
theorem own_eq_nil (hown : ∀ e ∈ (s.session i).own, e.idempotencyKey = some k)
    (hnone : ∀ e ∈ s.visible i, e.idempotencyKey ≠ some k) : (s.session i).own = [] :=
  List.eq_nil_iff_forall_not_mem.2 fun e he =>
    hnone e (List.mem_append_right _ he) (hown e he)

/-- A request with a key looks for it in what its session sees. -/
theorem Store.existing_eq {req : Request α β κ} (hk : req.idempotencyKey = some k) :
    s.existing i req = findByIdempotencyKey (s.visible i) k := by
  simp [Store.existing, hk]

variable [DecidableEq α]

/-- A move of the call keeps what holds of its session. -/
theorem SessionInv.move {c : Call α β κ} (hinv : s.Inv)
    (h : SessionInv k projects (s.visible i) (s.session i))
    (hm : CallMove s i l (s.session i).call c) (hcarry : CallsCarry k projects l)
    (hslot : SlotTakenWithKey s l) :
    CallInv k projects (s.visible i) (s.session i) c := by
  generalize hcall : (s.session i).call = o at hm
  have hold : ∀ c', o = some c' → CallInv k projects (s.visible i) (s.session i) c' :=
    fun c' ho => h.call c' (hcall.trans ho)
  cases hm with
  | start req _ => exact ⟨hcarry, trivial⟩
  | @foundFirst req e hfound =>
    rw [Store.existing_eq (hold _ rfl).1.1] at hfound
    exact mem_of_findByIdempotencyKey hfound
  | @notFoundFirst req hnone =>
    have hreq := (hold _ rfl).1
    rw [Store.existing_eq hreq.1, findByIdempotencyKey_eq_none] at hnone
    exact ⟨hreq, own_eq_nil h.own hnone⟩
  | clock t =>
    have ⟨hreq, hown⟩ := hold _ rfl
    exact ⟨hreq, hown, .inl rfl⟩
  | @exhausted req n t hn =>
    -- the second round returns, so five rounds are never used up
    have hn' := (hold _ rfl).2.2
    simp only [maxAppendAttempts] at hn
    omega
  | @found req n t e hfound =>
    rw [Store.existing_eq (hold _ rfl).1.1] at hfound
    exact mem_of_findByIdempotencyKey hfound
  | @notFound req n t hnone =>
    have ⟨hreq, hown, hn⟩ := hold _ rfl
    rw [Store.existing_eq hreq.1, findByIdempotencyKey_eq_none] at hnone
    refine ⟨hreq, hown, hn.resolve_right ?_⟩
    rintro ⟨_, e, he, hk⟩
    exact hnone e he hk
  | @next req n t =>
    have ⟨hreq, hown, hn⟩ := hold _ rfl
    refine ⟨hreq, hown, hn, fun e he ha hs => ?_⟩
    -- the number just read is free
    have hle := ((hinv.visible i).sequence_bounds he).2
    rw [(hinv.visible i).nextAggregateSequence] at hs
    rw [ha] at hle
    omega
  | @refused req n t next hr =>
    have ⟨hreq, hown, hn, hfree⟩ := hold _ rfl
    have hkeyed : ∀ e ∈ s.visible i, e.idempotencyKey = some k →
        CallInv k projects (s.visible i) (s.session i) (.running req (.slotCheck n t next)) := by
      intro e he hk
      obtain ⟨e', he', hslot'⟩ := hslot _ (Store.attempted_insert hcall)
        ⟨e, he, by simp [hk], hk.trans hreq.1.symm⟩
      exact ⟨hreq, hown, hn, ⟨e, he, hk⟩, e', he', hslot'⟩
    obtain ⟨e, he, hslot' | hkey⟩ := hr
    · exact hkeyed e he (hfree e he hslot'.1 hslot'.2)
    · exact hkeyed e he (hkey.2.trans hreq.1)
  | @retry req n t next _ =>
    have ⟨hreq, hown, hn, hst, _⟩ := hold _ rfl
    exact ⟨hreq, hown, .inr ⟨by omega, hst⟩⟩
  | raise hno => exact hno (hold _ rfl).2.2.2.2

variable [DecidableEq ι]

/-- A call that moves on keeps the events of the key. -/
theorem Store.KeyedInv.move {c : Call α β κ} (h : s.KeyedInv k projects)
    (hm : CallMove s i l (s.session i).call c)
    (hcall : CallInv k projects (s.visible i) (s.session i) c) :
    (s.setCall i c).KeyedInv k projects where
  inv := h.inv.move hm
  projected := h.projected
  session := fun j => by
    rw [Store.setCall_visible]
    by_cases hj : j = i
    · subst hj
      simp only [Store.setCall, Store.setSession, Function.update_self]
      refine ⟨(h.session j).own, ?_, fun _ => (h.session j).projected ?_⟩
      · rintro c' ⟨⟩
        cases c with
        | running req pc => cases pc <;> exact hcall
        | _ => exact hcall
      · -- no move leaves a call that is about to run its projector
        intro req e hproj
        rw [hproj] at hm
        cases hm with
        | start _ hidle => exact hidle _ _ rfl
    · simp only [Store.setCall, Store.setSession, Function.update_of_ne hj]
      exact h.session j

/-- An insert adds the first event of the key, or one of another. -/
theorem Store.KeyedInv.insert {req : Request α β κ} {n next : Nat} {t : Time}
    (h : s.KeyedInv k projects)
    (hc : (s.session i).call = some (.running req (.insert n t next)))
    (hr : ¬ Refused s i (req.candidate t next)) (hb : ¬ Blocked s i (req.candidate t next)) :
    (s.insertRow i req (req.candidate t next)).KeyedInv k projects where
  inv := h.inv.insert hc hr hb
  projected := h.projected
  session := fun j => by
    -- Only the inserting session sees an event more.
    by_cases hj : j = i
    · subst hj
      have ⟨hreq, hown, _, _⟩ := (h.session j).call _ hc
      have hproj := ((h.session j).projected fun _ _ hp => nomatch hc.symm.trans hp).1
      rw [hown, List.sublist_nil] at hproj
      simp only [Store.insertRow, Store.setSession, Function.update_self, hown, List.nil_append]
      refine ⟨?_, ?_, fun hp => absurd rfl (hp _ _)⟩
      · intro e he
        rw [List.mem_singleton] at he
        subst he
        exact hreq.1
      · rintro _ ⟨⟩
        exact ⟨hreq, rfl, hproj⟩
    · rw [Store.insertRow_visible_ne hj, Store.insertRow_session_ne hj]
      exact h.session j

/-- A projection keeps the events of the key. -/
theorem Store.KeyedInv.project {req : Request α β κ} {e : DomainEvent α β κ}
    (h : s.KeyedInv k projects) (hc : (s.session i).call = some (.running req (.project e))) :
    (s.runProjector i req e).KeyedInv k projects where
  inv := h.inv.project
  projected := h.projected
  session := fun j => by
    rw [Store.runProjector_visible]
    -- Only the projecting session moves on.
    by_cases hj : j = i
    · subst hj
      have ⟨hreq, hown, hproj⟩ := (h.session j).call _ hc
      have hmem : e ∈ (s.session j).own := by simp [hown]
      simp only [Store.runProjector, Store.setSession, Function.update_self, hproj, hown,
        List.nil_append]
      refine ⟨by rw [← hown]; exact (h.session j).own, ?_, fun _ => ⟨by split <;> simp, ?_⟩⟩
      · rintro _ ⟨⟩
        exact ⟨List.mem_append_right _ hmem, (h.session j).own e hmem⟩
      · intro hp
        rw [if_pos (hreq.2 hp)]
    · rw [Store.runProjector_session_ne hj]
      exact h.session j

/-- A commit keeps the events of the key. -/
theorem Store.KeyedInv.commit (h : s.KeyedInv k projects) (hidle : (s.session i).Idle) :
    (s.commit i).KeyedInv k projects where
  inv := h.inv.commit
  projected := by
    have hown := (h.session i).own
    obtain ⟨hsub, heq⟩ := (h.session i).projected fun req e => hidle req _
    simp only [Store.commit, Store.visible, Store.projectedBy, withKey_append]
    refine ⟨h.projected.1.append (hsub.filter _), fun hp => ?_⟩
    rw [h.projected.2 hp, heq hp]
  session := fun j => by
    by_cases hj : j = i
    · subst hj
      rw [Store.commit_visible_self]
      simp only [Store.commit, Function.update_self]
      refine .fresh fun c hc => ?_
      have hold := (h.session j).call c hc
      cases c with
      | running req pc => exact absurd hc (hidle req pc)
      | _ => exact hold
    · -- the others come to see the rows that are committed
      rw [Store.commit_session_ne hj, Store.commit_visible_ne hj]
      refine (h.session j).grow ?_ ?_
      · intro e he
        simp only [Store.visible, List.mem_append] at he ⊢
        tauto
      · intro e he
        simp only [Store.visible, List.mem_append] at he ⊢
        have := (h.session i).own e
        tauto

/-- A rollback keeps the events of the key. -/
theorem Store.KeyedInv.rollback (h : s.KeyedInv k projects) :
    (s.rollback i).KeyedInv k projects where
  inv := h.inv.rollback
  projected := h.projected
  session := fun j => by
    by_cases hj : j = i
    · subst hj
      simp only [Store.rollback, Store.setSession, Function.update_self]
      exact .fresh fun _ hc => absurd hc (Option.some_ne_none _).symm
    · rw [Store.rollback_visible_ne hj, Store.rollback_session_ne hj]
      exact h.session j

variable [Fintype ι]

/-- One step whose insert does not meet the key alone keeps the invariant. -/
theorem Store.KeyedInv.step (h : s.KeyedInv k projects) (hcarry : CallsCarry k projects l)
    (hslot : SlotTakenWithKey s l) (hs : step s l = some s') : s'.KeyedInv k projects := by
  cases step_cases hs with
  | @move _ i c hm => exact h.move hm ((h.session i).move h.inv hm hcarry hslot)
  | insert hc hr hb => exact h.insert hc hr hb
  | project hc => exact h.project hc
  | commit hidle => exact h.commit hidle
  | rollback => exact h.rollback

/-- The invariant holds along every run whose inserts never meet the key alone. -/
theorem Store.KeyedInv.run (h : s.KeyedInv k projects)
    (hr : Run Events.step (fun s l => CallsCarry k projects l ∧ SlotTakenWithKey s l) s s') :
    s'.KeyedInv k projects :=
  hr.invariant h fun _ _ _ hi hok hs => hi.step hok.1 hok.2 hs

end Steps

/-! ## What the callers get -/

section Outcome

variable [DecidableEq α] [DecidableEq κ] {k : κ} {projects : Bool} {s s' : Store ι α β κ}
  {i j : ι}

/-- The events two sessions' calls returned are one. -/
theorem Store.KeyedInv.same_event (h : s.KeyedInv k projects) {e e' : DomainEvent α β κ}
    (he : e ∈ s.visible i) (he' : e' ∈ s.visible j) (hk : e.idempotencyKey = some k)
    (hk' : e'.idempotencyKey = some k) : e = e' := by
  have onlyOne : ∀ m, e ∈ s.visible m → e' ∈ s.visible m → e = e' := fun m hm hm' =>
    (h.inv.visible m).eq_of_key hm hm' hk hk'
  by_cases hij : i = j
  · subst hij
    exact onlyOne i he he'
  · rcases List.mem_append.1 he with hc | hown
    · exact onlyOne j (List.mem_append_left _ hc) he'
    · rcases List.mem_append.1 he' with hc' | hown'
      · exact onlyOne i he (List.mem_append_left _ hc')
      · have hdisj := h.inv.disjoint i j hij e hown e' hown'
        exact absurd (.inr ⟨by simp [hk], hk.trans hk'.symm⟩) hdisj

/-- How many steps of its own a call is from its end, at most. -/
def Call.remaining : Call α β κ → Nat
  | .running _ .checkKey => 8
  | .running _ .readClock => 7
  | .running _ (.attempt 0 _) => 6
  | .running _ (.readMax _ _) => 5
  | .running _ (.insert _ _ _) => 4
  | .running _ (.slotCheck _ _ _) => 3
  | .running _ (.attempt (_ + 1) _) => 2
  | .running _ (.project _) => 1
  | .returned _ _ _ | .raised _ _ => 0

/-- A move of a call brings it nearer to its end. -/
theorem CallMove.remaining_lt {l : Label ι α β κ} {req : Request α β κ} {pc : Pc α β κ}
    {c : Call α β κ} (hm : CallMove s i l (some (.running req pc)) c)
    (hinv : CallInv k projects (s.visible i) (s.session i) (.running req pc)) :
    c.remaining < (Call.running req pc).remaining := by
  cases hm with
  | start _ h => exact absurd rfl (h _ _)
  | @exhausted _ n _ _ | @found _ n _ _ _ => cases n <;> simp [Call.remaining]
  | @notFound _ n _ hnone =>
    -- the look-up of the second round finds the event
    have ⟨hreq, _, hn⟩ := hinv
    rw [Store.existing_eq hreq.1, findByIdempotencyKey_eq_none] at hnone
    rcases hn with rfl | ⟨_, e, he, hk⟩
    · simp [Call.remaining]
    · exact absurd hk (hnone e he)
  | _ => simp [Call.remaining]

/-- What the callers of a key get. -/
structure AppendedOnce [DecidableEq ι] [Fintype ι] (k : κ) (projects : Bool)
    (s : Store ι α β κ) : Prop where
  /-- no call has raised -/
  never_raised : ∀ i req error, (s.session i).call ≠ some (.raised req error)
  /-- a call has returned the one event of the key, and its projector has run once for it -/
  returned : ∀ i req e b, (s.session i).call = some (.returned req e b) →
    withKey k (s.visible i) = [e] ∧ (withKey k (s.projectedBy i)).Sublist [e] ∧
      (projects = true → withKey k (s.projectedBy i) = [e])
  /-- all calls return the same event -/
  same : ∀ i j req req' e e' b b', (s.session i).call = some (.returned req e b) →
    (s.session j).call = some (.returned req' e' b') → e = e'
  /-- a running call can go on, unless a session that is not waiting itself has stored the
      event and not ended its transaction yet -/
  goes_on : ∀ i req pc, (s.session i).call = some (.running req pc) →
    (∃ l s', (l = .statement i ∨ ∃ t, l = .clock i t) ∧ step s l = some s') ∨
      ∃ j, (s.session j).own ≠ [] ∧
        ∀ req n t next, (s.session j).call ≠ some (.running req (.insert n t next))
  /-- every step of a running call brings it nearer to its end -/
  terminates : ∀ i req pc l s', (s.session i).call = some (.running req pc) →
    (l = .statement i ∨ ∃ t, l = .clock i t) → step s l = some s' →
    ∃ c, (s'.session i).call = some c ∧ c.remaining < (Call.running req pc).remaining

omit [DecidableEq α] [DecidableEq κ] in
/-- An event returned as new is projected. -/
theorem SessionInv.projected_of_returned {visible : List (DomainEvent α β κ)}
    {t : Session α β κ} (h : SessionInv k projects visible t) {req : Request α β κ}
    {e : DomainEvent α β κ} {b : Bool} (hc : t.call = some (.returned req e b)) :
    t.projected.Sublist t.own ∧ (projects = true → t.projected = t.own) :=
  h.projected fun _ _ hp => nomatch hc.symm.trans hp

variable [DecidableEq ι] [Fintype ι]

/-- The event of the key is appended once. -/
theorem Store.KeyedInv.appendedOnce (h : s.KeyedInv k projects) : AppendedOnce k projects s where
  never_raised := fun i _ _ hc => (h.session i).call _ hc
  returned := fun i req e b hc => by
    have ⟨hmem, hk⟩ := (h.session i).call _ hc
    have hone := (h.inv.visible i).withKey_eq hmem hk
    have ⟨hsub, heq⟩ := (h.session i).projected_of_returned hc
    refine ⟨hone, ?_, fun hp => ?_⟩
    · rw [← hone, Store.projectedBy, Store.visible, withKey_append, withKey_append]
      exact h.projected.1.append (hsub.filter _)
    · rw [← hone, Store.projectedBy, Store.visible, withKey_append, withKey_append,
        h.projected.2 hp, heq hp]
  same := fun i j _ _ _ _ _ _ hc hc' =>
    have ⟨hmem, hk⟩ := (h.session i).call _ hc
    have ⟨hmem', hk'⟩ := (h.session j).call _ hc'
    h.same_event hmem hmem' hk hk'
  goes_on := fun i req pc hc => by
    cases hs : execStatement s i req pc with
    | some s' => exact .inl ⟨.statement i, s', .inl rfl, (step_statement hc).trans hs⟩
    | none =>
      rcases execStatement_eq_none hs with rfl | ⟨n, t, next, rfl, j, _, e, he, _⟩
      · have hclock : Events.step s (.clock i 0) =
            some (s.setCall i (.running req (.attempt 0 0))) := by simp only [Events.step, hc]
        exact .inl ⟨_, _, .inr ⟨0, rfl⟩, hclock⟩
      · -- the session that blocks has stored an event, hence is past its insert
        have hown : (s.session j).own ≠ [] := List.ne_nil_of_mem he
        exact .inr ⟨j, hown, fun _ _ _ _ hj => hown ((h.session j).call _ hj).2.1⟩
  terminates := fun i req pc l s' hc hl hs => by
    have hsession : l.session = i := by rcases hl with rfl | ⟨t, rfl⟩ <;> rfl
    have hcall := (h.session i).call _ hc
    cases step_cases hs with
    | @move _ j c hm =>
      obtain rfl := hm.session_eq.symm.trans hsession
      rw [hc] at hm
      exact ⟨c, Store.setCall_call, hm.remaining_lt hcall⟩
    | @insert j req' n t next hc' _ _ =>
      obtain rfl : j = i := hsession
      cases hc.symm.trans hc'
      exact ⟨_, Store.insertRow_call, by simp [Call.remaining]⟩
    | @project j req' e hc' =>
      obtain rfl : j = i := hsession
      cases hc.symm.trans hc'
      exact ⟨_, Store.runProjector_call, by simp [Call.remaining]⟩
    | commit _ => simp at hl
    | rollback => simp at hl

/-- Along every run of calls under one key whose inserts never meet the key alone, exactly
    one event of the key is stored, every call ends by returning it, and its projector runs
    exactly once for it (at most once if some of the calls have no projector). -/
theorem idempotent_append {log : List (DomainEvent α β κ)} (hlog : WellFormed log)
    (h : Run step (fun s l => CallsCarry k projects l ∧ SlotTakenWithKey s l)
      (Store.quiescent log) s) : AppendedOnce k projects s :=
  ((keyedInv_quiescent hlog).run h).appendedOnce

/-- An insert that meets the key while its slot is free ends in `IntegrityError` as soon as
    the call goes on. -/
theorem raises_of_keyAlone {req : Request α β κ} {n next : Nat} {t : Time}
    (hc : (s.session i).call = some (.running req (.insert n t next)))
    (hkey : ∃ e ∈ s.visible i, SameKey e (req.candidate t next))
    (hfree : ¬ ∃ e ∈ s.visible i, SameSlot e (req.candidate t next)) :
    ∃ s₁ s₂, step s (.statement i) = some s₁ ∧ step s₁ (.statement i) = some s₂ ∧
      (s₂.session i).call = some (.raised req .integrityError) := by
  obtain ⟨e, he, hsame⟩ := hkey
  have hr : Refused s i (req.candidate t next) := ⟨e, he, .inr hsame⟩
  let s₁ := s.setCall i (.running req (.slotCheck n t next))
  have hs₁ : step s (.statement i) = some s₁ := by
    rw [step_statement hc]
    exact if_pos hr
  have hnot : ¬ SlotTaken s₁ i req.aggregate next := by
    simp only [SlotTaken, s₁, Store.setCall_visible]
    exact hfree
  have hs₂ : step s₁ (.statement i) = some (s₁.setCall i (.raised req .integrityError)) := by
    rw [step_statement Store.setCall_call]
    exact if_neg hnot
  exact ⟨_, _, hs₁, hs₂, Store.setCall_call⟩

end Outcome

/-! ## Two callers -/

section Runs

/-- Writer `b` reads the next number of writer `a`'s aggregate before writer `a` commits,
    so it meets key and slot together, retries, and finds the event. -/
def sharedSlotRace : List (Label Writer Nat Unit Nat) :=
  lookUps .a (keyedRequest 0) 10 ++ lookUps .b (keyedRequest 0) 11 ++ [.statement .b] ++
    storeAndCommit .a ++ [.statement .b, .statement .b, .statement .b, .commit .b]

/-- Two sessions of one key race for one slot, and one event is appended. -/
theorem idempotent_append_sharedSlot :
    ∃ s : Store Writer Nat Unit Nat,
      Run.exec (Run.guarded step fun s l => CallsCarry 7 true l ∧ SlotTakenWithKey s l)
        (Store.quiescent []) sharedSlotRace = some s ∧
      (∃ e, (s.session .b).call = some (.returned (keyedRequest 0) e false)) ∧
      AppendedOnce 7 true s :=
  ⟨_, rfl, ⟨_, rfl⟩, idempotent_append wellFormed_nil (Run.of_exec_guarded sharedSlotRace rfl)⟩

/-- Two callers draw an aggregate each: the second raises, although the first has stored
    the event of the key. -/
theorem idempotent_append_two_aggregates :
    ∃ s : Store Writer Nat Unit Nat,
      Run step (fun _ l => CallsCarry 7 true l) (Store.quiescent []) s ∧
      (withKey 7 s.committed).length = 1 ∧
      (s.session .b).call = some (.raised (keyedRequest 1) .integrityError) ∧
      ¬ AppendedOnce 7 true s :=
  ⟨_, Run.of_exec_guarded (.call .b (keyedRequest 1) :: keyRace) rfl, rfl, rfl,
    fun h => h.never_raised .b _ _ rfl⟩

end Runs

end MiniGrc.Events
