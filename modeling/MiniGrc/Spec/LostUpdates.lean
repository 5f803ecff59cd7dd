import MiniGrc.App.ConcurrentRegister
import MiniGrc.App.RegisterConfigs
import MiniGrc.ForStd.Run
import MiniGrc.Spec.BulkUpdates

/-!
# Lost updates

The version that a request expects is compared with the row that it has read, not with the
row that it writes. No update is lost along the runs in which no other request's update of
the row is committed between a request's read and its own commit (`ReadCurrent`).

## Key results

- `State.Inv.step`: a step under `ReadCurrent`
- `no_lost_update`: the runs under the condition
- `lost_update`: two requests that overlap
-/

namespace MiniGrc.ConcurrentRegister

open Registers

variable {ι : Type} [DecidableEq ι] {clock : UpdateClock} {config : RegisterConfig} {model : Model}
  {id : Id} {s s' : State clock ι} {i : ι} {r : Request}

/-! ## The property -/

/-- Every accepted request carries the `updated_at` that the row had right before the commit,
    and no two that changed the row carry the same. -/
structure NoLostUpdate (accepted : List Accepted) : Prop where
  expected : ∀ a ∈ accepted, a.updates ≠ [] ∧
    ∀ u ∈ a.updates, u.expectedUpdatedAt = some a.before
  once : accepted.Pairwise fun a b => a.changed → b.changed →
    ∀ u ∈ a.updates, ∀ v ∈ b.updates, u.expectedUpdatedAt ≠ v.expectedUpdatedAt

/-- No update of the row is committed between the read of a request and its commit. -/
def ReadCurrent (s : State clock ι) : Label ι → Prop
  | .commit i => ∀ r ∈ s.request i, r.seen = s.version
  | _ => True

instance (s : State clock ι) (l : Label ι) : Decidable (ReadCurrent s l) :=
  match l with
  | .commit i => inferInstanceAs (Decidable (∀ r ∈ s.request i, r.seen = s.version))
  | .read .. | .flush _ | .rollback _ => inferInstanceAs (Decidable True)

/-! ## The invariant -/

/-- What holds of the open request of a session. -/
structure Sound (s : State clock ι) (i : ι) (r : Request) : Prop where
  nonempty : r.updates ≠ []
  expected : ∀ u ∈ r.updates, u.expectedUpdatedAt = some r.loaded.updatedAt
  seen : r.seen ≤ s.version
  current : r.seen = s.version → r.loaded.updatedAt = s.row.updatedAt
  written : ∀ row, r.flush = .written row →
    s.lock = some i ∧ s.row.updatedAt < row.updatedAt ∧ row.updatedAt < clock.reading s.ticks

/-- The invariant: the row was updated in the past, later than any accepted request expected. -/
structure State.Inv (s : State clock ι) : Prop where
  past : s.row.updatedAt < clock.reading s.ticks
  sound : ∀ i r, s.request i = some r → Sound s i r
  later : ∀ a ∈ s.accepted, a.changed → a.before < s.row.updatedAt
  noLostUpdate : NoLostUpdate s.accepted

/-- A request that passes its checks expects the `updated_at` of the row. -/
theorem expected_of_checkRequest {row : Row} {role : String} {updates : List Update}
    (h : checkRequest config row role updates = .ok ()) :
    ∀ u ∈ updates, u.expectedUpdatedAt = some row.updatedAt := by
  obtain ⟨⟨⟩, -, h⟩ := Except.bind_eq_ok.1 h
  exact fun u hu => (checkRow_eq_ok.1 (Except.forM_eq_ok.1 h u hu)).1

/-- The requests are sound if the new one is and the others stay so. -/
theorem sound_of_update {r' : Option Request}
    (hreq : s'.request = Function.update s.request i r')
    (hnew : ∀ q, r' = some q → Sound s' i q)
    (hold : ∀ j q, j ≠ i → s.request j = some q → Sound s' j q) :
    ∀ j q, s'.request j = some q → Sound s' j q := by
  rw [hreq]
  exact (Function.forall_update_iff s.request fun j r => ∀ q, r = some q → Sound s' j q).2
    ⟨hnew, fun j hj q => hold j q hj⟩

/-! ## The steps -/

theorem State.Inv.read {updates : List Update} (h : s.Inv) (hne : updates ≠ [])
    (hexpected : ∀ u ∈ updates, u.expectedUpdatedAt = some s.row.updatedAt) :
    (s.setRequest i (some { updates, loaded := s.row, seen := s.version })).Inv where
  past := h.past
  sound := by
    refine sound_of_update rfl (fun q hq => ?_) fun j q _ hq => { h.sound j q hq with }
    obtain rfl := Option.some.inj hq
    exact ⟨hne, hexpected, le_rfl, fun _ => rfl, fun row hrow => by cases hrow⟩
  later := h.later
  noLostUpdate := h.noLostUpdate

/-- A request goes without a trace, and its lock with it. -/
theorem State.Inv.drop (h : s.Inv) (hr : s.request i = some r) {lock : Option ι}
    (hlock : lock = s.lock ∨ lock = none ∧ ∃ row, r.flush = .written row) :
    ({ s.setRequest i none with lock } : State clock ι).Inv where
  past := h.past
  sound := by
    refine sound_of_update rfl (fun q hq => by cases hq) fun j q hj hq => ?_
    refine { h.sound j q hq with written := fun row hrow => ?_ }
    obtain ⟨hlockj, hlt⟩ := (h.sound j q hq).written row hrow
    rcases hlock with rfl | ⟨-, row', hrow'⟩
    · exact ⟨hlockj, hlt⟩
    · -- the lock was that of the request that goes
      have hlocki := ((h.sound i r hr).written row' hrow').1
      exact absurd (Option.some.inj (hlockj.symm.trans hlocki)) hj
  later := h.later
  noLostUpdate := h.noLostUpdate

theorem State.Inv.unchanged (h : s.Inv) (hr : s.request i = some r) :
    (s.setRequest i (some { r with flush := .unchanged })).Inv where
  past := h.past
  sound := by
    refine sound_of_update rfl (fun q hq => ?_) fun j q _ hq => { h.sound j q hq with }
    obtain rfl := Option.some.inj hq
    exact { h.sound i r hr with written := fun row hrow => by cases hrow }
  later := h.later
  noLostUpdate := h.noLostUpdate

/-- An `UPDATE` that gets the lock. -/
theorem State.Inv.written (h : s.Inv) (hr : s.request i = some r) (hlock : s.lock = none)
    (values : String → Json) :
    ({ s.setRequest i (some { r with flush := .written ⟨values, clock.reading s.ticks⟩ }) with
      ticks := s.ticks + 1, lock := some i } : State clock ι).Inv where
  past := h.past.trans (clock.strictMono (Nat.lt_succ_self _))
  sound := by
    refine sound_of_update rfl (fun q hq => ?_) fun j q _ hq => ?_
    · obtain rfl := Option.some.inj hq
      refine { h.sound i r hr with written := fun row hrow => ?_ }
      cases hrow
      exact ⟨rfl, h.past, clock.strictMono (Nat.lt_succ_self _)⟩
    · refine { h.sound j q hq with written := fun row hrow => ?_ }
      -- a request that has written holds the lock, so no other one has
      have hlockj := ((h.sound j q hq).written row hrow).1
      rw [hlock] at hlockj
      cases hlockj
  later := h.later
  noLostUpdate := h.noLostUpdate

/-- An accepted request that has read the row as it is keeps the property. -/
theorem NoLostUpdate.snoc {accepted : List Accepted} {a : Accepted} (h : NoLostUpdate accepted)
    (hne : a.updates ≠ []) (hexpected : ∀ u ∈ a.updates, u.expectedUpdatedAt = some a.before)
    (hlater : ∀ b ∈ accepted, b.changed → b.before < a.before) :
    NoLostUpdate (accepted ++ [a]) where
  expected b hb := by
    rcases List.mem_append.1 hb with hb | hb
    · exact h.expected b hb
    · obtain rfl := List.mem_singleton.1 hb
      exact ⟨hne, hexpected⟩
  once := by
    rw [List.pairwise_append]
    refine ⟨h.once, List.pairwise_singleton _ _, fun b hb a' ha' hbc _ u hu v hv heq => ?_⟩
    obtain rfl := List.mem_singleton.1 ha'
    -- both would expect the time before their commits, which is later for the new one
    rw [(h.expected b hb).2 u hu, hexpected v hv] at heq
    exact (hlater b hb hbc).ne (Option.some.inj heq)

omit [DecidableEq ι] in
/-- What a request that has read the row as it is expects. -/
theorem Sound.expected_current (h : Sound s i r) (hseen : r.seen = s.version) :
    ∀ u ∈ r.updates, u.expectedUpdatedAt = some s.row.updatedAt := fun u hu => by
  rw [h.expected u hu, h.current hseen]

theorem State.Inv.commitUnchanged (h : s.Inv) (hr : s.request i = some r)
    (hseen : r.seen = s.version) :
    ({ s.setRequest i none with
      accepted := s.accepted ++ [⟨r.updates, false, s.row.updatedAt⟩] } : State clock ι).Inv where
  past := h.past
  sound := sound_of_update rfl (fun q hq => by cases hq) fun j q _ hq => { h.sound j q hq with }
  later a ha hchanged := by
    rcases List.mem_append.1 ha with ha | ha
    · exact h.later a ha hchanged
    · obtain rfl := List.mem_singleton.1 ha
      cases hchanged
  noLostUpdate := h.noLostUpdate.snoc (h.sound i r hr).nonempty
    ((h.sound i r hr).expected_current hseen) h.later

theorem State.Inv.commitWritten {row : Row} (h : s.Inv) (hr : s.request i = some r)
    (hflush : r.flush = .written row) (hseen : r.seen = s.version) :
    ({ s.setRequest i none with
      row := row
      version := s.version + 1
      lock := none
      accepted := s.accepted ++ [⟨r.updates, true, s.row.updatedAt⟩] } : State clock ι).Inv := by
  have hsound := h.sound i r hr
  obtain ⟨hlock, hlt, hpast⟩ := hsound.written row hflush
  exact {
    past := hpast
    sound := by
      refine sound_of_update rfl (fun q hq => by cases hq) fun j q hj hq => ?_
      have hq' := h.sound j q hq
      refine ⟨hq'.nonempty, hq'.expected, hq'.seen.trans (Nat.le_succ _), fun hseen' => ?_,
        fun row' hrow' => ?_⟩
      · -- what another request has read is not the row any more
        exact absurd (hseen' ▸ hq'.seen) (Nat.not_succ_le_self _)
      · have hlockj := (hq'.written row' hrow').1
        rw [hlock] at hlockj
        exact absurd (Option.some.inj hlockj).symm hj
    later := fun a ha hchanged => by
      rcases List.mem_append.1 ha with ha | ha
      · exact (h.later a ha hchanged).trans hlt
      · obtain rfl := List.mem_singleton.1 ha
        exact hlt
    noLostUpdate := h.noLostUpdate.snoc hsound.nonempty (hsound.expected_current hseen) h.later }

/-- A step keeps the invariant, if a commit is that of a request that has read the row as it
    is. -/
theorem State.Inv.step {l : Label ι} (h : s.Inv) (hok : ReadCurrent s l)
    (hstep : step config model id s l = some s') : s'.Inv := by
  cases l with
  | read i role updates =>
    simp only [ConcurrentRegister.step] at hstep
    split at hstep
    · cases hstep
    · split at hstep
      · cases hstep
      · next hne =>
        split at hstep
        · cases hstep
          exact h
        · next hcheck =>
          cases hstep
          exact h.read hne (expected_of_checkRequest hcheck)
  | flush i =>
    simp only [ConcurrentRegister.step] at hstep
    split at hstep
    · cases hstep
    · next r hr =>
      split at hstep
      · cases hstep
      · cases hstep
      · split at hstep
        · cases hstep
          exact h.unchanged hr
        · split at hstep
          · cases hstep
          · next hlock =>
            have hlock : s.lock = none := Option.not_isSome_iff_eq_none.1 hlock
            split at hstep
            · cases hstep
              exact h.written hr hlock _
            · cases hstep
              exact h.drop hr (.inl rfl)
  | commit i =>
    simp only [ConcurrentRegister.step] at hstep
    split at hstep
    · cases hstep
    · next r hr =>
      -- this is where the condition on the run is used
      have hseen : r.seen = s.version := hok r hr
      split at hstep
      · cases hstep
      · cases hstep
        exact h.commitUnchanged hr hseen
      · next row hflush =>
        cases hstep
        exact h.commitWritten hr hflush hseen
  | rollback i =>
    simp only [ConcurrentRegister.step] at hstep
    split at hstep
    · cases hstep
    · next r hr =>
      cases hstep
      refine h.drop hr ?_
      cases hflush : r.flush with
      | pending => exact .inl rfl
      | unchanged => exact .inl rfl
      | written row => exact .inr ⟨rfl, row, rfl⟩

/-- No update is lost along a run in which each request that commits has read the row as it
    is at its commit. -/
theorem no_lost_update {row : Row} {ticks : Nat} {t : State clock ι}
    (hpast : row.updatedAt < clock.reading ticks)
    (h : Run (step config model id) ReadCurrent (State.initial row ticks) t) :
    NoLostUpdate t.accepted := by
  have hinit : (State.initial row ticks : State clock ι).Inv :=
    ⟨hpast, fun i r hr => (by cases hr), fun a ha => absurd ha List.not_mem_nil,
      fun a ha => absurd ha List.not_mem_nil, .nil⟩
  exact (h.invariant hinit fun t l u ht hok hl => ht.step hok hl).noLostUpdate

/-- The requirement `A.1` that nobody has updated. -/
def firstRequirement : State counter Bool := State.initial (requirementRow "A.1" 0) 1

/-- A new title for the requirement `A.1`. -/
def newTitle (title : String) (expectedUpdatedAt : Time) : Update :=
  { id := 1, expectedUpdatedAt := some expectedUpdatedAt, fields := [("title", .str title)] }

/-- A request after another. -/
def inTurn : List (Label Bool) :=
  [.read false "operator" [newTitle "Access rights" 0], .flush false, .commit false,
    .read true "operator" [newTitle "Access rules" 1], .flush true, .commit true]

/-- Two requests, one after the other, lose nothing. -/
theorem no_lost_update_inTurn :
    ∃ t, Run (step requirementsRegisterConfig requirementTexts 1) ReadCurrent
        firstRequirement t ∧
      t.accepted.map Accepted.changed = [true, true] ∧ NoLostUpdate t.accepted := by
  obtain ⟨t, ht, hchanged⟩ : ∃ t, Run.exec
      (Run.guarded (step requirementsRegisterConfig requirementTexts 1) ReadCurrent)
      firstRequirement inTurn = some t ∧
        t.accepted.map Accepted.changed = [true, true] := ⟨_, rfl, rfl⟩
  have hrun := Run.of_exec_guarded _ ht
  exact ⟨t, hrun, hchanged, no_lost_update (by decide) hrun⟩

/-- Both requests have read the row before either has written it. -/
def overlapping : List (Label Bool) :=
  [.read false "operator" [newTitle "Access rights" 0],
    .read true "operator" [newTitle "Access rules" 0],
    .flush false, .commit false, .flush true, .commit true]

/-- Two requests that expect the same `updated_at` and both change the row are accepted. -/
theorem lost_update :
    ∃ t, Run (step requirementsRegisterConfig requirementTexts 1) (fun _ _ => True)
        firstRequirement t ∧
      ¬ NoLostUpdate t.accepted := by
  obtain ⟨t, ht, haccepted⟩ : ∃ t, Run.exec (step requirementsRegisterConfig requirementTexts 1)
      firstRequirement overlapping = some t ∧
        t.accepted = [⟨[newTitle "Access rights" 0], true, 0⟩,
          ⟨[newTitle "Access rules" 0], true, 1⟩] := ⟨_, rfl, rfl⟩
  refine ⟨t, Run.of_exec_true _ ht, fun h => ?_⟩
  have honce := (List.pairwise_cons.1 (haccepted ▸ h.once)).1 _ (List.mem_singleton.2 rfl)
  exact honce rfl rfl _ (List.mem_singleton.2 rfl) _ (List.mem_singleton.2 rfl) rfl

end MiniGrc.ConcurrentRegister
