import MiniGrc.ForStd.List
import MiniGrc.Spec.EventStore

/-!
# The replay order against the append order

`rebuild_projection` replays events by their `recorded_at`, a clock reading that a call
takes before it wins a sequence number and keeps over its retries. The replay follows
the append order of every aggregate as long as no event is stored by a call whose
reading an event of the same aggregate has overtaken (`ReadingCurrent`). A writer that
is overtaken stores its event later and has it replayed earlier.

## Key results

- `replay_refines_append`: along every run whose steps store no overtaken reading, the
  replay order restricted to an aggregate is the append order
- `replay_overtaken`: a run of two writers whose events are replayed in reverse
-/

namespace MiniGrc.Events

variable {ι α β κ : Type}

/-- If the step stores an event, no stored event of its aggregate was recorded after the
    clock reading that the call holds. -/
def ReadingCurrent (s : Store ι α β κ) (l : Label ι α β κ) : Prop :=
  ∀ x ∈ s.attempted l, ¬ Refused s x.1 x.2 →
    ∀ e ∈ s.visible x.1, e.aggregate = x.2.aggregate → e.recordedAt ≤ x.2.recordedAt

instance [DecidableEq α] [DecidableEq κ] (s : Store ι α β κ) :
    DecidablePred (ReadingCurrent s) :=
  fun l => inferInstanceAs (Decidable (∀ x ∈ s.attempted l, _ → ∀ e ∈ s.visible x.1, _ → _))

/-- The events of each aggregate were recorded in insertion order. -/
def RecordedInOrder [DecidableEq α] (log : List (DomainEvent α β κ)) : Prop :=
  ∀ a, (ofAggregate log a).Pairwise fun e e' => e.recordedAt ≤ e'.recordedAt

/-- Events that stand in order within their aggregates were recorded in order. -/
theorem recordedInOrder_of_pairwise [DecidableEq α] {log : List (DomainEvent α β κ)}
    (h : log.Pairwise fun e e' => e.aggregate = e'.aggregate → e.recordedAt ≤ e'.recordedAt) :
    RecordedInOrder log := by
  intro a
  refine List.pairwise_filter.2 (h.imp fun {e e'} hle he he' => hle ?_)
  rw [decide_eq_true_eq] at he he'
  exact he.trans he'.symm

section Logs

/-- The numbers of an aggregate increase in insertion order. -/
theorem WellFormed.sequence_lt [DecidableEq α] {log : List (DomainEvent α β κ)}
    (h : WellFormed log) (a : α) :
    (ofAggregate log a).Pairwise fun e e' => e.aggregateSequence < e'.aggregateSequence := by
  rw [← List.pairwise_map, h.sequences]
  exact List.pairwise_lt_range'

/-- No two events occupy one slot. -/
theorem WellFormed.not_sameSlot [DecidableEq α] {log : List (DomainEvent α β κ)}
    (h : WellFormed log) : log.Pairwise fun e e' => ¬ SameSlot e e' := by
  refine List.pairwise_iff_getElem.2 fun i j hi hj hij hslot => ?_
  have hlt := List.pairwise_filter.1 (h.sequence_lt log[i].aggregate)
  have hseq := List.pairwise_iff_getElem.1 hlt i j hi hj hij (by simp) (by simp [hslot.1])
  exact Nat.ne_of_lt hseq hslot.2

/-- If an aggregate has events with the number 1 only, it has one event. -/
theorem WellFormed.ofAggregate_eq_singleton [DecidableEq α] {log : List (DomainEvent α β κ)}
    {e : DomainEvent α β κ} (h : WellFormed log) (he : e ∈ log)
    (hone : ∀ e' ∈ log, e'.aggregate = e.aggregate → e'.aggregateSequence = 1) :
    ofAggregate log e.aggregate = [e] := by
  have hmem := mem_ofAggregate.2 ⟨he, rfl⟩
  have hlt := h.sequence_lt e.aggregate
  have hone' : ∀ e' ∈ ofAggregate log e.aggregate, e'.aggregateSequence = 1 := by
    intro e' he'
    obtain ⟨he', haggr⟩ := mem_ofAggregate.1 he'
    exact hone e' he' haggr
  match hl : ofAggregate log e.aggregate with
  | [] => simp [hl] at hmem
  | [x] => rw [hl, List.mem_singleton] at hmem; rw [hmem]
  | x :: y :: rest =>
    rw [hl] at hlt hone'
    have hxy : x.aggregateSequence < y.aggregateSequence :=
      (List.pairwise_cons.1 hlt).1 y List.mem_cons_self
    have hx := hone' x (by simp)
    have hy := hone' y (by simp)
    omega

variable [LinearOrder α] {log : List (DomainEvent α β κ)}

omit [LinearOrder α] in
theorem ReplayLe.recordedAt_le [LinearOrder α] {e e' : DomainEvent α β κ} (h : ReplayLe e e') :
    e.recordedAt ≤ e'.recordedAt := by
  rcases h with hlt | ⟨heq, _⟩
  · exact hlt.le
  · exact heq.le

/-- Two events that are replayed at one place occupy one slot. -/
theorem ReplayLe.sameSlot {e e' : DomainEvent α β κ} (h : ReplayLe e e') (h' : ReplayLe e' e) :
    SameSlot e e' := by
  unfold ReplayLe at h h'
  unfold SameSlot
  grind

instance : Std.Total (ReplayLe : DomainEvent α β κ → DomainEvent α β κ → Prop) where
  total e e' := by
    unfold ReplayLe
    grind

instance : IsTrans (DomainEvent α β κ) ReplayLe where
  trans e₁ e₂ e₃ := by
    unfold ReplayLe
    grind

/-- Sorting for a replay keeps the order of an aggregate whose events were recorded in
    insertion order. -/
theorem ofAggregate_replayOrder (h : WellFormed log) (ho : RecordedInOrder log) (a : α) :
    ofAggregate (replayOrder log) a = ofAggregate log a := by
  refine List.filter_insertionSort ?_
  refine ((ho a).and (h.sequence_lt a)).imp_of_mem ?_
  intro e e' he he' ⟨hrec, hseq⟩
  have haggr : e.aggregate = e'.aggregate :=
    (mem_ofAggregate.1 he).2.trans (mem_ofAggregate.1 he').2.symm
  rcases Nat.lt_or_eq_of_le hrec with hlt | heq
  · exact .inl hlt
  · exact .inr ⟨heq, .inr ⟨haggr, hseq.le⟩⟩

/-- For a well-formed log the replay follows the append order of every aggregate exactly
    when each aggregate's events were recorded in insertion order. -/
theorem replay_in_order_iff (h : WellFormed log) :
    (∀ a, (ofAggregate (replayOrder log) a).Pairwise
      fun e e' => e.aggregateSequence < e'.aggregateSequence) ↔ RecordedInOrder log := by
  refine ⟨fun hlt a => ?_, fun ho a => ofAggregate_replayOrder h ho a ▸ h.sequence_lt a⟩
  have hperm : (ofAggregate (replayOrder log) a).Perm (ofAggregate log a) :=
    (List.perm_insertionSort ..).filter _
  have heq : ofAggregate (replayOrder log) a = ofAggregate log a :=
    hperm.eq_of_pairwise (fun _ _ _ _ hab hba => absurd hab (Nat.lt_asymm hba)) (hlt a)
      (h.sequence_lt a)
  have hsorted : (ofAggregate (replayOrder log) a).Pairwise ReplayLe :=
    (List.pairwise_insertionSort ReplayLe log).filter _
  rw [heq] at hsorted
  exact hsorted.imp ReplayLe.recordedAt_le

end Logs

section Preserved

variable [DecidableEq α] {s s' : Store ι α β κ} {i : ι}

/-- The committed events, and what each session sees, were recorded in order. -/
structure Store.RecordedInOrder (s : Store ι α β κ) : Prop where
  committed : Events.RecordedInOrder s.committed
  visible : ∀ i, Events.RecordedInOrder (s.visible i)

theorem RecordedInOrder.snoc {log : List (DomainEvent α β κ)} {e : DomainEvent α β κ}
    (h : RecordedInOrder log)
    (he : ∀ e' ∈ log, e'.aggregate = e.aggregate → e'.recordedAt ≤ e.recordedAt) :
    RecordedInOrder (log ++ [e]) := by
  intro a
  rw [ofAggregate_append, List.pairwise_append]
  refine ⟨h a, (List.pairwise_singleton ..).filter _, ?_⟩
  intro e₁ he₁ e₂ he₂
  obtain ⟨hmem, rfl⟩ := mem_ofAggregate.1 he₂
  obtain rfl := List.mem_singleton.1 hmem
  obtain ⟨hmem, haggr⟩ := mem_ofAggregate.1 he₁
  exact he e₁ hmem haggr

variable [DecidableEq ι]

theorem Store.RecordedInOrder.commit (h : s.RecordedInOrder) (hinv : s.Inv) :
    (s.commit i).RecordedInOrder where
  committed := h.visible i
  visible := fun j a => by
    by_cases hj : j = i
    · subst hj
      rw [Store.commit_visible_self]
      exact h.visible j a
    · rw [Store.commit_visible_ne hj]
      -- of two sessions' uncommitted events at most one's belong to the aggregate
      rcases WellFormed.ofAggregate_eq_nil (hinv.visible i) (hinv.visible j)
        (hinv.disjoint i j (Ne.symm hj)) a with hnil | hnil
      · simpa [ofAggregate_append, hnil, Store.visible] using h.visible j a
      · simpa [ofAggregate_append, hnil, Store.visible] using h.visible i a

theorem Store.RecordedInOrder.rollback (h : s.RecordedInOrder) :
    (s.rollback i).RecordedInOrder where
  committed := h.committed
  visible := fun j => by
    by_cases hj : j = i
    · subst hj
      rw [Store.rollback_visible_self]
      exact h.committed
    · rw [Store.rollback_visible_ne hj]
      exact h.visible j

variable [Fintype ι] [DecidableEq κ] {l : Label ι α β κ}

/-- One step that stores no overtaken reading keeps the events recorded in order. -/
theorem Store.RecordedInOrder.step (h : s.RecordedInOrder) (hinv : s.Inv)
    (hok : ReadingCurrent s l) (hs : step s l = some s') : s'.RecordedInOrder := by
  cases step_cases hs with
  | move _ => exact ⟨h.committed, fun j => by simpa using h.visible j⟩
  | @insert i req n t next hc hr _ =>
    refine ⟨h.committed, fun j => ?_⟩
    by_cases hj : j = i
    · subst hj
      rw [Store.insertRow_visible_self]
      exact (h.visible j).snoc (hok _ (Store.attempted_insert hc) hr)
    · rw [Store.insertRow_visible_ne hj]
      exact h.visible j
  | project _ => exact ⟨h.committed, fun j => by simpa using h.visible j⟩
  | commit _ => exact h.commit hinv
  | rollback => exact h.rollback

/-- The events stay recorded in order along a run that stores no overtaken reading. -/
theorem Store.RecordedInOrder.run (h : s.RecordedInOrder) (hinv : s.Inv)
    (hr : Run Events.step ReadingCurrent s s') : s'.RecordedInOrder :=
  (hr.invariant (P := fun s => s.Inv ∧ s.RecordedInOrder) ⟨hinv, h⟩
    fun _ _ _ hi hok hs => ⟨hi.1.step hs, hi.2.step hi.1 hok hs⟩).2

end Preserved

section Runs

variable [DecidableEq ι] [Fintype ι] [LinearOrder α] [DecidableEq κ] {s : Store ι α β κ}

/-- Along a run whose steps store no overtaken reading, the replay of any aggregate's
    events is their append order, strictly increasing in the sequence number. -/
theorem replay_refines_append (h : Run step ReadingCurrent (Store.quiescent []) s) (a : α) :
    ofAggregate (replayOrder s.committed) a = ofAggregate s.committed a ∧
      (ofAggregate (replayOrder s.committed) a).Pairwise
        fun e e' => e.aggregateSequence < e'.aggregateSequence := by
  have hinv : (Store.quiescent [] : Store ι α β κ).Inv := inv_quiescent wellFormed_nil
  have hstart : (Store.quiescent [] : Store ι α β κ).RecordedInOrder :=
    ⟨fun _ => .nil, fun _ _ => .nil⟩
  have ho : s.RecordedInOrder := hstart.run hinv h
  have hwf := (hinv.run h).committed
  have heq := ofAggregate_replayOrder hwf ho.committed a
  exact ⟨heq, heq ▸ hwf.sequence_lt a⟩

/-- A request without a key on one aggregate. -/
def plainRequest : Request Nat Unit Nat := { aggregate := 0, body := () }

/-- Two sessions read the clock one after the other, then store in that order. -/
def inTurn : List (Label Writer Nat Unit Nat) :=
  lookUps .a plainRequest 10 ++ lookUps .b plainRequest 11 ++ storeAndCommit .a ++ storeAndCommit .b

theorem replay_refines_append_inTurn :
    ∃ s : Store Writer Nat Unit Nat,
      Run.exec (Run.guarded step ReadingCurrent) (Store.quiescent []) inTurn = some s ∧
      (ofAggregate (replayOrder s.committed) 0).map DomainEvent.aggregateSequence = [1, 2] ∧
      ofAggregate (replayOrder s.committed) 0 = ofAggregate s.committed 0 :=
  ⟨_, rfl, rfl, (replay_refines_append (Run.of_exec_guarded inTurn rfl) 0).1⟩

/-- Writer `a` reads the clock and the next number, loses both to writer `b`, and stores
    its event in the second round of the loop, with its first reading. -/
def overtaken : List (Label Writer Nat Unit Nat) :=
  lookUps .a plainRequest 10 ++ [.statement .a] ++
    lookUps .b plainRequest 11 ++ storeAndCommit .b ++
    [.statement .a, .statement .a, .statement .a] ++ storeAndCommit .a

/-- The overtaken session's event is the second of the aggregate and is replayed first. -/
theorem replay_overtaken :
    ∃ s : Store Writer Nat Unit Nat,
      Run step (fun _ _ => True) (Store.quiescent []) s ∧
      (s.committed.map DomainEvent.aggregateSequence = [1, 2] ∧
        (replayOrder s.committed).map DomainEvent.aggregateSequence = [2, 1]) ∧
      ¬ (ofAggregate (replayOrder s.committed) 0).Pairwise
        fun e e' => e.aggregateSequence < e'.aggregateSequence :=
  ⟨_, Run.of_exec_true overtaken rfl, ⟨rfl, rfl⟩, by decide⟩

end Runs
end MiniGrc.Events
