import MiniGrc.ForStd.GuardedMachine
import MiniGrc.App.VersionLifecycle

/-!
# The lifecycle as a state machine

The status machine that the commands of `VersionLifecycle` check, and what the events of
a version that it accepts look like: a version is made effective at most once, right
after its last submission and the approving review, and a superseding or withdrawing
event is its last.
-/

namespace MiniGrc

open Events

/-- The statuses with the events that lead from one to the next; the guard of an event is
    what the command that appends it checks. -/
def lifecycle : GuardedMachine LifecycleStatus LifecycleEvent where
  next _ event :=
    match event with
    | .submittedForReview => .inReview
    | .reviewed decision _ => if decision = .approved then .approved else .draft
    | .madeEffective => .effective
    | .superseded _ => .superseded
    | .withdrawn _ => .withdrawn
  guard status event :=
    match event with
    | .submittedForReview => status = .draft
    | .reviewed _ _ => status = .inReview
    | .madeEffective => status = .approved
    | .superseded _ => status = .effective
    | .withdrawn _ => status ∈ [.draft, .inReview, .approved, .effective]

/-- A lifecycle event of a version, as stored. -/
abbrev Entry := DomainEvent Id LifecycleEvent String

/-- The events of the entries. -/
abbrev bodies (h : List Entry) : List LifecycleEvent := h.map DomainEvent.body

/-- The columns that an entry's projector leaves. -/
def LifecycleColumns.after (c : LifecycleColumns) (e : Entry) : LifecycleColumns :=
  c.apply e.body e.occurredAt e.actorId

/-- The columns that a version's entries leave. -/
def columnsAfter (h : List Entry) : LifecycleColumns := h.foldl LifecycleColumns.after {}

@[simp] theorem columnsAfter_nil : columnsAfter [] = {} := rfl

@[simp] theorem columnsAfter_snoc (h : List Entry) (e : Entry) :
    columnsAfter (h ++ [e]) = (columnsAfter h).after e := by
  simp [columnsAfter]

@[simp] theorem LifecycleColumns.apply_status (c : LifecycleColumns) (b : LifecycleEvent)
    (t : Time) (actor : Option String) :
    (c.apply b t actor).lifecycleStatus = lifecycle.next c.lifecycleStatus b := by
  cases b <;> rfl

@[simp] theorem LifecycleColumns.after_status (c : LifecycleColumns) (e : Entry) :
    (c.after e).lifecycleStatus = lifecycle.next c.lifecycleStatus e.body :=
  apply_status ..

theorem lifecycle_next_eq_effective {s : LifecycleStatus} {b : LifecycleEvent} :
    lifecycle.next s b = .effective ↔ b = .madeEffective := by
  cases b with
  | reviewed d c => cases d <;> simp [lifecycle]
  | _ => simp [lifecycle]

/-- The status column runs through the machine. -/
theorem columnsAfter_status (h : List Entry) :
    (columnsAfter h).lifecycleStatus = lifecycle.run .draft (bodies h) := by
  induction h using List.reverseRecOn with
  | nil => rfl
  | append_singleton h e ih => simp [ih]

/-- Only a superseding event sets `superseded_by_version_id`. -/
theorem LifecycleColumns.apply_supersededBy (c : LifecycleColumns) (b : LifecycleEvent)
    (t : Time) (actor : Option String) :
    (c.apply b t actor).supersededByVersionId =
      match b with
      | .superseded w => some w
      | _ => c.supersededByVersionId := by
  cases b <;> rfl

theorem mem_of_supersededBy {h : List Entry} {w : Id}
    (hw : (columnsAfter h).supersededByVersionId = some w) : .superseded w ∈ bodies h := by
  induction h using List.reverseRecOn with
  | nil => cases hw
  | append_singleton h e ih =>
    rw [columnsAfter_snoc, LifecycleColumns.after, LifecycleColumns.apply_supersededBy] at hw
    rw [bodies, List.map_append, List.mem_append]
    cases hb : e.body with
    | superseded w' =>
      rw [hb] at hw
      obtain rfl := Option.some.inj hw
      exact .inr (by simp [hb])
    | _ =>
      rw [hb] at hw
      exact .inl (ih hw)

/-- A version is superseded exactly when `superseded_by_version_id` is set. -/
theorem superseded_iff {h : List Entry} (ha : lifecycle.Accepts .draft (bodies h)) :
    (columnsAfter h).lifecycleStatus = .superseded ↔
      (columnsAfter h).supersededByVersionId ≠ none := by
  induction h using List.reverseRecOn with
  | nil => simp
  | append_singleton h e ih =>
    rw [bodies, List.map_append, GuardedMachine.accepts_append] at ha
    obtain ⟨hh, hg, _⟩ := ha
    rw [← columnsAfter_status] at hg
    -- the guards leave no event after a superseding one
    have hnot : (columnsAfter h).supersededByVersionId = none := by
      by_contra hne
      rw [(ih hh).2 hne] at hg
      cases hb : e.body <;> simp [lifecycle, hb] at hg
    rw [columnsAfter_snoc, LifecycleColumns.after, LifecycleColumns.apply_status,
      LifecycleColumns.apply_supersededBy]
    cases hb : e.body with
    | reviewed d c => cases d <;> simp [lifecycle, hnot]
    | _ => simp [lifecycle, hnot]

/-! ## The shape of an accepted history -/

/-- What the events of a version in a given status look like. -/
def Shape : LifecycleStatus → List LifecycleEvent → Prop
  | .draft, es => .madeEffective ∉ es
  | .inReview, es => ∃ pre, es = pre ++ [.submittedForReview] ∧ .madeEffective ∉ pre
  | .approved, es => ∃ pre c,
      es = pre ++ [.submittedForReview, .reviewed .approved c] ∧ .madeEffective ∉ pre
  | .effective, es => ∃ pre c,
      es = pre ++ [.submittedForReview, .reviewed .approved c, .madeEffective] ∧
        .madeEffective ∉ pre
  | .superseded, es => ∃ pre c w,
      es = pre ++ [.submittedForReview, .reviewed .approved c, .madeEffective, .superseded w] ∧
        .madeEffective ∉ pre
  | .withdrawn, es => (∃ pre r, es = pre ++ [.withdrawn r] ∧ .madeEffective ∉ pre) ∨
      ∃ pre c r,
        es = pre ++ [.submittedForReview, .reviewed .approved c, .madeEffective, .withdrawn r] ∧
          .madeEffective ∉ pre

theorem shape_next {s : LifecycleStatus} {es : List LifecycleEvent} {e : LifecycleEvent}
    (h : Shape s es) (hg : lifecycle.guard s e) : Shape (lifecycle.next s e) (es ++ [e]) := by
  cases e with
  | submittedForReview =>
    obtain rfl : s = .draft := hg
    exact ⟨es, rfl, h⟩
  | reviewed d c =>
    obtain rfl : s = .inReview := hg
    obtain ⟨pre, rfl, hpre⟩ := h
    cases d with
    | approved => exact ⟨pre, c, by simp, hpre⟩
    | rejected => simpa [lifecycle, Shape] using hpre
  | madeEffective =>
    obtain rfl : s = .approved := hg
    obtain ⟨pre, c, rfl, hpre⟩ := h
    exact ⟨pre, c, by simp, hpre⟩
  | superseded w =>
    obtain rfl : s = .effective := hg
    obtain ⟨pre, c, rfl, hpre⟩ := h
    exact ⟨pre, c, w, by simp, hpre⟩
  | withdrawn r =>
    cases s with
    | draft => exact .inl ⟨es, r, rfl, h⟩
    | inReview =>
      obtain ⟨pre, rfl, hpre⟩ := h
      exact .inl ⟨_, r, rfl, by simpa using hpre⟩
    | approved =>
      obtain ⟨pre, c, rfl, hpre⟩ := h
      exact .inl ⟨_, r, rfl, by simpa using hpre⟩
    | effective =>
      obtain ⟨pre, c, rfl, hpre⟩ := h
      exact .inr ⟨pre, c, r, by simp, hpre⟩
    | superseded => simp [lifecycle] at hg
    | withdrawn => simp [lifecycle] at hg

/-- The events of a version that the machine accepts have the shape of their status. -/
theorem shape_of_accepts {es : List LifecycleEvent} (h : lifecycle.Accepts .draft es) :
    Shape (lifecycle.run .draft es) es :=
  h.invariant (p := fun es s => Shape s es) (by simp [Shape]) fun _ _ _ hs hg => shape_next hs hg

/-- A version that was ever made effective had been approved by a review right after its
    last submission. -/
theorem approved_of_madeEffective {es : List LifecycleEvent} (h : lifecycle.Accepts .draft es)
    (he : .madeEffective ∈ es) :
    ∃ pre c post,
      es = pre ++ .submittedForReview :: .reviewed .approved c :: .madeEffective :: post ∧
        .submittedForReview ∉ post := by
  have hs := shape_of_accepts h
  cases hst : lifecycle.run .draft es with
  | draft => rw [hst] at hs; exact absurd he hs
  | inReview => rw [hst] at hs; obtain ⟨pre, rfl, hpre⟩ := hs; simp [hpre] at he
  | approved => rw [hst] at hs; obtain ⟨pre, c, rfl, hpre⟩ := hs; simp [hpre] at he
  | effective =>
    rw [hst] at hs
    obtain ⟨pre, c, rfl, _⟩ := hs
    exact ⟨pre, c, [], rfl, by simp⟩
  | superseded =>
    rw [hst] at hs
    obtain ⟨pre, c, w, rfl, _⟩ := hs
    exact ⟨pre, c, [.superseded w], rfl, by simp⟩
  | withdrawn =>
    rw [hst] at hs
    rcases hs with ⟨pre, r, rfl, hpre⟩ | ⟨pre, c, r, rfl, _⟩
    · simp [hpre] at he
    · exact ⟨pre, c, [.withdrawn r], rfl, by simp⟩

/-- A superseding or withdrawing event. -/
def LifecycleEvent.Terminal (e : LifecycleEvent) : Prop :=
  (∃ w, e = .superseded w) ∨ ∃ r, e = .withdrawn r

theorem terminal_iff {s : LifecycleStatus} {e : LifecycleEvent} :
    e.Terminal ↔ lifecycle.next s e = .superseded ∨ lifecycle.next s e = .withdrawn := by
  cases e with
  | reviewed d c => cases d <;> simp [LifecycleEvent.Terminal, lifecycle]
  | _ => simp [LifecycleEvent.Terminal, lifecycle]

/-- A terminal event is the last of its version. -/
theorem terminal_is_last {pre post : List LifecycleEvent} {e : LifecycleEvent}
    (h : lifecycle.Accepts .draft (pre ++ e :: post)) (he : e.Terminal) : post = [] := by
  rw [GuardedMachine.accepts_append] at h
  obtain ⟨_, _, hpost⟩ := h
  cases post with
  | nil => rfl
  | cons e' post =>
    -- no guard holds in the status that the event leads to
    have hg : lifecycle.guard (lifecycle.next _ e) e' := hpost.1
    rcases he with ⟨w, rfl⟩ | ⟨r, rfl⟩ <;> cases e' <;> simp [lifecycle] at hg

/-- A version that was made effective and is not effective any more has seen a terminal
    event. -/
theorem terminal_of_madeEffective {es : List LifecycleEvent} (h : lifecycle.Accepts .draft es)
    (he : .madeEffective ∈ es) (hs : lifecycle.run .draft es ≠ .effective) :
    ∃ e ∈ es, e.Terminal := by
  have hshape := shape_of_accepts h
  cases hst : lifecycle.run .draft es with
  | draft => rw [hst] at hshape; exact absurd he hshape
  | inReview => rw [hst] at hshape; obtain ⟨pre, rfl, hpre⟩ := hshape; simp [hpre] at he
  | approved => rw [hst] at hshape; obtain ⟨pre, c, rfl, hpre⟩ := hshape; simp [hpre] at he
  | effective => exact absurd hst hs
  | superseded =>
    rw [hst] at hshape
    obtain ⟨pre, c, w, rfl, _⟩ := hshape
    exact ⟨.superseded w, by simp, .inl ⟨w, rfl⟩⟩
  | withdrawn =>
    rw [hst] at hshape
    rcases hshape with ⟨pre, r, rfl, -⟩ | ⟨pre, c, r, rfl, -⟩
    · exact ⟨.withdrawn r, by simp, .inr ⟨r, rfl⟩⟩
    · exact ⟨.withdrawn r, by simp, .inr ⟨r, rfl⟩⟩

end MiniGrc
