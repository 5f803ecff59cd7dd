import Mathlib.Logic.Relation
import MiniGrc.Spec.LifecycleMachine
import MiniGrc.Spec.Sessions

/-!
# Tables of versions under the lifecycle commands

The invariant `Inv` ties a table of versions to the log of its events: each version's
columns are what its events leave, its events run through the status machine, a parent
has at most one effective version, and superseded versions point forward to a version of
the same parent. `Inv.event` and `Inv.create` say that it is kept by each event that a
command appends and by a new version; it does not depend on the table being policy
versions or control-definition versions.
-/

namespace MiniGrc.VersionLifecycle

open Events VersionRow

variable {ρ β : Type} {P : VersionProjection ρ β}

/-! ## The history of a version -/

/-- The lifecycle event in a stored event. -/
def asEntry (P : VersionProjection ρ β) (e : DomainEvent Id β String) : Option Entry :=
  (P.lifecycleEvent e.body).map fun b => { e with body := b }

/-- The lifecycle events of a version, in insertion order. -/
def history (P : VersionProjection ρ β) (events : List (DomainEvent Id β String)) (k : Id) :
    List Entry :=
  (ofAggregate events k).filterMap (asEntry P)

/-- The status that the log gives a version. -/
def statusIn (P : VersionProjection ρ β) (events : List (DomainEvent Id β String)) (k : Id) :
    LifecycleStatus :=
  lifecycle.run .draft (bodies (history P events k))

section History

variable {events events' : List (DomainEvent Id β String)} {e : DomainEvent Id β String} {k : Id}

/-- The history is read event by event. -/
@[simp] theorem history_append :
    history P (events ++ events') k = history P events k ++ history P events' k := by
  simp [history]

/-- A lifecycle event of the version is in its history. -/
theorem history_singleton_self {b : LifecycleEvent} (hb : P.lifecycleEvent e.body = some b) :
    history P [e] e.aggregate = [{ e with body := b }] := by
  simp [history, ofAggregate, asEntry, hb]

/-- An event of another version is not. -/
theorem history_singleton_ne (h : e.aggregate ≠ k) : history P [e] k = [] := by
  simp [history, ofAggregate, h]

/-- An event that is none of the lifecycle is not. -/
theorem history_singleton_other (h : P.lifecycleEvent e.body = none) : history P [e] k = [] := by
  rw [history, List.filterMap_eq_nil_iff]
  intro e' he'
  obtain ⟨hmem, -⟩ := mem_ofAggregate.1 he'
  obtain rfl := List.mem_singleton.1 hmem
  simp [asEntry, h]

/-- Without events the version has no history. -/
theorem history_eq_nil (h : ∀ e ∈ events, e.aggregate ≠ k) : history P events k = [] := by
  have hnil : ofAggregate events k = [] :=
    List.filter_eq_nil_iff.2 fun e he => by simpa using h e he
  simp [history, hnil]

/-- The history has the lifecycle events of the version. -/
theorem mem_bodies_history {b : LifecycleEvent} :
    b ∈ bodies (history P events k) ↔
      ∃ e ∈ events, e.aggregate = k ∧ P.lifecycleEvent e.body = some b := by
  simp only [bodies, history, List.mem_map, List.mem_filterMap, mem_ofAggregate, asEntry,
    Option.map_eq_some_iff]
  constructor
  · rintro ⟨_, ⟨e, ⟨he, hk⟩, b', hb', rfl⟩, rfl⟩
    exact ⟨e, he, hk, hb'⟩
  · rintro ⟨e, he, hk, hb⟩
    exact ⟨{ e with body := b }, ⟨e, ⟨he, hk⟩, b, hb, rfl⟩, rfl⟩

/-- The status is the one the history leaves. -/
theorem statusIn_eq_columnsAfter :
    statusIn P events k = (columnsAfter (history P events k)).lifecycleStatus :=
  (columnsAfter_status _).symm

/-- A lifecycle event moves the status of its version on. -/
theorem statusIn_snoc_self {b : LifecycleEvent} (hb : P.lifecycleEvent e.body = some b) :
    statusIn P (events ++ [e]) e.aggregate =
      lifecycle.next (statusIn P events e.aggregate) b := by
  rw [statusIn, history_append, history_singleton_self hb, bodies, List.map_append,
    GuardedMachine.run_append]
  rfl

/-- An event of another version leaves the status. -/
theorem statusIn_snoc_ne (hk : e.aggregate ≠ k) :
    statusIn P (events ++ [e]) k = statusIn P events k := by
  rw [statusIn, history_append, history_singleton_ne hk, List.append_nil, statusIn]

/-- An event that is none of the lifecycle leaves the status. -/
theorem statusIn_snoc_other (hb : P.lifecycleEvent e.body = none) :
    statusIn P (events ++ [e]) k = statusIn P events k := by
  rw [statusIn, history_append, history_singleton_other hb, List.append_nil, statusIn]

end History

/-! ## The invariant -/

variable [VersionRow ρ]

/-- The version `k` of the table is superseded by `w`. -/
def SupersededBy (t : Table ρ) (k w : Id) : Prop :=
  ∃ v, t[k]? = some v ∧ (columns v).supersededByVersionId = some w

/-- What ties a table of versions to its log. -/
structure Inv (P : VersionProjection ρ β) (t : Table ρ)
    (events : List (DomainEvent Id β String)) : Prop where
  /-- each version's columns are what its events leave -/
  columns : ∀ (k : Id) v, t[k]? = some v → columns v = columnsAfter (history P events k)
  /-- each version's events run through the machine -/
  accepted : ∀ k, lifecycle.Accepts .draft (bodies (history P events k))
  /-- only versions of the table have events -/
  known : ∀ e ∈ events, e.aggregate ∈ t
  numbers : ∀ (k k' : Id) v v', t[k]? = some v → t[k']? = some v' → parentId v = parentId v' →
    versionNumber v = versionNumber v' → k = k'
  oneEffective : ∀ (k k' : Id) v v', t[k]? = some v → t[k']? = some v' →
    parentId v = parentId v' → status v = .effective → status v' = .effective → k = k'
  /-- a superseded version points to a version of the same parent -/
  successor : ∀ (k : Id) v w, t[k]? = some v →
    (VersionRow.columns v).supersededByVersionId = some w →
    ∃ v', t[w]? = some v' ∧ parentId v' = parentId v
  /-- and the versions can be ranked so that it points upwards -/
  ranked : ∃ rank : Id → Nat, ∀ k w, SupersededBy t k w → rank k < rank w
  /-- a version was made effective only when no other version of its parent was -/
  alone : ∀ pre e post, events = pre ++ e :: post → P.lifecycleEvent e.body = some .madeEffective →
    ∀ (k : Id) v v', t[k]? = some v → t[e.aggregate]? = some v' → parentId v = parentId v' →
      k ≠ e.aggregate → statusIn P pre k ≠ .effective

section Rows

variable {t : Table ρ} {k a : Id} {u v : ρ} {b : LifecycleEvent} {at' : Time}
  {actor : Option String}

/-- A lifecycle event leaves the parent. -/
@[simp] theorem parentId_applyTo : parentId (applyTo v b at' actor) = parentId v :=
  parentId_setColumns ..

/-- A lifecycle event leaves the number. -/
@[simp] theorem versionNumber_applyTo : versionNumber (applyTo v b at' actor) = versionNumber v :=
  versionNumber_setColumns ..

/-- A lifecycle event writes the lifecycle's columns. -/
@[simp] theorem columns_applyTo :
    columns (applyTo v b at' actor) = (columns v).apply b at' actor :=
  columns_setColumns ..

/-- Applying one event after another comes down to the columns. -/
theorem foldl_applyTo (es : List Entry) (v : ρ) :
    es.foldl (fun v e => applyTo v e.body e.occurredAt e.actorId) v =
      setColumns v (es.foldl LifecycleColumns.after (columns v)) := by
  induction es generalizing v with
  | nil => exact (setColumns_columns v).symm
  | cons e es ih =>
    rw [List.foldl_cons, ih, columns_applyTo, applyTo, setColumns_setColumns]
    rfl

/-- Applying an event to one row keeps every row's parent and number, and the other rows. -/
theorem of_insert_applyTo (hv : t[a]? = some v)
    (hu : (t.insert a (applyTo v b at' actor))[k]? = some u) :
    ∃ u₀, t[k]? = some u₀ ∧ parentId u = parentId u₀ ∧ versionNumber u = versionNumber u₀ ∧
      (k ≠ a → u = u₀) := by
  rcases Table.of_get_insert hu with ⟨rfl, rfl⟩ | hu
  · exact ⟨v, hv, by simp, by simp, fun hne => absurd rfl hne⟩
  · exact ⟨u, hu, rfl, rfl, fun _ => rfl⟩

/-- A version stays one, with its parent, when a lifecycle event is applied. -/
theorem insert_applyTo_of (b : LifecycleEvent) (at' : Time) (actor : Option String)
    (hv : t[a]? = some v) (hu : t[k]? = some u) :
    ∃ u', (t.insert a (applyTo v b at' actor))[k]? = some u' ∧ parentId u' = parentId u := by
  rw [Table.get_insert]
  split
  · next hk =>
    subst hk
    obtain rfl := Option.some.inj (hv.symm.trans hu)
    exact ⟨_, rfl, by simp⟩
  · exact ⟨u, hu, rfl⟩

/-- Applying an event adds at most the edge of a superseding event. -/
theorem SupersededBy.of_insert_applyTo {w : Id} (hv : t[a]? = some v)
    (h : SupersededBy (t.insert a (applyTo v b at' actor)) k w) :
    SupersededBy t k w ∨ k = a ∧ b = .superseded w := by
  obtain ⟨u, hu, hw⟩ := h
  rw [Table.get_insert] at hu
  split at hu
  · next hk =>
    subst hk
    obtain rfl := Option.some.inj hu
    rw [columns_applyTo, LifecycleColumns.apply_supersededBy] at hw
    cases b with
    | superseded w' => exact .inr ⟨rfl, by rw [Option.some.inj hw]⟩
    | _ => exact .inl ⟨v, hv, hw⟩
  · exact .inl ⟨u, hu, hw⟩

/-- A row without a successor adds no edge. -/
theorem SupersededBy.of_insert_new {w : Id} (hno : (columns v).supersededByVersionId = none)
    (h : SupersededBy (t.insert a v) k w) : SupersededBy t k w := by
  obtain ⟨u, hu, hw⟩ := h
  rw [Table.get_insert] at hu
  split at hu
  · obtain rfl := Option.some.inj hu
    rw [hno] at hw
    cases hw
  · exact ⟨u, hu, hw⟩

end Rows

section Preserved

variable {t : Table ρ} {events : List (DomainEvent Id β String)} {e : DomainEvent Id β String}
  {v : ρ} {b : LifecycleEvent} {k : Id}

/-- The status column is the one that the log gives. -/
theorem Inv.status_eq (h : Inv P t events) (hv : t[k]? = some v) :
    status v = statusIn P events k := by
  rw [status, h.columns k v hv, statusIn_eq_columnsAfter]

/-- A version is superseded exactly when `superseded_by_version_id` is set. -/
theorem Inv.superseded_iff (h : Inv P t events) (hv : t[k]? = some v) :
    status v = .superseded ↔ (VersionRow.columns v).supersededByVersionId ≠ none := by
  rw [status, h.columns k v hv]
  exact MiniGrc.superseded_iff (h.accepted k)

/-- A version that an event may happen to is not superseded. -/
theorem Inv.not_superseded_of_guard (h : Inv P t events) (hv : t[k]? = some v)
    (hg : lifecycle.guard (status v) b) :
    (VersionRow.columns v).supersededByVersionId = none := by
  by_contra hne
  rw [(h.superseded_iff hv).2 hne] at hg
  cases b <;> simp [lifecycle] at hg

/-- An event that its guard allows keeps the invariant, if a version that becomes effective is
    the only one and a successor is another version of the parent, not superseded itself. -/
theorem Inv.event (h : Inv P t events) (hv : t[e.aggregate]? = some v)
    (hb : P.lifecycleEvent e.body = some b) (hg : lifecycle.guard (status v) b)
    (heff : b = .madeEffective → ∀ (k : Id) v', t[k]? = some v' → k ≠ e.aggregate →
      parentId v' = parentId v → status v' ≠ .effective)
    (hsup : ∀ w, b = .superseded w → w ≠ e.aggregate ∧ ∃ v', t[w]? = some v' ∧
      parentId v' = parentId v ∧ (VersionRow.columns v').supersededByVersionId = none) :
    Inv P (t.insert e.aggregate (applyTo v b e.occurredAt e.actorId)) (events ++ [e]) where
  columns := by
    intro k u hu
    rw [Table.get_insert] at hu
    split at hu
    · next hk =>
      subst hk
      obtain rfl := Option.some.inj hu
      rw [history_append, history_singleton_self hb, columnsAfter_snoc, columns_applyTo,
        h.columns _ v hv]
      rfl
    · next hk =>
      rw [history_append, history_singleton_ne hk, List.append_nil]
      exact h.columns k u hu
  accepted := by
    intro k
    rw [history_append]
    by_cases hk : e.aggregate = k
    · subst hk
      rw [history_singleton_self hb, bodies, List.map_append]
      refine (h.accepted _).snoc ?_
      rw [h.status_eq hv] at hg
      exact hg
    · rw [history_singleton_ne hk, List.append_nil]
      exact h.accepted k
  known := by
    intro e' he'
    rcases List.mem_append.1 he' with he' | he'
    · simp [h.known e' he']
    · obtain rfl := List.mem_singleton.1 he'
      simp
  numbers := by
    intro k k' u u' hu hu' hp hn
    obtain ⟨w, hw, hwp, hwn, -⟩ := of_insert_applyTo hv hu
    obtain ⟨w', hw', hwp', hwn', -⟩ := of_insert_applyTo hv hu'
    exact h.numbers k k' w w' hw hw' (by rw [← hwp, ← hwp', hp]) (by rw [← hwn, ← hwn', hn])
  oneEffective := by
    -- if the event makes its version effective, no other version of the parent is
    have others : ∀ (k : Id) u, (t.insert e.aggregate (applyTo v b e.occurredAt e.actorId))[k]? =
        some u → k ≠ e.aggregate → parentId u = parentId v → b = .madeEffective →
        status u ≠ .effective := by
      intro k u hu hk hp hbe
      obtain ⟨u₀, hu₀, -, -, heq⟩ := of_insert_applyTo hv hu
      exact heff hbe k u (heq hk ▸ hu₀) hk hp
    intro k k' u u' hu hu' hp hs hs'
    by_cases hk : k = e.aggregate <;> by_cases hk' : k' = e.aggregate
    · exact hk.trans hk'.symm
    · subst hk
      rw [Table.get_insert, if_pos rfl] at hu
      obtain rfl := Option.some.inj hu
      rw [status, columns_applyTo, LifecycleColumns.apply_status,
        lifecycle_next_eq_effective] at hs
      exact absurd hs' (others k' u' hu' hk' (by simpa using hp.symm) hs)
    · subst hk'
      rw [Table.get_insert, if_pos rfl] at hu'
      obtain rfl := Option.some.inj hu'
      rw [status, columns_applyTo, LifecycleColumns.apply_status,
        lifecycle_next_eq_effective] at hs'
      exact absurd hs (others k u hu hk (by simpa using hp) hs')
    · rw [Table.get_insert_ne (Ne.symm hk)] at hu
      rw [Table.get_insert_ne (Ne.symm hk')] at hu'
      exact h.oneEffective k k' u u' hu hu' hp hs hs'
  successor := by
    intro k u w hu hw
    obtain ⟨u₀, hu₀, hp, -, -⟩ := of_insert_applyTo hv hu
    rcases SupersededBy.of_insert_applyTo hv ⟨u, hu, hw⟩ with ⟨u₁, hu₁, hw₁⟩ | ⟨rfl, rfl⟩
    · obtain rfl := Option.some.inj (hu₀.symm.trans hu₁)
      obtain ⟨v', hv', hp'⟩ := h.successor k u₀ w hu₀ hw₁
      obtain ⟨u', hu', hpu'⟩ := insert_applyTo_of b e.occurredAt e.actorId hv hv'
      exact ⟨u', hu', by rw [hpu', hp', hp]⟩
    · obtain ⟨-, v', hv', hp', -⟩ := hsup w rfl
      obtain rfl := Option.some.inj (hu₀.symm.trans hv)
      obtain ⟨u', hu', hpu'⟩ := insert_applyTo_of (.superseded w) e.occurredAt e.actorId
        hv hv'
      exact ⟨u', hu', by rw [hpu', hp', hp]⟩
  ranked := by
    obtain ⟨rank, hrank⟩ := h.ranked
    by_cases hw : ∃ w, b = .superseded w
    · obtain ⟨w, rfl⟩ := hw
      obtain ⟨hne, v', hv', -, hnone⟩ := hsup w rfl
      -- the successor has no edge of its own yet, so it can be lifted above the version
      refine ⟨Function.update rank w (rank w + rank e.aggregate + 1), fun k x hkx => ?_⟩
      rcases SupersededBy.of_insert_applyTo hv hkx with hold | ⟨rfl, hx⟩
      · have hk : k ≠ w := by
          rintro rfl
          obtain ⟨u, hu, hux⟩ := hold
          obtain rfl := Option.some.inj (hu.symm.trans hv')
          rw [hnone] at hux
          cases hux
        have := hrank k x hold
        rw [Function.update_of_ne hk]
        by_cases hx : x = w
        · subst hx
          rw [Function.update_self]
          omega
        · rw [Function.update_of_ne hx]
          exact this
      · obtain rfl := LifecycleEvent.superseded.inj hx
        rw [Function.update_of_ne (Ne.symm hne), Function.update_self]
        omega
    · refine ⟨rank, fun k x hkx => ?_⟩
      rcases SupersededBy.of_insert_applyTo hv hkx with hold | ⟨-, hx⟩
      · exact hrank k x hold
      · exact absurd ⟨x, hx⟩ hw
  alone := by
    intro pre e' post hsplit hbe k u u' hu hu' hp hk
    obtain ⟨u₀, hu₀, hup, -, heq⟩ := of_insert_applyTo hv hu
    obtain ⟨u₀', hu₀', hup', -, -⟩ := of_insert_applyTo hv hu'
    rcases List.eq_nil_or_concat post with rfl | ⟨post', x, rfl⟩
    · -- the event itself
      obtain ⟨rfl, hlast⟩ := List.append_inj' hsplit rfl
      obtain rfl := (List.cons.inj hlast).1
      obtain rfl := Option.some.inj (hb.symm.trans hbe)
      obtain rfl := Option.some.inj (hu₀'.symm.trans hv)
      rw [← h.status_eq hu₀]
      exact heff rfl k u₀ hu₀ hk (by rw [← hup, ← hup', hp])
    · rw [List.concat_eq_append, ← List.cons_append, ← List.append_assoc] at hsplit
      obtain ⟨hev, -⟩ := List.append_inj' hsplit rfl
      exact h.alone pre e' post' hev hbe k u₀ u₀' hu₀ hu₀' (by rw [← hup, ← hup', hp]) hk

/-- Without versions there is nothing to hold. -/
theorem inv_empty : Inv P (∅ : Table ρ) [] where
  columns := by simp
  accepted := fun _ => trivial
  known := by simp
  numbers := by simp
  oneEffective := by simp
  successor := by simp
  ranked := ⟨fun _ => 0, by rintro k w ⟨v, hv, -⟩; simp at hv⟩
  alone := by simp

/-- A new draft version with a number of its own keeps the invariant. -/
theorem Inv.create (h : Inv P t events) (hk : k ∉ t) (hcols : VersionRow.columns v = {})
    (hnum : ∀ (k' : Id) v', t[k']? = some v' → parentId v' = parentId v →
      versionNumber v' ≠ versionNumber v) : Inv P (t.insert k v) events := by
  have hnew : ∀ e ∈ events, e.aggregate ≠ k := fun e he heq => hk (heq ▸ h.known e he)
  have hstatus : status v ≠ .effective := by simp [status, hcols]
  have hno : (VersionRow.columns v).supersededByVersionId = none := by rw [hcols]
  have old : ∀ (k' : Id) u, (t.insert k v)[k']? = some u →
      k' = k ∧ u = v ∨ k' ≠ k ∧ t[k']? = some u := by
    intro k' u hu
    rw [Table.get_insert] at hu
    split at hu
    · next hkk => exact .inl ⟨hkk.symm, (Option.some.inj hu).symm⟩
    · next hkk => exact .inr ⟨Ne.symm hkk, hu⟩
  refine ⟨?_, h.accepted, fun e he => by simp [h.known e he], ?_, ?_, ?_, ?_, ?_⟩
  · intro k' u hu
    rcases old k' u hu with ⟨rfl, rfl⟩ | ⟨-, hu⟩
    · rw [hcols, history_eq_nil hnew, columnsAfter_nil]
    · exact h.columns k' u hu
  · intro k₁ k₂ u₁ u₂ h₁ h₂ hp hn
    rcases old k₁ u₁ h₁ with ⟨hk₁, hu₁⟩ | ⟨-, g₁⟩ <;>
      rcases old k₂ u₂ h₂ with ⟨hk₂, hu₂⟩ | ⟨-, g₂⟩
    · exact hk₁.trans hk₂.symm
    · exact absurd (by rw [← hn, hu₁]) (hnum k₂ u₂ g₂ (by rw [← hp, hu₁]))
    · exact absurd (by rw [hn, hu₂]) (hnum k₁ u₁ g₁ (by rw [hp, hu₂]))
    · exact h.numbers k₁ k₂ u₁ u₂ g₁ g₂ hp hn
  · intro k₁ k₂ u₁ u₂ h₁ h₂ hp hs hs'
    rcases old k₁ u₁ h₁ with ⟨-, hu₁⟩ | ⟨-, g₁⟩
    · exact absurd (hu₁ ▸ hs) hstatus
    · rcases old k₂ u₂ h₂ with ⟨-, hu₂⟩ | ⟨-, g₂⟩
      · exact absurd (hu₂ ▸ hs') hstatus
      · exact h.oneEffective k₁ k₂ u₁ u₂ g₁ g₂ hp hs hs'
  · intro k' u w hu hw
    rcases old k' u hu with ⟨rfl, rfl⟩ | ⟨-, hu⟩
    · rw [hno] at hw
      cases hw
    · obtain ⟨v', hv', hp⟩ := h.successor k' u w hu hw
      have hwk : k ≠ w := by
        rintro rfl
        exact hk (Table.mem_of_get hv')
      exact ⟨v', by rw [Table.get_insert_ne hwk]; exact hv', hp⟩
  · obtain ⟨rank, hrank⟩ := h.ranked
    exact ⟨rank, fun k' w hkw => hrank k' w (hkw.of_insert_new hno)⟩
  · intro pre e post hsplit hbe k' u u' hu hu' hp hne
    have hmem : e ∈ events := by simp [hsplit]
    rcases old e.aggregate u' hu' with ⟨heq, -⟩ | ⟨-, hu'⟩
    · exact absurd heq (hnew e hmem)
    · rcases old k' u hu with ⟨rfl, rfl⟩ | ⟨-, hu⟩
      · -- the new version has no events yet
        have hnil : history P pre k' = [] :=
          history_eq_nil fun e' he' => hnew e' (by simp [hsplit, he'])
        simp [statusIn, hnil]
      · exact h.alone pre e post hsplit hbe k' u u' hu hu' hp hne

/-- An event of a version of the table that is no lifecycle event keeps the invariant. -/
theorem Inv.other (h : Inv P t events) (hk : e.aggregate ∈ t)
    (hb : P.lifecycleEvent e.body = none) : Inv P t (events ++ [e]) where
  columns := by
    intro k v hv
    rw [history_append, history_singleton_other hb, List.append_nil]
    exact h.columns k v hv
  accepted := by
    intro k
    rw [history_append, history_singleton_other hb, List.append_nil]
    exact h.accepted k
  known := by
    intro e' he'
    rcases List.mem_append.1 he' with he' | he'
    · exact h.known e' he'
    · obtain rfl := List.mem_singleton.1 he'
      exact hk
  numbers := h.numbers
  oneEffective := h.oneEffective
  successor := h.successor
  ranked := h.ranked
  alone := by
    intro pre e' post hsplit hbe
    -- The new event is the last one, and none of the lifecycle.
    rcases List.eq_nil_or_concat post with rfl | ⟨post', x, rfl⟩
    · obtain ⟨-, hlast⟩ := List.append_inj' hsplit rfl
      obtain rfl := (List.cons.inj hlast).1
      rw [hb] at hbe
      cases hbe
    · rw [List.concat_eq_append, ← List.cons_append, ← List.append_assoc] at hsplit
      obtain ⟨hev, -⟩ := List.append_inj' hsplit rfl
      exact h.alone pre e' post' hev hbe

/-- The database accepts a row if the table with it satisfies the invariant. -/
theorem Inv.admits (h : Inv P (t.insert k v) events) : constraints.Admits t k v := by
  constructor
  · rintro ⟨k', v'⟩ hmem hne
    have hv' : (t.insert k v)[k']? = some v' := by
      rw [Table.get_insert_ne (Ne.symm hne)]
      simpa using hmem
    have hv : (t.insert k v)[k]? = some v := by simp
    simp only [constraints, decide_eq_false_iff_not]
    rintro ⟨hp, hn | ⟨hs, hs'⟩⟩
    · exact hne (h.numbers k k' v v' hv hv' hp hn).symm
    · exact hne (h.oneEffective k k' v v' hv hv' hp hs hs').symm
  · intro j hj
    have hv : (t.insert k v)[k]? = some v := by simp
    obtain ⟨v', hv', -⟩ := h.successor k v j hv (by simpa [constraints] using hj)
    -- The row itself, or another version of the table.
    by_cases hjk : j = k
    · exact .inl hjk
    · rw [Table.get_insert_ne (Ne.symm hjk)] at hv'
      exact .inr (Table.mem_of_get hv')

end Preserved

end MiniGrc.VersionLifecycle
