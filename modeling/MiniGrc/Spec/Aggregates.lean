import MiniGrc.App.Aggregates
import MiniGrc.Spec.Sessions

/-!
# Rebuilding aggregates with a row each

The row of an aggregate is what its own events leave, whatever happened to other
aggregates in between, so a replay that keeps the order of each aggregate gives the live
rows. It can fail for two reasons only: another table refers to a row that the reset
deletes, or a row is replayed before one that it refers to.

## Key results

- `AggregateType.SessionKept.append`: an append keeps the invariant
- `AggregateType.SessionKept.rebuild_eq_ok`: when a rebuild succeeds, and that it changes
  nothing then
- `AggregateType.SessionKept.rebuild_restamped`: the same of a rebuild that inserts link rows at
  other times than the commands did
-/

namespace MiniGrc.AggregateType

open Events

variable {ρ β : Type} {A : AggregateType ρ β} {present present' : TableName → Id → Bool}
  {referenced : Bool} {t : Table ρ} {events p q : List (DomainEvent Id β String)}
  {e : DomainEvent Id β String} {r r' : ρ} {k : Id} {clock : Clock} {s s' : Session (Table ρ) β}

/-- The row after the events of one aggregate. -/
def rowAfter (A : AggregateType ρ β) (es : List (DomainEvent Id β String)) :
    Except PyError (Option ρ) :=
  es.foldlM (fun row e => (A.row row e).map some) none

/-- What the development asks of an aggregate type: conflicts are mutual, and an update
    touches no column that the constraints look at. -/
structure Lawful (A : AggregateType ρ β) : Prop where
  symm : ∀ r r', A.constraints.conflict r r' = A.constraints.conflict r' r
  conflict : ∀ r e r', A.row (some r) e = .ok r' →
    ∀ x, A.constraints.conflict r' x = A.constraints.conflict r x
  refs : ∀ r e r', A.row (some r) e = .ok r' → A.constraints.refs r' = A.constraints.refs r

/-- What ties a table to the log of its events. -/
structure Kept (A : AggregateType ρ β) (present : TableName → Id → Bool) (t : Table ρ)
    (events : List (DomainEvent Id β String)) : Prop where
  /-- each row is what its events leave -/
  rows : ∀ k : Id, A.rowAfter (ofAggregate events k) = .ok t[k]?
  alone : ∀ (k k' : Id) r r', t[k]? = some r → t[k']? = some r' → k ≠ k' →
    A.constraints.conflict r r' = false
  /-- each row that there ever was referred to rows that are there -/
  foreignKeys : ∀ (k : Id) es r, es <+: ofAggregate events k → A.rowAfter es = .ok (some r) →
    ∀ x ∈ A.foreignKeys r, present x.1 x.2

@[simp] theorem rowAfter_nil : A.rowAfter [] = .ok none := rfl

theorem rowAfter_snoc (es : List (DomainEvent Id β String)) :
    A.rowAfter (es ++ [e]) = (A.rowAfter es).bind fun row => (A.row row e).map some := by
  rw [rowAfter, List.foldlM_append]
  show (A.rowAfter es).bind _ = _
  congr 1
  funext row
  simp only [List.foldlM_cons, List.foldlM_nil]
  exact bind_pure _

/-- The last event of a history led from the row before to the row after. -/
theorem rowAfter_snoc_eq_ok {es : List (DomainEvent Id β String)} {row : Option ρ}
    (h : A.rowAfter (es ++ [e]) = .ok row) :
    ∃ before r, A.rowAfter es = .ok before ∧ A.row before e = .ok r ∧ row = some r := by
  rw [rowAfter_snoc] at h
  cases hes : A.rowAfter es with
  | error x => rw [hes] at h; cases h
  | ok before =>
    rw [hes] at h
    cases hrow : A.row before e with
    | error x => simp [Except.bind, Except.map, hrow] at h
    | ok r => exact ⟨before, r, rfl, hrow, by simpa [Except.bind, Except.map, hrow] using h.symm⟩

/-- A row is there as soon as its aggregate has an event. -/
theorem rowAfter_eq_none {es : List (DomainEvent Id β String)} :
    A.rowAfter es = .ok none ↔ es = [] := by
  rcases List.eq_nil_or_concat es with rfl | ⟨es, e, rfl⟩
  · simp
  · rw [List.concat_eq_append]
    constructor
    · intro h
      obtain ⟨_, _, _, _, hrow⟩ := rowAfter_snoc_eq_ok h
      cases hrow
    · simp

/-- The rows of a shorter history can be reached. -/
theorem rowAfter_prefix {es : List (DomainEvent Id β String)} {row : Option ρ}
    (h : A.rowAfter (p ++ es) = .ok row) : ∃ row', A.rowAfter p = .ok row' := by
  rw [rowAfter, List.foldlM_append] at h
  cases hp : A.rowAfter p with
  | ok row' => exact ⟨row', rfl⟩
  | error x =>
    rw [rowAfter] at hp
    rw [hp] at h
    cases h

/-- A column to which an event appends at most one entry holds the entries of the events. -/
theorem column_of_rowAfter {γ : Type} {column : ρ → List γ}
    {entry : DomainEvent Id β String → Option γ}
    (hrow : ∀ x e r, A.row x e = .ok r → column r = x.elim [] column ++ (entry e).toList)
    {es : List (DomainEvent Id β String)} (h : A.rowAfter es = .ok (some r)) :
    column r = es.filterMap entry := by
  induction es using List.reverseRecOn generalizing r with
  | nil => cases h
  | append_singleton es e ih =>
    obtain ⟨before, r', hbefore, hr, heq⟩ := rowAfter_snoc_eq_ok h
    obtain rfl := Option.some.inj heq
    have hentries : before.elim [] column = es.filterMap entry := by
      cases before with
      | none =>
        rw [rowAfter_eq_none.1 hbefore]
        rfl
      | some x => exact ih hbefore
    rw [hrow before e r hr, hentries, List.filterMap_append]
    cases hentry : entry e <;> simp [hentry]

/-- The rows of a table are the aggregates that have events. -/
theorem Kept.mem_iff (h : Kept A present t events) : k ∈ t ↔ ∃ e ∈ events, e.aggregate = k := by
  have hrows := h.rows k
  constructor
  · intro hk
    obtain ⟨r, hr⟩ := Table.exists_get hk
    have hne : ofAggregate events k ≠ [] := fun hnil => by
      rw [hr, hnil] at hrows
      cases hrows
    obtain ⟨e, he⟩ := List.exists_mem_of_ne_nil _ hne
    exact ⟨e, mem_ofAggregate.1 he⟩
  · rintro ⟨e, he, hk⟩
    rw [Std.ExtTreeMap.mem_iff_isSome_getElem?, Option.isSome_iff_ne_none]
    intro hnone
    rw [hnone, rowAfter_eq_none] at hrows
    exact absurd (hrows ▸ mem_ofAggregate.2 ⟨he, hk⟩) List.not_mem_nil

/-! ## Appends -/

/-- What a projector that succeeds has done. -/
theorem project_eq_ok {t' : Table ρ} (h : A.project present t e = .ok t') :
    ∃ r, A.row t[e.aggregate]? e = .ok r ∧ (∀ x ∈ A.foreignKeys r, present x.1 x.2) ∧
      A.constraints.Admits t e.aggregate r ∧ t' = t.insert e.aggregate r := by
  unfold project at h
  cases hr : A.row t[e.aggregate]? e with
  | error x => rw [hr] at h; cases h
  | ok r =>
    rw [hr] at h
    simp only [Except.bind] at h
    split at h
    · next hadm => exact ⟨r, rfl, hadm.1, hadm.2, (Except.ok.inj h).symm⟩
    · cases h

theorem kept_empty : Kept A present ∅ [] where
  rows _ := by simp [ofAggregate]
  alone := by simp
  foreignKeys := by
    intro k es r hes hr
    obtain rfl : es = [] := List.prefix_nil.1 hes
    cases hr

/-- Rows that other tables gain do not matter. -/
theorem Kept.mono (h : Kept A present t events) (himp : ∀ n k, present n k → present' n k) :
    Kept A present' t events :=
  ⟨h.rows, h.alone, fun k es r hes hr x hx => himp _ _ (h.foreignKeys k es r hes hr x hx)⟩

/-- The rows that a row refers to are there. -/
theorem Kept.present_of_get (h : Kept A present t events) (hr : t[k]? = some r) {n : TableName}
    {id : Id} (hx : (n, id) ∈ A.foreignKeys r) : present n id :=
  h.foreignKeys k _ r (List.prefix_refl _) ((h.rows k).trans (congrArg Except.ok hr)) _ hx

/-- A projected event keeps the invariant. -/
theorem Kept.snoc (hA : Lawful A) (h : Kept A present t events) {t' : Table ρ}
    (hp : A.project present t e = .ok t') : Kept A present t' (events ++ [e]) := by
  obtain ⟨r, hrow, hok, hadm, rfl⟩ := project_eq_ok hp
  have hnew : A.rowAfter (ofAggregate events e.aggregate ++ [e]) = .ok (some r) := by
    rw [rowAfter_snoc, h.rows]
    show (A.row t[e.aggregate]? e).map some = _
    rw [hrow]
    rfl
  have hfree : ∀ (k : Id) x, t[k]? = some x → e.aggregate ≠ k →
      A.constraints.conflict r x = false :=
    fun k x hx hk => hadm.1 (k, x) (by simpa using hx) (Ne.symm hk)
  refine ⟨fun k => ?_, fun k k' x x' hx hx' hk => ?_, fun k es x hes hx => ?_⟩
  · rw [Table.get_insert]
    split
    · next hk => rw [← hk, ofAggregate_snoc_self, hnew]
    · next hk => rw [ofAggregate_snoc_ne hk, h.rows]
  · rw [Table.get_insert] at hx hx'
    split at hx <;> split at hx'
    · next hk₁ hk₂ => exact absurd (hk₁.symm.trans hk₂) hk
    · next hk₂ =>
      obtain rfl := Option.some.inj hx
      exact hfree k' x' hx' hk₂
    · next hk₁ _ =>
      obtain rfl := Option.some.inj hx'
      rw [hA.symm]
      exact hfree k x hx hk₁
    · exact h.alone k k' x x' hx hx' hk
  · by_cases hk : e.aggregate = k
    · subst hk
      rw [ofAggregate_snoc_self] at hes
      rcases List.prefix_concat_iff.1 hes with rfl | hes
      · rw [hnew] at hx
        obtain rfl := Option.some.inj (Except.ok.inj hx)
        exact hok
      · exact h.foreignKeys _ es x hes hx
    · rw [ofAggregate_snoc_ne hk] at hes
      exact h.foreignKeys k es x hes hx

/-- What holds of a session on the table. -/
structure SessionKept (A : AggregateType ρ β) (present : TableName → Id → Bool) (clock : Clock)
    (s : Session (Table ρ) β) : Prop where
  kept : Kept A present s.rows s.events
  logged : s.Logged clock

/-- Rows that other tables gain and the passing of time do not matter. -/
theorem SessionKept.wait (h : SessionKept A present clock s)
    (himp : ∀ n k, present n k → present' n k) {ticks : Nat} (ht : s.ticks ≤ ticks) :
    SessionKept A present' clock ⟨s.rows, s.events, ticks⟩ :=
  ⟨h.kept.mono himp, h.logged.wait ht⟩

variable (A present referenced clock) in
/-- How an append under a fresh key, or none, ends. -/
theorem appendAndProject_cases {args : AppendArgs Id β String} (hkey : s.Fresh args) :
    (∃ r, A.row s.rows[args.aggregate]? (nextEvent clock s args) = .ok r ∧
      appendAndProject (A.projection present referenced) clock s args =
        .returned ⟨s.rows.insert args.aggregate r, s.events ++ [nextEvent clock s args],
          s.ticks + 1⟩) ∨
      ∃ t x, A.project present s.rows (nextEvent clock s args) = .error x ∧
        appendAndProject (A.projection present referenced) clock s args = .raised t x := by
  cases hp : A.project present s.rows (nextEvent clock s args) with
  | error x => exact .inr ⟨_, x, rfl, appendAndProject_raised hkey rfl hp⟩
  | ok rows =>
    obtain ⟨r, hrow, -, -, rfl⟩ := project_eq_ok hp
    exact .inl ⟨r, hrow, appendAndProject_eq hkey rfl hp⟩

/-- An append that returns has found the key of a stored event or projected a new one. -/
theorem SessionKept.append (h : SessionKept A present clock s) (hA : Lawful A)
    (args : AppendArgs Id β String) :
    (appendAndProject (A.projection present referenced) clock s args).Returns
      (SessionKept A present clock) := by
  by_cases hkey : s.Fresh args
  · cases hp : A.project present s.rows (nextEvent clock s args) with
    | error x =>
      rw [appendAndProject_raised (P := A.projection present referenced) hkey rfl hp]
      trivial
    | ok rows =>
      rw [appendAndProject_eq (P := A.projection present referenced) hkey rfl hp]
      exact ⟨h.kept.snoc hA hp, h.logged.append hkey⟩
  · rw [appendAndProject_of_not_fresh hkey]
    exact h

/-- A request keeps the invariant and deletes nothing. -/
theorem SessionKept.request (h : SessionKept A present clock s) (hA : Lawful A)
    (command : Session (Table ρ) β → Outcome (Session (Table ρ) β))
    (hcommand : Script (A.projection present referenced) clock s (command s)) :
    let s' := request (A.projection present referenced) command s
    SessionKept A present clock s' ∧ s.ticks ≤ s'.ticks ∧ ∀ k ∈ s.rows, k ∈ s'.rows := by
  have hlater := request_later (P := A.projection present referenced) command hcommand.later
  have hkept : SessionKept A present clock
      (MiniGrc.request (A.projection present referenced) command s) := by
    have hreturns : (command s).Returns (SessionKept A present clock) :=
      hcommand.returns h (fun _ args hs => hs.append hA args) fun _ hs => hs
    rcases request_of_returns (P := A.projection present referenced) command id hreturns
      fun _ _ => rfl with heq | ⟨s', hs', heq⟩
    · rw [heq]
      exact h
    · rw [heq]
      exact hs'
  refine ⟨hkept, hlater.ticks, fun k hk => ?_⟩
  obtain ⟨e, he, hek⟩ := h.kept.mem_iff.1 hk
  exact hkept.kept.mem_iff.2 ⟨e, hlater.log.subset he, hek⟩

/-! ## Replays -/

/-- The table after the events `p` have been replayed. -/
def Reflects (A : AggregateType ρ β) (p : List (DomainEvent Id β String)) (u : Table ρ) : Prop :=
  ∀ k : Id, A.rowAfter (ofAggregate p k) = .ok u[k]?

/-- The event `e` is replayed after an event of every row that its own row refers to. -/
def Refers (constraints : Constraints ρ) (t : Table ρ) (p : List (DomainEvent Id β String))
    (e : DomainEvent Id β String) : Prop :=
  ∀ r, t[e.aggregate]? = some r → ∀ j ∈ constraints.refs r,
    j = e.aggregate ∨ ∃ e' ∈ p, e'.aggregate = j

/-- Each row is replayed after the rows of the table that it refers to. -/
def InOrder (constraints : Constraints ρ) (t : Table ρ) (es : List (DomainEvent Id β String)) :
    Prop :=
  ∀ p e post, es = p ++ e :: post → Refers constraints t p e

/-- The constraints see no difference between a row and what it becomes. -/
theorem rowAfter_same (hA : Lawful A) {es : List (DomainEvent Id β String)}
    (hp : A.rowAfter p = .ok (some r)) (hes : A.rowAfter (p ++ es) = .ok (some r')) :
    (∀ x, A.constraints.conflict r' x = A.constraints.conflict r x) ∧
      A.constraints.refs r' = A.constraints.refs r := by
  induction es using List.reverseRecOn generalizing r' with
  | nil =>
    rw [List.append_nil, hp] at hes
    obtain rfl := Option.some.inj (Except.ok.inj hes)
    exact ⟨fun _ => rfl, rfl⟩
  | append_singleton es e ih =>
    rw [← List.append_assoc] at hes
    obtain ⟨before, x, hmid, hrow, hx⟩ := rowAfter_snoc_eq_ok hes
    obtain rfl := Option.some.inj hx
    cases before with
    | none =>
      have hnil := rowAfter_eq_none.1 hmid
      rw [List.append_eq_nil_iff] at hnil
      rw [hnil.1] at hp
      cases hp
    | some m =>
      obtain ⟨hconflict, hrefs⟩ := ih hmid
      exact ⟨fun x => (hA.conflict m e r' hrow x).trans (hconflict x),
        (hA.refs m e r' hrow).trans hrefs⟩

/-- The constraints see no difference between a replayed row and the live one. -/
theorem Kept.live (hA : Lawful A) (h : Kept A present t events)
    (hp : ofAggregate p k <+: ofAggregate events k)
    (hr : A.rowAfter (ofAggregate p k) = .ok (some r)) :
    ∃ r', t[k]? = some r' ∧ (∀ x, A.constraints.conflict r' x = A.constraints.conflict r x) ∧
      A.constraints.refs r' = A.constraints.refs r := by
  obtain ⟨rest, hrest⟩ := hp
  have hrows := h.rows k
  cases hk : t[k]? with
  | none =>
    rw [hk, rowAfter_eq_none, ← hrest, List.append_eq_nil_iff] at hrows
    rw [hrows.1] at hr
    cases hr
  | some r' =>
    rw [hk, ← hrest] at hrows
    exact ⟨r', rfl, rowAfter_same hA hr hrows⟩

/-- A replayed event either finds the rows that its own row refers to, or its statement
    fails. -/
theorem Kept.replay_step (hA : Lawful A) (h : Kept A present t events)
    (hp : ∀ k, ofAggregate (p ++ [e]) k <+: ofAggregate events k) {u : Table ρ}
    (hu : Reflects A p u) :
    (Refers A.constraints t p e → ∃ u', A.project present u e = .ok u' ∧ Reflects A (p ++ [e]) u') ∧
      (¬ Refers A.constraints t p e → A.project present u e = .error .integrityError) := by
  have hp' : ∀ k, ofAggregate p k <+: ofAggregate events k := fun k =>
    List.IsPrefix.trans (by rw [ofAggregate_append]; exact List.prefix_append ..) (hp k)
  obtain ⟨row, hrow⟩ : ∃ row, A.rowAfter (ofAggregate (p ++ [e]) e.aggregate) = .ok row := by
    obtain ⟨rest, hrest⟩ := hp e.aggregate
    exact rowAfter_prefix (hrest ▸ h.rows e.aggregate)
  have hafter := hrow
  rw [ofAggregate_snoc_self] at hrow
  obtain ⟨before, r, hbefore, hr, rfl⟩ := rowAfter_snoc_eq_ok hrow
  obtain rfl : before = u[e.aggregate]? := Except.ok.inj (hbefore.symm.trans (hu e.aggregate))
  obtain ⟨live, hlive, hconflict, hrefs⟩ := h.live hA (hp e.aggregate) hafter
  have hok : ∀ x ∈ A.foreignKeys r, present x.1 x.2 :=
    h.foreignKeys e.aggregate _ r (hp e.aggregate) hafter
  have hadmits : A.constraints.Admits u e.aggregate r ↔ Refers A.constraints t p e := by
    constructor
    · rintro ⟨-, hin⟩ x hx j hj
      obtain rfl := Option.some.inj (hlive.symm.trans hx)
      refine (hin j (hrefs ▸ hj)).imp_right fun hmem => ?_
      obtain ⟨y, hy⟩ := Table.exists_get hmem
      have hne : ofAggregate p j ≠ [] := fun hnil => by
        have := hu j
        rw [hy, hnil] at this
        cases this
      obtain ⟨e', he'⟩ := List.exists_mem_of_ne_nil _ hne
      exact ⟨e', mem_ofAggregate.1 he'⟩
    · intro href
      refine ⟨fun x hx hne => ?_, fun j hj => ?_⟩
      · have hx : A.rowAfter (ofAggregate p x.1) = .ok (some x.2) := by
          rw [hu x.1]
          exact congrArg _ (Std.ExtTreeMap.mem_toList_iff_getElem?_eq_some.1 hx)
        obtain ⟨y, hy, hyconflict, -⟩ := h.live hA (hp' x.1) hx
        rw [← hconflict, hA.symm, ← hyconflict, hA.symm]
        exact h.alone _ _ _ _ hlive hy (Ne.symm hne)
      · refine (href live hlive j (hrefs ▸ hj)).imp_right fun hreplayed => ?_
        obtain ⟨e', he', hj'⟩ := hreplayed
        rw [Std.ExtTreeMap.mem_iff_isSome_getElem?, Option.isSome_iff_ne_none]
        intro hnone
        have hnil := rowAfter_eq_none.1 ((hu j).trans (congrArg _ hnone))
        exact absurd (hnil ▸ mem_ofAggregate.2 ⟨he', hj'⟩) List.not_mem_nil
  unfold project
  rw [hr]
  constructor
  · intro href
    refine ⟨u.insert e.aggregate r, if_pos ⟨hok, hadmits.2 href⟩, fun k => ?_⟩
    rw [Table.get_insert]
    split
    · next hk => rw [← hk, ofAggregate_snoc_self, hrow]
    · next hk => rw [ofAggregate_snoc_ne hk, hu k]
  · exact fun hnot => if_neg fun hboth => hnot (hadmits.1 hboth.2)

theorem inOrder_snoc :
    InOrder A.constraints t (p ++ [e]) ↔
      InOrder A.constraints t p ∧ Refers A.constraints t p e :=
  List.forall_split_snoc

/-- The replay of a log, one event after another. -/
theorem Kept.replay (hA : Lawful A) (h : Kept A present t events)
    (es : List (DomainEvent Id β String))
    (hes : ∀ k, ofAggregate es k <+: ofAggregate events k) :
    (InOrder A.constraints t es → ∃ u, es.foldlM (A.project present) ∅ = .ok u ∧ Reflects A es u) ∧
      (¬ InOrder A.constraints t es →
        es.foldlM (A.project present) ∅ = .error .integrityError) := by
  induction es using List.reverseRecOn with
  | nil =>
    refine ⟨fun _ => ⟨∅, rfl, fun k => by simp [ofAggregate]⟩, fun hnot => ?_⟩
    exact absurd (fun p e post hp => by simp at hp) hnot
  | append_singleton p e ih =>
    obtain ⟨ihok, iherror⟩ := ih fun k =>
      List.IsPrefix.trans (by rw [ofAggregate_append]; exact List.prefix_append ..) (hes k)
    rw [inOrder_snoc, List.foldlM_append]
    by_cases hp : InOrder A.constraints t p
    · obtain ⟨u, hfold, hu⟩ := ihok hp
      obtain ⟨hok, herror⟩ := h.replay_step hA hes hu
      rw [hfold]
      constructor
      · rintro ⟨-, he⟩
        obtain ⟨u', hproject, hu'⟩ := hok he
        refine ⟨u', ?_, hu'⟩
        show [e].foldlM (A.project present) u = _
        rw [List.foldlM_cons, hproject]
        rfl
      · intro hnot
        show [e].foldlM (A.project present) u = _
        rw [List.foldlM_cons, herror fun he => hnot ⟨hp, he⟩]
        rfl
    · refine ⟨fun hboth => absurd hboth.1 hp, fun _ => ?_⟩
      rw [iherror hp]
      rfl

/-- A rebuild succeeds exactly if no other table refers to a row that it deletes and the
    rows are replayed in an order that suits them, and then it changes nothing. -/
theorem SessionKept.rebuild_eq_ok (hA : Lawful A) (h : SessionKept A present clock s)
    {rows : Table ρ} :
    rebuildAndCommit (A.projection present referenced) s.rows s.events = .ok rows ↔
      rows = s.rows ∧ referenced = false ∧ InOrder A.constraints s.rows (replayOrder s.events) := by
  cases referenced with
  | true =>
    show Except.error PyError.integrityError = Except.ok rows ↔ _
    simp
  | false =>
    show ((replayOrder s.events).foldlM (A.project present) ∅).bind Except.ok = .ok rows ↔ _
    obtain ⟨hok, herror⟩ := h.kept.replay hA (replayOrder s.events) fun k => by
      rw [h.logged.ofAggregate_replayOrder]
    by_cases horder : InOrder A.constraints s.rows (replayOrder s.events)
    · obtain ⟨u, hfold, hu⟩ := hok horder
      have hback : u = s.rows := by
        refine Table.ext fun k => ?_
        have hk := hu k
        rw [h.logged.ofAggregate_replayOrder, h.kept.rows] at hk
        exact (Except.ok.inj hk).symm
      rw [hfold, hback]
      show Except.ok s.rows = Except.ok rows ↔ _
      simp [horder, eq_comm]
    · rw [herror horder]
      show Except.error PyError.integrityError = Except.ok rows ↔ _
      simp [horder]

/-- Rows that do not refer to rows of their own table can be replayed in every order. -/
theorem SessionKept.rebuild_eq_ok_of_refs_nil (hA : Lawful A) (h : SessionKept A present clock s)
    (hrefs : ∀ r, A.constraints.refs r = []) {rows : Table ρ} :
    rebuildAndCommit (A.projection present referenced) s.rows s.events = .ok rows ↔
      rows = s.rows ∧ referenced = false := by
  rw [h.rebuild_eq_ok hA]
  refine and_congr_right fun _ => and_iff_left ?_
  exact fun _ _ _ _ r _ _ hj => absurd (hrefs r ▸ hj) List.not_mem_nil

/-! ## Other flush times

A rebuild inserts its link rows later than the commands did. The two aggregate types write
rows that agree up to what `erase` removes, so the rebuild goes the same way. -/

/-- The two aggregate types write the same rows up to what `erase` removes, and the constraints
    see nothing of that. -/
structure Agree (A A' : AggregateType ρ β) (erase : ρ → ρ) : Prop where
  row : ∀ x x' e r, x.map erase = x'.map erase → A.row x e = .ok r →
    ∃ r', A'.row x' e = .ok r' ∧ erase r = erase r'
  foreignKeys : ∀ r r', erase r = erase r' → A.foreignKeys r = A'.foreignKeys r'
  conflict : ∀ r r' x x', erase r = erase r' → erase x = erase x' →
    A.constraints.conflict r x = A'.constraints.conflict r' x'
  refs : ∀ r r', erase r = erase r' → A.constraints.refs r = A'.constraints.refs r'

variable {A' : AggregateType ρ β} {erase : ρ → ρ}

/-- On erased rows the second aggregate type does what the first does on rows. -/
structure Erases (A A₀ : AggregateType ρ β) (erase : ρ → ρ) : Prop where
  row : ∀ x e, (A.row x e).map erase = A₀.row (x.map erase) e
  foreignKeys : ∀ r, A.foreignKeys r = A₀.foreignKeys (erase r)
  conflict : ∀ r x, A.constraints.conflict r x = A₀.constraints.conflict (erase r) (erase x)
  refs : ∀ r, A.constraints.refs r = A₀.constraints.refs (erase r)

/-- Two aggregate types agree if a third one does on erased rows what both do on rows. -/
theorem Erases.agree {A₀ : AggregateType ρ β} (h : Erases A A₀ erase) (h' : Erases A' A₀ erase) :
    Agree A A' erase where
  row x x' e r hx hr := by
    have heq : (A.row x e).map erase = (A'.row x' e).map erase := by rw [h.row, h'.row, hx]
    rw [hr] at heq
    cases hr' : A'.row x' e with
    | error y =>
      rw [hr'] at heq
      cases heq
    | ok r' =>
      rw [hr'] at heq
      exact ⟨r', rfl, Except.ok.inj heq⟩
  foreignKeys r r' hr := by rw [h.foreignKeys, h'.foreignKeys, hr]
  conflict r r' x x' hr hx := by rw [h.conflict, h'.conflict, hr, hx]
  refs r r' hr := by rw [h.refs, h'.refs, hr]

/-- The events of an aggregate lead to rows that agree. -/
theorem Agree.rowAfter (h : Agree A A' erase) {es : List (DomainEvent Id β String)}
    {row : Option ρ} (hrow : A.rowAfter es = .ok row) :
    ∃ row', A'.rowAfter es = .ok row' ∧ row.map erase = row'.map erase := by
  induction es using List.reverseRecOn generalizing row with
  | nil =>
    obtain rfl := Except.ok.inj hrow
    exact ⟨none, rfl, rfl⟩
  | append_singleton es e ih =>
    obtain ⟨before, r, hbefore, hr, rfl⟩ := rowAfter_snoc_eq_ok hrow
    obtain ⟨before', hbefore', hagree⟩ := ih hbefore
    obtain ⟨r', hr', herase⟩ := h.row before before' e r hagree hr
    refine ⟨some r', ?_, congrArg some herase⟩
    rw [rowAfter_snoc, hbefore']
    show (A'.row before' e).map some = _
    rw [hr']
    rfl

/-- The table that the events leave under another aggregate type, from one that has a row for
    each aggregate. -/
def restamp (A' : AggregateType ρ β) (events : List (DomainEvent Id β String)) (t : Table ρ) :
    Table ρ :=
  t.map fun k r =>
    match A'.rowAfter (ofAggregate events k) with
    | .ok (some r') => r'
    | _ => r

/-- The restamped rows are what their events leave. -/
theorem Kept.rowAfter_restamp (h : Kept A present t events) (hagree : Agree A A' erase) (k : Id) :
    A'.rowAfter (ofAggregate events k) = .ok (restamp A' events t)[k]? ∧
      t[k]?.map erase = (restamp A' events t)[k]?.map erase := by
  obtain ⟨row', hrow', heq⟩ := hagree.rowAfter (h.rows k)
  suffices hget : (restamp A' events t)[k]? = row' by
    rw [hget]
    exact ⟨hrow', heq⟩
  unfold restamp
  rw [Std.ExtTreeMap.getElem?_map, hrow']
  cases hk : t[k]? with
  | none =>
    rw [hk] at heq
    exact (Option.map_eq_none_iff.1 heq.symm).symm
  | some r =>
    rw [hk] at heq
    obtain ⟨r', hr', -⟩ := Option.map_eq_some_iff.1 heq.symm
    simp [hr']

/-- A row of the restamped table agrees with the one that there was. -/
theorem Kept.get_restamp (h : Kept A present t events) (hagree : Agree A A' erase)
    (hr : (restamp A' events t)[k]? = some r') : ∃ r, t[k]? = some r ∧ erase r = erase r' := by
  have heq := (h.rowAfter_restamp hagree k).2
  rw [hr] at heq
  exact Option.map_eq_some_iff.1 heq

/-- The restamped table is the one that there was exactly if each row is the same, for which `C`
    is the condition. -/
theorem Kept.restamp_eq_self_iff (h : Kept A present t events) (hagree : Agree A A' erase)
    {C : Id → ρ → Prop}
    (hrow : ∀ (k : Id) r r', A.rowAfter (ofAggregate events k) = .ok (some r) →
      A'.rowAfter (ofAggregate events k) = .ok (some r') → erase r = erase r' → (r' = r ↔ C k r)) :
    restamp A' events t = t ↔ ∀ (k : Id) r, t[k]? = some r → C k r := by
  constructor
  · intro heq k r hr
    have hnew := (h.rowAfter_restamp hagree k).1
    rw [heq, hr] at hnew
    exact (hrow k r r ((h.rows k).trans (congrArg _ hr)) hnew rfl).1 rfl
  · intro hall
    refine Table.ext fun k => ?_
    obtain ⟨hnew, herase⟩ := h.rowAfter_restamp hagree k
    cases hr : t[k]? with
    | none =>
      rw [hr] at herase
      exact Option.map_eq_none_iff.1 herase.symm
    | some r =>
      rw [hr] at herase
      obtain ⟨r', hr', hrr'⟩ := Option.map_eq_some_iff.1 herase.symm
      rw [hr'] at hnew ⊢
      have hsame := hrow k r r' ((h.rows k).trans (congrArg _ hr)) hnew hrr'.symm
      rw [hsame.2 (hall k r hr)]

/-- The restamped table is as tied to the log as the one that there was. -/
theorem Kept.restamp (h : Kept A present t events) (hagree : Agree A A' erase) :
    Kept A' present (restamp A' events t) events where
  rows k := (h.rowAfter_restamp hagree k).1
  alone k k' r r' hr hr' hne := by
    obtain ⟨x, hx, hxr⟩ := h.get_restamp hagree hr
    obtain ⟨x', hx', hxr'⟩ := h.get_restamp hagree hr'
    rw [← hagree.conflict x r x' r' hxr hxr']
    exact h.alone k k' x x' hx hx' hne
  foreignKeys k es r hes hr := by
    obtain ⟨rest, hrest⟩ := hes
    -- the commands have led to a row after the same events, and that row agrees
    obtain ⟨row, hrow⟩ : ∃ row, A.rowAfter es = .ok row := rowAfter_prefix (hrest ▸ h.rows k)
    obtain ⟨row', hrow', heq⟩ := hagree.rowAfter hrow
    obtain rfl : some r = row' := Except.ok.inj (hr.symm.trans hrow')
    obtain ⟨x, rfl, hx⟩ := Option.map_eq_some_iff.1 heq
    rw [← hagree.foreignKeys x r hx]
    exact h.foreignKeys k es x ⟨rest, hrest⟩ hrow

/-- Rows that do not refer to rows of their own table can be replayed in every order. -/
theorem SessionKept.rebuild_restamped_of_refs_nil (h : SessionKept A present clock s)
    (hagree : Agree A A' erase) (hA' : Lawful A') (hrefs : ∀ r, A'.constraints.refs r = [])
    {rows : Table ρ} :
    rebuildAndCommit (A'.projection present referenced) s.rows s.events = .ok rows ↔
      rows = restamp A' s.events s.rows ∧ referenced = false := by
  have hkept : SessionKept A' present clock { s with rows := restamp A' s.events s.rows } :=
    ⟨h.kept.restamp hagree, h.logged.wait le_rfl⟩
  exact hkept.rebuild_eq_ok_of_refs_nil hA' hrefs

end MiniGrc.AggregateType
