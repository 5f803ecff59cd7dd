import MiniGrc.Spec.VersionLifecycle

/-!
# The lifecycle commands

What each command does to a session that satisfies `SessionInv`: it raises and leaves
the session as it was, or it returns after appending one event, or, for
`make_version_effective` over a version that is effective already, two. No flush fails.
-/

namespace MiniGrc.VersionLifecycle

open Events VersionRow

variable {ρ β : Type} [VersionRow ρ] {P : VersionProjection ρ β} {clock : Clock}
  {s s' : Session (Tracked ρ) β} {id : Id} {actor : Actor}

/-- The pending changes can be flushed. -/
def Settled (P : VersionProjection ρ β) (s : Session (Tracked ρ) β) : Prop :=
  P.flush s.rows = .ok (Tracked.clean s.rows.current)

/-- What holds of a session at the start and at the end of each command. -/
structure SessionInv (P : VersionProjection ρ β) (clock : Clock) (s : Session (Tracked ρ) β) :
    Prop where
  settled : Settled P s
  inv : Inv P s.rows.current s.events
  logged : s.Logged clock

/-- The event that `append` stores. -/
def eventOf (P : VersionProjection ρ β) (clock : Clock) (s : Session (Tracked ρ) β) (id : Id)
    (actor : Actor) (b : LifecycleEvent) (occurredAt : Option Time) : DomainEvent Id β String :=
  nextEvent clock s
    { aggregate := id, body := P.body b, occurredAt := occurredAt,
      actorType := actor.actorType, actorId := actor.actorId }

/-- One event appended and projected. -/
structure Appended (P : VersionProjection ρ β) (clock : Clock) (id : Id) (actor : Actor)
    (b : LifecycleEvent) (occurredAt : Option Time) (s s' : Session (Tracked ρ) β) : Prop where
  rows : ∃ v, s.rows.current[id]? = some v ∧ lifecycle.guard (status v) b ∧
    s'.rows.current = s.rows.current.insert id
      (applyTo v b (occurredAt.getD (clock.reading s.ticks)) actor.actorId)
  events : s'.events = s.events ++ [eventOf P clock s id actor b occurredAt]
  ticks : s'.ticks = s.ticks + 1

/-- One event was appended, and the session is as it should be. -/
def AppendedOne (P : VersionProjection ρ β) (clock : Clock) (id : Id) (actor : Actor)
    (b : LifecycleEvent) (occurredAt : Option Time) (s s' : Session (Tracked ρ) β) : Prop :=
  Appended P clock id actor b occurredAt s s' ∧ SessionInv P clock s'

/-- What `make_version_effective` does: it makes the version effective, after superseding
    the one that was, if any. -/
inductive MadeEffective (P : VersionProjection ρ β) (clock : Clock) (id : Id) (actor : Actor)
    (s s' : Session (Tracked ρ) β) : Prop
  | first : AppendedOne P clock id actor .madeEffective none s s' →
      MadeEffective P clock id actor s s'
  | successor (previous : Id) (mid : Session (Tracked ρ) β) : previous ≠ id →
      AppendedOne P clock previous actor (.superseded id) none s mid →
      AppendedOne P clock id actor .madeEffective none mid s' →
      MadeEffective P clock id actor s s'

/-- The versions of a parent are the rows that name it. -/
theorem mem_versionsOf {parent : Id} {x : Id × ρ} :
    x ∈ versionsOf s parent ↔ s.rows.current[x.1]? = some x.2 ∧ parentId x.2 = parent := by
  rw [versionsOf, List.mem_insertionSort, List.mem_filter, decide_eq_true_eq,
    Std.ExtTreeMap.mem_toList_iff_getElem?_eq_some]

/-- The newest version comes first. -/
theorem versionsOf_sorted {parent : Id} :
    (versionsOf s parent).Pairwise fun x y => versionNumber y.2 ≤ versionNumber x.2 := by
  have htotal : Std.Total fun x y : Id × ρ => versionNumber y.2 ≤ versionNumber x.2 :=
    ⟨fun x y => Nat.le_total ..⟩
  have htrans : IsTrans (Id × ρ) fun x y => versionNumber y.2 ≤ versionNumber x.2 :=
    ⟨fun _ _ _ hxy hyz => Nat.le_trans hyz hxy⟩
  exact List.pairwise_insertionSort _ _

/-- The previous effective version is another effective one of the same parent. -/
theorem previousEffective_some {v : ρ} {x : Id × ρ} (h : previousEffective s id v = some x) :
    s.rows.current[x.1]? = some x.2 ∧ parentId x.2 = parentId v ∧ status x.2 = .effective ∧
      x.1 ≠ id := by
  obtain ⟨hrow, hparent⟩ := mem_versionsOf.1 (List.mem_of_find?_eq_some h)
  have hx := List.find?_some h
  simp only [decide_eq_true_eq] at hx
  exact ⟨hrow, hparent, hx⟩

/-- Without one, no other version of the parent is effective. -/
theorem previousEffective_none {v : ρ} (h : previousEffective s id v = none) (k : Id) (v' : ρ)
    (hv' : s.rows.current[k]? = some v') (hk : k ≠ id) (hp : parentId v' = parentId v) :
    status v' ≠ .effective := by
  intro hst
  have hx := List.find?_eq_none.1 h (k, v') (mem_versionsOf.2 ⟨hv', hp⟩)
  simp [hst, hk] at hx

omit [VersionRow ρ] in
/-- A command on a version that is missing does not return. -/
theorem withVersion_returns {R : Session (Tracked ρ) β → Prop}
    {command : ρ → Outcome (Session (Tracked ρ) β)} (h : ∀ v, (command v).Returns R) :
    (withVersion s id command).Returns R := by
  unfold withVersion
  split
  · trivial
  · exact h _

omit [VersionRow ρ] in
/-- A command on a version that is missing raises. -/
theorem withVersion_ends {R : Session (Tracked ρ) β → Prop}
    {command : ρ → Outcome (Session (Tracked ρ) β)}
    (h : ∀ v, s.rows.current[id]? = some v → Ends s R (command v)) :
    Ends s R (withVersion s id command) := by
  unfold withVersion
  split
  · exact .raised _
  · next v hv => exact h v hv

/-! ## Successors -/

/-- The version `k` was made effective, later superseded by `w`, and then `w` was made
    effective. -/
def Succession (P : VersionProjection ρ β) (events : List (DomainEvent Id β String)) (k w : Id) :
    Prop :=
  ∃ e₀ e₁ e₂, [e₀, e₁, e₂].Sublist events ∧
    (e₀.aggregate = k ∧ P.lifecycleEvent e₀.body = some .madeEffective) ∧
    (e₁.aggregate = k ∧ P.lifecycleEvent e₁.body = some (.superseded w)) ∧
    (e₂.aggregate = w ∧ P.lifecycleEvent e₂.body = some .madeEffective)

/-- Every superseded version has its successor. It holds between commands only: in the
    midst of `make_version_effective` the successor is not effective yet. -/
def Successors (P : VersionProjection ρ β) (t : Table ρ)
    (events : List (DomainEvent Id β String)) : Prop :=
  ∀ k w, SupersededBy t k w → Succession P events k w

omit [VersionRow ρ] in
/-- A succession stays one as the log grows. -/
theorem Succession.append {events events' : List (DomainEvent Id β String)} {k w : Id}
    (h : Succession P events k w) : Succession P (events ++ events') k w := by
  obtain ⟨e₀, e₁, e₂, hsub, h⟩ := h
  exact ⟨e₀, e₁, e₂, hsub.trans (List.sublist_append_left _ _), h⟩

/-- An effective version has been made effective. -/
theorem Inv.madeEffective_mem {t : Table ρ} {events : List (DomainEvent Id β String)} {k : Id}
    {v : ρ} (h : Inv P t events) (hv : t[k]? = some v) (hst : status v = .effective) :
    ∃ e ∈ events, e.aggregate = k ∧ P.lifecycleEvent e.body = some .madeEffective := by
  have hshape := shape_of_accepts (h.accepted k)
  rw [h.status_eq hv] at hst
  rw [statusIn] at hst
  rw [hst] at hshape
  obtain ⟨pre, c, hpre, -⟩ := hshape
  exact mem_bodies_history.1 (by rw [hpre]; simp)

/-- A lifecycle event that supersedes nothing keeps the successions. -/
theorem Successors.appended (h : Successors P s.rows.current s.events) {b : LifecycleEvent}
    {occurredAt : Option Time} (happ : Appended P clock id actor b occurredAt s s')
    (hb : ∀ w, b ≠ .superseded w) : Successors P s'.rows.current s'.events := by
  obtain ⟨v, hv, -, hcur⟩ := happ.rows
  intro k w hkw
  rw [hcur] at hkw
  rw [happ.events]
  rcases SupersededBy.of_insert_applyTo hv hkw with hold | ⟨-, hw⟩
  · exact (h k w hold).append
  · exact absurd hw (hb w)

/-! ## What the commands are made of -/

omit [VersionRow ρ] in
/-- A lifecycle command is one append. -/
theorem append_script {b : LifecycleEvent} {occurredAt : Option Time} :
    Script P.toProjection clock s (append P clock s id actor b occurredAt) := .append ..

omit [VersionRow ρ] in
/-- Loading the version appends nothing. -/
theorem withVersion_script {command : ρ → Outcome (Session (Tracked ρ) β)}
    (h : ∀ v, Script P.toProjection clock s (command v)) :
    Script P.toProjection clock s (withVersion s id command) := by
  unfold withVersion
  split
  · exact .raised ..
  · exact h _

/-- Submitting is a script of appends. -/
theorem submitForReview_script :
    Script P.toProjection clock s (submitForReview P clock s id actor) := by
  refine withVersion_script fun v => ?_
  split
  · exact .raised ..
  · exact append_script

/-- Reviewing is a script of appends. -/
theorem reviewVersion_script {decision comment : String} :
    Script P.toProjection clock s (reviewVersion P clock s id actor decision comment) := by
  refine withVersion_script fun v => ?_
  split
  · exact .raised ..
  · split
    · exact .raised ..
    · split
      · exact .raised ..
      · exact append_script

/-- Making effective is a script of appends. -/
theorem makeVersionEffective_script :
    Script P.toProjection clock s (makeVersionEffective P clock s id actor) := by
  refine withVersion_script fun v => ?_
  split
  · exact .raised ..
  · refine .andThen ?_ fun s => append_script
    split
    · exact append_script
    · exact .returned s

/-- Withdrawing is a script of appends. -/
theorem withdrawVersion_script {reason : String} {occurredAt : Option Time} :
    Script P.toProjection clock s (withdrawVersion P clock s id actor reason occurredAt) := by
  refine withVersion_script fun v => ?_
  split
  · exact .raised ..
  · exact append_script

/-! ## Over another log -/

section Alike

variable {u : Session (Tracked ρ) β} {b : LifecycleEvent} {occurredAt : Option Time}

omit [VersionRow ρ] in
/-- An append goes alike in two sessions with the same rows. -/
theorem append_alike (hP : P.IgnoresSequence) (hrows : s.rows = u.rows)
    (hticks : s.ticks = u.ticks) :
    EndsAlike s u (append P clock s id actor b occurredAt)
      (append P clock u id actor b occurredAt) :=
  appendAndProject_alike hP hrows hticks rfl

omit [VersionRow ρ] in
/-- Loading the version goes alike in two sessions with the same rows. -/
theorem withVersion_alike {command command' : ρ → Outcome (Session (Tracked ρ) β)}
    (hrows : s.rows = u.rows) (hticks : s.ticks = u.ticks)
    (h : ∀ v, EndsAlike s u (command v) (command' v)) :
    EndsAlike s u (withVersion s id command) (withVersion u id command') := by
  unfold withVersion
  rw [hrows]
  split
  · exact .raised _ (.refl hrows hticks)
  · exact h _

/-- Submitting goes alike. -/
theorem submitForReview_alike (hP : P.IgnoresSequence) (hrows : s.rows = u.rows)
    (hticks : s.ticks = u.ticks) :
    EndsAlike s u (submitForReview P clock s id actor) (submitForReview P clock u id actor) := by
  refine withVersion_alike hrows hticks fun v => ?_
  split
  · exact .raised _ (.refl hrows hticks)
  · exact append_alike hP hrows hticks

/-- Reviewing goes alike. -/
theorem reviewVersion_alike (hP : P.IgnoresSequence) (hrows : s.rows = u.rows)
    (hticks : s.ticks = u.ticks) {decision comment : String} :
    EndsAlike s u (reviewVersion P clock s id actor decision comment)
      (reviewVersion P clock u id actor decision comment) := by
  refine withVersion_alike hrows hticks fun v => ?_
  split
  · exact .raised _ (.refl hrows hticks)
  · split
    · exact .raised _ (.refl hrows hticks)
    · split
      · exact .raised _ (.refl hrows hticks)
      · exact append_alike hP hrows hticks

/-- Withdrawing goes alike. -/
theorem withdrawVersion_alike (hP : P.IgnoresSequence) (hrows : s.rows = u.rows)
    (hticks : s.ticks = u.ticks) {reason : String} :
    EndsAlike s u (withdrawVersion P clock s id actor reason occurredAt)
      (withdrawVersion P clock u id actor reason occurredAt) := by
  refine withVersion_alike hrows hticks fun v => ?_
  split
  · exact .raised _ (.refl hrows hticks)
  · exact append_alike hP hrows hticks

end Alike

/-! ## The commands -/

variable [DecidableEq ρ]

omit [DecidableEq ρ] in
/-- Versions conflict symmetrically. -/
theorem conflict_comm (r r' : ρ) : (constraints : Constraints ρ).conflict r r' =
    (constraints : Constraints ρ).conflict r' r := by
  simp only [constraints, decide_eq_decide]
  constructor <;> rintro ⟨hparent, hnumber | ⟨he, he'⟩⟩
  exacts [⟨hparent.symm, .inl hnumber.symm⟩, ⟨hparent.symm, .inr ⟨he', he⟩⟩,
    ⟨hparent.symm, .inl hnumber.symm⟩, ⟨hparent.symm, .inr ⟨he', he⟩⟩]

/-- A flush writes the changes and keeps the constraints. -/
theorem flush_eq_ok {rows rows' : Tracked ρ} (h : constraints.Holds rows.stored)
    (hflush : flush rows = .ok rows') :
    rows' = Tracked.clean rows.current ∧ constraints.Holds rows.current := by
  unfold flush at hflush
  split at hflush
  · cases hflush
  · next hsome =>
    obtain rfl := Except.ok.inj hflush
    exact ⟨Tracked.flush_eq_clean hsome, Tracked.flush_holds conflict_comm h hsome⟩

/-- A flush writes the rows as the session holds them. -/
theorem rows_of_flush {rows rows' : Tracked ρ} (h : flush rows = .ok rows') :
    rows' = Tracked.clean rows.current := by
  unfold flush at h
  split at h
  · cases h
  · next hsome =>
    obtain rfl := Except.ok.inj h
    exact Tracked.flush_eq_clean hsome

/-- A single change is written if the table admits it. -/
theorem flush_set_clean {t : Table ρ} {k : Id} {r : ρ} (h : constraints.Admits t k r) :
    flush ((Tracked.clean t).set k r) = .ok (Tracked.clean (t.insert k r)) := by
  unfold flush
  rw [Tracked.flush_set_clean h]

/-- What the development asks of an aggregate type of versions: its projectors write the
    row that `applyTo` gives, flushing or not. -/
structure Lawful (P : VersionProjection ρ β) : Prop where
  flush_eq : P.flush = flush
  lifecycleEvent_body : ∀ b, P.lifecycleEvent (P.body b) = some b
  project : ∀ (t : Table ρ) (e : DomainEvent Id β String) v b, e.body = P.body b →
    t[e.aggregate]? = some v →
    constraints.Admits t e.aggregate (applyTo v b e.occurredAt e.actorId) →
    ∃ rows, P.project (Tracked.clean t) e = .ok rows ∧
      rows.current = t.insert e.aggregate (applyTo v b e.occurredAt e.actorId) ∧
      P.flush rows = .ok (Tracked.clean rows.current)

/-- Flushing keeps what holds of a session. -/
theorem SessionInv.flushed (hP : Lawful P) (h : SessionInv P clock s) :
    SessionInv P clock { s with rows := Tracked.clean s.rows.current } where
  settled := by simp [Settled, hP.flush_eq, flush]
  inv := h.inv
  logged := h.logged.wait le_rfl

/-- Appending an event that its guard allows (see `Inv.event`) succeeds. -/
theorem append_returned (hP : Lawful P) (h : SessionInv P clock s) (actor : Actor)
    (b : LifecycleEvent) (occurredAt : Option Time) {v : ρ} (hv : s.rows.current[id]? = some v)
    (hg : lifecycle.guard (status v) b)
    (heff : b = .madeEffective → ∀ (k : Id) v', s.rows.current[k]? = some v' → k ≠ id →
      parentId v' = parentId v → status v' ≠ .effective)
    (hsup : ∀ w, b = .superseded w → w ≠ id ∧ ∃ v', s.rows.current[w]? = some v' ∧
      parentId v' = parentId v ∧ (columns v').supersededByVersionId = none) :
    ∃ s', append P clock s id actor b occurredAt = .returned s' ∧
      Appended P clock id actor b occurredAt s s' ∧ SessionInv P clock s' := by
  let e := eventOf P clock s id actor b occurredAt
  have hinv : Inv P (s.rows.current.insert e.aggregate (applyTo v b e.occurredAt e.actorId))
      (s.events ++ [e]) :=
    h.inv.event hv (hP.lifecycleEvent_body b) hg heff hsup
  obtain ⟨rows, hp, hcur, hflush⟩ := hP.project s.rows.current e v b rfl hv hinv.admits
  refine ⟨_, appendAndProject_eq rfl h.settled hp, ⟨⟨v, hv, hg, hcur⟩, rfl, rfl⟩, hflush, ?_, ?_⟩
  · rw [hcur]
    exact hinv
  · exact h.logged.append (by exact rfl)

/-- An append of a guarded event ends with that event, or raises with nothing written. -/
private theorem append_ends (hP : Lawful P) (h : SessionInv P clock s) {v : ρ}
    {b : LifecycleEvent} {occurredAt : Option Time} (hv : s.rows.current[id]? = some v)
    (hg : lifecycle.guard (status v) b) (hne : b ≠ .madeEffective)
    (hns : ∀ w, b ≠ .superseded w) :
    Ends s (AppendedOne P clock id actor b occurredAt s)
      (append P clock s id actor b occurredAt) := by
  obtain ⟨s', hs', happ, hinv⟩ := append_returned hP h actor b occurredAt hv hg
    (fun hb => absurd hb hne) (fun w hb => absurd hb (hns w))
  rw [hs']
  exact .returned s' ⟨happ, hinv⟩

/-- Submitting appends one event, or raises with nothing written. -/
theorem submitForReview_ends (hP : Lawful P) (h : SessionInv P clock s) :
    Ends s (AppendedOne P clock id actor .submittedForReview none s)
      (submitForReview P clock s id actor) := by
  refine withVersion_ends fun v hv => ?_
  split
  · exact .raised _
  · next hst => exact append_ends hP h hv (not_not.1 hst) (by simp) (by simp)

/-- Reviewing appends one event, or raises with nothing written. -/
theorem reviewVersion_ends (hP : Lawful P) (h : SessionInv P clock s) {decision comment : String} :
    Ends s (fun s' => ∃ d, AppendedOne P clock id actor (.reviewed d comment) none s s')
      (reviewVersion P clock s id actor decision comment) := by
  refine withVersion_ends fun v hv => ?_
  split
  · exact .raised _
  · next hst =>
    split
    · exact .raised _
    · next d _ =>
      split
      · exact .raised _
      · exact (append_ends (b := .reviewed d comment) hP h hv (not_not.1 hst) (by simp)
          (by simp)).mono fun s' hs' => ⟨d, hs'⟩

/-- Withdrawing appends one event, or raises with nothing written. -/
theorem withdrawVersion_ends (hP : Lawful P) (h : SessionInv P clock s) {reason : String}
    {occurredAt : Option Time} :
    Ends s (AppendedOne P clock id actor (.withdrawn reason) occurredAt s)
      (withdrawVersion P clock s id actor reason occurredAt) := by
  refine withVersion_ends fun v hv => ?_
  split
  · exact .raised _
  · next hst => exact append_ends hP h hv (not_not.1 hst) (by simp) (by simp)

/-- An approved version is made effective. -/
theorem makeVersionEffective_returned (hP : Lawful P) (h : SessionInv P clock s) (actor : Actor)
    {v : ρ} (hv : s.rows.current[id]? = some v) (hst : status v = .approved) :
    ∃ s', makeVersionEffective P clock s id actor = .returned s' ∧
      MadeEffective P clock id actor s s' := by
  simp only [makeVersionEffective, withVersion, hv, hst, ne_eq, not_true_eq_false, if_false]
  split
  · next x hx =>
    obtain ⟨hrow, hparent, heff, hne⟩ := previousEffective_some hx
    -- the version is approved, so it has no successor yet
    have hnone : (columns v).supersededByVersionId = none :=
      h.inv.not_superseded_of_guard (b := .madeEffective) hv hst
    obtain ⟨mid, hmid, happ, hinv⟩ := append_returned hP h actor (.superseded id) none
      hrow heff (by simp)
      (by rintro w ⟨⟩; exact ⟨hne.symm, v, hv, hparent.symm, hnone⟩)
    obtain ⟨u, hu, -, hcur⟩ := happ.rows
    obtain rfl := Option.some.inj (hrow.symm.trans hu)
    have hv' : mid.rows.current[id]? = some v := by
      rw [hcur, Table.get_insert_ne hne, hv]
    obtain ⟨s', hs', happ', hinv'⟩ := append_returned hP hinv actor .madeEffective none
      hv' hst
      (by
        -- the one effective version of the parent has been superseded
        rintro - k v' hv' hk hp hst'
        by_cases hkx : x.1 = k
        · subst hkx
          rw [hcur, Table.get_insert, if_pos rfl] at hv'
          obtain rfl := Option.some.inj hv'
          simp [status, lifecycle] at hst'
        · rw [hcur, Table.get_insert_ne hkx] at hv'
          exact hkx (h.inv.oneEffective x.1 k x.2 v' hrow hv' (by rw [hparent, hp]) heff hst'))
      (by simp)
    simp only [hmid, Outcome.andThen, hs']
    exact ⟨s', rfl, .successor x.1 mid hne ⟨happ, hinv⟩ ⟨happ', hinv'⟩⟩
  · next hnone =>
    obtain ⟨s', hs', happ, hinv⟩ := append_returned hP h actor .madeEffective none hv hst
      (fun _ k v' hv' hk hp => previousEffective_none hnone k v' hv' hk hp) (by simp)
    simp only [Outcome.andThen, hs']
    exact ⟨s', rfl, .first ⟨happ, hinv⟩⟩

/-- Making effective does all of it, or raises with nothing written. -/
theorem makeVersionEffective_ends (hP : Lawful P) (h : SessionInv P clock s) :
    Ends s (MadeEffective P clock id actor s) (makeVersionEffective P clock s id actor) := by
  by_cases happroved : ∃ v, s.rows.current[id]? = some v ∧ status v = .approved
  · obtain ⟨v, hv, hst⟩ := happroved
    obtain ⟨s', hs', hm⟩ := makeVersionEffective_returned hP h actor hv hst
    rw [hs']
    exact .returned s' hm
  · refine withVersion_ends fun v hv => ?_
    rw [if_pos fun hst => happroved ⟨v, hv, hst⟩]
    exact .raised _

/-- Superseding a version and making its successor effective keeps `Successors`. -/
theorem Successors.madeEffective (hP : Lawful P) (hs : SessionInv P clock s)
    (h : Successors P s.rows.current s.events) (hm : MadeEffective P clock id actor s s') :
    Successors P s'.rows.current s'.events := by
  cases hm with
  | first happ => exact h.appended happ.1 (by simp)
  | successor previous mid hne hsup heff =>
    obtain ⟨u, hu, hst, hcur⟩ := hsup.1.rows
    obtain ⟨v, hv, -, hcur'⟩ := heff.1.rows
    intro k w hkw
    rw [hcur'] at hkw
    rw [heff.1.events, hsup.1.events]
    rcases SupersededBy.of_insert_applyTo hv hkw with hkw | ⟨-, hw⟩
    · rw [hcur] at hkw
      rcases SupersededBy.of_insert_applyTo hu hkw with hold | ⟨rfl, hw⟩
      · exact (h k w hold).append.append
      · -- the two events of the command, after the one that made the version effective
        obtain rfl := LifecycleEvent.superseded.inj hw
        obtain ⟨e₀, hmem, he₀⟩ := hs.inv.madeEffective_mem hu hst
        refine ⟨e₀, eventOf P clock s k actor (.superseded id) none,
          eventOf P clock mid id actor .madeEffective none, ?_, he₀,
          ⟨rfl, hP.lifecycleEvent_body _⟩, rfl, hP.lifecycleEvent_body _⟩
        rw [List.append_assoc]
        exact (List.singleton_sublist.2 hmem).append (.refl _)
    · cases hw

end MiniGrc.VersionLifecycle
