import Mathlib.Data.List.MinMax
import MiniGrc.App.ControlDefinitionLifecycle
import MiniGrc.ForStd.Except
import MiniGrc.Spec.VersionCommands

/-!
# Requests on control-definition versions

What holds between the requests that draft control-definition versions and lead them
through their lifecycle: besides the invariant of every table of versions, each version's
events start with its `Drafted` event, and its row goes back to that event.
-/

namespace MiniGrc.ControlDefinitionLifecycle

open Events VersionLifecycle

variable {clock : Clock} {s s' s₀ : ControlSession} {id : Id} {actor : Actor}
  {t : Table InternalControlVersion} {events : List Event}

theorem lawful : Lawful projection where
  flush_eq := rfl
  lifecycleEvent_body _ := rfl
  project := by
    rintro t e v b hb hv hadm
    have hproject : VersionLifecycle.project (Tracked.clean t) e b =
        .ok ((Tracked.clean t).set e.aggregate (applyTo v b e.occurredAt e.actorId)) := by
      simp [VersionLifecycle.project, hv]
    have hflush := flush_set_clean hadm
    have hb : e.body = .lifecycle b := hb
    show ∃ rows, project (Tracked.clean t) e = .ok rows ∧ _ ∧ flush rows = _
    unfold project
    rw [hb]
    simp only [hproject]
    split
    · exact ⟨_, hflush, rfl, by simp [flush]⟩
    · exact ⟨_, rfl, rfl, hflush⟩

/-- Each version's events start with the `Drafted` event that its row comes from. -/
structure Drafted (t : Table InternalControlVersion) (events : List Event) : Prop where
  first : ∀ e ∈ events, (∃ d, e.body = .drafted d) ↔ e.aggregateSequence = 1
  row : ∀ e ∈ events, ∀ d, e.body = .drafted d →
    ∃ v, t[e.aggregate]? = some v ∧ VersionRow.setColumns v {} = draftedRow e d
  all : ∀ k ∈ t, ∃ e ∈ events, e.aggregate = k

/-- What holds within a request. -/
structure Within (clock : Clock) (s : ControlSession) : Prop where
  session : SessionInv projection clock s
  drafted : Drafted s.rows.current s.events

/-- What holds between requests. -/
structure Between (clock : Clock) (s : ControlSession) : Prop extends Within clock s where
  clean : s.rows = Tracked.clean s.rows.current

/-- A lifecycle event comes after its version's `Drafted` event. -/
theorem Within.of_appended {b : LifecycleEvent} {occurredAt : Option Time} (h : Within clock s)
    (happ : AppendedOne projection clock id actor b occurredAt s s') : Within clock s' := by
  obtain ⟨v, hv, -, hcur⟩ := happ.1.rows
  -- The new event drafts nothing, and the row keeps its draft.
  refine ⟨happ.2, ?_, ?_, ?_⟩
  · rw [happ.1.events]
    intro e he
    rcases List.mem_append.1 he with he | he
    · exact h.drafted.first e he
    · obtain rfl := List.mem_singleton.1 he
      obtain ⟨e₀, he₀, hk⟩ := h.drafted.all id
        (Table.mem_of_get hv)
      have hpos : 0 < (ofAggregate s.events id).length :=
        List.length_pos_of_mem (mem_ofAggregate.2 ⟨he₀, hk⟩)
      have hseq : (eventOf projection clock s id actor b occurredAt).aggregateSequence =
          (ofAggregate s.events id).length + 1 :=
        h.session.logged.wellFormed.nextAggregateSequence id
      constructor
      · rintro ⟨d, hd⟩
        cases hd
      · intro hone
        omega
  · rw [happ.1.events, hcur]
    intro e he d hd
    rcases List.mem_append.1 he with he | he
    · obtain ⟨u, hu, hrow⟩ := h.drafted.row e he d hd
      rw [Table.get_insert]
      split
      · next hk =>
        rw [← hk, hv] at hu
        obtain rfl := Option.some.inj hu
        exact ⟨_, rfl, by rw [applyTo, VersionRow.setColumns_setColumns, hrow]⟩
      · exact ⟨u, hu, hrow⟩
    · obtain rfl := List.mem_singleton.1 he
      cases hd
  · rw [happ.1.events, hcur]
    intro k hk
    have hk : k ∈ s.rows.current := by
      rw [Std.ExtTreeMap.mem_insert] at hk
      rcases hk with hk | hk
      · obtain rfl : id = k := Nat.compare_eq_eq.1 hk
        exact Table.mem_of_get hv
      · exact hk
    obtain ⟨e, he, hek⟩ := h.drafted.all k hk
    exact ⟨e, List.mem_append_left _ he, hek⟩

/-- A new version's number exceeds every number of its control. -/
theorem lt_nextVersionNumber {k controlId : Id} {v : InternalControlVersion}
    (hv : s.rows.current[k]? = some v) (hp : v.controlId = controlId) :
    v.versionNumber < nextVersionNumber s controlId := by
  have hmem : (k, v) ∈ versionsOf s controlId := mem_versionsOf.2 ⟨hv, hp⟩
  have hle : v.versionNumber ≤
      ((versionsOf s controlId).map fun x => x.2.versionNumber).foldr max 0 :=
    List.le_max_of_le' 0 (List.mem_map.2 ⟨_, hmem, rfl⟩) le_rfl
  unfold nextVersionNumber
  omega

/-- A `Drafted` event whose version is new, and whose number is, keeps what holds within a
    request. -/
theorem Within.drafted_snoc (h : Within clock s) (args : AppendArgs Id Body String) {d : Draft}
    (hid : args.aggregate ∉ s.rows.current) (hkey : s.Fresh args)
    (hbody : args.body = .drafted d)
    (hnum : ∀ (k : Id) v, s.rows.current[k]? = some v → v.controlId = d.controlId →
      v.versionNumber ≠ d.versionNumber) :
    Within clock ⟨Tracked.clean (s.rows.current.insert args.aggregate
        (draftedRow (nextEvent clock s args) d)), s.events ++ [nextEvent clock s args],
      s.ticks + 1⟩ := by
  set e := nextEvent clock s args with he
  have hnew : ∀ e' ∈ s.events, e'.aggregate ≠ args.aggregate :=
    fun e' he' heq => hid (heq ▸ h.session.inv.known e' he')
  have hinv : Inv projection (s.rows.current.insert args.aggregate (draftedRow e d)) s.events :=
    h.session.inv.create hid rfl hnum
  have hlifecycle : projection.lifecycleEvent e.body = none := by
    show projection.lifecycleEvent args.body = none
    rw [hbody]
    rfl
  -- The version is new, so the drafting is its first event.
  refine ⟨⟨?_, hinv.other (by simp [he]) hlifecycle, ?_⟩, ?_, ?_, ?_⟩
  · show flush (Tracked.clean _) = _
    simp [flush]
  · exact h.session.logged.append hkey
  · intro e' he'
    rcases List.mem_append.1 he' with he' | he'
    · exact h.drafted.first e' he'
    · obtain rfl := List.mem_singleton.1 he'
      have hnil : ofAggregate s.events args.aggregate = [] :=
        List.filter_eq_nil_iff.2 fun e' he' => by simpa using hnew e' he'
      have hseq : e.aggregateSequence = (ofAggregate s.events args.aggregate).length + 1 :=
        h.session.logged.wellFormed.nextAggregateSequence _
      rw [hnil] at hseq
      exact ⟨fun _ => hseq, fun _ => ⟨d, hbody⟩⟩
  · intro e' he' d' hd'
    rcases List.mem_append.1 he' with he' | he'
    · obtain ⟨v, hv, hrow⟩ := h.drafted.row e' he' d' hd'
      refine ⟨v, ?_, hrow⟩
      show (s.rows.current.insert _ _)[_]? = _
      rw [Table.get_insert_ne (Ne.symm (hnew e' he')), hv]
    · obtain rfl := List.mem_singleton.1 he'
      obtain rfl : d = d' := Body.drafted.inj (hbody.symm.trans hd')
      exact ⟨draftedRow e d, by simp [he], rfl⟩
  · intro k hk
    have hk : k ∈ s.rows.current.insert args.aggregate (draftedRow e d) := hk
    rw [Std.ExtTreeMap.mem_insert] at hk
    rcases hk with hk | hk
    · exact ⟨e, by simp, Nat.compare_eq_eq.1 hk⟩
    · obtain ⟨e', he', hek⟩ := h.drafted.all k hk
      exact ⟨e', List.mem_append_left _ he', hek⟩

/-- The row of a new draft. -/
def newRow (clock : Clock) (s : ControlSession) (id : Id) (control : InternalControl)
    (revision : Revision) (actor : Actor) : InternalControlVersion :=
  draftedRow (nextEvent clock s (draftArgs s id control revision actor))
    (draftPayload s control revision)

/-- A draft under a new id adds a version and stores one event. -/
theorem draft_returned (h : Within clock s) (hid : id ∉ s.rows.current)
    (control : InternalControl) (revision : Revision) (actor : Actor) :
    ∃ s', draftControlDefinitionVersion clock s id control revision actor = .returned s' ∧
      s'.rows.current = s.rows.current.insert id (newRow clock s id control revision actor) ∧
      s'.events = s.events ++ [nextEvent clock s (draftArgs s id control revision actor)] ∧
      Within clock s' := by
  set args := draftArgs s id control revision actor with hargs
  set d := draftPayload s control revision with hd
  have hbody : (nextEvent clock s args).body = .drafted d := rfl
  have hkey : s.Fresh args := rfl
  have hwithin := h.drafted_snoc args hid rfl rfl fun k v hv hp =>
    (lt_nextVersionNumber hv hp).ne
  have hflush : flush ((Tracked.clean s.rows.current).set id
      (draftedRow (nextEvent clock s args) d)) =
      .ok (Tracked.clean (s.rows.current.insert id (draftedRow (nextEvent clock s args) d))) :=
    flush_set_clean hwithin.session.inv.admits
  have hproject : project (Tracked.clean s.rows.current) (nextEvent clock s args) =
      .ok (Tracked.clean (s.rows.current.insert id (draftedRow (nextEvent clock s args) d))) := by
    unfold project
    rw [hbody]
    simpa [Body.flushes, hargs, draftArgs, hid, Except.bind] using hflush
  unfold draftControlDefinitionVersion
  rw [appendAndProject_eq hkey h.session.settled hproject]
  exact ⟨_, rfl, rfl, rfl, hwithin⟩

/-- A draft raises, because its id is taken, or adds a version. -/
theorem draft_cases (h : Within clock s) (id : Id) (control : InternalControl)
    (revision : Revision) (actor : Actor) :
    (∃ s', draftControlDefinitionVersion clock s id control revision actor =
        .raised s' .integrityError) ∨
      id ∉ s.rows.current ∧
      ∃ s', draftControlDefinitionVersion clock s id control revision actor = .returned s' ∧
        s'.rows.current = s.rows.current.insert id (newRow clock s id control revision actor) ∧
        Within clock s' := by
  -- An id that is taken is refused; any other gets the version.
  by_cases hid : id ∈ s.rows.current
  · have hbody : (nextEvent clock s (draftArgs s id control revision actor)).body =
        .drafted (draftPayload s control revision) := rfl
    have hkey : s.Fresh (draftArgs s id control revision actor) := rfl
    have hproject : project (Tracked.clean s.rows.current)
        (nextEvent clock s (draftArgs s id control revision actor)) =
        .error .integrityError := by
      unfold project
      rw [hbody]
      simp [Body.flushes, draftArgs, hid, Except.bind]
    unfold draftControlDefinitionVersion
    rw [appendAndProject_raised hkey h.session.settled hproject]
    exact .inl ⟨_, rfl⟩
  · obtain ⟨s', hs', hcur, -, hwithin⟩ := draft_returned h hid control revision actor
    exact .inr ⟨hid, s', hs', hcur, hwithin⟩

theorem draft_returns (h : Within clock s) {control : InternalControl} {revision : Revision} :
    (draftControlDefinitionVersion clock s id control revision actor).Returns (Within clock) := by
  rcases draft_cases h id control revision actor with ⟨s', hs'⟩ | ⟨-, s', hs', -, hwithin⟩
  · rw [hs']
    trivial
  · rw [hs']
    exact hwithin

theorem Command.run_returns (h : Within clock s) (c : Command) :
    (c.run clock s).Returns (Within clock) := by
  cases c with
  | draft id control revision actor => exact draft_returns h
  | submitForReview id actor =>
    exact ((submitForReview_ends lawful h.session).mono fun _ hs' => h.of_appended hs').returns
  | reviewVersion id decision comment actor =>
    exact ((reviewVersion_ends lawful h.session).mono
      fun _ ⟨_, hs'⟩ => h.of_appended hs').returns
  | withdrawVersion id reason actor occurredAt =>
    exact ((withdrawVersion_ends lawful h.session).mono fun _ hs' => h.of_appended hs').returns
  | makeVersionEffective id actor =>
    refine ((makeVersionEffective_ends lawful h.session).mono fun s' hm => ?_).returns
    cases hm with
    | first happ => exact h.of_appended happ
    | successor _ _ _ hsup heff => exact (h.of_appended hsup).of_appended heff

theorem runAll_returns (h : Within clock s) (commands : List Command) :
    (runAll clock commands s).Returns (Within clock) :=
  Outcome.Returns.foldl (o := .returned s) h commands fun c _ hs => c.run_returns hs

theorem Command.run_script (c : Command) :
    Script projection.toProjection clock s (c.run clock s) := by
  cases c with
  | draft id control revision actor =>
    unfold Command.run draftControlDefinitionVersion
    exact .append ..
  | submitForReview id actor => exact submitForReview_script
  | reviewVersion id decision comment actor => exact reviewVersion_script
  | withdrawVersion id reason actor occurredAt => exact withdrawVersion_script
  | makeVersionEffective id actor => exact makeVersionEffective_script

theorem runAll_script (commands : List Command) :
    Script projection.toProjection clock s (runAll clock commands s) :=
  (Script.returned s).foldl commands fun c _ => c.run_script

/-! ## What is held back -/

theorem ignoresSequence : projection.IgnoresSequence := fun _ _ _ => rfl

/-- One change is held back, of a version that it does not make effective. -/
def OneHeld (s s' : ControlSession) : Prop :=
  ∃ (k : Id) (v w : InternalControlVersion), s.rows.current[k]? = some v ∧
    s'.rows = (Tracked.clean s.rows.current).set k w ∧ w.toDraft = v.toDraft ∧
    status w ≠ .effective

/-- Everything is written before an append, and its own change only if its projector flushes. -/
theorem append_oneHeld (h : Settled projection s) {b : LifecycleEvent} {occurredAt : Option Time}
    (hb : (Body.lifecycle b).flushes = false) :
    (append projection clock s id actor b occurredAt).Returns (OneHeld s) := by
  have hkey : s.Fresh
      { aggregate := id, body := projection.body b, occurredAt := occurredAt,
        actorType := actor.actorType, actorId := actor.actorId } := rfl
  have hflush : projection.flush s.rows = .ok (Tracked.clean s.rows.current) := h
  unfold append appendAndProject
  simp only [appendEvent_of_fresh hkey, if_true, hflush]
  set e := nextEvent clock s
    { aggregate := id, body := projection.body b, occurredAt := occurredAt,
      actorType := actor.actorType, actorId := actor.actorId }
  have hproject : projection.project (Tracked.clean s.rows.current) e =
      VersionLifecycle.project (Tracked.clean s.rows.current) e b := by
    have hbody : e.body = .lifecycle b := rfl
    show project _ e = _
    simp only [project, hbody, hb, Bool.false_eq_true, if_false]
  rw [hproject]
  unfold VersionLifecycle.project
  cases hv : (Tracked.clean s.rows.current).current[e.aggregate]? with
  | none => trivial
  | some v =>
    refine ⟨id, v, _, hv, rfl, rfl, ?_⟩
    -- only `_project_made_effective` makes a version effective, and it flushes
    cases b with
    | madeEffective => cases hb
    | superseded w => cases hb
    | submittedForReview => simp [status, lifecycle]
    | withdrawn reason => simp [status, lifecycle]
    | reviewed decision comment => cases decision <;> simp [status, lifecycle]

/-- A change whose projector flushes is written. -/
theorem appendAndProject_clean {args : AppendArgs Id Body String} (hkey : s.Fresh args)
    (hb : args.body.flushes = true) :
    (appendAndProject projection.toProjection clock s args).Returns fun s' =>
      s'.rows = Tracked.clean s'.rows.current := by
  unfold appendAndProject
  simp only [appendEvent_of_fresh hkey, if_true]
  split
  · trivial
  · split
    · trivial
    · next hproject =>
      have hflushes : (nextEvent clock s args).body.flushes = true := hb
      simp only [projection, project, hflushes, if_true] at hproject
      obtain ⟨changed, -, hflush⟩ := Except.bind_eq_ok.1 hproject
      show _ = Tracked.clean _
      rw [rows_of_flush hflush, Tracked.clean_current]

/-! ## Runs -/

/-- No versions and no events. -/
def initial : ControlSession := ⟨Tracked.clean ∅, [], 0⟩

theorem between_initial : Between clock initial where
  session := ⟨rfl, inv_empty, .empty _ _⟩
  drafted := ⟨fun _ he => absurd he List.not_mem_nil, fun _ he => absurd he List.not_mem_nil,
    fun _ hk => absurd hk Std.ExtTreeMap.not_mem_empty⟩
  clean := rfl

theorem Between.step (h : Between clock s) {commands : List Command}
    (hs : step clock s commands = some s') : Between clock s' := by
  obtain rfl := Option.some.inj hs
  rcases request_of_returns (P := projection.toProjection) (runAll clock commands)
    (fun rows => Tracked.clean rows.current) (runAll_returns h.toWithin commands)
    fun _ hs' => hs'.session.settled with heq | ⟨s', hs', heq⟩
  · rw [heq]
    exact h
  · rw [heq]
    exact ⟨⟨hs'.session.flushed lawful, hs'.drafted⟩, rfl⟩

/-- The passing of time does not matter. -/
theorem Between.wait (h : Between clock s) {ticks : Nat} (ht : s.ticks ≤ ticks) :
    Between clock ⟨s.rows, s.events, ticks⟩ :=
  ⟨⟨⟨h.session.settled, h.session.inv, h.session.logged.wait ht⟩, h.drafted⟩, h.clean⟩

theorem between_of_run {ok : ControlSession → List Command → Prop}
    (h : Run (ControlDefinitionLifecycle.step clock) ok initial s) : Between clock s :=
  h.invariant between_initial fun _ _ _ hs _ hu => hs.step hu

end MiniGrc.ControlDefinitionLifecycle
