import MiniGrc.App.PolicyLifecycle
import MiniGrc.Spec.VersionCommands

/-!
# The supersession chain of policy versions

What holds in every state that the policy commands reach, one request after another.

## Key results

- `Command.run_ends`: a command raises and changes nothing, or keeps `Between`
- `supersession_chain`: one effective version per policy, and superseded versions form
  chains that go forward
-/

namespace MiniGrc.PolicyLifecycle

open Events VersionLifecycle

variable {clock : Clock} {s s' s₀ : PolicySession} {id : Id}

theorem lawful : Lawful projection where
  flush_eq := rfl
  lifecycleEvent_body _ := rfl
  project := by
    rintro t e v b hb hv hadm
    obtain rfl : e.body = b := hb
    refine ⟨(Tracked.clean t).set e.aggregate (applyTo v e.body e.occurredAt e.actorId), ?_, rfl,
      ?_⟩
    · simp [projection, project, VersionLifecycle.project, hv]
    · simp [projection, flush, Tracked.flush_set_clean hadm]

/-- What holds between requests. -/
structure Between (clock : Clock) (s : PolicySession) : Prop where
  clean : s.rows = Tracked.clean s.rows.current
  session : SessionInv projection clock s
  successors : Successors projection s.rows.current s.events

/-- How a command that passes `occurredAt` on dates an event that it stores. -/
structure DatedBy (clock : Clock) (s : PolicySession) (occurredAt : Option Time) (e : Event) :
    Prop where
  recorded : clock.reading s.ticks ≤ e.recordedAt
  occurred : e.occurredAt = e.recordedAt ∨
    (∃ reason, e.body = .withdrawn reason) ∧ occurredAt = some e.occurredAt

/-- What a returned command leaves to the commit. -/
structure Kept (clock : Clock) (c : Command) (s s' : PolicySession) : Prop where
  session : SessionInv projection clock s'
  successors : Successors projection s'.rows.current s'.events
  log : ∃ es, s'.events = s.events ++ es ∧ ∀ e ∈ es, DatedBy clock s c.occurredAt e

theorem datedBy_eventOf {actor : Actor} {b : LifecycleEvent} {occurredAt : Option Time}
    (hle : s.ticks ≤ s'.ticks) :
    DatedBy clock s occurredAt (eventOf projection clock s' id actor b none) where
  recorded := clock.mono hle
  occurred := .inl rfl

theorem Kept.of_appended {c : Command} {actor : Actor} {b : LifecycleEvent}
    {occurredAt : Option Time} (h : Between clock s)
    (happ : AppendedOne projection clock id actor b occurredAt s s') (hb : ∀ w, b ≠ .superseded w)
    (hat : occurredAt = none ∨ (∃ reason, b = .withdrawn reason) ∧ occurredAt = c.occurredAt) :
    Kept clock c s s' where
  session := happ.2
  successors := h.successors.appended happ.1 hb
  log := by
    refine ⟨_, happ.1.events, fun e he => ?_⟩
    obtain rfl := List.mem_singleton.1 he
    rcases hat with rfl | ⟨hw, hat⟩
    · exact datedBy_eventOf le_rfl
    · refine ⟨le_rfl, ?_⟩
      cases occurredAt with
      | none => exact .inl rfl
      | some t => exact .inr ⟨hw, hat.symm⟩

theorem Kept.of_madeEffective {c : Command} {actor : Actor} (h : Between clock s)
    (hm : MadeEffective projection clock id actor s s') : Kept clock c s s' where
  session := by
    cases hm with
    | first happ => exact happ.2
    | successor _ _ _ _ heff => exact heff.2
  successors := h.successors.madeEffective lawful h.session hm
  log := by
    cases hm with
    | first happ =>
      refine ⟨_, happ.1.events, fun e he => ?_⟩
      obtain rfl := List.mem_singleton.1 he
      exact datedBy_eventOf le_rfl
    | successor _ mid _ hsup heff =>
      refine ⟨_, by rw [heff.1.events, hsup.1.events, List.append_assoc], fun e he => ?_⟩
      have hticks : s.ticks ≤ mid.ticks := by
        rw [hsup.1.ticks]
        exact Nat.le_succ _
      rcases List.mem_append.1 he with he | he <;> obtain rfl := List.mem_singleton.1 he
      · exact datedBy_eventOf le_rfl
      · exact datedBy_eventOf hticks

/-- A new version's number exceeds every number of its policy. -/
theorem lt_nextVersionNumber {k policyId : Id} {v : PolicyVersion}
    (hv : s.rows.current[k]? = some v) (hp : v.policyId = policyId) :
    v.versionNumber < nextVersionNumber s policyId := by
  have hmem : (k, v) ∈ versionsOf s policyId := mem_versionsOf.2 ⟨hv, hp⟩
  have hsorted : (versionsOf s policyId).Pairwise
      fun x y => VersionRow.versionNumber y.2 ≤ VersionRow.versionNumber x.2 :=
    versionsOf_sorted
  unfold nextVersionNumber
  split
  · next hnil => simp [hnil] at hmem
  · next latest rest hcons =>
    rw [hcons] at hmem hsorted
    rcases List.mem_cons.1 hmem with rfl | hmem
    · simp
    · have hle : v.versionNumber ≤ latest.2.versionNumber := (List.pairwise_cons.1 hsorted).1 _ hmem
      omega

theorem uploadVersion_ends {c : Command} {policyId : Id} (h : Between clock s) :
    Ends s (Kept clock c s) (uploadVersion clock s id policyId) := by
  unfold uploadVersion
  split
  · exact .raised _
  · next hid =>
    set v : PolicyVersion :=
      { policyId, versionNumber := nextVersionNumber s policyId,
        createdAt := clock.reading s.ticks } with hvdef
    have hinv : Inv projection (s.rows.current.insert id v) s.events :=
      h.session.inv.create hid rfl fun k v' hv' hp => (lt_nextVersionNumber hv' hp).ne
    refine .returned _ ⟨⟨?_, hinv, h.session.logged.wait (Nat.le_succ _)⟩, ?_,
      [], (List.append_nil _).symm, fun _ he => nomatch he⟩
    · show flush (s.rows.set id v) = _
      rw [h.clean, flush, Tracked.flush_set_clean hinv.admits]
      simp
    · exact fun k w hkw => h.successors k w (hkw.of_insert_new rfl)

/-- Every command raises and leaves the session as it was, or keeps what holds between
    requests. -/
theorem Command.run_ends (h : Between clock s) (c : Command) :
    Ends s (Kept clock c s) (c.run clock s) := by
  cases c with
  | uploadVersion id policyId => exact uploadVersion_ends h
  | submitForReview id actor =>
    exact (submitForReview_ends lawful h.session).mono
      fun _ hs' => .of_appended h hs' (by simp) (.inl rfl)
  | reviewVersion id decision comment actor =>
    exact (reviewVersion_ends lawful h.session).mono
      fun _ ⟨_, hs'⟩ => .of_appended h hs' (by simp) (.inl rfl)
  | withdrawVersion id reason actor occurredAt =>
    exact (withdrawVersion_ends lawful h.session).mono
      fun _ hs' => .of_appended h hs' (by simp) (.inr ⟨⟨reason, rfl⟩, rfl⟩)
  | makeVersionEffective id actor =>
    have hends : Ends s (MadeEffective projection clock id actor s)
        (VersionLifecycle.makeVersionEffective projection clock s id actor) :=
      makeVersionEffective_ends lawful h.session
    show Ends s _ ((VersionLifecycle.makeVersionEffective projection clock s id actor).andThen _)
    generalize VersionLifecycle.makeVersionEffective projection clock s id actor = o at hends
    cases hends with
    | raised e => exact .raised e
    | returned s' hm =>
      -- the flush at the end succeeds and leaves the rows as they are
      have hkept := Kept.of_madeEffective (c := .makeVersionEffective id actor) h hm
      have hflush : flushSession projection.toProjection s' =
          .returned { s' with rows := Tracked.clean s'.rows.current } := by
        unfold flushSession
        rw [hkept.session.settled]
      show Ends s _ (flushSession projection.toProjection s')
      rw [hflush]
      exact .returned _ ⟨hkept.session.flushed lawful, hkept.successors, hkept.log⟩

/-! ## Runs -/

/-- No versions and no events. -/
def initial : PolicySession := ⟨Tracked.clean ∅, [], 0⟩

theorem between_initial : Between clock initial where
  clean := rfl
  session := ⟨rfl, inv_empty, .empty _ _⟩
  successors := by
    rintro k w ⟨v, hv, -⟩
    cases hv

/-- A request keeps what holds between requests and may add events to the log. -/
theorem Between.step (h : Between clock s) {c : Command} (hs : step clock s c = some s') :
    Between clock s' ∧
      ∃ es, s'.events = s.events ++ es ∧ ∀ e ∈ es, DatedBy clock s c.occurredAt e := by
  obtain rfl := Option.some.inj hs
  rcases request_of_returns (P := projection.toProjection) (c.run clock)
    (fun rows => Tracked.clean rows.current) (c.run_ends h).returns
    fun _ hs' => hs'.session.settled with heq | ⟨s', hs', heq⟩
  · rw [heq]
    exact ⟨h, [], (List.append_nil _).symm, fun _ he => nomatch he⟩
  · rw [heq]
    exact ⟨⟨rfl, hs'.session.flushed lawful, hs'.successors⟩, hs'.log⟩

/-- The passing of time does not matter. -/
theorem Between.wait (h : Between clock s) {ticks : Nat} (ht : s.ticks ≤ ticks) :
    Between clock ⟨s.rows, s.events, ticks⟩ :=
  ⟨h.clean, ⟨h.session.settled, h.session.inv, h.session.logged.wait ht⟩, h.successors⟩

theorem Command.run_later (c : Command) : (c.run clock s).Returns s.Later := by
  cases c with
  | uploadVersion id policyId =>
    show (PolicyLifecycle.uploadVersion clock s id policyId).Returns s.Later
    unfold PolicyLifecycle.uploadVersion
    split
    · trivial
    · exact ⟨List.prefix_rfl, Nat.le_succ _⟩
  | submitForReview id actor => exact submitForReview_script.later
  | reviewVersion id decision comment actor => exact reviewVersion_script.later
  | withdrawVersion id reason actor occurredAt => exact withdrawVersion_script.later
  | makeVersionEffective id actor =>
    exact (makeVersionEffective_script.andThen fun s => .flush s).later

theorem Between.run {ok : PolicySession → Command → Prop} (h₀ : Between clock s₀)
    (h : Run (PolicyLifecycle.step clock) ok s₀ s) :
    Between clock s ∧ s₀.events <+: s.events := by
  refine h.invariant (P := fun s => Between clock s ∧ s₀.events <+: s.events)
    ⟨h₀, List.prefix_rfl⟩ ?_
  rintro t c u ⟨ht, hpre⟩ - hu
  obtain ⟨hu, es, hes, -⟩ := ht.step hu
  exact ⟨hu, hes ▸ hpre.trans (List.prefix_append ..)⟩

/-! ## The supersession chain -/

/-- The versions of a database after completed commands, with the log. -/
structure SupersessionChain (t : Table PolicyVersion) (events : List Event) : Prop where
  oneEffective : ∀ (k k' : Id) v v', t[k]? = some v → t[k']? = some v' → v.policyId = v'.policyId →
    v.lifecycleStatus = .effective → v'.lifecycleStatus = .effective → k = k'
  supersededIff : ∀ (k : Id) v, t[k]? = some v →
    (v.lifecycleStatus = .superseded ↔ v.supersededByVersionId ≠ none)
  successor : ∀ (k : Id) v w, t[k]? = some v → v.supersededByVersionId = some w →
    w ≠ k ∧ (∃ v', t[w]? = some v' ∧ v'.policyId = v.policyId) ∧ Succession projection events k w
  acyclic : ∀ k, ¬ Relation.TransGen (SupersededBy t) k k

theorem Between.chain (h : Between clock s) : SupersessionChain s.rows.current s.events := by
  obtain ⟨rank, hrank⟩ := h.session.inv.ranked
  have hlt : ∀ k w, Relation.TransGen (SupersededBy s.rows.current) k w → rank k < rank w := by
    intro k w hkw
    induction hkw with
    | single h => exact hrank _ _ h
    | tail _ h ih => exact ih.trans (hrank _ _ h)
  refine ⟨h.session.inv.oneEffective, fun k v hv => h.session.inv.superseded_iff hv, ?_,
    fun k hk => (hlt k k hk).false⟩
  intro k v w hv hw
  refine ⟨?_, h.session.inv.successor k v w hv hw, h.successors k w ⟨v, hv, hw⟩⟩
  rintro rfl
  exact (hrank w w ⟨v, hv, hw⟩).false

/-- The last submission of the version `k` was followed by an approving review, and that
    by its becoming effective. -/
def ApprovedAfterLastSubmission (events : List Event) (k : Id) : Prop :=
  ∃ pre comment post, bodies (history projection events k) =
    pre ++ .submittedForReview :: .reviewed .approved comment :: .madeEffective :: post ∧
      .submittedForReview ∉ post

/-- A version that was effective in an earlier state was approved by a review after its
    last submission. -/
theorem Between.approved (h₀ : Between clock s₀) (h : Between clock s)
    (hlog : s₀.events <+: s.events) {k : Id} {v : PolicyVersion}
    (hv : s₀.rows.current[k]? = some v) (hst : v.lifecycleStatus = .effective) :
    ApprovedAfterLastSubmission s.events k := by
  obtain ⟨e, he, hk, hb⟩ := h₀.session.inv.madeEffective_mem hv hst
  exact approved_of_madeEffective (h.session.inv.accepted k)
    (mem_bodies_history.2 ⟨e, hlog.subset he, hk, hb⟩)

/-- In every state that completed commands lead to, superseded versions form chains that
    go forward to versions made effective later, and every version that was effective in
    an earlier state was approved. A command that raises changes nothing. -/
theorem supersession_chain
    (h₀ : Run (PolicyLifecycle.step clock) (fun _ _ => True) initial s₀)
    (h : Run (PolicyLifecycle.step clock) (fun _ _ => True) s₀ s) :
    SupersessionChain s.rows.stored s.events ∧
      (∀ (k : Id) v, s₀.rows.stored[k]? = some v → v.lifecycleStatus = .effective →
        ApprovedAfterLastSubmission s.events k) ∧
      ∀ c s' e, Command.run clock s c = .raised s' e →
        s'.rows = s.rows ∧ s'.events = s.events := by
  obtain ⟨hb₀, -⟩ := between_initial.run h₀
  obtain ⟨hb, hlog⟩ := hb₀.run h
  refine ⟨?_, ?_, ?_⟩
  · rw [hb.clean]
    exact hb.chain
  · intro k v hv hst
    rw [hb₀.clean] at hv
    exact hb₀.approved hb hlog hv hst
  · intro c s' e hraise
    have hends := c.run_ends hb
    rw [hraise] at hends
    cases hends with
    | raised e => exact ⟨rfl, rfl⟩

/-! ## A succession -/

/-- The version 1 of the policy 7 is rejected once and made effective in the end. -/
def firstVersion : List Command :=
  [.uploadVersion 1 7, .submitForReview 1 {}, .reviewVersion 1 "rejected" "a typo" {},
    .submitForReview 1 {}, .reviewVersion 1 "approved" "" {}, .makeVersionEffective 1 {}]

/-- The version 2 succeeds it. -/
def secondVersion : List Command :=
  [.uploadVersion 2 7, .submitForReview 2 {}, .reviewVersion 2 "approved" "" {},
    .makeVersionEffective 2 {}]

/-- `supersession_chain` over the two versions. -/
theorem supersession_chain_twoVersions :
    ∃ s₀ s, Run.exec (PolicyLifecycle.step tickingClock) initial firstVersion = some s₀ ∧
      Run.exec (PolicyLifecycle.step tickingClock) s₀ secondVersion = some s ∧
      SupersededBy s.rows.stored 1 2 ∧ SupersessionChain s.rows.stored s.events ∧
      ApprovedAfterLastSubmission s.events 1 := by
  refine ⟨_, _, rfl, rfl, ⟨_, rfl, rfl⟩, ?_, ?_⟩
  · exact (supersession_chain (Run.of_exec_true firstVersion rfl)
      (Run.of_exec_true secondVersion rfl)).1
  · exact (supersession_chain (Run.of_exec_true firstVersion rfl)
      (Run.of_exec_true secondVersion rfl)).2.1 1 _ rfl rfl

end MiniGrc.PolicyLifecycle
