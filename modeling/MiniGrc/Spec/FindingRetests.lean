import MiniGrc.Spec.FindingLifecycle

/-!
# Retests of findings

What a closure decision says of the retests of a finding, and which tests can be recorded
as its retests.

## Key results

- `remediated_and_retested_iff`: when a finding that was closed as remediated and retested
  really was
- `lineage_iff`, `retest_lineage`: when the retests of a finding stay within its control
-/

namespace MiniGrc.FindingLifecycle

open Events AggregateType ControlTests

variable {clock : Clock} {flushed : FlushTimes} {db db' : Database} {c : Database.Command}
  {k : Id} {f : Finding} {e : Event} {es pre post mid : List Event}

/-! ## Tests -/

/-- What a request does to the tests: it adds one whose source is a test of the same control,
    or it changes none of the values that a test was recorded with. -/
inductive TestEffect (tests tests' : Table ControlTest) : Prop
  | same : tests' = tests → TestEffect tests tests'
  | added (id : Id) (test : ControlTest) : tests[id]? = none → tests' = tests.insert id test →
      (∀ source, test.retestOfTestId = some source →
        ∃ t, tests[source]? = some t ∧ t.controlId = test.controlId) → TestEffect tests tests'
  | linked (id : Id) (test test' : ControlTest) : tests[id]? = some test →
      tests' = tests.insert id test' → test'.toRecorded = test.toRecorded →
      TestEffect tests tests'

/-- The source of a recorded test has been checked. -/
theorem checkRecord_eq_ok {tables : Samples} {s : TestSession} {args : Record}
    {result : TestResult} (h : checkRecord tables s args = .ok result) (source : Id)
    (hsource : args.retestOfTestId = some source) :
    ∃ t, s.rows[source]? = some t ∧ t.controlId = args.controlId := by
  have hcheck : args.retestOfTestId.forM (checkRetestOf s args) = .ok () := by
    cases hx : args.retestOfTestId.forM (checkRetestOf s args) with
    | ok u => rfl
    | error x =>
      -- the error would have ended the checks
      unfold checkRecord at h
      simp only [bind, Except.bind, hx] at h
      split at h
      · cases h
      · split at h
        · cases h
        · split at h <;> cases h
  rw [hsource] at hcheck
  have hcheck : checkRetestOf s args source = .ok () := hcheck
  unfold checkRetestOf at hcheck
  split at hcheck
  · cases hcheck
  · next t ht =>
    split at hcheck
    · cases hcheck
    · next hcontrol => exact ⟨t, ht, not_not.1 hcontrol⟩

/-- The row that a projected event leaves. -/
theorem testEffect_of_row {tests : Table ControlTest} {id : Id} {e : ControlTests.Event}
    {test : ControlTest} (h : ControlTests.row flushed tests[id]? e = .ok test)
    (hsource : ∀ payload, e.body = .recorded payload → ∀ source,
      payload.retestOfTestId = some source →
      ∃ t, tests[source]? = some t ∧ t.controlId = payload.controlId) :
    TestEffect tests (tests.insert id test) := by
  cases hid : tests[id]? with
  | none =>
    rw [hid] at h
    cases hb : e.body with
    | recorded payload =>
      obtain rfl : projectRecorded e payload = test := by simpa [ControlTests.row, hb] using h
      exact .added id _ hid rfl (hsource payload hb)
    | evidenceLinked link => simp [ControlTests.row, hb] at h
  | some t =>
    rw [hid] at h
    exact .linked id t test hid rfl (ControlTests.row_update h)

/-- What a command on tests leaves if it returns. -/
theorem test_returns {present : TableName → Id → Bool} {referenced : Bool} {tables : Samples}
    {s : TestSession} (c : ControlTests.Command) :
    (c.run ((ControlTests.aggregateType clock.flushed).projection present referenced) clock tables
      s).Returns
      fun s' => TestEffect s.rows s'.rows := by
  cases c with
  | record args actor =>
    show (recordTest _ clock tables s args actor).Returns _
    unfold recordTest
    split
    · trivial
    · next result hresult =>
      have hkey : s.Fresh {
          aggregate := args.newId
          body := .recorded { args with result := result }
          actorType := actor.actorType
          actorId := actor.actorId } := rfl
      rcases appendAndProject_cases (ControlTests.aggregateType clock.flushed) present referenced
        clock hkey with
        ⟨test, hrow, heq⟩ | ⟨t, x, -, heq⟩
      · rw [heq]
        refine testEffect_of_row hrow fun payload hb source hsource => ?_
        obtain rfl := Body.recorded.inj hb
        exact checkRecord_eq_ok hresult source hsource
      · rw [heq]
        trivial
  | linkEvidence id link actor =>
    show (linkTestEvidence _ clock s id link actor).Returns _
    unfold linkTestEvidence
    have hkey : s.Fresh {
        aggregate := id
        body := .evidenceLinked link
        actorType := actor.actorType
        actorId := actor.actorId } := rfl
    rcases appendAndProject_cases (ControlTests.aggregateType clock.flushed) present referenced
      clock hkey with
      ⟨test, hrow, heq⟩ | ⟨t, x, -, heq⟩
    · rw [heq]
      exact testEffect_of_row hrow fun payload hb => by cases hb
    · rw [heq]
      trivial

theorem step_tests (hs : Database.step clock db c = some db') :
    TestEffect db.tests.rows db'.tests.rows := by
  cases c with
  | test ct =>
    obtain rfl := Option.some.inj hs
    rcases request_of_returns (P := db.testProjection clock.flushed)
      (s := db.tests.session db.ticks) (ct.run (db.testProjection clock.flushed) clock db.samples)
      id (test_returns ct) fun _ _ => rfl with
      heq | ⟨s', heffect, heq⟩
    · simp only [heq]
      exact .same rfl
    · simp only [heq]
      exact heffect
  | freezePopulation args =>
    obtain rfl := Option.some.inj hs
    unfold Database.withSamples
    split <;> exact .same rfl
  | drawSample args =>
    obtain rfl := Option.some.inj hs
    unfold Database.withSamples
    split <;> exact .same rfl
  | _ =>
    obtain rfl := Option.some.inj hs
    exact .same rfl

/-- No test is lost, and its recorded values stay. -/
theorem TestEffect.kept {tests tests' : Table ControlTest} (h : TestEffect tests tests') {id : Id}
    {t : ControlTest} (ht : tests[id]? = some t) :
    ∃ t', tests'[id]? = some t' ∧ t'.toRecorded = t.toRecorded := by
  cases h with
  | same heq => exact ⟨t, heq ▸ ht, rfl⟩
  | added id' test hnone heq _ =>
    have hne : id' ≠ id := by
      rintro rfl
      rw [ht] at hnone
      cases hnone
    exact ⟨t, by rw [heq, Table.get_insert_ne hne, ht], rfl⟩
  | linked id' test test' htest heq hrec =>
    by_cases hid : id' = id
    · subst hid
      obtain rfl := Option.some.inj (htest.symm.trans ht)
      exact ⟨test', by rw [heq, Table.get_insert_self], hrec⟩
    · exact ⟨t, by rw [heq, Table.get_insert_ne hid, ht], rfl⟩

/-! ## The invariant -/

/-- What holds of the findings and the tests together. -/
structure RetestInv (clock : Clock) (db : Database) : Prop where
  traced : AllTraced clock.flushed (db.findings.session db.ticks)
  /-- a test repeats a test of its own control -/
  sources : ∀ (id : Id) t source, db.tests.rows[id]? = some t → t.retestOfTestId = some source →
    ∃ t', db.tests.rows[source]? = some t' ∧ t'.controlId = t.controlId
  /-- an event of a retest tells the result of the test -/
  results : ∀ e ∈ db.findings.events, ∀ id result, e.body = .retestRecorded id result →
    ∃ t, db.tests.rows[id]? = some t ∧ t.result = result
  descends : ∀ (k : Id) f, db.findings.rows[k]? = some f → ∀ id ∈ f.retestTestIds,
    ∃ t, db.tests.rows[id]? = some t ∧ Descends f t

theorem Descends.congr {f' : Finding} {t t' : ControlTest} (h : Descends f t)
    (hf : f'.toOpened = f.toOpened) (ht : t'.toRecorded = t.toRecorded) : Descends f' t' where
  source := by
    rw [hf, ht]
    exact h.source
  control := by
    rw [hf, ht]
    exact h.control

/-- A command on findings has stored one event; that of a retest tells the result of the test. -/
theorem Effect.event {tests : Table ControlTest} {cf : Command} {s s' : FindingSession}
    (h : Effect clock tests cf s s') : ∃ e, s'.events = s.events ++ [e] ∧
      ∀ id result, e.body = .retestRecorded id result →
        ∃ t, tests[id]? = some t ∧ t.result = result := by
  cases h with
  | opened e args actor payload _ _ _ hbody _ hs' =>
    subst hs'
    exact ⟨e, rfl, fun id result hb => by rw [hb] at hbody; cases hbody⟩
  | changed e f f' hf hpassed _ _ hs' =>
    subst hs'
    refine ⟨e, rfl, fun id result hb => ?_⟩
    rw [hb] at hpassed
    cases hpassed with
    | retest _ _ test _ htest _ _ => exact ⟨test, htest, rfl⟩

theorem RetestInv.step (h : RetestInv clock db) (hs : Database.step clock db c = some db') :
    RetestInv clock db' := by
  have htests := step_tests hs
  refine ⟨h.traced.step hs, ?_, ?_, ?_⟩
  · -- the source of a new test has been checked, that of an old one stays
    have hkept : ∀ (t : ControlTest) (source : Id),
        (∃ t', db.tests.rows[source]? = some t' ∧ t'.controlId = t.controlId) →
        ∃ t', db'.tests.rows[source]? = some t' ∧ t'.controlId = t.controlId := by
      rintro t source ⟨t', ht', hcontrol⟩
      obtain ⟨t'', ht'', hrec⟩ := htests.kept ht'
      exact ⟨t'', ht'', by rw [hrec, hcontrol]⟩
    intro id t source ht hsource
    refine hkept t source ?_
    cases htests with
    | same heq => exact h.sources id t source (heq ▸ ht) hsource
    | added id' test _ heq hnew =>
      rw [heq, Table.get_insert] at ht
      split at ht
      · obtain rfl := Option.some.inj ht
        exact hnew source hsource
      · exact h.sources id t source ht hsource
    | linked id' test test' htest heq hrec =>
      rw [heq, Table.get_insert] at ht
      split at ht
      · obtain rfl := Option.some.inj ht
        rw [hrec] at hsource ⊢
        exact h.sources id' test source htest hsource
      · exact h.sources id t source ht hsource
  · intro e he id result hb
    have hold : ∀ e ∈ db.findings.events, e.body = .retestRecorded id result →
        ∃ t, db'.tests.rows[id]? = some t ∧ t.result = result := by
      intro e he hb
      obtain ⟨t, ht, hres⟩ := h.results e he id result hb
      obtain ⟨t', ht', hrec⟩ := htests.kept ht
      exact ⟨t', ht', by rw [hrec, hres]⟩
    rcases step_findings hs with heq | ⟨cf, -, heq, -, heffect⟩
    · exact hold e (heq ▸ he) hb
    · obtain ⟨e', hevents, hnew⟩ := heffect.event
      have hevents : db'.findings.events = db.findings.events ++ [e'] := hevents
      rw [hevents] at he
      rcases List.mem_append.1 he with he | he
      · exact hold e he hb
      · obtain rfl := List.mem_singleton.1 he
        rw [heq]
        exact hnew id result hb
  · intro k f' hf' id hid
    have hold : ∀ f, db.findings.rows[k]? = some f → f'.toOpened = f.toOpened →
        id ∈ f.retestTestIds → ∃ t, db'.tests.rows[id]? = some t ∧ Descends f' t := by
      intro f hf hopened hid
      obtain ⟨t, ht, hdesc⟩ := h.descends k f hf id hid
      obtain ⟨t', ht', hrec⟩ := htests.kept ht
      exact ⟨t', ht', hdesc.congr hopened hrec⟩
    rcases step_row hs k with heq | ⟨cf, -, -, ⟨-, _, _, e, payload, -, -, hnew⟩ |
      ⟨f, f₁, b, hf, hf₁, hpassed, hstep⟩⟩
    · exact hold f' (heq ▸ hf') rfl hid
    · obtain rfl := Option.some.inj (hf'.symm.trans hnew)
      cases hid
    · obtain rfl := Option.some.inj (hf'.symm.trans hf₁)
      rw [hstep.retestTestIds] at hid
      rcases List.mem_append.1 hid with hid | hid
      · exact hold f hf hstep.toOpened hid
      · cases hpassed with
        | retest _ testId test _ htest _ hdesc =>
          obtain rfl : id = testId := by simpa [Body.retest] using hid
          obtain ⟨t', ht', hrec⟩ := htests.kept htest
          exact ⟨t', ht', hdesc.congr hstep.toOpened hrec⟩
        | _ => simp [Body.retest] at hid

theorem retestInv_empty : RetestInv clock Database.empty where
  traced := allTraced_of_run (Run.refl : Run (Database.step clock) (fun _ _ => True) _ _)
  sources id t source ht := by simp [Database.empty] at ht
  results e he := absurd he List.not_mem_nil
  descends k f hf := by simp [Database.empty] at hf

theorem retestInv_of_run {ok : Database → Database.Command → Prop}
    (h : Run (Database.step clock) ok Database.empty db) : RetestInv clock db :=
  h.invariant retestInv_empty fun _ _ _ ht _ hs => ht.step hs

/-! ## What a closure decision says -/

/-- The finding has a retest, and the test of the latest one passed. -/
def ReallyRetested (db : Database) (f : Finding) : Prop :=
  ∃ id test, f.retestTestIds.getLast? = some id ∧ db.tests.rows[id]? = some test ∧
    test.result = .noExceptions

/-- A retest has been recorded since one was last requested. -/
def RetestSinceRequest (es : List Event) : Prop :=
  ∃ pre e post, es = pre ++ e :: post ∧ e.body.retest ≠ none ∧
    ∀ x ∈ post, x.body ≠ .retestRequested

/-- After a retest that passed a finding stays in retesting until it is closed, as long as no
    other retest is recorded. -/
theorem Traced.passed (h : Traced flushed (pre ++ e :: mid) f) {id : Id}
    (hb : e.body = .retestRecorded id .noExceptions) (hmid : ∀ x ∈ mid, x.body.retest = none) :
    f.status = .closed ∨ f.status = .retesting ∧ ∀ x ∈ mid, x.body ≠ .retestRequested := by
  -- by induction on the events since the retest
  induction mid using List.reverseRecOn generalizing f with
  | nil =>
    obtain ⟨f₀, h₀, -⟩ := h.retesting hb
    obtain ⟨f₁, -, -, hstep⟩ := h.of_snoc h₀.ne_nil
    right
    rw [hstep.status, hb]
    exact ⟨rfl, fun _ hx => absurd hx List.not_mem_nil⟩
  | append_singleton mid x ih =>
    have hsplit : pre ++ e :: (mid ++ [x]) = (pre ++ e :: mid) ++ [x] := by simp
    rw [hsplit] at h
    obtain ⟨f₁, h₁, hguard, hstep⟩ := h.of_snoc (by simp)
    obtain ⟨hst, hreq⟩ := (ih h₁ fun y hy => hmid y (by simp [hy])).resolve_left
      (not_closed_of_guard hguard)
    have hx := hmid x (by simp)
    rw [hstep.status]
    rw [hst] at hguard ⊢
    cases hb' : x.body with
    | opened _ => simp [hb', lifecycle] at hguard
    | remediationUpdateRecorded note link =>
      refine .inr ⟨rfl, fun y hy => ?_⟩
      rcases List.mem_append.1 hy with hy | hy
      · exact hreq y hy
      · obtain rfl := List.mem_singleton.1 hy
        simp [hb']
    | retestRequested => simp [hb', lifecycle] at hguard
    | retestRecorded _ _ => simp [hb', Body.retest] at hx
    | closed _ _ => exact .inl rfl

/-- The event behind the latest retest. -/
theorem Traced.latest (h : Traced flushed es f) {id : Id}
    (hid : f.retestTestIds.getLast? = some id) :
    ∃ pre e post result, es = pre ++ e :: post ∧ e.body = .retestRecorded id result ∧
      ∀ x ∈ post, x.body.retest = none := by
  rw [h.retestTestIds] at hid
  obtain ⟨pre, e, post, hsplit, he, hpost⟩ := List.exists_of_getLast?_filterMap hid
  cases hb : e.body with
  | retestRecorded testId result =>
    obtain rfl : testId = id := by simpa [hb, Body.retest] using he
    exact ⟨pre, e, post, result, hsplit, hb, hpost⟩
  | _ => simp [hb, Body.retest] at he

/-- The latest retest of a finding that is not closed passed exactly if the finding is in
    retesting and the retest was recorded since the last request. -/
theorem Traced.reallyRetested_iff (h : Traced flushed es f) (hst : f.status ≠ .closed)
    (hresults : ∀ e ∈ es, ∀ id result, e.body = .retestRecorded id result →
      ∃ t, db.tests.rows[id]? = some t ∧ t.result = result) :
    ReallyRetested db f ↔ f.status = .retesting ∧ RetestSinceRequest es := by
  constructor
  · rintro ⟨id, test, hid, htest, hresult⟩
    obtain ⟨pre, e, post, result, rfl, hb, hpost⟩ := h.latest hid
    obtain ⟨t, ht, rfl⟩ := hresults e (by simp) id result hb
    obtain rfl := Option.some.inj (htest.symm.trans ht)
    rw [hresult] at hb
    obtain ⟨hst', hreq⟩ := (h.passed hb hpost).resolve_left hst
    exact ⟨hst', pre, e, post, rfl, by simp [hb, Body.retest], hreq⟩
  · rintro ⟨hst', pre, e, post, rfl, he, hreq⟩
    -- the latest retest is that one or a later one
    obtain ⟨id, hid⟩ : ∃ id, f.retestTestIds.getLast? = some id := by
      rw [← Option.ne_none_iff_exists', ne_eq, List.getLast?_eq_none_iff, h.retestTestIds,
        List.filterMap_eq_nil_iff]
      exact fun hnil => he (hnil e (by simp))
    obtain ⟨pre', e', post', result, hsplit, hb, hpost⟩ := h.latest hid
    have hlater : ∀ x ∈ post', x ∈ post := by
      intro x hx
      rcases List.append_eq_append_iff.1 hsplit with ⟨a, -, ha⟩ | ⟨a, -, ha⟩
      · cases a with
        | nil => rwa [(List.cons.inj ha).2]
        | cons y a =>
          rw [(List.cons.inj ha).2]
          simp [hx]
      · cases a with
        | nil => rwa [← (List.cons.inj ha).2]
        | cons y a =>
          have hmem : e ∈ post' := by
            rw [(List.cons.inj ha).2]
            simp
          exact absurd (hpost e hmem) he
    obtain ⟨t, ht, rfl⟩ := hresults e' (by simp [hsplit]) id result hb
    refine ⟨id, t, hid, ht, ?_⟩
    cases hres : t.result with
    | noExceptions => rfl
    | exceptionsNoted =>
      rw [hres] at hb
      rw [hsplit] at h
      rcases h.unresolved hb fun x hx => hreq x (hlater x hx) with hun | hun
      · rw [hst'] at hun
        cases hun
      · exact absurd hun hst

/-- `close_finding` does not look at the retests: it closes every finding that is not closed,
    with the decision of the caller. -/
theorem closes_of_open (h : Run (Database.step clock) (fun _ _ => True) Database.empty db)
    (hf : db.findings.rows[k]? = some f) (hopen : f.status ≠ .closed) (note : String)
    (actor : Actor) :
    ∃ db' f', Database.step clock db
        (.finding (.closeFinding k "remediated_and_retested" note actor)) = some db' ∧
      db'.findings.rows[k]? = some f' ∧ f'.closureDecision = some .remediatedAndRetested := by
  let P := db.findingProjection clock.flushed
  let s := db.findings.session db.ticks
  let args : AppendArgs Id Body String := {
    aggregate := k
    body := .closed .remediatedAndRetested note
    actorType := actor.actorType
    actorId := actor.actorId }
  let f' := projectClosed (nextEvent clock s args) .remediatedAndRetested note f
  have hget : s.rows[k]? = some f := hf
  -- the closed finding refers to the rows to which the open one did
  have hpresent : ∀ x ∈ foreignKeys f', db.present x.1 x.2 := fun x hx =>
    (Database.between_of_run h).findings.kept.present_of_get hf hx
  have hproject : P.project s.rows (nextEvent clock s args) = .ok (s.rows.insert k f') := by
    show ((row clock.flushed s.rows[k]? _).bind fun r => _) = _
    rw [hget]
    exact if_pos ⟨hpresent, ⟨fun _ _ _ => rfl, fun _ hj => absurd hj List.not_mem_nil⟩⟩
  have hrun : closeFinding P clock s k actor "remediated_and_retested" note =
      .returned ⟨s.rows.insert k f', s.events ++ [nextEvent clock s args], s.ticks + 1⟩ := by
    unfold closeFinding checked
    rw [hget]
    simp only [checkClose, if_neg hopen]
    show appendAndProject P clock s args = _
    exact appendAndProject_eq rfl rfl hproject
  have hrequest : request P (closeFinding P clock · k actor "remediated_and_retested" note) s =
      ⟨s.rows.insert k f', s.events ++ [nextEvent clock s args], s.ticks + 1⟩ :=
    request_of_returned hrun rfl
  refine ⟨_, f', rfl, ?_, rfl⟩
  show (request P (closeFinding P clock · k actor "remediated_and_retested" note) s).rows[k]? = _
  rw [hrequest]
  exact Table.get_insert_self

/-- The decision to close a finding as remediated and retested is the caller's, from every
    status but closed: in every state that requests lead to, a finding that is not closed can
    be closed with it. One that has been got it from its last event, in a status but closed,
    and it really was retested exactly if it was in retesting then, with a retest recorded
    since the last request. -/
theorem remediated_and_retested_iff
    (h : Run (Database.step clock) (fun _ _ => True) Database.empty db)
    (hf : db.findings.rows[k]? = some f) :
    (f.status ≠ .closed → ∀ note actor, ∃ db' f', Database.step clock db
        (.finding (.closeFinding k "remediated_and_retested" note actor)) = some db' ∧
      db'.findings.rows[k]? = some f' ∧ f'.closureDecision = some .remediatedAndRetested) ∧
    (f.closureDecision = some .remediatedAndRetested →
      ∃ pre e note f₀, ofAggregate db.findings.events k = pre ++ [e] ∧
        e.body = .closed .remediatedAndRetested note ∧
        (aggregateType clock.flushed).rowAfter pre = .ok (some f₀) ∧ f₀.status ≠ .closed ∧
        (ReallyRetested db f ↔ f₀.status = .retesting ∧ RetestSinceRequest pre)) := by
  refine ⟨fun hopen note actor => closes_of_open h hf hopen note actor, fun hd => ?_⟩
  have hinv := retestInv_of_run h
  have htrace : Traced clock.flushed (ofAggregate db.findings.events k) f :=
    hinv.traced.traced k f hf
  rcases List.eq_nil_or_concat (ofAggregate db.findings.events k) with hnil | ⟨pre, e, hsplit⟩
  · exact absurd hnil htrace.ne_nil
  rw [List.concat_eq_append] at hsplit
  rw [hsplit] at htrace
  rcases htrace.guarded with ⟨rfl, payload, hb⟩ | ⟨f₁, h₁, -⟩
  · -- a finding that has only been opened has no decision
    have htrace : Traced clock.flushed ([] ++ [e]) f := htrace
    generalize hl : [] ++ [e] = l at htrace
    cases htrace with
    | opened _ => cases hd
    | snoc h₀ _ _ => exact absurd (by simpa using congrArg List.length hl) h₀.ne_nil
  · obtain ⟨f₀, h₀, hguard, hstep⟩ := htrace.of_snoc h₁.ne_nil
    have hopen := not_closed_of_guard hguard
    have hnone : f₀.closureDecision = none := by
      by_contra hne
      exact hopen (h₀.closed_iff.1 hne)
    rw [hstep.closureDecision, hnone, Option.or_none] at hd
    cases hb : e.body with
    | closed decision note =>
      obtain rfl : decision = .remediatedAndRetested := by simpa [hb, Body.decision] using hd
      refine ⟨pre, e, note, f₀, hsplit, hb, h₀.rowAfter, hopen, ?_⟩
      have hids : f.retestTestIds = f₀.retestTestIds := by
        rw [hstep.retestTestIds, hb]
        exact List.append_nil _
      have hreally : ReallyRetested db f ↔ ReallyRetested db f₀ := by
        unfold ReallyRetested
        rw [hids]
      rw [hreally]
      refine h₀.reallyRetested_iff hopen fun x hx => hinv.results x ?_
      have hmem : x ∈ ofAggregate db.findings.events k := by simp [hsplit, hx]
      exact (mem_ofAggregate.1 hmem).1
    | _ => simp [hb, Body.decision] at hd

/-- `remediated_and_retested_iff` for a finding whose second retest passed. -/
theorem remediated_and_retested_retestedTwice :
    ∃ db f, Run.exec (Database.step tickingClock) Database.empty retestedTwice = some db ∧
      db.findings.rows[5]? = some f ∧ ReallyRetested db f ∧
      ∃ pre e, ofAggregate db.findings.events 5 = pre ++ [e] ∧ RetestSinceRequest pre := by
  obtain ⟨db, hdb, f, test, hf, hd, hids, htest, hresult⟩ : ∃ db,
      Run.exec (Database.step tickingClock) Database.empty retestedTwice = some db ∧
      ∃ f test, db.findings.rows[5]? = some f ∧ f.closureDecision = some .remediatedAndRetested ∧
        f.retestTestIds = [11, 12] ∧ db.tests.rows[12]? = some test ∧
        test.result = .noExceptions := ⟨_, rfl, _, _, rfl, rfl, rfl, rfl, rfl⟩
  have hreally : ReallyRetested db f := ⟨12, test, by rw [hids]; rfl, htest, hresult⟩
  obtain ⟨pre, e, note, f₀, hsplit, -, -, -, hiff⟩ :=
    (remediated_and_retested_iff (Run.of_exec_true _ hdb) hf).2 hd
  exact ⟨db, f, hdb, hf, hreally, pre, e, hsplit, (hiff.1 hreally).2⟩

/-- The finding of `retestedOnce` is closed as remediated and retested although its only retest
    noted exceptions. -/
theorem remediatedAndRetested_exceptions :
    ∃ db f, Run (Database.step tickingClock) (fun _ _ => True) Database.empty db ∧
      db.findings.rows[5]? = some f ∧ f.closureDecision = some .remediatedAndRetested ∧
      ¬ ReallyRetested db f := by
  obtain ⟨db, hdb, f, test, hf, hd, hids, htest, hresult⟩ : ∃ db,
      Run.exec (Database.step tickingClock) Database.empty
        (retestedOnce ++ [.finding (.closeFinding 5 "remediated_and_retested" "" {})]) = some db ∧
      ∃ f test, db.findings.rows[5]? = some f ∧ f.closureDecision = some .remediatedAndRetested ∧
        f.retestTestIds = [11] ∧ db.tests.rows[11]? = some test ∧
        test.result = .exceptionsNoted := ⟨_, rfl, _, _, rfl, rfl, rfl, rfl, rfl⟩
  refine ⟨db, f, Run.of_exec_true _ hdb, hf, hd, ?_⟩
  rintro ⟨id, test', hid, htest', hpassed⟩
  obtain rfl : 11 = id := by simpa [hids] using hid
  obtain rfl := Option.some.inj (htest.symm.trans htest')
  rw [hresult] at hpassed
  cases hpassed

/-! ## The lineage of retests -/

/-- The retests of the finding belong to its control, and go back to its source, which belongs
    to its control as well. -/
structure Lineage (db : Database) (f : Finding) : Prop where
  control : ∀ id ∈ f.retestTestIds, ∃ test, db.tests.rows[id]? = some test ∧
    ∀ control, f.controlId = some control → test.controlId = control
  source : ∀ id ∈ f.retestTestIds, ∀ source, f.sourceTestId = some source →
    ∃ test sourceTest, db.tests.rows[id]? = some test ∧ test.retestOfTestId = some source ∧
      db.tests.rows[source]? = some sourceTest ∧
      ∀ control, f.controlId = some control → sourceTest.controlId = control

/-- If the finding names a control and a source, the source is a test of the control. -/
def SourceOfControl (tests : Table ControlTest) (f : Opened) : Prop :=
  ∀ control source test, f.controlId = some control → f.sourceTestId = some source →
    tests[source]? = some test → test.controlId = control

/-- The retests of a finding keep to its control exactly if its source is a test of its
    control, or no retest has been recorded. -/
theorem RetestInv.lineage_iff (h : RetestInv clock db) (hf : db.findings.rows[k]? = some f) :
    Lineage db f ↔ f.retestTestIds = [] ∨ SourceOfControl db.tests.rows f.toOpened := by
  constructor
  · intro hl
    rcases List.eq_nil_or_concat f.retestTestIds with hnil | ⟨ids, id, hids⟩
    · exact .inl hnil
    · right
      intro control source test hcontrol hsource htest
      obtain ⟨_, sourceTest, -, -, hst, hall⟩ := hl.source id (by simp [hids]) source hsource
      obtain rfl := Option.some.inj (htest.symm.trans hst)
      exact hall control hcontrol
  · intro hor
    have hsources : ∀ id ∈ f.retestTestIds, SourceOfControl db.tests.rows f.toOpened := by
      intro id hid
      refine hor.resolve_left fun hnil => ?_
      rw [hnil] at hid
      cases hid
    constructor
    · intro id hid
      obtain ⟨test, htest, hdesc⟩ := h.descends k f hf id hid
      refine ⟨test, htest, fun control hcontrol => ?_⟩
      cases hs : f.sourceTestId with
      | none => exact hdesc.control hs control hcontrol
      | some source =>
        -- the retest is of the control of the test that it repeats
        obtain ⟨t, ht, hsame⟩ := h.sources id test source htest (hdesc.source source hs)
        rw [← hsame]
        exact hsources id hid control source t hcontrol hs ht
    · intro id hid source hs
      obtain ⟨test, htest, hdesc⟩ := h.descends k f hf id hid
      obtain ⟨t, ht, -⟩ := h.sources id test source htest (hdesc.source source hs)
      exact ⟨test, t, htest, hdesc.source source hs, ht,
        fun control hcontrol => hsources id hid control source t hcontrol hs ht⟩

/-- A finding is opened with a source that is a test of its control, if it names both. -/
def OpensWithin (db : Database) : Database.Command → Prop
  | .finding (.openFinding _ args _) =>
    ∀ control ∈ args.controlId, ∀ source ∈ args.sourceTestId, ∀ test ∈ db.tests.rows[source]?,
      test.controlId = control
  | _ => True

instance OpensWithin.decidable (db : Database) : ∀ c, Decidable (OpensWithin db c)
  | .finding (.openFinding _ args _) =>
    inferInstanceAs (Decidable (∀ control ∈ args.controlId, ∀ source ∈ args.sourceTestId,
      ∀ test ∈ db.tests.rows[source]?, test.controlId = control))
  | .finding (.recordRemediationUpdate ..) | .finding (.requestRetest ..)
  | .finding (.recordRetest ..) | .finding (.closeFinding ..) | .policy _
  | .controlDefinition _ | .occurrence _ | .evidence _ | .freezePopulation _ | .drawSample _
  | .test _ | .scope _ | .adoption _ | .insert .. => .isTrue trivial

/-- Every finding with a source has one, of its control. -/
def SourcesWithin (db : Database) : Prop :=
  ∀ (k : Id) f, db.findings.rows[k]? = some f → ∀ source, f.sourceTestId = some source →
    ∃ test, db.tests.rows[source]? = some test ∧
      ∀ control, f.controlId = some control → test.controlId = control

theorem SourcesWithin.step (h : SourcesWithin db) (hb : Database.Between clock db)
    (hok : OpensWithin db c) (hs : Database.step clock db c = some db') : SourcesWithin db' := by
  intro k f' hf' source hsource
  have hold : ∀ f, db.findings.rows[k]? = some f → f'.toOpened = f.toOpened →
      ∃ test, db'.tests.rows[source]? = some test ∧
        ∀ control, f'.controlId = some control → test.controlId = control := by
    intro f hf hopened
    rw [hopened] at hsource ⊢
    obtain ⟨test, htest, hcontrol⟩ := h k f hf source hsource
    obtain ⟨test', htest', hrec⟩ := (step_tests hs).kept htest
    exact ⟨test', htest', by rw [hrec]; exact hcontrol⟩
  rcases step_row hs k with heq | ⟨cf, rfl, -, ⟨-, args, actor, e, payload, rfl, hcheck, hnew⟩ |
    ⟨f, f₁, b, hf, hf₁, -, hstep⟩⟩
  · exact hold f' (heq ▸ hf') rfl
  · obtain rfl := Option.some.inj (hf'.symm.trans hnew)
    obtain ⟨hcontrol, hsrc⟩ := checkOpen_eq_ok hcheck
    -- the foreign key makes sure that the source is there
    have hpresent : db'.present .controlTests source :=
      (hb.step hs).findings.kept.present_of_get hf' (by
        have hsource' : payload.sourceTestId = some source := hsource
        simp [aggregateType, foreignKeys, projectOpened, hsource'])
    obtain ⟨test, htest⟩ := Table.exists_get (of_decide_eq_true hpresent)
    obtain rfl := Option.some.inj hs
    exact ⟨test, htest, fun control hc =>
      hok control (hcontrol ▸ hc) source (hsrc ▸ hsource) test htest⟩
  · obtain rfl := Option.some.inj (hf'.symm.trans hf₁)
    exact hold f hf hstep.toOpened

/-- In every state that requests lead to which open findings only with a source of their
    control, if with a source and a control at all, every retest belongs to the control of
    its finding and repeats the source of the finding, which belongs to the control too. -/
theorem retest_lineage
    (h : Run (Database.step clock) OpensWithin Database.empty db) :
    ∀ (k : Id) f, db.findings.rows[k]? = some f → Lineage db f := by
  have hinv := retestInv_of_run h
  have hempty : SourcesWithin Database.empty := fun k f hf => by simp [Database.empty] at hf
  have hwithin : Database.Between clock db ∧ SourcesWithin db :=
    h.invariant (P := fun db => Database.Between clock db ∧ SourcesWithin db)
      ⟨Database.between_empty, hempty⟩ fun _ _ _ ht hok hs => ⟨ht.1.step hs, ht.2.step ht.1 hok hs⟩
  intro k f hf
  refine (hinv.lineage_iff hf).2 (.inr ?_)
  intro control source test hcontrol hsource htest
  obtain ⟨test', htest', hall⟩ := hwithin.2 k f hf source hsource
  obtain rfl := Option.some.inj (htest.symm.trans htest')
  exact hall control hcontrol

/-- `retest_lineage` for the finding of `retestedTwice`, which names the control of its source. -/
theorem retest_lineage_retestedTwice :
    ∃ db f, Run.exec (Run.guarded (Database.step tickingClock) OpensWithin) Database.empty
        retestedTwice = some db ∧
      db.findings.rows[5]? = some f ∧ f.retestTestIds = [11, 12] ∧ Lineage db f := by
  obtain ⟨db, hdb, f, hf, hids⟩ : ∃ db,
      Run.exec (Run.guarded (Database.step tickingClock) OpensWithin) Database.empty
        retestedTwice = some db ∧
      ∃ f, db.findings.rows[5]? = some f ∧ f.retestTestIds = [11, 12] := ⟨_, rfl, _, rfl, rfl⟩
  exact ⟨db, f, hdb, hf, hids, retest_lineage (Run.of_exec_guarded _ hdb) 5 f hf⟩

/-- The finding 6 names the control 3, but its source 10 is a test of the control 1; the test
    11, which repeats the source, is recorded as its retest. -/
def mixedControls : List Database.Command :=
  [.insert .internalControls 1, .insert .internalControls 3, .insert .people 2,
    testOf 10 "exceptions_noted", testOf 11 "no_exceptions",
    .finding (.openFinding 6 {
      title := "stale accounts"
      severity := "high"
      controlId := some 3
      sourceTestId := some 10 } {}),
    .finding (.recordRemediationUpdate 6 "accounts removed" none {}),
    .finding (.requestRetest 6 {}), .finding (.recordRetest 6 11 {})]

/-- The retest of the finding of `mixedControls` belongs to another control. -/
theorem lineage_mixedControls :
    ∃ db f, Run (Database.step tickingClock) (fun _ _ => True) Database.empty db ∧
      db.findings.rows[6]? = some f ∧ ¬ Lineage db f := by
  obtain ⟨db, hdb, f, test, hf, hids, hcontrol, htest, hother⟩ : ∃ db,
      Run.exec (Database.step tickingClock) Database.empty mixedControls = some db ∧
      ∃ f test, db.findings.rows[6]? = some f ∧ f.retestTestIds = [11] ∧
        f.controlId = some 3 ∧ db.tests.rows[11]? = some test ∧ test.controlId = 1 :=
    ⟨_, rfl, _, _, rfl, rfl, rfl, rfl, rfl⟩
  refine ⟨db, f, Run.of_exec_true _ hdb, hf, fun hl => ?_⟩
  obtain ⟨test', htest', hall⟩ := hl.control 11 (by simp [hids])
  obtain rfl := Option.some.inj (htest.symm.trans htest')
  have hsame := hall 3 hcontrol
  rw [hother] at hsame
  cases hsame

end MiniGrc.FindingLifecycle
