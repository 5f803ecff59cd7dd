import MiniGrc.ForStd.GuardedMachine
import MiniGrc.Spec.Database

/-!
# The finding lifecycle

What holds of the findings in every state that requests lead to. A finding's events are
`Traced` through its row: each of them met the guard of its command in the status that the
events before it had led to. `Effect` says once what a command that returns has done.

## Key results

- `Command.run_endsWell`: the effect of a command
- `finding_lifecycle`: the invariant of the findings, and what a request may do to them
-/

namespace MiniGrc.FindingLifecycle

open Events AggregateType ControlTests

/-- The statuses with the events that lead from one to the next; the guard of an event is
    what the command that appends it checks. -/
def lifecycle : GuardedMachine FindingStatus Body where
  next status body :=
    match body with
    | .opened _ => .opened
    | .remediationUpdateRecorded _ _ => if status = .opened then .remediating else status
    | .retestRequested => .retesting
    | .retestRecorded _ testResult =>
      if testResult = .exceptionsNoted then .remediating else .retesting
    | .closed _ _ => .closed
  guard status body :=
    match body with
    | .opened _ => False
    | .remediationUpdateRecorded _ _ => status ≠ .closed
    | .retestRequested => status = .remediating
    | .retestRecorded _ _ => status = .retesting
    | .closed _ _ => status ≠ .closed

/-- The test that an event records as a retest. -/
def Body.retest : Body → Option Id
  | .retestRecorded testId _ => some testId
  | _ => none

/-- The decision of a closing event. -/
def Body.decision : Body → Option ClosureDecision
  | .closed decision _ => some decision
  | _ => none

variable {flushed : FlushTimes} {e : Event} {es pre post : List Event} {f f' : Finding} {b : Body}

/-! ## Rows -/

/-- What an event does to the row of a finding. -/
structure RowStep (f : Finding) (b : Body) (f' : Finding) : Prop where
  toOpened : f'.toOpened = f.toOpened
  createdAt : f'.createdAt = f.createdAt
  status : f'.status = lifecycle.next f.status b
  retests : ∃ createdAt, f'.retests = f.retests ++ (b.retest.map (Link.mk · createdAt)).toList
  closureDecision : f'.closureDecision = b.decision.or f.closureDecision

/-- An event adds the test of its retest. -/
theorem RowStep.retestTestIds (h : RowStep f b f') :
    f'.retestTestIds = f.retestTestIds ++ b.retest.toList := by
  obtain ⟨createdAt, hretests⟩ := h.retests
  unfold Finding.retestTestIds
  rw [hretests, List.map_append]
  cases b.retest <;> rfl

/-- Only an opening event adds a row, and only other events change one. -/
theorem row_eq_ok {x : Option Finding} (h : row flushed x e = .ok f') :
    (∃ payload, x = none ∧ e.body = .opened payload ∧ f' = projectOpened e payload) ∨
      ∃ f, x = some f ∧ (∀ payload, e.body ≠ .opened payload) ∧ RowStep f e.body f' := by
  -- A finding begins with its opening, and no later event opens it.
  cases x with
  | none =>
    cases hb : e.body with
    | opened payload =>
      refine .inl ⟨payload, rfl, rfl, ?_⟩
      simpa [row, hb] using h.symm
    | _ => simp [row, hb] at h
  | some f =>
    refine .inr ⟨f, rfl, ?_⟩
    cases hb : e.body with
    | opened payload => simp [row, hb] at h
    | remediationUpdateRecorded note link =>
      obtain rfl : projectRemediationUpdateRecorded e note link f = f' := by
        simpa [row, hb] using h
      exact ⟨by simp, rfl, rfl, rfl, ⟨0, (List.append_nil _).symm⟩, rfl⟩
    | retestRequested =>
      obtain rfl : projectRetestRequested e f = f' := by simpa [row, hb] using h
      exact ⟨by simp, rfl, rfl, rfl, ⟨0, (List.append_nil _).symm⟩, rfl⟩
    | retestRecorded testId testResult =>
      obtain rfl : projectRetestRecorded flushed e testId testResult f = f' := by
        simpa [row, hb] using h
      exact ⟨by simp, rfl, rfl, rfl, ⟨_, rfl⟩, rfl⟩
    | closed decision note =>
      obtain rfl : projectClosed e decision note f = f' := by simpa [row, hb] using h
      exact ⟨by simp, rfl, rfl, rfl, ⟨0, (List.append_nil _).symm⟩, rfl⟩

/-- An event on a finding that exists is a step of its row. -/
theorem row_update (h : row flushed (some f) e = .ok f') : RowStep f e.body f' := by
  rcases row_eq_ok h with ⟨_, hnone, -⟩ | ⟨f₀, hf₀, -, hstep⟩
  · cases hnone
  · obtain rfl := Option.some.inj hf₀
    exact hstep

/-- A retest is added by the event that records it, and no other event touches the retests. -/
theorem row_retests {x : Option Finding} (h : row flushed x e = .ok f) :
    f.retests = x.elim [] (·.retests) ++ (e.body.retest.map (Link.addedBy flushed e)).toList := by
  cases x with
  | none =>
    cases hb : e.body with
    | opened payload =>
      obtain rfl : projectOpened e payload = f := by simpa [row, hb] using h
      rfl
    | _ => simp [row, hb] at h
  | some before =>
    cases hb : e.body <;> simp only [row, hb] at h <;> cases h <;>
      simp [Body.retest, projectRemediationUpdateRecorded, projectRetestRequested,
        projectRetestRecorded, projectClosed]

/-- A finding whose retests are flushed at other times is the same exactly if each is flushed at
    the same time. -/
theorem restamped_eq_iff {flushed' : FlushTimes}
    (h : (aggregateType flushed).rowAfter es = .ok (some f))
    (h' : (aggregateType flushed').rowAfter es = .ok (some f'))
    (herase : f.unstamped = f'.unstamped) :
    f' = f ↔ ∀ e ∈ es, e.body.retest ≠ none →
      flushed' e.aggregate e.aggregateSequence = flushed e.aggregate e.aggregateSequence := by
  have hretests := column_of_rowAfter (fun _ _ _ hrow => row_retests hrow) h
  have hretests' := column_of_rowAfter (fun _ _ _ hrow => row_retests hrow) h'
  rw [← Link.filterMap_addedBy_eq_iff, ← hretests, ← hretests']
  constructor
  · rintro rfl
    rfl
  · intro heq
    calc f' = { f'.unstamped with retests := f'.retests } := rfl
      _ = { f.unstamped with retests := f.retests } := by rw [herase, heq]
      _ = f := rfl

/-- Nothing happens to a closed finding. -/
theorem not_closed_of_guard {status : FindingStatus} (h : lifecycle.guard status b) :
    status ≠ .closed := by
  rintro rfl
  cases b <;> simp [lifecycle] at h

/-- Only a closing event closes a finding. -/
theorem next_eq_closed {status : FindingStatus} (h : lifecycle.guard status b) :
    lifecycle.next status b = .closed ↔ b.decision ≠ none := by
  have hne := not_closed_of_guard h
  cases b with
  | opened _ => simp [lifecycle, Body.decision]
  | remediationUpdateRecorded _ _ =>
    simp only [lifecycle, Body.decision]
    split <;> simp [hne]
  | retestRequested => simp [lifecycle, Body.decision]
  | retestRecorded _ testResult => cases testResult <;> simp [lifecycle, Body.decision]
  | closed _ _ => simp [lifecycle, Body.decision]

/-! ## Histories -/

/-- The events have led to the row, each of them under its guard. -/
inductive Traced (flushed : FlushTimes) : List Event → Finding → Prop
  | opened {e : Event} {payload : Opened} : e.body = .opened payload →
      Traced flushed [e] (projectOpened e payload)
  | snoc {es : List Event} {f : Finding} {e : Event} {f' : Finding} : Traced flushed es f →
      lifecycle.guard f.status e.body → row flushed (some f) e = .ok f' →
      Traced flushed (es ++ [e]) f'

namespace Traced

/-- A finding that is traced has an event. -/
theorem ne_nil (h : Traced flushed es f) : es ≠ [] := by
  cases h with
  | opened _ => simp
  | snoc _ _ _ => simp

/-- A row that was changed has the trace of the row before. -/
theorem of_snoc (h : Traced flushed (es ++ [e]) f') (hes : es ≠ []) :
    ∃ f, Traced flushed es f ∧ lifecycle.guard f.status e.body ∧ RowStep f e.body f' := by
  generalize hl : es ++ [e] = l at h
  cases h with
  | opened _ => exact absurd (by simpa using congrArg List.length hl) hes
  | @snoc es' f e' _ htrace hguard hrow =>
    obtain ⟨rfl, hlast⟩ := List.append_inj' hl rfl
    obtain rfl := (List.cons.inj hlast).1
    exact ⟨f, htrace, hguard, row_update hrow⟩

/-- Every history that was not empty has led to a row. -/
theorem left (h : Traced flushed (pre ++ post) f) (hpre : pre ≠ []) :
    ∃ f₀, Traced flushed pre f₀ := by
  induction post using List.reverseRecOn generalizing f with
  | nil => exact ⟨f, by simpa using h⟩
  | append_singleton post e ih =>
    rw [← List.append_assoc] at h
    obtain ⟨f₀, h₀, -⟩ := h.of_snoc (by simp [hpre])
    exact ih h₀

/-- The first event opens the finding, and the later ones meet their guards. -/
theorem guarded (h : Traced flushed (pre ++ e :: post) f) :
    (pre = [] ∧ ∃ payload, e.body = .opened payload) ∨
      ∃ f₀, Traced flushed pre f₀ ∧ lifecycle.guard f₀.status e.body := by
  have hinit : Traced flushed ((pre ++ [e]) ++ post) f := by simpa using h
  obtain ⟨f₁, h₁⟩ := hinit.left (by simp)
  -- The opening is the first event; the others meet the guard of the status before.
  rcases List.eq_nil_or_concat pre with rfl | ⟨pre', x, rfl⟩
  · left
    refine ⟨rfl, ?_⟩
    generalize hl : [] ++ [e] = l at h₁
    cases h₁ with
    | opened hb =>
      obtain rfl := (List.cons.inj hl).1
      exact ⟨_, hb⟩
    | snoc h₀ _ _ => exact absurd (by simpa using congrArg List.length hl) h₀.ne_nil
  · obtain ⟨f₀, h₀, hguard, -⟩ := h₁.of_snoc (by simp)
    exact .inr ⟨f₀, h₀, hguard⟩

/-- The row is what a replay of the events gives. -/
theorem rowAfter (h : Traced flushed es f) :
    (aggregateType flushed).rowAfter es = .ok (some f) := by
  induction h with
  | @opened e payload hb =>
    show (aggregateType flushed).rowAfter ([] ++ [e]) = _
    rw [rowAfter_snoc]
    simp [Except.bind, Except.map, aggregateType, row, hb]
  | snoc _ _ hrow ih =>
    rw [rowAfter_snoc, ih]
    show (row _ _ _).map some = _
    rw [hrow]
    rfl

/-- Exactly the closed findings have a closure decision. -/
theorem closed_iff (h : Traced flushed es f) : f.closureDecision ≠ none ↔ f.status = .closed := by
  induction h with
  | opened _ => simp [projectOpened]
  | @snoc es f e f' _ hguard hrow ih =>
    have hstep := row_update hrow
    rw [hstep.closureDecision, hstep.status, next_eq_closed hguard]
    have hnone : f.closureDecision = none := by
      simpa [not_closed_of_guard hguard] using ih
    simp [hnone]

/-- The retests of a finding are those that its events record, with the times at which they were
    flushed. -/
theorem retests (h : Traced flushed es f) :
    f.retests = es.filterMap fun e => e.body.retest.map (Link.addedBy flushed e) :=
  column_of_rowAfter (fun _ _ _ hrow => row_retests hrow) h.rowAfter

/-- The retests of a finding are those that its events record, in their order. -/
theorem retestTestIds (h : Traced flushed es f) :
    f.retestTestIds = es.filterMap fun e => e.body.retest := by
  induction h with
  | @opened e payload hb => simp [projectOpened, Finding.retestTestIds, hb, Body.retest]
  | @snoc es f e f' _ _ hrow ih =>
    rw [(row_update hrow).retestTestIds, ih, List.filterMap_append]
    cases hb : e.body.retest <;> simp [hb]

/-- A retest is recorded while the finding is in retesting. -/
theorem retesting (h : Traced flushed (pre ++ e :: post) f) {testId : Id} {testResult : TestResult}
    (hb : e.body = .retestRecorded testId testResult) :
    ∃ f₀, Traced flushed pre f₀ ∧ f₀.status = .retesting := by
  rcases h.guarded with ⟨-, payload, hopened⟩ | ⟨f₀, h₀, hguard⟩
  · rw [hb] at hopened
    cases hopened
  · rw [hb] at hguard
    exact ⟨f₀, h₀, hguard⟩

/-- After a retest with exceptions a finding is in remediation or closed until a retest is
    requested. -/
theorem unresolved {mid : List Event} (h : Traced flushed (pre ++ e :: mid) f) {testId : Id}
    (hb : e.body = .retestRecorded testId .exceptionsNoted)
    (hmid : ∀ x ∈ mid, x.body ≠ .retestRequested) :
    f.status = .remediating ∨ f.status = .closed := by
  -- by induction on the events since the retest
  induction mid using List.reverseRecOn generalizing f with
  | nil =>
    obtain ⟨f₀, h₀, -⟩ := h.retesting hb
    obtain ⟨f₁, -, -, hstep⟩ := h.of_snoc h₀.ne_nil
    left
    rw [hstep.status, hb]
    rfl
  | append_singleton mid x ih =>
    have hsplit : pre ++ e :: (mid ++ [x]) = (pre ++ e :: mid) ++ [x] := by simp
    rw [hsplit] at h
    obtain ⟨f₁, h₁, hguard, hstep⟩ := h.of_snoc (by simp)
    have hst := ih h₁ fun y hy => hmid y (by simp [hy])
    have hrem : f₁.status = .remediating := hst.resolve_right (not_closed_of_guard hguard)
    have hx := hmid x (by simp)
    rw [hstep.status]
    rw [hrem] at hguard ⊢
    cases hb' : x.body with
    | opened _ => simp [hb', lifecycle] at hguard
    | remediationUpdateRecorded _ _ => simp [lifecycle]
    | retestRequested => exact absurd hb' hx
    | retestRecorded _ _ => simp [hb', lifecycle] at hguard
    | closed _ _ => simp [lifecycle]

/-- Between a retest with exceptions and the next retest a retest is requested. -/
theorem requested {mid : List Event} {e' : Event}
    (h : Traced flushed (pre ++ e :: (mid ++ e' :: post)) f) {testId testId' : Id}
    {testResult : TestResult}
    (hb : e.body = .retestRecorded testId .exceptionsNoted)
    (hb' : e'.body = .retestRecorded testId' testResult) :
    ∃ x ∈ mid, x.body = .retestRequested := by
  have hsplit : pre ++ e :: (mid ++ e' :: post) = (pre ++ e :: mid) ++ e' :: post := by simp
  rw [hsplit] at h
  obtain ⟨f₀, h₀, hst⟩ := h.retesting hb'
  by_contra hnone
  have hun := h₀.unresolved hb fun x hx hreq => hnone ⟨x, hx, hreq⟩
  simp [hst] at hun

end Traced

/-! ## What the commands do -/

section Commands

variable {present : TableName → Id → Bool} {referenced : Bool} {clock : Clock}
  {s s' : FindingSession} {tests : Table ControlTest} {id : Id} {actor : Actor}

/-- The finding that a command is about. -/
def Command.findingId : Command → Id
  | .openFinding id _ _ => id
  | .recordRemediationUpdate id _ _ _ => id
  | .requestRetest id _ => id
  | .recordRetest id _ _ => id
  | .closeFinding id _ _ _ => id

/-- The retest goes back to the source of the finding, or is of its control at least. -/
structure Descends (f : Finding) (test : ControlTest) : Prop where
  source : ∀ id, f.sourceTestId = some id → test.retestOfTestId = some id
  control : f.sourceTestId = none → ∀ id, f.controlId = some id → test.controlId = id

/-- The checks of a command have let the finding pass, and the body of the event. -/
inductive Passed (tests : Table ControlTest) (f : Finding) : Command → Body → Prop
  | update (id : Id) (note : String) (link : Option Id) (actor : Actor) : f.status ≠ .closed →
      Passed tests f (.recordRemediationUpdate id note link actor)
        (.remediationUpdateRecorded note link)
  | request (id : Id) (actor : Actor) : f.status = .remediating →
      Passed tests f (.requestRetest id actor) .retestRequested
  | retest (id testId : Id) (test : ControlTest) (actor : Actor) : tests[testId]? = some test →
      f.status = .retesting → Descends f test →
      Passed tests f (.recordRetest id testId actor) (.retestRecorded testId test.result)
  | close (id : Id) (decision note : String) (d : ClosureDecision) (actor : Actor) :
      f.status ≠ .closed → ClosureDecision.parse decision = some d →
      Passed tests f (.closeFinding id decision note actor) (.closed d note)

/-- The guard of an event is what its command checks. -/
theorem Passed.guard {c : Command} (h : Passed tests f c b) : lifecycle.guard f.status b := by
  cases h with
  | update _ _ _ _ hst => exact hst
  | request _ _ hst => exact hst
  | retest _ _ _ _ _ hst _ => exact hst
  | close _ _ _ _ _ hst _ => exact hst

/-- A remediation update that passes its check. -/
theorem passed_update {note : String} {link : Option Id}
    (h : checkRemediationUpdate note link f = .ok b) :
    Passed tests f (.recordRemediationUpdate id note link actor) b := by
  unfold checkRemediationUpdate at h
  split at h
  · cases h
  · next hst =>
    split at h
    · cases h
    · obtain rfl := Except.ok.inj h
      exact .update _ _ _ _ hst

/-- A request for a retest that passes its check. -/
theorem passed_request (h : checkRequestRetest f = .ok b) :
    Passed tests f (.requestRetest id actor) b := by
  unfold checkRequestRetest at h
  split at h
  · cases h
  · next hst =>
    obtain rfl := Except.ok.inj h
    exact .request _ _ (not_not.1 hst)

/-- A retest that passes its checks. -/
theorem passed_retest {testId : Id} {test : ControlTest} (htest : tests[testId]? = some test)
    (h : checkRecordRetest testId test f = .ok b) :
    Passed tests f (.recordRetest id testId actor) b := by
  unfold checkRecordRetest at h
  -- Each check that fails is an error.
  split at h
  · cases h
  · next hst =>
    split at h
    · cases h
    · next hsource =>
      split at h
      · cases h
      · next hcontrol =>
        obtain rfl := Except.ok.inj h
        refine .retest _ _ _ _ htest (not_not.1 hst) ⟨fun source hs => ?_, fun hs control hc => ?_⟩
        · by_contra hne
          exact hsource ⟨by simp [hs], by rwa [hs]⟩
        · by_contra hne
          exact hcontrol ⟨hs, by simp [hc], by simpa [hc] using hne⟩

/-- A closure that passes its check. -/
theorem passed_close {decision note : String} (h : checkClose decision note f = .ok b) :
    Passed tests f (.closeFinding id decision note actor) b := by
  unfold checkClose at h
  split at h
  · cases h
  · next hst =>
    split at h
    · cases h
    · next d hd =>
      obtain rfl := Except.ok.inj h
      exact .close _ _ _ _ _ hst hd

/-- The event that a command has stored. -/
structure Stored (clock : Clock) (s : FindingSession) (id : Id) (e : Event) : Prop where
  aggregate : e.aggregate = id
  recordedAt : e.recordedAt = clock.reading s.ticks

/-- An opened finding has the values that it was opened with. -/
theorem checkOpen_eq_ok {args : Open} {payload : Opened}
    (h : checkOpen args = .ok (.opened payload)) :
    payload.controlId = args.controlId ∧ payload.sourceTestId = args.sourceTestId := by
  unfold checkOpen at h
  split at h
  · cases h
  · split at h
    · cases h
    · obtain rfl := Body.opened.inj (Except.ok.inj h)
      exact ⟨rfl, rfl⟩

/-- What a command that returns has done: it has opened a finding, or changed one. -/
inductive Effect (clock : Clock) (tests : Table ControlTest) (c : Command)
    (s s' : FindingSession) : Prop
  | opened (e : Event) (args : Open) (actor : Actor) (payload : Opened) :
      s.rows[c.findingId]? = none → c = .openFinding c.findingId args actor →
      checkOpen args = .ok (.opened payload) → e.body = .opened payload →
      Stored clock s c.findingId e →
      s' = ⟨s.rows.insert c.findingId (projectOpened e payload), s.events ++ [e], s.ticks + 1⟩ →
      Effect clock tests c s s'
  | changed (e : Event) (f f' : Finding) :
      s.rows[c.findingId]? = some f → Passed tests f c e.body →
      row clock.flushed (some f) e = .ok f' → Stored clock s c.findingId e →
      s' = ⟨s.rows.insert c.findingId f', s.events ++ [e], s.ticks + 1⟩ →
      Effect clock tests c s s'

variable (present referenced clock s id actor) in
/-- How `append` ends. -/
theorem append_cases (body : Body) :
    (∃ e f, Stored clock s id e ∧ e.body = body ∧ row clock.flushed s.rows[id]? e = .ok f ∧
      append ((aggregateType clock.flushed).projection present referenced) clock s id actor body =
        .returned ⟨s.rows.insert id f, s.events ++ [e], s.ticks + 1⟩) ∨
      ∃ t x, (∀ message, x ≠ .valueError message) ∧
        append ((aggregateType clock.flushed).projection present referenced) clock s id actor body =
          .raised t x := by
  let args : AppendArgs Id Body String :=
    { aggregate := id, body := body, actorType := actor.actorType, actorId := actor.actorId }
  have hkey : s.Fresh args := rfl
  rcases appendAndProject_cases (aggregateType clock.flushed) present referenced clock hkey with
    ⟨f, hrow, heq⟩ | ⟨t, x, hp, heq⟩
  · exact .inl ⟨_, f, ⟨rfl, rfl⟩, rfl, hrow, heq⟩
  · refine .inr ⟨t, x, fun message hx => ?_, heq⟩
    -- neither a projector nor a constraint raises a `ValueError`
    subst hx
    have hp' : ((row clock.flushed s.rows[id]? (nextEvent clock s args)).bind fun r => _) =
      Except.error (PyError.valueError message) := hp
    cases hrow : row clock.flushed s.rows[id]? (nextEvent clock s args) with
    | error y =>
      rw [hrow] at hp'
      obtain rfl := Except.error.inj hp'
      unfold row at hrow
      split at hrow <;> cases hrow
    | ok f =>
      rw [hrow] at hp'
      simp only [Except.bind] at hp'
      split at hp' <;> cases hp'

/-- A command returns with its effect, or it raises, and has done nothing if it raises a
    `ValueError`. -/
def EndsWell (clock : Clock) (tests : Table ControlTest) (c : Command) (s : FindingSession)
    (o : Outcome FindingSession) : Prop :=
  (∃ s', o = .returned s' ∧ Effect clock tests c s s') ∨
    ∃ t x, (∀ message, x = .valueError message → t = s) ∧ o = .raised t x

/-- A command on a finding that is there. -/
theorem checked_endsWell (c : Command) (check : Finding → Except PyError Body)
    (hcheck : ∀ f b, check f = .ok b → Passed tests f c b) (hid : c.findingId = id) :
    EndsWell clock tests c s
      (checked ((aggregateType clock.flushed).projection present referenced) clock s id actor
        check) := by
  subst hid
  unfold checked
  -- A finding that is missing and a check that fails write nothing.
  split
  · exact .inr ⟨s, _, fun _ _ => rfl, rfl⟩
  · next f hf =>
    split
    · exact .inr ⟨s, _, fun _ _ => rfl, rfl⟩
    · next body hbody =>
      rcases append_cases present referenced clock s c.findingId actor body with
        ⟨e, f', hstored, rfl, hrow, heq⟩ | ⟨t, x, hx, heq⟩
      · refine .inl ⟨_, heq, .changed e f f' hf (hcheck f _ hbody) ?_ hstored rfl⟩
        rw [← hf]
        exact hrow
      · exact .inr ⟨t, x, fun message hmessage => absurd hmessage (hx message), heq⟩

/-- Opening a finding ends with it opened, or with nothing written. -/
theorem openFinding_endsWell {args : Open} :
    EndsWell clock tests (.openFinding id args actor) s
      (openFinding ((aggregateType clock.flushed).projection present referenced) clock s id actor
        args) := by
  unfold openFinding
  split
  · exact .inr ⟨s, _, fun _ _ => rfl, rfl⟩
  · next body hbody =>
    rcases append_cases present referenced clock s id actor body with
      ⟨e, f, hstored, hb, hrow, heq⟩ | ⟨t, x, hx, heq⟩
    · refine .inl ⟨_, heq, ?_⟩
      rcases row_eq_ok hrow with ⟨payload, hnone, hopened, rfl⟩ | ⟨f₀, -, hne, -⟩
      · exact .opened e args actor payload hnone rfl (by rw [hbody, ← hb, hopened]) hopened
          hstored rfl
      · -- the checks give the body of an opening event
        unfold checkOpen at hbody
        split at hbody
        · cases hbody
        · split at hbody
          · cases hbody
          · obtain rfl := Except.ok.inj hbody
            exact absurd hb (hne _)
    · exact .inr ⟨t, x, fun message hmessage => absurd hmessage (hx message), heq⟩

/-- Recording a retest ends with it recorded, or with nothing written. -/
theorem recordRetest_endsWell {testId : Id} :
    EndsWell clock tests (.recordRetest id testId actor) s
      (recordRetest ((aggregateType clock.flushed).projection present referenced) clock s id actor
        tests testId) := by
  unfold recordRetest
  split
  · exact .inr ⟨s, _, fun _ _ => rfl, rfl⟩
  · next test htest =>
    exact checked_endsWell (.recordRetest id testId actor) _
      (fun _ _ h => passed_retest htest h) rfl

/-- Every command ends with its event, or with nothing written. -/
theorem Command.run_endsWell (c : Command) :
    EndsWell clock tests c s
      (c.run ((aggregateType clock.flushed).projection present referenced) clock s tests) := by
  cases c with
  | openFinding id args actor => exact openFinding_endsWell
  | recordRemediationUpdate id note link actor =>
    exact checked_endsWell (.recordRemediationUpdate id note link actor) _
      (fun _ _ h => passed_update h) rfl
  | requestRetest id actor =>
    exact checked_endsWell (.requestRetest id actor) _ (fun _ _ h => passed_request h) rfl
  | recordRetest id testId actor => exact recordRetest_endsWell
  | closeFinding id decision note actor =>
    exact checked_endsWell (.closeFinding id decision note actor) _
      (fun _ _ h => passed_close h) rfl

/-- Every row has its trace, and what has no row has no event. -/
structure AllTraced (flushed : FlushTimes) (s : FindingSession) : Prop where
  traced : ∀ (k : Id) f, s.rows[k]? = some f → Traced flushed (ofAggregate s.events k) f
  absent : ∀ k : Id, s.rows[k]? = none → ofAggregate s.events k = []

/-- An effect keeps the other rows and their events. -/
theorem Effect.frame {c : Command} (h : Effect clock tests c s s') {k : Id}
    (hk : k ≠ c.findingId) :
    s'.rows[k]? = s.rows[k]? ∧ ofAggregate s'.events k = ofAggregate s.events k := by
  cases h with
  | opened e args actor payload _ _ _ _ hstored hs' =>
    subst hs'
    exact ⟨Table.get_insert_ne (Ne.symm hk),
      ofAggregate_snoc_ne (by rw [hstored.aggregate]; exact Ne.symm hk)⟩
  | changed e f f' _ _ _ hstored hs' =>
    subst hs'
    exact ⟨Table.get_insert_ne (Ne.symm hk),
      ofAggregate_snoc_ne (by rw [hstored.aggregate]; exact Ne.symm hk)⟩

/-- An effect adds the row of its finding, or changes it. -/
theorem Effect.self {c : Command} (h : Effect clock tests c s s') :
    (s.rows[c.findingId]? = none ∧ ∃ args actor e payload, c = .openFinding c.findingId args actor ∧
      checkOpen args = .ok (.opened payload) ∧
      s'.rows[c.findingId]? = some (projectOpened e payload)) ∨
    ∃ f f' b, s.rows[c.findingId]? = some f ∧ s'.rows[c.findingId]? = some f' ∧
      Passed tests f c b ∧ RowStep f b f' := by
  cases h with
  | opened e args actor payload hnone hc hcheck _ _ hs' =>
    subst hs'
    exact .inl ⟨hnone, args, actor, e, payload, hc, hcheck, Table.get_insert_self⟩
  | changed e f f' hf hpassed hrow _ hs' =>
    subst hs'
    exact .inr ⟨f, f', e.body, hf, Table.get_insert_self, hpassed, row_update hrow⟩

/-- The row of a command that has had its effect has its trace. -/
theorem Effect.traced_self {c : Command} (h : Effect clock tests c s s')
    (hs : AllTraced clock.flushed s) :
    ∃ f', s'.rows[c.findingId]? = some f' ∧
      Traced clock.flushed (ofAggregate s'.events c.findingId) f' := by
  -- The finding is opened, or one event longer.
  cases h with
  | opened e args actor payload hnone _ _ hbody hstored hs' =>
    subst hs'
    refine ⟨_, Table.get_insert_self, ?_⟩
    show Traced clock.flushed (ofAggregate (s.events ++ [e]) c.findingId) _
    rw [← hstored.aggregate, ofAggregate_snoc_self, hstored.aggregate, hs.absent _ hnone]
    exact .opened hbody
  | changed e f f' hf hpassed hrow hstored hs' =>
    subst hs'
    refine ⟨_, Table.get_insert_self, ?_⟩
    show Traced clock.flushed (ofAggregate (s.events ++ [e]) c.findingId) _
    rw [← hstored.aggregate, ofAggregate_snoc_self, hstored.aggregate]
    exact (hs.traced _ f hf).snoc hpassed.guard hrow

/-- A command leaves every finding traced. -/
theorem Effect.allTraced {c : Command} (h : Effect clock tests c s s')
    (hs : AllTraced clock.flushed s) : AllTraced clock.flushed s' where
  traced k f' hf' := by
    obtain ⟨f₁, hf₁, htrace⟩ := h.traced_self hs
    -- Only the finding of the command has an event more.
    by_cases hk : k = c.findingId
    · subst hk
      obtain rfl := Option.some.inj (hf₁.symm.trans hf')
      exact htrace
    · obtain ⟨hrows, hevents⟩ := h.frame hk
      rw [hevents]
      exact hs.traced k f' (hrows ▸ hf')
  absent k hnone := by
    obtain ⟨f₁, hf₁, -⟩ := h.traced_self hs
    by_cases hk : k = c.findingId
    · subst hk
      rw [hf₁] at hnone
      cases hnone
    · obtain ⟨hrows, hevents⟩ := h.frame hk
      rw [hevents]
      exact hs.absent k (hrows ▸ hnone)

end Commands

/-! ## Requests -/

section Requests

variable {clock : Clock} {db db' : Database} {c : Database.Command}

/-- A request leaves the findings as they are, or it is a command on findings that has had
    its effect. -/
theorem step_findings (hs : Database.step clock db c = some db') :
    db'.findings = db.findings ∨
      ∃ cf, c = .finding cf ∧ db'.tests = db.tests ∧
        (cf.run (db.findingProjection clock.flushed) clock (db.findings.session db.ticks)
          db.tests.rows = .returned (db'.findings.session db'.ticks)) ∧
        Effect clock db.tests.rows cf (db.findings.session db.ticks)
          (db'.findings.session db'.ticks) := by
  -- Only a command on findings writes to them.
  cases c with
  | finding cf =>
    obtain rfl := Option.some.inj hs
    set s := db.findings.session db.ticks with hsession
    have hends : EndsWell clock db.tests.rows cf s
        (cf.run (db.findingProjection clock.flushed) clock s db.tests.rows) := cf.run_endsWell
    rcases hends with ⟨s', hrun, heffect⟩ | ⟨t, x, -, hrun⟩
    · have hrequest : request (db.findingProjection clock.flushed)
          (cf.run (db.findingProjection clock.flushed) clock · db.tests.rows) s = s' :=
        request_of_returned hrun rfl
      refine .inr ⟨cf, rfl, rfl, ?_⟩
      simp only [hrequest]
      exact ⟨hrun, heffect⟩
    · have hrequest : request (db.findingProjection clock.flushed)
          (cf.run (db.findingProjection clock.flushed) clock · db.tests.rows) s = s :=
        request_of_raised hrun
      left
      simp only [hrequest]
      rfl
  | freezePopulation args =>
    obtain rfl := Option.some.inj hs
    unfold Database.withSamples
    split <;> exact .inl rfl
  | drawSample args =>
    obtain rfl := Option.some.inj hs
    unfold Database.withSamples
    split <;> exact .inl rfl
  | _ =>
    obtain rfl := Option.some.inj hs
    exact .inl rfl

/-- Every step leaves every finding traced. -/
theorem AllTraced.step (h : AllTraced clock.flushed (db.findings.session db.ticks))
    (hs : Database.step clock db c = some db') :
    AllTraced clock.flushed (db'.findings.session db'.ticks) := by
  rcases step_findings hs with heq | ⟨cf, -, -, -, heffect⟩
  · rw [heq]
    exact ⟨h.traced, h.absent⟩
  · exact heffect.allTraced h

/-- In every run the findings are traced. -/
theorem allTraced_of_run {ok : Database → Database.Command → Prop}
    (h : Run (Database.step clock) ok Database.empty db) :
    AllTraced clock.flushed (db.findings.session db.ticks) :=
  h.invariant (P := fun db => AllTraced clock.flushed (db.findings.session db.ticks))
    ⟨fun k f hf => by simp [Database.empty, Stream.session] at hf, fun k _ => rfl⟩
    fun _ _ _ ht _ hs => ht.step hs

/-- What one request may do to the findings. -/
structure FindingStep (clock : Clock) (db : Database) (c : Database.Command) (db' : Database) :
    Prop where
  /-- a closed finding stays as it is -/
  absorbing : ∀ (k : Id) f, db.findings.rows[k]? = some f → f.status = .closed →
    db'.findings.rows[k]? = some f
  /-- only `close_finding` closes a finding, which was there -/
  closes : ∀ (k : Id) f', db'.findings.rows[k]? = some f' → f'.status = .closed →
    db.findings.rows[k]? = some f' ∨ (∃ f, db.findings.rows[k]? = some f) ∧
      ∃ decision note actor, c = .finding (.closeFinding k decision note actor)
  /-- a retest is added only in retesting; one with exceptions leads back to remediating -/
  retests : ∀ (k : Id) f f', db.findings.rows[k]? = some f → db'.findings.rows[k]? = some f' →
    f'.retests ≠ f.retests → f.status = .retesting ∧ ∃ testId test createdAt actor,
      c = .finding (.recordRetest k testId actor) ∧ db.tests.rows[testId]? = some test ∧
      f'.retests = f.retests ++ [⟨testId, createdAt⟩] ∧
      (test.result = .exceptionsNoted → f'.status = .remediating)
  /-- only a request for a retest leads to retesting, from remediating -/
  retesting : ∀ (k : Id) f f', db.findings.rows[k]? = some f → db'.findings.rows[k]? = some f' →
    f.status ≠ .retesting → f'.status = .retesting →
    f.status = .remediating ∧ ∃ actor, c = .finding (.requestRetest k actor)
  /-- a new finding is open, without retests -/
  opens : ∀ (k : Id) f', db.findings.rows[k]? = none → db'.findings.rows[k]? = some f' →
    f'.status = .opened ∧ f'.retests = [] ∧ ∃ args actor,
      c = .finding (.openFinding k args actor)
  /-- a command that raises leaves the rows and the events as they are, and one that raises a
      `ValueError` has not changed them in the first place -/
  refused : ∀ cf s x, c = .finding cf →
    cf.run (db.findingProjection clock.flushed) clock (db.findings.session db.ticks) db.tests.rows =
      .raised s x →
    db'.findings = db.findings ∧
      ∀ message, x = .valueError message → s = db.findings.session db.ticks

/-- What a request does to the row of one finding. -/
theorem step_row (hs : Database.step clock db c = some db') (k : Id) :
    db'.findings.rows[k]? = db.findings.rows[k]? ∨
      ∃ cf, c = .finding cf ∧ cf.findingId = k ∧
        ((db.findings.rows[k]? = none ∧ ∃ args actor e payload, cf = .openFinding k args actor ∧
          checkOpen args = .ok (.opened payload) ∧
          db'.findings.rows[k]? = some (projectOpened e payload)) ∨
        ∃ f f' b, db.findings.rows[k]? = some f ∧ db'.findings.rows[k]? = some f' ∧
          Passed db.tests.rows f cf b ∧ RowStep f b f') := by
  rcases step_findings hs with heq | ⟨cf, hc, -, -, heffect⟩
  · exact .inl (by rw [heq])
  · by_cases hk : k = cf.findingId
    · subst hk
      exact .inr ⟨cf, hc, rfl, heffect.self⟩
    · exact .inl (heffect.frame hk).1

/-- What one step does to the findings. -/
theorem findingStep (hs : Database.step clock db c = some db') : FindingStep clock db c db' where
  absorbing k f hf hst := by
    -- The row is as it was, is opened or takes one step that passed its check.
    rcases step_row hs k with heq | ⟨cf, -, -, ⟨hnone, -⟩ | ⟨f₀, f₁, b, hf₀, -, hpassed, -⟩⟩
    · rw [heq, hf]
    · rw [hf] at hnone
      cases hnone
    · obtain rfl := Option.some.inj (hf.symm.trans hf₀)
      exact absurd hst (not_closed_of_guard hpassed.guard)
  closes k f' hf' hst := by
    rcases step_row hs k with heq | ⟨cf, rfl, rfl, ⟨-, _, _, e, payload, -, -, hnew⟩ |
      ⟨f₀, f₁, b, hf₀, hf₁, hpassed, hstep⟩⟩
    · exact .inl (heq ▸ hf')
    · obtain rfl := Option.some.inj (hf'.symm.trans hnew)
      cases hst
    · obtain rfl := Option.some.inj (hf'.symm.trans hf₁)
      rw [hstep.status, next_eq_closed hpassed.guard] at hst
      refine .inr ⟨⟨f₀, hf₀⟩, ?_⟩
      cases hpassed with
      | close id decision note d actor => exact ⟨decision, note, actor, rfl⟩
      | _ => exact absurd rfl hst
  retests k f f' hf hf' hne := by
    rcases step_row hs k with heq | ⟨cf, rfl, rfl, ⟨hnone, -⟩ |
      ⟨f₀, f₁, b, hf₀, hf₁, hpassed, hstep⟩⟩
    · rw [heq, hf] at hf'
      obtain rfl := Option.some.inj hf'
      exact absurd rfl hne
    · rw [hf] at hnone
      cases hnone
    · obtain rfl := Option.some.inj (hf.symm.trans hf₀)
      obtain rfl := Option.some.inj (hf'.symm.trans hf₁)
      obtain ⟨createdAt, hretests⟩ := hstep.retests
      rw [hretests] at hne ⊢
      rw [hstep.status]
      cases hpassed with
      | retest id testId test actor htest hst _ =>
        exact ⟨hst, testId, test, createdAt, actor, rfl, htest, rfl,
          fun hx => by simp [lifecycle, hx]⟩
      | _ => exact absurd (List.append_nil _) hne
  retesting k f f' hf hf' hne hst' := by
    rcases step_row hs k with heq | ⟨cf, rfl, rfl, ⟨hnone, -⟩ |
      ⟨f₀, f₁, b, hf₀, hf₁, hpassed, hstep⟩⟩
    · rw [heq, hf] at hf'
      obtain rfl := Option.some.inj hf'
      exact absurd hst' hne
    · rw [hf] at hnone
      cases hnone
    · obtain rfl := Option.some.inj (hf.symm.trans hf₀)
      obtain rfl := Option.some.inj (hf'.symm.trans hf₁)
      rw [hstep.status] at hst'
      cases hpassed with
      | request id actor hst => exact ⟨hst, actor, rfl⟩
      | retest id testId test actor _ hst _ => exact absurd hst hne
      | update id note link actor _ =>
        simp only [lifecycle] at hst'
        split at hst'
        · cases hst'
        · exact absurd hst' hne
      | close id decision note d actor _ _ => cases hst'
  opens k f' hnone hf' := by
    rcases step_row hs k with heq | ⟨cf, rfl, -, ⟨-, args, actor, e, payload, rfl, -, hnew⟩ |
      ⟨f₀, f₁, b, hf₀, -⟩⟩
    · rw [heq, hnone] at hf'
      cases hf'
    · obtain rfl := Option.some.inj (hf'.symm.trans hnew)
      exact ⟨rfl, rfl, args, actor, rfl⟩
    · rw [hnone] at hf₀
      cases hf₀
  refused cf s x hc hraise := by
    subst hc
    rcases step_findings hs with heq | ⟨cf', hcf, -, hrun, -⟩
    · refine ⟨heq, fun message hx => ?_⟩
      have hends : EndsWell clock db.tests.rows cf (db.findings.session db.ticks)
          (cf.run (db.findingProjection clock.flushed) clock (db.findings.session db.ticks)
            db.tests.rows) :=
        cf.run_endsWell
      rcases hends with ⟨s', hret, -⟩ | ⟨t, y, hy, hraise'⟩
      · rw [hraise] at hret
        cases hret
      · obtain ⟨rfl, rfl⟩ := Outcome.raised.inj (hraise.symm.trans hraise')
        exact hy message hx
    · obtain rfl := Database.Command.finding.inj hcf
      rw [hraise] at hrun
      cases hrun

/-- The retests that are inserted anew are the same exactly if each is inserted at the same
    time. -/
theorem restampFindings_eq_self_iff {later : FlushTimes}
    (h : SessionKept (aggregateType clock.flushed) db.present clock
      (db.findings.session db.ticks)) :
    db.restampFindings later = db ↔
      ∀ (k : Id), ∀ e ∈ ofAggregate db.findings.events k, e.body.retest ≠ none →
        later k e.aggregateSequence = clock.flushed k e.aggregateSequence := by
  have hrows : db.restampFindings later = db ↔
      restamp (aggregateType later) db.findings.events db.findings.rows = db.findings.rows := by
    refine ⟨fun heq => congrArg (·.findings.rows) heq, fun heq => ?_⟩
    unfold Database.restampFindings
    rw [heq]
  have hsame : restamp (aggregateType later) db.findings.events db.findings.rows =
      db.findings.rows ↔ ∀ (k : Id) f, db.findings.rows[k]? = some f →
        ∀ e ∈ ofAggregate db.findings.events k, e.body.retest ≠ none →
          later k e.aggregateSequence = clock.flushed k e.aggregateSequence := by
    refine h.kept.restamp_eq_self_iff (agree _ later) fun k f f' hf hf' herase => ?_
    rw [restamped_eq_iff hf hf' herase]
    refine forall₂_congr fun e he => imp_congr_right fun _ => ?_
    rw [(mem_ofAggregate.1 he).2]
  rw [hrows, hsame]
  -- a finding that has events has a row
  refine forall_congr' fun k => ⟨fun hrow e he => ?_, fun hevents f _ => hevents⟩
  obtain ⟨f, hf⟩ := Table.exists_get (h.kept.mem_iff.2 ⟨e, (mem_ofAggregate.1 he).1,
    (mem_ofAggregate.1 he).2⟩)
  exact hrow f hf e he

/-- What the log of a finding says of its retests. -/
structure RetestHistory (flushed : FlushTimes) (es : List Event) : Prop where
  /-- each was recorded in retesting -/
  retesting : ∀ pre e post testId testResult, es = pre ++ e :: post →
    e.body = .retestRecorded testId testResult →
    ∃ f, (aggregateType flushed).rowAfter pre = .ok (some f) ∧ f.status = .retesting
  /-- and after one with exceptions the next was requested -/
  requested : ∀ pre e mid e' post testId testId' testResult,
    es = pre ++ e :: (mid ++ e' :: post) → e.body = .retestRecorded testId .exceptionsNoted →
    e'.body = .retestRecorded testId' testResult → ∃ x ∈ mid, x.body = .retestRequested

/-- In every state that requests lead to, exactly the closed findings have a closure decision,
    and each retest was recorded in retesting and is one of the log; a rebuild gives back the
    rows exactly if it inserts each retest at the time at which that was first inserted, which
    no rebuild that comes later does; and each further request keeps to `FindingStep`. -/
theorem finding_lifecycle (h : Run (Database.step clock) (fun _ _ => True) Database.empty db) :
    (∀ (k : Id) f, db.findings.rows[k]? = some f →
      (f.closureDecision ≠ none ↔ f.status = .closed) ∧
      f.retests = ((ofAggregate db.findings.events k).filterMap fun e =>
        e.body.retest.map (Link.addedBy clock.flushed e)) ∧
      RetestHistory clock.flushed (ofAggregate db.findings.events k)) ∧
    (∀ later, Database.rebuildFinding later db = .ok db ↔
      ∀ (k : Id), ∀ e ∈ ofAggregate db.findings.events k, e.body.retest ≠ none →
        later k e.aggregateSequence = clock.flushed k e.aggregateSequence) ∧
    ∀ c db', Database.step clock db c = some db' → FindingStep clock db c db' := by
  have hall := allTraced_of_run h
  refine ⟨fun k f hf => ?_, fun later => ?_, fun c db' hs => findingStep hs⟩
  · have htrace : Traced clock.flushed (ofAggregate db.findings.events k) f := hall.traced k f hf
    refine ⟨htrace.closed_iff, htrace.retests, ?_, ?_⟩
    · intro pre e post testId testResult hsplit hb
      rw [hsplit] at htrace
      obtain ⟨f₀, h₀, hst⟩ := htrace.retesting hb
      exact ⟨f₀, h₀.rowAfter, hst⟩
    · intro pre e mid e' post testId testId' testResult hsplit hb hb'
      rw [hsplit] at htrace
      exact htrace.requested hb hb'
  · have hkept := (Database.between_of_run h).findings
    rw [Database.rebuildFinding_eq_ok db hkept, eq_comm (a := db),
      restampFindings_eq_self_iff hkept]

/-- A test of the control 1 by the person 2, as a retest of the test 10 unless it is that. -/
def testOf (newId : Id) (result : String) : Database.Command :=
  .test (.record {
    newId := newId
    controlId := 1
    procedureDescription := "inspect"
    testerPersonId := 2
    performedAt := 0
    result := result
    retestOfTestId := if newId = 10 then none else some 10 } {})

/-- The finding 5 comes from the test 10 and is in remediation; its first retest notes
    exceptions again. -/
def retestedOnce : List Database.Command :=
  [.insert .internalControls 1, .insert .people 2, testOf 10 "exceptions_noted",
    .finding (.openFinding 5 {
      title := "stale accounts"
      severity := "high"
      controlId := some 1
      sourceTestId := some 10 } {}),
    .finding (.recordRemediationUpdate 5 "accounts removed" none {}),
    .finding (.requestRetest 5 {}), testOf 11 "exceptions_noted",
    .finding (.recordRetest 5 11 {})]

/-- The second retest, which is refused until it is requested again, passes, and the finding is
    closed. -/
def retestedTwice : List Database.Command :=
  retestedOnce ++ [testOf 12 "no_exceptions", .finding (.recordRetest 5 12 {}),
    .finding (.requestRetest 5 {}), .finding (.recordRetest 5 12 {}),
    .finding (.closeFinding 5 "remediated_and_retested" "" {})]

/-- A rebuild gives the retests another `created_at`. -/
theorem rebuild_finding_retested :
    ∃ db db', Run.exec (Database.step tickingClock) Database.empty retestedTwice = some db ∧
      Database.rebuildFinding (fun _ n => n + 1) db = .ok db' ∧
      (db.findings.rows[5]?.map fun f => f.retests) = some [⟨11, 4⟩, ⟨12, 6⟩] ∧
      (db'.findings.rows[5]?.map fun f => f.retests) = some [⟨11, 5⟩, ⟨12, 7⟩] :=
  ⟨_, _, rfl, rfl, rfl, rfl⟩

/-- `finding_lifecycle` for a finding that is retested twice and closed. -/
theorem finding_lifecycle_retestedTwice :
    ∃ db f, Run.exec (Database.step tickingClock) Database.empty retestedTwice = some db ∧
      db.findings.rows[5]? = some f ∧ f.retestTestIds = [11, 12] ∧ f.closureDecision ≠ none ∧
      Database.rebuildFinding tickingClock.flushed db = .ok db := by
  obtain ⟨db, hdb, f, hf, hids, hst⟩ : ∃ db, Run.exec (Database.step tickingClock)
      Database.empty retestedTwice = some db ∧ ∃ f, db.findings.rows[5]? = some f ∧
        f.retestTestIds = [11, 12] ∧ f.status = .closed := ⟨_, rfl, _, rfl, rfl, rfl⟩
  obtain ⟨hfindings, hrebuild, -⟩ := finding_lifecycle (Run.of_exec_true _ hdb)
  exact ⟨db, f, hdb, hf, hids, (hfindings 5 f hf).1.2 hst,
    (hrebuild _).2 fun _ _ _ _ => rfl⟩

end Requests

end MiniGrc.FindingLifecycle
