import MiniGrc.Spec.AuditSelection
import MiniGrc.Spec.FindingLifecycle
import MiniGrc.App.AuditExport

/-!
# The findings of an audit period

Which findings an audit package holds, against the findings that were open when its period
ended. The row of a finding tells only its status at the time of the export.

## Key results

- `Traced.closed_iff_closing`: a finding is closed exactly if a closing event is in its log
- `findingsOf_iff`: when the selection is right about a finding
-/

namespace MiniGrc.FindingLifecycle

open Events

variable {flushed : FlushTimes} {e e' : Event} {es pre post : List Event} {f : Finding}

/-- The event closes a finding. -/
def Closes (e : Event) : Prop := e.body.decision ≠ none

namespace Traced

/-- A finding is closed exactly if one of its events has closed it. -/
theorem closed_iff_closing (h : Traced flushed es f) : f.status = .closed ↔ ∃ e ∈ es, Closes e := by
  induction h with
  | @opened e payload hb => simp [projectOpened, Closes, hb, Body.decision]
  | @snoc es f e f' _ hguard hrow ih =>
    rw [(row_update hrow).status, next_eq_closed hguard]
    have hopen : ∀ x ∈ es, ¬ Closes x := fun x hx hc =>
      not_closed_of_guard hguard (ih.2 ⟨x, hx, hc⟩)
    constructor
    · exact fun hc => ⟨e, by simp, hc⟩
    · rintro ⟨x, hx, hc⟩
      rcases List.mem_append.1 hx with hx | hx
      · exact absurd hc (hopen x hx)
      · obtain rfl := List.mem_singleton.1 hx
        exact hc

/-- Nothing follows the event that closes a finding. -/
theorem closing_last (h : Traced flushed (pre ++ e :: post) f) (hc : Closes e) : post = [] := by
  rcases List.eq_nil_or_concat post with rfl | ⟨mid, x, rfl⟩
  · rfl
  · have hsplit : pre ++ e :: mid.concat x = (pre ++ e :: mid) ++ [x] := by simp
    rw [hsplit] at h
    obtain ⟨f₀, h₀, hguard, -⟩ := h.of_snoc (by simp)
    exact absurd (h₀.closed_iff_closing.2 ⟨e, by simp, hc⟩) (not_closed_of_guard hguard)

/-- A finding is closed once. -/
theorem closing_unique (h : Traced flushed es f) (he : e ∈ es) (hc : Closes e) (he' : e' ∈ es)
    (hc' : Closes e') : e = e' := by
  -- both are the last event
  have hlast : ∀ x ∈ es, Closes x → es.getLast? = some x := by
    intro x hx hcx
    obtain ⟨pre, post, rfl⟩ := List.append_of_mem hx
    rw [h.closing_last hcx]
    simp
  exact Option.some.inj ((hlast e he hc).symm.trans (hlast e' he' hc'))

end Traced

end MiniGrc.FindingLifecycle

namespace MiniGrc.AuditPackage

open Events AggregateType FindingLifecycle
open ControlTests (ControlTest)

variable {clock : Clock} {db : Database} {records : Records} {period : AuditPeriod} {k : Id}
  {f : Finding}

/-! ## What belongs to a period -/

/-- The finding comes from a test that was performed in the period. -/
def TiedToTest (tests : Table ControlTest) (period : AuditPeriod) (f : Finding) : Prop :=
  ∃ id test, f.sourceTestId = some id ∧ tests[id]? = some test ∧ testInPeriod period.toPeriod test

/-- The finding was created in the period. -/
def CreatedIn (period : AuditPeriod) (f : Finding) : Prop :=
  period.covers (Time.dateOrdinal f.createdAt)

/-- None of the events has closed the finding by the end of the day. -/
def OpenAsOf (es : List FindingLifecycle.Event) (day : Nat) : Prop :=
  ∀ e ∈ es, Closes e → day < Time.dateOrdinal e.recordedAt

/-- The finding belongs to the period: it comes from a test of the period, or was created in
    it, or was there and open when it ended. -/
def BelongsTo (db : Database) (period : AuditPeriod) (k : Id) (f : Finding) : Prop :=
  TiedToTest db.tests.rows period f ∨ CreatedIn period f ∨
    Time.dateOrdinal f.createdAt ≤ period.endsOn.toordinal ∧
      OpenAsOf (ofAggregate db.findings.events k) period.endsOn.toordinal

/-- Nothing has happened to the finding after the period that hides how it was at its end: it
    was neither closed after the period nor, unless it is closed by now, opened after it. -/
def SettledBy (db : Database) (period : AuditPeriod) (k : Id) (f : Finding) : Prop :=
  (Time.dateOrdinal f.createdAt ≤ period.endsOn.toordinal →
    ∀ e ∈ ofAggregate db.findings.events k, Closes e →
      Time.dateOrdinal e.recordedAt ≤ period.endsOn.toordinal) ∧
  (period.endsOn.toordinal < Time.dateOrdinal f.createdAt →
    ∃ e ∈ ofAggregate db.findings.events k, Closes e)

/-! ## The selection -/

theorem mem_testsOf {id : Id} {test : ControlTest} : (id, test) ∈ testsOf records period.toPeriod ↔
    records.tests[id]? = some test ∧ testInPeriod period.toPeriod test := by
  rw [testsOf, List.mem_filter, Std.ExtTreeMap.mem_toList_iff_getElem?_eq_some]

theorem mem_findingsOf : (k, f) ∈ findingsOf records period.toPeriod ↔
    records.findings[k]? = some f ∧
      (TiedToTest records.tests period f ∨ CreatedIn period f ∨ f.status ≠ .closed) := by
  have htied : (f.sourceTestId.any fun id =>
      decide (id ∈ (testsOf records period.toPeriod).map Prod.fst)) = true ↔
      TiedToTest records.tests period f := by
    constructor
    · intro h
      obtain ⟨_, hid, hmem⟩ := (Option.any_eq_true _ _).1 h
      obtain ⟨⟨_, test⟩, hx, rfl⟩ := List.mem_map.1 (of_decide_eq_true hmem)
      obtain ⟨htest, hin⟩ := mem_testsOf.1 hx
      exact ⟨_, test, hid, htest, hin⟩
    · rintro ⟨id, test, hid, htest, hin⟩
      rw [hid, Option.any_some, decide_eq_true_eq]
      exact List.mem_map.2 ⟨(id, test), mem_testsOf.2 ⟨htest, hin⟩, rfl⟩
  rw [findingsOf, List.mem_filter, Std.ExtTreeMap.mem_toList_iff_getElem?_eq_some,
    findingInPeriod, Bool.or_eq_true, Bool.or_eq_true, htied, or_assoc, decide_eq_true_eq]
  rfl

/-- In every state that requests lead to, the export is right about a finding exactly if the
    finding is tied to a test of the period or created in it, or nothing after the period hides
    how it was at its end. -/
theorem findingsOf_iff (h : Run (Database.step clock) (fun _ _ => True) Database.empty db)
    (hfindings : records.findings = db.findings.rows) (htests : records.tests = db.tests.rows)
    (hf : db.findings.rows[k]? = some f) :
    ((k, f) ∈ findingsOf records period.toPeriod ↔ BelongsTo db period k f) ↔
      TiedToTest db.tests.rows period f ∨ CreatedIn period f ∨ SettledBy db period k f := by
  have htrace : Traced clock.flushed (ofAggregate db.findings.events k) f :=
    (allTraced_of_run h).traced k f hf
  have hclosed := htrace.closed_iff_closing
  rw [mem_findingsOf, hfindings, htests, and_iff_right hf, BelongsTo]
  by_cases htied : TiedToTest db.tests.rows period f
  · simp [htied]
  by_cases hcreated : CreatedIn period f
  · simp [hcreated]
  simp only [htied, hcreated, false_or]
  -- the finding is selected as long as it is open
  rw [ne_eq, hclosed, SettledBy]
  rcases Nat.lt_or_ge period.endsOn.toordinal (Time.dateOrdinal f.createdAt) with hlt | hle
  · simp [hlt, Nat.not_le.2 hlt]
  · simp only [hle, Nat.not_lt.2 hle, true_and, forall_true_left, false_implies, and_true]
    constructor
    · intro hiff e he hc
      by_contra hlate
      refine hiff.2 (fun e' he' hc' => ?_) ⟨e, he, hc⟩
      rw [htrace.closing_unique he' hc' he hc]
      omega
    · intro hsettled
      constructor
      · exact fun hopen e he hc => absurd ⟨e, he, hc⟩ hopen
      · rintro hopen ⟨e, he, hc⟩
        exact absurd (hsettled e he hc) (Nat.not_le.2 (hopen e he hc))

/-! ## Findings closed after the period -/

/-- A single day of October 2025. -/
def dayOfOctober (day : Nat) (h : 1 ≤ day ∧ day ≤ 31) : AuditPeriod :=
  ⟨⟨october day h, october day h⟩, Date.toordinal_le_iff.1 (Nat.le_refl _)⟩

theorem mem_october_2 : 1 ≤ 2 ∧ 2 ≤ 31 := by decide

theorem mem_october_3 : 1 ≤ 3 ∧ 3 ≤ 31 := by decide

/-- The finding 5 is opened on the first day, remediated on the second and closed on the
    third. -/
def closedOnThird : List Database.Command :=
  [.finding (.openFinding 5 { title := "stale accounts", severity := "high" } {}),
    .finding (.recordRemediationUpdate 5 "accounts removed" none {}),
    .finding (.closeFinding 5 "other" "" {})]

theorem noVersion (k k' : Id) (v v' : FiledVersion) (h : (∅ : Table FiledVersion)[k]? = some v) :
    (∅ : Table FiledVersion)[k']? = some v' → v.policyId = v'.policyId →
      v.versionNumber = v'.versionNumber → k = k' := absurd h Table.not_get_empty

/-- The records of findings that do not come from tests. -/
def recordsOf (findings : Table Finding) : Records where
  scopes := ∅
  frameworks := ∅
  controls := ∅
  requirementMappings := []
  occurrences := ∅
  tests := ∅
  findings := findings
  snapshots := ∅
  artifactVersions := ∅
  policies := ∅
  policyVersions := ∅
  policyControlMappings := []
  occurrenceLinks _ _ h := absurd h Table.not_get_empty
  testLinks _ _ h := absurd h Table.not_get_empty
  versionNumbers := noVersion

/-- What the requests of `closedOnThird` lead to. -/
theorem exec_closedOnThird : ∃ db f e,
    Run.exec (Database.step dailyClock) Database.empty closedOnThird = some db ∧
      db.findings.rows[5]? = some f ∧ db.tests.rows = ∅ ∧ f.sourceTestId = none ∧
      Time.dateOrdinal f.createdAt = 739525 ∧
      e ∈ ofAggregate db.findings.events 5 ∧ e.body.decision = some .other ∧
      Time.dateOrdinal e.recordedAt = 739527 :=
  ⟨_, _, _, rfl, rfl, rfl, rfl, rfl, .tail _ (.tail _ (.head _)), rfl, rfl⟩

/-- `findingsOf_iff` for a finding that was closed before the period ended. -/
theorem findingsOf_iff_closedOnThird :
    ∃ db f, Run.exec (Database.step dailyClock) Database.empty closedOnThird = some db ∧
      db.findings.rows[5]? = some f ∧
      ((5, f) ∈ findingsOf (recordsOf db.findings.rows) (dayOfOctober 3 mem_october_3).toPeriod ↔
        BelongsTo db (dayOfOctober 3 mem_october_3) 5 f) := by
  obtain ⟨db, f, e, hdb, hf, htests, -, hcreated, he, hd, hday⟩ := exec_closedOnThird
  have hrun := Run.of_exec_true _ hdb
  have hc : Closes e := by simp [Closes, hd]
  have htrace : Traced dailyClock.flushed (ofAggregate db.findings.events 5) f :=
    (allTraced_of_run hrun).traced 5 f hf
  refine ⟨db, f, hdb, hf, (findingsOf_iff hrun rfl htests.symm hf).2 (.inr (.inr ⟨?_, ?_⟩))⟩
  · intro _ e' he' hc'
    rw [htrace.closing_unique he' hc' he hc, hday]
    decide
  · exact fun _ => ⟨e, he, hc⟩

/-- A finding that was open when the period ended, and was closed afterwards, is left out. -/
theorem findingsOf_closedOnThird :
    ∃ db f, Run.exec (Database.step dailyClock) Database.empty closedOnThird = some db ∧
      db.findings.rows[5]? = some f ∧ BelongsTo db (dayOfOctober 2 mem_october_2) 5 f ∧
      (5, f) ∉ findingsOf (recordsOf db.findings.rows)
        (dayOfOctober 2 mem_october_2).toPeriod := by
  obtain ⟨db, f, e, hdb, hf, -, hsource, hcreated, he, hd, hday⟩ := exec_closedOnThird
  have hc : Closes e := by simp [Closes, hd]
  have htrace : Traced dailyClock.flushed (ofAggregate db.findings.events 5) f :=
    (allTraced_of_run (Run.of_exec_true _ hdb)).traced 5 f hf
  refine ⟨db, f, hdb, hf, .inr (.inr ⟨?_, fun e' he' hc' => ?_⟩), fun hmem => ?_⟩
  · rw [hcreated]
    decide
  · rw [htrace.closing_unique he' hc' he hc, hday]
    decide
  · rcases (mem_findingsOf.1 hmem).2 with ⟨id, -, hid, -⟩ | hin | hopen
    · rw [hsource] at hid
      cases hid
    · rw [CreatedIn, hcreated] at hin
      exact absurd hin (by decide)
    · exact hopen (htrace.closed_iff_closing.2 ⟨e, he, hc⟩)

end MiniGrc.AuditPackage
