import MiniGrc.App.AwsConnector

/-!
# The verdict on the trails

`check_cloudtrail` derives its verdict from the first trail that logs, where a trail whose status
could not be read counts as one that does not log.

## Key results

- `summarizeTrails_of_raises`, `summarizeTrails_of_not_raises`: the loop over the trails
- `statusOf_of_not_raises`: the status is a verdict on the first trail that logs
- `checkCloudtrail_orderFree_iff`: when the status does not depend on the order of the trails
-/

namespace MiniGrc.AwsConnector

/-! ## Trails -/

/-- The status of the trail says that it logs. -/
def ListedTrail.Logs (listed : ListedTrail) : Prop := listed.getTrailStatus = .ok (some true)

instance (listed : ListedTrail) : Decidable listed.Logs :=
  match h : listed.getTrailStatus with
  | .ok (some true) => .isTrue h
  | .ok (some false) => .isFalse fun hlogs => by rw [ListedTrail.Logs, h] at hlogs; cases hlogs
  | .ok none => .isFalse fun hlogs => by rw [ListedTrail.Logs, h] at hlogs; cases hlogs
  | .error _ => .isFalse fun hlogs => by rw [ListedTrail.Logs, h] at hlogs; cases hlogs

/-- The trail is a multi-region one, includes global service events and validates log files. -/
def Trail.Complete (trail : Trail) : Prop :=
  trail.isMultiRegionTrail = some true ∧ trail.includeGlobalServiceEvents = some true ∧
    trail.logFileValidationEnabled = some true

instance (trail : Trail) : Decidable trail.Complete := by
  unfold Trail.Complete
  infer_instance

/-- The trail ends the check with an exception. -/
def ListedTrail.Raises (listed : ListedTrail) : Prop :=
  listed.trail.trailArn = none ∨ listed.getTrailStatus = .error .other

/-- What the check keeps of a trail that does not end it. -/
def ListedTrail.kept (listed : ListedTrail) : TrailSummary :=
  listed.trail.summary (listed.getTrailStatus.toOption.getD none)

variable {listed x : ListedTrail} {trails trails' : List ListedTrail}
  {summaries : List TrailSummary} {active : Option TrailSummary}

theorem getD_eq_true {b : Option Bool} : b.getD false = true ↔ b = some true := by
  cases b <;> simp

theorem summarize_of_not_raises (h : ¬ listed.Raises) : listed.summarize = .ok listed.kept := by
  rw [ListedTrail.Raises, not_or] at h
  obtain ⟨arn, harn⟩ := Option.ne_none_iff_exists'.1 h.1
  rw [ListedTrail.summarize, harn, ListedTrail.kept]
  cases hstatus : listed.getTrailStatus with
  | ok isLogging => rfl
  | error exc =>
    cases exc with
    | clientError code message => rfl
    | botoCoreError message => rfl
    | other => exact absurd hstatus h.2

theorem summarize_of_raises (h : listed.Raises) : ∃ exc, listed.summarize = .error exc := by
  rw [ListedTrail.summarize]
  cases harn : listed.trail.trailArn with
  | none => exact ⟨_, rfl⟩
  | some arn =>
    rcases h with hnone | hother
    · rw [harn] at hnone
      cases hnone
    · simp only [hother]
      exact ⟨_, rfl⟩

theorem kept_isLogging : listed.kept.isLogging = decide listed.Logs := by
  rw [Bool.eq_iff_iff, decide_eq_true_eq]
  change (listed.getTrailStatus.toOption.getD none).getD false = true ↔ _
  rw [getD_eq_true, ListedTrail.Logs]
  cases listed.getTrailStatus with
  | ok isLogging => simp [Except.toOption]
  | error exc => simp [Except.toOption]

/-- The settings that are warned about. -/
theorem warnings_eq_nil_iff : listed.kept.warnings = [] ↔ listed.trail.Complete := by
  have hwarning {b : Bool} {text : String} : (if b then [] else [text]) = [] ↔ b = true := by
    cases b <;> simp
  rw [TrailSummary.warnings, List.append_eq_nil_iff, List.append_eq_nil_iff, hwarning, hwarning,
    hwarning, and_assoc]
  simp only [ListedTrail.kept, Trail.summary, getD_eq_true]
  rfl

/-! ## The loop -/

/-- A trail with an exception ends the loop. -/
theorem summarizeTrails_of_raises (summaries : List TrailSummary) (active : Option TrailSummary)
    (h : ∃ x ∈ trails, x.Raises) : ∃ exc, summarizeTrails trails summaries active = .error exc := by
  induction trails generalizing summaries active with
  | nil =>
    obtain ⟨x, hx, -⟩ := h
    cases hx
  | cons listed trails ih =>
    rw [summarizeTrails]
    by_cases hraises : listed.Raises
    · obtain ⟨exc, hexc⟩ := summarize_of_raises hraises
      rw [hexc]
      exact ⟨exc, rfl⟩
    · rw [List.exists_mem_cons_iff, or_iff_right hraises] at h
      rw [summarize_of_not_raises hraises]
      exact ih _ _ h

/-- Otherwise the loop keeps every trail, and the first one that logs is the active one. -/
theorem summarizeTrails_of_not_raises (h : ∀ x ∈ trails, ¬ x.Raises) :
    summarizeTrails trails summaries active = .ok (summaries ++ trails.map ListedTrail.kept,
      active.or ((trails.find? fun x => x.Logs).map ListedTrail.kept)) := by
  induction trails generalizing summaries active with
  | nil => simp [summarizeTrails]
  | cons listed trails ih =>
    rw [List.forall_mem_cons] at h
    rw [summarizeTrails, summarize_of_not_raises h.1]
    change summarizeTrails trails _ _ = _
    rw [ih h.2, List.append_assoc, kept_isLogging, List.find?_cons]
    cases active <;> by_cases hlogs : listed.Logs <;> simp [hlogs]

/-! ## The verdict -/

/-- The status of the check, if it has a result. -/
def statusOf (trails : List ListedTrail) : Option EvidenceStatus :=
  (checkCloudtrail ⟨.ok (some trails)⟩).toOption.map AwsCheckResult.status

/-- The verdict on trails that do not end the check. -/
def verdict (trails : List ListedTrail) : EvidenceStatus :=
  match trails.find? fun x => x.Logs with
  | none => .fail
  | some x => if x.trail.Complete then .pass else .warning

theorem statusOf_of_raises (h : ∃ x ∈ trails, x.Raises) : statusOf trails = none := by
  obtain ⟨x, hx, hraises⟩ := h
  obtain ⟨exc, hexc⟩ := summarizeTrails_of_raises [] none ⟨x, hx, hraises⟩
  cases trails with
  | nil => cases hx
  | cons listed trails =>
    rw [statusOf, checkCloudtrail]
    simp only [Option.getD_some, hexc]
    rfl

theorem statusOf_of_not_raises (h : ∀ x ∈ trails, ¬ x.Raises) :
    statusOf trails = some (verdict trails) := by
  cases trails with
  | nil => rfl
  | cons listed trails =>
    rw [statusOf, checkCloudtrail, verdict]
    simp only [Option.getD_some, summarizeTrails_of_not_raises h]
    cases (listed :: trails).find? fun x => x.Logs with
    | none => rfl
    | some x =>
      change some (if x.kept.warnings ≠ [] then EvidenceStatus.warning else .pass) = _
      by_cases hcomplete : x.trail.Complete
      · rw [if_neg (not_not.2 (warnings_eq_nil_iff.2 hcomplete))]
        simp only [if_pos hcomplete]
      · rw [if_pos fun hnil => hcomplete (warnings_eq_nil_iff.1 hnil)]
        simp only [if_neg hcomplete]

/-- Without a trail that logs, the verdict is a failed control. -/
theorem verdict_eq_fail_iff : verdict trails = .fail ↔ ∀ x ∈ trails, ¬ x.Logs := by
  rw [verdict]
  cases hfind : trails.find? fun x => x.Logs with
  | none => simpa using hfind
  | some x =>
    have hlogs : x.Logs := by simpa using List.find?_some hfind
    have hmem : x ∈ trails := List.mem_of_find?_eq_some hfind
    refine iff_of_false ?_ fun hnone => hnone x hmem hlogs
    by_cases hcomplete : x.trail.Complete <;> simp [hcomplete]

/-- A trail that logs and comes first decides. -/
theorem verdict_cons_of_logs (h : x.Logs) :
    verdict (x :: trails) = if x.trail.Complete then .pass else .warning := by
  rw [verdict, List.find?_cons_of_pos (by simpa using h)]

/-- What all trails that log have in common decides. -/
theorem verdict_of_forall (status : EvidenceStatus) (hlogs : ∃ x ∈ trails, x.Logs)
    (h : ∀ x ∈ trails, x.Logs →
      (if x.trail.Complete then EvidenceStatus.pass else .warning) = status) :
    verdict trails = status := by
  rw [verdict]
  cases hfind : trails.find? fun x => x.Logs with
  | none =>
    obtain ⟨x, hmem, hx⟩ := hlogs
    have hnone := List.find?_eq_none.1 hfind x hmem
    simp [hx] at hnone
  | some x => exact h x (List.mem_of_find?_eq_some hfind) (by simpa using List.find?_some hfind)

/-! ## The order of the trails -/

/-- The status is the same for every order of the trails, and some trail that logs and is complete
    is enough for `pass`. -/
def OrderFree (trails : List ListedTrail) : Prop :=
  (∀ trails', trails'.Perm trails → statusOf trails' = statusOf trails) ∧
    ((∃ x ∈ trails, x.Logs ∧ x.trail.Complete) → statusOf trails = some .pass)

theorem raises_perm (h : trails'.Perm trails) :
    (∃ x ∈ trails', x.Raises) ↔ ∃ x ∈ trails, x.Raises :=
  exists_congr fun _ => and_congr_left fun _ => h.mem_iff

/-- If the trails that log agree, their order does not matter. -/
theorem statusOf_perm (hperm : trails'.Perm trails) (hsame : ∀ x ∈ trails, ∀ y ∈ trails,
    x.Logs → y.Logs → (x.trail.Complete ↔ y.trail.Complete)) :
    statusOf trails' = statusOf trails := by
  by_cases hraises : ∃ x ∈ trails, x.Raises
  · rw [statusOf_of_raises hraises, statusOf_of_raises ((raises_perm hperm).2 hraises)]
  · have hraises' := mt (raises_perm hperm).1 hraises
    push Not at hraises hraises'
    rw [statusOf_of_not_raises hraises, statusOf_of_not_raises hraises', Option.some_inj]
    by_cases hlogs : ∃ x ∈ trails, x.Logs
    · obtain ⟨x, hx, hxlogs⟩ := hlogs
      have hverdict : ∀ y ∈ trails, y.Logs →
          (if y.trail.Complete then EvidenceStatus.pass else .warning) =
            if x.trail.Complete then .pass else .warning := by
        intro y hy hylogs
        simp only [hsame y hy x hx hylogs hxlogs]
      rw [verdict_of_forall _ ⟨x, hx, hxlogs⟩ hverdict]
      exact verdict_of_forall _ ⟨x, hperm.mem_iff.2 hx, hxlogs⟩ fun y hy =>
        hverdict y (hperm.mem_iff.1 hy)
    · push Not at hlogs
      rw [verdict_eq_fail_iff.2 hlogs,
        verdict_eq_fail_iff.2 fun x hx => hlogs x (hperm.mem_iff.1 hx)]

/-- The order does not matter exactly if no trail that logs is complete, or all are and nothing ends
    the check. -/
theorem checkCloudtrail_orderFree_iff (trails : List ListedTrail) :
    OrderFree trails ↔ (∀ x ∈ trails, x.Logs → ¬ x.trail.Complete) ∨
      ((∀ x ∈ trails, ¬ x.Raises) ∧ ∀ x ∈ trails, x.Logs → x.trail.Complete) := by
  constructor
  · rintro ⟨hperm, hpass⟩
    rw [or_iff_not_imp_left]
    intro hsome
    push Not at hsome
    obtain ⟨x, hx, hxlogs, hxcomplete⟩ := hsome
    have hstatus := hpass ⟨x, hx, hxlogs, hxcomplete⟩
    have hraises : ∀ y ∈ trails, ¬ y.Raises := by
      by_contra hnot
      push Not at hnot
      rw [statusOf_of_raises hnot] at hstatus
      cases hstatus
    refine ⟨hraises, fun y hy hylogs => ?_⟩
    -- the order in which this trail comes first
    obtain ⟨before, after, rfl⟩ := List.append_of_mem hy
    have hfirst : (y :: (before ++ after)).Perm (before ++ y :: after) :=
      List.perm_middle.symm
    have hstatus' := (hperm _ hfirst).trans hstatus
    rw [statusOf_of_not_raises fun z hz => hraises z (hfirst.mem_iff.1 hz),
      verdict_cons_of_logs hylogs] at hstatus'
    by_contra hcomplete
    rw [if_neg hcomplete] at hstatus'
    cases hstatus'
  · rintro (hnone | ⟨hraises, hall⟩)
    · refine ⟨fun trails' hperm => statusOf_perm hperm fun x hx y hy hxlogs hylogs =>
        iff_of_false (hnone x hx hxlogs) (hnone y hy hylogs), ?_⟩
      rintro ⟨x, hx, hxlogs, hxcomplete⟩
      exact absurd hxcomplete (hnone x hx hxlogs)
    · refine ⟨fun trails' hperm => statusOf_perm hperm fun x hx y hy hxlogs hylogs =>
        iff_of_true (hall x hx hxlogs) (hall y hy hylogs), ?_⟩
      rintro ⟨x, hx, hxlogs, hxcomplete⟩
      rw [statusOf_of_not_raises hraises, verdict_of_forall _ ⟨x, hx, hxlogs⟩ fun y hy hylogs =>
        if_pos (hall y hy hylogs)]

/-- A logging trail with the given setting for regions. -/
def loggingTrail (multiRegion : Bool) : ListedTrail where
  trail := ⟨some "main", some "arn:aws:cloudtrail:us-east-1:123456789012:trail/main",
    some multiRegion, some true, some true, some "bucket"⟩
  getTrailStatus := .ok (some true)

/-- A regional trail that is listed before a complete one. -/
theorem checkCloudtrail_regionalFirst :
    statusOf [loggingTrail false, loggingTrail true] = some .warning ∧
      statusOf [loggingTrail true, loggingTrail false] = some .pass ∧
      ¬ OrderFree [loggingTrail false, loggingTrail true] := by
  refine ⟨rfl, rfl, fun h => ?_⟩
  have hstatus := h.1 _ (List.Perm.swap (loggingTrail false) (loggingTrail true) [])
  cases hstatus

end MiniGrc.AwsConnector
