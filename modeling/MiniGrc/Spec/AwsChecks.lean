import MiniGrc.ForStd.Except
import MiniGrc.Spec.CloudTrailVerdict

/-!
# Failed calls of the AWS checks

A check is honest if it reports a failed control only where the answers that it has got show one,
and passes only where they show all that it looks at.

## Key results

- `checkCloudtrail_honest_iff`: a status that could not be read counts as one that does not log,
  which matters if no trail logs
- `checkIam_honest`: the check of the account is honest
- `checks_honest_iff`: both
-/

namespace MiniGrc.AwsConnector

variable {trails : List ListedTrail} {client : CloudTrail} {result : AwsCheckResult}

/-! ## What the answers show -/

/-- The answers show that no trail exists, or every trail was read and none logs. -/
def CloudTrail.NonCompliant (client : CloudTrail) : Prop :=
  ∃ trails, client.describeTrails = .ok (some trails) ∧
    ∀ x ∈ trails, x.getTrailStatus = .ok (some false)

/-- The answers show a complete trail that logs. -/
def CloudTrail.Compliant (client : CloudTrail) : Prop :=
  ∃ trails, client.describeTrails = .ok (some trails) ∧ ∃ x ∈ trails, x.Logs ∧ x.trail.Complete

/-- The answers show that root MFA is off, or root keys are present. -/
def Iam.NonCompliant (client : Iam) : Prop :=
  ∃ summaryMap, client.getAccountSummary = .ok (some summaryMap) ∧
    (summaryMap.accountMfaEnabled = some 0 ∨
      ∃ n, n ≠ 0 ∧ summaryMap.accountAccessKeysPresent = some n)

/-- An active key is not older than the limit. -/
def AccessKey.Recent (now : Int) (key : AccessKey) : Prop :=
  ∃ created, key.createDate = some created ∧
    (now - created.micros) / dayMicros ≤ accessKeyAgeWarningDays

/-- The answers show that the user has MFA, and recent keys. -/
def ListedUser.Compliant (now : Int) (user : ListedUser) : Prop :=
  (∃ n, n ≠ 0 ∧ user.listMfaDevices = .ok (some n)) ∧
    ∃ keys, user.listAccessKeys = .ok (some keys) ∧
      ∀ key ∈ keys, ∃ status, key.status = some status ∧ (status = "Active" → key.Recent now)

/-- The answers show all that the check looks at: the root account, the password policy and every
    user. -/
def Iam.Compliant (now : Int) (client : Iam) : Prop :=
  (∃ summaryMap, client.getAccountSummary = .ok (some summaryMap) ∧
    (∃ n, n ≠ 0 ∧ summaryMap.accountMfaEnabled = some n) ∧
    summaryMap.accountAccessKeysPresent = some 0) ∧
  client.getAccountPasswordPolicy = .ok () ∧
  ∀ page ∈ client.listUsers, ∃ users, page = .ok ⟨some users⟩ ∧ ∀ user ∈ users, user.Compliant now

/-- No check takes a failed call for a failed control, or passes on less than all that it looks
    at. -/
def Honest (now : Int) (cloudTrail : CloudTrail) (iam : Iam) : Prop :=
  (∀ result, checkCloudtrail cloudTrail = .ok result →
    (result.status = .fail → cloudTrail.NonCompliant) ∧
      (result.status = .pass → cloudTrail.Compliant)) ∧
  ∀ result, checkIam now iam = .ok result →
    (result.status = .fail → iam.NonCompliant) ∧ (result.status = .pass → iam.Compliant now)

/-- An answer about trails has the fields that the interface of CloudTrail documents: the list, the
    ARN of each trail, and whether it logs. -/
structure CloudTrail.Documented (client : CloudTrail) : Prop where
  trailList : client.describeTrails ≠ .ok none
  trailArn : ∀ trails, client.describeTrails = .ok (some trails) →
    ∀ x ∈ trails, x.trail.trailArn ≠ none
  isLogging : ∀ trails, client.describeTrails = .ok (some trails) →
    ∀ x ∈ trails, x.getTrailStatus ≠ .ok none

/-- An answer about the account has the fields that the interface of IAM documents: both values of
    the root account, the users of a page, the keys of a user and the status of a key. -/
structure Iam.Documented (client : Iam) : Prop where
  accountMfaEnabled : ∀ summaryMap, client.getAccountSummary = .ok (some summaryMap) →
    summaryMap.accountMfaEnabled ≠ none
  accountAccessKeysPresent : ∀ summaryMap, client.getAccountSummary = .ok (some summaryMap) →
    summaryMap.accountAccessKeysPresent ≠ none
  users : ∀ page, .ok page ∈ client.listUsers → page.users ≠ none
  accessKeyMetadata : ∀ users, .ok ⟨some users⟩ ∈ client.listUsers →
    ∀ user ∈ users, user.listAccessKeys ≠ .ok none
  status : ∀ users, .ok ⟨some users⟩ ∈ client.listUsers → ∀ user ∈ users,
    ∀ keys, user.listAccessKeys = .ok (some keys) → ∀ key ∈ keys, key.status ≠ none

/-- A failed call for the status of a trail does not matter: another trail logs, or an exception of
    another kind ends the check. -/
def StatusRead (client : CloudTrail) : Prop :=
  ∀ trails, client.describeTrails = .ok (some trails) →
    (∃ x ∈ trails, ∃ exc, x.getTrailStatus = .error exc) →
    ∃ x ∈ trails, x.Logs ∨ x.getTrailStatus = .error .other

/-- The status of a result on trails. -/
theorem statusOf_of_eq (hclient : client.describeTrails = .ok (some trails))
    (h : checkCloudtrail client = .ok result) : statusOf trails = some result.status := by
  obtain ⟨describeTrails⟩ := client
  cases hclient
  rw [statusOf, h]
  rfl

/-- A failed description of the trails is unknown. -/
theorem status_of_describeTrails_error {exc : AwsError}
    (hclient : client.describeTrails = .error exc) (h : checkCloudtrail client = .ok result) :
    result.status = .unknown := by
  rw [checkCloudtrail, hclient] at h
  cases exc with
  | other => cases h
  | clientError code message =>
    obtain ⟨text, -, h⟩ := Except.bind_eq_ok.1 h
    cases h
    rfl
  | botoCoreError message =>
    obtain ⟨text, -, h⟩ := Except.bind_eq_ok.1 h
    cases h
    rfl

/-- What the trails answer is the status of the check. -/
theorem exists_result_of_statusOf {status : EvidenceStatus}
    (hclient : client.describeTrails = .ok (some trails)) (h : statusOf trails = some status) :
    ∃ result, checkCloudtrail client = .ok result ∧ result.status = status := by
  obtain ⟨describeTrails⟩ := client
  cases hclient
  rw [statusOf, Option.map_eq_some_iff] at h
  obtain ⟨result, hresult, hstatus⟩ := h
  cases hcheck : checkCloudtrail ⟨.ok (some trails)⟩ with
  | error exc =>
    rw [hcheck] at hresult
    cases hresult
  | ok result' =>
    rw [hcheck] at hresult
    cases hresult
    exact ⟨result, rfl, hstatus⟩

/-- A pass has a trail that logs and is complete. -/
theorem exists_of_verdict_eq_pass (h : verdict trails = .pass) :
    ∃ x ∈ trails, x.Logs ∧ x.trail.Complete := by
  rw [verdict] at h
  cases hfind : trails.find? fun x => x.Logs with
  | none =>
    rw [hfind] at h
    cases h
  | some x =>
    refine ⟨x, List.mem_of_find?_eq_some hfind, by simpa using List.find?_some hfind, ?_⟩
    by_contra hcomplete
    rw [hfind] at h
    simp [hcomplete] at h

/-- `check_cloudtrail` is honest exactly if the failed calls do not matter. -/
theorem checkCloudtrail_honest_iff (hdocumented : client.Documented) :
    (∀ result, checkCloudtrail client = .ok result →
      (result.status = .fail → client.NonCompliant) ∧ (result.status = .pass → client.Compliant)) ↔
      StatusRead client := by
  constructor
  · rintro h trails hclient ⟨x, hx, exc, hexc⟩
    by_contra hnot
    push Not at hnot
    have hraises : ∀ y ∈ trails, ¬ y.Raises := by
      rintro y hy (hnone | hother)
      · exact hdocumented.trailArn trails hclient y hy hnone
      · exact (hnot y hy).2 hother
    have hfail := verdict_eq_fail_iff.2 fun y hy => (hnot y hy).1
    obtain ⟨result, hresult, hstatus⟩ :=
      exists_result_of_statusOf hclient (statusOf_of_not_raises hraises)
    obtain ⟨trails', hclient', hfalse⟩ := (h result hresult).1 (hstatus.trans hfail)
    rw [hclient] at hclient'
    cases hclient'
    rw [hfalse x hx] at hexc
    cases hexc
  · intro h result hresult
    cases hclient : client.describeTrails with
    | error exc =>
      rw [status_of_describeTrails_error hclient hresult]
      exact ⟨nofun, nofun⟩
    | ok trailList =>
      cases trailList with
      | none => exact absurd hclient hdocumented.trailList
      | some trails =>
        have hstatus := statusOf_of_eq hclient hresult
        have hraises : ∀ y ∈ trails, ¬ y.Raises := by
          by_contra hnot
          push Not at hnot
          rw [statusOf_of_raises hnot] at hstatus
          cases hstatus
        rw [statusOf_of_not_raises hraises, Option.some_inj] at hstatus
        rw [← hstatus]
        constructor
        · intro hfail
          have hlogs := verdict_eq_fail_iff.1 hfail
          refine ⟨trails, hclient, fun x hx => ?_⟩
          match hanswer : x.getTrailStatus with
          | .ok (some false) => rfl
          | .ok (some true) => exact absurd hanswer (hlogs x hx)
          | .ok none => exact absurd hanswer (hdocumented.isLogging trails hclient x hx)
          | .error exc =>
            obtain ⟨y, hy, hylogs | hother⟩ := h trails hclient ⟨x, hx, exc, hanswer⟩
            · exact absurd hylogs (hlogs y hy)
            · exact absurd (.inr hother) (hraises y hy)
        · intro hpass
          exact ⟨trails, hclient, exists_of_verdict_eq_pass hpass⟩

/-! ## The account -/

section Iam

variable {now : Int} {iam : Iam} {summaryMap : SummaryMap} {user : ListedUser}
  {users : List (Except AwsError ListedUser)} {summary : UserSummary} {keys : List AccessKey}
  {created oldest : DateTime}

/-- The minimum is one of the dates, and none is older. -/
theorem le_of_minCreateDate (h : minCreateDate created keys = .ok oldest) :
    oldest.micros ≤ created.micros ∧
      ∀ key ∈ keys, ∃ date, key.createDate = some date ∧ oldest.micros ≤ date.micros := by
  -- Over the keys: the oldest date so far goes along.
  induction keys generalizing created with
  | nil =>
    cases h
    exact ⟨le_rfl, by simp⟩
  | cons key keys ih =>
    rw [minCreateDate] at h
    cases hdate : key.createDate with
    | none =>
      rw [hdate] at h
      cases h
    | some date =>
      simp only [hdate] at h
      split at h
      · cases h
      · obtain ⟨hle, hkeys⟩ := ih h
        have hmin : oldest.micros ≤ created.micros ∧ oldest.micros ≤ date.micros := by
          split at hle <;> omega
        rw [List.forall_mem_cons]
        exact ⟨hmin.1, ⟨date, hdate, hmin.2⟩, hkeys⟩

/-- The age of the oldest key bounds the ages of all. -/
theorem recent_of_oldestKeyAgeDays {days : Option Int} (h : oldestKeyAgeDays now keys = .ok days)
    (hdays : ∀ n, days = some n → n ≤ accessKeyAgeWarningDays) : ∀ key ∈ keys, key.Recent now := by
  -- Without a key nothing is old.
  cases keys with
  | nil => simp
  | cons key keys =>
    rw [oldestKeyAgeDays] at h
    cases hdate : key.createDate with
    | none =>
      rw [hdate] at h
      cases h
    | some date =>
      simp only [hdate] at h
      obtain ⟨oldest, holdest, h⟩ := Except.bind_eq_ok.1 h
      cases h
      obtain ⟨hle, hkeys⟩ := le_of_minCreateDate holdest
      have hrecent {micros : Int} (hmicros : oldest.micros ≤ micros) :
          (now - micros) / dayMicros ≤ accessKeyAgeWarningDays :=
        le_trans (Int.ediv_le_ediv (by decide) (by omega)) (hdays _ rfl)
      rw [List.forall_mem_cons]
      refine ⟨⟨date, hdate, hrecent hle⟩, fun other hother => ?_⟩
      obtain ⟨date', hdate', hle'⟩ := hkeys other hother
      exact ⟨date', hdate', hrecent hle'⟩

/-- Without warnings there is a second factor and no old key. -/
theorem warnings_eq_nil (h : summary.warnings = []) : summary.hasMfa = true ∧
    ∀ n, summary.oldestActiveKeyAgeDays = some n → n ≤ accessKeyAgeWarningDays := by
  rw [UserSummary.warnings, List.append_eq_nil_iff] at h
  obtain ⟨hmfa, hdays⟩ := h
  constructor
  · by_contra hnot
    rw [if_neg hnot] at hmfa
    cases hmfa
  · intro n hn
    rw [hn] at hdays
    change (if accessKeyAgeWarningDays < n then [_] else []) = [] at hdays
    by_contra hlt
    rw [if_pos (by omega)] at hdays
    cases hdays

/-- A user about whom nothing is warned of. -/
theorem compliant_of_summarize (hkeys : user.listAccessKeys ≠ .ok none)
    (hstatus : ∀ keys, user.listAccessKeys = .ok (some keys) → ∀ key ∈ keys, key.status ≠ none)
    (h : user.summarize now = .ok summary) (hwarnings : summary.warnings = []) :
    user.Compliant now := by
  obtain ⟨hmfa, hdays⟩ := warnings_eq_nil hwarnings
  rw [ListedUser.summarize] at h
  -- Every answer that is missing raises or stops.
  cases hname : user.userName with
  | none =>
    rw [hname] at h
    cases h
  | some username =>
    match hdevices : user.listMfaDevices, hmetadata : user.listAccessKeys with
    | .error exc, _ =>
      simp only [hname, hdevices] at h
      cases h
    | .ok devices, .error exc =>
      simp only [hname, hdevices, hmetadata] at h
      cases h
    | .ok devices, .ok none => exact absurd hmetadata hkeys
    | .ok devices, .ok (some keys) =>
      simp only [hname, hdevices, hmetadata, Option.getD_some] at h
      cases holdest : oldestKeyAgeDays now (keys.filter AccessKey.isActive) with
      | error exc =>
        rw [holdest] at h
        cases h
      | ok days =>
        rw [holdest] at h
        cases h
        have hrecent := recent_of_oldestKeyAgeDays holdest hdays
        constructor
        · cases devices with
          | none => cases hmfa
          | some n => exact ⟨n, of_decide_eq_true hmfa, hdevices⟩
        · refine ⟨keys, hmetadata, fun key hkey => ?_⟩
          obtain ⟨status, hkeyStatus⟩ :=
            Option.ne_none_iff_exists'.1 (hstatus keys hmetadata key hkey)
          refine ⟨status, hkeyStatus, fun hactive => hrecent key (List.mem_filter.2 ⟨hkey, ?_⟩)⟩
          rw [AccessKey.isActive, hkeyStatus, hactive]
          rfl

/-- An enumeration that nothing ends comes to every user. -/
theorem of_enumerateUsers (h : (enumerateUsers now users).2 = none) :
    ∀ x ∈ users, ∃ user summary, x = .ok user ∧ user.summarize now = .ok summary ∧
      summary ∈ (enumerateUsers now users).1 := by
  -- Over the users: one that stops ends the enumeration.
  induction users with
  | nil => simp
  | cons x users ih =>
    cases x with
    | error exc => cases h
    | ok user =>
      rw [enumerateUsers] at h ⊢
      cases hsummary : user.summarize now with
      | error stopped =>
        rw [hsummary] at h
        cases h
      | ok summary =>
        rw [hsummary] at h
        simp only at h ⊢
        rw [List.forall_mem_cons]
        refine ⟨⟨user, summary, rfl, hsummary, List.mem_cons_self⟩, fun x hx => ?_⟩
        obtain ⟨user', summary', heq, hsummary', hmem⟩ := ih h x hx
        exact ⟨user', summary', heq, hsummary', List.mem_cons_of_mem _ hmem⟩

/-- Without a warning the enumeration has not stopped. -/
theorem stopWarnings_eq_nil {stopped : Option Stopped} (h : stopWarnings stopped = .ok []) :
    stopped = none := by
  match stopped with
  | none => rfl
  | some (.failed message) =>
    obtain ⟨text, -, h⟩ := Except.bind_eq_ok.1 h
    cases h
  | some (.raised exc) => cases h

/-- Without a warning there is a password policy. -/
theorem passwordPolicy_eq_nil {policy : Except AwsError Unit} {present : Json}
    (h : passwordPolicy policy = .ok (present, [])) : policy = .ok () := by
  match policy with
  | .ok () => rfl
  | .error (.clientError code message) =>
    rw [passwordPolicy] at h
    split at h
    · cases h
    · obtain ⟨text, -, h⟩ := Except.bind_eq_ok.1 h
      cases h
  | .error (.botoCoreError message) =>
    obtain ⟨text, -, h⟩ := Except.bind_eq_ok.1 h
    cases h
  | .error .other => cases h

/-- A failed summary of the account is unknown. -/
theorem status_of_getAccountSummary_error {exc : AwsError}
    (hsummary : iam.getAccountSummary = .error exc) (h : checkIam now iam = .ok result) :
    result.status = .unknown := by
  rw [checkIam, hsummary] at h
  cases exc with
  | other => cases h
  | clientError code message =>
    obtain ⟨text, -, h⟩ := Except.bind_eq_ok.1 h
    cases h
    rfl
  | botoCoreError message =>
    obtain ⟨text, -, h⟩ := Except.bind_eq_ok.1 h
    cases h
    rfl

/-- Where the status of the account comes from. -/
theorem of_checkIam (hsummary : iam.getAccountSummary = .ok (some summaryMap))
    (h : checkIam now iam = .ok result) :
    ∃ present policyWarnings lastWarnings,
      passwordPolicy iam.getAccountPasswordPolicy = .ok (present, policyWarnings) ∧
      stopWarnings (enumerateUsers now (enumeration iam.listUsers)).2 = .ok lastWarnings ∧
      result.status = (iamVerdict summaryMap.failures (policyWarnings ++
        (enumerateUsers now (enumeration iam.listUsers)).1.flatMap UserSummary.warnings ++
          lastWarnings)).1 := by
  rw [checkIam, hsummary] at h
  obtain ⟨⟨present, policyWarnings⟩, hpolicy, h⟩ := Except.bind_eq_ok.1 h
  obtain ⟨lastWarnings, hlast, h⟩ := Except.bind_eq_ok.1 h
  cases h
  exact ⟨present, policyWarnings, lastWarnings, hpolicy, hlast, rfl⟩

/-- A fail has a failure. -/
theorem iamVerdict_eq_fail {failures warnings : List String}
    (h : (iamVerdict failures warnings).1 = .fail) : failures ≠ [] := by
  intro hnil
  rw [iamVerdict, if_neg (not_not.2 hnil)] at h
  split at h <;> cases h

/-- A pass has neither failure nor warning. -/
theorem iamVerdict_eq_pass {failures warnings : List String}
    (h : (iamVerdict failures warnings).1 = .pass) : failures = [] ∧ warnings = [] := by
  rw [iamVerdict] at h
  split at h
  · cases h
  · next hfailures =>
    split at h
    · cases h
    · next hwarnings => exact ⟨not_not.1 hfailures, not_not.1 hwarnings⟩

/-- Nothing fails when the root account has a second factor and no key. -/
theorem failures_eq_nil_iff : summaryMap.failures = [] ↔
    truthy summaryMap.accountMfaEnabled = true ∧
      truthy summaryMap.accountAccessKeysPresent = false := by
  rw [SummaryMap.failures, List.append_eq_nil_iff]
  cases truthy summaryMap.accountMfaEnabled <;>
    cases truthy summaryMap.accountAccessKeysPresent <;> simp

/-- A number counts where it is given and not zero. -/
theorem truthy_iff {value : Option Int} : truthy value = true ↔ ∃ n, n ≠ 0 ∧ value = some n := by
  cases value <;> simp [truthy]

/-- A number that an answer has, and that is not truthy, is zero. -/
theorem eq_zero_of_truthy {value : Option Int} (hvalue : value ≠ none) (h : truthy value = false) :
    value = some 0 := by
  cases value with
  | none => exact absurd rfl hvalue
  | some n => simpa [truthy] using h

/-- Root findings are in the answer. -/
theorem nonCompliant_of_failures (hdocumented : iam.Documented)
    (hsummary : iam.getAccountSummary = .ok (some summaryMap)) (h : summaryMap.failures ≠ []) :
    iam.NonCompliant := by
  refine ⟨summaryMap, hsummary, ?_⟩
  rw [Ne, failures_eq_nil_iff, not_and_or, Bool.not_eq_true, Bool.not_eq_false] at h
  rcases h with hmfa | hkeys
  · exact .inl (eq_zero_of_truthy (hdocumented.accountMfaEnabled summaryMap hsummary) hmfa)
  · exact .inr (truthy_iff.1 hkeys)

/-- Users about whom nothing is warned of, all of them. -/
theorem compliant_of_enumeration (hdocumented : iam.Documented)
    (hstopped : (enumerateUsers now (enumeration iam.listUsers)).2 = none)
    (hwarnings : (enumerateUsers now (enumeration iam.listUsers)).1.flatMap
      UserSummary.warnings = []) :
    ∀ page ∈ iam.listUsers, ∃ users, page = .ok ⟨some users⟩ ∧
      ∀ user ∈ users, user.Compliant now := by
  intro page hpage
  have hall := of_enumerateUsers hstopped
  match page with
  | .error exc =>
    obtain ⟨user, summary, heq, -⟩ :=
      hall (.error exc) (List.mem_flatMap.2 ⟨_, hpage, List.mem_singleton_self _⟩)
    cases heq
  | .ok ⟨none⟩ => exact absurd rfl (hdocumented.users ⟨none⟩ hpage)
  | .ok ⟨some users⟩ =>
    refine ⟨users, rfl, fun user huser => ?_⟩
    obtain ⟨user', summary, heq, hsummary, hmem⟩ :=
      hall (.ok user) (List.mem_flatMap.2 ⟨_, hpage, List.mem_map_of_mem huser⟩)
    cases heq
    exact compliant_of_summarize (hdocumented.accessKeyMetadata users hpage user huser)
      (hdocumented.status users hpage user huser) hsummary
      (List.flatMap_eq_nil_iff.1 hwarnings summary hmem)

/-- `check_iam` is honest. -/
theorem checkIam_honest (hdocumented : iam.Documented) (h : checkIam now iam = .ok result) :
    (result.status = .fail → iam.NonCompliant) ∧ (result.status = .pass → iam.Compliant now) := by
  -- Without the summary the check knows nothing.
  cases hsummary : iam.getAccountSummary with
  | error exc =>
    rw [status_of_getAccountSummary_error hsummary h]
    exact ⟨nofun, nofun⟩
  | ok found =>
    cases found with
    | none =>
      rw [checkIam, hsummary] at h
      cases h
    | some summaryMap =>
      obtain ⟨present, policyWarnings, lastWarnings, hpolicy, hlast, hstatus⟩ :=
        of_checkIam hsummary h
      rw [hstatus]
      constructor
      · exact fun hfail => nonCompliant_of_failures hdocumented hsummary (iamVerdict_eq_fail hfail)
      · intro hpass
        obtain ⟨hfailures, hwarnings⟩ := iamVerdict_eq_pass hpass
        obtain ⟨hmfa, hkeys⟩ := failures_eq_nil_iff.1 hfailures
        rw [List.append_eq_nil_iff, List.append_eq_nil_iff] at hwarnings
        obtain ⟨⟨rfl, husers⟩, rfl⟩ := hwarnings
        refine ⟨⟨summaryMap, hsummary, truthy_iff.1 hmfa, ?_⟩, passwordPolicy_eq_nil hpolicy,
          compliant_of_enumeration hdocumented (stopWarnings_eq_nil hlast) husers⟩
        exact eq_zero_of_truthy (hdocumented.accountAccessKeysPresent summaryMap hsummary) hkeys

end Iam

/-- The checks are honest exactly if no failed call for the status of a trail matters. -/
theorem checks_honest_iff {now : Int} {cloudTrail : CloudTrail} {iam : Iam}
    (hcloudTrail : cloudTrail.Documented) (hiam : iam.Documented) :
    Honest now cloudTrail iam ↔ StatusRead cloudTrail := by
  rw [← checkCloudtrail_honest_iff hcloudTrail]
  exact and_iff_left fun result hresult => checkIam_honest hiam hresult

/-- A trail whose status could not be read. -/
def unreadTrail : ListedTrail :=
  { loggingTrail true with
    getTrailStatus := .error (.clientError (some "AccessDenied") "An error occurred") }

/-- An account that passes. -/
def goodAccount : Iam where
  getAccountSummary := .ok (some ⟨some 1, some 0⟩)
  getAccountPasswordPolicy := .ok ()
  listUsers := [.ok ⟨some
    [⟨some "ada", .ok (some 1), .ok (some [⟨some "Active", some ⟨0, true⟩⟩])⟩]⟩]

/-- The sample account answers as documented. -/
theorem goodAccount_documented : goodAccount.Documented where
  accountMfaEnabled := by
    intro summaryMap h
    cases h
    exact nofun
  accountAccessKeysPresent := by
    intro summaryMap h
    cases h
    exact nofun
  users := by
    intro page h
    cases List.mem_singleton.1 h
    exact nofun
  accessKeyMetadata := by
    intro users h
    cases List.mem_singleton.1 h
    simp
  status := by
    intro users h
    cases List.mem_singleton.1 h
    simp

/-- Two trails, and the status of the second one cannot be read. -/
theorem checks_honest_unread :
    Honest 0 ⟨.ok (some [loggingTrail true, unreadTrail])⟩ goodAccount := by
  have hdocumented :
      CloudTrail.Documented ⟨.ok (some [loggingTrail true, unreadTrail])⟩ := by
    refine ⟨nofun, fun trails h => ?_, fun trails h => ?_⟩
    · cases h
      simp [loggingTrail, unreadTrail]
    · cases h
      simp [loggingTrail, unreadTrail]
  rw [checks_honest_iff hdocumented goodAccount_documented]
  intro trails h _
  cases h
  exact ⟨loggingTrail true, List.mem_cons_self, .inl rfl⟩

/-- The only trail is complete, but its status cannot be read: a failed control. -/
theorem checks_unread : ¬ Honest 0 ⟨.ok (some [unreadTrail])⟩ goodAccount := by
  rintro ⟨h, -⟩
  obtain ⟨trails, htrails, hread⟩ := (h _ rfl).1 rfl
  cases htrails
  cases hread unreadTrail List.mem_cons_self

end MiniGrc.AwsConnector
