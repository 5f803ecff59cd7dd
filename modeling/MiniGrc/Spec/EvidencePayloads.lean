import MiniGrc.App.EvidenceSnapshots
import MiniGrc.ForStd.Except
import MiniGrc.Spec.JsonTexts

/-!
# Payloads of evidence snapshots

The hash of a snapshot is that of the whole JSON text of its payload, and the stored text is
cut to 20000 characters. So a stored text is a JSON text with that hash if nothing is cut
off, as for every connector result that is accepted, and no JSON text otherwise.

## Key results

- `verifiable_of_payload`: what is stored of a payload
- `allNumbers_of_checkCloudtrail`, `allNumbers_of_checkIam`: payloads without floats
- `stored_payloads_verify`: the three functions that build a snapshot
-/

namespace MiniGrc.EvidenceSnapshots

open AwsConnector Connectors Json JsonText Users

/-- What is stored of a payload: the beginning of its text and the hash of the whole text. -/
structure Verifiable (sha256 : String → String) (payload : JsonDict)
    (snapshot : EvidenceSnapshot) : Prop where
  stored : snapshot.normalizedPayloadJson =
    slice maxNormalizedPayloadChars (Json.dict payload).sortedDumps
  hashed : snapshot.rawPayloadSha256 = sha256 (Json.dict payload).sortedDumps
  valid : IsText snapshot.normalizedPayloadJson.toList ↔
    (Json.dict payload).sortedDumps.length ≤ maxNormalizedPayloadChars
  verifies : (Json.dict payload).sortedDumps.length ≤ maxNormalizedPayloadChars →
    sha256 snapshot.normalizedPayloadJson = snapshot.rawPayloadSha256

variable {sha256 : String → String} {payload : JsonDict} {snapshot : EvidenceSnapshot}

/-- A text that is short enough is not cut. -/
theorem slice_of_length_le {n : Nat} {text : String} (h : text.length ≤ n) :
    slice n text = text := by
  rw [slice, List.take_of_length_le (by rwa [String.length_toList]), String.ofList_toList]

/-- A snapshot with the beginning and the hash of a payload whose floats are finite. -/
theorem verifiable_of_payload (hpayload : AllNumbers (floats (.dict payload)))
    (hstored : snapshot.normalizedPayloadJson =
      slice maxNormalizedPayloadChars (Json.dict payload).sortedDumps)
    (hhashed : snapshot.rawPayloadSha256 = sha256 (Json.dict payload).sortedDumps) :
    Verifiable sha256 payload snapshot where
  stored := hstored
  hashed := hhashed
  valid := by
    rw [hstored, slice, String.toList_ofList]
    exact isText_take_sortedDumps_iff hpayload (by decide)
  verifies hle := by rw [hstored, hhashed, slice_of_length_le hle]

/-! ## Payloads without floats -/

theorem allNumbers_nil : AllNumbers [] := fun _ h => absurd h List.not_mem_nil

/-- Elements without floats. -/
theorem itemFloats_eq_nil {items : List Json} (h : ∀ item ∈ items, floats item = []) :
    itemFloats items = [] := by
  induction items with
  | nil => rfl
  | cons item items ih =>
    rw [itemFloats, h item List.mem_cons_self, ih fun x hx => h x (List.mem_cons_of_mem _ hx),
      List.append_nil]

theorem itemFloats_map {α : Type} {f : α → Json} (h : ∀ a, floats (f a) = []) (l : List α) :
    itemFloats (l.map f) = [] := by
  apply itemFloats_eq_nil
  intro item hitem
  obtain ⟨a, -, rfl⟩ := List.mem_map.1 hitem
  exact h a

theorem floats_ofOption (text : Option String) : floats (Json.ofOption text) = [] := by
  cases text <;> rfl

theorem floats_trailSummary (summary : TrailSummary) : floats summary.json = [] := by
  simp [TrailSummary.json, floats, fieldFloats, memberFloats, floats_ofOption]

theorem floats_userSummary (summary : UserSummary) : floats summary.json = [] := by
  cases h : summary.oldestActiveKeyAgeDays <;>
    simp [UserSummary.json, floats, fieldFloats, memberFloats, h]

/-- The payload of `check_cloudtrail` has no floats. -/
theorem allNumbers_of_checkCloudtrail {client : CloudTrail} {result : AwsCheckResult}
    (h : checkCloudtrail client = .ok result) :
    AllNumbers (floats (.dict result.normalizedPayload)) := by
  have htrails : ∀ trails : List TrailSummary, itemFloats (trails.map TrailSummary.json) = [] :=
    itemFloats_map floats_trailSummary
  unfold checkCloudtrail at h
  split at h
  · cases h
  · obtain ⟨text, -, h⟩ := Except.bind_eq_ok.1 h
    cases h
    exact allNumbers_nil
  · obtain ⟨text, -, h⟩ := Except.bind_eq_ok.1 h
    cases h
    exact allNumbers_nil
  · split at h
    · cases h
      exact allNumbers_nil
    · obtain ⟨⟨trailSummaries, activeTrail⟩, -, h⟩ := Except.bind_eq_ok.1 h
      simp only at h
      split at h
      · cases h
        simp [cloudtrailPosture, floats, fieldFloats, memberFloats, htrails, allNumbers_nil]
      · cases h
        simp [cloudtrailPosture, floats, fieldFloats, memberFloats, htrails, floats_trailSummary,
          allNumbers_nil]

theorem floats_of_passwordPolicy {policy : Except AwsError Unit} {present : Json}
    {warnings : List String} (h : passwordPolicy policy = .ok (present, warnings)) :
    floats present = [] := by
  unfold passwordPolicy at h
  split at h
  · cases h
    rfl
  · split at h
    · cases h
      rfl
    · obtain ⟨text, -, h⟩ := Except.bind_eq_ok.1 h
      cases h
      rfl
  · obtain ⟨text, -, h⟩ := Except.bind_eq_ok.1 h
    cases h
    rfl
  · cases h

/-- The payload of `check_iam` has no floats. -/
theorem allNumbers_of_checkIam {now : Int} {client : Iam} {result : AwsCheckResult}
    (h : checkIam now client = .ok result) :
    AllNumbers (floats (.dict result.normalizedPayload)) := by
  have husers : ∀ users : List UserSummary, itemFloats (users.map UserSummary.json) = [] :=
    itemFloats_map floats_userSummary
  unfold checkIam at h
  split at h
  · cases h
  · obtain ⟨text, -, h⟩ := Except.bind_eq_ok.1 h
    cases h
    exact allNumbers_nil
  · obtain ⟨text, -, h⟩ := Except.bind_eq_ok.1 h
    cases h
    exact allNumbers_nil
  · cases h
  · obtain ⟨⟨present, policyWarnings⟩, hpolicy, h⟩ := Except.bind_eq_ok.1 h
    obtain ⟨lastWarnings, -, h⟩ := Except.bind_eq_ok.1 h
    cases h
    have hpresent := floats_of_passwordPolicy hpolicy
    simp [iamPosture, floats, fieldFloats, memberFloats, husers, hpresent, allNumbers_nil]

theorem floats_linkedIdentity (identity : LinkedIdentity) (user : User) :
    floats (identity.json user) = [] := by
  simp [LinkedIdentity.json, floats, fieldFloats, memberFloats]

/-- The population of linked identities has no floats. -/
theorem allNumbers_payload (directory : Directory) :
    AllNumbers (floats (.dict directory.payload)) := by
  have hpopulation : itemFloats directory.population = [] := by
    apply itemFloats_eq_nil
    intro item hitem
    obtain ⟨identity, -, hitem⟩ := List.mem_filterMap.1 hitem
    obtain ⟨user, -, rfl⟩ := Option.map_eq_some_iff.1 hitem
    exact floats_linkedIdentity identity user
  simp [Directory.payload, floats, fieldFloats, memberFloats, hpopulation, allNumbers_nil]

/-! ## The snapshots -/

/-- A connector result that is ingested has been accepted: its text is short enough, and it is
    stored as a whole. -/
theorem verifiable_of_ingest {platform : Platform} {result : ConnectorResult}
    {manifest : ConnectorManifest} {newId : Nat → Id} {pending pending' : Pending}
    (hdumps : platform.dumps = fun payload => (Json.dict payload).sortedDumps)
    (hpayload : AllNumbers (floats (.dict result.normalizedPayload)))
    (h : ingestConfigurationSnapshot platform result manifest newId pending =
      .returned pending') :
    ∃ snapshot, pending'.newSnapshots = pending.newSnapshots ++ [(newId 0, snapshot)] ∧
      (Json.dict result.normalizedPayload).sortedDumps.length ≤ maxNormalizedPayloadChars ∧
      Verifiable platform.sha256 result.normalizedPayload snapshot := by
  unfold ingestConfigurationSnapshot at h
  split at h
  · cases h
  · next hvalid =>
    have hlength :
        (Json.dict result.normalizedPayload).sortedDumps.length ≤ maxNormalizedPayloadChars := by
      rw [validateResult, hdumps] at hvalid
      simp only at hvalid
      split_ifs at hvalid with _ _ hlong
      exact not_lt.1 hlong
    cases h
    refine ⟨_, rfl, hlength, verifiable_of_payload hpayload ?_ ?_⟩
    · rw [slice_of_length_le hlength, hdumps]
    · rw [hdumps]

/-- For every result of an AWS check, every population of linked identities and every accepted
    connector result whose floats are finite, the snapshot has the beginning of the JSON text of
    its payload and the hash of the whole text; it can be verified if the text has at most 20000
    characters, which is so for every accepted connector result. -/
theorem stored_payloads_verify (sha256 : String → String) :
    (∀ now result connectionId, AllNumbers (floats (.dict result.normalizedPayload)) →
      Verifiable sha256 result.normalizedPayload
        (buildEvidenceSnapshot sha256 now result connectionId)) ∧
    (∀ client result, checkCloudtrail client = .ok result →
      AllNumbers (floats (.dict result.normalizedPayload))) ∧
    (∀ now client result, checkIam now client = .ok result →
      AllNumbers (floats (.dict result.normalizedPayload))) ∧
    (∀ now directory, Verifiable sha256 directory.payload
      (captureOidcIdentityPopulationSnapshot sha256 now directory)) ∧
    ∀ (platform : Platform) result manifest newId pending pending', platform.sha256 = sha256 →
      (platform.dumps = fun payload => (Json.dict payload).sortedDumps) →
      AllNumbers (floats (.dict result.normalizedPayload)) →
      ingestConfigurationSnapshot platform result manifest newId pending = .returned pending' →
      ∃ snapshot, pending'.newSnapshots = pending.newSnapshots ++ [(newId 0, snapshot)] ∧
        (Json.dict result.normalizedPayload).sortedDumps.length ≤ maxNormalizedPayloadChars ∧
        Verifiable sha256 result.normalizedPayload snapshot := by
  refine ⟨?_, ?_, ?_, ?_, ?_⟩
  · exact fun now result connectionId hpayload => verifiable_of_payload hpayload rfl rfl
  · exact fun client result => allNumbers_of_checkCloudtrail
  · exact fun now client result => allNumbers_of_checkIam
  · exact fun now directory => verifiable_of_payload (allNumbers_payload directory) rfl rfl
  · rintro platform result manifest newId pending pending' rfl hdumps hpayload h
    exact verifiable_of_ingest hdumps hpayload h

/-- What a connector has found out about a repository. -/
def repositoryResult : ConnectorResult where
  capability := "configuration.snapshot"
  checkKey := "branch_protection"
  status := "pass"
  title := "Branch protection"
  summary := "The main branch is protected."
  provenance := { sourceConnectionId := none, collectedAt := 5 }
  normalizedPayload := [("reviewers", .int 2), ("branch", .str "main"), ("protected", .bool true)]

/-- `stored_payloads_verify` for a connector result that is accepted. -/
theorem stored_payloads_verify_repository :
    ∃ pending snapshot, ingestConfigurationSnapshot jsonPlatform repositoryResult
        ⟨"github", ["configuration.snapshot"]⟩ (fun n => n) (⟨∅, ∅⟩ : Facts).pending =
          .returned pending ∧
      pending.newSnapshots = [(0, snapshot)] ∧
      Verifiable id repositoryResult.normalizedPayload snapshot := by
  have hvalid : validateResult jsonPlatform repositoryResult
      ⟨"github", ["configuration.snapshot"]⟩ = .ok () := by decide +kernel
  obtain ⟨pending, hingest⟩ : ∃ pending, ingestConfigurationSnapshot jsonPlatform repositoryResult
      ⟨"github", ["configuration.snapshot"]⟩ (fun n => n) (⟨∅, ∅⟩ : Facts).pending =
        .returned pending := by
    unfold ingestConfigurationSnapshot
    rw [hvalid]
    exact ⟨_, rfl⟩
  obtain ⟨-, -, -, -, hconnector⟩ := stored_payloads_verify id
  obtain ⟨snapshot, hnew, -, hverifiable⟩ := hconnector jsonPlatform repositoryResult _ _ _ _ rfl
    rfl allNumbers_nil hingest
  exact ⟨pending, snapshot, hingest, hnew, hverifiable⟩

/-! ## A large account -/

/-- A user without an access key, with one MFA device. -/
def plainUser (i : Nat) : ListedUser := ⟨some (toString i), .ok (some 1), .ok (some [])⟩

/-- What the check keeps of the user. -/
def plainSummary (i : Nat) : UserSummary := ⟨toString i, true, 0, none⟩

/-- An account with some users. -/
def account (l : List Nat) : Iam where
  getAccountSummary := .ok (some ⟨some 1, some 0⟩)
  getAccountPasswordPolicy := .ok ()
  listUsers := [.ok ⟨some (l.map plainUser)⟩]

theorem enumerateUsers_plainUser (now : Int) (l : List Nat) :
    enumerateUsers now (l.map fun i => .ok (plainUser i)) = (l.map plainSummary, none) := by
  induction l with
  | nil => rfl
  | cons i l ih =>
    have hsummary : (plainUser i).summarize now = .ok (plainSummary i) := rfl
    rw [List.map_cons, enumerateUsers, hsummary, ih]
    rfl

/-- What the check finds out about the account. -/
theorem checkIam_account (now : Int) (l : List Nat) : ∃ result,
    checkIam now (account l) = .ok result ∧
      ("users", Json.list ((l.map plainSummary).map UserSummary.json)) ∈
        result.normalizedPayload := by
  have husers : enumeration (account l).listUsers = l.map fun i => .ok (plainUser i) := by
    simp [enumeration, account, List.map_map, Function.comp_def]
  unfold checkIam
  rw [husers, enumerateUsers_plainUser]
  exact ⟨_, rfl, by simp [iamPosture]⟩

/-- Each user takes 28 characters or more. -/
theorem le_length_userSummary (summary : UserSummary) :
    28 ≤ (compactChars (sortKeys summary.json)).length := by
  have hmem : ("oldest_active_key_age_days",
      (summary.oldestActiveKeyAgeDays.map Json.int).getD .null) ∈
        [("username", Json.str summary.username),
          ("has_mfa", .bool summary.hasMfa),
          ("active_access_key_count", .int summary.activeAccessKeyCount),
          ("oldest_active_key_age_days",
            (summary.oldestActiveKeyAgeDays.map Json.int).getD .null)] := by
    simp
  have hkey : (quoted "oldest_active_key_age_days").length = 28 := by decide +kernel
  have hle := length_le_compactChars_dict hmem
  rw [UserSummary.json]
  omega

/-- The users of an account take 28 characters each. -/
theorem le_length_users (summaries : List UserSummary) :
    28 * summaries.length ≤ (compactItems []
      (sortItems (summaries.map UserSummary.json))).length := by
  have hitems : ∀ item ∈ sortItems (summaries.map UserSummary.json),
      28 ≤ (compactChars item).length := by
    rw [sortItems_eq_map, List.map_map]
    intro item hitem
    obtain ⟨summary, -, rfl⟩ := List.mem_map.1 hitem
    exact le_length_userSummary summary
  have hmul := mul_length_le_compactItems (w := []) hitems
  rwa [sortItems_eq_map, List.length_map, List.length_map, ← sortItems_eq_map] at hmul

/-- The stored text of the snapshot of an account with 1000 users is no JSON text. -/
theorem snapshot_of_largeAccount :
    ∃ result, checkIam 0 (account (List.range 1000)) = .ok result ∧
      ∀ sha256 now connectionId, ¬ IsText
        (buildEvidenceSnapshot sha256 now result connectionId).normalizedPayloadJson.toList := by
  obtain ⟨result, hcheck, husers⟩ := checkIam_account 0 (List.range 1000)
  refine ⟨result, hcheck, fun sha256 now connectionId htext => ?_⟩
  have hsnapshot : Verifiable sha256 result.normalizedPayload
      (buildEvidenceSnapshot sha256 now result connectionId) :=
    verifiable_of_payload (allNumbers_of_checkIam hcheck) rfl rfl
  have hle := hsnapshot.valid.1 htext
  have hitems := le_length_users ((List.range 1000).map plainSummary)
  have hlist := length_le_compactChars_dict husers
  rw [List.length_map, List.length_range] at hitems
  rw [sortKeys, compactChars, List.length_cons, List.length_append] at hlist
  rw [sortedDumps, String.length_ofList, maxNormalizedPayloadChars] at hle
  omega

end MiniGrc.EvidenceSnapshots
