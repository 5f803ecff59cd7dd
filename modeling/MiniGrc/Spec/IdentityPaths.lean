import Mathlib.Data.List.TakeWhile
import MiniGrc.Spec.Dates
import MiniGrc.Spec.DirectorySync

/-!
# Two ways in for directory users

The connector path encodes the users as the payload of a result, which has to pass
`validate_result`, and decodes them in a second copy of the loop of the sync.

## Key results

- `upsertPeople_payload`: over the payload, the second loop does what the first one does
- `ingestIdentityPopulation_of_le`, `ingestIdentityPopulation_of_lt`: a payload of at most 20000
  characters is ingested as the sync would do it at the time of the collection; a longer one is
  refused
- `identityPopulation_agrees`: what the two paths leave, up to the time of the sync
-/

namespace MiniGrc.Connectors

open Users (normalizeEmail)

variable {platform : Platform} {lower : String → String} {newId : Nat → Id}
  {now collectedAt : Time} {facts : Facts} {users : List DirectoryUser} {user : DirectoryUser}
  {connectionId : String} {c : Counted}

/-! ## The loops -/

theorem normalizedEmail_payload : normalizedEmail platform (.dict user.payload) =
    .ok (user.payload, user.address platform.lower) := by
  rw [normalizedEmail, DirectoryUser.payload, JsonDict.get?_cons_self]
  rfl

/-- The body of the second loop, for a user in the payload. -/
theorem upsert_payload (hblank : user.address lower ≠ "") :
    upsertPerson (directoryUsersToConnectorResult users connectionId collectedAt)
        workspaceDirectoryManifest newId user.payload (user.address lower) c =
      syncUser lower newId collectedAt c user := by
  cases hfound : c.pending.personByEmail (user.address lower) with
  | none =>
    rw [syncUser_of_none hblank hfound, upsertPerson, hfound]
    simp [DirectoryUser.payload, DirectoryUser.person, DirectoryUser.status, Json.truthy,
      workspaceDirectoryManifest, directoryUsersToConnectorResult]
  | some x =>
    obtain ⟨id, p⟩ := x
    rw [syncUser_of_some hblank hfound, upsertPerson, hfound]
    simp [DirectoryUser.payload, DirectoryUser.update, DirectoryUser.status, Json.truthy,
      workspaceDirectoryManifest, directoryUsersToConnectorResult]

/-- A blank address is skipped. -/
theorem syncUser_of_blank (hblank : user.address lower = "") :
    syncUser lower newId now c user = c := if_pos hblank

/-- Over the payload, the second loop does what the first one does. -/
theorem upsertPeople_payload (all users : List DirectoryUser) (c : Counted) :
    upsertPeople platform (directoryUsersToConnectorResult all connectionId collectedAt)
        workspaceDirectoryManifest newId (users.map fun user => .dict user.payload) c =
      .returned (users.foldl (syncUser platform.lower newId collectedAt) c) := by
  induction users generalizing c with
  | nil => rfl
  | cons user users ih =>
    rw [List.map_cons, upsertPeople, normalizedEmail_payload, List.foldl_cons]
    by_cases hblank : user.address platform.lower = ""
    · simp only [if_pos hblank, syncUser_of_blank hblank]
      exact ih c
    · simp only [if_neg hblank, upsert_payload hblank]
      exact ih _

/-! ## The contract -/

/-- The characters of the payload for the users. -/
def payloadSize (platform : Platform) (users : List DirectoryUser) : Nat :=
  (platform.dumps [("users", .list (users.map fun user => .dict user.payload))]).length

/-- The field of the payload is not shaped like a secret, and the keys within a list are not
    looked at. -/
theorem findSecretShapedKeys_users (items : List Json) :
    findSecretShapedKeys "" [("users", .list items)] = [] := by
  have husers : isSecretShaped "users" = false := by decide +kernel
  simp [findSecretShapedKeys, fieldSecretShapedKeys, valueSecretShapedKeys, husers]

/-- Of the contract, only the size of the payload is in question. -/
theorem validateResult_directoryUsers :
    validateResult platform (directoryUsersToConnectorResult users connectionId collectedAt)
        workspaceDirectoryManifest =
      if maxNormalizedPayloadChars < payloadSize platform users then
        .error (.contractError ("normalized_payload exceeds " ++
          toString maxNormalizedPayloadChars ++ " chars (" ++
          toString (payloadSize platform users) ++
          " chars) — connector must summarize, not dump raw provider output"))
      else .ok () := by
  have hcapability : (directoryUsersToConnectorResult users connectionId collectedAt).capability ∈
      workspaceDirectoryManifest.capabilities := List.mem_singleton_self _
  have hstatus : (directoryUsersToConnectorResult users connectionId collectedAt).status ∈
      evidenceStatuses := by
    change "pass" ∈ evidenceStatuses
    decide
  have hsecret : findSecretShapedKeys "" (directoryUsersToConnectorResult users connectionId
      collectedAt).normalizedPayload = [] := findSecretShapedKeys_users _
  simp only [validateResult, hcapability, hstatus, hsecret, not_true_eq_false, if_false, ne_eq]
  rfl

/-- A payload that is small enough is ingested as the sync would do it at the time of the
    collection. -/
theorem ingestIdentityPopulation_of_le
    (hsize : payloadSize platform users ≤ maxNormalizedPayloadChars) :
    ingestIdentityPopulation platform
        (directoryUsersToConnectorResult users connectionId collectedAt)
        workspaceDirectoryManifest newId facts.pending =
      .returned (syncDirectoryUsers platform.lower newId collectedAt facts users) := by
  rw [ingestIdentityPopulation, validateResult_directoryUsers, if_neg (Nat.not_lt.2 hsize)]
  exact upsertPeople_payload users users _

/-- One that is too large is refused before the first user. -/
theorem ingestIdentityPopulation_of_lt
    (hsize : maxNormalizedPayloadChars < payloadSize platform users) :
    ∃ message, ingestIdentityPopulation platform
        (directoryUsersToConnectorResult users connectionId collectedAt)
        workspaceDirectoryManifest newId facts.pending =
      .raised { pending := facts.pending } (.contractError message) := by
  rw [ingestIdentityPopulation, validateResult_directoryUsers, if_pos hsize]
  exact ⟨_, rfl⟩

/-! ## Counts -/

/-- Everyone who is added is counted. -/
theorem syncDirectoryUsers_created (lower : String → String) (newId : Nat → Id) (now : Time)
    (facts : Facts) (users : List DirectoryUser) :
    (syncDirectoryUsers lower newId now facts users).created =
      (syncDirectoryUsers lower newId now facts users).pending.newPeople.length := by
  -- over the users: the last one is skipped, created or updated
  induction users using List.reverseRecOn with
  | nil => rfl
  | append_singleton users user ih =>
    unfold syncDirectoryUsers at ih ⊢
    rw [List.foldl_append, List.foldl_cons, List.foldl_nil]
    generalize users.foldl _ _ = c at ih
    by_cases hblank : user.address lower = ""
    · rw [syncUser_of_blank hblank, ih]
    · cases hfound : c.pending.personByEmail (user.address lower) with
      | none => rw [syncUser_of_none hblank hfound, List.length_append, List.length_singleton, ih]
      | some x => rw [syncUser_of_some hblank hfound, ih]

/-- Every entry with an address is counted once. -/
theorem syncDirectoryUsers_counted (lower : String → String) (newId : Nat → Id) (now : Time)
    (facts : Facts) (users : List DirectoryUser) :
    (syncDirectoryUsers lower newId now facts users).created +
        (syncDirectoryUsers lower newId now facts users).updated =
      users.countP fun user => user.address lower ≠ "" := by
  induction users using List.reverseRecOn with
  | nil => rfl
  | append_singleton users user ih =>
    unfold syncDirectoryUsers at ih ⊢
    rw [List.foldl_append, List.foldl_cons, List.foldl_nil, List.countP_append, ← ih]
    generalize users.foldl _ _ = c
    by_cases hblank : user.address lower = ""
    · rw [syncUser_of_blank hblank, List.countP_cons_of_neg (by simp [hblank]), List.countP_nil]
      rfl
    · rw [List.countP_cons_of_pos (by simp [hblank]), List.countP_nil]
      cases hfound : c.pending.personByEmail (user.address lower) with
      | none =>
        rw [syncUser_of_none hblank hfound]
        dsimp only
        omega
      | some x =>
        rw [syncUser_of_some hblank hfound]
        dsimp only
        omega

/-! ## The time of the sync -/

/-- The same person, up to the time of the sync. -/
def Alike (p q : Person) : Prop := { p with lastSyncedAt := q.lastSyncedAt } = q

/-- The same people, up to the time of the sync. -/
def UpToSync (people people' : Table Person) : Prop :=
  ∀ k : Id, Option.Rel Alike people[k]? people'[k]?

section Time

variable {now' : Time} {before after after' : Table Person} {fits : Person → Bool} {p q : Person}
  {pending pending' : Pending}

theorem asListed_alike (entries : List DirectoryUser) (p : Person) :
    Alike (asListed now entries p) (asListed now' entries p) := by
  unfold asListed
  cases entries.getLast? <;> rfl

theorem Outcome.exists_alike (h : Outcome lower newId now users before after)
    (h' : Outcome lower newId now' users before after') {k : Id} (hp : after[k]? = some p) :
    ∃ p', after'[k]? = some p' ∧ Alike p p' := by
  rcases (h k p).1 hp with ⟨q, hq, rfl⟩ | ⟨i, user, huser, rfl, rfl⟩
  · exact ⟨_, (h' _ _).2 (.inl ⟨q, hq, rfl⟩), asListed_alike _ q⟩
  · exact ⟨_, (h' _ _).2 (.inr ⟨i, user, huser, rfl, rfl⟩), rfl⟩

/-- The same sync at two times. -/
theorem Outcome.upToSync (h : Outcome lower newId now users before after)
    (h' : Outcome lower newId now' users before after') : UpToSync after after' := by
  intro k
  cases hp : after[k]? with
  | some p =>
    obtain ⟨p', hp', halike⟩ := h.exists_alike h' hp
    rw [hp']
    exact .some halike
  | none =>
    cases hp' : after'[k]? with
    | none => exact .none
    | some p' =>
      obtain ⟨p, hp'', -⟩ := h'.exists_alike h hp'
      rw [hp] at hp''
      cases hp''

/-- Columns that take every time hold alike people. -/
theorem fits_eq_of_alike
    (hfits : ∀ (p : Person) time, fits { p with lastSyncedAt := time } = fits p)
    (h : Alike p q) : fits p = fits q := by
  have hfit := hfits p q.lastSyncedAt
  rw [show { p with lastSyncedAt := q.lastSyncedAt } = q from h] at hfit
  exact hfit.symm

theorem careful_iff_of_times
    (hfits : ∀ (p : Person) time, fits { p with lastSyncedAt := time } = fits p) :
    Careful fits lower now facts.people users ↔ Careful fits lower now' facts.people users := by
  have hone (now now' : Time) (h : Careful fits lower now facts.people users) :
      Careful fits lower now' facts.people users := by
    refine ⟨h.repeated, fun k p hp => ?_, fun user hmem hnew => ?_⟩
    · have halike : Alike (asListed now (entriesOf lower users p.email) p)
          (asListed now' (entriesOf lower users p.email) p) := asListed_alike _ p
      rw [← fits_eq_of_alike hfits halike]
      exact h.fitStored k p hp
    · have halike : Alike (user.person lower now) (user.person lower now') := rfl
      rw [← fits_eq_of_alike hfits halike]
      exact h.fitNew user hmem hnew
  exact ⟨hone now now', hone now' now⟩

/-- What two syncs of the same list hold back is committed alike. -/
theorem Held.commits_alike (hnewId : newId.Injective) (hfresh : ∀ i, newId i ∉ facts.people)
    (hfits : ∀ (p : Person) time, fits { p with lastSyncedAt := time } = fits p)
    (h : Held lower newId now facts users pending)
    (h' : Held lower newId now' facts users pending') :
    Option.Rel (fun f f' => f.snapshots = f'.snapshots ∧ UpToSync f.people f'.people)
      (pending.commit fits facts) (pending'.commit fits facts) := by
  -- Whether the flush is accepted does not depend on the time.
  have hiff : (∃ f, pending.commit fits facts = some f) ↔
      ∃ f', pending'.commit fits facts = some f' := by
    rw [h.exists_commit_iff hnewId hfresh, h'.exists_commit_iff hnewId hfresh]
    exact careful_iff_of_times hfits
  cases hcommit : pending.commit fits facts with
  | none =>
    cases hcommit' : pending'.commit fits facts with
    | none => exact .none
    | some f' =>
      obtain ⟨f, hf⟩ := hiff.2 ⟨f', hcommit'⟩
      rw [hcommit] at hf
      cases hf
  | some f =>
    obtain ⟨f', hcommit'⟩ := hiff.1 ⟨f, hcommit⟩
    rw [hcommit']
    refine .some ⟨?_, ?_⟩
    · rw [((commit_eq_some h.newSnapshots).1 hcommit).2.2,
        ((commit_eq_some h'.newSnapshots).1 hcommit').2.2]
    · exact Outcome.upToSync (h.commit_people hcommit) (h'.commit_people hcommit')

end Time

/-- Both paths give the same counts. -/
theorem syncDirectoryUsers_counts (hunique : UniqueEmails facts.people)
    (lower : String → String) (newId : Nat → Id) (now now' : Time) (users : List DirectoryUser) :
    (syncDirectoryUsers lower newId now facts users).created =
        (syncDirectoryUsers lower newId now' facts users).created ∧
      (syncDirectoryUsers lower newId now facts users).updated =
        (syncDirectoryUsers lower newId now' facts users).updated := by
  have hcreated : (syncDirectoryUsers lower newId now facts users).created =
      (syncDirectoryUsers lower newId now' facts users).created := by
    rw [syncDirectoryUsers_created, syncDirectoryUsers_created,
      (syncDirectoryUsers_held hunique lower newId now users).newPeople,
      (syncDirectoryUsers_held hunique lower newId now' users).newPeople, List.length_map,
      List.length_map]
  have hcounted := syncDirectoryUsers_counted lower newId now facts users
  have hcounted' := syncDirectoryUsers_counted lower newId now' facts users
  omega

/-! ## Agreement -/

/-- With distinct addresses, nothing is repeated. -/
theorem repeated_of_distinct {people : Table Person}
    (hdistinct : (users.map (DirectoryUser.address lower)).Nodup) :
    Repeated lower people users := by
  refine nodup_newAddresses_iff.1 (hdistinct.sublist ?_)
  exact List.filter_sublist.map _

/-- The ingestion of a list and its sync agree: on the counts, and up to the time of the sync on
    what a commit leaves. A payload that is too large is refused, and nothing is held back. -/
theorem identityPopulation_agrees {fits : Person → Bool}
    (hdistinct : (users.map (DirectoryUser.address platform.lower)).Nodup)
    (hunique : UniqueEmails facts.people) (hnewId : newId.Injective)
    (hfresh : ∀ i, newId i ∉ facts.people)
    (hfits : ∀ (p : Person) time, fits { p with lastSyncedAt := time } = fits p) :
    (payloadSize platform users ≤ maxNormalizedPayloadChars → ∃ c : Counted,
      ingestIdentityPopulation platform
          (directoryUsersToConnectorResult users connectionId collectedAt)
          workspaceDirectoryManifest newId facts.pending = .returned c ∧
        c.created = (syncDirectoryUsers platform.lower newId now facts users).created ∧
        c.updated = (syncDirectoryUsers platform.lower newId now facts users).updated ∧
        Option.Rel (fun f f' => f.snapshots = f'.snapshots ∧ UpToSync f.people f'.people)
          (c.pending.commit fits facts)
          ((syncDirectoryUsers platform.lower newId now facts users).pending.commit fits facts) ∧
        ((∀ p, fits p) → (c.pending.commit fits facts).isSome)) ∧
    (maxNormalizedPayloadChars < payloadSize platform users → ∃ message,
      ingestIdentityPopulation platform
          (directoryUsersToConnectorResult users connectionId collectedAt)
          workspaceDirectoryManifest newId facts.pending =
        .raised { pending := facts.pending } (.contractError message)) := by
  refine ⟨fun hsize => ?_, ingestIdentityPopulation_of_lt⟩
  have hheld := syncDirectoryUsers_held hunique platform.lower newId collectedAt users
  have hheld' := syncDirectoryUsers_held hunique platform.lower newId now users
  obtain ⟨hcreated, hupdated⟩ :=
    syncDirectoryUsers_counts hunique platform.lower newId collectedAt now users
  refine ⟨_, ingestIdentityPopulation_of_le hsize, hcreated, hupdated,
    hheld.commits_alike hnewId hfresh hfits hheld', fun hall => Option.isSome_iff_exists.2 ?_⟩
  exact (hheld.exists_commit_iff hnewId hfresh).2
    ⟨repeated_of_distinct hdistinct, fun _ p _ => hall _, fun _ _ _ => hall _⟩

/-! ## The size of the payload -/

theorem sortKeys_payload (user : DirectoryUser) : Json.sortKeys (.dict user.payload) = .dict [
    ("display_name", .str user.displayName),
    ("email", .str user.primaryEmail),
    ("external_id", .str user.externalId),
    ("suspended", .bool (user.suspended || user.archived))] := by
  have h1 : ("suspended" : String) ≤ "external_id" ↔ False := by decide +kernel
  have h2 : ("display_name" : String) ≤ "external_id" := by decide +kernel
  have h3 : ("email" : String) ≤ "external_id" := by decide +kernel
  have h4 : ("email" : String) ≤ "display_name" ↔ False := by decide +kernel
  simp [DirectoryUser.payload, Json.sortKeys, Json.sortFields, Json.sortField,
    List.insertionSort, List.orderedInsert, h1, h2, h3, h4]

theorem two_le_length_quoted (text : String) : 2 ≤ (Json.quoted text).length := by
  rw [Json.quoted, List.length_cons, List.length_append, List.length_singleton]
  omega

/-- A user takes 71 characters or more. -/
theorem le_length_user (user : DirectoryUser) :
    71 ≤ (Json.compactChars (Json.sortKeys (.dict user.payload))).length := by
  have hname := two_le_length_quoted user.displayName
  have hemail := two_le_length_quoted user.primaryEmail
  have hid := two_le_length_quoted user.externalId
  have hkeys : (Json.quoted "display_name").length = 14 ∧ (Json.quoted "email").length = 7 ∧
      (Json.quoted "external_id").length = 13 ∧ (Json.quoted "suspended").length = 11 := by
    decide +kernel
  have hbool : 4 ≤ (Json.compactChars (.bool (user.suspended || user.archived))).length := by
    cases user.suspended || user.archived <;> decide
  obtain ⟨h1, h2, h3, h4⟩ := hkeys
  rw [sortKeys_payload]
  simp only [Json.compactChars] at hbool ⊢
  simp only [Json.compactFields, Json.compactField, Json.compactChars, List.length_cons,
    List.length_append, List.length_nil, h1, h2, h3, h4]
  omega

theorem le_length_compactItems (separator : List Char) (users : List DirectoryUser) :
    71 * users.length ≤ (Json.compactItems separator
      (Json.sortItems (users.map fun user => .dict user.payload))).length := by
  induction users generalizing separator with
  | nil => exact Nat.zero_le _
  | cons user users ih =>
    have huser := le_length_user user
    have hrest := ih [',', ' ']
    rw [List.map_cons, Json.sortItems, Json.compactItems, List.length_append, List.length_append,
      List.length_cons]
    omega

/-- The more users, the longer is the payload: more than 281 users are always too many. -/
theorem le_payloadSize (hdumps : platform.dumps = fun payload => (Json.dict payload).sortedDumps)
    (users : List DirectoryUser) : 71 * users.length ≤ payloadSize platform users := by
  have hitems := le_length_compactItems [] users
  rw [payloadSize, hdumps]
  change 71 * users.length ≤ (String.ofList _).length
  rw [String.length_ofList]
  simp only [Json.sortKeys, Json.sortFields, Json.sortField, List.insertionSort_cons,
    List.insertionSort_nil, List.orderedInsert_nil, Json.compactChars, Json.compactFields,
    Json.compactField, List.length_cons, List.length_append]
  omega

/-! ## Examples -/

/-- One user is stored, and one is new: one person is updated, one is added. -/
theorem identityPopulation_agrees_storedGrace :
    ∃ c : Counted, ingestIdentityPopulation jsonPlatform
        (directoryUsersToConnectorResult [ada, grace] "conn" 1) workspaceDirectoryManifest
        (fun n => n + 6) storedGrace.pending = .returned c ∧
      c.created = 1 ∧ c.updated = 1 ∧
      Option.Rel (fun f f' => f.snapshots = f'.snapshots ∧ UpToSync f.people f'.people)
        (c.pending.commit wideColumns storedGrace)
        ((syncDirectoryUsers jsonPlatform.lower (fun n => n + 6) 0 storedGrace
          [ada, grace]).pending.commit wideColumns storedGrace) := by
  have hfits : ∀ (p : Person) (time : Option Time),
      wideColumns { p with lastSyncedAt := time } = wideColumns p := fun _ _ => rfl
  have hdistinct : ([ada, grace].map (DirectoryUser.address jsonPlatform.lower)).Nodup := by
    decide +kernel
  have hsize : payloadSize jsonPlatform [ada, grace] ≤ maxNormalizedPayloadChars := by
    -- counted in characters, before they are put together
    change (Json.sortedDumps _).length ≤ _
    rw [Json.sortedDumps, String.length_ofList]
    decide +kernel
  obtain ⟨c, hreturned, hcreated, hupdated, hcommit, -⟩ := (identityPopulation_agrees hdistinct
    uniqueEmails_storedGrace (fun _ _ h => Nat.add_right_cancel h) fresh_storedGrace hfits).1 hsize
  exact ⟨c, hreturned, hcreated.trans (by decide +kernel), hupdated.trans (by decide +kernel),
    hcommit⟩

/-- A member of the organisation below. -/
def member (i : Nat) : DirectoryUser := ⟨toString i, toString i ++ "@x.org", "", false, false⟩

/-- An organisation of 300 people. -/
def largeOrganisation : List DirectoryUser := (List.range 300).map member

/-- A text without spaces is its own normalized address, up to its case. -/
theorem normalizeEmail_of_noSpace {text : String} (h : ∀ c ∈ text.toList, isPySpace c = false) :
    normalizeEmail lower text = lower text := by
  have hdrop (l : List Char) (hl : ∀ c ∈ l, isPySpace c = false) : l.dropWhile isPySpace = l :=
    List.dropWhile_eq_self_iff.2 fun hlength => by
      rw [hl _ (List.getElem_mem hlength)]
      exact Bool.false_ne_true
  rw [normalizeEmail, stripText, strip, hdrop _ h, hdrop _ fun c hc => h c (List.mem_reverse.1 hc),
    List.reverse_reverse, String.ofList_toList]

theorem isPySpace_of_isDigit {c : Char} (h : c.isDigit) : isPySpace c = false := by
  have hrange : 48 ≤ c.toNat ∧ c.toNat ≤ 57 := by
    simpa [Char.isDigit, UInt32.le_iff_toNat_le] using h
  simp only [isPySpace, Bool.or_eq_false_iff, Bool.and_eq_false_iff, decide_eq_false_iff_not,
    beq_eq_false_iff_ne]
  omega

theorem address_member (i : Nat) :
    (member i).address jsonPlatform.lower = toString i ++ "@x.org" := by
  refine normalizeEmail_of_noSpace fun c hc => ?_
  change c ∈ (toString i ++ "@x.org").toList at hc
  rw [String.toList_append, List.mem_append] at hc
  have hdomain : ("@x.org".toList.all fun c => !isPySpace c) = true := by decide +kernel
  cases hc with
  | inl hdigits => exact isPySpace_of_isDigit (isDigit_of_mem_toString hdigits)
  | inr hrest => simpa using List.all_eq_true.1 hdomain c hrest

/-- The addresses of the organisation are distinct, but its payload is too large. -/
theorem identityPopulation_largeOrganisation :
    (largeOrganisation.map (DirectoryUser.address jsonPlatform.lower)).Nodup ∧
      ¬ ∃ c : Counted, ingestIdentityPopulation jsonPlatform
        (directoryUsersToConnectorResult largeOrganisation "conn" 0) workspaceDirectoryManifest
        (fun n => n) (⟨∅, ∅⟩ : Facts).pending = .returned c := by
  constructor
  · have hinjective : (DirectoryUser.address jsonPlatform.lower ∘ member).Injective := by
      intro i j heq
      rw [Function.comp_apply, Function.comp_apply, address_member, address_member] at heq
      exact toString_nat_injective ((String.append_left_inj _).1 heq)
    rw [largeOrganisation, List.map_map]
    exact List.nodup_range.map hinjective
  · rintro ⟨c, hc⟩
    have hlarge : maxNormalizedPayloadChars < payloadSize jsonPlatform largeOrganisation := by
      have hdumps : jsonPlatform.dumps = fun payload => (Json.dict payload).sortedDumps := rfl
      have hsize := le_payloadSize hdumps largeOrganisation
      have hlength : largeOrganisation.length = 300 := by
        rw [largeOrganisation, List.length_map, List.length_range]
      rw [hlength] at hsize
      exact Nat.lt_of_lt_of_le (by decide) hsize
    obtain ⟨message, hraised⟩ := ingestIdentityPopulation_of_lt hlarge
    rw [hraised] at hc
    cases hc

end MiniGrc.Connectors
