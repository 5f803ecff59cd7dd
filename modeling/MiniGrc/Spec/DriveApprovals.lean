import MiniGrc.App.DriveApprovals
import MiniGrc.ForStd.Except
import MiniGrc.ForStd.List

/-!
# Synchronization of Drive approvals

`sync_drive_approvals` stores one snapshot for each new pair of an approval id and a payload
hash, and a second synchronization of the same answer stores nothing, whenever the answer can
be read. `fetch_approvals` and `parse_approval` take the answer, its records and the
initiating users for mappings without looking.

## Key results

- `parseApproval_eq_ok_iff`, `parseApproval_skips_iff`: what becomes of a record
- `foldlM_syncRecord_eq_ok_iff`: what the loop adds
- `payloadHash_perm`: the hash does not depend on the order of the fields
- `synced_iff_readable`: when a synchronization does what it should
-/

namespace MiniGrc.DriveApprovals

open PolicyStorage Users

variable {env : Environment} {raw payload : Json} {records : List Json}

/-! ## What is read of a value -/

/-- The value is a mapping. -/
def IsObject : Json → Prop
  | .dict _ => True
  | _ => False

instance : DecidablePred IsObject := fun value => by
  cases value <;> unfold IsObject <;> infer_instance

/-- The fields of a value; what is no mapping has none. -/
def fieldsOf : Json → JsonDict
  | .dict fields => fields
  | _ => []

/-- A field of a value, or `None`. -/
def field (value : Json) (key : String) : Json := (JsonDict.get? (fieldsOf value) key).getD .null

/-- An object gives its field. -/
theorem get_of_isObject {value : Json} (h : IsObject value) (key : String) :
    get value key = .ok (field value key) := by
  cases value with
  | dict fields => rfl
  | _ => cases h

/-- What is no object has no attribute `get`. -/
theorem get_of_not_isObject {value : Json} (h : ¬ IsObject value) (key : String) :
    ∃ message, get value key = .error (.attributeError message) := by
  cases value with
  | dict fields => exact absurd trivial h
  | _ => exact ⟨_, rfl⟩

/-! ## What is read of a record -/

/-- What the approval id is made of. -/
def idSource (raw : Json) : Json :=
  either (either (field raw "approvalId") (field raw "id")) (.str "")

/-- The approval id of a record, or the empty string. -/
def externalId (env : Environment) (raw : Json) : String :=
  .ofList (strip (strJson env (idSource raw)).toList)

/-- The record carries an id. -/
def CarriesId (env : Environment) (raw : Json) : Prop := externalId env raw ≠ ""

instance : DecidablePred (CarriesId env) := fun _ => inferInstanceAs (Decidable (_ ≠ _))

/-- The payload hash of a record. -/
def payloadHash (env : Environment) (raw : Json) : String := env.sha256 raw.sortedDumps

/-- The pair under which the snapshot of a record is looked for. -/
def key (env : Environment) (raw : Json) : String × String :=
  (externalId env raw, payloadHash env raw)

/-- Who has initiated the approval: `{}` for nobody. -/
def initiatingUser (raw : Json) : Json := either (field raw "initiatingUser") (.dict [])

/-- What the initiator is made of. -/
def initiatorSource (raw : Json) : Json :=
  either (either (field (initiatingUser raw) "emailAddress") (field raw "initiator")) (.str "")

/-- What the status is made of. -/
def statusSource (raw : Json) : Json :=
  either (either (field raw "state") (field raw "status")) (.str "")

/-- What the responses are made of. -/
def responsesSource (raw : Json) : Json :=
  either (either (field raw "reviewers") (field raw "responses")) (.list [])

/-- What is read of a record. -/
def approval (env : Environment) (raw : Json) : ParsedApproval where
  externalApprovalId := externalId env raw
  status := strJson env (statusSource raw)
  initiator := strJson env (initiatorSource raw)
  reviewerResponsesJson := .ofList (responsesSource raw).compactChars
  createTime := parseTimestamp env (field raw "createTime")
  modifyTime := parseTimestamp env (field raw "modifyTime")
  completeTime := parseTimestamp env (field raw "completeTime")
  dueTime := parseTimestamp env (field raw "dueTime")
  fileContentChangeBehavior := field raw "fileContentChangeBehavior"
  rawPayloadSha256 := payloadHash env raw

/-- A record with an id can be read: its initiating user is a mapping, if there is one, and
    nothing of it lies too deep for the interpreter. -/
structure ReadableApproval (env : Environment) (raw : Json) : Prop where
  initiatingUser : IsObject (initiatingUser raw)
  payload : env.dumps raw
  status : env.str (statusSource raw)
  initiator : env.str (initiatorSource raw)
  responses : env.dumps (responsesSource raw)

/-- A record can be read: it is a mapping, and if it has an id then its fields can be read. -/
structure ReadableRecord (env : Environment) (raw : Json) : Prop where
  isObject : IsObject raw
  id : env.str (idSource raw)
  approval : CarriesId env raw → ReadableApproval env raw

/-! ## One record -/

/-- The text of a value is taken where it is not nested too deep. -/
theorem str_eq_ok_iff {value : Json} {text : String} :
    str env value = .ok text ↔ env.str value ∧ text = strJson env value := by
  unfold str
  split
  · next h => simp [h, @eq_comm _ text]
  · next h => simp [h]

/-- A value is dumped where it is not nested too deep. -/
theorem dumps_eq_ok_iff {value : Json} {text : String} :
    dumps env value = .ok text ↔ env.dumps value ∧ text = .ofList value.compactChars := by
  unfold dumps
  split
  · next h => simp [h, @eq_comm _ text]
  · next h => simp [h]

/-- A value is dumped sorted where it is not nested too deep. -/
theorem dumpsSorted_eq_ok_iff {value : Json} {text : String} :
    dumpsSorted env value = .ok text ↔ env.dumps value ∧ text = value.sortedDumps := by
  unfold dumpsSorted
  split
  · next h => simp [h, @eq_comm _ text]
  · next h => simp [h]

/-- A field is read from an object. -/
theorem get_eq_ok_iff {value result : Json} {name : String} :
    get value name = .ok result ↔ IsObject value ∧ result = field value name := by
  by_cases h : IsObject value
  · simp [get_of_isObject h, h, @eq_comm _ result]
  · obtain ⟨message, hget⟩ := get_of_not_isObject h name
    simp [hget, h]

/-- The exception is not the one that the caller of `parse_approval` catches. -/
def Uncaught (e : PyError) : Prop := ∀ message, e ≠ .approvalsUnavailableError message

/-- What `parse_approval` does when it has the id of a record. -/
def readApproval (env : Environment) (raw : Json) (id : String) :
    Except PyError ParsedApproval := do
  let canonicalJson ← dumpsSorted env raw
  let emailAddress ← get (initiatingUser raw) "emailAddress"
  let status ← str env (statusSource raw)
  let initiator ← str env (either (either emailAddress (field raw "initiator")) (.str ""))
  let responses ← dumps env (responsesSource raw)
  return { approval env raw with
    externalApprovalId := id
    status := status
    initiator := initiator
    reviewerResponsesJson := responses
    rawPayloadSha256 := env.sha256 canonicalJson }

/-- What follows the text of a value. -/
theorem str_bind {α : Type} {value : Json} {f : String → Except PyError α} :
    str env value >>= f =
      if env.str value then f (strJson env value) else .error .recursionError := by
  unfold str
  split <;> rfl

/-- The id of a mapping decides whether the rest of it is read. -/
theorem parseApproval_of_isObject (h : IsObject raw) :
    parseApproval env raw =
      if env.str (idSource raw) then
        if CarriesId env raw then readApproval env raw (externalId env raw)
        else .error (.approvalsUnavailableError "Approval record is missing an id.")
      else .error .recursionError := by
  cases raw with
  | dict fields =>
    -- the fields of a mapping are found by computation
    change (str env (idSource (.dict fields)) >>= fun id =>
      if String.ofList (strip id.toList) = "" then
        .error (.approvalsUnavailableError "Approval record is missing an id.")
      else readApproval env (.dict fields) (.ofList (strip id.toList))) = _
    rw [str_bind]
    refine if_congr Iff.rfl ?_ rfl
    rw [← ite_not]
    rfl
  | _ => cases h

/-- An approval is read where every field of it is. -/
theorem readApproval_eq_ok_iff {parsed : ParsedApproval} :
    readApproval env raw (externalId env raw) = .ok parsed ↔
      ReadableApproval env raw ∧ parsed = approval env raw := by
  simp only [readApproval, Except.bind_eq_ok, dumpsSorted_eq_ok_iff, get_eq_ok_iff, str_eq_ok_iff,
    dumps_eq_ok_iff]
  constructor
  · rintro ⟨_, ⟨hpayload, rfl⟩, _, ⟨huser, rfl⟩, _, ⟨hstatus, rfl⟩, _, ⟨hinitiator, rfl⟩, _,
      ⟨hresponses, rfl⟩, heq⟩
    exact ⟨⟨huser, hpayload, hstatus, hinitiator, hresponses⟩, (Except.ok.inj heq).symm⟩
  · rintro ⟨h, rfl⟩
    exact ⟨_, ⟨h.payload, rfl⟩, _, ⟨h.initiatingUser, rfl⟩, _, ⟨h.status, rfl⟩, _,
      ⟨h.initiator, rfl⟩, _, ⟨h.responses, rfl⟩, rfl⟩

/-- No exception that a record with an id raises is caught. -/
theorem readApproval_ne_unavailable {id message : String} :
    readApproval env raw id ≠ .error (.approvalsUnavailableError message) := by
  intro h
  simp only [readApproval, Except.bind_eq_error] at h
  have hstr : ∀ value, str env value ≠ .error (.approvalsUnavailableError message) := by
    intro value hvalue
    unfold str at hvalue
    split at hvalue <;> cases hvalue
  have hdumps : ∀ value, dumps env value ≠ .error (.approvalsUnavailableError message) := by
    intro value hvalue
    unfold dumps at hvalue
    split at hvalue <;> cases hvalue
  rcases h with h | ⟨_, -, h | ⟨_, -, h | ⟨_, -, h | ⟨_, -, h | ⟨_, -, h⟩⟩⟩⟩⟩
  · unfold dumpsSorted at h
    split at h <;> cases h
  · unfold get at h
    split at h <;> cases h
  · exact hstr _ h
  · exact hstr _ h
  · exact hdumps _ h
  · cases h

/-- What is no mapping cannot be read. -/
theorem parseApproval_of_not_isObject (env : Environment) (h : ¬ IsObject raw) :
    ∃ message, parseApproval env raw = .error (.attributeError message) := by
  obtain ⟨message, hget⟩ := get_of_not_isObject h "approvalId"
  refine ⟨message, ?_⟩
  rw [parseApproval, hget]
  rfl

/-- When a record is parsed, and what it gives. -/
theorem parseApproval_eq_ok_iff {parsed : ParsedApproval} : parseApproval env raw = .ok parsed ↔
    ReadableRecord env raw ∧ CarriesId env raw ∧ parsed = approval env raw := by
  -- A record that is no object raises.
  by_cases hobject : IsObject raw
  case neg =>
    obtain ⟨message, hparse⟩ := parseApproval_of_not_isObject env hobject
    rw [hparse]
    constructor
    · intro h
      cases h
    · exact fun h => absurd h.1.isObject hobject
  rw [parseApproval_of_isObject hobject]
  constructor
  · intro h
    split at h
    · next hid =>
      split at h
      · next hcarries =>
        obtain ⟨hreadable, rfl⟩ := readApproval_eq_ok_iff.1 h
        exact ⟨⟨hobject, hid, fun _ => hreadable⟩, hcarries, rfl⟩
      · cases h
    · cases h
  · rintro ⟨hreadable, hcarries, rfl⟩
    rw [if_pos hreadable.id, if_pos hcarries]
    exact readApproval_eq_ok_iff.2 ⟨hreadable.approval hcarries, rfl⟩

/-- When a record is skipped. -/
theorem parseApproval_skips_iff :
    (∃ message, parseApproval env raw = .error (.approvalsUnavailableError message)) ↔
      ReadableRecord env raw ∧ ¬ CarriesId env raw := by
  -- A record that is no object raises.
  by_cases hobject : IsObject raw
  case neg =>
    obtain ⟨message, hparse⟩ := parseApproval_of_not_isObject env hobject
    rw [hparse]
    constructor
    · rintro ⟨_, h⟩
      cases h
    · exact fun h => absurd h.1.isObject hobject
  rw [parseApproval_of_isObject hobject]
  constructor
  · rintro ⟨message, h⟩
    split at h
    · next hid =>
      split at h
      · exact absurd h readApproval_ne_unavailable
      · next hcarries => exact ⟨⟨hobject, hid, fun hc => absurd hc hcarries⟩, hcarries⟩
    · cases h
  · rintro ⟨hreadable, hcarries⟩
    rw [if_pos hreadable.id, if_neg hcarries]
    exact ⟨_, rfl⟩

/-! ## The loop -/

/-- The row of a record. -/
def row (env : Environment) (policyVersionId : Id) (now : Time) (raw : Json) :
    PolicyApprovalSnapshot := (approval env raw).snapshot policyVersionId now

/-- The records that are stored. -/
def newRecords (env : Environment) (existing : List (String × String)) (records : List Json) :
    List Json :=
  List.firstBy (key env) existing (records.filter fun raw => CarriesId env raw)

variable {policyVersionId : Id} {now : Time}
  {s s' : List (String × String) × List PolicyApprovalSnapshot}

/-- A turn of the loop. -/
theorem syncRecord_eq_ok_iff : syncRecord env policyVersionId now s raw = .ok s' ↔
    ReadableRecord env raw ∧ s' =
      if CarriesId env raw ∧ key env raw ∉ s.1 then
        (s.1 ++ [key env raw], s.2 ++ [row env policyVersionId now raw])
      else s := by
  -- A record is added, known already, skipped, or raises.
  cases hparse : parseApproval env raw with
  | ok parsed =>
    obtain ⟨hreadable, hcarries, rfl⟩ := parseApproval_eq_ok_iff.1 hparse
    have hturn : syncRecord env policyVersionId now s raw =
        if key env raw ∈ s.1 then .ok s
        else .ok (s.1 ++ [key env raw], s.2 ++ [row env policyVersionId now raw]) := by
      rw [syncRecord, hparse]
      rfl
    rw [hturn]
    by_cases hmem : key env raw ∈ s.1
    · simp [hmem, hreadable, @eq_comm _ s']
    · simp [hmem, hreadable, hcarries, @eq_comm _ s']
  | error e =>
    by_cases hskips : ∃ message, e = .approvalsUnavailableError message
    · obtain ⟨message, rfl⟩ := hskips
      obtain ⟨hreadable, hcarries⟩ := parseApproval_skips_iff.1 ⟨message, hparse⟩
      have hturn : syncRecord env policyVersionId now s raw = .ok s := by
        rw [syncRecord, hparse]
      simp [hturn, hreadable, hcarries, @eq_comm _ s']
    · have hturn : syncRecord env policyVersionId now s raw = .error e := by
        rw [syncRecord, hparse]
        cases e with
        | approvalsUnavailableError message => exact absurd ⟨message, rfl⟩ hskips
        | _ => rfl
      rw [hturn]
      constructor
      · intro h
        cases h
      · rintro ⟨hreadable, -⟩
        by_cases hcarries : CarriesId env raw
        · rw [parseApproval_eq_ok_iff.2 ⟨hreadable, hcarries, rfl⟩] at hparse
          cases hparse
        · obtain ⟨message, hparse'⟩ := parseApproval_skips_iff.2 ⟨hreadable, hcarries⟩
          rw [hparse] at hparse'
          exact absurd ⟨message, Except.error.inj hparse'⟩ hskips

/-- The loop ends if every record can be read; one row is added for each new pair. -/
theorem foldlM_syncRecord_eq_ok_iff :
    records.foldlM (syncRecord env policyVersionId now) s = .ok s' ↔
      (∀ raw ∈ records, ReadableRecord env raw) ∧
        s' = (s.1 ++ (newRecords env s.1 records).map (key env),
          s.2 ++ (newRecords env s.1 records).map (row env policyVersionId now)) := by
  induction records generalizing s with
  | nil => simp [newRecords, List.firstBy, pure, Except.pure, @eq_comm _ s']
  | cons raw records ih =>
    have hnew : newRecords env s.1 (raw :: records) =
        if CarriesId env raw ∧ key env raw ∉ s.1 then
          raw :: newRecords env (s.1 ++ [key env raw]) records
        else newRecords env s.1 records := by
      unfold newRecords
      by_cases hcarries : CarriesId env raw
      · rw [List.filter_cons_of_pos (by simpa using hcarries), List.firstBy]
        by_cases hmem : key env raw ∈ s.1 <;> simp [hmem, hcarries]
      · rw [List.filter_cons_of_neg (by simpa using hcarries), if_neg fun h => hcarries h.1]
    rw [Except.foldlM_cons_eq_ok, List.forall_mem_cons, hnew]
    simp only [syncRecord_eq_ok_iff, ih]
    constructor
    · rintro ⟨_, ⟨hraw, rfl⟩, hrecords, rfl⟩
      refine ⟨⟨hraw, hrecords⟩, ?_⟩
      split <;> simp
    · rintro ⟨⟨hraw, hrecords⟩, rfl⟩
      refine ⟨_, ⟨hraw, rfl⟩, hrecords, ?_⟩
      split <;> simp

/-- A record is stored if it has an id, and its pair is neither stored already nor that of an
    earlier record. -/
theorem mem_newRecords_iff {existing : List (String × String)} :
    raw ∈ newRecords env existing records ↔
      ∃ before after, records = before ++ raw :: after ∧ CarriesId env raw ∧
        key env raw ∉ existing ∧ ∀ x ∈ before, CarriesId env x → key env x ≠ key env raw := by
  rw [newRecords, List.mem_firstBy_iff]
  constructor
  · rintro ⟨hkey, before, after, hfilter, hbefore⟩
    obtain ⟨front, rest, rfl, rfl, hrest⟩ := List.filter_eq_append_iff.1 hfilter
    obtain ⟨skipped, after', rfl, hskipped, hraw, -⟩ := List.filter_eq_cons_iff.1 hrest
    refine ⟨front ++ skipped, after', by simp, by simpa using hraw, hkey, fun x hx hcarries => ?_⟩
    rcases List.mem_append.1 hx with hx | hx
    · exact hbefore x (List.mem_filter.2 ⟨hx, by simpa using hcarries⟩)
    · exact absurd (by simpa using hcarries) (hskipped x hx)
  · rintro ⟨before, after, rfl, hcarries, hkey, hbefore⟩
    refine ⟨hkey, before.filter fun x => CarriesId env x, after.filter fun x => CarriesId env x,
      by simp [hcarries], fun x hx => ?_⟩
    obtain ⟨hx, hcarries⟩ := List.mem_filter.1 hx
    exact hbefore x hx (by simpa using hcarries)

/-- The pairs that are stored are those of a record with an id that are not stored yet. -/
theorem mem_map_newRecords_iff {existing : List (String × String)} {k : String × String} :
    k ∈ (newRecords env existing records).map (key env) ↔
      (∃ raw ∈ records, CarriesId env raw ∧ key env raw = k) ∧ k ∉ existing := by
  rw [newRecords, List.mem_map_firstBy_iff]
  refine and_congr_left fun _ => ?_
  simp [and_assoc]

/-- Nothing is left to store after the new records have been stored. -/
theorem newRecords_again {existing : List (String × String)} :
    newRecords env (existing ++ (newRecords env existing records).map (key env)) records = [] := by
  refine List.firstBy_eq_nil fun raw hraw => ?_
  obtain ⟨hmem, hcarries⟩ := List.mem_filter.1 hraw
  rw [List.mem_append, mem_map_newRecords_iff]
  by_cases hold : key env raw ∈ existing
  · exact .inl hold
  · exact .inr ⟨⟨raw, hmem, by simpa using hcarries, rfl⟩, hold⟩

/-! ## A synchronization -/

/-- The records of an answer; an answer without a list of approvals has none. -/
def recordsOf (payload : Json) : List Json :=
  match field payload "approvals" with
  | .list records => records
  | _ => []

/-- A request reaches the endpoint, and `payload` is the answer. -/
structure Reaches (service : Service) (request : Request) (db : Database) (policyVersionId : Id)
    (payload : Json) : Prop where
  policy : ∃ policy fileId version accessToken,
    db.policies[request.policyId]? = some policy ∧ policy.driveFileId = some fileId ∧ fileId ≠ "" ∧
      db.latestVersion request.policyId = some (policyVersionId, version) ∧
        service.accessToken = some accessToken ∧ service.endpoint fileId accessToken = .json payload

/-- A synchronization does what it should: it ends in a redirect, adds one snapshot for every
    pair of a record with an id that is not stored yet, and leaves nothing to the next one. -/
def Synced (env : Environment) (service : Service) (request : Request) (db : Database)
    (policyVersionId : Id) (payload : Json) : Prop :=
  ∃ db' flash new,
    handle env service request db = (db', .ok flash) ∧
    db'.approvalSnapshots = db.approvalSnapshots ++ new ∧
    db'.policies = db.policies ∧ db'.policyVersions = db.policyVersions ∧
    (∀ snapshot ∈ new, snapshot.policyVersionId = policyVersionId) ∧
    (new.map PolicyApprovalSnapshot.key).Nodup ∧
    (∀ k, k ∈ new.map PolicyApprovalSnapshot.key ↔
      (∃ raw ∈ recordsOf payload, CarriesId env raw ∧ key env raw = k) ∧
        k ∉ db.existingHashes policyVersionId) ∧
    ∀ later : Request, later.policyId = request.policyId →
      ∃ flash', handle env service later db' = (db', .ok flash')

/-- The answer can be read: it is a mapping, its records are mappings whose initiating users are
    mappings, nothing lies too deep, and the database takes the rows of the new records. -/
structure ReadableAnswer (env : Environment) (policyVersionId : Id) (now : Time)
    (existing : List (String × String)) (payload : Json) : Prop where
  loads : env.loads payload
  isObject : IsObject payload
  records : ∀ raw ∈ recordsOf payload, ReadableRecord env raw
  accepts : ∀ before raw after, recordsOf payload = before ++ raw :: after → CarriesId env raw →
    key env raw ∉ existing → (∀ x ∈ before, CarriesId env x → key env x ≠ key env raw) →
      env.accepts (row env policyVersionId now raw)

variable {service : Service} {request : Request} {db : Database}

/-- The approvals of an answer, or why there are none. -/
theorem fetchApprovals_json (env : Environment) (payload : Json) :
    (env.loads payload ∧ IsObject payload ∧
      (fetchApprovals env (.json payload) = .ok (recordsOf payload) ∨
        recordsOf payload = [] ∧
          ∃ message, fetchApprovals env (.json payload) =
            .error (.approvalsUnavailableError message))) ∨
      ¬ (env.loads payload ∧ IsObject payload) ∧
        ∃ e, fetchApprovals env (.json payload) = .error e ∧ Uncaught e ∧
          e ≠ .googleDriveError := by
  -- The body may be no JSON, and the JSON no object.
  by_cases hloads : env.loads payload
  case neg =>
    refine .inr ⟨fun h => hloads h.1, .recursionError, if_neg hloads, ?_, ?_⟩
    · intro message h
      cases h
    · intro h
      cases h
  have hfetch : fetchApprovals env (.json payload) = (do
      match ← get payload "approvals" with
      | .list approvals => .ok approvals
      | _ => .error (.approvalsUnavailableError "Unexpected approvals response shape.")) :=
    if_pos hloads
  by_cases hobject : IsObject payload
  case neg =>
    obtain ⟨message, hget⟩ := get_of_not_isObject hobject "approvals"
    refine .inr ⟨fun h => hobject h.2, .attributeError message, ?_, ?_, ?_⟩
    · rw [hfetch, hget]
      rfl
    · intro message' h
      cases h
    · intro h
      cases h
  refine .inl ⟨hloads, hobject, ?_⟩
  rw [hfetch, get_of_isObject hobject, recordsOf]
  cases field payload "approvals" with
  | list records => exact .inl rfl
  | _ => exact .inr ⟨rfl, _, rfl⟩

/-- The rows that a synchronization adds. -/
def newSnapshots (env : Environment) (policyVersionId : Id) (now : Time) (db : Database)
    (payload : Json) : List PolicyApprovalSnapshot :=
  (newRecords env (db.existingHashes policyVersionId) (recordsOf payload)).map
    (row env policyVersionId now)

/-- The rows that are added behind the loop are those of the loop; without one nothing is
    added. -/
theorem conclude_spec (policy : Policy) (targetId : Id) (targetVersion : PolicyVersion)
    (created : List PolicyApprovalSnapshot) : ∃ flash auditEvents,
      conclude request policy targetId targetVersion created = (⟨created, auditEvents⟩, flash) ∧
        (created = [] → auditEvents = []) := by
  unfold conclude
  split
  · next h =>
    obtain rfl := List.length_eq_zero_iff.1 h
    exact ⟨_, [], rfl, fun _ => rfl⟩
  · next h => exact ⟨_, _, rfl, fun hnil => absurd (by rw [hnil]; rfl) h⟩

/-- The route from the answer on. -/
theorem syncDriveApprovals_of_reaches (env : Environment)
    (h : Reaches service request db policyVersionId payload) :
    ∃ conclusion : List PolicyApprovalSnapshot → Added × Flash,
      (∀ created, ∃ flash auditEvents, conclusion created = (⟨created, auditEvents⟩, flash) ∧
        (created = [] → auditEvents = [])) ∧
      ∃ unavailable, syncDriveApprovals env service request db =
        match fetchApprovals env (.json payload) with
        | .error .googleDriveError | .error (.approvalsUnavailableError _) =>
          .ok ({}, unavailable)
        | .error e => .error e
        | .ok rawApprovals =>
          (rawApprovals.foldlM (syncRecord env policyVersionId request.now)
            (db.existingHashes policyVersionId, [])).map fun s => conclusion s.2 := by
  obtain ⟨policy, fileId, version, accessToken, hpolicy, hfile, hne, hversion, htoken, hanswer⟩ :=
    h.policy
  refine ⟨conclude request policy policyVersionId version, conclude_spec _ _ _,
    ⟨request.policyId, "Approval data unavailable.", "error"⟩, ?_⟩
  simp only [syncDriveApprovals, hpolicy, hfile, hne, hversion, Service.rawApprovals, htoken,
    hanswer]
  rfl

/-- The route ends in a redirect if the answer can be read. -/
theorem syncDriveApprovals_of_readable (h : Reaches service request db policyVersionId payload)
    (hloads : env.loads payload) (hobject : IsObject payload)
    (hrecords : ∀ raw ∈ recordsOf payload, ReadableRecord env raw) :
    ∃ flash auditEvents,
      syncDriveApprovals env service request db =
        .ok (⟨newSnapshots env policyVersionId request.now db payload, auditEvents⟩, flash) ∧
      (newSnapshots env policyVersionId request.now db payload = [] → auditEvents = []) := by
  obtain ⟨conclusion, hconclusion, unavailable, hsync⟩ := syncDriveApprovals_of_reaches env h
  rw [hsync]
  -- The list is there, or is answered as unavailable and has no record.
  rcases fetchApprovals_json env payload with
    ⟨-, -, hfetch | ⟨hnone, message, hfetch⟩⟩ | ⟨hnot, -⟩
  · rw [hfetch]
    simp only
    rw [foldlM_syncRecord_eq_ok_iff.2 ⟨hrecords, rfl⟩]
    obtain ⟨flash, auditEvents, heq, hnil⟩ :=
      hconclusion (newSnapshots env policyVersionId request.now db payload)
    refine ⟨flash, auditEvents, ?_, hnil⟩
    rw [← heq]
    rfl
  · refine ⟨unavailable, [], ?_, fun _ => rfl⟩
    rw [hfetch, newSnapshots, hnone]
    rfl
  · exact absurd ⟨hloads, hobject⟩ hnot

/-- The route ends in a redirect only if the answer can be read. -/
theorem readable_of_syncDriveApprovals (h : Reaches service request db policyVersionId payload)
    {result : Added × Flash} (hok : syncDriveApprovals env service request db = .ok result) :
    env.loads payload ∧ IsObject payload ∧
      ∀ raw ∈ recordsOf payload, ReadableRecord env raw := by
  obtain ⟨conclusion, -, unavailable, hsync⟩ := syncDriveApprovals_of_reaches env h
  rw [hsync] at hok
  -- An answer that raises is not readable.
  rcases fetchApprovals_json env payload with
    ⟨hloads, hobject, hfetch | ⟨hnone, -⟩⟩ | ⟨-, e, hfetch, huncaught, hne⟩
  · rw [hfetch] at hok
    simp only at hok
    cases hloop : (recordsOf payload).foldlM (syncRecord env policyVersionId request.now)
        (db.existingHashes policyVersionId, []) with
    | ok s => exact ⟨hloads, hobject, (foldlM_syncRecord_eq_ok_iff.1 hloop).1⟩
    | error e =>
      rw [hloop] at hok
      cases hok
  · exact ⟨hloads, hobject, fun raw hraw => by rw [hnone] at hraw; cases hraw⟩
  · rw [hfetch] at hok
    cases e with
    | googleDriveError => exact absurd rfl hne
    | approvalsUnavailableError message => exact absurd rfl (huncaught message)
    | _ => cases hok

/-- A request goes through if the route does and the database takes the rows. -/
theorem handle_eq_ok_iff {db' : Database} {flash : Flash} :
    handle env service request db = (db', .ok flash) ↔
      ∃ added, syncDriveApprovals env service request db = .ok (added, flash) ∧
        (∀ snapshot ∈ added.approvalSnapshots, env.accepts snapshot) ∧ db' = db.add added := by
  unfold handle
  cases syncDriveApprovals env service request db with
  | error e => simp
  | ok result =>
    obtain ⟨added, flash'⟩ := result
    -- The database may refuse a snapshot.
    by_cases haccepts : added.approvalSnapshots.all env.accepts
    · have hall := List.all_eq_true.1 haccepts
      simp only [haccepts, if_true, Prod.mk.injEq, Except.ok.injEq]
      constructor
      · rintro ⟨rfl, rfl⟩
        exact ⟨added, ⟨rfl, rfl⟩, hall, rfl⟩
      · rintro ⟨_, ⟨rfl, rfl⟩, -, rfl⟩
        exact ⟨rfl, rfl⟩
    · simp only [haccepts]
      constructor
      · intro h
        cases h
      · rintro ⟨_, h, hall, -⟩
        cases h
        exact absurd (List.all_eq_true.2 hall) haccepts

/-- The pairs after rows have been added to a version. -/
theorem existingHashes_add {added : Added}
    (h : ∀ snapshot ∈ added.approvalSnapshots, snapshot.policyVersionId = policyVersionId) :
    (db.add added).existingHashes policyVersionId =
      db.existingHashes policyVersionId ++
        added.approvalSnapshots.map PolicyApprovalSnapshot.key := by
  have hfilter : (added.approvalSnapshots.filter fun snapshot =>
      snapshot.policyVersionId = policyVersionId) = added.approvalSnapshots :=
    List.filter_eq_self.2 fun snapshot hs => by simpa using h snapshot hs
  simp [Database.existingHashes, Database.add, hfilter]

/-- The rows that are added have the pairs of their records. -/
theorem map_key_newSnapshots : (newSnapshots env policyVersionId now db payload).map
    PolicyApprovalSnapshot.key =
      (newRecords env (db.existingHashes policyVersionId) (recordsOf payload)).map (key env) := by
  rw [newSnapshots, List.map_map]
  rfl

/-- The new snapshots are of the version. -/
theorem policyVersionId_of_mem_newSnapshots {snapshot : PolicyApprovalSnapshot}
    (h : snapshot ∈ newSnapshots env policyVersionId now db payload) :
    snapshot.policyVersionId = policyVersionId := by
  obtain ⟨raw, -, rfl⟩ := List.mem_map.1 h
  rfl

/-- The conditions on an answer under which its rows are accepted. -/
theorem accepts_newSnapshots_iff :
    (∀ snapshot ∈ newSnapshots env policyVersionId now db payload, env.accepts snapshot) ↔
      ∀ before raw after, recordsOf payload = before ++ raw :: after → CarriesId env raw →
        key env raw ∉ db.existingHashes policyVersionId →
          (∀ x ∈ before, CarriesId env x → key env x ≠ key env raw) →
            env.accepts (row env policyVersionId now raw) := by
  rw [newSnapshots, List.forall_mem_map]
  constructor
  · intro h before raw after hsplit hcarries hkey hbefore
    exact h raw (mem_newRecords_iff.2 ⟨before, after, hsplit, hcarries, hkey, hbefore⟩)
  · intro h raw hraw
    obtain ⟨before, after, hsplit, hcarries, hkey, hbefore⟩ := mem_newRecords_iff.1 hraw
    exact h before raw after hsplit hcarries hkey hbefore

/-- A synchronization after one of the same answer adds nothing. -/
theorem handle_again (h : Reaches service request db policyVersionId payload)
    (hreadable : ReadableAnswer env policyVersionId now (db.existingHashes policyVersionId) payload)
    {later : Request} (hlater : later.policyId = request.policyId) (auditEvents : List AuditEvent) :
    let db' := db.add ⟨newSnapshots env policyVersionId now db payload, auditEvents⟩
    ∃ flash, handle env service later db' = (db', .ok flash) := by
  intro db'
  have hreaches : Reaches service later db' policyVersionId payload := by
    obtain ⟨policy, fileId, version, accessToken, h⟩ := h.policy
    refine ⟨policy, fileId, version, accessToken, ?_⟩
    rw [hlater]
    exact h
  have hnone : newSnapshots env policyVersionId later.now db' payload = [] := by
    rw [newSnapshots, existingHashes_add fun _ => policyVersionId_of_mem_newSnapshots,
      map_key_newSnapshots, newRecords_again]
    rfl
  obtain ⟨flash, auditEvents', hsync, hnil⟩ := syncDriveApprovals_of_readable hreaches
    hreadable.loads hreadable.isObject hreadable.records
  rw [hnone, hnil hnone] at hsync
  refine ⟨flash, handle_eq_ok_iff.2 ⟨_, hsync, fun _ hs => absurd hs List.not_mem_nil, ?_⟩⟩
  simp [Database.add, db']

/-- A synchronization does what it should exactly if the answer can be read. -/
theorem synced_iff_readable (h : Reaches service request db policyVersionId payload) :
    Synced env service request db policyVersionId payload ↔
      ReadableAnswer env policyVersionId request.now (db.existingHashes policyVersionId)
        payload := by
  constructor
  · rintro ⟨db', flash, -, hhandle, -⟩
    obtain ⟨added, hsync, haccepts, -⟩ := handle_eq_ok_iff.1 hhandle
    obtain ⟨hloads, hobject, hrecords⟩ := readable_of_syncDriveApprovals h hsync
    obtain ⟨flash', auditEvents, hsync', -⟩ :=
      syncDriveApprovals_of_readable h hloads hobject hrecords
    obtain ⟨rfl, -⟩ := Prod.mk.inj (Except.ok.inj (hsync.symm.trans hsync'))
    exact ⟨hloads, hobject, hrecords, accepts_newSnapshots_iff.1 haccepts⟩
  · intro hreadable
    obtain ⟨flash, auditEvents, hsync, -⟩ :=
      syncDriveApprovals_of_readable h hreadable.loads hreadable.isObject hreadable.records
    have haccepts := accepts_newSnapshots_iff.2 hreadable.accepts
    refine ⟨_, flash, _, handle_eq_ok_iff.2 ⟨_, hsync, haccepts, rfl⟩, rfl, rfl, rfl,
      fun _ => policyVersionId_of_mem_newSnapshots, ?_, fun k => ?_,
      fun later hlater => handle_again h hreadable hlater auditEvents⟩
    · rw [map_key_newSnapshots]
      exact List.nodup_map_firstBy
    · rw [map_key_newSnapshots]
      exact mem_map_newRecords_iff

/-! ## The payload hash -/

/-- The payload hash does not depend on the order of the fields. -/
theorem payloadHash_perm {fields fields' : JsonDict} (h : fields.Perm fields')
    (hkeys : (fields.map Prod.fst).Nodup) :
    payloadHash env (.dict fields) = payloadHash env (.dict fields') := by
  have hmap : ∀ l : JsonDict, Json.sortFields l = l.map Json.sortField := by
    intro l
    induction l with
    | nil => rfl
    | cons x l ih => rw [Json.sortFields, ih, List.map_cons]
  have hperm : (Json.sortFields fields).Perm (Json.sortFields fields') := by
    rw [hmap, hmap]
    exact h.map _
  have hnodup : ((Json.sortFields fields).map Prod.fst).Nodup := by
    have hfst : Prod.fst ∘ Json.sortField = Prod.fst := funext fun ⟨_, _⟩ => rfl
    rw [hmap, List.map_map, hfst]
    exact hkeys
  have : IsTrans (String × Json) fun x y => x.1 ≤ y.1 := ⟨fun _ _ _ => String.le_trans⟩
  have : Std.Total fun x y : String × Json => x.1 ≤ y.1 :=
    ⟨fun x y => String.le_total x.1 y.1⟩
  have hsorted : (Json.sortFields fields).insertionSort (fun x y => x.1 ≤ y.1) =
      (Json.sortFields fields').insertionSort fun x y => x.1 ≤ y.1 := by
    refine List.Perm.eq_of_pairwise ?_ (List.pairwise_insertionSort _ _)
      (List.pairwise_insertionSort _ _) (((List.perm_insertionSort _ _).trans hperm).trans
        (List.perm_insertionSort _ _).symm)
    intro x y hx hy hxy hyx
    -- there is one field of each key
    refine List.inj_on_of_nodup_map hnodup ((List.mem_insertionSort _).1 hx) ?_
      (String.le_antisymm hxy hyx)
    exact hperm.mem_iff.2 ((List.mem_insertionSort _).1 hy)
  rw [payloadHash, payloadHash, Json.sortedDumps, Json.sortedDumps, Json.sortKeys, Json.sortKeys,
    hsorted]

/-! ## Two answers -/

/-- An approval that is in order. -/
def plainApproval : Json := .dict [("approvalId", .str "approval-1"), ("state", .str "approved")]

/-- An interpreter without a limit and a database that takes every row; SHA-256 is that of
    `plainApproval`. -/
def plainEnvironment : Environment where
  reprString := pyRepr
  sha256 _ := "e32ef708563dd8ab62d51d4c2f23ee4c5b3251da7b43bfd188aa012861939308"
  fromisoformat _ := none
  loads _ := true
  dumps _ := true
  str _ := true
  accepts _ := true

/-- A connection, and an endpoint with an answer. -/
def answering (payload : Json) : Service where
  accessToken := some "ya29.token"
  endpoint _ _ := .json payload

/-- A policy with a captured version. -/
def capturedPolicy : Database where
  policies := (∅ : Table Policy).insert 1 ⟨"Security Policy", some "1AbCdEf"⟩
  policyVersions := (∅ : Table PolicyVersion).insert 2 ⟨1, 1⟩
  approvalSnapshots := []
  auditEvents := []

/-- The sample request reaches the service. -/
theorem reaches_capturedPolicy (payload : Json) :
    Reaches (answering payload) ⟨1, "admin@example.com", 0⟩ capturedPolicy 2 payload :=
  ⟨⟨"Security Policy", some "1AbCdEf"⟩, "1AbCdEf", ⟨1, 1⟩, "ya29.token",
    Table.get_insert_self, rfl, by decide, rfl, rfl, rfl⟩

/-- The sample answer is readable. -/
theorem readableAnswer_plainApproval : ReadableAnswer plainEnvironment 2 0 []
    (.dict [("approvals", .list [plainApproval])]) where
  loads := rfl
  isObject := trivial
  records := by
    intro raw hraw
    obtain rfl := List.mem_singleton.1 hraw
    exact ⟨trivial, rfl, fun _ => ⟨trivial, rfl, rfl, rfl, rfl⟩⟩
  accepts _ _ _ _ _ _ _ := rfl

/-- The sample answer is synced. -/
theorem synced_iff_readable_plainApproval :
    Synced plainEnvironment (answering (.dict [("approvals", .list [plainApproval])]))
      ⟨1, "admin@example.com", 0⟩ capturedPolicy 2 (.dict [("approvals", .list [plainApproval])]) :=
  (synced_iff_readable (reaches_capturedPolicy _)).2 readableAnswer_plainApproval

/-- An answer that is a list has no `get`. -/
theorem not_synced_of_list :
    Reaches (answering (.list [])) ⟨1, "admin@example.com", 0⟩ capturedPolicy 2 (.list []) ∧
      ¬ Synced plainEnvironment (answering (.list [])) ⟨1, "admin@example.com", 0⟩
        capturedPolicy 2 (.list []) := by
  refine ⟨reaches_capturedPolicy _, ?_⟩
  rintro ⟨db', flash, -, hhandle, -⟩
  obtain ⟨added, hsync, -, -⟩ := handle_eq_ok_iff.1 hhandle
  exact (readable_of_syncDriveApprovals (reaches_capturedPolicy _) hsync).2.1

end MiniGrc.DriveApprovals
