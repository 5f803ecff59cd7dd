import MiniGrc.App.Dates
import MiniGrc.App.PolicyUploads
import MiniGrc.App.VersionLifecycle

/-!
# Policies and the public trust center

`app/routers/policies.py`, `app/trust_center.py` with its admin router and the grid of its
sections, and the download of `app/routers/trust_center_public.py`, one request after the
other. `get_db` commits at the end of a request that does not raise and rolls back after one
that does; the files of a request that is rolled back stay.

A request that fails without a trace (the user may not make it, the form is refused, Drive
does not answer) changes nothing and is left out, as is what no function here reads: the
audit events, the links to frameworks, and the columns that describe the Drive file.
-/

namespace MiniGrc.TrustCenter

open Events PolicyStorage VersionLifecycle
open PolicyUploads (DriveSource Reach)

/-! ## Rows -/

/-- A row of `policy_versions` with all its columns; the key is its `id`. -/
structure PolicyVersion extends PolicyUploads.PolicyVersion, LifecycleColumns
  deriving DecidableEq, Repr

instance : VersionRow PolicyVersion where
  parentId v := v.policyId
  versionNumber v := v.versionNumber
  columns := PolicyVersion.toLifecycleColumns
  setColumns v c := { v with toLifecycleColumns := c }
  parentId_setColumns _ _ := rfl
  versionNumber_setColumns _ _ := rfl
  columns_setColumns _ _ := rfl
  setColumns_columns _ := rfl
  setColumns_setColumns _ _ _ := rfl

/-- The aggregate type `policy_version`, over these rows. -/
def projection : VersionProjection PolicyVersion LifecycleEvent where
  flush := flush
  project rows event := VersionLifecycle.project rows event event.body
  reset rows := flush (rows.mapRows fun v => { v with toLifecycleColumns := {} })
  body := id
  lifecycleEvent := some

/-- A session on the versions. -/
abbrev VersionSession := Session (Tracked PolicyVersion) LifecycleEvent

/-- `POLICY_STATUSES`. -/
inductive PolicyStatus
  | draft
  | approved
  | retired
  deriving DecidableEq, Repr

/-- The status that a form's text names. -/
def PolicyStatus.parse (status : String) : Option PolicyStatus :=
  if status = "draft" then some .draft
  else if status = "approved" then some .approved
  else if status = "retired" then some .retired
  else none

/-- A row of `policies`; the key is its `id`. -/
structure Policy where
  title : String
  description : String
  owner : String
  status : PolicyStatus
  effectiveDate : Option Date
  nextReviewDate : Option Date
  driveFileId : Option String := none

/-- The row of `trust_center_settings`. -/
structure TrustCenterSettings where
  enabled : Bool := false
  title : String := "Trust Center"
  introMarkdown : String := ""
  contactEmail : String := ""
  supportUrl : String := ""
  updatedByUserId : Option Id := none

/-- `TRUST_CENTER_SECTION_VISIBILITY`. -/
inductive SectionVisibility
  | public_
  | restricted
  | internal
  deriving DecidableEq, Repr

/-- `TRUST_CENTER_SECTION_STATUSES`. -/
inductive SectionStatus
  | draft
  | published
  deriving DecidableEq, Repr

/-- A row of `trust_center_sections`; the key is its `id`. -/
structure TrustCenterSection where
  title : String
  visibility : SectionVisibility := .internal
  status : SectionStatus := .draft
  displayOrder : Int := 0
  draftBodyMarkdown : String := ""
  publishedBodyMarkdown : Option String := none
  publishedAt : Option Time := none
  publishedByUserId : Option Id := none
  reviewDate : Option Date := none
  expiryDate : Option Date := none
  linkedPolicyId : Option Id := none
  updatedAt : Time
  deriving DecidableEq, Repr

/-- The tables and the files. -/
structure State where
  versions : VersionSession
  policies : Table Policy
  settings : Option TrustCenterSettings
  sections : Table TrustCenterSection
  files : Files

/-- A new deployment. -/
def State.initial : State where
  versions := ⟨Tracked.clean ∅, [], 0⟩
  policies := ∅
  settings := none
  sections := ∅
  files := FileTree.empty

variable (clock : Clock) (storage : Storage) (s : State)

/-! ## `app/routers/policies.py` -/

/-- `policy.latest_version`. -/
def latestVersion (policyId : Id) : Option (Id × PolicyVersion) :=
  (versionsOf s.versions policyId).head?

/-- `policy.effective_version`. -/
def effectiveVersion (policyId : Id) : Option (Id × PolicyVersion) :=
  (versionsOf s.versions policyId).find? fun x => x.2.lifecycleStatus = .effective

/-- `latest_version.version_number + 1`, or `1`. -/
def nextVersionNumber (policyId : Id) : Nat :=
  match latestVersion s policyId with
  | some latest => latest.2.versionNumber + 1
  | none => 1

/-- The insert of a version under a fresh `new_id()`; `created_at` defaults to the clock. -/
def insertVersion (id : Id) (row : Time → PolicyUploads.PolicyVersion) (v : VersionSession) :
    Outcome VersionSession :=
  if id ∈ v.rows.current then .raised v .integrityError
  else .returned { v with
    rows := v.rows.set id ⟨row (clock.reading v.ticks), {}⟩
    ticks := v.ticks + 1 }

/-- Store the file of a new version and insert its row: the files after that, and the
    committed versions unless the request is refused or fails. -/
def storeVersion (request : PolicyUploads.Request) (versionNumber : Nat) (id : Id) (reach : Reach) :
    Files × Option VersionSession :=
  match stage storage request.filename request.chunks with
  | .error _ => (s.files, none)
  | .ok staged =>
    if reach = .staging then (s.files, none)
    else if (s.files.file (request.policyId, versionNumber) staged.storedFilename).isSome then
      (s.files, none)
    else
      let files :=
        s.files.put (request.policyId, versionNumber) staged.storedFilename staged.content
      if reach = .storing then (files, none)
      else
        match (insertVersion clock id (request.row versionNumber (staged.stored storage))
          s.versions).andThen (flushSession projection.toProjection) with
        | .raised _ _ => (files, none)
        | .returned versions => (files, some versions)

/-- The form of a policy; the dates are what `_parse_date` makes of them. -/
structure PolicyForm where
  title : String
  description : String := ""
  owner : String := ""
  status : String := "draft"
  effectiveDate : Option Date := none
  nextReviewDate : Option Date := none

/-- The file of `create_policy`, with its change note. -/
structure NewFile where
  filename : String
  chunks : List Bytes
  changeNote : String := ""
  versionId : Id

/-- The row of `create_policy`. -/
def PolicyForm.policy (form : PolicyForm) : Policy where
  title := stripText form.title
  description := form.description
  owner := form.owner
  status := (PolicyStatus.parse form.status).getD .draft
  effectiveDate := form.effectiveDate
  nextReviewDate := form.nextReviewDate

/-- `create_policy`. -/
def createPolicy (id : Id) (form : PolicyForm) (file : Option NewFile) (user : String)
    (reach : Reach) : State :=
  if isBlank form.title ∨ id ∈ s.policies then s
  else
    let created := { s with policies := s.policies.insert id form.policy }
    match file with
    | none => created
    | some file =>
      let request : PolicyUploads.Request := {
        policyId := id
        filename := file.filename
        chunks := file.chunks
        user := user
        changeNote := file.changeNote }
      match storeVersion clock storage s request 1 file.versionId reach with
      | (files, none) => { s with files := files }
      | (files, some versions) => { created with files := files, versions := versions }

/-- `update_policy`. -/
def updatePolicy (policyId : Id) (form : PolicyForm) : State :=
  match s.policies[policyId]? with
  | none => s
  | some policy =>
    if isBlank form.title then s
    else
      { s with policies := s.policies.insert policyId { form.policy with
          status := (PolicyStatus.parse form.status).getD policy.status
          driveFileId := policy.driveFileId } }

/-- `upload_policy_version` and `capture_drive_version`. -/
def addVersion (request : PolicyUploads.Request) (id : Id) (reach : Reach) : State :=
  match s.policies[request.policyId]? with
  | none => s
  | some policy =>
    if request.drive.isSome ∧ policy.driveFileId = none then s
    else
      match storeVersion clock storage s request
        (nextVersionNumber s request.policyId) id reach with
      | (files, none) => { s with files := files }
      | (files, some versions) => { s with files := files, versions := versions }

/-- `retire_policy`. -/
def retirePolicy (policyId : Id) (userId : String) : State :=
  match s.policies[policyId]? with
  | none => s
  | some policy =>
    let retired := { s with
      policies := s.policies.insert policyId { policy with status := .retired } }
    match effectiveVersion s policyId with
    | none => retired
    | some effective =>
      match (withdrawVersion projection clock s.versions effective.1 { actorId := some userId }
        "Policy retired" none).andThen (flushSession projection.toProjection) with
      | .raised _ _ => s
      | .returned versions => { retired with versions := versions }

/-- `link_drive_file`, for a file that Drive knows. -/
def linkDriveFile (policyId : Id) (fileId : String) : State :=
  match s.policies[policyId]? with
  | none => s
  | some policy =>
    { s with policies := s.policies.insert policyId { policy with driveFileId := some fileId } }

/-- The commands of the lifecycle. -/
inductive LifecycleCommand
  | submitForReview
  | reviewVersion (decision comment : String)
  | makeVersionEffective
  | withdrawVersion (reason : String)

/-- The command of a lifecycle route. -/
def LifecycleCommand.run (command : LifecycleCommand) (id : Id) (actor : Actor)
    (v : VersionSession) : Outcome VersionSession :=
  match command with
  | .submitForReview => VersionLifecycle.submitForReview projection clock v id actor
  | .reviewVersion decision comment =>
    VersionLifecycle.reviewVersion projection clock v id actor decision comment
  | .makeVersionEffective =>
    (VersionLifecycle.makeVersionEffective projection clock v id actor).andThen
      (flushSession projection.toProjection)
  | .withdrawVersion reason =>
    VersionLifecycle.withdrawVersion projection clock v id actor reason none

/-- The four lifecycle routes: the version has to be one of the policy. -/
def onVersion (policyId versionId : Id) (command : LifecycleCommand) (userId : String) : State :=
  match s.versions.rows.current[versionId]? with
  | none => s
  | some version =>
    if version.policyId ≠ policyId then s
    else
      let command := command.run clock versionId { actorId := some userId }
      { s with versions := MiniGrc.request projection.toProjection command s.versions }

/-! ## `app/trust_center.py` and the admin routers -/

/-- `get_or_create_settings`. -/
def getOrCreateSettings : TrustCenterSettings := s.settings.getD {}

/-- The form of `update_settings`. -/
structure SettingsForm where
  enabled : Bool
  title : String
  introMarkdown : String := ""
  contactEmail : String := ""
  supportUrl : String := ""

/-- `update_settings`. -/
def updateSettings (form : SettingsForm) (userId : Id) : State :=
  { s with settings := some { getOrCreateSettings s with
      enabled := form.enabled
      title := form.title
      introMarkdown := form.introMarkdown
      contactEmail := form.contactEmail
      supportUrl := form.supportUrl
      updatedByUserId := some userId } }

/-- The editable fields of the grid; those that are absent are `none`. -/
structure SectionFields where
  title : Option String := none
  visibility : Option SectionVisibility := none
  displayOrder : Option Int := none

/-- `_validate` of `SECTIONS_REGISTER_CONFIG`. -/
def SectionFields.valid (fields : SectionFields) : Bool :=
  fields.title.all fun title => isBlank title = false ∧ title.length ≤ 255

/-- Set the fields that are given. -/
def SectionFields.setOn (fields : SectionFields) (row : TrustCenterSection) : TrustCenterSection :=
  { row with
    title := fields.title.getD row.title
    visibility := fields.visibility.getD row.visibility
    displayOrder := fields.displayOrder.getD row.displayOrder }

/-- An update of a row; `onupdate` sets `updated_at` if something changes. -/
def writeSection (id : Id) (row row' : TrustCenterSection) (now : Time) : State :=
  { s with sections :=
      s.sections.insert id (if row' = row then row else { row' with updatedAt := now }) }

/-- `create_row` of the grid. -/
def createSection (id : Id) (fields : SectionFields) (now : Time) : State :=
  match fields.title with
  | none => s
  | some title =>
    if fields.valid = false ∨ id ∈ s.sections then s
    else { s with sections :=
      s.sections.insert id (fields.setOn { title := title, updatedAt := now }) }

/-- `update_row` of the grid. -/
def editSection (id : Id) (expectedUpdatedAt : Time) (fields : SectionFields) (now : Time) :
    State :=
  match s.sections[id]? with
  | none => s
  | some row =>
    if expectedUpdatedAt ≠ row.updatedAt ∨ fields.valid = false then s
    else writeSection s id row (fields.setOn row) now

/-- `bulk_update` of the grid: all of the updates, or none. -/
def editSections (updates : List (Id × Time × SectionFields)) (now : Time) : State :=
  if ∀ u ∈ updates, ∃ row ∈ s.sections[u.1]?, u.2.1 = row.updatedAt ∧ u.2.2.valid then
    updates.foldl (fun s' u =>
      match s'.sections[u.1]? with
      | none => s'
      | some row => writeSection s' u.1 row (u.2.2.setOn row) now) s
  else s

/-- `delete_row` of the grid. -/
def deleteSection (id : Id) : State := { s with sections := s.sections.erase id }

/-- The form of `update_section`; the dates are what `_parse_date` makes of them. -/
structure SectionForm where
  draftBodyMarkdown : String := ""
  reviewDate : Option Date := none
  expiryDate : Option Date := none
  linkedPolicyId : Option Id := none

/-- `update_section`; a policy that is not there violates the foreign key. -/
def updateSection (id : Id) (form : SectionForm) (now : Time) : State :=
  match s.sections[id]? with
  | none => s
  | some row =>
    if form.linkedPolicyId.any fun policyId => policyId ∉ s.policies then s
    else
      writeSection s id row { row with
        draftBodyMarkdown := form.draftBodyMarkdown
        reviewDate := form.reviewDate
        expiryDate := form.expiryDate
        linkedPolicyId := form.linkedPolicyId } now

/-- `publish_section`. -/
def publishSection (id : Id) (userId : Id) (now : Time) : State :=
  match s.sections[id]? with
  | none => s
  | some row =>
    writeSection s id row { row with
      publishedBodyMarkdown := some row.draftBodyMarkdown
      publishedAt := some now
      publishedByUserId := some userId
      status := .published } now

/-- `unpublish_section`. -/
def unpublishSection (id : Id) (now : Time) : State :=
  match s.sections[id]? with
  | none => s
  | some row => writeSection s id row { row with status := .draft } now

/-! ## `app/routers/trust_center_public.py` -/

/-- `_public_published_sections`. -/
def publicPublishedSections : List (Id × TrustCenterSection) :=
  (s.sections.toList.filter fun x =>
    x.2.visibility = .public_ ∧ x.2.status = .published).insertionSort
    fun x y => x.2.displayOrder ≤ y.2.displayOrder

/-- A `FileResponse`, without its headers. -/
structure FileResponse where
  content : Bytes
  mediaType : String
  filename : String
  deriving DecidableEq, Repr

/-- `public_policy_download`; `none` is the answer 404. The request raises if it has created
    the settings, because they are not enabled then, so it never changes anything. -/
def publicPolicyDownload (policyId : Id) : Option FileResponse :=
  if (getOrCreateSettings s).enabled = false then none
  else
    match s.policies[policyId]? with
    | none => none
    | some policy =>
      if policy.status ≠ .approved then none
      else if (publicPublishedSections s).any (fun x => x.2.linkedPolicyId = some policyId) = false
      then none
      else
        match latestVersion s policyId with
        | none => none
        | some version =>
          (s.files.file (policyId, version.2.versionNumber) version.2.storedFilename).map
            fun content => ⟨content, version.2.mediaType, version.2.originalFilename⟩

/-! ## Runs -/

/-- The requests, with what the environment contributes. -/
inductive Request
  | createPolicy (id : Id) (form : PolicyForm) (file : Option NewFile) (user : String)
      (reach : Reach)
  | updatePolicy (policyId : Id) (form : PolicyForm)
  | addVersion (request : PolicyUploads.Request) (id : Id) (reach : Reach)
  | retirePolicy (policyId : Id) (userId : String)
  | linkDriveFile (policyId : Id) (fileId : String)
  | onVersion (policyId versionId : Id) (command : LifecycleCommand) (userId : String)
  | updateSettings (form : SettingsForm) (userId : Id)
  | createSection (id : Id) (fields : SectionFields) (now : Time)
  | editSection (id : Id) (expectedUpdatedAt : Time) (fields : SectionFields) (now : Time)
  | editSections (updates : List (Id × Time × SectionFields)) (now : Time)
  | deleteSection (id : Id)
  | updateSection (id : Id) (form : SectionForm) (now : Time)
  | publishSection (id userId : Id) (now : Time)
  | unpublishSection (id : Id) (now : Time)

/-- The state after a request. -/
def Request.run : Request → State
  | .createPolicy id form file user reach =>
    TrustCenter.createPolicy clock storage s id form file user reach
  | .updatePolicy policyId form => TrustCenter.updatePolicy s policyId form
  | .addVersion request id reach => TrustCenter.addVersion clock storage s request id reach
  | .retirePolicy policyId userId => TrustCenter.retirePolicy clock s policyId userId
  | .linkDriveFile policyId fileId => TrustCenter.linkDriveFile s policyId fileId
  | .onVersion policyId versionId command userId =>
    TrustCenter.onVersion clock s policyId versionId command userId
  | .updateSettings form userId => TrustCenter.updateSettings s form userId
  | .createSection id fields now => TrustCenter.createSection s id fields now
  | .editSection id expectedUpdatedAt fields now =>
    TrustCenter.editSection s id expectedUpdatedAt fields now
  | .editSections updates now => TrustCenter.editSections s updates now
  | .deleteSection id => TrustCenter.deleteSection s id
  | .updateSection id form now => TrustCenter.updateSection s id form now
  | .publishSection id userId now => TrustCenter.publishSection s id userId now
  | .unpublishSection id now => TrustCenter.unpublishSection s id now

/-- One request. -/
def step (s : State) (r : Request) : Option State := some (r.run clock storage s)

end MiniGrc.TrustCenter
