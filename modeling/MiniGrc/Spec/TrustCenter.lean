import MiniGrc.App.TrustCenter
import MiniGrc.Spec.PolicyUploads
import MiniGrc.Spec.VersionCommands

/-!
# Downloads from the public trust center

What an unauthenticated download returns, in every state that requests lead to. The gate looks
at the settings, at the status of the policy and at the sections; the file is that of the
version with the highest number, whatever its lifecycle status.

## Key results

- `Inv.step`: the versions and their files, request by request
- `latestVersion_some`: the version that is served is the latest
- `download_latest`: what a download returns
-/

namespace MiniGrc.TrustCenter

open Events PolicyStorage VersionLifecycle
open PolicyUploads (Extends FileMatches Reach)

variable {clock : Clock} {storage : Storage} {s : State} {policyId : Id} {v : VersionSession}
  {files files' : Files}

/-! ## What a download has to be -/

/-- The center is enabled, and the policy is approved and linked from a public published
    section. -/
structure Released (s : State) (policyId : Id) : Prop where
  enabled : ∃ settings, s.settings = some settings ∧ settings.enabled
  approved : ∃ policy, s.policies[policyId]? = some policy ∧ policy.status = .approved
  linked : ∃ (id : Id) (row : TrustCenterSection), s.sections[id]? = some row ∧
    row.visibility = .public_ ∧ row.status = .published ∧ row.linkedPolicyId = some policyId

/-- The response has the file of a version of the policy, with the recorded hash and size. -/
structure Serves (storage : Storage) (s : State) (policyId : Id) (version : PolicyVersion)
    (response : FileResponse) : Prop where
  policyId : version.policyId = policyId
  content : s.files.file (version.policyId, version.versionNumber) version.storedFilename =
    some response.content
  sha256 : storage.sha256 response.content = version.sha256
  byteSize : response.content.length = version.byteSize
  mediaType : response.mediaType = version.mediaType
  filename : response.filename = version.originalFilename

/-- The version has the highest number of its policy. -/
def IsLatest (s : State) (id : Id) (version : PolicyVersion) : Prop :=
  s.versions.rows.current[id]? = some version ∧
    ∀ (id' : Id) version', s.versions.rows.current[id']? = some version' →
      version'.policyId = version.policyId → id' ≠ id →
      version'.versionNumber < version.versionNumber

/-! ## Sessions on the versions -/

/-- The files of the rows have the recorded hashes and sizes. -/
def FilesMatch (storage : Storage) (files : Files) (t : Table PolicyVersion) : Prop :=
  ∀ (k : Id) r, t[k]? = some r → FileMatches storage files r.toPolicyVersion

/-- In the midst of a request: what is written satisfies the constraints. -/
structure Pending (storage : Storage) (files : Files) (v : VersionSession) : Prop where
  holds : constraints.Holds v.rows.stored
  files : FilesMatch storage files v.rows.current

/-- Between requests nothing is held back. -/
structure Committed (storage : Storage) (files : Files) (v : VersionSession) : Prop where
  clean : v.rows = Tracked.clean v.rows.current
  holds : constraints.Holds v.rows.current
  files : FilesMatch storage files v.rows.current

/-- Files that match still match when files are added. -/
theorem FilesMatch.mono {t : Table PolicyVersion} (h : FilesMatch storage files t)
    (hext : Extends files files') : FilesMatch storage files' t :=
  fun k r hr => (h k r hr).mono hext

/-- What is committed stays while files are added. -/
theorem Committed.mono (h : Committed storage files v) (hext : Extends files files') :
    Committed storage files' v :=
  ⟨h.clean, h.holds, h.files.mono hext⟩

/-- What is committed has nothing pending. -/
theorem Committed.pending (h : Committed storage files v) : Pending storage files v where
  holds := by
    rw [h.clean]
    exact h.holds
  files := h.files

/-- A flush commits what is pending. -/
theorem flush_committed (h : Pending storage files v) :
    (flushSession projection.toProjection v).Returns (Committed storage files) := by
  unfold flushSession
  split
  · trivial
  · next hflush =>
    obtain ⟨rfl, hholds⟩ := flush_eq_ok h.holds hflush
    exact ⟨rfl, hholds, h.files⟩

/-- An event changes the lifecycle columns of one row. -/
theorem append_pending (h : Pending storage files v) (args : AppendArgs Id LifecycleEvent String) :
    (appendAndProject projection.toProjection clock v args).Returns (Pending storage files) := by
  unfold appendAndProject
  simp only
  split
  swap
  · exact h
  split
  · trivial
  next hflush =>
  obtain ⟨rfl, hholds⟩ := flush_eq_ok h.holds hflush
  split
  · trivial
  next hproject =>
  simp only [projection, VersionLifecycle.project] at hproject
  split at hproject
  · cases hproject
  next row hrow =>
  obtain rfl := Except.ok.inj hproject
  refine ⟨hholds, fun k r hr => ?_⟩
  rw [Tracked.set_current] at hr
  rcases Table.of_get_insert hr with ⟨rfl, rfl⟩ | hr
  · exact h.files _ row hrow
  · exact h.files k r hr

/-- The commands of the lifecycle only append and flush. -/
theorem LifecycleCommand.run_script (command : LifecycleCommand) (id : Id) (actor : Actor) :
    Script projection.toProjection clock v (command.run clock id actor v) := by
  cases command with
  | submitForReview => exact submitForReview_script
  | reviewVersion decision comment => exact reviewVersion_script
  | makeVersionEffective => exact .andThen makeVersionEffective_script fun v => .flush v
  | withdrawVersion reason => exact withdrawVersion_script

/-- A script leaves what it writes pending. -/
theorem Script.pending {o : Outcome VersionSession} (h : Script projection.toProjection clock v o)
    (hv : Pending storage files v) : o.Returns (Pending storage files) :=
  h.returns hv (fun _ args hpending => append_pending hpending args)
    fun _ hpending => (flush_committed hpending).mono fun _ hc => hc.pending

/-- A command and the commit. -/
theorem Script.committed {o : Outcome VersionSession}
    (h : Script projection.toProjection clock v o) (hv : Pending storage files v) :
    (o.andThen (flushSession projection.toProjection)).Returns (Committed storage files) :=
  (Script.pending h hv).andThen fun _ hpending => flush_committed hpending

/-- A request commits what it has written. -/
theorem request_committed {command : VersionSession → Outcome VersionSession}
    (h : Script projection.toProjection clock v (command v)) (hv : Committed storage files v) :
    Committed storage files (MiniGrc.request projection.toProjection command v) := by
  have hreturns := Script.committed h hv.pending
  unfold MiniGrc.request
  split
  · next heq =>
    rw [heq] at hreturns
    exact hreturns
  · exact hv

/-! ## New versions -/

variable (clock) in
/-- The insert of a row whose file is stored. -/
theorem insertVersion_pending (id : Id) {row : Time → PolicyUploads.PolicyVersion}
    (hv : Pending storage files v) (hrow : ∀ now, FileMatches storage files (row now)) :
    (insertVersion clock id row v).Returns (Pending storage files) := by
  unfold insertVersion
  split
  · trivial
  · refine ⟨hv.holds, fun k r hr => ?_⟩
    rw [Tracked.set_current, Table.get_insert] at hr
    split at hr
    · obtain rfl := Option.some.inj hr
      exact hrow _
    · exact hv.files k r hr

variable (clock) in
/-- No file is replaced, and the new row has the hash and the size of its file. -/
theorem storeVersion_committed (h : Committed storage s.files s.versions)
    (request : PolicyUploads.Request) (versionNumber : Nat) (id : Id) (reach : Reach) :
    Extends s.files (storeVersion clock storage s request versionNumber id reach).1 ∧
      ∀ versions ∈ (storeVersion clock storage s request versionNumber id reach).2,
        Committed storage (storeVersion clock storage s request versionNumber id reach).1
          versions := by
  have hsame : Extends s.files s.files := fun _ _ _ hfile => hfile
  unfold storeVersion
  -- Each refusal leaves the files, or one that no version names.
  split
  · exact ⟨hsame, fun _ hnone => by cases hnone⟩
  next staged hstage =>
  split
  · exact ⟨hsame, fun _ hnone => by cases hnone⟩
  split
  · exact ⟨hsame, fun _ hnone => by cases hnone⟩
  next hfree =>
  have hext : Extends s.files
      (s.files.put (request.policyId, versionNumber) staged.storedFilename staged.content) := by
    intro d n content hfile
    rw [FileTree.file_put, if_neg, hfile]
    rintro ⟨rfl, rfl⟩
    rw [hfile] at hfree
    exact hfree rfl
  simp only
  split
  · exact ⟨hext, fun _ hnone => by cases hnone⟩
  have hrow : ∀ now, FileMatches storage
      (s.files.put (request.policyId, versionNumber) staged.storedFilename staged.content)
      (request.row versionNumber (staged.stored storage) now) := by
    intro now
    obtain ⟨-, -, hsize⟩ := stage_ok hstage
    refine ⟨staged.content, ?_, ?_, ?_⟩ <;> unfold PolicyUploads.Request.row <;> split
    exacts [FileTree.file_put_self, FileTree.file_put_self, rfl, rfl, hsize.symm, hsize.symm]
  have hreturns := (insertVersion_pending clock id (h.mono hext).pending hrow).andThen
    fun _ hpending => flush_committed hpending
  split
  · exact ⟨hext, fun _ hnone => by cases hnone⟩
  · next heq =>
    rw [heq] at hreturns
    refine ⟨hext, fun versions hversions => ?_⟩
    obtain rfl := Option.some.inj hversions
    exact hreturns

/-! ## Requests -/

/-- What holds between requests. -/
def Inv (storage : Storage) (s : State) : Prop := Committed storage s.files s.versions

/-- Without versions there is nothing to match. -/
theorem inv_initial : Inv storage State.initial where
  clean := rfl
  holds := by decide
  files k r hr := by simp [State.initial] at hr

/-- Creating a policy keeps the files those of its versions. -/
theorem createPolicy_inv (h : Inv storage s) (id : Id) (form : PolicyForm) (file : Option NewFile)
    (user : String) (reach : Reach) :
    Inv storage (createPolicy clock storage s id form file user reach) := by
  unfold createPolicy
  -- Each refusal leaves the versions.
  split
  · exact h
  split
  · exact h
  next file =>
  obtain ⟨hext, hversions⟩ := storeVersion_committed clock h
    ⟨id, file.filename, file.chunks, user, file.changeNote, none⟩ 1 file.versionId reach
  simp only
  split <;> next heq =>
    rw [heq] at hext hversions
    first
    | exact h.mono hext
    | exact hversions _ rfl

/-- Adding a version keeps the files those of its versions. -/
theorem addVersion_inv (h : Inv storage s) (request : PolicyUploads.Request) (id : Id)
    (reach : Reach) : Inv storage (addVersion clock storage s request id reach) := by
  unfold addVersion
  split
  · exact h
  split
  · exact h
  obtain ⟨hext, hversions⟩ := storeVersion_committed clock h request
    (nextVersionNumber s request.policyId) id reach
  split
  · next heq =>
    rw [heq] at hext
    exact h.mono hext
  · next heq =>
    rw [heq] at hversions
    exact hversions _ rfl

/-- Retiring a policy keeps the files those of its versions. -/
theorem retirePolicy_inv (h : Inv storage s) (policyId : Id) (userId : String) :
    Inv storage (retirePolicy clock s policyId userId) := by
  unfold retirePolicy
  split
  · exact h
  simp only
  split
  · exact h
  next effective _ =>
  have hscript : Script projection.toProjection clock s.versions
      (withdrawVersion projection clock s.versions effective.1 { actorId := some userId }
        "Policy retired" none) := withdrawVersion_script
  have hreturns := Script.committed hscript h.pending
  split
  · exact h
  · next heq =>
    rw [heq] at hreturns
    exact hreturns

/-- A command on a version keeps the files those of its versions. -/
theorem onVersion_inv (h : Inv storage s) (policyId versionId : Id) (command : LifecycleCommand)
    (userId : String) : Inv storage (onVersion clock s policyId versionId command userId) := by
  unfold onVersion
  split
  · exact h
  split
  · exact h
  · exact request_committed (command.run_script versionId { actorId := some userId }) h

/-- A write of a section leaves versions and files alone. -/
theorem editSections_inv (h : Inv storage s) (updates : List (Id × Time × SectionFields))
    (now : Time) : Inv storage (editSections s updates now) := by
  unfold editSections
  split
  swap
  · exact h
  · clear * - h
    induction updates generalizing s with
    | nil => exact h
    | cons u updates ih =>
      rw [List.foldl_cons]
      refine ih ?_
      split <;> exact h

variable (clock) in
/-- Every request keeps the files those of their versions. -/
theorem Inv.run (h : Inv storage s) (r : Request) : Inv storage (r.run clock storage s) := by
  -- The requests on sections leave the versions.
  cases r with
  | createPolicy id form file user reach =>
    rw [Request.run]
    exact createPolicy_inv h id form file user reach
  | addVersion request id reach =>
    rw [Request.run]
    exact addVersion_inv h request id reach
  | retirePolicy policyId userId =>
    rw [Request.run]
    exact retirePolicy_inv h policyId userId
  | onVersion policyId versionId command userId =>
    rw [Request.run]
    exact onVersion_inv h policyId versionId command userId
  | editSections updates now =>
    rw [Request.run]
    exact editSections_inv h updates now
  | updateSettings | deleteSection => exact h
  | updatePolicy policyId form =>
    simp only [Request.run, updatePolicy]
    split <;> [exact h; (split <;> exact h)]
  | linkDriveFile policyId fileId =>
    simp only [Request.run, linkDriveFile]
    split <;> exact h
  | createSection id fields now =>
    simp only [Request.run, createSection]
    split <;> [exact h; (split <;> exact h)]
  | editSection id expectedUpdatedAt fields now =>
    simp only [Request.run, editSection]
    split <;> [exact h; (split <;> exact h)]
  | updateSection id form now =>
    simp only [Request.run, updateSection]
    split <;> [exact h; (split <;> exact h)]
  | publishSection id userId now =>
    simp only [Request.run, publishSection]
    split <;> exact h
  | unpublishSection id now =>
    simp only [Request.run, unpublishSection]
    split <;> exact h

/-! ## The download -/

/-- The version that `latest_version` gives has the highest number. -/
theorem latestVersion_some (h : Inv storage s) {x : Id × PolicyVersion}
    (hx : latestVersion s policyId = some x) : x.2.policyId = policyId ∧ IsLatest s x.1 x.2 := by
  obtain ⟨rest, hversions⟩ : ∃ rest, versionsOf s.versions policyId = x :: rest :=
    List.head?_eq_some_iff.1 hx
  have hsorted : (versionsOf s.versions policyId).Pairwise fun x y =>
      VersionRow.versionNumber y.2 ≤ VersionRow.versionNumber x.2 := versionsOf_sorted
  obtain ⟨hrow, hparent⟩ : s.versions.rows.current[x.1]? = some x.2 ∧
      VersionRow.parentId x.2 = policyId := mem_versionsOf.1 (by simp [hversions])
  refine ⟨hparent, hrow, fun k v hv hpolicy hne => ?_⟩
  have hmem : (k, v) ∈ versionsOf s.versions policyId :=
    mem_versionsOf.2 ⟨hv, hpolicy.trans hparent⟩
  rw [hversions] at hmem hsorted
  rcases List.mem_cons.1 hmem with rfl | hmem
  · exact absurd rfl hne
  have hle : v.versionNumber ≤ x.2.versionNumber := (List.pairwise_cons.1 hsorted).1 _ hmem
  -- two versions of the policy have different numbers
  have hconflict := ((Constraints.holds_iff.1 h.holds) k v hv).1 x.1 x.2 hrow (Ne.symm hne)
  simp only [constraints, decide_eq_false_iff_not, not_and, not_or] at hconflict
  have hnumber : v.versionNumber ≠ x.2.versionNumber := (hconflict hpolicy).1
  omega

/-- What the gate lets through. -/
theorem released_of_download {response : FileResponse}
    (h : publicPolicyDownload s policyId = some response) :
    Released s policyId ∧ ∃ x content, latestVersion s policyId = some x ∧
      s.files.file (policyId, x.2.versionNumber) x.2.storedFilename = some content ∧
      response = ⟨content, x.2.mediaType, x.2.originalFilename⟩ := by
  unfold publicPolicyDownload at h
  -- Each check that fails answers 404.
  split at h
  · cases h
  next henabled =>
  split at h
  · cases h
  next policy hpolicy =>
  split at h
  · cases h
  next hstatus =>
  split at h
  · cases h
  next hlinked =>
  split at h
  · cases h
  next x hx =>
  obtain ⟨content, hcontent, rfl⟩ := Option.map_eq_some_iff.1 h
  refine ⟨⟨?_, ⟨policy, hpolicy, Classical.not_not.1 hstatus⟩, ?_⟩, x, content, hx, hcontent, rfl⟩
  · cases hsettings : s.settings with
    | none => simp [getOrCreateSettings, hsettings] at henabled
    | some settings =>
      exact ⟨settings, rfl, by simpa [getOrCreateSettings, hsettings] using henabled⟩
  · rw [Bool.not_eq_false, List.any_eq_true] at hlinked
    obtain ⟨⟨id, row⟩, hmem, hpolicyId⟩ := hlinked
    rw [publicPublishedSections, List.mem_insertionSort, List.mem_filter, decide_eq_true_eq] at hmem
    obtain ⟨hrow, hpublic, hpublished⟩ := hmem
    exact ⟨id, row, Std.ExtTreeMap.mem_toList_iff_getElem?_eq_some.1 hrow, hpublic, hpublished,
      of_decide_eq_true hpolicyId⟩

/-- A download returns a file only if the center is enabled and the policy is approved and
    linked from a public published section, and the file is that of the policy's latest
    version. -/
theorem download_latest (h : Run (step clock storage) (fun _ _ => True) State.initial s)
    {response : FileResponse} (hdownload : publicPolicyDownload s policyId = some response) :
    Released s policyId ∧ ∃ id version, IsLatest s id version ∧
      Serves storage s policyId version response := by
  have hinv : Inv storage s := h.invariant inv_initial fun t r u ht _ hstep => by
    obtain rfl := Option.some.inj hstep
    exact ht.run clock r
  obtain ⟨hreleased, x, content, hx, hcontent, rfl⟩ := released_of_download hdownload
  obtain ⟨hpolicy, hlatest⟩ := latestVersion_some hinv hx
  refine ⟨hreleased, x.1, x.2, hlatest, ?_⟩
  obtain ⟨content', hfile, hsha256, hsize⟩ := hinv.files x.1 x.2 hlatest.1
  have hsame : s.files.file (x.2.policyId, x.2.versionNumber) x.2.storedFilename =
      some content' := hfile
  rw [← hpolicy, hsame] at hcontent
  obtain rfl := Option.some.inj hcontent
  exact ⟨hpolicy, hsame, hsha256, hsize, rfl, rfl⟩

/-! ### A draft of an approved policy -/

/-- The policy 5 is approved, its version 51 is made effective, and the section 8 links it;
    then the draft 52 is uploaded. -/
def draftUploaded : List Request :=
  [.createPolicy 5 { title := "Access", status := "approved" }
      (some { filename := "access.pdf", chunks := [[37, 80, 68, 70, 45, 49]], versionId := 51 })
      "ann@example.com" .complete,
    .onVersion 5 51 .submitForReview "1",
    .onVersion 5 51 (.reviewVersion "approved" "") "2",
    .onVersion 5 51 .makeVersionEffective "2",
    .updateSettings { enabled := true, title := "Trust Center" } 1,
    .createSection 8 { title := some "Policies", visibility := some .public_ } 7,
    .updateSection 8 { linkedPolicyId := some 5 } 8,
    .publishSection 8 1 9,
    .addVersion (PolicyUploads.sampleUpload "draft.pdf" [37, 80, 68, 70, 45, 49, 50]) 52 .complete]

/-- The download returns the draft, while the effective version is there. -/
theorem download_draft :
    ¬ ∀ (s : State) (policyId : Id) (response : FileResponse),
      Run (step tickingClock PolicyUploads.sampleStorage) (fun _ _ => True) State.initial s →
      publicPolicyDownload s policyId = some response →
      Released s policyId ∧ ∃ (id : Id) (version : PolicyVersion),
        s.versions.rows.current[id]? = some version ∧
        (version.lifecycleStatus = .approved ∨ version.lifecycleStatus = .effective) ∧
        Serves PolicyUploads.sampleStorage s policyId version response := by
  intro hall
  obtain ⟨s, hs, hversions, hdownload⟩ :
    ∃ s, Run.exec (step tickingClock PolicyUploads.sampleStorage) State.initial draftUploaded =
        some s ∧
      (∀ x ∈ s.versions.rows.current.toList, x.2.lifecycleStatus = .draft ∨
        x.2.lifecycleStatus = .effective ∧ x.2.byteSize = 6) ∧
      publicPolicyDownload s 5 =
        some ⟨[37, 80, 68, 70, 45, 49, 50], "application/pdf", "draft.pdf"⟩ :=
    ⟨_, rfl, by decide, rfl⟩
  obtain ⟨-, id, version, hrow, hstatus, hserves⟩ := hall s 5 _ (Run.of_exec_true _ hs) hdownload
  have hsize := hserves.byteSize
  obtain hdraft | ⟨-, heffective⟩ :=
    hversions (id, version) (Std.ExtTreeMap.mem_toList_iff_getElem?_eq_some.2 hrow)
  · rw [hdraft] at hstatus
    simp at hstatus
  · rw [heffective] at hsize
    cases hsize

/-- `download_latest` of the draft. -/
theorem download_latest_draft : ∃ (s : State) (response : FileResponse),
    publicPolicyDownload s 5 = some response ∧ Released s 5 ∧
      ∃ (id : Id) (version : PolicyVersion), IsLatest s id version ∧
        version.lifecycleStatus = .draft ∧
        Serves PolicyUploads.sampleStorage s 5 version response := by
  obtain ⟨s, hs, ⟨hversions, draft, hdraft, hnumber⟩, response, hdownload⟩ :
    ∃ s, Run.exec (step tickingClock PolicyUploads.sampleStorage) State.initial draftUploaded =
        some s ∧
      ((∀ x ∈ s.versions.rows.current.toList, x.2.policyId = 5 ∧
          (x.2.versionNumber = 1 ∨ x.2.lifecycleStatus = .draft)) ∧
        ∃ draft, s.versions.rows.current[52]? = some draft ∧ draft.versionNumber = 2) ∧
      ∃ response, publicPolicyDownload s 5 = some response :=
    ⟨_, rfl, ⟨by decide, _, rfl, rfl⟩, _, rfl⟩
  obtain ⟨hreleased, id, version, hlatest, hserves⟩ :=
    download_latest (Run.of_exec_true _ hs) hdownload
  refine ⟨s, response, hdownload, hreleased, id, version, hlatest, ?_, hserves⟩
  have hrows : ∀ (k : Id) r, s.versions.rows.current[k]? = some r → r.policyId = 5 ∧
      (r.versionNumber = 1 ∨ r.lifecycleStatus = .draft) := Table.forall_of_toList hversions
  refine (hrows id version hlatest.1).2.resolve_left fun hone => ?_
  -- the version 52 has a higher number
  have hpolicy : draft.policyId = version.policyId :=
    (hrows 52 draft hdraft).1.trans (hrows id version hlatest.1).1.symm
  by_cases hid : 52 = id
  · subst hid
    obtain rfl := Option.some.inj (hdraft.symm.trans hlatest.1)
    omega
  · have hlt := hlatest.2 52 draft hdraft hpolicy hid
    omega

end MiniGrc.TrustCenter
