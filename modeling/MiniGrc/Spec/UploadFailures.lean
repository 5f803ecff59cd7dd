import MiniGrc.Spec.PolicyUploads

/-!
# Uploads after a failed upload

A valid upload by itself succeeds exactly when the path of the next version is free for its
extension. The number of the next version comes from the rows, which a failed request leaves
as they are, but a request that gets as far as the rename leaves its file in that path.

## Key results

- `upload_created`: a valid upload to a free path
- `acceptsUploads_iff`: when all valid uploads go through
- `upload_unblocked_iff`: when they do after a request that has failed
- `upload_run`: a request by itself is a run of one session
-/

namespace MiniGrc.PolicyUploads

open PolicyStorage

variable {storage : Storage} {s : Store} {request : Request} {id : Id} {createdAt : Time}
  {reach : Reach} {file : Staged}

/-! ## A valid upload -/

/-- The next number is greater than those of the policy's versions. -/
theorem lt_nextVersionNumber {rows : Table PolicyVersion} {k : Nat} {r : PolicyVersion}
    (h : rows[k]? = some r) : r.versionNumber < nextVersionNumber rows r.policyId := by
  have hmem : r.versionNumber ∈ (((rows.toList.map Prod.snd).filter fun v =>
      v.policyId = r.policyId).map fun v => v.versionNumber) := by
    refine List.mem_map_of_mem (List.mem_filter.2 ⟨?_, decide_eq_true rfl⟩)
    exact List.mem_map_of_mem (Std.ExtTreeMap.mem_toList_iff_getElem?_eq_some.2 h)
  unfold nextVersionNumber
  split
  · next latest hmax =>
    exact Nat.lt_succ_of_le ((List.max?_eq_some_iff.1 hmax).2 _ hmem)
  · next hnone =>
    rw [List.max?_eq_none_iff] at hnone
    rw [hnone] at hmem
    cases hmem

@[simp] theorem row_policyId {n : Nat} {stored : StoredUpload} :
    (request.row n stored createdAt).policyId = request.policyId := by
  unfold Request.row
  split <;> rfl

@[simp] theorem row_versionNumber {n : Nat} {stored : StoredUpload} :
    (request.row n stored createdAt).versionNumber = n := by
  unfold Request.row
  split <;> rfl

/-- The unique constraint does not stand in the way of the next version. -/
theorem row_admits {rows : Table PolicyVersion} {stored : StoredUpload} :
    constraints.Admits rows id
      (request.row (nextVersionNumber rows request.policyId) stored createdAt) := by
  refine ⟨fun x hx _ => ?_, fun j hj => by cases hj⟩
  have hlt := lt_nextVersionNumber (Std.ExtTreeMap.mem_toList_iff_getElem?_eq_some.1 hx)
  simp only [constraints, row_policyId, row_versionNumber, decide_eq_false_iff_not]
  rintro ⟨hpolicy, hnumber⟩
  rw [← hpolicy, hnumber] at hlt
  exact Nat.lt_irrefl _ hlt

/-- The path of the next version of a policy for an extension. -/
def Store.nextFile (s : Store) (policyId : Id) (extension : String) : Option Bytes :=
  s.files.file (policyId, nextVersionNumber s.rows policyId) s!"document.{extension}"

/-- The store after a file has been put in the path of the next version. -/
def Store.putNext (s : Store) (policyId : Id) (file : Staged) : Store :=
  { s with
    files := s.files.put (policyId, nextVersionNumber s.rows policyId) file.storedFilename
      file.content }

/-- The row of the next version. -/
def Store.nextRow (s : Store) (storage : Storage) (request : Request) (file : Staged)
    (createdAt : Time) : PolicyVersion :=
  request.row (nextVersionNumber s.rows request.policyId) (file.stored storage) createdAt

variable (hstage : stage storage request.filename request.chunks = .ok file)

include hstage

/-- A valid upload to a path that is taken. -/
theorem upload_occupied (id : Id) (createdAt : Time) (reach : Reach)
    (htaken : s.nextFile request.policyId file.extension ≠ none) :
    (upload storage s request id createdAt reach).1 = s ∧
      ∀ v, (upload storage s request id createdAt reach).2 ≠ .created v := by
  have hsome := Option.isSome_iff_ne_none.2 htaken
  simp only [Store.nextFile] at hsome
  unfold upload
  simp only [hstage, Staged.storedFilename, hsome, if_true]
  split
  · exact ⟨rfl, fun v h => by cases h⟩
  · exact ⟨rfl, fun v h => by cases h⟩

/-- An upload that fails before the rename. -/
theorem upload_staging (id : Id) (createdAt : Time) :
    upload storage s request id createdAt .staging = (s, .raised) := by
  unfold upload
  rw [hstage]
  rfl

/-- An upload to a free path that fails after the rename. -/
theorem upload_storing (id : Id) (createdAt : Time)
    (hfree : s.nextFile request.policyId file.extension = none) :
    upload storage s request id createdAt .storing =
      (s.putNext request.policyId file, .raised) := by
  simp only [Store.nextFile] at hfree
  unfold upload
  simp only [hstage, Staged.storedFilename, hfree]
  rfl

/-- A valid upload to a free path. -/
theorem upload_created (id : Id) (createdAt : Time)
    (hfree : s.nextFile request.policyId file.extension = none) :
    upload storage s request id createdAt .complete =
      (⟨s.rows.insert id (s.nextRow storage request file createdAt),
          (s.putNext request.policyId file).files⟩,
        .created (s.nextRow storage request file createdAt)) := by
  simp only [Store.nextFile] at hfree
  unfold upload
  simp only [hstage, Staged.storedFilename, hfree]
  rw [if_neg (by decide), if_neg (by decide), if_neg]
  · rfl
  · rintro (h | h)
    · cases h
    · exact h row_admits

omit hstage

/-! ## Uploads to a policy -/

/-- Every valid upload to the policy is stored as the version with the number. -/
def AcceptsUploads (storage : Storage) (s : Store) (policyId : Id) (versionNumber : Nat) : Prop :=
  ∀ request id createdAt file, request.policyId = policyId →
    stage storage request.filename request.chunks = .ok file → s.rows[id]? = none →
    ∃ s' row, upload storage s request id createdAt .complete = (s', .created row) ∧
      row = request.row versionNumber (file.stored storage) createdAt ∧
      s'.rows = s.rows.insert id row ∧
      s'.files.file (policyId, versionNumber) row.storedFilename = some file.content

/-- There is a valid file with the extension. -/
def HasValid (storage : Storage) (extension : String) : Prop :=
  ∃ filename chunks file, stage storage filename chunks = .ok file ∧ file.extension = extension

/-- A staged file has one of the accepted extensions. -/
theorem extension_mem {filename : String} {chunks : List Bytes}
    (h : stage storage filename chunks = .ok file) : file.extension ∈ ["pdf", "docx"] := by
  obtain ⟨hmedia, -⟩ := stage_ok h
  rw [mediaTypeOf, allowedExtensions, List.lookup_cons, List.lookup_cons, List.lookup_nil] at hmedia
  split at hmedia
  · next hpdf => simp [beq_iff_eq.1 hpdf]
  split at hmedia
  · next hdocx => simp [beq_iff_eq.1 hdocx]
  · cases hmedia

/-- A table has room for another row. -/
theorem exists_unused_id (rows : Table PolicyVersion) : ∃ id : Id, rows[id]? = none := by
  obtain ⟨f, hf⟩ := OpenRows.exists_unused (OpenRows.closed rows : OpenRows Unit PolicyVersion)
  exact ⟨f 0, (hf 0).1⟩

/-- Valid uploads to a policy go through exactly when both paths of its next version are
    free. -/
theorem acceptsUploads_iff (hvalid : ∀ extension ∈ ["pdf", "docx"], HasValid storage extension)
    (policyId : Id) :
    AcceptsUploads storage s policyId (nextVersionNumber s.rows policyId) ↔
      ∀ extension ∈ ["pdf", "docx"], s.nextFile policyId extension = none := by
  constructor
  · intro haccepts extension hextension
    obtain ⟨filename, chunks, file, hvalid, rfl⟩ := hvalid extension hextension
    have hrequest : ∃ request : Request, request.policyId = policyId ∧
        stage storage request.filename request.chunks = .ok file :=
      ⟨⟨policyId, filename, chunks, "", "", none⟩, rfl, hvalid⟩
    obtain ⟨request, rfl, hstage⟩ := hrequest
    obtain ⟨id, hid⟩ := exists_unused_id s.rows
    obtain ⟨s', row, hcreated, -⟩ := haccepts request id 0 file rfl hstage hid
    by_contra htaken
    exact (upload_occupied hstage id 0 .complete htaken).2 row (congrArg Prod.snd hcreated)
  · rintro hfree request id createdAt file rfl hstage -
    refine ⟨_, _, upload_created hstage id createdAt (hfree _ (extension_mem hstage)), rfl, rfl, ?_⟩
    have hname : (s.nextRow storage request file createdAt).storedFilename =
        file.storedFilename := by
      unfold Store.nextRow Request.row
      split <;> rfl
    rw [hname]
    exact FileTree.file_put_self

/-! ## After a failed request -/

/-- A request that fails before the rename leaves everything as it is. -/
theorem upload_unchanged (h : ∀ file, stage storage request.filename request.chunks = .ok file →
      reach = .storing → s.nextFile request.policyId file.extension ≠ none)
    (hfails : ∀ v, (upload storage s request id createdAt reach).2 ≠ .created v) :
    (upload storage s request id createdAt reach).1 = s := by
  -- The upload stops at the staging, at the taken name, or where `reach` says.
  cases hstage : stage storage request.filename request.chunks with
  | error e =>
    unfold upload
    rw [hstage]
  | ok file =>
    by_cases htaken : s.nextFile request.policyId file.extension = none
    · cases reach with
      | staging => rw [upload_staging hstage]
      | storing => exact absurd htaken (h file hstage rfl)
      | complete =>
        rw [upload_created hstage id createdAt htaken] at hfails
        exact absurd rfl (hfails _)
    · exact (upload_occupied hstage id createdAt reach htaken).1

/-- After a request that fails at any point all valid uploads to its policy go through
    exactly when both paths of the next version were free and the request has not come as
    far as the rename. -/
theorem upload_unblocked_iff (hvalid : ∀ extension ∈ ["pdf", "docx"], HasValid storage extension)
    (hfails : ∀ v, (upload storage s request id createdAt reach).2 ≠ .created v) :
    AcceptsUploads storage (upload storage s request id createdAt reach).1 request.policyId
        (nextVersionNumber s.rows request.policyId) ↔
      (∀ extension ∈ ["pdf", "docx"], s.nextFile request.policyId extension = none) ∧
        ¬ (reach = .storing ∧
          ∃ file, stage storage request.filename request.chunks = .ok file) := by
  by_cases hplaced : ∃ file, stage storage request.filename request.chunks = .ok file ∧
    reach = .storing ∧ s.nextFile request.policyId file.extension = none
  · -- its own file is in the path of the next version
    obtain ⟨file, hstage, rfl, hfree⟩ := hplaced
    rw [upload_storing hstage id createdAt hfree]
    refine iff_of_false (fun haccepts => ?_) fun h => h.2 ⟨rfl, file, hstage⟩
    have hnext := (acceptsUploads_iff (s := s.putNext request.policyId file) hvalid _).1 haccepts
      file.extension (extension_mem hstage)
    cases FileTree.file_put_self.symm.trans hnext
  · have hoccupied : ∀ file, stage storage request.filename request.chunks = .ok file →
        reach = .storing → s.nextFile request.policyId file.extension ≠ none :=
      fun file hstage hreach hfree => hplaced ⟨file, hstage, hreach, hfree⟩
    rw [upload_unchanged hoccupied hfails, acceptsUploads_iff hvalid]
    refine (and_iff_left_of_imp ?_).symm
    rintro hfree ⟨hreach, file, hstage⟩
    exact hoccupied file hstage hreach (hfree _ (extension_mem hstage))

/-! ## A request as a run -/

section Run

variable {ι : Type} [DecidableEq ι] [Fintype ι] (i : ι)

omit [Fintype ι] in
theorem goto_goto {t : State ι} {pc pc' : Pc} : (t.goto i pc).goto i pc' = t.goto i pc' := by
  simp [State.goto]

omit [Fintype ι] in
/-- Rows that have been inserted by a session by itself are the committed ones. -/
theorem commit_closed (rows : Table PolicyVersion) (id : Id) (row : PolicyVersion) :
    (((OpenRows.closed rows : OpenRows ι PolicyVersion).write i id row).commit i).committed =
      rows.insert id row := by
  refine Table.ext fun k => ?_
  rw [OpenRows.get_commit, OpenRows.row, OpenRows.write_own_self, Table.get_insert]
  split <;> simp [OpenRows.closed]

omit [Fintype ι] in
theorem commit_closed_nothing (rows : Table PolicyVersion) :
    ((OpenRows.closed rows : OpenRows ι PolicyVersion).commit i).committed = rows :=
  OpenRows.visible_eq fun k => by simp [OpenRows.closed]

/-- The state is reached while nobody else does anything. -/
abbrev Alone (storage : Storage) (s : Store) (u : State ι) : Prop :=
  Run (step storage) (fun _ _ => True) (.initial s) u

theorem alone_numbered (request : Request) : Alone storage s ((State.initial s).goto i
    (.numbered request (nextVersionNumber s.rows request.policyId))) := by
  refine .tail (.request i request) .refl trivial ?_
  have hvisible : ((State.initial s : State ι).rows.visible i) = s.rows :=
    OpenRows.visible_eq fun k => by simp [State.initial, OpenRows.closed]
  rw [← hvisible]
  rfl

/-- A valid file is staged. -/
theorem alone_staged (hstage : stage storage request.filename request.chunks = .ok file) :
    Alone storage s ((State.initial s).goto i
      (.staged request (nextVersionNumber s.rows request.policyId) file)) := by
  refine .tail (.stage i) (alone_numbered i request) trivial ?_
  unfold step
  simp only [goto_pc_self, hstage, goto_goto]

/-- A free path is taken. -/
theorem alone_placed (hstage : stage storage request.filename request.chunks = .ok file)
    (hfree : s.nextFile request.policyId file.extension = none) :
    Alone storage s ((State.initial s).place i request
      (nextVersionNumber s.rows request.policyId) file) := by
  have hchecked : Alone storage s ((State.initial s).goto i
      (.checked request (nextVersionNumber s.rows request.policyId) file)) := by
    refine .tail (.check i) (alone_staged i hstage) trivial ?_
    have hnone : ((State.initial s).goto i
        (.staged request (nextVersionNumber s.rows request.policyId) file)).files.file
          (request.policyId, nextVersionNumber s.rows request.policyId) file.storedFilename =
            none := hfree
    unfold step
    simp only [goto_pc_self, hnone, goto_goto]
    rfl
  refine .tail (.replace i) hchecked trivial ?_
  unfold step
  simp only [goto_pc_self, State.place, goto_goto]
  rfl

/-- A session that has written no row ends with a rollback. -/
theorem alone_rollback {t : State ι} (h : Alone storage s t) (hrows : t.rows = .closed s.rows)
    (hpc : ∀ j, j ≠ i → t.pc j = .idle) : ∃ u : State ι, Alone storage s u ∧
      u.rows.committed = s.rows ∧ u.files = t.files ∧ ∀ j, u.pc j = .idle := by
  refine ⟨t.rollback i, .tail (.rollback i) h trivial rfl, ?_, rfl, fun j => ?_⟩
  · simp only [State.rollback, hrows, OpenRows.rollback_committed]
    rfl
  · by_cases hji : j = i
    · simp [State.rollback, hji]
    · simp [State.rollback, hji, hpc j hji]

/-- A session that has answered with an error message ends with a commit. -/
theorem alone_answered {t : State ι} {message : String}
    (h : Alone storage s (t.goto i (.answered message))) (hrows : t.rows = .closed s.rows)
    (hpc : ∀ j, j ≠ i → t.pc j = .idle) : ∃ u : State ι, Alone storage s u ∧
      u.rows.committed = s.rows ∧ u.files = t.files ∧ ∀ j, u.pc j = .idle := by
  refine ⟨(t.goto i (.answered message)).commit i, .tail (.commit i) h trivial ?_, ?_, rfl,
    fun j => ?_⟩
  · unfold step
    simp only [goto_pc_self]
  · simp only [State.commit, State.goto, hrows]
    exact commit_closed_nothing i s.rows
  · by_cases hji : j = i
    · simp [State.commit, hji]
    · simp [State.commit, hji, goto_pc_ne hji, hpc j hji]

omit [Fintype ι] in
theorem initial_pc_ne {pc : Pc} (j : ι) (hji : j ≠ i) :
    ((State.initial s).goto i pc).pc j = .idle := goto_pc_ne hji

/-- A request whose file is refused. -/
theorem upload_run_refused (i : ι) {e : UploadError}
    (hstage : stage storage request.filename request.chunks = .error e) : ∃ u : State ι,
    Alone storage s u ∧ u.rows.committed = s.rows ∧ u.files = s.files ∧ ∀ j, u.pc j = .idle := by
  cases e with
  | validation message =>
    have hanswered : Alone storage s ((State.initial s).goto i (.answered message)) := by
      refine .tail (.stage i) (alone_numbered i request) trivial ?_
      unfold step
      simp only [goto_pc_self, hstage, goto_goto]
    exact alone_answered i hanswered rfl fun j _ => rfl
  | exception => exact alone_rollback i (alone_numbered i request) rfl (initial_pc_ne i)

/-- A request that finds its path taken. -/
theorem upload_run_occupied (i : ι)
    (hstage : stage storage request.filename request.chunks = .ok file)
    (htaken : s.nextFile request.policyId file.extension ≠ none) : ∃ u : State ι,
    Alone storage s u ∧ u.rows.committed = s.rows ∧ u.files = s.files ∧ ∀ j, u.pc j = .idle := by
  have hsome : (((State.initial s).goto i
      (.staged request (nextVersionNumber s.rows request.policyId) file)).files.file
        (request.policyId, nextVersionNumber s.rows request.policyId) file.storedFilename).isSome :=
    Option.isSome_iff_ne_none.2 htaken
  have hanswered : Alone storage s ((State.initial s).goto i
      (.answered "This version already has a stored file.")) := by
    refine .tail (.check i) (alone_staged i hstage) trivial ?_
    unfold step
    simp only [goto_pc_self, hsome, goto_goto, if_true]
  exact alone_answered i hanswered rfl fun j _ => rfl

/-- A request that inserts its row. -/
theorem upload_run_created (i : ι) (hid : s.rows[id]? = none)
    (hstage : stage storage request.filename request.chunks = .ok file)
    (hfree : s.nextFile request.policyId file.extension = none) : ∃ u : State ι,
    Alone storage s u ∧
      u.rows.committed = s.rows.insert id (s.nextRow storage request file createdAt) ∧
      u.files = (s.putNext request.policyId file).files ∧ ∀ j, u.pc j = .idle := by
  let t : State ι := (State.initial s).place i request
    (nextVersionNumber s.rows request.policyId) file
  have hpc : t.pc i = .stored request (nextVersionNumber s.rows request.policyId) file :=
    Function.update_self ..
  have hunused : t.rows.Unused id := ⟨hid, fun j => by simp [t, State.place, State.goto,
    State.initial, OpenRows.closed]⟩
  let row := request.row (nextVersionNumber s.rows request.policyId) (file.stored storage) createdAt
  have hadmits : constraints.Admits t.rows.committed id row := row_admits
  have hwaits : ¬ t.rows.Waits i constraints.conflict row := by
    rintro ⟨j, -, x, hx, -⟩
    have hx := Std.ExtTreeMap.mem_toList_iff_getElem?_eq_some.1 hx
    simp [t, State.place, State.goto, State.initial, OpenRows.closed] at hx
  have hinserted : Alone storage s (t.insertRow i request
      (nextVersionNumber s.rows request.policyId) file id row) := by
    refine .tail (.insert i id createdAt) (alone_placed i hstage hfree) trivial ?_
    show step storage t (.insert i id createdAt) = _
    unfold step
    simp only [hpc]
    rw [if_neg (not_not.2 hunused), if_neg (not_not.2 hadmits), if_neg hwaits]
  refine ⟨(t.insertRow i request (nextVersionNumber s.rows request.policyId) file id row).commit i,
    .tail (.commit i) hinserted trivial ?_, commit_closed i s.rows id row, rfl, fun j => ?_⟩
  · have hpc' :
        (t.insertRow i request (nextVersionNumber s.rows request.policyId) file id row).pc i =
          .inserted request (nextVersionNumber s.rows request.policyId) file := goto_pc_self
    unfold step
    simp only [hpc']
  · by_cases hji : j = i
    · simp [State.commit, hji]
    · simp [State.commit, State.insertRow, t, State.place, hji, goto_pc_ne hji, State.initial]

/-- A request by itself is a run of one session. -/
theorem upload_run (i : ι) (hid : s.rows[id]? = none) : ∃ u : State ι, Alone storage s u ∧
    u.rows.committed = (upload storage s request id createdAt reach).1.rows ∧
      u.files = (upload storage s request id createdAt reach).1.files ∧ ∀ j, u.pc j = .idle := by
  -- One run for each way in which the upload can end.
  cases hstage : stage storage request.filename request.chunks with
  | error e =>
    have hunchanged : (upload storage s request id createdAt reach).1 = s := by
      unfold upload
      rw [hstage]
    rw [hunchanged]
    exact upload_run_refused i hstage
  | ok file =>
    by_cases htaken : s.nextFile request.policyId file.extension = none
    · cases reach with
      | staging =>
        rw [upload_staging hstage]
        exact alone_rollback i (alone_staged i hstage) rfl (initial_pc_ne i)
      | storing =>
        rw [upload_storing hstage id createdAt htaken]
        exact alone_rollback i (alone_placed i hstage htaken) rfl (initial_pc_ne i)
      | complete =>
        rw [upload_created hstage id createdAt htaken]
        exact upload_run_created i hid hstage htaken
    · rw [(upload_occupied hstage id createdAt reach htaken).1]
      exact upload_run_occupied i hstage htaken

end Run

/-! ### A commit that fails -/

/-- What is staged for a sample. -/
def sampleStaged (content : Bytes) : Staged :=
  ⟨"policy.pdf", "pdf", "application/pdf", content, content.length⟩

theorem stage_samplePdf : stage sampleStorage "policy.pdf" [[37, 80, 68, 70, 45, 49]] =
    .ok (sampleStaged [37, 80, 68, 70, 45, 49]) := rfl

theorem stage_sampleDocx : ∃ file, stage sampleStorage "policy.docx" [sampleDocx] = .ok file ∧
    file.extension = "docx" := by
  have hzip : sampleStorage.zipFile [sampleDocx].flatten =
      .names ["[Content_Types].xml", "word/document.xml"] := by
    simp [sampleStorage]
  refine ⟨_, stage_eq_ok rfl ?_ ?_, rfl⟩
  · simp [sampleDocx, centralEntry, sampleStorage]
  · show validateContent sampleStorage [sampleDocx].flatten "docx" = .ok ()
    unfold validateContent looksLikeDocx
    rw [hzip]
    rfl

theorem sample_hasValid : ∀ extension ∈ ["pdf", "docx"], HasValid sampleStorage extension := by
  intro extension hextension
  obtain rfl | rfl := List.mem_pair.1 hextension
  · exact ⟨_, _, _, stage_samplePdf, rfl⟩
  · exact ⟨_, _, stage_sampleDocx⟩

/-- The commit of the first upload to a policy fails; the policy takes no PDF any more. -/
theorem upload_unblocked_commitFails :
    ¬ ∀ (s : Store) (request : Request) (id : Id) (createdAt : Time) (reach : Reach),
      (∀ v, (upload sampleStorage s request id createdAt reach).2 ≠ .created v) →
      AcceptsUploads sampleStorage (upload sampleStorage s request id createdAt reach).1
        request.policyId (nextVersionNumber s.rows request.policyId) := by
  intro hall
  have hstage : stage sampleStorage (sampleUpload "policy.pdf" [37, 80, 68, 70, 45, 49]).filename
      (sampleUpload "policy.pdf" [37, 80, 68, 70, 45, 49]).chunks = _ := stage_samplePdf
  have hupload := upload_storing (s := ⟨∅, .empty⟩) hstage 7 100 FileTree.file_empty
  have haccepts := hall ⟨∅, .empty⟩ (sampleUpload "policy.pdf" [37, 80, 68, 70, 45, 49]) 7 100
    .storing fun v h => by
      rw [hupload] at h
      cases h
  rw [hupload] at haccepts
  have hfree := (acceptsUploads_iff sample_hasValid _).1 haccepts "pdf" (by decide)
  cases FileTree.file_put_self.symm.trans hfree

/-- A file that is no PDF is refused; the policy goes on taking uploads. -/
theorem upload_unblocked_rejected :
    AcceptsUploads sampleStorage
      (upload sampleStorage ⟨∅, .empty⟩ (sampleUpload "policy.pdf" [1, 2, 3]) 7 100 .complete).1
      5 1 := by
  refine (upload_unblocked_iff sample_hasValid fun v => ?_).2
    ⟨fun extension _ => FileTree.file_empty, fun h => by cases h.1⟩
  exact fun h => by cases h

end MiniGrc.PolicyUploads
