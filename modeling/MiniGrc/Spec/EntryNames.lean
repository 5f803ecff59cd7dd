import Mathlib.Data.List.TakeWhile
import MiniGrc.App.EvidenceUploads
import MiniGrc.Spec.AuditIntegrity
import MiniGrc.Spec.EvidenceCapture
import MiniGrc.Spec.PolicyUploads

/-!
# The names of the entries of an audit package

The path of an evidence or policy entry ends in the stored `original_filename`. Policy uploads
and uploads of evidence store a sanitized name; the Drive connector stores what
`captured_filename` makes of the name that Drive gives.

## Key results

- `inFolder_iff`: which file names keep an entry in its folder
- `stays_sanitizeOriginalFilename`, `stays_capturedFilename`: the names of the two kinds
- `State.Named.step`: what a step makes of the stored names
- `entries_placed`: the entries of every package
-/

namespace MiniGrc.EvidenceUploads

open AuditPackage PolicyStorage

variable {ι : Type} {settings : Settings} {name : String}

/-- A fallible computation that goes on has succeeded so far. -/
theorem bind_eq_ok {ε α β : Type} {x : Except ε α} {f : α → Except ε β} {b : β}
    (h : x.bind f = .ok b) : ∃ a, x = .ok a ∧ f a = .ok b := by
  cases x with
  | error e => cases h
  | ok a => exact ⟨a, rfl, h⟩

/-! ## Segments -/

/-- The characters that end a name or a segment of a path: the slash, the backslash and the
    null character. -/
def isSeparator (c : Char) : Bool := c = '/' ∨ c = Char.ofNat 92 ∨ c = Char.ofNat 0

/-- No character of the text is a separator. -/
def NoSeparator (text : String) : Prop := text.toList.all fun c => !isSeparator c

instance : DecidablePred NoSeparator := fun _ => inferInstanceAs (Decidable (_ = true))

/-- The path consists of the folder and one file name. -/
def InFolder (folder path : String) : Prop :=
  ∃ segment : String, path = folder ++ "/" ++ segment ∧ segment ≠ "" ∧ NoSeparator segment

/-- Up to the first null character the name has no separator. -/
def Stays (name : String) : Prop := NoSeparator (zipInfoFilename name)

instance : DecidablePred Stays := fun _ => inferInstanceAs (Decidable (NoSeparator _))

/-- No character of the text separates. -/
theorem noSeparator_iff {text : String} :
    NoSeparator text ↔ ∀ c ∈ text.toList, isSeparator c = false := by
  simp [NoSeparator]

/-- A text has no separator exactly when its parts have none. -/
theorem noSeparator_append {text text' : String} :
    NoSeparator (text ++ text') ↔ NoSeparator text ∧ NoSeparator text' := by
  simp only [noSeparator_iff, String.toList_append, List.mem_append, or_imp, forall_and]

/-- A name without the null character is filed as it is. -/
theorem zipInfoFilename_eq_self (h : Char.ofNat 0 ∉ name.toList) : zipInfoFilename name = name := by
  apply String.toList_inj.1
  rw [zipInfoFilename, String.toList_ofList]
  refine List.takeWhile_eq_self_iff.2 fun c hc => decide_eq_true ?_
  rintro rfl
  exact h hc

/-- What follows a null character does not count. -/
theorem zipInfoFilename_append_of_mem {suffix : String} (h : Char.ofNat 0 ∈ name.toList) :
    zipInfoFilename (name ++ suffix) = zipInfoFilename name := by
  apply String.toList_inj.1
  simp only [zipInfoFilename, String.toList_ofList, String.toList_append]
  rw [List.takeWhile_append, if_neg]
  intro hlength
  -- the prefix before the null character is not the whole name
  have hall := List.takeWhile_eq_self_iff.1 ((List.takeWhile_prefix _).eq_of_length hlength)
  exact of_decide_eq_true (hall _ h) rfl

/-- What stands before the file name goes into the archive as it is. -/
theorem zipInfoFilename_append {stem : String} (h : Char.ofNat 0 ∉ stem.toList) :
    zipInfoFilename (stem ++ name) = stem ++ zipInfoFilename name := by
  apply String.toList_inj.1
  simp only [zipInfoFilename, String.toList_ofList, String.toList_append]
  rw [List.takeWhile_append_of_pos]
  intro c hc
  simp only [ne_eq, decide_not, Bool.not_eq_eq_eq_not, Bool.not_true, decide_eq_false_iff_not]
  rintro rfl
  exact h hc

/-- A file is in its folder exactly when its name is one segment. -/
theorem inFolder_append {folder segment : String} :
    InFolder folder (folder ++ "/" ++ segment) ↔
      segment ≠ "" ∧ NoSeparator segment := by
  constructor
  · rintro ⟨segment', heq, hsegment⟩
    obtain rfl : segment = segment' := by
      apply String.toList_inj.1
      simpa using congrArg String.toList heq
    exact hsegment
  · exact fun hsegment => ⟨segment, rfl, hsegment⟩

/-- An entry stays in its folder exactly if its file name does. -/
theorem inFolder_iff {folder stem : String} (hfolder : Char.ofNat 0 ∉ folder.toList)
    (hstem : NoSeparator stem) (hne : stem ≠ "") :
    InFolder folder (zipInfoFilename (folder ++ "/" ++ stem ++ name)) ↔ Stays name := by
  have hnull : Char.ofNat 0 ∉ (folder ++ "/" ++ stem).toList := by
    simp only [String.toList_append, List.mem_append, not_or]
    exact ⟨⟨hfolder, by decide⟩, fun h => absurd (noSeparator_iff.1 hstem _ h) (by decide)⟩
  have hsegment : stem ++ zipInfoFilename name ≠ "" := by
    intro h
    exact hne (String.append_eq_empty_iff.1 h).1
  have happend : folder ++ "/" ++ stem ++ zipInfoFilename name =
      folder ++ "/" ++ (stem ++ zipInfoFilename name) := String.append_assoc
  rw [zipInfoFilename_append hnull, happend, inFolder_append, noSeparator_append]
  exact (and_iff_right hsegment).trans (and_iff_right hstem)

/-- A number has no separator. -/
theorem noSeparator_toString (n : Nat) : NoSeparator (toString n) := by
  refine noSeparator_iff.2 fun c hc => ?_
  have hdigit := isDigit_of_mem_toString hc
  simp only [isSeparator, decide_eq_false_iff_not, not_or]
  refine ⟨?_, ?_, ?_⟩ <;> rintro rfl <;> exact absurd hdigit (by decide)

/-- The parts of a path that are numbers have no null character. -/
theorem null_not_mem_toString (n : Nat) : Char.ofNat 0 ∉ (toString n).toList :=
  not_mem_toString (by decide) n

/-- The folder of an evidence artifact. -/
def evidenceFolder (artifactId : Id) : String := s!"evidence/{artifactId}"

/-- The folder of a policy. -/
def policyFolder (policyId : Id) : String := s!"policies/{policyId}"

/-- The characters of an artifact's folder. -/
theorem evidenceFolder_toList (artifactId : Id) :
    (evidenceFolder artifactId).toList = "evidence/".toList ++ (toString artifactId).toList := by
  show ("evidence/" ++ toString artifactId).toList = _
  rw [String.toList_append]

/-- The characters of a policy's folder. -/
theorem policyFolder_toList (policyId : Id) :
    (policyFolder policyId).toList = "policies/".toList ++ (toString policyId).toList := by
  show ("policies/" ++ toString policyId).toList = _
  rw [String.toList_append]

/-- The stem of an artifact's file is its folder and its identifier. -/
theorem evidenceStem_eq (artifactId id : Id) :
    evidenceStem artifactId id = evidenceFolder artifactId ++ "/" ++ (toString id ++ "-") := by
  apply String.toList_inj.1
  simp only [evidenceStem_toList, String.toList_append, evidenceFolder_toList, List.append_assoc]
  rfl

/-- The stem of a policy's file is its folder and its version. -/
theorem policyStem_eq (policyId : Id) (versionNumber : Nat) :
    policyStem policyId versionNumber =
      policyFolder policyId ++ "/" ++ ("version-" ++ (toString versionNumber ++ "-")) := by
  apply String.toList_inj.1
  simp only [policyStem_toList, String.toList_append, policyFolder_toList, List.append_assoc]
  rfl

/-- The entry of an evidence-artifact version. -/
theorem inFolder_evidence_iff {artifactId id : Id} :
    InFolder (evidenceFolder artifactId)
        (zipInfoFilename (evidenceStem artifactId id ++ name)) ↔ Stays name := by
  rw [evidenceStem_eq]
  refine inFolder_iff ?_ (noSeparator_append.2 ⟨noSeparator_toString id, by decide⟩) (by simp)
  rw [evidenceFolder_toList, List.mem_append, not_or]
  exact ⟨by decide, null_not_mem_toString artifactId⟩

/-- The entry of a policy version. -/
theorem inFolder_policy_iff {policyId : Id} {versionNumber : Nat} :
    InFolder (policyFolder policyId)
        (zipInfoFilename (policyStem policyId versionNumber ++ name)) ↔ Stays name := by
  rw [policyStem_eq]
  have hstem : NoSeparator ("version-" ++ (toString versionNumber ++ "-")) :=
    noSeparator_append.2 ⟨by decide, noSeparator_append.2
      ⟨noSeparator_toString versionNumber, by decide⟩⟩
  refine inFolder_iff ?_ hstem (by simp)
  rw [policyFolder_toList, List.mem_append, not_or]
  exact ⟨by decide, null_not_mem_toString policyId⟩

/-! ## Names -/

/-- Characters that are no separators may follow or not. -/
theorem stays_append {suffix : String} (h : NoSeparator suffix) :
    Stays (name ++ suffix) ↔ Stays name := by
  -- what is appended after a null character does not get into the archive
  by_cases hnull : Char.ofNat 0 ∈ name.toList
  · rw [Stays, zipInfoFilename_append_of_mem hnull, Stays]
  · have hsuffix : Char.ofNat 0 ∉ suffix.toList := fun hmem =>
      absurd (noSeparator_iff.1 h _ hmem) (by decide)
    rw [Stays, zipInfoFilename_append hnull, zipInfoFilename_eq_self hsuffix, Stays,
      zipInfoFilename_eq_self hnull, noSeparator_append]
    exact and_iff_left h

/-- A name of characters that are no separators. -/
theorem stays_of_noSeparator (h : NoSeparator name) : Stays name := by
  refine noSeparator_iff.2 fun c hc => ?_
  rw [zipInfoFilename, String.toList_ofList] at hc
  exact noSeparator_iff.1 h c ((List.takeWhile_prefix _).subset hc)

/-- A plain character separates nothing. -/
theorem isSeparator_of_isPlain {c : Char} (h : isPlain c) : isSeparator c = false := by
  simp only [isSeparator, decide_eq_false_iff_not, not_or]
  refine ⟨?_, ?_, ?_⟩ <;> rintro rfl <;> exact absurd h (by decide)

/-- A sanitized name. -/
theorem stays_sanitizeOriginalFilename (filename : String) :
    Stays (sanitizeOriginalFilename filename) := by
  refine stays_of_noSeparator ?_
  simp only [sanitizeOriginalFilename]
  split
  · decide
  · refine noSeparator_iff.2 fun c hc => ?_
    rw [String.toList_ofList] at hc
    obtain ⟨c', -, rfl⟩ := List.mem_map.1 (List.mem_of_mem_take hc)
    split
    · next hplain => exact isSeparator_of_isPlain hplain
    · decide

/-- An extension moves a name nowhere. -/
theorem stays_withExtension {lower : String → String} {extension : String}
    (h : NoSeparator extension) :
    Stays (withExtension lower name extension) ↔ Stays name := by
  unfold withExtension
  split
  · rfl
  · have heq : s!"{name}.{extension}" = name ++ ("." ++ extension) := String.append_assoc
    rw [heq, stays_append (noSeparator_append.2 ⟨by decide, h⟩)]

/-- The extension that a Drive file may get does not matter. -/
theorem stays_capturedFilename {lower : String → String} {metadata : DriveFileMetadata} :
    Stays (capturedFilename lower metadata) ↔ Stays metadata.name := by
  unfold capturedFilename
  split
  · exact stays_withExtension (by decide)
  split
  · next extension hextension =>
    have hall : ∀ x ∈ blobMimeTypeExtensions, NoSeparator x.2 := by decide
    -- the extension is one of a fixed table, none of which has a separator
    obtain ⟨before, after, hsplit, -⟩ := List.lookup_eq_some_iff.1 hextension
    exact stays_withExtension (hall (metadata.mimeType, extension) (by simp [hsplit]))
  · rfl

end MiniGrc.EvidenceUploads

/-! ## The names of evidence -/

namespace MiniGrc.EvidenceCapture

open EvidenceRepository

variable {ι : Type} {sha256 : Bytes → String} {P : String → Prop}

/-- The call that a session is in. -/
def Pc.current : Pc sha256 → Option (Call sha256)
  | .uploading _ call _ | .appending _ call _ | .deleting _ call _ | .created _ call _ => some call
  | .idle | .opened _ | .found _ | .raised => none

/-- The names of the calls that are under way. -/
def CallsNamed (P : String → Prop) (pc : ι → Pc sha256) : Prop :=
  ∀ i call, (pc i).current = some call → P call.file.originalFilename

/-- The names of all rows and of the calls that are under way. -/
structure State.Named (P : String → Prop) (s : State ι sha256) : Prop where
  rows : ∀ (k : Id) r, s.rows.Has k r → P r.originalFilename
  calls : CallsNamed P s.pc

/-- A call for a file with such a name. -/
def Label.Named (P : String → Prop) : Label ι sha256 → Prop
  | .call _ made _ => P made.file.originalFilename
  | _ => True

/-- Nothing is named at the start. -/
theorem State.named_initial (objects : ObjectStore) :
    (State.initial objects : State ι sha256).Named P where
  rows k r h := by simp [State.initial, OpenRows.Has, OpenRows.closed] at h
  calls i call h := by cases h

variable [DecidableEq ι] {s u : State ι sha256} {l : Label ι sha256} {i : ι}

/-- One session's call may change while its name is one. -/
theorem CallsNamed.update {pc : ι → Pc sha256} (h : CallsNamed P pc) {pc' : Pc sha256}
    (hpc : ∀ call, pc'.current = some call → P call.file.originalFilename) :
    CallsNamed P (Function.update pc i pc') :=
  (Function.forall_update_iff pc fun _ pc => ∀ call, pc.current = some call →
    P call.file.originalFilename).2 ⟨hpc, fun j _ => h j⟩

namespace State.Named

omit [DecidableEq ι] in
/-- A session at a place has the name of the place. -/
theorem of_pc (h : s.Named P) {pc : Pc sha256} (hpc : s.pc i = pc) :
    ∀ call, pc.current = some call → P call.file.originalFilename :=
  hpc ▸ h.calls i

/-- A name is that of a row or of a call, and a row has the name of its call. -/
theorem step [Fintype ι] (h : s.Named P) (hl : l.Named P)
    (hstep : EvidenceCapture.step s l = some u) : u.Named P := by
  have hnone : ∀ call : Call sha256, none = some call → P call.file.originalFilename :=
    fun call hcall => by cases hcall
  -- A row is inserted with the name of the call; the other steps move sessions on.
  cases step_effect hstep with
  | loaded | found | uploadFailed | uploadLost | deleted | kept =>
    exact ⟨h.rows, h.calls.update hnone⟩
  | drawn =>
    refine ⟨h.rows, h.calls.update fun call hcall => ?_⟩
    obtain rfl := Option.some.inj hcall
    exact hl
  | stored hpc =>
    have hname := h.of_pc hpc
    exact ⟨h.rows, h.calls.update hname⟩
  | refused hpc =>
    have hname := h.of_pc hpc
    exact ⟨h.rows, h.calls.update hname⟩
  | appendFailed hpc =>
    have hname := h.of_pc hpc
    exact ⟨h.rows, h.calls.update hname⟩
  | created hpc hrow =>
    have hname := h.of_pc hpc
    refine ⟨fun k r hr => ?_, h.calls.update hname⟩
    obtain ⟨-, rfl⟩ | hr := OpenRows.has_write hr
    · rw [hrow]
      exact hname _ rfl
    · exact h.rows k r hr
  | committedFound | committed =>
    exact ⟨fun k r hr => h.rows k r (OpenRows.has_commit hr), h.calls.update hnone⟩
  | rolledBack =>
    exact ⟨fun k r hr => h.rows k r (OpenRows.has_rollback hr), h.calls.update hnone⟩

end State.Named

end MiniGrc.EvidenceCapture

/-! ## The names of policy files -/

namespace MiniGrc.PolicyUploads

open PolicyStorage

variable {ι : Type} {storage : Storage} {P : String → Prop}

/-- The file that a session has staged. -/
def Pc.file : Pc → Option Staged
  | .staged _ _ file | .checked _ _ file | .stored _ _ file | .inserted _ _ file => some file
  | .idle | .numbered .. | .answered _ => none

/-- The names of the files that are staged. -/
def FilesNamed (P : String → Prop) (pc : ι → Pc) : Prop :=
  ∀ i file, (pc i).file = some file → P file.originalFilename

/-- The names of all rows and of the files that are staged. -/
structure State.Named (P : String → Prop) (s : State ι) : Prop where
  rows : ∀ (k : Id) r, s.rows.Has k r → P r.originalFilename
  files : FilesNamed P s.pc

theorem State.named_initial (files : Files) : (State.initial ⟨∅, files⟩ : State ι).Named P where
  rows k r h := by simp [State.initial, OpenRows.Has, OpenRows.closed] at h
  files i file h := by cases h

/-- The row of a request has the name of its file. -/
theorem row_originalFilename {request : Request} {versionNumber : Nat} {stored : StoredUpload}
    {createdAt : Time} :
    (request.row versionNumber stored createdAt).originalFilename = stored.originalFilename := by
  unfold Request.row
  split <;> rfl

/-- A staged file has a sanitized name. -/
theorem stage_originalFilename {filename : String} {chunks : List Bytes} {file : Staged}
    (h : stage storage filename chunks = .ok file) :
    file.originalFilename = sanitizeOriginalFilename filename := by
  unfold stage at h
  split at h
  · cases h
  · rw [stageContent_ok h]

variable [DecidableEq ι] {s u : State ι} {l : Label ι} {i : ι}

/-- One session's file may change while its name is one. -/
theorem FilesNamed.update {pc : ι → Pc} (h : FilesNamed P pc) {pc' : Pc}
    (hpc : ∀ file, pc'.file = some file → P file.originalFilename) :
    FilesNamed P (Function.update pc i pc') :=
  (Function.forall_update_iff pc fun _ pc => ∀ file, pc.file = some file →
    P file.originalFilename).2 ⟨hpc, fun j _ => h j⟩

namespace State.Named

omit [DecidableEq ι] in
theorem of_pc (h : s.Named P) {pc : Pc} (hpc : s.pc i = pc) :
    ∀ file, pc.file = some file → P file.originalFilename :=
  hpc ▸ h.files i

/-- A rollback leaves the names. -/
theorem rollback (h : s.Named P) (i : ι) : (s.rollback i).Named P :=
  ⟨fun k r hr => h.rows k r (OpenRows.has_rollback hr),
    h.files.update fun file hfile => by cases hfile⟩

/-- The names of the files are sanitized, and rows have the names of files. -/
theorem step [Fintype ι] (h : s.Named P) (hsanitized : ∀ name, P (sanitizeOriginalFilename name))
    (hstep : PolicyUploads.step storage s l = some u) : u.Named P := by
  have hnone : ∀ file : Staged, none = some file → P file.originalFilename :=
    fun file hfile => by cases hfile
  -- A name is sanitized when the file is staged and stays what it is.
  cases step_effect hstep with
  | requested | rejected | occupied => exact ⟨h.rows, h.files.update hnone⟩
  | staged _ hstage =>
    refine ⟨h.rows, h.files.update fun file hfile => ?_⟩
    obtain rfl := Option.some.inj hfile
    rw [stage_originalFilename hstage]
    exact hsanitized _
  | checked hpc =>
    have hname := h.of_pc hpc
    exact ⟨h.rows, h.files.update hname⟩
  | placed hpc =>
    have hname := h.of_pc hpc
    exact ⟨h.rows, h.files.update hname⟩
  | inserted hpc _ hrow =>
    have hname := h.of_pc hpc
    refine ⟨fun k r hr => ?_, h.files.update hname⟩
    obtain ⟨-, rfl⟩ | hr := OpenRows.has_write hr
    · rw [hrow, row_originalFilename]
      exact hname _ rfl
    · exact h.rows k r hr
  | committed =>
    exact ⟨fun k r hr => h.rows k r (OpenRows.has_commit hr), h.files.update hnone⟩
  | stageRaised | refused | rolledBack => exact h.rollback _

end State.Named

end MiniGrc.PolicyUploads

/-! ## The entries of a package -/

namespace MiniGrc.AuditPackage

open EvidenceUploads PolicyStorage

variable {hash : Bytes → String} {store : EvidenceStore} {files : Files} {records : Records}
  {now : Time} {actorEmail : String}

/-- An entry is a JSON file, or it is the file of a version and stands in the folder of the
    version's artifact or policy. -/
def Placed (records : Records) (path : String) : Prop :=
  path ∈ jsonPaths ∨
  (∃ (id : Id) (version : EvidenceRepository.EvidenceArtifactVersion),
    records.artifactVersions[id]? = some version ∧
    path = evidenceStem version.artifactId id ++ version.originalFilename ∧
    InFolder (evidenceFolder version.artifactId) (zipInfoFilename path)) ∨
  ∃ (id : Id) (version : FiledVersion), records.policyVersions[id]? = some version ∧
    path = policyStem version.policyId version.versionNumber ++ version.originalFilename ∧
    InFolder (policyFolder version.policyId) (zipInfoFilename path)

/-- An evidence entry is named by its stem and the original name. -/
theorem evidenceEntry_path {id : Id} {version : EvidenceRepository.EvidenceArtifactVersion}
    {entry : ArchiveEntry} (h : evidenceEntry hash store id version = .ok entry) :
    entry.1 = evidenceStem version.artifactId id ++ version.originalFilename := by
  unfold evidenceEntry at h
  split at h
  · cases h
  · split at h
    · cases h
    · rw [← Except.ok.inj h]

/-- A policy entry is named by its stem and the original name. -/
theorem policyEntry_path {policyId : Id} {policy : Policy} {version : FiledVersion}
    {entry : ArchiveEntry} (h : policyEntry hash files policyId policy version = .ok entry) :
    entry.1 = policyStem policyId version.versionNumber ++ version.originalFilename := by
  unfold policyEntry at h
  split at h
  · cases h
  · split at h
    · cases h
    · rw [← Except.ok.inj h]

/-- The entries of evidence. -/
theorem placed_of_evidenceEntries {period : Period} {evidence : List ArchiveEntry}
    (h : evidenceEntries hash store records period = .ok evidence)
    (hnames : ∀ (id : Id) version, records.artifactVersions[id]? = some version →
      Stays version.originalFilename) {entry : ArchiveEntry} (hentry : entry ∈ evidence) :
    Placed records entry.1 := by
  unfold evidenceEntries at h
  -- A period without artifacts has no entries, and a store that is missing raises.
  split at h
  · obtain rfl := Except.ok.inj h
    cases hentry
  split at h
  · cases h
  obtain ⟨⟨id, version⟩, hrow, hok⟩ := (List.forall₂_of_mapM_ok h).exists_of_mem_right hentry
  have hrow' := Std.ExtTreeMap.mem_toList_iff_getElem?_eq_some.1 (List.mem_of_mem_filter hrow)
  refine .inr (.inl ⟨id, version, hrow', evidenceEntry_path hok, ?_⟩)
  rw [evidenceEntry_path hok]
  exact inFolder_evidence_iff.2 (hnames id version hrow')

/-- The entries of policies. -/
theorem placed_of_policyEntries {period : Period} {policies : List (List ArchiveEntry)}
    (h : policyEntries hash files records period = .ok policies)
    (hnames : ∀ (id : Id) version, records.policyVersions[id]? = some version →
      Stays version.originalFilename) {entry : ArchiveEntry} (hentry : entry ∈ policies.flatten) :
    Placed records entry.1 := by
  obtain ⟨written, hwritten, hentry⟩ := List.mem_flatten.1 hentry
  obtain ⟨⟨policyId, policy⟩, -, hpolicy⟩ :=
    (List.forall₂_of_mapM_ok h).exists_of_mem_right hwritten
  obtain ⟨⟨id, version⟩, hrow, hok⟩ :=
    (List.forall₂_of_mapM_ok hpolicy).exists_of_mem_right hentry
  have hmem := (List.mem_insertionSort _).1 (List.mem_of_mem_filter hrow)
  obtain ⟨hmem, hpolicyId⟩ := List.mem_filter.1 hmem
  have hrow' := Std.ExtTreeMap.mem_toList_iff_getElem?_eq_some.1 hmem
  obtain rfl : version.policyId = policyId := of_decide_eq_true hpolicyId
  refine .inr (.inr ⟨id, version, hrow', policyEntry_path hok, ?_⟩)
  rw [policyEntry_path hok]
  exact inFolder_policy_iff.2 (hnames id version hrow')

/-- The entries of a package whose stored names all stay. -/
theorem placed_of_stays {package : Package}
    (h : generateAuditPackage hash store files records now actorEmail = .ok package)
    (hevidence : ∀ (id : Id) version, records.artifactVersions[id]? = some version →
      Stays version.originalFilename)
    (hpolicies : ∀ (id : Id) version, records.policyVersions[id]? = some version →
      Stays version.originalFilename) :
    ∀ entry ∈ package.archive, Placed records entry.1 := by
  obtain ⟨scope, period, written, hentries, rfl⟩ := entries_of_generateAuditPackage h
  unfold entries at hentries
  split at hentries
  · cases hentries
  next hwrittenEvidence =>
  split at hentries
  · cases hentries
  next hwrittenPolicies =>
  obtain rfl := Except.ok.inj hentries
  -- Every entry but the evidence and the policies has a fixed name.
  have hjson := (jsonEntries_sublist records period scope).subset
  intro entry hentry
  simp only [Manifest.package, List.mem_append, List.mem_singleton] at hentry
  obtain (((((hrecord | hsnapshot) | hfiled) | hpolicy) | rfl) | rfl) := hentry
  · refine .inl (hjson ?_)
    exact List.mem_append_left _ (List.mem_map_of_mem (List.mem_append_left _ hrecord))
  · refine .inl (hjson ?_)
    exact List.mem_append_left _ (List.mem_map_of_mem (List.mem_append_right _ hsnapshot))
  · exact placed_of_evidenceEntries hwrittenEvidence hevidence hfiled
  · exact placed_of_policyEntries hwrittenPolicies hpolicies hpolicy
  · exact .inl (by simp [jsonPaths, jsonEntry])
  · exact .inl (by simp [jsonPaths])

end MiniGrc.AuditPackage

/-! ## Captures and uploads -/

namespace MiniGrc.EvidenceUploads

open AuditPackage PolicyStorage

variable {ι : Type} {settings : Settings}

/-- A call for a temporary file has the name that it is given. -/
theorem ofCaptured_originalFilename (captured : EvidenceCapture.CapturedBytes settings.sha256)
    (file : EvidenceRepository.File) (actor : Actor) (occurredAt : Option Time) :
    (EvidenceCapture.Call.ofCaptured captured file actor occurredAt).file.originalFilename =
      file.originalFilename := rfl

/-- An upload calls with the sanitized name. -/
theorem captureAndStoreVersion_originalFilename {filename : String} {chunks : List Bytes}
    {userId : String} {call : EvidenceCapture.Call settings.sha256}
    (h : captureAndStoreVersion settings filename chunks userId = .ok call) :
    call.file.originalFilename = sanitizeOriginalFilename filename := by
  -- the equation of the definition is slow to check
  delta captureAndStoreVersion at h
  simp only at h
  generalize allowedEvidenceMediaTypes.lookup _ = mediaType at h
  cases mediaType with
  | none => cases h
  | some mediaType =>
  obtain ⟨captured, -, h⟩ := bind_eq_ok h
  obtain ⟨-, -, h⟩ := bind_eq_ok h
  obtain ⟨-, -, h⟩ := bind_eq_ok h
  rw [← Except.ok.inj h, ofCaptured_originalFilename]

/-- A Drive capture calls with the name that Drive gives, up to the extension. -/
theorem runGoogleDriveCapture_originalFilename {file : DriveFile}
    {manifest : Connectors.ConnectorManifest} {connectionId actorId : String} {startedAt : Time}
    {call : EvidenceCapture.Call settings.sha256}
    (h : runGoogleDriveCapture settings file manifest connectionId actorId startedAt = .ok call) :
    call.file.originalFilename = capturedFilename settings.lower file.metadata := by
  simp only [runGoogleDriveCapture] at h
  -- A media type that is not allowed stops the capture.
  generalize allowedEvidenceMediaTypes.lookup _ = mediaType at h
  cases mediaType with
  | none => cases h
  | some mediaType =>
  obtain ⟨content, -, h⟩ := bind_eq_ok h
  obtain ⟨captured, -, h⟩ := bind_eq_ok h
  obtain ⟨-, -, h⟩ := bind_eq_ok h
  obtain ⟨-, -, h⟩ := bind_eq_ok h
  split at h
  · cases h
  · rw [← Except.ok.inj h, ofCaptured_originalFilename]

/-- The names that Drive gives have no separator. -/
def Contained : Label ι settings → Prop
  | .capture _ (.drive file ..) _ => Stays file.metadata.name
  | _ => True

instance (l : Label ι settings) : Decidable (Contained l) := by
  unfold Contained
  split <;> infer_instance

/-- The name of a call. -/
theorem stays_of_call {i : ι} {source : Source} {id : Id}
    {call : EvidenceCapture.Call settings.sha256}
    (hl : Contained (.capture i source id : Label ι settings))
    (h : source.call settings = .ok call) : Stays call.file.originalFilename := by
  cases source with
  | upload filename chunks userId =>
    have hcall : captureAndStoreVersion settings filename chunks userId = .ok call := h
    rw [captureAndStoreVersion_originalFilename hcall]
    exact stays_sanitizeOriginalFilename filename
  | drive file manifest connectionId actorId startedAt =>
    have hcall :
        runGoogleDriveCapture settings file manifest connectionId actorId startedAt = .ok call := h
    rw [runGoogleDriveCapture_originalFilename hcall]
    exact stays_capturedFilename.2 hl

/-- The names of the rows and of what is under way. -/
structure State.Named (s : State ι settings) : Prop where
  evidence : s.evidence.Named Stays
  policies : s.policies.Named Stays

variable [DecidableEq ι] [Fintype ι] {s u : State ι settings} {l : Label ι settings}

/-- Every step keeps the names, if the files it brings are named so. -/
theorem State.Named.step (h : s.Named) (hl : Contained l)
    (hstep : EvidenceUploads.step s l = some u) : u.Named := by
  cases l with
  | capture i source id =>
    simp only [EvidenceUploads.step, Option.map_eq_some_iff] at hstep
    obtain ⟨evidence, hevidence, rfl⟩ := hstep
    refine ⟨h.evidence.step ?_ hevidence, h.policies⟩
    -- a capture that raises before its call has no name
    split
    · next hcall => exact stays_of_call hl hcall
    · trivial
  | evidence l =>
    cases l with
    | call => cases hstep
    | _ =>
      simp only [EvidenceUploads.step, Option.map_eq_some_iff] at hstep
      obtain ⟨evidence, hevidence, rfl⟩ := hstep
      exact ⟨h.evidence.step (by trivial) hevidence, h.policies⟩
  | policies l =>
    obtain ⟨policies, hpolicies, rfl⟩ := Option.map_eq_some_iff.1 hstep
    exact ⟨h.evidence, h.policies.step stays_sanitizeOriginalFilename hpolicies⟩

/-- The columns of a policy version that uploads write and packages read. -/
def uploadedColumns (policyId : Id) (versionNumber : Nat) (stored : StoredUpload) :
    Id × Nat × StoredUpload := (policyId, versionNumber, stored)

/-- The records have the committed versions. -/
structure Reads (s : State ι settings) (records : Records) : Prop where
  artifactVersions : records.artifactVersions = s.evidence.rows.committed
  policyVersions : ∀ k : Id,
    records.policyVersions[k]?.map
        (fun v => uploadedColumns v.policyId v.versionNumber v.toStoredUpload) =
      s.policies.rows.committed[k]?.map
        fun r => uploadedColumns r.policyId r.versionNumber r.toStoredUpload

/-- The entries of every package that is made in the state. -/
def EntriesPlaced (s : State ι settings) : Prop :=
  ∀ records store files now actorEmail package, Reads s records →
    generateAuditPackage settings.sha256 store files records now actorEmail = .ok package →
      ∀ entry ∈ package.archive, Placed records entry.1

/-- The names in the rows are those of uploads and of captures, and the entries end in them. -/
theorem entries_placed {objects : EvidenceCapture.ObjectStore} {files : Files}
    (h : Run step (fun _ l => Contained l) (State.initial objects files) s) :
    EntriesPlaced s := by
  have hinv : s.Named := h.invariant
    ⟨EvidenceCapture.State.named_initial objects, PolicyUploads.State.named_initial files⟩
    fun _ _ _ hinv hl hstep => hinv.step hl hstep
  intro records store files now actorEmail package hreads hpackage
  refine placed_of_stays hpackage (fun k r hr => ?_) fun k v hv => ?_
  · rw [hreads.artifactVersions] at hr
    exact hinv.evidence.rows k r (.inl hr)
  · -- the package reads the columns of a policy version that the upload has written
    have hcolumns := hreads.policyVersions k
    rw [hv, Option.map_some, eq_comm, Option.map_eq_some_iff] at hcolumns
    obtain ⟨r, hr, hcolumns⟩ := hcolumns
    have hname : r.toStoredUpload = v.toStoredUpload := congrArg (fun x => x.2.2) hcolumns
    rw [← hname]
    exact hinv.policies.rows k r (.inl hr)

/-! ### A package with a Drive file -/

/-- The settings of the sample. -/
def sampleSettings : Settings where
  sha256 := sampleHash
  zipFile _ := .notZip
  maxUploadBytes := 25 * 1024 * 1024
  lower text := .ofList (text.toList.map Char.toLower)
  evidenceRepositoryConfigured := true

/-- A log file on Drive. -/
def sampleDriveFile (name : String) : DriveFile where
  metadata := ⟨"1tQzGLp8kFvUoXz3wYbNc", name, "text/plain", some "0B7r"⟩
  revisions := []
  content := .ok sampleLog

/-- The Drive file becomes the version 41 of the artifact 4. -/
def sampleRun (name : String) : List (Label Unit sampleSettings) :=
  [.evidence (.load () 4),
    .capture () (.drive (sampleDriveFile name) ⟨"google_drive", ["file.capture"]⟩ "5" "2" 100) 41,
    .evidence (.upload () .stored), .evidence (.append () sampleTime), .evidence (.commit ())]

/-- The records with these versions of evidence, and without policies. -/
def recordsWith (rows : Table EvidenceRepository.EvidenceArtifactVersion) (h : 41 ∈ rows) :
    Records :=
  { sampleRecords with
    artifactVersions := rows
    tests := ∅
    policies := ∅
    policyVersions := ∅
    occurrenceLinks := by
      have hids : ∀ (k : Id) o, sampleRecords.occurrences[k]? = some o →
        ∀ id ∈ o.evidenceArtifactVersionIds, id = 41 := Table.forall_of_toList (by decide)
      exact fun k o ho id hid => hids k o ho id hid ▸ h
    testLinks := fun _ _ h => absurd h Table.not_get_empty
    versionNumbers := fun _ _ _ _ h => absurd h Table.not_get_empty }

/-- The sample records have no policy versions. -/
theorem recordsWith_policyVersions {rows : Table EvidenceRepository.EvidenceArtifactVersion}
    (h : 41 ∈ rows) : (recordsWith rows h).policyVersions = ∅ := rfl

/-- `download_object` of the objects that are there. -/
def storeOf (objects : EvidenceCapture.ObjectStore) : EvidenceStore :=
  ⟨true, fun objectKey => objects[objectKey]?.elim (.error "NoSuchKey") .ok⟩

/-- What is read of the versions below. -/
def rowNames (rows : Table EvidenceRepository.EvidenceArtifactVersion) :
    List (Id × Id × String) :=
  rows.toList.map fun x => (x.1, x.2.artifactId, x.2.originalFilename)

/-- The sample row is there. -/
theorem mem_of_rowNames {rows : Table EvidenceRepository.EvidenceArtifactVersion} {name : String}
    (h : rowNames rows = [(41, 4, name)]) : 41 ∈ rows := by
  have hmem : (41, 4, name) ∈ rowNames rows := by simp [h]
  obtain ⟨x, hx, heq⟩ := List.mem_map.1 hmem
  have hrow := Std.ExtTreeMap.mem_toList_iff_getElem?_eq_some.1 hx
  have hkey : x.1 = 41 := congrArg Prod.fst heq
  rw [hkey] at hrow
  exact Std.ExtTreeMap.mem_iff_isSome_getElem?.2 (by simp [hrow])

/-- The sample row has the name read off. -/
theorem row_of_rowNames {rows : Table EvidenceRepository.EvidenceArtifactVersion} {name : String}
    (h : rowNames rows = [(41, 4, name)]) {k : Id} {r : EvidenceRepository.EvidenceArtifactVersion}
    (hr : rows[k]? = some r) : r.originalFilename = name := by
  have hmem : (k, r.artifactId, r.originalFilename) ∈ rowNames rows :=
    List.mem_map.2 ⟨(k, r), Std.ExtTreeMap.mem_toList_iff_getElem?_eq_some.2 hr, rfl⟩
  rw [h, List.mem_singleton] at hmem
  exact congrArg (fun x => x.2.2) hmem

/-- The records of a state without policy versions. -/
theorem reads_recordsWith {ι : Type} {s : State ι sampleSettings} {name : String}
    (h : rowNames s.evidence.rows.committed = [(41, 4, name)])
    (hpolicies : s.policies.rows.committed = ∅) :
    Reads s (recordsWith s.evidence.rows.committed (mem_of_rowNames h)) where
  artifactVersions := rfl
  policyVersions k := by
    rw [recordsWith_policyVersions, hpolicies]
    simp

/-- A Drive file whose name has directories becomes the version 41 of the artifact 4, and the
    path of its entry leads out of the folder of the artifact. -/
theorem drive_entry_leaves :
    ¬ ∀ s : State Unit sampleSettings,
      Run step (fun _ _ => True) (State.initial ∅ .empty) s → EntriesPlaced s := by
  intro hall
  obtain ⟨s, hs, hnames, hpolicies, package, hpackage, hpath⟩ :
    ∃ s, Run.exec step (.initial ∅ .empty) (sampleRun "../../../../../x.txt") = some s ∧
      ∃ hnames : rowNames s.evidence.rows.committed = [(41, 4, "../../../../../x.txt")],
      s.policies.rows.committed = ∅ ∧
      ∃ package, generateAuditPackage sampleHash (storeOf s.evidence.objects) .empty
        (recordsWith s.evidence.rows.committed (mem_of_rowNames hnames)) sampleTime
        "ann@example.com" = .ok package ∧
      "evidence/4/41-../../../../../x.txt" ∈ package.archive.map Prod.fst :=
    ⟨_, rfl, rfl, rfl, _, rfl, by decide⟩
  obtain ⟨entry, hentry, hpath⟩ := List.mem_map.1 hpath
  have hplaced := hall s (Run.of_exec_true _ hs) _ _ _ _ _ package
    (reads_recordsWith hnames hpolicies) hpackage entry hentry
  obtain hjson | ⟨id, r, hr, heq, hfolder⟩ | ⟨id, v, hv, -⟩ := hplaced
  · rw [hpath] at hjson
    exact absurd hjson (by decide)
  · rw [heq, inFolder_evidence_iff, row_of_rowNames hnames hr] at hfolder
    exact absurd hfolder (by decide)
  · rw [recordsWith_policyVersions] at hv
    exact absurd hv Table.not_get_empty

/-- `entries_placed` of the same file under its own name. -/
theorem entries_placed_drive : ∃ (s : State Unit sampleSettings) (records : Records)
    (package : Package), Reads s records ∧
      generateAuditPackage sampleHash (storeOf s.evidence.objects) .empty records sampleTime
        "ann@example.com" = .ok package ∧
      "evidence/4/41-x.txt" ∈ package.archive.map Prod.fst ∧
      ∀ entry ∈ package.archive, Placed records entry.1 := by
  obtain ⟨s, hs, hnames, hpolicies, package, hpackage, hpath⟩ :
    ∃ s, Run.exec (Run.guarded step fun _ l => Contained l) (.initial ∅ .empty)
        (sampleRun "x.txt") = some s ∧
      ∃ hnames : rowNames s.evidence.rows.committed = [(41, 4, "x.txt")],
      s.policies.rows.committed = ∅ ∧
      ∃ package, generateAuditPackage sampleHash (storeOf s.evidence.objects) .empty
        (recordsWith s.evidence.rows.committed (mem_of_rowNames hnames)) sampleTime
        "ann@example.com" = .ok package ∧
      "evidence/4/41-x.txt" ∈ package.archive.map Prod.fst :=
    ⟨_, rfl, rfl, rfl, _, rfl, by decide⟩
  have hreads := reads_recordsWith hnames hpolicies
  exact ⟨s, _, package, hreads, hpackage, hpath,
    entries_placed (Run.of_exec_guarded _ hs) _ _ _ _ _ package hreads hpackage⟩

end MiniGrc.EvidenceUploads
