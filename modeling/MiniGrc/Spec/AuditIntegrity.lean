import MiniGrc.App.AuditExport
import MiniGrc.ForStd.Stems
import MiniGrc.Spec.AuditSelection

/-!
# The integrity of an audit package

An archive that `generate_audit_package` returns agrees with its manifest, and it has the
bytes of every evidence-artifact version and every policy version that its JSON files list.

## Key results

- `stems_apart`: no path begins with the stems of two files
- `filed_entries`: the entries of evidence and policies, by the stems of their paths
- `generateAuditPackage_intact`: the package as a whole
-/

namespace MiniGrc.AuditPackage

open ComplianceScopes (ComplianceScope)
open EvidenceRepository (EvidenceArtifactVersion)
open PolicyStorage (Files)
open VersionLifecycle
open List ( isPrefixOf_iff_prefix)

variable {hash : Bytes → String} {store : EvidenceStore} {files : Files} {records : Records}
  {period : Period} {scope : ComplianceScope} {now : Time} {actorEmail : String}

/-! ## What a package has to be -/

/-- The JSON value lists an evidence-artifact version under one of its elements. -/
def ListsEvidence (payload : Json) (id : Id) : Prop :=
  ∃ items item ids, payload = .list items ∧ Json.dict item ∈ items ∧
    JsonDict.get? item "linked_evidence_artifact_version_ids" = some (.list ids) ∧ idJson id ∈ ids

/-- The JSON value lists a version of a policy with its hash. -/
def ListsVersion (payload : Json) (policyId : Id) (versionNumber : Nat) (sha256 : String) : Prop :=
  ∃ items item versions version, payload = .list items ∧ Json.dict item ∈ items ∧
    JsonDict.get? item "id" = some (idJson policyId) ∧
    JsonDict.get? item "versions" = some (.list versions) ∧ Json.dict version ∈ versions ∧
    JsonDict.get? version "version_number" = some (.int versionNumber) ∧
    JsonDict.get? version "sha256" = some (.str sha256)

/-- Exactly one of the files has a path that begins with the stem, and it has the hash. -/
def HasOneFile (files : List ManifestFile) (stem sha256 : String) : Prop :=
  ∃ file, (files.filter fun file => stem.toList.isPrefixOf file.path.toList) = [file] ∧
    file.sha256 = sha256

/-- The integrity of a package and its completeness, with the manifest in it. -/
structure Intact (hash : Bytes → String) (records : Records) (package : Package)
    (manifest : Manifest) : Prop where
  manifestStored : ("manifest.json", manifest.json.dumps) ∈ package.archive
  manifestSha256 : package.manifestSha256 = hash manifest.json.dumps
  /-- the paths are pairwise different -/
  paths : (package.archive.map Prod.fst).Nodup
  /-- the other entries are the files of the manifest, with their hashes and sizes -/
  files : manifest.files.Perm
    ((package.archive.filter fun entry => entry.1 ≠ "manifest.json").map (manifestFile hash))
  /-- every listed evidence-artifact version -/
  evidence : ∀ path ∈ ["occurrences.json", "control_tests.json"], ∃ payload,
    (path, payload.dumps) ∈ package.archive ∧ ∀ id, ListsEvidence payload id →
      ∃ version, records.artifactVersions[id]? = some version ∧
        HasOneFile manifest.files (evidenceStem version.artifactId id) version.sha256
  /-- every listed policy version -/
  policies : ∃ payload, ("policies.json", payload.dumps) ∈ package.archive ∧
    ∀ policyId versionNumber sha256, ListsVersion payload policyId versionNumber sha256 →
      ∃ (k : Id) (version : FiledVersion), records.policyVersions[k]? = some version ∧
        version.policyId = policyId ∧
        version.versionNumber = versionNumber ∧ version.sha256 = sha256 ∧
        HasOneFile manifest.files (policyStem policyId versionNumber) version.sha256

/-! ## Stems -/

theorem evidenceStem_toList (artifactId id : Id) :
    (evidenceStem artifactId id).toList = "evidence/".toList ++
      ((toString artifactId).toList ++ '/' :: ((toString id).toList ++ ['-'])) := by
  show ("evidence/" ++ toString artifactId ++ "/" ++ toString id ++ "-").toList = _
  simp only [String.toList_append, List.append_assoc]
  rfl

theorem policyStem_toList (policyId : Id) (versionNumber : Nat) :
    (policyStem policyId versionNumber).toList = "policies/".toList ++
      ((toString policyId).toList ++
        '/' :: ("version-".toList ++ ((toString versionNumber).toList ++ ['-']))) := by
  show ("policies/" ++ toString policyId ++ "/version-" ++ toString versionNumber ++ "-").toList = _
  simp only [String.toList_append, List.append_assoc]
  rfl

theorem not_mem_toString {c : Char} (hc : c.isDigit = false) (n : Nat) :
    c ∉ (toString n).toList := fun h => by
  rw [isDigit_of_mem_toString h] at hc
  cases hc

/-- Different numbers before a separator set stems apart. -/
theorem apart_toString {c : Char} (hc : c.isDigit = false) {n n' : Nat} (h : n ≠ n')
    (z z' : List Char) :
    List.Apart ((toString n).toList ++ c :: z) ((toString n').toList ++ c :: z') :=
  List.apart_of_ne (not_mem_toString hc n) (not_mem_toString hc n') fun heq =>
    h (toString_nat_injective (String.toList_inj.1 heq))

/-- Evidence-artifact versions with different ids. -/
theorem evidenceStem_apart {artifactId artifactId' id id' : Id} (h : id ≠ id') :
    List.Apart (evidenceStem artifactId id).toList (evidenceStem artifactId' id').toList := by
  rw [evidenceStem_toList, evidenceStem_toList]
  refine List.Apart.append_left ?_ _
  by_cases ha : artifactId = artifactId'
  · subst ha
    refine List.Apart.append_left ?_ _
    exact List.Apart.append_left (apart_toString (c := '-') (by decide) h [] []) ['/']
  · exact apart_toString (by decide) ha _ _

/-- Policy versions of different policies, or with different numbers. -/
theorem policyStem_apart {policyId policyId' : Id} {n n' : Nat}
    (h : policyId ≠ policyId' ∨ n ≠ n') :
    List.Apart (policyStem policyId n).toList (policyStem policyId' n').toList := by
  rw [policyStem_toList, policyStem_toList]
  refine List.Apart.append_left ?_ _
  by_cases hp : policyId = policyId'
  · subst hp
    have hn : n ≠ n' := h.resolve_left fun hne => hne rfl
    have hnumber := apart_toString (c := '-') (by decide) hn [] []
    exact ((hnumber.append_left "version-".toList).append_left ['/']).append_left _
  · exact apart_toString (by decide) hp _ _

/-- Evidence and policies. -/
theorem evidenceStem_apart_policyStem (artifactId id policyId : Id) (n : Nat) :
    List.Apart (evidenceStem artifactId id).toList (policyStem policyId n).toList := by
  rw [evidenceStem_toList, policyStem_toList]
  exact List.apart_cons (by decide)

/-! ## The files of a package -/

/-- A file that belongs to the package: the stem of its path and its recorded hash. -/
structure FiledContent where
  stem : String
  sha256 : String

/-- The evidence-artifact versions that belong to the package. -/
def evidenceRows (records : Records) (period : Period) : List (Id × EvidenceArtifactVersion) :=
  records.artifactVersions.toList.filter fun x => x.1 ∈ artifactVersionIds records period

/-- Their files. -/
def evidenceFiles (records : Records) (period : Period) : List FiledContent :=
  (evidenceRows records period).map fun x => ⟨evidenceStem x.2.artifactId x.1, x.2.sha256⟩

/-- The files of the policy versions that belong to the package. -/
def policyFiles (records : Records) (period : Period) : List FiledContent :=
  records.policies.toList.flatMap fun x =>
    (relevantVersions records period x.1).map fun y =>
      ⟨policyStem x.1 y.2.versionNumber, y.2.sha256⟩

/-- The entry is the file. -/
structure Holds (hash : Bytes → String) (file : FiledContent) (entry : ArchiveEntry) : Prop where
  stem : file.stem.toList <+: entry.1.toList
  sha256 : hash entry.2 = file.sha256

theorem evidenceEntry_holds {id : Id} {version : EvidenceArtifactVersion} {entry : ArchiveEntry}
    (h : evidenceEntry hash store id version = .ok entry) :
    Holds hash ⟨evidenceStem version.artifactId id, version.sha256⟩ entry := by
  unfold evidenceEntry at h
  split at h
  · cases h
  · split at h
    · cases h
    next hhash =>
    obtain rfl := Except.ok.inj h
    refine ⟨?_, not_not.1 hhash⟩
    rw [String.toList_append]
    exact List.prefix_append ..

theorem policyEntry_holds {policyId : Id} {policy : Policy} {version : FiledVersion}
    {entry : ArchiveEntry} (h : policyEntry hash files policyId policy version = .ok entry) :
    Holds hash ⟨policyStem policyId version.versionNumber, version.sha256⟩ entry := by
  unfold policyEntry at h
  split at h
  · cases h
  · split at h
    · cases h
    next hhash =>
    obtain rfl := Except.ok.inj h
    refine ⟨?_, not_not.1 hhash⟩
    rw [String.toList_append]
    exact List.prefix_append ..

/-- The entries for evidence. -/
theorem evidenceEntries_holds {evidence : List ArchiveEntry}
    (h : evidenceEntries hash store records period = .ok evidence) :
    List.Forall₂ (Holds hash) (evidenceFiles records period) evidence := by
  rw [evidenceFiles, List.forall₂_map_left_iff]
  unfold evidenceEntries at h
  split at h
  · next hnone =>
    obtain rfl := Except.ok.inj h
    have hrows : evidenceRows records period = [] := by simp [evidenceRows, hnone]
    rw [hrows]
    exact .nil
  · split at h
    · cases h
    · exact (List.forall₂_of_mapM_ok h).imp fun _ _ hentry => evidenceEntry_holds hentry

/-- The entries for policies. -/
theorem policyEntries_holds {policies : List (List ArchiveEntry)}
    (h : policyEntries hash files records period = .ok policies) :
    List.Forall₂ (Holds hash) (policyFiles records period) policies.flatten := by
  refine List.Forall₂.flatMap_flatten ((List.forall₂_of_mapM_ok h).imp fun x es hes => ?_)
  rw [List.forall₂_map_left_iff]
  exact (List.forall₂_of_mapM_ok hes).imp fun _ _ hentry => policyEntry_holds hentry

/-- The versions of a policy in the package have different numbers. -/
theorem relevantVersions_pairwise (policyId : Id) :
    (relevantVersions records period policyId).Pairwise fun y y' =>
      y.2.versionNumber ≠ y'.2.versionNumber := by
  refine List.Pairwise.filter _ ?_
  -- in the order of the ids, which are different
  refine (List.perm_insertionSort _ _).pairwise_iff (fun h => h.symm) |>.2 ?_
  rw [List.pairwise_filter]
  refine (Table.toList_keys_lt _).imp_of_mem fun {y y'} hy hy' hlt hp hp' heq => ?_
  rw [decide_eq_true_eq] at hp hp'
  exact Nat.ne_of_lt hlt (records.versionNumbers y.1 y'.1 y.2 y'.2
    (Std.ExtTreeMap.mem_toList_iff_getElem?_eq_some.1 hy)
    (Std.ExtTreeMap.mem_toList_iff_getElem?_eq_some.1 hy') (hp.trans hp'.symm) heq)

/-- No path begins with the stems of two files. -/
theorem stems_apart (records : Records) (period : Period) :
    (evidenceFiles records period ++ policyFiles records period).Pairwise fun x x' =>
      List.Apart x.stem.toList x'.stem.toList := by
  refine List.pairwise_append.2 ⟨?_, ?_, ?_⟩
  · rw [evidenceFiles, List.pairwise_map]
    exact ((Table.toList_keys_lt _).filter _).imp fun hlt => evidenceStem_apart (Nat.ne_of_lt hlt)
  · refine List.pairwise_flatMap.2 ⟨fun x _ => ?_, ?_⟩
    · rw [List.pairwise_map]
      exact (relevantVersions_pairwise x.1).imp fun hne => policyStem_apart (.inr hne)
    · refine (Table.toList_keys_lt _).imp fun {x x'} hlt y hy y' hy' => ?_
      obtain ⟨v, -, rfl⟩ := List.mem_map.1 hy
      obtain ⟨v', -, rfl⟩ := List.mem_map.1 hy'
      exact policyStem_apart (.inl (Nat.ne_of_lt hlt))
  · intro x hx x' hx'
    obtain ⟨v, -, rfl⟩ := List.mem_map.1 hx
    obtain ⟨y, -, hy⟩ := List.mem_flatMap.1 hx'
    obtain ⟨v', -, rfl⟩ := List.mem_map.1 hy
    exact evidenceStem_apart_policyStem _ _ _ _

/-! ## What is written -/

/-- The paths of the JSON files. -/
def jsonPaths : List String :=
  ["scope.json", "frameworks.json", "controls.json", "occurrences.json", "control_tests.json",
    "findings.json", "evidence_snapshots.json", "policies.json", "manifest.json"]

/-- What is written before the manifest, given the entries of evidence and policies. -/
def writtenEntries (records : Records) (period : Period) (scope : ComplianceScope)
    (filed : List ArchiveEntry) : List ArchiveEntry :=
  recordEntries records period scope ++ snapshotEntries records period ++ filed ++
    [jsonEntry "policies.json" (policySummaries records period)]

/-- The entries of evidence and policies stand between the JSON files. -/
theorem filed_entries {written : List ArchiveEntry}
    (h : entries hash store files records period scope = .ok written) :
    ∃ filed, List.Forall₂ (Holds hash)
        (evidenceFiles records period ++ policyFiles records period) filed ∧
      written = writtenEntries records period scope filed := by
  unfold entries at h
  split at h
  · cases h
  next evidence hevidence =>
  split at h
  · cases h
  next policies hpolicies =>
  refine ⟨evidence ++ policies.flatten,
    List.rel_append (evidenceEntries_holds hevidence) (policyEntries_holds hpolicies), ?_⟩
  rw [← Except.ok.inj h, writtenEntries]
  simp only [List.append_assoc]

/-- The stem of a file is that of evidence or of a policy. -/
theorem stem_cases {file : FiledContent}
    (h : file ∈ evidenceFiles records period ++ policyFiles records period) :
    "evidence/".toList <+: file.stem.toList ∨ "policies/".toList <+: file.stem.toList := by
  rcases List.mem_append.1 h with h | h
  · obtain ⟨x, -, rfl⟩ := List.mem_map.1 h
    rw [evidenceStem_toList]
    exact .inl (List.prefix_append ..)
  · obtain ⟨x, -, hx⟩ := List.mem_flatMap.1 h
    obtain ⟨y, -, rfl⟩ := List.mem_map.1 hx
    rw [policyStem_toList]
    exact .inr (List.prefix_append ..)

/-- The path of a JSON file does not begin with the stem of a file. -/
theorem not_stem_of_jsonPath {file : FiledContent} {path : String}
    (h : file ∈ evidenceFiles records period ++ policyFiles records period)
    (hpath : path ∈ jsonPaths) : ¬ file.stem.toList <+: path.toList := by
  have hjson : ∀ path ∈ jsonPaths, "evidence/".toList.isPrefixOf path.toList = false ∧
      "policies/".toList.isPrefixOf path.toList = false := by decide
  intro hstem
  rcases stem_cases h with h | h
  · exact Bool.eq_false_iff.1 (hjson path hpath).1
      ( isPrefixOf_iff_prefix.2 (h.trans hstem))
  · exact Bool.eq_false_iff.1 (hjson path hpath).2
      ( isPrefixOf_iff_prefix.2 (h.trans hstem))

/-- The paths of the JSON files that are written. -/
theorem jsonEntries_sublist (records : Records) (period : Period) (scope : ComplianceScope) :
    ((recordEntries records period scope ++ snapshotEntries records period).map
      Prod.fst ++ ["policies.json", "manifest.json"]).Sublist jsonPaths := by
  have hsplit : jsonPaths = (jsonPaths.take 6 ++ ["evidence_snapshots.json"]) ++
      ["policies.json", "manifest.json"] := rfl
  rw [List.map_append, hsplit]
  refine List.Sublist.append (List.Sublist.append (.refl _) ?_) (.refl _)
  unfold snapshotEntries
  split
  · exact List.nil_sublist _
  · exact .refl _

/-- The paths of a package are pairwise different. -/
theorem paths_nodup {filed : List ArchiveEntry}
    (h : List.Forall₂ (Holds hash)
      (evidenceFiles records period ++ policyFiles records period) filed) :
    ((writtenEntries records period scope filed).map Prod.fst ++ ["manifest.json"]).Nodup := by
  have hjson := jsonEntries_sublist records period scope
  have hperm : ((writtenEntries records period scope filed).map Prod.fst ++
      ["manifest.json"]).Perm
        (((recordEntries records period scope ++ snapshotEntries records period).map Prod.fst ++
          ["policies.json", "manifest.json"]) ++ filed.map Prod.fst) := by
    rw [writtenEntries, List.map_append, List.map_append, List.append_assoc, List.append_assoc,
      List.append_assoc]
    exact List.perm_append_comm.append_left _
  refine hperm.nodup_iff.2 (List.nodup_append.2 ⟨hjson.nodup (by decide), ?_, ?_⟩)
  · have hnames := h.nodup_names (fun x => x.stem.toList) (fun e : ArchiveEntry => e.1.toList)
      (fun _ _ hh => hh.stem) (stems_apart records period)
    exact List.Nodup.of_map String.toList (by rwa [List.map_map])
  · rintro path hpath _ hfiled rfl
    obtain ⟨entry, hentry, rfl⟩ := List.mem_map.1 hfiled
    obtain ⟨file, hfile, hh⟩ := h.exists_of_mem_right hentry
    exact not_stem_of_jsonPath hfile (hjson.subset hpath) hh.stem

/-- The manifest has exactly one file for each that belongs to the package. -/
theorem hasOneFile {filed : List ArchiveEntry}
    (h : List.Forall₂ (Holds hash)
      (evidenceFiles records period ++ policyFiles records period) filed)
    {stem sha256 : String}
    (hfile : ⟨stem, sha256⟩ ∈ evidenceFiles records period ++ policyFiles records period) :
    HasOneFile (manifestOf hash period now actorEmail
      (writtenEntries records period scope filed)).files stem sha256 := by
  obtain ⟨entry, hentry, hh⟩ := h.filter_stem (fun x => x.stem.toList)
    (fun e : ArchiveEntry => e.1.toList) (fun _ _ hh => hh.stem) (stems_apart records period) hfile
  -- none of the JSON files has the stem
  have hnone : ∀ l : List ArchiveEntry, (∀ e ∈ l, e.1 ∈ jsonPaths) →
      (l.filter fun e => stem.toList.isPrefixOf e.1.toList) = [] := by
    intro l hl
    refine List.filter_eq_nil_iff.2 fun e he hprefix => ?_
    exact not_stem_of_jsonPath hfile (hl e he) ( isPrefixOf_iff_prefix.1 hprefix)
  have hjson := jsonEntries_sublist records period scope
  have hrecords := hnone (recordEntries records period scope ++
    snapshotEntries records period) fun e he =>
      hjson.subset (List.mem_append_left _ (List.mem_map_of_mem he))
  have hpolicies := hnone [jsonEntry "policies.json"
    (policySummaries records period)] fun e he =>
      hjson.subset (List.mem_append_right _ (by rw [List.mem_singleton.1 he]; simp [jsonEntry]))
  refine ⟨manifestFile hash entry, ?_, hh.sha256⟩
  refine List.perm_singleton.1 (((List.mergeSort_perm _ _).filter _).trans ?_)
  rw [List.filter_map, ← List.map_singleton (f := manifestFile hash), ← hentry]
  refine List.Perm.map _ (List.Perm.of_eq ?_)
  show List.filter (fun e : ArchiveEntry => stem.toList.isPrefixOf e.1.toList) _ = _
  rw [writtenEntries, List.filter_append, List.filter_append, hrecords, hpolicies,
    List.nil_append, List.append_nil]

/-! ## What the JSON files list -/

/-- A payload that is made of the elements of a list, with the linked ids of each. -/
theorem mem_of_listsEvidence {α : Type} {l : List α} {item : α → Json} {ids : α → List Id} {id : Id}
    (hids : ∀ x fields, item x = .dict fields →
      JsonDict.get? fields "linked_evidence_artifact_version_ids" =
        some (.list ((ids x).map idJson)))
    (h : ListsEvidence (.list (l.map item)) id) : ∃ x ∈ l, id ∈ ids x := by
  obtain ⟨_, fields, listed, hitems, hitem, hget, hid⟩ := h
  obtain rfl := Json.list.inj hitems
  obtain ⟨x, hx, heq⟩ := List.mem_map.1 hitem
  rw [hids x fields heq] at hget
  obtain rfl := Json.list.inj (Option.some.inj hget)
  obtain ⟨id', hid', heq⟩ := List.mem_map.1 hid
  obtain rfl := toString_nat_injective (Json.str.inj heq)
  exact ⟨x, hx, hid'⟩

theorem mem_of_listsEvidence_occurrences {l : List (Id × ControlOccurrences.ControlOccurrence)}
    {id : Id} (h : ListsEvidence (serializeOccurrences l) id) :
    ∃ x ∈ l, id ∈ x.2.evidenceArtifactVersionIds := by
  refine mem_of_listsEvidence (fun x fields hitem => ?_) h
  obtain rfl := Json.dict.inj hitem
  simp

theorem mem_of_listsEvidence_tests {l : List (Id × ControlTests.ControlTest)}
    {id : Id} (h : ListsEvidence (serializeTests l) id) :
    ∃ x ∈ l, id ∈ x.2.evidenceArtifactVersionIds := by
  refine mem_of_listsEvidence (fun x fields hitem => ?_) h
  obtain rfl := Json.dict.inj hitem
  simp

/-- A version that `policies.json` lists is relevant to the period. -/
theorem mem_of_listsVersion {policyId : Id} {versionNumber : Nat} {sha256 : String}
    (h : ListsVersion (policySummaries records period) policyId versionNumber sha256) :
    ∃ x ∈ records.policies.toList, x.1 = policyId ∧ ∃ y ∈ relevantVersions records period x.1,
      y.2.versionNumber = versionNumber ∧ y.2.sha256 = sha256 := by
  obtain ⟨_, fields, versions, version, hitems, hitem, hid, hversions, hversion, hnumber, hhash⟩ :=
    h
  obtain rfl := Json.list.inj hitems
  obtain ⟨x, hx, heq⟩ := List.mem_map.1 hitem
  obtain rfl := Json.dict.inj heq
  simp only [ne_eq, String.reduceEq, not_false_eq_true, JsonDict.get?_cons_self,
    JsonDict.get?_cons_ne, Option.some.injEq, Json.list.injEq] at hid hversions
  obtain rfl := toString_nat_injective (Json.str.inj hid)
  rw [← hversions] at hversion
  obtain ⟨y, hy, heq⟩ := List.mem_map.1 hversion
  obtain rfl := Json.dict.inj heq
  simp only [ne_eq, String.reduceEq, not_false_eq_true, JsonDict.get?_cons_self,
    JsonDict.get?_cons_ne, Option.some.injEq, Json.int.injEq, Json.str.injEq] at hnumber hhash
  exact ⟨x, List.mem_of_mem_filter hx, rfl, y, hy, Int.ofNat.inj hnumber, hhash⟩

/-- A linked evidence-artifact version belongs to the package. -/
theorem mem_evidenceFiles {id : Id} (hid : id ∈ artifactVersionIds records period)
    (hrow : id ∈ records.artifactVersions) :
    ∃ version, records.artifactVersions[id]? = some version ∧
      ⟨evidenceStem version.artifactId id, version.sha256⟩ ∈ evidenceFiles records period := by
  obtain ⟨version, hversion⟩ := Table.exists_get hrow
  refine ⟨version, hversion, List.mem_map.2 ⟨(id, version), ?_, rfl⟩⟩
  exact List.mem_filter.2 ⟨Std.ExtTreeMap.mem_toList_iff_getElem?_eq_some.2 hversion,
    decide_eq_true hid⟩

/-! ## The package -/

/-- The manifest of the files that are written lists them as they are. -/
theorem manifest_files {filed : List ArchiveEntry}
    (h : List.Forall₂ (Holds hash)
      (evidenceFiles records period ++ policyFiles records period) filed) {manifest : ArchiveEntry}
    (hmanifest : manifest.1 = "manifest.json") :
    (manifestOf hash period now actorEmail (writtenEntries records period scope filed)).files.Perm
      (((writtenEntries records period scope filed ++ [manifest]).filter fun entry =>
        entry.1 ≠ "manifest.json").map (manifestFile hash)) := by
  have hpaths : ((writtenEntries records period scope filed).map Prod.fst ++
    ["manifest.json"]).Nodup := paths_nodup h
  obtain ⟨-, -, hnot⟩ := List.nodup_append.1 hpaths
  have hwritten : (writtenEntries records period scope filed).filter
      (fun entry => entry.1 ≠ "manifest.json") = writtenEntries records period scope filed := by
    refine List.filter_eq_self.2 fun entry hentry => decide_eq_true fun heq => ?_
    exact hnot entry.1 (List.mem_map_of_mem hentry) _ List.mem_cons_self heq
  rw [List.filter_append, hwritten, List.filter_eq_nil_iff.2, List.append_nil]
  · exact List.mergeSort_perm _ _
  · intro entry hentry
    rw [List.mem_singleton.1 hentry, hmanifest]
    decide

/-- A linked evidence-artifact version has exactly one file in the manifest. -/
theorem hasOneFile_evidence {filed : List ArchiveEntry}
    (h : List.Forall₂ (Holds hash)
      (evidenceFiles records period ++ policyFiles records period) filed) {id : Id}
    (hid : id ∈ artifactVersionIds records period) (hrow : id ∈ records.artifactVersions) :
    ∃ version, records.artifactVersions[id]? = some version ∧
      HasOneFile (manifestOf hash period now actorEmail
        (writtenEntries records period scope filed)).files
          (evidenceStem version.artifactId id) version.sha256 := by
  obtain ⟨version, hversion, hfile⟩ := mem_evidenceFiles hid hrow
  exact ⟨version, hversion, hasOneFile h (List.mem_append_left _ hfile)⟩

/-- The package that is made of the entries. -/
theorem intact_package {filed : List ArchiveEntry}
    (h : List.Forall₂ (Holds hash)
      (evidenceFiles records period ++ policyFiles records period) filed) {manifest : Manifest}
    (hmanifest : manifest = manifestOf hash period now actorEmail
      (writtenEntries records period scope filed)) :
    Intact hash records (manifest.package hash (writtenEntries records period scope filed))
      manifest := by
  have hmem : ∀ entry ∈ recordEntries records period scope,
      entry ∈ (manifest.package hash (writtenEntries records period scope filed)).archive := by
    intro entry hentry
    simp [Manifest.package, writtenEntries, hentry]
  constructor
  case manifestStored => exact List.mem_append_right _ List.mem_cons_self
  case manifestSha256 => rfl
  case paths =>
    have hpaths : ((writtenEntries records period scope filed).map Prod.fst ++
      ["manifest.json"]).Nodup := paths_nodup h
    simpa only [Manifest.package, List.map_append, List.map_cons, List.map_nil] using hpaths
  case files =>
    rw [hmanifest]
    exact manifest_files h rfl
  case evidence =>
    intro path hpath
    rcases List.mem_pair.1 hpath with rfl | rfl
    · refine ⟨serializeOccurrences (occurrencesOf records period),
        hmem _ (by simp [recordEntries, jsonEntry]), fun id hid => ?_⟩
      obtain ⟨x, hx, hid⟩ := mem_of_listsEvidence_occurrences hid
      have hrow := Std.ExtTreeMap.mem_toList_iff_getElem?_eq_some.1 (List.mem_of_mem_filter hx)
      rw [hmanifest]
      exact hasOneFile_evidence h (List.mem_append_left _ (List.mem_flatMap.2 ⟨x, hx, hid⟩))
        (records.occurrenceLinks x.1 x.2 hrow id hid)
    · refine ⟨serializeTests (testsOf records period),
        hmem _ (by simp [recordEntries, jsonEntry]), fun id hid => ?_⟩
      obtain ⟨x, hx, hid⟩ := mem_of_listsEvidence_tests hid
      have hrow := Std.ExtTreeMap.mem_toList_iff_getElem?_eq_some.1 (List.mem_of_mem_filter hx)
      rw [hmanifest]
      exact hasOneFile_evidence h (List.mem_append_right _ (List.mem_flatMap.2 ⟨x, hx, hid⟩))
        (records.testLinks x.1 x.2 hrow id hid)
  case policies =>
    refine ⟨policySummaries records period, ?_, fun policyId versionNumber sha256 hlisted => ?_⟩
    · simp [Manifest.package, writtenEntries, jsonEntry]
    · obtain ⟨x, hx, rfl, y, hy, rfl, rfl⟩ := mem_of_listsVersion hlisted
      have hrow := (List.mem_insertionSort _).1 (List.mem_of_mem_filter hy)
      obtain ⟨hrow, hpolicy⟩ := List.mem_filter.1 hrow
      refine ⟨y.1, y.2, Std.ExtTreeMap.mem_toList_iff_getElem?_eq_some.1 hrow,
        of_decide_eq_true hpolicy, rfl, rfl, ?_⟩
      rw [hmanifest]
      exact hasOneFile h (List.mem_append_right _
        (List.mem_flatMap.2 ⟨x, hx, List.mem_map.2 ⟨y, hy, rfl⟩⟩))

/-- A package is made of the entries for the audit period of the scope. -/
theorem entries_of_generateAuditPackage {package : Package}
    (h : generateAuditPackage hash store files records now actorEmail = .ok package) :
    ∃ scope period written, entries hash store files records period scope = .ok written ∧
      package = (manifestOf hash period now actorEmail written).package hash written := by
  unfold generateAuditPackage at h
  split at h
  · cases h
  next scope _ =>
  split at h
  swap
  · cases h
  next startsOn endsOn _ _ =>
  cases hentries : entries hash store files records ⟨startsOn, endsOn⟩ scope with
  | error e =>
    rw [hentries] at h
    cases h
  | ok written =>
    rw [hentries] at h
    exact ⟨scope, _, written, hentries, (Except.ok.inj h).symm⟩

/-- `generate_audit_package` raises an `AuditPackageError` or returns a package that agrees
    with its manifest and has every file that it lists. -/
theorem generateAuditPackage_intact {package : Package}
    (h : generateAuditPackage hash store files records now actorEmail = .ok package) :
    ∃ manifest, Intact hash records package manifest := by
  obtain ⟨scope, period, written, hentries, rfl⟩ := entries_of_generateAuditPackage h
  obtain ⟨filed, hfiled, rfl⟩ := filed_entries hentries
  exact ⟨_, intact_package hfiled rfl⟩

/-! ### A package with a shared piece of evidence -/

/-- The content of a log file, and its hash. -/
def sampleLog : Bytes := [0x6C, 0x6F, 0x67, 0x0A]

/-- The content of a PDF file. -/
def samplePdf : Bytes := [0x25, 0x50, 0x44, 0x46, 0x2D]

/-- SHA-256 on the files of the sample. -/
def sampleHash (content : Bytes) : String :=
  if content = sampleLog then "9b75290f6a6359a2a3471022cbba4b724e45105b313ae8f6c103a2f79e82a857"
  else if content = samplePdf then
    "38523c087796e5d5dd1cf9bad1fb026781a838dd9dd2cf8af58b9f6502a46778"
  else ""

/-- A day of the period, as a time. -/
def sampleTime : Time := 739548 * 86400000000

/-- A captured log file. -/
def sampleCapture (versionNumber : Nat) : EvidenceArtifactVersion where
  artifactId := 4
  versionNumber := versionNumber
  objectKey := "evidence/4/content.log"
  originalFilename := "app.log"
  mediaType := "text/plain"
  byteSize := 4
  sha256 := "9b75290f6a6359a2a3471022cbba4b724e45105b313ae8f6c103a2f79e82a857"
  sourceType := "manual"
  sourceConnectionId := none
  sourceObjectId := none
  sourceRevisionId := none
  sourceModifiedAt := none
  linkedEvidenceSnapshotId := none
  capturedAt := sampleTime
  actorType := "user"
  actorId := none

/-- An occurrence of the control 3 with a piece of evidence. -/
def sampleOccurrence : ControlOccurrences.ControlOccurrence where
  controlId := 3
  controlPeriodId := none
  origin := .manual
  dueAt := none
  performedAt := some sampleTime
  scopeNote := ""
  evidenceNote := ""
  controlDefinitionVersionId := none
  createdAt := sampleTime
  updatedAt := sampleTime
  evidenceArtifacts := [⟨41, 0⟩]

/-- A test of the control 3 with the same piece of evidence and another. -/
def sampleTest : ControlTests.ControlTest where
  controlId := 3
  controlPeriodId := none
  sampleId := none
  procedureDescription := "Read the logs."
  testerPersonId := 9
  performedAt := sampleTime
  result := .noExceptions
  notes := ""
  exceptions := []
  retestOfTestId := none
  createdAt := sampleTime
  updatedAt := sampleTime
  evidenceArtifacts := [⟨41, 0⟩, ⟨42, 0⟩]

/-- The effective version of the policy 7. -/
def sampleVersion : FiledVersion where
  policyId := 7
  versionNumber := 1
  createdAt := sampleTime
  lifecycleStatus := .effective
  effectiveAt := some sampleTime
  storedFilename := "document.pdf"
  mediaType := "application/pdf"
  byteSize := 5
  sha256 := "38523c087796e5d5dd1cf9bad1fb026781a838dd9dd2cf8af58b9f6502a46778"
  originalFilename := "access.pdf"

/-- The declared scope. -/
def sampleScope : ComplianceScope where
  serviceDescription := "Hosting"
  trustServiceCategories := "security,privacy"
  auditPeriodStartsOn := some lastTenDays.startsOn
  auditPeriodEndsOn := some lastTenDays.endsOn
  dataCategories := ""
  locations := ""
  exclusions := ""
  exclusionsRationale := ""
  revision := 1
  createdAt := sampleTime
  updatedAt := sampleTime

/-- The records. -/
def sampleRecords : Records where
  scopes := (∅ : Table ComplianceScope).insert 1 sampleScope
  frameworks := ∅
  controls := ∅
  requirementMappings := []
  occurrences := (∅ : Table ControlOccurrences.ControlOccurrence).insert 11 sampleOccurrence
  tests := (∅ : Table ControlTests.ControlTest).insert 21 sampleTest
  findings := ∅
  snapshots := ∅
  artifactVersions :=
    ((∅ : Table EvidenceArtifactVersion).insert 41 (sampleCapture 1)).insert 42 (sampleCapture 2)
  policies := (∅ : Table Policy).insert 7 ⟨"Access", "Ann"⟩
  policyVersions := (∅ : Table FiledVersion).insert 71 sampleVersion
  policyControlMappings := [(7, 3)]
  occurrenceLinks := by
    refine Table.forall_of_toList ?_
    decide
  testLinks := by
    refine Table.forall_of_toList ?_
    decide
  versionNumbers := by
    intro k k' v v' hv hv' _ _
    have hk : ∀ (k : Id) v, ((∅ : Table FiledVersion).insert 71 sampleVersion)[k]? = some v →
        k = 71 := Table.forall_of_toList (by decide)
    exact (hk k v hv).trans (hk k' v' hv').symm

/-- The evidence repository. -/
def sampleStore : EvidenceStore := ⟨true, fun _ => .ok sampleLog⟩

/-- The policy files. -/
def sampleFiles : Files := FileTree.empty.put (7, 1) "document.pdf" samplePdf

/-- `generateAuditPackage_intact` of the sample. -/
theorem generateAuditPackage_intact_sample :
    ∃ package, generateAuditPackage sampleHash sampleStore sampleFiles sampleRecords sampleTime
        "ann@example.com" = .ok package ∧
      ∃ manifest, Intact sampleHash sampleRecords package manifest := by
  obtain ⟨package, hpackage⟩ : ∃ package, generateAuditPackage sampleHash sampleStore sampleFiles
    sampleRecords sampleTime "ann@example.com" = .ok package := ⟨_, rfl⟩
  exact ⟨package, hpackage, generateAuditPackage_intact hpackage⟩

end MiniGrc.AuditPackage
