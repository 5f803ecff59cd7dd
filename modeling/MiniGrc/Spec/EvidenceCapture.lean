import MiniGrc.App.EvidenceCapture
import MiniGrc.ForStd.Run
import MiniGrc.Spec.Dates
import Mathlib.Tactic.Common

/-!
# Captures of evidence from several sessions

What holds in every run of interleaved captures. A session that has loaded an artifact's
versions has loaded all that were committed, with the numbers below the next one; a row
with the next number can only be committed while these still are all the versions of the
artifact. A version's object lies under a key of the version's own id, and no step but
those of the call that has drawn the id touches it.

## Key results

- `objectKeyFor_inj`: the key determines the artifact and the version
- `State.Inv.step`: every step keeps the invariant
- `captures_sound`: the rows and the objects of every run
-/

namespace MiniGrc.EvidenceCapture

open Events EvidenceRepository

variable {ι : Type} {sha256 : Bytes → String}

/-! ## Object keys -/

/-- Where the parts of a key stand. -/
theorem objectKeyFor_toList (artifactId versionId : Id) (extension : String) :
    ∃ rest, (objectKeyFor artifactId versionId extension).toList =
      "evidence/".toList ++ ((toString artifactId).toList ++
        '/' :: ((toString versionId).toList ++ '/' :: rest)) := by
  unfold objectKeyFor
  let safe := String.ofList ((extension.toList.filter Char.isAlphanum).take 16)
  refine ⟨"content.".toList ++ (if safe = "" then "bin" else safe).toList, ?_⟩
  simp only [String.toList_append, List.append_assoc]
  rfl

/-- The key determines the artifact and the version. -/
theorem objectKeyFor_inj {a a' k k' : Id} {e e' : String}
    (h : objectKeyFor a k e = objectKeyFor a' k' e') : a = a' ∧ k = k' := by
  have hdigits : ∀ n : Nat, '/' ∉ (toString n).toList := fun n hmem => by
    cases isDigit_of_mem_toString hmem
  obtain ⟨rest, hkey⟩ := objectKeyFor_toList a k e
  obtain ⟨rest', hkey'⟩ := objectKeyFor_toList a' k' e'
  have hlist := hkey.symm.trans ((congrArg String.toList h).trans hkey')
  rw [List.append_cancel_left_eq] at hlist
  obtain ⟨hartifact, hlist⟩ := List.separated_inj (hdigits a) (hdigits a') hlist
  obtain ⟨hversion, -⟩ := List.separated_inj (hdigits k) (hdigits k') hlist
  exact ⟨toString_nat_injective (String.toList_inj.1 hartifact),
    toString_nat_injective (String.toList_inj.1 hversion)⟩

/-! ## What a call writes -/

section Row

variable (call : Call sha256) (artifactId id : Id) (versionNumber : Nat) (recordedAt : Time)

@[simp] theorem row_artifactId :
    (call.row artifactId id versionNumber recordedAt).artifactId = artifactId := rfl

@[simp] theorem row_versionNumber :
    (call.row artifactId id versionNumber recordedAt).versionNumber = versionNumber := rfl

/-- In a session by itself a call appends the same event. -/
theorem captureEvidenceVersion_eq (P : Projection (Table EvidenceArtifactVersion) Body)
    (clock : Clock) (s : EvidenceSession) :
    captureEvidenceVersion P clock s id artifactId call.file call.actor call.occurredAt =
      if ∃ v ∈ versionsOf s.rows artifactId, v.sha256 = call.file.sha256 then .returned s
      else appendAndProject P clock s
        { aggregate := id
          body := .captured (call.payload artifactId id
            (nextVersionNumber (versionsOf s.rows artifactId)))
          occurredAt := call.occurredAt, actorType := call.actor.actorType
          actorId := call.actor.actorId } := rfl

end Row

/-! ## Versions -/

/-- The versions of an artifact are its rows. -/
theorem mem_versionsOf {rows : Table EvidenceArtifactVersion} {artifactId : Id}
    {v : EvidenceArtifactVersion} :
    v ∈ versionsOf rows artifactId ↔ v.artifactId = artifactId ∧ ∃ k : Nat, rows[k]? = some v := by
  simp only [versionsOf, List.mem_filter, List.mem_map, Prod.exists, exists_eq_right,
    Std.ExtTreeMap.mem_toList_iff_getElem?_eq_some, decide_eq_true_eq]
  exact and_comm

/-- The next number after versions with the numbers from 1 to `n`. -/
theorem nextVersionNumber_eq {versions : List EvidenceArtifactVersion} {n : Nat}
    (h : ∀ m, (∃ v ∈ versions, v.versionNumber = m) ↔ 1 ≤ m ∧ m ≤ n) :
    nextVersionNumber versions = n + 1 := by
  have hmem : ∀ m, m ∈ versions.map (fun v => v.versionNumber) ↔ 1 ≤ m ∧ m ≤ n := fun m => by
    rw [List.mem_map, h]
  unfold nextVersionNumber
  split
  · next latest hmax =>
    obtain ⟨hlatest, hle⟩ := List.max?_eq_some_iff.1 hmax
    have hbound := (hmem latest).1 hlatest
    have hn := hle n ((hmem n).2 ⟨by omega, Nat.le_refl n⟩)
    omega
  · next hnone =>
    rw [List.max?_eq_none_iff] at hnone
    by_contra hn
    have hone := (hmem 1).2 ⟨Nat.le_refl 1, by omega⟩
    rw [hnone] at hone
    cases hone

/-- Numbers begin with 1. -/
theorem one_le_nextVersionNumber (versions : List EvidenceArtifactVersion) :
    1 ≤ nextVersionNumber versions := by
  unfold nextVersionNumber
  split <;> omega

/-- The versions of an artifact have the numbers from 1 on. -/
def Numbered (rows : Table EvidenceArtifactVersion) (artifactId : Id) (n : Nat) : Prop :=
  ∀ m, (∃ v ∈ versionsOf rows artifactId, v.versionNumber = m) ↔ 1 ≤ m ∧ m ≤ n

/-- The loaded versions were all versions of the artifact. -/
structure Snapshot (rows : Table EvidenceArtifactVersion) (loaded : Loaded) : Prop where
  mem : ∀ v ∈ loaded.versions, v ∈ versionsOf rows loaded.artifactId
  numbers : ∀ m, (∃ v ∈ loaded.versions, v.versionNumber = m) ↔
    1 ≤ m ∧ m < nextVersionNumber loaded.versions

/-- None of the loaded versions has the content of the call. -/
def IsNew (loaded : Loaded) (call : Call sha256) : Prop :=
  ∀ v ∈ loaded.versions, v.sha256 ≠ call.file.sha256

/-- What is loaded stays a part of the versions. -/
theorem Snapshot.mono {rows rows' : Table EvidenceArtifactVersion} {loaded : Loaded}
    (h : Snapshot rows loaded)
    (hsub : ∀ (k : Nat) r, rows[k]? = some r → rows'[k]? = some r) : Snapshot rows' loaded where
  mem v hv := by
    obtain ⟨hartifact, k, hk⟩ := mem_versionsOf.1 (h.mem v hv)
    exact mem_versionsOf.2 ⟨hartifact, k, hsub k v hk⟩
  numbers := h.numbers

/-- What is read now is a snapshot. -/
theorem Snapshot.of_numbered {rows : Table EvidenceArtifactVersion} {artifactId : Id} {n : Nat}
    (h : Numbered rows artifactId n) : Snapshot rows ⟨artifactId, versionsOf rows artifactId⟩ where
  mem _ hv := hv
  numbers m := by
    rw [nextVersionNumber_eq h, h m, Nat.lt_succ_iff]

/-! ## What a step does -/

variable [DecidableEq ι]

/-- What a step does to the state. -/
inductive Effect [Fintype ι] (s : State ι sha256) : Label ι sha256 → State ι sha256 → Prop
  | loaded {i artifactId} : s.pc i = .idle → Effect s (.load i artifactId)
      (s.goto i (.opened ⟨artifactId, versionsOf (s.rows.visible i) artifactId⟩))
  | found {i call id loaded existing} : s.pc i = .opened loaded → existing ∈ loaded.versions →
      Effect s (.call i call id) (s.goto i (.found existing))
  | drawn {i call id loaded} : s.pc i = .opened loaded → IsNew loaded call → id ∉ s.drawn →
      Effect s (.call i call id) (s.draw i loaded call id)
  | stored {i loaded call id} : s.pc i = .uploading loaded call id →
      Effect s (.upload i .stored)
        ((s.put (call.objectKey loaded id) call.content).goto i (.appending loaded call id))
  | uploadFailed {i loaded call id} : s.pc i = .uploading loaded call id →
      Effect s (.upload i .failed) (s.goto i .raised)
  | uploadLost {i loaded call id} : s.pc i = .uploading loaded call id →
      Effect s (.upload i .lost)
        ((s.put (call.objectKey loaded id) call.content).goto i .raised)
  | refused {i recordedAt loaded call id} : s.pc i = .appending loaded call id →
      Effect s (.append i recordedAt) (s.goto i (.deleting loaded call id))
  | created {i recordedAt loaded call id row} : s.pc i = .appending loaded call id →
      row = call.row loaded.artifactId id (nextVersionNumber loaded.versions) recordedAt →
      constraints.Admits s.rows.committed id row → ¬ s.rows.Waits i constraints.conflict row →
      Effect s (.append i recordedAt) (s.create i loaded call id row)
  | appendFailed {i loaded call id} : s.pc i = .appending loaded call id →
      Effect s (.appendFails i) (s.goto i (.deleting loaded call id))
  | deleted {i loaded call id} : s.pc i = .deleting loaded call id →
      Effect s (.delete i true) ((s.remove (call.objectKey loaded id)).goto i .raised)
  | kept {i loaded call id} : s.pc i = .deleting loaded call id →
      Effect s (.delete i false) (s.goto i .raised)
  | committedFound {i existing} : s.pc i = .found existing → Effect s (.commit i) (s.commit i)
  | committed {i loaded call id} : s.pc i = .created loaded call id →
      Effect s (.commit i) (s.commit i)
  | rolledBack {i} : Effect s (.rollback i) (s.rollback i)

variable {s u : State ι sha256} {l : Label ι sha256} {i j : ι} {loaded : Loaded}
  {call : Call sha256} {id : Id}

/-- What beginning a capture does. -/
theorem call_effect [Fintype ι] (h : step s (.call i call id) = some u) :
    Effect s (.call i call id) u := by
  simp only [step] at h
  -- The same content is found as it is; new content draws an identifier.
  split at h
  · next hpc =>
    split at h
    · next hfind =>
      cases h
      exact .found hpc (List.mem_of_find?_eq_some hfind)
    next hfind =>
    split at h
    · cases h
    · next hid =>
      cases h
      refine .drawn hpc (fun v hv heq => ?_) hid
      exact absurd (decide_eq_true heq) (List.find?_eq_none.1 hfind v hv)
  · cases h

/-- What appending the version does. -/
theorem append_effect [Fintype ι] {recordedAt : Time} (h : step s (.append i recordedAt) = some u) :
    Effect s (.append i recordedAt) u := by
  simp only [step] at h
  -- A conflicting row refuses the insert, and an open one makes it wait.
  split at h
  · next hpc =>
    split at h
    · cases h
      exact .refused hpc
    next hadmits =>
    split at h
    · cases h
    · next hwaits =>
      cases h
      exact .created hpc rfl (Classical.not_not.1 hadmits) hwaits
  · cases h

/-- What every step does, with its guards. -/
theorem step_effect [Fintype ι] (h : step s l = some u) : Effect s l u := by
  -- The capture and the append have lemmas of their own.
  cases l with
  | load i artifactId =>
    simp only [step] at h
    split at h
    · next hpc =>
      cases h
      exact .loaded hpc
    · cases h
  | call i call id => exact call_effect h
  | upload i outcome =>
    simp only [step] at h
    split at h
    · next hpc =>
      cases outcome with
      | stored =>
        cases h
        exact .stored hpc
      | failed =>
        cases h
        exact .uploadFailed hpc
      | lost =>
        cases h
        exact .uploadLost hpc
    · cases h
  | append i recordedAt => exact append_effect h
  | appendFails i =>
    simp only [step] at h
    split at h
    · next hpc =>
      cases h
      exact .appendFailed hpc
    · cases h
  | delete i deleted =>
    simp only [step] at h
    split at h
    · next hpc =>
      cases deleted with
      | true =>
        cases h
        exact .deleted hpc
      | false =>
        cases h
        exact .kept hpc
    · cases h
  | commit i =>
    simp only [step] at h
    split at h
    · next hpc =>
      cases h
      exact .committedFound hpc
    · next hpc =>
      cases h
      exact .committed hpc
    · cases h
  | rollback i =>
    cases h
    exact .rolledBack

/-! ## The invariant -/

/-- The id that a session's call has drawn. -/
def Pc.held : Pc sha256 → Option Id
  | .uploading _ _ id | .appending _ _ id | .deleting _ _ id | .created _ _ id => some id
  | .idle | .opened _ | .found _ | .raised => none

/-- The object of a row is stored, under a key of its own. -/
def Stored (sha256 : Bytes → String) (objects : ObjectStore) (k : Id)
    (r : EvidenceArtifactVersion) : Prop :=
  (∃ content, objects[r.objectKey]? = some content ∧ r.sha256 = sha256 content ∧
    r.byteSize = content.length) ∧
  ∃ extension, r.objectKey = objectKeyFor r.artifactId k extension

/-- What holds of the rows and the objects of a session, by where it stands. -/
def At (rows : OpenRows ι EvidenceArtifactVersion) (objects : ObjectStore) (i : ι) :
    Pc sha256 → Prop
  | .idle | .found _ | .raised => ∀ k : Nat, (rows.own i)[k]? = none
  | .opened loaded => (∀ k : Nat, (rows.own i)[k]? = none) ∧ Snapshot rows.committed loaded
  | .uploading loaded call id => (∀ k : Nat, (rows.own i)[k]? = none) ∧ rows.Unused id ∧
    Snapshot rows.committed loaded ∧ IsNew loaded call
  | .appending loaded call id => (∀ k : Nat, (rows.own i)[k]? = none) ∧ rows.Unused id ∧
    Snapshot rows.committed loaded ∧ IsNew loaded call ∧
    objects[call.objectKey loaded id]? = some call.content
  | .deleting _ _ id => (∀ k : Nat, (rows.own i)[k]? = none) ∧ rows.Unused id
  | .created loaded call id => (∀ (k : Nat) r, (rows.own i)[k]? = some r → k = id ∧ ∃ recordedAt,
      r = call.row loaded.artifactId id (nextVersionNumber loaded.versions) recordedAt) ∧
    Snapshot rows.committed loaded ∧ IsNew loaded call

/-- What holds in every state of a run. -/
structure State.Inv (s : State ι sha256) : Prop where
  onlyInserts : s.rows.OnlyInserts
  consistent : s.rows.Consistent constraints.conflict
  numbered : ∀ artifactId, ∃ n, Numbered s.rows.committed artifactId n
  distinct : ∀ (k k' : Nat) r r', s.rows.committed[k]? = some r → s.rows.committed[k']? = some r' →
    r.artifactId = r'.artifactId → k ≠ k' → r.sha256 ≠ r'.sha256
  stored : ∀ (k : Nat) r, s.rows.Has k r → Stored sha256 s.objects k r
  drawn : ∀ (k : Nat) r, s.rows.Has k r → k ∈ s.drawn
  held : ∀ i j id, (s.pc i).held = some id → (s.pc j).held = some id → i = j
  heldDrawn : ∀ i id, (s.pc i).held = some id → id ∈ s.drawn
  session : ∀ i, At s.rows s.objects i (s.pc i)

omit [DecidableEq ι] in
/-- No row is there yet, and the objects that are there belong to nothing. -/
theorem State.inv_initial (objects : ObjectStore) :
    (State.initial objects : State ι sha256).Inv where
  onlyInserts := OpenRows.onlyInserts_closed ∅
  consistent := OpenRows.consistent_closed _
  numbered artifactId := ⟨0, fun m => by
    simp [State.initial, OpenRows.closed, mem_versionsOf]
    omega⟩
  distinct k k' r r' h := by simp [State.initial, OpenRows.closed] at h
  stored k r h := by simp [State.initial, OpenRows.Has, OpenRows.closed] at h
  drawn k r h := by simp [State.initial, OpenRows.Has, OpenRows.closed] at h
  held i j id h := by cases h
  heldDrawn i id h := by cases h
  session i := by simp [State.initial, At, OpenRows.closed]

omit [DecidableEq ι] in
/-- A session stays as it is while the others go on. -/
theorem At.mono {rows rows' : OpenRows ι EvidenceArtifactVersion} {objects objects' : ObjectStore}
    {pc : Pc sha256} (h : At rows objects i pc) (hown : rows'.own i = rows.own i)
    (hcommitted : ∀ (k : Nat) r, rows.committed[k]? = some r → rows'.committed[k]? = some r)
    (hunused : ∀ id, pc.held = some id → rows.Unused id → rows'.Unused id)
    (hobjects : ∀ loaded call id, pc = .appending loaded call id →
      objects'[call.objectKey loaded id]? = objects[call.objectKey loaded id]?) :
    At rows' objects' i pc := by
  -- Each place is about rows that stay and objects that are the same.
  cases pc with
  | idle | found _ | raised => simpa only [At, hown] using h
  | opened loaded =>
    obtain ⟨hnone, hsnapshot⟩ := h
    exact ⟨hown ▸ hnone, hsnapshot.mono hcommitted⟩
  | uploading loaded call id =>
    obtain ⟨hnone, hid, hsnapshot, hnew⟩ := h
    exact ⟨hown ▸ hnone, hunused id rfl hid, hsnapshot.mono hcommitted, hnew⟩
  | appending loaded call id =>
    obtain ⟨hnone, hid, hsnapshot, hnew, hobject⟩ := h
    exact ⟨hown ▸ hnone, hunused id rfl hid, hsnapshot.mono hcommitted, hnew,
      (hobjects loaded call id rfl).trans hobject⟩
  | deleting loaded call id => exact ⟨hown ▸ h.1, hunused id rfl h.2⟩
  | created loaded call id =>
    obtain ⟨hrow, hsnapshot, hnew⟩ := h
    exact ⟨hown ▸ hrow, hsnapshot.mono hcommitted, hnew⟩

/-- The session that moves on is where it moves to. -/
@[simp] theorem goto_pc_self {pc : Pc sha256} : (s.goto i pc).pc i = pc := Function.update_self ..

/-- The other sessions stay where they are. -/
theorem goto_pc_ne {pc : Pc sha256} (h : j ≠ i) : (s.goto i pc).pc j = s.pc j :=
  Function.update_of_ne h ..

/-- A session that becomes idle holds no id. -/
theorem held_of_idle (h : ((Function.update s.pc i .idle) j).held = some id) :
    (s.pc j).held = some id := by
  by_cases hji : j = i
  · subst hji
    rw [Function.update_self] at h
    cases h
  · rwa [Function.update_of_ne hji] at h

section Objects

omit [DecidableEq ι]

variable {objectKey objectKey' : String} {content : Bytes}

/-- The object put is found under its key. -/
theorem put_self : (s.put objectKey content).objects[objectKey]? = some content := by
  simp [State.put]

/-- The other objects stay. -/
theorem put_of_ne (h : objectKey ≠ objectKey') :
    (s.put objectKey content).objects[objectKey']? = s.objects[objectKey']? := by
  simp [State.put, Std.ExtTreeMap.getElem?_insert, h]

/-- The other objects stay. -/
theorem remove_of_ne (h : objectKey ≠ objectKey') :
    (s.remove objectKey).objects[objectKey']? = s.objects[objectKey']? := by
  simp [State.remove, Std.ExtTreeMap.getElem?_erase, h]

end Objects

namespace State.Inv

omit [DecidableEq ι] in
/-- What holds of a session at its place. -/
theorem at_pc (h : s.Inv) {pc : Pc sha256} (hpc : s.pc i = pc) : At s.rows s.objects i pc :=
  hpc ▸ h.session i

omit [DecidableEq ι] in
/-- Two sessions have not drawn the same id. -/
theorem held_ne (h : s.Inv) (hi : (s.pc i).held = some id) (hij : j ≠ i) {k : Id}
    (hj : (s.pc j).held = some k) : id ≠ k := by
  rintro rfl
  exact hij (h.held j i id hj hi)

/-- A session goes on with the id that it has drawn, or without one. -/
theorem goto (h : s.Inv) {pc : Pc sha256} (hat : At s.rows s.objects i pc)
    (hheld : ∀ id, pc.held = some id → (s.pc i).held = some id) : (s.goto i pc).Inv := by
  have hold : ∀ j id, ((s.goto i pc).pc j).held = some id → (s.pc j).held = some id := by
    intro j id hj
    -- Only the session that moves on has to be looked at.
    by_cases hji : j = i
    · subst hji
      rw [goto_pc_self] at hj
      exact hheld id hj
    · rwa [goto_pc_ne hji] at hj
  exact {
    onlyInserts := h.onlyInserts
    consistent := h.consistent
    numbered := h.numbered
    distinct := h.distinct
    stored := h.stored
    drawn := h.drawn
    held := fun j j' id hj hj' => h.held j j' id (hold j id hj) (hold j' id hj')
    heldDrawn := fun j id hj => h.heldDrawn j id (hold j id hj)
    session := fun j => by
      by_cases hji : j = i
      · subst hji
        rw [goto_pc_self]
        exact hat
      · rw [goto_pc_ne hji]
        exact h.session j }

/-- The content is new, and the call draws its id. -/
theorem draw (h : s.Inv) (hpc : s.pc i = .opened loaded) (hnew : IsNew loaded call)
    (hid : id ∉ s.drawn) : (s.draw i loaded call id).Inv := by
  obtain ⟨hnone, hsnapshot⟩ := h.at_pc hpc
  have hunused : s.rows.Unused id := by
    refine ⟨?_, fun j => ?_⟩ <;> by_contra hne <;>
      obtain ⟨r, hr⟩ := Option.ne_none_iff_exists'.1 hne
    · exact hid (h.drawn id r (.inl hr))
    · exact hid (h.drawn id r (.inr ⟨j, hr⟩))
  have hpcs : ∀ j, j ≠ i → (s.draw i loaded call id).pc j = s.pc j := fun j hj => goto_pc_ne hj
  have hself : (s.draw i loaded call id).pc i = .uploading loaded call id := goto_pc_self
  have hheld : ∀ j, ((s.draw i loaded call id).pc j).held = some id → j = i := by
    intro j hj
    by_contra hji
    rw [hpcs j hji] at hj
    exact hid (h.heldDrawn j id hj)
  exact {
    onlyInserts := h.onlyInserts
    consistent := h.consistent
    numbered := h.numbered
    distinct := h.distinct
    stored := h.stored
    drawn := fun k r hr => List.mem_cons_of_mem _ (h.drawn k r hr)
    held := fun j j' k hj hj' => by
      by_cases hk : k = id
      · subst hk
        rw [hheld j hj, hheld j' hj']
      have hne : ∀ j, ((s.draw i loaded call id).pc j).held = some k → j ≠ i := by
        rintro j hj rfl
        rw [hself] at hj
        exact hk (Option.some.inj hj).symm
      rw [hpcs j (hne j hj)] at hj
      rw [hpcs j' (hne j' hj')] at hj'
      exact h.held j j' k hj hj'
    heldDrawn := fun j k hj => by
      by_cases hji : j = i
      · subst hji
        rw [hself] at hj
        cases hj
        exact List.mem_cons_self
      · rw [hpcs j hji] at hj
        exact List.mem_cons_of_mem _ (h.heldDrawn j k hj)
    session := fun j => by
      by_cases hji : j = i
      · subst hji
        rw [hself]
        exact ⟨hnone, hunused, hsnapshot, hnew⟩
      · rw [hpcs j hji]
        exact h.session j }

omit [DecidableEq ι] in
/-- The object of a version that is not there yet may change. -/
theorem setObjects (h : s.Inv) {objects : ObjectStore} (hheld : (s.pc i).held = some id)
    (hunused : s.rows.Unused id) (hpc : ∀ loaded call id, s.pc i ≠ .appending loaded call id)
    (hframe : ∀ a k e, k ≠ id →
      objects[objectKeyFor a k e]? = s.objects[objectKeyFor a k e]?) :
    ({ s with objects := objects } : State ι sha256).Inv where
  onlyInserts := h.onlyInserts
  consistent := h.consistent
  numbered := h.numbered
  distinct := h.distinct
  stored k r hr := by
    obtain ⟨hcontent, e, hkey⟩ := h.stored k r hr
    refine ⟨?_, e, hkey⟩
    rw [hkey] at hcontent ⊢
    rwa [hframe]
    rintro rfl
    obtain hr | ⟨j, hr⟩ := hr
    · cases hunused.1.symm.trans hr
    · cases (hunused.2 j).symm.trans hr
  drawn := h.drawn
  held := h.held
  heldDrawn := h.heldDrawn
  session j := by
    refine (h.session j).mono rfl (fun _ _ hk => hk) (fun _ _ hk => hk) fun loaded call k hj => ?_
    refine hframe _ k _ fun hk => ?_
    have hji : j = i := h.held j i id (by rw [hj, ← hk]; rfl) hheld
    subst hji
    exact hpc loaded call k hj

omit [DecidableEq ι] in
/-- A row that could still be written with the next number after the loaded versions:
    these are all versions of the artifact. -/
theorem all_loaded (h : s.Inv) {k : Nat} {r : EvidenceArtifactVersion}
    (hsnapshot : Snapshot s.rows.committed loaded) (hr : (s.rows.own i)[k]? = some r)
    (hartifact : r.artifactId = loaded.artifactId)
    (hnumber : r.versionNumber = nextVersionNumber loaded.versions) :
    (∀ m, (∃ v ∈ versionsOf s.rows.committed loaded.artifactId, v.versionNumber = m) ↔
      1 ≤ m ∧ m < nextVersionNumber loaded.versions) ∧
    ∀ v ∈ versionsOf s.rows.committed loaded.artifactId, v ∈ loaded.versions := by
  obtain ⟨n, hnumbered⟩ := h.numbered loaded.artifactId
  -- the number is free, since the row does not conflict with a committed one
  have hfree : ∀ v ∈ versionsOf s.rows.committed loaded.artifactId,
      v.versionNumber ≠ nextVersionNumber loaded.versions := by
    intro v hv heq
    obtain ⟨hva, k', hk'⟩ := mem_versionsOf.1 hv
    have hne : k ≠ k' := by
      rintro rfl
      cases (h.onlyInserts i k r hr).1.symm.trans hk'
    have hconflict := h.consistent k k' r v (.inr ⟨i, hr⟩) (.inl hk') hne
    simp [constraints, hartifact, hva, hnumber, heq] at hconflict
  have hn : ∀ m, 1 ≤ m → m ≤ n → m < nextVersionNumber loaded.versions := by
    intro m hm hmn
    by_contra hge
    obtain ⟨v, hv, hvm⟩ := (hnumbered (nextVersionNumber loaded.versions)).2
      ⟨one_le_nextVersionNumber _, by omega⟩
    exact hfree v hv hvm
  have hloaded : ∀ m, (∃ v ∈ loaded.versions, v.versionNumber = m) →
      ∃ v ∈ versionsOf s.rows.committed loaded.artifactId, v.versionNumber = m :=
    fun m ⟨v, hv, hvm⟩ => ⟨v, hsnapshot.mem v hv, hvm⟩
  refine ⟨fun m => ⟨fun hm => ?_, fun hm => hloaded m ((hsnapshot.numbers m).2 hm)⟩,
    fun v hv => ?_⟩
  · obtain ⟨hone, hle⟩ := (hnumbered m).1 hm
    exact ⟨hone, hn m hone hle⟩
  · obtain ⟨hone, hle⟩ := (hnumbered v.versionNumber).1 ⟨v, hv, rfl⟩
    obtain ⟨w, hw, hnum⟩ := (hsnapshot.numbers v.versionNumber).2 ⟨hone, hn _ hone hle⟩
    obtain ⟨hwa, k₁, hk₁⟩ := mem_versionsOf.1 (hsnapshot.mem w hw)
    obtain ⟨hva, k₂, hk₂⟩ := mem_versionsOf.1 hv
    -- two versions of the artifact with one number are the same row
    have hkeys : k₁ = k₂ := by
      by_contra hne
      have hconflict := h.consistent k₁ k₂ w v (.inl hk₁) (.inl hk₂) hne
      simp [constraints, hwa, hva, hnum] at hconflict
    subst hkeys
    cases hk₁.symm.trans hk₂
    exact hw

/-- The event is appended, and the row is the only one of its transaction. -/
theorem create (h : s.Inv) {recordedAt : Time} {row : EvidenceArtifactVersion}
    (hpc : s.pc i = .appending loaded call id)
    (hrow : row = call.row loaded.artifactId id (nextVersionNumber loaded.versions) recordedAt)
    (hadmits : constraints.Admits s.rows.committed id row)
    (hwaits : ¬ s.rows.Waits i constraints.conflict row) :
    (s.create i loaded call id row).Inv := by
  obtain ⟨hnone, hunused, hsnapshot, hnew, hobject⟩ := h.at_pc hpc
  have hheld : (s.pc i).held = some id := by rw [hpc]; rfl
  have hpcs : ∀ j, j ≠ i → (s.create i loaded call id row).pc j = s.pc j :=
    fun j hj => goto_pc_ne hj
  have hself : (s.create i loaded call id row).pc i = .created loaded call id := goto_pc_self
  have hold : ∀ j k, ((s.create i loaded call id row).pc j).held = some k →
      (s.pc j).held = some k := by
    intro j k hj
    by_cases hji : j = i
    · subst hji
      rw [hself] at hj
      rw [hheld]
      exact hj
    · rwa [hpcs j hji] at hj
  exact {
    onlyInserts := h.onlyInserts.write hunused.1 fun j _ => hunused.2 j
    consistent := h.consistent.write
      (fun x y => by simp [constraints, eq_comm])
      fun a x hx hne => OpenRows.conflict_eq_false hadmits.1 hwaits
        (fun a x ha => by cases (hnone a).symm.trans ha) hx hne
    numbered := h.numbered
    distinct := h.distinct
    stored := fun k r hr => by
      obtain ⟨rfl, rfl⟩ | hr := OpenRows.has_write hr
      · subst hrow
        exact ⟨⟨call.content, hobject, call.sha256_eq, call.byteSize_eq⟩, call.file.extension, rfl⟩
      · exact h.stored k r hr
    drawn := fun k r hr => by
      obtain ⟨rfl, rfl⟩ | hr := OpenRows.has_write hr
      · exact h.heldDrawn i _ hheld
      · exact h.drawn k r hr
    held := fun j j' k hj hj' => h.held j j' k (hold j k hj) (hold j' k hj')
    heldDrawn := fun j k hj => h.heldDrawn j k (hold j k hj)
    session := fun j => by
      by_cases hji : j = i
      · subst hji
        rw [hself]
        refine ⟨fun k r hr => ?_, hsnapshot, hnew⟩
        simp only [State.create, OpenRows.write_own_self] at hr
        split at hr
        · next hk => exact ⟨hk.symm, recordedAt, (Option.some.inj hr).symm.trans hrow⟩
        · cases (hnone k).symm.trans hr
      · rw [hpcs j hji]
        refine (h.session j).mono (OpenRows.write_own_ne hji) (fun _ _ hk => hk)
          (fun k hk hkunused => hkunused.write (h.held_ne hheld hji hk)) fun _ _ _ _ => rfl }

/-- The versions of an artifact after a commit. -/
theorem mem_versionsOf_commit (h : s.Inv) {artifactId : Id} {v : EvidenceArtifactVersion} :
    v ∈ versionsOf (s.rows.commit i).committed artifactId ↔
      v ∈ versionsOf s.rows.committed artifactId ∨
        (v.artifactId = artifactId ∧ ∃ k : Nat, (s.rows.own i)[k]? = some v) := by
  simp only [mem_versionsOf, OpenRows.get_commit, OpenRows.row, Option.or_eq_some_iff]
  constructor
  · rintro ⟨hv, k, hown | ⟨-, hk⟩⟩
    · exact .inr ⟨hv, k, hown⟩
    · exact .inl ⟨hv, k, hk⟩
  · rintro (⟨hv, k, hk⟩ | ⟨hv, k, hk⟩)
    · exact ⟨hv, k, .inr ⟨h.onlyInserts.own_eq_none hk i, hk⟩⟩
    · exact ⟨hv, k, .inl hk⟩

/-- A transaction commits the next version of its artifact, or nothing. -/
theorem commit (h : s.Inv) (hrow : ∀ (k : Nat) r, (s.rows.own i)[k]? = some r →
      ∃ loaded, ∃ call : Call sha256, ∃ recordedAt, Snapshot s.rows.committed loaded ∧
        IsNew loaded call ∧ r = call.row loaded.artifactId k
          (nextVersionNumber loaded.versions) recordedAt)
    (honly : ∀ (k k' : Nat) r r', (s.rows.own i)[k]? = some r → (s.rows.own i)[k']? = some r' →
      k = k') : (s.commit i).Inv where
  onlyInserts := h.onlyInserts.commit
  consistent := h.consistent.commit
  numbered artifactId := by
    by_cases hown : ∃ (k : Nat) (r : EvidenceArtifactVersion),
      (s.rows.own i)[k]? = some r ∧ r.artifactId = artifactId
    · obtain ⟨k, r, hr, rfl⟩ := hown
      obtain ⟨loaded, call, recordedAt, hsnapshot, -, rfl⟩ := hrow k r hr
      obtain ⟨hnumbers, -⟩ := h.all_loaded hsnapshot hr rfl rfl
      refine ⟨nextVersionNumber loaded.versions, fun m => ?_⟩
      simp only [State.commit, h.mem_versionsOf_commit, or_and_right, exists_or, row_artifactId,
        hnumbers]
      constructor
      · rintro (⟨hone, hlt⟩ | ⟨v, ⟨-, k', hk'⟩, rfl⟩)
        · exact ⟨hone, Nat.le_of_lt hlt⟩
        · cases honly k k' _ _ hr hk'
          cases hr.symm.trans hk'
          exact ⟨one_le_nextVersionNumber _, Nat.le_refl _⟩
      · rintro ⟨hone, hle⟩
        obtain hlt | heq := Nat.lt_or_eq_of_le hle
        · exact .inl ⟨hone, hlt⟩
        · exact .inr ⟨_, ⟨rfl, k, hr⟩, heq.symm⟩
    · obtain ⟨n, hnumbered⟩ := h.numbered artifactId
      refine ⟨n, fun m => ?_⟩
      rw [← hnumbered m]
      simp only [State.commit, h.mem_versionsOf_commit]
      refine exists_congr fun v => and_congr_left fun _ => or_iff_left ?_
      rintro ⟨hv, k, hk⟩
      exact hown ⟨k, v, hk, hv⟩
  distinct := by
    -- a committed version of the artifact was loaded, and none of these has the content
    have hdistinct : ∀ (k k' : Nat) r r', (s.rows.own i)[k]? = some r →
        s.rows.committed[k']? = some r' → r.artifactId = r'.artifactId → r.sha256 ≠ r'.sha256 := by
      intro k k' r r' hr hr' hartifact
      obtain ⟨loaded, call, recordedAt, hsnapshot, hnew, rfl⟩ := hrow k r hr
      obtain ⟨-, hall⟩ := h.all_loaded hsnapshot hr rfl rfl
      exact Ne.symm (hnew r' (hall r' (mem_versionsOf.2 ⟨hartifact.symm, k', hr'⟩)))
    intro k k' r r' hr hr' hartifact hne
    rw [State.commit, OpenRows.get_commit, OpenRows.row, Option.or_eq_some_iff] at hr hr'
    obtain hr | ⟨-, hr⟩ := hr <;> obtain hr' | ⟨-, hr'⟩ := hr'
    · exact absurd (honly k k' r r' hr hr') hne
    · exact hdistinct k k' r r' hr hr' hartifact
    · exact Ne.symm (hdistinct k' k r' r hr' hr hartifact.symm)
    · exact h.distinct k k' r r' hr hr' hartifact hne
  stored k r hr := h.stored k r (OpenRows.has_commit hr)
  drawn k r hr := h.drawn k r (OpenRows.has_commit hr)
  held j j' k hj hj' := h.held j j' k (held_of_idle hj) (held_of_idle hj')
  heldDrawn j k hj := h.heldDrawn j k (held_of_idle hj)
  session j := by
    by_cases hji : j = i
    · subst hji
      simp only [State.commit, Function.update_self, At]
      exact fun k => OpenRows.commit_own_self
    · simp only [State.commit, Function.update_of_ne hji]
      exact (h.session j).mono (OpenRows.commit_own_ne hji)
        (fun k r hk => h.onlyInserts.commit_committed hk) (fun k _ hk => hk.commit)
        fun _ _ _ _ => rfl

/-- A rollback frees what the session held. -/
theorem rollback (h : s.Inv) (i : ι) : (s.rollback i).Inv where
  onlyInserts := h.onlyInserts.rollback
  consistent := h.consistent.rollback
  numbered := h.numbered
  distinct := h.distinct
  stored k r hr := h.stored k r (OpenRows.has_rollback hr)
  drawn k r hr := h.drawn k r (OpenRows.has_rollback hr)
  held j j' k hj hj' := h.held j j' k (held_of_idle hj) (held_of_idle hj')
  heldDrawn j k hj := h.heldDrawn j k (held_of_idle hj)
  session j := by
    by_cases hji : j = i
    · subst hji
      simp only [State.rollback, Function.update_self, At]
      exact fun k => OpenRows.rollback_own_self
    · simp only [State.rollback, Function.update_of_ne hji]
      exact (h.session j).mono (OpenRows.rollback_own_ne hji) (fun k r hk => hk)
        (fun k _ hk => hk.rollback) fun _ _ _ _ => rfl

omit [DecidableEq ι] in
/-- An upload writes under a key that nobody else has. -/
theorem put (h : s.Inv) (hpc : s.pc i = .uploading loaded call id) (content : Bytes) :
    (s.put (call.objectKey loaded id) content).Inv := by
  refine h.setObjects (i := i) (by rw [hpc]; rfl) (h.at_pc hpc).2.1
    (fun loaded call id h' => by cases hpc.symm.trans h') fun a k e hne => ?_
  exact put_of_ne fun heq => hne (objectKeyFor_inj heq).2.symm

omit [DecidableEq ι] in
/-- A removal deletes an object that no row names. -/
theorem remove (h : s.Inv) (hpc : s.pc i = .deleting loaded call id) :
    (s.remove (call.objectKey loaded id)).Inv := by
  refine h.setObjects (i := i) (by rw [hpc]; rfl) (h.at_pc hpc).2
    (fun loaded call id h' => by cases hpc.symm.trans h') fun a k e hne => ?_
  exact remove_of_ne fun heq => hne (objectKeyFor_inj heq).2.symm

/-- Every step keeps the invariant. -/
theorem step [Fintype ι] (h : s.Inv) (hstep : EvidenceCapture.step s l = some u) : u.Inv := by
  -- Every effect is one of the operations above, then a session moves on.
  cases step_effect hstep with
  | @loaded i artifactId hpc =>
    have hnone := h.at_pc hpc
    obtain ⟨n, hnumbered⟩ := h.numbered artifactId
    rw [OpenRows.visible_eq hnone]
    exact h.goto ⟨hnone, .of_numbered hnumbered⟩ fun _ hid => by cases hid
  | found hpc hmem => exact h.goto (h.at_pc hpc).1 fun _ hid => by cases hid
  | drawn hpc hnew hid => exact h.draw hpc hnew hid
  | @stored i loaded call id hpc =>
    obtain ⟨hnone, hunused, hsnapshot, hnew⟩ := h.at_pc hpc
    exact (h.put hpc call.content).goto ⟨hnone, hunused, hsnapshot, hnew, put_self⟩
      fun _ hid => (congrArg Pc.held hpc).trans hid
  | uploadFailed hpc => exact h.goto (h.at_pc hpc).1 fun _ hid => by cases hid
  | uploadLost hpc => exact (h.put hpc _).goto (h.at_pc hpc).1 fun _ hid => by cases hid
  | refused hpc | appendFailed hpc =>
    obtain ⟨hnone, hunused, -⟩ := h.at_pc hpc
    exact h.goto ⟨hnone, hunused⟩ fun _ hid => (congrArg Pc.held hpc).trans hid
  | created hpc hrow hadmits hwaits => exact h.create hpc hrow hadmits hwaits
  | deleted hpc => exact (h.remove hpc).goto (h.at_pc hpc).1 fun _ hid => by cases hid
  | kept hpc => exact h.goto (h.at_pc hpc).1 fun _ hid => by cases hid
  | committedFound hpc =>
    have hnone := h.at_pc hpc
    exact h.commit (fun k r hr => by cases (hnone k).symm.trans hr)
      fun k _ r _ hr => by cases (hnone k).symm.trans hr
  | @committed _ loaded call _ hpc =>
    obtain ⟨hrow, hsnapshot, hnew⟩ := h.at_pc hpc
    refine h.commit (fun k r hr => ?_) fun k k' r r' hr hr' =>
      (hrow k r hr).1.trans (hrow k' r' hr').1.symm
    obtain ⟨rfl, recordedAt, hr⟩ := hrow k r hr
    exact ⟨loaded, call, recordedAt, hsnapshot, hnew, hr⟩
  | rolledBack => exact h.rollback _

end State.Inv

/-- Every state of a run. -/
theorem inv_of_run [Fintype ι] {objects : ObjectStore}
    (h : Run step (fun _ _ => True) (.initial objects) s) : s.Inv :=
  h.invariant (State.inv_initial objects) fun _ _ _ hinv _ hstep => hinv.step hstep

/-! ## The object store -/

/-- The key under which a step stores or deletes an object. -/
def State.target (s : State ι sha256) : Label ι sha256 → Option String
  | .upload i outcome =>
    match s.pc i, outcome with
    | .uploading loaded call id, .stored | .uploading loaded call id, .lost =>
      some (call.objectKey loaded id)
    | _, _ => none
  | .delete i true =>
    match s.pc i with
    | .deleting loaded call id => some (call.objectKey loaded id)
    | _ => none
  | _ => none

/-- A step leaves all other objects alone. -/
theorem step_objects [Fintype ι] (h : step s l = some u) {objectKey : String}
    (hne : s.target l ≠ some objectKey) : u.objects[objectKey]? = s.objects[objectKey]? := by
  cases step_effect h with
  | stored hpc | uploadLost hpc =>
    simp only [State.target, hpc, ne_eq, Option.some.injEq] at hne
    exact put_of_ne hne
  | deleted hpc =>
    simp only [State.target, hpc, ne_eq, Option.some.injEq] at hne
    exact remove_of_ne hne
  | _ => rfl

omit [DecidableEq ι] in
/-- No step stores or deletes the object of a row. -/
theorem State.Inv.target_ne (h : s.Inv) {k : Nat} {r : EvidenceArtifactVersion}
    (hr : s.rows.Has k r) : s.target l ≠ some r.objectKey := by
  obtain ⟨-, e, hkey⟩ := h.stored k r hr
  have hne : ∀ {loaded : Loaded} {call : Call sha256} {id}, s.rows.Unused id →
      some (call.objectKey loaded id) ≠ some r.objectKey := by
    intro loaded call id hunused heq
    rw [hkey, Option.some.injEq] at heq
    obtain ⟨-, rfl⟩ := objectKeyFor_inj heq
    obtain hr | ⟨j, hr⟩ := hr
    · cases hunused.1.symm.trans hr
    · cases (hunused.2 j).symm.trans hr
  unfold State.target
  split
  · split
    · next hpc => exact hne (h.at_pc hpc).2.1
    · next hpc => exact hne (h.at_pc hpc).2.1
    · exact fun heq => by cases heq
  · split
    · next hpc => exact hne (h.at_pc hpc).2
    · exact fun heq => by cases heq
  · exact fun heq => by cases heq

/-- Committed rows stay. -/
theorem State.Inv.committed_step [Fintype ι] (h : s.Inv) (hstep : EvidenceCapture.step s l = some u)
    {k : Nat} {r : EvidenceArtifactVersion} (hr : s.rows.committed[k]? = some r) :
    u.rows.committed[k]? = some r := by
  cases step_effect hstep with
  | committedFound hpc | committed hpc => exact h.onlyInserts.commit_committed hr
  | _ => exact hr

/-! ## The result -/

/-- The committed versions of each artifact have the numbers from 1 on and different
    contents, and their contents are in the object store. -/
structure State.Sound (s : State ι sha256) : Prop where
  numbered : ∀ artifactId, ∃ n, ((versionsOf s.rows.committed artifactId).map
    fun v => v.versionNumber).Perm (List.range' 1 n)
  distinct : ∀ artifactId, (versionsOf s.rows.committed artifactId).Pairwise
    fun v v' => v.sha256 ≠ v'.sha256
  stored : ∀ (k : Nat) r, s.rows.committed[k]? = some r →
    ∃ content, s.objects[r.objectKey]? = some content ∧ sha256 content = r.sha256 ∧
      content.length = r.byteSize

omit [DecidableEq ι] in
/-- What the invariant says of the committed rows. -/
theorem State.Inv.sound (h : s.Inv) : s.Sound where
  numbered artifactId := by
    obtain ⟨n, hn⟩ := h.numbered artifactId
    refine ⟨n, (List.perm_ext_iff_of_nodup ?_ List.nodup_range').2 fun m => ?_⟩
    · rw [List.Nodup, List.pairwise_map]
      refine Table.pairwise_filter fun k k' r r' hr hr' ha ha' hne => ?_
      have hconflict := h.consistent k k' r r' (.inl hr) (.inl hr') hne
      simp only [decide_eq_true_eq] at ha ha'
      simpa [constraints, ha, ha'] using hconflict
    · rw [List.mem_map, hn m, List.mem_range'_1]
      omega
  distinct artifactId := by
    refine Table.pairwise_filter fun k k' r r' hr hr' ha ha' hne => ?_
    simp only [decide_eq_true_eq] at ha ha'
    exact h.distinct k k' r r' hr hr' (ha.trans ha'.symm) hne
  stored k r hr := by
    obtain ⟨⟨content, hcontent, hsha, hsize⟩, -⟩ := h.stored k r (.inl hr)
    exact ⟨content, hcontent, hsha.symm, hsize.symm⟩

/-- The committed versions of every run are numbered from 1 on, differ in content and have
    their objects; no step that follows removes a committed version, or stores or deletes
    its object. -/
theorem captures_sound [Fintype ι] {objects : ObjectStore}
    (h : Run step (fun _ _ => True) (.initial objects) s) :
    s.Sound ∧ ∀ (l : Label ι sha256) (u : State ι sha256), step s l = some u →
      ∀ (k : Nat) r, s.rows.committed[k]? = some r → u.rows.committed[k]? = some r ∧
        s.target l ≠ some r.objectKey ∧ u.objects[r.objectKey]? = s.objects[r.objectKey]? := by
  have hinv := inv_of_run h
  refine ⟨hinv.sound, fun l u hstep k r hr => ?_⟩
  have htarget := hinv.target_ne (l := l) (.inl hr)
  exact ⟨hinv.committed_step hstep hr, htarget, step_objects hstep htarget⟩

/-! ### Two captures for one artifact -/

/-- SHA-256 on the contents `hi` and `ho`, which are captured below. -/
def sampleSha256 (content : Bytes) : String :=
  if content = [104, 105] then
    "8f434346648f6b96df89dda901c5176b10a6d83961dd3c1ac88b59b2dc327aa4"
  else if content = [104, 111] then
    "a821c62e8104f8519d639b4c0948aece641b143f6601fa145993bb2e2c7299d4"
  else ""

/-- The capture of a text file. -/
def sampleCall (content : Bytes) : Call sampleSha256 where
  content := content
  file := {
    sha256 := sampleSha256 content
    byteSize := content.length
    mediaType := "text/plain"
    originalFilename := "log.txt"
    extension := "txt" }
  sha256_eq := rfl
  byteSize_eq := rfl

/-- Both sessions load the artifact's versions and upload, and append one after the other. -/
def sampleRace : List (Label Bool sampleSha256) :=
  [.load true 1, .load false 1, .call true (sampleCall [104, 105]) 7,
    .call false (sampleCall [104, 111]) 8, .upload true .stored, .upload false .stored,
    .append true 100, .commit true, .append false 101, .delete false true, .rollback false]

/-- The session that comes second takes its object back. -/
theorem captures_sound_race : ∃ s : State Bool sampleSha256,
    (versionsOf s.rows.committed 1).map (fun v => (v.versionNumber, v.byteSize)) = [(1, 2)] ∧
      s.objects.keys = ["evidence/1/7/content.txt"] ∧ s.Sound := by
  have hrun : ∃ s, Run.exec step (.initial ∅) sampleRace = some s ∧
      (versionsOf s.rows.committed 1).map (fun v => (v.versionNumber, v.byteSize)) = [(1, 2)] ∧
      s.objects.keys = ["evidence/1/7/content.txt"] := ⟨_, rfl, rfl, rfl⟩
  obtain ⟨s, hs, hversions, hkeys⟩ := hrun
  exact ⟨s, hversions, hkeys, (captures_sound (Run.of_exec_true _ hs)).1⟩

end MiniGrc.EvidenceCapture
