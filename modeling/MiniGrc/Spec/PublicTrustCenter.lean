import MiniGrc.App.PublicTrustCenter
import MiniGrc.ForStd.LastSetting
import MiniGrc.Spec.TrustCenter

/-!
# What visitors of the trust center see

Only publishing takes a draft to the public page: whatever the grid, the detail page of a section
and the routes of the policies do in between, the page shows the body that was the draft when the
section was last published, until it is unpublished or deleted. Titles, dates and links are not
part of that snapshot. The links of the page lead to exactly the downloads that there are.

## Key results

- `publication_run_of_not_touches`: the requests that leave a publication alone
- `on_public_page_iff`: the entries of the page, from the requests so far
- `downloadable_iff_linked`: the downloads, from the links of the page
-/

namespace MiniGrc.TrustCenter

open Events PolicyStorage VersionLifecycle
open PolicyUploads (Reach)

variable {clock : Clock} {storage : Storage} {s : State} {id id' policyId : Id} {now : Time}
  {row row' : TrustCenterSection} {toHtml : String → Nat → String}

/-! ## Publications -/

/-- The columns that `publish_section` writes. -/
structure Publication where
  bodyMarkdown : Option String
  userId : Option Id
  publishedAt : Option Time

/-- The publication of a row that is published. -/
def TrustCenterSection.publication (row : TrustCenterSection) : Option Publication :=
  match row.status with
  | .draft => none
  | .published => some ⟨row.publishedBodyMarkdown, row.publishedByUserId, row.publishedAt⟩

/-- The publication of a section. -/
def publication (s : State) (id : Id) : Option Publication :=
  s.sections[id]?.bind TrustCenterSection.publication

/-- The request publishes, unpublishes or deletes the section. -/
def Request.Touches (id : Id) : Request → Prop
  | .publishSection id' _ _ | .unpublishSection id' _ | .deleteSection id' => id' = id
  | _ => False

/-- The request publishes the draft that the section has. -/
def Publishes (id : Id) (s : State) (r : Request) (p : Publication) : Prop :=
  ∃ userId now row, r = .publishSection id userId now ∧ s.sections[id]? = some row ∧
    p = ⟨some row.draftBodyMarkdown, some userId, some now⟩

/-- Among the requests, one after the other, the section has been published as `p` says; since
    then it has been neither published nor unpublished nor deleted. -/
def LastPublished (clock : Clock) (storage : Storage) (rs : List Request) (id : Id)
    (p : Publication) : Prop :=
  Run.LastSets (step clock storage) (Request.Touches id) (Publishes id) State.initial rs p

/-! ## Writes of sections -/

/-- The same sections are published the same. -/
theorem publication_congr {s' : State} (h : s'.sections = s.sections) :
    publication s' id = publication s id := by
  rw [publication, publication, h]

/-- `updated_at` is not part of a publication. -/
theorem publication_writeSection :
    publication (writeSection s id' row row' now) id =
      if id' = id then row'.publication else publication s id := by
  rw [publication, writeSection, Table.get_insert]
  split
  · rw [Option.bind_some]
    split
    · next heq => rw [heq]
    · rfl
  · rfl

/-- A write of a row that leaves its publication alone. -/
theorem publication_writeSection_of_eq (hrow : s.sections[id']? = some row)
    (h : row'.publication = row.publication) :
    publication (writeSection s id' row row' now) id = publication s id := by
  rw [publication_writeSection]
  split
  · next hid =>
    rw [publication, ← hid, hrow, h]
    rfl
  · rfl

/-- An edit publishes nothing. -/
theorem publication_editSection (expectedUpdatedAt : Time) (fields : SectionFields) :
    publication (editSection s id' expectedUpdatedAt fields now) id = publication s id := by
  unfold editSection
  split
  · rfl
  next row hrow =>
  split
  · rfl
  · exact publication_writeSection_of_eq hrow rfl

/-- A bulk edit publishes nothing. -/
theorem publication_editSections (updates : List (Id × Time × SectionFields)) :
    publication (editSections s updates now) id = publication s id := by
  unfold editSections
  split
  swap
  · rfl
  · clear * -
    induction updates generalizing s with
    | nil => rfl
    | cons u updates ih =>
      rw [List.foldl_cons, ih]
      split
      · rfl
      · next row hrow => exact publication_writeSection_of_eq hrow rfl

/-- A new section is a draft. -/
theorem publication_createSection (fields : SectionFields) :
    publication (createSection s id' fields now) id = publication s id := by
  unfold createSection
  split
  · rfl
  next title _ =>
  split
  · rfl
  · next hfree =>
    -- a new section is a draft
    have hnone : s.sections[id']? = none := by
      rw [not_or] at hfree
      simpa using hfree.2
    rw [publication, Table.get_insert]
    split
    · next hid =>
      rw [publication, ← hid, hnone]
      rfl
    · rfl

/-- An update publishes nothing. -/
theorem publication_updateSection (form : SectionForm) :
    publication (updateSection s id' form now) id = publication s id := by
  unfold updateSection
  split
  · rfl
  next row hrow =>
  split
  · rfl
  · exact publication_writeSection_of_eq hrow rfl

/-- A new policy publishes nothing. -/
theorem publication_createPolicy (form : PolicyForm) (file : Option NewFile) (user : String)
    (reach : Reach) :
    publication (createPolicy clock storage s policyId form file user reach) id =
      publication s id := by
  unfold createPolicy
  split
  · rfl
  dsimp only
  split
  · rfl
  · split <;> rfl

/-- A new version publishes nothing. -/
theorem publication_addVersion (request : PolicyUploads.Request) (versionId : Id)
    (reach : Reach) :
    publication (addVersion clock storage s request versionId reach) id = publication s id := by
  unfold addVersion
  split
  · rfl
  split
  · rfl
  · split <;> rfl

/-- Retiring a policy publishes nothing. -/
theorem publication_retirePolicy (userId : String) :
    publication (retirePolicy clock s policyId userId) id = publication s id := by
  unfold retirePolicy
  split
  · rfl
  dsimp only
  split
  · rfl
  · split <;> rfl

/-- The requests that leave the publication of a section alone. -/
theorem publication_run_of_not_touches {r : Request} (h : ¬ r.Touches id) :
    publication (r.run clock storage s) id = publication s id := by
  -- No other request writes to a publication.
  cases r with
  | createPolicy policyId form file user reach =>
    rw [Request.run]
    exact publication_createPolicy form file user reach
  | addVersion request versionId reach =>
    rw [Request.run]
    exact publication_addVersion request versionId reach
  | retirePolicy policyId userId =>
    rw [Request.run]
    exact publication_retirePolicy userId
  | createSection id' fields now =>
    rw [Request.run]
    exact publication_createSection fields
  | editSection id' expectedUpdatedAt fields now =>
    rw [Request.run]
    exact publication_editSection expectedUpdatedAt fields
  | editSections updates now =>
    rw [Request.run]
    exact publication_editSections updates
  | updateSection id' form now =>
    rw [Request.run]
    exact publication_updateSection form
  | updateSettings form userId => rfl
  | updatePolicy policyId form =>
    apply publication_congr
    simp only [Request.run, updatePolicy]
    split
    · rfl
    · split <;> rfl
  | linkDriveFile policyId fileId =>
    apply publication_congr
    simp only [Request.run, linkDriveFile]
    split <;> rfl
  | onVersion policyId versionId command userId =>
    apply publication_congr
    simp only [Request.run, onVersion]
    split
    · rfl
    · split <;> rfl
  | publishSection id' userId now =>
    have hne : ¬ id' = id := h
    simp only [Request.run, publishSection]
    split
    · rfl
    · rw [publication_writeSection, if_neg hne]
  | unpublishSection id' now =>
    have hne : ¬ id' = id := h
    simp only [Request.run, unpublishSection]
    split
    · rfl
    · rw [publication_writeSection, if_neg hne]
  | deleteSection id' =>
    have hne : ¬ id' = id := h
    simp only [Request.run, publication, deleteSection]
    rw [Std.ExtTreeMap.getElem?_erase, if_neg (by simpa using hne)]

/-- What the others leave of it. -/
theorem publication_run_of_touches {r : Request} {p : Publication} (h : r.Touches id) :
    publication (r.run clock storage s) id = some p ↔ Publishes id s r p := by
  -- A section is published, taken back or deleted.
  cases r with
  | publishSection id' userId now =>
    obtain rfl : id' = id := h
    simp only [Request.run, publishSection]
    constructor
    · intro hp
      split at hp
      · next hnone =>
        rw [publication, hnone] at hp
        cases hp
      · next row hrow =>
        rw [publication_writeSection, if_pos rfl] at hp
        exact ⟨userId, now, row, rfl, hrow, (Option.some.inj hp).symm⟩
    · rintro ⟨userId', now', row, hr, hrow, rfl⟩
      cases hr
      rw [hrow]
      dsimp only
      rw [publication_writeSection, if_pos rfl]
      rfl
  | unpublishSection id' now =>
    obtain rfl : id' = id := h
    simp only [Request.run, unpublishSection]
    constructor
    · intro hp
      split at hp
      · next hnone =>
        rw [publication, hnone] at hp
        cases hp
      · rw [publication_writeSection, if_pos rfl] at hp
        cases hp
    · rintro ⟨userId, now', row, hr, -⟩
      cases hr
  | deleteSection id' =>
    obtain rfl : id' = id := h
    simp only [Request.run, publication, deleteSection]
    rw [Std.ExtTreeMap.getElem?_erase, if_pos (by simp)]
    constructor
    · exact fun hp => by cases hp
    · rintro ⟨userId, now', row, hr, -⟩
      cases hr
  | _ => exact absurd h not_false

/-- A section is published exactly if the requests have left it so. -/
theorem publication_eq_some_iff {rs : List Request} {p : Publication}
    (hs : Run.exec (step clock storage) State.initial rs = some s) :
    publication s id = some p ↔ LastPublished clock storage rs id p := by
  refine Run.eq_some_iff_lastSets (fun s => publication s id) (I := fun _ => True) trivial
    (fun _ _ _ _ _ => trivial) ?_ ?_ ?_ ?_ hs
  · rintro u r p ⟨userId, now, row, rfl, -⟩
    exact rfl
  · intro u r v _ hstep h
    obtain rfl := Option.some.inj hstep
    exact publication_run_of_not_touches h
  · intro u r v p _ hstep h
    obtain rfl := Option.some.inj hstep
    exact publication_run_of_touches h
  · simp [publication, State.initial]

/-! ## The page -/

/-- The page is there and has the entry. -/
def Shows (toHtml : String → Nat → String) (s : State) (entry : RenderedSection) : Prop :=
  ∃ page, publicTrustCenter toHtml s = some page ∧ entry ∈ page.sections

/-- The sections shown are public and published. -/
theorem mem_publicPublishedSections :
    (id, row) ∈ publicPublishedSections s ↔
      s.sections[id]? = some row ∧ row.visibility = .public_ ∧ row.status = .published := by
  rw [publicPublishedSections, List.mem_insertionSort, List.mem_filter, decide_eq_true_eq,
    Std.ExtTreeMap.mem_toList_iff_getElem?_eq_some]

/-- The trust centre is on where its settings say so. -/
theorem enabled_iff : (getOrCreateSettings s).enabled ↔
    ∃ settings, s.settings = some settings ∧ settings.enabled := by
  rw [getOrCreateSettings]
  cases s.settings <;> simp

/-- The page has an entry for each public section that is published, if the center is enabled. -/
theorem shows_iff {entry : RenderedSection} : Shows toHtml s entry ↔
    (∃ settings, s.settings = some settings ∧ settings.enabled) ∧
      ∃ row, s.sections[entry.id]? = some row ∧ row.visibility = .public_ ∧
        row.status = .published ∧ entry = renderedSection toHtml s (entry.id, row) := by
  rw [← enabled_iff, Shows, publicTrustCenter]
  -- A trust centre that is off shows nothing.
  split
  · next hdisabled => simp [hdisabled]
  · next henabled =>
    rw [Bool.not_eq_false] at henabled
    simp only [henabled, true_and, Option.some.injEq, exists_eq_left', List.mem_map]
    constructor
    · rintro ⟨⟨id, row⟩, hmem, rfl⟩
      obtain ⟨hrow, hpublic, hpublished⟩ := mem_publicPublishedSections.1 hmem
      exact ⟨row, hrow, hpublic, hpublished, rfl⟩
    · rintro ⟨row, hrow, hpublic, hpublished, hentry⟩
      exact ⟨(entry.id, row), mem_publicPublishedSections.2 ⟨hrow, hpublic, hpublished⟩,
        hentry.symm⟩

/-- The page shows a section exactly if the center is enabled, the section is public, and its
    last publication still stands; the body is the draft at the time of that publication. The
    title, the dates and the link are those of the section now. -/
theorem on_public_page_iff (rs : List Request)
    (hs : Run.exec (step clock storage) State.initial rs = some s) (entry : RenderedSection) :
    Shows toHtml s entry ↔
      (∃ settings, s.settings = some settings ∧ settings.enabled) ∧
      ∃ row body userId publishedAt, s.sections[entry.id]? = some row ∧
        row.visibility = .public_ ∧
        LastPublished clock storage rs entry.id ⟨some body, some userId, some publishedAt⟩ ∧
        entry = {
          id := entry.id
          title := row.title
          html := renderMarkdownSafe toHtml (some body) 2
          reviewDate := row.reviewDate
          expiryDate := row.expiryDate
          linkedPolicy := linkedPolicy s row } := by
  rw [shows_iff]
  apply and_congr_right
  intro _
  constructor
  · rintro ⟨row, hrow, hpublic, hpublished, hentry⟩
    have hpublication : publication s entry.id =
        some ⟨row.publishedBodyMarkdown, row.publishedByUserId, row.publishedAt⟩ := by
      rw [publication, hrow, Option.bind_some, TrustCenterSection.publication, hpublished]
    have hlast := (publication_eq_some_iff hs).1 hpublication
    -- a publication has all three columns
    obtain ⟨before, r, after, u, -, -, ⟨userId, now, draft, -, -, hp⟩, -⟩ := hlast
    obtain ⟨hbody, huser, hat⟩ := Publication.mk.inj hp
    rw [hbody, huser, hat] at hpublication
    refine ⟨row, _, _, _, hrow, hpublic, (publication_eq_some_iff hs).1 hpublication, ?_⟩
    rw [hentry, renderedSection, hbody]
  · rintro ⟨row, body, userId, publishedAt, hrow, hpublic, hlast, hentry⟩
    have hpublication := (publication_eq_some_iff hs).2 hlast
    rw [publication, hrow, Option.bind_some, TrustCenterSection.publication] at hpublication
    split at hpublication
    · cases hpublication
    · next hpublished =>
      obtain ⟨hbody, -, -⟩ := Publication.mk.inj (Option.some.inj hpublication)
      refine ⟨row, hrow, hpublic, hpublished, ?_⟩
      rw [renderedSection, hbody]
      exact hentry

/-- The section 8 is published, and then its draft, its title and its date are changed. -/
def revisedDraft : List Request :=
  [.updateSettings { enabled := true, title := "Trust Center" } 1,
    .createSection 8 { title := some "Encryption", visibility := some .public_ } 7,
    .updateSection 8 { draftBodyMarkdown := "At rest." } 8,
    .publishSection 8 1 9,
    .updateSection 8 { draftBodyMarkdown := "At rest and in transit." } 10,
    .editSection 8 10 { title := some "Cryptography" } 11]

/-- The page has the new title with the published body. -/
theorem on_public_page_iff_revisedDraft :
    ∃ s, Run.exec (step tickingClock PolicyUploads.sampleStorage) State.initial revisedDraft =
        some s ∧
      Shows (fun text _ => text) s {
        id := 8
        title := "Cryptography"
        html := "At rest."
        reviewDate := none
        expiryDate := none
        linkedPolicy := none } := by
  refine ⟨_, rfl, (on_public_page_iff revisedDraft rfl _).2 ⟨⟨_, rfl, rfl⟩,
    _, "At rest.", 1, 9, rfl, rfl, ?_, rfl⟩⟩
  exact ⟨revisedDraft.take 3, _, revisedDraft.drop 4, _, rfl, rfl, ⟨1, 9, _, rfl, rfl, rfl⟩,
    by simp [revisedDraft, Request.Touches]⟩

/-! ## The links -/

/-- The page links the policy. -/
def Links (s : State) (policyId : Id) : Prop :=
  ∃ entry link, Shows (fun text _ => text) s entry ∧ entry.linkedPolicy = some link ∧
    link.id = policyId

/-- A linked policy is shown while it is approved. -/
theorem linkedPolicy_eq_some_iff {link : LinkedPolicy} :
    linkedPolicy s row = some link ↔ row.linkedPolicyId = some link.id ∧
      ∃ policy, s.policies[link.id]? = some policy ∧ policy.status = .approved ∧
        link.title = policy.title := by
  unfold linkedPolicy
  constructor
  · intro h
    -- A link may be missing, lead nowhere or to a policy that is not approved.
    split at h
    · cases h
    next policyId hpolicyId =>
    split at h
    · cases h
    next policy hpolicy =>
    split at h
    · next happroved =>
      cases h
      exact ⟨hpolicyId, policy, hpolicy, happroved, rfl⟩
    · cases h
  · rintro ⟨hlinked, policy, hpolicy, happroved, htitle⟩
    simp only [hlinked, hpolicy, happroved, if_true]
    rw [← htitle]

/-- The page links exactly the policies that the gate of the downloads releases. -/
theorem links_iff_released : Links s policyId ↔ Released s policyId := by
  constructor
  · rintro ⟨entry, link, hshows, hlink, rfl⟩
    obtain ⟨henabled, row, hrow, hpublic, hpublished, hentry⟩ := shows_iff.1 hshows
    rw [hentry] at hlink
    obtain ⟨hlinked, policy, hpolicy, happroved, -⟩ := linkedPolicy_eq_some_iff.1 hlink
    exact ⟨henabled, ⟨policy, hpolicy, happroved⟩,
      ⟨entry.id, row, hrow, hpublic, hpublished, hlinked⟩⟩
  · rintro ⟨henabled, ⟨policy, hpolicy, happroved⟩, id, row, hrow, hpublic, hpublished, hlinked⟩
    refine ⟨renderedSection _ s (id, row), ⟨policyId, policy.title⟩,
      shows_iff.2 ⟨henabled, row, hrow, hpublic, hpublished, rfl⟩, ?_, rfl⟩
    exact linkedPolicy_eq_some_iff.2 ⟨hlinked, policy, hpolicy, happroved, rfl⟩

/-- The file of every version stays where the version has it. -/
theorem exists_file_of_latestVersion (h : Inv storage s) {x : Id × PolicyVersion}
    (hx : latestVersion s policyId = some x) : ∃ content,
      s.files.file (policyId, x.2.versionNumber) x.2.storedFilename = some content := by
  obtain ⟨hpolicy, hlatest⟩ := latestVersion_some h hx
  obtain ⟨content, hfile, -⟩ := h.files x.1 x.2 hlatest.1
  rw [← hpolicy]
  exact ⟨content, hfile⟩

/-- A policy with a version has a latest one. -/
theorem exists_latestVersion_iff : (∃ x, latestVersion s policyId = some x) ↔
    ∃ (id : Id) (version : PolicyVersion), s.versions.rows.current[id]? = some version ∧
      version.policyId = policyId := by
  rw [latestVersion, ← Option.isSome_iff_exists, List.isSome_head?]
  constructor
  · intro h
    obtain ⟨x, hx⟩ := List.exists_mem_of_ne_nil _ h
    exact ⟨x.1, x.2, mem_versionsOf.1 hx⟩
  · rintro ⟨id, version, hversion⟩
    have hmem : (id, version) ∈ versionsOf s.versions policyId := mem_versionsOf.2 hversion
    exact List.ne_nil_of_mem hmem

/-- In every state that requests lead to, a policy can be downloaded exactly if the page links
    it and it has a version. -/
theorem downloadable_iff_linked
    (h : Run (step clock storage) (fun _ _ => True) State.initial s) (policyId : Id) :
    (∃ response, publicPolicyDownload s policyId = some response) ↔
      Links s policyId ∧ ∃ (id : Id) (version : PolicyVersion),
        s.versions.rows.current[id]? = some version ∧ version.policyId = policyId := by
  have hinv : Inv storage s := h.invariant inv_initial fun t r u ht _ hstep => by
    obtain rfl := Option.some.inj hstep
    exact ht.run clock r
  rw [links_iff_released, ← exists_latestVersion_iff]
  constructor
  · rintro ⟨response, hresponse⟩
    obtain ⟨hreleased, x, content, hx, -⟩ := released_of_download hresponse
    exact ⟨hreleased, x, hx⟩
  · rintro ⟨⟨henabled, ⟨policy, hpolicy, happroved⟩, id, row, hrow, hpublic, hpublished,
      hlinked⟩, x, hx⟩
    obtain ⟨content, hcontent⟩ := exists_file_of_latestVersion hinv hx
    have hany : (publicPublishedSections s).any (fun x => x.2.linkedPolicyId = some policyId) =
        true := by
      rw [List.any_eq_true]
      exact ⟨(id, row), mem_publicPublishedSections.2 ⟨hrow, hpublic, hpublished⟩,
        by simpa using hlinked⟩
    refine ⟨⟨content, x.2.mediaType, x.2.originalFilename⟩, ?_⟩
    rw [publicPolicyDownload, enabled_iff.2 henabled, hany]
    simp only [hpolicy, happroved, hx, hcontent, ne_eq, not_true, if_false, reduceCtorEq,
      Option.map_some]

/-- The draft of the policy 5 is there, and the page links the policy. -/
theorem downloadable_iff_linked_draft : ∃ s, Links s 5 ∧
    ∃ response, publicPolicyDownload s 5 = some response := by
  obtain ⟨s, hs, response, hdownload⟩ :
    ∃ s, Run.exec (step tickingClock PolicyUploads.sampleStorage) State.initial draftUploaded =
        some s ∧ ∃ response, publicPolicyDownload s 5 = some response := ⟨_, rfl, _, rfl⟩
  have hlinked := ((downloadable_iff_linked (Run.of_exec_true _ hs) 5).1 ⟨response, hdownload⟩).1
  exact ⟨s, hlinked, response, hdownload⟩

end MiniGrc.TrustCenter
