import MiniGrc.App.VendorRoster

/-!
# Differences between rosters

`compute_delta` fills its five lists in separate passes. Each list is described by the rows of
the two rosters that it comes from; together they explain how one roster became the other.

## Key results

- `computeDelta_explains`: the lists lose nothing and invent nothing
-/

namespace MiniGrc.VendorRosters

variable {DateTime : Type} {lower : String → String} {email value new : String}
  {previous current rows : List (VendorUserSnapshotRow DateTime)}
  {row : VendorUserSnapshotRow DateTime} {changes : List Change} {c : Change}

/-! ## Rosters -/

/-- No two rows have one address. -/
def UniqueEmails (rows : List (VendorUserSnapshotRow DateTime)) : Prop :=
  (rows.map (·.normalizedEmail)).Nodup

/-- Two rows of one address are one. -/
theorem UniqueEmails.eq (h : UniqueEmails rows) {r r' : VendorUserSnapshotRow DateTime}
    (hr : r ∈ rows) (hr' : r' ∈ rows) (heq : r.normalizedEmail = r'.normalizedEmail) : r = r' :=
  List.inj_on_of_nodup_map h hr hr' heq

/-- Rows with addresses of their own are all items. -/
theorem byEmail_items (h : UniqueEmails rows) :
    (byEmail rows).items = rows.map fun r => (r.normalizedEmail, r) := by
  refine Dict.ofList_items ?_
  rw [List.map_map]
  exact h

/-- A row is found under its address. -/
theorem get?_byEmail (h : UniqueEmails rows) :
    (byEmail rows).get? email = some row ↔ row ∈ rows ∧ row.normalizedEmail = email := by
  rw [Dict.get?_eq_some_iff, byEmail_items h, List.mem_map]
  constructor
  · rintro ⟨r, hr, heq⟩
    obtain ⟨rfl, rfl⟩ := Prod.mk.inj heq
    exact ⟨hr, rfl⟩
  · rintro ⟨hr, rfl⟩
    exact ⟨row, hr, rfl⟩

/-- No row is found under an address that none has. -/
theorem isNone_get?_byEmail (h : UniqueEmails rows) :
    ((byEmail rows).get? email).isNone ↔ ∀ r ∈ rows, r.normalizedEmail ≠ email := by
  rw [Option.isNone_iff_eq_none, Option.eq_none_iff_forall_ne_some]
  constructor
  · intro hnone r hr heq
    exact hnone r ((get?_byEmail h).2 ⟨hr, heq⟩)
  · intro hall r hget
    exact hall r ((get?_byEmail h).1 hget).1 ((get?_byEmail h).1 hget).2

/-! ## The loop -/

/-- The change of a field that an item of the current roster is listed with. -/
def changeOf (field : VendorUserSnapshotRow DateTime → String)
    (previousByEmail : Dict String (VendorUserSnapshotRow DateTime))
    (item : String × VendorUserSnapshotRow DateTime) : Option Change :=
  (previousByEmail.get? item.1).bind fun before =>
    if field before ≠ field item.2 then some ⟨item.1, field before, field item.2⟩ else none

/-- A change is of a field that differs. -/
theorem changeOf_eq_some {field : VendorUserSnapshotRow DateTime → String}
    {d : Dict String (VendorUserSnapshotRow DateTime)}
    {item : String × VendorUserSnapshotRow DateTime} :
    changeOf field d item = some c ↔ ∃ before, d.get? item.1 = some before ∧
      field before ≠ field item.2 ∧ ⟨item.1, field before, field item.2⟩ = c := by
  unfold changeOf
  simp only [Option.bind_eq_some_iff, Option.ite_none_right_eq_some, Option.some_inj]

/-- The role became the one of an admin. -/
def BecomesAdmin (lower : String → String) (before after : VendorUserSnapshotRow DateTime) : Prop :=
  lower after.importedRole = "admin" ∧ lower before.importedRole ≠ "admin"

/-- Decided by its parts. -/
instance (before after : VendorUserSnapshotRow DateTime) :
    Decidable (BecomesAdmin lower before after) := inferInstanceAs (Decidable (_ ∧ _))

/-- The row of the current roster that is listed as one of a new admin. -/
def adminOf (lower : String → String)
    (previousByEmail : Dict String (VendorUserSnapshotRow DateTime))
    (item : String × VendorUserSnapshotRow DateTime) : Option (VendorUserSnapshotRow DateTime) :=
  (previousByEmail.get? item.1).bind fun before =>
    if BecomesAdmin lower before item.2 then some item.2 else none

/-- One turn of the loop adds to each of three lists. -/
theorem compareRow_eq (d : Dict String (VendorUserSnapshotRow DateTime)) (delta : Delta DateTime)
    (item : String × VendorUserSnapshotRow DateTime) :
    compareRow lower d delta item = {
      delta with
      roleChanges := delta.roleChanges ++ (changeOf (·.importedRole) d item).toList
      statusChanges := delta.statusChanges ++ (changeOf (·.importedStatus) d item).toList
      newlyAssignedAdmins := delta.newlyAssignedAdmins ++ (adminOf lower d item).toList } := by
  obtain ⟨email, row⟩ := item
  unfold compareRow changeOf adminOf BecomesAdmin
  cases hget : d.get? email with
  | none => simp [hget]
  | some before =>
    by_cases hrole : before.importedRole = row.importedRole
    · -- the same role is one of an admin in both rosters or in none
      by_cases hstatus : before.importedStatus = row.importedStatus <;>
        simp [hget, hrole, hstatus]
    · by_cases hadmin : lower row.importedRole = "admin" ∧ lower before.importedRole ≠ "admin" <;>
        by_cases hstatus : before.importedStatus = row.importedStatus <;>
        simp [hget, hrole, hstatus, hadmin]

/-- What the loop adds to the lists. -/
theorem foldl_compareRow (d : Dict String (VendorUserSnapshotRow DateTime))
    (items : List (String × VendorUserSnapshotRow DateTime)) (delta : Delta DateTime) :
    items.foldl (compareRow lower d) delta = {
      delta with
      roleChanges := delta.roleChanges ++ items.filterMap (changeOf (·.importedRole) d)
      statusChanges := delta.statusChanges ++ items.filterMap (changeOf (·.importedStatus) d)
      newlyAssignedAdmins := delta.newlyAssignedAdmins ++ items.filterMap (adminOf lower d) } := by
  induction items generalizing delta with
  | nil => simp
  | cons item items ih =>
    rw [List.foldl_cons, ih, compareRow_eq]
    simp only [List.filterMap_cons, List.append_assoc]
    cases changeOf (·.importedRole) d item <;> cases changeOf (·.importedStatus) d item <;>
      cases adminOf lower d item <;> rfl

/-! ## The lists -/

/-- The listed changes of a field. -/
def changesOf (field : VendorUserSnapshotRow DateTime → String)
    (previous current : List (VendorUserSnapshotRow DateTime)) : List Change :=
  (byEmail current).items.filterMap (changeOf field (byEmail previous))

/-- The lists in terms of the two rosters. -/
theorem computeDelta_eq :
    computeDelta lower previous current = {
      added := notIn (byEmail previous) (byEmail current)
      removed := notIn (byEmail current) (byEmail previous)
      roleChanges := changesOf (·.importedRole) previous current
      statusChanges := changesOf (·.importedStatus) previous current
      newlyAssignedAdmins :=
        (byEmail current).items.filterMap (adminOf lower (byEmail previous)) } := by
  rw [computeDelta, foldl_compareRow]
  rfl

/-- The rows of the one that the other does not have. -/
theorem notIn_byEmail (hp : UniqueEmails previous) (hc : UniqueEmails current) :
    notIn (byEmail previous) (byEmail current) =
      current.filter fun r => previous.all fun p => p.normalizedEmail ≠ r.normalizedEmail := by
  rw [notIn, byEmail_items hc, List.filter_map, List.map_map]
  refine (List.map_id' _).trans (List.filter_congr fun r _ => ?_)
  rw [Function.comp_apply, Bool.eq_iff_iff, isNone_get?_byEmail hp]
  simp

/-- A change is of a row that both have and that differs. -/
theorem mem_changesOf (hp : UniqueEmails previous) (hc : UniqueEmails current)
    {field : VendorUserSnapshotRow DateTime → String} :
    c ∈ changesOf field previous current ↔
      ∃ p ∈ previous, ∃ r ∈ current, p.normalizedEmail = r.normalizedEmail ∧ field p ≠ field r ∧
        c = ⟨r.normalizedEmail, field p, field r⟩ := by
  rw [changesOf, byEmail_items hc, List.mem_filterMap]
  constructor
  · rintro ⟨item, hitem, hchange⟩
    obtain ⟨r, hr, rfl⟩ := List.mem_map.1 hitem
    obtain ⟨p, hget, hne, rfl⟩ := changeOf_eq_some.1 hchange
    obtain ⟨hp', hemail⟩ := (get?_byEmail hp).1 hget
    exact ⟨p, hp', r, hr, hemail, hne, rfl⟩
  · rintro ⟨p, hp', r, hr, hemail, hne, rfl⟩
    exact ⟨_, List.mem_map_of_mem hr,
      changeOf_eq_some.2 ⟨p, (get?_byEmail hp).2 ⟨hp', hemail⟩, hne, rfl⟩⟩

/-- No address is listed twice. -/
theorem changesOf_emails_nodup (hc : UniqueEmails current)
    (field : VendorUserSnapshotRow DateTime → String) :
    ((changesOf field previous current).map (·.email)).Nodup := by
  have hkeys : ∀ items : List (String × VendorUserSnapshotRow DateTime),
      ((items.filterMap (changeOf field (byEmail previous))).map (·.email)).Sublist
        (items.map Prod.fst) := by
    intro items
    -- Over the rows: no address comes twice.
    induction items with
    | nil => exact .slnil
    | cons item items ih =>
      cases hchange : changeOf field (byEmail previous) item with
      | none =>
        rw [List.filterMap_cons_none hchange]
        exact ih.cons _
      | some c =>
        obtain ⟨p, -, -, rfl⟩ := changeOf_eq_some.1 hchange
        rw [List.filterMap_cons_some hchange]
        exact ih.cons_cons _
  refine List.Nodup.sublist (hkeys _) ?_
  rw [byEmail_items hc, List.map_map]
  exact hc

/-- The new admins, in the order of the current roster. -/
theorem newlyAssignedAdmins_eq (hp : UniqueEmails previous) (hc : UniqueEmails current) :
    (computeDelta lower previous current).newlyAssignedAdmins = current.filter fun r =>
      previous.any fun p => p.normalizedEmail = r.normalizedEmail ∧ BecomesAdmin lower p r := by
  rw [computeDelta_eq, byEmail_items hc, List.filterMap_map]
  rw [← List.filterMap_eq_filter]
  refine List.filterMap_congr fun r _ => ?_
  simp only [Function.comp_apply, adminOf]
  -- Somebody new is no newly assigned administrator.
  cases hget : (byEmail previous).get? r.normalizedEmail with
  | none =>
    have hnone := (isNone_get?_byEmail hp).1 (Option.isNone_iff_eq_none.2 hget)
    rw [Option.bind_none, Option.guard, if_neg]
    simp only [List.any_eq_true, decide_eq_true_eq, not_exists, not_and]
    exact fun p hp' h => absurd h (hnone p hp')
  | some p =>
    obtain ⟨hp', hemail⟩ := (get?_byEmail hp).1 hget
    rw [Option.bind_some, Option.guard]
    refine if_congr ?_ rfl rfl
    rw [List.any_eq_true]
    constructor
    · exact fun h => ⟨p, hp', by simpa [hemail] using h⟩
    · rintro ⟨p', hp'', h⟩
      have h := of_decide_eq_true h
      obtain rfl := hp.eq hp'' hp' (h.1.trans hemail.symm)
      exact h.2

/-! ## Applying a delta -/

/-- The value that the changes leave an address with. -/
def applyChanges (changes : List Change) (email value : String) : String :=
  changes.foldl (fun value c => if c.email = email then c.after else value) value

/-- Who is on the roster, with which role and status. -/
def entry (row : VendorUserSnapshotRow DateTime) : String × String × String :=
  (row.normalizedEmail, row.importedRole, row.importedStatus)

/-- The entries without the removed rows, with the added ones, and with the changes. -/
def Delta.apply (delta : Delta DateTime) (previous : List (VendorUserSnapshotRow DateTime)) :
    List (String × String × String) :=
  let kept := previous.filter fun r =>
    r.normalizedEmail ∉ delta.removed.map (·.normalizedEmail)
  (kept ++ delta.added).map fun r =>
    (r.normalizedEmail, applyChanges delta.roleChanges r.normalizedEmail r.importedRole,
      applyChanges delta.statusChanges r.normalizedEmail r.importedStatus)

/-- Applying changes gives the value after them. -/
theorem applyChanges_eq (hafter : ∀ c ∈ changes, c.email = email → c.after = new)
    (h : value = new ∨ ∃ c ∈ changes, c.email = email) :
    applyChanges changes email value = new := by
  unfold applyChanges
  -- Over the changes: one of the address sets the value after it.
  induction changes generalizing value with
  | nil => exact h.resolve_right (by simp)
  | cons c changes ih =>
    have hafter' : ∀ c ∈ changes, c.email = email → c.after = new :=
      fun c hc => hafter c (List.mem_cons_of_mem _ hc)
    rw [List.foldl_cons]
    by_cases hemail : c.email = email
    · rw [if_pos hemail, hafter c List.mem_cons_self hemail]
      exact ih hafter' (.inl rfl)
    · rw [if_neg hemail]
      refine ih hafter' (h.imp_right ?_)
      rintro ⟨c', hc', hemail'⟩
      rcases List.mem_cons.1 hc' with rfl | hc'
      · exact absurd hemail' hemail
      · exact ⟨c', hc', hemail'⟩

section Apply

variable {field : VendorUserSnapshotRow DateTime → String}

/-- The changes turn the previous value of a person into the current one. -/
theorem applyChanges_changesOf (hp : UniqueEmails previous) (hc : UniqueEmails current)
    {p r : VendorUserSnapshotRow DateTime} (hp' : p ∈ previous) (hr : r ∈ current)
    (hemail : p.normalizedEmail = r.normalizedEmail) :
    applyChanges (changesOf field previous current) p.normalizedEmail (field p) = field r := by
  refine applyChanges_eq (fun c hc' hc'' => ?_) ?_
  · obtain ⟨p', -, r', hr', -, -, rfl⟩ := (mem_changesOf hp hc).1 hc'
    obtain rfl := hc.eq hr' hr (hc''.trans hemail)
    rfl
  · by_cases hfield : field p = field r
    · exact .inl hfield
    · exact .inr ⟨_, (mem_changesOf hp hc).2 ⟨p, hp', r, hr, hemail, hfield, rfl⟩, hemail.symm⟩

/-- No change is listed for an added row. -/
theorem applyChanges_of_added (hp : UniqueEmails previous) (hc : UniqueEmails current)
    (hnew : ∀ p ∈ previous, p.normalizedEmail ≠ email) :
    applyChanges (changesOf field previous current) email value = value := by
  refine applyChanges_eq (fun c hc' hc'' => ?_) (.inl rfl)
  obtain ⟨p, hp', r, -, hemail, -, rfl⟩ := (mem_changesOf hp hc).1 hc'
  exact absurd (hemail.trans hc'') (hnew p hp')

end Apply

/-- A row is added when nobody had its address before. -/
theorem mem_added (hp : UniqueEmails previous) (hc : UniqueEmails current) :
    row ∈ (computeDelta lower previous current).added ↔
      row ∈ current ∧ ∀ p ∈ previous, p.normalizedEmail ≠ row.normalizedEmail := by
  rw [computeDelta_eq, notIn_byEmail hp hc]
  simp

/-- A row is removed when nobody has its address now. -/
theorem mem_removed (hp : UniqueEmails previous) (hc : UniqueEmails current) :
    row ∈ (computeDelta lower previous current).removed ↔
      row ∈ previous ∧ ∀ r ∈ current, r.normalizedEmail ≠ row.normalizedEmail := by
  rw [computeDelta_eq, notIn_byEmail hc hp]
  simp

/-- The rows that a delta keeps are those of people on both rosters. -/
theorem mem_kept (hp : UniqueEmails previous) (hc : UniqueEmails current) :
    (row ∈ previous ∧ row.normalizedEmail ∉
        (computeDelta lower previous current).removed.map (·.normalizedEmail)) ↔
      row ∈ previous ∧ ∃ r ∈ current, row.normalizedEmail = r.normalizedEmail := by
  refine and_congr_right fun hrow => ?_
  rw [List.mem_map]
  constructor
  · intro hkept
    by_contra hgone
    refine hkept ⟨row, (mem_removed hp hc).2 ⟨hrow, fun r hr heq => hgone ⟨r, hr, heq.symm⟩⟩, rfl⟩
  · rintro ⟨r, hr, hemail⟩ ⟨p, hremoved, hemail'⟩
    exact ((mem_removed hp hc).1 hremoved).2 r hr (hemail.symm.trans hemail'.symm)

/-- Applied to the previous roster, the delta gives the current one. -/
theorem computeDelta_apply (hp : UniqueEmails previous) (hc : UniqueEmails current) :
    ((computeDelta lower previous current).apply previous).Perm (current.map entry) := by
  have hnodup : (((computeDelta lower previous current).apply previous).map Prod.fst).Nodup := by
    unfold Delta.apply
    rw [List.map_map, List.map_append]
    refine List.Nodup.append (hp.sublist (List.filter_sublist.map _)) ?_ ?_
    · rw [computeDelta_eq, notIn_byEmail hp hc]
      exact hc.sublist (List.filter_sublist.map _)
    · intro email hkept hadded
      obtain ⟨p, hp', rfl⟩ := List.mem_map.1 hkept
      obtain ⟨r, hr, hemail⟩ := List.mem_map.1 hadded
      exact ((mem_added hp hc).1 hr).2 p (List.mem_filter.1 hp').1 hemail.symm
  have hnodup' : ((current.map entry).map Prod.fst).Nodup := by
    rw [List.map_map]
    exact hc
  refine (List.perm_ext_iff_of_nodup hnodup.of_map hnodup'.of_map).2 fun x => ?_
  unfold Delta.apply
  simp only [List.mem_map, List.mem_append, List.mem_filter, decide_eq_true_eq]
  constructor
  · rintro ⟨row, hkept | hadded, rfl⟩
    · obtain ⟨hrow, r, hr, hemail⟩ := (mem_kept hp hc).1 (by simpa using hkept)
      refine ⟨r, hr, ?_⟩
      rw [computeDelta_eq, applyChanges_changesOf hp hc hrow hr hemail,
        applyChanges_changesOf hp hc hrow hr hemail, hemail]
      rfl
    · obtain ⟨hrow, hnew⟩ := (mem_added hp hc).1 hadded
      refine ⟨row, hrow, ?_⟩
      rw [computeDelta_eq, applyChanges_of_added hp hc hnew, applyChanges_of_added hp hc hnew]
      rfl
  · rintro ⟨r, hr, rfl⟩
    -- A row is added, or changed from the one before.
    by_cases hnew : ∀ p ∈ previous, p.normalizedEmail ≠ r.normalizedEmail
    · refine ⟨r, .inr ((mem_added hp hc).2 ⟨hr, hnew⟩), ?_⟩
      rw [computeDelta_eq, applyChanges_of_added hp hc hnew, applyChanges_of_added hp hc hnew]
      rfl
    · push Not at hnew
      obtain ⟨p, hp', hemail⟩ := hnew
      have hkept : p ∈ previous ∧ p.normalizedEmail ∉
          (computeDelta lower previous current).removed.map (·.normalizedEmail) :=
        (mem_kept hp hc).2 ⟨hp', r, hr, hemail⟩
      refine ⟨p, .inl (by simpa using hkept), ?_⟩
      rw [computeDelta_eq, applyChanges_changesOf hp hc hp' hr hemail,
        applyChanges_changesOf hp hc hp' hr hemail, hemail]
      rfl

/-! ## Explanations -/

/-- The change, seen from the other roster. -/
def Change.swap (c : Change) : Change := ⟨c.email, c.after, c.before⟩

/-- The listed change is one from the value of the previous roster to another value. -/
def IsChange (field : VendorUserSnapshotRow DateTime → String)
    (previous : List (VendorUserSnapshotRow DateTime)) (c : Change) : Prop :=
  c.before ≠ c.after ∧ ∃ p ∈ previous, p.normalizedEmail = c.email ∧ field p = c.before

/-- The delta explains how the previous roster became the current one. -/
structure Explains (lower : String → String)
    (previous current : List (VendorUserSnapshotRow DateTime)) (delta : Delta DateTime) : Prop where
  added_subset : delta.added ⊆ current
  removed_subset : delta.removed ⊆ previous
  disjoint : ∀ a ∈ delta.added, ∀ r ∈ delta.removed, a.normalizedEmail ≠ r.normalizedEmail
  apply : (delta.apply previous).Perm (current.map entry)
  roleChanges : ∀ c ∈ delta.roleChanges, IsChange (·.importedRole) previous c
  statusChanges : ∀ c ∈ delta.statusChanges, IsChange (·.importedStatus) previous c
  newlyAssignedAdmins : delta.newlyAssignedAdmins = current.filter fun r =>
    previous.any fun p => p.normalizedEmail = r.normalizedEmail ∧ BecomesAdmin lower p r

/-- The second delta is the first one with the rosters swapped. The changes stand in the order
    of the roster that is the current one. -/
structure Swapped (delta delta' : Delta DateTime) : Prop where
  added : delta'.added = delta.removed
  removed : delta'.removed = delta.added
  roleChanges : delta'.roleChanges.Perm (delta.roleChanges.map Change.swap)
  statusChanges : delta'.statusChanges.Perm (delta.statusChanges.map Change.swap)

/-- A change has the value before and the one after. -/
theorem isChange_of_mem (hp : UniqueEmails previous) (hc : UniqueEmails current)
    {field : VendorUserSnapshotRow DateTime → String} (h : c ∈ changesOf field previous current) :
    IsChange field previous c := by
  obtain ⟨p, hp', r, -, hemail, hne, rfl⟩ := (mem_changesOf hp hc).1 h
  exact ⟨hne, p, hp', hemail, rfl⟩

/-- The changes back are the changes, swapped. -/
theorem changesOf_swap (hp : UniqueEmails previous) (hc : UniqueEmails current)
    (field : VendorUserSnapshotRow DateTime → String) :
    (changesOf field current previous).Perm
      ((changesOf field previous current).map Change.swap) := by
  have hnodup : (((changesOf field previous current).map Change.swap).map (·.email)).Nodup := by
    rw [List.map_map]
    exact changesOf_emails_nodup hc field
  refine (List.perm_ext_iff_of_nodup (changesOf_emails_nodup hp field).of_map
    hnodup.of_map).2 fun c => ?_
  rw [mem_changesOf hc hp, List.mem_map]
  constructor
  · rintro ⟨r, hr, p, hp', hemail, hne, rfl⟩
    refine ⟨⟨r.normalizedEmail, field p, field r⟩,
      (mem_changesOf hp hc).2 ⟨p, hp', r, hr, hemail.symm, hne.symm, rfl⟩, ?_⟩
    rw [Change.swap, hemail]
  · rintro ⟨c, hc', rfl⟩
    obtain ⟨p, hp', r, hr, hemail, hne, rfl⟩ := (mem_changesOf hp hc).1 hc'
    refine ⟨r, hr, p, hp', hemail.symm, hne.symm, ?_⟩
    rw [Change.swap, hemail]

/-- For every two rosters in which no address occurs twice, the delta explains the change, and
    swapping the rosters swaps it. -/
theorem computeDelta_explains (lower : String → String)
    (previous current : List (VendorUserSnapshotRow DateTime)) (hp : UniqueEmails previous)
    (hc : UniqueEmails current) :
    Explains lower previous current (computeDelta lower previous current) ∧
      Swapped (computeDelta lower previous current) (computeDelta lower current previous) := by
  constructor
  · exact {
      added_subset := fun r hr => ((mem_added hp hc).1 hr).1
      removed_subset := fun p hp' => ((mem_removed hp hc).1 hp').1
      disjoint := fun a ha r hr => ((mem_removed hp hc).1 hr).2 a ((mem_added hp hc).1 ha).1
      apply := computeDelta_apply hp hc
      roleChanges := fun c h => isChange_of_mem hp hc (by rwa [computeDelta_eq] at h)
      statusChanges := fun c h => isChange_of_mem hp hc (by rwa [computeDelta_eq] at h)
      newlyAssignedAdmins := newlyAssignedAdmins_eq hp hc }
  · simp only [computeDelta_eq]
    exact ⟨rfl, rfl, changesOf_swap hp hc _, changesOf_swap hp hc _⟩

/-! ## Two small rosters -/

/-- A row of a roster. -/
def sampleRow (email role status : String) : VendorUserSnapshotRow Unit where
  normalizedEmail := email
  importedEmail := email
  importedName := ""
  importedRole := role
  importedStatus := status
  importedLastLoginAt := none
  snapshotId := 1
  matchedPersonId := none

/-- The roster before. -/
def earlierRoster : List (VendorUserSnapshotRow Unit) :=
  [sampleRow "ada@example.org" "viewer" "active", sampleRow "bob@example.org" "admin" "active"]

/-- The roster after. -/
def laterRoster : List (VendorUserSnapshotRow Unit) :=
  [sampleRow "ada@example.org" "Admin" "suspended", sampleRow "eve@example.org" "viewer" "active"]

example : (computeDelta String.toLower earlierRoster laterRoster).roleChanges =
    [⟨"ada@example.org", "viewer", "Admin"⟩] := by decide

/-- `computeDelta_explains` for these rosters. -/
theorem computeDelta_explains_sample :
    Explains String.toLower earlierRoster laterRoster
        (computeDelta String.toLower earlierRoster laterRoster) ∧
      Swapped (computeDelta String.toLower earlierRoster laterRoster)
        (computeDelta String.toLower laterRoster earlierRoster) :=
  computeDelta_explains _ _ _ (by unfold UniqueEmails; decide) (by unfold UniqueEmails; decide)

end MiniGrc.VendorRosters
