import MiniGrc.Spec.Redaction

/-!
# The actor columns after a redaction

`redact_user_pii` works from the registry of columns and from the present address of the user.
Other columns, and the addresses that the user had before, are out of its reach.

## Key results

- `redaction_complete_iff`: when a redaction leaves no address of the user in an actor column
- `redaction_complete`: how runs keep it so
-/

namespace MiniGrc.Users

open Events

variable {lower : String → String} {s s' : Accounts} {id k : Id} {row row' : User} {c : Call}
  {change : Change} {address : String} {column : ActorColumn} {past : List Accounts}

/-! ## One redaction -/

/-- What a redaction does to an address other than the pseudonym. -/
theorem mem_actors_redact {user : User} {event : AuditEvent} (hrow : s.users[id]? = some row)
    (happly : Change.apply (.redact actorStringColumns row.email (redactedEmail id) id row user
      event) s = .ok s') (hne : address ≠ redactedEmail id) :
    address ∈ s'.actors column ↔
      address ∈ s.actors column ∧ ¬ (column ∈ actorStringColumns ∧ address = row.email) ∨
        column = .auditEvent ∧ event.actor = address := by
  obtain ⟨-, rfl⟩ := apply_redact hrow happly
  have hreplaced : address ∈ (actorStringColumns.foldl
      (fun s column => s.replaceActor row.email (redactedEmail id) column) s).actors column ↔
      address ∈ s.actors column ∧ ¬ (column ∈ actorStringColumns ∧ address = row.email) := by
    rw [mem_actors_replaceActors]
    constructor
    · rintro ⟨old, hold, heq⟩
      split at heq
      · exact absurd heq hne
      · next hkept =>
        subst heq
        exact ⟨hold, hkept⟩
    · rintro ⟨hold, hkept⟩
      exact ⟨address, hold, by rw [if_neg hkept]⟩
  rw [mem_actors_audit, ← hreplaced]
  simp only [List.mem_singleton, exists_eq_left]
  rfl

/-- A redaction reaches what the actor columns hold of the addresses of the user: only
    registered columns hold one, and that is the present address; and the author of the
    redaction has none of them. -/
structure Reached (past : List Accounts) (s : Accounts) (id actorId : Id) : Prop where
  columns : ∀ address column, Had past s id address → address ∈ s.actors column →
    column ∈ actorStringColumns
  present : ∀ address column row, Had past s id address → address ∈ s.actors column →
    s.users[id]? = some row → address = row.email
  author : ∀ author, actorId ≠ id → s.users[actorId]? = some author →
    ¬ Had past s id author.email

/-- A redaction leaves no address of the user in an actor column exactly if it reaches all that
    the columns held. -/
theorem redaction_complete_iff {now : Time} {actorId : Id} {counts : List (String × Nat)}
    (hserve : s.serve lower (.redact now id actorId) = .ok (s', .report id false counts)) :
    (∀ address, Had past s id address → ∀ column, address ∉ s'.actors column) ↔
      Reached past s id actorId := by
  obtain ⟨row, author, event, hrow, hauthor, hevent, happly⟩ := redact_served hserve
  have hmem : ∀ address column, Had past s id address → (address ∈ s'.actors column ↔ _) :=
    fun address column hhad => mem_actors_redact hrow happly hhad.1
  constructor
  · intro hgone
    refine ⟨fun address column hhad ha => ?_, fun address column row₀ hhad ha hrow₀ => ?_,
      fun author₀ hother hauthor₀ hhad => ?_⟩
    · by_contra hcolumn
      exact hgone address hhad column ((hmem address column hhad).2
        (.inl ⟨ha, fun hreached => hcolumn hreached.1⟩))
    · obtain rfl := Option.some.inj (hrow.symm.trans hrow₀)
      by_contra hne
      exact hgone address hhad column ((hmem address column hhad).2
        (.inl ⟨ha, fun hreached => hne hreached.2⟩))
    · obtain rfl := Option.some.inj (hauthor.symm.trans hauthor₀)
      rw [if_neg hother] at hevent
      exact hgone author.email hhad .auditEvent ((hmem author.email .auditEvent hhad).2
        (.inr ⟨rfl, hevent⟩))
  · intro hreached address hhad column ha
    rcases (hmem address column hhad).1 ha with ⟨ha, hkept⟩ | ⟨-, hactor⟩
    · exact hkept ⟨hreached.columns address column hhad ha,
        hreached.present address column row hhad ha hrow⟩
    · rw [hevent] at hactor
      split at hactor
      · exact hhad.1 hactor.symm
      · next hother => exact hreached.author author hother hauthor (hactor ▸ hhad)

/-! ## Runs -/

/-- The request writes its author into registered columns only; it gives a user a new address
    only if the user has not been redacted and no actor column holds the old one; and what it
    brings that no account has, no account has ever had. -/
structure Traceable (lower : String → String) (h : List Accounts × Accounts) (c : Call) : Prop where
  columns : ∀ userId cells events, c = .record userId cells events →
    ∀ cell ∈ cells, cell.1 ∈ actorStringColumns
  renames : ∀ k row email, Renames lower h.2 c k row email →
    row.piiRedactedAt = none ∧ ∀ column, row.email ∉ h.2.actors column
  brings : ∀ address ∈ c.brings lower, ¬ h.2.HasAddress address → ∀ k, ¬ Had h.1 h.2 k address

/-- What holds of the accounts and their past. -/
structure Traced (h : List Accounts × Accounts) : Prop where
  /-- nobody has an address that another user has had -/
  unique : ∀ (k k' : Id) row address, h.2.users[k]? = some row → Had h.1 h.2 k' address → k ≠ k' →
    row.email ≠ address
  /-- only registered columns are written -/
  columns : ∀ column address, address ∈ h.2.actors column → column ∈ actorStringColumns
  /-- and of the addresses of a user they hold the present one at most -/
  present : ∀ (k : Id) address column, Had h.1 h.2 k address → address ∈ h.2.actors column →
    ∃ row : User, h.2.users[k]? = some row ∧ row.email = address
  pseudonym : ∀ (k : Id) row, h.2.users[k]? = some row → row.piiRedactedAt ≠ none →
    row.email = redactedEmail k

/-- After a request a user has the address of before, or one that the request brings and that
    was free. -/
theorem email_of_decision (hd : Decision lower s c change) (h : change.apply s = .ok s')
    (hrow' : s'.users[k]? = some row') :
    (∃ row, s.users[k]? = some row ∧ row.email = row'.email) ∨
      row'.email ∈ c.brings lower ∧ s.userByEmail row'.email = none := by
  cases hd.rowEffect h hrow' with
  | kept row hrow hemail _ => exact .inl ⟨row, hrow, hemail.symm⟩
  | renamed row hrow _ hrenames =>
    obtain ⟨_, _, _, -, -, -, -, hfree⟩ := id hrenames
    exact .inr ⟨hrenames.brings, hfree⟩
  | added _ _ hbrings hfree => exact .inr ⟨hbrings, hfree⟩
  | redacted now actorId row hc hrow hemail hfree =>
    rw [hemail]
    rcases hfree with hsame | hfree
    · exact .inl ⟨row, hrow, hsame⟩
    · refine .inr ⟨?_, hfree⟩
      rw [hc]
      exact List.mem_cons_self

theorem had_snoc : Had (past ++ [s]) s' k address ↔
    Had past s k address ∨ address ≠ redactedEmail k ∧
      ∃ row' : User, s'.users[k]? = some row' ∧ row'.email = address := by
  simp only [Had, List.mem_append (s := past ++ [s]), List.mem_singleton (b := s'), or_and_right,
    exists_or, exists_eq_left, ← and_or_left]

namespace Traced

/-- A user who has had an address that is still in the actor columns or with an account has it
    now. -/
theorem email_of_known (h : Traced (past, s)) (hhad : Had past s k address)
    (hknown : address ∈ s.actors column ∨ s.HasAddress address) :
    ∃ row : User, s.users[k]? = some row ∧ row.email = address := by
  rcases hknown with ha | ⟨j, row, hrow, heq⟩
  · exact h.present k address column hhad ha
  · by_cases hj : j = k
    · subst hj
      exact ⟨row, hrow, heq⟩
    · exact absurd heq (h.unique j k row address hrow hhad hj)

theorem unique_step (h : Traced (past, s)) (hok : Traceable lower (past, s) c)
    (hd : Decision lower s c change) (happly : change.apply s = .ok s') {k' : Id}
    (hrow' : s'.users[k]? = some row') (hhad : Had (past ++ [s]) s' k' address) (hne : k ≠ k') :
    row'.email ≠ address := by
  rintro rfl
  rcases had_snoc.1 hhad with hhad | ⟨hpseudonym, row'', hrow'', hemail''⟩
  · rcases email_of_decision hd happly hrow' with ⟨row, hrow, hemail⟩ | ⟨hbrings, hfree⟩
    · exact h.unique k k' row _ hrow hhad hne hemail
    · exact hok.brings _ hbrings (fun ha => hasAddress_iff.1 ha hfree) k' hhad
  · have hstored : ∀ (j : Id) (row : User), s.users[j]? = some row → row.email = row'.email →
        s.userByEmail row'.email ≠ none :=
          fun j row hrow hemail => hasAddress_iff.1 ⟨j, row, hrow, hemail⟩
    rcases email_of_decision hd happly hrow' with ⟨row, hrow, hemail⟩ | ⟨-, hfree⟩
    · rcases email_of_decision hd happly hrow'' with ⟨other, hother, hemail'⟩ | ⟨-, hfree⟩
      · refine h.unique k k' row row'.email hrow
          ⟨hpseudonym, s, by simp, other, hother, ?_⟩ hne hemail
        rw [hemail', hemail'']
      · exact hstored k row hrow hemail (hemail'' ▸ hfree)
    · -- both have got the address in this step, which was about one user at most
      rcases hd.frame happly with heq | ⟨id, user, heq⟩
      · exact hstored k row' (heq ▸ hrow') rfl hfree
      · rw [heq] at hrow' hrow''
        by_cases hid : id = k
        · rw [Table.get_insert_ne (hid ▸ hne)] at hrow''
          exact hstored k' row'' hrow'' hemail'' hfree
        · rw [Table.get_insert_ne hid] at hrow'
          exact hstored k row' hrow' rfl hfree

theorem columns_step (h : Traced (past, s)) (hok : Traceable lower (past, s) c)
    (hd : Decision lower s c change) (happly : change.apply s = .ok s')
    (ha : address ∈ s'.actors column) : column ∈ actorStringColumns := by
  rcases hd.actors happly ha with ha | ⟨-, hcolumn | ⟨userId, cells, events, k, hc, hmem⟩⟩
  · exact h.columns column address ha
  · exact hcolumn
  · exact hok.columns userId cells events hc _ hmem

theorem present_step (h : Traced (past, s)) (hok : Traceable lower (past, s) c)
    (hd : Decision lower s c change) (happly : change.apply s = .ok s')
    (hhad : Had (past ++ [s]) s' k address) (ha : address ∈ s'.actors column) :
    ∃ row : User, s'.users[k]? = some row ∧ row.email = address := by
  rcases had_snoc.1 hhad with hhad | ⟨-, hpresent⟩
  swap
  · exact hpresent
  -- before the step the user had the address too
  have hknown : address ∈ s.actors column ∨ s.HasAddress address := by
    rcases hd.actors happly ha with ha | ⟨ha | hbrings, -⟩
    · exact .inl ha
    · exact .inr ha
    · by_contra hcon
      exact hok.brings address hbrings (fun ha => hcon (.inr ha)) k hhad
  obtain ⟨row, hrow, rfl⟩ := h.email_of_known hhad hknown
  cases hd with
  | none =>
    obtain rfl := Except.ok.inj happly
    exact ⟨row, hrow, rfl⟩
  | saved id stored user events hstored _ hemail _ =>
    obtain rfl := apply_loaded hstored happly
    by_cases hid : id = k
    · subst hid
      obtain rfl := Option.some.inj (hrow.symm.trans hstored)
      exact ⟨user, Table.get_insert_self, hemail⟩
    · exact ⟨row, (Table.get_insert_ne hid).trans hrow, rfl⟩
  | renamed id stored user events hstored _ hrenames hactors =>
    obtain rfl := apply_loaded hstored happly
    by_cases hid : id = k
    · -- nothing but the new address is written, and the old one was not there
      subst hid
      obtain rfl := Option.some.inj (hrow.symm.trans hstored)
      rcases mem_actors_audit.1 ha with ha | ⟨-, e, he, heq⟩
      · exact absurd ha ((hok.renames _ _ _ hrenames).2 column)
      · obtain ⟨_, _, _, -, -, -, hne, -⟩ := hrenames
        exact absurd (heq.symm.trans (hactors e he)) hne
    · exact ⟨row, (Table.get_insert_ne hid).trans hrow, rfl⟩
  | added id identity user events _ _ _ _ =>
    obtain ⟨hnone, t, husers, -, -, rfl⟩ := apply_added happly
    have hid : id ≠ k := by
      rintro rfl
      rw [hrow] at hnone
      cases hnone
    refine ⟨row, ?_, rfl⟩
    exact (congrArg (fun users : Table User => users[k]?) husers).trans
      ((Table.get_insert_ne hid).trans hrow)
  | recorded _ _ _ _ _ _ _ _ =>
    refine ⟨row, ?_, rfl⟩
    rw [apply_saveActor happly]
    exact (congrArg (fun users : Table User => users[k]?) users_writeActors).trans hrow
  | redacted now id actorId stored author event hc hstored hunredacted _ hauthor hevent =>
    by_cases hid : id = k
    · -- the redaction has replaced the address, and its author has another
      subst hid
      obtain rfl := Option.some.inj (hrow.symm.trans hstored)
      rcases (mem_actors_redact hstored happly hhad.1).1 ha with ⟨ha, hkept⟩ | ⟨-, hactor⟩
      · exact absurd ⟨h.columns column _ ha, rfl⟩ hkept
      · rw [hevent] at hactor
        split at hactor
        · exact absurd hactor.symm hhad.1
        · next hother =>
          exact absurd hactor (h.unique actorId id author _ hauthor hhad hother)
    · obtain ⟨-, rfl⟩ := apply_redact hstored happly
      exact ⟨row, (Table.get_insert_ne hid).trans hrow, rfl⟩

theorem pseudonym_step (h : Traced (past, s)) (hok : Traceable lower (past, s) c)
    (hd : Decision lower s c change) (happly : change.apply s = .ok s')
    (hrow' : s'.users[k]? = some row') (hredacted : row'.piiRedactedAt ≠ none) :
    row'.email = redactedEmail k := by
  cases hd.rowEffect happly hrow' with
  | kept row hrow hemail hsame =>
    rw [hemail]
    exact h.pseudonym k row hrow (hsame ▸ hredacted)
  | renamed row hrow hsame hrenames =>
    exact absurd (hsame.trans (hok.renames k row _ hrenames).1) hredacted
  | added _ hnone _ _ => exact absurd hnone hredacted
  | redacted _ _ _ _ _ hemail _ => exact hemail

theorem step {h h' : List Accounts × Accounts} (ht : Traced h) (hok : Traceable lower h c)
    (hs : Run.recorded (Accounts.step lower) h c = some h') : Traced h' := by
  obtain ⟨past, s⟩ := h
  simp only [Run.recorded, Option.map_eq_some_iff] at hs
  obtain ⟨s', hs, rfl⟩ := hs
  rcases step_cases hs with rfl | ⟨change, hd, happly⟩
  · -- the request has left everything alone
    have hhad : ∀ k address, Had (past ++ [s']) s' k address → Had past s' k address := by
      rintro k address hhad
      rcases had_snoc.1 hhad with hhad | ⟨hne, row, hrow, heq⟩
      · exact hhad
      · exact ⟨hne, s', by simp, row, hrow, heq⟩
    exact ⟨fun k k' row address hrow hh => ht.unique k k' row address hrow (hhad _ _ hh),
      ht.columns, fun k address column hh => ht.present k address column (hhad _ _ hh),
      ht.pseudonym⟩
  · exact ⟨fun k k' row address hrow hh => ht.unique_step hok hd happly hrow hh,
      fun column address => ht.columns_step hok hd happly,
      fun k address column hh => ht.present_step hok hd happly hh,
      fun k row hrow => ht.pseudonym_step hok hd happly hrow⟩

end Traced

/-- A deployment without users, with some people and some role mappings. -/
def freshAccounts (people : Table String) (oidcRoleMappings : Table OidcRoleMapping) : Accounts :=
  { accountsOf [] with people := people, oidcRoleMappings := oidcRoleMappings }

theorem traced_fresh (people : Table String) (oidcRoleMappings : Table OidcRoleMapping) :
    Traced ([], freshAccounts people oidcRoleMappings) := by
  have hnone : ∀ k : Id, (freshAccounts people oidcRoleMappings).users[k]? = none := by
    intro k
    simp [freshAccounts, accountsOf]
  have hactors : ∀ column address,
      address ∉ (freshAccounts people oidcRoleMappings).actors column := by
    intro column address
    simp [freshAccounts, accountsOf, Accounts.actors]
  refine ⟨fun k _ row _ hrow => ?_, fun column address ha => absurd ha (hactors column address),
    fun k address column _ ha => absurd ha (hactors column address), fun k row hrow => ?_⟩
  · rw [hnone k] at hrow
    cases hrow
  · rw [hnone k] at hrow
    cases hrow

/-- In every history of a deployment whose requests write their authors into registered columns
    only, change the address of an account only while it is not redacted and no actor column
    holds the address, and bring no address that an account had before and none has now, no
    actor column holds an address that a redacted user has ever had. -/
theorem redaction_complete {people : Table String} {oidcRoleMappings : Table OidcRoleMapping}
    (h : Run (Run.recorded (Accounts.step lower)) (Traceable lower)
      ([], freshAccounts people oidcRoleMappings) (past, s))
    (hrow : s.users[k]? = some row) (hredacted : row.piiRedactedAt ≠ none) :
    ∀ address, Had past s k address → ∀ column, address ∉ s.actors column := by
  have ht : Traced (past, s) :=
    h.invariant (P := Traced) (traced_fresh people oidcRoleMappings)
      fun _ _ _ ht hok hs => ht.step hok hs
  intro address hhad column ha
  obtain ⟨row', hrow', heq⟩ := ht.present k address column hhad ha
  obtain rfl := Option.some.inj (hrow.symm.trans hrow')
  exact hhad.1 (heq.symm.trans (ht.pseudonym k row hrow hredacted))

/-- The request records nobody, comes with no Google subject that is known, and brings only
    addresses that have never been taken. -/
def FirstUse (lower : String → String) (h : List Accounts × Accounts) (c : Call) : Prop :=
  (match c with
    | .google _ identity _ => h.2.userByGoogleSubject identity.subject = none
    | .record .. => False
    | _ => True) ∧
  ∀ address ∈ c.brings lower, ∀ t ∈ h.1 ++ [h.2], t.userByEmail address = none

instance (h : List Accounts × Accounts) (c : Call) : Decidable (FirstUse lower h c) :=
  match c with
  | .google .. => inferInstanceAs (Decidable (_ ∧ _))
  | .record .. => inferInstanceAs (Decidable (False ∧ _))
  | .oidc .. | .createUser .. | .updateUser .. | .redact .. =>
    inferInstanceAs (Decidable (True ∧ _))

theorem traceable_of_firstUse (h : FirstUse lower (past, s) c) : Traceable lower (past, s) c where
  columns userId cells events hc := by
    subst hc
    exact absurd h.1 not_false
  renames k row email hrenames := by
    obtain ⟨resolved, identity, newId, rfl, hknown, -⟩ := hrenames
    rw [show s.userByGoogleSubject identity.subject = none from h.1] at hknown
    cases hknown
  brings address hmem _ k := by
    rintro ⟨-, t, ht, row, hrow, rfl⟩
    exact hasAddress_iff.1 ⟨k, row, hrow, rfl⟩ (h.2 _ hmem t ht)

/-- The first sign-ins of two users through Google, what the second does, and the redaction of
    the second by the first. -/
def leavingAfter (requests : List Call) : List Call :=
  [.google ⟨true, "groups"⟩ ⟨"1001", "ada@example.com"⟩ 1,
    .google ⟨true, "groups"⟩ ⟨"1072", "lee@example.com"⟩ 2] ++ requests ++
  [.updateUser 1 2 "operator" "disabled", .redact 0 2 1]

/-- `redaction_complete` for a user who has done nothing but sign in. -/
theorem redaction_complete_leavingAfter :
    ∃ past s, (∃ row : User, s.users[2]? = some row ∧ row.piiRedactedAt = some 0) ∧
      Had past s 2 "lee@example.com" ∧
      ∀ address, Had past s 2 address → ∀ column, address ∉ s.actors column := by
  obtain ⟨past, s, row, hexec, hrow, hredacted, hhad⟩ : ∃ past s row,
      Run.exec (Run.guarded (Run.recorded (Accounts.step lowerAscii)) (FirstUse lowerAscii))
        ([], freshAccounts ∅ ∅) (leavingAfter []) = some (past, s) ∧
      s.users[2]? = some row ∧ row.piiRedactedAt = some 0 ∧
      ∃ t ∈ past ++ [s], ∃ row : User, t.users[2]? = some row ∧ row.email = "lee@example.com" :=
    ⟨_, _, _, rfl, rfl, rfl, _, List.mem_of_getElem? (i := 2) rfl, _, rfl, rfl⟩
  have hrun := (Run.of_exec_guarded _ hexec).mono fun h c => traceable_of_firstUse
  exact ⟨past, s, ⟨row, hrow, hredacted⟩, ⟨by decide, hhad⟩,
    redaction_complete hrun hrow (by simp [hredacted])⟩

/-- A user writes a note on a requirement before the redaction. The note keeps the address:
    its column is not in the registry. -/
theorem note_keeps_address :
    ∃ past s, Run (Run.recorded (Accounts.step lowerAscii)) (fun _ _ => True)
        ([], freshAccounts ∅ ∅) (past, s) ∧
      (∃ row : User, s.users[2]? = some row ∧ row.piiRedactedAt = some 0) ∧
      Had past s 2 "lee@example.com" ∧ "lee@example.com" ∈ s.actors .requirementNoteAuthor := by
  obtain ⟨past, s, row, hexec, hrow, hredacted, hhad, hactors⟩ : ∃ past s row,
      Run.exec (Run.recorded (Accounts.step lowerAscii)) ([], freshAccounts ∅ ∅)
        (leavingAfter [.record 2 [(.requirementNoteAuthor, 5)] []]) = some (past, s) ∧
      s.users[2]? = some row ∧ row.piiRedactedAt = some 0 ∧
      (∃ t ∈ past ++ [s], ∃ row : User, t.users[2]? = some row ∧ row.email = "lee@example.com") ∧
      s.actors .requirementNoteAuthor = ["lee@example.com"] :=
    ⟨_, _, _, rfl, rfl, rfl, ⟨_, List.mem_of_getElem? (i := 2) rfl, _, rfl, rfl⟩, rfl⟩
  exact ⟨past, s, Run.of_exec_true _ hexec, ⟨row, hrow, hredacted⟩, ⟨by decide, hhad⟩,
    hactors ▸ List.mem_singleton_self _⟩

/-- A user makes a job and has another address at the next sign-in through Google. The redaction
    looks for the new address only. -/
theorem job_keeps_formerAddress :
    ∃ past s, Run (Run.recorded (Accounts.step lowerAscii)) (fun _ _ => True)
        ([], freshAccounts ∅ ∅) (past, s) ∧
      (∃ row : User, s.users[2]? = some row ∧ row.piiRedactedAt = some 0) ∧
      Had past s 2 "lee@example.com" ∧ "lee@example.com" ∈ s.actors .jobCreatedBy := by
  obtain ⟨past, s, row, hexec, hrow, hredacted, hhad, hactors⟩ : ∃ past s row,
      Run.exec (Run.recorded (Accounts.step lowerAscii)) ([], freshAccounts ∅ ∅)
        (leavingAfter [.record 2 [(.jobCreatedBy, 5)] [],
          .google ⟨true, "groups"⟩ ⟨"1072", "lee.park@example.com"⟩ 3]) = some (past, s) ∧
      s.users[2]? = some row ∧ row.piiRedactedAt = some 0 ∧
      (∃ t ∈ past ++ [s], ∃ row : User, t.users[2]? = some row ∧ row.email = "lee@example.com") ∧
      s.actors .jobCreatedBy = ["lee@example.com"] :=
    ⟨_, _, _, rfl, rfl, rfl, ⟨_, List.mem_of_getElem? (i := 2) rfl, _, rfl, rfl⟩, rfl⟩
  exact ⟨past, s, Run.of_exec_true _ hexec, ⟨row, hrow, hredacted⟩, ⟨by decide, hhad⟩,
    hactors ▸ List.mem_singleton_self _⟩

end MiniGrc.Users
