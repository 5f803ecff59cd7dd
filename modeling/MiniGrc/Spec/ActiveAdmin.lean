import MiniGrc.Spec.UserRequests

/-!
# The last active admin

`update_user` counts the other active admins before it takes one away; the sign-ins through
OIDC recompute a role without a count. Requests run in read-committed transactions, so a count
can be out of date by the commit.

## Key results

- `exists_activeAdmin`: when there is an active admin after every commit
- `no_activeAdmin_edits`, `no_activeAdmin_login`: runs after which there is none
-/

namespace MiniGrc.Users

variable {lower : String → String} {s s' : Accounts} {id v : Id} {change : Change}

/-! ## What takes an active admin away -/

/-- The user is an active admin. -/
def Accounts.ActiveAdmin (s : Accounts) (id : Id) : Prop :=
  ∃ row : User, s.users[id]? = some row ∧ row.isActiveAdmin = true

/-- The flush of `user`, loaded as `row`, writes another role than admin or another status than
    active. -/
def User.Demotes (row user : User) : Prop :=
  user.role ≠ row.role ∧ user.role ≠ .admin ∨ user.status ≠ row.status ∧ user.status ≠ .active

/-- The change writes another role than admin or another status than active for the user. -/
def Change.Demotes (id : Id) : Change → Prop
  | .saveUser (.loaded userId row) user _ => userId = id ∧ row.Demotes user
  | .redact _ _ _ userId row user _ => userId = id ∧ row.Demotes user
  | _ => False

/-- An update that demotes nobody leaves an active administrator. -/
theorem User.isActiveAdmin_update {row user stored : User} (h : stored.isActiveAdmin = true)
    (hkeeps : ¬ row.Demotes user) : (row.update user stored).isActiveAdmin = true := by
  simp only [User.isActiveAdmin, decide_eq_true_eq] at h ⊢
  simp only [User.Demotes, not_or, not_and, not_not] at hkeeps
  simp only [User.update, flushed]
  grind

/-- The same accounts have the same administrators. -/
theorem activeAdmin_of_users {t : Accounts} (h : t.users = s.users) (hv : s.ActiveAdmin v) :
    t.ActiveAdmin v := by
  unfold Accounts.ActiveAdmin
  rwa [h]

/-- The `UPDATE` of a user row that may have changed since it was loaded. -/
theorem activeAdmin_updateUser {row user : User} {events : List AuditEvent}
    (h : (s.updateUser id row user).map (fun s => s.audit events) = .ok s')
    (hv : s.ActiveAdmin v) (hkeeps : ¬ (id = v ∧ row.Demotes user)) : s'.ActiveAdmin v := by
  have ⟨stored, hstored, hactive⟩ := hv
  simp only [Accounts.updateUser] at h
  split at h
  · obtain rfl := Except.ok.inj h
    exact activeAdmin_of_users rfl hv
  · next stored' hstored' =>
    split at h
    · cases h
    · obtain rfl := Except.ok.inj h
      -- The administrator's own row is updated, or another one.
      by_cases hid : id = v
      · subst hid
        obtain rfl := Option.some.inj (hstored.symm.trans hstored')
        exact ⟨_, Table.get_insert_self,
          User.isActiveAdmin_update hactive fun hdemotes => hkeeps ⟨rfl, hdemotes⟩⟩
      · exact ⟨stored, (Table.get_insert_ne hid).trans hstored, hactive⟩

/-- A change takes away only the active admin that it demotes. -/
theorem activeAdmin_apply (h : change.apply s = .ok s') (hv : s.ActiveAdmin v)
    (hkeeps : ¬ change.Demotes v) : s'.ActiveAdmin v := by
  -- A change saves one account, adds one, records or redacts.
  cases change with
  | none =>
    obtain rfl := Except.ok.inj h
    exact hv
  | saveUser origin user events =>
    cases origin with
    | loaded id row => exact activeAdmin_updateUser h hv hkeeps
    | added id identity =>
      obtain ⟨hnone, t, husers, -, -, rfl⟩ := apply_added h
      obtain ⟨row, hrow, hactive⟩ := hv
      have hid : id ≠ v := by
        rintro rfl
        rw [hrow] at hnone
        cases hnone
      refine ⟨row, ?_, hactive⟩
      exact (congrArg (fun users : Table User => users[v]?) husers).trans
        ((Table.get_insert_ne hid).trans hrow)
  | saveActor actor cells events =>
    rw [apply_saveActor h]
    exact activeAdmin_of_users users_writeActors hv
  | redact columns oldEmail newEmail id row user event =>
    exact activeAdmin_updateUser h (activeAdmin_of_users users_replaceActors hv) hkeeps

/-! ## What the requests make sure of -/

/-- What a request has made sure of when it decides on a change: an edit of an admin, that
    there is another active admin than the one that it takes away; a request that is no sign-in
    through OIDC demotes nobody otherwise. -/
def Assured : Call → Accounts → Change → Prop
  | .oidc .., _, _ => True
  | .updateUser .., s, change => ∀ id, change.Demotes id → ∃ v, v ≠ id ∧ s.ActiveAdmin v
  | _, _, change => ∀ id, ¬ change.Demotes id

/-- Whoever keeps role and status is not demoted. -/
theorem not_demotes_of_eq {row user : User} (hrole : user.role = row.role)
    (hstatus : user.status = row.status) : ¬ row.Demotes user := by
  simp [User.Demotes, hrole, hstatus]

variable {P : Accounts → Change → Prop}

/-- A request that requires a login settles what its user's request settles. -/
theorem settles_requireLogin {userId : Id} {next : User → Request}
    (hnone : ∀ s, P s .none)
    (hnext : ∀ s row, s.users[userId]? = some row → row.status = .active →
      (next row).Settles P s) : (requireLogin userId next).Settles P s := by
  refine Txn.settles_query fun t => ?_
  unfold requireActive
  split
  · exact Txn.settles_finish (hnone t)
  · next row hrow =>
    split
    · next hactive => exact hnext t row hrow hactive
    · exact Txn.settles_finish (hnone t)
    · exact Txn.settles_finish (hnone t)

/-- A request that requires an administrator settles what the administrator's request settles. -/
theorem settles_requireAdmin {userId : Id} {next : User → Request}
    (hnone : ∀ s, P s .none)
    (hnext : ∀ s row, s.users[userId]? = some row → row.isActiveAdmin = true →
      (next row).Settles P s) : (requireAdmin userId next).Settles P s := by
  refine settles_requireLogin hnone fun t row hrow hactive => ?_
  split
  · next hadmin => exact hnext t row hrow (by simp [User.isActiveAdmin, hadmin, hactive])
  · exact Txn.settles_finish (hnone t)

/-! ### Edits -/

/-- Where the count is not zero there is another active administrator. -/
theorem exists_of_activeAdminCount {excludingUserId : Id}
    (h : s.activeAdminCount excludingUserId ≠ 0) : ∃ v, v ≠ excludingUserId ∧ s.ActiveAdmin v := by
  obtain ⟨⟨v, row⟩, hmem⟩ := List.exists_mem_of_length_pos (Nat.pos_of_ne_zero h)
  simp only [List.mem_filter, decide_eq_true_eq] at hmem
  exact ⟨v, hmem.2.2, row, Std.ExtTreeMap.mem_toList_iff_getElem?_eq_some.1 hmem.1, hmem.2.1⟩

/-- What an edit makes sure of. -/
def OtherAdmin (s : Accounts) (change : Change) : Prop :=
  (∃ v, s.ActiveAdmin v) → ∀ id, change.Demotes id → ∃ v, v ≠ id ∧ s.ActiveAdmin v

/-- Saving an edit that demotes leaves another administrator. -/
theorem settles_saveEdit {userId : Id} {admin user : User} {role : UserRole} {status : UserStatus}
    (h : (∃ v, s.ActiveAdmin v) → user.Demotes { user with
      role := role, status := status, roleSource := .localRole } →
        ∃ v, v ≠ userId ∧ s.ActiveAdmin v) :
    (saveEdit userId admin user role status).Settles OtherAdmin s :=
  Txn.settles_finish fun hsome _ hdemotes => hdemotes.1 ▸ h hsome hdemotes.2

/-- The user that an edit loads; it is the active admin who edits, or it has just been read. -/
theorem settles_getUser {adminId userId : Id} {admin : User} {next : Option User → Request}
    (hadmin : admin.isActiveAdmin = true)
    (hnext : ∀ s loaded, (∀ user, loaded = some user → user.isActiveAdmin = false →
      ¬ s.ActiveAdmin userId) → (next loaded).Settles P s) :
    (getUser adminId userId admin next).Settles P s := by
  unfold getUser
  -- The administrator's own row is loaded already; another one is read.
  split
  · refine hnext s (some admin) fun user huser hinactive => ?_
    obtain rfl := Option.some.inj huser
    rw [hadmin] at hinactive
    cases hinactive
  · refine Txn.settles_query fun t => hnext t _ fun user huser hinactive => ?_
    rintro ⟨row, hrow, hactive⟩
    obtain rfl := Option.some.inj (huser.symm.trans hrow)
    rw [hactive] at hinactive
    cases hinactive

/-- Updating an account leaves another administrator. -/
theorem updateUser_settles (adminId userId : Id) (role status : String) :
    (updateUser adminId userId role status).Settles OtherAdmin s := by
  have hnone : ∀ s, OtherAdmin s .none := fun _ _ _ h => h.elim
  refine settles_requireAdmin hnone fun t admin _ hadmin => ?_
  refine settles_getUser hadmin fun t loaded hloaded => ?_
  cases loaded with
  | none => exact Txn.settles_finish (hnone t)
  | some user =>
    dsimp only
    split
    · next role status _ _ =>
      split
      · exact Txn.settles_finish (hnone t)
      · split
        · -- the others are counted
          refine Txn.settles_query fun t => ?_
          split
          · exact Txn.settles_finish (hnone t)
          · next hcount =>
            exact settles_saveEdit fun _ _ => exists_of_activeAdminCount hcount
        · next hkept =>
          refine settles_saveEdit fun ⟨v, hv⟩ hdemotes => ⟨v, ?_, hv⟩
          -- the user has been no active admin, or remains one
          rintro rfl
          have hactive : user.isActiveAdmin = true := by
            by_contra hinactive
            exact hloaded user rfl (by simpa using hinactive) hv
          have hremains : role = .admin ∧ status = .active :=
            not_not.1 fun hnot => hkept ⟨hactive, hnot⟩
          simp [User.Demotes, hremains] at hdemotes
    · exact Txn.settles_finish (hnone t)

/-! ### The other requests -/

/-- A change that demotes nobody. -/
def DemotesNone (_ : Accounts) (change : Change) : Prop := ∀ id, ¬ change.Demotes id

/-- To change nothing demotes nobody. -/
theorem demotesNone_none : DemotesNone s .none := fun _ h => h

/-- To save an account with its role and its status demotes nobody. -/
theorem demotesNone_loaded {row user : User} {events : List AuditEvent}
    (hrole : user.role = row.role) (hstatus : user.status = row.status) :
    DemotesNone s (.saveUser (.loaded id row) user events) :=
  fun _ h => not_demotes_of_eq hrole hstatus h.2

/-- To add an account demotes nobody. -/
theorem demotesNone_added {identity : Option (Id × ExternalIdentity)} {user : User}
    {events : List AuditEvent} : DemotesNone s (.saveUser (.added id identity) user events) :=
  fun _ h => h

/-- Creating an account demotes nobody. -/
theorem createUser_settles (adminId : Id) (email : String) (newId : Id) :
    (createUser lower adminId email newId).Settles DemotesNone s := by
  refine settles_requireAdmin (fun _ => demotesNone_none) fun t admin _ _ => ?_
  refine Txn.settles_query fun t => ?_
  split
  · exact Txn.settles_finish demotesNone_none
  · exact Txn.settles_finish demotesNone_added

/-- A redaction demotes nobody. -/
theorem redactUserPii_settles (now : Time) (userId actorId : Id) :
    (redactUserPii now userId actorId).Settles DemotesNone s := by
  refine Txn.settles_query fun t => ?_
  split
  · split
    · exact Txn.settles_finish demotesNone_none
    · split
      · exact Txn.settles_finish demotesNone_none
      · exact Txn.settles_finish fun _ h => not_demotes_of_eq rfl rfl h.2
  · exact Txn.settles_finish demotesNone_none

/-- Recording demotes nobody. -/
theorem recordActor_settles (userId : Id) (cells : List (ActorColumn × Id))
    (events : List AuditEvent) : (recordActor userId cells events).Settles DemotesNone s :=
  settles_requireLogin (fun _ => demotesNone_none) fun _ _ _ _ => Txn.settles_finish fun _ h => h

namespace Google

/-- A sign-in demotes nobody. -/
theorem signIn_settles {origin : Origin} {user : User} {events : List AuditEvent}
    (h : ∀ events, DemotesNone s (.saveUser origin user events)) :
    (signIn origin user events).Settles DemotesNone s := by
  unfold signIn
  split <;> exact Txn.settles_finish (h _)

/-- A Google sign-in demotes nobody. -/
theorem callback_settles (resolved : SignInConfig) (identity : GoogleIdentity) (newId : Id) :
    (callback lower resolved identity newId).Settles DemotesNone s := by
  refine Txn.settles_query fun t => ?_
  -- The subject is known, the address is known, or the account is new.
  split
  · next id user _ =>
    split
    · refine Txn.settles_query fun t => ?_
      split
      · exact Txn.settles_finish demotesNone_none
      · exact signIn_settles fun _ => demotesNone_loaded rfl rfl
    · exact signIn_settles fun _ => demotesNone_loaded rfl rfl
  · refine Txn.settles_query fun t => ?_
    split
    · split
      · exact Txn.settles_finish demotesNone_none
      · exact signIn_settles fun _ => demotesNone_loaded rfl rfl
    · refine Txn.settles_query fun t => Txn.settles_query fun t => ?_
      split
      · exact signIn_settles fun _ => demotesNone_added
      · exact Txn.settles_finish demotesNone_added

end Google

/-- What demotes nobody is assured. -/
theorem assured_of_demotesNone {c : Call} {request : Request}
    (h : request.Settles DemotesNone s)
    (hc : ∀ s change, DemotesNone s change → Assured c s change) :
    request.Decides fun s change => (∃ v, s.ActiveAdmin v) → Assured c s change :=
  h.2.mono fun s change hnone (_ : ∃ v, s.ActiveAdmin v) => hc s change hnone

/-- Every request has made sure of what it says when it decides on its change. -/
theorem serve_decides (c : Call) :
    (c.serve lower).Decides fun s change => (∃ v, s.ActiveAdmin v) → Assured c s change := by
  let s := accountsOf []
  -- Every request but an update demotes nobody.
  cases c with
  | google resolved identity newId =>
    exact assured_of_demotesNone (s := s) (Google.callback_settles resolved identity newId)
      fun _ _ h => h
  | oidc _ _ _ _ => exact Txn.decides_of_forall (fun _ _ _ => trivial) _
  | createUser adminId email newId =>
    exact assured_of_demotesNone (s := s) (createUser_settles adminId email newId) fun _ _ h => h
  | updateUser adminId userId role status =>
    exact (updateUser_settles (s := s) adminId userId role status).2
  | redact now userId actorId =>
    exact assured_of_demotesNone (s := s) (redactUserPii_settles now userId actorId)
      fun _ _ h => h
  | record userId cells events =>
    exact assured_of_demotesNone (s := s) (recordActor_settles userId cells events) fun _ _ h => h

/-- Every request asks before it decides. -/
theorem serve_asks (c : Call) : (c.serve lower).Asks := by
  cases c <;> trivial

/-! ## Runs -/

variable {ι : Type} [DecidableEq ι] {u : Server ι Call Accounts Change Answer} {i j : ι}

/-- The request `j` is an edit that has made its count and waits to demote the user. -/
def EditPending (u : Server ι Call Accounts Change Answer) (j : ι) (id : Id) : Prop :=
  ∃ adminId userId role status change answer,
    u.running j = some (.updateUser adminId userId role status, .finish change answer) ∧
      change.Demotes id

/-- A commit that takes an active admin away leaves another whom no pending edit demotes, if
    it is the commit of a sign-in through OIDC or if there are pending edits that demote. -/
def LeavesAdmin (u : Server ι Call Accounts Change Answer) : Server.Label ι Call → Prop
  | .start _ _ => True
  | .statement i => ∀ request change answer id,
    u.running i = some (request, .finish change answer) → change.Demotes id →
    u.committed.ActiveAdmin id →
    ((∃ resolved identity newId newIdentityId,
      request = .oidc resolved identity newId newIdentityId) ∨
      ∃ j k, j ≠ i ∧ EditPending u j k) →
    ∃ v, v ≠ id ∧ u.committed.ActiveAdmin v ∧ ∀ j, j ≠ i → ¬ EditPending u j v

/-- A change demotes one user at most. -/
theorem Change.Demotes.unique {k : Id} (h : change.Demotes id) (hk : change.Demotes k) :
    k = id := by
  cases change with
  | none | saveActor _ _ _ => exact h.elim
  | saveUser origin user events =>
    cases origin with
    | loaded _ _ => exact hk.1.symm.trans h.1
    | added _ _ => exact h.elim
  | redact _ _ _ _ _ _ _ => exact hk.1.symm.trans h.1

/-- What another request has made sure of holds after a commit that leaves an active admin whom
    the request does not demote. -/
theorem Assured.of_activeAdmin {c : Call} (h : Assured c s change)
    (hv : ∀ adminId userId role status, c = .updateUser adminId userId role status →
      ∀ id, change.Demotes id → ∃ v, v ≠ id ∧ s'.ActiveAdmin v) : Assured c s' change := by
  cases c with
  | updateUser adminId userId role status => exact hv adminId userId role status rfl
  | google _ _ _ | oidc _ _ _ _ | createUser _ _ _ | redact _ _ _ | record _ _ _ => exact h

/-- What a request makes sure of leaves another active admin, unless it is a sign-in through
    OIDC. -/
theorem Assured.exists {c : Call} (h : Assured c s change) (hdemotes : change.Demotes id)
    (hoidc : ¬ ∃ resolved identity newId newIdentityId,
      c = .oidc resolved identity newId newIdentityId) : ∃ v, v ≠ id ∧ s.ActiveAdmin v := by
  cases c with
  | updateUser _ _ _ _ => exact h id hdemotes
  | oidc resolved identity newId newIdentityId =>
    exact absurd ⟨resolved, identity, newId, newIdentityId, rfl⟩ hoidc
  | google _ _ _ | createUser _ _ _ | redact _ _ _ | record _ _ _ =>
    exact absurd hdemotes (h id)

/-- In every run of interleaved requests that starts with an active admin, there is one after
    every commit, provided that a sign-in through OIDC, and an edit that overlaps with others,
    takes an active admin away only if it leaves another whom the pending edits do not take
    away. -/
theorem exists_activeAdmin {t : Server ι Call Accounts Change Answer}
    (h : Run (Server.step (Call.serve lower) Change.apply) LeavesAdmin (Server.idle s) t)
    (h₀ : ∃ v, s.ActiveAdmin v) : ∃ v, t.committed.ActiveAdmin v := by
  refine Server.invariant_of_run (I := fun s => ∃ v, s.ActiveAdmin v) (P := Assured) h h₀
    (fun _ => rfl) (fun c => ⟨serve_asks c, serve_decides c⟩) ?_
  intro u i request change answer s' hu hok hi happly
  have hkept : ∀ v, u.committed.ActiveAdmin v → ¬ change.Demotes v → s'.ActiveAdmin v :=
    fun v hv hnot => activeAdmin_apply happly hv hnot
  by_cases htakes : ∃ id, change.Demotes id ∧ u.committed.ActiveAdmin id
  · obtain ⟨id, hdemotes, hactive⟩ := htakes
    by_cases hrisk : (∃ resolved identity newId newIdentityId,
        request = .oidc resolved identity newId newIdentityId) ∨ ∃ j k, j ≠ i ∧ EditPending u j k
    · obtain ⟨v, hne, hv, hfree⟩ := hok request change answer id hi hdemotes hactive hrisk
      have hv' : s'.ActiveAdmin v := hkept v hv fun hdemotes' => hne (hdemotes.unique hdemotes')
      refine ⟨⟨v, hv'⟩, fun j request' change' answer' hj hrunning hassured => ?_⟩
      refine hassured.of_activeAdmin fun adminId userId role status heq k hk => ⟨v, ?_, hv'⟩
      subst heq
      rintro rfl
      exact hfree j hj ⟨adminId, userId, role, status, change', answer', hrunning, hk⟩
    · -- the count of an edit is still right, as no other edit waits
      obtain ⟨hoidc, hnopending⟩ := not_or.1 hrisk
      obtain ⟨v, hne, hv⟩ := (hu.pending i request change answer hi).exists hdemotes hoidc
      have hv' : s'.ActiveAdmin v := hkept v hv fun hdemotes' => hne (hdemotes.unique hdemotes')
      refine ⟨⟨v, hv'⟩, fun j request' change' answer' hj hrunning hassured => ?_⟩
      refine hassured.of_activeAdmin fun adminId userId role status heq k hk => ?_
      subst heq
      exact absurd ⟨j, k, hj, adminId, userId, role, status, change', answer', hrunning, hk⟩
        hnopending
  · have hall : ∀ v, u.committed.ActiveAdmin v → s'.ActiveAdmin v :=
      fun v hv => hkept v hv fun hdemotes => htakes ⟨v, hdemotes, hv⟩
    obtain ⟨v, hv⟩ := hu.committed
    refine ⟨⟨v, hall v hv⟩, fun j request' change' answer' _ _ hassured => ?_⟩
    refine hassured.of_activeAdmin fun adminId userId role status heq k hk => ?_
    subst heq
    obtain ⟨w, hne, hw⟩ := hassured k hk
    exact ⟨w, hne, hall w hw⟩

/-! ## Three runs -/

/-- The admins 1 and 2. -/
def twoAdmins : Accounts :=
  accountsOf [(1, { email := "ada@example.com", role := .admin }),
    (2, { email := "lee@example.com", role := .admin })]

/-- An edit that makes an operator of an admin, up to its commit. -/
def editUpToCommit (i : ι) (adminId userId : Id) : List (Server.Label ι Call) :=
  .start i (.updateUser adminId userId "operator" "active") :: List.replicate 3 (.statement i)

/-- The only request under way is no sign-in through OIDC. -/
def NoOidc (u : Server Unit Call Accounts Change Answer) (_ : Server.Label Unit Call) : Prop :=
  match u.running () with
  | some (.oidc .., _) => False
  | _ => True

instance (u : Server Unit Call Accounts Change Answer) (l : Server.Label Unit Call) :
    Decidable (NoOidc u l) := by
  unfold NoOidc
  split <;> infer_instance

/-- Without OIDC every step leaves an administrator. -/
theorem leavesAdmin_of_noOidc {u : Server Unit Call Accounts Change Answer}
    {l : Server.Label Unit Call} (h : NoOidc u l) : LeavesAdmin u l := by
  cases l with
  | start _ _ => trivial
  | statement i =>
    rintro request change answer id hi - - (⟨_, _, _, _, rfl⟩ | ⟨j, -, hj, -⟩)
    · unfold NoOidc at h
      rw [hi] at h
      exact h.elim
    · exact absurd rfl hj

/-- `exists_activeAdmin` where one admin makes an operator of the other. -/
theorem exists_activeAdmin_edit :
    ∃ t, Run (Server.step (Call.serve lowerAscii) Change.apply) LeavesAdmin
        (Server.idle (ι := Unit) twoAdmins) t ∧
      t.committed.userByEmail "lee@example.com" =
        some (2, { email := "lee@example.com", role := .operator }) ∧
      ∃ v, t.committed.ActiveAdmin v := by
  obtain ⟨t, hexec, hlee⟩ : ∃ t,
      Run.exec (Run.guarded (Server.step (Call.serve lowerAscii) Change.apply) NoOidc)
        (Server.idle (ι := Unit) twoAdmins) (editUpToCommit () 1 2 ++ [.statement ()]) = some t ∧
      t.committed.userByEmail "lee@example.com" =
        some (2, { email := "lee@example.com", role := .operator }) := ⟨_, rfl, rfl⟩
  have hrun := (Run.of_exec_guarded _ hexec).mono fun _ _ => leavesAdmin_of_noOidc
  exact ⟨t, hrun, hlee, exists_activeAdmin hrun ⟨1, _, rfl, rfl⟩⟩

/-- Where no account is an active administrator there is none. -/
theorem not_activeAdmin_of_all (h : s.users.toList.all fun x => ¬ x.2.isActiveAdmin) :
    ¬ ∃ v, s.ActiveAdmin v := by
  rintro ⟨v, row, hrow, hactive⟩
  have hmem := Std.ExtTreeMap.mem_toList_iff_getElem?_eq_some.2 hrow
  simpa [hactive] using List.all_eq_true.1 h _ hmem

/-- Each of two admins makes an operator of the other; both count before either commits. -/
theorem no_activeAdmin_edits :
    (∃ v, twoAdmins.ActiveAdmin v) ∧
      ∃ t, Run (Server.step (Call.serve lowerAscii) Change.apply) (fun _ _ => True)
          (Server.idle (ι := Bool) twoAdmins) t ∧ ¬ ∃ v, t.committed.ActiveAdmin v := by
  refine ⟨⟨1, _, rfl, rfl⟩, ?_⟩
  obtain ⟨t, hexec, hnone⟩ : ∃ t,
      Run.exec (Server.step (Call.serve lowerAscii) Change.apply)
        (Server.idle (ι := Bool) twoAdmins)
        (editUpToCommit true 1 2 ++ editUpToCommit false 2 1 ++
          [.statement true, .statement false]) = some t ∧
      t.committed.users.toList.all fun x => ¬ x.2.isActiveAdmin := ⟨_, rfl, by decide⟩
  exact ⟨t, Run.of_exec_true _ hexec, not_activeAdmin_of_all hnone⟩

/-- The role of the only admin comes from the group `admins`. -/
def mappedAdmin : Accounts :=
  { accountsOf [(1, { email := "ada@example.com", role := .admin, roleSource := .oidcMapped })] with
    externalIdentities :=
      (∅ : Table _).insert 1 { userId := 1, issuer := "https://idp.example.com", subject := "ada" }
    oidcRoleMappings := (∅ : Table _).insert 1 { claimValue := "admins", role := .admin } }

/-- The admin signs in without the group, and is a reader then. -/
theorem no_activeAdmin_login :
    (∃ v, mappedAdmin.ActiveAdmin v) ∧
      ∃ t, Run (Server.step (Call.serve lowerAscii) Change.apply) (fun _ _ => True)
          (Server.idle (ι := Unit) mappedAdmin) t ∧ ¬ ∃ v, t.committed.ActiveAdmin v := by
  refine ⟨⟨1, _, rfl, rfl⟩, ?_⟩
  obtain ⟨t, hexec, hnone⟩ : ∃ t,
      Run.exec (Server.step (Call.serve lowerAscii) Change.apply)
        (Server.idle (ι := Unit) mappedAdmin)
        (.start () (.oidc ⟨false, "groups"⟩ ⟨"https://idp.example.com", "ada", "ada@example.com",
          fun _ => some (.list ["staff"])⟩ 2 2) :: List.replicate 4 (.statement ())) = some t ∧
      t.committed.users.toList.all fun x => ¬ x.2.isActiveAdmin := ⟨_, rfl, by decide⟩
  exact ⟨t, Run.of_exec_true _ hexec, not_activeAdmin_of_all hnone⟩

end MiniGrc.Users
