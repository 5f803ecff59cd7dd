import MiniGrc.App.UserAdmin

/-!
# Sign-ins

What the callbacks do to the accounts. `_resolve_user` of the Google flow writes the address
and the subject of the user that it finds before the callback looks at the user's status.

## Key results

- `Google.resolution`, `Oidc.resolution`: the cases of `_resolve_user`
- `rejected_signIn_iff`: when a rejected sign-in leaves the existing accounts alone
-/

namespace MiniGrc.Users

open Events

variable {lower : String → String} {s s' : Accounts} {id : Id} {row user : User}

/-! ## Look-ups -/

/-- The account found is stored under the address. -/
theorem userByEmail_eq_some {email : String} (h : s.userByEmail email = some (id, row)) :
    s.users[id]? = some row ∧ row.email = email :=
  ⟨Std.ExtTreeMap.mem_toList_iff_getElem?_eq_some.1 (List.mem_of_find?_eq_some h),
    by simpa using List.find?_some h⟩

/-- No account is found under an address that none has. -/
theorem userByEmail_eq_none {email : String} :
    s.userByEmail email = none ↔ ∀ (id : Id) row, s.users[id]? = some row → row.email ≠ email := by
  simp only [Accounts.userByEmail, List.find?_eq_none, Prod.forall,
    Std.ExtTreeMap.mem_toList_iff_getElem?_eq_some, decide_eq_true_eq, ne_eq]

/-- The account found is stored under the subject. -/
theorem userByGoogleSubject_eq_some {subject : String}
    (h : s.userByGoogleSubject subject = some (id, row)) :
    s.users[id]? = some row ∧ row.googleSubject = some subject :=
  ⟨Std.ExtTreeMap.mem_toList_iff_getElem?_eq_some.1 (List.mem_of_find?_eq_some h),
    by simpa using List.find?_some h⟩

/-- No account is found under a subject that none has. -/
theorem userByGoogleSubject_eq_none {subject : String} :
    s.userByGoogleSubject subject = none ↔
      ∀ (id : Id) row, s.users[id]? = some row → row.googleSubject ≠ some subject := by
  simp only [Accounts.userByGoogleSubject, List.find?_eq_none, Prod.forall,
    Std.ExtTreeMap.mem_toList_iff_getElem?_eq_some, decide_eq_true_eq, ne_eq]

/-! ## Changes -/

/-- A value written back is the value. -/
theorem flushed_self {α : Type} [DecidableEq α] (loaded value : α) :
    flushed loaded value loaded = value := by
  unfold flushed
  split <;> simp_all

/-- If nothing has happened to a row since it was loaded, the flush stores the whole of it. -/
theorem User.update_self (row user : User) : row.update user row = user := by
  simp [User.update, flushed_self]

/-- The `UPDATE` of a row that was just loaded. -/
theorem updateUser_loaded (hrow : s.users[id]? = some row) :
    s.updateUser id row user =
      if s.Clashes id (some row) user then .error .integrityError
      else .ok { s with users := s.users.insert id user } := by
  simp [Accounts.updateUser, hrow, User.update_self]

/-- Another row has what a written column of the row has to have alone. -/
theorem clashes_iff {stored : Option User} : s.Clashes id stored row ↔
    ∃ (k : Id) (other : User), s.users[k]? = some other ∧ k ≠ id ∧
      (other.email = row.email ∧ stored.map User.email ≠ some row.email ∨
        other.googleSubject = row.googleSubject ∧ row.googleSubject ≠ none ∧
          stored.map User.googleSubject ≠ some row.googleSubject) := by
  simp only [Accounts.Clashes, Prod.exists, Std.ExtTreeMap.mem_toList_iff_getElem?_eq_some]

/-! ## The cases of `_resolve_user` -/

namespace Google

/-- What `_resolve_user` comes to, given what the callback does next. -/
inductive Resolution (s : Accounts) (identity : GoogleIdentity) (email : String) (newId : Id)
    (next : Origin → User → List AuditEvent → Request) : Change × Answer → Prop
  /-- the user with the subject, under the same address -/
  | same (id : Id) (row : User) : s.userByGoogleSubject identity.subject = some (id, row) →
      row.email = email →
      Resolution s identity email newId next ((next (.loaded id row) row []).alone s)
  /-- the user with the subject, under a new address -/
  | changed (id : Id) (row : User) (event : AuditEvent) :
      s.userByGoogleSubject identity.subject = some (id, row) → row.email ≠ email →
      s.userByEmail email = none → event.actor = email →
      Resolution s identity email newId next
        ((next (.loaded id row) { row with email := email } [event]).alone s)
  /-- the address of the user with the subject is taken -/
  | taken (id : Id) (row : User) (owner : Id × User) :
      s.userByGoogleSubject identity.subject = some (id, row) → row.email ≠ email →
      s.userByEmail email = some owner → owner.1 ≠ id →
      Resolution s identity email newId next (.none, rejection collisionMessage)
  /-- the user with the address, who gets the subject -/
  | linked (id : Id) (row : User) (event : AuditEvent) :
      s.userByGoogleSubject identity.subject = none → s.userByEmail email = some (id, row) →
      (row.googleSubject = none ∨ row.googleSubject = some "") → event.actor = email →
      Resolution s identity email newId next
        ((next (.loaded id row) { row with googleSubject := some identity.subject }
          [event]).alone s)
  /-- the user with the address has another subject -/
  | linkedElsewhere (id : Id) (row : User) : s.userByGoogleSubject identity.subject = none →
      s.userByEmail email = some (id, row) → row.googleSubject ≠ none →
      row.googleSubject ≠ some "" →
      Resolution s identity email newId next (.none, rejection collisionMessage)
  /-- a new user -/
  | created (user : User) (event : AuditEvent) :
      s.userByGoogleSubject identity.subject = none → s.userByEmail email = none →
      user.email = email → user.piiRedactedAt = none → event.actor = "system" →
      Resolution s identity email newId next ((next (.added newId none) user [event]).alone s)
  /-- a new user, who has to wait for the approval -/
  | createdPending (user : User) (event : AuditEvent) :
      s.userByGoogleSubject identity.subject = none → s.userByEmail email = none →
      user.email = email → user.piiRedactedAt = none → event.actor = "system" →
      Resolution s identity email newId next
        (.saveUser (.added newId none) user [event], rejection unapprovedMessage)

variable (lower s) in
/-- How a sign-in is resolved. -/
theorem resolution (resolved : SignInConfig) (identity : GoogleIdentity) (newId : Id)
    (next : Origin → User → List AuditEvent → Request) :
    Resolution s identity (normalizeEmail lower identity.email) newId next
      ((resolveUser lower resolved identity newId next).alone s) := by
  unfold resolveUser
  simp only [Txn.alone_query]
  cases hsubject : s.userByGoogleSubject identity.subject with
  | some x =>
    obtain ⟨id, row⟩ := x
    simp only
    split
    · next hne =>
      simp only [Txn.alone_query]
      cases howner : s.userByEmail (normalizeEmail lower identity.email) with
      | none => exact .changed id row _ hsubject hne howner rfl
      | some owner =>
        obtain ⟨ownerId, other⟩ := owner
        have hid : ownerId ≠ id := by
          -- the user itself has another address
          rintro rfl
          obtain ⟨hother, hemail⟩ := userByEmail_eq_some howner
          obtain rfl := Option.some.inj
            (hother.symm.trans (userByGoogleSubject_eq_some hsubject).1)
          exact hne hemail
        simp only [Option.filter_some, hid, ne_eq, not_false_eq_true, decide_true, if_true]
        exact .taken id row _ hsubject hne howner hid
    · next heq => exact .same id row hsubject (not_not.1 heq)
  | none =>
    simp only [Txn.alone_query]
    cases howner : s.userByEmail (normalizeEmail lower identity.email) with
    | some x =>
      obtain ⟨id, row⟩ := x
      simp only
      split
      · next hlinked => exact .linkedElsewhere id row hsubject howner hlinked.1 hlinked.2.1
      · next hfree =>
        refine .linked id row _ hsubject howner ?_ rfl
        have hne : row.googleSubject ≠ some identity.subject :=
          userByGoogleSubject_eq_none.1 hsubject id row (userByEmail_eq_some howner).1
        by_contra hcon
        rw [not_or] at hcon
        exact hfree ⟨hcon.1, hcon.2, hne⟩
    | none =>
      simp only [createUser, Txn.alone_query]
      split
      · exact .created _ _ hsubject howner rfl rfl rfl
      · exact .createdPending _ _ hsubject howner rfl rfl rfl

end Google

namespace Google

variable (lower s) in
/-- How a request to sign in is resolved. -/
theorem serve_resolution (resolved : SignInConfig) (identity : GoogleIdentity) (newId : Id) :
    Resolution s identity (normalizeEmail lower identity.email) newId signIn
      (((Call.google resolved identity newId).serve lower).alone s) :=
  resolution lower s resolved identity newId signIn

variable (s user) in
/-- The callback starts a session for an active user. -/
theorem alone_signIn (origin : Origin) (events : List AuditEvent)
    (hactive : user.status = .active) :
    ∃ event, event.actor = user.email ∧ (signIn origin user events).alone s =
      (.saveUser origin user (events ++ [event]), .session origin.userId) := by
  simp only [signIn, hactive]
  exact ⟨_, rfl, rfl⟩

variable (s user) in
/-- The callback rejects any other user, with what `_resolve_user` has changed. -/
theorem alone_signIn_rejected (origin : Origin) (events : List AuditEvent)
    (hstatus : user.status ≠ .active) :
    ∃ message, (signIn origin user events).alone s =
      (.saveUser origin user events, rejection message) := by
  unfold signIn
  split
  · exact ⟨_, rfl⟩
  · exact ⟨_, rfl⟩
  · next hactive => exact absurd hactive hstatus

end Google

namespace Oidc

/-- What `_resolve_user` comes to, given what the callback does next. -/
inductive Resolution (s : Accounts) (identity : OidcIdentity) (email : String)
    (newId newIdentityId : Id) (next : Origin → User → List AuditEvent → Request) :
    Change × Answer → Prop
  /-- the user that the identity is linked to -/
  | existing (e : ExternalIdentity) (row : User) :
      s.externalIdentity identity.issuer identity.subject = some e →
      s.users[e.userId]? = some row →
      Resolution s identity email newId newIdentityId next
        ((next (.loaded e.userId row) row []).alone s)
  /-- the identity is linked to a user that is not there -/
  | missing (e : ExternalIdentity) :
      s.externalIdentity identity.issuer identity.subject = some e →
      s.users[e.userId]? = none →
      Resolution s identity email newId newIdentityId next
        (.none, rejection "Sign-in was rejected.")
  /-- the address of the new identity is taken -/
  | taken (owner : Id × User) :
      s.externalIdentity identity.issuer identity.subject = none →
      s.userByEmail email = some owner →
      Resolution s identity email newId newIdentityId next (.none, rejection collisionMessage)
  /-- a new user -/
  | created (user : User) (row : ExternalIdentity) (event : AuditEvent) :
      s.externalIdentity identity.issuer identity.subject = none →
      s.userByEmail email = none → user.email = email → user.piiRedactedAt = none →
      event.actor = "system" →
      Resolution s identity email newId newIdentityId next
        ((next (.added newId (some (newIdentityId, row))) user [event]).alone s)
  /-- a new user, who has to wait for the approval -/
  | createdPending (user : User) (row : ExternalIdentity) (event : AuditEvent) :
      s.externalIdentity identity.issuer identity.subject = none →
      s.userByEmail email = none → user.email = email → user.piiRedactedAt = none →
      event.actor = "system" →
      Resolution s identity email newId newIdentityId next
        (.saveUser (.added newId (some (newIdentityId, row))) user [event],
          rejection unapprovedMessage)

variable (lower s) in
theorem resolution (resolved : SignInConfig) (identity : OidcIdentity) (newId newIdentityId : Id)
    (next : Origin → User → List AuditEvent → Request) :
    Resolution s identity (normalizeEmail lower identity.email) newId newIdentityId next
      ((resolveUser lower resolved identity newId newIdentityId next).alone s) := by
  unfold resolveUser
  simp only [Txn.alone_query]
  -- A known identity first, then an address that is taken, then a new account.
  cases hidentity : s.externalIdentity identity.issuer identity.subject with
  | some e =>
    simp only [Txn.alone_query]
    cases hrow : s.users[e.userId]? with
    | some row => exact .existing e row hidentity hrow
    | none => exact .missing e hidentity hrow
  | none =>
    simp only [Txn.alone_query]
    cases howner : s.userByEmail (normalizeEmail lower identity.email) with
    | some owner => exact .taken owner hidentity howner
    | none =>
      simp only [createUser, Txn.alone_query]
      split
      · exact .created _ _ _ hidentity howner rfl rfl rfl
      · exact .createdPending _ _ _ hidentity howner rfl rfl rfl

/-- The role mapping writes the role of a user only, and says so in an audit event. -/
theorem applyRoleMapping_cases (mappingByValue : List (String × UserRole)) (id : Id) (user : User)
    (claims : String → Option ClaimValue) (roleClaimName actor : String) :
    applyRoleMapping mappingByValue id user claims roleClaimName actor = (user, []) ∨
      ∃ role event, event.actor = actor ∧
        applyRoleMapping mappingByValue id user claims roleClaimName actor =
          ({ user with role := role, roleSource := .oidcMapped }, [event]) := by
  simp only [applyRoleMapping]
  split
  · exact .inl rfl
  · split
    · exact .inl rfl
    · exact .inr ⟨_, _, rfl, rfl⟩

variable (lower s) in
theorem serve_resolution (resolved : SignInConfig) (identity : OidcIdentity)
    (newId newIdentityId : Id) :
    Resolution s identity (normalizeEmail lower identity.email) newId newIdentityId
      (signIn resolved identity)
      (((Call.oidc resolved identity newId newIdentityId).serve lower).alone s) :=
  resolution lower s resolved identity newId newIdentityId (signIn resolved identity)

variable (s user) in
/-- The callback starts a session for an active user, with the role that the claims map to. -/
theorem alone_signIn (resolved : SignInConfig) (identity : OidcIdentity) (origin : Origin)
    (events : List AuditEvent) (hactive : user.status = .active) :
    ∃ user' events', user'.email = user.email ∧ user'.piiRedactedAt = user.piiRedactedAt ∧
      (∀ e ∈ events', e.actor = "system" ∨ e.actor = user.email) ∧
      (signIn resolved identity origin user events).alone s =
        (.saveUser origin user' (events ++ events'), .session origin.userId) := by
  simp only [signIn, hactive, Txn.alone_query, Txn.alone_finish, List.append_assoc]
  rcases applyRoleMapping_cases s.loadRoleMappings origin.userId user identity.claims
    resolved.roleClaimName "system" with heq | ⟨role, event, hactor, heq⟩
  · rw [heq]
    exact ⟨_, _, rfl, rfl, fun e he => .inr (by rw [List.mem_singleton.1 he]), rfl⟩
  · rw [heq]
    refine ⟨{ user with role := role, roleSource := .oidcMapped }, _, rfl, rfl,
      fun e he => ?_, rfl⟩
    rcases List.mem_append.1 he with he | he
    · rw [List.mem_singleton.1 he]
      exact .inl hactor
    · rw [List.mem_singleton.1 he]
      exact .inr rfl

variable (s user) in
/-- The callback rejects any other user, whom `_resolve_user` has left alone. -/
theorem alone_signIn_rejected (resolved : SignInConfig) (identity : OidcIdentity)
    (origin : Origin) (events : List AuditEvent) (hstatus : user.status ≠ .active) :
    ∃ message, (signIn resolved identity origin user events).alone s =
      (.saveUser origin user events, rejection message) := by
  unfold signIn
  split
  · exact ⟨_, rfl⟩
  · exact ⟨_, rfl⟩
  · next hactive => exact absurd hactive hstatus

end Oidc

/-! ## Rejected sign-ins -/

/-- The users and the external identities that were there are unchanged. -/
structure KeepsRows (s s' : Accounts) : Prop where
  users : ∀ (id : Id) row, s.users[id]? = some row → s'.users[id]? = some row
  externalIdentities : ∀ (id : Id) row, s.externalIdentities[id]? = some row →
    s'.externalIdentities[id]? = some row

/-- If the request starts no session, it leaves the existing accounts alone. -/
def RejectionKeeps (lower : String → String) (s : Accounts) (c : Call) : Prop :=
  ∀ s' a, s.serve lower c = .ok (s', a) → (∀ id, a ≠ .session id) → KeepsRows s s'

theorem KeepsRows.refl : KeepsRows s s := ⟨fun _ _ h => h, fun _ _ h => h⟩

/-- Saving a row as it was loaded only adds the audit events. -/
theorem apply_save_loaded (hrow : s.users[id]? = some row) (events : List AuditEvent) :
    Change.apply (.saveUser (.loaded id row) row events) s = .ok (s.audit events) := by
  have hclash : ¬ s.Clashes id (some row) row := by
    rw [clashes_iff]
    rintro ⟨k, other, -, -, ⟨-, hne⟩ | ⟨-, -, hne⟩⟩ <;> exact hne rfl
  simp only [Change.apply, updateUser_loaded hrow, if_neg hclash, Table.insert_eq_self hrow]
  rfl

/-- Adding a user leaves the rows that are there alone. -/
theorem KeepsRows.of_added {identity : Option (Id × ExternalIdentity)} {events : List AuditEvent}
    (h : Change.apply (.saveUser (.added id identity) user events) s = .ok s') :
    KeepsRows s s' := by
  simp only [Change.apply, Accounts.insertUser] at h
  -- The account is added, or its identifier or address is taken.
  split at h
  · cases h
  · next hnew =>
    have hne : ∀ (k : Id) row, s.users[k]? = some row → id ≠ k := by
      rintro k row hk rfl
      exact hnew (.inl (Table.mem_of_get hk))
    split at h
    · obtain rfl := Except.ok.inj h
      exact ⟨fun k row hk => (Table.get_insert_ne (hne k row hk)).trans hk, fun _ _ hk => hk⟩
    · next _ identityId new =>
      split at h
      · cases h
      · next hfree =>
        obtain rfl := Except.ok.inj h
        refine ⟨fun k row hk => (Table.get_insert_ne (hne k row hk)).trans hk, fun k row hk => ?_⟩
        have hk' : identityId ≠ k := by
          rintro rfl
          exact hfree (.inl (Table.mem_of_get hk))
        exact (Table.get_insert_ne hk').trans hk

/-- What the Google flow may write before the status is looked at is written to an active
    user: the new address of the user with the subject, if it is free, or the subject of the
    user with the address, if it has none. -/
def WritesActive (s : Accounts) (subject email : String) : Prop :=
  match s.userByGoogleSubject subject with
  | some (id, row) => row.status = .active ∨ row.email = email ∨
      ∃ owner, s.userByEmail email = some owner ∧ owner.1 ≠ id
  | none => ∀ id row, s.userByEmail email = some (id, row) →
      row.status = .active ∨ row.googleSubject ≠ none ∧ row.googleSubject ≠ some ""

/-- A change to the row of a user is there after the flush. -/
theorem not_keepsRows_of_loaded (hrow : s.users[id]? = some row) (hne : user ≠ row)
    (hclash : ¬ s.Clashes id (some row) user) (events : List AuditEvent) :
    ∃ s', Change.apply (.saveUser (.loaded id row) user events) s = .ok s' ∧ ¬ KeepsRows s s' := by
  refine ⟨_, by rw [Change.apply, updateUser_loaded hrow, if_neg hclash]; rfl, fun hkeeps => ?_⟩
  have hkept : (s.users.insert id user)[id]? = some row := hkeeps.users id row hrow
  rw [Table.get_insert_self] at hkept
  exact hne (Option.some.inj hkept)

/-- A request that decides on no change leaves everything alone. -/
theorem keepsRows_of_none {c : Call} (hnone : ((c.serve lower).alone s).1 = .none)
    {a : Answer} (h : s.serve lower c = .ok (s', a)) : KeepsRows s s' := by
  simp only [Accounts.serve, Txn.run, hnone] at h
  obtain ⟨rfl, -⟩ := Prod.mk.inj (Except.ok.inj h)
  exact .refl

/-- A request that decides to save a row as it was loaded leaves the rows alone. -/
theorem keepsRows_of_same {c : Call} {events : List AuditEvent} {a a' : Answer}
    (hrow : s.users[id]? = some row)
    (halone : (c.serve lower).alone s = (.saveUser (.loaded id row) row events, a'))
    (h : s.serve lower c = .ok (s', a)) : KeepsRows s s' := by
  simp only [Accounts.serve, Txn.run, halone, apply_save_loaded hrow] at h
  obtain ⟨rfl, -⟩ := Prod.mk.inj (Except.ok.inj h)
  exact ⟨fun _ _ hk => hk, fun _ _ hk => hk⟩

/-- A request that decides to add a user leaves the rows alone. -/
theorem keepsRows_of_added {c : Call} {identity : Option (Id × ExternalIdentity)}
    {events : List AuditEvent} {a a' : Answer}
    (halone : (c.serve lower).alone s = (.saveUser (.added id identity) user events, a'))
    (h : s.serve lower c = .ok (s', a)) : KeepsRows s s' := by
  simp only [Accounts.serve, Txn.run, halone] at h
  cases happly : Change.apply (.saveUser (.added id identity) user events) s with
  | error e =>
    rw [happly] at h
    cases h
  | ok t =>
    rw [happly] at h
    obtain ⟨rfl, -⟩ := Prod.mk.inj (Except.ok.inj h)
    exact .of_added happly

/-- A request that decides on a change of a row and rejects the sign-in does not leave the rows
    alone. -/
theorem not_rejectionKeeps {c : Call} {events : List AuditEvent} {message : String}
    (hrow : s.users[id]? = some row) (hne : user ≠ row) (hclash : ¬ s.Clashes id (some row) user)
    (halone : (c.serve lower).alone s =
      (.saveUser (.loaded id row) user events, rejection message)) :
    ¬ RejectionKeeps lower s c := by
  intro hkeeps
  obtain ⟨s', happly, hnot⟩ := not_keepsRows_of_loaded hrow hne hclash events
  refine hnot (hkeeps s' (rejection message) ?_ fun id h => by cases h)
  simp only [Accounts.serve, Txn.run, halone, happly]
  rfl

/-- A request that answers with a session is not a rejected one. -/
theorem rejectionKeeps_of_session {c : Call} {change : Change}
    (halone : (c.serve lower).alone s = (change, .session id)) : RejectionKeeps lower s c := by
  intro s' a h hrejected
  simp only [Accounts.serve, Txn.run, halone] at h
  cases happly : change.apply s with
  | error e =>
    rw [happly] at h
    cases h
  | ok t =>
    rw [happly] at h
    obtain ⟨-, rfl⟩ := Prod.mk.inj (Except.ok.inj h)
    exact absurd rfl (hrejected id)

/-- A rejected sign-in through OIDC leaves the existing accounts alone. -/
theorem Oidc.rejectionKeeps (resolved : SignInConfig) (identity : OidcIdentity)
    (newId newIdentityId : Id) :
    RejectionKeeps lower s (.oidc resolved identity newId newIdentityId) := by
  intro s' a h hrejected
  have hresolution := Oidc.serve_resolution lower s resolved identity newId newIdentityId
  generalize hres : ((Call.oidc resolved identity newId newIdentityId).serve lower).alone s = res
    at hresolution
  -- Only an account that is found or new can be saved.
  cases hresolution with
  | existing e row _ hrow =>
    by_cases hactive : row.status = .active
    · obtain ⟨_, _, -, -, -, halone⟩ := Oidc.alone_signIn s row resolved identity
        (.loaded e.userId row) [] hactive
      exact rejectionKeeps_of_session (hres.trans halone) s' a h hrejected
    · obtain ⟨_, halone⟩ := Oidc.alone_signIn_rejected s row resolved identity
        (.loaded e.userId row) [] hactive
      exact keepsRows_of_same hrow (hres.trans halone) h
  | missing _ _ _ => exact keepsRows_of_none (congrArg Prod.fst hres) h
  | taken _ _ _ => exact keepsRows_of_none (congrArg Prod.fst hres) h
  | created user row event _ _ _ _ _ =>
    by_cases hactive : user.status = .active
    · obtain ⟨_, _, -, -, -, halone⟩ := Oidc.alone_signIn s user resolved identity
        (.added newId (some (newIdentityId, row))) [event] hactive
      exact rejectionKeeps_of_session (hres.trans halone) s' a h hrejected
    · obtain ⟨_, halone⟩ := Oidc.alone_signIn_rejected s user resolved identity
        (.added newId (some (newIdentityId, row))) [event] hactive
      exact keepsRows_of_added (hres.trans halone) h
  | createdPending _ _ _ _ _ _ _ _ => exact keepsRows_of_added hres h

/-- A rejected sign-in through Google leaves the existing accounts alone exactly if what it may
    write is written to an active user. -/
theorem Google.rejectionKeeps_iff (resolved : SignInConfig) (identity : GoogleIdentity)
    (newId : Id) : RejectionKeeps lower s (.google resolved identity newId) ↔
      WritesActive s identity.subject (normalizeEmail lower identity.email) := by
  have hresolution := Google.serve_resolution lower s resolved identity newId
  generalize hres : ((Call.google resolved identity newId).serve lower).alone s = res
    at hresolution
  unfold WritesActive
  cases hresolution with
  | same id row hsubject hemail =>
    simp only [hsubject, hemail, true_or, or_true, iff_true]
    intro s' a h hrejected
    by_cases hactive : row.status = .active
    · obtain ⟨_, -, halone⟩ := Google.alone_signIn s row (.loaded id row) [] hactive
      exact rejectionKeeps_of_session (hres.trans halone) s' a h hrejected
    · obtain ⟨_, halone⟩ := Google.alone_signIn_rejected s row (.loaded id row) [] hactive
      exact keepsRows_of_same (userByGoogleSubject_eq_some hsubject).1 (hres.trans halone) h
  | changed id row event hsubject hemail hfree _ =>
    simp only [hsubject, hemail, hfree, reduceCtorEq, false_and, exists_false, or_false]
    constructor
    · intro hkeeps
      by_contra hactive
      obtain ⟨_, halone⟩ := Google.alone_signIn_rejected s
        { row with email := normalizeEmail lower identity.email } (.loaded id row) [event] hactive
      refine not_rejectionKeeps (userByGoogleSubject_eq_some hsubject).1 ?_ ?_
        (hres.trans halone) hkeeps
      · exact fun heq => hemail (congrArg User.email heq).symm
      · -- nobody has the new address, and the subject is not written
        rw [clashes_iff]
        rintro ⟨k, other, hother, -, ⟨htaken, -⟩ | ⟨-, -, hwritten⟩⟩
        · exact userByEmail_eq_none.1 hfree k other hother htaken
        · exact hwritten rfl
    · intro hactive
      obtain ⟨_, -, halone⟩ := Google.alone_signIn s
        { row with email := normalizeEmail lower identity.email } (.loaded id row) [event] hactive
      exact rejectionKeeps_of_session (hres.trans halone)
  | taken id row owner hsubject hemail howner hid =>
    simp only [hsubject, howner, Option.some.injEq, exists_eq_left', hid, ne_eq,
      not_false_eq_true, or_true, iff_true]
    exact fun s' a h _ => keepsRows_of_none (congrArg Prod.fst hres) h
  | linked id row event hsubject howner hfree _ =>
    simp only [hsubject, howner]
    constructor
    · intro hkeeps id' row' hrow'
      obtain ⟨rfl, rfl⟩ := Prod.mk.inj (Option.some.inj hrow')
      by_contra hcon
      obtain ⟨hactive, -⟩ := not_or.1 hcon
      obtain ⟨_, halone⟩ := Google.alone_signIn_rejected s
        { row with googleSubject := some identity.subject } (.loaded id row) [event] hactive
      refine not_rejectionKeeps (userByEmail_eq_some howner).1 ?_ ?_ (hres.trans halone) hkeeps
      · intro heq
        exact userByGoogleSubject_eq_none.1 hsubject id row (userByEmail_eq_some howner).1
          (congrArg User.googleSubject heq).symm
      · -- nobody has the subject, and the address is not written
        rw [clashes_iff]
        rintro ⟨k, other, hother, -, ⟨-, hwritten⟩ | ⟨htaken, -, -⟩⟩
        · exact hwritten rfl
        · exact userByGoogleSubject_eq_none.1 hsubject k other hother htaken
    · intro hor
      rcases hor id row rfl with hactive | ⟨hne, hne'⟩
      · obtain ⟨_, -, halone⟩ := Google.alone_signIn s
          { row with googleSubject := some identity.subject } (.loaded id row) [event] hactive
        exact rejectionKeeps_of_session (hres.trans halone)
      · exact absurd hfree (not_or.2 ⟨hne, hne'⟩)
  | linkedElsewhere id row hsubject howner hne hne' =>
    simp only [hsubject, howner]
    refine iff_of_true (fun s' a h _ => keepsRows_of_none (congrArg Prod.fst hres) h) ?_
    intro id' row' hrow'
    obtain ⟨-, rfl⟩ := Prod.mk.inj (Option.some.inj hrow')
    exact .inr ⟨hne, hne'⟩
  | created user event hsubject howner _ _ _ =>
    simp only [hsubject, howner, reduceCtorEq, false_implies, implies_true, iff_true]
    intro s' a h hrejected
    by_cases hactive : user.status = .active
    · obtain ⟨_, -, halone⟩ := Google.alone_signIn s user (.added newId none) [event] hactive
      exact rejectionKeeps_of_session (hres.trans halone) s' a h hrejected
    · obtain ⟨_, halone⟩ := Google.alone_signIn_rejected s user (.added newId none) [event] hactive
      exact keepsRows_of_added (hres.trans halone) h
  | createdPending user event hsubject howner _ _ _ =>
    simp only [hsubject, howner, reduceCtorEq, false_implies, implies_true, iff_true]
    exact fun s' a h _ => keepsRows_of_added hres h

/-- A rejected sign-in leaves the existing users and external identities alone, if it comes
    through OIDC; through Google it does so exactly if what the flow writes before it looks at
    the status is written to an active user. -/
theorem rejected_signIn_iff (lower : String → String) (s : Accounts) :
    (∀ resolved identity newId,
      RejectionKeeps lower s (.google resolved identity newId) ↔
        WritesActive s identity.subject (normalizeEmail lower identity.email)) ∧
    ∀ resolved identity newId newIdentityId,
      RejectionKeeps lower s (.oidc resolved identity newId newIdentityId) :=
  ⟨Google.rejectionKeeps_iff, Oidc.rejectionKeeps⟩

/-- `str.lower` on ASCII text. -/
def lowerAscii (text : String) : String := .ofList (text.toList.map Char.toLower)

/-- The user 1 has left and is disabled. -/
def leaver : User := {
  email := "lee@example.com"
  status := .disabled
  googleSubject := some "1072" }

/-- The accounts with the users. -/
def accountsOf (users : List (Id × User)) : Accounts where
  users := .ofList users
  people := ∅
  externalIdentities := ∅
  oidcRoleMappings := ∅
  auditEvents := []
  actorStrings := fun _ => ∅

/-- A disabled user signs in through Google under a new address. The sign-in is rejected, and
    the user has the new address. -/
theorem rejectionKeeps_leaver :
    ¬ RejectionKeeps lowerAscii (accountsOf [(1, leaver)])
      (.google ⟨false, "groups"⟩ ⟨"1072", "Lee.Park@example.com"⟩ 2) := by
  intro hkeeps
  obtain ⟨s', message, hserve, hemail⟩ : ∃ s' message,
      (accountsOf [(1, leaver)]).serve lowerAscii
        (.google ⟨false, "groups"⟩ ⟨"1072", "Lee.Park@example.com"⟩ 2) =
          .ok (s', rejection message) ∧
      s'.users[1]? = some { leaver with email := "lee.park@example.com" } :=
    ⟨_, _, rfl, rfl⟩
  have hkept := (hkeeps s' _ hserve fun id h => by cases h).users 1 leaver rfl
  rw [hemail] at hkept
  exact absurd (congrArg User.email (Option.some.inj hkept)) (by decide)

end MiniGrc.Users
