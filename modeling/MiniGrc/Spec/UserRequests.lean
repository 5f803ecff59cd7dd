import MiniGrc.Spec.SignIn

/-!
# What the requests on the accounts do

The change that a request decides on, and what a change does to the users and to the actor
columns. `Decision` says it once for all requests.

## Key results

- `Call.decision`: the changes that a request can decide on
- `Decision.rowEffect`: what happens to the row of a user
- `Decision.actors`: which addresses get into the actor columns
-/

namespace MiniGrc.Users

open Events

variable {lower : String → String} {s s' : Accounts} {id k : Id} {row row' user : User}
  {c : Call} {change : Change} {address actor : String} {column : ActorColumn}
  {events : List AuditEvent}

/-! ## The actor columns -/

/-- The actors of the audit log are those of its events. -/
theorem mem_actors_auditEvent :
    address ∈ s.actors .auditEvent ↔ ∃ e ∈ s.auditEvents, e.actor = address := by
  simp [Accounts.actors]

/-- The actors of another column are its entries. -/
theorem mem_actors_of_ne (hcolumn : column ≠ .auditEvent) :
    address ∈ s.actors column ↔ ∃ k : Id, (s.actorStrings column)[k]? = some address := by
  simp [Accounts.actors, hcolumn, Std.ExtTreeMap.mem_toList_iff_getElem?_eq_some]

/-- Events written to the audit log add their actors to it. -/
theorem mem_actors_audit : address ∈ (s.audit events).actors column ↔
    address ∈ s.actors column ∨ column = .auditEvent ∧ ∃ e ∈ events, e.actor = address := by
  by_cases hcolumn : column = .auditEvent
  · subst hcolumn
    simp only [mem_actors_auditEvent, Accounts.audit, List.mem_append, or_and_right, exists_or,
      true_and]
  · simp only [mem_actors_of_ne hcolumn, hcolumn, false_and, or_false]
    rfl

/-- Writing one cell adds the actor to its column alone. -/
theorem mem_actors_writeActor {cell : ActorColumn × Id}
    (h : address ∈ (s.writeActor actor cell).actors column) :
    address ∈ s.actors column ∨ column = cell.1 ∧ address = actor := by
  -- The audit log is a list of events, every other column a table.
  by_cases hcolumn : column = .auditEvent
  · subst hcolumn
    exact .inl h
  · rw [mem_actors_of_ne hcolumn] at h ⊢
    obtain ⟨k, hk⟩ := h
    simp only [Accounts.writeActor, Function.update_apply] at hk
    split at hk
    · next heq =>
      subst heq
      rw [Table.get_insert] at hk
      split at hk
      · exact .inr ⟨rfl, (Option.some.inj hk).symm⟩
      · exact .inl ⟨k, hk⟩
    · exact .inl ⟨k, hk⟩

/-- Writing cells adds the actor to their columns alone. -/
theorem mem_actors_writeActors {cells : List (ActorColumn × Id)}
    (h : address ∈ (cells.foldl (fun s cell => s.writeActor actor cell) s).actors column) :
    address ∈ s.actors column ∨ (∃ k, (column, k) ∈ cells) ∧ address = actor := by
  induction cells generalizing s with
  | nil => exact .inl h
  | cons cell cells ih =>
    -- on the cells: a later one may write over the row of an earlier one
    rcases ih h with h | ⟨⟨k, hk⟩, rfl⟩
    · rcases mem_actors_writeActor h with h | ⟨rfl, rfl⟩
      · exact .inl h
      · exact .inr ⟨⟨cell.2, List.mem_cons_self⟩, rfl⟩
    · exact .inr ⟨⟨k, List.mem_cons_of_mem _ hk⟩, rfl⟩

/-- The `UPDATE` of a column replaces the old address. -/
theorem mem_actors_replaceActor {oldEmail newEmail : String} {replaced : ActorColumn} :
    address ∈ (s.replaceActor oldEmail newEmail replaced).actors column ↔
      ∃ old ∈ s.actors column,
        address = if column = replaced ∧ old = oldEmail then newEmail else old := by
  by_cases heq : column = replaced
  · subst heq
    simp only [true_and]
    by_cases hcolumn : column = .auditEvent
    · subst hcolumn
      simp only [mem_actors_auditEvent, Accounts.replaceActor, if_true, List.mem_map]
      constructor
      · rintro ⟨_, ⟨e, he, rfl⟩, rfl⟩
        exact ⟨e.actor, ⟨e, he, rfl⟩, rfl⟩
      · rintro ⟨_, ⟨e, he, rfl⟩, rfl⟩
        exact ⟨_, ⟨e, he, rfl⟩, rfl⟩
    · simp only [mem_actors_of_ne hcolumn, Accounts.replaceActor, hcolumn, if_false,
        Function.update_self, Std.ExtTreeMap.getElem?_map, Option.map_eq_some_iff]
      constructor
      · rintro ⟨k, old, hold, rfl⟩
        exact ⟨old, ⟨k, hold⟩, rfl⟩
      · rintro ⟨old, ⟨k, hold⟩, rfl⟩
        exact ⟨k, old, hold, rfl⟩
  · -- another column keeps its addresses
    have hsame : (s.replaceActor oldEmail newEmail replaced).actors column = s.actors column := by
      unfold Accounts.replaceActor
      by_cases hreplaced : replaced = .auditEvent
      · subst hreplaced
        simp [Accounts.actors, heq]
      · simp [Accounts.actors, hreplaced, Function.update_of_ne heq]
    simp [hsame, heq]

/-- Replacing an address replaces it in the named columns alone. -/
theorem mem_actors_replaceActors {oldEmail newEmail : String} {columns : List ActorColumn} :
    address ∈ (columns.foldl (fun s column => s.replaceActor oldEmail newEmail column) s).actors
        column ↔
      ∃ old ∈ s.actors column,
        address = if column ∈ columns ∧ old = oldEmail then newEmail else old := by
  -- Column by column: one that is replaced twice holds the new address already.
  induction columns generalizing s with
  | nil => simp
  | cons replaced columns ih =>
    rw [List.foldl_cons, ih]
    simp only [mem_actors_replaceActor]
    constructor
    · rintro ⟨_, ⟨old, hold, rfl⟩, rfl⟩
      refine ⟨old, hold, ?_⟩
      by_cases heq : old = oldEmail <;> by_cases hcolumn : column = replaced <;>
        simp [heq, hcolumn]
    · rintro ⟨old, hold, rfl⟩
      refine ⟨_, ⟨old, hold, rfl⟩, ?_⟩
      by_cases heq : old = oldEmail <;> by_cases hcolumn : column = replaced <;>
        simp [heq, hcolumn]

/-- Replacing an address leaves the accounts. -/
@[simp] theorem users_replaceActors {oldEmail newEmail : String} {columns : List ActorColumn} :
    (columns.foldl (fun s column => s.replaceActor oldEmail newEmail column) s).users =
      s.users := by
  induction columns generalizing s with
  | nil => rfl
  | cons replaced columns ih =>
    rw [List.foldl_cons, ih]
    unfold Accounts.replaceActor
    split <;> rfl

/-- Writing cells leaves the accounts. -/
@[simp] theorem users_writeActors {cells : List (ActorColumn × Id)} :
    (cells.foldl (fun s cell => s.writeActor actor cell) s).users = s.users := by
  induction cells generalizing s with
  | nil => rfl
  | cons cell cells ih =>
    rw [List.foldl_cons, ih]
    rfl

/-! ## Decisions -/

/-- An account has the address. -/
def Accounts.HasAddress (s : Accounts) (address : String) : Prop :=
  ∃ (id : Id) (row : User), s.users[id]? = some row ∧ row.email = address

/-- What a request brings along that may get into the accounts: the address that it presents,
    the actor of a first sign-in, the pseudonym of a redacted user. -/
def Call.brings (lower : String → String) : Call → List String
  | .google _ identity _ => [normalizeEmail lower identity.email, "system"]
  | .oidc _ identity _ _ => [normalizeEmail lower identity.email, "system"]
  | .createUser _ email _ => [normalizeEmail lower email]
  | .updateUser .. => []
  | .redact _ userId _ => [redactedEmail userId]
  | .record .. => []

/-- The request is a Google sign-in of the user under a new address that is free. -/
def Renames (lower : String → String) (s : Accounts) (c : Call) (id : Id) (row : User)
    (email : String) : Prop :=
  ∃ resolved identity newId, c = .google resolved identity newId ∧
    s.userByGoogleSubject identity.subject = some (id, row) ∧
    email = normalizeEmail lower identity.email ∧ row.email ≠ email ∧ s.userByEmail email = none

/-- A renamed account brings the address the request names. -/
theorem Renames.brings {email : String} (h : Renames lower s c id row email) :
    email ∈ c.brings lower := by
  obtain ⟨resolved, identity, newId, rfl, -, rfl, -⟩ := h
  exact List.mem_cons_self

/-- The audit events name an address in the accounts or something that the request brings. -/
def NamesKnown (lower : String → String) (s : Accounts) (c : Call) (events : List AuditEvent) :
    Prop :=
  ∀ e ∈ events, s.HasAddress e.actor ∨ e.actor ∈ c.brings lower

/-- What a request can decide on. -/
inductive Decision (lower : String → String) (s : Accounts) (c : Call) : Change → Prop
  | none : Decision lower s c .none
  /-- a row is saved, as it was loaded up to its role, its status and its subject -/
  | saved (id : Id) (row user : User) (events : List AuditEvent) : s.users[id]? = some row →
      user.piiRedactedAt = row.piiRedactedAt → user.email = row.email →
      NamesKnown lower s c events → Decision lower s c (.saveUser (.loaded id row) user events)
  /-- a row is saved under a new address, which all the events name -/
  | renamed (id : Id) (row user : User) (events : List AuditEvent) : s.users[id]? = some row →
      user.piiRedactedAt = row.piiRedactedAt → Renames lower s c id row user.email →
      (∀ e ∈ events, e.actor = user.email) →
      Decision lower s c (.saveUser (.loaded id row) user events)
  /-- a user is added, under an address that nobody has -/
  | added (id : Id) (identity : Option (Id × ExternalIdentity)) (user : User)
      (events : List AuditEvent) : user.piiRedactedAt = none → user.email ∈ c.brings lower →
      s.userByEmail user.email = none → NamesKnown lower s c events →
      Decision lower s c (.saveUser (.added id identity) user events)
  /-- a user is recorded as the author of rows -/
  | recorded (id : Id) (row : User) (cells : List (ActorColumn × Id))
      (events events' : List AuditEvent) : c = .record id cells events' →
      s.users[id]? = some row → (∀ e ∈ events, e.actor = row.email) →
      Decision lower s c (.saveActor row.email cells events)
  /-- a user is redacted -/
  | redacted (now : Time) (id actorId : Id) (row actor : User) (event : AuditEvent) :
      c = .redact now id actorId → s.users[id]? = some row → row.piiRedactedAt = none →
      row.status = .disabled → s.users[actorId]? = some actor →
      event.actor = (if actorId = id then redactedEmail id else actor.email) →
      Decision lower s c (.redact actorStringColumns row.email (redactedEmail id) id row
        { row with email := redactedEmail id, piiRedactedAt := some now } event)

/-- The names of a list of events are known piece by piece. -/
theorem namesKnown_append {events' : List AuditEvent} :
    NamesKnown lower s c (events ++ events') ↔
      NamesKnown lower s c events ∧ NamesKnown lower s c events' := by
  simp only [NamesKnown, List.mem_append, or_imp, forall_and]

/-- One event whose actor is known. -/
theorem namesKnown_singleton {event : AuditEvent}
    (h : s.HasAddress event.actor ∨ event.actor ∈ c.brings lower) :
    NamesKnown lower s c [event] := by
  intro e he
  obtain rfl := List.mem_singleton.1 he
  exact h

/-- The end of a sign-in through Google. -/
theorem Google.decision_signIn (origin : Origin) (events : List AuditEvent)
    (hsave : ∀ event : AuditEvent, event.actor = user.email →
      Decision lower s c (.saveUser origin user (events ++ [event])))
    (hrejected : Decision lower s c (.saveUser origin user events)) :
    Decision lower s c ((Google.signIn origin user events).alone s).1 := by
  by_cases hactive : user.status = .active
  · obtain ⟨event, hactor, halone⟩ := Google.alone_signIn s user origin events hactive
    rw [halone]
    exact hsave event hactor
  · obtain ⟨_, halone⟩ := Google.alone_signIn_rejected s user origin events hactive
    rw [halone]
    exact hrejected

/-- What a Google sign-in decides. -/
theorem Google.decision (resolved : SignInConfig) (identity : GoogleIdentity) (newId : Id) :
    Decision lower s (.google resolved identity newId)
      (((Call.google resolved identity newId).serve lower).alone s).1 := by
  have hresolution := Google.serve_resolution lower s resolved identity newId
  -- one case for each way in which an identity is resolved
  generalize ((Call.google resolved identity newId).serve lower).alone s = res at hresolution
  have hbrings : normalizeEmail lower identity.email ∈
      (Call.google resolved identity newId).brings lower := List.mem_cons_self
  have hsystem : "system" ∈ (Call.google resolved identity newId).brings lower :=
    List.mem_cons_of_mem _ List.mem_cons_self
  cases hresolution with
  | same id row hsubject hemail =>
    have hrow := (userByGoogleSubject_eq_some hsubject).1
    refine Google.decision_signIn _ _ (fun event hactor => ?_) ?_
    · exact .saved id row row _ hrow rfl rfl
        (namesKnown_singleton (.inl ⟨id, row, hrow, hactor.symm⟩))
    · exact .saved id row row _ hrow rfl rfl fun _ he => by cases he
  | changed id row event hsubject hne hfree hactor =>
    have hrow := (userByGoogleSubject_eq_some hsubject).1
    have hrenames : Renames lower s (.google resolved identity newId) id row
        (normalizeEmail lower identity.email) :=
      ⟨resolved, identity, newId, rfl, hsubject, rfl, hne, hfree⟩
    refine Google.decision_signIn _ _ (fun event' hactor' => ?_) ?_
    · exact .renamed id row _ _ hrow rfl hrenames (by simp [hactor, hactor'])
    · exact .renamed id row _ _ hrow rfl hrenames (by simp [hactor])
  -- the new address is that of another account: the sign-in is refused
  | taken _ _ _ _ _ _ _ => exact .none
  | linked id row event hsubject howner _ hactor =>
    obtain ⟨hrow, hemail⟩ := userByEmail_eq_some howner
    have hknown : NamesKnown lower s _ [event] := namesKnown_singleton (.inr (hactor ▸ hbrings))
    refine Google.decision_signIn _ _ (fun event' hactor' => ?_) ?_
    · exact .saved id row _ _ hrow rfl rfl
        (namesKnown_append.2 ⟨hknown, namesKnown_singleton (.inl ⟨id, row, hrow, hactor'.symm⟩)⟩)
    · exact .saved id row _ _ hrow rfl rfl hknown
  | linkedElsewhere _ _ _ _ _ _ => exact .none
  | created user event _ hfree hemail hredacted hactor =>
    have hknown : NamesKnown lower s _ [event] := namesKnown_singleton (.inr (hactor ▸ hsystem))
    refine Google.decision_signIn _ _ (fun event' hactor' => ?_) ?_
    · exact .added newId none user _ hredacted (hemail ▸ hbrings) (hemail ▸ hfree)
        (namesKnown_append.2 ⟨hknown, namesKnown_singleton (.inr (hactor'.trans hemail ▸ hbrings))⟩)
    · exact .added newId none user _ hredacted (hemail ▸ hbrings) (hemail ▸ hfree) hknown
  | createdPending user event _ hfree hemail hredacted hactor =>
    exact .added newId none user _ hredacted (hemail ▸ hbrings) (hemail ▸ hfree)
      (namesKnown_singleton (.inr (hactor ▸ hsystem)))

/-- The end of a sign-in through OIDC. -/
theorem Oidc.decision_signIn (resolved : SignInConfig) (identity : OidcIdentity)
    (origin : Origin) (events : List AuditEvent)
    (hsave : ∀ user' events', user'.email = user.email →
      user'.piiRedactedAt = user.piiRedactedAt →
      (∀ e ∈ events', e.actor = "system" ∨ e.actor = user.email) →
      Decision lower s c (.saveUser origin user' (events ++ events')))
    (hrejected : Decision lower s c (.saveUser origin user events)) :
    Decision lower s c ((Oidc.signIn resolved identity origin user events).alone s).1 := by
  -- Only an active account is saved with its sign-in.
  by_cases hactive : user.status = .active
  · obtain ⟨user', events', hemail, hredacted, hactors, halone⟩ :=
      Oidc.alone_signIn s user resolved identity origin events hactive
    rw [halone]
    exact hsave user' events' hemail hredacted hactors
  · obtain ⟨_, halone⟩ := Oidc.alone_signIn_rejected s user resolved identity origin events hactive
    rw [halone]
    exact hrejected

/-- What an OIDC sign-in decides. -/
theorem Oidc.decision (resolved : SignInConfig) (identity : OidcIdentity)
    (newId newIdentityId : Id) :
    Decision lower s (.oidc resolved identity newId newIdentityId)
      (((Call.oidc resolved identity newId newIdentityId).serve lower).alone s).1 := by
  have hresolution := Oidc.serve_resolution lower s resolved identity newId newIdentityId
  generalize ((Call.oidc resolved identity newId newIdentityId).serve lower).alone s = res
    at hresolution
  have hbrings : normalizeEmail lower identity.email ∈
      (Call.oidc resolved identity newId newIdentityId).brings lower := List.mem_cons_self
  have hsystem : "system" ∈ (Call.oidc resolved identity newId newIdentityId).brings lower :=
    List.mem_cons_of_mem _ List.mem_cons_self
  -- The account is linked already, missing, taken by another subject or new.
  cases hresolution with
  | existing e row _ hrow =>
    refine Oidc.decision_signIn _ _ _ _ (fun user' events' hemail hredacted hactors => ?_) ?_
    · refine .saved e.userId row user' _ hrow hredacted hemail fun x hx => ?_
      rcases hactors x hx with hx | hx
      · exact .inr (hx ▸ hsystem)
      · exact .inl ⟨e.userId, row, hrow, hx.symm⟩
    · exact .saved e.userId row row _ hrow rfl rfl fun _ he => by cases he
  | missing _ _ _ => exact .none
  | taken _ _ _ => exact .none
  | created user row event _ hfree hemail hredacted hactor =>
    have hknown : NamesKnown lower s _ [event] := namesKnown_singleton (.inr (hactor ▸ hsystem))
    refine Oidc.decision_signIn _ _ _ _ (fun user' events' hemail' hredacted' hactors => ?_) ?_
    · refine .added newId _ user' _ (hredacted'.trans hredacted)
        (hemail'.trans hemail ▸ hbrings) (hemail'.trans hemail ▸ hfree)
        (namesKnown_append.2 ⟨hknown, fun x hx => ?_⟩)
      rcases hactors x hx with hx | hx
      · exact .inr (hx ▸ hsystem)
      · exact .inr (hx.trans hemail ▸ hbrings)
    · exact .added newId _ user _ hredacted (hemail ▸ hbrings) (hemail ▸ hfree) hknown
  | createdPending user row event _ hfree hemail hredacted hactor =>
    exact .added newId _ user _ hredacted (hemail ▸ hbrings) (hemail ▸ hfree)
      (namesKnown_singleton (.inr (hactor ▸ hsystem)))

/-! ## The other requests -/

/-- A request that requires a login decides on what it does for its user, if on anything. -/
theorem alone_requireLogin (userId : Id) (next : User → Request) :
    (∃ row, s.users[userId]? = some row ∧
      (requireLogin userId next).alone s = (next row).alone s) ∨
      ((requireLogin userId next).alone s).1 = .none := by
  unfold requireLogin requireActive
  simp only [Txn.alone_query]
  split
  · exact .inr rfl
  · next row hrow =>
    split
    · exact .inl ⟨row, hrow, rfl⟩
    · exact .inr rfl
    · exact .inr rfl

/-- An administrator goes on to the request, anyone else changes nothing. -/
theorem alone_requireAdmin (userId : Id) (next : User → Request) :
    (∃ row, s.users[userId]? = some row ∧
      (requireAdmin userId next).alone s = (next row).alone s) ∨
      ((requireAdmin userId next).alone s).1 = .none := by
  rcases alone_requireLogin (s := s) userId
    (fun user => if user.role = .admin then next user
      else answer (.httpError 403 "Admin privileges required")) with ⟨row, hrow, halone⟩ | hnone
  · unfold requireAdmin
    rw [halone]
    split
    · exact .inl ⟨row, hrow, rfl⟩
    · exact .inr rfl
  · exact .inr hnone

/-- To change nothing is a decision. -/
theorem decision_none {request : Request} (h : (request.alone s).1 = .none) :
    Decision lower s c (request.alone s).1 := by
  rw [h]
  exact .none

/-- What creating an account decides. -/
theorem decision_createUser (adminId : Id) (email : String) (newId : Id) :
    Decision lower s (.createUser adminId email newId)
      (((Call.createUser adminId email newId).serve lower).alone s).1 := by
  simp only [Call.serve, createUser]
  rcases alone_requireAdmin (s := s) adminId _ with ⟨admin, hadmin, halone⟩ | hnone
  · rw [halone]
    simp only [Txn.alone_query]
    split
    · exact .none
    · next hfree =>
      exact .added newId none _ _ rfl List.mem_cons_self hfree
        (namesKnown_singleton (.inl ⟨adminId, admin, hadmin, rfl⟩))
  · exact decision_none hnone

/-- The row of the admin, which is in the session already, is the stored one. -/
theorem alone_getUser {adminId userId : Id} {admin : User} (hadmin : s.users[adminId]? = some admin)
    (next : Option User → Request) :
    (getUser adminId userId admin next).alone s = (next s.users[userId]?).alone s := by
  unfold getUser
  split
  · next heq => rw [heq, hadmin]
  · rfl

/-- What updating an account decides. -/
theorem decision_updateUser (adminId userId : Id) (role status : String) :
    Decision lower s (.updateUser adminId userId role status)
      (((Call.updateUser adminId userId role status).serve lower).alone s).1 := by
  simp only [Call.serve, updateUser]
  -- Whoever is no administrator changes nothing.
  rcases alone_requireAdmin (s := s) adminId _ with ⟨admin, hadmin, halone⟩ | hnone
  · rw [halone, alone_getUser hadmin]
    cases hrow : s.users[userId]? with
    | none => exact .none
    | some row =>
      have hsave : ∀ role' status', Decision lower s (.updateUser adminId userId role status)
          ((saveEdit userId admin row role' status').alone s).1 :=
        fun role' status' => .saved userId row _ _ hrow rfl rfl
          (namesKnown_singleton (.inl ⟨adminId, admin, hadmin, rfl⟩))
      dsimp only
      split
      · next role' status' _ _ =>
        split
        · exact .none
        · split
          · simp only [Txn.alone_query]
            split
            · exact .none
            · exact hsave role' status'
          · exact hsave role' status'
      · exact .none
  · exact decision_none hnone

/-- What a redaction decides. -/
theorem decision_redact (now : Time) (userId actorId : Id) :
    Decision lower s (.redact now userId actorId)
      (((Call.redact now userId actorId).serve lower).alone s).1 := by
  simp only [Call.serve, redactUserPii, Txn.alone_query]
  -- The account may be missing or redacted already.
  split
  · next row actor hrow hactor =>
    split
    · exact .none
    · next hredacted =>
      split
      · exact .none
      · next hstatus =>
        refine .redacted now userId actorId row actor _ rfl hrow (not_not.1 hredacted)
          (not_not.1 hstatus) hactor ?_
        rfl
  · exact .none

/-- What recording under an account's address decides. -/
theorem decision_record (userId : Id) (cells : List (ActorColumn × Id))
    (events : List AuditEvent) :
    Decision lower s (.record userId cells events)
      (((Call.record userId cells events).serve lower).alone s).1 := by
  simp only [Call.serve, recordActor]
  rcases alone_requireLogin (s := s) userId _ with ⟨row, hrow, halone⟩ | hnone
  · rw [halone]
    refine .recorded userId row cells _ events rfl hrow fun e he => ?_
    obtain ⟨_, -, rfl⟩ := List.mem_map.1 he
    rfl
  · exact decision_none hnone

/-- The changes that a request can decide on. -/
theorem Call.decision (lower : String → String) (s : Accounts) (c : Call) :
    Decision lower s c ((c.serve lower).alone s).1 := by
  cases c with
  | google resolved identity newId => exact Google.decision resolved identity newId
  | oidc resolved identity newId newIdentityId =>
    exact Oidc.decision resolved identity newId newIdentityId
  | createUser adminId email newId => exact decision_createUser adminId email newId
  | updateUser adminId userId role status => exact decision_updateUser adminId userId role status
  | redact now userId actorId => exact decision_redact now userId actorId
  | record userId cells events => exact decision_record userId cells events

/-! ## What a change does -/

/-- Saving a loaded account replaces its row and writes the events. -/
theorem apply_loaded (hrow : s.users[id]? = some row)
    (h : Change.apply (.saveUser (.loaded id row) user events) s = .ok s') :
    s' = ({ s with users := s.users.insert id user } : Accounts).audit events := by
  simp only [Change.apply, updateUser_loaded hrow] at h
  split at h
  · cases h
  · exact (Except.ok.inj h).symm

/-- Saving a new account adds its row and writes the events. -/
theorem apply_added {identity : Option (Id × ExternalIdentity)}
    (h : Change.apply (.saveUser (.added id identity) user events) s = .ok s') :
    s.users[id]? = none ∧ ∃ t : Accounts, t.users = s.users.insert id user ∧
      t.auditEvents = s.auditEvents ∧ t.actorStrings = s.actorStrings ∧ s' = t.audit events := by
  simp only [Change.apply, Accounts.insertUser] at h
  -- The row is added unless the identifier or the address is taken.
  split at h
  · cases h
  · next hnew =>
    have hnone : s.users[id]? = none :=
      Std.ExtTreeMap.getElem?_eq_none fun hmem => hnew (.inl hmem)
    refine ⟨hnone, ?_⟩
    split at h
    · exact ⟨{ s with users := s.users.insert id user }, rfl, rfl, rfl, (Except.ok.inj h).symm⟩
    · next identityId new =>
      split at h
      · cases h
      · exact ⟨{ s with
          users := s.users.insert id user
          externalIdentities := s.externalIdentities.insert identityId new }, rfl, rfl, rfl,
          (Except.ok.inj h).symm⟩

/-- A redaction that does not clash replaces the address everywhere. -/
theorem apply_redact {columns : List ActorColumn} {oldEmail newEmail : String} {event : AuditEvent}
    (hrow : s.users[id]? = some row)
    (h : Change.apply (.redact columns oldEmail newEmail id row user event) s = .ok s') :
    ¬ s.Clashes id (some row) user ∧ s' = ({
      columns.foldl (fun s column => s.replaceActor oldEmail newEmail column) s with
      users := s.users.insert id user } : Accounts).audit [event] := by
  have hrow' :
      (columns.foldl (fun s column => s.replaceActor oldEmail newEmail column) s).users[id]? =
        some row := by rw [users_replaceActors, hrow]
  simp only [Change.apply, updateUser_loaded hrow'] at h
  split at h
  · cases h
  · next hclash =>
    -- the updates of the actor columns do not touch the users
    rw [clashes_iff, users_replaceActors, ← clashes_iff] at hclash
    rw [users_replaceActors] at h
    exact ⟨hclash, (Except.ok.inj h).symm⟩

/-- Recording writes the cells and the events. -/
theorem apply_saveActor {cells : List (ActorColumn × Id)}
    (h : Change.apply (.saveActor actor cells events) s = .ok s') :
    s' = (cells.foldl (fun s cell => s.writeActor actor cell) s).audit events :=
  (Except.ok.inj h).symm

/-- What has happened to a user whose row is now `row'`. -/
inductive RowEffect (lower : String → String) (s : Accounts) (c : Call) (k : Id) (row' : User) :
    Prop
  | kept (row : User) : s.users[k]? = some row → row'.email = row.email →
      row'.piiRedactedAt = row.piiRedactedAt → RowEffect lower s c k row'
  | renamed (row : User) : s.users[k]? = some row → row'.piiRedactedAt = row.piiRedactedAt →
      Renames lower s c k row row'.email → RowEffect lower s c k row'
  | added : s.users[k]? = none → row'.piiRedactedAt = none → row'.email ∈ c.brings lower →
      s.userByEmail row'.email = none → RowEffect lower s c k row'
  | redacted (now : Time) (actorId : Id) (row : User) : c = .redact now k actorId →
      s.users[k]? = some row → row'.email = redactedEmail k →
      (row.email = redactedEmail k ∨ s.userByEmail (redactedEmail k) = none) →
      RowEffect lower s c k row'

/-- What a decision does to one row of the accounts. -/
theorem Decision.rowEffect (hd : Decision lower s c change) (h : change.apply s = .ok s')
    (hrow' : s'.users[k]? = some row') : RowEffect lower s c k row' := by
  have hkept : s.users[k]? = some row' → RowEffect lower s c k row' := fun h =>
    .kept row' h rfl rfl
  cases hd with
  | none =>
    obtain rfl := Except.ok.inj h
    exact hkept hrow'
  | saved id row user events hrow hredacted hemail _ =>
    obtain rfl := apply_loaded hrow h
    change (s.users.insert id user)[k]? = some row' at hrow'
    rcases Table.of_get_insert hrow' with ⟨rfl, rfl⟩ | hrow'
    · exact .kept row hrow hemail hredacted
    · exact hkept hrow'
  | renamed id row user events hrow hredacted hrenames _ =>
    obtain rfl := apply_loaded hrow h
    change (s.users.insert id user)[k]? = some row' at hrow'
    rcases Table.of_get_insert hrow' with ⟨rfl, rfl⟩ | hrow'
    · exact .renamed row hrow hredacted hrenames
    · exact hkept hrow'
  | added id identity user events hredacted hbrings hfree _ =>
    obtain ⟨hnone, t, husers, -, -, rfl⟩ := apply_added h
    change t.users[k]? = some row' at hrow'
    rw [husers] at hrow'
    rcases Table.of_get_insert hrow' with ⟨rfl, rfl⟩ | hrow'
    · exact .added hnone hredacted hbrings hfree
    · exact hkept hrow'
  | recorded _ _ _ _ _ _ _ _ =>
    rw [apply_saveActor h] at hrow'
    change (List.foldl _ s _).users[k]? = some row' at hrow'
    rw [users_writeActors] at hrow'
    exact hkept hrow'
  | redacted now id actorId row actor event hc hrow _ _ _ _ =>
    obtain ⟨hclash, rfl⟩ := apply_redact hrow h
    change (s.users.insert id _)[k]? = some row' at hrow'
    rcases Table.of_get_insert hrow' with ⟨rfl, rfl⟩ | hrow'
    · refine .redacted now actorId row hc hrow rfl ?_
      by_cases hsame : row.email = redactedEmail id
      · exact .inl hsame
      · right
        rw [userByEmail_eq_none]
        intro j other hother htaken
        -- the pseudonym is not the address of the user, so another account has it
        have hj : j ≠ id := by
          rintro rfl
          obtain rfl := Option.some.inj (hother.symm.trans hrow)
          exact hsame htaken
        exact hclash (clashes_iff.2 ⟨j, other, hother, hj, .inl ⟨htaken, by simpa using hsame⟩⟩)
    · exact hkept hrow'

/-- A change is about one user at most, and loses none. -/
theorem Decision.frame (hd : Decision lower s c change) (h : change.apply s = .ok s') :
    s'.users = s.users ∨ ∃ id user, s'.users = s.users.insert id user := by
  -- Each decision writes one row of the accounts at most.
  cases hd with
  | none =>
    obtain rfl := Except.ok.inj h
    exact .inl rfl
  | saved id _ user _ hid _ _ _ =>
    obtain rfl := apply_loaded hid h
    exact .inr ⟨id, user, rfl⟩
  | renamed id _ user _ hid _ _ _ =>
    obtain rfl := apply_loaded hid h
    exact .inr ⟨id, user, rfl⟩
  | added id _ user _ _ _ _ _ =>
    obtain ⟨-, t, husers, -, -, rfl⟩ := apply_added h
    exact .inr ⟨id, user, husers⟩
  | recorded _ _ _ _ _ _ _ _ =>
    rw [apply_saveActor h]
    exact .inl users_writeActors
  | redacted _ id _ _ _ _ _ hid _ _ _ _ =>
    obtain ⟨-, rfl⟩ := apply_redact hid h
    exact .inr ⟨id, _, rfl⟩

/-- No decision removes an account. -/
theorem Decision.row_stays (hd : Decision lower s c change) (h : change.apply s = .ok s')
    (hrow : s.users[k]? = some row) : ∃ row', s'.users[k]? = some row' := by
  rcases hd.frame h with heq | ⟨id, user, heq⟩
  · exact ⟨row, by rw [heq, hrow]⟩
  · rw [heq, Table.get_insert]
    split
    · exact ⟨user, rfl⟩
    · exact ⟨row, hrow⟩

/-- An address in an actor column was there before, or it is one of an account, or the request
    brings it; outside the registered columns only the requests of users write. -/
theorem Decision.actors (hd : Decision lower s c change) (h : change.apply s = .ok s')
    (ha : address ∈ s'.actors column) :
    address ∈ s.actors column ∨ (s.HasAddress address ∨ address ∈ c.brings lower) ∧
      (column ∈ actorStringColumns ∨ ∃ userId cells events k, c = .record userId cells events ∧
        (column, k) ∈ cells) := by
  -- the case of an audit event, which every change but none can add
  have haudit : ∀ e : AuditEvent, s.HasAddress e.actor ∨ e.actor ∈ c.brings lower →
      column = .auditEvent → e.actor = address →
      (s.HasAddress address ∨ address ∈ c.brings lower) ∧
        (column ∈ actorStringColumns ∨ ∃ userId cells events k,
          c = .record userId cells events ∧ (column, k) ∈ cells) := by
    rintro e hknown rfl rfl
    exact ⟨hknown, .inl List.mem_cons_self⟩
  cases hd with
  | none =>
    obtain rfl := Except.ok.inj h
    exact .inl ha
  | saved id row user events hrow _ _ hknown =>
    obtain rfl := apply_loaded hrow h
    rcases mem_actors_audit.1 ha with ha | ⟨hcolumn, e, he, heq⟩
    · exact .inl ha
    · exact .inr (haudit e (hknown e he) hcolumn heq)
  | renamed id row user events hrow _ hrenames hactors =>
    obtain rfl := apply_loaded hrow h
    rcases mem_actors_audit.1 ha with ha | ⟨hcolumn, e, he, heq⟩
    · exact .inl ha
    · exact .inr (haudit e (.inr (hactors e he ▸ hrenames.brings)) hcolumn heq)
  | added id identity user events _ _ _ hknown =>
    obtain ⟨-, t, -, hevents, hstrings, rfl⟩ := apply_added h
    rcases mem_actors_audit.1 ha with ha | ⟨hcolumn, e, he, heq⟩
    · have hsame : t.actors column = s.actors column := by
        unfold Accounts.actors
        rw [hevents, hstrings]
      exact .inl (hsame ▸ ha)
    · exact .inr (haudit e (hknown e he) hcolumn heq)
  | recorded id row cells events events' hc hrow hactors =>
    have hknown : s.HasAddress row.email := ⟨id, row, hrow, rfl⟩
    rw [apply_saveActor h] at ha
    rcases mem_actors_audit.1 ha with ha | ⟨hcolumn, e, he, heq⟩
    · rcases mem_actors_writeActors ha with ha | ⟨⟨k, hk⟩, rfl⟩
      · exact .inl ha
      · exact .inr ⟨.inl hknown, .inr ⟨id, cells, events', k, hc, hk⟩⟩
    · exact .inr (haudit e (.inl (hactors e he ▸ hknown)) hcolumn heq)
  | redacted now id actorId row actor event hc hrow _ _ hactor hevent =>
    have hpseudonym : redactedEmail id ∈ c.brings lower := by
      rw [hc]
      exact List.mem_cons_self
    obtain ⟨-, rfl⟩ := apply_redact hrow h
    rcases mem_actors_audit.1 ha with ha | ⟨hcolumn, e, he, heq⟩
    · obtain ⟨old, hold, rfl⟩ := mem_actors_replaceActors.1 ha
      split
      · next hreplaced => exact .inr ⟨.inr hpseudonym, .inl hreplaced.1⟩
      · exact .inl hold
    · obtain rfl := List.mem_singleton.1 he
      refine .inr (haudit e ?_ hcolumn heq)
      rw [hevent]
      split
      · exact .inr hpseudonym
      · exact .inl ⟨actorId, actor, hactor, rfl⟩

end MiniGrc.Users
