import MiniGrc.App.AccessTokens

/-!
# Tokens are accepted from their creation to their revocation

In every state that interleaved requests lead to, a session cookie admits and an API token
is accepted exactly if the journal of the committed changes has its creation and not its
revocation, and it has not expired. In particular nothing that a concurrent request writes
brings a revoked token back: `verify_api_token` stores `last_used_at` in a row that may have
been revoked since it was read, but an update sets only the columns that were changed.

## Key results

- `inv_of_run`: the journal accounts for both tables
- `api_token_accepted_iff`, `session_admitted_iff`
-/

namespace MiniGrc.Access

open Events
open Users (Accounts AuditEvent User)

variable {ι : Type} [DecidableEq ι] {env : Environment} {accounts : Accounts} {s s' : Tables}
  {journal : List Change} {change : Change}

/-- What a change does to the sessions. -/
def Change.sessionWrite : Change → RowWrite NewSession
  | .accounts _ (some (sessionId, new)) => .inserted sessionId new
  | .signOut sessionId _ _ => .revoked sessionId
  | _ => .other

/-- What a change does to the API tokens. -/
def Change.tokenWrite : Change → RowWrite NewToken
  | .createToken tokenId new _ => .inserted tokenId new
  | .revokeToken tokenId _ _ => .revoked tokenId
  | _ => .other

/-- The journal accounts for the sessions and for the tokens. -/
structure Inv (journal : List Change) (s : Tables) : Prop where
  sessions : sessions.KeyJournaled NewSession.tokenHash s.userSessions
    (journal.map Change.sessionWrite)
  tokens : tokens.KeyJournaled NewToken.tokenHash s.apiTokens (journal.map Change.tokenWrite)

theorem mem_tokenWrite_inserted {tokenId : Id} {new : NewToken} :
    .inserted tokenId new ∈ journal.map Change.tokenWrite ↔
      ∃ event, .createToken tokenId new event ∈ journal := by
  rw [List.mem_map]
  constructor
  · rintro ⟨change, hmem, hwrite⟩
    cases change with
    | createToken id new' event =>
      cases hwrite
      exact ⟨event, hmem⟩
    | _ => cases hwrite
  · exact fun ⟨event, hmem⟩ => ⟨_, hmem, rfl⟩

theorem mem_tokenWrite_revoked {tokenId : Id} :
    .revoked tokenId ∈ journal.map Change.tokenWrite ↔
      ∃ revokedAt event, .revokeToken tokenId revokedAt event ∈ journal := by
  rw [List.mem_map]
  constructor
  · rintro ⟨change, hmem, hwrite⟩
    cases change with
    | revokeToken id revokedAt event =>
      cases hwrite
      exact ⟨revokedAt, event, hmem⟩
    | _ => cases hwrite
  · exact fun ⟨_, _, hmem⟩ => ⟨_, hmem, rfl⟩

theorem mem_sessionWrite_inserted {sessionId : Id} {new : NewSession} :
    .inserted sessionId new ∈ journal.map Change.sessionWrite ↔
      ∃ change, .accounts change (some (sessionId, new)) ∈ journal := by
  rw [List.mem_map]
  constructor
  · rintro ⟨change, hmem, hwrite⟩
    cases change with
    | accounts change started =>
      cases started with
      | none => cases hwrite
      | some started =>
        cases hwrite
        exact ⟨change, hmem⟩
    | _ => cases hwrite
  · exact fun ⟨_, hmem⟩ => ⟨_, hmem, rfl⟩

theorem mem_sessionWrite_revoked {sessionId : Id} :
    .revoked sessionId ∈ journal.map Change.sessionWrite ↔
      ∃ revokedAt event, .signOut sessionId revokedAt event ∈ journal := by
  rw [List.mem_map]
  constructor
  · rintro ⟨change, hmem, hwrite⟩
    cases change with
    | accounts change started => cases started <;> cases hwrite
    | signOut id revokedAt event =>
      cases hwrite
      exact ⟨revokedAt, event, hmem⟩
    | _ => cases hwrite
  · exact fun ⟨_, _, hmem⟩ => ⟨_, hmem, rfl⟩

/-! ## Inserts -/

theorem keyFree_of_any {ρ φ : Type} {R : Revocable ρ φ} {key : φ → String} {t : Table ρ}
    {x : String} (h : ¬ (t.toList.any fun row => key (R.fixed row.2) == x) = true) :
    R.KeyFree key t x := by
  intro k r hr heq
  rw [Bool.not_eq_true, Table.any_toList_eq_false (p := fun r => key (R.fixed r) == x)] at h
  have hne := h k r hr
  rw [heq, beq_self_eq_true] at hne
  cases hne

/-- What the insert of a session leaves. -/
theorem insertSession_eq_ok {sessionId : Id} {new : NewSession}
    (h : s.insertSession sessionId new = .ok s') :
    sessionId ∉ s.userSessions ∧
      sessions.KeyFree NewSession.tokenHash s.userSessions new.tokenHash ∧
      s' = { s with userSessions := s.userSessions.insert sessionId new.row } := by
  unfold Tables.insertSession at h
  split at h
  · cases h
  · next hfree =>
    rw [not_or, not_or] at hfree
    exact ⟨hfree.1, keyFree_of_any hfree.2.1, (Except.ok.inj h).symm⟩

/-- What the insert of a token leaves. -/
theorem insertToken_eq_ok {tokenId : Id} {new : NewToken}
    (h : s.insertToken tokenId new = .ok s') :
    tokenId ∉ s.apiTokens ∧ tokens.KeyFree NewToken.tokenHash s.apiTokens new.tokenHash ∧
      s' = { s with apiTokens := s.apiTokens.insert tokenId new.row } := by
  unfold Tables.insertToken at h
  split at h
  · cases h
  · next hfree =>
    rw [not_or, not_or] at hfree
    exact ⟨hfree.1, keyFree_of_any hfree.2.1, (Except.ok.inj h).symm⟩

/-! ## One change -/

theorem inv_initial : Inv [] ⟨accounts, ∅, ∅⟩ :=
  ⟨Revocable.keyJournaled_empty, Revocable.keyJournaled_empty⟩

/-- A change of neither table. -/
theorem Inv.other (h : Inv journal s) {accounts' : Accounts}
    (hsession : change.sessionWrite = .other) (htoken : change.tokenWrite = .other) :
    Inv (journal ++ [change]) { s with accounts := accounts' } := by
  constructor
  · rw [List.map_append, List.map_singleton, hsession]
    exact h.sessions.other
  · rw [List.map_append, List.map_singleton, htoken]
    exact h.tokens.other

/-- A change of the sessions. -/
theorem Inv.ofSessions (h : Inv journal s) {accounts' : Accounts}
    {userSessions : Table Routes.UserSession}
    (hsessions : Access.sessions.KeyJournaled NewSession.tokenHash userSessions
      (journal.map Change.sessionWrite ++ [change.sessionWrite]))
    (htoken : change.tokenWrite = .other) :
    Inv (journal ++ [change]) ⟨accounts', userSessions, s.apiTokens⟩ := by
  constructor
  · rw [List.map_append, List.map_singleton]
    exact hsessions
  · rw [List.map_append, List.map_singleton, htoken]
    exact h.tokens.other

/-- A change of the tokens. -/
theorem Inv.ofTokens (h : Inv journal s) {accounts' : Accounts} {apiTokens : Table ApiToken}
    (htokens : Access.tokens.KeyJournaled NewToken.tokenHash apiTokens
      (journal.map Change.tokenWrite ++ [change.tokenWrite]))
    (hsession : change.sessionWrite = .other) :
    Inv (journal ++ [change]) ⟨accounts', s.userSessions, apiTokens⟩ := by
  constructor
  · rw [List.map_append, List.map_singleton, hsession]
    exact h.sessions.other
  · rw [List.map_append, List.map_singleton]
    exact htokens

/-- The journal goes on accounting for the tables, whatever is committed. -/
theorem Inv.apply (h : Inv journal s) (happly : change.apply s = .ok s') :
    Inv (journal ++ [change]) s' := by
  cases change with
  | accounts change started =>
    simp only [Change.apply, bind, Except.bind] at happly
    split at happly
    · cases happly
    · next accounts' _ =>
      cases started with
      | none =>
        cases happly
        exact h.other rfl rfl
      | some started =>
        obtain ⟨sessionId, new⟩ := started
        obtain ⟨hfresh, hfree, rfl⟩ := insertSession_eq_ok happly
        exact h.ofSessions (h.sessions.insert hfresh hfree rfl) rfl
  | signOut sessionId now event =>
    simp only [Change.apply] at happly
    split at happly
    · cases happly
    · next row hrow =>
      cases happly
      exact h.ofSessions (h.sessions.revoke hrow rfl rfl) rfl
  | createToken tokenId new event =>
    simp only [Change.apply] at happly
    cases hinsert : s.insertToken tokenId new with
    | error e =>
      rw [hinsert] at happly
      cases happly
    | ok u =>
      rw [hinsert] at happly
      cases happly
      obtain ⟨hfresh, hfree, rfl⟩ := insertToken_eq_ok hinsert
      exact h.ofTokens (h.tokens.insert hfresh hfree rfl) rfl
  | revokeToken tokenId now event =>
    simp only [Change.apply] at happly
    split at happly
    · cases happly
    · next row hrow =>
      cases happly
      exact h.ofTokens (h.tokens.revoke hrow rfl rfl) rfl
  | useToken tokenId loaded now =>
    simp only [Change.apply] at happly
    split at happly
    · cases happly
    · next row hrow =>
      cases happly
      -- the row may have been revoked since it was loaded; that column is not written
      exact h.ofTokens (h.tokens.update hrow rfl rfl) rfl

/-- The journal accounts for the tables in every state that is reached. -/
theorem inv_of_run {ok : State ι → Server.Label ι Call → Prop} {t : State ι}
    (h : Run (step env) ok (.initial accounts) t) : Inv t.journal t.server.committed :=
  Server.journal_of_run h inv_initial fun _ _ _ _ hinv happly => hinv.apply happly

/-! ## What is accepted -/

/-- The bearer of the raw token is authenticated by the API token of this id. -/
def AcceptsBearer (env : Environment) (s : Tables) (bearer : String) (now : Time)
    (tokenId : Id) : Prop :=
  ∃ change scopes, (verifyApiToken env bearer now).alone s = (change, .accessToken tokenId scopes)

/-- The cookie admits the user. -/
def AdmitsCookie (env : Environment) (s : Tables) (cookie : String) (now : Time)
    (userId : Id) : Prop :=
  (view env cookie now).alone s = (.nothing, .viewed userId)

/-- The row that `verify_api_token` finds decides. -/
theorem acceptsBearer_iff {bearer : String} {now : Time} {tokenId : Id} :
    AcceptsBearer env s bearer now tokenId ↔ bearer ≠ "" ∧
      ∃ row, tokens.find NewToken.tokenHash s.apiTokens (env.hashSessionToken bearer) =
          some (tokenId, row) ∧
        row.revokedAt.isSome = false ∧ ∀ expiresAt, row.expiresAt = some expiresAt →
          now ≤ expiresAt := by
  have hrefused : ∀ change scopes, (answer .unauthenticated).alone s ≠
      (change, Answer.accessToken tokenId scopes) := by
    intro change scopes heq
    cases heq
  unfold AcceptsBearer verifyApiToken
  by_cases hempty : bearer = ""
  · simp [hempty, hrefused]
  · rw [if_neg hempty]
    simp only [Txn.alone_query]
    cases hfind : tokens.find NewToken.tokenHash s.apiTokens (env.hashSessionToken bearer) with
    | none => simp [hrefused]
    | some found =>
      obtain ⟨id, row⟩ := found
      by_cases hrevoked : row.revokedAt.isSome = true
      · simp only [hrevoked, if_true]
        constructor
        · rintro ⟨change, scopes, heq⟩
          exact absurd heq (hrefused change scopes)
        · rintro ⟨-, _, hrow, hlive, -⟩
          cases hrow
          rw [hrevoked] at hlive
          cases hlive
      · simp only [hrevoked, if_false, Bool.false_eq_true]
        have hexpired : (row.expiresAt.any fun expiresAt => decide (expiresAt < now)) = true ↔
            ∃ expiresAt, row.expiresAt = some expiresAt ∧ expiresAt < now := by
          cases row.expiresAt <;> simp
        split
        · next hany =>
          obtain ⟨expiresAt, hsome, hlt⟩ := hexpired.1 hany
          constructor
          · rintro ⟨change, scopes, heq⟩
            exact absurd heq (hrefused change scopes)
          · rintro ⟨-, _, hrow, -, hlate⟩
            cases hrow
            exact absurd hlt (Nat.not_lt.2 (hlate expiresAt hsome))
        · next hany =>
          constructor
          · rintro ⟨change, scopes, heq⟩
            cases heq
            refine ⟨hempty, row, rfl, Bool.eq_false_iff.2 hrevoked, fun expiresAt hsome => ?_⟩
            exact Nat.not_lt.1 fun hlt => hany (hexpired.2 ⟨expiresAt, hsome, hlt⟩)
          · rintro ⟨-, _, hrow, -, -⟩
            cases hrow
            exact ⟨_, _, rfl⟩

/-- The session that `require_login` finds decides, with the account of its user. -/
theorem admitsCookie_iff {cookie : String} {now : Time} {userId : Id} :
    AdmitsCookie env s cookie now userId ↔ cookie ≠ "" ∧
      (∃ sessionId row, sessions.find NewSession.tokenHash s.userSessions
          (env.hashSessionToken cookie) = some (sessionId, row) ∧
        row.revokedAt.isSome = false ∧ now ≤ row.expiresAt ∧ row.userId = userId) ∧
      ∃ user, s.accounts.users[userId]? = some user ∧ user.status = .active := by
  have hrefused : ∀ message, (redirectToLogin message).alone s ≠
      (Change.nothing, Answer.viewed userId) := by
    intro message heq
    cases heq
  unfold AdmitsCookie view requireLogin
  by_cases hempty : cookie = ""
  · simp [hempty, hrefused]
  · rw [if_neg hempty]
    simp only [Txn.alone_query]
    cases hfind : sessions.find NewSession.tokenHash s.userSessions
      (env.hashSessionToken cookie) with
    | none => simp [hrefused]
    | some found =>
      obtain ⟨sessionId, row⟩ := found
      have hfound : (∃ sessionId' row', some (sessionId, row) = some (sessionId', row') ∧
          row'.revokedAt.isSome = false ∧ now ≤ row'.expiresAt ∧ row'.userId = userId) ↔
          row.revokedAt.isSome = false ∧ now ≤ row.expiresAt ∧ row.userId = userId := by
        constructor
        · rintro ⟨_, _, heq, hrow⟩
          cases heq
          exact hrow
        · exact fun hrow => ⟨_, _, rfl, hrow⟩
      rw [hfound]
      simp only
      split
      · next hrevoked => simp [hrefused, hrevoked]
      · next hrevoked =>
        split
        · next hexpired =>
          have hnot : ¬ now ≤ row.expiresAt := Nat.not_le.2 hexpired
          simp [hrefused, hnot]
        · next hexpired =>
          have hle : now ≤ row.expiresAt := Nat.not_lt.1 hexpired
          rw [Txn.alone_query, Bool.eq_false_iff.2 hrevoked]
          unfold Users.requireActive
          by_cases huser : row.userId = userId
          · subst huser
            cases hget : s.accounts.users[row.userId]? with
            | none => simp [hrefused]
            | some user =>
              cases hstatus : user.status with
              | active => simp [hempty, hle, hstatus, answer]
              | pending => simp [hrefused, hstatus]
              | disabled => simp [hrefused, hstatus]
          · -- the answer is about the user of the session
            simp only [huser, and_false, false_and, iff_false]
            intro heq
            split at heq
            · exact hrefused _ heq
            · split at heq
              · rw [answer, Txn.alone_finish, Prod.mk.injEq, Answer.viewed.injEq] at heq
                exact huser heq.2
              · exact hrefused _ heq
              · exact hrefused _ heq

/-! ## A verification that overlaps a revocation -/

/-- An environment in which a hash can be told apart from its token. -/
def sampleEnvironment : Environment where
  hashSessionToken token := "#" ++ token
  lower := id
  verifyPassword _ password := password = "secret"
  sessionTtl := 100

/-- The accounts of an administrator. -/
def sampleAccounts : Accounts where
  users := (∅ : Table User).insert 1 { email := "admin@example.com", role := .admin }
  people := ∅
  externalIdentities := ∅
  oidcRoleMappings := ∅
  auditEvents := []
  actorStrings _ := ∅

/-- The administrator signs in and creates a token. -/
def creation : List (Server.Label Nat Call) :=
  [.start 0 (.login "admin@example.com" "secret" 10 "cookie" 0), .statement 0, .statement 0,
    .start 0 (.createApiToken "cookie" 1 "agent" (some 50) 20 "mgrc_1"), .statement 0, .statement 0,
    .statement 0]

/-- A verification has seen the token when it is revoked, and commits afterwards. -/
def overlap : List (Server.Label Nat Call) :=
  creation ++ [.start 1 (.verifyApiToken "mgrc_1" 2), .statement 1,
    .start 0 (.revokeApiToken "cookie" 3 20), .statement 0, .statement 0, .statement 0,
    .statement 0, .statement 1]

/-- What a journal and the state that it leads to say of the tokens, the sessions and the
    administrator. -/
structure Observed where
  tokenWrites : List (RowWrite NewToken)
  sessionWrites : List (RowWrite NewSession)
  status : Option Users.UserStatus
  deriving DecidableEq

/-- What is observed after a schedule. -/
def observe (ls : List (Server.Label Nat Call)) : Option Observed :=
  (Run.exec (step sampleEnvironment) (.initial sampleAccounts) ls).map fun t => {
    tokenWrites := t.journal.map Change.tokenWrite
    sessionWrites := t.journal.map Change.sessionWrite
    status := t.server.committed.accounts.users[1]?.map User.status }

theorem observe_creation : observe creation = some {
    tokenWrites := [.other, .inserted 20 ⟨"agent", "#mgrc_1", 1, 1, some 50⟩]
    sessionWrites := [.inserted 10 ⟨1, "#cookie", 0, 100⟩, .other]
    status := some .active } := by
  decide +kernel

theorem observe_overlap : observe overlap = some {
    tokenWrites := [.other, .inserted 20 ⟨"agent", "#mgrc_1", 1, 1, some 50⟩, .revoked 20, .other]
    sessionWrites := [.inserted 10 ⟨1, "#cookie", 0, 100⟩, .other, .other, .other]
    status := some .active } := by
  decide +kernel

/-- A schedule that is observed leads to a state that a run reaches. -/
theorem exists_of_observe {ls : List (Server.Label Nat Call)} {observed : Observed}
    (h : observe ls = some observed) :
    ∃ t : State Nat,
      Run (step sampleEnvironment) (fun _ _ => True) (.initial sampleAccounts) t ∧
      t.journal.map Change.tokenWrite = observed.tokenWrites ∧
      t.journal.map Change.sessionWrite = observed.sessionWrites ∧
      t.server.committed.accounts.users[1]?.map User.status = observed.status := by
  obtain ⟨t, ht, rfl⟩ := Option.map_eq_some_iff.1 h
  exact ⟨t, Run.of_exec_true _ ht, rfl, rfl, rfl⟩

/-! ## Every interleaving -/

/-- A bearer is authenticated by an API token exactly if the token has been created with the
    bearer's hash, has not been revoked since and has not expired. -/
theorem api_token_accepted_iff {ok : State ι → Server.Label ι Call → Prop} {t : State ι}
    (h : Run (step env) ok (.initial accounts) t) (bearer : String) (now : Time) (tokenId : Id) :
    AcceptsBearer env t.server.committed bearer now tokenId ↔
      bearer ≠ "" ∧ (∃ new event, .createToken tokenId new event ∈ t.journal ∧
          new.tokenHash = env.hashSessionToken bearer ∧
          ∀ expiresAt, new.expiresAt = some expiresAt → now ≤ expiresAt) ∧
        ∀ revokedAt event, .revokeToken tokenId revokedAt event ∉ t.journal := by
  have hinv := (inv_of_run h).tokens
  rw [acceptsBearer_iff]
  refine and_congr_right fun _ => ?_
  constructor
  · rintro ⟨row, hfind, hlive, hexpiry⟩
    obtain ⟨hrow, hkey⟩ := hinv.unique.find_iff.1 hfind
    obtain ⟨hinserted, hrevoked⟩ := hinv.usable_iff.1 ⟨row, hkey ▸ hfind, rfl, hlive⟩
    obtain ⟨event, hmem⟩ := mem_tokenWrite_inserted.1 hinserted
    refine ⟨⟨_, event, hmem, hkey, hexpiry⟩, fun revokedAt event' hmem' => ?_⟩
    exact hrevoked (mem_tokenWrite_revoked.2 ⟨revokedAt, event', hmem'⟩)
  · rintro ⟨⟨new, event, hmem, hkey, hexpiry⟩, hnone⟩
    have hinserted := mem_tokenWrite_inserted.2 ⟨event, hmem⟩
    have hrevoked : .revoked tokenId ∉ t.journal.map Change.tokenWrite := fun hmem' => by
      obtain ⟨revokedAt, event', hmem'⟩ := mem_tokenWrite_revoked.1 hmem'
      exact hnone revokedAt event' hmem'
    obtain ⟨row, hfind, rfl, hlive⟩ := hinv.usable_iff.2 ⟨hinserted, hrevoked⟩
    exact ⟨row, hkey ▸ hfind, hlive, hexpiry⟩

/-- Before the revocation the token is accepted; afterwards it is not, although the commit of
    the overlapping verification comes last. -/
theorem api_token_accepted_iff_overlap :
    (∃ t : State Nat,
      Run (step sampleEnvironment) (fun _ _ => True) (.initial sampleAccounts) t ∧
        AcceptsBearer sampleEnvironment t.server.committed "mgrc_1" 2 20) ∧
    ∃ t : State Nat,
      Run (step sampleEnvironment) (fun _ _ => True) (.initial sampleAccounts) t ∧
        t.journal.length = 4 ∧
        ¬ AcceptsBearer sampleEnvironment t.server.committed "mgrc_1" 4 20 := by
  constructor
  · obtain ⟨t, hrun, htokens, -⟩ := exists_of_observe observe_creation
    have hinserted : .inserted 20 ⟨"agent", "#mgrc_1", 1, 1, some 50⟩ ∈
        t.journal.map Change.tokenWrite := by
      rw [htokens]
      decide
    obtain ⟨event, hmem⟩ := mem_tokenWrite_inserted.1 hinserted
    refine ⟨t, hrun, (api_token_accepted_iff hrun "mgrc_1" 2 20).2
      ⟨by decide, ⟨_, event, hmem, by decide, fun expiresAt hexpiry => ?_⟩,
        fun revokedAt event hrevoked => ?_⟩⟩
    · obtain rfl := Option.some.inj hexpiry
      decide
    · have hwrite := mem_tokenWrite_revoked.2 ⟨revokedAt, event, hrevoked⟩
      rw [htokens] at hwrite
      exact absurd hwrite (by decide)
  · obtain ⟨t, hrun, htokens, -⟩ := exists_of_observe observe_overlap
    have hrevoked : .revoked 20 ∈ t.journal.map Change.tokenWrite := by
      rw [htokens]
      decide
    obtain ⟨revokedAt, event, hmem⟩ := mem_tokenWrite_revoked.1 hrevoked
    refine ⟨t, hrun, ?_, fun haccepted => ?_⟩
    · rw [← List.length_map (f := Change.tokenWrite), htokens]
      rfl
    · exact ((api_token_accepted_iff hrun "mgrc_1" 4 20).1 haccepted).2.2 revokedAt event hmem

/-- A cookie admits a user exactly if a sign-in of the user has started a session with the
    cookie's hash, the session has not been ended by a logout and has not expired, and the
    account is active now, whatever it was when the session started. -/
theorem session_admitted_iff {ok : State ι → Server.Label ι Call → Prop} {t : State ι}
    (h : Run (step env) ok (.initial accounts) t) (cookie : String) (now : Time) (userId : Id) :
    AdmitsCookie env t.server.committed cookie now userId ↔
      cookie ≠ "" ∧ (∃ sessionId new change,
          .accounts change (some (sessionId, new)) ∈ t.journal ∧ new.userId = userId ∧
          new.tokenHash = env.hashSessionToken cookie ∧ now ≤ new.expiresAt ∧
          ∀ revokedAt event, .signOut sessionId revokedAt event ∉ t.journal) ∧
        ∃ user, t.server.committed.accounts.users[userId]? = some user ∧ user.status = .active := by
  have hinv := (inv_of_run h).sessions
  rw [admitsCookie_iff]
  refine and_congr_right fun _ => and_congr_left fun _ => exists_congr fun sessionId => ?_
  constructor
  · rintro ⟨row, hfind, hlive, hexpiry, huser⟩
    obtain ⟨hrow, hkey⟩ := hinv.unique.find_iff.1 hfind
    obtain ⟨hinserted, hrevoked⟩ := hinv.usable_iff.1 ⟨row, hkey ▸ hfind, rfl, hlive⟩
    obtain ⟨change, hmem⟩ := mem_sessionWrite_inserted.1 hinserted
    refine ⟨_, change, hmem, huser, hkey, hexpiry, fun revokedAt event hmem' => ?_⟩
    exact hrevoked (mem_sessionWrite_revoked.2 ⟨revokedAt, event, hmem'⟩)
  · rintro ⟨new, change, hmem, huser, hkey, hexpiry, hnone⟩
    have hinserted := mem_sessionWrite_inserted.2 ⟨change, hmem⟩
    have hrevoked : .revoked sessionId ∉ t.journal.map Change.sessionWrite := fun hmem' => by
      obtain ⟨revokedAt, event, hmem'⟩ := mem_sessionWrite_revoked.1 hmem'
      exact hnone revokedAt event hmem'
    obtain ⟨row, hfind, rfl, hlive⟩ := hinv.usable_iff.2 ⟨hinserted, hrevoked⟩
    exact ⟨row, hkey ▸ hfind, hlive, hexpiry, huser⟩

/-- The session of the administrator admits until it expires. -/
theorem session_admitted_iff_creation :
    ∃ t : State Nat,
      Run (step sampleEnvironment) (fun _ _ => True) (.initial sampleAccounts) t ∧
        AdmitsCookie sampleEnvironment t.server.committed "cookie" 100 1 ∧
        ¬ AdmitsCookie sampleEnvironment t.server.committed "cookie" 101 1 := by
  obtain ⟨t, hrun, -, hsessions, hstatus⟩ := exists_of_observe observe_creation
  have hinserted : .inserted 10 ⟨1, "#cookie", 0, 100⟩ ∈ t.journal.map Change.sessionWrite := by
    rw [hsessions]
    decide
  obtain ⟨change, hmem⟩ := mem_sessionWrite_inserted.1 hinserted
  obtain ⟨user, huser, hactive⟩ := Option.map_eq_some_iff.1 hstatus
  refine ⟨t, hrun, (session_admitted_iff hrun "cookie" 100 1).2 ⟨by decide,
    ⟨10, _, change, hmem, rfl, by decide, by decide, fun revokedAt event hout => ?_⟩,
    user, huser, hactive⟩, fun hadmitted => ?_⟩
  · have hwrite := mem_sessionWrite_revoked.2 ⟨revokedAt, event, hout⟩
    rw [hsessions] at hwrite
    exact absurd hwrite (by decide)
  · obtain ⟨-, ⟨sessionId, new, change', hmem', -, -, hexpiry, -⟩, -⟩ :=
      (session_admitted_iff hrun "cookie" 101 1).1 hadmitted
    have hwrite := mem_sessionWrite_inserted.2 ⟨change', hmem'⟩
    rw [hsessions] at hwrite
    -- the only session that has been started expires before
    simp only [List.mem_cons, RowWrite.inserted.injEq, reduceCtorEq, List.not_mem_nil,
      or_false] at hwrite
    obtain ⟨-, rfl⟩ := hwrite
    exact absurd hexpiry (by decide)

end MiniGrc.Access
