import MiniGrc.Spec.OidcLogin
import MiniGrc.App.DriveConnections

/-!
# Whose Drive is connected, and with which credential

In every state that interleaved requests lead to, the refresh token in use is the one that
Google has granted to the latest callback whose connection has not been disconnected; the
credential of a connection that has been disconnected is erased and never comes back. As
long as no state leaks, that token was granted in the browser of the administrator who has
begun to connect.

## Key results

- `inv_of_run`: the journal accounts for the connections
- `refresh_token_in_use`, `credential_kept_until_disconnected`
- `connected_as_consented`: the connect flow against an adversary
-/

namespace MiniGrc.DriveConnections

open Events
open Except (bind_eq_ok map_eq_ok mapError_eq_ok throwIf_eq_ok ofOption_eq_ok)
open OidcLogin (CallbackParams state_of_checkState truthy truthy_eq_some_iff)
open RedirectFlow (Acceptance AuthRequest Client Cookies GrantedByState Label StatesKept World
  cookies_of_start granted_of_state)
open Routes (Response)
open Users (AuditEvent)

variable {fernet : Fernet} {settings : Settings} {s s' : Tables} {journal : List Change}
  {change : Change} {id : Id} {row : GoogleDriveConnection}

/-! ## The active connection -/

/-- A connection is live when it is a row that is not revoked. -/
theorem mem_live {x : Id × GoogleDriveConnection} :
    (x ∈ s.connections.toList.filter fun x => x.2.revokedAt.isNone) ↔
      s.connections[x.1]? = some x.2 ∧ x.2.revokedAt = none := by
  rw [List.mem_filter, Option.isNone_iff_eq_none]
  exact and_congr_left fun _ => Std.ExtTreeMap.mem_toList_iff_getElem?_eq_some

/-- The active connection is a latest one of those that have not been revoked. -/
theorem activeConnection_eq_some (h : activeConnection s = some (id, row)) :
    (s.connections[id]? = some row ∧ row.revokedAt = none) ∧
      ∀ (id' : Id) row', s.connections[id']? = some row' → row'.revokedAt = none →
        row'.connectedAt ≤ row.connectedAt := by
  refine ⟨mem_live.1 (List.argmax_mem h), fun id' row' hrow' hlive => ?_⟩
  exact List.le_of_mem_argmax (a := (id', row')) (mem_live.2 ⟨hrow', hlive⟩) h

/-- There is no active connection when every row is revoked. -/
theorem activeConnection_eq_none :
    activeConnection s = none ↔
      ∀ (id : Id) row, s.connections[id]? = some row → row.revokedAt ≠ none := by
  rw [activeConnection, List.argmax_eq_none, List.eq_nil_iff_forall_not_mem]
  constructor
  · exact fun h id row hrow hlive => h (id, row) (mem_live.2 ⟨hrow, hlive⟩)
  · exact fun h x hx => h x.1 x.2 (mem_live.1 hx).1 (mem_live.1 hx).2

/-! ## What the journal says -/

/-- The columns of a connection that never change. -/
structure Connected where
  connectedByUserId : Id
  connectedAt : Time
  grantedScopes : String
  deriving DecidableEq

def NewConnection.connected (new : NewConnection) : Connected :=
  ⟨new.connectedByUserId, new.connectedAt, new.grantedScopes⟩

/-- Connections are revocable rows. -/
def connections : Revocable GoogleDriveConnection Connected where
  fixed row := ⟨row.connectedByUserId, row.connectedAt, row.grantedScopes⟩
  revoked row := row.revokedAt.isSome

/-- What a change does to the connections. -/
def Change.write : Change → RowWrite Connected
  | .connect id new _ => .inserted id new.connected
  | .disconnect id _ _ _ => .revoked id
  | _ => .other

/-- The journal has a disconnect of the connection. -/
def Disconnected (journal : List Change) (id : Id) : Prop :=
  ∃ now userId event, .disconnect id now userId event ∈ journal

/-- A connection is disconnected when the journal has its revocation. -/
theorem disconnected_iff : Disconnected journal id ↔ .revoked id ∈ journal.map Change.write := by
  rw [List.mem_map]
  constructor
  · exact fun ⟨_, _, _, hmem⟩ => ⟨_, hmem, rfl⟩
  · rintro ⟨change, hmem, hwrite⟩
    cases change with
    | disconnect id' now userId event =>
      cases hwrite
      exact ⟨now, userId, event, hmem⟩
    | _ => cases hwrite

/-- A connection is inserted when the journal has its consent. -/
theorem inserted_iff {columns : Connected} :
    .inserted id columns ∈ journal.map Change.write ↔
      ∃ new event, .connect id new event ∈ journal ∧ new.connected = columns := by
  rw [List.mem_map]
  constructor
  · rintro ⟨change, hmem, hwrite⟩
    cases change with
    | connect id' new event =>
      cases hwrite
      exact ⟨new, event, hmem, rfl⟩
    | _ => cases hwrite
  · rintro ⟨new, event, hmem, rfl⟩
    exact ⟨_, hmem, rfl⟩

/-- The credential that a connection holds: the one that it came with, until it is revoked. -/
def credential (new : NewConnection) (row : GoogleDriveConnection) : String :=
  if row.revokedAt.isSome then "" else new.encryptedRefreshToken

/-- The journal accounts for the connections and their credentials. -/
structure Inv (journal : List Change) (s : Tables) : Prop where
  rows : connections.Journaled s.connections (journal.map Change.write)
  credentials : ∀ id new event row, .connect id new event ∈ journal →
    s.connections[id]? = some row → row.encryptedRefreshToken = credential new row

/-- At the start there is no connection. -/
theorem inv_initial : Inv [] ⟨∅, []⟩ :=
  ⟨Revocable.journaled_empty, fun id new event row hmem => by cases hmem⟩

/-- A change keeps the table what the journal says. -/
theorem Inv.apply (h : Inv journal s) (happly : change.apply s = .ok s') :
    Inv (journal ++ [change]) s' := by
  cases change with
  | nothing =>
    cases happly
    constructor
    · rw [List.map_append]
      exact h.rows.other
    · exact fun id new event row hmem hrow =>
        h.credentials id new event row (by simpa using hmem) hrow
  | connect id new event =>
    simp only [Change.apply] at happly
    split at happly
    · cases happly
    · next hfresh =>
      cases happly
      constructor
      · rw [List.map_append]
        exact h.rows.insert hfresh rfl
      · intro id' new' event' row' hmem hrow'
        rcases (Table.get_insert_eq_some_iff hfresh).1 hrow' with hold | ⟨rfl, rfl⟩
        · rcases List.mem_append.1 hmem with hmem | hmem
          · exact h.credentials id' new' event' row' hmem hold
          · cases List.mem_singleton.1 hmem
            exact absurd (Std.ExtTreeMap.mem_iff_isSome_getElem?.2 (by simp [hold])) hfresh
        · rcases List.mem_append.1 hmem with hmem | hmem
          · -- the id would have been known
            obtain ⟨row, hrow, -⟩ := h.rows.complete _ _ (inserted_iff.2 ⟨new', event', hmem, rfl⟩)
            exact absurd (Std.ExtTreeMap.mem_iff_isSome_getElem?.2 (by simp [hrow])) hfresh
          · cases List.mem_singleton.1 hmem
            rfl
  | disconnect id now userId event =>
    simp only [Change.apply] at happly
    split at happly
    · cases happly
    · next row hrow =>
      cases happly
      constructor
      · rw [List.map_append]
        exact h.rows.revoke hrow rfl rfl
      · intro id' new' event' row' hmem hrow'
        have hmem : .connect id' new' event' ∈ journal := by simpa using hmem
        rcases Table.of_get_insert hrow' with ⟨rfl, rfl⟩ | hold
        · rfl
        · exact h.credentials id' new' event' row' hmem hold
  | sync id now =>
    simp only [Change.apply] at happly
    split at happly
    · cases happly
    · next row hrow =>
      cases happly
      constructor
      · rw [List.map_append]
        exact h.rows.update hrow rfl rfl
      · intro id' new' event' row' hmem hrow'
        have hmem : .connect id' new' event' ∈ journal := by simpa using hmem
        rcases Table.of_get_insert hrow' with ⟨rfl, rfl⟩ | hold
        · -- the connection may have been disconnected since it was used
          exact h.credentials _ new' event' row hmem hrow
        · exact h.credentials id' new' event' row' hmem hold

variable {ι : Type} [DecidableEq ι] {ok : State ι → Server.Label ι Call → Prop} {t : State ι}

/-- In every run the table is what the journal says. -/
theorem inv_of_run (h : Run (step fernet settings) ok .initial t) :
    Inv t.journal t.server.committed :=
  Server.journal_of_run h inv_initial fun _ _ _ _ hinv happly => hinv.apply happly

/-! ## Where a connection comes from -/

/-- What `exchange_code_for_tokens` gives is what has been granted. -/
theorem exchange_eq_ok {tokens : TokenResponse} {refreshToken scope : String}
    (h : exchangeCodeForTokens tokens = .ok (refreshToken, scope)) :
    ∃ granted, tokens = .payload granted ∧ granted.refreshToken = some refreshToken ∧
      granted.scope.getD "" = scope := by
  cases tokens with
  | failed => cases h
  | notJson => cases h
  | payload granted =>
    obtain ⟨value, hvalue, h⟩ := bind_eq_ok.1 h
    cases h
    exact ⟨granted, rfl, (truthy_eq_some_iff.1 (ofOption_eq_ok.1 hvalue)).1, rfl⟩

/-- The key is valid, and the text is its token. -/
theorem encrypt_eq_ok {plaintext key ciphertext : String} {random : Nat}
    (h : encrypt fernet plaintext key random = .ok ciphertext) :
    checkKey fernet key = .ok () ∧ ciphertext = fernet.encrypt key plaintext random := by
  obtain ⟨_, hkey, h⟩ := bind_eq_ok.1 h
  cases h
  exact ⟨hkey, rfl⟩

/-- The connection `id` as a callback makes it of what Google has granted for its code. -/
structure ConnectedBy (fernet : Fernet) (settings : Settings) (admin : Admin)
    (cookies : Cookies) (params : CallbackParams) (granted : Tokens) (fresh : Fresh)
    (refreshToken : String) (id : Id) (new : NewConnection) : Prop where
  state : cookies.state = some params.state
  code : params.code ≠ ""
  id : id = fresh.newId
  user : new.connectedByUserId = admin.id
  now : new.connectedAt = fresh.now
  token : granted.refreshToken = some refreshToken
  scope : new.grantedScopes = granted.scope.getD ""
  key : checkKey fernet settings.encryptionKey = .ok ()
  credential : new.encryptedRefreshToken =
    fernet.encrypt settings.encryptionKey refreshToken fresh.random

/-- What a callback changes. -/
theorem callbackChange_eq_ok {admin : Admin} {cookies : Cookies} {params : CallbackParams}
    {tokens : TokenResponse} {fresh : Fresh}
    (h : callbackChange fernet settings admin cookies params tokens fresh = .ok change) :
    ∃ id new event granted refreshToken, change = .connect id new event ∧
      tokens = .payload granted ∧
      ConnectedBy fernet settings admin cookies params granted fresh refreshToken id new := by
  simp only [callbackChange, requireConfigured, bind_eq_ok, throwIf_eq_ok, mapError_eq_ok,
    Prod.exists] at h
  obtain ⟨-, -, -, -, _, hstate, -, hcode, refreshToken, scope, hexchange, ciphertext, hencrypt,
    heq⟩ := h
  cases heq
  obtain ⟨granted, htokens, hrefresh, hscope⟩ := exchange_eq_ok hexchange
  obtain ⟨hkey, hcipher⟩ := encrypt_eq_ok hencrypt
  exact ⟨_, _, _, granted, refreshToken, rfl, htokens, state_of_checkState hstate, hcode, rfl,
    rfl, rfl, hrefresh, hscope.symm, hkey, hcipher⟩

/-- The request is a callback that makes the connection of the refresh token that it was
    granted. -/
def Call.Connects (fernet : Fernet) (settings : Settings) (call : Call) (id : Id)
    (new : NewConnection) (refreshToken : String) : Prop :=
  ∃ admin cookies params granted fresh,
    call = .callback admin cookies params (.payload granted) fresh ∧
      ConnectedBy fernet settings admin cookies params granted fresh refreshToken id new

/-- A connection is made by a callback. -/
def Call.Makes (fernet : Fernet) (settings : Settings) (call : Call) : Change → Prop
  | .connect id new _ => ∃ refreshToken, call.Connects fernet settings id new refreshToken
  | _ => True

/-- Every call makes the change it is for, or none. -/
theorem leaves_serve (call : Call) :
    (call.serve fernet settings).Leaves (call.Makes fernet settings) := by
  -- The callback connects, a disconnect revokes, and a use may refresh.
  cases call with
  | callback admin cookies params tokens fresh =>
    simp only [Call.serve, callback]
    split
    · trivial
    · next change hchange =>
      obtain ⟨id, new, event, granted, refreshToken, rfl, rfl, hnew⟩ :=
        callbackChange_eq_ok hchange
      exact ⟨refreshToken, admin, cookies, params, granted, fresh, rfl, hnew⟩
  | disconnect admin now =>
    intro s
    simp only
    split <;> trivial
  | use url refresh synced =>
    intro s
    simp only
    split
    · trivial
    · cases synced <;> trivial

/-- Every connection in the journal was made by a callback that has come in. -/
theorem allChanges_of_run (h : Run (step fernet settings) ok .initial t) :
    Server.AllChanges (Call.Makes fernet settings) t :=
  Server.AllChanges.of_run h (Server.allChanges_idle _) leaves_serve

/-- `decrypt` gives back what was encrypted. -/
def Fernet.RoundTrip (fernet : Fernet) : Prop :=
  ∀ key plaintext random, fernet.decrypt key (fernet.encrypt key plaintext random) = some plaintext

/-! ## A disconnect that overlaps -/

/-- A key that is valid, and a cipher that is none. -/
def sampleFernet : Fernet where
  validKey := fun key => key = "key"
  encrypt key plaintext _ := key ++ plaintext
  decrypt key ciphertext := some (.ofList (ciphertext.toList.drop key.length))

/-- The sample cipher decrypts what it encrypts. -/
theorem sampleFernet_roundTrip : sampleFernet.RoundTrip := by
  intro key plaintext random
  show some (String.ofList ((key ++ plaintext).toList.drop key.length)) = some plaintext
  rw [String.toList_append, ← String.length_toList, List.drop_left, String.ofList_toList]

def sampleSettings : Settings where
  googleDriveClientId := "client"
  googleDriveClientSecret := "secret"
  publicBaseUrl := "https://grc"
  encryptionKey := "key"
  googleWorkspaceDirectoryEnabled := false

/-- A callback that connects, as the connection `id`. -/
def sampleCallback (id : Id) (refreshToken : String) : Call :=
  .callback ⟨1, "admin@corp"⟩ { state := some "s" } { code := "c", state := "s" }
    (.payload ⟨some refreshToken, some driveScope⟩) ⟨id, id, 0⟩

/-- Two connections; the second one is disconnected while its use is under way. -/
def overlappingUse : List (Server.Label Nat Call) :=
  [.start 0 (sampleCallback 10 "first"), .statement 0,
    .start 0 (sampleCallback 20 "second"), .statement 0,
    .start 1 (.use "/policies" some (some 21)), .statement 1,
    .start 2 (.disconnect ⟨1, "admin@corp"⟩ 22), .statement 2, .statement 2,
    .statement 1]

/-- The changes that a schedule commits. -/
def commits (labels : List (Server.Label Nat Call)) : Option (List (RowWrite Connected)) :=
  (Run.exec (step sampleFernet sampleSettings) .initial labels).map fun t =>
    t.journal.map Change.write

/-- The sample run inserts two connections and revokes the second. -/
theorem commits_overlappingUse : commits overlappingUse = some
    [.inserted 10 ⟨1, 10, driveScope⟩, .inserted 20 ⟨1, 20, driveScope⟩, .revoked 20, .other] := by
  decide +kernel

/-- A run commits what its labels say. -/
theorem exists_of_commits {labels : List (Server.Label Nat Call)}
    {writes : List (RowWrite Connected)} (h : commits labels = some writes) :
    ∃ t : State Nat, Run (step sampleFernet sampleSettings) (fun _ _ => True) .initial t ∧
      t.journal.map Change.write = writes := by
  obtain ⟨t, ht, rfl⟩ := Option.map_eq_some_iff.1 h
  exact ⟨t, Run.of_exec_true _ ht, rfl⟩

/-! ## Every interleaving -/

/-- The credential stored is the token that Google granted. -/
theorem decrypt_credential (hfernet : fernet.RoundTrip) {call : Call} {refreshToken : String}
    {new : NewConnection} (h : call.Connects fernet settings id new refreshToken) :
    decrypt fernet new.encryptedRefreshToken settings.encryptionKey = .ok refreshToken := by
  obtain ⟨admin, cookies, params, granted, fresh, -, hnew⟩ := h
  rw [decrypt, hnew.key, Except.ok_bind, hnew.credential, hfernet]
  rfl

/-- A callback has made a connection that is not revoked, no disconnect of it has been committed,
    and its credential is the refresh token of that callback. -/
theorem exists_of_live (hfernet : fernet.RoundTrip)
    (h : Run (step fernet settings) ok .initial t)
    (hrow : t.server.committed.connections[id]? = some row) (hlive : row.revokedAt = none) :
    ∃ new event refreshToken, .connect id new event ∈ t.journal ∧ ¬Disconnected t.journal id ∧
      new.connected = connections.fixed row ∧
      (∃ call ∈ t.received, call.Connects fernet settings id new refreshToken) ∧
      decrypt fernet row.encryptedRefreshToken settings.encryptionKey = .ok refreshToken := by
  have hinv := inv_of_run h
  have hrevoked : connections.revoked row = false := by
    show row.revokedAt.isSome = false
    rw [hlive]
    rfl
  obtain ⟨hinserted, hnot⟩ := hinv.rows.live_iff.1 ⟨row, hrow, rfl, hrevoked⟩
  obtain ⟨new, event, hmem, hcolumns⟩ := inserted_iff.1 hinserted
  obtain ⟨call, hcall, refreshToken, hnew⟩ := (allChanges_of_run h).journal _ hmem
  refine ⟨new, event, refreshToken, hmem, mt disconnected_iff.1 hnot, hcolumns,
    ⟨call, hcall, hnew⟩, ?_⟩
  have hcredential := hinv.credentials id new event row hmem hrow
  rw [credential, hlive] at hcredential
  rw [hcredential]
  exact decrypt_credential hfernet hnew

/-- A connection that has been made and not disconnected has a row that is not revoked. -/
theorem live_of_not_disconnected (h : Run (step fernet settings) ok .initial t)
    {new : NewConnection} {event : AuditEvent} (hmem : .connect id new event ∈ t.journal)
    (hnot : ¬Disconnected t.journal id) :
    ∃ row, t.server.committed.connections[id]? = some row ∧ row.revokedAt = none ∧
      row.connectedAt = new.connectedAt := by
  obtain ⟨row, hrow, hcolumns, hlive⟩ := (inv_of_run h).rows.live_iff.2
    ⟨inserted_iff.2 ⟨new, event, hmem, rfl⟩, mt disconnected_iff.2 hnot⟩
  exact ⟨row, hrow, Option.not_isSome_iff_eq_none.1 (Bool.eq_false_iff.1 hlive),
    congrArg Connected.connectedAt hcolumns⟩

/-- The token in use is the active connection's. -/
theorem resolveRefreshToken_eq_ok {refreshToken : String} :
    resolveRefreshToken fernet settings s = .ok (id, refreshToken) ↔
      ∃ row, activeConnection s = some (id, row) ∧
        decrypt fernet row.encryptedRefreshToken settings.encryptionKey = .ok refreshToken := by
  simp only [resolveRefreshToken, bind_eq_ok, ofOption_eq_ok, mapError_eq_ok, Prod.exists]
  constructor
  · rintro ⟨_, row, hactive, _, hdecrypt, heq⟩
    cases heq
    exact ⟨row, hactive, hdecrypt⟩
  · rintro ⟨row, hactive, hdecrypt⟩
    exact ⟨id, row, hactive, refreshToken, hdecrypt, rfl⟩

/-- Whatever overlaps: the refresh token in use is the one that Google has granted to a callback
    of the run, whose state was that of its cookie and whose connection has not been
    disconnected, and to the latest of these; there is one as long as not every connection has
    been disconnected. -/
theorem refresh_token_in_use (hfernet : fernet.RoundTrip)
    (h : Run (step fernet settings) ok .initial t) :
    (∀ id refreshToken,
        resolveRefreshToken fernet settings t.server.committed = .ok (id, refreshToken) →
        ∃ new event, .connect id new event ∈ t.journal ∧ ¬Disconnected t.journal id ∧
          (∃ call ∈ t.received, call.Connects fernet settings id new refreshToken) ∧
          ∀ id' new' event', .connect id' new' event' ∈ t.journal →
            ¬Disconnected t.journal id' → new'.connectedAt ≤ new.connectedAt) ∧
      ((∃ id refreshToken,
        resolveRefreshToken fernet settings t.server.committed = .ok (id, refreshToken)) ↔
        ∃ id new event, .connect id new event ∈ t.journal ∧ ¬Disconnected t.journal id) := by
  have hused : ∀ id refreshToken,
      resolveRefreshToken fernet settings t.server.committed = .ok (id, refreshToken) →
      ∃ new event, .connect id new event ∈ t.journal ∧ ¬Disconnected t.journal id ∧
        (∃ call ∈ t.received, call.Connects fernet settings id new refreshToken) ∧
        ∀ id' new' event', .connect id' new' event' ∈ t.journal →
          ¬Disconnected t.journal id' → new'.connectedAt ≤ new.connectedAt := by
    intro id refreshToken hresolve
    obtain ⟨row, hactive, hdecrypt⟩ := resolveRefreshToken_eq_ok.1 hresolve
    obtain ⟨⟨hrow, hlive⟩, hlatest⟩ := activeConnection_eq_some hactive
    obtain ⟨new, event, refreshToken', hmem, hnot, hcolumns, hnew, hdecrypt'⟩ :=
      exists_of_live hfernet h hrow hlive
    rw [hdecrypt] at hdecrypt'
    cases hdecrypt'
    refine ⟨new, event, hmem, hnot, hnew, fun id' new' event' hmem' hnot' => ?_⟩
    obtain ⟨row', hrow', hlive', hat⟩ := live_of_not_disconnected h hmem' hnot'
    have hle := hlatest id' row' hrow' hlive'
    rw [hat] at hle
    exact hle.trans_eq (congrArg Connected.connectedAt hcolumns).symm
  refine ⟨hused, fun ⟨id, refreshToken, hresolve⟩ => ?_, fun ⟨id, new, event, hmem, hnot⟩ => ?_⟩
  · obtain ⟨new, event, hmem, hnot, -⟩ := hused id refreshToken hresolve
    exact ⟨id, new, event, hmem, hnot⟩
  · obtain ⟨row, hrow, hlive, -⟩ := live_of_not_disconnected h hmem hnot
    cases hactive : activeConnection t.server.committed with
    | none => exact absurd hlive (activeConnection_eq_none.1 hactive id row hrow)
    | some x =>
      obtain ⟨hrow', hlive'⟩ := (activeConnection_eq_some hactive).1
      obtain ⟨-, -, refreshToken, -, -, -, -, hdecrypt⟩ := exists_of_live hfernet h hrow' hlive'
      exact ⟨x.1, refreshToken, resolveRefreshToken_eq_ok.2 ⟨x.2, hactive, hdecrypt⟩⟩

/-- The second connection is in use until its disconnect; then the first one is again. -/
theorem refresh_token_in_use_overlappingUse :
    ∃ t : State Nat, Run (step sampleFernet sampleSettings) (fun _ _ => True) .initial t ∧
      Disconnected t.journal 20 ∧ ∃ refreshToken,
        resolveRefreshToken sampleFernet sampleSettings t.server.committed =
          .ok (10, refreshToken) ∧
        ∃ call ∈ t.received, ∃ new,
          call.Connects sampleFernet sampleSettings 10 new refreshToken := by
  obtain ⟨t, hrun, hwrites⟩ := exists_of_commits commits_overlappingUse
  have hgone : Disconnected t.journal 20 := by
    rw [disconnected_iff, hwrites]
    decide
  obtain ⟨hused, hexists⟩ := refresh_token_in_use sampleFernet_roundTrip hrun
  have hfirst : .inserted 10 ⟨1, 10, driveScope⟩ ∈ t.journal.map Change.write := by
    rw [hwrites]
    decide
  have hnot : ¬Disconnected t.journal 10 := by
    rw [disconnected_iff, hwrites]
    decide
  obtain ⟨new, event, hmem, -⟩ := inserted_iff.1 hfirst
  obtain ⟨id, refreshToken, hresolve⟩ := hexists.2 ⟨10, new, event, hmem, hnot⟩
  obtain ⟨new', event', hmem', hnot', ⟨call, hcall, hconnects⟩, -⟩ :=
    hused id refreshToken hresolve
  -- only the first of the two connections is left
  have hinserted := inserted_iff.2 ⟨new', event', hmem', rfl⟩
  rw [hwrites] at hinserted
  simp only [List.mem_cons, RowWrite.inserted.injEq, reduceCtorEq, List.not_mem_nil, or_false]
    at hinserted
  rcases hinserted with ⟨rfl, -⟩ | ⟨rfl, -⟩
  · exact ⟨t, hrun, hgone, refreshToken, hresolve, call, hcall, new', hconnects⟩
  · exact absurd hgone hnot'

/-- Every connection that has ever been made keeps its row with who made it, when and for which
    scopes; its credential is there until a disconnect is committed, and gone for good
    afterwards. -/
theorem credential_kept_until_disconnected (h : Run (step fernet settings) ok .initial t)
    {new : NewConnection} {event : AuditEvent} (hmem : .connect id new event ∈ t.journal) :
    ∃ row, t.server.committed.connections[id]? = some row ∧
      connections.fixed row = new.connected ∧
      (row.revokedAt.isSome ↔ Disconnected t.journal id) ∧
      (Disconnected t.journal id → row.encryptedRefreshToken = "") ∧
      (¬Disconnected t.journal id →
        row.encryptedRefreshToken = new.encryptedRefreshToken) := by
  have hinv := inv_of_run h
  obtain ⟨row, hrow, hcolumns⟩ := hinv.rows.complete id _ (inserted_iff.2 ⟨new, event, hmem, rfl⟩)
  have hrevoked : row.revokedAt.isSome ↔ Disconnected t.journal id :=
    (hinv.rows.revoked id row hrow).trans disconnected_iff.symm
  have hcredential := hinv.credentials id new event row hmem hrow
  refine ⟨row, hrow, hcolumns, hrevoked, fun hgone => ?_, fun hkept => ?_⟩
  · rw [hcredential, credential, if_pos (hrevoked.2 hgone)]
  · rw [hcredential, credential, if_neg (mt hrevoked.1 hkept)]

/-- The use that comes to its end after the disconnect does not bring the credential back. -/
theorem credential_kept_until_disconnected_overlappingUse :
    ∃ t : State Nat, Run (step sampleFernet sampleSettings) (fun _ _ => True) .initial t ∧
      t.journal.length = 4 ∧ ∃ row, t.server.committed.connections[20]? = some row ∧
        row.encryptedRefreshToken = "" ∧ row.connectedAt = 20 := by
  obtain ⟨t, hrun, hwrites⟩ := exists_of_commits commits_overlappingUse
  have hgone : Disconnected t.journal 20 := by
    rw [disconnected_iff, hwrites]
    decide
  have hinserted : .inserted 20 ⟨1, 20, driveScope⟩ ∈ t.journal.map Change.write := by
    rw [hwrites]
    decide
  obtain ⟨new, event, hmem, hcolumns⟩ := inserted_iff.1 hinserted
  obtain ⟨row, hrow, hfixed, -, herased, -⟩ := credential_kept_until_disconnected hrun hmem
  refine ⟨t, hrun, ?_, row, hrow, herased hgone, ?_⟩
  · rw [← List.length_map (f := Change.write), hwrites]
    rfl
  · rw [hcolumns] at hfixed
    exact congrArg Connected.connectedAt hfixed

/-! ## The connect flow against an adversary -/

/-- What `connect` does is the start of a flow: the browser gets its cookie, and is sent to
    Google with the state of the URL. -/
theorem connect_starts {β ε γ α : Type} [DecidableEq β] {client : Client ε γ α}
    {w w' : World β ε γ α} {b : β} {state : String} {url : AuthorizationUrl} {cookies : Cookies}
    (h : connect settings state = .ok (url, cookies))
    (hs : RedirectFlow.step client w (.start b ⟨url.state, none⟩) = some w') :
    w'.cookies b = cookies ∧ (b, ⟨url.state, none⟩) ∈ w'.requests := by
  obtain ⟨-, -, h⟩ := bind_eq_ok.1 h
  cases h
  exact cookies_of_start hs

/-- The callback refuses a state that is not its cookie's. -/
theorem driveClient_checksState : (driveClient fernet).ChecksState := by
  intro env cookies code state granted change h
  obtain ⟨_, _, _, granted', _, -, htokens, hnew⟩ :=
    callbackChange_eq_ok (Except.eq_ok_of_toOption h)
  refine ⟨hnew.state, ?_⟩
  cases granted with
  | some _ => rfl
  | none =>
    unfold Circumstances.tokens at htokens
    split at htokens <;> cases htokens

/-- What a callback finds, who connects as `id`. -/
def sampleCircumstances (id : Id) : Circumstances where
  settings := sampleSettings
  admin := ⟨1, "admin@corp"⟩
  reachable := true
  fresh := ⟨id, id, 0⟩

/-- The adversary sends the browser `true`, where the flow is under way, to the callback with a
    code for his own Drive; then the flow goes on. -/
def forgedConnection : List (Label Bool Circumstances Tokens) :=
  [.startAdversary ⟨"s'", none⟩,
    .grantAdversary ⟨"s'", none⟩ "c'" ⟨some "his", some driveScope⟩,
    .start true ⟨"s", none⟩,
    .callback (sampleCircumstances 10) true "c'" "s'",
    .grant true ⟨"s", none⟩ "c" ⟨some "ours", some driveScope⟩,
    .callback (sampleCircumstances 20) true "c" "s"]

/-- Where, with which codes and as what a schedule connects Drive, the last one first; no state
    leaks. -/
def connects (labels : List (Label Bool Circumstances Tokens)) :
    Option (List (Option Bool × String × RowWrite Connected)) :=
  (Run.exec (Run.guarded (RedirectFlow.step (driveClient sampleFernet)) StatesKept) World.initial
    labels).map fun w => w.accepted.map fun x => (x.party, x.code, x.result.write)

/-- The forged callback connects nobody but the browser that started. -/
theorem connects_forgedConnection :
    connects forgedConnection = some [(some true, "c", .inserted 20 ⟨1, 20, driveScope⟩)] := by
  decide +kernel

/-- As long as no state leaks, whatever callbacks the adversary sends an administrator's
    browser to, Drive is connected only with a refresh token that was granted in that browser,
    to a request that was begun there, by the administrator who is signed in at the callback. -/
theorem connected_as_consented {β : Type} [DecidableEq β]
    {w : World β Circumstances Tokens Change}
    (h : Run (RedirectFlow.step (driveClient fernet)) StatesKept World.initial w)
    {x : Acceptance β Circumstances Change} (hx : x ∈ w.accepted) {b : β}
    (hparty : x.party = some b) :
    ∃ g ∈ w.grants, g.code = x.code ∧ g.party = some b ∧
      (some b, g.request.state) ∈ w.secrets.drawn ∧
      ∃ cookies params id new event refreshToken, x.result = .connect id new event ∧
        ConnectedBy fernet x.env.settings x.env.admin cookies params g.content x.env.fresh
          refreshToken id new := by
  obtain ⟨g, hg, hcode, hgranted, cookies, state, hcallback⟩ :=
    granted_of_state driveClient_checksState h x hx
  rw [hparty] at hgranted
  obtain ⟨hown, hdrawn⟩ := hgranted
  obtain ⟨id, new, event, granted, refreshToken, hresult, htokens, hnew⟩ :=
    callbackChange_eq_ok (Except.eq_ok_of_toOption hcallback)
  obtain rfl : granted = g.content := by
    unfold Circumstances.tokens at htokens
    split at htokens
    · cases htokens
      rfl
    · cases htokens
  exact ⟨g, hg, hcode, hown, hdrawn, _, _, id, new, event, refreshToken, hresult, hnew⟩

/-- The browser connects its own Drive, in spite of the forged callback. -/
theorem connected_as_consented_forgedConnection :
    ∃ w : World Bool Circumstances Tokens Change,
      Run (RedirectFlow.step (driveClient sampleFernet)) StatesKept World.initial w ∧
        ∃ x ∈ w.accepted, x.party = some true ∧ x.code = "c" ∧
          ∃ g ∈ w.grants, g.party = some true ∧ g.code = "c" := by
  obtain ⟨w, hw, haccepted⟩ := Option.map_eq_some_iff.1 connects_forgedConnection
  have hrun := Run.of_exec_guarded _ hw
  have hmem : (some true, "c", RowWrite.inserted 20 ⟨1, 20, driveScope⟩) ∈
      w.accepted.map fun x => (x.party, x.code, x.result.write) := by
    rw [haccepted]
    exact List.mem_singleton.2 rfl
  obtain ⟨x, hx, heq⟩ := List.mem_map.1 hmem
  obtain ⟨hparty, heq⟩ := Prod.mk.inj heq
  obtain ⟨hxCode, -⟩ := Prod.mk.inj heq
  obtain ⟨g, hg, hcode, hown, -⟩ := connected_as_consented hrun hx hparty
  exact ⟨w, hrun, x, hx, hparty, hxCode, g, hg, hown, hcode.trans hxCode⟩

end MiniGrc.DriveConnections
