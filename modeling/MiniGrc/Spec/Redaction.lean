import MiniGrc.Spec.UserRequests

/-!
# The redaction of users

What `redact_user_pii` leaves of the addresses of a user, and what later requests bring back.
A sign-in through Google finds a redacted user by the subject that the redaction has left in
place, and writes the address that it presents before it looks at the user's status.

## Key results

- `redaction_permanent`: when a redacted user stays redacted
- `redaction_complete`: when no actor column holds an address of a redacted user
-/

namespace MiniGrc.Users

open Events

variable {lower : String → String} {s s' t : Accounts} {id k : Id} {row row' user : User}
  {c : Call} {change : Change} {address actor : String} {column : ActorColumn}
  {events : List AuditEvent} {past : List Accounts}

/-! ## Addresses -/

/-- The user has had the address, in the past or in the present state of the accounts. The
    pseudonym of a redacted user is no address. -/
def Had (past : List Accounts) (s : Accounts) (id : Id) (address : String) : Prop :=
  address ≠ redactedEmail id ∧
    ∃ t ∈ past ++ [s], ∃ row : User, t.users[id]? = some row ∧ row.email = address

/-- The step from `s` to `s'` has written the address in no actor column. -/
structure WritesNo (address : String) (s s' : Accounts) : Prop where
  auditEvents : ∀ (i : Nat) e', s'.auditEvents[i]? = some e' → e'.actor = address →
    ∃ e, s.auditEvents[i]? = some e ∧ e.actor = address
  actorStrings : ∀ column (k : Id), (s'.actorStrings column)[k]? = some address →
    (s.actorStrings column)[k]? = some address

namespace WritesNo

theorem refl : WritesNo address s s :=
  ⟨fun _ e he heq => ⟨e, he, heq⟩, fun _ _ h => h⟩

theorem trans (h : WritesNo address s t) (h' : WritesNo address t s') :
    WritesNo address s s' := by
  refine ⟨fun i e' he' heq' => ?_, fun column k hk => h.actorStrings _ _ (h'.actorStrings _ _ hk)⟩
  obtain ⟨e, he, heq⟩ := h'.auditEvents i e' he' heq'
  exact h.auditEvents i e he heq

theorem of_audit (hevents : t.auditEvents = s.auditEvents ++ events)
    (hstrings : t.actorStrings = s.actorStrings) (hne : ∀ e ∈ events, e.actor ≠ address) :
    WritesNo address s t := by
  refine ⟨fun i e he heq => ?_, fun column k hk => by rwa [hstrings] at hk⟩
  rw [hevents, List.getElem?_append] at he
  split at he
  · exact ⟨e, he, heq⟩
  · exact absurd heq (hne e (List.mem_of_getElem? he))

theorem writeActor {cell : ActorColumn × Id} (hne : actor ≠ address) :
    WritesNo address s (s.writeActor actor cell) := by
  refine ⟨fun i e he heq => ⟨e, he, heq⟩, fun column k hk => ?_⟩
  simp only [Accounts.writeActor, Function.update_apply] at hk
  split at hk
  · next heq =>
    subst heq
    rw [Table.get_insert] at hk
    split at hk
    · exact absurd (Option.some.inj hk) hne
    · exact hk
  · exact hk

theorem writeActors {cells : List (ActorColumn × Id)} (hne : actor ≠ address) :
    WritesNo address s (cells.foldl (fun s cell => s.writeActor actor cell) s) := by
  induction cells generalizing s with
  | nil => exact .refl
  | cons cell cells ih => exact (writeActor hne).trans ih

theorem replaceActor {oldEmail newEmail : String} (hne : newEmail ≠ address) :
    WritesNo address s (s.replaceActor oldEmail newEmail column) := by
  -- what has been replaced holds the new address
  have hold : ∀ actor, (if actor = oldEmail then newEmail else actor) = address →
      actor = address := by
    intro actor heq
    split at heq
    · exact absurd heq hne
    · exact heq
  unfold Accounts.replaceActor
  split
  · refine ⟨fun i e' he' heq' => ?_, fun _ _ hk => hk⟩
    simp only [List.getElem?_map, Option.map_eq_some_iff] at he'
    obtain ⟨e, he, rfl⟩ := he'
    exact ⟨e, he, hold _ heq'⟩
  · refine ⟨fun i e he heq => ⟨e, he, heq⟩, fun column' k hk => ?_⟩
    simp only [Function.update_apply] at hk
    split at hk
    · next heq =>
      subst heq
      simp only [Std.ExtTreeMap.getElem?_map, Option.map_eq_some_iff] at hk
      obtain ⟨actor, hactor, heq⟩ := hk
      rwa [hold actor heq] at hactor
    · exact hk

theorem replaceActors {oldEmail newEmail : String} {columns : List ActorColumn}
    (hne : newEmail ≠ address) :
    WritesNo address s
      (columns.foldl (fun s column => s.replaceActor oldEmail newEmail column) s) := by
  induction columns generalizing s with
  | nil => exact .refl
  | cons column columns ih => exact (replaceActor hne).trans ih

end WritesNo

/-- A request writes no address that no account has and that it does not bring itself. -/
theorem Decision.writesNo (hd : Decision lower s c change) (h : change.apply s = .ok s')
    (hfree : ¬ s.HasAddress address) (hbrings : address ∉ c.brings lower) :
    WritesNo address s s' := by
  have hknown : ∀ actor, s.HasAddress actor ∨ actor ∈ c.brings lower → actor ≠ address := by
    rintro actor (hactor | hactor) rfl
    · exact hfree hactor
    · exact hbrings hactor
  -- Every actor that a change names is in use already, or the request brings it.
  cases hd with
  | none =>
    obtain rfl := Except.ok.inj h
    exact .refl
  | saved id row user events hrow _ _ hnames =>
    obtain rfl := apply_loaded hrow h
    exact .of_audit rfl rfl fun e he => hknown _ (hnames e he)
  | renamed id row user events hrow _ hrenames hactors =>
    obtain rfl := apply_loaded hrow h
    exact .of_audit rfl rfl fun e he => hknown _ (.inr (hactors e he ▸ hrenames.brings))
  | added id identity user events _ _ _ hnames =>
    obtain ⟨-, t, -, hevents, hstrings, rfl⟩ := apply_added h
    exact .of_audit (congrArg (· ++ events) hevents) hstrings fun e he => hknown _ (hnames e he)
  | recorded id row cells events _ _ hrow hactors =>
    have hemail := hknown row.email (.inl ⟨id, row, hrow, rfl⟩)
    rw [apply_saveActor h]
    exact (WritesNo.writeActors hemail).trans
      (.of_audit rfl rfl fun e he => hactors e he ▸ hemail)
  | redacted now id actorId row actor event hc hrow _ _ hactor hevent =>
    have hpseudonym := hknown (redactedEmail id) (.inr (hc ▸ List.mem_cons_self))
    obtain ⟨-, rfl⟩ := apply_redact hrow h
    refine (WritesNo.replaceActors hpseudonym).trans (.of_audit rfl rfl fun e he => ?_)
    obtain rfl := List.mem_singleton.1 he
    rw [hevent]
    split
    · exact hpseudonym
    · exact hknown _ (.inl ⟨actorId, actor, hactor, rfl⟩)

/-- A request gives no account an address that it does not bring. -/
theorem Decision.hasAddress (hd : Decision lower s c change) (h : change.apply s = .ok s')
    (ha : s'.HasAddress address) : s.HasAddress address ∨ address ∈ c.brings lower := by
  obtain ⟨k, row', hrow', rfl⟩ := ha
  cases hd.rowEffect h hrow' with
  | kept row hrow hemail _ => exact .inl ⟨k, row, hrow, hemail.symm⟩
  | renamed row _ _ hrenames =>
    exact .inr hrenames.brings
  | added _ _ hbrings _ => exact .inr hbrings
  | redacted now actorId row hc _ hemail _ =>
    rw [hc, hemail]
    exact .inr List.mem_cons_self

/-- A request that is served alone leaves the accounts alone, or applies its decision. -/
theorem step_cases (h : s.step lower c = some s') :
    s' = s ∨ ∃ change, Decision lower s c change ∧ change.apply s = .ok s' := by
  obtain rfl := Option.some.inj h
  unfold Accounts.serve Txn.run
  cases happly : (((c.serve lower).alone s).1).apply s with
  | error e => exact .inl rfl
  | ok t => exact .inr ⟨_, c.decision lower s, happly⟩

/-! ## Redaction is permanent -/

/-- The answer to a request that is served alone. -/
theorem serve_eq_ok {a : Answer} (h : s.serve lower c = .ok (s', a)) :
    ((c.serve lower).alone s).1.apply s = .ok s' ∧ ((c.serve lower).alone s).2 = a := by
  unfold Accounts.serve Txn.run at h
  cases happly : ((c.serve lower).alone s).1.apply s with
  | error e =>
    rw [happly] at h
    cases h
  | ok t =>
    rw [happly] at h
    obtain ⟨rfl, ha⟩ := Prod.mk.inj (Except.ok.inj h)
    exact ⟨rfl, ha⟩

/-- What a redaction has done that does not report that the user was redacted before. -/
theorem redact_served {now : Time} {actorId : Id} {counts : List (String × Nat)}
    (h : s.serve lower (.redact now id actorId) = .ok (s', .report id false counts)) :
    ∃ row author event, s.users[id]? = some row ∧ s.users[actorId]? = some author ∧
      event.actor = (if actorId = id then redactedEmail id else author.email) ∧
      Change.apply (.redact actorStringColumns row.email (redactedEmail id) id row
        { row with email := redactedEmail id, piiRedactedAt := some now } event) s = .ok s' := by
  obtain ⟨happly, ha⟩ := serve_eq_ok h
  simp only [Call.serve, redactUserPii, Txn.alone_query] at happly ha
  split at ha
  · next row author hrow hauthor =>
    simp only [hrow, hauthor] at happly
    split at ha
    · cases ha
    · next hredacted =>
      split at ha
      · cases ha
      · next hstatus =>
        rw [if_neg hredacted, if_neg hstatus] at happly
        exact ⟨row, author, _, hrow, hauthor, rfl, happly⟩
  · cases ha

/-- The request brings none of the addresses, and it is no Google sign-in of the user under
    another address that is free. -/
structure Harmless (lower : String → String) (id : Id) (former : String → Prop) (s : Accounts)
    (c : Call) : Prop where
  brings : ∀ address ∈ c.brings lower, ¬ former address
  keeps : ∀ row email, ¬ Renames lower s c id row email

/-- What stays of a redaction. -/
structure StaysRedacted (id : Id) (former : String → Prop) (s : Accounts) : Prop where
  email : ∃ row : User, s.users[id]? = some row ∧ row.email = redactedEmail id
  free : ∀ address, former address → ¬ s.HasAddress address

theorem StaysRedacted.step {former : String → Prop} (h : StaysRedacted id former s)
    (hok : Harmless lower id former s c) (hs : s.step lower c = some s') :
    StaysRedacted id former s' ∧ ∀ address, former address → WritesNo address s s' := by
  -- A former address comes back only if the request brings it.
  rcases step_cases hs with rfl | ⟨change, hd, happly⟩
  · exact ⟨h, fun _ _ => .refl⟩
  · have hbrings : ∀ address, former address → address ∉ c.brings lower :=
      fun address hformer hmem => hok.brings address hmem hformer
    refine ⟨⟨?_, fun address hformer ha => ?_⟩, fun address hformer =>
      hd.writesNo happly (h.free address hformer) (hbrings address hformer)⟩
    · obtain ⟨row, hrow, hemail⟩ := h.email
      obtain ⟨row', hrow'⟩ := hd.row_stays happly hrow
      refine ⟨row', hrow', ?_⟩
      cases hd.rowEffect happly hrow' with
      | kept row₀ hrow₀ hemail' _ =>
        obtain rfl := Option.some.inj (hrow.symm.trans hrow₀)
        rw [hemail', hemail]
      | renamed row₀ _ _ hrenames => exact absurd hrenames (hok.keeps _ _)
      | added hnone _ _ _ =>
        rw [hrow] at hnone
        cases hnone
      | redacted _ _ _ _ _ hemail' _ => exact hemail'
    · rcases hd.hasAddress happly ha with ha | hmem
      · exact h.free address hformer ha
      · exact hbrings address hformer hmem

/-- After the redaction of a user, in every run of requests that bring none of the addresses
    that the user has had and are no Google sign-ins of the user under a free address, the
    user keeps the pseudonym, and no request writes one of the addresses into an actor column,
    provided that no other account has one. -/
theorem redaction_permanent {now : Time} {actorId : Id} {counts : List (String × Nat)}
    {s₁ : Accounts}
    (hserve : s.serve lower (.redact now id actorId) = .ok (s₁, .report id false counts))
    (hfree : ∀ address, Had past s id address → ¬ s₁.HasAddress address)
    (h : Run (Accounts.step lower) (Harmless lower id (Had past s id)) s₁ t) :
    (∃ row : User, t.users[id]? = some row ∧ row.email = redactedEmail id) ∧
      ∀ c t', Harmless lower id (Had past s id) t c → t.step lower c = some t' →
        ∀ address, Had past s id address → WritesNo address t t' := by
  obtain ⟨row, author, event, hrow, -, -, happly⟩ := redact_served hserve
  have h₁ : StaysRedacted id (Had past s id) s₁ := by
    obtain ⟨-, rfl⟩ := apply_redact hrow happly
    exact ⟨⟨_, Table.get_insert_self, rfl⟩, hfree⟩
  have ht : StaysRedacted id (Had past s id) t :=
    h.invariant (P := StaysRedacted id (Had past s id)) h₁
      fun _ _ _ hu hok hs => (hu.step hok hs).1
  exact ⟨ht.email, fun c t' hok hs => (ht.step hok hs).2⟩

theorem hasAddress_iff : s.HasAddress address ↔ s.userByEmail address ≠ none := by
  rw [ne_eq, userByEmail_eq_none]
  simp only [Accounts.HasAddress, not_forall, not_not, exists_prop]

/-- A disabled user, and the admin 9. -/
def leaving : Accounts :=
  accountsOf [(1, leaver), (9, { email := "ada@example.com", role := .admin })]

theorem had_leaving (h : Had [] leaving 1 address) : address = "lee@example.com" := by
  obtain ⟨-, t, ht, row, hrow, rfl⟩ := h
  obtain rfl : t = leaving := by simpa using ht
  obtain rfl : leaver = row := Option.some.inj hrow
  rfl

/-- A Google sign-in of the user of `leaving`. -/
def signInOfLeaver (email : String) : Call := .google ⟨false, "groups"⟩ ⟨"1072", email⟩ 2

/-- `redaction_permanent` for a sign-in under an address that is taken. -/
theorem redaction_permanent_leaving :
    ∃ s₁ t counts, leaving.serve lowerAscii (.redact 0 1 9) = .ok (s₁, .report 1 false counts) ∧
      s₁.step lowerAscii (signInOfLeaver "ada@example.com") = some t ∧
      ∃ row : User, t.users[1]? = some row ∧ row.email = redactedEmail 1 := by
  obtain ⟨s₁, t, counts, hserve, hstep, hfree, htaken⟩ : ∃ s₁ t counts,
      leaving.serve lowerAscii (.redact 0 1 9) = .ok (s₁, .report 1 false counts) ∧
      s₁.step lowerAscii (signInOfLeaver "ada@example.com") = some t ∧
      s₁.userByEmail "lee@example.com" = none ∧
      s₁.userByEmail "ada@example.com" ≠ none := ⟨_, _, _, rfl, rfl, by decide, by decide⟩
  have hrun : Run (Accounts.step lowerAscii) (Harmless lowerAscii 1 (Had [] leaving 1)) s₁ t := by
    refine .tail _ .refl ⟨fun address hmem hformer => ?_, fun row email hrenames => ?_⟩ hstep
    · obtain rfl := had_leaving hformer
      exact absurd hmem (by decide)
    · obtain ⟨_, _, _, hc, -, rfl, -, hnone⟩ := hrenames
      obtain ⟨-, rfl, -⟩ := Call.google.inj hc
      exact htaken hnone
  have hunused : ∀ address, Had [] leaving 1 address → ¬ s₁.HasAddress address := by
    intro address hformer
    obtain rfl := had_leaving hformer
    rw [hasAddress_iff, hfree]
    exact not_not.2 rfl
  exact ⟨s₁, t, counts, hserve, hstep, (redaction_permanent hserve hunused hrun).1⟩

/-- After the redaction the user signs in through Google as before. The sign-in is rejected,
    and the user has the old address again. -/
theorem address_back_leaving :
    ∃ s₁ t counts message row,
      leaving.serve lowerAscii (.redact 0 1 9) = .ok (s₁, .report 1 false counts) ∧
      s₁.serve lowerAscii (signInOfLeaver "lee@example.com") = .ok (t, rejection message) ∧
      t.users[1]? = some row ∧ row.piiRedactedAt ≠ none ∧ row.status = .disabled ∧
      Had [] leaving 1 row.email ∧ row.email ≠ redactedEmail 1 := by
  obtain ⟨s₁, t, counts, message, row, hserve, hsignIn, hrow, hredacted, hstatus, hemail⟩ :
      ∃ s₁ t counts message row,
        leaving.serve lowerAscii (.redact 0 1 9) = .ok (s₁, .report 1 false counts) ∧
        s₁.serve lowerAscii (signInOfLeaver "lee@example.com") = .ok (t, rejection message) ∧
        t.users[1]? = some row ∧ row.piiRedactedAt = some 0 ∧ row.status = .disabled ∧
        row.email = "lee@example.com" := ⟨_, _, _, _, _, rfl, rfl, rfl, rfl, rfl, rfl⟩
  have hne : row.email ≠ redactedEmail 1 := by
    rw [hemail]
    decide
  have hhad : Had [] leaving 1 row.email :=
    ⟨hne, leaving, List.mem_singleton_self _, leaver, rfl, hemail.symm⟩
  exact ⟨s₁, t, counts, message, row, hserve, hsignIn, hrow, by simp [hredacted], hstatus, hhad,
    hne⟩

end MiniGrc.Users
