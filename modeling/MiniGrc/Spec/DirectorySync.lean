import MiniGrc.App.DirectorySync

/-!
# One person per address

A directory sync looks each address up among the committed rows, which do not have the people
that it has added itself. It updates the person of an address as often as the list has the
address, and adds a person for every entry of an address that nobody has.

## Key results

- `syncDirectoryUsers_held`: what the session holds back after the loop
- `foldlM_insertRow_eq_some`: when rows can be inserted, and the table that they give
- `syncDirectoryUsers_succeeds_iff`: the sync and its commit do what the list asks for exactly if
  every repeated address has its person and the columns hold what is asked for
-/

namespace MiniGrc.Connectors

open Users (normalizeEmail)

variable {lower : String → String} {newId : Nat → Id} {now : Time} {facts : Facts}
  {users : List DirectoryUser} {user : DirectoryUser} {people : Table Person} {p : Person}
  {email : String}

/-! ## Entries -/

/-- The normalized address of an entry. -/
def DirectoryUser.address (lower : String → String) (user : DirectoryUser) : String :=
  normalizeEmail lower user.primaryEmail

/-- The status that an entry asks for. -/
def DirectoryUser.status (user : DirectoryUser) : String :=
  if user.suspended || user.archived then "suspended" else "active"

/-- The person that is added for an entry. -/
def DirectoryUser.person (lower : String → String) (now : Time) (user : DirectoryUser) :
    Person where
  email := user.address lower
  displayName := .str user.displayName
  employmentStatus := user.status
  source := "google_workspace"
  externalId := .str user.externalId
  lastSyncedAt := some now

/-- The person that an entry is about, as the entry updates it. -/
def DirectoryUser.update (now : Time) (p : Person) (user : DirectoryUser) : Person :=
  { p with
    displayName := if user.displayName ≠ "" then .str user.displayName else p.displayName
    employmentStatus := user.status
    source := "google_workspace"
    externalId := .str user.externalId
    lastSyncedAt := some now }

/-- The entries of an address; blank addresses are skipped. -/
def entriesOf (lower : String → String) (users : List DirectoryUser) (email : String) :
    List DirectoryUser :=
  users.filter fun user => user.address lower = email ∧ email ≠ ""

/-- Nobody has the address of the entry. -/
def isNew (lower : String → String) (people : Table Person) (user : DirectoryUser) : Bool :=
  user.address lower ≠ "" ∧ ∀ x ∈ people.toList, x.2.email ≠ user.address lower

/-- An address has one person. -/
def UniqueEmails (people : Table Person) : Prop :=
  ∀ (k k' : Id) p p', people[k]? = some p → people[k']? = some p' → p.email = p'.email → k = k'

/-- A user listed last comes last among the entries of the address. -/
theorem entriesOf_append : entriesOf lower (users ++ [user]) email =
    entriesOf lower users email ++
      if user.address lower = email ∧ email ≠ "" then [user] else [] := by
  rw [entriesOf, List.filter_append]
  by_cases h : user.address lower = email ∧ email ≠ ""
  · rw [if_pos h, List.filter_cons_of_pos (by simpa using h)]
    rfl
  · rw [if_neg h, List.filter_cons_of_neg (by simpa using h)]
    rfl

/-! ## What the session holds back -/

/-- The person found is pending and has the address. -/
theorem personByEmail_eq_some {pending : Pending} {x : Id × Person}
    (h : pending.personByEmail email = some x) :
    pending.people[x.1]? = some x.2 ∧ x.2.email = email :=
  ⟨Std.ExtTreeMap.mem_toList_iff_getElem?_eq_some.1 (List.mem_of_find?_eq_some h),
    by simpa using List.find?_some h⟩

/-- Nobody is found exactly when nobody pending has the address. -/
theorem personByEmail_eq_none {pending : Pending} :
    pending.personByEmail email = none ↔
      ∀ (k : Id) p, pending.people[k]? = some p → p.email ≠ email := by
  rw [Pending.personByEmail, List.find?_eq_none]
  constructor
  · intro h k p hp
    simpa using h (k, p) (Std.ExtTreeMap.mem_toList_iff_getElem?_eq_some.2 hp)
  · intro h x hx
    simpa using h x.1 x.2 (Std.ExtTreeMap.mem_toList_iff_getElem?_eq_some.1 hx)

/-- A user is new exactly when the address is given and nobody stored has it. -/
theorem isNew_iff : isNew lower people user ↔
    user.address lower ≠ "" ∧ ∀ (k : Id) p, people[k]? = some p → p.email ≠ user.address lower := by
  simp only [isNew, decide_eq_true_eq]
  refine and_congr_right fun _ => ⟨fun h k p hp => ?_, fun h x hx => ?_⟩
  · exact h (k, p) (Std.ExtTreeMap.mem_toList_iff_getElem?_eq_some.2 hp)
  · exact h x.1 x.2 (Std.ExtTreeMap.mem_toList_iff_getElem?_eq_some.1 hx)

/-- What a sync has done after some entries: each person is updated by the entries of its address,
    and one is added for each entry that is new. -/
structure Held (lower : String → String) (newId : Nat → Id) (now : Time) (facts : Facts)
    (users : List DirectoryUser) (pending : Pending) : Prop where
  people : ∀ k : Id, pending.people[k]? = (facts.people[k]?).map fun p =>
    (entriesOf lower users p.email).foldl (DirectoryUser.update now) p
  newPeople : pending.newPeople = ((users.filter (isNew lower facts.people)).zipIdx.map
    fun x => (newId x.2, x.1.person lower now))
  newSnapshots : pending.newSnapshots = []

/-- Updates leave the address. -/
theorem foldl_update_email (l : List DirectoryUser) (p : Person) :
    (l.foldl (DirectoryUser.update now) p).email = p.email := by
  induction l generalizing p with
  | nil => rfl
  | cons user l ih => exact ih (user.update now p)

/-- The people of the session are the committed ones, with their addresses. -/
theorem Held.exists_committed {pending : Pending} (h : Held lower newId now facts users pending)
    {k : Id} (hp : pending.people[k]? = some p) :
    ∃ q, facts.people[k]? = some q ∧
      p = (entriesOf lower users q.email).foldl (DirectoryUser.update now) q ∧
      p.email = q.email := by
  rw [h.people] at hp
  obtain ⟨q, hq, rfl⟩ := Option.map_eq_some_iff.1 hp
  exact ⟨q, hq, rfl, foldl_update_email _ q⟩

/-- A stored person is held with the updates of its entries. -/
theorem Held.exists_held {pending : Pending} (h : Held lower newId now facts users pending)
    {k : Id} {q : Person} (hq : facts.people[k]? = some q) :
    pending.people[k]? =
      some ((entriesOf lower users q.email).foldl (DirectoryUser.update now) q) := by
  rw [h.people, hq]
  rfl

/-- A user of another address is no entry of this one. -/
theorem entriesOf_append_ne (h : user.address lower ≠ email ∨ email = "") :
    entriesOf lower (users ++ [user]) email = entriesOf lower users email := by
  rw [entriesOf_append, if_neg, List.append_nil]
  rintro ⟨heq, hne⟩
  exact h.elim (fun hneq => hneq heq) hne

/-- A user who is not new adds no new user. -/
theorem filter_isNew_append (h : isNew lower people user = false) :
    (users ++ [user]).filter (isNew lower people) = users.filter (isNew lower people) := by
  rw [List.filter_append, List.filter_cons_of_neg (by simp [h]), List.filter_nil, List.append_nil]

/-- An entry with an address that nobody has. -/
theorem syncUser_of_none {c : Counted} (hblank : user.address lower ≠ "")
    (hfound : c.pending.personByEmail (user.address lower) = none) :
    syncUser lower newId now c user = {
      c with
      pending := { c.pending with
        newPeople := c.pending.newPeople ++
          [(newId c.pending.newPeople.length, user.person lower now)] }
      created := c.created + 1 } := by
  unfold syncUser
  unfold DirectoryUser.address at hblank hfound
  simp only [if_neg hblank, hfound]
  rfl

/-- An entry with the address of a person. -/
theorem syncUser_of_some {c : Counted} {id : Id} (hblank : user.address lower ≠ "")
    (hfound : c.pending.personByEmail (user.address lower) = some (id, p)) :
    syncUser lower newId now c user = {
      c with
      pending := { c.pending with people := c.pending.people.insert id (user.update now p) }
      updated := c.updated + 1 } := by
  unfold syncUser
  unfold DirectoryUser.address at hblank hfound
  simp only [if_neg hblank, hfound]
  rfl

/-- One turn of the loop. -/
theorem Held.syncUser {c : Counted} (hunique : UniqueEmails facts.people)
    (h : Held lower newId now facts users c.pending) :
    Held lower newId now facts (users ++ [user]) (syncUser lower newId now c user).pending := by
  -- A user without an address is passed over; one who is found is updated, the others are added.
  by_cases hblank : user.address lower = ""
  · have hnew : isNew lower facts.people user = false := by simp [isNew, hblank]
    have hsame : Connectors.syncUser lower newId now c user = c := if_pos hblank
    rw [hsame]
    refine ⟨fun k => ?_, ?_, h.newSnapshots⟩
    · rw [h.people k]
      refine congrArg (Option.map · _) (funext fun q => ?_)
      by_cases hq : user.address lower = q.email
      · rw [entriesOf_append_ne (.inr (hq.symm.trans hblank))]
      · rw [entriesOf_append_ne (.inl hq)]
    · rw [filter_isNew_append hnew, h.newPeople]
  · cases hfound : c.pending.personByEmail (user.address lower) with
    | none =>
      have hnone := personByEmail_eq_none.1 hfound
      have hcommitted : ∀ (k : Id) q, facts.people[k]? = some q → q.email ≠ user.address lower := by
        intro k q hq heq
        refine hnone k _ (h.exists_held hq) ?_
        rw [foldl_update_email, heq]
      have hnew : isNew lower facts.people user = true := isNew_iff.2 ⟨hblank, hcommitted⟩
      have hlength : c.pending.newPeople.length =
          (users.filter (isNew lower facts.people)).length := by
        rw [h.newPeople, List.length_map, List.length_zipIdx]
      rw [syncUser_of_none hblank hfound]
      refine ⟨fun k => ?_, ?_, h.newSnapshots⟩
      · rw [h.people k]
        cases hq : facts.people[k]? with
        | none => rfl
        | some q =>
          have hne : user.address lower ≠ q.email := (hcommitted k q hq).symm
          rw [Option.map_some, Option.map_some, entriesOf_append_ne (.inl hne)]
      · rw [List.filter_append, List.filter_cons_of_pos hnew, List.filter_nil, List.zipIdx_append,
          List.map_append, ← h.newPeople, hlength]
        simp
    | some x =>
      obtain ⟨id, p⟩ := x
      obtain ⟨hp, hemail⟩ := personByEmail_eq_some hfound
      obtain ⟨q, hq, rfl, hemail'⟩ := h.exists_committed hp
      have hnew : isNew lower facts.people user = false := by
        by_contra hnew
        exact (isNew_iff.1 (by simpa using hnew)).2 id q hq (hemail'.symm.trans hemail)
      rw [syncUser_of_some hblank hfound]
      refine ⟨fun k => ?_, ?_, h.newSnapshots⟩
      · have hqemail : user.address lower = q.email := hemail.symm.trans hemail'
        rw [Table.get_insert]
        split
        · next hk =>
          subst hk
          rw [hq, Option.map_some, entriesOf_append, if_pos ⟨hqemail, hqemail ▸ hblank⟩,
            List.foldl_append]
          rfl
        · next hk =>
          rw [h.people k]
          cases hq' : facts.people[k]? with
          | none => rfl
          | some q' =>
            have hne : user.address lower ≠ q'.email :=
              fun heq => hk (hunique id k q q' hq hq' (hqemail.symm.trans heq))
            rw [Option.map_some, Option.map_some, entriesOf_append_ne (.inl hne)]
      · rw [filter_isNew_append hnew]
        exact h.newPeople

/-- What a whole sync holds back. -/
theorem syncDirectoryUsers_held (hunique : UniqueEmails facts.people) (lower : String → String)
    (newId : Nat → Id) (now : Time) (users : List DirectoryUser) :
    Held lower newId now facts users (syncDirectoryUsers lower newId now facts users).pending := by
  induction users using List.reverseRecOn with
  | nil =>
    refine ⟨fun k => ?_, rfl, rfl⟩
    change facts.people[k]? = _
    cases facts.people[k]? <;> rfl
  | append_singleton users user ih =>
    unfold syncDirectoryUsers at ih ⊢
    rw [List.foldl_append]
    exact ih.syncUser hunique

/-! ## The commit -/

section Insert

variable {ρ : Type} {conflict : ρ → ρ → Bool} {rows rows' : Table ρ} {x : Id × ρ}
  {new : List (Id × ρ)}

/-- A row that the constraints of its table let in. -/
def Insertable (conflict : ρ → ρ → Bool) (rows : Table ρ) (x : Id × ρ) : Prop :=
  x.1 ∉ rows ∧ ∀ (k : Id) r, rows[k]? = some r → conflict x.2 r = false

/-- A row that conflicts with none is inserted. -/
theorem insertRow_of_insertable (h : Insertable conflict rows x) :
    insertRow conflict rows x = some (rows.insert x.1 x.2) := by
  have hany := Table.any_toList_eq_false.2 h.2
  rw [insertRow, if_neg]
  rintro (hmem | hconflict)
  · exact h.1 hmem
  · rw [hany] at hconflict
    exact Bool.false_ne_true hconflict

/-- A row that conflicts with one is refused. -/
theorem insertRow_of_not_insertable (h : ¬ Insertable conflict rows x) :
    insertRow conflict rows x = none := by
  rw [insertRow, if_pos]
  by_contra hnot
  rw [not_or, Bool.not_eq_true] at hnot
  exact h ⟨hnot.1, Table.any_toList_eq_false.1 hnot.2⟩

/-- A row can be inserted after another one. -/
theorem insertable_insert {y : Id × ρ} (hx : x.1 ∉ rows) :
    Insertable conflict (rows.insert x.1 x.2) y ↔
      (x.1 ≠ y.1 ∧ conflict y.2 x.2 = false) ∧ Insertable conflict rows y := by
  simp only [Insertable, Std.ExtTreeMap.mem_insert, compare_eq_iff_eq,
    Table.get_insert_eq_some_iff hx]
  -- The new row must avoid the inserted one and the others.
  constructor
  · intro ⟨hmem, hconflict⟩
    rw [not_or] at hmem
    exact ⟨⟨hmem.1, hconflict x.1 x.2 (.inr ⟨rfl, rfl⟩)⟩, hmem.2,
      fun k r hr => hconflict k r (.inl hr)⟩
  · intro ⟨⟨hne, hnew⟩, hmem, hconflict⟩
    refine ⟨not_or.2 ⟨hne, hmem⟩, fun k r hr => ?_⟩
    rcases hr with hr | ⟨-, rfl⟩
    · exact hconflict k r hr
    · exact hnew

/-- Rows are inserted one after the other if the constraints let each of them in, also together
    with those before it. -/
theorem foldlM_insertRow_eq_some :
    new.foldlM (insertRow conflict) rows = some rows' ↔
      new.Pairwise (fun x y => x.1 ≠ y.1 ∧ conflict y.2 x.2 = false) ∧
        (∀ x ∈ new, Insertable conflict rows x) ∧
        ∀ (k : Id) r, rows'[k]? = some r ↔ rows[k]? = some r ∨ (k, r) ∈ new := by
  -- Over the new rows: each must fit the table and those inserted before it.
  induction new generalizing rows with
  | nil =>
    have heq : some rows = some rows' ↔ ∀ (k : Id) r, rows'[k]? = some r ↔ rows[k]? = some r :=
      ⟨fun h k r => by rw [Option.some.inj h],
        fun h => congrArg some (Table.ext fun k => Option.ext fun r => (h k r).symm)⟩
    simpa using heq
  | cons x new ih =>
    rw [List.foldlM_cons]
    by_cases hx : Insertable conflict rows x
    · rw [insertRow_of_insertable hx]
      change new.foldlM (insertRow conflict) (rows.insert x.1 x.2) = some rows' ↔ _
      rw [ih, List.pairwise_cons, List.forall_mem_cons, and_iff_right hx]
      simp only [insertable_insert hx.1, Table.get_insert_eq_some_iff hx.1, imp_and, forall_and,
        List.mem_cons, or_assoc, ← Prod.mk_inj, Prod.mk.eta]
      tauto
    · rw [insertRow_of_not_insertable hx]
      exact iff_of_false (by simp) fun h => hx (h.2.1 x List.mem_cons_self)

/-- Rows that conflict with none, and not with each other, are all inserted. -/
theorem exists_foldlM_insertRow
    (hnew : new.Pairwise fun x y => x.1 ≠ y.1 ∧ conflict y.2 x.2 = false)
    (hrows : ∀ x ∈ new, Insertable conflict rows x) :
    ∃ rows', new.foldlM (insertRow conflict) rows = some rows' := by
  induction new generalizing rows with
  | nil => exact ⟨rows, rfl⟩
  | cons x new ih =>
    rw [List.pairwise_cons] at hnew
    rw [List.forall_mem_cons] at hrows
    rw [List.foldlM_cons, insertRow_of_insertable hrows.1]
    exact ih hnew.2 fun y hy => (insertable_insert hrows.1.1).2 ⟨hnew.1 y hy, hrows.2 y hy⟩

end Insert

/-! ## What is asked for -/

/-- The last display name that is not empty. -/
def lastName (entries : List DirectoryUser) : Option String :=
  (entries.map DirectoryUser.displayName).reverse.find? (· ≠ "")

/-- A person with what the entries of the address say. -/
def asListed (now : Time) (entries : List DirectoryUser) (p : Person) : Person :=
  match entries.getLast? with
  | none => p
  | some user =>
    { p with
      displayName := ((lastName entries).map Json.str).getD p.displayName
      employmentStatus := user.status
      source := "google_workspace"
      externalId := .str user.externalId
      lastSyncedAt := some now }

/-- A person about whom only the address is known. -/
def unnamed (email : String) : Person where
  email := email
  displayName := .str ""
  employmentStatus := "unknown"
  source := "google_workspace"
  externalId := .null
  lastSyncedAt := none

/-- The people after a sync: one for each address of the list, as listed; the others as they
    were. -/
structure Synced (lower : String → String) (now : Time) (users : List DirectoryUser)
    (before after : Table Person) : Prop where
  onePerson : ∀ user ∈ users, user.address lower ≠ "" →
    ∃! k : Id, ∃ p, after[k]? = some p ∧ p.email = user.address lower
  stored : ∀ (k : Id) p, before[k]? = some p →
    after[k]? = some (asListed now (entriesOf lower users p.email) p)
  added : ∀ (k : Id) p, before[k]? = none → after[k]? = some p →
    entriesOf lower users p.email ≠ [] ∧
      p = asListed now (entriesOf lower users p.email) (unnamed p.email)

/-- The people after the same sync at another time. -/
def Resynced (lower : String → String) (now : Time) (users : List DirectoryUser)
    (before after : Table Person) : Prop :=
  ∀ k : Id, after[k]? = (before[k]?).map fun p =>
    if entriesOf lower users p.email = [] then p else { p with lastSyncedAt := some now }

/-- The last name given is the one that counts. -/
theorem lastName_append : lastName (users ++ [user]) =
    if user.displayName ≠ "" then some user.displayName else lastName users := by
  rw [lastName, List.map_append, List.reverse_append]
  by_cases h : user.displayName = "" <;> simp [h, lastName]

/-- The updates of the entries of an address, one after the other. -/
theorem foldl_update (entries : List DirectoryUser) (p : Person) :
    entries.foldl (DirectoryUser.update now) p = asListed now entries p := by
  induction entries using List.reverseRecOn with
  | nil => rfl
  | append_singleton entries user ih =>
    rw [List.foldl_append, ih]
    simp only [List.foldl_cons, List.foldl_nil, asListed, List.getLast?_append, lastName_append]
    cases hlast : entries.getLast? with
    | none =>
      rw [List.getLast?_eq_none_iff] at hlast
      subst hlast
      by_cases h : user.displayName = "" <;> simp [DirectoryUser.update, h, lastName]
    | some last => by_cases h : user.displayName = "" <;> simp [DirectoryUser.update, h]

/-- A second time, the entries change the time only. -/
theorem asListed_asListed {now' : Time} (entries : List DirectoryUser) (p : Person) :
    asListed now' entries (asListed now entries p) =
      if entries = [] then p else { asListed now entries p with lastSyncedAt := some now' } := by
  cases hlast : entries.getLast? with
  | none =>
    have hnil : entries = [] := List.getLast?_eq_none_iff.1 hlast
    rw [if_pos hnil, hnil]
    rfl
  | some last =>
    have hne : entries ≠ [] := fun hnil => by simp [hnil] at hlast
    rw [if_neg hne]
    simp only [asListed, hlast]
    cases lastName entries <;> rfl

/-- Listing leaves the address. -/
@[simp] theorem asListed_email (entries : List DirectoryUser) (p : Person) :
    (asListed now entries p).email = p.email := by
  rw [asListed]
  split <;> rfl

/-- The entries of an address are the users listed under it. -/
theorem mem_entriesOf : user ∈ entriesOf lower users email ↔
    user ∈ users ∧ user.address lower = email ∧ email ≠ "" := by
  rw [entriesOf, List.mem_filter, decide_eq_true_eq]

/-- A new person is an unnamed one with the updates of its entry. -/
theorem person_eq_asListed :
    user.person lower now = asListed now [user] (unnamed (user.address lower)) := by
  by_cases h : user.displayName = ""
  · simp [DirectoryUser.person, asListed, unnamed, lastName, h]
  · simp [DirectoryUser.person, asListed, unnamed, lastName, h]

/-! ## New addresses -/

/-- Every address that the list repeats has a person. -/
def Repeated (lower : String → String) (people : Table Person) (users : List DirectoryUser) :
    Prop :=
  ∀ email, 1 < (entriesOf lower users email).length →
    ∃ (k : Id) (p : Person), people[k]? = some p ∧ p.email = email

/-- The addresses of the entries that are new. -/
def newAddresses (lower : String → String) (people : Table Person) (users : List DirectoryUser) :
    List String :=
  (users.filter (isNew lower people)).map (DirectoryUser.address lower)

/-- How often an address is listed as new. -/
theorem count_newAddresses : (newAddresses lower people users).count email =
    users.countP fun user => user.address lower == email && isNew lower people user := by
  rw [newAddresses, List.count, List.countP_map, List.countP_filter]
  rfl

/-- The address of a stored person is never new. -/
theorem count_newAddresses_of_stored
    (h : ∃ (k : Id) (p : Person), people[k]? = some p ∧ p.email = email) :
    (newAddresses lower people users).count email = 0 := by
  obtain ⟨k, p, hp, heq⟩ := h
  rw [count_newAddresses, List.countP_eq_zero]
  intro user _ hnew
  rw [Bool.and_eq_true, beq_iff_eq] at hnew
  exact (isNew_iff.1 hnew.2).2 k p hp (heq.trans hnew.1.symm)

/-- The address of nobody stored is new for each of its entries. -/
theorem count_newAddresses_of_new
    (h : ¬ ∃ (k : Id) (p : Person), people[k]? = some p ∧ p.email = email) :
    (newAddresses lower people users).count email = (entriesOf lower users email).length := by
  rw [count_newAddresses, entriesOf, ← List.countP_eq_length_filter]
  refine List.countP_congr fun user _ => ?_
  rw [Bool.and_eq_true, beq_iff_eq, decide_eq_true_eq, isNew_iff]
  constructor
  · rintro ⟨rfl, hblank, -⟩
    exact ⟨rfl, hblank⟩
  · rintro ⟨rfl, hblank⟩
    exact ⟨rfl, hblank, fun k p hp heq => h ⟨k, p, hp, heq⟩⟩

/-- No two people are added with one address if a repeated address has its person. -/
theorem nodup_newAddresses_iff :
    (newAddresses lower people users).Nodup ↔ Repeated lower people users := by
  rw [List.nodup_iff_count_le_one]
  refine forall_congr' fun email => ?_
  by_cases h : ∃ (k : Id) (p : Person), people[k]? = some p ∧ p.email = email
  · rw [count_newAddresses_of_stored h]
    exact iff_of_true (Nat.zero_le 1) fun _ => h
  · rw [count_newAddresses_of_new h]
    constructor
    · intro hle hlt
      omega
    · intro hlt
      by_contra hle
      exact h (hlt (by omega))

/-! ## The whole sync -/

/-- What a sync needs: a person for each address that the list repeats, and columns that hold what
    the list asks for. -/
structure Careful (fits : Person → Bool) (lower : String → String) (now : Time)
    (people : Table Person) (users : List DirectoryUser) : Prop where
  repeated : Repeated lower people users
  fitStored : ∀ (k : Id) p, people[k]? = some p →
    fits (asListed now (entriesOf lower users p.email) p)
  fitNew : ∀ user ∈ users, isNew lower people user → fits (user.person lower now)

/-- The sync and its commit do what is asked for, and a second sync changes the time only. -/
def Succeeds (fits : Person → Bool) (lower : String → String) (newId : Nat → Id) (now : Time)
    (facts : Facts) (users : List DirectoryUser) : Prop :=
  ∃ facts', (syncDirectoryUsers lower newId now facts users).pending.commit fits facts =
      some facts' ∧
    facts'.snapshots = facts.snapshots ∧ Synced lower now users facts.people facts'.people ∧
    ∀ (newId' : Nat → Id) (now' : Time), ∃ facts'',
      (syncDirectoryUsers lower newId' now' facts' users).pending.commit fits facts' =
        some facts'' ∧
      facts''.snapshots = facts'.snapshots ∧
      Resynced lower now' users facts'.people facts''.people

section Commit

variable {fits : Person → Bool} {facts' : Facts} {pending : Pending}

/-- What the commit of a sync needs and what it leaves. -/
theorem commit_eq_some (hsnapshots : pending.newSnapshots = []) :
    pending.commit fits facts = some facts' ↔
      ((∀ (k : Id) p, pending.people[k]? = some p → fits p) ∧
          ∀ x ∈ pending.newPeople, fits x.2) ∧
        pending.newPeople.foldlM (insertRow fun p q => p.email == q.email) pending.people =
          some facts'.people ∧
        facts'.snapshots = facts.snapshots := by
  have hstored : (∀ x ∈ pending.people.toList, fits x.2) ↔
      ∀ (k : Id) p, pending.people[k]? = some p → fits p := by
    simp only [Prod.forall, Std.ExtTreeMap.mem_toList_iff_getElem?_eq_some]
  have hwrite : pending.write facts = some facts' ↔
      pending.newPeople.foldlM (insertRow fun p q => p.email == q.email) pending.people =
          some facts'.people ∧
        facts'.snapshots = facts.snapshots := by
    rw [Pending.write, hsnapshots, List.foldlM_nil]
    -- The inserts fail or the checks do: either way nothing is committed.
    cases pending.newPeople.foldlM (insertRow fun p q => p.email == q.email) pending.people with
    | none => simp
    | some people =>
      constructor
      · rintro h
        cases h
        exact ⟨rfl, rfl⟩
      · rintro ⟨h, hsame⟩
        cases h
        rw [← hsame]
        rfl
  rw [Pending.commit, ← hstored]
  split
  · next h => rw [hwrite, and_iff_right h]
  · next h => exact iff_of_false (by simp) fun hnot => h hnot.1

/-- The new people are those of the new users, with identifiers of their own. -/
theorem Held.mem_newPeople (h : Held lower newId now facts users pending) {x : Id × Person} :
    x ∈ pending.newPeople ↔ ∃ (i : Nat) (user : DirectoryUser),
      (users.filter (isNew lower facts.people))[i]? = some user ∧
        x = (newId i, user.person lower now) := by
  simp only [h.newPeople, List.mem_map, Prod.exists, List.mem_zipIdx_iff_getElem?]
  constructor
  · rintro ⟨user, i, huser, rfl⟩
    exact ⟨i, user, huser, rfl⟩
  · rintro ⟨i, user, huser, rfl⟩
    exact ⟨user, i, huser, rfl⟩

/-- The people that are added do not get in each other's way if their addresses differ. -/
theorem Held.pairwise_newPeople_iff (hnewId : newId.Injective)
    (h : Held lower newId now facts users pending) :
    (pending.newPeople.Pairwise fun x y => x.1 ≠ y.1 ∧ (y.2.email == x.2.email) = false) ↔
      (newAddresses lower facts.people users).Nodup := by
  have hids : (pending.newPeople.map Prod.fst).Nodup := by
    rw [h.newPeople, List.map_map]
    change (((users.filter (isNew lower facts.people)).zipIdx.map (newId ∘ Prod.snd)).Nodup)
    rw [← List.map_map, List.zipIdx_map_snd]
    exact List.Nodup.map hnewId List.nodup_range'
  have hemails : pending.newPeople.map (fun x => x.2.email) =
      newAddresses lower facts.people users := by
    rw [h.newPeople, List.map_map, newAddresses]
    change ((users.filter (isNew lower facts.people)).zipIdx.map
      (DirectoryUser.address lower ∘ Prod.fst)) = _
    rw [← List.map_map, List.zipIdx_map_fst]
  rw [← hemails, List.pairwise_and_iff, and_iff_right (List.pairwise_map.1 hids), List.Nodup,
    List.pairwise_map]
  exact List.Pairwise.iff fun x y => by rw [beq_eq_false_iff_ne, ne_comm]

/-- Nobody whom the session has read has the id or the address of a person that is added. -/
theorem Held.insertable (hfresh : ∀ i, newId i ∉ facts.people)
    (h : Held lower newId now facts users pending) :
    ∀ x ∈ pending.newPeople, Insertable (fun p q => p.email == q.email) pending.people x := by
  intro x hx
  obtain ⟨i, user, huser, rfl⟩ := h.mem_newPeople.1 hx
  have hnew := isNew_iff.1 (List.mem_filter.1 (List.mem_of_getElem? huser)).2
  constructor
  · intro hmem
    obtain ⟨p, hp⟩ := Table.exists_get hmem
    obtain ⟨q, hq, -⟩ := h.exists_committed hp
    exact hfresh i (Table.mem_of_get hq)
  · intro k p hp
    obtain ⟨q, hq, -, hemail⟩ := h.exists_committed hp
    rw [beq_eq_false_iff_ne, hemail]
    exact (hnew.2 k q hq).symm

/-- What is pending fits exactly when the stored people as listed and the new ones do. -/
theorem Held.fits_iff (h : Held lower newId now facts users pending) :
    ((∀ (k : Id) p, pending.people[k]? = some p → fits p) ∧ ∀ x ∈ pending.newPeople, fits x.2) ↔
      (∀ (k : Id) p, facts.people[k]? = some p →
          fits (asListed now (entriesOf lower users p.email) p)) ∧
        ∀ user ∈ users, isNew lower facts.people user → fits (user.person lower now) := by
  refine and_congr ⟨fun hall k q hq => ?_, fun hall k p hp => ?_⟩
    ⟨fun hall user huser hnew => ?_, fun hall x hx => ?_⟩
  · rw [← foldl_update]
    exact hall k _ (h.exists_held hq)
  · obtain ⟨q, hq, rfl, -⟩ := h.exists_committed hp
    rw [foldl_update]
    exact hall k q hq
  · obtain ⟨i, hi⟩ := List.getElem?_of_mem (List.mem_filter.2 ⟨huser, hnew⟩)
    exact hall _ (h.mem_newPeople.2 ⟨i, user, hi, rfl⟩)
  · obtain ⟨i, user, huser, rfl⟩ := h.mem_newPeople.1 hx
    obtain ⟨hmem, hnew⟩ := List.mem_filter.1 (List.mem_of_getElem? huser)
    exact hall user hmem hnew

/-- A sync can be committed if it is careful. -/
theorem Held.exists_commit_iff (hnewId : newId.Injective) (hfresh : ∀ i, newId i ∉ facts.people)
    (h : Held lower newId now facts users pending) :
    (∃ facts', pending.commit fits facts = some facts') ↔
      Careful fits lower now facts.people users := by
  constructor
  · rintro ⟨facts', hcommit⟩
    obtain ⟨hfits, hrun, -⟩ := (commit_eq_some h.newSnapshots).1 hcommit
    obtain ⟨hstored, hnew⟩ := h.fits_iff.1 hfits
    have hnodup := (h.pairwise_newPeople_iff hnewId).1 (foldlM_insertRow_eq_some.1 hrun).1
    exact ⟨nodup_newAddresses_iff.1 hnodup, hstored, hnew⟩
  · intro hcareful
    have hpairwise := (h.pairwise_newPeople_iff hnewId).2
      (nodup_newAddresses_iff.2 hcareful.repeated)
    obtain ⟨people, hrun⟩ := exists_foldlM_insertRow hpairwise (h.insertable hfresh)
    exact ⟨⟨facts.snapshots, people⟩, (commit_eq_some h.newSnapshots).2
      ⟨h.fits_iff.2 ⟨hcareful.fitStored, hcareful.fitNew⟩, hrun, rfl⟩⟩

/-- The rows that the commit of a sync leaves: the stored ones, as listed, and the new ones. -/
theorem Held.commit_people (h : Held lower newId now facts users pending)
    (hcommit : pending.commit fits facts = some facts') (k : Id) (p : Person) :
    facts'.people[k]? = some p ↔
      (∃ q, facts.people[k]? = some q ∧ p = asListed now (entriesOf lower users q.email) q) ∨
        ∃ (i : Nat) (user : DirectoryUser),
          (users.filter (isNew lower facts.people))[i]? = some user ∧
            k = newId i ∧ p = user.person lower now := by
  rw [(foldlM_insertRow_eq_some.1 ((commit_eq_some h.newSnapshots).1 hcommit).2.1).2.2 k p,
    h.mem_newPeople]
  simp only [h.people, foldl_update, Option.map_eq_some_iff, Prod.mk_inj, @eq_comm _ p]

end Commit

section Whole

variable {before after : Table Person}

/-- The rows after a sync. -/
def Outcome (lower : String → String) (newId : Nat → Id) (now : Time) (users : List DirectoryUser)
    (before after : Table Person) : Prop :=
  ∀ (k : Id) p, after[k]? = some p ↔
    (∃ q, before[k]? = some q ∧ p = asListed now (entriesOf lower users q.email) q) ∨
      ∃ (i : Nat) (user : DirectoryUser), (users.filter (isNew lower before))[i]? = some user ∧
        k = newId i ∧ p = user.person lower now

/-- An entry that is new is the only one of its address. -/
theorem entriesOf_of_isNew (hrepeated : Repeated lower before users) (hmem : user ∈ users)
    (hnew : isNew lower before user) : entriesOf lower users (user.address lower) = [user] := by
  have hentry : user ∈ entriesOf lower users (user.address lower) :=
    mem_entriesOf.2 ⟨hmem, rfl, (isNew_iff.1 hnew).1⟩
  have hlength : (entriesOf lower users (user.address lower)).length ≤ 1 := by
    by_contra hlt
    obtain ⟨k, p, hp, heq⟩ := hrepeated (user.address lower) (by omega)
    exact (isNew_iff.1 hnew).2 k p hp heq
  match hentries : entriesOf lower users (user.address lower) with
  | [] => simp [hentries] at hentry
  | [last] =>
    rw [hentries, List.mem_singleton] at hentry
    rw [hentry]
  | _ :: _ :: _ => simp [hentries] at hlength

/-- After a sync an address still has one person. -/
theorem Outcome.uniqueEmails (hunique : UniqueEmails before)
    (hrepeated : Repeated lower before users)
    (h : Outcome lower newId now users before after) : UniqueEmails after := by
  have hnodup := nodup_newAddresses_iff.2 hrepeated
  intro k k' p p' hp hp' heq
  -- Two people of one address are both stored, or both new, or one of each.
  rcases (h k p).1 hp with ⟨q, hq, rfl⟩ | ⟨i, user, huser, rfl, rfl⟩ <;>
    rcases (h k' p').1 hp' with ⟨q', hq', rfl⟩ | ⟨i', user', huser', rfl, rfl⟩
  · rw [asListed_email, asListed_email] at heq
    exact hunique k k' q q' hq hq' heq
  · rw [asListed_email] at heq
    exact absurd heq ((isNew_iff.1 (List.mem_filter.1 (List.mem_of_getElem? huser')).2).2 k q hq)
  · rw [asListed_email] at heq
    exact absurd heq.symm
      ((isNew_iff.1 (List.mem_filter.1 (List.mem_of_getElem? huser)).2).2 k' q' hq')
  · have hget : (newAddresses lower before users)[i]? = some (user.address lower) := by
      rw [newAddresses, List.getElem?_map, huser]
      rfl
    have hget' : (newAddresses lower before users)[i']? = some (user'.address lower) := by
      rw [newAddresses, List.getElem?_map, huser']
      rfl
    have hlt : i < (newAddresses lower before users).length :=
      (List.getElem?_eq_some_iff.1 hget).1
    have hsame : user.address lower = user'.address lower := heq
    have hindex : i = i' := (List.getElem?_inj hlt hnodup).1 (by rw [hget, hget', hsame])
    rw [hindex]

/-- Each address of the list has a person after the sync. -/
theorem Outcome.exists_person (h : Outcome lower newId now users before after)
    (hmem : user ∈ users) (hblank : user.address lower ≠ "") :
    ∃ (k : Id) (p : Person), after[k]? = some p ∧ p.email = user.address lower := by
  by_cases hnew : isNew lower before user
  · obtain ⟨i, hi⟩ := List.getElem?_of_mem (List.mem_filter.2 ⟨hmem, hnew⟩)
    exact ⟨newId i, user.person lower now, (h _ _).2 (.inr ⟨i, user, hi, rfl, rfl⟩), rfl⟩
  · rw [isNew_iff, not_and] at hnew
    have hstored := hnew hblank
    push Not at hstored
    obtain ⟨k, q, hq, heq⟩ := hstored
    exact ⟨k, _, (h _ _).2 (.inl ⟨q, hq, rfl⟩), (asListed_email _ _).trans heq⟩

/-- A row after the sync is as listed. -/
theorem Outcome.exists_asListed (hrepeated : Repeated lower before users)
    (h : Outcome lower newId now users before after) {k : Id} (hp : after[k]? = some p) :
    ∃ q, p = asListed now (entriesOf lower users p.email) q := by
  rcases (h k p).1 hp with ⟨q, -, rfl⟩ | ⟨i, user, huser, rfl, rfl⟩
  · exact ⟨q, by rw [asListed_email]⟩
  · obtain ⟨hmem, hnew⟩ := List.mem_filter.1 (List.mem_of_getElem? huser)
    refine ⟨unnamed (user.address lower), ?_⟩
    change _ = asListed now (entriesOf lower users (user.address lower)) _
    rw [entriesOf_of_isNew hrepeated hmem hnew, person_eq_asListed]

/-- Every address listed has one person with what the last of its entries says. -/
theorem Outcome.synced (hunique : UniqueEmails before) (hrepeated : Repeated lower before users)
    (h : Outcome lower newId now users before after) :
    Synced lower now users before after where
  -- A stored person is updated, and an address that is new is listed once.
  onePerson := by
    intro user hmem hblank
    obtain ⟨k, p, hp, heq⟩ := h.exists_person hmem hblank
    refine ⟨k, ⟨p, hp, heq⟩, ?_⟩
    rintro k' ⟨p', hp', heq'⟩
    exact h.uniqueEmails hunique hrepeated k' k p' p hp' hp (heq'.trans heq.symm)
  stored := fun k q hq => (h _ _).2 (.inl ⟨q, hq, rfl⟩)
  added := by
    intro k p hnone hp
    rcases (h k p).1 hp with ⟨q, hq, -⟩ | ⟨i, user, huser, rfl, rfl⟩
    · rw [hnone] at hq
      cases hq
    · obtain ⟨hmem, hnew⟩ := List.mem_filter.1 (List.mem_of_getElem? huser)
      have hentries := entriesOf_of_isNew hrepeated hmem hnew
      change entriesOf lower users (user.address lower) ≠ [] ∧
        _ = asListed now (entriesOf lower users (user.address lower)) (unnamed (user.address lower))
      rw [hentries]
      exact ⟨List.cons_ne_nil _ _, person_eq_asListed⟩

/-- The list has nobody who is new after the sync. -/
theorem Outcome.filter_isNew (h : Outcome lower newId now users before after) :
    users.filter (isNew lower after) = [] := by
  rw [List.filter_eq_nil_iff]
  intro user hmem hnew
  obtain ⟨hblank, hnone⟩ := isNew_iff.1 hnew
  obtain ⟨k, p, hp, heq⟩ := h.exists_person hmem hblank
  exact hnone k p hp heq

end Whole

section Again

variable {fits : Person → Bool} {facts' : Facts} {now' : Time} {newId' : Nat → Id}

/-- The same sync once more. -/
theorem Outcome.resync (hfits : ∀ (p : Person) time, fits { p with lastSyncedAt := time } = fits p)
    (hunique : UniqueEmails facts.people) (hcareful : Careful fits lower now facts.people users)
    (h : Outcome lower newId now users facts.people facts'.people) :
    ∃ facts'', (syncDirectoryUsers lower newId' now' facts' users).pending.commit fits facts' =
        some facts'' ∧
      facts''.snapshots = facts'.snapshots ∧
      Resynced lower now' users facts'.people facts''.people := by
  have hheld := syncDirectoryUsers_held (h.uniqueEmails hunique hcareful.repeated) lower newId'
    now' users
  have hrows (k : Id) (p : Person) (hp : facts'.people[k]? = some p) :
      asListed now' (entriesOf lower users p.email) p =
        if entriesOf lower users p.email = [] then p else { p with lastSyncedAt := some now' } := by
    obtain ⟨q, hq⟩ := h.exists_asListed hcareful.repeated hp
    generalize entriesOf lower users p.email = entries at hq ⊢
    subst hq
    rw [asListed_asListed]
    split
    · next hnil =>
      subst hnil
      rfl
    · rfl
  have hfit (k : Id) (p : Person) (hp : facts'.people[k]? = some p) : fits p := by
    rcases (h k p).1 hp with ⟨q, hq, rfl⟩ | ⟨i, user, huser, rfl, rfl⟩
    · exact hcareful.fitStored k q hq
    · obtain ⟨hmem, hnew⟩ := List.mem_filter.1 (List.mem_of_getElem? huser)
      exact hcareful.fitNew user hmem hnew
  set pending := (syncDirectoryUsers lower newId' now' facts' users).pending
  have hnew : pending.newPeople = [] := by
    rw [hheld.newPeople, h.filter_isNew]
    rfl
  refine ⟨⟨facts'.snapshots, pending.people⟩, (commit_eq_some hheld.newSnapshots).2
    ⟨⟨fun k p hp => ?_, by simp [hnew]⟩, by rw [hnew]; rfl, rfl⟩, rfl, fun k => ?_⟩
  · obtain ⟨q, hq, rfl, -⟩ := hheld.exists_committed hp
    rw [foldl_update, hrows k q hq]
    split
    · exact hfit k q hq
    · rw [hfits]
      exact hfit k q hq
  · rw [hheld.people k]
    cases hp : facts'.people[k]? with
    | none => rfl
    | some p => rw [Option.map_some, Option.map_some, foldl_update, hrows k p hp]

end Again

/-- A sync and its commit do what the list asks for exactly if the list is careful. -/
theorem syncDirectoryUsers_succeeds_iff {fits : Person → Bool}
    (hunique : UniqueEmails facts.people) (hnewId : newId.Injective)
    (hfresh : ∀ i, newId i ∉ facts.people)
    (hfits : ∀ (p : Person) time, fits { p with lastSyncedAt := time } = fits p) :
    Succeeds fits lower newId now facts users ↔
      Careful fits lower now facts.people users := by
  have hheld := syncDirectoryUsers_held hunique lower newId now users
  constructor
  · rintro ⟨facts', hcommit, -⟩
    exact (hheld.exists_commit_iff hnewId hfresh).1 ⟨facts', hcommit⟩
  · intro hcareful
    obtain ⟨facts', hcommit⟩ := (hheld.exists_commit_iff hnewId hfresh).2 hcareful
    have houtcome : Outcome lower newId now users facts.people facts'.people :=
      hheld.commit_people hcommit
    exact ⟨facts', hcommit, ((commit_eq_some hheld.newSnapshots).1 hcommit).2.2,
      houtcome.synced hunique hcareful.repeated,
      fun newId' now' => houtcome.resync hfits hunique hcareful⟩

/-- Columns that hold every value. -/
def wideColumns (_ : Person) : Bool := true

/-- The users of the runs below. -/
def ada : DirectoryUser := ⟨"1", " ada@x.org", "Ada", false, false⟩

def grace : DirectoryUser := ⟨"2", "grace@x.org ", "", true, false⟩

/-- One of them is stored. -/
def storedGrace : Facts where
  snapshots := ∅
  people := (∅ : Table Person).insert 5 (unnamed "grace@x.org")

/-- The sample directory stores Grace alone. -/
theorem get_storedGrace {k : Id} :
    storedGrace.people[k]? = some p ↔ k = 5 ∧ p = unnamed "grace@x.org" := by
  rw [storedGrace, Table.get_insert_eq_some_iff Std.ExtTreeMap.not_mem_empty,
    or_iff_right Table.not_get_empty]

/-- One stored person has an address of her own. -/
theorem uniqueEmails_storedGrace : UniqueEmails storedGrace.people := by
  intro k k' p p' hp hp' _
  rw [(get_storedGrace.1 hp).1, (get_storedGrace.1 hp').1]

/-- The new identifiers of the sample are unused. -/
theorem fresh_storedGrace (i : Nat) : i + 6 ∉ storedGrace.people := by
  intro hmem
  obtain ⟨p, hp⟩ := Table.exists_get hmem
  have hid : (i + 6 : Nat) = 5 := (get_storedGrace.1 hp).1
  omega

/-- One user is new, and the stored one is listed twice. -/
theorem syncDirectoryUsers_succeeds_storedGrace :
    Succeeds wideColumns (fun s => s) (fun n => n + 6) 0 storedGrace
      [grace, ada, { grace with displayName := "Grace" }] := by
  rw [syncDirectoryUsers_succeeds_iff uniqueEmails_storedGrace
    (fun _ _ h => Nat.add_right_cancel h) fresh_storedGrace fun _ _ => rfl]
  refine ⟨fun email hlt => ?_, fun _ _ _ => rfl, fun _ _ _ => rfl⟩
  have haddresses : grace.address (fun s => s) = "grace@x.org" ∧
      ada.address (fun s => s) = "ada@x.org" ∧
      { grace with displayName := "Grace" }.address (fun s => s) = "grace@x.org" := by
    decide +kernel
  -- only the stored user has more than one entry
  by_cases hgrace : "grace@x.org" = email
  · exact ⟨5, _, get_storedGrace.2 ⟨rfl, rfl⟩, hgrace⟩
  · obtain ⟨hfirst, hada, hlast⟩ := haddresses
    simp only [entriesOf, List.filter_cons, List.filter_nil, hfirst, hada, hlast, hgrace,
      false_and, decide_false, Bool.false_eq_true, if_false] at hlt
    split at hlt <;> simp at hlt

/-- Two entries with one address that nobody has: the second person is refused. -/
theorem syncDirectoryUsers_repeated :
    ¬ Succeeds wideColumns (fun s => s) (fun n => n) 0 ⟨∅, ∅⟩
      [ada, { ada with primaryEmail := "ada@x.org " }] := by
  rintro ⟨facts', hcommit, -⟩
  have hunique : UniqueEmails (⟨∅, ∅⟩ : Facts).people :=
    fun _ _ _ _ hp => absurd hp Table.not_get_empty
  have hheld := syncDirectoryUsers_held hunique (fun s => s) (fun n => n) 0
    [ada, { ada with primaryEmail := "ada@x.org " }]
  have hcareful := (hheld.exists_commit_iff (fun _ _ h => h)
    fun _ => Std.ExtTreeMap.not_mem_empty).1 ⟨facts', hcommit⟩
  obtain ⟨k, p, hp, -⟩ := hcareful.repeated "ada@x.org" (by decide +kernel)
  exact Table.not_get_empty hp

end MiniGrc.Connectors
