import MiniGrc.App.ConcurrentScope
import MiniGrc.Spec.AggregateCommands
import MiniGrc.Spec.EventStore

/-!
# One compliance scope

Nothing in the database makes the scope a singleton: whether a call defines it or revises it
is decided by what the call has read. Along every run in which no other call commits between
a call's read and its own commit (`ReadCurrent`), each commit does to the table and the log
what a call on its own would do, and the scope is the one row that the log describes.

## Key results

- `Declared.commit`: a commit of a call that has read the current scope
- `State.Inv.step`: a step under `ReadCurrent`
- `scope_singleton`: the runs under the condition
- `scope_not_singleton`: two calls that overlap
-/

namespace MiniGrc.ConcurrentScope

open Events ComplianceScopes AggregateType

variable {ι : Type}

/-! ## What the checks let through -/

/-- The columns of a scope are fit: "security" is among its categories, and its period does
    not end before it starts. -/
structure Fit (payload : Payload) : Prop where
  security : ∃ categories, categories.Sublist trustServiceCategories ∧
    "security" ∈ categories ∧ payload.trustServiceCategories = ",".intercalate categories
  period : ∀ startsOn ∈ payload.auditPeriodStartsOn, ∀ endsOn ∈ payload.auditPeriodEndsOn,
    startsOn ≤ endsOn

/-- Normalized categories are the known ones that are selected, with security. -/
theorem normalizeCategories_eq_ok {categories : List String} {column : String}
    (h : normalizeCategories categories = .ok column) :
    ∃ selected, selected.Sublist trustServiceCategories ∧ "security" ∈ selected ∧
      column = ",".intercalate selected := by
  unfold normalizeCategories at h
  simp only at h
  split at h
  · cases h
  · obtain rfl := Except.ok.inj h
    refine ⟨_, List.filter_sublist, List.mem_filter.2 ⟨List.mem_cons_self, ?_⟩, rfl⟩
    simp

/-- A valid period does not end before it starts. -/
theorem validatePeriod_eq_ok {startsOn endsOn : Option Date}
    (h : validatePeriod startsOn endsOn = .ok ()) :
    ∀ a ∈ startsOn, ∀ b ∈ endsOn, a ≤ b := by
  rintro a rfl b rfl
  unfold validatePeriod at h
  simp only at h
  split at h
  · cases h
  · next hle => exact not_lt.1 hle

/-- What the form gives fits. -/
theorem fit_of_payloadOf {fields : Fields} {payload : Payload}
    (h : payloadOf fields = .ok payload) : Fit payload := by
  unfold payloadOf at h
  cases hperiod : validatePeriod fields.auditPeriodStartsOn fields.auditPeriodEndsOn with
  | error e => rw [hperiod] at h; cases h
  | ok _ =>
    cases hcategories : normalizeCategories fields.trustServiceCategories with
    | error e => rw [hperiod, hcategories] at h; cases h
    | ok categories =>
      rw [hperiod, hcategories] at h
      obtain rfl := Except.ok.inj h
      exact ⟨normalizeCategories_eq_ok hcategories, validatePeriod_eq_ok hperiod⟩

/-! ## The scope that a log describes -/

/-- The payload of an event. -/
def payload (e : Event) : Payload :=
  match e.body with
  | .defined payload | .revised payload => payload

/-- The table holds at most one scope, and it is what the log says. -/
structure Declared (rows : Table ComplianceScope) (log : List Event) : Prop where
  one : ∀ (k k' : Id) r r', rows[k]? = some r → rows[k']? = some r' → k = k'
  revision : ∀ (k : Id) r, rows[k]? = some r → r.revision = log.length
  last : ∀ (k : Id) r, rows[k]? = some r → ∃ e, log.getLast? = some e ∧ e.aggregate = k ∧
    r.toPayload = payload e ∧ r.updatedAt = e.recordedAt
  fit : ∀ (k : Id) r, rows[k]? = some r → Fit r.toPayload
  /-- without a row there is no event -/
  none : (∀ k : Id, rows[k]? = none) → log = []

/-- The table is also what a replay of the log gives. -/
structure Committed (rows : Table ComplianceScope) (log : List Event) (time : Time) : Prop
    extends Declared rows log where
  kept : SessionKept aggregateType (fun _ _ => false) tickingClock ⟨rows, log, time⟩

variable {rows : Table ComplianceScope} {log log' : List Event} {time time' now : Time}
  {e : Event} {k : Id}

/-- The empty log has no scope. -/
theorem committed_empty : Committed ∅ [] 0 where
  one _ _ _ _ h := absurd h Table.not_get_empty
  revision _ _ h := absurd h Table.not_get_empty
  last _ _ h := absurd h Table.not_get_empty
  fit _ _ h := absurd h Table.not_get_empty
  none _ := rfl
  kept := ⟨kept_empty, .empty _ _⟩

/-- Time passes. -/
theorem Committed.wait (h : Committed rows log time) (ht : time ≤ time') :
    Committed rows log time' :=
  ⟨h.toDeclared, h.kept.wait (fun _ _ hp => hp) ht⟩

/-- Every event of the log is in the past. -/
theorem Committed.recordedAt_le (h : Committed rows log time) (he : e ∈ log) :
    e.recordedAt ≤ time :=
  h.kept.logged.past e he

/-- The scope can be rebuilt, whatever the other tables hold. -/
theorem Committed.rebuild (h : Committed rows log time) (present : TableName → Id → Bool) :
    rebuildAndCommit (aggregateType.projection present false) rows log = .ok rows := by
  have himp : ∀ (n : TableName) (k : Id), false = true → present n k = true :=
    fun _ _ hp => by cases hp
  exact ((h.kept.wait himp le_rfl).rebuild_eq_ok_of_refs_nil lawful fun _ => rfl).2 ⟨rfl, rfl⟩

/-- The scope found is a row. -/
theorem getScope_eq_some {x : Id × ComplianceScope} (h : getScope rows = some x) :
    rows[x.1]? = some x.2 :=
  Std.ExtTreeMap.mem_toList_iff_getElem?_eq_some.1 (List.mem_of_mem_head? h)

/-- Where none is found there is no row. -/
theorem getScope_eq_none (h : getScope rows = none) (k : Id) : rows[k]? = none := by
  refine Option.eq_none_iff_forall_ne_some.2 fun r hr => ?_
  have hmem := Std.ExtTreeMap.mem_toList_iff_getElem?_eq_some.2 hr
  rw [List.head?_eq_none_iff.1 h] at hmem
  exact absurd hmem List.not_mem_nil

/-! ## A commit -/

/-- The number of events that were stored when the transaction read the scope. -/
def Transaction.read (t : Transaction) : Nat :=
  match t.existing with
  | some (_, scope) => scope.revision
  | none => 0

/-- A transaction that reads the scope reads the whole log. -/
theorem Declared.read_eq (h : Declared rows log) {t : Transaction}
    (ht : t.existing = getScope rows) : t.read = log.length := by
  unfold Transaction.read
  rw [ht]
  cases hscope : getScope rows with
  | none => exact (congrArg List.length (h.none (getScope_eq_none hscope))).symm
  | some x => exact h.revision x.1 x.2 (getScope_eq_some hscope)

/-- A row that is written over the row that was read. -/
theorem writeRow_self {old new : ComplianceScope} : writeRow old new old = new := by
  have hwritten : ∀ {γ : Type} [DecidableEq γ] (a b : γ), written a b a = b := by
    intro γ _ a b
    unfold written
    split
    · next h => exact h.symm
    · rfl
  simp only [writeRow, hwritten]

/-- The event of a call goes with what its transaction has read. -/
def Transaction.Follows (t : Transaction) (aggregate : Id) (body : Body) : Prop :=
  match t.existing, body with
  | some (id, _), .revised payload => aggregate = id ∧ Fit payload
  | none, .defined payload => Fit payload
  | _, _ => False

/-- The event of a revision is of the scope that was read. -/
theorem Transaction.Follows.aggregate_eq {t : Transaction} {aggregate id : Id} {body : Body}
    {old : ComplianceScope} (h : t.Follows aggregate body) (ht : t.existing = some (id, old)) :
    aggregate = id := by
  unfold Transaction.Follows at h
  rw [ht] at h
  cases body with
  | defined payload => cases h
  | revised payload => exact h.1

/-- The projector has run on what the transaction has read. -/
def Transaction.Projected (t : Transaction) (e : Event) : Prop :=
  ∃ scope, row (t.existing.map Prod.snd) e = .ok scope ∧
    t.projected = some (e.aggregate, scope)

/-- A transaction that has read the current scope writes what a projector on the table does. -/
theorem Transaction.write_eq {t : Transaction} (ht : t.existing = getScope rows)
    (hfollows : t.Follows e.aggregate e.body) {scope : ComplianceScope}
    (hprojected : t.projected = some (e.aggregate, scope)) :
    rows[e.aggregate]? = t.existing.map Prod.snd ∧
      t.write rows = rows.insert e.aggregate scope := by
  unfold Transaction.write
  -- Without a scope a row is inserted, else the one read is updated.
  cases hexisting : t.existing with
  | none =>
    rw [hprojected]
    exact ⟨getScope_eq_none (ht.symm.trans hexisting) _, rfl⟩
  | some x =>
    obtain ⟨id, old⟩ := x
    have hid : e.aggregate = id := hfollows.aggregate_eq hexisting
    have hold : rows[id]? = some old := getScope_eq_some (ht.symm.trans hexisting)
    rw [hprojected, hid]
    refine ⟨hold, Table.ext fun k => ?_⟩
    rw [Table.get_alter, Table.get_insert]
    split
    · next hk => rw [hold, Option.map_some, writeRow_self]
    · rfl

/-- The row that an event leaves. -/
theorem row_eq_ok {old : Option ComplianceScope} {scope : ComplianceScope}
    (h : row old e = .ok scope) :
    scope.toPayload = payload e ∧ scope.updatedAt = e.recordedAt ∧
      scope.revision = old.elim 0 ComplianceScope.revision + 1 := by
  unfold payload
  -- A scope is defined once and revised afterwards.
  cases hbody : e.body with
  | defined p =>
    cases old with
    | none =>
      simp only [ComplianceScopes.row, hbody] at h
      obtain rfl := Except.ok.inj h
      exact ⟨rfl, rfl, rfl⟩
    | some old => simp [ComplianceScopes.row, hbody] at h
  | revised p =>
    cases old with
    | none => simp [ComplianceScopes.row, hbody] at h
    | some old =>
      simp only [ComplianceScopes.row, hbody] at h
      obtain rfl := Except.ok.inj h
      exact ⟨rfl, rfl, rfl⟩

/-- What follows a reading fits. -/
theorem Transaction.Follows.fit {t : Transaction} (h : t.Follows e.aggregate e.body) :
    Fit (payload e) := by
  unfold Transaction.Follows at h
  unfold payload
  split at h
  · next hbody =>
    rw [hbody]
    exact h.2
  · next hbody =>
    rw [hbody]
    exact h
  · cases h

/-- A call that has read the current scope commits: the scope follows its event. -/
theorem Committed.commit (h : Committed rows log time) {t : Transaction}
    (ht : t.existing = getScope rows) (hfollows : t.Follows e.aggregate e.body)
    (hprojected : t.Projected e) (hwell : WellFormed (log ++ [e]))
    (hlate : ∀ e' ∈ log, e'.recordedAt ≤ e.recordedAt) (hpast : e.recordedAt ≤ time) :
    Committed (t.write rows) (log ++ [e]) time := by
  obtain ⟨scope, hrow, hp⟩ := hprojected
  obtain ⟨hget, hwrite⟩ := Transaction.write_eq ht hfollows hp
  have hproject : aggregateType.project (fun _ _ => false) rows e =
      .ok (rows.insert e.aggregate scope) := by
    have hadmits : aggregateType.constraints.Admits rows e.aggregate scope := by
      simp [Constraints.Admits, aggregateType]
    simp only [project, hget]
    rw [show aggregateType.row (t.existing.map Prod.snd) e = .ok scope from hrow]
    simp only [Except.bind]
    exact if_pos ⟨fun x hx => absurd hx List.not_mem_nil, hadmits⟩
  obtain ⟨hpayload, hupdated, hrevision⟩ := row_eq_ok hrow
  -- the revision that was read counts the events
  have hlength : (t.existing.map Prod.snd).elim 0 ComplianceScope.revision = log.length := by
    rw [← h.read_eq ht]
    unfold Transaction.read
    cases t.existing <;> rfl
  -- the event is of the one row that there is
  have honly : ∀ (k : Id) r, rows[k]? = some r → k = e.aggregate := by
    intro k r hr
    cases hexisting : t.existing with
    | none =>
      rw [getScope_eq_none (ht.symm.trans hexisting) k] at hr
      cases hr
    | some x =>
      rw [hexisting] at hget
      exact h.one k e.aggregate r x.2 hr hget
  rw [hwrite]
  have hnew : ∀ (k : Id) r, (rows.insert e.aggregate scope)[k]? = some r →
      e.aggregate = k ∧ r = scope := by
    intro k r hr
    rw [Table.get_insert] at hr
    split at hr
    · next hk => exact ⟨hk, (Option.some.inj hr).symm⟩
    · next hk => exact absurd (honly k r hr).symm hk
  exact {
    one := fun k k' r r' hr hr' => (hnew k r hr).1.symm.trans (hnew k' r' hr').1
    revision := fun k r hr => by
      rw [(hnew k r hr).2, hrevision, hlength, List.length_append, List.length_singleton]
    last := fun k r hr => by
      obtain ⟨hk, rfl⟩ := hnew k r hr
      exact ⟨e, List.getLast?_concat, hk, hpayload, hupdated⟩
    fit := fun k r hr => by
      obtain ⟨-, rfl⟩ := hnew k r hr
      exact hpayload ▸ hfollows.fit
    none := fun hnone => by
      have hthere := hnone e.aggregate
      rw [Table.get_insert_self] at hthere
      cases hthere
    kept := {
      kept := h.kept.kept.snoc lawful hproject
      logged := {
        wellFormed := hwell
        ordered := by
          rw [List.pairwise_append]
          refine ⟨h.kept.logged.ordered, List.pairwise_singleton .., fun e' he' e'' he'' => ?_⟩
          obtain rfl := List.mem_singleton.1 he''
          exact hlate e' he'
        past := fun e' he' => by
          rcases List.mem_append.1 he' with hold | hlast
          · exact h.recordedAt_le hold
          · obtain rfl := List.mem_singleton.1 hlast
            exact hpast } } }

/-! ## The invariant -/

/-- A clock reading that is not before the events that the transaction has seen. -/
def Late (log : List Event) (time : Time) (t : Transaction) (now : Time) : Prop :=
  now ≤ time ∧ ∀ e ∈ log.take t.read, e.recordedAt ≤ now

/-- The event that a call has stored. -/
def Stored (log : List Event) (time : Time) (t : Transaction)
    (req : Request Id Body String) (own : List Event) (e : Event) : Prop :=
  own = [e] ∧ e.aggregate = req.aggregate ∧ e.body = req.body ∧ Late log time t e.recordedAt

/-- What holds of a running call, at its statement. -/
def PcInv (log : List Event) (time : Time) (t : Transaction) (req : Request Id Body String)
    (own : List Event) : Pc Id Body String → Prop
  | .checkKey | .readClock => own = []
  | .attempt _ now | .readMax _ now | .insert _ now _ | .slotCheck _ now _ =>
    own = [] ∧ Late log time t now
  | .project e => Stored log time t req own e

/-- What holds of the latest call of a session with an open transaction. -/
def CallInv (log : List Event) (time : Time) (t : Transaction) (own : List Event) :
    Option (Call Id Body String) → Prop
  | some (.running req pc) => t.Follows req.aggregate req.body ∧ req.idempotencyKey = none ∧
      PcInv log time t req own pc
  | some (.returned req e _) => t.Follows req.aggregate req.body ∧
      Stored log time t req own e ∧ t.Projected e
  | _ => True

/-- What holds of a session. -/
def SessionInv (log : List Event) (time : Time) (session : Events.Session Id Body String) :
    Option Transaction → Prop
  | none => session.own = [] ∧ session.Idle
  | some t => t.read ≤ log.length ∧ CallInv log time t session.own session.call

/-- What every state of a run under `ReadCurrent` satisfies. -/
structure State.Inv (s : State ι) : Prop where
  store : s.store.Inv
  committed : Committed s.rows s.store.committed s.time
  session : ∀ i, SessionInv s.store.committed s.time (s.store.session i) (s.transaction i)

/-- What is late stays late. -/
theorem Late.mono {t : Transaction} (h : Late log time t now) (hlog : log <+: log')
    (ht : time ≤ time') (hread : t.read ≤ log.length) : Late log' time' t now := by
  obtain ⟨more, rfl⟩ := hlog
  refine ⟨h.1.trans ht, fun e he => h.2 e ?_⟩
  rwa [List.take_append_of_le_length hread] at he

/-- What holds of a session stays while the log grows. -/
theorem SessionInv.mono {session : Events.Session Id Body String} {o : Option Transaction}
    (h : SessionInv log time session o) (hlog : log <+: log') (ht : time ≤ time') :
    SessionInv log' time' session o := by
  cases o with
  | none => exact h
  | some t =>
    obtain ⟨hread, hcall⟩ := h
    refine ⟨hread.trans hlog.length_le, ?_⟩
    unfold CallInv at hcall ⊢
    split at hcall
    · obtain ⟨hfollows, hkey, hpc⟩ := hcall
      refine ⟨hfollows, hkey, ?_⟩
      -- by the statements: the first two have no reading of the clock yet
      unfold PcInv at hpc ⊢
      split at hpc
      · exact hpc
      · exact hpc
      · exact ⟨hpc.1, hpc.2.mono hlog ht hread⟩
      · exact ⟨hpc.1, hpc.2.mono hlog ht hread⟩
      · exact ⟨hpc.1, hpc.2.mono hlog ht hread⟩
      · exact ⟨hpc.1, hpc.2.mono hlog ht hread⟩
      · exact ⟨hpc.1, hpc.2.1, hpc.2.2.1, hpc.2.2.2.mono hlog ht hread⟩
    · obtain ⟨hfollows, hstored, hprojected⟩ := hcall
      exact ⟨hfollows, ⟨hstored.1, hstored.2.1, hstored.2.2.1, hstored.2.2.2.mono hlog ht hread⟩,
        hprojected⟩
    · trivial

variable {s s' : State ι} {i : ι}

/-- At the start no transaction is open. -/
theorem inv_initial : (State.initial : State ι).Inv where
  store := inv_quiescent wellFormed_nil
  committed := committed_empty
  session _ := ⟨rfl, fun _ _ hcall => by cases hcall⟩

/-- A step that only concerns session `i`. -/
theorem State.Inv.of_same (h : s.Inv) (hstore : s'.store.Inv) (hrows : s'.rows = s.rows)
    (hlog : s'.store.committed = s.store.committed) (ht : s.time ≤ s'.time)
    (hother : ∀ j, j ≠ i →
      s'.store.session j = s.store.session j ∧ s'.transaction j = s.transaction j)
    (hi : SessionInv s.store.committed s'.time (s'.store.session i) (s'.transaction i)) :
    s'.Inv where
  store := hstore
  committed := by
    rw [hrows, hlog]
    exact h.committed.wait ht
  session j := by
    rw [hlog]
    -- Only the session that steps has to be looked at.
    by_cases hj : j = i
    · exact hj ▸ hi
    · rw [(hother j hj).1, (hother j hj).2]
      exact (h.session j).mono List.prefix_rfl ht

/-! ## What a step keeps -/

variable [DecidableEq ι]

/-- The transaction set is the session's. -/
@[simp] theorem setTransaction_self {t : Option Transaction} :
    (s.setTransaction i t).transaction i = t := by
  simp [State.setTransaction]

/-- The other sessions keep theirs. -/
theorem setTransaction_ne {t : Option Transaction} {j : ι} (hj : j ≠ i) :
    (s.setTransaction i t).transaction j = s.transaction j := by
  simp [State.setTransaction, hj]

omit [DecidableEq ι] in
/-- A call moves on without storing anything. -/
theorem CallInv.move {t : Transaction} {l : Events.Label ι Id Body String}
    {c : Call Id Body String} {o : Option (Call Id Body String)} {own : List Event}
    (hm : CallMove s.store i l o c) (h : CallInv log time t own o)
    (hstart : ∀ req, l = .call i req → own = [] ∧ t.Follows req.aggregate req.body ∧
      req.idempotencyKey = none)
    (hclock : ∀ now, l = .clock i now → Late log time t now) :
    CallInv log time t own (some c) := by
  have hexisting : ∀ req : Request Id Body String, req.idempotencyKey = none →
      s.store.existing i req = none := fun req hkey => by rw [Store.existing, hkey]; rfl
  -- A scope event has no key, so no look-up ever finds one.
  cases hm with
  | start req _ =>
    obtain ⟨hown, hfollows, hkey⟩ := hstart req rfl
    exact ⟨hfollows, hkey, hown⟩
  | foundFirst hfound => exact absurd ((hexisting _ h.2.1).symm.trans hfound) nofun
  | notFoundFirst _ => exact h
  | clock now => exact ⟨h.1, h.2.1, h.2.2, hclock now rfl⟩
  | exhausted _ => trivial
  | found hfound => exact absurd ((hexisting _ h.2.1).symm.trans hfound) nofun
  | notFound _ => exact h
  | next => exact h
  | refused _ => exact h
  | retry _ => exact h
  | raise _ => trivial

/-- A move of session `i`'s call, once its transaction is open. -/
theorem State.Inv.move (h : s.Inv) {l : Events.Label ι Id Body String} {c : Call Id Body String}
    (hm : CallMove s.store i l (s.store.session i).call c) {t : Transaction}
    (ht : s.transaction i = some t) (hlabel : ∀ req, l ≠ .call i req) (hnow : s.time ≤ now)
    (hclock : ∀ now', l = .clock i now' → now' = now) :
    ({ s with store := s.store.setCall i c, time := now } : State ι).Inv := by
  have hi := h.session i
  rw [ht] at hi
  refine h.of_same (i := i) (h.store.move hm) rfl rfl hnow
    (fun j hj => ⟨by simp [Store.setCall, Store.setSession, hj], rfl⟩) ?_
  show SessionInv _ _ _ (s.transaction i)
  rw [ht]
  have hi' : SessionInv s.store.committed now (s.store.session i) (some t) :=
    SessionInv.mono hi List.prefix_rfl hnow
  refine ⟨hi'.1, ?_⟩
  rw [Store.setCall_own, Store.setCall_call]
  refine hi'.2.move hm (fun req hreq => absurd hreq (hlabel req)) fun now' hnow' => ?_
  obtain rfl := hclock now' hnow'
  -- the clock does not go back
  exact ⟨le_rfl, fun e he =>
    (h.committed.recordedAt_le (List.mem_of_mem_take he)).trans hnow⟩

/-- A call of `define_or_revise_scope` opens a transaction. -/
theorem State.Inv.call (h : s.Inv) {req : Request Id Body String} {newId : Id} {fields : Fields}
    {actor : Actor} {payload : Payload} (ht : s.transaction i = none)
    (hpayload : payloadOf fields = .ok payload)
    (hreq : req.toAppendArgs = appendArgs (getScope s.rows) newId payload actor)
    (hm : CallMove s.store i (.call i req) (s.store.session i).call (.running req .checkKey)) :
    ({ s.setTransaction i (some { existing := getScope s.rows }) with
        store := s.store.setCall i (.running req .checkKey) } : State ι).Inv := by
  have hi := h.session i
  rw [ht] at hi
  refine h.of_same (i := i) (h.store.move hm) rfl rfl le_rfl
    (fun j hj => ⟨by simp [Store.setCall, Store.setSession, hj], setTransaction_ne hj⟩) ?_
  show SessionInv _ _ _ ((s.setTransaction i _).transaction i)
  rw [setTransaction_self]
  refine ⟨(h.committed.read_eq rfl).le, ?_⟩
  rw [Store.setCall_own, Store.setCall_call]
  have hfit : Fit payload := fit_of_payloadOf hpayload
  have hfollows : Transaction.Follows { existing := getScope s.rows } req.aggregate req.body ∧
      req.idempotencyKey = none := by
    unfold Transaction.Follows
    rw [hreq]
    unfold appendArgs
    -- Without a scope the request defines one, else it revises it.
    cases getScope s.rows with
    | none => exact ⟨hfit, rfl⟩
    | some x => exact ⟨⟨rfl, hfit⟩, rfl⟩
  exact ⟨hfollows.1, hfollows.2, hi.1⟩

/-- A call stores its event. -/
theorem State.Inv.insert (h : s.Inv) {req : Request Id Body String} {n next : Nat} {now : Time}
    (hc : (s.store.session i).call = some (.running req (.insert n now next)))
    (hr : ¬ Refused s.store i (req.candidate now next))
    (hb : ¬ Blocked s.store i (req.candidate now next)) :
    ({ s with store := s.store.insertRow i req (req.candidate now next) } : State ι).Inv := by
  have hi := h.session i
  refine h.of_same (i := i) (h.store.insert hc hr hb) rfl rfl le_rfl
    (fun j hj => ⟨Store.insertRow_session_ne hj, rfl⟩) ?_
  show SessionInv _ _ _ (s.transaction i)
  -- A call is running, so there is a transaction.
  cases ht : s.transaction i with
  | none =>
    rw [ht] at hi
    exact absurd hc (hi.2 _ _)
  | some t =>
    rw [ht] at hi
    obtain ⟨hread, hcall⟩ := hi
    rw [hc] at hcall
    obtain ⟨hfollows, hkey, hown, hlate⟩ := hcall
    refine ⟨hread, ?_⟩
    rw [Store.insertRow_own_self, Store.insertRow_call, hown]
    exact ⟨hfollows, hkey, rfl, rfl, rfl, hlate⟩

omit [DecidableEq ι] in
/-- The projector of a transaction works on what the transaction has read. -/
theorem Transaction.project_eq_ok {t t' : Transaction} (hfollows : t.Follows e.aggregate e.body)
    (h : t.project rows e = .ok t') : t'.existing = t.existing ∧ t'.Projected e := by
  unfold Transaction.project at h
  cases hexisting : t.existing with
  | none =>
    unfold Transaction.Follows at hfollows
    simp only [hexisting] at h hfollows
    split at hfollows
    · next heq _ => cases heq
    · next payload _ hbody =>
      -- a row under the new id would have refused the insert
      cases hget : rows[e.aggregate]? with
      | none =>
        rw [hget] at h
        cases hrow : ComplianceScopes.row none e with
        | error x => rw [hrow] at h; cases h
        | ok scope =>
          rw [hrow] at h
          obtain rfl := Except.ok.inj h
          exact ⟨rfl, scope, hrow, rfl⟩
      | some old =>
        rw [hget] at h
        simp only [ComplianceScopes.row, hbody] at h
        cases h
    · cases hfollows
  | some x =>
    obtain ⟨id, old⟩ := x
    simp only [hexisting] at h
    rw [if_pos (hfollows.aggregate_eq hexisting).symm] at h
    cases hrow : ComplianceScopes.row (some old) e with
    | error x => rw [hrow] at h; cases h
    | ok scope =>
      rw [hrow] at h
      obtain rfl := Except.ok.inj h
      exact ⟨rfl, scope, hrow, rfl⟩

/-- A call runs its projector and returns. -/
theorem State.Inv.project (h : s.Inv) {req : Request Id Body String} {t t' : Transaction}
    (hc : (s.store.session i).call = some (.running req (.project e)))
    (ht : s.transaction i = some t) (hp : t.project s.rows e = .ok t') :
    ({ s.setTransaction i (some t') with
        store := s.store.runProjector i req e } : State ι).Inv := by
  have hi := h.session i
  rw [ht] at hi
  obtain ⟨hread, hcall⟩ := hi
  rw [hc] at hcall
  obtain ⟨hfollows, -, hown, haggregate, hbody, hlate⟩ := hcall
  have hfollows' : t.Follows e.aggregate e.body := by
    rw [haggregate, hbody]
    exact hfollows
  obtain ⟨hexisting, hprojected⟩ := Transaction.project_eq_ok hfollows' hp
  have hreadEq : t'.read = t.read := by
    unfold Transaction.read
    rw [hexisting]
  refine h.of_same (i := i) h.store.project rfl rfl le_rfl
    (fun j hj => ⟨Store.runProjector_session_ne hj, setTransaction_ne hj⟩) ?_
  show SessionInv _ _ _ ((s.setTransaction i _).transaction i)
  rw [setTransaction_self]
  refine ⟨hreadEq ▸ hread, ?_⟩
  rw [Store.runProjector_own, Store.runProjector_call]
  refine ⟨?_, ⟨hown, haggregate, hbody, hlate.1, ?_⟩, hprojected⟩
  · unfold Transaction.Follows
    rw [hexisting]
    exact hfollows
  · rw [hreadEq]
    exact hlate.2

/-- A rollback drops the transaction with its event. -/
theorem State.Inv.rollback (h : s.Inv) (i : ι) :
    ({ s.setTransaction i none with store := s.store.rollback i } : State ι).Inv := by
  refine h.of_same (i := i) h.store.rollback rfl rfl le_rfl
    (fun j hj => ⟨Store.rollback_session_ne hj, setTransaction_ne hj⟩) ?_
  show SessionInv _ _ _ ((s.setTransaction i none).transaction i)
  rw [setTransaction_self]
  refine ⟨Store.rollback_own_self, fun req pc hcall => ?_⟩
  rw [Store.rollback_call_self] at hcall
  cases hcall

/-- A call that has read the current scope commits. -/
theorem State.Inv.commit (h : s.Inv) {t : Transaction} (ht : s.transaction i = some t)
    {req : Request Id Body String} {b : Bool}
    (hc : (s.store.session i).call = some (.returned req e b))
    (hcurrent : t.existing = getScope s.rows) :
    ({ s.setTransaction i none with
        store := s.store.commit i, rows := t.write s.rows } : State ι).Inv := by
  have hi := h.session i
  rw [ht] at hi
  obtain ⟨-, hcall⟩ := hi
  rw [hc] at hcall
  obtain ⟨hfollows, ⟨hown, haggregate, hbody, hnow, hlate⟩, hprojected⟩ := hcall
  -- what the transaction has stored is this one event, and what it has read is all that is stored
  have hvisible : s.store.visible i = s.store.committed ++ [e] := by rw [Store.visible, hown]
  have hwell : WellFormed (s.store.committed ++ [e]) := hvisible ▸ h.store.visible i
  rw [h.committed.read_eq hcurrent, List.take_length] at hlate
  have hcommitted : Committed (t.write s.rows) (s.store.committed ++ [e]) s.time := by
    refine h.committed.commit hcurrent ?_ hprojected hwell hlate hnow
    rw [haggregate, hbody]
    exact hfollows
  refine ⟨h.store.commit, ?_, fun j => ?_⟩
  · show Committed _ (s.store.visible i) _
    rw [hvisible]
    exact hcommitted
  · show SessionInv (s.store.visible i) s.time ((s.store.commit i).session j)
      ((s.setTransaction i none).transaction j)
    -- the other sessions see one more committed event
    by_cases hj : j = i
    · subst hj
      rw [setTransaction_self]
      refine ⟨Store.commit_own_self, fun req' pc hcall => ?_⟩
      rw [Store.commit_call, hc] at hcall
      cases hcall
    · rw [setTransaction_ne hj, Store.commit_session_ne hj]
      exact (h.session j).mono (List.prefix_append ..) le_rfl

/-! ## The runs -/

/-- The scope has not changed since the transaction that commits has read it. -/
def ReadCurrent (s : State ι) : Label ι → Prop
  | .commit i => ∀ t ∈ s.transaction i, t.existing = getScope s.rows
  | _ => True

variable [Fintype ι] {l : Label ι}

/-- A step under `ReadCurrent` keeps the invariant. -/
theorem State.Inv.step (h : s.Inv) (hok : ReadCurrent s l)
    (hs : ConcurrentScope.step s l = some s') : s'.Inv := by
  cases l with
  | call i newId fields actor =>
    simp only [ConcurrentScope.step] at hs
    split at hs
    · next payload ht hpayload =>
      obtain ⟨store, hstore, rfl⟩ := Option.map_eq_some_iff.1 hs
      cases step_cases hstore with
      | @move _ j c hm =>
        obtain rfl : i = j := hm.session_eq
        generalize hcall : (s.store.session i).call = o at hm
        cases hm with
        | start req hidle => exact h.call ht hpayload rfl (hcall ▸ .start _ hidle)
    · cases hs
  | clock i now =>
    simp only [ConcurrentScope.step] at hs
    split at hs
    · next hnow =>
      obtain ⟨store, hstore, rfl⟩ := Option.map_eq_some_iff.1 hs
      cases step_cases hstore with
      | @move _ j c hm =>
        obtain rfl : i = j := hm.session_eq
        cases ht : s.transaction i with
        | none =>
          have hidle := h.session i
          rw [ht] at hidle
          generalize hcall : (s.store.session i).call = o at hm
          cases hm
          exact absurd hcall (hidle.2 _ _)
        | some t =>
          exact h.move hm ht (fun req heq => by cases heq) hnow
            fun now' heq => (Events.Label.clock.inj heq).2.symm
    · cases hs
  | statement i =>
    simp only [ConcurrentScope.step] at hs
    split at hs
    · next t req event ht hc =>
      split at hs
      · next t' hp =>
        obtain ⟨store, hstore, rfl⟩ := Option.map_eq_some_iff.1 hs
        rw [step_statement hc] at hstore
        obtain rfl := Option.some.inj hstore
        exact h.project hc ht hp
      · obtain ⟨store, hstore, rfl⟩ := Option.map_eq_some_iff.1 hs
        obtain rfl := Option.some.inj hstore
        exact h.rollback i
    · next hnot =>
      obtain ⟨store, hstore, rfl⟩ := Option.map_eq_some_iff.1 hs
      cases ht : s.transaction i with
      | none =>
        -- a session without a transaction runs no statement
        have hidle := h.session i
        rw [ht] at hidle
        simp only [Events.step] at hstore
        split at hstore
        · next hc => exact absurd hc (hidle.2 _ _)
        · cases hstore
      | some t =>
        cases step_cases hstore with
        | @move _ j c hm =>
          obtain rfl : i = j := hm.session_eq
          exact h.move hm ht (fun req heq => by cases heq) le_rfl fun now' heq => by cases heq
        | insert hc hr hb => exact h.insert hc hr hb
        | project hc => exact absurd hc (hnot t _ _ ht)
  | commit i =>
    simp only [ConcurrentScope.step] at hs
    split at hs
    · next t req event created ht hc =>
      obtain ⟨store, hstore, rfl⟩ := Option.map_eq_some_iff.1 hs
      cases step_cases hstore with
      | move hm => cases hm
      | commit hidle => exact h.commit ht hc (hok t ht)
    · cases hs
  | rollback i =>
    obtain rfl := Option.some.inj hs
    exact h.rollback i

/-- No step removes a committed event. -/
theorem committed_extends (hs : ConcurrentScope.step s l = some s') :
    s.store.committed <+: s'.store.committed := by
  have hkeep : ∀ {l' store}, Events.step s.store l' = some store →
      s.store.committed <+: store.committed := fun hstore => (step_keepsStored hstore).committed
  -- Only a commit adds to the log.
  cases l with
  | call i newId fields actor =>
    simp only [ConcurrentScope.step] at hs
    split at hs
    · obtain ⟨store, hstore, rfl⟩ := Option.map_eq_some_iff.1 hs
      exact hkeep hstore
    · cases hs
  | clock i now =>
    simp only [ConcurrentScope.step] at hs
    split at hs
    · obtain ⟨store, hstore, rfl⟩ := Option.map_eq_some_iff.1 hs
      exact hkeep hstore
    · cases hs
  | statement i =>
    simp only [ConcurrentScope.step] at hs
    split at hs
    · split at hs <;>
      · obtain ⟨store, hstore, rfl⟩ := Option.map_eq_some_iff.1 hs
        exact hkeep hstore
    · obtain ⟨store, hstore, rfl⟩ := Option.map_eq_some_iff.1 hs
      exact hkeep hstore
  | commit i =>
    simp only [ConcurrentScope.step] at hs
    split at hs
    · obtain ⟨store, hstore, rfl⟩ := Option.map_eq_some_iff.1 hs
      exact hkeep hstore
    · cases hs
  | rollback i =>
    obtain rfl := Option.some.inj hs
    exact List.prefix_rfl

/-- The event of a call that commits is stored. -/
theorem State.Inv.commit_mem (h : s.Inv) (hs : ConcurrentScope.step s (.commit i) = some s') :
    ∃ req e b, (s.store.session i).call = some (.returned req e b) ∧ e.body = req.body ∧
      e ∈ s'.store.committed := by
  simp only [ConcurrentScope.step] at hs
  split at hs
  · next t req event created ht hc =>
    obtain ⟨store, hstore, rfl⟩ := Option.map_eq_some_iff.1 hs
    have hi := h.session i
    rw [ht] at hi
    obtain ⟨-, hcall⟩ := hi
    rw [hc] at hcall
    obtain ⟨-, ⟨hown, -, hbody, -⟩, -⟩ := hcall
    refine ⟨req, event, created, hc, hbody, ?_⟩
    show event ∈ store.committed
    rw [(step_keepsStored hstore).commit i rfl, hown]
    exact List.mem_append_right _ List.mem_cons_self
  · cases hs

/-- Along every run in which each call that commits has read the current scope, the scope is
    the one row that the log describes, a rebuild gives it back, and the event of every call
    that commits is kept for ever. -/
theorem scope_singleton (h : Run (ConcurrentScope.step (ι := ι)) ReadCurrent State.initial s) :
    Declared s.rows s.store.committed ∧
      (∀ present, rebuildAndCommit (aggregateType.projection present false) s.rows
        s.store.committed = .ok s.rows) ∧
      ∀ i s₁ s₂, ConcurrentScope.step s (.commit i) = some s₁ →
        Run ConcurrentScope.step (fun _ _ => True) s₁ s₂ →
        ∃ req e b, (s.store.session i).call = some (.returned req e b) ∧ e.body = req.body ∧
          e ∈ s₂.store.committed := by
  have hinv : s.Inv := h.invariant inv_initial fun _ _ _ hi hok hs => hi.step hok hs
  refine ⟨hinv.committed.toDeclared, hinv.committed.rebuild, fun i s₁ s₂ hs hlater => ?_⟩
  obtain ⟨req, e, b, hc, hbody, hmem⟩ := hinv.commit_mem hs
  have hprefix : s₁.store.committed <+: s₂.store.committed :=
    hlater.invariant (P := fun s => s₁.store.committed <+: s.store.committed) List.prefix_rfl
      fun _ _ _ hp _ hstep => hp.trans (committed_extends hstep)
  exact ⟨req, e, b, hc, hbody, hprefix.subset hmem⟩

/-! ## Calls that overlap -/

instance (s : State ι) : DecidablePred (ReadCurrent s)
  | .commit i => inferInstanceAs (Decidable (∀ t ∈ s.transaction i, t.existing = getScope s.rows))
  | .call .. | .clock .. | .statement _ | .rollback _ => .isTrue trivial

/-- The statements of a call that meets no conflict, with its clock reading. -/
def append (i : Writer) (now : Time) : List (Label Writer) :=
  [.statement i, .clock i now, .statement i, .statement i, .statement i, .statement i, .commit i]

/-- Both sessions read before either commits. -/
def definedTwice : List (Label Writer) :=
  [.call .a 1 {} {}, .call .b 2 {} {}] ++ append .a 5 ++ append .b 6

/-- The scope is defined, and then both sessions read it before either revises it. -/
def revisedTwice : List (Label Writer) :=
  .call .a 1 {} {} :: append .a 5 ++
    [.call .a 2 {} {}, .call .b 3 { locations := "EU" } {}] ++ append .a 6 ++ append .b 7

/-- Two first calls that overlap define two scopes, and of two revisions that overlap one is
    not counted. -/
theorem scope_not_singleton :
    (∃ s : State Writer, Run ConcurrentScope.step (fun _ _ => True) State.initial s ∧
      ¬ Declared s.rows s.store.committed) ∧
    ∃ s : State Writer, Run ConcurrentScope.step (fun _ _ => True) State.initial s ∧
      (∃ r, s.rows[1]? = some r ∧ r.revision = 2) ∧ s.store.committed.length = 3 := by
  constructor
  · obtain ⟨s, hs, r₁, h₁, r₂, h₂⟩ : ∃ s : State Writer, Run.exec ConcurrentScope.step State.initial
        definedTwice = some s ∧ ∃ r₁, s.rows[1]? = some r₁ ∧ ∃ r₂, s.rows[2]? = some r₂ :=
      ⟨_, rfl, _, rfl, _, rfl⟩
    exact ⟨s, Run.of_exec_true _ hs, fun h => absurd (h.one 1 2 r₁ r₂ h₁ h₂) (by decide)⟩
  · obtain ⟨s, hs, hrow, hlength⟩ : ∃ s : State Writer, Run.exec ConcurrentScope.step State.initial
        revisedTwice = some s ∧ (∃ r, s.rows[1]? = some r ∧ r.revision = 2) ∧
        s.store.committed.length = 3 :=
      ⟨_, rfl, ⟨_, rfl, rfl⟩, rfl⟩
    exact ⟨s, Run.of_exec_true _ hs, hrow, hlength⟩

/-- One session defines the scope, and another revises it afterwards. -/
def revisedOnce : List (Label Writer) :=
  .call .a 1 {} {} :: append .a 5 ++ .call .b 3 { locations := "EU" } {} :: append .b 6

/-- `scope_singleton` for two calls that do not overlap. -/
theorem scope_singleton_revisedOnce :
    ∃ s : State Writer, Run.exec ConcurrentScope.step State.initial revisedOnce = some s ∧
      ∃ r, s.rows[1]? = some r ∧ r.locations = "EU" ∧ r.revision = s.store.committed.length := by
  obtain ⟨s, hs, hguarded, r, hr, hlocations⟩ : ∃ s : State Writer,
      Run.exec ConcurrentScope.step State.initial revisedOnce = some s ∧
      Run.exec (Run.guarded ConcurrentScope.step ReadCurrent) State.initial revisedOnce = some s ∧
      ∃ r, s.rows[1]? = some r ∧ r.locations = "EU" :=
    ⟨_, rfl, rfl, _, rfl, rfl⟩
  exact ⟨s, hs, r, hr, hlocations,
    (scope_singleton (Run.of_exec_guarded _ hguarded)).1.revision 1 r hr⟩

end MiniGrc.ConcurrentScope
