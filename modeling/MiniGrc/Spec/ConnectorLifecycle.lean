import MiniGrc.ForStd.Run
import MiniGrc.App.ConnectorLifecycle

/-!
# Connectors run exactly once

What any sequence of calls of `run_connector_instance` leaves behind, whatever the connectors
return or raise and wherever the database fails.

## Key results

- `ran`: the ways in which a run can end
- `exactly_once`: one execution for a key, the facts are those of the successful executions,
  each ingested once, a repeated call returns the execution it finds, and a disabled instance
  does nothing
-/

namespace MiniGrc.Connectors

variable {platform : Platform} {db db' : Database} {instance' : ConnectorInstance} {c : Call}
  {s s₀ s' : State}

/-! ## The ledger -/

/-- `uq_connector_execution_instance_key`. -/
def UniqueKeys (executions : Table ConnectorExecution) : Prop :=
  ∀ (k k' : Id) e e', executions[k]? = some e → executions[k']? = some e' →
    e.connectorInstanceId = e'.connectorInstanceId → e.idempotencyKey = e'.idempotencyKey → k = k'

/-- What a successful execution has ingested, with the ids that were drawn for its rows. -/
structure Ingestion where
  executionId : Id
  manifest : ConnectorManifest
  result : ConnectorResult
  newId : Nat → Id

/-- The rows that an ingestion leaves, written. -/
def Ingestion.apply (platform : Platform) (facts : Facts) (g : Ingestion) : Option Facts :=
  match ingest platform g.result g.manifest g.newId facts.pending with
  | .returned pending => pending.write facts
  | .raised _ _ => none

/-- The facts are those of `s₀` and of the given ingestions, which are those of the successful
    executions since, each once. -/
structure Ledger (platform : Platform) (s₀ s : State) (ingestions : List Ingestion) : Prop where
  facts : ingestions.foldlM (Ingestion.apply platform) s₀.db.facts = some s.db.facts
  nodup : (ingestions.map Ingestion.executionId).Nodup
  executions : ∀ id, id ∈ ingestions.map Ingestion.executionId ↔
    id ∉ s₀.db.executions ∧ ∃ e, s.db.executions[id]? = some e ∧ e.status = .success

/-- The execution is one for the key of the call. -/
def ConnectorExecution.For (e : ConnectorExecution) (c : Call) : Prop :=
  e.connectorInstanceId = c.instanceId ∧ e.idempotencyKey = c.idempotencyKey

/-- The ingestion is that of the result which the connector returns to the call. -/
def Ingestion.Of (g : Ingestion) (c : Call) : Prop :=
  g.executionId = c.executionId ∧ g.manifest = c.manifest ∧
    ∃ config, c.connectorCallable config = .ok g.result

/-- A successful run, or one whose effects are gone but for a failed execution at most. -/
inductive Atomic (platform : Platform) (s : State) (c : Call) (s' : State) : Prop
  | success (e : ConnectorExecution) (g : Ingestion) : e.For c → g.Of c →
      c.executionId ∉ s.db.executions → e.status = .success →
      s'.db.executions = s.db.executions.insert c.executionId e →
      g.apply platform s.db.facts = some s'.db.facts → Atomic platform s c s'
  | failed (e : ConnectorExecution) : e.For c →
      c.executionId ∉ s.db.executions → e.status ≠ .success →
      s'.db.executions = s.db.executions.insert c.executionId e →
      s'.db.facts = s.db.facts → Atomic platform s c s'
  | unchanged : s'.db = s.db → Atomic platform s c s'

/-- What holds after calls that have led from `s₀` to `s`. -/
structure ExactlyOnce (platform : Platform) (s₀ s : State) : Prop where
  unique : UniqueKeys s.db.executions
  kept : ∀ (id : Id) e, s₀.db.executions[id]? = some e → s.db.executions[id]? = some e
  ledger : ∃ ingestions, Ledger platform s₀ s ingestions
  atomic : ∀ c s', step platform s (.call c) = some s' → Atomic platform s c s'
  /-- the execution for the key is returned, and nothing else happens -/
  repeated : ∀ c instance' (id : Id) e, s.db.instances[c.instanceId]? = some instance' →
    instance'.enabled → s.db.executions[id]? = some e →
    e.connectorInstanceId = c.instanceId → e.idempotencyKey = c.idempotencyKey →
    runConnectorInstance platform s.db instance' c = (.returned s.db id e, false) ∧
      step platform s (.call c) = some s
  /-- the call raises, and nothing else happens -/
  disabled : ∀ c instance', s.db.instances[c.instanceId]? = some instance' → ¬ instance'.enabled →
    (∃ exc, runConnectorInstance platform s.db instance' c = (.raised s.db exc, false)) ∧
      step platform s (.call c) = some s

/-! ## How a run ends -/

theorem findExecution_some {executions : Table ConnectorExecution} {instanceId : Id}
    {key : String} {x : Id × ConnectorExecution}
    (h : findExecution executions instanceId key = some x) :
    executions[x.1]? = some x.2 ∧ x.2.connectorInstanceId = instanceId ∧
      x.2.idempotencyKey = key := by
  have hmem := List.mem_of_find?_eq_some h
  have hx := List.find?_some h
  simp only [decide_eq_true_eq] at hx
  exact ⟨Std.ExtTreeMap.mem_toList_iff_getElem?_eq_some.1 hmem, hx⟩

/-- The look-up finds the execution for the key, if there is one. -/
theorem UniqueKeys.findExecution_eq {executions : Table ConnectorExecution}
    (h : UniqueKeys executions) {id : Id} {e : ConnectorExecution}
    (he : executions[id]? = some e) :
    findExecution executions e.connectorInstanceId e.idempotencyKey = some (id, e) := by
  have hsome : (findExecution executions e.connectorInstanceId e.idempotencyKey).isSome := by
    rw [findExecution, List.find?_isSome]
    exact ⟨(id, e), by simpa using he, by simp⟩
  obtain ⟨x, hx⟩ := Option.isSome_iff_exists.1 hsome
  obtain ⟨hrow, hinstance, hkey⟩ := findExecution_some hx
  have hid : x.1 = id := h x.1 id x.2 e hrow he hinstance hkey
  rw [hid, he] at hrow
  have hx' : x = (id, e) := Prod.ext hid (Option.some.inj hrow).symm
  rw [hx, hx']

theorem insertRow_some {ρ : Type} {conflict : ρ → ρ → Bool} {rows rows' : Table ρ}
    {x : Id × ρ} (h : insertRow conflict rows x = some rows') :
    x.1 ∉ rows ∧ (∀ (k : Id) r, rows[k]? = some r → conflict x.2 r = false) ∧
      rows' = rows.insert x.1 x.2 := by
  unfold insertRow at h
  split at h
  · cases h
  · next hfree =>
    rw [not_or] at hfree
    refine ⟨hfree.1, fun k r hr => ?_, (Option.some.inj h).symm⟩
    have hany := hfree.2
    rw [Bool.not_eq_true, Table.any_toList_eq_false] at hany
    exact hany k r hr

/-- A session that holds nothing back writes nothing. -/
@[simp] theorem pending_write (facts : Facts) : facts.pending.write facts = some facts := rfl

/-- What a flush writes. -/
theorem flush_some {pending : Pending} {e : ConnectorExecution}
    (h : flush db c pending e instance' = some db') :
    pending.write db.facts = some db'.facts ∧ c.executionId ∉ db.executions ∧
      (∀ (k : Id) e', db.executions[k]? = some e' →
        ¬ (e.connectorInstanceId = e'.connectorInstanceId ∧
          e.idempotencyKey = e'.idempotencyKey)) ∧
      db'.executions = db.executions.insert c.executionId e := by
  unfold flush at h
  split at h
  · cases h
  · split at h
    · next facts executions hfacts hexecutions =>
      obtain rfl := Option.some.inj h
      obtain ⟨hid, hkeys, hrows⟩ := insertRow_some hexecutions
      refine ⟨hfacts, hid, fun k e' he' => ?_, hrows⟩
      have hfree := hkeys k e' he'
      simpa using hfree
    · cases h

/-- The flush that ends a run writes everything, or nothing. -/
theorem finish_cases (db : Database) (c : Call) (pending : Pending) (e : ConnectorExecution)
    (instance' : ConnectorInstance) :
    (∃ db', flush db c pending e instance' = some db' ∧
        finish db c pending e instance' = .returned db' c.executionId e) ∨
      finish db c pending e instance' = .raised db .databaseError := by
  unfold finish
  cases flush db c pending e instance' with
  | none => exact .inr rfl
  | some db' => exact .inl ⟨db', rfl, rfl⟩

/-- How a run ends, and whether it has invoked the connector. -/
inductive Ran (platform : Platform) (db : Database) (c : Call) (instance' : ConnectorInstance) :
    RunOutcome × Bool → Prop
  | disabled (exc : PyException) : Ran platform db c instance' (.raised db exc, false)
  | existing (id : Id) (e : ConnectorExecution) : db.executions[id]? = some e →
      Ran platform db c instance' (.returned db id e, false)
  | success (g : Ingestion) (e : ConnectorExecution) (db' : Database) : e.For c → g.Of c →
      e.status = .success →
      g.apply platform db.facts = some db'.facts → c.executionId ∉ db.executions →
      UniqueKeys (db.executions.insert c.executionId e) →
      db'.executions = db.executions.insert c.executionId e →
      Ran platform db c instance' (.returned db' c.executionId e, true)
  | failed (e : ConnectorExecution) (db' : Database) : e.For c → e.status ≠ .success →
      db'.facts = db.facts → c.executionId ∉ db.executions →
      UniqueKeys (db.executions.insert c.executionId e) →
      db'.executions = db.executions.insert c.executionId e →
      Ran platform db c instance' (.returned db' c.executionId e, true)
  | raised (exc : PyException) : Ran platform db c instance' (.raised db exc, true)

theorem UniqueKeys.insert {executions : Table ConnectorExecution} (h : UniqueKeys executions)
    {id : Id} {e : ConnectorExecution}
    (hfree : ∀ (k : Id) e', executions[k]? = some e' →
      ¬ (e.connectorInstanceId = e'.connectorInstanceId ∧ e.idempotencyKey = e'.idempotencyKey)) :
    UniqueKeys (executions.insert id e) := by
  intro k k' x x' hx hx' hinstance hkey
  rw [Table.get_insert] at hx hx'
  -- each of the two rows is the new one or an old one
  split at hx <;> split at hx'
  · next hk hk' => exact hk.symm.trans hk'
  · obtain rfl := Option.some.inj hx
    exact absurd ⟨hinstance, hkey⟩ (hfree k' x' hx')
  · obtain rfl := Option.some.inj hx'
    exact absurd ⟨hinstance.symm, hkey.symm⟩ (hfree k x hx)
  · exact h k k' x x' hx hx' hinstance hkey

theorem PyException.status_ne_success (exc : PyException) : exc.status ≠ .success := by
  cases exc <;> simp [PyException.status]

/-- A failed execution is written by itself, or not at all. -/
theorem ran_finish (h : UniqueKeys db.executions) {e : ConnectorExecution} (hfor : e.For c)
    (hne : e.status ≠ .success) (instance'' : ConnectorInstance) :
    Ran platform db c instance' (finish db c db.facts.pending e instance'', true) := by
  rcases finish_cases db c db.facts.pending e instance'' with ⟨db', hflush, hfinish⟩ | hfinish
  · obtain ⟨hfacts, hid, hfree, hexecutions⟩ := flush_some hflush
    rw [pending_write] at hfacts
    rw [hfinish]
    exact .failed e db' hfor hne (Option.some.inj hfacts).symm hid (h.insert hfree) hexecutions
  · rw [hfinish]
    exact .raised _

/-- The `except` branch leaves a failed execution, or raises. -/
theorem ran_recordFailure (h : UniqueKeys db.executions) (exc : PyException) :
    Ran platform db c instance' (recordFailure db c instance' exc, true) := by
  unfold recordFailure
  split
  · exact .raised _
  · exact ran_finish h ⟨rfl, rfl⟩ exc.status_ne_success _

theorem ran (h : UniqueKeys db.executions) :
    Ran platform db c instance' (runConnectorInstance platform db instance' c) := by
  unfold runConnectorInstance
  split
  · exact .disabled _
  · -- the paths in turn: a repeated key, an exception of the connector, a result that is not
    -- ingested, and the flush of one that is
    split
    · next x hx => exact .existing x.1 x.2 (findExecution_some hx).1
    · simp only
      split
      · exact ran_recordFailure h _
      · next result hresult =>
        split
        · exact ran_recordFailure h _
        · next pending hpending =>
          rcases finish_cases db c pending
            (c.execution .success (truncated (result.capability ++ ": " ++ result.title)) "")
            { instance' with lastSuccessAt := some c.finishedAt } with
            ⟨db', hflush, hfinish⟩ | hfinish
          · obtain ⟨hfacts, hid, hfree, hexecutions⟩ := flush_some hflush
            rw [hfinish]
            refine .success ⟨c.executionId, c.manifest, result, c.newId⟩ _ db' ⟨rfl, rfl⟩
              ⟨rfl, rfl, _, hresult⟩ rfl ?_ hid (h.insert hfree) hexecutions
            rw [Ingestion.apply]
            simp only [hpending, hfacts]
          · rw [hfinish]
            exact .raised _

/-! ## A call -/

theorem step_call (hinstance : s.db.instances[c.instanceId]? = some instance')
    {outcome : RunOutcome} {invoked : Bool}
    (hrun : runConnectorInstance platform s.db instance' c = (outcome, invoked)) :
    step platform s (.call c) = some
      { db := committed s.db c outcome
        invocations :=
          if invoked then s.invocations ++ [(c.instanceId, c.idempotencyKey)]
          else s.invocations } := by
  simp only [step, hinstance, Option.map_some, hrun]

/-- A call is atomic, and keeps the keys unique. -/
theorem atomic_step (h : UniqueKeys s.db.executions) (hs : step platform s (.call c) = some s') :
    Atomic platform s c s' ∧ UniqueKeys s'.db.executions := by
  cases hinstance : s.db.instances[c.instanceId]? with
  | none =>
    simp only [step, hinstance, Option.map_none] at hs
    cases hs
  | some instance' =>
    have hran : Ran platform s.db c instance'
        (runConnectorInstance platform s.db instance' c) := ran h
    generalize hrun : runConnectorInstance platform s.db instance' c = r at hran
    obtain ⟨outcome, invoked⟩ := r
    rw [step_call hinstance hrun] at hs
    obtain rfl := Option.some.inj hs
    -- a commit that fails leaves nothing, whatever the run has done
    by_cases hcommit : c.commitFails
    · have hdb : committed s.db c outcome = s.db := by
        cases outcome <;> simp [committed, hcommit]
      rw [hdb]
      exact ⟨.unchanged rfl, h⟩
    · cases hran with
      | disabled exc => exact ⟨.unchanged rfl, h⟩
      | raised exc => exact ⟨.unchanged rfl, h⟩
      | existing id e _ =>
        simp only [committed, hcommit]
        exact ⟨.unchanged rfl, h⟩
      | success g e db' hfor hg hst happly hid hunique hexecutions =>
        simp only [committed, hcommit]
        exact ⟨.success e g hfor hg hid hst hexecutions happly, hexecutions ▸ hunique⟩
      | failed e db' hfor hst hfacts hid hunique hexecutions =>
        simp only [committed, hcommit]
        exact ⟨.failed e hfor hid hst hexecutions hfacts, hexecutions ▸ hunique⟩

/-! ## Sequences of calls -/

theorem step_setEnabled {instanceId : Id} {enabled : Bool}
    (hs : step platform s (.setEnabled instanceId enabled) = some s') :
    s'.db.executions = s.db.executions ∧ s'.db.facts = s.db.facts := by
  simp only [step, Option.map_eq_some_iff] at hs
  obtain ⟨instance', -, rfl⟩ := hs
  exact ⟨rfl, rfl⟩

/-- A step that leaves the executions and the facts as they are. -/
theorem Ledger.unchanged {ingestions : List Ingestion} (h : Ledger platform s₀ s ingestions)
    (hexecutions : s'.db.executions = s.db.executions) (hfacts : s'.db.facts = s.db.facts) :
    Ledger platform s₀ s' ingestions where
  facts := by rw [hfacts, h.facts]
  nodup := h.nodup
  executions id := by rw [hexecutions, h.executions id]

/-- Executions are only added. -/
theorem Atomic.kept (h : Atomic platform s c s') {id : Id} {e : ConnectorExecution}
    (he : s.db.executions[id]? = some e) : s'.db.executions[id]? = some e := by
  have hne : c.executionId ∉ s.db.executions → c.executionId ≠ id := by
    rintro hnot rfl
    exact hnot (Table.mem_of_get he)
  cases h with
  | success e' g _ _ hid _ hexecutions _ => rw [hexecutions, Table.get_insert_ne (hne hid), he]
  | failed e' _ hid _ hexecutions _ => rw [hexecutions, Table.get_insert_ne (hne hid), he]
  | unchanged hdb => rw [hdb, he]

/-- A call adds its ingestion to the ledger, if its execution is a success. -/
theorem Ledger.call {ingestions : List Ingestion} (h : Ledger platform s₀ s ingestions)
    (hkept : ∀ (id : Id) e, s₀.db.executions[id]? = some e → s.db.executions[id]? = some e)
    (hatomic : Atomic platform s c s') : ∃ ingestions', Ledger platform s₀ s' ingestions' := by
  have hnew : c.executionId ∉ s.db.executions → c.executionId ∉ s₀.db.executions := by
    intro hnot hmem
    obtain ⟨e, he⟩ := Table.exists_get hmem
    exact hnot (Table.mem_of_get (hkept _ e he))
  cases hatomic with
  | unchanged hdb => exact ⟨ingestions, h.unchanged (by rw [hdb]) (by rw [hdb])⟩
  | failed e _ hid hst hexecutions hfacts =>
    refine ⟨ingestions, ?_, h.nodup, fun id => ?_⟩
    · rw [hfacts, h.facts]
    · rw [h.executions id, hexecutions]
      refine and_congr_right fun _ => ?_
      rw [Table.get_insert]
      split
      · next hk =>
        subst hk
        have hnone : s.db.executions[c.executionId]? = none := by simpa using hid
        simp [hnone, hst]
      · rfl
  | success e g _ hg hid hst hexecutions happly =>
    -- the id of the execution is new, so the ledger has no ingestion under it
    replace hg := hg.1
    have hfresh : g.executionId ∉ ingestions.map Ingestion.executionId := by
      rw [h.executions, hg]
      rintro ⟨-, e', he', -⟩
      exact hid (Table.mem_of_get he')
    refine ⟨ingestions ++ [g], ?_, ?_, fun id => ?_⟩
    · rw [List.foldlM_append, h.facts]
      simp [happly]
    · rw [List.map_append, List.nodup_append]
      refine ⟨h.nodup, by simp, fun a ha b hb => ?_⟩
      obtain rfl : b = g.executionId := by simpa using hb
      exact fun heq => hfresh (heq ▸ ha)
    · rw [List.map_append, List.mem_append, h.executions id, hexecutions]
      by_cases hk : id = c.executionId
      · subst hk
        simp [hg, hnew hid, hst]
      · simp [hg, hk, Table.get_insert_ne (Ne.symm hk)]

/-- What the calls so far have kept. -/
structure Inv (platform : Platform) (s₀ s : State) : Prop where
  unique : UniqueKeys s.db.executions
  kept : ∀ (id : Id) e, s₀.db.executions[id]? = some e → s.db.executions[id]? = some e
  ledger : ∃ ingestions, Ledger platform s₀ s ingestions

theorem Inv.step (h : Inv platform s₀ s) {a : Action} (hs : step platform s a = some s') :
    Inv platform s₀ s' := by
  obtain ⟨ingestions, hledger⟩ := h.ledger
  cases a with
  | call c =>
    obtain ⟨hatomic, hunique⟩ := atomic_step h.unique hs
    exact ⟨hunique, fun id e he => hatomic.kept (h.kept id e he), hledger.call h.kept hatomic⟩
  | setEnabled instanceId enabled =>
    obtain ⟨hexecutions, hfacts⟩ := step_setEnabled hs
    exact ⟨hexecutions ▸ h.unique, hexecutions ▸ h.kept,
      ingestions, hledger.unchanged hexecutions hfacts⟩

theorem inv_refl (h : UniqueKeys s₀.db.executions) : Inv platform s₀ s₀ where
  unique := h
  kept _ _ he := he
  ledger := by
    refine ⟨[], rfl, .nil, fun id => ?_⟩
    simp only [List.map_nil, List.not_mem_nil, false_iff]
    rintro ⟨hnot, e, he, -⟩
    exact hnot (Table.mem_of_get he)

/-- A repeated key. -/
theorem run_repeated (h : UniqueKeys db.executions) (henabled : instance'.enabled) {id : Id}
    {e : ConnectorExecution} (he : db.executions[id]? = some e)
    (hinstance : e.connectorInstanceId = c.instanceId)
    (hkey : e.idempotencyKey = c.idempotencyKey) :
    runConnectorInstance platform db instance' c = (.returned db id e, false) := by
  have hfind := h.findExecution_eq he
  rw [hinstance, hkey] at hfind
  unfold runConnectorInstance
  rw [if_neg (not_not.2 henabled), hfind]

/-- Any sequence of calls, from any database, with connectors that return or raise anything and
    a database that may fail in every flush and commit, runs each key of an instance at most
    once, and a run leaves its facts with a successful execution or not at all. -/
theorem exactly_once (h₀ : UniqueKeys s₀.db.executions)
    (h : Run (step platform) (fun _ _ => True) s₀ s) : ExactlyOnce platform s₀ s := by
  have hinv : Inv platform s₀ s := h.invariant (inv_refl h₀) fun _ _ _ ht _ hu => ht.step hu
  -- The invariant gives the ledger; the last two parts follow the code.
  refine ⟨hinv.unique, hinv.kept, hinv.ledger, fun c s' hs => (atomic_step hinv.unique hs).1, ?_,
    ?_⟩
  · intro c instance' id e hinstance henabled he hid hkey
    have hrun : runConnectorInstance platform s.db instance' c = (.returned s.db id e, false) :=
      run_repeated hinv.unique henabled he hid hkey
    refine ⟨hrun, ?_⟩
    rw [step_call hinstance hrun]
    simp [committed]
  · intro c instance' hinstance hdisabled
    have hrun : runConnectorInstance platform s.db instance' c = (.raised s.db (.lifecycleError
        ("connector instance '" ++ instance'.displayName ++ "' is disabled")), false) := by
      unfold runConnectorInstance
      rw [if_pos hdisabled]
    exact ⟨⟨_, hrun⟩, by rw [step_call hinstance hrun]; rfl⟩

/-! ## A connector that fails once -/

/-- The platform, as far as the samples use it: their payloads are empty and their addresses in
    lower case. -/
def samplePlatform : Platform where
  dumps _ := "{}"
  sha256 _ := "44136fa355b3678a1146ad16f7e8649e94fb4fc21fe77e8310c060f61caaff8a"
  lower := id
  decrypt _ _ := none
  environ _ := none

/-- The instance 1. -/
def sampleState : State where
  db :=
    { facts := ⟨∅, ∅⟩
      executions := ∅
      instances := (∅ : Table ConnectorInstance).insert 1
        { displayName := "AWS", enabled := true, configJson := [], secretRefJson := [] }
      secrets := ∅ }
  invocations := []

/-- A call that takes a snapshot. -/
def sampleCall (key : String) (executionId : Id)
    (outcome : Except PyException ConnectorResult) : Call where
  instanceId := 1
  manifest := ⟨"aws", ["configuration.snapshot"]⟩
  connectorCallable _ := outcome
  idempotencyKey := key
  encryptionKey := ""
  executionId := executionId
  newId n := 100 * executionId + n
  startedAt := executionId
  finishedAt := executionId

/-- A passed check. -/
def sampleResult : ConnectorResult where
  capability := "configuration.snapshot"
  checkKey := "mfa"
  status := "pass"
  title := "MFA"
  summary := ""
  provenance := ⟨none, 5, "1"⟩

/-- The first key fails and is tried again, the second succeeds and is repeated, and the third
    comes when the instance is disabled. -/
def sampleActions : List Action :=
  [.call (sampleCall "monday" 11 (.error (.exception "timeout"))),
    .call (sampleCall "monday" 12 (.ok sampleResult)),
    .call (sampleCall "tuesday" 13 (.ok sampleResult)),
    .call (sampleCall "tuesday" 14 (.ok sampleResult)),
    .setEnabled 1 false,
    .call (sampleCall "wednesday" 15 (.ok sampleResult))]

/-- `exactly_once` over the sample: each key has run once, and there is one snapshot. -/
theorem exactly_once_sample :
    ∃ s, Run.exec (step samplePlatform) sampleState sampleActions = some s ∧
      (s.db.executions.toList.map fun x => (x.1, x.2.status)) =
        [(11, .failure), (13, .success)] ∧
      s.db.facts.snapshots.toList.map Prod.fst = [1300] ∧
      s.invocations = [(1, "monday"), (1, "tuesday")] ∧
      ExactlyOnce samplePlatform sampleState s := by
  refine ⟨_, rfl, rfl, rfl, rfl, ?_⟩
  exact exactly_once (fun k k' e e' he => by simp [sampleState] at he)
    (Run.of_exec_true sampleActions rfl)

end MiniGrc.Connectors
