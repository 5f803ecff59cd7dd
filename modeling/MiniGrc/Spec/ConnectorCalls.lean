import MiniGrc.App.ConnectorInstances
import MiniGrc.ForStd.Except

/-!
# The calls on connector instances

What each call that returns does to the tables, once for all invariants.

## Key results

- `handle_eq_none`: what a request has done that raises nothing
- `step_install`, `step_updateConfig`, `step_plan`, `step_apply`: the calls with checks
- `effect_of_step`: what a call does to configurations and secrets
- `get_of_step`: a call leaves the other instances alone
-/

namespace MiniGrc.ConnectorInstances

open Connectors

variable {env : Env} {s t : State} {l : Label} {i j : Id} {manifest toManifest : Manifest}
  {config secretValues : JsonDict} {r : Request} {stored : Stored}

theorem toOption_eq_some {ε α : Type} {x : Except ε α} {a : α} :
    x.toOption = some a ↔ x = .ok a := by
  cases x with
  | error e => simp [Except.toOption]
  | ok b => simp [Except.toOption]

theorem returned_eq_some {x : State × Option PyException} :
    returned x = some t ↔ x = (t, none) := by
  obtain ⟨u, raised⟩ := x
  cases raised with
  | none => simp [returned]
  | some e => simp [returned]

/-! ## Requests -/

/-- The loop that raises nothing is the fold. -/
theorem storeSecretRefs_eq_none {schema : List ConfigFieldSpec} {u : Stored} :
    storeSecretRefs env secretValues schema u = (stored, none) ↔
      schema.foldlM (storeSecretRef env secretValues) u = .ok stored := by
  induction schema generalizing u with
  | nil =>
    rw [storeSecretRefs, List.foldlM_nil]
    constructor
    · intro h
      rw [(Prod.mk.inj h).1]
      rfl
    · intro h
      rw [Except.ok.inj h]
  | cons spec schema ih =>
    rw [storeSecretRefs, Except.foldlM_cons_eq_ok]
    cases hspec : storeSecretRef env secretValues u spec with
    | error e => simp
    | ok v => simp [ih]

/-- The secrets of a call are stored, without an exception. -/
def StoresAll (env : Env) (s : State) (manifest : Manifest) (secretValues : JsonDict)
    (stored : Stored) : Prop :=
  storeSecretRefs env secretValues manifest.configSchema s.unstored = (stored, none)

/-- A request that raises nothing has passed its checks and stored its secrets. -/
theorem handle_eq_none : handle env s r = (t, none) ↔ r.check = .ok () ∧ ∃ stored,
    StoresAll env s r.manifest r.secretValues stored ∧ r.finish env s stored = (t, none) := by
  unfold handle StoresAll
  cases hcheck : r.check with
  | error e => simp
  | ok _ =>
    generalize storeSecretRefs env r.secretValues r.manifest.configSchema s.unstored = left
    obtain ⟨stored, raised⟩ := left
    cases raised with
    | some e => simp
    | none => simp

/-! ## Calls -/

/-- An installation passes the checks of its manifest, and gets an id that is not taken. -/
theorem step_install {displayName : String}
    (h : step env s (.install manifest displayName config secretValues) = some t) :
    validateManifest manifest = .ok () ∧
      ∃ stored, StoresAll env s manifest secretValues stored ∧
        env.newId stored.drawn ∉ s.instances ∧
        t = { s with
          instances := s.instances.insert (env.newId stored.drawn)
            (newInstance manifest displayName config stored.secretRef)
          secrets := stored.secrets
          calls := s.calls ++ [⟨env.newId stored.drawn, manifest, config, secretValues⟩]
          drawn := stored.drawn + 1 } := by
  obtain ⟨hcheck, stored, hstored, hfinish⟩ := handle_eq_none.1 (returned_eq_some.1 h)
  obtain ⟨⟨⟩, hvalid, -⟩ := Except.bind_eq_ok.1 hcheck
  refine ⟨hvalid, stored, hstored, ?_⟩
  simp only [Request.finish] at hfinish
  split at hfinish
  · cases (Prod.mk.inj hfinish).2
  · next hfresh => exact ⟨hfresh, (Prod.mk.inj hfinish).1.symm⟩

/-- An update is of an instance that is there. -/
theorem step_updateConfig (h : step env s (.updateConfig i manifest config secretValues) = some t) :
    ∃ old stored, s.instances[i]? = some old ∧ StoresAll env s manifest secretValues stored ∧
      t = { s with
        instances := s.instances.insert i (old.reconfigured config stored.secretRef)
        secrets := stored.secrets
        calls := s.calls ++ [⟨i, manifest, config, secretValues⟩]
        drawn := stored.drawn } := by
  obtain ⟨old, hold, h⟩ := Option.bind_eq_some_iff.1 h
  obtain ⟨-, stored, hstored, hfinish⟩ := handle_eq_none.1 (returned_eq_some.1 h)
  exact ⟨old, stored, hold, hstored, (Prod.mk.inj hfinish).1.symm⟩

theorem step_plan {fromManifest : Manifest}
    (h : step env s (.plan i fromManifest toManifest) = some t) :
    ∃ old plan, s.instances[i]? = some old ∧
      planConnectorInstanceUpgrade old fromManifest toManifest = .ok plan ∧
      t = { s with plans := s.plans ++ [plan] } := by
  obtain ⟨old, hold, h⟩ := Option.bind_eq_some_iff.1 h
  obtain ⟨plan, hplan, rfl⟩ := Option.map_eq_some_iff.1 h
  exact ⟨old, plan, hold, toOption_eq_some.1 hplan, rfl⟩

theorem step_apply {plan : ConnectorUpgradePlan} {allowDowngrade : Bool}
    (h : step env s (.apply i plan toManifest allowDowngrade) = some t) :
    plan ∈ s.plans ∧ ∃ old, s.instances[i]? = some old ∧
      checkUpgrade old plan toManifest allowDowngrade = .ok () ∧
      t = { s with
        instances := s.instances.insert i { old with manifestVersion := toManifest.version } } := by
  simp only [step, Option.ite_none_right_eq_some] at h
  obtain ⟨hplan, h⟩ := h
  obtain ⟨old, hold, h⟩ := Option.bind_eq_some_iff.1 h
  obtain ⟨⟨⟩, hcheck, h⟩ := Except.bind_eq_ok.1 (toOption_eq_some.1 h)
  exact ⟨hplan, old, hold, hcheck, (Except.ok.inj h).symm⟩

/-- A row that replaces another one with the same configuration and references. -/
def SameConfig (old new : Instance) : Prop :=
  new.configJson = old.configJson ∧ new.secretRefJson = old.secretRefJson

/-- What a call does to configurations and secrets: it installs an instance, it updates the
    configuration of one, or it does neither. -/
inductive Effect (env : Env) (s t : State) : Prop
  | installed (manifest : Manifest) (displayName : String) (config secretValues : JsonDict)
      (stored : Stored) (hstored : StoresAll env s manifest secretValues stored)
      (hfresh : env.newId stored.drawn ∉ s.instances)
      (ht : t = { s with
        instances := s.instances.insert (env.newId stored.drawn)
          (newInstance manifest displayName config stored.secretRef)
        secrets := stored.secrets
        calls := s.calls ++ [⟨env.newId stored.drawn, manifest, config, secretValues⟩]
        drawn := stored.drawn + 1 })
  | reconfigured (i : Id) (old : Instance) (manifest : Manifest) (config secretValues : JsonDict)
      (stored : Stored) (hold : s.instances[i]? = some old)
      (hstored : StoresAll env s manifest secretValues stored)
      (ht : t = { s with
        instances := s.instances.insert i (old.reconfigured config stored.secretRef)
        secrets := stored.secrets
        calls := s.calls ++ [⟨i, manifest, config, secretValues⟩]
        drawn := stored.drawn })
  | other (hsecrets : t.secrets = s.secrets) (hcalls : t.calls = s.calls)
      (hdrawn : t.drawn = s.drawn)
      (hinstances : ∀ (i : Id) new, t.instances[i]? = some new →
        ∃ old, s.instances[i]? = some old ∧ SameConfig old new)

theorem effect_of_step (h : step env s l = some t) : Effect env s t := by
  cases l with
  | install manifest displayName config secretValues =>
    obtain ⟨-, stored, hstored, hfresh, ht⟩ := step_install h
    exact .installed manifest displayName config secretValues stored hstored hfresh ht
  | updateConfig id manifest config secretValues =>
    obtain ⟨old, stored, hold, hstored, ht⟩ := step_updateConfig h
    exact .reconfigured id old manifest config secretValues stored hold hstored ht
  | setEnabled id enabled =>
    obtain ⟨old, hold, rfl⟩ := Option.map_eq_some_iff.1 h
    exact .other rfl rfl rfl fun _ _ hrow =>
      Table.exists_of_get_insert (R := SameConfig) hrow hold ⟨rfl, rfl⟩ fun _ => ⟨rfl, rfl⟩
  | remove id =>
    obtain ⟨old, hold, rfl⟩ := Option.map_eq_some_iff.1 h
    refine .other rfl rfl rfl fun j row hrow => ?_
    rw [Std.ExtTreeMap.getElem?_erase] at hrow
    split at hrow
    · cases hrow
    · exact ⟨row, hrow, rfl, rfl⟩
  | plan id fromManifest toManifest =>
    obtain ⟨_, _, _, _, rfl⟩ := step_plan h
    exact .other rfl rfl rfl fun _ row hrow => ⟨row, hrow, rfl, rfl⟩
  | apply id plan toManifest allowDowngrade =>
    obtain ⟨_, old, hold, _, rfl⟩ := step_apply h
    exact .other rfl rfl rfl fun _ _ hrow =>
      Table.exists_of_get_insert (R := SameConfig) hrow hold ⟨rfl, rfl⟩ fun _ => ⟨rfl, rfl⟩

/-! ## Other instances -/

/-- The instance that a call is given. -/
def Label.target : Label → Option Id
  | .install _ _ _ _ => none
  | .updateConfig id _ _ _ | .setEnabled id _ | .remove id | .plan id _ _ | .apply id _ _ _ =>
    some id

/-- A call leaves the instances alone that it is not given. -/
theorem get_of_step {instance' : Instance} (h : step env s l = some t) (hl : l.target ≠ some j)
    (hj : s.instances[j]? = some instance') : t.instances[j]? = some instance' := by
  have hne {i : Id} (hi : l.target = some i) : i ≠ j := fun hij => hl (hi.trans (congrArg some hij))
  cases l with
  | install manifest displayName config secretValues =>
    obtain ⟨-, stored, -, hfresh, rfl⟩ := step_install h
    -- the new id is not the one of an instance that is there
    have hnew : env.newId stored.drawn ≠ j := fun heq => hfresh (heq ▸ Table.mem_of_get hj)
    exact (Table.get_insert_ne hnew).trans hj
  | updateConfig id manifest config secretValues =>
    obtain ⟨old, stored, -, -, rfl⟩ := step_updateConfig h
    exact (Table.get_insert_ne (hne rfl)).trans hj
  | setEnabled id enabled =>
    obtain ⟨old, -, rfl⟩ := Option.map_eq_some_iff.1 h
    exact (Table.get_insert_ne (hne rfl)).trans hj
  | remove id =>
    obtain ⟨old, -, rfl⟩ := Option.map_eq_some_iff.1 h
    simpa [Std.ExtTreeMap.getElem?_erase, hne rfl] using hj
  | plan id fromManifest toManifest =>
    obtain ⟨_, _, _, _, rfl⟩ := step_plan h
    exact hj
  | apply id plan toManifest allowDowngrade =>
    obtain ⟨_, old, _, _, rfl⟩ := step_apply h
    exact (Table.get_insert_ne (hne rfl)).trans hj

/-! ## An environment for examples -/

/-- A platform whose encryption writes the plaintext down, and ids that count. -/
def plainEnv : Env where
  platform := jsonPlatform
  encrypt _ plaintext _ := some plaintext
  encryptionKey := "key"
  newId n := n

/-- A version of a connector, with a secret field. -/
def snapshotManifest (version : String) : Manifest where
  connectorId := "posture"
  capabilities := ["configuration.snapshot"]
  version := version
  configSchema := [{ name := "region", type := "str" },
    { name := "token", type := "str", required := false, secret := true }]

end MiniGrc.ConnectorInstances
