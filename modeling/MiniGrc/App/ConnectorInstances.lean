import MiniGrc.App.ConnectorLifecycle
import MiniGrc.App.ConnectorManifests

/-!
# Connector instances

The installation, configuration, secrets and upgrades of connector instances in
`app/connector_lifecycle.py`, each call in a transaction of its own. The texts of
`config_json` and `secret_ref_json` are kept as the mappings that they encode; audit events
and the executions that a removal deletes are left out.
-/

namespace MiniGrc.ConnectorInstances

open Connectors

/-! ## The tables -/

/-- A row of `connector_instances`; the key is its `id`. -/
structure Instance extends ConnectorInstance where
  connectorId : String
  manifestVersion : String

/-- `ConnectorUpgradePlan.direction`. -/
inductive Direction
  | upgrade
  | downgrade
  | same
  deriving DecidableEq, Repr

/-- `ConnectorUpgradePlan`. -/
structure ConnectorUpgradePlan where
  connectorId : String
  fromVersion : String
  toVersion : String
  direction : Direction
  newCapabilities : List String
  newRequiredPermissions : List String
  toCapabilities : List String
  toRequiredPermissions : List String
  deriving DecidableEq, Repr

/-- A call that has set the configuration of an instance. -/
structure ConfigCall where
  instanceId : Id
  manifest : Manifest
  config : JsonDict
  secretValues : JsonDict

/-- The tables, the plans that operators have been given, the accepted configurations in order,
    and how many ids of `new_id()` are used up. -/
structure State where
  instances : Table Instance
  secrets : Table Secret
  plans : List ConnectorUpgradePlan
  calls : List ConfigCall
  drawn : Nat

/-- Nothing is installed. -/
def State.initial : State where
  instances := ∅
  secrets := ∅
  plans := []
  calls := []
  drawn := 0

/-- What the calls depend on. -/
structure Env where
  platform : Platform
  /-- `app.crypto.encrypt`, given its random bytes, the plaintext and the key; `none` where it
      raises -/
  encrypt : Nat → String → String → Option String
  encryptionKey : String
  /-- the results of `new_id()` -/
  newId : Nat → Id

/-! ## Configuration -/

/-- `d.get(name)` is there and not blank. -/
def isGiven (d : JsonDict) (name : String) : Bool := ((d.get? name).getD .null).truthy

/-- `_validate_config_against_schema`, for a field. -/
def checkFieldValue (config secretValues : JsonDict) (existingSecretFields : List String)
    (spec : ConfigFieldSpec) : Except PyException Unit :=
  if spec.secret then
    if spec.required ∧ ¬ (isGiven secretValues spec.name ∨ spec.name ∈ existingSecretFields) then
      .error (.lifecycleError ("missing required secret config field " ++ pyRepr spec.name))
    else .ok ()
  else if spec.required ∧ ¬ isGiven config spec.name then
    .error (.lifecycleError ("missing required config field " ++ pyRepr spec.name))
  else .ok ()

/-- `_validate_config_against_schema`. -/
def validateConfigAgainstSchema (manifest : Manifest) (config secretValues : JsonDict)
    (existingSecretFields : List String) : Except PyException Unit :=
  manifest.configSchema.forM (checkFieldValue config secretValues existingSecretFields)

/-- `refs[name] = id`. -/
def setRef (refs : List (String × Id)) (name : String) (id : Id) : List (String × Id) :=
  refs.filter (fun ref => ref.1 ≠ name) ++ [(name, id)]

/-- The rows of `secrets`, the references to new ones, and the ids that are used up. -/
structure Stored where
  secrets : Table Secret
  secretRef : List (String × Id)
  drawn : Nat

/-- Before a call has stored anything. -/
def State.unstored (s : State) : Stored := ⟨s.secrets, [], s.drawn⟩

/-- The text of the `EncryptionNotConfiguredError` that `_fernet` raises for a key. -/
def fernetError (key : String) : String :=
  if key = "" then
    "GRC_ENCRYPTION_KEY is not configured — required to store integration credentials."
  else "GRC_ENCRYPTION_KEY is not a valid Fernet key."

variable (env : Env)

/-- The body of the loop of `_store_secret_refs`: `create_encrypted_secret` under a name with a
    new id. -/
def storeSecretRef (secretValues : JsonDict) (stored : Stored) (spec : ConfigFieldSpec) :
    Except PyException Stored :=
  if spec.secret ∧ isGiven secretValues spec.name then
    match secretValues.get? spec.name with
    -- one draw is for the nonce, the other for the id of the secret
    | some (.str plaintext) =>
      match env.encrypt stored.drawn plaintext env.encryptionKey with
      | none => .error (.exception (fernetError env.encryptionKey))
      | some ciphertext =>
        let id := env.newId (stored.drawn + 1)
        if id ∈ stored.secrets then .error .databaseError
        else .ok {
          secrets := stored.secrets.insert id (.encrypted ciphertext)
          secretRef := setRef stored.secretRef spec.name id
          drawn := stored.drawn + 2 }
    -- `plaintext.encode("utf-8")` of a value that is no text
    | some value =>
      .error (.exception ("'" ++ value.typeName ++ "' object has no attribute 'encode'"))
    | none => .ok stored
  else .ok stored

/-- `_store_secret_refs`, with what it has stored when it raises. -/
def storeSecretRefs (secretValues : JsonDict) :
    List ConfigFieldSpec → Stored → Stored × Option PyException
  | [], stored => (stored, none)
  | spec :: schema, stored =>
    match storeSecretRef env secretValues stored spec with
    | .error e => (stored, some e)
    | .ok stored => storeSecretRefs secretValues schema stored

/-- The row of a new instance. -/
def newInstance (manifest : Manifest) (displayName : String) (config : JsonDict)
    (secretRef : List (String × Id)) : Instance where
  displayName := displayName
  enabled := false
  configJson := config
  secretRefJson := secretRef
  connectorId := manifest.connectorId
  manifestVersion := manifest.version

/-- `existing_secret_ref.update(new_secret_ref)`. -/
def updateRefs (existing new : List (String × Id)) : List (String × Id) :=
  new.foldl (fun refs ref => setRef refs ref.1 ref.2) existing

/-- The row of an instance with a new configuration and new references. -/
def Instance.reconfigured (instance' : Instance) (config : JsonDict) (new : List (String × Id)) :
    Instance :=
  { instance' with
    configJson := config
    secretRefJson := updateRefs instance'.secretRefJson new }

/-! ## Requests -/

/-- The arguments of `install_connector_instance` and `update_connector_instance_config`. -/
inductive Request
  | install (manifest : Manifest) (displayName : String) (config secretValues : JsonDict)
  | update (id : Id) (instance' : Instance) (manifest : Manifest) (config secretValues : JsonDict)

namespace Request

def manifest : Request → Manifest
  | install manifest _ _ _ | update _ _ manifest _ _ => manifest

def config : Request → JsonDict
  | install _ _ config _ | update _ _ _ config _ => config

def secretValues : Request → JsonDict
  | install _ _ _ secretValues | update _ _ _ _ secretValues => secretValues

/-- `existing_secret_fields`. -/
def existingSecretFields : Request → List String
  | install _ _ _ _ => []
  | update _ instance' _ _ _ => instance'.secretRefJson.map Prod.fst

/-- What is checked before anything is stored. -/
def check (r : Request) : Except PyException Unit := do
  match r with
  | install manifest _ _ _ =>
    validateManifest manifest
    checkCompatibility manifest
  | update _ _ _ _ _ => .ok ()
  validateConfigAgainstSchema r.manifest r.config r.secretValues r.existingSecretFields

end Request

/-- What the request does when its secrets are stored. -/
def Request.finish (s : State) (stored : Stored) : Request → State × Option PyException
  | install manifest displayName config secretValues =>
    let id := env.newId stored.drawn
    if id ∈ s.instances then
      ({ s with secrets := stored.secrets, drawn := stored.drawn }, some .databaseError)
    else
      ({ s with
        instances := s.instances.insert id
          (newInstance manifest displayName config stored.secretRef)
        secrets := stored.secrets
        calls := s.calls ++ [⟨id, manifest, config, secretValues⟩]
        drawn := stored.drawn + 1 }, none)
  | update id instance' manifest config secretValues =>
    ({ s with
      instances := s.instances.insert id (instance'.reconfigured config stored.secretRef)
      secrets := stored.secrets
      calls := s.calls ++ [⟨id, manifest, config, secretValues⟩]
      drawn := stored.drawn }, none)

/-- The two functions, with the state that they leave in the session and the exception that they
    raise. -/
def handle (s : State) (r : Request) : State × Option PyException :=
  match r.check with
  | .error e => (s, some e)
  | .ok () =>
    match storeSecretRefs env r.secretValues r.manifest.configSchema s.unstored with
    | (stored, some e) => ({ s with secrets := stored.secrets, drawn := stored.drawn }, some e)
    | (stored, none) => r.finish env s stored

/-- `install_connector_instance`. -/
def installConnectorInstance (s : State) (manifest : Manifest) (displayName : String)
    (config secretValues : JsonDict) : State × Option PyException :=
  handle env s (.install manifest displayName config secretValues)

/-- `update_connector_instance_config`. -/
def updateConnectorInstanceConfig (s : State) (id : Id) (instance' : Instance)
    (manifest : Manifest) (config secretValues : JsonDict) : State × Option PyException :=
  handle env s (.update id instance' manifest config secretValues)

/-- `resolve_connector_config`. -/
def resolve (s : State) (instance' : Instance) : JsonDict :=
  resolveConnectorConfig env.platform s.secrets instance'.toConnectorInstance env.encryptionKey

/-! ## Upgrades -/

/-- The first check of `plan_connector_instance_upgrade`. -/
def checkIdentity (instance' : Instance) (toManifest : Manifest) : Except PyException Unit :=
  if toManifest.connectorId ≠ instance'.connectorId then
    .error (.lifecycleError ("cannot upgrade connector instance for " ++
      pyRepr instance'.connectorId ++ " to a manifest for " ++ pyRepr toManifest.connectorId ++
      " — identity confusion"))
  else .ok ()

/-- `plan_connector_instance_upgrade`. -/
def planConnectorInstanceUpgrade (instance' : Instance) (fromManifest toManifest : Manifest) :
    Except PyException ConnectorUpgradePlan := do
  checkIdentity instance' toManifest
  validateManifest toManifest
  checkCompatibility toManifest
  match semverTuple fromManifest.version, semverTuple toManifest.version with
  | some fromVersion, some toVersion =>
    .ok {
      connectorId := instance'.connectorId
      fromVersion := fromManifest.version
      toVersion := toManifest.version
      direction :=
        if fromVersion < toVersion then .upgrade
        else if toVersion < fromVersion then .downgrade
        else .same
      newCapabilities := toManifest.capabilities.filter fun c => c ∉ fromManifest.capabilities
      newRequiredPermissions :=
        toManifest.requiredPermissions.filter fun p => p ∉ fromManifest.requiredPermissions
      toCapabilities := toManifest.capabilities
      toRequiredPermissions := toManifest.requiredPermissions }
  -- the manifest that the upgrade comes from is not validated
  | none, _ => .error (.exception (semverError fromManifest.version))
  | some _, none => .error (.exception (semverError toManifest.version))

/-- The checks of `apply_connector_instance_upgrade`. -/
def checkUpgrade (instance' : Instance) (plan : ConnectorUpgradePlan) (toManifest : Manifest)
    (allowDowngrade : Bool) : Except PyException Unit :=
  if instance'.manifestVersion ≠ plan.fromVersion then
    .error (.lifecycleError ("connector instance '" ++ instance'.displayName ++
      "' is at version " ++ pyRepr instance'.manifestVersion ++ ", not the plan's expected " ++
      pyRepr plan.fromVersion ++ " — reload and re-plan before applying"))
  else if plan.direction = .downgrade ∧ ¬ allowDowngrade then
    .error (.lifecycleError ("refusing to silently downgrade connector instance '" ++
      instance'.displayName ++ "' from " ++ plan.fromVersion ++ " to " ++ plan.toVersion ++
      " — pass allow_downgrade=True for an explicit rollback"))
  else if plan.connectorId ≠ instance'.connectorId ∨
      toManifest.connectorId ≠ instance'.connectorId then
    .error (.lifecycleError "upgrade plan/manifest do not match this connector instance")
  else if toManifest.version ≠ plan.toVersion ∨ toManifest.capabilities ≠ plan.toCapabilities ∨
      toManifest.requiredPermissions ≠ plan.toRequiredPermissions then
    .error (.lifecycleError ("to_manifest does not match the plan's reviewed " ++
      "version/capabilities/permissions — a different manifest must not be substituted at " ++
      "apply time"))
  else .ok ()

/-- `apply_connector_instance_upgrade`. -/
def applyConnectorInstanceUpgrade (s : State) (id : Id) (instance' : Instance)
    (plan : ConnectorUpgradePlan) (toManifest : Manifest) (allowDowngrade : Bool) :
    Except PyException State := do
  checkUpgrade instance' plan toManifest allowDowngrade
  .ok {
    s with
    instances := s.instances.insert id { instance' with manifestVersion := toManifest.version } }

/-! ## Sequences of calls -/

/-- The calls. -/
inductive Label
  | install (manifest : Manifest) (displayName : String) (config secretValues : JsonDict)
  | updateConfig (id : Id) (manifest : Manifest) (config secretValues : JsonDict)
  | setEnabled (id : Id) (enabled : Bool)
  | remove (id : Id)
  | plan (id : Id) (fromManifest toManifest : Manifest)
  /-- of a plan that an operator was given at any time -/
  | apply (id : Id) (plan : ConnectorUpgradePlan) (toManifest : Manifest) (allowDowngrade : Bool)

/-- The state that a call leaves when it returns. -/
def returned : State × Option PyException → Option State
  | (s, none) => some s
  | (_, some _) => none

/-- A call that returns; one that raises is rolled back and is no step. -/
def step (s : State) : Label → Option State
  | .install manifest displayName config secretValues =>
    returned (installConnectorInstance env s manifest displayName config secretValues)
  | .updateConfig id manifest config secretValues =>
    s.instances[id]?.bind fun instance' =>
      returned (updateConnectorInstanceConfig env s id instance' manifest config secretValues)
  | .setEnabled id enabled =>
    s.instances[id]?.map fun instance' =>
      { s with instances := s.instances.insert id { instance' with enabled } }
  | .remove id =>
    s.instances[id]?.map fun _ => { s with instances := s.instances.erase id }
  | .plan id fromManifest toManifest =>
    s.instances[id]?.bind fun instance' =>
      (planConnectorInstanceUpgrade instance' fromManifest toManifest).toOption.map fun plan =>
        { s with plans := s.plans ++ [plan] }
  | .apply id plan toManifest allowDowngrade =>
    if plan ∈ s.plans then
      s.instances[id]?.bind fun instance' =>
        (applyConnectorInstanceUpgrade s id instance' plan toManifest allowDowngrade).toOption
    else none

end MiniGrc.ConnectorInstances
