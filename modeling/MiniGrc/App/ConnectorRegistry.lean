import Mathlib.Data.Rat.Defs
import MiniGrc.App.JsonValues

/-!
# The connector registry

`load_registry` of `app/connector_registry.py`. The fields of an entry are whatever the file
has there: nothing but the status and the checksum is looked at. `Python` stands for the
standard library: `str.lower()` and the numbers that the texts of floats denote.
-/

namespace MiniGrc.ConnectorRegistry

/-! ## Values of the file -/

/-- What `==` and `hash()` see of a number. `NaN` is a constant of `json`, one object. -/
inductive Number
  | rational (value : ℚ)
  | infinity (negative : Bool)
  | nan
  deriving DecidableEq

/-- What a value is as a key of a set or a dictionary. -/
inductive HashKey
  | none
  | number (value : Number)
  | text (value : String)
  deriving DecidableEq

/-- The standard library. -/
structure Python where
  lower : String → String
  number : String → Number

variable (py : Python)

/-- `hash(value)`: `1`, `1.0` and `True` are one key, lists and dictionaries are none. -/
def hashKey : Json → Option HashKey
  | .null => some .none
  | .bool value => some (.number (.rational (if value then 1 else 0)))
  | .int value => some (.number (.rational value))
  | .float text => some (.number (py.number text))
  | .str value => some (.text value)
  | .list _ => none
  | .dict _ => none

mutual

/-- `value is other or value == other`, by which containers compare what they contain. -/
def same : Json → Json → Bool
  | .list items, other =>
    match other with
    | .list items' => sameItems items items'
    | _ => false
  | .dict fields, other =>
    match other with
    | .dict fields' => fields.length == fields'.length && sameFields fields fields'
    | _ => false
  | value, other => hashKey py value == hashKey py other
termination_by structural value => value

/-- Two lists, item by item. -/
def sameItems : List Json → List Json → Bool
  | [], [] => true
  | item :: items, item' :: items' => same item item' && sameItems items items'
  | _, _ => false
termination_by structural items => items

/-- The fields are among those of a dictionary. -/
def sameFields : List (String × Json) → JsonDict → Bool
  | [], _ => true
  | field :: fields, d => sameField field d && sameFields fields d
termination_by structural fields => fields

/-- A field is among those of a dictionary. -/
def sameField : String × Json → JsonDict → Bool
  | (key, value), d =>
    match d.get? key with
    | some value' => same value value'
    | none => false
termination_by structural field => field

end

/-- `value == other`: `NaN` is not equal to itself. -/
def equal (value other : Json) : Bool :=
  same py value other && hashKey py value != some (.number .nan)

/-- `value is None`. -/
def isNone : Json → Bool
  | .null => true
  | _ => false

/-- The items that a loop over the value yields, if it is iterable. -/
def elements : Json → Option (List Json)
  | .list items => some items
  | .str text => some (text.toList.map fun c => .str (String.singleton c))
  | .dict fields => some (fields.map fun field => .str field.1)
  | _ => none

/-! ## Exceptions -/

/-- A `RegistryError`, with the values that its text shows. -/
inductive RegistryError
  | fileNotFound
  | notJson
  | missingField (key : String)
  | invalidStatus (status : Json)
  | invalidChecksum (connectorId : Json) (checksum : String)
  | duplicate (connectorId version : Json)
  | otherPublisher (connectorId known publisher : Json)

/-- What is raised during the loading. -/
inductive Raised
  | registryError (error : RegistryError)
  | keyError (key : String)
  | typeError
  | attributeError
  /-- by `open` or `json.load`, and not caught: the bytes are not UTF-8, the nesting is too
      deep, an integer has too many digits, the file cannot be read -/
  | readError

/-- `value[key]`. -/
def subscript (value : Json) (key : String) : Except Raised Json :=
  match value with
  | .dict fields =>
    match JsonDict.get? fields key with
    | some found => .ok found
    | none => .error (.keyError key)
  | _ => .error .typeError

/-- `value.get(key, default)`. -/
def getOr (value : Json) (key : String) (default : Json) : Except Raised Json :=
  match value with
  | .dict fields => .ok ((JsonDict.get? fields key).getD default)
  | _ => .error .attributeError

/-- `tuple(value)`. -/
def tuple (value : Json) : Except Raised (List Json) :=
  match elements value with
  | some items => .ok items
  | none => .error .typeError

/-! ## Entries -/

/-- `VERIFICATION_STATUSES`. -/
def verificationStatuses : List String := ["unofficial", "community", "official"]

/-- `CORE_CONTRACT_VERSION`. -/
def coreContractVersion : Int := 1

/-- `[0-9a-f]`. -/
def isLowerHex (c : Char) : Bool := ('0' ≤ c && c ≤ '9') || ('a' ≤ c && c ≤ 'f')

/-- `_CHECKSUM_SHA256_RE.match(text)`. `$` also matches before a newline at the end. -/
def matchesChecksum (text : String) : Bool :=
  let digits := text.toList.take 64
  let rest := text.toList.drop 64
  digits.length == 64 && digits.all isLowerHex && (rest == [] || rest == ['\n'])

/-- `ConfigFieldSpec`. -/
structure ConfigFieldSpec where
  name : Json
  type : Json
  required : Json
  secret : Json

/-- `RegistryEntry`. -/
structure RegistryEntry where
  connectorId : Json
  displayName : Json
  publisher : Json
  version : Json
  capabilities : List Json
  requiredPermissions : List Json
  supportedAuthMethods : List Json
  configSchema : List ConfigFieldSpec
  minCoreContractVersion : Json
  maxCoreContractVersion : Json
  verificationStatus : String
  packageLocation : Json
  checksumSha256 : Option String
  deprecated : Json

/-- `verification_status not in VERIFICATION_STATUSES`. -/
def checkStatus (value : Json) : Except Raised String :=
  match value with
  | .str status =>
    if status ∈ verificationStatuses then .ok status
    else .error (.registryError (.invalidStatus value))
  | _ => .error (.registryError (.invalidStatus value))

/-- The checksum in lower case, if there is one. -/
def checkChecksum (connectorId value : Json) : Except Raised (Option String) :=
  match value with
  | .null => .ok none
  | .str checksum =>
    if matchesChecksum (py.lower checksum) then .ok (some (py.lower checksum))
    else .error (.registryError (.invalidChecksum connectorId checksum))
  | _ => .error .attributeError

/-- A field of the configuration. -/
def configField (field : Json) : Except Raised ConfigFieldSpec := do
  let name ← subscript field "name"
  let type ← subscript field "type"
  let required ← getOr field "required" (.bool true)
  let secret ← getOr field "secret" (.bool false)
  return { name, type, required, secret }

/-- The body of `_entry_from_dict`. -/
def readEntry (raw : Json) : Except Raised RegistryEntry := do
  let verificationStatus ← subscript raw "verification_status" >>= checkStatus
  let connector ← getOr raw "connector_id" .null
  let checksumSha256 ← getOr raw "checksum_sha256" .null >>= checkChecksum py connector
  let fields ← getOr raw "config_schema" (.list []) >>= tuple
  let configSchema ← fields.mapM configField
  let connectorId ← subscript raw "connector_id"
  let displayName ← subscript raw "display_name"
  let publisher ← subscript raw "publisher"
  let version ← subscript raw "version"
  let capabilities ← subscript raw "capabilities" >>= tuple
  let requiredPermissions ← getOr raw "required_permissions" (.list []) >>= tuple
  let supportedAuthMethods ← getOr raw "supported_auth_methods" (.list []) >>= tuple
  let minCoreContractVersion ← getOr raw "min_core_contract_version" (.int coreContractVersion)
  let maxCoreContractVersion ← getOr raw "max_core_contract_version" .null
  let packageLocation ← subscript raw "package_location"
  let deprecated ← getOr raw "deprecated" (.bool false)
  return {
    connectorId, displayName, publisher, version, capabilities, requiredPermissions,
    supportedAuthMethods, configSchema, minCoreContractVersion, maxCoreContractVersion,
    verificationStatus, packageLocation, checksumSha256, deprecated }

/-- `except KeyError as exc: raise RegistryError(..) from exc`. -/
def Raised.converted : Raised → Raised
  | .keyError key => .registryError (.missingField key)
  | raised => raised

/-- `_entry_from_dict`. -/
def entryFromDict (raw : Json) : Except Raised RegistryEntry :=
  (readEntry py raw).mapError Raised.converted

/-! ## The registry -/

/-- `seen` and `publisher_by_connector_id`. -/
structure Listed where
  seen : List (HashKey × HashKey) := []
  publishers : HashKey → Json := fun _ => .null

/-- A turn of the loop over the entries. -/
def listEntry (listed : Listed) (entry : RegistryEntry) : Except Raised Listed :=
  match hashKey py entry.connectorId, hashKey py entry.version with
  | some id, some version =>
    if (id, version) ∈ listed.seen then
      .error (.registryError (.duplicate entry.connectorId entry.version))
    else
      let known := listed.publishers id
      let seen := (id, version) :: listed.seen
      if isNone known then
        .ok ⟨seen, Function.update listed.publishers id entry.publisher⟩
      else if equal py known entry.publisher then .ok { listed with seen }
      else .error (.registryError (.otherPublisher entry.connectorId known entry.publisher))
  | _, _ => .error .typeError

/-- What `open` and `json.load` make of a registry file. -/
inductive RegistryFile
  | notFound
  | notJson
  | unreadable
  | content (raw : Json)

/-- The first step of `load_registry`. -/
def RegistryFile.load : RegistryFile → Except Raised Json
  | .notFound => .error (.registryError .fileNotFound)
  | .notJson => .error (.registryError .notJson)
  | .unreadable => .error .readError
  | .content raw => .ok raw

/-- `load_registry`. -/
def loadRegistry (file : RegistryFile) : Except Raised (List RegistryEntry) := do
  let raw ← file.load
  let items ← getOr raw "entries" (.list []) >>= tuple
  let entries ← items.mapM (entryFromDict py)
  let _ ← entries.foldlM (listEntry py) {}
  return entries

end MiniGrc.ConnectorRegistry
