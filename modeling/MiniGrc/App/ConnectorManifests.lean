import Mathlib.Data.List.Lex
import Mathlib.Data.Prod.Lex
import MiniGrc.App.ConnectorResults
import MiniGrc.App.PolicyStorage

/-!
# Whole manifests

What `validate_manifest` and `check_compatibility` of `app/connectors/manifest.py` check, and
`_semver_tuple` of `app/connector_lifecycle.py`.
-/

namespace MiniGrc.Connectors

open PolicyStorage

/-! ## Numbers in texts -/

/-- The zeros of the decimal digits of Unicode 15, each followed by the other nine. -/
def digitZeros : List Nat :=
  [0x30, 0x660, 0x6F0, 0x7C0, 0x966, 0x9E6, 0xA66, 0xAE6, 0xB66, 0xBE6, 0xC66, 0xCE6, 0xD66,
    0xDE6, 0xE50, 0xED0, 0xF20, 0x1040, 0x1090, 0x17E0, 0x1810, 0x1946, 0x19D0, 0x1A80, 0x1A90,
    0x1B50, 0x1BB0, 0x1C40, 0x1C50, 0xA620, 0xA8D0, 0xA900, 0xA9D0, 0xA9F0, 0xAA50, 0xABF0, 0xFF10,
    0x104A0, 0x10D30, 0x11066, 0x110F0, 0x11136, 0x111D0, 0x112F0, 0x11450, 0x114D0, 0x11650,
    0x116C0, 0x11730, 0x118E0, 0x11950, 0x11C50, 0x11D50, 0x11DA0, 0x11F50, 0x16A60, 0x16AC0,
    0x16B50, 0x1D7CE, 0x1D7D8, 0x1D7E2, 0x1D7EC, 0x1D7F6, 0x1E140, 0x1E2F0, 0x1E4F0, 0x1E950,
    0x1FBF0]

/-- The value of a decimal digit, which `\d` matches. -/
def digitValue (c : Char) : Option Nat :=
  (digitZeros.find? fun start => start ≤ c.toNat ∧ c.toNat < start + 10).map (c.toNat - ·)

/-- Digits, with single underscores between them, after a number. -/
def digitsFrom (number : Nat) (afterDigit : Bool) : List Char → Option Nat
  | [] => if afterDigit then some number else none
  | c :: cs =>
    match digitValue c with
    | some digit => digitsFrom (number * 10 + digit) true cs
    | none => if c = '_' ∧ afterDigit then digitsFrom number false cs else none

/-- `int(text)`, where it does not raise. -/
def pyInt (text : List Char) : Option Int :=
  match strip text with
  | '-' :: digits => (digitsFrom 0 false digits).map fun n => -Int.ofNat n
  | '+' :: digits => (digitsFrom 0 false digits).map Int.ofNat
  | digits => (digitsFrom 0 false digits).map Int.ofNat

/-- `text.split(".")`. -/
def splitDots : List Char → List (List Char)
  | [] => [[]]
  | c :: cs =>
    if c = '.' then [] :: splitDots cs
    else match splitDots cs with
      | [] => [[c]]
      | part :: parts => (c :: part) :: parts

/-! ## Versions -/

/-- One or more digits. -/
def isNumber (text : List Char) : Bool := !text.isEmpty && text.all fun c => (digitValue c).isSome

/-- `_SEMVER_RE.match(version)`; `$` also matches before a newline at the end. -/
def isSemver (version : String) : Bool :=
  match splitDots version.toList with
  | [major, minor, patch] => isNumber major && isNumber minor &&
      (isNumber patch || (patch.getLast? == some '\n' && isNumber patch.dropLast))
  | _ => false

/-- Versions, in numeric order. -/
abbrev SemVer := Int ×ₗ Int ×ₗ Int

/-- `_semver_tuple`, where it does not raise. -/
def semverTuple (version : String) : Option SemVer :=
  match splitDots version.toList with
  | [major, minor, patch] =>
    match pyInt major, pyInt minor, pyInt patch with
    | some major, some minor, some patch => some (toLex (major, toLex (minor, patch)))
    | _, _, _ => none
  | _ => none

/-- The text of the `ValueError` of `_semver_tuple`, where it raises. -/
def semverError (version : String) : String :=
  let parts := splitDots version.toList
  if parts.length < 3 then
    "not enough values to unpack (expected 3, got " ++ toString parts.length ++ ")"
  else if 3 < parts.length then "too many values to unpack (expected 3)"
  else
    match parts.find? fun part => (pyInt part).isNone with
    | some part => "invalid literal for int() with base 10: " ++ pyRepr (String.ofList part)
    | none => ""

/-! ## Manifests -/

/-- `ConfigFieldSpec`. -/
structure ConfigFieldSpec where
  name : String
  type : String
  required : Bool := true
  secret : Bool := false
  deriving DecidableEq, Repr

/-- `CORE_CONTRACT_VERSION`. -/
def coreContractVersion : Int := 1

/-- A `ConnectorManifest`, without the texts that are only shown. -/
structure Manifest extends ConnectorManifest where
  version : String
  requiredPermissions : List String := []
  configSchema : List ConfigFieldSpec := []
  minCoreContractVersion : Int := coreContractVersion
  maxCoreContractVersion : Option Int := none

/-- The names in `CAPABILITIES`. -/
def capabilityNames : List String :=
  ["file.capture", "evidence.collect", "configuration.snapshot", "identity.population",
    "identity.groups", "asset.inventory", "vulnerability.findings", "notification.send"]

/-- `_CONFIG_FIELD_TYPES`. -/
def configFieldTypes : List String := ["str", "bool", "int"]

/-- The check of a field of the schema, after the fields whose names have been seen. -/
def checkConfigField (seenFieldNames : List String) (spec : ConfigFieldSpec) :
    Except PyException (List String) :=
  if spec.name ∈ seenFieldNames then
    .error (.contractError ("duplicate config field name: " ++ pyRepr spec.name))
  else if spec.type ∉ configFieldTypes then
    .error (.contractError ("config field " ++ pyRepr spec.name ++ " has unsupported type " ++
      pyRepr spec.type))
  else .ok (seenFieldNames ++ [spec.name])

/-- `validate_manifest`. -/
def validateManifest (manifest : Manifest) : Except PyException Unit :=
  let unknown := manifest.capabilities.filter fun c => c ∉ capabilityNames
  if manifest.connectorId = "" then .error (.contractError "connector_id is required")
  else if !isSemver manifest.version then
    .error (.contractError ("version must be a semver string (X.Y.Z), got " ++
      pyRepr manifest.version))
  else if manifest.capabilities = [] then
    .error (.contractError "a manifest must declare at least one capability")
  else if unknown ≠ [] then
    .error (.contractError ("unknown capability/capabilities: " ++ reprList unknown))
  else (manifest.configSchema.foldlM checkConfigField []).map fun _ => ()

/-- `check_compatibility`. -/
def checkCompatibility (manifest : Manifest) : Except PyException Unit :=
  if coreContractVersion < manifest.minCoreContractVersion then
    .error (.contractError ("connector " ++ pyRepr manifest.connectorId ++
      " requires core contract version >= " ++ toString manifest.minCoreContractVersion ++
      ", running " ++ toString coreContractVersion))
  else
    match manifest.maxCoreContractVersion with
    | none => .ok ()
    | some maximum =>
      if maximum < coreContractVersion then
        .error (.contractError ("connector " ++ pyRepr manifest.connectorId ++
          " requires core contract version <= " ++ toString maximum ++ ", running " ++
          toString coreContractVersion))
      else .ok ()

end MiniGrc.Connectors
