import MiniGrc.App.JsonValues
import MiniGrc.App.Projection

/-!
# Connector manifests and results

`app/connectors/manifest.py` and `app/connectors/result.py`: what a connector declares, what
it returns, and the contract between the two. The fields of a manifest that no modelled
function reads are left out.
-/

namespace MiniGrc.Connectors

/-! ## Exceptions -/

/-- What is raised during the run of a connector. -/
inductive PyException
  | lifecycleError (message : String)
  | contractError (message : String)
  /-- any other `Exception`, with its text -/
  | exception (message : String)
  /-- the database refuses a flush -/
  | databaseError
  /-- no `Exception`: `KeyboardInterrupt`, `SystemExit` -/
  | baseException
  deriving DecidableEq, Repr

/-- `str(exc)`. -/
def PyException.message : PyException → String
  | .lifecycleError message | .contractError message | .exception message => message
  | .databaseError | .baseException => ""

/-- How a computation ends, with the state that it leaves. -/
inductive Ended (σ : Type)
  | returned (s : σ)
  | raised (s : σ) (exc : PyException)

/-- The same end, with another state. -/
def Ended.map {σ τ : Type} (f : σ → τ) : Ended σ → Ended τ
  | .returned s => .returned (f s)
  | .raised s exc => .raised (f s) exc

/-! ## The contract -/

/-- The fields of a `ConnectorManifest` that a run reads. -/
structure ConnectorManifest where
  connectorId : String
  capabilities : List String

/-- `ConnectorProvenance`. -/
structure ConnectorProvenance where
  sourceConnectionId : Option String
  collectedAt : Time
  collectorVersion : String := "1"

/-- `ConnectorResult`. A value of another shape raises an exception where it is read first. -/
structure ConnectorResult where
  capability : String
  checkKey : String
  status : String
  title : String
  summary : String
  provenance : ConnectorProvenance
  normalizedPayload : JsonDict := []

/-- `str(x)[:2000]`. -/
def truncated (text : String) : String := .ofList (text.toList.take 2000)

/-- `{strings!r}` for a tuple. -/
def reprTuple : List String → String
  | [x] => "(" ++ pyRepr x ++ ",)"
  | xs => "(" ++ ", ".intercalate (xs.map pyRepr) ++ ")"

/-- `{strings!r}` for a list. -/
def reprList (xs : List String) : String := "[" ++ ", ".intercalate (xs.map pyRepr) ++ "]"

/-- `EVIDENCE_STATUSES`. -/
def evidenceStatuses : List String := ["pass", "fail", "warning", "unknown"]

/-- `MAX_NORMALIZED_PAYLOAD_CHARS`. -/
def maxNormalizedPayloadChars : Nat := 20000

/-- `_SECRET_SHAPED_KEY_TERMS`. -/
def secretShapedKeyTerms : List String :=
  ["token", "secret", "password", "passwd", "access_key", "private_key", "api_key",
    "refresh_token"]

/-- How `re.IGNORECASE` folds the characters that it identifies with an ASCII letter. -/
def foldCase (c : Char) : Char :=
  if c.toNat = 0x130 ∨ c.toNat = 0x131 then 'i'
  else if c.toNat = 0x17F then 's'
  else if c.toNat = 0x212A then 'k'
  else c.toLower

/-- `_SECRET_SHAPED_KEY_RE.search(key)`: the key ends in one of the terms, after an underscore
    or as a whole. `$` also matches before a newline at the end. -/
def isSecretShaped (key : String) : Bool :=
  let chars := key.toList.map foldCase
  secretShapedKeyTerms.any fun term =>
    [term.toList, term.toList ++ ['\n']].any fun ending =>
      ending.isSuffixOf chars &&
        (chars.length == ending.length ||
          (chars.take (chars.length - ending.length)).getLast? == some '_')

mutual

/-- `_find_secret_shaped_keys`. -/
def findSecretShapedKeys (path : String) : JsonDict → List String
  | [] => []
  | field :: rest => fieldSecretShapedKeys path field ++ findSecretShapedKeys path rest
termination_by structural d => d

/-- What a field adds to `found`. -/
def fieldSecretShapedKeys (path : String) : String × Json → List String
  | (key, value) =>
    (if isSecretShaped key then [path ++ key] else []) ++
      valueSecretShapedKeys (path ++ key ++ ".") value
termination_by structural field => field

/-- What a value adds, if it is a mapping. -/
def valueSecretShapedKeys (path : String) : Json → List String
  | .dict fields => findSecretShapedKeys path fields
  | _ => []
termination_by structural value => value

end

/-- The functions of the platform that a run calls. -/
structure Platform where
  /-- `json.dumps(payload, sort_keys=True, default=str)` -/
  dumps : JsonDict → String
  /-- the hexadecimal digest of the UTF-8 text -/
  sha256 : String → String
  /-- `str.lower` -/
  lower : String → String
  /-- `app.crypto.decrypt`, given the ciphertext and the key; `none` where it raises -/
  decrypt : String → String → Option String
  /-- `os.environ.get` -/
  environ : String → Option String

/-- A platform with the encoder of `json`, where no text has upper-case letters. -/
def jsonPlatform : Platform where
  dumps payload := (Json.dict payload).sortedDumps
  sha256 text := text
  lower text := text
  decrypt ciphertext _ := some ciphertext
  environ _ := none

/-- `validate_result`. -/
def validateResult (platform : Platform) (result : ConnectorResult) (manifest : ConnectorManifest) :
    Except PyException Unit :=
  let canonicalJson := platform.dumps result.normalizedPayload
  let secretShapedKeys := findSecretShapedKeys "" result.normalizedPayload
  if result.capability ∉ manifest.capabilities then
    .error (.contractError ("connector " ++ pyRepr manifest.connectorId ++
      " emitted a result for undeclared capability " ++ pyRepr result.capability ++
      " (declared: " ++ reprTuple manifest.capabilities ++ ")"))
  else if result.status ∉ evidenceStatuses then
    .error (.contractError ("invalid result status " ++ pyRepr result.status ++
      ", must be one of " ++ reprTuple evidenceStatuses))
  else if maxNormalizedPayloadChars < canonicalJson.length then
    .error (.contractError ("normalized_payload exceeds " ++ toString maxNormalizedPayloadChars ++
      " chars (" ++ toString canonicalJson.length ++
      " chars) — connector must summarize, not dump raw provider output"))
  else if secretShapedKeys ≠ [] then
    .error (.contractError ("normalized_payload contains secret-shaped key(s) " ++
      reprList secretShapedKeys ++ " — connector results must never carry credential material"))
  else .ok ()

end MiniGrc.Connectors
