import MiniGrc.App.ConnectorRegistry
import MiniGrc.ForStd.Diagnostics
import MiniGrc.ForStd.Stems

/-!
# What a registry file loads as

The defects of a registry file in the order of reading, and when the loading either refuses
the file or yields a sound registry.
-/

namespace MiniGrc.ConnectorRegistry

open Except

variable {py : Python}

/-! ## Soundness -/

/-- Exactly 64 lowercase hexadecimal characters. -/
def IsSha256 (text : String) : Prop :=
  text.toList.length = 64 ∧ ∀ c ∈ text.toList, isLowerHex c

/-- A list of entries is a sound registry. -/
structure Sound (py : Python) (entries : List RegistryEntry) : Prop where
  /-- the pairs `(connector_id, version)` are pairwise different -/
  keys : entries.Pairwise fun e e' =>
    ¬ (equal py e.connectorId e'.connectorId ∧ equal py e.version e'.version)
  /-- all entries of a connector have one publisher -/
  publishers : ∀ id, ∃ publisher, ∀ e ∈ entries, equal py id e.connectorId →
    publisher = e.publisher ∨ equal py publisher e.publisher
  statuses : ∀ e ∈ entries, e.verificationStatus ∈ verificationStatuses
  checksums : ∀ e ∈ entries, ∀ checksum, e.checksumSha256 = some checksum → IsSha256 checksum

/-- The exception is a `RegistryError`. -/
def Raised.IsRegistryError : Raised → Prop
  | .registryError _ => True
  | _ => False

/-! ## Defects -/

/-- What can be wrong with a part of the file. -/
inductive Defect
  | missingField
  | unknownStatus
  | malformedChecksum
  /-- not an object, no text, nothing to iterate over or to hash -/
  | wrongType
  | duplicate
  | otherPublisher
  deriving DecidableEq

/-- The kinds that a `RegistryError` is declared for. -/
def Defect.Declared (defect : Defect) : Prop := defect ≠ .wrongType

/-- `raw[key]` for an object. -/
def requiredDefects (d : JsonDict) (key : String) : List Defect :=
  if (d.get? key).isSome then [] else [.missingField]

/-- Of a value that is made a tuple. -/
def tupleDefects (value : Json) : List Defect :=
  if (elements value).isSome then [] else [.wrongType]

/-- Of a field of an object that is made a tuple, if the object has it. -/
def tupleFieldDefects (d : JsonDict) (key : String) : List Defect :=
  tupleDefects ((d.get? key).getD (.list []))

/-- The items of such a field. -/
def itemsAt (d : JsonDict) (key : String) : List Json :=
  (elements ((d.get? key).getD (.list []))).getD []

/-- Of the verification status. -/
def statusDefects (value : Json) : List Defect :=
  match value with
  | .str status => if status ∈ verificationStatuses then [] else [.unknownStatus]
  | _ => [.unknownStatus]

/-- Of the checksum. -/
def checksumDefects (py : Python) (value : Json) : List Defect :=
  match value with
  | .null => []
  | .str checksum => if matchesChecksum (py.lower checksum) then [] else [.malformedChecksum]
  | _ => [.wrongType]

/-- Of a field of the configuration. -/
def configFieldDefects (field : Json) : List Defect :=
  match field with
  | .dict d => requiredDefects d "name" ++ requiredDefects d "type"
  | _ => [.wrongType]

/-- A field of a value, `null` if there is none. -/
def fieldOf (value : Json) (key : String) : Json :=
  match value with
  | .dict d => (JsonDict.get? d key).getD .null
  | _ => .null

/-- Of an entry, in the order in which its fields are read. -/
def entryDefects (py : Python) (raw : Json) : List Defect :=
  match raw with
  | .dict d =>
    List.flatten [
      requiredDefects d "verification_status" ++ statusDefects (fieldOf raw "verification_status"),
      checksumDefects py (fieldOf raw "checksum_sha256"),
      tupleFieldDefects d "config_schema",
      (itemsAt d "config_schema").flatMap configFieldDefects,
      requiredDefects d "connector_id",
      requiredDefects d "display_name",
      requiredDefects d "publisher",
      requiredDefects d "version",
      requiredDefects d "capabilities" ++ tupleFieldDefects d "capabilities",
      tupleFieldDefects d "required_permissions",
      tupleFieldDefects d "supported_auth_methods",
      requiredDefects d "package_location"]
  | _ => [.wrongType]

/-- What an entry is listed by. -/
structure Listing where
  connectorId : Json
  version : Json
  publisher : Json

/-- The listing of an entry in the file. -/
def listing (raw : Json) : Listing :=
  ⟨fieldOf raw "connector_id", fieldOf raw "version", fieldOf raw "publisher"⟩

/-- Two listings have the same key. -/
def Listing.sameKey (py : Python) (x y : Listing) : Bool :=
  hashKey py x.connectorId == hashKey py y.connectorId &&
    hashKey py x.version == hashKey py y.version

/-- The first publisher of a connector that is not `null`. -/
def knownPublisher (py : Python) (listings : List Listing) (id : Option HashKey) :
    Option Json :=
  (listings.find? fun x => hashKey py x.connectorId == id && !isNone x.publisher).map
    Listing.publisher

/-- Of a listing, given those before it. -/
def listingDefects (py : Python) (before : List Listing) (x : Listing) : List Defect :=
  if (hashKey py x.connectorId).isNone || (hashKey py x.version).isNone then [.wrongType]
  else if before.any (·.sameKey py x) then [.duplicate]
  else
    match knownPublisher py before (hashKey py x.connectorId) with
    | some publisher => if equal py publisher x.publisher then [] else [.otherPublisher]
    | none => []

/-- The entries in the content of a file. -/
def itemsOf (raw : Json) : List Json :=
  match raw with
  | .dict d => itemsAt d "entries"
  | _ => []

/-- Of the content of a file: of every entry, then of the entries among each other. -/
def defects (py : Python) (raw : Json) : List Defect :=
  match raw with
  | .dict d =>
    List.flatten [
      tupleFieldDefects d "entries",
      (itemsOf raw).flatMap (entryDefects py),
      List.flatMapAfter (listingDefects py) [] ((itemsOf raw).map listing)]
  | _ => [.wrongType]

/-- What the checks let pass does not occur: a newline after a checksum, and a connector with a
    publisher that is `null` beside another. -/
structure Unambiguous (py : Python) (raw : Json) : Prop where
  checksums : ∀ item ∈ itemsOf raw, ∀ checksum, fieldOf item "checksum_sha256" = .str checksum →
    (py.lower checksum).toList.getLast? ≠ some '\n'
  publishers : ∀ a ∈ itemsOf raw, ∀ b ∈ itemsOf raw,
    equal py (fieldOf a "connector_id") (fieldOf b "connector_id") →
      isNone (fieldOf a "publisher") → isNone (fieldOf b "publisher")

/-- The first defect of a file is one that `load_registry` reports, or there is none. -/
def FirstDefectDeclared (py : Python) (file : RegistryFile) : Prop :=
  match file with
  | .notFound | .notJson => True
  | .unreadable => False
  | .content raw =>
    match defects py raw with
    | [] => Unambiguous py raw
    | defect :: _ => defect.Declared

/-! ## Values -/

/-- Only null is none. -/
@[simp] theorem isNone_iff {value : Json} : isNone value ↔ value = .null := by
  cases value <;> simp [isNone]

/-- Equal values that can be hashed have one key. -/
theorem hashKey_eq_of_equal {a b : Json} (h : equal py a b) : hashKey py a = hashKey py b := by
  cases a with
  | list items =>
    cases b with
    | list items' => rfl
    | _ => simp [equal, same] at h
  | dict fields =>
    cases b with
    | dict fields' => rfl
    | _ => simp [equal, same] at h
  | _ =>
    simp only [equal, same, Bool.and_eq_true, beq_iff_eq] at h
    exact h.1

/-- Keys are equal as values, unless they are `NaN`. -/
theorem equal_of_hashKey_eq {a b : Json} {key : HashKey} (ha : hashKey py a = some key)
    (hb : hashKey py b = some key) (hnan : key ≠ .number .nan) : equal py a b := by
  have hsame : same py a b := by
    cases a with
    | list items => cases ha
    | dict fields => cases ha
    | _ =>
      simp only [same, beq_iff_eq]
      rw [ha, hb]
  rw [equal, hsame, ha]
  simpa using hnan

/-- `NaN` is equal to nothing. -/
theorem ne_nan_of_equal {a b : Json} (h : equal py a b) :
    hashKey py a ≠ some (.number .nan) := by
  simp only [equal, Bool.and_eq_true, bne_iff_ne] at h
  exact h.2

/-- Only `None` has its key. -/
theorem eq_null_of_hashKey {a : Json} (h : hashKey py a = hashKey py .null) : a = .null := by
  cases a <;> simp [hashKey] at h ⊢

/-- Values that are equal to one that can be hashed are equal to each other. -/
theorem equal_of_equal {a b c : Json} (ha : equal py a b) (hc : equal py a c)
    (h : (hashKey py b).isSome) : equal py b c := by
  obtain ⟨key, hkey⟩ := Option.isSome_iff_exists.1 h
  have hab := hashKey_eq_of_equal ha
  refine equal_of_hashKey_eq hkey ?_ fun hnan => ?_
  · rw [← hashKey_eq_of_equal hc, hab, hkey]
  · exact ne_nan_of_equal ha (by rw [hab, hkey, hnan])

/-! ## The steps of the reading -/

/-- The exception is reported as a `RegistryError`. -/
def Raised.IsReported (raised : Raised) : Prop := raised.converted.IsRegistryError

section Steps

variable {α : Type} {d : JsonDict} {key : String} {value : Json}

/-- What is refused has a declared defect. -/
theorem detects_refused {E : Raised → Prop} {raised : Raised} {defect : Defect} (hE : E raised)
    (h : defect ≠ .wrongType) :
    Detects (α := α) E Defect.Declared [defect] (.error raised) :=
  detects_error ⟨fun _ => h, fun _ => hE⟩

/-- The exceptions that nothing catches are not declared. -/
theorem detects_wrongType {E : Raised → Prop} {raised : Raised} (hE : ¬ E raised) :
    Detects (α := α) E Defect.Declared [.wrongType] (.error raised) :=
  detects_error ⟨fun h => absurd h hE, fun hd => absurd rfl hd⟩

/-- The value of a key is the one the object has. -/
theorem subscript_eq_ok (h : subscript (.dict d) key = .ok value) :
    JsonDict.get? d key = some value := by
  simp only [subscript] at h
  split at h
  · next found hfound =>
    cases h
    exact hfound
  · cases h

/-- The field read is the value of its key. -/
theorem fieldOf_eq (h : subscript (.dict d) key = .ok value) :
    fieldOf (.dict d) key = value := by
  simp [fieldOf, subscript_eq_ok h]

/-- A key that is missing is detected. -/
theorem detects_subscript :
    Detects Raised.IsReported Defect.Declared (requiredDefects d key)
      (subscript (.dict d) key) := by
  cases h : JsonDict.get? d key with
  | some found => simpa [requiredDefects, subscript, h] using detects_ok
  | none =>
    simp only [requiredDefects, subscript, h, Option.isSome_none]
    exact detects_refused trivial (by simp)

/-- A value that is no sequence is detected. -/
theorem detects_tuple {E : Raised → Prop} (hE : ¬ E .typeError) :
    Detects E Defect.Declared (tupleDefects value) (tuple value) := by
  cases h : elements value with
  | some items => simpa [tupleDefects, tuple, h] using detects_ok
  | none =>
    simp only [tupleDefects, tuple, h, Option.isSome_none]
    exact detects_wrongType hE

/-- A tuple has the elements of its value. -/
theorem tuple_eq_ok {items : List Json} (h : tuple value = .ok items) :
    elements value = some items := by
  simp only [tuple] at h
  split at h
  · next items' hitems =>
    cases h
    exact hitems
  · cases h

/-- A status that is unknown is detected. -/
theorem detects_checkStatus :
    Detects Raised.IsReported Defect.Declared (statusDefects value) (checkStatus value) := by
  cases value with
  | str status =>
    by_cases h : status ∈ verificationStatuses
    · simpa [statusDefects, checkStatus, h] using detects_ok
    · simp only [statusDefects, checkStatus, h, if_false]
      exact detects_refused trivial (by simp)
  | _ => exact detects_refused trivial (by simp)

/-- A status that passes is one of the known ones. -/
theorem checkStatus_eq_ok {status : String} (h : checkStatus value = .ok status) :
    status ∈ verificationStatuses := by
  cases value with
  | str status' =>
    simp only [checkStatus] at h
    split at h
    · next hmem =>
      cases h
      exact hmem
    · cases h
  | _ => cases h

/-- A checksum that is none is detected. -/
theorem detects_checkChecksum {connectorId : Json} :
    Detects Raised.IsReported Defect.Declared (checksumDefects py value)
      (checkChecksum py connectorId value) := by
  cases value with
  | null => exact detects_ok
  | str checksum =>
    by_cases h : matchesChecksum (py.lower checksum)
    · simpa [checksumDefects, checkChecksum, h] using detects_ok
    · simp only [checksumDefects, checkChecksum, h]
      exact detects_refused trivial (by simp)
  | _ => exact detects_wrongType not_false

/-- The checksum of an entry is that of the file in lower case, and matches. -/
theorem checkChecksum_eq_ok {connectorId : Json} {checksum : Option String}
    (h : checkChecksum py connectorId value = .ok checksum) :
    (∀ text, value = .str text → checksum = some (py.lower text)) ∧
      ∀ text, checksum = some text →
        matchesChecksum text ∧ ∃ text', value = .str text' ∧ text = py.lower text' := by
  -- Null has no checksum, a text is matched, and anything else is refused.
  cases value with
  | null =>
    cases h
    exact ⟨fun _ h => (nomatch h), fun _ h => (nomatch h)⟩
  | str text =>
    simp only [checkChecksum] at h
    split at h
    · next hmatch =>
      cases h
      refine ⟨fun text' heq => ?_, fun text' heq => ?_⟩
      · cases heq
        rfl
      · cases heq
        exact ⟨hmatch, text, rfl, rfl⟩
    · cases h
  | _ => cases h

/-- A configuration field that lacks a part is detected. -/
theorem detects_configField {field : Json} :
    Detects Raised.IsReported Defect.Declared (configFieldDefects field) (configField field) := by
  cases field with
  | dict d =>
    refine detects_subscript.bind fun name _ => ?_
    rw [← List.append_nil (requiredDefects d "type")]
    exact detects_subscript.bind fun type _ => detects_ok
  | _ => exact detects_wrongType not_false

/-- An entry is read up to its first defect. -/
theorem detects_readEntry {raw : Json} :
    Detects Raised.IsReported Defect.Declared (entryDefects py raw) (readEntry py raw) := by
  -- Only an object has the keys of an entry.
  cases raw with
  | dict d =>
    simp only [entryDefects, List.flatten_cons, List.flatten_nil]
    refine (detects_subscript.bind fun status hstatus => ?_).bind fun _ _ => ?_
    · rw [fieldOf_eq hstatus]
      exact detects_checkStatus
    refine detects_checkChecksum.bind fun _ _ => ?_
    refine (detects_tuple not_false).bind fun fields hfields => ?_
    have hitems : itemsAt d "config_schema" = fields := by
      rw [itemsAt, tuple_eq_ok hfields]
      rfl
    rw [hitems]
    refine (Detects.mapM fun _ => detects_configField).bind fun _ _ => ?_
    refine detects_subscript.bind fun _ _ => ?_
    refine detects_subscript.bind fun _ _ => ?_
    refine detects_subscript.bind fun _ _ => ?_
    refine detects_subscript.bind fun _ _ => ?_
    refine (detects_subscript.bind fun capabilities hcapabilities => ?_).bind fun _ _ => ?_
    · rw [tupleFieldDefects, subscript_eq_ok hcapabilities]
      exact detects_tuple not_false
    refine (detects_tuple not_false).bind fun _ _ => ?_
    refine (detects_tuple not_false).bind fun _ _ => ?_
    exact detects_subscript.bind fun _ _ => detects_ok
  | _ => exact detects_wrongType not_false

/-- `_entry_from_dict` reports the missing keys. -/
theorem detects_entryFromDict {raw : Json} :
    Detects Raised.IsRegistryError Defect.Declared (entryDefects py raw) (entryFromDict py raw) :=
  Detects.mapError (g := Raised.converted) detects_readEntry

end Steps

/-! ## What has been read -/

/-- The listing of an entry. -/
def RegistryEntry.listing (entry : RegistryEntry) : Listing :=
  ⟨entry.connectorId, entry.version, entry.publisher⟩

/-- An entry of the file, and what is read of it. -/
structure IsRead (py : Python) (raw : Json) (entry : RegistryEntry) : Prop where
  listing : entry.listing = ConnectorRegistry.listing raw
  status : entry.verificationStatus ∈ verificationStatuses
  lowered : ∀ text, fieldOf raw "checksum_sha256" = .str text →
    entry.checksumSha256 = some (py.lower text)
  matched : ∀ checksum, entry.checksumSha256 = some checksum → matchesChecksum checksum ∧
    ∃ text, fieldOf raw "checksum_sha256" = .str text ∧ checksum = py.lower text

/-- An entry that is built is read from its record. -/
theorem isRead_of_entryFromDict {raw : Json} {entry : RegistryEntry}
    (h : entryFromDict py raw = .ok entry) : IsRead py raw entry := by
  have h : readEntry py raw = .ok entry := by
    cases hread : readEntry py raw with
    | ok entry' =>
      rw [entryFromDict, hread] at h
      exact h
    | error raised =>
      rw [entryFromDict, hread] at h
      cases h
  cases raw with
  | dict d =>
    obtain ⟨status, hstatus, h⟩ := bind_eq_ok.1 h
    obtain ⟨statusValue, -, hstatus⟩ := bind_eq_ok.1 hstatus
    obtain ⟨connector, -, h⟩ := bind_eq_ok.1 h
    obtain ⟨checksum, hchecksum, h⟩ := bind_eq_ok.1 h
    obtain ⟨fields, -, h⟩ := bind_eq_ok.1 h
    obtain ⟨configSchema, -, h⟩ := bind_eq_ok.1 h
    obtain ⟨connectorId, hconnectorId, h⟩ := bind_eq_ok.1 h
    obtain ⟨displayName, -, h⟩ := bind_eq_ok.1 h
    obtain ⟨publisher, hpublisher, h⟩ := bind_eq_ok.1 h
    obtain ⟨version, hversion, h⟩ := bind_eq_ok.1 h
    obtain ⟨capabilities, -, h⟩ := bind_eq_ok.1 h
    obtain ⟨requiredPermissions, -, h⟩ := bind_eq_ok.1 h
    obtain ⟨supportedAuthMethods, -, h⟩ := bind_eq_ok.1 h
    obtain ⟨minVersion, -, h⟩ := bind_eq_ok.1 h
    obtain ⟨maxVersion, -, h⟩ := bind_eq_ok.1 h
    obtain ⟨packageLocation, -, h⟩ := bind_eq_ok.1 h
    obtain ⟨deprecated, -, h⟩ := bind_eq_ok.1 h
    cases h
    have hsum : checkChecksum py connector (fieldOf (.dict d) "checksum_sha256") =
        .ok checksum := hchecksum
    exact {
      listing := by
        rw [ConnectorRegistry.listing, fieldOf_eq hconnectorId, fieldOf_eq hversion,
          fieldOf_eq hpublisher]
        rfl
      status := checkStatus_eq_ok hstatus
      lowered := (checkChecksum_eq_ok hsum).1
      matched := (checkChecksum_eq_ok hsum).2 }
  | _ => cases h

/-- What matches is a checksum, unless a newline follows it. -/
theorem isSha256_iff {text : String} (h : matchesChecksum text) :
    IsSha256 text ↔ text.toList.getLast? ≠ some '\n' := by
  simp only [matchesChecksum, Bool.and_eq_true, Bool.or_eq_true, beq_iff_eq] at h
  obtain ⟨⟨hlength, hdigits⟩, hrest⟩ := h
  have hsplit : text.toList.take 64 ++ text.toList.drop 64 = text.toList :=
    List.take_append_drop 64 text.toList
  constructor
  · rintro ⟨-, hall⟩ hlast
    have hnewline : isLowerHex '\n' := hall '\n' (List.mem_of_getLast? hlast)
    exact absurd hnewline (by decide)
  · intro hlast
    rcases hrest with hrest | hrest
    · rw [hrest, List.append_nil] at hsplit
      rw [hsplit] at hlength hdigits
      exact ⟨hlength, List.all_eq_true.1 hdigits⟩
    · rw [← hsplit, hrest, List.getLast?_concat] at hlast
      exact absurd rfl hlast

/-! ## The loop over the entries -/

/-- What `seen` and `publisher_by_connector_id` hold after some entries. -/
structure Tracks (py : Python) (before : List Listing) (listed : Listed) : Prop where
  seen : ∀ id version, (id, version) ∈ listed.seen ↔
    ∃ x ∈ before, hashKey py x.connectorId = some id ∧ hashKey py x.version = some version
  publishers : ∀ id, listed.publishers id = (knownPublisher py before (some id)).getD .null

/-- Before the first entry nothing is listed. -/
theorem tracks_nil : Tracks py [] {} := ⟨fun _ _ => by simp, fun _ => rfl⟩

/-- The first publisher stays; the next listing may give one where there is none. -/
theorem knownPublisher_snoc {before : List Listing} {x : Listing} {id : Option HashKey} :
    knownPublisher py (before ++ [x]) id = (knownPublisher py before id).or
      (if hashKey py x.connectorId = id ∧ isNone x.publisher = false then some x.publisher
        else none) := by
  rw [knownPublisher, knownPublisher, List.find?_append, Option.map_or]
  congr 1
  by_cases h : hashKey py x.connectorId = id ∧ isNone x.publisher = false
  · simp [h]
  · rw [if_neg h]
    simp only [List.find?_cons, List.find?_nil]
    split
    · next hx =>
      simp only [Bool.and_eq_true, beq_iff_eq, Bool.not_eq_true'] at hx
      exact absurd hx h
    · rfl

/-- A known publisher is not `null`. -/
theorem isNone_of_knownPublisher {listings : List Listing} {id : Option HashKey}
    {publisher : Json} (h : knownPublisher py listings id = some publisher) :
    isNone publisher = false := by
  obtain ⟨x, hx, rfl⟩ := Option.map_eq_some_iff.1 h
  have hfound := List.find?_some hx
  simp only [Bool.and_eq_true, Bool.not_eq_true'] at hfound
  exact hfound.2

section Loop

variable {before : List Listing} {listed : Listed} {entry : RegistryEntry}

/-- A turn of the loop fails exactly at a defect of the listing. -/
theorem detects_listEntry (h : Tracks py before listed) :
    Detects Raised.IsRegistryError Defect.Declared (listingDefects py before entry.listing)
      (listEntry py listed entry) := by
  have hwrong : Detects (α := Listed) Raised.IsRegistryError Defect.Declared [.wrongType]
      (.error .typeError) := detects_wrongType not_false
  have hlisting : entry.listing = ⟨entry.connectorId, entry.version, entry.publisher⟩ := rfl
  rw [listingDefects, listEntry, hlisting]
  -- The two keys of the dictionaries are hashed first.
  cases hid : hashKey py entry.connectorId with
  | none => simpa using hwrong
  | some id =>
    cases hversion : hashKey py entry.version with
    | none => simpa using hwrong
    | some version =>
      have hseen : (before.any fun x => x.sameKey py entry.listing) ↔
          (id, version) ∈ listed.seen := by
        rw [h.seen, List.any_eq_true]
        simp [Listing.sameKey, RegistryEntry.listing, hid, hversion]
      by_cases hdup : (id, version) ∈ listed.seen
      · rw [RegistryEntry.listing] at hseen
        simp only [hdup, if_true, hseen.2 hdup, Option.isNone_some, Bool.or_self]
        exact detects_refused trivial (by simp)
      · rw [RegistryEntry.listing] at hseen
        simp only [hdup, if_false, mt hseen.1 hdup, Option.isNone_some, Bool.or_self,
          h.publishers id]
        cases hknown : knownPublisher py before (some id) with
        | none => exact detects_ok
        | some publisher =>
          have hnone := isNone_of_knownPublisher hknown
          by_cases heq : equal py publisher entry.publisher
          · simpa [hnone, heq] using detects_ok
          · simp only [Option.getD_some, hnone, heq, Bool.false_eq_true, if_false]
            exact detects_refused trivial (by simp)

/-- A listing is recorded where its connector has no publisher yet. -/
theorem knownPublisher_getD_snoc {x : Listing} {id id' : HashKey}
    (hid : hashKey py x.connectorId = some id) :
    (knownPublisher py (before ++ [x]) (some id')).getD .null =
      if id' = id ∧ knownPublisher py before (some id') = none then x.publisher
      else (knownPublisher py before (some id')).getD .null := by
  rw [knownPublisher_snoc, hid]
  -- A publisher that is known stays; else the new entry's counts.
  cases knownPublisher py before (some id') with
  | some publisher => simp
  | none =>
    by_cases hid' : id' = id
    · subst hid'
      cases hnone : isNone x.publisher with
      | true =>
        rw [isNone_iff] at hnone
        simp [hnone]
      | false => simp
    · simp [hid', Ne.symm hid']

/-- A turn of the loop that succeeds keeps track. -/
theorem Tracks.next {listed' : Listed} (h : Tracks py before listed)
    (hlist : listEntry py listed entry = .ok listed') :
    Tracks py (before ++ [entry.listing]) listed' := by
  rw [listEntry] at hlist
  -- A version listed before is refused, and so is another publisher.
  split at hlist
  · next id version hid hversion =>
    have hseen : ∀ id' version', (id', version') ∈ (id, version) :: listed.seen ↔
        ∃ x ∈ before ++ [entry.listing],
          hashKey py x.connectorId = some id' ∧ hashKey py x.version = some version' := by
      intro id' version'
      rw [List.mem_cons, h.seen, Prod.mk.injEq]
      constructor
      · rintro (⟨rfl, rfl⟩ | ⟨x, hx, hkey⟩)
        · exact ⟨entry.listing, by simp, hid, hversion⟩
        · exact ⟨x, List.mem_append_left _ hx, hkey⟩
      · rintro ⟨x, hx, hkey⟩
        rcases List.mem_append.1 hx with hx | hx
        · exact .inr ⟨x, hx, hkey⟩
        · obtain rfl := List.mem_singleton.1 hx
          exact .inl ⟨Option.some.inj (hkey.1.symm.trans hid),
            Option.some.inj (hkey.2.symm.trans hversion)⟩
    split at hlist
    · cases hlist
    · dsimp only at hlist
      rw [h.publishers id] at hlist
      cases hknown : knownPublisher py before (some id) with
      | none =>
        rw [hknown] at hlist
        cases hlist
        refine ⟨hseen, fun id' => ?_⟩
        dsimp only
        rw [knownPublisher_getD_snoc hid, Function.update_apply, h.publishers]
        by_cases hid' : id' = id
        · simp [hid', hknown, RegistryEntry.listing]
        · simp [hid']
      | some publisher =>
        rw [hknown] at hlist
        simp only [Option.getD_some, isNone_of_knownPublisher hknown, Bool.false_eq_true,
          if_false] at hlist
        split at hlist
        · cases hlist
          refine ⟨hseen, fun id' => ?_⟩
          rw [knownPublisher_getD_snoc hid, h.publishers, if_neg]
          rintro ⟨rfl, hnone⟩
          cases hknown.symm.trans hnone
        · cases hlist
  · cases hlist

end Loop

/-! ## What has no defects -/

section Sound

variable {listings : List Listing}

/-- Without defects the ids can be hashed. -/
theorem isSome_of_listingDefects
    (h : List.flatMapAfter (listingDefects py) [] listings = []) {x : Listing}
    (hx : x ∈ listings) : (hashKey py x.connectorId).isSome := by
  rw [List.flatMapAfter_eq_nil_iff] at h
  obtain ⟨before, after, rfl⟩ := List.append_of_mem hx
  have hdefects := h before x after rfl
  rw [listingDefects] at hdefects
  split at hdefects
  · cases hdefects
  · next hkey =>
    rw [Bool.or_eq_true, not_or] at hkey
    exact Option.isSome_iff_ne_none.2 (by simpa using hkey.1)

/-- Without defects the keys differ pairwise. -/
theorem pairwise_of_listingDefects
    (h : List.flatMapAfter (listingDefects py) [] listings = []) :
    listings.Pairwise fun x y =>
      ¬ (equal py x.connectorId y.connectorId ∧ equal py x.version y.version) := by
  rw [List.flatMapAfter_eq_nil_iff] at h
  rw [List.pairwise_iff_split]
  rintro before x after heq y hy ⟨hid, hversion⟩
  have hx := h before x after heq
  rw [List.nil_append, listingDefects] at hx
  split at hx
  · cases hx
  · have hany : before.any (·.sameKey py x) := by
      refine List.any_eq_true.2 ⟨y, hy, ?_⟩
      simp [Listing.sameKey, hashKey_eq_of_equal hid, hashKey_eq_of_equal hversion]
    rw [if_pos hany] at hx
    cases hx

/-- Without defects every publisher that is not `null` is that of its connector. -/
theorem publisher_of_listingDefects
    (h : List.flatMapAfter (listingDefects py) [] listings = []) {x : Listing}
    (hx : x ∈ listings) (hnone : isNone x.publisher = false) :
    ∃ publisher, knownPublisher py listings (hashKey py x.connectorId) = some publisher ∧
      (publisher = x.publisher ∨ equal py publisher x.publisher) := by
  rw [List.flatMapAfter_eq_nil_iff] at h
  obtain ⟨before, after, rfl⟩ := List.append_of_mem hx
  have hdefects := h before x after rfl
  rw [List.nil_append, listingDefects] at hdefects
  split at hdefects
  · cases hdefects
  · split at hdefects
    · cases hdefects
    · cases hknown : knownPublisher py before (hashKey py x.connectorId) with
      | some publisher =>
        simp only [hknown] at hdefects
        split at hdefects
        · next heq =>
          refine ⟨publisher, ?_, .inr heq⟩
          obtain ⟨y, hy, rfl⟩ := Option.map_eq_some_iff.1 hknown
          rw [knownPublisher, List.find?_append, hy]
          rfl
        · cases hdefects
      | none =>
        refine ⟨x.publisher, ?_, .inl rfl⟩
        rw [knownPublisher, Option.map_eq_none_iff] at hknown
        rw [knownPublisher, List.find?_append, hknown]
        simp [hnone]

/-- Without defects each connector has one publisher, if `null` does not stand beside another. -/
theorem exists_publisher_iff (h : List.flatMapAfter (listingDefects py) [] listings = []) :
    (∀ id, ∃ publisher, ∀ x ∈ listings, equal py id x.connectorId →
      publisher = x.publisher ∨ equal py publisher x.publisher) ↔
    ∀ x ∈ listings, ∀ y ∈ listings, equal py x.connectorId y.connectorId →
      isNone x.publisher → isNone y.publisher := by
  constructor
  · intro hone x hx y hy hequal hnone
    rw [isNone_iff] at hnone ⊢
    have hsome := isSome_of_listingDefects h hx
    have hself : equal py x.connectorId x.connectorId := by
      obtain ⟨key, hkey⟩ := Option.isSome_iff_exists.1 hsome
      exact equal_of_hashKey_eq hkey hkey fun hnan =>
        ne_nan_of_equal hequal (by rw [hkey, hnan])
    obtain ⟨publisher, hpublisher⟩ := hone x.connectorId
    obtain rfl : publisher = .null := by
      rcases hpublisher x hx hself with heq | heq
      · rw [heq, hnone]
      · exact eq_null_of_hashKey (by rw [hashKey_eq_of_equal heq, hnone])
    rcases hpublisher y hy hequal with heq | heq
    · exact heq.symm
    · exact eq_null_of_hashKey (hashKey_eq_of_equal heq).symm
  · intro hmix id
    by_cases hall : ∀ x ∈ listings, equal py id x.connectorId → isNone x.publisher
    · refine ⟨.null, fun x hx hequal => .inl ?_⟩
      exact (isNone_iff.1 (hall x hx hequal)).symm
    · push Not at hall
      obtain ⟨y, hy, hequal, hsome⟩ := hall
      rw [ne_eq, Bool.not_eq_true] at hsome
      obtain ⟨publisher, hknown, -⟩ := publisher_of_listingDefects h hy hsome
      refine ⟨publisher, fun x hx hequal' => ?_⟩
      have hxy := equal_of_equal hequal' hequal (isSome_of_listingDefects h hx)
      have hx' : isNone x.publisher = false := by
        cases hnone : isNone x.publisher with
        | false => rfl
        | true =>
          rw [hmix x hx y hy hxy hnone] at hsome
          cases hsome
      obtain ⟨publisher', hknown', heq⟩ := publisher_of_listingDefects h hx hx'
      rw [hashKey_eq_of_equal hxy, hknown] at hknown'
      cases hknown'
      exact heq

end Sound

/-! ## The loading -/

/-- The entries are listed as in the file. -/
theorem map_listing_eq {items : List Json} {entries : List RegistryEntry}
    (h : List.Forall₂ (IsRead py) items entries) :
    entries.map RegistryEntry.listing = items.map listing := by
  induction h with
  | nil => rfl
  | cons hentry _ ih => rw [List.map_cons, List.map_cons, ih, hentry.listing]

/-- A file is loaded up to its first defect. -/
theorem detects_content {raw : Json} :
    Detects Raised.IsRegistryError Defect.Declared (defects py raw)
      (loadRegistry py (.content raw)) := by
  -- Only an object has a list of connectors.
  cases raw with
  | dict d =>
    simp only [defects, List.flatten_cons, List.flatten_nil]
    refine (detects_tuple not_false).bind fun items hitems => ?_
    have hitems : itemsOf (.dict d) = items := by
      rw [itemsOf, itemsAt, tuple_eq_ok hitems]
      rfl
    rw [hitems]
    refine (Detects.mapM fun _ => detects_entryFromDict).bind fun entries hentries => ?_
    have hafter : List.flatMapAfter (listingDefects py) [] (entries.map RegistryEntry.listing) =
        _ := List.flatMapAfter_map [] entries
    have hread := (mapM_eq_ok.1 hentries).imp fun _ _ => isRead_of_entryFromDict
    rw [← map_listing_eq hread, hafter]
    refine Detects.bind (Detects.foldlM
      (I := fun before => Tracks py (before.map RegistryEntry.listing)) tracks_nil ?_ ?_)
      fun _ _ => detects_ok
    · exact fun _ _ _ h => detects_listEntry h
    · intro before listed entry listed' h hlist
      rw [List.map_append]
      exact h.next hlist
  | _ => exact detects_wrongType not_false

/-- What is loaded is what the entries of the file are read as. -/
theorem forall₂_isRead {raw : Json} {entries : List RegistryEntry}
    (h : loadRegistry py (.content raw) = .ok entries) :
    List.Forall₂ (IsRead py) (itemsOf raw) entries := by
  obtain ⟨raw', hraw, h⟩ := bind_eq_ok.1 h
  cases hraw
  -- Only an object has a list of connectors.
  cases raw with
  | dict d =>
    obtain ⟨items, hitems, h⟩ := bind_eq_ok.1 h
    obtain ⟨entries', hentries, h⟩ := bind_eq_ok.1 h
    obtain ⟨listed, -, h⟩ := bind_eq_ok.1 h
    cases h
    have hitems : itemsOf (.dict d) = items := by
      rw [itemsOf, itemsAt, tuple_eq_ok hitems]
      rfl
    rw [hitems]
    exact (mapM_eq_ok.1 hentries).imp fun _ _ => isRead_of_entryFromDict
  | _ => cases h

/-- The checksum that is read of an entry is sound exactly if no newline follows it. -/
theorem IsRead.checksum_iff {raw : Json} {entry : RegistryEntry} (h : IsRead py raw entry) :
    (∀ text, fieldOf raw "checksum_sha256" = .str text →
      (py.lower text).toList.getLast? ≠ some '\n') ↔
    ∀ checksum, entry.checksumSha256 = some checksum → IsSha256 checksum := by
  constructor
  · intro hlast checksum hchecksum
    obtain ⟨hmatch, text, htext, rfl⟩ := h.matched checksum hchecksum
    exact (isSha256_iff hmatch).2 (hlast text htext)
  · intro hsound text htext
    have hchecksum := h.lowered text htext
    exact (isSha256_iff (h.matched _ hchecksum).1).1 (hsound _ hchecksum)

/-- A file without defects is read as a sound registry exactly if it is unambiguous. -/
theorem sound_iff {raw : Json} {entries : List RegistryEntry} (hdefects : defects py raw = [])
    (hread : List.Forall₂ (IsRead py) (itemsOf raw) entries) :
    Sound py entries ↔ Unambiguous py raw := by
  have hlistings := map_listing_eq hread
  have hafter : List.flatMapAfter (listingDefects py) [] (entries.map RegistryEntry.listing) =
      [] := by
    rw [hlistings]
    cases raw with
    | dict d =>
      simp only [defects, List.flatten_cons, List.append_eq_nil_iff] at hdefects
      exact hdefects.2.2.1
    | _ => cases hdefects
  have hchecksums := hread.forall_mem_iff fun _ _ h => h.checksum_iff
  -- the publishers of the entries on the left, of the items on the right
  have hpublishers := exists_publisher_iff hafter
  conv_rhs at hpublishers => rw [hlistings]
  simp only [List.forall_mem_map] at hpublishers
  constructor
  · exact fun h => ⟨hchecksums.2 h.checksums, hpublishers.1 h.publishers⟩
  · intro h
    refine ⟨?_, hpublishers.2 h.publishers, ?_, hchecksums.1 h.checksums⟩
    · have hpairs := pairwise_of_listingDefects hafter
      rwa [List.pairwise_map] at hpairs
    · have hstatuses := hread.forall_mem_iff (P := fun _ => True) fun _ _ h =>
        ⟨fun _ => h.status, fun _ => trivial⟩
      exact hstatuses.1 fun _ _ => trivial

/-- `load_registry` raises a `RegistryError` or returns a sound registry exactly if the first
    defect of the file is a declared one, or it has none and is unambiguous. -/
theorem load_registry_sound_iff (file : RegistryFile) :
    Ends Raised.IsRegistryError (Sound py) (loadRegistry py file) ↔
      FirstDefectDeclared py file := by
  -- A file that cannot be read is reported, or raises, before its content counts.
  cases file with
  | notFound => exact Iff.rfl
  | notJson => exact Iff.rfl
  | unreadable => exact Iff.rfl
  | content raw =>
    have hdetects : Detects Raised.IsRegistryError Defect.Declared (defects py raw)
      (loadRegistry py (.content raw)) := detects_content
    rw [FirstDefectDeclared]
    cases hdefects : defects py raw with
    | nil =>
      rw [hdefects] at hdetects
      obtain ⟨entries, hentries⟩ := hdetects
      rw [hentries, ← sound_iff hdefects (forall₂_isRead hentries)]
      exact Iff.rfl
    | cons defect rest =>
      rw [hdefects] at hdetects
      exact hdetects.ends_cons_iff

/-- A checksum that is a number ends in an `AttributeError`. -/
theorem load_registry_numberChecksum :
    ¬ ∀ (py : Python) (file : RegistryFile),
      Ends Raised.IsRegistryError (Sound py) (loadRegistry py file) :=
  fun h => h ⟨id, fun _ => .nan⟩ (.content (.dict [("entries", .list [.dict [
    ("verification_status", .str "official"), ("checksum_sha256", .int 5)]])]))

end MiniGrc.ConnectorRegistry
