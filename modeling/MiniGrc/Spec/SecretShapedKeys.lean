import MiniGrc.App.ConnectorLifecycle

/-!
# Secret-shaped keys

`validate_result` looks at the keys of a payload and of the objects inside it, but its search
does not go into lists. What it accepts is free of secret-shaped keys exactly if no object
inside a list has one.

## Key results

- `isSecretShaped_of_namesSecret`: the search knows every key that names a secret
- `findSecretShapedKeys_eq_nil`: what the search has looked at
- `accepted_secretFree_iff`: when an accepted payload carries no secret-shaped key
- `secret_in_list`: a payload that is accepted with one
-/

namespace MiniGrc.Connectors

variable {value : Json} {key : String}

/-! ## Keys that name a secret -/

/-- In some letter case, the key is one of the terms, or ends in one after an underscore. -/
def NamesSecret (key : String) : Prop :=
  ∃ term ∈ secretShapedKeyTerms, ∃ start, key.toList.map foldCase = start ++ term.toList ∧
    (start = [] ∨ start.getLast? = some '_')

theorem isSecretShaped_of_namesSecret (h : NamesSecret key) : isSecretShaped key = true := by
  obtain ⟨term, hterm, start, hkey, hstart⟩ := h
  unfold isSecretShaped
  simp only
  rw [List.any_eq_true]
  refine ⟨term, hterm, List.any_eq_true.2 ⟨term.toList, List.mem_cons_self, ?_⟩⟩
  rw [hkey, Bool.and_eq_true, Bool.or_eq_true]
  refine ⟨List.isSuffixOf_iff_suffix.2 ⟨start, rfl⟩, ?_⟩
  -- either the key is the term, or an underscore comes before it
  rcases hstart with rfl | hlast
  · exact .inl (by simp)
  · right
    have htake : (start ++ term.toList).take ((start ++ term.toList).length - term.toList.length) =
        start := by
      rw [List.length_append, Nat.add_sub_cancel, List.take_left]
    rw [htake, hlast]
    rfl

/-! ## Where keys occur -/

/-- An object at some depth of the value has the key. -/
inductive HasKey (key : String) : Json → Prop
  | here {fields : JsonDict} {value : Json} : (key, value) ∈ fields → HasKey key (.dict fields)
  | field {fields : JsonDict} {name : String} {value : Json} : (name, value) ∈ fields →
    HasKey key value → HasKey key (.dict fields)
  | item {items : List Json} {value : Json} : value ∈ items → HasKey key value →
    HasKey key (.list items)

/-- An object that is in no list has the key. -/
inductive HasOuterKey (key : String) : Json → Prop
  | here {fields : JsonDict} {value : Json} : (key, value) ∈ fields → HasOuterKey key (.dict fields)
  | field {fields : JsonDict} {name : String} {value : Json} : (name, value) ∈ fields →
    HasOuterKey key value → HasOuterKey key (.dict fields)

/-- An object inside a list has the key. -/
inductive HasListedKey (key : String) : Json → Prop
  | field {fields : JsonDict} {name : String} {value : Json} : (name, value) ∈ fields →
    HasListedKey key value → HasListedKey key (.dict fields)
  | item {items : List Json} {value : Json} : value ∈ items → HasKey key value →
    HasListedKey key (.list items)

theorem hasKey_iff : HasKey key value ↔ HasOuterKey key value ∨ HasListedKey key value := by
  constructor
  · intro h
    -- the first list on the way to the key decides
    induction h with
    | here hmem => exact .inl (.here hmem)
    | field hmem _ ih =>
      rcases ih with h | h
      · exact .inl (.field hmem h)
      · exact .inr (.field hmem h)
    | item hmem hkey _ => exact .inr (.item hmem hkey)
  · rintro (h | h)
    · induction h with
      | here hmem => exact .here hmem
      | field hmem _ ih => exact .field hmem ih
    · induction h with
      | field hmem _ ih => exact .field hmem ih
      | item hmem hkey => exact .item hmem hkey

/-! ## The search -/

mutual

/-- The search finds nothing in the fields of an object. -/
theorem findSecretShapedKeys_eq_nil (path : String) : (fields : JsonDict) →
    (findSecretShapedKeys path fields = [] ↔
      ∀ field ∈ fields, isSecretShaped field.1 = false ∧
        ∀ key, HasOuterKey key field.2 → isSecretShaped key = false)
  | [] => by simp [findSecretShapedKeys]
  | field :: rest => by
    rw [findSecretShapedKeys, List.append_eq_nil_iff, List.forall_mem_cons,
      fieldSecretShapedKeys_eq_nil path field, findSecretShapedKeys_eq_nil path rest]
termination_by structural fields => fields

/-- It finds nothing in a field. -/
theorem fieldSecretShapedKeys_eq_nil (path : String) : (field : String × Json) →
    (fieldSecretShapedKeys path field = [] ↔ isSecretShaped field.1 = false ∧
      ∀ key, HasOuterKey key field.2 → isSecretShaped key = false)
  | (key, value) => by
    rw [fieldSecretShapedKeys, List.append_eq_nil_iff,
      valueSecretShapedKeys_eq_nil (path ++ key ++ ".") value]
    simp
termination_by structural field => field

/-- It finds nothing in a value. -/
theorem valueSecretShapedKeys_eq_nil (path : String) : (value : Json) →
    (valueSecretShapedKeys path value = [] ↔
      ∀ key, HasOuterKey key value → isSecretShaped key = false)
  | .dict fields => by
    rw [valueSecretShapedKeys, findSecretShapedKeys_eq_nil path fields]
    constructor
    · intro h key hkey
      cases hkey with
      | here hmem => exact (h _ hmem).1
      | field hmem hkey => exact (h _ hmem).2 key hkey
    · intro h field hmem
      exact ⟨h field.1 (.here hmem), fun key hkey => h key (.field hmem hkey)⟩
  | .null => ⟨fun _ key hkey => (by cases hkey), fun _ => rfl⟩
  | .bool _ => ⟨fun _ key hkey => (by cases hkey), fun _ => rfl⟩
  | .int _ => ⟨fun _ key hkey => (by cases hkey), fun _ => rfl⟩
  | .float _ => ⟨fun _ key hkey => (by cases hkey), fun _ => rfl⟩
  | .str _ => ⟨fun _ key hkey => (by cases hkey), fun _ => rfl⟩
  | .list _ => ⟨fun _ key hkey => (by cases hkey), fun _ => rfl⟩
termination_by structural value => value

end

/-! ## Accepted results -/

/-- No object at any depth has a key that names a secret. -/
def SecretFree (value : Json) : Prop := ∀ key, HasKey key value → ¬ NamesSecret key

/-- No object inside a list has a key that names a secret. -/
def ListsSecretFree (value : Json) : Prop := ∀ key, HasListedKey key value → ¬ NamesSecret key

variable {platform : Platform} {result : ConnectorResult} {manifest : ConnectorManifest}

theorem findSecretShapedKeys_of_validateResult
    (h : validateResult platform result manifest = .ok ()) :
    findSecretShapedKeys "" result.normalizedPayload = [] := by
  unfold validateResult at h
  simp only at h
  split at h
  · cases h
  · split at h
    · cases h
    · split at h
      · cases h
      · split at h
        · cases h
        · next hkeys => exact not_not.1 hkeys

theorem secretFree_iff_of_validateResult (h : validateResult platform result manifest = .ok ()) :
    SecretFree (.dict result.normalizedPayload) ↔
      ListsSecretFree (.dict result.normalizedPayload) := by
  have houter := (valueSecretShapedKeys_eq_nil "" (.dict result.normalizedPayload)).1
    (findSecretShapedKeys_of_validateResult h)
  constructor
  · exact fun hfree key hkey => hfree key (hasKey_iff.2 (.inr hkey))
  · -- what is in no list was found by the search
    intro hlists key hkey hnames
    rcases hasKey_iff.1 hkey with hkey | hkey
    · exact Bool.false_ne_true ((houter key hkey).symm.trans (isSecretShaped_of_namesSecret hnames))
    · exact hlists key hkey hnames

/-- A result that is accepted, and the payload of every snapshot that is made of one, is free
    of keys that name a secret exactly if the objects inside its lists are. -/
theorem accepted_secretFree_iff (platform : Platform) (result : ConnectorResult)
    (manifest : ConnectorManifest) :
    (validateResult platform result manifest = .ok () →
      (SecretFree (.dict result.normalizedPayload) ↔
        ListsSecretFree (.dict result.normalizedPayload))) ∧
    ∀ newId pending pending',
      ingestConfigurationSnapshot platform result manifest newId pending = .returned pending' →
      ∃ snapshot, pending'.newSnapshots = pending.newSnapshots ++ [(newId 0, snapshot)] ∧
        snapshot.normalizedPayloadJson = platform.dumps result.normalizedPayload ∧
        (SecretFree (.dict result.normalizedPayload) ↔
          ListsSecretFree (.dict result.normalizedPayload)) := by
  refine ⟨secretFree_iff_of_validateResult, fun newId pending pending' h => ?_⟩
  unfold ingestConfigurationSnapshot at h
  split at h
  · cases h
  · next hvalid =>
    cases h
    exact ⟨_, rfl, rfl, secretFree_iff_of_validateResult hvalid⟩

/-- A directory with one user, whose object has one field. -/
def directoryResult (key : String) : ConnectorResult where
  capability := "identity.population"
  checkKey := "users"
  status := "pass"
  title := "Users"
  summary := ""
  provenance := { sourceConnectionId := none, collectedAt := 0 }
  normalizedPayload := [("users", .list [.dict [(key, .str "x")]])]

/-- A connector for directories. -/
def directoryManifest : ConnectorManifest := ⟨"directory", ["identity.population"]⟩

/-- A list of users with addresses is accepted, and free of keys that name a secret. -/
theorem accepted_secretFree_email :
    validateResult jsonPlatform (directoryResult "email") directoryManifest = .ok () ∧
      (SecretFree (.dict (directoryResult "email").normalizedPayload) ↔
        ListsSecretFree (.dict (directoryResult "email").normalizedPayload)) := by
  have hvalid : validateResult jsonPlatform (directoryResult "email") directoryManifest = .ok () :=
    by decide +kernel
  exact ⟨hvalid, (accepted_secretFree_iff jsonPlatform _ _).1 hvalid⟩

/-- A list of users with passwords is accepted. -/
theorem secret_in_list :
    validateResult jsonPlatform (directoryResult "password") directoryManifest = .ok () ∧
      ¬ SecretFree (.dict (directoryResult "password").normalizedPayload) := by
  refine ⟨by decide +kernel, fun h => h "password" ?_ ?_⟩
  · exact .field List.mem_cons_self (.item List.mem_cons_self (.here List.mem_cons_self))
  · exact ⟨"password", by decide, [], rfl, .inl rfl⟩

end MiniGrc.Connectors
