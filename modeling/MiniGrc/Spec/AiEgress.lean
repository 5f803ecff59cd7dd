import MiniGrc.App.AiEgress

/-!
# What AI egress carries

Every string of a projected context has gone through `_scrub_string`. The log of a call adds
strings of its own: the task type, provider and model are scrubbed, the reason of the opt-in
is stored as it was given.

## Key results

- `scrubString_clean`: a scrubbed string matches neither pattern
- `ai_egress_clean_iff`: what the contexts and the audit trail carry
-/

namespace MiniGrc.AiEgress

variable {category : Char → Char}

/-- The pattern matches somewhere in the text. -/
def Matches (re : Regex Char) (text : String) : Prop :=
  ∃ before found after, before ++ found ++ after = text.toList ∧ found ∈ re.language

/-- The text looks like neither a credential nor an e-mail address. -/
def Clean (text : String) : Prop := ¬ Matches credentialLikeRe text ∧ ¬ Matches emailLikeRe text

/-- A text matches where the search finds a match. -/
theorem matches_iff {re : Regex Char} {text : String} :
    Matches re text ↔ re.search text.toList = true := Regex.search_iff.symm

instance (re : Regex Char) (text : String) : Decidable (Matches re text) :=
  decidable_of_iff _ matches_iff.symm

/-- A scrubbed string matches neither pattern: the markers do not match either. -/
theorem scrubString_clean (value : String) : Clean (scrubString value) := by
  unfold scrubString
  split
  · exact ⟨by decide, by decide⟩
  · next hcredential =>
    split
    · exact ⟨by decide, by decide⟩
    · next hemail =>
      exact ⟨fun h => hcredential (matches_iff.1 h), fun h => hemail (matches_iff.1 h)⟩

/-! ## The strings of a value -/

/-- The text is a string of the value, at any depth. -/
inductive StringIn (text : String) : Json → Prop
  | str : StringIn text (.str text)
  | list {items : List Json} {item : Json} :
      item ∈ items → StringIn text item → StringIn text (.list items)
  | dict {fields : JsonDict} {field : String × Json} :
      field ∈ fields → StringIn text field.2 → StringIn text (.dict fields)

/-- Every string of the value satisfies the predicate. -/
def AllStrings (P : String → Prop) (value : Json) : Prop := ∀ text, StringIn text value → P text

variable {P : String → Prop}

/-- A text is its own string. -/
@[simp] theorem allStrings_str {text : String} : AllStrings P (.str text) ↔ P text := by
  constructor
  · exact fun h => h text .str
  · intro h t ht
    cases ht
    exact h

@[simp] theorem allStrings_null : AllStrings P .null := fun _ h => by cases h

@[simp] theorem allStrings_bool {b : Bool} : AllStrings P (.bool b) := fun _ h => by cases h

/-- The strings of an object are those of its values. -/
@[simp] theorem allStrings_dict {fields : JsonDict} :
    AllStrings P (.dict fields) ↔ ∀ field ∈ fields, AllStrings P field.2 := by
  constructor
  · exact fun h field hfield text ht => h text (.dict hfield ht)
  · intro h text ht
    cases ht with
    | dict hfield ht => exact h _ hfield text ht

/-- An optional text is its own string, if given. -/
@[simp] theorem allStrings_ofOption {text : Option String} :
    AllStrings P (.ofOption text) ↔ ∀ t ∈ text, P t := by
  cases text with
  | none => simp [Json.ofOption]
  | some text => simp [Json.ofOption]

/-! ## The contexts -/

/-- No string in the fields of the context matches one of the patterns. -/
def ContextClean (context : AiPromptContext) : Prop :=
  ∀ field ∈ context.fields, AllStrings Clean field.2

/-- The fields of the projections are strings, numbers, booleans and `None`. -/
def IsFlat : Json → Prop
  | .list _ | .dict _ => False
  | _ => True

/-- A flat value is clean once scrubbed. -/
theorem scrubValue_clean {value : Json} (h : IsFlat value) :
    AllStrings Clean (scrubValue value) := by
  cases value with
  | str value => exact allStrings_str.2 (scrubString_clean value)
  | list items => exact h.elim
  | dict fields => exact h.elim
  | _ => exact fun _ ht => by cases ht

/-- A context of flat fields is clean. -/
theorem context_clean {entityType : String} {entityId : Id} {fields : JsonDict}
    {optIn : Option (AiEgressOptIn category)} (h : ∀ field ∈ fields, IsFlat field.2) :
    ContextClean (context entityType entityId fields optIn) := by
  intro field hfield
  obtain ⟨raw, hraw, rfl⟩ := List.mem_map.1 hfield
  exact scrubValue_clean (h raw hraw)

@[simp] theorem isFlat_str {text : String} : IsFlat (.str text) := trivial

@[simp] theorem isFlat_int {n : Int} : IsFlat (.int n) := trivial

@[simp] theorem isFlat_bool {b : Bool} : IsFlat (.bool b) := trivial

@[simp] theorem isFlat_ofOption {text : Option String} : IsFlat (.ofOption text) := by
  cases text <;> trivial

@[simp] theorem isFlat_getD_int {α : Type} {value : Option α} {f : α → Int} :
    IsFlat ((value.map fun a => Json.int (f a)).getD .null) := by
  cases value <;> trivial

/-- A field more, under an opt-in. -/
theorem forall_optIn {fields extra : JsonDict} {optIn : Option (AiEgressOptIn category)}
    {P : String × Json → Prop} (h : ∀ field ∈ fields, P field) (h' : ∀ field ∈ extra, P field) :
    ∀ field ∈ (if optIn.isSome then fields ++ extra else fields), P field := by
  split
  · exact List.forall_mem_append.2 ⟨h, h'⟩
  · exact h

/-- Every projected context is clean, with an opt-in or without. -/
theorem project_clean (optIn : Option (AiEgressOptIn category)) (entity : Entity) :
    ContextClean (project optIn entity) := by
  -- A projection for each kind of entity, all of flat fields.
  cases entity with
  | evidenceArtifact artifact =>
    refine context_clean (forall_optIn ?_ (by simp))
    simp
  | controlOccurrence occurrence =>
    refine context_clean (forall_optIn ?_ (by simp))
    simp
  | finding finding =>
    refine context_clean (forall_optIn ?_ (by simp))
    simp
  | policy policy =>
    refine context_clean (forall_optIn ?_ (by simp))
    simp

/-! ## The audit trail -/

/-- The text does not look like a credential. -/
def NoCredential (text : String) : Prop := ¬ Matches credentialLikeRe text

/-- No string of the detail other than the actor of the opt-in looks like a credential. -/
def DetailClean (detail : JsonDict) : Prop :=
  ∀ field ∈ detail, field.1 ≠ "opt_in_actor" → AllStrings NoCredential field.2

/-- Neither the reason of the opt-in nor a string of the fields looks like a credential. -/
def Unexposed (context : AiPromptContext) : Prop :=
  (∀ reason ∈ context.optInReason, NoCredential reason) ∧
    ∀ field ∈ context.fields, AllStrings NoCredential field.2

/-- The record is clean exactly when the reason given for opting in is. -/
theorem detailClean_iff {session : List AuditEvent} {context : AiPromptContext}
    {taskType providerName model actor : String} :
    DetailClean (recordAiEgress session context taskType providerName model actor).2.detail ↔
      Unexposed context := by
  have hscrubbed : ∀ value, NoCredential (scrubString value) := fun value =>
    (scrubString_clean value).1
  simp [DetailClean, recordAiEgress, Unexposed, hscrubbed]

/-- A projected context has nothing to expose but the reason of the opt-in. -/
theorem unexposed_project {optIn : Option (AiEgressOptIn category)} {entity : Entity} :
    Unexposed (project optIn entity) ↔ ∀ o ∈ optIn, NoCredential o.reason := by
  have hfields : ∀ field ∈ (project optIn entity).fields, AllStrings NoCredential field.2 :=
    fun field hfield text ht => (project_clean optIn entity field hfield text ht).1
  have hreason : (project optIn entity).optInReason = optIn.map (·.reason) := by
    cases entity <;> rfl
  rw [Unexposed, and_iff_left hfields, hreason]
  simp

/-- For every entity and opt-in the projected context is clean. For every context and every
    task type, provider and model, the detail of the audit event is clean exactly if neither
    the reason of the opt-in nor a string of the fields looks like a credential; of a projected
    context that leaves the reason. -/
theorem ai_egress_clean_iff (category : Char → Char) :
    (∀ (optIn : Option (AiEgressOptIn category)) (entity : Entity),
      ContextClean (project optIn entity)) ∧
    ∀ (session : List AuditEvent) (taskType providerName model actor : String),
      (∀ context : AiPromptContext,
        DetailClean (recordAiEgress session context taskType providerName model actor).2.detail ↔
          Unexposed context) ∧
      ∀ (optIn : Option (AiEgressOptIn category)) (entity : Entity),
        DetailClean (recordAiEgress session (project optIn entity) taskType providerName model
          actor).2.detail ↔ ∀ o ∈ optIn, NoCredential o.reason :=
  ⟨project_clean, fun _ _ _ _ _ => ⟨fun _ => detailClean_iff,
    fun _ _ => detailClean_iff.trans unexposed_project⟩⟩

/-- The categories of spaces, hyphens and letters. -/
def letterCategory (c : Char) : Char := if c = ' ' then 'Z' else if c = '-' then 'P' else 'L'

/-- An opt-in whose reason quotes a key, for a policy: the key is in the audit trail. -/
theorem ai_egress_reason :
    ¬ DetailClean (recordAiEgress []
      (project (some (⟨"ciso@example.com", "replaces sk-abcdefghij", by decide⟩ :
          AiEgressOptIn letterCategory))
        (.policy ⟨1, "Access", "draft", none, none, "", ""⟩))
      "draft_summary" "" "" "system").2.detail := by
  intro h
  have hreason := h ("opt_in_reason", .str "replaces sk-abcdefghij") (by
    simp [recordAiEgress, project, projectPolicy, context, Json.ofOption]) (by decide)
  exact allStrings_str.1 hreason (by decide)

end MiniGrc.AiEgress
