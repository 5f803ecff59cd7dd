import MiniGrc.Spec.ConnectorConfigs

/-!
# Requests to configure a connector instance

A request is accepted if it has a value for each required field, where the code takes a
value for present if it is truthy: `False` and `0` are not. What is stored for a secret
field counts for later requests.

## Key results

- `handle_eq_none_iff`: a request that raises nothing is a step of the system
- `validateConfigAgainstSchema_eq_ok`: what the validation checks
- `accepted_iff`: which requests are accepted
- `requests_complete_iff`: when exactly the complete requests are accepted
-/

namespace MiniGrc.ConnectorInstances

open Connectors

variable {env : Env} {s t : State} {i : Id} {instance' : Instance} {manifest : Manifest}
  {config secretValues : JsonDict} {name : String} {r : Request} {stored : Stored}

/-! ## Requests and steps -/

/-- The step that a request is. -/
def Request.label : Request → Label
  | .install manifest displayName config secretValues =>
    .install manifest displayName config secretValues
  | .update id _ manifest config secretValues => .updateConfig id manifest config secretValues

/-- An update is of an instance that is there. -/
def Request.Addressed (s : State) : Request → Prop
  | .install _ _ _ _ => True
  | .update id instance' _ _ _ => s.instances[id]? = some instance'

/-- A request that raises nothing is a step of the system. -/
theorem handle_eq_none_iff (haddressed : r.Addressed s) :
    handle env s r = (t, none) ↔ step env s r.label = some t := by
  cases r with
  | install manifest displayName config secretValues => exact returned_eq_some.symm
  | update id instance' manifest config secretValues =>
    have hrow : s.instances[id]? = some instance' := haddressed
    show _ ↔ (s.instances[id]?.bind fun instance' => returned
      (updateConnectorInstanceConfig env s id instance' manifest config secretValues)) = some t
    rw [hrow, Option.bind_some, returned_eq_some]
    rfl

/-! ## What the validation checks -/

theorem checkFieldValue_eq_ok {existing : List String} {spec : ConfigFieldSpec} :
    checkFieldValue config secretValues existing spec = .ok () ↔
      (spec.required → if spec.secret then isGiven secretValues spec.name ∨ spec.name ∈ existing
        else isGiven config spec.name) := by
  unfold checkFieldValue
  by_cases hrequired : spec.required <;> by_cases hsecret : spec.secret <;>
    simp only [hrequired, hsecret, if_true, true_and, not_or] <;> grind

/-- The validation checks the required fields. -/
theorem validateConfigAgainstSchema_eq_ok {existing : List String} :
    validateConfigAgainstSchema manifest config secretValues existing = .ok () ↔
      ∀ spec ∈ manifest.configSchema, spec.required →
        if spec.secret then isGiven secretValues spec.name ∨ spec.name ∈ existing
        else isGiven config spec.name := by
  rw [validateConfigAgainstSchema, Except.forM_eq_ok]
  exact forall₂_congr fun _ _ => checkFieldValue_eq_ok

/-- A value is supplied: it is there, not `None` and not empty. -/
def isSupplied (d : JsonDict) (name : String) : Bool :=
  match d.get? name with
  | none | some .null => false
  | some (.str text) => text ≠ ""
  | some _ => true

/-- What the code takes for present is supplied. -/
theorem isSupplied_of_isGiven {d : JsonDict} (h : isGiven d name) : isSupplied d name := by
  unfold isGiven at h
  unfold isSupplied
  split
  · next hnone => simp [hnone, Json.truthy] at h
  · next hnull => simp [hnull, Json.truthy] at h
  · next text htext => simpa [htext, Json.truthy] using h
  · rfl

/-- A text that is not empty is taken for present. -/
theorem isGiven_of_textOf (h : (textOf secretValues name).isSome) :
    isGiven secretValues name := by
  by_contra hnot
  rw [textOf_of_not_given (Bool.eq_false_iff.2 hnot)] at h
  cases h

/-! ## What is stored -/

/-- The ids of the secrets have been drawn. -/
def State.SecretsDrawn (env : Env) (s : State) : Prop :=
  ∀ k : Id, k ∈ s.secrets → ∃ n < s.drawn, k = env.newId n

/-- The ids of the secrets that are stored so far have been drawn. -/
def Stored.Drawn (env : Env) (stored : Stored) : Prop :=
  ∀ k : Id, k ∈ stored.secrets → ∃ n < stored.drawn, k = env.newId n

theorem Stored.Drawn.storeSecretRef {spec : ConfigFieldSpec} {u v : Stored} (h : u.Drawn env)
    (hstep : ConnectorInstances.storeSecretRef env secretValues u spec = .ok v) : v.Drawn env := by
  unfold ConnectorInstances.storeSecretRef at hstep
  split at hstep
  · split at hstep
    · split at hstep
      · cases hstep
      · simp only at hstep
        split at hstep
        · cases hstep
        · cases hstep
          intro k hk
          rcases Std.ExtTreeMap.mem_insert.1 hk with heq | hk
          · exact ⟨u.drawn + 1, Nat.lt_succ_self _, (compare_eq_iff_eq.1 heq).symm⟩
          · obtain ⟨n, hn, hid⟩ := h k hk
            exact ⟨n, Nat.lt_add_right 2 hn, hid⟩
    · cases hstep
    · cases hstep
      exact h
  · cases hstep
    exact h

/-- The secrets of a request get ids that are drawn for them. -/
theorem drawn_of_storesAll (hs : s.SecretsDrawn env)
    (h : StoresAll env s manifest secretValues stored) : stored.Drawn env :=
  Except.foldlM_induction (P := fun _ u => u.Drawn env) (storeSecretRefs_eq_none.1 h) hs
    fun _ _ _ _ hu hstep => hu.storeSecretRef hstep

theorem State.SecretsDrawn.step {l : Label} (hs : s.SecretsDrawn env)
    (h : ConnectorInstances.step env s l = some t) : t.SecretsDrawn env := by
  cases effect_of_step h with
  | installed manifest displayName config secretValues stored hstored hfresh ht =>
    subst ht
    intro k hk
    obtain ⟨n, hn, hid⟩ := drawn_of_storesAll hs hstored k hk
    exact ⟨n, Nat.lt_succ_of_lt hn, hid⟩
  | reconfigured i old manifest config secretValues stored hold hstored ht =>
    subst ht
    exact drawn_of_storesAll hs hstored
  | other hsecrets hcalls hdrawn hinstances =>
    unfold SecretsDrawn
    rw [hsecrets, hdrawn]
    exact hs

theorem secretsDrawn_of_run {ok : State → Label → Prop}
    (h : Run (ConnectorInstances.step env) ok State.initial s) : s.SecretsDrawn env :=
  h.invariant (P := State.SecretsDrawn env)
    (fun _ hk => absurd hk Std.ExtTreeMap.not_mem_empty) fun _ _ _ hs _ hstep => hs.step hstep

/-- A field is stored if it is no secret, not given, or a text. -/
theorem exists_storeSecretRef {spec : ConfigFieldSpec} {u : Stored}
    (hencrypt : ∀ n plaintext, ∃ ciphertext,
      env.encrypt n plaintext env.encryptionKey = some ciphertext)
    (hnewId : Function.Injective env.newId) (h : u.Drawn env) :
    (∃ v, storeSecretRef env secretValues u spec = .ok v) ↔
      (spec.secret → isGiven secretValues spec.name →
        (textOf secretValues spec.name).isSome) := by
  unfold storeSecretRef
  by_cases hgiven : spec.secret = true ∧ isGiven secretValues spec.name = true
  · rw [if_pos hgiven]
    cases hvalue : secretValues.get? spec.name with
    | none => simp [isGiven, hvalue, Json.truthy] at hgiven
    | some value =>
      cases value with
      | str plaintext =>
        obtain ⟨ciphertext, hciphertext⟩ := hencrypt u.drawn plaintext
        have hfresh : env.newId (u.drawn + 1) ∉ u.secrets := fun hmem => by
          obtain ⟨n, hn, hid⟩ := h _ hmem
          have hsame := hnewId hid
          omega
        have hne : plaintext ≠ "" := by
          simpa [isGiven, hvalue, Json.truthy] using hgiven.2
        simp [hciphertext, hfresh, textOf, hvalue, hne]
      | _ => simp [textOf, hvalue, hgiven]
  · rw [if_neg hgiven]
    constructor
    · exact fun _ hsecret hvalue => absurd ⟨hsecret, hvalue⟩ hgiven
    · exact fun _ => ⟨u, rfl⟩

/-- The secrets of a request are stored if those that are given are texts. -/
theorem exists_storesAll
    (hencrypt : ∀ n plaintext, ∃ ciphertext,
      env.encrypt n plaintext env.encryptionKey = some ciphertext)
    (hnewId : Function.Injective env.newId) (hs : s.SecretsDrawn env) :
    (∃ stored, StoresAll env s manifest secretValues stored) ↔
      ∀ spec ∈ manifest.configSchema, spec.secret → isGiven secretValues spec.name →
        (textOf secretValues spec.name).isSome := by
  simp only [StoresAll, storeSecretRefs_eq_none]
  generalize hu : s.unstored = u
  have hdrawn : u.Drawn env := hu ▸ hs
  clear hu
  induction manifest.configSchema generalizing u with
  | nil => exact iff_of_true ⟨u, rfl⟩ (by simp)
  | cons spec schema ih =>
    rw [List.forall_mem_cons, ← exists_storeSecretRef hencrypt hnewId hdrawn]
    simp only [Except.foldlM_cons_eq_ok]
    constructor
    · rintro ⟨stored, v, hv, hstored⟩
      exact ⟨⟨v, hv⟩, (ih v (hdrawn.storeSecretRef hv)).1 ⟨stored, hstored⟩⟩
    · rintro ⟨⟨v, hv⟩, hrest⟩
      obtain ⟨stored, hstored⟩ := (ih v (hdrawn.storeSecretRef hv)).2 hrest
      exact ⟨stored, v, hv, hstored⟩

/-! ## Complete requests -/

/-- An earlier accepted request for the instance has stored a text for the field. -/
def Request.StoredBefore (s : State) : Request → String → Prop
  | .install _ _ _ _, _ => False
  | .update id _ _ _ _, name => ∃ c ∈ s.calls, c.instanceId = id ∧ (c.given name).isSome

/-- Each required field has a value, or is a secret that an earlier request has stored. -/
def Request.Complete (s : State) (r : Request) : Prop :=
  ∀ spec ∈ r.manifest.configSchema, spec.required →
    if spec.secret then isSupplied r.secretValues spec.name ∨ r.StoredBefore s spec.name
    else isSupplied r.config spec.name

/-- A new instance is of a manifest for this version of the core contract. -/
def Request.Compatible : Request → Prop
  | .install manifest _ _ _ => checkCompatibility manifest = .ok ()
  | .update _ _ _ _ _ => True

/-- No value that counts is falsy, and what is given for a secret field is a text. -/
def Request.Truthful (s : State) (r : Request) : Prop :=
  ∀ spec ∈ r.manifest.configSchema,
    if spec.secret then
      isSupplied r.secretValues spec.name → (textOf r.secretValues spec.name).isSome ∨
        isGiven r.secretValues spec.name = false ∧ (spec.required → r.StoredBefore s spec.name)
    else spec.required → isSupplied r.config spec.name → isGiven r.config spec.name

/-- The last text that was given for a field, if any request has given one. -/
theorem lastGiven_ne_none {calls : List ConfigCall} :
    lastGiven calls i name ≠ none ↔ ∃ c ∈ calls, c.instanceId = i ∧ (c.given name).isSome := by
  rw [lastGiven, Ne, List.getLast?_eq_none_iff, List.eq_nil_iff_forall_not_mem, not_forall]
  simp only [not_not, List.mem_filterMap, List.mem_filter, decide_eq_true_eq,
    Option.isSome_iff_exists]
  constructor
  · rintro ⟨text, c, ⟨hc, hid⟩, hgiven⟩
    exact ⟨c, hc, hid, text, hgiven⟩
  · rintro ⟨c, hc, hid, text, hgiven⟩
    exact ⟨text, c, ⟨hc, hid⟩, hgiven⟩

theorem refOf_ne_none {refs : List (String × Id)} :
    refOf refs name ≠ none ↔ name ∈ refs.map Prod.fst := by
  rw [refOf, Ne, Option.map_eq_none_iff, List.find?_eq_none]
  simp [List.mem_map, eq_comm]

/-- The fields that have a reference are those that earlier requests have stored. -/
theorem mem_existingSecretFields (hs : s.Followed env) (haddressed : r.Addressed s) :
    name ∈ r.existingSecretFields ↔ r.StoredBefore s name := by
  cases r with
  | install manifest displayName config secretValues =>
    exact iff_of_false List.not_mem_nil id
  | update id instance' manifest config secretValues =>
    have hleads := (hs.follows id instance' haddressed).leads name
    show name ∈ instance'.secretRefJson.map Prod.fst ↔ _
    rw [Request.StoredBefore, ← lastGiven_ne_none, ← refOf_ne_none]
    -- a reference without a text, or a text without a reference, leads nowhere
    match hrefOf : refOf instance'.secretRefJson name, hgiven : lastGiven s.calls id name with
    | none, none => simp
    | some _, some _ => simp
    | some _, none | none, some _ =>
      rw [hrefOf, hgiven] at hleads
      exact hleads.elim

/-- What is checked before anything is stored, for a valid manifest. -/
theorem Request.check_eq_ok (hvalid : validateManifest r.manifest = .ok ()) :
    r.check = .ok () ↔ r.Compatible ∧
      validateConfigAgainstSchema r.manifest r.config r.secretValues r.existingSecretFields =
        .ok () := by
  cases r with
  | install manifest displayName config secretValues =>
    constructor
    · intro h
      obtain ⟨⟨⟩, -, hrest⟩ := Except.bind_eq_ok.1 h
      obtain ⟨⟨⟩, hcompatible, hconfig⟩ := Except.bind_eq_ok.1 hrest
      exact ⟨hcompatible, hconfig⟩
    · rintro ⟨hcompatible, hconfig⟩
      exact Except.bind_eq_ok.2 ⟨(), hvalid, Except.bind_eq_ok.2 ⟨(), hcompatible, hconfig⟩⟩
  | update id instance' manifest config secretValues =>
    constructor
    · intro h
      obtain ⟨⟨⟩, -, hconfig⟩ := Except.bind_eq_ok.1 h
      exact ⟨trivial, hconfig⟩
    · rintro ⟨-, hconfig⟩
      exact Except.bind_eq_ok.2 ⟨(), rfl, hconfig⟩

/-- An id that has not been drawn is that of no instance. -/
theorem newId_not_mem (hs : s.Followed env) (hnewId : Function.Injective env.newId) {n : Nat}
    (hn : s.drawn ≤ n) : env.newId n ∉ s.instances := by
  intro hmem
  obtain ⟨instance', hrow⟩ := Option.isSome_iff_exists.1
    (Std.ExtTreeMap.mem_iff_isSome_getElem?.1 hmem)
  obtain ⟨c, hc, -⟩ := hs.configured _ instance' hrow
  obtain ⟨hc, hid⟩ := mem_of_lastCall hc
  obtain ⟨m, hm, hid'⟩ := hs.drawn c hc
  have hsame := hnewId (hid.symm.trans hid')
  omega

/-- A field that is checked and stored has a value that counts, and the other way around. -/
theorem field_iff {spec : ConfigFieldSpec} :
    ((spec.required → if spec.secret then
          isGiven r.secretValues spec.name ∨ r.StoredBefore s spec.name
        else isGiven r.config spec.name) ∧
      (spec.secret → isGiven r.secretValues spec.name →
        (textOf r.secretValues spec.name).isSome)) ↔
    ((spec.required → if spec.secret then
          isSupplied r.secretValues spec.name ∨ r.StoredBefore s spec.name
        else isSupplied r.config spec.name) ∧
      if spec.secret then
        isSupplied r.secretValues spec.name → (textOf r.secretValues spec.name).isSome ∨
          isGiven r.secretValues spec.name = false ∧ (spec.required → r.StoredBefore s spec.name)
      else spec.required → isSupplied r.config spec.name → isGiven r.config spec.name) := by
  have hsupplied : ∀ {d : JsonDict}, isGiven d spec.name → isSupplied d spec.name :=
    isSupplied_of_isGiven
  have htext : (textOf r.secretValues spec.name).isSome → isGiven r.secretValues spec.name :=
    isGiven_of_textOf
  by_cases hsecret : spec.secret
  · simp only [hsecret, if_true, true_imp_iff]
    constructor
    · rintro ⟨hchecked, hstorable⟩
      refine ⟨fun hrequired => (hchecked hrequired).imp_left hsupplied, fun _ => ?_⟩
      by_cases hgiven : isGiven r.secretValues spec.name
      · exact .inl (hstorable hgiven)
      · exact .inr ⟨Bool.eq_false_iff.2 hgiven, fun hrequired =>
          (hchecked hrequired).resolve_left hgiven⟩
    · rintro ⟨hcomplete, htruthful⟩
      constructor
      · intro hrequired
        rcases hcomplete hrequired with hsupplied | hstored
        · exact (htruthful hsupplied).imp htext fun h => h.2 hrequired
        · exact .inr hstored
      · intro hgiven
        refine (htruthful (hsupplied hgiven)).resolve_right fun h => ?_
        simp [h.1] at hgiven
  · simp only [hsecret, Bool.false_eq_true, if_false, false_imp_iff, and_true]
    constructor
    · exact fun hchecked => ⟨fun hrequired => hsupplied (hchecked hrequired),
        fun hrequired _ => hchecked hrequired⟩
    · rintro ⟨hcomplete, htruthful⟩ hrequired
      exact htruthful hrequired (hcomplete hrequired)

theorem fields_iff :
    ((∀ spec ∈ r.manifest.configSchema, spec.required → if spec.secret then
          isGiven r.secretValues spec.name ∨ r.StoredBefore s spec.name
        else isGiven r.config spec.name) ∧
      ∀ spec ∈ r.manifest.configSchema, spec.secret → isGiven r.secretValues spec.name →
        (textOf r.secretValues spec.name).isSome) ↔
    r.Complete s ∧ r.Truthful s := by
  constructor
  · rintro ⟨hchecked, hstorable⟩
    have h := fun spec hspec => field_iff.1 ⟨hchecked spec hspec, hstorable spec hspec⟩
    exact ⟨fun spec hspec => (h spec hspec).1, fun spec hspec => (h spec hspec).2⟩
  · rintro ⟨hcomplete, htruthful⟩
    have h := fun spec hspec => field_iff.2 ⟨hcomplete spec hspec, htruthful spec hspec⟩
    exact ⟨fun spec hspec => (h spec hspec).1, fun spec hspec => (h spec hspec).2⟩

/-- A request that passes the validation is complete. -/
theorem complete_of_check (hs : s.Followed env) (haddressed : r.Addressed s)
    (h : validateConfigAgainstSchema r.manifest r.config r.secretValues r.existingSecretFields =
      .ok ()) : r.Complete s := by
  intro spec hspec hrequired
  have hchecked := validateConfigAgainstSchema_eq_ok.1 h spec hspec hrequired
  rw [mem_existingSecretFields hs haddressed] at hchecked
  split at hchecked
  · next hsecret =>
    rw [if_pos hsecret]
    exact hchecked.imp_left isSupplied_of_isGiven
  · next hsecret =>
    rw [if_neg hsecret]
    exact isSupplied_of_isGiven hchecked

/-- Which requests are accepted. -/
theorem accepted_iff (hs : s.Followed env) (hdrawn : s.SecretsDrawn env)
    (hencrypt : ∀ n plaintext, ∃ ciphertext,
      env.encrypt n plaintext env.encryptionKey = some ciphertext)
    (hnewId : Function.Injective env.newId) (hvalid : validateManifest r.manifest = .ok ())
    (haddressed : r.Addressed s) :
    (∃ t, handle env s r = (t, none)) ↔ r.Complete s ∧ r.Compatible ∧ r.Truthful s := by
  have hfinish : ∀ stored, StoresAll env s r.manifest r.secretValues stored →
      ∃ t, r.finish env s stored = (t, none) := by
    intro stored hstored
    cases r with
    | install manifest displayName config secretValues =>
      have hfresh := newId_not_mem hs hnewId (stores_of_storesAll hstored).drawn
      simp [Request.finish, hfresh]
    | update id instance' manifest config secretValues => exact ⟨_, rfl⟩
  have haccepted : (∃ t, handle env s r = (t, none)) ↔ r.check = .ok () ∧
      ∃ stored, StoresAll env s r.manifest r.secretValues stored := by
    simp only [handle_eq_none]
    constructor
    · rintro ⟨t, hcheck, stored, hstored, -⟩
      exact ⟨hcheck, stored, hstored⟩
    · rintro ⟨hcheck, stored, hstored⟩
      obtain ⟨t, ht⟩ := hfinish stored hstored
      exact ⟨t, hcheck, stored, hstored, ht⟩
  rw [haccepted, Request.check_eq_ok hvalid, validateConfigAgainstSchema_eq_ok,
    exists_storesAll hencrypt hnewId hdrawn]
  simp only [mem_existingSecretFields hs haddressed]
  rw [and_assoc, and_left_comm (a := r.Complete s), ← fields_iff]

/-- A request that is refused by its checks leaves everything as it was. -/
theorem handle_of_check_error {e : PyException} (h : r.check = .error e) :
    handle env s r = (s, some e) := by
  unfold handle
  rw [h]

/-- After any calls, a request for a valid manifest is accepted if and only if it is complete,
    and changes nothing if it is refused; this holds exactly of the requests that are not
    complete, or that are compatible and truthful. -/
theorem requests_complete_iff {ok : State → Label → Prop}
    (hencrypt : ∀ n plaintext, ∃ ciphertext,
      env.encrypt n plaintext env.encryptionKey = some ciphertext)
    (hnewId : Function.Injective env.newId)
    (h : Run (ConnectorInstances.step env) ok State.initial s)
    (hvalid : validateManifest r.manifest = .ok ()) (haddressed : r.Addressed s) :
    (((∃ t, handle env s r = (t, none)) ↔ r.Complete s) ∧
      ∀ t e, handle env s r = (t, some e) → t = s) ↔
      (r.Complete s → r.Compatible ∧ r.Truthful s) := by
  have hs := followed_of_run hnewId h
  have hiff := accepted_iff hs (secretsDrawn_of_run h) hencrypt hnewId hvalid haddressed
  constructor
  · rintro ⟨haccepted, -⟩ hcomplete
    exact (hiff.1 (haccepted.2 hcomplete)).2
  · intro hcounts
    have haccepted : (∃ t, handle env s r = (t, none)) ↔ r.Complete s :=
      ⟨fun haccepted => (hiff.1 haccepted).1,
        fun hcomplete => hiff.2 ⟨hcomplete, hcounts hcomplete⟩⟩
    refine ⟨haccepted, fun t e hrefused => ?_⟩
    cases hcheck : r.check with
    | error e' =>
      rw [handle_of_check_error hcheck] at hrefused
      exact (Prod.mk.inj hrefused).1.symm
    | ok _ =>
      -- a request that passes its checks is complete, so it is accepted
      have hchecked := (Request.check_eq_ok hvalid).1 hcheck
      obtain ⟨t', ht'⟩ := haccepted.2 (complete_of_check hs haddressed hchecked.2)
      cases (Prod.mk.inj (hrefused.symm.trans ht')).2

/-- A connector with a required boolean field and a required secret. -/
def toggleManifest : Manifest where
  connectorId := "posture"
  capabilities := ["configuration.snapshot"]
  version := "1.0.0"
  configSchema := [{ name := "tls", type := "bool" },
    { name := "token", type := "str", secret := true }]

/-- An update of an instance that leaves its token blank. -/
def blankToken (instance' : Instance) : Request :=
  .update 2 instance' toggleManifest [("tls", .bool true)] [("token", .str "")]

/-- The token is stored when the instance is installed, and left blank in a later update. -/
theorem requests_complete_blankToken : ∃ s instance',
    Run (step plainEnv) (fun _ _ => True) State.initial s ∧
      s.instances[(2 : Id)]? = some instance' ∧
      ((∃ t, handle plainEnv s (blankToken instance') = (t, none)) ↔
        (blankToken instance').Complete s) ∧
      ∀ t e, handle plainEnv s (blankToken instance') = (t, some e) → t = s := by
  obtain ⟨s, hs, instance', hi, c, hc, hid, hgiven⟩ :
      ∃ s, Run.exec (step plainEnv) State.initial
        [.install toggleManifest "Posture" [("tls", .bool true)] [("token", .str "x")]] = some s ∧
      ∃ instance', s.instances[(2 : Id)]? = some instance' ∧
      ∃ c ∈ s.calls, c.instanceId = 2 ∧ (c.given "token").isSome :=
    ⟨_, rfl, _, rfl, _, List.mem_singleton_self _, rfl, rfl⟩
  have hrun := Run.of_exec_true _ hs
  have hvalid : validateManifest toggleManifest = .ok () := rfl
  refine ⟨s, instance', hrun, hi, (requests_complete_iff (r := blankToken instance')
    (fun _ plaintext => ⟨plaintext, rfl⟩) (fun _ _ h => h) hrun hvalid hi).2 fun _ =>
      ⟨trivial, fun spec hspec => ?_⟩⟩
  rcases List.mem_pair.1 hspec with rfl | rfl
  · exact fun _ _ => rfl
  · -- the blank token keeps the one of the installation
    exact fun _ => .inr ⟨rfl, fun _ => ⟨c, hc, hid, hgiven⟩⟩

/-- The field has the value `False`: the request is complete, and it is refused. -/
theorem install_false_refused :
    validateManifest toggleManifest = .ok () ∧
      (Request.install toggleManifest "Posture" [("tls", .bool false)]
        [("token", .str "x")]).Complete State.initial ∧
      handle plainEnv State.initial
        (.install toggleManifest "Posture" [("tls", .bool false)] [("token", .str "x")]) =
          (State.initial, some (.lifecycleError
            ("missing required config field " ++ pyRepr "tls"))) := by
  refine ⟨rfl, fun spec hspec _ => ?_, ?_⟩
  · rcases List.mem_pair.1 hspec with rfl | rfl
    · exact rfl
    · exact .inl rfl
  · exact handle_of_check_error rfl

end MiniGrc.ConnectorInstances
