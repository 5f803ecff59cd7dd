import MiniGrc.ForStd.Run
import MiniGrc.Spec.ConnectorCalls

/-!
# Configurations of connector instances

The configuration of an instance is that of the last call that set it, as a whole, and its
references to secrets are those of all such calls, a later one over an earlier one.

## Key results

- `refOf_updateRefs`: the references after an update
- `stores_of_storesAll`: what the secrets of a call are stored as
- `State.Followed.step`: what the references of every instance lead to
- `configs_clean_iff`: when no configuration has a secret field
- `resolve_latest`: what `resolve_connector_config` returns
-/

namespace MiniGrc.ConnectorInstances

open Connectors

variable {env : Env} {s t : State} {l : Label} {i j : Id} {instance' : Instance}
  {manifest : Manifest} {config secretValues : JsonDict} {refs : List (String × Id)}
  {name : String}

/-! ## References -/

/-- `refs.get(name)`. -/
def refOf (refs : List (String × Id)) (name : String) : Option Id :=
  (refs.find? fun ref => ref.1 = name).map Prod.snd

/-- A mapping has each key once. -/
abbrev DistinctKeys (refs : List (String × Id)) : Prop := refs.Pairwise fun r r' => r.1 ≠ r'.1

/-- The reference of a field is looked up from the front. -/
theorem refOf_cons (ref : String × Id) (refs : List (String × Id)) (name : String) :
    refOf (ref :: refs) name = if ref.1 = name then some ref.2 else refOf refs name := by
  by_cases h : ref.1 = name
  · simp [refOf, h]
  · simp [refOf, h]

/-- A field that no reference is for has none. -/
theorem refOf_eq_none (h : ∀ ref ∈ refs, ref.1 ≠ name) : refOf refs name = none := by
  rw [refOf, Option.map_eq_none_iff, List.find?_eq_none]
  exact fun ref hmem heq => h ref hmem (of_decide_eq_true heq)

/-- With every key once, a reference is the one found. -/
theorem refOf_of_mem (h : DistinctKeys refs) {ref : String × Id} (hmem : ref ∈ refs) :
    refOf refs ref.1 = some ref.2 := by
  induction refs with
  | nil => cases hmem
  | cons first refs ih =>
    rw [DistinctKeys, List.pairwise_cons] at h
    rw [refOf_cons]
    rcases List.mem_cons.1 hmem with rfl | hmem
    · rw [if_pos rfl]
    · rw [if_neg (h.1 ref hmem), ih h.2 hmem]

/-- A reference set is found, and the others stay. -/
theorem refOf_setRef (refs : List (String × Id)) (n : String) (id : Id) (name : String) :
    refOf (setRef refs n id) name = if n = name then some id else refOf refs name := by
  have hfilter : (refs.filter fun ref => ref.1 ≠ n).find? (fun ref => ref.1 = name) =
      if n = name then none else refs.find? fun ref => ref.1 = name := by
    rw [List.find?_filter]
    -- The key has a reference to replace, or gets one at the end.
    split
    · next h =>
      rw [List.find?_eq_none]
      intro ref _
      simp [h]
    · next h =>
      congr 1
      funext ref
      by_cases href : ref.1 = name
      · simp [href, Ne.symm h]
      · simp [href]
  rw [refOf, setRef, List.find?_append, hfilter]
  split
  · next h => simp [h]
  · next h => simp [h, refOf]

/-- Setting a reference keeps every key once. -/
theorem distinctKeys_setRef (h : DistinctKeys refs) (n : String) (id : Id) :
    DistinctKeys (setRef refs n id) := by
  rw [DistinctKeys, setRef, List.pairwise_append]
  refine ⟨h.sublist List.filter_sublist, List.pairwise_singleton _ _, fun ref href r hr => ?_⟩
  obtain rfl := List.mem_singleton.1 hr
  simpa using (List.mem_filter.1 href).2

/-- Updating the references keeps every key once. -/
theorem distinctKeys_updateRefs (h : DistinctKeys refs) (new : List (String × Id)) :
    DistinctKeys (updateRefs refs new) := by
  induction new generalizing refs with
  | nil => exact h
  | cons ref new ih => exact ih (distinctKeys_setRef h ref.1 ref.2)

/-- The new references replace the ones of the same fields. -/
theorem refOf_updateRefs (refs : List (String × Id)) {new : List (String × Id)}
    (h : DistinctKeys new) (name : String) :
    refOf (updateRefs refs new) name = (refOf new name).or (refOf refs name) := by
  induction new generalizing refs with
  | nil => rfl
  | cons ref new ih =>
    rw [DistinctKeys, List.pairwise_cons] at h
    have hstep : updateRefs refs (ref :: new) = updateRefs (setRef refs ref.1 ref.2) new := rfl
    rw [hstep, ih _ h.2, refOf_setRef, refOf_cons]
    -- a field has one new reference, so no later one replaces it
    by_cases hname : ref.1 = name
    · have hnone : refOf new name = none :=
        refOf_eq_none fun r hr heq => h.1 r hr (hname.trans heq.symm)
      simp [hname, hnone]
    · simp [hname]

/-! ## What a call gives -/

/-- A field of the schema is secret and has the name. -/
def isSecretField (schema : List ConfigFieldSpec) (name : String) : Bool :=
  schema.any fun spec => spec.secret && decide (spec.name = name)

/-- The text that the values have under a name, if it is not blank. -/
def textOf (secretValues : JsonDict) (name : String) : Option String :=
  match secretValues.get? name with
  | some (.str text) => if text = "" then none else some text
  | _ => none

/-- The text that the values give for a secret field. -/
def givenBy (schema : List ConfigFieldSpec) (secretValues : JsonDict) (name : String) :
    Option String :=
  if isSecretField schema name then textOf secretValues name else none

/-- The text that a call gives for a secret field, if it is not blank. -/
def ConfigCall.given (c : ConfigCall) (name : String) : Option String :=
  givenBy c.manifest.configSchema c.secretValues name

/-- The last accepted call that set the configuration of an instance. -/
def lastCall (calls : List ConfigCall) (i : Id) : Option ConfigCall :=
  (calls.filter fun c => c.instanceId = i).getLast?

/-- The last text that was given for a secret field of an instance. -/
def lastGiven (calls : List ConfigCall) (i : Id) (name : String) : Option String :=
  ((calls.filter fun c => c.instanceId = i).filterMap fun c => c.given name).getLast?

/-- The last call is the newest of the instance. -/
theorem lastCall_snoc (calls : List ConfigCall) (c : ConfigCall) (i : Id) :
    lastCall (calls ++ [c]) i = if c.instanceId = i then some c else lastCall calls i := by
  by_cases h : c.instanceId = i
  · simp [lastCall, h]
  · simp [lastCall, h]

/-- The value last given is the newest call's, if it gives one. -/
theorem lastGiven_snoc (calls : List ConfigCall) (c : ConfigCall) (i : Id) (name : String) :
    lastGiven (calls ++ [c]) i name =
      if c.instanceId = i then (c.given name).or (lastGiven calls i name)
      else lastGiven calls i name := by
  by_cases h : c.instanceId = i
  · cases hgiven : c.given name with
    | none => simp [lastGiven, h, hgiven]
    | some value => simp [lastGiven, h, hgiven]
  · simp [lastGiven, h]

/-! ## Configurations -/

/-- The last call is one of the calls. -/
theorem mem_of_lastCall {calls : List ConfigCall} {c : ConfigCall} (h : lastCall calls i = some c) :
    c ∈ calls ∧ c.instanceId = i := by
  obtain ⟨hmem, hid⟩ := List.mem_filter.1 (List.mem_of_getLast? h)
  exact ⟨hmem, of_decide_eq_true hid⟩

/-- The invariant: an instance has the configuration of the last call that set it. -/
def State.Configured (s : State) : Prop :=
  ∀ (i : Id) instance', s.instances[i]? = some instance' →
    ∃ c, lastCall s.calls i = some c ∧ instance'.configJson = c.config

/-- At the start nothing is configured. -/
theorem configured_initial : State.initial.Configured :=
  fun _ _ hi => absurd hi Table.not_get_empty

/-- An instance that a call has just set. -/
def State.Shows (s : State) (c : ConfigCall) : Prop :=
  ∃ instance', s.instances[c.instanceId]? = some instance' ∧
    lastCall s.calls c.instanceId = some c ∧ instance'.configJson = c.config

/-- A call that writes the row of its instance, with its configuration. -/
theorem configured_insert {c : ConfigCall} (hs : s.Configured) (hcalls : t.calls = s.calls ++ [c])
    (hinstances : t.instances = s.instances.insert c.instanceId instance')
    (hconfig : instance'.configJson = c.config) : t.Configured := by
  intro j row hrow
  rw [hcalls]
  rw [hinstances] at hrow
  rw [Table.get_insert] at hrow
  rw [lastCall_snoc]
  split at hrow
  · next hid =>
    -- the row is the one that the call has just written
    cases hrow
    exact ⟨c, if_pos hid, hconfig⟩
  · next hid =>
    rw [if_neg hid]
    exact hs j row hrow

/-- Every step keeps the configurations those of the calls. -/
theorem State.Configured.step (hs : s.Configured) (h : step env s l = some t) : t.Configured := by
  cases effect_of_step h with
  | installed manifest displayName config secretValues stored hstored hfresh ht =>
    subst ht
    exact configured_insert hs rfl rfl rfl
  | reconfigured i old manifest config secretValues stored hold hstored ht =>
    subst ht
    exact configured_insert hs rfl rfl rfl
  | other hsecrets hcalls hdrawn hinstances =>
    intro j row hrow
    obtain ⟨old, hold, hconfig, -⟩ := hinstances j row hrow
    rw [hcalls, hconfig]
    exact hs j old hold

/-- The calls grow by at most one, which shows in the configuration of its instance. -/
theorem calls_of_step (h : step env s l = some t) :
    t.calls = s.calls ∨ ∃ c, t.calls = s.calls ++ [c] ∧ t.Shows c := by
  cases effect_of_step h with
  | installed manifest displayName config secretValues stored hstored hfresh ht =>
    subst ht
    exact .inr ⟨_, rfl, _, Table.get_insert_self, by rw [lastCall_snoc, if_pos rfl], rfl⟩
  | reconfigured i old manifest config secretValues stored hold hstored ht =>
    subst ht
    exact .inr ⟨_, rfl, _, Table.get_insert_self, by rw [lastCall_snoc, if_pos rfl], rfl⟩
  | other hsecrets hcalls hdrawn hinstances => exact .inl hcalls

/-- The configuration has no field that the schema declares secret. -/
def ConfigCall.Clean (c : ConfigCall) : Prop :=
  ∀ name, isSecretField c.manifest.configSchema name = true → c.config.get? name = none

/-- No configuration has a field that is secret in the schema it was checked against. -/
def State.Clean (s : State) : Prop :=
  ∀ (i : Id) instance' c, s.instances[i]? = some instance' → lastCall s.calls i = some c →
    ∀ name, isSecretField c.manifest.configSchema name = true →
      instance'.configJson.get? name = none

/-- The states that a run has passed through and their calls: every call that was accepted shows
    in a state. -/
structure Recorded (r : List State × State) : Prop where
  configured : ∀ u ∈ r.1 ++ [r.2], u.Configured
  calls : ∀ u ∈ r.1 ++ [r.2], ∀ c ∈ u.calls, c ∈ r.2.calls
  shows : ∀ c ∈ r.2.calls, ∃ u ∈ r.1 ++ [r.2], u.Shows c

/-- At the start nothing is recorded. -/
theorem Recorded.initial : Recorded ([], State.initial) where
  configured u hu := by
    obtain rfl := List.mem_singleton.1 hu
    exact configured_initial
  calls u hu c hc := by
    obtain rfl := List.mem_singleton.1 hu
    exact hc
  shows c hc := absurd hc List.not_mem_nil

/-- Every step is recorded. -/
theorem Recorded.step {us : List State} (hr : Recorded (us, s)) (h : step env s l = some t) :
    Recorded (us ++ [s], t) := by
  have hs : s.Configured := hr.configured s (by simp)
  have hold (u : State) : u ∈ us ++ [s] → u ∈ (us ++ [s]) ++ [t] := List.mem_append_left _
  -- a call that was accepted stays recorded
  have hgrow : ∀ c ∈ s.calls, c ∈ t.calls := by
    rcases calls_of_step h with hcalls | ⟨c, hcalls, -⟩
    · simp [hcalls]
    · exact fun c' hc' => hcalls ▸ List.mem_append_left _ hc'
  refine ⟨fun u hu => ?_, fun u hu c hc => ?_, fun c hc => ?_⟩
  · rcases List.mem_append.1 hu with hu | hu
    · exact hr.configured u hu
    · obtain rfl := List.mem_singleton.1 hu
      exact hs.step h
  · rcases List.mem_append.1 hu with hu | hu
    · exact hgrow c (hr.calls u hu c hc)
    · obtain rfl := List.mem_singleton.1 hu
      exact hc
  · have hearlier : c ∈ s.calls → ∃ u ∈ (us ++ [s]) ++ [t], u.Shows c := by
      intro hmem
      obtain ⟨u, hu, hshows⟩ := hr.shows c hmem
      exact ⟨u, hold u hu, hshows⟩
    -- the new call shows in the new state, and the earlier ones where they did
    rcases calls_of_step h with hcalls | ⟨c', hcalls, hshows⟩
    · exact hearlier (hcalls ▸ hc)
    · rw [hcalls] at hc
      rcases List.mem_append.1 hc with hmem | hmem
      · exact hearlier hmem
      · obtain rfl := List.mem_singleton.1 hmem
        exact ⟨t, by simp, hshows⟩

/-- No configuration ever has a secret field if and only if no call that was accepted has given
    one. -/
theorem configs_clean_iff {ok : List State × State → Label → Prop} {r : List State × State}
    (h : Run (Run.recorded (ConnectorInstances.step env)) ok ([], State.initial) r) :
    (∀ u ∈ r.1 ++ [r.2], u.Clean) ↔ ∀ c ∈ r.2.calls, c.Clean := by
  have hr : Recorded r := by
    refine h.invariant .initial fun r l r' hr _ hstep => ?_
    obtain ⟨t, ht, rfl⟩ := Option.map_eq_some_iff.1 hstep
    exact hr.step ht
  constructor
  · -- the state in which an accepted call shows is one of the run
    intro hclean c hc name hname
    obtain ⟨u, hu, instance', hi, hlast, hconfig⟩ := hr.shows c hc
    exact hconfig ▸ hclean u hu _ instance' c hi hlast name hname
  · intro hclean u hu i instance' c hi hlast name hname
    obtain ⟨c', hlast', hconfig⟩ := hr.configured u hu i instance' hi
    obtain rfl := Option.some.inj (hlast'.symm.trans hlast)
    rw [hconfig]
    exact hclean c' (hr.calls u hu c' (mem_of_lastCall hlast).1) name hname

/-- An instance is installed with its token among the secret values. -/
theorem configs_clean_secretValue :
    ∃ r, Run (Run.recorded (step plainEnv)) (fun _ _ => True) ([], State.initial) r ∧
      r.2.instances.size = 1 ∧ ∀ u ∈ r.1 ++ [r.2], u.Clean := by
  obtain ⟨r, hr, hsize, hcalls⟩ : ∃ r, Run.exec (Run.recorded (step plainEnv))
      ([], State.initial)
      [.install (snapshotManifest "1.0.0") "Posture" [("region", .str "eu")]
        [("token", .str "x")]] = some r ∧ r.2.instances.size = 1 ∧
      r.2.calls = [⟨2, snapshotManifest "1.0.0", [("region", .str "eu")],
        [("token", .str "x")]⟩] :=
    ⟨_, rfl, rfl, rfl⟩
  have hrun := Run.of_exec_true _ hr
  refine ⟨r, hrun, hsize, (configs_clean_iff hrun).2 fun c hc name hname => ?_⟩
  rw [hcalls] at hc
  obtain rfl := List.mem_singleton.1 hc
  have htoken : name = "token" := by simpa [isSecretField, snapshotManifest, eq_comm] using hname
  subst htoken
  rfl

/-- An instance is installed with its token in the configuration. -/
theorem config_holds_secret :
    ¬ ∀ s, Run (step plainEnv) (fun _ _ => True) State.initial s → s.Clean := by
  intro h
  obtain ⟨s, hs, instance', hi, hlast, htoken⟩ : ∃ s, Run.exec (step plainEnv) State.initial
      [.install (snapshotManifest "1.0.0") "Posture"
        [("region", .str "eu"), ("token", .str "x")] []] = some s ∧
      ∃ instance', s.instances[(0 : Id)]? = some instance' ∧
        lastCall s.calls 0 = some ⟨0, snapshotManifest "1.0.0",
          [("region", .str "eu"), ("token", .str "x")], []⟩ ∧
        instance'.configJson.get? "token" = some (.str "x") :=
    ⟨_, rfl, _, rfl, rfl, rfl⟩
  have hnone := h s (Run.of_exec_true _ hs) 0 instance' _ hi hlast "token" rfl
  simp [htoken] at hnone

/-! ## What a call stores -/

/-- A reference leads to the encryption of a text, or there is neither. -/
def LeadsTo (env : Env) (secrets : Table Secret) : Option Id → Option String → Prop
  | none, none => True
  | some id, some text => ∃ n ciphertext, secrets[id]? = some (.encrypted ciphertext) ∧
      env.encrypt n text env.encryptionKey = some ciphertext
  | none, some _ | some _, none => False

/-- A reference leads where it led while secrets stay. -/
theorem LeadsTo.mono {secrets secrets' : Table Secret} {ref : Option Id} {text : Option String}
    (h : LeadsTo env secrets ref text)
    (hkept : ∀ (k : Id) secret, secrets[k]? = some secret → secrets'[k]? = some secret) :
    LeadsTo env secrets' ref text := by
  match ref, text, h with
  | none, none, _ => trivial
  | some id, some text, ⟨n, ciphertext, hsecret, hencrypt⟩ =>
    exact ⟨n, ciphertext, hkept id _ hsecret, hencrypt⟩

/-- Later references and texts replace earlier ones. -/
theorem LeadsTo.or {secrets : Table Secret} {ref ref' : Option Id} {text text' : Option String}
    (h : LeadsTo env secrets ref text) (h' : LeadsTo env secrets ref' text') :
    LeadsTo env secrets (ref.or ref') (text.or text') := by
  match ref, text, h with
  | none, none, _ => exact h'
  | some id, some text, h => exact h

/-- What the secrets are like after some fields of the schema. -/
structure Stores (env : Env) (s : State) (secretValues : JsonDict)
    (schema : List ConfigFieldSpec) (stored : Stored) : Prop where
  kept : ∀ (k : Id) secret, s.secrets[k]? = some secret → stored.secrets[k]? = some secret
  distinct : DistinctKeys stored.secretRef
  leads : ∀ name, LeadsTo env stored.secrets (refOf stored.secretRef name)
    (givenBy schema secretValues name)
  drawn : s.drawn ≤ stored.drawn

/-- A field is secret if the schema, or its last entry, says so. -/
theorem isSecretField_append (schema : List ConfigFieldSpec) (spec : ConfigFieldSpec)
    (name : String) : isSecretField (schema ++ [spec]) name =
      (isSecretField schema name || (spec.secret && decide (spec.name = name))) := by
  simp [isSecretField]

/-- A value that is not given has no text. -/
theorem textOf_of_not_given (h : isGiven secretValues name = false) :
    textOf secretValues name = none := by
  unfold textOf
  split
  · next text htext =>
    rw [isGiven, htext] at h
    split
    · rfl
    · next hne => simp [Json.truthy, hne] at h
  · rfl

/-- A field that is not secret, or not given, changes nothing. -/
theorem givenBy_append_of_not {schema : List ConfigFieldSpec} {spec : ConfigFieldSpec}
    (h : ¬ (spec.secret = true ∧ isGiven secretValues spec.name = true)) (name : String) :
    givenBy (schema ++ [spec]) secretValues name = givenBy schema secretValues name := by
  unfold givenBy
  rw [isSecretField_append]
  -- a secret field of the name whose text is blank counts as not given
  by_cases hspec : spec.secret = true ∧ spec.name = name
  · obtain ⟨hsecret, rfl⟩ := hspec
    have hnot : isGiven secretValues spec.name = false :=
      Bool.eq_false_iff.2 fun hgiven => h ⟨hsecret, hgiven⟩
    rw [textOf_of_not_given hnot]
    simp
  · have hfalse : (spec.secret && decide (spec.name = name)) = false := by
      simpa using hspec
    rw [hfalse, Bool.or_false]

/-- Storing one more field stores its value if it is given. -/
theorem Stores.storeSecretRef {schema : List ConfigFieldSpec} {spec : ConfigFieldSpec}
    {u v : Stored} (h : Stores env s secretValues schema u)
    (hstep : ConnectorInstances.storeSecretRef env secretValues u spec = .ok v) :
    Stores env s secretValues (schema ++ [spec]) v := by
  unfold ConnectorInstances.storeSecretRef at hstep
  split at hstep
  · next hgiven =>
    split at hstep
    · next plaintext hvalue =>
      split at hstep
      · cases hstep
      · next ciphertext hencrypt =>
        simp only at hstep
        split at hstep
        · cases hstep
        · next hfresh =>
          cases hstep
          -- the new secret has a new id, so it overwrites none
          have hkept : ∀ (k : Id) secret, u.secrets[k]? = some secret →
              (u.secrets.insert (env.newId (u.drawn + 1)) (.encrypted ciphertext))[k]? =
                some secret := by
            intro k secret hk
            have hne : env.newId (u.drawn + 1) ≠ k := fun heq =>
              hfresh (heq ▸ Table.mem_of_get hk)
            rw [Table.get_insert_ne hne]
            exact hk
          refine ⟨fun k secret hk => hkept k secret (h.kept k secret hk),
            distinctKeys_setRef h.distinct _ _, fun name => ?_,
            h.drawn.trans (Nat.le_add_right _ 2)⟩
          rw [refOf_setRef]
          -- the reference of this field is the new one, also if the schema names it twice
          by_cases hname : spec.name = name
          · subst hname
            have htext : textOf secretValues spec.name = some plaintext := by
              have hne : plaintext ≠ "" := by
                simpa [isGiven, hvalue, Json.truthy] using hgiven.2
              simp [textOf, hvalue, hne]
            rw [if_pos rfl, givenBy, isSecretField_append, if_pos (by simp [hgiven.1]), htext]
            exact ⟨u.drawn, ciphertext, Table.get_insert_self, hencrypt⟩
          · have hsame : givenBy (schema ++ [spec]) secretValues name =
                givenBy schema secretValues name := by
              simp [givenBy, isSecretField_append, hname]
            rw [if_neg hname, hsame]
            exact (h.leads name).mono hkept
    · cases hstep
    · -- a value that is given is there
      next hnone => simp [isGiven, hnone, Json.truthy] at hgiven
  · next hnot =>
    cases hstep
    exact { h with leads := fun name => by rw [givenBy_append_of_not hnot]; exact h.leads name }

/-- The secrets of a call are stored, and its references lead to them. -/
theorem stores_of_storesAll {stored : Stored} (h : StoresAll env s manifest secretValues stored) :
    Stores env s secretValues manifest.configSchema stored :=
  Except.foldlM_induction (storeSecretRefs_eq_none.1 h)
    ⟨fun _ _ hk => hk, .nil, fun _ => trivial, le_rfl⟩
    fun _ _ _ _ hu hstep => hu.storeSecretRef hstep

/-! ## What holds of every instance -/

/-- An instance has references to the last texts that were given. -/
structure Follows (env : Env) (secrets : Table Secret) (calls : List ConfigCall) (i : Id)
    (instance' : Instance) : Prop where
  distinct : DistinctKeys instance'.secretRefJson
  leads : ∀ name, LeadsTo env secrets (refOf instance'.secretRefJson name)
    (lastGiven calls i name)

/-- The invariant: the instances follow the calls, each on an id that was drawn before. -/
structure State.Followed (env : Env) (s : State) : Prop where
  configured : s.Configured
  follows : ∀ (i : Id) instance', s.instances[i]? = some instance' →
    Follows env s.secrets s.calls i instance'
  drawn : ∀ c ∈ s.calls, ∃ n < s.drawn, c.instanceId = env.newId n

/-- A call on another instance only adds secrets. -/
theorem Follows.other {secrets secrets' : Table Secret} {calls : List ConfigCall} {c : ConfigCall}
    (h : Follows env secrets calls i instance') (hne : c.instanceId ≠ i)
    (hkept : ∀ (k : Id) secret, secrets[k]? = some secret → secrets'[k]? = some secret) :
    Follows env secrets' (calls ++ [c]) i instance' where
  distinct := h.distinct
  leads name := by rw [lastGiven_snoc, if_neg hne]; exact (h.leads name).mono hkept

/-- The call that installs an instance, on a new id. -/
theorem Follows.installed {stored : Stored} {calls : List ConfigCall} {displayName : String}
    (h : Stores env s secretValues manifest.configSchema stored)
    (hnew : ∀ c ∈ calls, c.instanceId ≠ i) :
    Follows env stored.secrets (calls ++ [⟨i, manifest, config, secretValues⟩]) i
      (newInstance manifest displayName config stored.secretRef) where
  distinct := h.distinct
  leads name := by
    have hnone : lastGiven calls i name = none := by
      have hfilter : calls.filter (fun c => c.instanceId = i) = [] :=
        List.filter_eq_nil_iff.2 fun c hc heq => hnew c hc (of_decide_eq_true heq)
      rw [lastGiven, hfilter]
      rfl
    rw [lastGiven_snoc, if_pos rfl, hnone, Option.or_none]
    exact h.leads name

/-- A call that updates the configuration of an instance. -/
theorem Follows.reconfigured {stored : Stored} {calls : List ConfigCall}
    (h : Follows env s.secrets calls i instance')
    (hstores : Stores env s secretValues manifest.configSchema stored) :
    Follows env stored.secrets (calls ++ [⟨i, manifest, config, secretValues⟩]) i
      (instance'.reconfigured config stored.secretRef) where
  distinct := distinctKeys_updateRefs h.distinct _
  leads name := by
    rw [lastGiven_snoc, if_pos rfl]
    change LeadsTo env stored.secrets (refOf (updateRefs instance'.secretRefJson _) name) _
    rw [refOf_updateRefs _ hstores.distinct]
    exact (hstores.leads name).or ((h.leads name).mono hstores.kept)

/-- A call that does not change the references of the instance. -/
theorem Follows.congr {secrets : Table Secret} {calls : List ConfigCall} {new : Instance}
    (h : Follows env secrets calls i instance')
    (hrefs : new.secretRefJson = instance'.secretRefJson) : Follows env secrets calls i new where
  distinct := by rw [hrefs]; exact h.distinct
  leads := by rw [hrefs]; exact h.leads

/-- Calls on ids that were drawn before, and one more. -/
theorem drawn_snoc {c : ConfigCall} {n : Nat} (hs : s.Followed env) (hn : s.drawn ≤ n)
    (hc : ∃ m < n, c.instanceId = env.newId m) :
    ∀ c' ∈ s.calls ++ [c], ∃ m < n, c'.instanceId = env.newId m := by
  intro c' hmem
  rcases List.mem_append.1 hmem with hmem | hmem
  · obtain ⟨m, hm, hid⟩ := hs.drawn c' hmem
    exact ⟨m, hm.trans_le hn, hid⟩
  · obtain rfl := List.mem_singleton.1 hmem
    exact hc

/-- Every call keeps the invariant, if `new_id()` does not repeat. -/
theorem State.Followed.step (hs : s.Followed env) (hnewId : Function.Injective env.newId)
    (h : step env s l = some t) : t.Followed env := by
  cases effect_of_step h with
  | installed manifest displayName config secretValues stored hstored hfresh ht =>
    subst ht
    have hstores := stores_of_storesAll hstored
    -- an id that is drawn now is none of those drawn before, also of removed instances
    have hnew : ∀ c ∈ s.calls, c.instanceId ≠ env.newId stored.drawn := by
      intro c hc heq
      obtain ⟨m, hm, hid⟩ := hs.drawn c hc
      have hsame : m = stored.drawn := hnewId (hid.symm.trans heq)
      exact absurd hstores.drawn (by omega)
    refine ⟨hs.configured.step h, fun j row hrow => ?_, ?_⟩
    · rw [Table.get_insert] at hrow
      split at hrow
      · next hid =>
        cases hrow
        subst hid
        exact .installed hstores hnew
      · next hid => exact (hs.follows j row hrow).other hid hstores.kept
    · exact drawn_snoc hs (hstores.drawn.trans (Nat.le_succ _))
        ⟨stored.drawn, Nat.lt_succ_self _, rfl⟩
  | reconfigured i old manifest config secretValues stored hold hstored ht =>
    subst ht
    have hstores := stores_of_storesAll hstored
    refine ⟨hs.configured.step h, fun j row hrow => ?_, ?_⟩
    · rw [Table.get_insert] at hrow
      split at hrow
      · next hid =>
        cases hrow
        subst hid
        exact (hs.follows i old hold).reconfigured hstores
      · next hid => exact (hs.follows j row hrow).other hid hstores.kept
    · obtain ⟨c, hc, -⟩ := hs.configured i old hold
      obtain ⟨hmem, rfl⟩ := mem_of_lastCall hc
      obtain ⟨m, hm, hid⟩ := hs.drawn c hmem
      exact drawn_snoc hs hstores.drawn ⟨m, hm.trans_le hstores.drawn, hid⟩
  | other hsecrets hcalls hdrawn hinstances =>
    refine ⟨hs.configured.step h, fun j row hrow => ?_, by rw [hcalls, hdrawn]; exact hs.drawn⟩
    obtain ⟨old, hold, -, hrefs⟩ := hinstances j row hrow
    rw [hsecrets, hcalls]
    exact (hs.follows j old hold).congr hrefs

/-- In every run the references lead to what was last given. -/
theorem followed_of_run {ok : State → Label → Prop} (hnewId : Function.Injective env.newId)
    (h : Run (ConnectorInstances.step env) ok State.initial s) : s.Followed env := by
  refine h.invariant (P := State.Followed env)
    ⟨configured_initial, fun i _ hi => ?_, fun _ hc => ?_⟩
    fun _ _ _ hs _ hstep => hs.step hnewId hstep
  · exact absurd hi Table.not_get_empty
  · exact absurd hc List.not_mem_nil

/-! ## Resolution -/

/-- The references are resolved one by one. -/
theorem resolveConnectorConfig_cons {platform : Platform} {secrets : Table Secret} {key : String}
    {instance' : ConnectorInstance} {ref : String × Id}
    (hrefs : instance'.secretRefJson = ref :: refs) :
    resolveConnectorConfig platform secrets instance' key =
    resolveConnectorConfig platform secrets
      { instance' with
        configJson := secrets[ref.2]?.elim instance'.configJson fun secret =>
          instance'.configJson.set ref.1 (resolveSecret platform secret key)
        secretRefJson := refs } key := by
  simp only [resolveConnectorConfig, hrefs, List.foldl_cons]
  cases secrets[ref.2]? with
  | none => rfl
  | some secret => rfl

/-- The secrets that the references lead to, over the configuration. -/
theorem get?_resolveConnectorConfig {platform : Platform} {secrets : Table Secret} {key : String}
    {instance' : ConnectorInstance} (hrefs : instance'.secretRefJson = refs)
    (h : DistinctKeys refs) (name : String) :
    (resolveConnectorConfig platform secrets instance' key).get? name =
      (((refOf refs name).bind fun id => secrets[id]?).map fun secret =>
        resolveSecret platform secret key).or (instance'.configJson.get? name) := by
  -- on the references, over the configuration with the secrets resolved so far
  induction refs generalizing instance' with
  | nil =>
    rw [resolveConnectorConfig, hrefs]
    rfl
  | cons ref refs ih =>
    rw [DistinctKeys, List.pairwise_cons] at h
    rw [resolveConnectorConfig_cons hrefs, ih rfl h.2, refOf_cons]
    by_cases hname : ref.1 = name
    · have hnone : refOf refs name = none :=
        refOf_eq_none fun r hr heq => h.1 r hr (hname.trans heq.symm)
      rw [hnone, if_pos hname]
      cases hsecret : secrets[ref.2]? with
      | none => simp [hsecret]
      | some secret => simp [hsecret, JsonDict.get?_set, hname]
    · rw [if_neg hname]
      congr 1
      cases hsecret : secrets[ref.2]? with
      | none => rfl
      | some secret => simp [JsonDict.get?_set, hname]

/-- What is resolved over secrets that the references lead to. -/
theorem resolve_of_follows
    (hdecrypt : ∀ n plaintext key ciphertext, env.encrypt n plaintext key = some ciphertext →
      env.platform.decrypt ciphertext key = some plaintext)
    (h : Follows env s.secrets s.calls i instance') (name : String) :
    (resolve env s instance').get? name =
      ((lastGiven s.calls i name).map Json.str).or (instance'.configJson.get? name) := by
  have hleads := h.leads name
  rw [resolve, get?_resolveConnectorConfig rfl h.distinct]
  congr 1
  -- a reference without a text, or a text without a reference, leads nowhere
  match hrefOf : refOf instance'.secretRefJson name, hgiven : lastGiven s.calls i name with
  | none, none => rfl
  | some id, none | none, some text =>
    rw [hrefOf, hgiven] at hleads
    exact hleads.elim
  | some id, some text =>
    rw [hrefOf, hgiven] at hleads
    obtain ⟨n, ciphertext, hsecret, hencrypt⟩ := hleads
    simp [hsecret, resolveSecret, hdecrypt n text _ ciphertext hencrypt]

/-- A call keeps the secrets that are there. -/
theorem secrets_of_step (h : step env s l = some t) (k : Id) {secret : Secret}
    (hk : s.secrets[k]? = some secret) : t.secrets[k]? = some secret := by
  cases effect_of_step h with
  | installed manifest displayName config secretValues stored hstored hfresh ht =>
    subst ht
    exact (stores_of_storesAll hstored).kept k secret hk
  | reconfigured i old manifest config secretValues stored hold hstored ht =>
    subst ht
    exact (stores_of_storesAll hstored).kept k secret hk
  | other hsecrets => rw [hsecrets]; exact hk

/-- Every reference leads to a secret. -/
theorem Follows.secret (h : Follows env s.secrets s.calls i instance') {ref : String × Id}
    (href : ref ∈ instance'.secretRefJson) : ∃ secret, s.secrets[ref.2]? = some secret := by
  have hleads := h.leads ref.1
  rw [refOf_of_mem h.distinct href] at hleads
  cases hgiven : lastGiven s.calls i ref.1 with
  | none => rw [hgiven] at hleads; exact hleads.elim
  | some text =>
    rw [hgiven] at hleads
    obtain ⟨_, ciphertext, hsecret, _⟩ := hleads
    exact ⟨_, hsecret⟩

/-- A call does not change what an instance that it leaves alone resolves to. -/
theorem resolve_of_step (hfollows : Follows env s.secrets s.calls i instance')
    (h : step env s l = some t) : resolve env t instance' = resolve env s instance' := by
  -- every reference leads to a secret already, and secrets are not changed
  refine List.foldl_ext _ _ _ fun config ref href => ?_
  obtain ⟨secret, hsecret⟩ := hfollows.secret href
  rw [secrets_of_step h ref.2 hsecret, hsecret]

/-- After any calls, an instance resolves to the configuration of the last call that set it, with
    the last text that was given for each secret field, if encryption can be undone and ids are
    new; and a call does not change what the other instances resolve to. -/
theorem resolve_latest {ok : State → Label → Prop}
    (hdecrypt : ∀ n plaintext key ciphertext, env.encrypt n plaintext key = some ciphertext →
      env.platform.decrypt ciphertext key = some plaintext)
    (hnewId : Function.Injective env.newId)
    (h : Run (ConnectorInstances.step env) ok State.initial s) :
    (∀ (i : Id) instance', s.instances[i]? = some instance' →
      ∃ c, lastCall s.calls i = some c ∧ ∀ name, (resolve env s instance').get? name =
        ((lastGiven s.calls i name).map Json.str).or (c.config.get? name)) ∧
    ∀ l t, step env s l = some t → ∀ (j : Id) instance', l.target ≠ some j →
      s.instances[j]? = some instance' →
      t.instances[j]? = some instance' ∧ resolve env t instance' = resolve env s instance' := by
  have hs := followed_of_run hnewId h
  refine ⟨fun i instance' hi => ?_, fun l t hstep j instance' hl hj => ?_⟩
  · have hfollows := hs.follows i instance' hi
    obtain ⟨c, hc, hconfig⟩ := hs.configured i instance' hi
    exact ⟨c, hc, fun name => hconfig ▸ resolve_of_follows hdecrypt hfollows name⟩
  · exact ⟨get_of_step hstep hl hj, resolve_of_step (hs.follows j instance' hj) hstep⟩

/-- An instance is installed with a token and updated without one. -/
theorem resolve_latest_blankToken :
    ∃ s instance', Run (step plainEnv) (fun _ _ => True) State.initial s ∧
      s.instances[(2 : Id)]? = some instance' ∧
      (resolve plainEnv s instance').get? "region" = some (.str "us") ∧
      (resolve plainEnv s instance').get? "token" = some (.str "x") := by
  obtain ⟨s, hs, instance', hi, hlast, hregion, htoken⟩ :
      ∃ s, Run.exec (step plainEnv) State.initial
      [.install (snapshotManifest "1.0.0") "Posture" [("region", .str "eu")]
        [("token", .str "x")],
      .updateConfig 2 (snapshotManifest "1.0.0") [("region", .str "us")]
        [("token", .str "")]] = some s ∧
      ∃ instance', s.instances[(2 : Id)]? = some instance' ∧
        lastCall s.calls 2 = some ⟨2, snapshotManifest "1.0.0", [("region", .str "us")],
          [("token", .str "")]⟩ ∧
        lastGiven s.calls 2 "region" = none ∧ lastGiven s.calls 2 "token" = some "x" :=
    ⟨_, rfl, _, rfl, rfl, rfl, rfl⟩
  have hrun := Run.of_exec_true _ hs
  have hdecrypt : ∀ (n : Nat) (plaintext key ciphertext : String),
      plainEnv.encrypt n plaintext key = some ciphertext →
      plainEnv.platform.decrypt ciphertext key = some plaintext :=
    fun _ _ _ _ h => h.symm
  obtain ⟨c, hc, hget⟩ := (resolve_latest hdecrypt (fun _ _ h => h) hrun).1 2 instance' hi
  obtain rfl := Option.some.inj (hlast.symm.trans hc)
  refine ⟨s, instance', hrun, hi, ?_, ?_⟩
  · rw [hget, hregion]
    rfl
  · rw [hget, htoken]
    rfl

end MiniGrc.ConnectorInstances
