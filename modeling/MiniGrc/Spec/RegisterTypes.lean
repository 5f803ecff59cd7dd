import MiniGrc.Spec.RegisterWrites

/-!
# Types of register values

When the requests to a register leave values of the declared types, with which the application
can compute.

## Key results

- `avoids_validateJson`: how `_validate` ends for what is no object
- `avoids_createRoute`, `avoids_updateRoute`, `avoids_bulkRoute`: what each route needs
- `answered_iff`: when a request is answered well
- `registers_typed_iff`: when all requests of a sequence are
-/

namespace MiniGrc.Registers

open Except

variable {clock : UpdateClock} {env : Env} {config : RegisterConfig} {model : Model}
  {register register' : Register clock} {role : String} {id : Id} {row : Row}
  {d payload : JsonDict} {fields : Json} {spec : FieldSpec}

/-! ## `fields` that are no object -/

/-- A key that can be hashed and, where it is unknown, be written. -/
def IsKey (env : Env) : Json → Prop
  | .list _ | .dict _ => False
  | .str _ => True
  | key => env.rendersDetail key = true

/-- `fields` that are no object but have keys, one of them unknown, in a register of which no
    field may be written. -/
structure Unknown (env : Env) (config : RegisterConfig) (fields : Json) : Prop where
  readOnly : ∀ spec ∈ config.fields, spec.readOnly = true
  keys : ∃ keys, iterate fields = some keys ∧ (∀ key ∈ keys, IsKey env key) ∧
    ∃ key ∈ keys, ∀ name ∈ config.editableNames, key ≠ .str name

/-- With an error added there is one. -/
theorem Errors.add_ne_nil (errors : Errors) (key message : String) :
    errors.add key message ≠ [] := by
  unfold Errors.add
  split
  · next hany =>
    intro hmap
    rw [List.map_eq_nil_iff.1 hmap] at hany
    cases hany
  · exact List.append_ne_nil_of_right_ne_nil _ (List.cons_ne_nil _ _)

/-- What comes of a key: it raises, it is known, or it is noted as unknown. -/
inductive KeyChecked (env : Env) (config : RegisterConfig) (errors : Errors) (key : Json) : Prop
  | raised (hkey : ¬ IsKey env key)
      (h : checkKey env config errors key = .error .serverError)
  | known (hkey : IsKey env key) (hknown : ∃ name ∈ config.editableNames, key = .str name)
      (h : checkKey env config errors key = .ok errors)
  | noted (hkey : IsKey env key) (hunknown : ∀ name ∈ config.editableNames, key ≠ .str name)
      (errors' : Errors) (hne : errors' ≠ []) (h : checkKey env config errors key = .ok errors')

/-- A key that is neither a text nor a container. -/
theorem keyChecked_scalar {errors : Errors} {key : Json}
    (hcheck : checkKey env config errors key =
      if env.rendersDetail key then .ok (errors.add (env.str key) "unknown or read-only field")
      else .error .serverError)
    (hkey : IsKey env key ↔ env.rendersDetail key = true) (hstr : ∀ name, key ≠ .str name) :
    KeyChecked env config errors key := by
  by_cases h : env.rendersDetail key = true
  · rw [if_pos h] at hcheck
    exact .noted (hkey.2 h) (fun name _ => hstr name) _ (errors.add_ne_nil _ _) hcheck
  · rw [if_neg h] at hcheck
    exact .raised (fun h' => h (hkey.1 h')) hcheck

/-- A key raises, is known, or adds an error. -/
theorem keyChecked (env : Env) (config : RegisterConfig) (errors : Errors) (key : Json) :
    KeyChecked env config errors key := by
  -- Lists and objects have no hash; the other values are looked up as they are.
  cases key with
  | list items => exact .raised (fun h => h) rfl
  | dict fields => exact .raised (fun h => h) rfl
  | str name =>
    by_cases h : name ∈ config.editableNames
    · exact .known trivial ⟨name, h, rfl⟩ (if_pos h)
    · refine .noted trivial (fun name' hname' heq => ?_) _ (errors.add_ne_nil _ _) (if_neg h)
      cases heq
      exact h hname'
  | null => exact keyChecked_scalar rfl Iff.rfl (by simp)
  | bool value => exact keyChecked_scalar rfl Iff.rfl (by simp)
  | int value => exact keyChecked_scalar rfl Iff.rfl (by simp)
  | float text => exact keyChecked_scalar rfl Iff.rfl (by simp)

/-- Keys are checked without an exception, and with errors, if one of them is unknown. -/
theorem avoids_checkKeys {keys : List Json} {errors : Errors} :
    Avoids .serverError (fun errors' => errors' ≠ []) (keys.foldlM (checkKey env config) errors) ↔
      (∀ key ∈ keys, IsKey env key) ∧
        (errors ≠ [] ∨ ∃ key ∈ keys, ∀ name ∈ config.editableNames, key ≠ .str name) := by
  -- by induction on the keys, over the errors that were noted before
  induction keys generalizing errors with
  | nil => simp [pure, Except.pure]
  | cons key keys ih =>
    rw [List.foldlM_cons, avoids_bind, List.forall_mem_cons, List.exists_mem_cons_iff]
    cases keyChecked env config errors key with
    | raised hkey h =>
      rw [h]
      exact iff_of_false (fun hne => hne rfl) fun hkeys => hkey hkeys.1.1
    | known hkey hknown h =>
      rw [h, avoids_ok, ih]
      have hnot : ¬ ∀ name ∈ config.editableNames, key ≠ .str name := by
        push Not
        exact hknown
      simp only [hkey, hnot, true_and, false_or]
    | noted hkey hunknown errors' hne h =>
      rw [h, avoids_ok, ih]
      simp only [hkey, hne, true_and, ne_eq, not_false_eq_true, true_or, and_true]
      exact ⟨fun hkeys => ⟨hkeys, .inr (.inl hunknown)⟩, fun hkeys => hkeys.1⟩

/-- The checks of keys fail with nothing but exceptions. -/
theorem checkKeys_error {keys : List Json} {errors : Errors} {e : Refusal}
    (h : keys.foldlM (checkKey env config) errors = .error e) : e = .serverError := by
  -- Over the keys: one that is known or noted goes on to the next.
  induction keys generalizing errors with
  | nil => cases h
  | cons key keys ih =>
    rw [List.foldlM_cons] at h
    cases keyChecked env config errors key with
    | raised hkey hcheck =>
      rw [hcheck] at h
      exact (Except.error.inj h).symm
    | known hkey hknown hcheck =>
      rw [hcheck] at h
      exact ih h
    | noted hkey hunknown errors' hne hcheck =>
      rw [hcheck] at h
      exact ih h

theorem validateJson_of_ne (hfields : ∀ d, fields ≠ .dict d) :
    validateJson env config fields true =
      (match iterate fields with
      | none => .error .serverError
      | some keys => keys.foldlM (checkKey env config) [] >>= fun errors =>
        if config.fields.any fun spec => !spec.readOnly then .error .serverError
        else .ok errors) := by
  -- Everything but an object is read through its iteration.
  cases fields with
  | dict d => exact absurd rfl (hfields d)
  | null => rfl
  | bool value => rfl
  | int value => rfl
  | float text => rfl
  | str text => rfl
  | list items => rfl

/-- What is no object is refused without an exception exactly if its unknown keys are. -/
theorem avoids_validateJson (hfields : ∀ d, fields ≠ .dict d) :
    Avoids .serverError (fun errors => errors ≠ []) (validateJson env config fields true) ↔
      Unknown env config fields := by
  rw [validateJson_of_ne hfields]
  cases hkeys : iterate fields with
  | none =>
    refine iff_of_false (fun hne => hne rfl) fun hunknown => ?_
    obtain ⟨keys, hsome, -⟩ := hunknown.keys
    rw [hkeys] at hsome
    cases hsome
  | some keys =>
    -- with a field that may be written, the second loop of `_validate` asks for `payload.get`
    simp only
    rw [avoids_bind]
    by_cases hreadOnly : config.fields.any (fun spec => !spec.readOnly) = true
    · simp only [if_pos hreadOnly]
      refine iff_of_false (fun h => ?_) fun hunknown => ?_
      · rw [avoids_iff] at h
        cases hcheck : keys.foldlM (checkKey env config) [] with
        | ok errors => exact h.2 errors hcheck rfl
        | error e => exact h.1 (checkKeys_error hcheck ▸ hcheck)
      · obtain ⟨spec, hspec, hnot⟩ := List.any_eq_true.1 hreadOnly
        simp [hunknown.readOnly spec hspec] at hnot
    · simp only [if_neg hreadOnly, avoids_ok]
      rw [avoids_checkKeys]
      constructor
      · rintro ⟨hall, hex⟩
        refine ⟨fun spec hspec => ?_, keys, hkeys, hall, hex.resolve_left fun hne => hne rfl⟩
        by_contra hnot
        exact hreadOnly (List.any_eq_true.2 ⟨spec, hspec, by simpa using hnot⟩)
      · rintro ⟨-, keys', hkeys', hall, hex⟩
        rw [hkeys] at hkeys'
        cases hkeys'
        exact ⟨hall, .inr hex⟩

/-! ## `update_row` -/

/-- What the fields of an update of a row need: an object that passes `_validate` can be
    written. -/
def FieldsSound (env : Env) (config : RegisterConfig) (model : Model) (rows : Table Row) (id : Id)
    (row : Row) : Json → Prop
  | .dict d => validate config d true = [] →
      WriteSound env config model rows id row (setattrs [] d)
  | fields => Unknown env config fields

/-- Of fields that are no object only the keys are looked at. -/
theorem fieldsSound_of_ne {rows : Table Row} (hfields : ∀ d, fields ≠ .dict d) :
    FieldsSound env config model rows id row fields ↔ Unknown env config fields := by
  cases fields with
  | dict d => exact absurd rfl (hfields d)
  | null => exact Iff.rfl
  | bool value => exact Iff.rfl
  | int value => exact Iff.rfl
  | float text => exact Iff.rfl
  | str text => exact Iff.rfl
  | list items => exact Iff.rfl

/-- What is no object has no items to write. -/
theorem itemsOf_of_ne (hfields : ∀ d, fields ≠ .dict d) :
    itemsOf fields = .error .serverError := by
  cases fields with
  | dict d => exact absurd rfl (hfields d)
  | null => rfl
  | bool value => rfl
  | int value => rfl
  | float text => rfl
  | str text => rfl
  | list items => rfl

/-- The body is checked only where the expected version is the row's. -/
theorem avoids_checkBody {P : Json → Prop} (h : ValuesTyped env config row.values) :
    Avoids .serverError P (checkBody env config id row payload) ↔
      (isExpected env row payload = true →
        Avoids .serverError (fun errors => errors = [] → P (fieldsOf? payload))
          (validateJson env config (fieldsOf? payload) true)) := by
  unfold checkBody
  -- A version that is not the row's is answered as a conflict.
  by_cases hexpected : isExpected env row payload = true
  · rw [if_pos hexpected]
    simp only [hexpected, forall_const]
    cases validateJson env config (fieldsOf? payload) true with
    | error e => exact Iff.rfl
    | ok errors =>
      cases errors with
      | nil => simp
      | cons error errors => simp
  · rw [if_neg hexpected, if_pos h.shows_detail]
    exact iff_of_true (by simp) fun hexpected' => absurd hexpected' hexpected

/-- What a `PATCH` needs that names a row and carries its `updated_at`. -/
def PatchSound (env : Env) (config : RegisterConfig) (model : Model) (register : Register clock)
    (role : String) (id : Id) (payload : JsonDict) : Prop :=
  checkPermission config .edit role = .ok () → ∀ row, register.rows[id]? = some row →
    isExpected env row payload = true →
      FieldsSound env config model register.rows id row (fieldsOf? payload)

/-- A permission denied is an answer. -/
theorem avoids_checkPermission {P : Prop} {action : RegisterAction} :
    Avoids .serverError (fun _ => P) (checkPermission config action role) ↔
      (checkPermission config action role = .ok () → P) := by
  rw [avoids_iff]
  exact ⟨fun h hperm => h.2 () hperm, fun h => ⟨checkPermission_ne, fun _ hperm => h hperm⟩⟩

/-- An update answers well exactly when the request is sound. -/
theorem avoids_updateRoute (h : WellTyped env config register) :
    Avoids .serverError (WellTyped env config)
        (updateRoute env config model register role id payload) ↔
      PatchSound env config model register role id payload := by
  rw [updateRoute, avoids_bind, avoids_checkPermission, PatchSound]
  refine imp_congr_right fun _ => ?_
  cases hrow : register.rows[id]? with
  | none => simp
  | some row =>
    simp only
    rw [avoids_bind, avoids_checkBody (h id row hrow)]
    simp only [Option.some.injEq, forall_eq']
    refine imp_congr_right fun _ => ?_
    -- only an object has `items()`, so nothing else gets to the flush
    by_cases hdict : ∃ d, fieldsOf? payload = .dict d
    · obtain ⟨d, hd⟩ := hdict
      rw [hd]
      change (validate config d true = [] → _) ↔ _
      exact imp_congr_right fun _ => avoids_write h hrow
    · push Not at hdict
      rw [fieldsSound_of_ne hdict, ← avoids_validateJson hdict]
      refine avoids_congr fun errors _ => ?_
      rw [avoids_bind, itemsOf_of_ne hdict]
      exact imp_congr_right fun _ => iff_of_false (fun hne => hne rfl) fun h => h

/-! ## `create_row` -/

/-- What a request to create a row needs that passes the checks. -/
def CreateSound (env : Env) (config : RegisterConfig) (model : Model) (register : Register clock)
    (role : String) (newId : Id) (payload : JsonDict) : Prop :=
  checkCreate config role payload = .ok () →
    InsertSound env config model register.rows newId (insertedFields config payload)

/-- The checks of a creation never fail. -/
theorem checkCreate_ne : checkCreate config role payload ≠ .error .serverError := by
  intro h
  rcases Except.bind_eq_error.1 h with h | ⟨⟨⟩, -, h⟩
  · exact checkPermission_ne h
  · split at h
    · cases h
    · split at h
      · cases h
      · cases h

/-- A creation answers well exactly when the request is sound. -/
theorem avoids_createRoute (h : WellTyped env config register) :
    Avoids .serverError (WellTyped env config)
        (createRoute env config model register role id payload) ↔
      CreateSound env config model register role id payload := by
  rw [createRoute, avoids_bind, avoids_iff, CreateSound]
  constructor
  · exact fun hroute hcheck => (avoids_insert h).1 (hroute.2 () hcheck)
  · exact fun hsound => ⟨checkCreate_ne, fun _ hcheck => (avoids_insert h).2 (hsound hcheck)⟩

/-! ## `bulk_update` -/

/-- An element of `updates` that passes the checks, as the update that is planned for it. -/
structure ItemFits (env : Env) (config : RegisterConfig) (register : Register clock)
    (body : JsonDict) (row : Row) (update : Update) : Prop where
  ident : env.ident ((body.get? "id").getD .null) = some (some update.id)
  found : register.rows[update.id]? = some row
  expected : isExpected env row body = true
  fields : fieldsOf? body = .dict update.fields
  valid : validate config update.fields true = []
  planned : update.expectedUpdatedAt = none

/-- The same of a value of any type. -/
def Fitting (env : Env) (config : RegisterConfig) (register : Register clock) (item : Json)
    (update : Update) : Prop :=
  ∃ body row, item = .dict body ∧ ItemFits env config register body row update

/-- What the checks of an element of `updates` need to raise nothing: it is an object, its id
    can be looked up, and if it carries the `updated_at` of its row, then its `fields` are an
    object. -/
def ItemSound (env : Env) (register : Register clock) (item : Json) : Prop :=
  ∃ body, item = .dict body ∧
    ∃ named, env.ident ((JsonDict.get? body "id").getD .null) = some named ∧
      ∀ id row, named = some id → register.rows[id]? = some row →
        isExpected env row body = true → ∃ d, fieldsOf? body = .dict d

/-- Valid fields are what is to be written. -/
theorem checkBody_of_valid (hexpected : isExpected env row payload = true)
    (hfields : fieldsOf? payload = .dict d) (hvalid : validate config d true = []) :
    checkBody env config id row payload = .ok (.dict d) := by
  rw [checkBody, if_pos hexpected, hfields, validateJson, hvalid]

/-- Invalid fields are answered with their errors. -/
theorem checkBody_of_errors (hexpected : isExpected env row payload = true)
    (hfields : fieldsOf? payload = .dict d) (hvalid : validate config d true ≠ []) :
    checkBody env config id row payload = .error (.unprocessable (validate config d true)) := by
  rw [checkBody, if_pos hexpected, hfields, validateJson]
  cases herrors : validate config d true with
  | nil => exact absurd herrors hvalid
  | cons error errors => rfl

/-- An item that fits is planned. -/
theorem checkItem_of_fitting {item : Json} {update : Update}
    (h : Fitting env config register item update) :
    checkItem env config register item = .ok (update.id, .dict update.fields) := by
  obtain ⟨body, row, rfl, h⟩ := h
  simp only [checkItem, h.ident, Option.bind_some, h.found, Option.map_some,
    checkBody_of_valid h.expected h.fields h.valid]
  rfl

/-- In a register with fields that may be written, `fields` have to be an object. -/
theorem validateJson_error (hwritable : ∃ spec ∈ config.fields, spec.readOnly = false)
    (hfields : ∀ d, fields ≠ .dict d) :
    validateJson env config fields true = .error .serverError := by
  obtain ⟨spec, hspec, hreadOnly⟩ := hwritable
  have hany : config.fields.any (fun spec => !spec.readOnly) = true :=
    List.any_eq_true.2 ⟨spec, hspec, by simp [hreadOnly]⟩
  rw [validateJson_of_ne hfields]
  -- Even with every key known, what is no object fails at the first writable field.
  cases iterate fields with
  | none => rfl
  | some keys =>
    simp only [if_pos hany]
    cases hcheck : keys.foldlM (checkKey env config) [] with
    | ok errors => rfl
    | error e =>
      obtain rfl := checkKeys_error hcheck
      rfl

/-- How the checks of an element end. -/
inductive ItemChecked (env : Env) (config : RegisterConfig) (register : Register clock)
    (item : Json) : Prop
  | raised (hnot : ¬ ItemSound env register item)
      (h : checkItem env config register item = .error .serverError)
  | refused (hsound : ItemSound env register item) (e : Refusal) (he : e ≠ .serverError)
      (h : checkItem env config register item = .error e)
  | passed (hsound : ItemSound env register item) (update : Update)
      (h : Fitting env config register item update)

/-- An item of a bulk request raises, is refused or fits. -/
theorem itemChecked (h : WellTyped env config register)
    (hwritable : ∃ spec ∈ config.fields, spec.readOnly = false) (item : Json) :
    ItemChecked env config register item := by
  by_cases hdict : ∃ body, item = .dict body
  · obtain ⟨body, rfl⟩ := hdict
    have hsound {named : Option Id}
        (hident : env.ident ((JsonDict.get? body "id").getD .null) = some named)
        (hfields : ∀ id row, named = some id → register.rows[id]? = some row →
          isExpected env row body = true → ∃ d, fieldsOf? body = .dict d) :
        ItemSound env register (.dict body) := ⟨body, rfl, named, hident, hfields⟩
    cases hident : env.ident ((JsonDict.get? body "id").getD .null) with
    | none =>
      refine .raised ?_ (by simp only [checkItem, hident])
      rintro ⟨body', heq, named, hnamed, -⟩
      cases heq
      rw [hident] at hnamed
      cases hnamed
    | some named =>
      cases hnamed : named.bind fun id => (register.rows[id]?).map fun row => (id, row) with
      | none =>
        obtain ⟨detail, hitem⟩ : ∃ detail,
            checkItem env config register (.dict body) = .error (.notFound detail) := by
          simp only [checkItem, hident, hnamed]
          exact ⟨_, rfl⟩
        -- 404: the id names no row
        refine .refused (hsound hident fun id row hid hrow => ?_) _ (by simp) hitem
        rw [hid, Option.bind_some, hrow] at hnamed
        cases hnamed
      | some found =>
        obtain ⟨id, rfl, hfound⟩ := Option.bind_eq_some_iff.1 hnamed
        obtain ⟨row, hrow, rfl⟩ := Option.map_eq_some_iff.1 hfound
        have hitem : checkItem env config register (.dict body) =
            checkBody env config id row body >>= fun fields => pure (id, fields) := by
          simp only [checkItem, hident, hnamed]
        -- the row that the update names is the one that was found
        have hrow' {id' : Id} {row' : Row} (hid : some id = some id')
            (hrow' : register.rows[id']? = some row') : row' = row := by
          cases hid
          exact Option.some.inj (hrow'.symm.trans hrow)
        by_cases hexpected : isExpected env row body = true
        · by_cases hfields : ∃ d, fieldsOf? body = .dict d
          · have hs := hsound hident fun _ _ _ _ _ => hfields
            obtain ⟨d, hd⟩ := hfields
            by_cases hvalid : validate config d true = []
            · exact .passed hs ⟨id, none, d⟩
                ⟨body, row, rfl, hident, hrow, hexpected, hd, hvalid, rfl⟩
            · -- 422: `_validate` has errors
              rw [checkBody_of_errors hexpected hd hvalid] at hitem
              exact .refused hs _ (by simp) hitem
          · refine .raised ?_ ?_
            · rintro ⟨body', heq, named, hnamed', hall⟩
              cases heq
              rw [hident] at hnamed'
              cases hnamed'
              exact hfields (hall id row rfl hrow hexpected)
            · push Not at hfields
              rw [hitem, checkBody, if_pos hexpected, validateJson_error hwritable hfields]
              rfl
        · -- 409: the row of the response is of the declared types, so it can be rendered
          have hconflict : checkBody env config id row body = .error (.conflict id) := by
            rw [checkBody, if_neg hexpected, if_pos (h id row hrow).shows_detail]
          rw [hconflict] at hitem
          refine .refused (hsound hident fun id' row' hid hstored hexpected' => ?_) _
            (by simp) hitem
          rw [hrow' hid hstored] at hexpected'
          exact absurd hexpected' hexpected
  · refine .raised ?_ ?_
    · rintro ⟨body, hbody, -⟩
      exact hdict ⟨body, hbody⟩
    · cases item with
      | dict body => exact absurd ⟨body, rfl⟩ hdict
      | null => rfl
      | bool value => rfl
      | int value => rfl
      | float text => rfl
      | str text => rfl
      | list items => rfl

/-- An item never fails the server exactly when it is sound. -/
theorem checkItem_ne_iff (h : WellTyped env config register)
    (hwritable : ∃ spec ∈ config.fields, spec.readOnly = false) {item : Json} :
    checkItem env config register item ≠ .error .serverError ↔ ItemSound env register item := by
  cases itemChecked h hwritable item with
  | raised hnot hitem => exact iff_of_false (fun hne => hne hitem) hnot
  | refused hsound e he hitem =>
    exact iff_of_true (fun heq => he (Except.error.inj (hitem.symm.trans heq))) hsound
  | passed hsound update hfits =>
    refine iff_of_true (fun heq => ?_) hsound
    rw [checkItem_of_fitting hfits] at heq
    cases heq

/-- The items that pass are those that fit. -/
theorem checkItem_eq_ok (h : WellTyped env config register)
    (hwritable : ∃ spec ∈ config.fields, spec.readOnly = false) {item : Json} {p : Id × Json} :
    checkItem env config register item = .ok p ↔
      ∃ update, Fitting env config register item update ∧ p = (update.id, .dict update.fields) := by
  constructor
  · intro hok
    -- Only an item that fits passes the checks.
    cases itemChecked h hwritable item with
    | raised hnot hitem =>
      rw [hitem] at hok
      cases hok
    | refused hsound e he hitem =>
      rw [hitem] at hok
      cases hok
    | passed hsound update hfits =>
      rw [checkItem_of_fitting hfits] at hok
      exact ⟨update, hfits, (Except.ok.inj hok).symm⟩
  · rintro ⟨update, hfits, rfl⟩
    exact checkItem_of_fitting hfits

/-- The elements that pass are planned as updates. -/
theorem forall₂_checkItem (h : WellTyped env config register)
    (hwritable : ∃ spec ∈ config.fields, spec.readOnly = false) {items : List Json}
    {planned : List (Id × Json)} :
    List.Forall₂ (fun item p => checkItem env config register item = .ok p) items planned ↔
      ∃ updates, List.Forall₂ (Fitting env config register) items updates ∧
        planned = updates.map fun u => (u.id, .dict u.fields) := by
  constructor
  · intro hitems
    -- Item by item, in the order of the request.
    induction hitems with
    | nil => exact ⟨[], .nil, rfl⟩
    | cons hitem _ ih =>
      obtain ⟨update, hfits, rfl⟩ := (checkItem_eq_ok h hwritable).1 hitem
      obtain ⟨updates, hupdates, rfl⟩ := ih
      exact ⟨update :: updates, .cons hfits hupdates, rfl⟩
  · rintro ⟨updates, hupdates, rfl⟩
    rw [List.forall₂_map_right_iff]
    exact hupdates.imp fun item update hfits => checkItem_of_fitting hfits

/-- Every fitting item is an update. -/
theorem mapM_planUpdate {items : List Json} {updates : List Update}
    (h : List.Forall₂ (Fitting env config register) items updates) :
    (updates.map fun u => (u.id, Json.dict u.fields)).mapM planUpdate = .ok updates := by
  rw [mapM_eq_ok, List.forall₂_map_left_iff]
  induction h with
  | nil => exact .nil
  | @cons item update _ _ hfits _ ih =>
    refine .cons ?_ ih
    obtain ⟨body, row, -, hfits⟩ := hfits
    change Except.ok (⟨update.id, none, update.fields⟩ : Update) = .ok update
    rw [← hfits.planned]

/-- What the flush of planned updates needs: the database takes it, every row is kept in its
    types, and the response can carry the rows. -/
structure FlushSound (env : Env) (config : RegisterConfig) (model : Model)
    (register : Register clock) (updates : List Update) : Prop where
  takes : model.Takes register (flushOrder updates)
  keeps : ∀ (k : Id) row, register.rows[k]? = some row →
    KeepsTypes env config model row (assigned updates k)
  shows : showsAll env config register updates = true

/-- The flush answers well exactly when every update can be written and shown. -/
theorem avoids_flush (h : WellTyped env config register) {updates : List Update} :
    Avoids .serverError (WellTyped env config)
        (answerFlush (showsAll env config register updates)
          (model.writeAll register (flushOrder updates))) ↔
      FlushSound env config model register updates := by
  cases hflush : model.writeAll register (flushOrder updates) with
  | error e =>
    -- `bulk_update` answers no exception of the flush
    refine iff_of_false (fun hne => hne rfl) fun hs => ?_
    obtain ⟨register', htakes⟩ := hs.takes
    rw [hflush] at htakes
    cases htakes
  | ok register' =>
    have hvalues (k : Id) : register'.values k =
        (register.values k).map fun values => model.effect values (assigned updates k) := by
      -- the flush writes the rows one by one, which comes to all that was assigned
      rw [writeAll_values hflush]
      congr 1
      funext values
      exact foldl_fieldsOf_flushOrder values k
    by_cases hshows : showsAll env config register updates = true
    · rw [answerFlush, if_pos hshows, avoids_ok, wellTyped_of_effects h hvalues]
      exact ⟨fun hkeeps => ⟨⟨register', hflush⟩, hkeeps, hshows⟩, fun hs => hs.keeps⟩
    · rw [answerFlush, if_neg hshows]
      exact iff_of_false (fun hne => hne rfl) fun hs => hshows hs.shows

/-- What a bulk request needs: no element of `updates` raises before one is refused, and if all
    of them pass, then they can be flushed. -/
def BulkSound (env : Env) (config : RegisterConfig) (model : Model) (register : Register clock)
    (role : String) (payload : JsonDict) : Prop :=
  checkPermission config .edit role = .ok () →
    ∃ items, iterate ((payload.get? "updates").getD (.list [])) = some items ∧
      (∀ pre item post, items = pre ++ item :: post →
        (∀ x ∈ pre, ∃ update, Fitting env config register x update) →
          ItemSound env register item) ∧
      ∀ updates, List.Forall₂ (Fitting env config register) items updates →
        FlushSound env config model register updates

/-- A bulk request answers well exactly when it is sound. -/
theorem avoids_bulkRoute (h : WellTyped env config register)
    (hwritable : ∃ spec ∈ config.fields, spec.readOnly = false) :
    Avoids .serverError (WellTyped env config)
        (bulkRoute env config model register role payload) ↔
      BulkSound env config model register role payload := by
  rw [bulkRoute, avoids_bind, avoids_checkPermission, BulkSound]
  refine imp_congr_right fun _ => ?_
  cases hitems : iterate ((payload.get? "updates").getD (.list [])) with
  | none =>
    refine iff_of_false (fun hne => hne rfl) ?_
    rintro ⟨items, hsome, -⟩
    cases hsome
  | some items =>
    -- the first loop checks every element, before the second one assigns anything
    simp only [Option.some.injEq, exists_eq_left']
    rw [avoids_bind, avoids_mapM]
    refine and_congr ?_ ?_
    · have hpasses (x : Json) : (∃ p, checkItem env config register x = .ok p) ↔
          ∃ update, Fitting env config register x update := by
        constructor
        · rintro ⟨p, hp⟩
          obtain ⟨update, hfits, -⟩ := (checkItem_eq_ok h hwritable).1 hp
          exact ⟨update, hfits⟩
        · rintro ⟨update, hfits⟩
          exact ⟨_, checkItem_of_fitting hfits⟩
      simp only [hpasses, checkItem_ne_iff h hwritable]
    · simp only [forall₂_checkItem h hwritable]
      constructor
      · intro hroute updates hupdates
        have hflush := hroute _ ⟨updates, hupdates, rfl⟩
        rw [mapM_planUpdate hupdates] at hflush
        exact (avoids_flush h).1 hflush
      · rintro hsound planned ⟨updates, hupdates, rfl⟩
        rw [mapM_planUpdate hupdates]
        exact (avoids_flush h).2 (hsound updates hupdates)

/-! ## Requests -/

/-- What a body needs: that it is an object which the route can answer, or that the error for
    any other value can carry it. -/
def BodySound (env : Env) (body : Json) (sound : JsonDict → Prop) : Prop :=
  match body with
  | .dict payload => sound payload
  | body => env.rendersDetail body = true

/-- What a request needs in the state in which it arrives. -/
def Request.Sound (env : Env) (config : RegisterConfig) (model : Model)
    (register : Register clock) (request : Request) : Prop :=
  match request.action with
  | .create newId body => config.creatable = true →
      BodySound env body (CreateSound env config model register request.role newId)
  | .patch id body => BodySound env body (PatchSound env config model register request.role id)
  | .bulk body => config.bulkEnabled = true →
      BodySound env body (BulkSound env config model register request.role)

/-- A request is refused with an error of the client and leaves all rows unchanged, or all
    values are of their types afterwards. -/
def Answered (env : Env) (config : RegisterConfig) (model : Model) (register : Register clock)
    (request : Request) : Prop :=
  (∃ denial, respond env config model register request = .error denial ∧
    400 ≤ denial.status ∧ denial.status < 500 ∧
    afterRequest env config model register request = register) ∨
  ∃ written, respond env config model register request = .ok written ∧
    WellTyped env config written

/-- Every denial but the server's own failure is the client's. -/
theorem Denial.status_iff {denial : Denial} :
    400 ≤ denial.status ∧ denial.status < 500 ↔ denial ≠ .route .serverError := by
  cases denial with
  | methodNotAllowed => simp [Denial.status]
  | invalidBody => simp [Denial.status]
  | route refusal =>
    constructor
    · rintro h heq
      cases heq
      exact absurd h.2 (by decide)
    · exact fun hne => status_of_ne fun heq => hne (heq ▸ rfl)

/-- To be answered is to avoid a failure of the server. -/
theorem answered_iff_avoids {request : Request} :
    Answered env config model register request ↔
      Avoids (.route .serverError) (WellTyped env config)
        (respond env config model register request) := by
  cases hrespond : respond env config model register request with
  | ok written => simp [Answered, hrespond]
  | error denial => simp [Answered, afterRequest, hrespond, ← Denial.status_iff]

/-- A body that is no object is refused before the route sees it. -/
theorem avoids_withPayload {α : Type} {P : α → Prop} {body : Json}
    {route : JsonDict → Except Refusal α} :
    Avoids (.route .serverError) P (withPayload env body route) ↔
      BodySound env body fun payload => Avoids .serverError P (route payload) := by
  have hother (h : withPayload env body route =
      if env.rendersDetail body then .error .invalidBody else .error (.route .serverError)) :
      Avoids (.route .serverError) P (withPayload env body route) ↔
        env.rendersDetail body = true := by
    rw [h]
    split
    · next hrenders => exact iff_of_true (by simp) hrenders
    · next hrenders => exact iff_of_false (fun hne => hne rfl) hrenders
  -- Every value but an object is refused with the same answer.
  cases body with
  | dict payload =>
    change Avoids _ P ((route payload).mapError Denial.route) ↔ Avoids _ P (route payload)
    cases route payload with
    | ok a => exact Iff.rfl
    | error e => simp [Except.mapError]
  | null => exact hother rfl
  | bool value => exact hother rfl
  | int value => exact hother rfl
  | float text => exact hother rfl
  | str text => exact hother rfl
  | list items => exact hother rfl

/-- Bodies are as sound as their payloads. -/
theorem bodySound_congr {body : Json} {sound sound' : JsonDict → Prop}
    (h : ∀ payload, sound payload ↔ sound' payload) :
    BodySound env body sound ↔ BodySound env body sound' := by
  have heq : sound = sound' := funext fun payload => propext (h payload)
  rw [heq]

/-- A register that takes bulk requests has fields that may be written. -/
theorem writable_of_bulkEnabled : ∀ config ∈ registerConfigs, config.bulkEnabled = true →
    ∃ spec ∈ config.fields, spec.readOnly = false := by
  decide

/-- A request to a well-typed register is answered well exactly if it is sound. -/
theorem answered_iff {request : Request} (hconfig : config ∈ registerConfigs)
    (h : WellTyped env config register) :
    Answered env config model register request ↔
      request.Sound env config model register := by
  rw [answered_iff_avoids, respond, Request.Sound]
  -- One lemma for each route.
  cases request.action with
  | create newId body =>
    simp only
    split
    · next hcreatable =>
      rw [avoids_withPayload]
      simp only [hcreatable, forall_const]
      exact bodySound_congr fun payload => avoids_createRoute h
    · next hcreatable => exact iff_of_true (by simp) fun hc => absurd hc hcreatable
  | patch id body =>
    rw [avoids_withPayload]
    exact bodySound_congr fun payload => avoids_updateRoute h
  | bulk body =>
    simp only
    split
    · next hbulk =>
      rw [avoids_withPayload]
      simp only [hbulk, forall_const]
      exact bodySound_congr fun payload =>
        avoids_bulkRoute h (writable_of_bulkEnabled config hconfig hbulk)
    · next hbulk => exact iff_of_true (by simp) fun hb => absurd hb hbulk

/-- A request that is answered leaves the register well typed. -/
theorem Answered.wellTyped {request : Request} (h : WellTyped env config register)
    (hanswered : Answered env config model register request) :
    WellTyped env config (afterRequest env config model register request) := by
  rcases hanswered with ⟨denial, -, -, -, hsame⟩ | ⟨written, hrespond, htyped⟩
  · rw [hsame]
    exact h
  · rw [afterRequest, hrespond]
    exact htyped

/-- Each of the requests, sent one after another, is answered well. -/
def AllAnswered (env : Env) (config : RegisterConfig) (model : Model) :
    Register clock → List Request → Prop
  | _, [] => True
  | register, request :: requests => Answered env config model register request ∧
      AllAnswered env config model (afterRequest env config model register request) requests

/-- Each of the requests is sound in the state in which it arrives. -/
def AllSound (env : Env) (config : RegisterConfig) (model : Model) :
    Register clock → List Request → Prop
  | _, [] => True
  | register, request :: requests => request.Sound env config model register ∧
      AllSound env config model (afterRequest env config model register request) requests

/-- The requests to a register whose values are of their types are all answered well, and leave
    it so, if and only if each of them is sound. -/
theorem registers_typed_iff (hconfig : config ∈ registerConfigs)
    (h : WellTyped env config register) (requests : List Request) :
    AllAnswered env config model register requests ↔
      AllSound env config model register requests := by
  -- the condition is on the state in which a request arrives, so the induction is over the register
  induction requests generalizing register with
  | nil => exact Iff.rfl
  | cons request requests ih =>
    rw [AllAnswered, AllSound, ← answered_iff hconfig h]
    exact and_congr_right fun hanswered => ih (hanswered.wellTyped h)

/-! ## A text for an interval -/

/-- An environment in which texts of numbers are times and ids. -/
def plainEnv : Env where
  iso := toString
  str _ := ""
  ident
    | .str "1" => some (some 1)
    | _ => some none
  rendersResult _ := true
  rendersDetail _ := true

/-- An integer that fits a column of SQLite. -/
def isInt64 (n : Int) : Bool :=
  decide (-9223372036854775808 ≤ n ∧ n < 9223372036854775808)

/-- A numeral of decimal digits, which may end in a point and zeros. -/
def readDigits (cs : List Char) : Option Int :=
  let digits := cs.takeWhile Char.isDigit
  let rest := cs.drop digits.length
  if digits ≠ [] ∧ (rest = [] ∨ rest.head? = some '.' ∧ rest.tail.all fun c => c = '0') then
    some (digits.foldl (fun (n : Int) c => 10 * n + (c.toNat - 48 : Nat)) 0)
  else none

/-- The same with a sign and with blanks around it. -/
def readNumeral (text : String) : Option Int :=
  let cs := strip text.toList
  let value := match cs with
    | '-' :: cs => (readDigits cs).map fun n => -n
    | '+' :: cs => readDigits cs
    | cs => readDigits cs
  value.filter isInt64

example : ["1.0", "-5", " 8", "1.5", "abc"].map readNumeral =
    [some 1, some (-5), some 8, none, none] := by
  decide +kernel

/-- What SQLite stores in an `INTEGER` column: numerals of integers become integers. Texts that
    SQLite reads as other numbers, with fractions, exponents or more than 64 bits, are left as
    they are here. -/
def integerAffinity : Json → Option Json
  | .bool value => some (.int (if value then 1 else 0))
  | .int n => if isInt64 n then some (.int n) else none
  | .float text => some ((readNumeral text).elim (.float text) .int)
  | .str text => some ((readNumeral text).elim (.str text) .int)
  | .list _ | .dict _ => none
  | value => some value

/-- What SQLite stores in a `VARCHAR` or `TEXT` column: numbers become texts. -/
def textAffinity : Json → Option Json
  | .bool value => some (.str (if value then "1" else "0"))
  | .int n => if isInt64 n then some (.str (toString n)) else none
  | .float text => some (.str text)
  | .list _ | .dict _ => none
  | value => some value

/-- `value == value'`, for texts, integers and `None`. -/
def sameScalar : Json → Json → Bool
  | .str text, .str text' => text = text'
  | .int n, .int n' => n = n'
  | .null, .null => true
  | _, _ => false

/-- `internal_controls` in SQLite. -/
def internalControls : Model where
  same := sameScalar
  bind column := if column = "cadence_interval_months" then integerAffinity else textAffinity
  admits values :=
    ["name", "description", "owner", "status", "review_frequency"].all
        (fun column => !sameScalar (values column) .null) &&
      (.null :: cadenceTypes.map Json.str).any (sameScalar (values "cadence_type")) &&
      match values "cadence_interval_months" with
      | .int months => 0 < months
      | _ => true
  conflict _ _ := false

/-- A control whose cadence is the calendar. -/
def controlRow : Row where
  values column := (JsonDict.get? [("name", .str "Access review"), ("description", .str ""),
    ("owner", .str ""), ("status", .str "implemented"), ("review_frequency", .str "annual"),
    ("cadence_type", .str "calendar")] column).getD .null
  updatedAt := 0

/-- The control, updated at the first reading of the clock. -/
def oneControl : Register counter where
  rows := (∅ : Table Row).insert 1 controlRow
  ticks := 1
  past := Table.forall_of_toList (p := fun _ (row : Row) => row.updatedAt < 1) (by decide)

/-- A `PATCH` of the interval of the control. -/
def patchInterval (value : Json) : Request where
  role := "operator"
  action := .patch 1 (.dict [("expected_updated_at", .str "0"),
    ("fields", .dict [("cadence_interval_months", value)])])

/-- Any value renders, so a stored value of a field but the interval only has to conform. -/
theorem typed_plainEnv {stored : Json} (hconforms : spec.Conforms stored)
    (hname : spec.name ≠ "cadence_interval_months") : spec.Typed plainEnv stored :=
  ⟨hconforms, rfl, rfl, fun h => absurd h hname⟩

/-- The interval of a control. -/
def intervalSpec : FieldSpec := { name := "cadence_interval_months", type := .number }

/-- The interval is a field of the controls register. -/
theorem intervalSpec_mem : intervalSpec ∈ controlsRegisterConfig.fields := by
  simp [controlsRegisterConfig, intervalSpec]

/-- A whole number is a number for the field. -/
theorem typed_months {months : Int} (htype : spec.type = .number) :
    spec.Typed plainEnv (.int months) := by
  refine ⟨htype, rfl, rfl, fun _ => ?_⟩
  unfold occurrenceInterval
  split
  · exact ⟨none, rfl⟩
  · exact ⟨_, rfl⟩

/-- The sample control is well typed. -/
theorem wellTyped_oneControl : WellTyped plainEnv controlsRegisterConfig oneControl := by
  intro k row hrow
  obtain rfl : controlRow = row := by
    change ((∅ : Table Row).insert 1 controlRow)[k]? = some row at hrow
    rw [Table.get_insert] at hrow
    split at hrow
    · exact Option.some.inj hrow
    · exact absurd hrow Table.not_get_empty
  simp only [ValuesTyped, controlsRegisterConfig, List.forall_mem_cons, List.not_mem_nil,
    IsEmpty.forall_iff, implies_true, and_true, forall_const]
  refine ⟨typed_plainEnv ?_ (by decide), typed_plainEnv ?_ (by decide),
    typed_plainEnv ?_ (by decide), typed_plainEnv ?_ (by decide), typed_plainEnv ?_ (by decide),
    typed_plainEnv ?_ (by decide), ⟨trivial, rfl, rfl, fun _ => ⟨none, rfl⟩⟩, by simp⟩
  all_goals simp [FieldSpec.Conforms, controlRow, JsonDict.get?]
  all_goals decide

/-- The interval is changed to three months. -/
theorem registers_typed_quarterly :
    AllAnswered plainEnv controlsRegisterConfig internalControls oneControl
      [patchInterval (.int 3)] := by
  refine (registers_typed_iff (by simp [registerConfigs]) wellTyped_oneControl _).2 ⟨?_, trivial⟩
  intro _ row hrow _
  obtain rfl : controlRow = row := Option.some.inj hrow
  intro _
  refine ⟨by decide, fun _ => ⟨fun spec hspec _ value stored hchange hbind => ?_, rfl⟩⟩
  by_cases hname : spec.name = "cadence_interval_months"
  · have htype : ∀ spec ∈ controlsRegisterConfig.fields,
        spec.name = "cadence_interval_months" → spec.type = .number := by decide
    rw [hname] at hchange hbind
    cases hchange
    cases hbind
    exact typed_months (htype spec hspec hname)
  · -- the other fields are not given
    have hnone : JsonDict.get? [("cadence_interval_months", .int 3)] spec.name = none := by
      rw [JsonDict.get?_cons_ne (Ne.symm hname)]
      rfl
    change (JsonDict.get? [("cadence_interval_months", .int 3)] spec.name).filter _ =
      some value at hchange
    rw [hnone] at hchange
    cases hchange

/-- A text is stored as the interval, of which `generate_occurrences` raises a `TypeError`. -/
theorem interval_not_typed :
    ¬ ∀ config ∈ registerConfigs, ∀ (model : Model) (register : Register counter),
      WellTyped plainEnv config register → ∀ request,
        Answered plainEnv config model register request := by
  intro h
  have hanswered := h controlsRegisterConfig (by simp [registerConfigs]) internalControls
    oneControl wellTyped_oneControl (patchInterval (.str "abc"))
  obtain ⟨written, hrespond, row, hrow, hvalue⟩ : ∃ written,
      respond plainEnv controlsRegisterConfig internalControls oneControl
        (patchInterval (.str "abc")) = .ok written ∧
      ∃ row, written.rows[(1 : Id)]? = some row ∧
        row.values "cadence_interval_months" = .str "abc" := ⟨_, rfl, _, rfl, rfl⟩
  -- Neither a denial nor a number: the interval is written as it came.
  rcases hanswered with ⟨denial, herror, -⟩ | ⟨written', hok, htyped⟩
  · rw [hrespond] at herror
    cases herror
  · rw [hrespond] at hok
    cases hok
    have hinterval := htyped 1 row hrow intervalSpec intervalSpec_mem rfl
    rw [intervalSpec, hvalue] at hinterval
    obtain ⟨months, hmonths⟩ := hinterval.interval rfl
    cases hmonths

end MiniGrc.Registers
