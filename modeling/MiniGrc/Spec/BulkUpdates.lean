import MiniGrc.App.RegisterConfigs
import MiniGrc.ForStd.Except
import MiniGrc.ForStd.List

/-!
# Bulk updates

When a bulk request means the same as its updates sent as `PATCH` requests.

## Key results

- `effect_merged`: the fields of several updates of a row, of which only the last changes it
- `writeAll_values`: the rows after several flushes
- `updateRows_iff`: when the requests of updates that fit the table are accepted
- `bulk_agrees_iff`: when a bulk request agrees with the requests
-/

namespace MiniGrc.Registers

variable {clock : UpdateClock} {config : RegisterConfig} {model : Model}
  {register register' : Register clock} {role : String} {id k : Id} {row : Row}
  {fields d d' : JsonDict} {column : String}

/-! ## Fields -/

/-- The value of a column is the last one set, if one is. -/
theorem get?_setattrs : (setattrs d fields).get? column =
    ((setattrs [] fields).get? column).or (d.get? column) := by
  suffices h : ∀ d : JsonDict, (setattrs d fields).get? column =
      ((fields.reverse.find? fun field => field.1 = column).map Prod.snd).or (d.get? column) by
    rw [h, h []]
    simp [JsonDict.get?]
  intro d
  -- Field by field: a later one of the same column wins.
  induction fields generalizing d with
  | nil => rfl
  | cons field fields ih =>
    rw [setattrs, List.foldl_cons, ← setattrs, ih, JsonDict.get?_set, List.reverse_cons,
      List.find?_append]
    cases fields.reverse.find? fun field => decide (field.1 = column) with
    | some found => rfl
    | none =>
      by_cases h : field.1 = column
      · simp [h]
      · simp [h]

/-- The fields of several updates in turn. -/
theorem get?_foldl_setattrs (ds : List JsonDict) : (ds.foldl setattrs d).get? column =
    ((ds.foldl setattrs []).get? column).or (d.get? column) := by
  induction ds generalizing d with
  | nil => rfl
  | cons d' ds ih =>
    rw [List.foldl_cons, ih, List.foldl_cons, ih (d := setattrs [] d'), get?_setattrs,
      Option.or_assoc]

/-! ## What an update does to the values of a row -/

/-- The values of a row after an `UPDATE`. -/
def Model.effect (model : Model) (values : String → Json) (assigned : JsonDict) : String → Json :=
  model.updated ⟨values, 0⟩ assigned

/-- Assigning the fields changes no column of the row. -/
def Model.Keeps (model : Model) (values : String → Json) (assigned : JsonDict) : Prop :=
  ∀ column, model.change ⟨values, 0⟩ assigned column = none

/-- Nothing is changed when every value is kept. -/
theorem changed_eq_nil : model.changed row d = [] ↔ model.Keeps row.values d := by
  rw [Model.changed, List.filter_eq_nil_iff]
  constructor
  · intro h column
    by_cases hmem : column ∈ d.map Prod.fst
    · exact Option.not_isSome_iff_eq_none.1 (h column hmem)
    · have hget : d.get? column = none := by
        rw [JsonDict.get?, Option.map_eq_none_iff, List.find?_eq_none]
        intro field hfield hf
        exact hmem (List.mem_map.2 ⟨field, hfield, of_decide_eq_true hf⟩)
      rw [Model.change, hget]
      rfl
  · intro h column _ hsome
    have hnone : model.change row d column = none := h column
    rw [hnone] at hsome
    cases hsome

/-- Values that are kept have no effect. -/
theorem Model.Keeps.effect_eq {values : String → Json} (h : model.Keeps values d) :
    model.effect values d = values := by
  funext column
  rw [Model.effect, Model.updated, h column]
  rfl

/-- The same changes have the same effect. -/
theorem effect_congr {values : String → Json}
    (h : ∀ column, model.change ⟨values, 0⟩ d column = model.change ⟨values, 0⟩ d' column) :
    model.effect values d = model.effect values d' := by
  funext column
  simp only [Model.effect, Model.updated, h column]

/-- Fields that change nothing may be assigned before others. -/
theorem Model.Keeps.change_setattrs {values : String → Json} (h : model.Keeps values d)
    (ds : List JsonDict) (column : String) :
    model.change ⟨values, 0⟩ (ds.foldl setattrs d) column =
      model.change ⟨values, 0⟩ (ds.foldl setattrs []) column := by
  have hd := h column
  rw [Model.change] at hd ⊢
  rw [get?_foldl_setattrs, Model.change]
  cases (ds.foldl setattrs []).get? column with
  | some value => rfl
  | none => rw [Option.none_or, hd]; rfl

/-- If only the last of several updates of a row changes it, they change it as their fields
    do together. -/
theorem effect_merged {values : String → Json} (ds : List JsonDict)
    (h : ds.Pairwise fun d _ => model.Keeps values (setattrs [] d)) :
    (ds.map (setattrs [])).foldl model.effect values =
      model.effect values (ds.foldl setattrs []) := by
  induction ds with
  | nil => exact (Model.Keeps.effect_eq fun column => rfl).symm
  | cons d ds ih =>
    rw [List.pairwise_cons] at h
    rw [List.map_cons, List.foldl_cons, List.foldl_cons]
    cases ds with
    | nil => rfl
    -- as others follow, the first fields change nothing
    | cons d' ds =>
      have hd := h.1 d' List.mem_cons_self
      rw [hd.effect_eq, ih h.2]
      exact (effect_congr fun column => hd.change_setattrs (d' :: ds) column).symm

/-! ## Flushes -/

/-- A flush that succeeds leaves the table as it is, or writes the row that it changes. -/
theorem write_cases (h : model.write register id d = .ok register') :
    register' = register ∧ (∀ row, register.rows[id]? = some row → model.Keeps row.values d) ∨
      ∃ row, register.rows[id]? = some row ∧ ¬ model.Keeps row.values d ∧
        register'.rows = register.rows.insert id
          ⟨model.effect row.values d, clock.reading register.ticks⟩ ∧
        register'.ticks = register.ticks + 1 := by
  unfold Model.write at h
  -- A row that is missing and values that are kept are not written.
  split at h
  · next hrow =>
    cases h
    exact .inl ⟨rfl, fun row hrow' => by rw [hrow] at hrow'; cases hrow'⟩
  · next row hrow =>
    split at h
    · next hchanged =>
      cases h
      refine .inl ⟨rfl, fun row' hrow' => ?_⟩
      rw [hrow] at hrow'
      cases hrow'
      exact changed_eq_nil.1 hchanged
    · next hchanged =>
      split at h
      · cases h
      · split at h
        · cases h
          exact .inr ⟨row, hrow, fun hkeeps => hchanged (changed_eq_nil.2 hkeeps), rfl, rfl⟩
        · cases h

/-- A flush of a row leaves the other rows alone, and its own if no column changes. -/
theorem write_row (h : model.write register id d = .ok register')
    (hk : k = id → ∀ row, register.rows[id]? = some row → model.Keeps row.values d) :
    register'.rows[k]? = register.rows[k]? := by
  rcases write_cases h with ⟨rfl, -⟩ | ⟨row, hrow, hchanges, hrows, -⟩
  · rfl
  · have hne : id ≠ k := fun heq => hchanges (hk heq.symm row hrow)
    rw [hrows, Table.get_insert_ne hne]

/-- The values of a row. -/
def Register.values (register : Register clock) (k : Id) : Option (String → Json) :=
  (register.rows[k]?).map Row.values

/-- A flush changes the values of its row. -/
theorem write_values (h : model.write register id d = .ok register') (k : Id) :
    register'.values k =
      (register.values k).map fun values => if id = k then model.effect values d else values := by
  simp only [Register.values]
  by_cases hk : id = k
  · subst hk
    simp only [if_true]
    rcases write_cases h with ⟨rfl, hkeeps⟩ | ⟨row, hrow, -, hrows, -⟩
    · cases hrow : register'.rows[id]? with
      | none => rfl
      | some row => exact congrArg some (hkeeps row hrow).effect_eq.symm
    · rw [hrows, Table.get_insert_self, hrow]
      rfl
  · simp only [hk, if_false]
    rw [write_row h fun heq => absurd heq.symm hk, Option.map_map]
    rfl

/-- The fields that a list of writes has for a row, in turn. -/
def fieldsOf (writes : List (Id × JsonDict)) (k : Id) : List JsonDict :=
  (writes.filter fun w => w.1 = k).map Prod.snd

/-- Flushes in turn change the values of each row by the fields that they have for it. -/
theorem writeAll_values {writes : List (Id × JsonDict)}
    (h : model.writeAll register writes = .ok register') (k : Id) :
    register'.values k =
      (register.values k).map fun values => (fieldsOf writes k).foldl model.effect values := by
  -- on the writes, over the table that the ones before have left
  induction writes generalizing register with
  | nil =>
    cases h
    exact (Option.map_id' ..).symm
  | cons w writes ih =>
    obtain ⟨register₁, hw, hrest⟩ := Except.foldlM_cons_eq_ok.1 h
    rw [ih hrest, write_values hw, Option.map_map]
    congr 1
    funext values
    by_cases hk : w.1 = k
    · simp [fieldsOf, hk]
    · simp [fieldsOf, hk]

/-- A flush never takes a row back. -/
theorem write_updatedAt (h : model.write register id d = .ok register')
    (hrow : register'.rows[k]? = some row) :
    ∃ row₀, register.rows[k]? = some row₀ ∧ row₀.updatedAt ≤ row.updatedAt := by
  rcases write_cases h with ⟨rfl, -⟩ | ⟨row₀, hrow₀, -, hrows, -⟩
  · exact ⟨row, hrow, le_rfl⟩
  · rw [hrows] at hrow
    rcases Table.of_get_insert hrow with ⟨rfl, rfl⟩ | hrow
    · exact ⟨row₀, hrow₀, (register.past _ _ hrow₀).le⟩
    · exact ⟨row, hrow, le_rfl⟩

/-! ## One request after another -/

/-- The update names a row, carries its `updated_at` and passes `_validate`. -/
structure Fits (config : RegisterConfig) (register : Register clock) (update : Update) : Prop where
  exists_row : ∃ row, register.rows[update.id]? = some row ∧
    update.expectedUpdatedAt = some row.updatedAt
  valid : validate config update.fields true = []

/-- What an update sets. -/
def Update.write (update : Update) : Id × JsonDict := (update.id, setattrs [] update.fields)

/-- The update changes its row. -/
def Changes (model : Model) (register : Register clock) (update : Update) : Prop :=
  ∃ row, register.rows[update.id]? = some row ∧
    ¬ model.Keeps row.values (setattrs [] update.fields)

/-- The updates fit the table in turn, each as the ones before it leave the table, and the
    database accepts each of them. -/
def InTurn (config : RegisterConfig) (model : Model) (register : Register clock) :
    List Update → Prop
  | [] => True
  | update :: updates => Fits config register update ∧
      ∃ register', model.write register update.write.1 update.write.2 = .ok register' ∧
        InTurn config model register' updates

/-- The database accepts the writes in turn. -/
def Model.Takes (model : Model) (register : Register clock) (writes : List (Id × JsonDict)) :
    Prop :=
  ∃ register', model.writeAll register writes = .ok register'

variable {update : Update} {updates : List Update} {missing : String}

/-- A row passes when its version is the expected one and the fields are valid. -/
theorem checkRow_eq_ok : checkRow config row update = .ok () ↔
    update.expectedUpdatedAt = some row.updatedAt ∧ validate config update.fields true = [] := by
  unfold checkRow
  constructor
  · intro h
    split at h
    · cases h
    · next hexpected =>
      split at h
      · cases h
      · next hvalid => exact ⟨not_not.1 hexpected, not_not.1 hvalid⟩
  · rintro ⟨hexpected, hvalid⟩
    simp [hexpected, hvalid]

/-- An update passes when it fits. -/
theorem checkUpdate_eq_ok :
    checkUpdate config register missing update = .ok () ↔ Fits config register update := by
  unfold checkUpdate
  constructor
  · intro h
    split at h
    · cases h
    · next row hrow =>
      obtain ⟨hexpected, hvalid⟩ := checkRow_eq_ok.1 h
      exact ⟨⟨row, hrow, hexpected⟩, hvalid⟩
  · rintro ⟨⟨row, hrow, hexpected⟩, hvalid⟩
    rw [hrow]
    exact checkRow_eq_ok.2 ⟨hexpected, hvalid⟩

/-- Every refusal but an exception that no route handles is an answer to the client. -/
theorem status_of_ne {e : Refusal} (h : e ≠ .serverError) : 400 ≤ e.status ∧ e.status < 500 := by
  cases e with
  | forbidden _ => simp [Refusal.status]
  | notFound _ => simp [Refusal.status]
  | conflict _ => simp [Refusal.status]
  | unprocessable _ => simp [Refusal.status]
  | serverError => exact absurd rfl h

/-- The check of an update never fails the server. -/
theorem checkUpdate_ne : checkUpdate config register missing update ≠ .error .serverError := by
  intro h
  unfold checkUpdate checkRow at h
  split at h
  · cases h
  · split at h
    · cases h
    · split at h
      · cases h
      · cases h

/-- The check of a permission never fails the server. -/
theorem checkPermission_ne {action : RegisterAction} :
    checkPermission config action role ≠ .error .serverError := by
  intro h
  unfold checkPermission at h
  split at h
  · cases h
  · split at h
    · cases h
    · cases h

/-- A `PATCH` is accepted if the user may write, the update fits and the database accepts it. -/
theorem updateRow_eq_ok : updateRow config model register role update = .ok register' ↔
    checkPermission config .edit role = .ok () ∧ Fits config register update ∧
      model.write register update.write.1 update.write.2 = .ok register' := by
  unfold updateRow
  rw [Except.bind_eq_ok]
  -- Permission, row and fields are checked before the write.
  constructor
  · rintro ⟨⟨⟩, hperm, h⟩
    obtain ⟨⟨⟩, hcheck, h⟩ := Except.bind_eq_ok.1 h
    refine ⟨hperm, checkUpdate_eq_ok.1 hcheck, ?_⟩
    simp only [Update.write]
    split at h
    · next r hr =>
      cases h
      exact hr
    · cases h
    · cases h
  · rintro ⟨hperm, hfits, hwrite⟩
    refine ⟨(), hperm, Except.bind_eq_ok.2 ⟨(), checkUpdate_eq_ok.2 hfits, ?_⟩⟩
    simp only [Update.write] at hwrite
    rw [hwrite]
    rfl

/-- A bulk request is accepted if the user may write, all updates fit the table as it is and
    the database accepts the rows in the order of the flush. -/
theorem bulkUpdate_eq_ok : bulkUpdate config model register role updates = .ok register' ↔
    checkPermission config .edit role = .ok () ∧ (∀ u ∈ updates, Fits config register u) ∧
      model.writeAll register (flushOrder updates) = .ok register' := by
  unfold bulkUpdate
  rw [Except.bind_eq_ok]
  constructor
  · rintro ⟨⟨⟩, hperm, h⟩
    obtain ⟨⟨⟩, hcheck, h⟩ := Except.bind_eq_ok.1 h
    refine ⟨hperm, fun u hu => checkUpdate_eq_ok.1 (Except.forM_eq_ok.1 hcheck u hu), ?_⟩
    split at h
    · next r hr =>
      cases h
      exact hr
    · cases h
  · rintro ⟨hperm, hfits, hwrite⟩
    have hcheck : (updates.forM fun u =>
        checkUpdate config register ("Row " ++ toString u.id ++ " not found") u) = .ok () :=
      Except.forM_eq_ok.2 fun u hu => checkUpdate_eq_ok.2 (hfits u hu)
    refine ⟨(), hperm, Except.bind_eq_ok.2 ⟨(), hcheck, ?_⟩⟩
    rw [hwrite]
    rfl

/-- The only exception of a bulk request comes from its flush. -/
theorem bulkUpdate_eq_serverError :
    bulkUpdate config model register role updates = .error .serverError ↔
      checkPermission config .edit role = .ok () ∧ (∀ u ∈ updates, Fits config register u) ∧
        ¬ model.Takes register (flushOrder updates) := by
  unfold bulkUpdate
  rw [Except.bind_eq_error]
  constructor
  · rintro (h | ⟨⟨⟩, hperm, h⟩)
    · exact absurd h checkPermission_ne
    · rcases Except.bind_eq_error.1 h with h | ⟨⟨⟩, hcheck, h⟩
      · obtain ⟨u, -, hu⟩ := Except.exists_of_forM_eq_error h
        exact absurd hu checkUpdate_ne
      · refine ⟨hperm, fun u hu => checkUpdate_eq_ok.1 (Except.forM_eq_ok.1 hcheck u hu), ?_⟩
        rintro ⟨r, hr⟩
        rw [hr] at h
        cases h
  · rintro ⟨hperm, hfits, htakes⟩
    have hcheck : (updates.forM fun u =>
        checkUpdate config register ("Row " ++ toString u.id ++ " not found") u) = .ok () :=
      Except.forM_eq_ok.2 fun u hu => checkUpdate_eq_ok.2 (hfits u hu)
    refine .inr ⟨(), hperm, Except.bind_eq_error.2 (.inr ⟨(), hcheck, ?_⟩)⟩
    cases hr : model.writeAll register (flushOrder updates) with
    | ok r => exact absurd ⟨r, hr⟩ htakes
    | error e => rfl

/-- Updates one by one write what they say, in their order. -/
theorem updateRows_eq_ok : updateRows config model register role updates = .ok register' →
    model.writeAll register (updates.map Update.write) = .ok register' := by
  induction updates generalizing register with
  | nil =>
    intro h
    cases h
    rfl
  | cons u us ih =>
    intro h
    obtain ⟨register₁, hu, hus⟩ := Except.foldlM_cons_eq_ok.1 h
    exact Except.foldlM_cons_eq_ok.2 ⟨register₁, (updateRow_eq_ok.1 hu).2.2, ih hus⟩

/-- The requests are accepted if there is none, or if the user may write and they fit in turn. -/
theorem updateRows_iff :
    (∃ register', updateRows config model register role updates = .ok register') ↔
    updates = [] ∨ checkPermission config .edit role = .ok () ∧
      InTurn config model register updates := by
  induction updates generalizing register with
  | nil => exact ⟨fun _ => .inl rfl, fun _ => ⟨register, rfl⟩⟩
  | cons u us ih =>
    constructor
    · rintro ⟨register', h⟩
      obtain ⟨register₁, hu, hus⟩ := Except.foldlM_cons_eq_ok.1 h
      obtain ⟨hperm, hfits, hwrite⟩ := updateRow_eq_ok.1 hu
      refine .inr ⟨hperm, hfits, register₁, hwrite, ?_⟩
      -- with no request left, nothing has to fit
      rcases ih.1 ⟨register', hus⟩ with rfl | ⟨-, hturn⟩
      · trivial
      · exact hturn
    · rintro (h | ⟨hperm, hfits, register₁, hwrite, hturn⟩)
      · cases h
      · obtain ⟨register', hus⟩ := ih.2 (.inr ⟨hperm, hturn⟩)
        exact ⟨register', Except.foldlM_cons_eq_ok.2
          ⟨register₁, updateRow_eq_ok.2 ⟨hperm, hfits, hwrite⟩, hus⟩⟩

/-! ## Updates that fit the table as it is -/

/-- An update fits a row that is the same. -/
theorem Fits.congr (h : register'.rows[update.id]? = register.rows[update.id]?)
    (hfits : Fits config register update) : Fits config register' update :=
  ⟨by rw [h]; exact hfits.exists_row, hfits.valid⟩

/-- An update changes a row that is the same. -/
theorem changes_congr (h : register'.rows[update.id]? = register.rows[update.id]?) :
    Changes model register' update ↔ Changes model register update := by
  rw [Changes, Changes, h]

/-- Requests that are accepted in turn expect no time before the `updated_at` of their rows. -/
theorem InTurn.expected (h : InTurn config model register updates) (hmem : update ∈ updates) :
    ∃ row, register.rows[update.id]? = some row ∧
      ∃ t, update.expectedUpdatedAt = some t ∧ row.updatedAt ≤ t := by
  induction updates generalizing register with
  | nil => cases hmem
  | cons u us ih =>
    obtain ⟨hfits, register₁, hwrite, hturn⟩ := h
    rcases List.mem_cons.1 hmem with rfl | hmem
    · obtain ⟨row, hrow, hexpected⟩ := hfits.exists_row
      exact ⟨row, hrow, row.updatedAt, hexpected, le_rfl⟩
    · obtain ⟨row₁, hrow₁, t, ht, hle⟩ := ih hturn hmem
      obtain ⟨row, hrow, hle₁⟩ := write_updatedAt hwrite hrow₁
      exact ⟨row, hrow, t, ht, hle₁.trans hle⟩

/-- After a request that changes its row, no other that fitted the same row fits in turn. -/
theorem InTurn.not_changes {u : Update}
    (hwrite : model.write register u.write.1 u.write.2 = .ok register')
    (hturn : InTurn config model register' updates) (hmem : update ∈ updates)
    (hfits : Fits config register update) (hid : u.id = update.id) :
    ¬ Changes model register u := by
  rintro ⟨row, hrow, hchanges⟩
  rcases write_cases hwrite with ⟨-, hkeeps⟩ | ⟨_, _, _, hrows, _⟩
  · exact hchanges (hkeeps row hrow)
  · -- the row is later than the time that both expect
    obtain ⟨row', hrow', t, ht, hle⟩ := hturn.expected hmem
    obtain ⟨row₀, hrow₀, hexpected⟩ := hfits.exists_row
    rw [hrows, ← hid, Update.write, Table.get_insert_self] at hrow'
    cases hrow'
    rw [hexpected] at ht
    cases ht
    exact absurd (register.past _ _ hrow₀) hle.not_gt

/-- Updates that fit the table as it is fit in turn if an update that changes its row is the last
    one of the row, and the database accepts them. -/
theorem inTurn_iff (h : ∀ u ∈ updates, Fits config register u) :
    InTurn config model register updates ↔
      updates.Pairwise (fun u v => u.id = v.id → ¬ Changes model register u) ∧
        model.Takes register (updates.map Update.write) := by
  induction updates generalizing register with
  | nil => exact ⟨fun _ => ⟨.nil, register, rfl⟩, fun _ => trivial⟩
  | cons u us ih =>
    rw [List.forall_mem_cons] at h
    -- the rows of the later updates are left alone if `u` changes none of them
    have hsame : ∀ register' : Register clock,
        model.write register u.write.1 u.write.2 = .ok register' →
        (∀ v ∈ us, u.id = v.id → ¬ Changes model register u) →
        ∀ v ∈ us, register'.rows[v.id]? = register.rows[v.id]? := by
      intro register' hwrite hu v hv
      refine write_row hwrite fun hid row hrow => ?_
      by_contra hchanges
      exact hu v hv hid.symm ⟨row, hrow, hchanges⟩
    -- and so is what they change
    have hpairs : ∀ register' : Register clock,
        (∀ v ∈ us, register'.rows[v.id]? = register.rows[v.id]?) →
        (us.Pairwise (fun u v => u.id = v.id → ¬ Changes model register' u) ↔
          us.Pairwise fun u v => u.id = v.id → ¬ Changes model register u) := by
      intro register' hrows
      refine List.Pairwise.iff_of_mem fun {v w} hv _ => ?_
      rw [changes_congr (hrows v hv)]
    rw [List.pairwise_cons]
    constructor
    · rintro ⟨-, register', hwrite, hturn⟩
      have hu : ∀ v ∈ us, u.id = v.id → ¬ Changes model register u := fun v hv hid =>
        InTurn.not_changes hwrite hturn hv (h.2 v hv) hid
      have hrows := hsame register' hwrite hu
      obtain ⟨hpairwise, r, htakes⟩ := (ih fun v hv => (h.2 v hv).congr (hrows v hv)).1 hturn
      exact ⟨⟨hu, (hpairs register' hrows).1 hpairwise⟩,
        r, Except.foldlM_cons_eq_ok.2 ⟨register', hwrite, htakes⟩⟩
    · rintro ⟨⟨hu, hpairwise⟩, r, htakes⟩
      obtain ⟨register', hwrite, htakes⟩ := Except.foldlM_cons_eq_ok.1 htakes
      have hrows := hsame register' hwrite hu
      exact ⟨h.1, register', hwrite, (ih fun v hv => (h.2 v hv).congr (hrows v hv)).2
        ⟨(hpairs register' hrows).2 hpairwise, r, htakes⟩⟩

/-! ## The rows that are left -/

/-- The writes of a row are the fields of its updates. -/
theorem fieldsOf_map_write (k : Id) : fieldsOf (updates.map Update.write) k =
    ((updates.filter fun u => u.id = k).map Update.fields).map (setattrs []) := by
  rw [fieldsOf, List.filter_map, List.map_map, List.map_map]
  rfl

/-- The flush of a bulk request writes the rows of the updates once each. -/
theorem foldl_fieldsOf_flushOrder (values : String → Json) (k : Id) :
    (fieldsOf (flushOrder updates) k).foldl model.effect values =
      model.effect values (assigned updates k) := by
  let ids := (updates.map Update.id).dedup.insertionSort (· ≤ ·)
  have hmem : k ∈ ids ↔ ∃ u ∈ updates, u.id = k := by
    simp only [ids, List.mem_insertionSort, List.mem_dedup, List.mem_map]
  have hfields : fieldsOf (flushOrder updates) k =
      (ids.filter fun id => id = k).map (assigned updates) := by
    rw [fieldsOf, flushOrder, List.filter_map, List.map_map]
    rfl
  rw [hfields]
  -- A row without an update is not written.
  by_cases hk : k ∈ ids
  · have hnodup : ids.Pairwise fun x y => id x ≠ id y :=
      (List.perm_insertionSort _ _).nodup_iff.2 (List.nodup_dedup _)
    have hone : ids.filter (fun id => id = k) = [k] :=
      List.filter_key_eq_singleton hnodup hk
    rw [hone]
    rfl
  · have hnone : ids.filter (fun id => id = k) = [] :=
      List.filter_eq_nil_iff.2 fun id hid heq => hk (of_decide_eq_true heq ▸ hid)
    have hassigned : assigned updates k = [] := by
      have hfilter : updates.filter (fun u => u.id = k) = [] :=
        List.filter_eq_nil_iff.2 fun u hu heq => hk (hmem.2 ⟨u, hu, of_decide_eq_true heq⟩)
      rw [assigned, hfilter]
      rfl
    rw [hnone, hassigned]
    exact (Model.Keeps.effect_eq fun column => rfl).symm

/-- Both ways of writing the updates leave the same values, if an update that changes its row
    is the last one of the row. -/
theorem values_eq {r r' : Register clock}
    (h : updates.Pairwise fun u v => u.id = v.id → ¬ Changes model register u)
    (hbulk : model.writeAll register (flushOrder updates) = .ok r)
    (hrows : model.writeAll register (updates.map Update.write) = .ok r') (k : Id) :
    r.values k = r'.values k := by
  rw [writeAll_values hbulk, writeAll_values hrows]
  -- A row that is missing stays so.
  cases hvalues : register.values k with
  | none => rfl
  | some values =>
    obtain ⟨row, hrow, rfl⟩ := Option.map_eq_some_iff.1 hvalues
    simp only [Option.map_some]
    rw [foldl_fieldsOf_flushOrder, fieldsOf_map_write, effect_merged, assigned]
    rw [List.pairwise_map]
    refine List.Pairwise.imp_of_mem ?_ (h.sublist List.filter_sublist)
    intro u v hu hv hpair
    have hu := of_decide_eq_true (List.mem_filter.1 hu).2
    have hv := of_decide_eq_true (List.mem_filter.1 hv).2
    by_contra hchanges
    exact hpair (hu.trans hv.symm) ⟨row, by rw [hu]; exact hrow, hchanges⟩

/-! ## Agreement -/

/-- A bulk request is accepted exactly if its updates are, sent as `PATCH` requests one after
    another, and then the final rows have the same values; otherwise its answer is a client
    error, and nothing is changed. -/
structure BulkAgrees (config : RegisterConfig) (model : Model) (register : Register clock)
    (role : String) (updates : List Update) : Prop where
  accepted : (∃ r, bulkUpdate config model register role updates = .ok r) ↔
    ∃ r, updateRows config model register role updates = .ok r
  rows : ∀ r r', bulkUpdate config model register role updates = .ok r →
    updateRows config model register role updates = .ok r' → ∀ k, r.values k = r'.values k
  refused : ∀ e, bulkUpdate config model register role updates = .error e →
    400 ≤ e.status ∧ e.status < 500 ∧
      committed register (bulkUpdate config model register role updates) = register

/-- A bulk request agrees with its updates in these cases and no others. A user who may not
    write sends at least one update. If all updates fit the table as it is, then an update that
    changes its row is the last one of the row, and the database accepts the writes both in the
    order of the updates and in that of the flush. If an update does not fit the table as it is,
    then it does not fit in turn either: no update carries an `updated_at` that the ones before
    it will give to its row. -/
theorem bulk_agrees_iff (config : RegisterConfig) (model : Model) (register : Register clock)
    (role : String) (updates : List Update) :
    BulkAgrees config model register role updates ↔
      (checkPermission config .edit role ≠ .ok () → updates ≠ []) ∧
      (checkPermission config .edit role = .ok () →
        ((∀ u ∈ updates, Fits config register u) →
          updates.Pairwise (fun u v => u.id = v.id → ¬ Changes model register u) ∧
            model.Takes register (updates.map Update.write) ∧
            model.Takes register (flushOrder updates)) ∧
        ((∃ u ∈ updates, ¬ Fits config register u) →
          ¬ InTurn config model register updates)) := by
  constructor
  · intro h
    refine ⟨?_, fun hperm => ⟨fun hfits => ?_, ?_⟩⟩
    · rintro hperm rfl
      obtain ⟨r, hr⟩ := h.accepted.2 ⟨register, rfl⟩
      exact hperm (bulkUpdate_eq_ok.1 hr).1
    · -- a flush that fails is answered by a server error
      have hflush : model.Takes register (flushOrder updates) := by
        by_contra hflush
        have herror := bulkUpdate_eq_serverError.2 ⟨hperm, hfits, hflush⟩
        exact absurd (h.refused _ herror).2.1 (by decide)
      obtain ⟨r, hr⟩ := hflush
      have hok := h.accepted.1 ⟨r, bulkUpdate_eq_ok.2 ⟨hperm, hfits, hr⟩⟩
      have hturn : InTurn config model register updates := by
        rcases updateRows_iff.1 hok with rfl | ⟨-, hturn⟩
        · trivial
        · exact hturn
      obtain ⟨hpairwise, htakes⟩ := (inTurn_iff hfits).1 hturn
      exact ⟨hpairwise, htakes, r, hr⟩
    · rintro ⟨u, hu, hnot⟩ hturn
      obtain ⟨r, hr⟩ := h.accepted.2 (updateRows_iff.2 (.inr ⟨hperm, hturn⟩))
      exact hnot ((bulkUpdate_eq_ok.1 hr).2.1 u hu)
  · rintro ⟨hnonempty, h⟩
    refine ⟨⟨?_, ?_⟩, ?_, ?_⟩
    · rintro ⟨r, hr⟩
      obtain ⟨hperm, hfits, -⟩ := bulkUpdate_eq_ok.1 hr
      obtain ⟨hpairwise, htakes, -⟩ := (h hperm).1 hfits
      exact updateRows_iff.2 (.inr ⟨hperm, (inTurn_iff hfits).2 ⟨hpairwise, htakes⟩⟩)
    · intro hok
      have hperm : checkPermission config .edit role = .ok () := by
        by_contra hperm
        rcases updateRows_iff.1 hok with rfl | ⟨hperm', -⟩
        · exact hnonempty hperm rfl
        · exact hperm hperm'
      have hfits : ∀ u ∈ updates, Fits config register u := by
        by_contra hnot
        push Not at hnot
        refine (h hperm).2 hnot ?_
        rcases updateRows_iff.1 hok with rfl | ⟨-, hturn⟩
        · trivial
        · exact hturn
      obtain ⟨-, -, r, hr⟩ := (h hperm).1 hfits
      exact ⟨r, bulkUpdate_eq_ok.2 ⟨hperm, hfits, hr⟩⟩
    · intro r r' hr hr'
      obtain ⟨hperm, hfits, hbulk⟩ := bulkUpdate_eq_ok.1 hr
      exact values_eq ((h hperm).1 hfits).1 hbulk (updateRows_eq_ok hr')
    · intro e he
      have hne : e ≠ .serverError := by
        rintro rfl
        obtain ⟨hperm, hfits, hflush⟩ := bulkUpdate_eq_serverError.1 he
        exact hflush ((h hperm).1 hfits).2.2
      obtain ⟨hle, hlt⟩ := status_of_ne hne
      exact ⟨hle, hlt, by rw [he]; rfl⟩

/-! ## A duplicate -/

/-- A clock that counts. -/
def counter : UpdateClock := ⟨fun n => n, strictMono_id⟩

/-- The same text, or `None` twice. -/
def sameText : Json → Json → Bool
  | .str text, .str text' => text = text'
  | .null, .null => true
  | _, _ => false

/-- `framework_requirements`, for texts: a framework has each reference code once. -/
def requirementTexts : Model where
  same := sameText
  bind _ value := some value
  admits values := !sameText (values "reference_code") .null && !sameText (values "title") .null
  conflict values other := sameText (values "framework_id") (other "framework_id") &&
    sameText (values "reference_code") (other "reference_code")

/-- A requirement of a framework. -/
def requirementRow (referenceCode : String) (updatedAt : Time) : Row where
  values column :=
    if column = "framework_id" then .str "iso"
    else if column = "reference_code" then .str referenceCode
    else if column = "title" then .str "Access control"
    else .null
  updatedAt := updatedAt

/-- The requirements `A.1` and `A.2` of a framework. -/
def twoRequirements : Register counter where
  rows := ((∅ : Table Row).insert 1 (requirementRow "A.1" 0)).insert 2 (requirementRow "A.2" 1)
  ticks := 2
  past := Table.forall_of_toList (p := fun _ (row : Row) => row.updatedAt < 2) (by decide)

/-- The code of the first requirement for the second one. -/
def duplicateCode : List Update :=
  [{ id := 2, expectedUpdatedAt := some 1, fields := [("reference_code", .str "A.1")] }]

/-- A bulk request with a duplicate reference code is answered by a server error. -/
theorem bulk_not_agrees :
    bulkUpdate requirementsRegisterConfig requirementTexts twoRequirements "operator"
        duplicateCode = .error .serverError ∧
      ¬ ∀ (clock : UpdateClock) (config : RegisterConfig) (model : Model)
          (register : Register clock) (role : String) (updates : List Update),
        BulkAgrees config model register role updates := by
  have herror : bulkUpdate requirementsRegisterConfig requirementTexts twoRequirements "operator"
      duplicateCode = .error .serverError := rfl
  refine ⟨herror, fun h => ?_⟩
  have hrefused := (h _ _ _ _ _ _).refused _ herror
  exact absurd hrefused.2.1 (by decide)

end MiniGrc.Registers
