import MiniGrc.App.RegisterRoutes
import MiniGrc.Spec.BulkUpdates

/-!
# Types of stored values

When the values of a register are of the types that its fields declare, and which writes keep
them so.

## Key results

- `wellTyped_of_effects`: which assignments keep a register well typed
- `avoids_write`, `avoids_insert`: what the flush of one row needs
-/

namespace MiniGrc.Registers

open Except

variable {clock : UpdateClock} {env : Env} {config : RegisterConfig} {model : Model}
  {register register' : Register clock} {id : Id} {row : Row} {d : JsonDict} {spec : FieldSpec}

/-! ## Values of a type -/

/-- A stored value is of the field's type, among its choices and within its length. -/
def FieldSpec.Conforms (spec : FieldSpec) : Json → Prop
  | .null => True
  | .bool _ => spec.type = .bool
  | .int _ | .float _ => spec.type = .number
  | .str text => spec.type ∈ [.text, .date, .enum] ∧
      (∀ maxLength ∈ spec.maxLength, text.length ≤ maxLength) ∧
      ∀ choices ∈ spec.choices, text ∈ choices
  | .list _ | .dict _ => False

/-- A stored value conforms to its field, and no computation over it raises. -/
structure FieldSpec.Typed (env : Env) (spec : FieldSpec) (stored : Json) : Prop where
  conforms : spec.Conforms stored
  rendersResult : env.rendersResult stored = true
  rendersDetail : env.rendersDetail stored = true
  interval : spec.name = "cadence_interval_months" →
    ∃ months, occurrenceInterval stored = .ok months

/-- The fields that payloads may set have values of their types. -/
def ValuesTyped (env : Env) (config : RegisterConfig) (values : String → Json) : Prop :=
  ∀ spec ∈ config.fields, spec.readOnly = false → spec.Typed env (values spec.name)

/-- Every row of the register has values of the declared types. -/
def WellTyped (env : Env) (config : RegisterConfig) (register : Register clock) : Prop :=
  ∀ (k : Id) row, register.rows[k]? = some row → ValuesTyped env config row.values

theorem ValuesTyped.shows_detail (h : ValuesTyped env config row.values) :
    shows config env.rendersDetail row [] = true := by
  rw [shows, List.all_eq_true]
  intro spec hspec
  cases hreadOnly : spec.readOnly with
  | true => rfl
  | false => exact (h spec hspec hreadOnly).rendersDetail

/-- Whatever the row's changed fields are stored as is of their types. -/
def KeepsTypes (env : Env) (config : RegisterConfig) (model : Model) (row : Row)
    (assigned : JsonDict) : Prop :=
  ∀ spec ∈ config.fields, spec.readOnly = false → ∀ value stored,
    model.change row assigned spec.name = some value →
      model.bind spec.name value = some stored → spec.Typed env stored

theorem keepsTypes_of_keeps (h : model.Keeps row.values d) : KeepsTypes env config model row d := by
  intro spec _ _ value stored hchange
  have hnone : model.change row d spec.name = none := h spec.name
  rw [hnone] at hchange
  cases hchange

/-- The values after an `UPDATE` of a well-typed row. -/
theorem valuesTyped_effect (h : ValuesTyped env config row.values) :
    ValuesTyped env config (model.effect row.values d) ↔ KeepsTypes env config model row d := by
  constructor
  · -- what is stored for a changed field is its value afterwards
    intro heffect spec hspec hreadOnly value stored hchange hbind
    have htyped := heffect spec hspec hreadOnly
    have hstored : model.effect row.values d spec.name = stored := by
      change ((model.change row d spec.name).bind _).getD _ = stored
      rw [hchange, Option.bind_some, hbind, Option.getD_some]
    rwa [hstored] at htyped
  · intro hkeeps spec hspec hreadOnly
    change spec.Typed env (((model.change row d spec.name).bind _).getD _)
    -- a field that does not change keeps a value of its type
    cases hchange : model.change row d spec.name with
    | none => exact h spec hspec hreadOnly
    | some value =>
      cases hbind : model.bind spec.name value with
      | none =>
        rw [Option.bind_some, hbind]
        exact h spec hspec hreadOnly
      | some stored =>
        rw [Option.bind_some, hbind]
        exact hkeeps spec hspec hreadOnly value stored hchange hbind

/-- Assignments to the rows of a well-typed register leave it well typed exactly if each of
    them keeps the types of its row. -/
theorem wellTyped_of_effects {assigned : Id → JsonDict} (h : WellTyped env config register)
    (hvalues : ∀ k, register'.values k =
      (register.values k).map fun values => model.effect values (assigned k)) :
    WellTyped env config register' ↔ ∀ (k : Id) row, register.rows[k]? = some row →
      KeepsTypes env config model row (assigned k) := by
  constructor
  · intro h' k row hrow
    have hk := hvalues k
    rw [Register.values, Register.values, hrow] at hk
    obtain ⟨row', hrow', heq⟩ := Option.map_eq_some_iff.1 hk
    have htyped := h' k row' hrow'
    rw [heq] at htyped
    exact (valuesTyped_effect (h k row hrow)).1 htyped
  · intro hkeeps k row' hrow'
    have hk := hvalues k
    rw [Register.values, Register.values, hrow'] at hk
    obtain ⟨values, hmap, heq⟩ := Option.map_eq_some_iff.1 hk.symm
    obtain ⟨row, hrow, rfl⟩ := Option.map_eq_some_iff.1 hmap
    rw [← heq]
    exact (valuesTyped_effect (h k row hrow)).2 (hkeeps k row hrow)

/-! ## An `UPDATE` -/

theorem wellTyped_write (h : WellTyped env config register) (hrow : register.rows[id]? = some row)
    (hwrite : model.write register id d = .ok register') :
    WellTyped env config register' ↔ KeepsTypes env config model row d := by
  -- the other rows are assigned nothing
  have hvalues (k : Id) : register'.values k =
      (register.values k).map fun values => model.effect values (if id = k then d else []) := by
    rw [write_values hwrite]
    congr 1
    funext values
    split
    · rfl
    · exact (Model.Keeps.effect_eq fun column => rfl).symm
  rw [wellTyped_of_effects h hvalues]
  constructor
  · intro hkeeps
    have hid := hkeeps id row hrow
    rwa [if_pos rfl] at hid
  · intro hkeeps k row' hrow'
    split
    · next hid =>
      subst hid
      rw [hrow] at hrow'
      cases hrow'
      exact hkeeps
    · exact keepsTypes_of_keeps fun column => rfl

theorem avoids_answerWrite_ok {P : Register clock → Prop} {shown : Bool} :
    Avoids .serverError P (answerWrite shown (.ok register)) ↔ P register ∧ shown = true := by
  cases shown with
  | true => simp [answerWrite]
  | false => simp [answerWrite]

/-- What an `UPDATE` of a row needs: its columns can store the changed values, and if the
    constraints admit the row, then it is kept in its types and the response can carry it. -/
structure WriteSound (env : Env) (config : RegisterConfig) (model : Model) (rows : Table Row)
    (id : Id) (row : Row) (assigned : JsonDict) : Prop where
  binds : ∀ column ∈ model.changed row assigned,
    ((model.change row assigned column).bind (model.bind column)).isSome = true
  keeps : model.changed row assigned = [] ∨ model.Accepts rows id row assigned →
    KeepsTypes env config model row assigned ∧ shows config env.rendersResult row assigned = true

/-- `update_row` answers a constraint violation, but no other exception of the flush. -/
theorem avoids_write (h : WellTyped env config register)
    (hrow : register.rows[id]? = some row) :
    Avoids .serverError (WellTyped env config)
        (answerWrite (shows config env.rendersResult row d) (model.write register id d)) ↔
      WriteSound env config model register.rows id row d := by
  -- the outcomes of the flush in turn: nothing to write, a value that no column takes, a row that
  -- the constraints admit, and one that they do not
  by_cases hchanged : model.changed row d = []
  · have hwrite : model.write register id d = .ok register := by
      simp [Model.write, hrow, hchanged]
    rw [hwrite, avoids_answerWrite_ok, wellTyped_write h hrow hwrite]
    exact ⟨fun hkeeps => ⟨by simp [hchanged], fun _ => hkeeps⟩, fun hs => hs.keeps (.inl hchanged)⟩
  by_cases hbinds : ∃ column ∈ model.changed row d,
      ((model.change row d column).bind (model.bind column)).isNone
  · have hwrite : model.write register id d = .error .dataError := by
      simp only [Model.write, hrow, if_neg hchanged, if_pos hbinds]
    rw [hwrite]
    refine iff_of_false (fun hne => hne rfl) fun hs => ?_
    obtain ⟨column, hcolumn, hnone⟩ := hbinds
    have hsome := hs.binds column hcolumn
    rw [Option.isNone_iff_eq_none.1 hnone] at hsome
    cases hsome
  have hbinds' : ∀ column ∈ model.changed row d,
      ((model.change row d column).bind (model.bind column)).isSome = true := by
    simpa [Option.isSome_iff_ne_none] using hbinds
  by_cases haccepts : model.Accepts register.rows id row d
  · obtain ⟨register', hwrite⟩ : ∃ register', model.write register id d = .ok register' := by
      simp only [Model.write, hrow, if_neg hchanged, if_neg hbinds, if_pos haccepts]
      exact ⟨_, rfl⟩
    rw [hwrite, avoids_answerWrite_ok, wellTyped_write h hrow hwrite]
    exact ⟨fun hkeeps => ⟨hbinds', fun _ => hkeeps⟩, fun hs => hs.keeps (.inr haccepts)⟩
  · have hwrite : model.write register id d = .error .integrityError := by
      simp only [Model.write, hrow, if_neg hchanged, if_neg hbinds, if_neg haccepts]
    rw [hwrite]
    -- the `IntegrityError` is answered, and nothing is asked of a row that is not written
    refine iff_of_true (by simp [answerWrite]) ⟨hbinds', ?_⟩
    rintro (h' | h')
    · exact absurd h' hchanged
    · exact absurd h' haccepts

/-! ## An `INSERT` -/

/-- The values of a new row. -/
def Model.insertedValues (model : Model) (fields : JsonDict) (column : String) : Json :=
  (model.stored fields column).getD .null

/-- What an `INSERT` needs: its columns can store the values, and if the constraints admit the
    row, then its values are of their types and the response can carry it. -/
structure InsertSound (env : Env) (config : RegisterConfig) (model : Model) (rows : Table Row)
    (newId : Id) (fields : JsonDict) : Prop where
  binds : ∀ column ∈ fields.map Prod.fst, (model.stored fields column).isSome = true
  keeps : newId ∉ rows → model.admits (model.insertedValues fields) = true →
    (∀ x ∈ rows.toList, model.conflict x.2.values (model.insertedValues fields) = false) →
    ValuesTyped env config (model.insertedValues fields) ∧
      shows config env.rendersResult ⟨fun _ => .null, 0⟩ fields = true

theorem wellTyped_insert {values : String → Json} (h : WellTyped env config register)
    (hrows : register'.rows = register.rows.insert id ⟨values, clock.reading register.ticks⟩) :
    WellTyped env config register' ↔ ValuesTyped env config values := by
  constructor
  · intro h'
    exact h' id _ (by rw [hrows, Table.get_insert_self])
  · intro hvalues k row hrow
    rw [hrows] at hrow
    rcases Table.of_get_insert hrow with ⟨-, rfl⟩ | hrow
    · exact hvalues
    · exact h k row hrow

theorem avoids_insert (h : WellTyped env config register) :
    Avoids .serverError (WellTyped env config)
        (answerWrite (shows config env.rendersResult ⟨fun _ => .null, 0⟩ d)
          (model.insert register id d)) ↔
      InsertSound env config model register.rows id d := by
  -- an `INSERT` has no case in which nothing is written
  by_cases hbinds : (d.map Prod.fst).any (fun column => (model.stored d column).isNone) = true
  · have hinsert : model.insert register id d = .error .dataError := by
      simp only [Model.insert, if_pos hbinds]
    rw [hinsert]
    refine iff_of_false (fun hne => hne rfl) fun hs => ?_
    obtain ⟨column, hcolumn, hnone⟩ := List.any_eq_true.1 hbinds
    have hsome := hs.binds column hcolumn
    rw [Option.isNone_iff_eq_none.1 hnone] at hsome
    cases hsome
  have hbinds' : ∀ column ∈ d.map Prod.fst, (model.stored d column).isSome = true := by
    intro column hcolumn
    by_contra hnone
    exact hbinds (List.any_eq_true.2 ⟨column, hcolumn, by simpa using hnone⟩)
  by_cases hadmits : id ∉ register.rows ∧ model.admits (model.insertedValues d) = true ∧
      ∀ x ∈ register.rows.toList, model.conflict x.2.values (model.insertedValues d) = false
  · obtain ⟨register', hinsert, hrows⟩ : ∃ register', model.insert register id d = .ok register' ∧
        register'.rows = register.rows.insert id
          ⟨model.insertedValues d, clock.reading register.ticks⟩ := by
      refine ⟨⟨_, register.ticks + 1, Model.past_insert⟩, ?_, rfl⟩
      rw [Model.insert]
      simp only [if_neg hbinds]
      exact if_pos hadmits
    rw [hinsert, avoids_answerWrite_ok, wellTyped_insert h hrows]
    exact ⟨fun hkeeps => ⟨hbinds', fun _ _ _ => hkeeps⟩,
      fun hs => hs.keeps hadmits.1 hadmits.2.1 hadmits.2.2⟩
  · have hinsert : model.insert register id d = .error .integrityError := by
      rw [Model.insert]
      simp only [if_neg hbinds]
      exact if_neg hadmits
    rw [hinsert]
    exact iff_of_true (by simp [answerWrite])
      ⟨hbinds', fun hnew hadmits' hconflict => absurd ⟨hnew, hadmits', hconflict⟩ hadmits⟩

end MiniGrc.Registers
