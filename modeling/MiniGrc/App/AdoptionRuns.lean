import Mathlib.Logic.Function.Basic
import MiniGrc.ForStd.Run
import MiniGrc.App.FrameworkAdoption

/-!
# Sessions of adoption commands

A session adopts and upgrades, commits and rolls back, beside the table of the frameworks.
A refused command raises; after an `IntegrityError` the transaction can only be rolled back.
-/

namespace MiniGrc.FrameworkAdoptions

open Events

/-- The columns of a `frameworks` row apart from its key. Its `catalog_family` is never
    written again. -/
structure FrameworkRow where
  catalogFamily : Option String
  isActive : Bool
  deriving DecidableEq, Repr

/-- For each catalog family the frameworks that accepted commands have adopted, the latest
    first. -/
abbrev AdoptedFrameworks := String → List Id

/-- The adoptions as a session sees them, with what has been adopted so far (which is no part
    of the database). -/
structure View where
  session : AdoptionSession
  adopted : AdoptedFrameworks

/-- The database with the session that works on it. -/
structure State where
  frameworks : Table FrameworkRow
  committed : View
  current : View

/-- What can happen. -/
inductive Happening
  | addFramework (id : Id) (row : FrameworkRow)
  | setActive (id : Id) (isActive : Bool)
  | command (c : Command)
  | commit
  | rollback

/-- The framework of a command. -/
def Command.framework : Command → Framework
  | .adopt _ framework _ => framework
  | .upgrade _ toFramework _ => toFramework

/-- What has been adopted once the command has returned: an adoption of a family that has one
    already returns it. -/
def View.record (v : View) : Command → AdoptedFrameworks
  | .adopt _ framework _ =>
    match framework.catalogFamily with
    | none => v.adopted
    | some family =>
      if getAdoption v.session family = none then
        Function.update v.adopted family (framework.id :: v.adopted family)
      else v.adopted
  | .upgrade _ toFramework _ =>
    match toFramework.catalogFamily with
    | none => v.adopted
    | some family => Function.update v.adopted family (toFramework.id :: v.adopted family)

namespace State

/-- The rows that foreign keys find. -/
def present (frameworks : Table FrameworkRow) (name : TableName) (id : Id) : Bool :=
  name = .frameworks && frameworks.contains id

/-- The projection beside the frameworks. No table refers to an adoption. -/
def projection (st : State) : Projection (Table FrameworkAdoption) Body :=
  aggregateType.projection (present st.frameworks) false

/-- The command's framework is a row of the table. -/
def Stored (frameworks : Table FrameworkRow) (framework : Framework) : Prop :=
  frameworks[framework.id]? = some ⟨framework.catalogFamily, framework.isActive⟩

instance (frameworks : Table FrameworkRow) (framework : Framework) :
    Decidable (Stored frameworks framework) :=
  inferInstanceAs (Decidable (_ = _))

/-- `session.rollback()`. Time goes on. -/
def rollback (st : State) (ticks : Nat) : State :=
  { st with current := { st.committed with session := { st.committed.session with ticks } } }

variable (clock : Clock)

/-- One event. -/
def step (st : State) : Happening → Option State
  | .addFramework id row =>
    if id ∈ st.frameworks then none
    else some { st with frameworks := st.frameworks.insert id row }
  | .setActive id isActive =>
    some { st with frameworks := st.frameworks.alter id (·.map ({ · with isActive })) }
  | .command c =>
    if Stored st.frameworks c.framework then
      match c.run st.projection clock st.current.session with
      | .returned s => some { st with current := ⟨s, st.current.record c⟩ }
      | .raised s .integrityError => some (st.rollback s.ticks)
      | .raised s _ => some { st with current := { st.current with session := s } }
    else none
  | .commit => some { st with committed := st.current }
  | .rollback => some (st.rollback st.current.session.ticks)

/-- No framework and no adoption. -/
def empty : State where
  frameworks := ∅
  committed := ⟨⟨∅, [], 0⟩, fun _ => []⟩
  current := ⟨⟨∅, [], 0⟩, fun _ => []⟩

end State
end MiniGrc.FrameworkAdoptions
