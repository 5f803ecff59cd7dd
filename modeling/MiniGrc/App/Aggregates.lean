import MiniGrc.App.Projection

/-!
# Aggregate types with a row each

The projectors of most aggregate types write the one row that has the event's aggregate as
its id, and rows of other tables that belong to it; a row here holds these too, in the
order in which they were added and without their surrogate ids. An event that creates a
row is checked against the constraints of the table. An update touches no column that a
unique index or a foreign key into the table itself looks at, so it does not matter when
its changes are written, and the model writes every change at once.
-/

namespace MiniGrc

open Events

/-- The tables that rows of such aggregate types refer to. -/
inductive TableName
  | internalControls
  | controlPeriods
  | people
  | evidenceSnapshots
  | evidenceArtifacts
  | controlTestSamples
  | controlTestSampleItems
  | frameworks
  | internalControlVersions
  | evidenceArtifactVersions
  | controlTests
  deriving DecidableEq, Repr

/-- A row of a link table: the row that it leads to, and `created_at`. No projector sets that
    column; its default is `utcnow`, called when the row is flushed. -/
structure Link where
  target : Id
  createdAt : Time
  deriving DecidableEq, Repr

/-- The link that the projector of an event adds. -/
def Link.addedBy {β : Type} (flushed : FlushTimes) (event : DomainEvent Id β String)
    (target : Id) : Link :=
  ⟨target, flushed event.aggregate event.aggregateSequence⟩

/-- An aggregate type: the row after an event, from the row before, the foreign keys of a
    row into other tables, and the constraints between the rows. -/
structure AggregateType (ρ β : Type) where
  row : Option ρ → DomainEvent Id β String → Except PyError ρ
  foreignKeys : ρ → List (TableName × Id)
  constraints : Constraints ρ

namespace AggregateType

variable {ρ β : Type} (A : AggregateType ρ β)

/-- A projector, where the other tables have the rows that `present` says. -/
def project (present : TableName → Id → Bool) (t : Table ρ) (event : DomainEvent Id β String) :
    Except PyError (Table ρ) :=
  (A.row t[event.aggregate]? event).bind fun r =>
    if (∀ x ∈ A.foreignKeys r, present x.1 x.2) ∧ A.constraints.Admits t event.aggregate r then
      .ok (t.insert event.aggregate r)
    else .error .integrityError

/-- The aggregate type for sessions. A reset deletes all rows, which fails if a row of
    another table refers to one of them. -/
def projection (present : TableName → Id → Bool) (referenced : Bool) : Projection (Table ρ) β where
  flush := .ok
  project := A.project present
  reset _ := if referenced then .error .integrityError else .ok ∅

end AggregateType
end MiniGrc
