import MiniGrc.ForStd.Run
import MiniGrc.Spec.CatalogSessions

/-!
# What reconciliations that race keep

The invariant of the tables and all sessions, for runs that start from a database in which the
reconciliation can adopt without a recovery of its own (`Ready`). Nobody commits before the end
of a call, so that the rows which are looked up are those at the start until a commit leaves all
catalogs present. From then on no open transaction can hold a row, as it would be one of a
catalog again: two calls that both go on to adopt a catalog are never both open.

## Key results

- `Inv.not_owning`: once all catalogs are committed, nobody holds a framework or a requirement
- `Inv.adopting`: a call that misses an adoption has inserted a row before
- `Inv.of_step`, `inv_of_run`: the invariant holds in every state of a run
-/

namespace MiniGrc.ConcurrentCatalogs

open OpenRows
open FrameworkAdoptions (FrameworkAdoption)

variable {ι : Type} {catalogs : Catalogs} {t₀ : Tables} {s s' : State ι} {i j : ι}
  {c : SystemCatalog} {rest : List SystemCatalog} {fw : Id × Framework} {new : NewRows}

/-- What session `i` sees. -/
def State.visible (s : State ι) (i : ι) : Tables where
  frameworks := s.frameworks.visible i
  requirements := s.requirements.visible i
  assessments := s.assessments.visible i
  adoptions := s.adoptions.visible i
  events := s.events.visible i
  auditEvents := s.auditEvents.visible i

/-- The rows of an open transaction over those that are committed. -/
def Tables.over (t o : Tables) : Tables where
  frameworks := t.frameworks ∪ o.frameworks
  requirements := t.requirements ∪ o.requirements
  assessments := t.assessments ∪ o.assessments
  adoptions := t.adoptions ∪ o.adoptions
  events := t.events ∪ o.events
  auditEvents := t.auditEvents ∪ o.auditEvents

/-- A session sees its own rows over the committed ones. -/
theorem visible_eq_over : s.visible i = s.committed.over (s.own i) := rfl

/-- Nothing over the tables is the tables. -/
theorem Tables.over_empty (t : Tables) : t.over .empty = t := by
  have hunion : ∀ {ρ : Type} (t : Table ρ), t ∪ ∅ = t := fun t =>
    Table.ext fun k => by simp [Std.ExtTreeMap.getElem?_union]
  simp [Tables.over, Tables.empty, hunion]

/-! ## Databases -/

/-- The unique constraints hold, and every requirement has its assessment. -/
structure Tables.Sound (t : Tables) : Prop where
  frameworks : ∀ (k k' : Id) f g, t.frameworks[k]? = some f → t.frameworks[k']? = some g →
    k ≠ k' → frameworkConflict f g = false
  requirements : ∀ (k k' : Id) r q, t.requirements[k]? = some r → t.requirements[k']? = some q →
    k ≠ k' → requirementConflict r q = false
  assessments : ∀ (k k' : Id) a b, t.assessments[k]? = some a → t.assessments[k']? = some b →
    k ≠ k' → assessmentConflict a b = false
  adoptions : ∀ (k k' : Id) a b, t.adoptions[k]? = some a → t.adoptions[k']? = some b →
    k ≠ k' → adoptionConflict a b = false
  assessed : Assessed t

/-- When the reconciliation can adopt without a recovery of its own. -/
structure Ready (catalogs : Catalogs) (t : Tables) : Prop where
  /-- A framework of a catalog that is still to be adopted is of the catalog's family. -/
  families : ∀ c ∈ catalogs.list, ∀ (k : Id) f, t.frameworks[k]? = some f →
    f.catalogKey = some c.catalogKey →
      f.catalogFamily = some c.catalogFamily ∨ ∃ a, IsAdoption t c a
  /-- A catalog that lacks its adoption lacks its framework or a requirement as well, if the
      catalogs before it lack nothing. -/
  adoptions : ∀ before c after, catalogs.list = before ++ c :: after →
    (∀ b ∈ before, Present t b) → Filled t c → ∃ a, IsAdoption t c a

/-! ## The invariant -/

/-- The rows that the reconciliation looks up are those at the start. -/
structure Unchanged (t₀ t : Tables) : Prop where
  frameworks : t.frameworks = t₀.frameworks
  requirements : t.requirements = t₀.requirements
  adoptions : t.adoptions = t₀.adoptions

/-- What holds of the tables and all sessions, `t₀` being the tables at the start. -/
structure Inv (catalogs : Catalogs) (t₀ : Tables) (s : State ι) : Prop where
  frameworks : Grows t₀.frameworks frameworkConflict s.frameworks
  requirements : Grows t₀.requirements requirementConflict s.requirements
  assessments : Grows t₀.assessments assessmentConflict s.assessments
  adoptions : Grows t₀.adoptions adoptionConflict s.adoptions
  events : Grows t₀.events (fun _ _ => false) s.events
  auditEvents : Grows t₀.auditEvents (fun _ _ => false) s.auditEvents
  assessed : Assessed s.committed
  newFrameworks : ∀ k f, s.frameworks.Has k f →
    t₀.frameworks[k]? = some f ∨ ∃ c ∈ catalogs.list, f = c.framework
  /-- A commit leaves all catalogs present. -/
  committed : Unchanged t₀ s.committed ∨ ∀ c ∈ catalogs.list, Present s.committed c
  session : ∀ i, SessionInv catalogs t₀ (s.visible i) (s.own i) (s.pc i)

/-- Frameworks conflict symmetrically. -/
theorem frameworkConflict_comm (f g : Framework) :
    frameworkConflict f g = frameworkConflict g f := by
  unfold frameworkConflict
  grind

/-- Requirements conflict symmetrically. -/
theorem requirementConflict_comm (r q : Requirement) :
    requirementConflict r q = requirementConflict q r := by
  unfold requirementConflict
  grind

/-- Assessments conflict symmetrically. -/
theorem assessmentConflict_comm (a b : Assessment) :
    assessmentConflict a b = assessmentConflict b a := by
  unfold assessmentConflict
  grind

/-- Adoptions conflict symmetrically. -/
theorem adoptionConflict_comm (a b : FrameworkAdoption) :
    adoptionConflict a b = adoptionConflict b a := by
  unfold adoptionConflict
  grind

/-- A framework that conflicts with the catalog's has its key. -/
theorem key_of_conflict {f : Framework} (h : frameworkConflict c.framework f) :
    f.catalogKey = some c.catalogKey := by
  simp only [frameworkConflict, Bool.and_eq_true, beq_iff_eq] at h
  exact h.2.symm

/-- A requirement that conflicts with a new one has its framework and its code. -/
theorem code_of_conflict {k : Id} {r : CatalogRequirement} {x : Requirement}
    (h : requirementConflict (newRequirement k r) x) :
    x.frameworkId = k ∧ x.referenceCode = r.referenceCode := by
  simp only [requirementConflict, Bool.and_eq_true, beq_iff_eq] at h
  exact ⟨h.1.symm, h.2.symm⟩

/-- At the start every session is idle and holds nothing. -/
theorem inv_initial (ht : t₀.Sound) : Inv catalogs t₀ (State.initial t₀ : State ι) where
  frameworks := grows_closed ht.frameworks
  requirements := grows_closed ht.requirements
  assessments := grows_closed ht.assessments
  adoptions := grows_closed ht.adoptions
  events := grows_closed fun _ _ _ _ _ _ _ => rfl
  auditEvents := grows_closed fun _ _ _ _ _ _ _ => rfl
  assessed := ht.assessed
  newFrameworks k f hf := by
    rcases hf with hf | ⟨j, hf⟩
    · exact .inl hf
    · exact absurd hf Table.not_get_empty
  committed := .inl ⟨rfl, rfl, rfl⟩
  session _ := ⟨trivial, held_empty [], fun _ => rfl⟩

/-! ### What a session sees -/

/-- The row found is in the table and matches. -/
theorem scalar_some {ρ : Type} {t : Table ρ} {p : ρ → Bool} {x : Id × ρ}
    (h : scalar t p = some x) : t[x.1]? = some x.2 ∧ p x.2 :=
  ⟨Std.ExtTreeMap.mem_toList_iff_getElem?_eq_some.1 (List.mem_of_find?_eq_some h),
    List.find?_some (p := fun x : Id × ρ => p x.2) h⟩

/-- Where none is found, no row matches. -/
theorem scalar_none {ρ : Type} {t : Table ρ} {p : ρ → Bool} (h : scalar t p = none) {k : Id}
    {r : ρ} (hr : t[k]? = some r) : ¬ p r :=
  List.find?_eq_none.1 h (k, r) (Std.ExtTreeMap.mem_toList_iff_getElem?_eq_some.2 hr)

/-- A session sees what is committed. -/
theorem Inv.extends_committed (h : Inv catalogs t₀ s) (i : ι) :
    Extends s.committed (s.visible i) where
  frameworks _ _ := h.frameworks.onlyInserts.visible_of_committed
  requirements _ _ := h.requirements.onlyInserts.visible_of_committed
  assessments _ _ := h.assessments.onlyInserts.visible_of_committed
  adoptions _ _ := h.adoptions.onlyInserts.visible_of_committed
  events _ _ := h.events.onlyInserts.visible_of_committed
  auditEvents _ _ := h.auditEvents.onlyInserts.visible_of_committed

/-- No row that was there at the start is changed. -/
theorem Inv.kept (h : Inv catalogs t₀ s) : Extends t₀ s.committed where
  frameworks := h.frameworks.kept
  requirements := h.requirements.kept
  assessments := h.assessments.kept
  adoptions := h.adoptions.kept
  events := h.events.kept
  auditEvents := h.auditEvents.kept

/-- A framework is determined by its catalog. -/
theorem Inv.framework_unique (h : Inv catalogs t₀ s) {k k' : Id} {f f' : Framework}
    (hf : s.frameworks.Has k f) (hf' : s.frameworks.Has k' f')
    (hkey : f.catalogKey = some c.catalogKey) (hkey' : f'.catalogKey = some c.catalogKey) :
    k = k' := by
  by_contra hne
  have hconflict := h.frameworks.consistent k k' f f' hf hf' hne
  simp [frameworkConflict, hkey, hkey'] at hconflict

/-- A requirement is determined by its framework and its code. -/
theorem Inv.requirement_unique (h : Inv catalogs t₀ s) {q q' : Id} {x x' : Requirement}
    (hx : s.requirements.Has q x) (hx' : s.requirements.Has q' x')
    (hframework : x.frameworkId = x'.frameworkId) (hcode : x.referenceCode = x'.referenceCode) :
    q = q' := by
  by_contra hne
  have hconflict := h.requirements.consistent q q' x x' hx hx' hne
  simp [requirementConflict, hframework, hcode] at hconflict

/-- Once all catalogs are committed, nobody holds a framework or a requirement: it would be one
    of a catalog again. -/
theorem Inv.not_owning (h : Inv catalogs t₀ s)
    (hpresent : ∀ c ∈ catalogs.list, Present s.committed c) (i : ι) : ¬ Owning (s.own i) := by
  rintro (⟨k, f, hf⟩ | ⟨q, x, hx⟩)
  · obtain ⟨c, hc, hkey, -⟩ := (h.session i).held.frameworks k f hf
    obtain ⟨⟨k', ⟨f', hf', hkey'⟩, -⟩, -⟩ := hpresent c hc
    obtain rfl := h.framework_unique (.inr ⟨i, hf⟩) (.inl hf') hkey hkey'
    cases (h.frameworks.onlyInserts i k f hf).1.symm.trans hf'
  · obtain ⟨c, hc, r, hr, hcode, ⟨f, hf, hkey⟩, -⟩ := (h.session i).held.requirements q x hx
    obtain ⟨⟨k', ⟨f', hf', hkey'⟩, hrequirements⟩, -⟩ := hpresent c hc
    have hframework := h.framework_unique (has_of_visible hf) (.inl hf') hkey hkey'
    obtain ⟨q', x', hx', hframework', hcode'⟩ := hrequirements r hr
    obtain rfl := h.requirement_unique (.inr ⟨i, hx⟩) (.inl hx') (hframework.trans hframework'.symm)
      (hcode.trans hcode'.symm)
    cases (h.requirements.onlyInserts i q x hx).1.symm.trans hx'

/-- Every requirement a session sees has its assessment. -/
theorem Inv.assessed_visible (h : Inv catalogs t₀ s) (i : ι) : Assessed (s.visible i) where
  assessment q x hx := by
    rcases own_or_committed hx with hown | hcommitted
    · obtain ⟨a, y, hy, hq⟩ := (h.session i).held.assessed.assessment q x hown
      exact ⟨a, y, visible_of_own hy, hq⟩
    · obtain ⟨a, y, hy, hq⟩ := h.assessed.assessment q x hcommitted
      exact ⟨a, y, (h.extends_committed i).assessments a y hy, hq⟩
  requirement a x hx := by
    rcases own_or_committed hx with hown | hcommitted
    · exact ((h.session i).held.assessed.requirement a x hown).imp fun _ => visible_of_own
    · exact (h.assessed.requirement a x hcommitted).imp fun y =>
        (h.extends_committed i).requirements _ y

/-- A session that holds neither a framework nor a requirement holds no adoption. -/
theorem Inv.unchanged_visible (h : Inv catalogs t₀ s) (hs : Unchanged t₀ s.committed)
    (hi : ¬ Owning (s.own i)) : Unchanged t₀ (s.visible i) where
  frameworks := hs.frameworks ▸ visible_eq fun k =>
    Option.eq_none_iff_forall_ne_some.2 fun f hf => hi (.inl ⟨k, f, hf⟩)
  requirements := hs.requirements ▸ visible_eq fun q =>
    Option.eq_none_iff_forall_ne_some.2 fun x hx => hi (.inr ⟨q, x, hx⟩)
  adoptions := hs.adoptions ▸ visible_eq fun a =>
    Option.eq_none_iff_forall_ne_some.2 fun x hx => hi ((h.session i).held.adoptions a x hx).1

/-! ### Adoptions -/

/-- A catalog filled in unchanged tables was filled before. -/
theorem Unchanged.filled {t : Tables} (h : Unchanged t₀ t) (hc : Filled t c) : Filled t₀ c := by
  simpa only [Filled, IsFramework, IsRequirement, h.frameworks, h.requirements] using hc

/-- A catalog present in unchanged tables was present before. -/
theorem Unchanged.present {t : Tables} (h : Unchanged t₀ t) (hc : Present t c) : Present t₀ c :=
  ⟨h.filled hc.1, by simpa only [IsAdoption, h.adoptions] using hc.2⟩

/-- A call that misses an adoption has inserted a framework or a requirement: otherwise the
    adoption would be missing from a catalog that is filled at the start. -/
theorem Inv.adopting (h : Inv catalogs t₀ s) (hready : Ready catalogs t₀)
    (hworking : Working catalogs (s.visible i) c fw [] rest)
    (hnone : ∀ a, ¬ IsAdoption (s.visible i) c a) : Adopting t₀ (s.own i) c := by
  have hstart : ∀ a, ¬ IsAdoption t₀ c a := fun a ha =>
    hnone a ((ha.mono h.kept).mono (h.extends_committed i))
  refine ⟨?_, hstart⟩
  by_contra hi
  -- Nothing is committed since the start, or every catalog is present.
  rcases h.committed with hs | hpresent
  · have hv := h.unchanged_visible hs hi
    obtain ⟨before, hlist, hbefore⟩ := hworking.passed
    obtain ⟨a, ha⟩ := hready.adoptions before c rest hlist
      (fun b hb => hv.present (hbefore b hb)) (hv.filled hworking.filled)
    exact hstart a ha
  · obtain ⟨a, ha⟩ := (hpresent c hworking.passed.mem).2
    exact hnone a (ha.mono (h.extends_committed i))

/-- Nobody adopts before a call that goes on to adopt. -/
theorem Inv.not_adopted (h : Inv catalogs t₀ s) (hadopting : Adopting t₀ (s.own i) c)
    (hc : c ∈ catalogs.list) (htodo : .adoption c.catalogKey ∈ todo (s.pc i)) (a : Id) :
    ¬ IsAdoption (s.visible i) c a := by
  rintro ⟨x, hx, hfamily⟩
  rcases own_or_committed hx with hown | hcommitted
  · obtain ⟨-, c', hc', hfamily', hnot⟩ := (h.session i).held.adoptions a x hown
    obtain rfl := eq_of_catalogFamily hc' hc (hfamily'.symm.trans hfamily)
    exact hnot htodo
  · rcases h.committed with hs | hpresent
    · exact hadopting.2 a ⟨x, hs.adoptions ▸ hcommitted, hfamily⟩
    · exact h.not_owning hpresent i hadopting.1

/-- The framework of a call that goes on to adopt is of the catalog's family. -/
theorem Inv.family (h : Inv catalogs t₀ s) (hready : Ready catalogs t₀)
    (hworking : Working catalogs (s.visible i) c fw [] rest)
    (hadopting : Adopting t₀ (s.own i) c) : fw.2.catalogFamily = some c.catalogFamily := by
  have hc := hworking.passed.mem
  rcases h.newFrameworks fw.1 fw.2 (has_of_visible hworking.row) with hf | ⟨c', hc', hf⟩
  · exact (hready.families c hc fw.1 fw.2 hf hworking.key).resolve_right fun ⟨a, ha⟩ =>
      hadopting.2 a ha
  · have hkey := hworking.key
    rw [hf] at hkey
    obtain rfl := eq_of_catalogKey hc' hc (Option.some.inj hkey)
    rw [hf]
    rfl

/-! ## One step -/

/-- Another session sees nothing of what session `i` inserts. -/
theorem extends_visible (hcommitted : s'.committed = s.committed) (hown : s'.own j = s.own j) :
    Extends (s.visible j) (s'.visible j) := by
  rw [visible_eq_over, visible_eq_over, hcommitted, hown]
  exact Extends.refl _

section

variable [DecidableEq ι]

@[simp] theorem goto_visible {pc : Pc} : (s.goto i pc).visible j = s.visible j := rfl

@[simp] theorem goto_own {pc : Pc} : (s.goto i pc).own j = s.own j := rfl

/-- The session that moves on is where it moves to. -/
@[simp] theorem goto_pc_self {pc : Pc} : (s.goto i pc).pc i = pc := by simp [State.goto]

/-- The other sessions stay where they are. -/
theorem goto_pc_ne {pc : Pc} (hj : j ≠ i) : (s.goto i pc).pc j = s.pc j := by
  simp [State.goto, hj]

/-- The other sessions do nothing. -/
theorem Inv.session_step (h : Inv catalogs t₀ s)
    (hi : SessionInv catalogs t₀ (s'.visible i) (s'.own i) (s'.pc i))
    (hvisible : ∀ j, j ≠ i → Extends (s.visible j) (s'.visible j))
    (hown : ∀ j, j ≠ i → s'.own j = s.own j) (hpc : ∀ j, j ≠ i → s'.pc j = s.pc j) (j : ι) :
    SessionInv catalogs t₀ (s'.visible j) (s'.own j) (s'.pc j) := by
  by_cases hj : j = i
  · subst hj
    exact hi
  · rw [hown j hj, hpc j hj]
    exact (h.session j).mono (hvisible j hj)

/-- A session goes on without an insert. -/
theorem Inv.goto {pc : Pc} (h : Inv catalogs t₀ s) (hat : At catalogs t₀ (s.visible i) (s.own i) pc)
    (htodo : todo pc <:+ todo (s.pc i)) (hin : InCall pc) :
    Inv catalogs t₀ (s.goto i pc) where
  frameworks := h.frameworks
  requirements := h.requirements
  assessments := h.assessments
  adoptions := h.adoptions
  events := h.events
  auditEvents := h.auditEvents
  assessed := h.assessed
  newFrameworks := h.newFrameworks
  committed := h.committed
  session := h.session_step (i := i) (by simpa using (h.session i).move hat htodo hin)
    (fun j _ => Extends.refl (s.visible j)) (fun _ _ => rfl) fun _ => goto_pc_ne

/-- Session `i` calls. -/
theorem Inv.call (h : Inv catalogs t₀ s) (hpc : ¬ InCall (s.pc i)) :
    Inv catalogs t₀ (s.goto i (nextCatalog catalogs.list)) where
  frameworks := h.frameworks
  requirements := h.requirements
  assessments := h.assessments
  adoptions := h.adoptions
  events := h.events
  auditEvents := h.auditEvents
  assessed := h.assessed
  newFrameworks := h.newFrameworks
  committed := h.committed
  session := by
    refine h.session_step (i := i) ?_ (fun j _ => Extends.refl (s.visible j)) (fun _ _ => rfl)
      fun _ => goto_pc_ne
    rw [goto_own, goto_pc_self, (h.session i).closed hpc]
    have hlist : catalogs.list = [] ++ catalogs.list := rfl
    exact ⟨at_nextCatalog hlist (by simp), held_empty _, fun _ => rfl⟩

/-- A session still sees what it saw before a commit. -/
theorem Inv.extends_commit (h : Inv catalogs t₀ s) (i j : ι) :
    Extends (s.visible j) ((s.commit i).visible j) where
  frameworks _ _ := h.frameworks.onlyInserts.visible_commit
  requirements _ _ := h.requirements.onlyInserts.visible_commit
  assessments _ _ := h.assessments.onlyInserts.visible_commit
  adoptions _ _ := h.adoptions.onlyInserts.visible_commit
  events _ _ := h.events.onlyInserts.visible_commit
  auditEvents _ _ := h.auditEvents.onlyInserts.visible_commit

/-- Session `i` commits. -/
theorem Inv.commit (h : Inv catalogs t₀ s) (hpc : s.pc i = .returned) :
    Inv catalogs t₀ (s.commit i) where
  frameworks := h.frameworks.commit
  requirements := h.requirements.commit
  assessments := h.assessments.commit
  adoptions := h.adoptions.commit
  events := h.events.commit
  auditEvents := h.auditEvents.commit
  assessed := h.assessed_visible i
  newFrameworks k f hf := h.newFrameworks k f (has_commit hf)
  committed := by
    have hat := (h.session i).position
    rw [hpc] at hat
    exact .inr hat
  session := by
    refine h.session_step (i := i) ?_ (fun j _ => h.extends_commit i j) (fun j hj => ?_)
      fun j hj => by simp [State.commit, hj]
    · have hown : (s.commit i).own i = Tables.empty := by
        simp [State.own, State.commit, OpenRows.commit, Tables.empty]
      have hat := (h.session i).position
      rw [hpc] at hat
      rw [hown, show (s.commit i).pc i = .done by simp [State.commit]]
      exact ⟨fun c hc => (hat c hc).mono (h.extends_commit i i), held_empty _, fun _ => rfl⟩
    · simp [State.own, State.commit, commit_own_ne hj]

/-- Session `i` rolls back. -/
theorem Inv.rollback (h : Inv catalogs t₀ s) : Inv catalogs t₀ (s.rollback i .idle) where
  frameworks := h.frameworks.rollback
  requirements := h.requirements.rollback
  assessments := h.assessments.rollback
  adoptions := h.adoptions.rollback
  events := h.events.rollback
  auditEvents := h.auditEvents.rollback
  assessed := h.assessed
  newFrameworks k f hf := h.newFrameworks k f (has_rollback hf)
  committed := h.committed
  session := by
    refine h.session_step (i := i) ?_ (fun j hj => ⟨?_, ?_, ?_, ?_, ?_, ?_⟩) (fun j hj => ?_)
      fun j hj => by simp [State.rollback, hj]
    · have hown : (s.rollback i .idle).own i = Tables.empty := by
        simp [State.own, State.rollback, OpenRows.rollback, Tables.empty]
      rw [hown]
      exact ⟨by simp [State.rollback, At], held_empty _, fun _ => rfl⟩
    all_goals first
      | exact fun _ _ hr => (visible_rollback hj).trans hr
      | simp [State.own, State.rollback, rollback_own_ne hj]

/-! ### Inserts -/

/-- Session `i` has inserted the framework of a catalog. -/
def State.withFramework (s : State ι) (i : ι) (new : NewRows) (c : SystemCatalog)
    (event : AuditEvent) : State ι :=
  { s with
    frameworks := s.frameworks.write i new.frameworkId c.framework
    auditEvents := s.auditEvents.write i new.auditEventId event }

/-- A framework is inserted where none conflicts. -/
theorem Inv.withFramework {pc : Pc} (h : Inv catalogs t₀ s) (hunused : s.Unused new)
    (hpassed : Passed catalogs (s.visible i) c rest)
    (hheld : Held catalogs (s.visible i) (s.own i) (.framework c.catalogKey :: todo pc))
    (hat : ∀ v, Extends (s.visible i) v → v.frameworks[new.frameworkId]? = some c.framework →
      ∀ o, At catalogs t₀ v o pc)
    (hnot : .framework c.catalogKey ∉ todo pc) (hin : InCall pc)
    (hnew : ∀ (k : Nat) f, s.frameworks.Has k f → frameworkConflict c.framework f = false)
    (event : AuditEvent) : Inv catalogs t₀ ((s.withFramework i new c event).goto i pc) := by
  have hvisible : Extends (s.visible i) ((s.withFramework i new c event).visible i) :=
    { frameworks := fun _ _ => visible_write hunused.1
      requirements := fun _ _ hr => hr
      assessments := fun _ _ hr => hr
      adoptions := fun _ _ hr => hr
      events := fun _ _ hr => hr
      auditEvents := fun _ _ => visible_write hunused.2.2.2.2.2 }
  have hothers : ∀ j, j ≠ i → (s.withFramework i new c event).own j = s.own j := fun j hj => by
    simp [State.own, State.withFramework, write_own_ne hj]
  have hown : (s.withFramework i new c event).own i =
      { s.own i with
        frameworks := (s.own i).frameworks.insert new.frameworkId c.framework
        auditEvents := (s.own i).auditEvents.insert new.auditEventId event } := by
    simp [State.own, State.withFramework, write_own_eq]
  refine
    { frameworks := h.frameworks.write frameworkConflict_comm hunused.1 hnew
      requirements := h.requirements
      assessments := h.assessments
      adoptions := h.adoptions
      events := h.events
      auditEvents := h.auditEvents.write (fun _ _ => rfl) hunused.2.2.2.2.2 fun _ _ _ => rfl
      assessed := h.assessed
      newFrameworks := fun k f hf => ?_
      committed := h.committed
      session := h.session_step (i := i) ?_ (fun j hj => extends_visible rfl (hothers j hj)) hothers
        fun _ => goto_pc_ne }
  · rcases has_write hf with ⟨-, rfl⟩ | hold
    · exact .inr ⟨c, hpassed.mem, rfl⟩
    · exact h.newFrameworks k f hold
  · rw [goto_visible, goto_own, goto_pc_self, hown]
    refine ⟨hat _ hvisible visible_write_self _, ?_, fun hnot => absurd hin hnot⟩
    exact hheld.insertFramework hpassed.mem hvisible hnot rfl _

/-- Session `i` has inserted a requirement of a framework with its assessment. -/
def State.withRequirement (s : State ι) (i : ι) (new : NewRows) (frameworkId : Id)
    (r : CatalogRequirement) (event : AuditEvent) : State ι :=
  { s with
    requirements := s.requirements.write i new.requirementId (newRequirement frameworkId r)
    assessments := s.assessments.write i new.assessmentId { requirementId := new.requirementId }
    auditEvents := s.auditEvents.write i new.auditEventId event }

omit [DecidableEq ι] in
/-- A new requirement has no assessment yet. -/
theorem Inv.not_assessed (h : Inv catalogs t₀ s) (hunused : s.Unused new) {a : Id} {x : Assessment}
    (hx : s.assessments.Has a x) :
    assessmentConflict { requirementId := new.requirementId } x = false := by
  have hunused' := hunused.2.1
  refine beq_eq_false_iff_ne.2 fun heq : new.requirementId = x.requirementId => ?_
  rw [heq] at hunused'
  rcases hx with hx | ⟨j, hx⟩
  · obtain ⟨r, hr⟩ := h.assessed.requirement a x hx
    cases hunused'.1.symm.trans hr
  · obtain ⟨r, hr⟩ := (h.session j).held.assessed.requirement a x hx
    cases (hunused'.2 j).symm.trans hr

/-- A requirement and its assessment are inserted where none conflicts. -/
theorem Inv.withRequirement {requirements : List CatalogRequirement} {r : CatalogRequirement}
    {pc : Pc} (h : Inv catalogs t₀ s) (hunused : s.Unused new)
    (hworking : Working catalogs (s.visible i) c fw (r :: requirements) rest)
    (hheld : Held catalogs (s.visible i) (s.own i)
      (.requirement c.catalogKey r.referenceCode :: todo pc))
    (hat : ∀ v, Extends (s.visible i) v → IsRequirement v fw.1 r new.requirementId →
      ∀ o, At catalogs t₀ v o pc)
    (hnot : .requirement c.catalogKey r.referenceCode ∉ todo pc) (hin : InCall pc)
    (hnew : ∀ (q : Nat) x, s.requirements.Has q x →
      requirementConflict (newRequirement fw.1 r) x = false)
    (event : AuditEvent) : Inv catalogs t₀ ((s.withRequirement i new fw.1 r event).goto i pc) := by
  have hvisible : Extends (s.visible i) ((s.withRequirement i new fw.1 r event).visible i) :=
    { frameworks := fun _ _ hr => hr
      requirements := fun _ _ => visible_write hunused.2.1
      assessments := fun _ _ => visible_write hunused.2.2.1
      adoptions := fun _ _ hr => hr
      events := fun _ _ hr => hr
      auditEvents := fun _ _ => visible_write hunused.2.2.2.2.2 }
  have hothers : ∀ j, j ≠ i → (s.withRequirement i new fw.1 r event).own j = s.own j :=
    fun j hj => by simp [State.own, State.withRequirement, write_own_ne hj]
  have hown : (s.withRequirement i new fw.1 r event).own i =
      { s.own i with
        requirements := (s.own i).requirements.insert new.requirementId (newRequirement fw.1 r)
        assessments := (s.own i).assessments.insert new.assessmentId
          { requirementId := new.requirementId }
        auditEvents := (s.own i).auditEvents.insert new.auditEventId event } := by
    simp [State.own, State.withRequirement, write_own_eq]
  refine
    { frameworks := h.frameworks
      requirements := h.requirements.write requirementConflict_comm hunused.2.1 hnew
      assessments := h.assessments.write assessmentConflict_comm hunused.2.2.1 fun _ _ =>
        h.not_assessed hunused
      adoptions := h.adoptions
      events := h.events
      auditEvents := h.auditEvents.write (fun _ _ => rfl) hunused.2.2.2.2.2 fun _ _ _ => rfl
      assessed := h.assessed
      newFrameworks := h.newFrameworks
      committed := h.committed
      session := h.session_step (i := i) ?_ (fun j hj => extends_visible rfl (hothers j hj)) hothers
        fun _ => goto_pc_ne }
  rw [goto_visible, goto_own, goto_pc_self, hown]
  have hrequirement : IsRequirement ((s.withRequirement i new fw.1 r event).visible i) fw.1 r
      new.requirementId := ⟨newRequirement fw.1 r, visible_write_self, rfl, rfl⟩
  refine ⟨hat _ hvisible hrequirement _, ?_, fun hnot => absurd hin hnot⟩
  have hframework : IsFramework (s.visible i) c fw.1 := ⟨fw.2, hworking.row, hworking.key⟩
  exact hheld.insertRequirement hworking.passed.mem hworking.mem hvisible hnot
    (hframework.mono hvisible) (hunused.2.1.2 i) (hunused.2.2.1.2 i) _

/-- Session `i` has adopted a framework. -/
def State.withAdoption (s : State ι) (i : ι) (new : NewRows) (adoption : FrameworkAdoption)
    (event : FrameworkAdoptions.Event) : State ι :=
  { s with
    adoptions := s.adoptions.write i new.adoptionId adoption
    events := s.events.write i new.eventId event }

/-- An adoption is inserted where none conflicts. -/
theorem Inv.withAdoption {pc : Pc} {adoption : FrameworkAdoption} (h : Inv catalogs t₀ s)
    (hunused : s.Unused new) (hc : c ∈ catalogs.list) (howning : Owning (s.own i))
    (hheld : Held catalogs (s.visible i) (s.own i) (.adoption c.catalogKey :: todo pc))
    (hfamily : adoption.catalogFamily = c.catalogFamily)
    (hat : ∀ v, Extends (s.visible i) v → IsAdoption v c new.adoptionId →
      ∀ o, At catalogs t₀ v o pc)
    (hnot : .adoption c.catalogKey ∉ todo pc) (hin : InCall pc)
    (hnew : ∀ (a : Nat) x, s.adoptions.Has a x → adoptionConflict adoption x = false)
    (event : FrameworkAdoptions.Event) :
    Inv catalogs t₀ ((s.withAdoption i new adoption event).goto i pc) := by
  have hvisible : Extends (s.visible i) ((s.withAdoption i new adoption event).visible i) :=
    { frameworks := fun _ _ hr => hr
      requirements := fun _ _ hr => hr
      assessments := fun _ _ hr => hr
      adoptions := fun _ _ => visible_write hunused.2.2.2.1
      events := fun _ _ => visible_write hunused.2.2.2.2.1
      auditEvents := fun _ _ hr => hr }
  have hothers : ∀ j, j ≠ i → (s.withAdoption i new adoption event).own j = s.own j :=
    fun j hj => by simp [State.own, State.withAdoption, write_own_ne hj]
  have hown : (s.withAdoption i new adoption event).own i =
      { s.own i with
        adoptions := (s.own i).adoptions.insert new.adoptionId adoption
        events := (s.own i).events.insert new.eventId event } := by
    simp [State.own, State.withAdoption, write_own_eq]
  refine
    { frameworks := h.frameworks
      requirements := h.requirements
      assessments := h.assessments
      adoptions := h.adoptions.write adoptionConflict_comm hunused.2.2.2.1 hnew
      events := h.events.write (fun _ _ => rfl) hunused.2.2.2.2.1 fun _ _ _ => rfl
      auditEvents := h.auditEvents
      assessed := h.assessed
      newFrameworks := h.newFrameworks
      committed := h.committed
      session := h.session_step (i := i) ?_ (fun j hj => extends_visible rfl (hothers j hj)) hothers
        fun _ => goto_pc_ne }
  rw [goto_visible, goto_own, goto_pc_self, hown]
  refine ⟨hat _ hvisible ⟨adoption, visible_write_self, hfamily⟩ _, ?_, fun hnot => absurd hin hnot⟩
  exact hheld.insertAdoption hc hvisible hnot howning hfamily _

/-- The framework has been found: its requirements are next. -/
theorem Inv.foundFramework (h : Inv catalogs t₀ s) {fw : Id × Framework}
    (htodo : todo (s.pc i) = itemsOf c ++ items rest)
    (hpassed : Passed catalogs (s.visible i) c rest)
    (hfw : scalar (s.frameworks.visible i) (fun f => f.catalogKey = some c.catalogKey) = some fw) :
    Inv catalogs t₀ (s.goto i (nextRequirement c fw rest c.requirements)) := by
  obtain ⟨hrow, hkey⟩ := scalar_some hfw
  refine h.goto (Passed.working hpassed hrow (by simpa using hkey)).at_nextRequirement ?_
    (inCall_nextRequirement _)
  rw [htodo]
  exact ⟨[.framework c.catalogKey], (framework_items fw).symm⟩

/-! ### Statements -/

variable [Fintype ι]

/-- The look-up of the framework. -/
theorem Inv.findFramework (h : Inv catalogs t₀ s) (hpc : s.pc i = .findFramework c rest)
    (hs : exec s i new (.findFramework c rest) = some s') : Inv catalogs t₀ s' := by
  have hpassed := (h.session i).position
  rw [hpc] at hpassed
  simp only [exec] at hs
  -- The framework is there, or it is to be inserted.
  split at hs
  · next fw hfw =>
    obtain rfl := Option.some.inj hs
    exact h.foundFramework (hpc ▸ rfl) hpassed hfw
  · obtain rfl := Option.some.inj hs
    exact h.goto hpassed (hpc ▸ List.suffix_rfl) trivial

/-- The look-up of the winner finds one. -/
theorem Inv.rereadFramework (h : Inv catalogs t₀ s) (hpc : s.pc i = .rereadFramework c rest)
    (hs : exec s i new (.rereadFramework c rest) = some s') : Inv catalogs t₀ s' := by
  have hat := (h.session i).position
  rw [hpc] at hat
  obtain ⟨hpassed, k, f, hf, hwinner⟩ := hat
  simp only [exec] at hs
  -- The framework that won the conflict is seen now.
  split at hs
  · next fw hfw =>
    obtain rfl := Option.some.inj hs
    exact h.foundFramework (hpc ▸ rfl) hpassed hfw
  · next hnone => exact absurd (by simpa using hwinner) (scalar_none hnone hf)

/-- The insert of the framework. -/
theorem Inv.insertFramework (h : Inv catalogs t₀ s) (hpc : s.pc i = .insertFramework c rest)
    (hunused : s.Unused new) (hs : exec s i new (.insertFramework c rest) = some s') :
    Inv catalogs t₀ s' := by
  have hsession := h.session i
  rw [hpc] at hsession
  have hpassed : Passed catalogs (s.visible i) c rest := hsession.position
  simp only [exec] at hs
  -- A conflicting row makes the insert wait while it is open, and refuses it once committed.
  split at hs
  · cases hs
  · next hrefused =>
    obtain rfl := Option.some.inj hs
    obtain ⟨k, f, hf, hconflict⟩ := insert_refused hrefused
    exact h.goto ⟨hpassed, k, f, hf, key_of_conflict hconflict⟩ (hpc ▸ List.suffix_rfl) trivial
  · next frameworks hdone =>
    obtain rfl := eq_write_of_insert hdone
    have hnew := fun k x => h.frameworks.onlyInserts.conflict_of_insert hdone (a := k) (x := x)
    obtain rfl := Option.some.inj hs
    have hitems : itemsOf c ++ items rest = .framework c.catalogKey ::
        todo (nextRequirement c (new.frameworkId, c.framework) rest c.requirements) :=
      framework_items _
    refine h.withFramework hunused hpassed (hitems ▸ hsession.held) (fun v hv hrow o => ?_)
      (hsession.position.not_mem hitems) (inCall_nextRequirement _) hnew _
    exact ((Passed.mono hv hpassed).working hrow rfl).at_nextRequirement

/-- The look-up of a requirement. -/
theorem Inv.findRequirement {r : CatalogRequirement} {requirements : List CatalogRequirement}
    (h : Inv catalogs t₀ s) (hpc : s.pc i = .findRequirement c fw r requirements rest)
    (hs : exec s i new (.findRequirement c fw r requirements rest) = some s') :
    Inv catalogs t₀ s' := by
  have hworking := (h.session i).position
  rw [hpc] at hworking
  simp only [exec] at hs
  -- The requirement is there, or it is to be inserted.
  split at hs
  · next x hx =>
    obtain rfl := Option.some.inj hs
    obtain ⟨hrow, hcolumns⟩ := scalar_some hx
    refine h.goto (Working.next hworking ⟨x.2, hrow, by simpa using hcolumns⟩).at_nextRequirement ?_
      (inCall_nextRequirement _)
    rw [hpc]
    exact ⟨[_], (requirement_items fw r requirements).symm⟩
  · obtain rfl := Option.some.inj hs
    exact h.goto hworking (hpc ▸ List.suffix_rfl) trivial

/-- The look-up of the winner finds one. -/
theorem Inv.rereadRequirement {r : CatalogRequirement} {requirements : List CatalogRequirement}
    (h : Inv catalogs t₀ s) (hpc : s.pc i = .rereadRequirement c fw r requirements rest)
    (hs : exec s i new (.rereadRequirement c fw r requirements rest) = some s') :
    Inv catalogs t₀ s' := by
  have hat := (h.session i).position
  rw [hpc] at hat
  obtain ⟨hworking, q, x, hx, hcolumns⟩ := hat
  simp only [exec] at hs
  -- The requirement that won the conflict is seen now.
  split at hs
  · obtain rfl := Option.some.inj hs
    refine h.goto (Working.next hworking ⟨x, hx, hcolumns⟩).at_nextRequirement ?_
      (inCall_nextRequirement _)
    rw [hpc]
    exact ⟨[_], (requirement_items fw r requirements).symm⟩
  · next hnone => exact absurd (by simpa using hcolumns) (scalar_none hnone hx)

/-- The insert of a requirement. -/
theorem Inv.insertRequirement {r : CatalogRequirement} {requirements : List CatalogRequirement}
    (h : Inv catalogs t₀ s) (hpc : s.pc i = .insertRequirement c fw r requirements rest)
    (hunused : s.Unused new)
    (hs : exec s i new (.insertRequirement c fw r requirements rest) = some s') :
    Inv catalogs t₀ s' := by
  have hsession := h.session i
  rw [hpc] at hsession
  have hworking : Working catalogs (s.visible i) c fw (r :: requirements) rest := hsession.position
  simp only [exec] at hs
  -- A conflicting row makes the insert wait while it is open, and refuses it once committed.
  split at hs
  · cases hs
  · next hrefused =>
    obtain rfl := Option.some.inj hs
    obtain ⟨q, x, hx, hconflict⟩ := insert_refused hrefused
    exact h.goto ⟨hworking, q, x, hx, code_of_conflict hconflict⟩ (hpc ▸ List.suffix_rfl) trivial
  · next hdone =>
    obtain rfl := eq_write_of_insert hdone
    have hnew := fun k x => h.requirements.onlyInserts.conflict_of_insert hdone (a := k) (x := x)
    split at hs
    · cases hs
    · next hrefused =>
      obtain ⟨a, x, hx, hconflict⟩ := insert_refused hrefused
      cases (h.not_assessed hunused (has_of_visible hx)).symm.trans hconflict
    · next hdone' =>
      obtain rfl := eq_write_of_insert hdone'
      obtain rfl := Option.some.inj hs
      have hitems : requirementItems c (r :: requirements) ++ .adoption c.catalogKey ::
          items rest = .requirement c.catalogKey r.referenceCode ::
            todo (nextRequirement c fw rest requirements) := requirement_items fw r requirements
      refine h.withRequirement hunused hworking (hitems ▸ hsession.held) (fun v hv hrow o => ?_)
        (hsession.position.not_mem hitems) (inCall_nextRequirement _) hnew _
      exact ((hworking.mono hv).next hrow).at_nextRequirement

/-- The look-up of the adoption. -/
theorem Inv.findAdoption (h : Inv catalogs t₀ s) (hready : Ready catalogs t₀)
    (hpc : s.pc i = .findAdoption c fw rest)
    (hs : exec s i new (.findAdoption c fw rest) = some s') : Inv catalogs t₀ s' := by
  have hworking : Working catalogs (s.visible i) c fw [] rest := by
    have hat := (h.session i).position
    rwa [hpc] at hat
  simp only [exec] at hs
  -- The adoption is there, or the framework is to be looked at.
  split at hs
  · next x hx =>
    obtain rfl := Option.some.inj hs
    obtain ⟨hrow, hfamily⟩ := scalar_some hx
    refine h.goto (hworking.at_nextCatalog ⟨x.2, hrow, by simpa using hfamily⟩) ?_
      (inCall_nextCatalog _)
    rw [hpc]
    exact ⟨[_], adoption_items.symm⟩
  · next hnone =>
    obtain rfl := Option.some.inj hs
    refine h.goto ⟨hworking, h.adopting hready hworking ?_⟩ (hpc ▸ List.suffix_rfl) trivial
    rintro a ⟨x, hx, hfamily⟩
    exact scalar_none hnone hx (by simpa using hfamily)

/-- The checks of `adopt_framework`: there is a family, and no adoption. -/
theorem Inv.checkAdoption (h : Inv catalogs t₀ s) (hready : Ready catalogs t₀)
    (hpc : s.pc i = .checkAdoption c fw rest)
    (hs : exec s i new (.checkAdoption c fw rest) = some s') : Inv catalogs t₀ s' := by
  have hat := (h.session i).position
  rw [hpc] at hat
  obtain ⟨hworking, hadopting⟩ := hat
  have hfamily := h.family hready hworking hadopting
  simp only [exec, hfamily] at hs
  split at hs
  · obtain rfl := Option.some.inj hs
    exact h.goto ⟨hworking, hadopting, rfl⟩ (hpc ▸ List.suffix_rfl) trivial
  · next a x hx =>
    obtain ⟨hrow, hx⟩ := scalar_some hx
    refine absurd ⟨x, hrow, by simpa using hx⟩
      (h.not_adopted hadopting hworking.passed.mem (hpc ▸ List.mem_cons_self) a)

/-- The insert of the adoption. -/
theorem Inv.insertAdoption {family : String} (h : Inv catalogs t₀ s)
    (hpc : s.pc i = .insertAdoption c fw family rest) (hunused : s.Unused new)
    (hs : exec s i new (.insertAdoption c fw family rest) = some s') : Inv catalogs t₀ s' := by
  have hsession := h.session i
  rw [hpc] at hsession
  obtain ⟨hworking, hadopting, rfl⟩ := hsession.position
  have hc := hworking.passed.mem
  simp only [exec] at hs
  -- A conflicting row makes the insert wait while it is open, and refuses it once committed.
  split at hs
  · cases hs
  · next hrefused =>
    obtain ⟨a, x, hx, hconflict⟩ := insert_refused hrefused
    refine absurd ⟨x, hx, ?_⟩ (h.not_adopted hadopting hc (hpc ▸ List.mem_cons_self) a)
    exact (beq_iff_eq.1 hconflict).symm
  · next hdone =>
    obtain rfl := eq_write_of_insert hdone
    have hnew := fun k x => h.adoptions.onlyInserts.conflict_of_insert hdone (a := k) (x := x)
    obtain rfl := Option.some.inj hs
    have hitems : Item.adoption c.catalogKey :: items rest =
        .adoption c.catalogKey :: todo (nextCatalog rest) := adoption_items
    refine h.withAdoption hunused hc hadopting.1 (hitems ▸ hsession.held) rfl
      (fun v hv hrow o => ?_) (hsession.position.not_mem hitems) (inCall_nextCatalog _) hnew _
    exact (hworking.mono hv).at_nextCatalog hrow

/-- Every statement of a call keeps the invariant. -/
theorem Inv.of_exec (h : Inv catalogs t₀ s) (hready : Ready catalogs t₀) (hunused : s.Unused new)
    (hs : exec s i new (s.pc i) = some s') : Inv catalogs t₀ s' := by
  cases hpc : s.pc i with rw [hpc] at hs
  | idle | returned | done | raised _ => cases hs
  | findFramework c rest => exact h.findFramework hpc hs
  | insertFramework c rest => exact h.insertFramework hpc hunused hs
  | rereadFramework c rest => exact h.rereadFramework hpc hs
  | findRequirement c fw r todo rest => exact h.findRequirement hpc hs
  | insertRequirement c fw r todo rest => exact h.insertRequirement hpc hunused hs
  | rereadRequirement c fw r todo rest => exact h.rereadRequirement hpc hs
  | findAdoption c fw rest => exact h.findAdoption hready hpc hs
  | checkAdoption c fw rest => exact h.checkAdoption hready hpc hs
  | insertAdoption c fw family rest => exact h.insertAdoption hpc hunused hs

/-- Every step keeps the invariant. -/
theorem Inv.of_step {l : Label ι} (h : Inv catalogs t₀ s) (hready : Ready catalogs t₀)
    (hs : step catalogs s l = some s') : Inv catalogs t₀ s' := by
  -- A call begins, makes a statement, commits or rolls back.
  cases l with
  | call i =>
    simp only [step] at hs
    split at hs
    · next hpc =>
      obtain rfl := Option.some.inj hs
      exact h.call (by simp [hpc, InCall])
    · next hpc =>
      obtain rfl := Option.some.inj hs
      exact h.call (by simp [hpc, InCall])
    · next hpc =>
      obtain rfl := Option.some.inj hs
      exact h.call (by simp [hpc, InCall])
    · cases hs
  | statement i new =>
    obtain ⟨hunused, hs⟩ := Option.ite_none_right_eq_some.1 hs
    exact h.of_exec hready hunused hs
  | commit i =>
    simp only [step] at hs
    split at hs
    · next hpc =>
      obtain rfl := Option.some.inj hs
      exact h.commit hpc
    · cases hs
  | rollback i =>
    obtain rfl := Option.some.inj hs
    exact h.rollback

/-- The invariant holds in every run. -/
theorem inv_of_run (ht : t₀.Sound) (hready : Ready catalogs t₀)
    (h : Run (step catalogs) (fun _ _ => True) (State.initial t₀) s) : Inv catalogs t₀ s :=
  h.invariant (inv_initial ht) fun _ _ _ hinv _ hs => hinv.of_step hready hs

end

end MiniGrc.ConcurrentCatalogs
