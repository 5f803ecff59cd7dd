import Mathlib.Algebra.BigOperators.Group.Finset.Basic
import Mathlib.Algebra.Order.BigOperators.Group.Finset
import MiniGrc.Spec.CatalogInvariant

/-!
# Reconciliations that race

`reconcile_system_catalogs` promises to be safe on every startup, also under concurrent callers.
Its frameworks and requirements are: whoever loses a race at their unique indexes reads the
winner's row. `adopt_framework` recovers from nothing, so that two calls which both miss the
adoption of a family end in an `IntegrityError`. That takes a catalog that is filled before
either of them inserts anything: as soon as a call has a framework or a requirement to insert,
the other one waits for it there, and finds its adoption.

A call that waits, waits for one that has passed the same item before, so that nobody waits for
ever.

## Key results

- `Inv.exists_step`: if a session is in a call, some session can go on
- `reconciled_of_run`: no exception, no changed row, and complete catalogs after every call,
  from every database that is `Ready`
- `ready_empty`, `ready_of_complete`, `reconciled_raises`: databases that are, and one that is not
-/

namespace MiniGrc.ConcurrentCatalogs

open OpenRows
open FrameworkAdoptions (FrameworkAdoption)

variable {ι : Type} {catalogs : Catalogs} {t₀ : Tables} {s s' : State ι} {i j : ι}
  {c : SystemCatalog} {new : NewRows}

/-! ## Calls end -/

/-- A step of a call: nobody calls anew or dies. -/
def Label.Forward : Label ι → Prop
  | .statement _ _ | .commit _ => True
  | .call _ | .rollback _ => False

/-- How many statements a call needs at most for the item that it is at. -/
def attempts : Pc → Nat
  | .findFramework _ _ | .findRequirement _ _ _ _ _ | .findAdoption _ _ _ => 3
  | .insertFramework _ _ | .insertRequirement _ _ _ _ _ | .checkAdoption _ _ _ => 2
  | .rereadFramework _ _ | .rereadRequirement _ _ _ _ _ | .insertAdoption _ _ _ _ | .returned => 1
  | .idle | .done | .raised _ => 0

/-- How many steps a call needs at most. -/
def remaining (pc : Pc) : Nat := 3 * (todo pc).length + attempts pc

/-- A call makes three attempts at most. -/
theorem attempts_le (pc : Pc) : attempts pc ≤ 3 := by
  cases pc <;> simp [attempts]

/-- Inside a call an attempt is left. -/
theorem attempts_pos {pc : Pc} (h : InCall pc) : 0 < attempts pc := by
  cases pc <;> simp_all [attempts, InCall]

/-- Where a call goes with a statement. -/
inductive Goes (pc : Pc) : Pc → Prop
  /-- to the next item -/
  | on {pc' : Pc} {x : Item} (items : todo pc = x :: todo pc') (inCall : InCall pc') : Goes pc pc'
  /-- to another statement for the same item -/
  | again {pc' : Pc} (items : todo pc' = todo pc) (lt : attempts pc' < attempts pc)
      (inCall : InCall pc') : Goes pc pc'
  | raised (error : FrameworkRequirements.Failure) : Goes pc (.raised error)

/-- Going on leaves less to do. -/
theorem Goes.remaining_lt {pc pc' : Pc} (h : Goes pc pc') (hpc : InCall pc) :
    remaining pc' < remaining pc := by
  have hpos := attempts_pos hpc
  cases h with
  | on items _ =>
    have hle := attempts_le pc'
    simp only [remaining, items, List.length_cons]
    omega
  | again items lt _ =>
    simp only [remaining, items]
    omega
  | raised e => exact Nat.lt_of_lt_of_le hpos (Nat.le_add_left _ _)

/-- A statement goes on inside its call, and commits nothing. -/
theorem exec_goes [DecidableEq ι] [Fintype ι] {pc : Pc} (hs : exec s i new pc = some s') :
    InCall pc ∧ s'.committed = s.committed ∧
      ∃ pc', s'.pc = Function.update s.pc i pc' ∧ Goes pc pc' := by
  -- A statement finds its row, inserts it, or reads again after a conflict.
  cases pc with
  | idle | returned | done | raised _ => cases hs
  | findFramework c rest =>
    refine ⟨trivial, ?_⟩
    simp only [exec] at hs
    split at hs <;> obtain rfl := Option.some.inj hs
    · exact ⟨rfl, _, rfl, .on (framework_items _) (inCall_nextRequirement _)⟩
    · exact ⟨rfl, _, rfl, .again rfl (by simp [attempts]) trivial⟩
  | insertFramework c rest =>
    refine ⟨trivial, ?_⟩
    simp only [exec] at hs
    split at hs
    · cases hs
    · obtain rfl := Option.some.inj hs
      exact ⟨rfl, _, rfl, .again rfl (by simp [attempts]) trivial⟩
    · next hdone =>
      obtain rfl := eq_write_of_insert hdone
      obtain rfl := Option.some.inj hs
      exact ⟨rfl, _, rfl, .on (framework_items _) (inCall_nextRequirement _)⟩
  | rereadFramework c rest =>
    refine ⟨trivial, ?_⟩
    simp only [exec] at hs
    split at hs <;> obtain rfl := Option.some.inj hs
    · exact ⟨rfl, _, rfl, .on (framework_items _) (inCall_nextRequirement _)⟩
    · exact ⟨rfl, _, rfl, .raised _⟩
  | findRequirement c fw r todo rest =>
    refine ⟨trivial, ?_⟩
    simp only [exec] at hs
    split at hs <;> obtain rfl := Option.some.inj hs
    · exact ⟨rfl, _, rfl, .on (requirement_items _ _ _) (inCall_nextRequirement _)⟩
    · exact ⟨rfl, _, rfl, .again rfl (by simp [attempts]) trivial⟩
  | insertRequirement c fw r todo rest =>
    refine ⟨trivial, ?_⟩
    simp only [exec] at hs
    split at hs
    · cases hs
    · obtain rfl := Option.some.inj hs
      exact ⟨rfl, _, rfl, .again rfl (by simp [attempts]) trivial⟩
    · next hdone =>
      obtain rfl := eq_write_of_insert hdone
      split at hs
      · cases hs
      · obtain rfl := Option.some.inj hs
        exact ⟨rfl, _, rfl, .again rfl (by simp [attempts]) trivial⟩
      · next hdone' =>
        obtain rfl := eq_write_of_insert hdone'
        obtain rfl := Option.some.inj hs
        exact ⟨rfl, _, rfl, .on (requirement_items _ _ _) (inCall_nextRequirement _)⟩
  | rereadRequirement c fw r todo rest =>
    refine ⟨trivial, ?_⟩
    simp only [exec] at hs
    split at hs <;> obtain rfl := Option.some.inj hs
    · exact ⟨rfl, _, rfl, .on (requirement_items _ _ _) (inCall_nextRequirement _)⟩
    · exact ⟨rfl, _, rfl, .raised _⟩
  | findAdoption c fw rest =>
    refine ⟨trivial, ?_⟩
    simp only [exec] at hs
    split at hs <;> obtain rfl := Option.some.inj hs
    · exact ⟨rfl, _, rfl, .on adoption_items (inCall_nextCatalog _)⟩
    · exact ⟨rfl, _, rfl, .again rfl (by simp [attempts]) trivial⟩
  | checkAdoption c fw rest =>
    refine ⟨trivial, ?_⟩
    simp only [exec] at hs
    split at hs
    · obtain rfl := Option.some.inj hs
      exact ⟨rfl, _, rfl, .raised _⟩
    · split at hs
      · obtain rfl := Option.some.inj hs
        exact ⟨rfl, _, rfl, .again rfl (by simp [attempts]) trivial⟩
      · split at hs <;> obtain rfl := Option.some.inj hs
        · exact ⟨rfl, _, rfl, .on adoption_items (inCall_nextCatalog _)⟩
        · exact ⟨rfl, _, rfl, .raised _⟩
  | insertAdoption c fw family rest =>
    refine ⟨trivial, ?_⟩
    simp only [exec] at hs
    split at hs
    · cases hs
    · obtain rfl := Option.some.inj hs
      exact ⟨rfl, _, rfl, .raised _⟩
    · next hdone =>
      obtain rfl := eq_write_of_insert hdone
      obtain rfl := Option.some.inj hs
      exact ⟨rfl, _, rfl, .on adoption_items (inCall_nextCatalog _)⟩

section Ends

variable [DecidableEq ι] [Fintype ι]

/-- How many steps all calls need at most. -/
def State.remaining (s : State ι) : Nat := ∑ i, ConcurrentCatalogs.remaining (s.pc i)

/-- A session that has less to do leaves less to do in all. -/
theorem remaining_update {pc : Pc} (hpc : s'.pc = Function.update s.pc i pc)
    (hlt : remaining pc < remaining (s.pc i)) : s'.remaining < s.remaining := by
  refine Finset.sum_lt_sum (fun j _ => ?_) ⟨i, Finset.mem_univ i, by simpa [hpc] using hlt⟩
  by_cases hj : j = i
  · subst hj
    simpa [hpc] using hlt.le
  · simp [hpc, hj]

/-- Every step forward leaves less to do. -/
theorem remaining_step {l : Label ι} (hl : l.Forward) (hs : step catalogs s l = some s') :
    s'.remaining < s.remaining := by
  -- Only statements and commits go forward.
  cases l with
  | call _ | rollback _ => exact hl.elim
  | statement i new =>
    obtain ⟨-, hs⟩ := Option.ite_none_right_eq_some.1 hs
    obtain ⟨hin, -, pc, hpc, hgoes⟩ := exec_goes hs
    exact remaining_update hpc (hgoes.remaining_lt hin)
  | commit i =>
    simp only [step] at hs
    split at hs
    · next hpc =>
      obtain rfl := Option.some.inj hs
      have hlt : remaining .done < remaining (s.pc i) := by
        simp [hpc, remaining, todo, attempts]
      exact remaining_update rfl hlt
    · cases hs

/-- Calls that nobody interrupts come to an end. -/
theorem length_add_remaining_le {ls : List (Label ι)} (hls : ∀ l ∈ ls, l.Forward)
    (h : Run.exec (step catalogs) s ls = some s') : ls.length + s'.remaining ≤ s.remaining := by
  induction ls generalizing s with
  | nil =>
    obtain rfl := Option.some.inj h
    simp
  | cons l ls ih =>
    obtain ⟨t, ht, hrest⟩ := Option.bind_eq_some_iff.1 h
    have hlt := remaining_step (hls l List.mem_cons_self) ht
    have hle := ih (fun l hl => hls l (List.mem_cons_of_mem _ hl)) hrest
    simp only [List.length_cons]
    omega

/-! ## Nobody waits for ever -/

omit [DecidableEq ι] [Fintype ι] in
/-- A call that has passed the next item of another one is further. -/
theorem Inv.ahead (h : Inv catalogs t₀ s) {x : Item} {l : List Item}
    (hi : todo (s.pc i) = x :: l) (hj : x ∉ todo (s.pc j)) :
    (todo (s.pc j)).length < (todo (s.pc i)).length := by
  have hx : x ∈ todo (s.pc i) := hi ▸ List.mem_cons_self
  rcases List.suffix_or_suffix_of_suffix (h.session i).position.suffix
    (h.session j).position.suffix with hsuffix | hsuffix
  · exact absurd (hsuffix.subset hx) hj
  · refine lt_of_le_of_ne hsuffix.length_le fun heq => hj ?_
    rwa [hsuffix.eq_of_length heq]

omit [DecidableEq ι] [Fintype ι] in
/-- An open transaction is that of a call. -/
theorem Inv.inCall (h : Inv catalogs t₀ s) (hj : s.own j ≠ Tables.empty) : InCall (s.pc j) :=
  Classical.not_not.1 (mt (h.session j).closed hj)

/-- Another call is further than session `i`'s. -/
def Awaited (s : State ι) (i : ι) : Prop :=
  ∃ j, InCall (s.pc j) ∧ (todo (s.pc j)).length < (todo (s.pc i)).length

/-- Who waits to insert a framework, waits for a call that is further, -/
theorem Inv.framework_awaited {rest : List SystemCatalog} (h : Inv catalogs t₀ s)
    (hpc : s.pc i = .insertFramework c rest)
    (hwaits : s.frameworks.insert frameworkConflict i new.frameworkId c.framework = .waits) :
    Awaited s i := by
  obtain ⟨j, -, k, f, hf, hconflict⟩ := insert_waits hwaits
  have hown : (s.own j).frameworks[k]? = some f := hf
  obtain ⟨c', -, hkey, hnot⟩ := (h.session j).held.frameworks k f hown
  have heq : c'.catalogKey = c.catalogKey :=
    Option.some.inj (hkey.symm.trans (key_of_conflict hconflict))
  refine ⟨j, h.inCall fun he => Table.not_get_empty (he ▸ hown), ?_⟩
  have hitems := (congrArg todo hpc).trans (framework_items (new.frameworkId, c.framework))
  exact h.ahead hitems (heq ▸ hnot)

/-- or a requirement, -/
theorem Inv.requirement_awaited {fw : Id × Framework} {r : CatalogRequirement}
    {requirements : List CatalogRequirement} {rest : List SystemCatalog}
    (h : Inv catalogs t₀ s) (hpc : s.pc i = .insertRequirement c fw r requirements rest)
    (hwaits : s.requirements.insert requirementConflict i new.requirementId
      (newRequirement fw.1 r) = .waits) : Awaited s i := by
  have hworking : Working catalogs (s.visible i) c fw (r :: requirements) rest := by
    have hat := (h.session i).position
    rwa [hpc] at hat
  obtain ⟨j, -, q, x, hx, hconflict⟩ := insert_waits hwaits
  have hown : (s.own j).requirements[q]? = some x := hx
  obtain ⟨hframework, hcode⟩ := code_of_conflict hconflict
  obtain ⟨c', hc', r', -, hcode', ⟨f, hf, hkey⟩, hnot⟩ :=
    (h.session j).held.requirements q x hown
  -- both sessions see the same framework, so that it is the same catalog
  have hf' : s.frameworks.Has fw.1 f := hframework ▸ has_of_visible hf
  obtain rfl := h.frameworks.onlyInserts.has_unique hf' (has_of_visible hworking.row)
  have heq : c'.catalogKey = c.catalogKey := Option.some.inj (hkey.symm.trans hworking.key)
  refine ⟨j, h.inCall fun he => Table.not_get_empty (he ▸ hown), ?_⟩
  refine h.ahead ((congrArg todo hpc).trans (requirement_items fw r requirements)) ?_
  rwa [← heq, ← hcode, hcode']

/-- or an adoption. -/
theorem Inv.adoption_awaited {fw : Id × Framework} {family : String}
    {rest : List SystemCatalog} {adoption : FrameworkAdoption} (h : Inv catalogs t₀ s)
    (hpc : s.pc i = .insertAdoption c fw family rest) (hfamily : adoption.catalogFamily = family)
    (hwaits : s.adoptions.insert adoptionConflict i new.adoptionId adoption = .waits) :
    Awaited s i := by
  have hat := (h.session i).position
  rw [hpc] at hat
  obtain ⟨hworking, -, rfl⟩ := hat
  obtain ⟨j, -, a, x, hx, hconflict⟩ := insert_waits hwaits
  have hown : (s.own j).adoptions[a]? = some x := hx
  obtain ⟨-, c', hc', hfamily', hnot⟩ := (h.session j).held.adoptions a x hown
  have hconflict' : adoption.catalogFamily = x.catalogFamily := beq_iff_eq.1 hconflict
  obtain rfl := eq_of_catalogFamily hc' hworking.passed.mem
    (hfamily'.symm.trans (hconflict'.symm.trans hfamily))
  refine ⟨j, h.inCall fun he => Table.not_get_empty (he ▸ hown), ?_⟩
  exact h.ahead ((congrArg todo hpc).trans adoption_items) hnot

/-- A statement can be executed, unless it waits for a call that is further. -/
theorem Inv.advances (h : Inv catalogs t₀ s) (hunused : s.Unused new) (hi : InCall (s.pc i))
    (hreturned : s.pc i ≠ .returned) :
    (∃ s', exec s i new (s.pc i) = some s') ∨ Awaited s i := by
  -- Only an insert can wait, and only for the rows of another call.
  cases hpc : s.pc i with
  | idle | done | raised _ => simp [hpc, InCall] at hi
  | returned => exact absurd hpc hreturned
  | findFramework c rest =>
    simp only [exec]
    split <;> exact .inl ⟨_, rfl⟩
  | insertFramework c rest =>
    simp only [exec]
    split
    · next hwaits => exact .inr (h.framework_awaited hpc hwaits)
    · exact .inl ⟨_, rfl⟩
    · exact .inl ⟨_, rfl⟩
  | rereadFramework c rest =>
    simp only [exec]
    split <;> exact .inl ⟨_, rfl⟩
  | findRequirement c fw r todo rest =>
    simp only [exec]
    split <;> exact .inl ⟨_, rfl⟩
  | insertRequirement c fw r todo rest =>
    simp only [exec]
    split
    · next hwaits => exact .inr (h.requirement_awaited hpc hwaits)
    · exact .inl ⟨_, rfl⟩
    · split
      · next hwaits =>
        obtain ⟨j, -, a, x, hx, hconflict⟩ := insert_waits hwaits
        cases (h.not_assessed hunused (.inr ⟨j, hx⟩)).symm.trans hconflict
      · exact .inl ⟨_, rfl⟩
      · exact .inl ⟨_, rfl⟩
  | rereadRequirement c fw r todo rest =>
    simp only [exec]
    split <;> exact .inl ⟨_, rfl⟩
  | findAdoption c fw rest =>
    simp only [exec]
    split <;> exact .inl ⟨_, rfl⟩
  | checkAdoption c fw rest =>
    simp only [exec]
    split
    · exact .inl ⟨_, rfl⟩
    · split
      · exact .inl ⟨_, rfl⟩
      · split <;> exact .inl ⟨_, rfl⟩
  | insertAdoption c fw family rest =>
    simp only [exec]
    split
    · next hwaits => exact .inr (h.adoption_awaited hpc rfl hwaits)
    · exact .inl ⟨_, rfl⟩
    · exact .inl ⟨_, rfl⟩

omit [DecidableEq ι] in
/-- There always are new ids. -/
theorem exists_newRows (s : State ι) : ∃ new, s.Unused new := by
  obtain ⟨f, hf⟩ := s.frameworks.exists_unused
  obtain ⟨r, hr⟩ := s.requirements.exists_unused
  obtain ⟨a, ha⟩ := s.assessments.exists_unused
  obtain ⟨d, hd⟩ := s.adoptions.exists_unused
  obtain ⟨e, he⟩ := s.events.exists_unused
  obtain ⟨u, hu⟩ := s.auditEvents.exists_unused
  exact ⟨⟨f 0, r 0, a 0, d 0, e 0, u 0, 0⟩, hf 0, hr 0, ha 0, hd 0, he 0, hu 0⟩

/-- If a session is in a call, some session can go on. -/
theorem Inv.exists_step (h : Inv catalogs t₀ s) (hi : InCall (s.pc i)) :
    ∃ l s', l.Forward ∧ step catalogs s l = some s' := by
  obtain ⟨new, hunused⟩ := exists_newRows s
  -- by the way that is ahead: there is a call that waits for nobody
  induction hn : (todo (s.pc i)).length using Nat.strong_induction_on generalizing i with
  | _ n ih =>
    by_cases hreturned : s.pc i = .returned
    · exact ⟨.commit i, s.commit i, trivial, by simp [step, hreturned]⟩
    · rcases h.advances hunused hi hreturned with ⟨s', hs'⟩ | ⟨j, hj, hlt⟩
      · exact ⟨.statement i new, s', trivial, by simp [step, hunused, hs']⟩
      · exact ih _ (hn ▸ hlt) hj rfl

/-! ## Who has returned -/

/-- A call stays a call until it is done, as nothing is raised. -/
theorem Inv.inCall_step {l : Label ι} (h : Inv catalogs t₀ s') (hl : l.Forward)
    (hs : step catalogs s l = some s') (hi : InCall (s.pc i) ∨ s.pc i = .done) :
    InCall (s'.pc i) ∨ s'.pc i = .done := by
  -- The session itself goes on, commits or is left as it is.
  cases l with
  | call _ | rollback _ => exact hl.elim
  | statement j new =>
    obtain ⟨-, hs⟩ := Option.ite_none_right_eq_some.1 hs
    obtain ⟨-, -, pc, hpc, hgoes⟩ := exec_goes hs
    by_cases hj : i = j
    · subst hj
      have hposition := (h.session i).position
      rw [hpc, Function.update_self] at hposition ⊢
      cases hgoes with
      | on _ inCall => exact .inl inCall
      | again _ _ inCall => exact .inl inCall
      | raised e => exact hposition.elim
    · rwa [hpc, Function.update_of_ne hj]
  | commit j =>
    simp only [step] at hs
    split at hs
    · obtain rfl := Option.some.inj hs
      by_cases hj : i = j
      · subst hj
        exact .inr (by simp [State.commit])
      · simpa [State.commit, hj] using hi
    · cases hs

/-- Of calls that nobody interrupts, those that cannot go on are done. -/
theorem Inv.done_of_stuck {ls : List (Label ι)} (h : Inv catalogs t₀ s)
    (hready : Ready catalogs t₀) (hls : ∀ l ∈ ls, l.Forward)
    (hs : Run.exec (step catalogs) s ls = some s')
    (hstuck : ∀ l, l.Forward → step catalogs s' l = none)
    (hi : InCall (s.pc i) ∨ s.pc i = .done) : s'.pc i = .done := by
  -- Along the run: a call stays one until it is done.
  induction ls generalizing s with
  | nil =>
    obtain rfl := Option.some.inj hs
    refine hi.resolve_left fun hin => ?_
    obtain ⟨l, u, hl, hu⟩ := h.exists_step hin
    cases (hstuck l hl).symm.trans hu
  | cons l ls ih =>
    obtain ⟨t, ht, hrest⟩ := Option.bind_eq_some_iff.1 hs
    have hl := hls l List.mem_cons_self
    have hinv := h.of_step hready ht
    exact ih hinv (fun l hl => hls l (List.mem_cons_of_mem _ hl)) hrest
      (hinv.inCall_step hl ht hi)

/-! ## Complete catalogs -/

/-- Every catalog has exactly one framework, one requirement with one assessment per reference
    code, and its family one adoption. -/
structure Complete (t : Tables) (c : SystemCatalog) : Prop where
  framework : ∃! k, IsFramework t c k
  requirement : ∀ k, IsFramework t c k → ∀ r ∈ c.requirements, ∃! q, IsRequirement t k r q
  assessment : ∀ k, IsFramework t c k → ∀ r ∈ c.requirements, ∀ q, IsRequirement t k r q →
    ∃! a, IsAssessment t q a
  adoption : ∃! a, IsAdoption t c a

/-- A complete catalog is present. -/
theorem Complete.present {t : Tables} (h : Complete t c) : Present t c := by
  obtain ⟨k, hk, -⟩ := h.framework
  exact ⟨⟨k, hk, fun r hr => (h.requirement k hk r hr).exists⟩, h.adoption.exists⟩

omit [DecidableEq ι] [Fintype ι] in
/-- A catalog that is present is complete. -/
theorem Inv.complete (h : Inv catalogs t₀ s) (hpresent : Present s.committed c) :
    Complete s.committed c := by
  obtain ⟨⟨k, hk, hrequirements⟩, a, ha⟩ := hpresent
  have hframework : ∀ k', IsFramework s.committed c k' → k' = k := by
    rintro k' ⟨f', hf', hkey'⟩
    obtain ⟨f, hf, hkey⟩ := hk
    exact h.framework_unique (.inl hf') (.inl hf) hkey' hkey
  refine ⟨⟨k, hk, hframework⟩, fun k' hk' r hr => ?_, fun k' hk' r hr q hq => ?_, a, ha, ?_⟩
  · obtain rfl := hframework k' hk'
    obtain ⟨q, hq⟩ := hrequirements r hr
    refine ⟨q, hq, ?_⟩
    rintro q' ⟨x', hx', hframework', hcode'⟩
    obtain ⟨x, hx, hframework, hcode⟩ := hq
    exact h.requirement_unique (.inl hx') (.inl hx) (hframework'.trans hframework.symm)
      (hcode'.trans hcode.symm)
  · obtain ⟨x, hx, -⟩ := hq
    obtain ⟨b, hb⟩ := h.assessed.assessment q x hx
    refine ⟨b, hb, ?_⟩
    rintro b' ⟨y', hy', hq'⟩
    obtain ⟨y, hy, hq⟩ := hb
    by_contra hne
    have hconflict := h.assessments.consistent b' b y' y (.inl hy') (.inl hy) hne
    simp [assessmentConflict, hq, hq'] at hconflict
  · rintro a' ⟨x', hx', hfamily'⟩
    obtain ⟨x, hx, hfamily⟩ := ha
    by_contra hne
    have hconflict := h.adoptions.consistent a' a x' x (.inl hx') (.inl hx) hne
    simp [adoptionConflict, hfamily, hfamily'] at hconflict

omit [DecidableEq ι] [Fintype ι] in
/-- A call that is done has left all catalogs present. -/
theorem Inv.present_of_done (h : Inv catalogs t₀ s) (hi : s.pc i = .done)
    (hc : c ∈ catalogs.list) : Present s.committed c := by
  have hat := (h.session i).position
  rw [hi] at hat
  have hown := (h.session i).closed (by simp [hi, InCall])
  have hpresent := hat c hc
  rwa [visible_eq_over, hown, Tables.over_empty] at hpresent

omit [DecidableEq ι] [Fintype ι] in
/-- Once all catalogs are committed, nobody holds any row. -/
theorem Inv.own_eq_empty (h : Inv catalogs t₀ s)
    (hpresent : ∀ c ∈ catalogs.list, Present s.committed c) (i : ι) : s.own i = Tables.empty := by
  have hnot := h.not_owning hpresent i
  have hheld := (h.session i).held
  have hframeworks : (s.own i).frameworks = ∅ :=
    Table.eq_empty fun k f hf => hnot (.inl ⟨k, f, hf⟩)
  have hrequirements : (s.own i).requirements = ∅ :=
    Table.eq_empty fun q x hx => hnot (.inr ⟨q, x, hx⟩)
  have hassessments : (s.own i).assessments = ∅ := Table.eq_empty fun a x hx => by
    obtain ⟨r, hr⟩ := hheld.assessed.requirement a x hx
    exact hnot (.inr ⟨_, r, hr⟩)
  have hadoptions : (s.own i).adoptions = ∅ :=
    Table.eq_empty fun a x hx => hnot (hheld.adoptions a x hx).1
  have hevents : (s.own i).events = ∅ := Table.eq_empty fun k x hx => hnot (hheld.events k x hx)
  have hauditEvents : (s.own i).auditEvents = ∅ :=
    Table.eq_empty fun k x hx => hnot (hheld.auditEvents k x hx)
  rw [Tables.empty, ← hframeworks, ← hrequirements, ← hassessments, ← hadoptions, ← hevents,
    ← hauditEvents]

/-- What is committed changes with a commit only. -/
theorem step_committed {l : Label ι} (hs : step catalogs s l = some s') :
    s'.committed = s.committed ∨ ∃ i, s'.committed = s.visible i := by
  -- Only a commit changes what is committed.
  cases l with
  | call i =>
    simp only [step] at hs
    split at hs <;> first
      | exact .inl (Option.some.inj hs ▸ rfl)
      | cases hs
  | statement i new =>
    obtain ⟨-, hs⟩ := Option.ite_none_right_eq_some.1 hs
    exact .inl (exec_goes hs).2.1
  | commit i =>
    simp only [step] at hs
    split at hs
    · obtain rfl := Option.some.inj hs
      exact .inr ⟨i, rfl⟩
    · cases hs
  | rollback i =>
    obtain rfl := Option.some.inj hs
    exact .inl rfl

/-- Once all catalogs are committed, no call writes anything. -/
theorem Inv.quiet_step {l : Label ι} (h : Inv catalogs t₀ s)
    (hpresent : ∀ c ∈ catalogs.list, Present s.committed c)
    (hs : step catalogs s l = some s') : s'.committed = s.committed := by
  rcases step_committed hs with heq | ⟨i, heq⟩
  · exact heq
  · rw [heq, visible_eq_over, h.own_eq_empty hpresent i, Tables.over_empty]

/-! ## Runs -/

/-- What is promised of reconciliations that race, in every state that they reach. -/
structure Reconciled (catalogs : Catalogs) (t₀ : Tables) (s : State ι) : Prop where
  noException : ∀ i e, s.pc i ≠ .raised e
  /-- No row that was there at the start is changed or deleted. -/
  kept : Extends t₀ s.committed
  /-- Calls that nobody interrupts from here on come to an end: -/
  ends : ∀ ls s', (∀ l ∈ ls, l.Forward) → Run.exec (step catalogs) s ls = some s' →
    ls.length ≤ s.remaining
  /-- when none of them can go on, they all are done. -/
  completes : ∀ ls s', (∀ l ∈ ls, l.Forward) → Run.exec (step catalogs) s ls = some s' →
    (∀ l, l.Forward → step catalogs s' l = none) → ∀ i, InCall (s.pc i) → s'.pc i = .done
  complete : ∀ i, s.pc i = .done → ∀ c ∈ catalogs.list, Complete s.committed c
  /-- Afterwards no call writes anything. -/
  quiet : (∀ c ∈ catalogs.list, Complete s.committed c) →
    ∀ s', Run (step catalogs) (fun _ _ => True) s s' →
      s'.committed = s.committed ∧ ∀ i, s'.own i = Tables.empty

/-- With every catalog complete no call writes anything. -/
theorem Inv.quiet (h : Inv catalogs t₀ s) (hready : Ready catalogs t₀)
    (hcomplete : ∀ c ∈ catalogs.list, Complete s.committed c)
    (hrun : Run (step catalogs) (fun _ _ => True) s s') :
    s'.committed = s.committed ∧ ∀ i, s'.own i = Tables.empty := by
  have hpresent : ∀ c ∈ catalogs.list, Present s.committed c := fun c hc =>
    (hcomplete c hc).present
  have hinv := hrun.invariant (P := fun u => Inv catalogs t₀ u ∧ u.committed = s.committed)
    ⟨h, rfl⟩ fun u l v hu _ hv =>
      ⟨hu.1.of_step hready hv, (hu.1.quiet_step (hu.2 ▸ hpresent) hv).trans hu.2⟩
  exact ⟨hinv.2, hinv.1.own_eq_empty (hinv.2 ▸ hpresent)⟩

/-- Calls may race, wait and die in any order: if the reconciliation can adopt without a recovery
    of its own in the database at the start, none of them raises, and a call that is done
    leaves all catalogs complete. -/
theorem reconciled_of_run (ht : t₀.Sound) (hready : Ready catalogs t₀)
    (hrun : Run (step catalogs) (fun _ _ => True) (State.initial t₀) s) :
    Reconciled catalogs t₀ s where
  noException i e hi := by
    have hat := ((inv_of_run ht hready hrun).session i).position
    rw [hi] at hat
    exact hat
  kept := (inv_of_run ht hready hrun).kept
  ends ls s' hls hs := Nat.le_of_add_right_le (length_add_remaining_le hls hs)
  completes ls s' hls hs hstuck i hi :=
    (inv_of_run ht hready hrun).done_of_stuck hready hls hs hstuck (.inl hi)
  complete i hi c hc := by
    have h := inv_of_run ht hready hrun
    exact h.complete (h.present_of_done hi hc)
  quiet hcomplete s' := (inv_of_run ht hready hrun).quiet hready hcomplete

end Ends

/-! ## Databases to start from -/

/-- An empty database is ready, -/
theorem ready_empty (catalogs : Catalogs) : Ready catalogs Tables.empty where
  families _ _ _ _ hf := absurd hf Table.not_get_empty
  adoptions _ _ _ _ _ hfilled := by
    obtain ⟨k, ⟨f, hf, -⟩, -⟩ := hfilled
    exact absurd hf Table.not_get_empty

/-- The empty tables are sound. -/
theorem sound_empty : Tables.empty.Sound where
  frameworks _ _ _ _ hf := absurd hf Table.not_get_empty
  requirements _ _ _ _ hr := absurd hr Table.not_get_empty
  assessments _ _ _ _ ha := absurd ha Table.not_get_empty
  adoptions _ _ _ _ ha := absurd ha Table.not_get_empty
  assessed := assessed_empty

/-- and so is one in which all catalogs are complete. -/
theorem ready_of_complete {t : Tables} (h : ∀ c ∈ catalogs.list, Complete t c) :
    Ready catalogs t where
  families c hc _ _ _ _ := .inr (h c hc).adoption.exists
  adoptions before c after hlist _ _ := (h c (by simp [hlist])).adoption.exists

/-- New ids. -/
def newRows (n : Nat) : NewRows := ⟨n, n, n, n, n, n, n⟩

/-- The next `n` statements of session `i`'s call. -/
def statements (i : Fin 2) (n first : Nat) : List (Label (Fin 2)) :=
  (List.range' first n).map fun k => .statement i (newRows k)

/-- Two calls race in an empty database. Session 1 loses the first framework, and finds the rest. -/
theorem reconciled_of_run_empty :
    ∃ s : State (Fin 2),
      Run (step systemCatalogs) (fun _ _ => True) (State.initial Tables.empty) s ∧
        s.pc 0 = .done ∧ s.pc 1 = .done ∧ Reconciled systemCatalogs Tables.empty s := by
  obtain ⟨s, hrun, hdone, hdone'⟩ :
      ∃ s, Run.exec (step systemCatalogs) (State.initial Tables.empty)
          ([.call 0, .call 1] ++ statements 0 1 100 ++ statements 1 1 200 ++
            statements 0 37 300 ++ [.commit 0] ++ statements 1 19 400 ++ [.commit 1]) = some s ∧
        s.pc 0 = .done ∧ s.pc 1 = .done :=
    ⟨_, rfl, rfl, rfl⟩
  have hrun := Run.of_exec_true _ hrun
  exact ⟨s, hrun, hdone, hdone', reconciled_of_run sound_empty (ready_empty _) hrun⟩

/-- A catalog that has its framework and its requirements, and no adoption. -/
def filled (c : SystemCatalog) : Tables where
  frameworks := .ofList [(1, c.framework)]
  requirements := .ofList ((c.requirements.zipIdx 2).map fun x => (x.2, newRequirement 1 x.1))
  assessments := .ofList ((c.requirements.zipIdx 2).map fun x =>
    (x.2, ({ requirementId := x.2 } : Assessment)))
  adoptions := ∅
  events := ∅
  auditEvents := ∅

/-- No two rows conflict when none of the list do. -/
theorem conflict_of_toList {ρ : Type} {t : Table ρ} {conflict : ρ → ρ → Bool}
    (h : ∀ x ∈ t.toList, ∀ y ∈ t.toList, x.1 ≠ y.1 → conflict x.2 y.2 = false) (k k' : Id)
    (r r' : ρ) (hr : t[k]? = some r) (hr' : t[k']? = some r') (hne : k ≠ k') :
    conflict r r' = false :=
  h (k, r) (Std.ExtTreeMap.mem_toList_iff_getElem?_eq_some.2 hr) (k', r')
    (Std.ExtTreeMap.mem_toList_iff_getElem?_eq_some.2 hr') hne

/-- The tables filled by one call are sound. -/
theorem sound_filled : (filled iso27001).Sound where
  frameworks := conflict_of_toList (by decide)
  requirements := conflict_of_toList (by decide)
  assessments := conflict_of_toList (by decide)
  adoptions := conflict_of_toList (by decide)
  assessed :=
    { assessment := fun q x hx => by
        have hassessed : ∀ x ∈ (filled iso27001).requirements.toList,
            ∃ y ∈ (filled iso27001).assessments.toList, y.2.requirementId = x.1 := by decide
        obtain ⟨y, hy, hq⟩ := Table.forall_of_toList
          (p := fun q _ => ∃ y ∈ (filled iso27001).assessments.toList, y.2.requirementId = q)
          hassessed q x hx
        exact ⟨y.1, y.2, Std.ExtTreeMap.mem_toList_iff_getElem?_eq_some.1 hy, hq⟩
      requirement := fun a x hx => Table.exists_get (Table.forall_of_toList
        (p := fun _ x => x.requirementId ∈ (filled iso27001).requirements) (by decide) a x hx) }

/-- Both calls miss the adoption of a catalog that is filled, and both insert one. Session 1 waits
    for session 0, and then raises an `IntegrityError` that nobody recovers from. -/
theorem reconciled_raises :
    (filled iso27001).Sound ∧
      ∃ s : State (Fin 2),
        Run (step systemCatalogs) (fun _ _ => True) (State.initial (filled iso27001)) s ∧
          s.pc 0 = .done ∧ s.pc 1 = .raised (.adoption .integrityError) ∧
            ¬ Reconciled systemCatalogs (filled iso27001) s := by
  obtain ⟨s, hrun, hdone, hraised⟩ :
      ∃ s, Run.exec (step systemCatalogs) (State.initial (filled iso27001))
          ([.call 0, .call 1] ++ statements 0 8 100 ++ statements 1 8 200 ++
            statements 0 24 300 ++ [.commit 0] ++ statements 1 1 400) = some s ∧
        s.pc 0 = .done ∧ s.pc 1 = .raised (.adoption .integrityError) :=
    ⟨_, rfl, rfl, rfl⟩
  exact ⟨sound_filled, s, Run.of_exec_true _ hrun, hdone, hraised, fun h =>
    h.noException 1 _ hraised⟩

end MiniGrc.ConcurrentCatalogs
