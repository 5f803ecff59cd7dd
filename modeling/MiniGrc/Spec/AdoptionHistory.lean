import Mathlib.Data.List.Chain
import MiniGrc.App.AdoptionRuns
import MiniGrc.Spec.AggregateCommands

/-!
# The history of an adoption

The row of an adoption shows the last two frameworks of its history: an upgrade writes the
current one into its event as the one it moves from.

## Key results

- `View.Tracks`: the rows follow what has been adopted
- `adoption_history_consistent`: in every run
-/

namespace MiniGrc.FrameworkAdoptions

open Events AggregateType

variable {clock : Clock} {s s' : AdoptionSession} {v : View} {st st' : State} {family : String}
  {frameworks frameworks' : Table FrameworkRow} {framework : Framework} {actor : Actor}

/-! ## Look-ups -/

theorem getAdoption_eq_none : getAdoption s family = none ↔
    ∀ (k : Id) a, s.rows[k]? = some a → a.catalogFamily ≠ family := by
  unfold getAdoption
  rw [List.find?_eq_none]
  simp only [List.mem_map, decide_eq_true_eq]
  constructor
  · intro h k a ha
    exact h a ⟨(k, a), Std.ExtTreeMap.mem_toList_iff_getElem?_eq_some.2 ha, rfl⟩
  · rintro h a ⟨x, hx, rfl⟩
    exact h x.1 x.2 (Std.ExtTreeMap.mem_toList_iff_getElem?_eq_some.1 hx)

/-! ## The commands -/

/-- What a command that returns has done. -/
inductive Effect (s : AdoptionSession) : Command → AdoptionSession → Prop
  | nothing {newId : Id} {framework : Framework} {actor : Actor} :
      (∀ family, framework.catalogFamily = some family → getAdoption s family ≠ none) →
      Effect s (.adopt newId framework actor) s
  | adopted {newId : Id} {framework : Framework} {actor : Actor} {family : String} {e : Event}
      {s' : AdoptionSession} :
      framework.catalogFamily = some family → getAdoption s family = none →
      s.rows[newId]? = none →
      s'.rows = s.rows.insert newId (projectAdopted e family framework.id) →
      Effect s (.adopt newId framework actor) s'
  | upgraded {id : Id} {framework : Framework} {actor : Actor} {a : FrameworkAdoption} {e : Event}
      {s' : AdoptionSession} :
      s.rows[id]? = some a → framework.catalogFamily = some a.catalogFamily →
      framework.id ≠ a.frameworkId → framework.isActive = true →
      s'.rows = s.rows.insert id (projectUpgraded e a.frameworkId framework.id a) →
      Effect s (.upgrade id framework actor) s'

variable {present : TableName → Id → Bool} {referenced : Bool}

/-- An append without a key that returns has written the row of its event. -/
theorem row_of_append {args : AppendArgs Id Body String} (hkey : args.idempotencyKey = none)
    (h : appendAndProject (aggregateType.projection present referenced) clock s args =
      .returned s') :
    ∃ e r, e.body = args.body ∧ row s.rows[args.aggregate]? e = .ok r ∧
      s'.rows = s.rows.insert args.aggregate r := by
  have hfresh : s.Fresh args := by
    rw [Session.Fresh, hkey]
    rfl
  rcases appendAndProject_cases aggregateType present referenced clock hfresh with
    ⟨r, hrow, hreturned⟩ | ⟨t, x, -, hraised⟩
  · obtain rfl := Outcome.returned.inj (hreturned.symm.trans h)
    exact ⟨nextEvent clock s args, r, rfl, hrow, rfl⟩
  · cases hraised.symm.trans h

theorem adoptFramework_effect {newId : Id}
    (h : adoptFramework (aggregateType.projection present referenced) clock s newId framework
      actor = .returned s') : Effect s (.adopt newId framework actor) s' := by
  unfold adoptFramework at h
  split at h
  · cases h
  · next family hfamily =>
    split at h
    · next existing hexisting =>
      split at h
      · obtain rfl := Outcome.returned.inj h
        refine .nothing fun family' hfamily' => ?_
        obtain rfl := Option.some.inj (hfamily.symm.trans hfamily')
        rw [hexisting]
        exact Option.some_ne_none _
      · cases h
    · next hnone =>
      obtain ⟨e, r, hbody, hrow, hrows⟩ := row_of_append rfl h
      cases hbefore : s.rows[newId]? with
      | some a => simp [row, hbody, hbefore] at hrow
      | none =>
        obtain rfl : projectAdopted e family framework.id = r := by
          simpa [row, hbody, hbefore] using hrow
        exact .adopted hfamily hnone hbefore hrows

theorem upgradeFrameworkAdoption_effect {id : Id}
    (h : upgradeFrameworkAdoption (aggregateType.projection present referenced) clock s id
      framework actor = .returned s') : Effect s (.upgrade id framework actor) s' := by
  unfold upgradeFrameworkAdoption at h
  split at h
  · cases h
  · next a ha =>
    split at h
    · cases h
    · next hfamily =>
      split at h
      · cases h
      · next hid =>
        split at h
        · cases h
        · next hactive =>
          obtain ⟨e, r, hbody, hrow, hrows⟩ := row_of_append rfl h
          obtain rfl : projectUpgraded e a.frameworkId framework.id a = r := by
            simpa [row, hbody, ha] using hrow
          exact .upgraded ha (not_not.1 hfamily) hid (by simpa using hactive) hrows

/-- What a command that returns has done. -/
theorem Command.effect {c : Command}
    (h : c.run (aggregateType.projection present referenced) clock s = .returned s') :
    Effect s c s' := by
  cases c with
  | adopt newId framework actor => exact adoptFramework_effect h
  | upgrade id framework actor => exact upgradeFrameworkAdoption_effect h

/-- An append without a key that raises has failed in its projector. -/
theorem error_of_append {args : AppendArgs Id Body String} {x : PyError}
    (hkey : args.idempotencyKey = none)
    (h : appendAndProject (aggregateType.projection present referenced) clock s args =
      .raised s' x) :
    s.ticks ≤ s'.ticks ∧
      (x = .integrityError ∨
        ∃ e, e.body = args.body ∧ row s.rows[args.aggregate]? e = .error x) := by
  have hfresh : s.Fresh args := by
    rw [Session.Fresh, hkey]
    rfl
  cases hp : aggregateType.project present s.rows (nextEvent clock s args) with
  | ok rows =>
    rw [appendAndProject_eq (P := aggregateType.projection present referenced) hfresh rfl hp] at h
    cases h
  | error y =>
    rw [appendAndProject_raised (P := aggregateType.projection present referenced) hfresh rfl
      hp] at h
    obtain ⟨rfl, rfl⟩ := Outcome.raised.inj h
    refine ⟨Nat.le_succ _, ?_⟩
    unfold AggregateType.project at hp
    cases hrow : row s.rows[args.aggregate]? (nextEvent clock s args) with
    | error z =>
      rw [show aggregateType.row = row from rfl, nextEvent_aggregate, hrow] at hp
      obtain rfl := Except.error.inj (hp : Except.error z = .error y)
      exact .inr ⟨_, rfl, hrow⟩
    | ok r =>
      rw [show aggregateType.row = row from rfl, nextEvent_aggregate, hrow] at hp
      change (if _ then _ else _) = _ at hp
      split at hp
      · cases hp
      · exact .inl (Except.error.inj hp).symm

/-- A refusal leaves the session as it was, or is an `IntegrityError`. -/
theorem Command.raised {c : Command} {x : PyError}
    (h : c.run (aggregateType.projection present referenced) clock s = .raised s' x) :
    s' = s ∨ x = .integrityError ∧ s.ticks ≤ s'.ticks := by
  cases c with
  | adopt newId framework actor =>
    change adoptFramework _ clock s newId framework actor = _ at h
    unfold adoptFramework at h
    split at h
    · exact .inl (Outcome.raised.inj h).1.symm
    · split at h
      · split at h
        · cases h
        · exact .inl (Outcome.raised.inj h).1.symm
      · obtain ⟨hticks, heq | ⟨e, hbody, hrow⟩⟩ := error_of_append rfl h
        · exact .inr ⟨heq, hticks⟩
        · have hrow : row s.rows[newId]? e = .error x := hrow
          cases hbefore : s.rows[newId]? with
          | none => simp [row, hbody, hbefore] at hrow
          | some a =>
            simp only [row, hbody, hbefore] at hrow
            exact .inr ⟨(Except.error.inj hrow).symm, hticks⟩
  | upgrade id framework actor =>
    change upgradeFrameworkAdoption _ clock s id framework actor = _ at h
    unfold upgradeFrameworkAdoption at h
    split at h
    · exact .inl (Outcome.raised.inj h).1.symm
    · next a ha =>
      split at h
      · exact .inl (Outcome.raised.inj h).1.symm
      · split at h
        · exact .inl (Outcome.raised.inj h).1.symm
        · split at h
          · exact .inl (Outcome.raised.inj h).1.symm
          · obtain ⟨hticks, heq | ⟨e, hbody, hrow⟩⟩ := error_of_append rfl h
            · exact .inr ⟨heq, hticks⟩
            · have hrow : row s.rows[id]? e = .error x := hrow
              simp [row, hbody, ha] at hrow

/-! ## The invariant -/

/-- The framework is one of the catalog family. -/
def InFamily (frameworks : Table FrameworkRow) (family : String) (id : Id) : Prop :=
  ∃ r, frameworks[id]? = some r ∧ r.catalogFamily = some family

/-- The rows follow what has been adopted. -/
structure View.Tracks (frameworks : Table FrameworkRow) (v : View) : Prop where
  /-- the last two frameworks of the history -/
  row : ∀ (k : Id) a, v.session.rows[k]? = some a → ∃ earlier,
    v.adopted a.catalogFamily = a.frameworkId :: earlier ∧
      a.previousFrameworkId = earlier.head?
  unadopted : ∀ family, getAdoption v.session family = none → v.adopted family = []
  family : ∀ family, ∀ id ∈ v.adopted family, InFamily frameworks family id
  apart : ∀ family, (v.adopted family).IsChain (· ≠ ·)

/-- What holds of a view between commands. -/
structure View.Kept (clock : Clock) (frameworks : Table FrameworkRow) (v : View) : Prop where
  session : SessionKept aggregateType (State.present frameworks) clock v.session
  tracks : v.Tracks frameworks

/-- Another row of the family is the same one. -/
theorem View.Kept.one (h : v.Kept clock frameworks) {k k' : Id} {a a' : FrameworkAdoption}
    (ha : v.session.rows[k]? = some a) (ha' : v.session.rows[k']? = some a')
    (hfamily : a.catalogFamily = a'.catalogFamily) : k = k' := by
  by_contra hne
  have hconflict := h.session.kept.alone k k' a a' ha ha' hne
  exact absurd hfamily (of_decide_eq_false hconflict)

/-- A framework more in the history of a family, with its row. -/
theorem View.Tracks.push {v' : View} (h : v.Tracks frameworks) {k : Id} {a : FrameworkAdoption}
    (hrows : v'.session.rows = v.session.rows.insert k a)
    (hself : v'.adopted a.catalogFamily = a.frameworkId :: v.adopted a.catalogFamily)
    (helse : ∀ family, family ≠ a.catalogFamily → v'.adopted family = v.adopted family)
    (hin : InFamily frameworks a.catalogFamily a.frameworkId)
    (hold : ∀ b, v.session.rows[k]? = some b → b.catalogFamily = a.catalogFamily)
    (hother : ∀ j b, j ≠ k → v.session.rows[j]? = some b → b.catalogFamily ≠ a.catalogFamily)
    (hprevious : a.previousFrameworkId = (v.adopted a.catalogFamily).head?)
    (hne : a.previousFrameworkId ≠ some a.frameworkId) : v'.Tracks frameworks where
  row j b hb := by
    rw [hrows, Table.get_insert] at hb
    split at hb
    · obtain rfl := Option.some.inj hb
      exact ⟨_, hself, hprevious⟩
    · next hj =>
      rw [helse _ (hother j b (Ne.symm hj) hb)]
      exact h.row j b hb
  unadopted family hget := by
    have hnone := getAdoption_eq_none.1 hget
    have hfamily : a.catalogFamily ≠ family := by
      refine hnone k a ?_
      rw [hrows, Table.get_insert_self]
    rw [helse _ hfamily.symm]
    refine h.unadopted family (getAdoption_eq_none.2 fun j b hb => ?_)
    by_cases hj : k = j
    · subst hj
      rwa [hold b hb]
    · refine hnone j b ?_
      rwa [hrows, Table.get_insert_ne hj]
  family family id hid := by
    by_cases hfamily : family = a.catalogFamily
    · subst hfamily
      rw [hself] at hid
      rcases List.mem_cons.1 hid with rfl | hid
      · exact hin
      · exact h.family _ id hid
    · rw [helse _ hfamily] at hid
      exact h.family _ id hid
  apart family := by
    by_cases hfamily : family = a.catalogFamily
    · subst hfamily
      rw [hself, List.isChain_cons]
      refine ⟨fun y hy heq => hne ?_, h.apart _⟩
      rw [hprevious, heq]
      exact hy
    · rw [helse _ hfamily]
      exact h.apart family

/-- A command that returns keeps what the rows follow. -/
theorem View.Kept.effect (h : v.Kept clock frameworks) {c : Command}
    (hstored : State.Stored frameworks c.framework) (he : Effect v.session c s') :
    View.Tracks frameworks ⟨s', v.record c⟩ := by
  cases he with
  | @nothing newId framework actor hadopted =>
    have hsame : v.record (.adopt newId framework actor) = v.adopted := by
      cases hfamily : framework.catalogFamily with
      | none => simp only [View.record, hfamily]
      | some family => simp only [View.record, hfamily, if_neg (hadopted family hfamily)]
    rw [hsame]
    exact h.tracks
  | @adopted newId framework actor family e s' hfamily hget hbefore hrows =>
    have hrecord : v.record (.adopt newId framework actor) =
        Function.update v.adopted family (framework.id :: v.adopted family) := by
      simp only [View.record, hfamily, if_pos hget]
    refine h.tracks.push hrows ?_ (fun family' hne => ?_) ⟨_, hstored, hfamily⟩ (fun b hb => ?_)
      (fun j b _ hb => getAdoption_eq_none.1 hget j b hb) ?_ (by simp [projectAdopted])
    · exact (congrFun hrecord family).trans (Function.update_self ..)
    · exact (congrFun hrecord family').trans (Function.update_of_ne hne ..)
    · cases hbefore.symm.trans hb
    · show none = (v.adopted family).head?
      rw [h.tracks.unadopted family hget]
      rfl
  | @upgraded id framework actor a e s' ha hfamily hid hactive hrows =>
    have hrecord : v.record (.upgrade id framework actor) =
        Function.update v.adopted a.catalogFamily (framework.id :: v.adopted a.catalogFamily) := by
      simp only [View.record, hfamily]
    obtain ⟨earlier, hadopted, -⟩ := h.tracks.row id a ha
    refine h.tracks.push hrows ?_ (fun family' hne => ?_) ⟨_, hstored, hfamily⟩ (fun b hb => ?_)
      (fun j b hj hb hsame => hj (h.one hb ha hsame)) ?_ ?_
    · exact (congrFun hrecord a.catalogFamily).trans (Function.update_self ..)
    · exact (congrFun hrecord family').trans (Function.update_of_ne hne ..)
    · obtain rfl := Option.some.inj (ha.symm.trans hb)
      rfl
    · show some a.frameworkId = (v.adopted a.catalogFamily).head?
      rw [hadopted]
      rfl
    · intro hsame
      exact hid (Option.some.inj hsame).symm

/-- Frameworks that are added or change `is_active` and the passing of time do not matter. -/
theorem View.Kept.wait (h : v.Kept clock frameworks) {ticks : Nat} (ht : v.session.ticks ≤ ticks)
    (hframeworks : ∀ (id : Id) r, frameworks[id]? = some r →
      ∃ r', frameworks'[id]? = some r' ∧ r'.catalogFamily = r.catalogFamily) :
    View.Kept clock frameworks' ⟨{ v.session with ticks }, v.adopted⟩ where
  session := by
    refine h.session.wait (fun n k hk => ?_) ht
    unfold State.present at hk ⊢
    rw [Bool.and_eq_true] at hk ⊢
    obtain ⟨r, hr⟩ := Table.exists_get (Std.ExtTreeMap.contains_iff_mem.1 hk.2)
    obtain ⟨r', hr', -⟩ := hframeworks k r hr
    exact ⟨hk.1, Std.ExtTreeMap.contains_iff_mem.2 (Table.mem_of_get hr')⟩
  tracks := {
    h.tracks with
    family := fun family id hid => by
      obtain ⟨r, hr, hfamily⟩ := h.tracks.family family id hid
      obtain ⟨r', hr', hsame⟩ := hframeworks id r hr
      exact ⟨r', hr', hsame.trans hfamily⟩ }

/-- What holds of the database and the session. -/
structure State.Kept (clock : Clock) (st : State) : Prop where
  committed : st.committed.Kept clock st.frameworks
  current : st.current.Kept clock st.frameworks
  ticks : st.committed.session.ticks ≤ st.current.session.ticks

theorem State.Kept.empty : State.Kept clock State.empty := by
  have hview : View.Kept clock ∅ ⟨⟨∅, [], 0⟩, fun _ => []⟩ := by
    refine ⟨⟨kept_empty, .empty _ _⟩, ⟨fun k a ha => ?_, fun _ _ => rfl, fun _ _ hid => ?_,
      fun _ => .nil⟩⟩
    · exact absurd ha Table.not_get_empty
    · cases hid
  exact ⟨hview, hview, le_rfl⟩

/-- More or other frameworks. -/
theorem State.Kept.setFrameworks (h : st.Kept clock)
    (hframeworks : ∀ (id : Id) r, st.frameworks[id]? = some r →
      ∃ r', frameworks'[id]? = some r' ∧ r'.catalogFamily = r.catalogFamily) :
    State.Kept clock { st with frameworks := frameworks' } :=
  ⟨h.committed.wait le_rfl hframeworks, h.current.wait le_rfl hframeworks, h.ticks⟩

theorem State.Kept.rollback (h : st.Kept clock) {ticks : Nat}
    (ht : st.current.session.ticks ≤ ticks) : (st.rollback ticks).Kept clock :=
  ⟨h.committed, h.committed.wait (h.ticks.trans ht) fun _ r hr => ⟨r, hr, rfl⟩,
    h.ticks.trans ht⟩

/-- A command that returns keeps what holds. -/
theorem State.Kept.returned (h : st.Kept clock) {c : Command}
    (hstored : State.Stored st.frameworks c.framework)
    (hrun : c.run st.projection clock st.current.session = .returned s') :
    State.Kept clock { st with current := ⟨s', st.current.record c⟩ } := by
  have hscript : Script st.projection clock st.current.session
      (c.run st.projection clock st.current.session) := c.run_script
  have hkept : (c.run st.projection clock st.current.session).Returns
      (SessionKept aggregateType (State.present st.frameworks) clock) :=
    hscript.returns h.current.session (fun _ args hs => hs.append lawful args) fun _ hs => hs
  have hlater := hscript.later
  rw [hrun] at hkept hlater
  exact ⟨h.committed, ⟨hkept, h.current.effect hstored (Command.effect hrun)⟩,
    h.ticks.trans hlater.ticks⟩

theorem State.Kept.step (h : st.Kept clock) {l : Happening} (hs : st.step clock l = some st') :
    st'.Kept clock := by
  cases l with
  | addFramework id row =>
    simp only [State.step] at hs
    split at hs
    · cases hs
    · next hnew =>
      obtain rfl := Option.some.inj hs
      refine h.setFrameworks fun k r hr => ⟨r, ?_, rfl⟩
      rwa [Table.get_insert_ne]
      rintro rfl
      exact hnew (Table.mem_of_get hr)
  | setActive id isActive =>
    obtain rfl := Option.some.inj hs
    refine h.setFrameworks fun k r hr => ?_
    rw [Table.get_alter]
    split
    · next hk =>
      subst hk
      exact ⟨{ r with isActive }, by rw [hr]; rfl, rfl⟩
    · exact ⟨r, hr, rfl⟩
  | command c =>
    simp only [State.step] at hs
    split at hs
    · next hstored =>
      split at hs
      · next s hrun =>
        obtain rfl := Option.some.inj hs
        exact h.returned hstored hrun
      · next s hrun =>
        obtain rfl := Option.some.inj hs
        refine h.rollback ?_
        rcases Command.raised hrun with rfl | ⟨-, hticks⟩
        · exact le_rfl
        · exact hticks
      · next s x hx hrun =>
        obtain rfl := Option.some.inj hs
        rcases Command.raised hrun with rfl | ⟨heq, -⟩
        · exact h
        · exact absurd heq hx
    · cases hs
  | commit =>
    obtain rfl := Option.some.inj hs
    exact ⟨h.current, h.current, le_rfl⟩
  | rollback =>
    obtain rfl := Option.some.inj hs
    exact h.rollback le_rfl

/-! ## Every run -/

/-- What the adoptions of a view have in common with their history. -/
structure View.Consistent (frameworks : Table FrameworkRow) (v : View) : Prop where
  /-- a catalog family has at most one adoption -/
  one : ∀ (k k' : Id) a a', v.session.rows[k]? = some a → v.session.rows[k']? = some a' →
    a.catalogFamily = a'.catalogFamily → k = k'
  family : ∀ (k : Id) a, v.session.rows[k]? = some a →
    InFamily frameworks a.catalogFamily a.frameworkId ∧
      ∀ id ∈ a.previousFrameworkId, InFamily frameworks a.catalogFamily id
  /-- the previous framework is the one that was adopted before the latest upgrade -/
  previous : ∀ (k : Id) a, v.session.rows[k]? = some a → ∃ earlier,
    v.adopted a.catalogFamily = a.frameworkId :: earlier ∧
      a.previousFrameworkId = earlier.head? ∧ a.previousFrameworkId ≠ some a.frameworkId
  rebuild : rebuildAndCommit (aggregateType.projection (State.present frameworks) false)
    v.session.rows v.session.events = .ok v.session.rows

theorem View.Kept.consistent (h : v.Kept clock frameworks) : v.Consistent frameworks where
  one _ _ _ _ ha ha' hfamily := h.one ha ha' hfamily
  family k a ha := by
    obtain ⟨earlier, hadopted, hprevious⟩ := h.tracks.row k a ha
    have hin := h.tracks.family a.catalogFamily
    rw [hadopted] at hin
    refine ⟨hin _ List.mem_cons_self, fun id hid => hin _ (List.mem_cons_of_mem _ ?_)⟩
    exact List.mem_of_head? (hprevious ▸ hid)
  previous k a ha := by
    obtain ⟨earlier, hadopted, hprevious⟩ := h.tracks.row k a ha
    refine ⟨earlier, hadopted, hprevious, fun hsame => ?_⟩
    have hapart := h.tracks.apart a.catalogFamily
    rw [hadopted, List.isChain_cons] at hapart
    exact hapart.1 a.frameworkId (hprevious ▸ hsame) rfl
  rebuild := (h.session.rebuild_eq_ok_of_refs_nil lawful fun _ => rfl).2 ⟨rfl, rfl⟩

/-- In every run of commands, commits and rollbacks, what is committed and what the session
    sees are consistent, and a refused command changes nothing; if the database refuses it,
    the transaction is gone as well. -/
theorem adoption_history_consistent {clock : Clock} {st : State}
    (h : Run (State.step clock) (fun _ _ => True) State.empty st) :
    st.committed.Consistent st.frameworks ∧ st.current.Consistent st.frameworks ∧
      ∀ c s x st', c.run st.projection clock st.current.session = .raised s x →
        st.step clock (.command c) = some st' →
          st' = st ∨ x = .integrityError ∧ st' = st.rollback s.ticks := by
  have hkept : st.Kept clock := h.invariant .empty fun _ _ _ hk _ hs => hk.step hs
  refine ⟨hkept.committed.consistent, hkept.current.consistent, fun c s x st' hrun hs => ?_⟩
  simp only [State.step, hrun] at hs
  split at hs
  · split at hs
    · next hreturned => cases hreturned
    · next hraised =>
      obtain ⟨rfl, rfl⟩ := Outcome.raised.inj hraised
      exact .inr ⟨rfl, (Option.some.inj hs).symm⟩
    · next hx hraised =>
      obtain ⟨rfl, rfl⟩ := Outcome.raised.inj hraised
      rcases Command.raised hrun with rfl | ⟨heq, -⟩
      · exact .inl (Option.some.inj hs).symm
      · exact absurd heq hx
  · cases hs

/-- Two versions of a catalog; the first is adopted, upgraded to the second, and back. -/
def backAndForth : List Happening :=
  [.addFramework 1 ⟨some "iso27001", true⟩, .addFramework 2 ⟨some "iso27001", true⟩,
    .command (.adopt 10 ⟨1, some "iso27001", true⟩ {}),
    .command (.upgrade 10 ⟨2, some "iso27001", true⟩ {}),
    .command (.upgrade 10 ⟨1, some "iso27001", true⟩ {}), .commit]

/-- `adoption_history_consistent` after an upgrade back and forth. -/
theorem adoption_history_consistent_backAndForth :
    ∃ st, Run.exec (State.step tickingClock) State.empty backAndForth = some st ∧
      (st.committed.session.rows[10]?.map fun a => (a.frameworkId, a.previousFrameworkId)) =
        some (1, some 2) ∧
      st.committed.Consistent st.frameworks := by
  obtain ⟨st, hst, hrow⟩ : ∃ st,
      Run.exec (State.step tickingClock) State.empty backAndForth = some st ∧
        (st.committed.session.rows[10]?.map fun a => (a.frameworkId, a.previousFrameworkId)) =
          some (1, some 2) := ⟨_, rfl, rfl⟩
  exact ⟨st, hst, hrow, (adoption_history_consistent (Run.of_exec_true _ hst)).1⟩

end MiniGrc.FrameworkAdoptions
