import Mathlib.Data.List.DropRight
import MiniGrc.Spec.ControlDefinitionLifecycle

/-!
# Rebuilding the control-definition versions

A rebuild replays the events from an empty table. The projectors of `Drafted`,
`MadeEffective` and `Superseded` events flush, those of a review or a withdrawal do not,
and a flush writes the changed rows in the order of their ids: when a version becomes
effective, the withdrawal of another one may still be unwritten, or be written after it.

## Key results

- `rebuild_iff`: a rebuild succeeds and gives the live rows exactly when the replay is
  `Replayable`
- `rebuild_withdrawn_unwritten`: a run whose log cannot be rebuilt
-/

namespace MiniGrc.ControlDefinitionLifecycle

open Events VersionLifecycle

variable {clock : Clock} {s : ControlSession} {t : Table InternalControlVersion}
  {p q : List Event} {e : Event} {k : Id}

/-- The events up to the last one whose projector flushes. -/
def flushed (p : List Event) : List Event := p.rdropWhile fun e => !e.body.flushes

/-- The event `e` can be replayed after the events `p`. If it makes a version effective, no
    version of the control with a smaller id is effective, and none with a greater id was at
    the last flush; if it supersedes one, its successor has been drafted. -/
def Replays (t : Table InternalControlVersion) (p : List Event) (e : Event) : Prop :=
  match e.body with
  | .lifecycle .madeEffective => ∀ (j : Id) v v', t[j]? = some v → t[e.aggregate]? = some v' →
    v.controlId = v'.controlId →
      (j < e.aggregate → statusIn projection p j ≠ .effective) ∧
      (e.aggregate < j → statusIn projection (flushed p) j ≠ .effective)
  | .lifecycle (.superseded w) => ∃ e' ∈ p, e'.aggregate = w
  | _ => True

/-- The events can be replayed one after another. -/
def Replayable (t : Table InternalControlVersion) (es : List Event) : Prop :=
  ∀ p e post, es = p ++ e :: post → Replays t p e

/-! ## Replayed rows -/

/-- The row that the replayed events leave, going by the identity of the live row. -/
def rowIn (t : Table InternalControlVersion) (p : List Event) (k : Id) :
    Option InternalControlVersion :=
  if ofAggregate p k = [] then none
  else t[k]?.map fun v => VersionRow.setColumns v (columnsAfter (history projection p k))

/-- The replayed part of a log: what was stored after it is still to come. -/
structure Part (s : ControlSession) (p : List Event) : Prop where
  between : Drafted s.rows.current s.events
  inv : Inv projection s.rows.current s.events
  wellFormed : WellFormed s.events
  rest : ∃ rest, ∀ k, ofAggregate p k ++ ofAggregate rest k = ofAggregate s.events k

/-- Between commands the replay of a prefix is a part. -/
theorem Between.part (h : Between clock s) (hp : p <+: replayOrder s.events) : Part s p := by
  obtain ⟨rest, hrest⟩ := hp
  refine ⟨h.drafted, h.session.inv, h.session.logged.wellFormed, rest, fun k => ?_⟩
  rw [← ofAggregate_append, hrest]
  exact h.session.logged.ofAggregate_replayOrder k

/-- A shorter replay is a part. -/
theorem Part.left (h : Part s (p ++ q)) : Part s p := by
  obtain ⟨rest, hrest⟩ := h.rest
  refine ⟨h.between, h.inv, h.wellFormed, q ++ rest, fun k => ?_⟩
  rw [← hrest k]
  simp

/-- The replay up to the last flush is a part. -/
theorem Part.flushed (h : Part s p) : Part s (flushed p) :=
  Part.left (q := p.rtakeWhile fun e => !e.body.flushes) (by
    rwa [ControlDefinitionLifecycle.flushed, List.rdropWhile_append_rtakeWhile])

/-- An event of a part is in the log. -/
theorem Part.mem (h : Part s p) (he : e ∈ p) : e ∈ s.events := by
  obtain ⟨rest, hrest⟩ := h.rest
  refine (mem_ofAggregate (a := e.aggregate)).1 ?_ |>.1
  rw [← hrest]
  exact List.mem_append_left _ (mem_ofAggregate.2 ⟨he, rfl⟩)

/-- The lifecycle accepts the history of a part. -/
theorem Part.accepts (h : Part s p) (k : Id) :
    lifecycle.Accepts .draft (bodies (history projection p k)) := by
  obtain ⟨rest, hrest⟩ := h.rest
  have hall := h.inv.accepted k
  rw [history, ← hrest k, List.filterMap_append, bodies, List.map_append,
    GuardedMachine.accepts_append] at hall
  exact hall.1

/-- The event `e` is the `Drafted` event of its version exactly when the version has no event
    yet. -/
theorem Part.drafted_iff (h : Part s (p ++ [e])) :
    (∃ d, e.body = .drafted d) ↔ ofAggregate p e.aggregate = [] := by
  obtain ⟨rest, hrest⟩ := h.rest
  have hsplit := hrest e.aggregate
  rw [ofAggregate_append, List.append_assoc] at hsplit
  have hself : ofAggregate [e] e.aggregate = [e] := by simp [ofAggregate]
  rw [hself] at hsplit
  have hlen : (ofAggregate p e.aggregate).length < (ofAggregate s.events e.aggregate).length := by
    rw [← hsplit]
    simp
  have hget : (ofAggregate s.events e.aggregate)[(ofAggregate p e.aggregate).length] = e := by
    simp [← hsplit]
  have hseq := h.wellFormed.sequence_getElem e.aggregate _ hlen
  rw [hget] at hseq
  rw [h.between.first e (h.mem (by simp)), hseq, ← List.length_eq_zero_iff]
  omega

/-- A row depends on the events of its version. -/
theorem rowIn_congr (h : ofAggregate p k = ofAggregate q k) : rowIn t p k = rowIn t q k := by
  rw [rowIn, rowIn, h, history, history, h]

/-- A replayed row has the identity of the live one and the status that its events give. -/
theorem rowIn_eq_some {r : InternalControlVersion} (h : rowIn t p k = some r) :
    ofAggregate p k ≠ [] ∧ ∃ v, t[k]? = some v ∧ r.controlId = v.controlId ∧
      r.versionNumber = v.versionNumber ∧ r.lifecycleStatus = statusIn projection p k ∧
      r.supersededByVersionId = (columnsAfter (history projection p k)).supersededByVersionId := by
  unfold rowIn at h
  split at h
  · cases h
  · next hne =>
    obtain ⟨v, hv, rfl⟩ := Option.map_eq_some_iff.1 h
    exact ⟨hne, v, hv, rfl, rfl, statusIn_eq_columnsAfter.symm, rfl⟩

/-- A version with an event in a part has a row there. -/
theorem rowIn_of_mem (h : Part s p) (he : e ∈ p) :
    ∃ r, rowIn s.rows.current p e.aggregate = some r := by
  obtain ⟨v, hv⟩ := Table.exists_get (h.inv.known e (h.mem he))
  have hne : ofAggregate p e.aggregate ≠ [] := List.ne_nil_of_mem (mem_ofAggregate.2 ⟨he, rfl⟩)
  exact ⟨_, by rw [rowIn, if_neg hne, hv, Option.map_some]⟩

/-- A `Drafted` event adds the row that it describes. -/
theorem rowIn_drafted {d : Draft} (h : Part s (p ++ [e])) (hd : e.body = .drafted d) :
    rowIn s.rows.current p e.aggregate = none ∧
      rowIn s.rows.current (p ++ [e]) e.aggregate = some (draftedRow e d) := by
  have hnil := h.drafted_iff.1 ⟨d, hd⟩
  refine ⟨by rw [rowIn, if_pos hnil], ?_⟩
  obtain ⟨v, hv, hrow⟩ := h.between.row e (h.mem (by simp)) d hd
  have hhistory : history projection (p ++ [e]) e.aggregate = [] := by
    rw [history, ofAggregate_snoc_self, hnil]
    simp [asEntry, projection, hd]
  rw [rowIn, ofAggregate_snoc_self, if_neg (by simp), hv, Option.map_some, hhistory, ← hrow]
  rfl

/-- A lifecycle event changes its row, which is there. -/
theorem rowIn_lifecycle {b : LifecycleEvent} (h : Part s (p ++ [e])) (hb : e.body = .lifecycle b) :
    ∃ r, rowIn s.rows.current p e.aggregate = some r ∧ lifecycle.guard (status r) b ∧
      rowIn s.rows.current (p ++ [e]) e.aggregate =
        some (applyTo r b e.occurredAt e.actorId) := by
  have hne : ofAggregate p e.aggregate ≠ [] := fun hnil => by
    obtain ⟨d, hd⟩ := h.drafted_iff.2 hnil
    rw [hb] at hd
    cases hd
  obtain ⟨v, hv⟩ := Table.exists_get (h.inv.known e (h.mem (by simp)))
  have hlifecycle : projection.lifecycleEvent e.body = some b := by rw [hb]; rfl
  have hhistory : history projection (p ++ [e]) e.aggregate =
      history projection p e.aggregate ++ [{ e with body := b }] := by
    rw [history_append, history_singleton_self hlifecycle]
  refine ⟨_, by rw [rowIn, if_neg hne, hv, Option.map_some], ?_, ?_⟩
  · have haccepts := h.accepts e.aggregate
    rw [hhistory, bodies, List.map_append, GuardedMachine.accepts_append] at haccepts
    show lifecycle.guard (columnsAfter (history projection p e.aggregate)).lifecycleStatus b
    rw [columnsAfter_status]
    exact haccepts.2.1
  · rw [rowIn, ofAggregate_snoc_self, if_neg (by simp), hv, Option.map_some, hhistory,
      columnsAfter_snoc]
    rfl

/-! ## What is written and what is not -/

/-- An event that flushes moves the last flush on. -/
theorem flushed_snoc : flushed (p ++ [e]) = if e.body.flushes then p ++ [e] else flushed p := by
  unfold flushed
  split
  · next hf => exact List.rdropWhile_concat_neg _ _ _ (by simp [hf])
  · next hf => exact List.rdropWhile_concat_pos _ _ _ (by simp [hf])

/-- What is flushed was replayed. -/
theorem flushed_subset (he : e ∈ flushed p) : e ∈ p :=
  (List.rdropWhile_prefix _ _).subset he

/-- An event whose projector flushes is written with everything before it. -/
theorem mem_flushed (he : e ∈ p) (hf : e.body.flushes) : e ∈ flushed p := by
  rw [← List.rdropWhile_append_rtakeWhile (p := fun e : Event => !e.body.flushes) (l := p)] at he
  rcases List.mem_append.1 he with he | he
  · exact he
  · have := List.mem_rtakeWhile_imp he
    simp [hf] at this

/-- An effective version has had no event since the last flush. -/
theorem ofAggregate_flushed (hs : statusIn projection p k = .effective) :
    ofAggregate (flushed p) k = ofAggregate p k := by
  set tail := p.rtakeWhile fun e => !e.body.flushes with htail
  have hp : p = flushed p ++ tail := (List.rdropWhile_append_rtakeWhile ..).symm
  suffices hnil : ofAggregate tail k = [] by
    conv_rhs => rw [hp, ofAggregate_append, hnil, List.append_nil]
  rcases List.eq_nil_or_concat (ofAggregate tail k) with hnil | ⟨es, x, hes⟩
  · exact hnil
  · -- the last event since then would have led out of `effective`
    have hx : x ∈ tail ∧ x.aggregate = k := mem_ofAggregate.1 (by rw [hes]; simp)
    have hnot := List.mem_rtakeWhile_imp hx.1
    rw [statusIn, history, hp, ofAggregate_append, hes, List.concat_eq_append, ← List.append_assoc,
      List.filterMap_append] at hs
    cases hb : x.body with
    | drafted d => simp [Body.flushes, hb] at hnot
    | lifecycle b =>
      have hlast : [x].filterMap (asEntry projection) = [{ x with body := b }] := by
        simp [asEntry, projection, hb]
      rw [hlast, bodies, List.map_append, GuardedMachine.run_append] at hs
      have hmade := lifecycle_next_eq_effective.1 hs
      subst hmade
      simp [Body.flushes, hb] at hnot

/-- The row of a version that has events is written: its `Drafted` event flushed. -/
theorem rowIn_flushed (h : Part s p) (he : e ∈ p) :
    ∃ r, rowIn s.rows.current (flushed p) e.aggregate = some r := by
  have hmem : e ∈ ofAggregate p e.aggregate := mem_ofAggregate.2 ⟨he, rfl⟩
  obtain ⟨rest, hrest⟩ := h.rest
  -- The draft of a version is flushed, so the version has a row.
  cases hp : ofAggregate p e.aggregate with
  | nil => simp [hp] at hmem
  | cons x xs =>
    have hx : x ∈ p ∧ x.aggregate = e.aggregate := mem_ofAggregate.1 (by simp [hp])
    have hall := hrest e.aggregate
    rw [hp] at hall
    have hlen : 0 < (ofAggregate s.events e.aggregate).length := by
      rw [← hall]
      simp
    have hget : (ofAggregate s.events e.aggregate)[0] = x := by simp [← hall]
    have hseq := h.wellFormed.sequence_getElem e.aggregate 0 hlen
    rw [hget] at hseq
    obtain ⟨d, hd⟩ := (h.between.first x (h.mem hx.1)).2 hseq
    rw [← hx.2]
    exact rowIn_of_mem h.flushed (mem_flushed hx.1 (by rw [hd]; rfl))

/-! ## Flushes -/

/-- A replay goes on when its next event does. -/
theorem replayable_snoc : Replayable t (p ++ [e]) ↔ Replayable t p ∧ Replays t p e :=
  List.forall_split_snoc

/-- The successor of a superseded version had an event before. -/
theorem successor_mem (hrep : Replayable t q) {r : InternalControlVersion} {w : Id}
    (hr : rowIn t q k = some r) (hw : r.supersededByVersionId = some w) :
    ∃ x ∈ q.dropLast, x.aggregate = w := by
  obtain ⟨-, v, -, -, -, -, hsup⟩ := rowIn_eq_some hr
  obtain ⟨e, he, -, hb⟩ := mem_bodies_history.1 (mem_of_supersededBy (hsup.symm.trans hw))
  obtain ⟨p, post, rfl⟩ := List.append_of_mem he
  have hreplays := hrep p e post rfl
  cases hbody : e.body with
  | drafted d => simp [projection, hbody] at hb
  | lifecycle b =>
    obtain rfl : b = .superseded w := by simpa [projection, hbody] using hb
    simp only [Replays, hbody] at hreplays
    obtain ⟨x, hx, hxw⟩ := hreplays
    refine ⟨x, ?_, hxw⟩
    rw [List.dropLast_append_of_ne_nil (List.cons_ne_nil e post)]
    exact List.mem_append_left _ hx

/-- A flush from the rows of `p` to the rows of `q` succeeds if no row that it makes effective
    meets another effective one, and successors have been written. -/
theorem flush_rowIn {rows : Tracked InternalControlVersion} (hinv : Inv projection t s.events)
    (hcurrent : ∀ k : Id, rows.current[k]? = rowIn t q k)
    (hstored : ∀ k : Id, rows.stored[k]? = rowIn t p k)
    (heff : ∀ (k j : Id) v v', t[k]? = some v → t[j]? = some v' → v'.controlId = v.controlId →
      j ≠ k → statusIn projection q k = .effective → rowIn t q k ≠ rowIn t p k →
        (j < k → statusIn projection q j ≠ .effective) ∧
        (k < j → statusIn projection p j ≠ .effective))
    (hsuccessor : ∀ (k : Id) r w, rowIn t q k = some r → r.supersededByVersionId = some w →
      ∃ r', rowIn t p w = some r') :
    flush rows = .ok (Tracked.clean rows.current) := by
  have hsome : (rows.flush constraints).isSome := by
    rw [Tracked.flush_isSome_iff]
    intro k r hr hne
    rw [hcurrent k] at hr
    rw [hstored k] at hne
    obtain ⟨-, v, hv, hcontrol, hnumber, hstatus, -⟩ := rowIn_eq_some hr
    constructor
    · intro j r' hj hfound
      have hfrom : ∃ p', rowIn t p' j = some r' ∧ (j < k ∧ p' = q ∨ k < j ∧ p' = p) := by
        unfold Tracked.foundBy at hfound
        split at hfound
        · next hlt => exact ⟨q, hcurrent j ▸ hfound, .inl ⟨hlt, rfl⟩⟩
        · next hle => exact ⟨p, hstored j ▸ hfound, .inr ⟨by omega, rfl⟩⟩
      obtain ⟨p', hr', hside⟩ := hfrom
      obtain ⟨-, v', hv', hcontrol', hnumber', hstatus', -⟩ := rowIn_eq_some hr'
      simp only [constraints, decide_eq_false_iff_not]
      rintro ⟨hp, hn | ⟨hs, hs'⟩⟩
      · refine hj (hinv.numbers k j v v' hv hv' ?_ ?_).symm
        · exact hcontrol.symm.trans (Eq.trans hp hcontrol')
        · exact hnumber.symm.trans (Eq.trans hn hnumber')
      · have hsame : v'.controlId = v.controlId :=
          hcontrol'.symm.trans (Eq.trans (Eq.symm hp) hcontrol)
        obtain ⟨hbelow, habove⟩ := heff k j v v' hv hv' hsame hj (hstatus.symm.trans hs)
          (by rw [hr]; exact Ne.symm hne)
        rcases hside with ⟨hlt, rfl⟩ | ⟨hlt, rfl⟩
        · exact hbelow hlt (hstatus'.symm.trans hs')
        · exact habove hlt (hstatus'.symm.trans hs')
    · intro j hj
      have hj : r.supersededByVersionId = some j := Option.mem_toList.1 hj
      obtain ⟨r', hr'⟩ := hsuccessor k r j hr hj
      have hin : j ∈ rows.stored := Table.mem_of_get ((hstored j).trans hr')
      refine .inr ?_
      unfold Tracked.foundBy
      split
      · exact Std.ExtTreeMap.mem_iff_isSome_getElem?.1 (rows.keeps j hin)
      · exact Std.ExtTreeMap.mem_iff_isSome_getElem?.1 hin
  obtain ⟨rows', hrows'⟩ := Option.isSome_iff_exists.1 hsome
  unfold flush
  rw [hrows', Tracked.flush_eq_clean hrows']

/-! ## The replay -/

/-- The rows after the events `p` have been replayed. -/
structure Reflects (t : Table InternalControlVersion) (p : List Event)
    (rows : Tracked InternalControlVersion) : Prop where
  current : ∀ k : Id, rows.current[k]? = rowIn t p k
  stored : ∀ k : Id, rows.stored[k]? = rowIn t (flushed p) k

/-- A projector sets the row of its version, and flushes if it does. -/
theorem project_eq (h : Part s (p ++ [e])) {rows : Tracked InternalControlVersion}
    (hr : Reflects s.rows.current p rows) :
    ∃ r, rowIn s.rows.current (p ++ [e]) e.aggregate = some r ∧
      project rows e = if e.body.flushes then flush (rows.set e.aggregate r)
        else .ok (rows.set e.aggregate r) := by
  unfold project
  -- A draft inserts its row, a lifecycle event updates it.
  cases hb : e.body with
  | drafted d =>
    obtain ⟨hnone, hsome⟩ := rowIn_drafted h hb
    have hnot : e.aggregate ∉ rows.current := fun hin => by
      obtain ⟨r, hrow⟩ := Table.exists_get hin
      rw [hr.current, hnone] at hrow
      cases hrow
    refine ⟨_, hsome, ?_⟩
    simp [hnot, Body.flushes, Except.bind]
  | lifecycle b =>
    obtain ⟨r, hrow, -, hsome⟩ := rowIn_lifecycle h hb
    refine ⟨_, hsome, ?_⟩
    rw [← hr.current] at hrow
    simp [VersionLifecycle.project, hrow, Except.bind]

/-- Setting the row of the event's version gives the rows after the event. -/
theorem Reflects.set {rows : Tracked InternalControlVersion} (hr : Reflects t p rows)
    {r : InternalControlVersion} (hsome : rowIn t (p ++ [e]) e.aggregate = some r) (k : Id) :
    (rows.set e.aggregate r).current[k]? = rowIn t (p ++ [e]) k := by
  rw [Tracked.set_current, Table.get_insert]
  split
  · next hk => rw [← hk, hsome]
  · next hk => rw [hr.current, rowIn_congr (ofAggregate_snoc_ne hk)]

/-- Only a `MadeEffective` event makes its version effective. -/
theorem body_of_effective (h : Part s (p ++ [e]))
    (hs : statusIn projection (p ++ [e]) e.aggregate = .effective) :
    e.body = .lifecycle .madeEffective := by
  -- A draft leaves a draft; of the lifecycle's events only one makes effective.
  cases hb : e.body with
  | drafted d =>
    obtain ⟨-, hsome⟩ := rowIn_drafted h hb
    obtain ⟨-, v, -, -, -, hstatus, -⟩ := rowIn_eq_some hsome
    rw [hs] at hstatus
    cases hstatus
  | lifecycle b =>
    obtain ⟨r, -, -, hsome⟩ := rowIn_lifecycle h hb
    obtain ⟨-, v, -, -, -, hstatus, -⟩ := rowIn_eq_some hsome
    have hnext : lifecycle.next (status r) b = .effective := by
      rw [← hs, ← hstatus]
      exact (LifecycleColumns.apply_status ..).symm
    rw [lifecycle_next_eq_effective.1 hnext]

/-- An event that can be replayed is replayed. -/
theorem Reflects.project (h : Part s (p ++ [e])) (hrep : Replayable s.rows.current p)
    (he : Replays s.rows.current p e) {rows : Tracked InternalControlVersion}
    (hr : Reflects s.rows.current p rows) :
    ∃ rows', ControlDefinitionLifecycle.project rows e = .ok rows' ∧
      Reflects s.rows.current (p ++ [e]) rows' := by
  obtain ⟨r, hsome, hproject⟩ := project_eq h hr
  rw [hproject]
  split
  · next hf =>
    have hflush : flush (rows.set e.aggregate r) =
        .ok (Tracked.clean (rows.set e.aggregate r).current) := by
      refine flush_rowIn h.inv (hr.set hsome) hr.stored ?_ ?_
      · intro k j v v' hv hv' hcontrol hj hs hne
        by_cases hk : e.aggregate = k
        · subst hk
          have hbody := body_of_effective h hs
          simp only [Replays, hbody] at he
          obtain ⟨hbelow, habove⟩ := he j v' v hv' hv hcontrol
          refine ⟨fun hlt => ?_, habove⟩
          rw [statusIn_snoc_ne (Ne.symm hj)]
          exact hbelow hlt
        · -- the row has not changed since the last flush
          rw [statusIn_snoc_ne hk] at hs
          exact absurd ((rowIn_congr (ofAggregate_snoc_ne hk)).trans
            (rowIn_congr (ofAggregate_flushed hs).symm)) hne
      · intro k r' w hr' hw
        obtain ⟨x, hx, rfl⟩ := successor_mem (replayable_snoc.2 ⟨hrep, he⟩) hr' hw
        rw [List.dropLast_concat] at hx
        exact rowIn_flushed h.left hx
    refine ⟨_, hflush, ?_⟩
    have hcurrent := hr.set hsome
    refine ⟨hcurrent, fun k => ?_⟩
    rw [flushed_snoc, if_pos hf]
    exact hcurrent k
  · next hf =>
    refine ⟨_, rfl, hr.set hsome, fun k => ?_⟩
    rw [flushed_snoc, if_neg hf]
    exact hr.stored k

/-- A version that becomes effective was not so at the last flush. -/
theorem not_effective_flushed (h : Part s (p ++ [e])) (hb : e.body = .lifecycle .madeEffective) :
    statusIn projection (flushed p) e.aggregate ≠ .effective := by
  intro hs
  have hmade : .madeEffective ∈ bodies (history projection p e.aggregate) := by
    have hshape := shape_of_accepts (h.left.flushed.accepts e.aggregate)
    rw [statusIn] at hs
    rw [hs] at hshape
    obtain ⟨pre, c, hpre, -⟩ := hshape
    obtain ⟨x, hx, hxk, hxb⟩ := mem_bodies_history.1
      (show .madeEffective ∈ bodies (history projection (flushed p) e.aggregate) by
        rw [hpre]; simp)
    exact mem_bodies_history.2 ⟨x, flushed_subset hx, hxk, hxb⟩
  obtain ⟨r, hrow, hguard, -⟩ := rowIn_lifecycle h hb
  obtain ⟨-, v, -, -, -, hstatus, -⟩ := rowIn_eq_some hrow
  have happroved : statusIn projection p e.aggregate = .approved := hstatus.symm.trans hguard
  have hshape := shape_of_accepts (h.left.accepts e.aggregate)
  rw [statusIn] at happroved
  rw [happroved] at hshape
  obtain ⟨pre, c, hpre, hnot⟩ := hshape
  rw [hpre] at hmade
  simp [hnot] at hmade

/-- A row that is not accepted makes the flush fail. -/
theorem flush_error {rows : Tracked InternalControlVersion} {r : InternalControlVersion}
    (hr : rows.current[k]? = some r) (hne : rows.stored[k]? ≠ some r)
    (hnot : ¬ rows.Accepted constraints k r) : flush rows = .error .integrityError := by
  have hnone : rows.flush constraints = none := by
    rw [← Option.not_isSome_iff_eq_none, Tracked.flush_isSome_iff]
    exact fun hall => hnot (hall k r hr hne)
  unfold flush
  rw [hnone]

/-- An effective version has a row, of its control. -/
theorem rowIn_of_effective {v : InternalControlVersion} (hv : t[k]? = some v)
    (hs : statusIn projection p k = .effective) :
    ∃ r, rowIn t p k = some r ∧ r.controlId = v.controlId ∧ r.lifecycleStatus = .effective := by
  have hne : ofAggregate p k ≠ [] := fun hnil => by
    rw [statusIn, history, hnil] at hs
    cases hs
  refine ⟨VersionRow.setColumns v (columnsAfter (history projection p k)), ?_, rfl, ?_⟩
  · rw [rowIn, if_neg hne, hv, Option.map_some]
  · rw [← hs, statusIn_eq_columnsAfter]
    rfl

/-- The flush after a version was made effective fails if it is not alone. -/
theorem madeEffective_error (h : Part s (p ++ [e])) {rows : Tracked InternalControlVersion}
    (hr : Reflects s.rows.current p rows) (hb : e.body = .lifecycle .madeEffective)
    (hnot : ¬ Replays s.rows.current p e) {r : InternalControlVersion}
    (hsome : rowIn s.rows.current (p ++ [e]) e.aggregate = some r) :
    flush (rows.set e.aggregate r) = .error .integrityError := by
  obtain ⟨-, u, hu, hcontrol, -, hstatus, -⟩ := rowIn_eq_some hsome
  have heffective : r.lifecycleStatus = .effective := by
    obtain ⟨r₀, -, -, hsome'⟩ := rowIn_lifecycle h hb
    obtain rfl := Option.some.inj (hsome.symm.trans hsome')
    rfl
  refine flush_error (k := e.aggregate) (r := r) (by simp) ?_ ?_
  · intro hstored
    rw [Tracked.set_stored, hr.stored] at hstored
    obtain ⟨-, -, -, -, -, hs, -⟩ := rowIn_eq_some hstored
    exact not_effective_flushed h hb (hs.symm.trans heffective)
  · intro haccepted
    refine hnot ?_
    simp only [Replays, hb]
    intro j v v' hv hv' hsame
    obtain rfl := Option.some.inj (hu.symm.trans hv')
    -- an effective row that the statement finds under `j` conflicts with the new one
    have hconflict : ∀ r' : InternalControlVersion, j ≠ e.aggregate →
        (rows.set e.aggregate r).foundBy e.aggregate j = some r' → r'.controlId = v.controlId →
        r'.lifecycleStatus ≠ .effective := by
      intro r' hj hfound hc hs
      have hno := haccepted.1 j r' hj hfound
      simp only [constraints, decide_eq_false_iff_not] at hno
      exact hno ⟨hcontrol.trans (hsame.symm.trans hc.symm), .inr ⟨heffective, hs⟩⟩
    constructor
    · intro hlt hs
      obtain ⟨r', hrow, hc, hs'⟩ := rowIn_of_effective hv hs
      refine hconflict r' hlt.ne ?_ hc hs'
      rw [Tracked.foundBy, if_pos hlt, hr.set hsome, rowIn_congr (ofAggregate_snoc_ne hlt.ne'),
        hrow]
    · intro hlt hs
      obtain ⟨r', hrow, hc, hs'⟩ := rowIn_of_effective hv hs
      refine hconflict r' hlt.ne' ?_ hc hs'
      rw [Tracked.foundBy, if_neg (Nat.lt_asymm hlt), Tracked.set_stored, hr.stored, hrow]

/-- The flush after a version was superseded fails if its successor is missing. -/
theorem superseded_error (h : Part s (p ++ [e])) (hrep : Replayable s.rows.current p)
    {rows : Tracked InternalControlVersion} (hr : Reflects s.rows.current p rows) {w : Id}
    (hb : e.body = .lifecycle (.superseded w)) (hnot : ¬ ∃ x ∈ p, x.aggregate = w)
    {r : InternalControlVersion}
    (hsome : rowIn s.rows.current (p ++ [e]) e.aggregate = some r) :
    flush (rows.set e.aggregate r) = .error .integrityError := by
  have hnone : ofAggregate p w = [] := by
    refine List.filter_eq_nil_iff.2 fun x hx => ?_
    simpa using fun hxw => hnot ⟨x, hx, hxw⟩
  have hwa : w ≠ e.aggregate := by
    rintro rfl
    obtain ⟨d, hd⟩ := h.drafted_iff.2 hnone
    rw [hb] at hd
    cases hd
  have hsuccessor : r.supersededByVersionId = some w := by
    obtain ⟨r₀, -, -, hsome'⟩ := rowIn_lifecycle h hb
    obtain rfl := Option.some.inj (hsome.symm.trans hsome')
    rfl
  refine flush_error (k := e.aggregate) (r := r) (by simp) ?_ ?_
  · intro hstored
    rw [Tracked.set_stored, hr.stored] at hstored
    have hrep' : Replayable s.rows.current (flushed p) := by
      intro p' e' post hsplit
      obtain ⟨tail, htail⟩ := List.rdropWhile_prefix (fun e : Event => !e.body.flushes) p
      refine hrep p' e' (post ++ tail) ?_
      rw [← htail]
      show flushed p ++ tail = _
      rw [hsplit, List.append_assoc, List.cons_append]
    obtain ⟨x, hx, hxw⟩ := successor_mem hrep' hstored hsuccessor
    exact hnot ⟨x, flushed_subset (List.dropLast_subset _ hx), hxw⟩
  · intro haccepted
    -- The successor has no row yet, so the reference fails.
    rcases haccepted.2 w (Option.mem_toList.2 hsuccessor) with heq | hfound
    · exact hwa heq
    · unfold Tracked.foundBy at hfound
      split at hfound
      · rw [hr.set hsome, rowIn, ofAggregate_snoc_ne hwa.symm, if_pos hnone] at hfound
        cases hfound
      · have hnone' : ofAggregate (flushed p) w = [] := by
          refine List.filter_eq_nil_iff.2 fun x hx => ?_
          simpa using fun hxw => hnot ⟨x, flushed_subset hx, hxw⟩
        rw [Tracked.set_stored, hr.stored, rowIn, if_pos hnone'] at hfound
        cases hfound

/-- An event that cannot be replayed makes its projector's flush fail. -/
theorem Reflects.project_error (h : Part s (p ++ [e])) (hrep : Replayable s.rows.current p)
    (he : ¬ Replays s.rows.current p e) {rows : Tracked InternalControlVersion}
    (hr : Reflects s.rows.current p rows) :
    ControlDefinitionLifecycle.project rows e = .error .integrityError := by
  obtain ⟨r, hsome, hproject⟩ := project_eq h hr
  rw [hproject]
  -- A draft always replays, so the event is one of the lifecycle.
  cases hb : e.body with
  | drafted d => simp [Replays, hb] at he
  | lifecycle b =>
    cases b with
    | madeEffective =>
      show flush _ = _
      exact madeEffective_error h hr hb he hsome
    | superseded w =>
      show flush _ = _
      exact superseded_error h hrep hr hb (by simpa only [Replays, hb] using he) hsome
    | _ => simp [Replays, hb] at he

/-- The replay of a log, one event after another. -/
theorem foldlM_project (es : List Event) (h : ∀ p, p <+: es → Part s p) :
    (Replayable s.rows.current es → ∃ rows, es.foldlM project (Tracked.clean ∅) = .ok rows ∧
      Reflects s.rows.current es rows) ∧
    (¬ Replayable s.rows.current es →
      es.foldlM project (Tracked.clean ∅) = .error .integrityError) := by
  -- Event by event, from the left: the replay goes on or has failed before.
  induction es using List.reverseRecOn with
  | nil =>
    refine ⟨fun _ => ⟨Tracked.clean ∅, rfl, fun _ => rfl, fun _ => rfl⟩, fun hnot => ?_⟩
    exact absurd (fun p e post hp => by simp at hp) hnot
  | append_singleton p e ih =>
    obtain ⟨ihok, iherror⟩ := ih fun p' hp' => h p' (hp'.trans (List.prefix_append ..))
    have hpart := h (p ++ [e]) List.prefix_rfl
    rw [replayable_snoc, List.foldlM_append]
    by_cases hrep : Replayable s.rows.current p
    · obtain ⟨rows, hrows, hr⟩ := ihok hrep
      rw [hrows]
      by_cases he : Replays s.rows.current p e
      · obtain ⟨rows', hproject, hr'⟩ := hr.project hpart hrep he
        refine ⟨fun _ => ⟨rows', ?_, hr'⟩, fun hnot => absurd ⟨hrep, he⟩ hnot⟩
        show [e].foldlM project rows = _
        rw [List.foldlM_cons, hproject]
        rfl
      · refine ⟨fun hboth => absurd hboth.2 he, fun _ => ?_⟩
        show [e].foldlM project rows = _
        rw [List.foldlM_cons, hr.project_error hpart hrep he]
        rfl
    · refine ⟨fun hboth => absurd hboth.1 hrep, fun _ => ?_⟩
      rw [iherror hrep]
      rfl

/-- The rows after a whole replay are the live ones. -/
theorem Between.replayed_current (hb : Between clock s) {rows : Tracked InternalControlVersion}
    (hr : Reflects s.rows.current (replayOrder s.events) rows) :
    rows.current = s.rows.current := by
  refine Table.ext fun k => ?_
  rw [hr.current, rowIn, hb.session.logged.ofAggregate_replayOrder]
  cases hv : s.rows.current[k]? with
  | none => simp
  | some v =>
    obtain ⟨e, he, hek⟩ := hb.drafted.all k (Table.mem_of_get hv)
    have hne : ofAggregate s.events k ≠ [] := List.ne_nil_of_mem (mem_ofAggregate.2 ⟨he, hek⟩)
    have hcolumns := hb.session.inv.columns k v hv
    rw [if_neg hne, Option.map_some, history,
      hb.session.logged.ofAggregate_replayOrder, ← history, ← hcolumns,
      VersionRow.setColumns_columns]

/-- The commit after a whole replay succeeds. -/
theorem Between.replayed_flush (hb : Between clock s) {rows : Tracked InternalControlVersion}
    (hrep : Replayable s.rows.current (replayOrder s.events))
    (hr : Reflects s.rows.current (replayOrder s.events) rows) :
    flush rows = .ok (Tracked.clean rows.current) := by
  refine flush_rowIn hb.session.inv hr.current hr.stored ?_ ?_
  · intro k j v v' _ _ _ _ hs hne
    exact absurd (rowIn_congr (ofAggregate_flushed hs).symm) hne
  · intro k r w hrow hw
    obtain ⟨x, hx, rfl⟩ := successor_mem hrep hrow hw
    exact rowIn_flushed (hb.part List.prefix_rfl) (List.dropLast_subset _ hx)

/-- A rebuild succeeds exactly when every event can be replayed in its turn, and then it
    changes nothing. -/
theorem Between.rebuild_eq_ok (hb : Between clock s) {rows : Tracked InternalControlVersion} :
    rebuildInternalControlVersionProjection s.rows s.events = .ok rows ↔
      rows = s.rows ∧ Replayable s.rows.current (replayOrder s.events) := by
  obtain ⟨hok, herror⟩ := foldlM_project (replayOrder s.events) fun p hp => hb.part hp
  show ((replayOrder s.events).foldlM project (Tracked.clean ∅)).bind flush = _ ↔ _
  -- A log that does not replay raises.
  by_cases hrep : Replayable s.rows.current (replayOrder s.events)
  · obtain ⟨replayed, hfold, hr⟩ := hok hrep
    rw [hfold]
    show flush replayed = _ ↔ _
    rw [hb.replayed_flush hrep hr, hb.replayed_current hr, ← hb.clean]
    constructor
    · exact fun heq => ⟨(Except.ok.inj heq).symm, hrep⟩
    · exact fun heq => congrArg Except.ok heq.1.symm
  · rw [herror hrep]
    constructor
    · intro hno
      cases hno
    · exact fun hyes => absurd hyes.2 hrep

/-- In every state that requests lead to, a rebuild succeeds and gives the live rows exactly
    when every event can be replayed in its turn. -/
theorem rebuild_iff
    (h : Run (ControlDefinitionLifecycle.step clock) (fun _ _ => True) initial s) :
    rebuildInternalControlVersionProjection s.rows s.events = .ok s.rows ↔
      Replayable s.rows.current (replayOrder s.events) := by
  rw [(between_of_run h).rebuild_eq_ok]
  exact and_iff_right rfl

/-! ## A withdrawal that is not written yet -/

/-- A control. -/
def accessReview : InternalControl where
  id := 5
  name := "Access review"
  description := ""
  status := "implemented"
  reviewFrequency := "annual"
  mappedRequirementIds := []

/-- The effective version 20 is withdrawn and the version 10, approved before, is made
    effective. -/
def withdrawnUnwritten : List (List Command) :=
  [bootstrapInitialEffectiveVersion 20 accessReview {}, [.draft 10 accessReview {} {}],
    [.submitForReview 10 {}], [.reviewVersion 10 "approved" "" {}],
    [.withdrawVersion 20 "outdated" {} none], [.makeVersionEffective 10 {}]]

/-- A rebuild of this log writes the version 10 as effective before the withdrawal of the
    version 20. -/
theorem rebuild_withdrawn_unwritten :
    ∃ s, Run (ControlDefinitionLifecycle.step tickingClock) (fun _ _ => True) initial s ∧
      rebuildInternalControlVersionProjection s.rows s.events = .error .integrityError :=
  ⟨_, Run.of_exec_true withdrawnUnwritten rfl, rfl⟩

/-- The effective version 20 is superseded by the version 30. -/
def supersededByLater : List (List Command) :=
  [bootstrapInitialEffectiveVersion 20 accessReview {}, [.draft 30 accessReview {} {}],
    [.submitForReview 30 {}], [.reviewVersion 30 "approved" "" {}],
    [.makeVersionEffective 30 {}]]

/-- `rebuild_iff` for a control whose first version has been superseded. -/
theorem rebuild_iff_superseded :
    ∃ s, Run.exec (ControlDefinitionLifecycle.step tickingClock) initial supersededByLater =
        some s ∧
      (s.rows.current[20]?.map fun v => v.supersededByVersionId) = some (some 30) ∧
      rebuildInternalControlVersionProjection s.rows s.events = .ok s.rows ∧
      Replayable s.rows.current (replayOrder s.events) :=
  ⟨_, rfl, rfl, rfl, (rebuild_iff (Run.of_exec_true supersededByLater rfl)).1 rfl⟩

end MiniGrc.ControlDefinitionLifecycle
