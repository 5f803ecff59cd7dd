import Mathlib.Order.Nat
import MiniGrc.App.PinnedVersions
import MiniGrc.Spec.AggregateCommands
import MiniGrc.Spec.LoadedVersions

/-!
# Numbered and pinned definition versions

In one session, whatever is done in it: the versions of a control are numbered 1, 2, … in the
order in which they were drafted. An occurrence keeps the version that was effective when it
was created, if no refresh of a control loses a withdrawal. What is effective is told by the
log: the rows may lag behind it, since a refresh reads the loaded versions again and drops
what has not been flushed.

## Key results

- `Agrees.refresh`: what a refresh loses matters only if it is a withdrawal
- `isEffective_reload`: a collection that has just been loaded shows the version that is
  effective by the log
- `advances_run`: what a command on occurrences does to the pinned versions
- `numbered_in_order`: the numbers, in every run
- `numbered_and_pinned`: the pins, in every run without a lost withdrawal
- `pinned_withdrawn`: a run with one
-/

namespace MiniGrc

open Events

/-! ## Outcomes -/

/-- The state that a command leaves has an effect, whether it returns or raises. -/
def Outcome.Leaves {σ : Type} (R : σ → Prop) : Outcome σ → Prop
  | .returned s => R s
  | .raised s _ => R s

section Leaves

variable {σ σ' : Type} {R R' : σ → Prop} {o : Outcome σ}

/-- What a command leaves, it leaves in a weaker sense too. -/
theorem Outcome.Leaves.mono (h : o.Leaves R) (himp : ∀ s, R s → R' s) : o.Leaves R' := by
  cases o with
  | returned s => exact himp s h
  | raised s e => exact himp s h

/-- A command after another leaves what the second does. -/
theorem Outcome.Leaves.andThen {f : σ → Outcome σ} (h : o.Leaves R)
    (hf : ∀ s, R s → (f s).Leaves R) : (o.andThen f).Leaves R := by
  cases o with
  | returned s => exact hf s h
  | raised s e => exact h

/-- A loop of commands leaves what each of them does. -/
theorem Outcome.Leaves.foldl {ι : Type} {f : ι → σ → Outcome σ} (h : o.Leaves R) (l : List ι)
    (hf : ∀ x s, R s → (f x s).Leaves R) :
    (l.foldl (fun o x => o.andThen (f x)) o).Leaves R := by
  induction l generalizing o with
  | nil => exact h
  | cons x l ih => exact ih (h.andThen fun s hs => hf x s hs)

/-- Mapping the state maps what is left. -/
theorem Outcome.leaves_map {f : σ → σ'} {Q : σ' → Prop} :
    (o.map f).Leaves Q ↔ o.Leaves fun s => Q (f s) := by
  cases o <;> exact Iff.rfl

end Leaves

/-! ## Numbers -/

namespace ControlDefinitionLifecycle

open VersionLifecycle

variable {clock : Clock} {t t' : ControlSession} {s : LoadedSession} {events : List Event}
  {controlId k : Id} {n : Nat}

/-- The version of the control that the event drafts, with its number. -/
def draftIn (controlId : Id) (e : Event) : Option (Id × Nat) :=
  match e.body with
  | .drafted d => if d.controlId = controlId then some (e.aggregate, d.versionNumber) else none
  | .lifecycle _ => none

/-- The versions of the control with their numbers, in the order in which they were drafted. -/
def draftsOf (events : List Event) (controlId : Id) : List (Id × Nat) :=
  events.filterMap (draftIn controlId)

/-- Each control's drafts are numbered 1, 2, … -/
def Numbers (events : List Event) : Prop :=
  ∀ controlId, (draftsOf events controlId).map Prod.snd =
    List.range' 1 (draftsOf events controlId).length

/-- The log drafts the versions of the table, numbered. -/
structure Recorded (rows : Table InternalControlVersion) (events : List Event) : Prop where
  numbers : Numbers events
  versions : ∀ (controlId k : Id) n, (k, n) ∈ draftsOf events controlId ↔
    ∃ v, rows[k]? = some v ∧ v.controlId = controlId ∧ v.versionNumber = n
  known : ∀ e ∈ events, e.aggregate ∈ rows

/-- The empty log records no draft. -/
theorem recorded_empty : Recorded ∅ [] where
  numbers _ := rfl
  versions controlId k n := by simp [draftsOf]
  known _ he := absurd he List.not_mem_nil

/-- Only the versions and their numbers matter, not their columns. -/
theorem Recorded.of_sameVersions (h : Recorded t.rows.current events)
    (hsame : LoadedSession.SameVersions t t') : Recorded t'.rows.current events where
  numbers := h.numbers
  versions controlId k n := by
    rw [h.versions]
    constructor
    · rintro ⟨v, hv, hp, hn⟩
      obtain ⟨v', hv', hdraft⟩ := hsame.get hv
      exact ⟨v', hv', by rw [hdraft, hp], by rw [hdraft, hn]⟩
    · rintro ⟨v, hv, hp, hn⟩
      obtain ⟨v', hv', hdraft⟩ := hsame.symm.get hv
      exact ⟨v', hv', by rw [hdraft, hp], by rw [hdraft, hn]⟩
  known e he := by
    obtain ⟨v, hv⟩ := Table.exists_get (h.known e he)
    obtain ⟨v', hv', -⟩ := hsame.get hv
    exact Table.mem_of_get hv'

/-- The next number is one more than the number of drafts. -/
theorem nextVersionNumber_eq (h : Recorded t.rows.current events) :
    nextVersionNumber t controlId = (draftsOf events controlId).length + 1 := by
  have hnumbers : ∀ n, (∃ k, (k, n) ∈ draftsOf events controlId) ↔
      1 ≤ n ∧ n < 1 + (draftsOf events controlId).length := by
    intro n
    rw [← List.mem_range'_1, ← h.numbers controlId]
    simp
  apply le_antisymm
  · have hle : ((versionsOf t controlId).map fun x => x.2.versionNumber).foldr max 0 ≤
        (draftsOf events controlId).length := by
      refine List.max_le_of_forall_le (α := Nat) _ _ fun n hmem => ?_
      obtain ⟨x, hx, rfl⟩ := List.mem_map.1 hmem
      obtain ⟨hrow, hp⟩ := mem_versionsOf.1 hx
      have hbound := (hnumbers _).1 ⟨x.1, (h.versions ..).2 ⟨x.2, hrow, hp, rfl⟩⟩
      omega
    unfold nextVersionNumber
    omega
  · -- The highest number is the number of drafts, or there is none yet.
    by_cases hzero : (draftsOf events controlId).length = 0
    · unfold nextVersionNumber
      omega
    · obtain ⟨k, hk⟩ := (hnumbers (draftsOf events controlId).length).2 (by omega)
      obtain ⟨v, hv, hp, hnumber⟩ := (h.versions ..).1 hk
      have hlt := lt_nextVersionNumber hv hp
      omega

/-- Lifecycle events draft nothing. -/
theorem draftsOf_lifecycle {e : Event} {b : LifecycleEvent} (hbody : e.body = .lifecycle b) :
    draftsOf (events ++ [e]) controlId = draftsOf events controlId := by
  have hnone : draftIn controlId e = none := by simp [draftIn, hbody]
  rw [draftsOf, List.filterMap_append, List.filterMap_cons_none hnone, List.filterMap_nil,
    List.append_nil, draftsOf]

/-- A drafted event adds its version to those of its control. -/
theorem draftsOf_drafted {e : Event} {d : Draft} (hbody : e.body = .drafted d) :
    draftsOf (events ++ [e]) controlId = draftsOf events controlId ++
      if d.controlId = controlId then [(e.aggregate, d.versionNumber)] else [] := by
  rw [draftsOf, List.filterMap_append]
  congr 1
  by_cases hc : d.controlId = controlId <;> simp [draftIn, hbody, hc]

/-- An event keeps the versions numbered. -/
theorem Logs.recorded {x y : Table InternalControlVersion × List Event}
    (h : LoadedSession.Logs x y) (hx : Recorded x.1 x.2) : Recorded y.1 y.2 := by
  -- A lifecycle event keeps the numbers; a draft takes the next one.
  cases h with
  | @lifecycle rows log e b v occurredAt actorId hbody hv =>
    refine ⟨fun controlId => ?_, fun controlId k n => ?_, fun e' he' => ?_⟩
    · rw [draftsOf_lifecycle hbody]
      exact hx.numbers controlId
    · rw [draftsOf_lifecycle hbody, hx.versions]
      show _ ↔ ∃ w, (rows.insert e.aggregate _)[k]? = some w ∧ _
      rw [Table.get_insert]
      split
      · next hk =>
        subst hk
        constructor
        · rintro ⟨w, hw, hp, hn⟩
          obtain rfl := Option.some.inj (hv.symm.trans hw)
          exact ⟨_, rfl, hp, hn⟩
        · rintro ⟨w, hw, hp, hn⟩
          obtain rfl := Option.some.inj hw
          exact ⟨v, hv, hp, hn⟩
      · exact Iff.rfl
    · show e'.aggregate ∈ rows.insert _ _
      rcases List.mem_append.1 he' with he' | he'
      · exact Std.ExtTreeMap.mem_insert.2 (.inr (hx.known e' he'))
      · obtain rfl := List.mem_singleton.1 he'
        simp
  | @drafted rows log e d row hbody hid hdraft hstatus hnumber =>
    have hnext : d.versionNumber = (draftsOf log d.controlId).length + 1 :=
      hnumber.trans (nextVersionNumber_eq hx)
    refine ⟨fun controlId => ?_, fun controlId k n => ?_, fun e' he' => ?_⟩
    · rw [draftsOf_drafted hbody]
      split
      · next hc =>
        subst hc
        simp only [List.map_append, hx.numbers d.controlId, List.map_cons, List.map_nil,
          List.length_append, List.length_singleton, List.range'_1_concat, hnext,
          Nat.add_comm 1]
      · rw [List.append_nil]
        exact hx.numbers controlId
    · rw [draftsOf_drafted hbody, List.mem_append, hx.versions]
      simp only [Table.get_insert_eq_some_iff hid]
      constructor
      · rintro (⟨v, hv, hp, hn⟩ | hnew)
        · exact ⟨v, .inl hv, hp, hn⟩
        · split at hnew
          · next hc =>
            obtain ⟨rfl, rfl⟩ := Prod.mk.inj (List.mem_singleton.1 hnew)
            exact ⟨row, .inr ⟨rfl, rfl⟩, by rw [hdraft, hc], by rw [hdraft]⟩
          · exact absurd hnew List.not_mem_nil
      · rintro ⟨v, hv | ⟨rfl, rfl⟩, hp, hn⟩
        · exact .inl ⟨v, hv, hp, hn⟩
        · rw [hdraft] at hp hn
          rw [if_pos hp, hn]
          exact .inr (List.mem_singleton_self _)
    · show e'.aggregate ∈ rows.insert _ _
      rcases List.mem_append.1 he' with he' | he'
      · exact Std.ExtTreeMap.mem_insert.2 (.inr (hx.known e' he'))
      · obtain rfl := List.mem_singleton.1 he'
        simp

/-! ## Effective by the log -/

/-- The rows show those versions as effective that are so by the log. -/
def Agrees (rows : Table InternalControlVersion) (events : List Event) : Prop :=
  ∀ (k : Id) v, rows[k]? = some v →
    (status v = .effective ↔ statusIn projection events k = .effective)

/-- With no version there is nothing to agree on. -/
theorem agrees_empty : Agrees ∅ [] := fun _ _ hv => absurd hv Table.not_get_empty

/-- The rows show what an event changes. -/
theorem Logs.agrees {x y : Table InternalControlVersion × List Event}
    (h : LoadedSession.Logs x y) (hx : Recorded x.1 x.2) (hagrees : Agrees x.1 x.2) :
    Agrees y.1 y.2 := by
  cases h with
  | @lifecycle rows log e b v occurredAt actorId hbody hv =>
    intro k w hw
    have hlifecycle : projection.lifecycleEvent e.body = some b := by rw [hbody]; rfl
    change (rows.insert e.aggregate _)[k]? = some w at hw
    rw [Table.get_insert] at hw
    split at hw
    · next hk =>
      subst hk
      obtain rfl := Option.some.inj hw
      -- an event makes its version effective or not, whatever its status was
      show status _ = _ ↔ statusIn projection (log ++ [e]) e.aggregate = _
      rw [statusIn_snoc_self hlifecycle, status, columns_applyTo,
        LifecycleColumns.apply_status, lifecycle_next_eq_effective, lifecycle_next_eq_effective]
    · next hk =>
      show _ ↔ statusIn projection (log ++ [e]) k = _
      rw [statusIn_snoc_ne hk]
      exact hagrees k w hw
  | @drafted rows log e d row hbody hid hdraft hstatus hnumber =>
    intro k w hw
    have hother : projection.lifecycleEvent e.body = none := by rw [hbody]; rfl
    show _ ↔ statusIn projection (log ++ [e]) k = _
    rw [statusIn_snoc_other hother]
    rcases Table.of_get_insert hw with ⟨rfl, rfl⟩ | hold
    · -- nothing has been logged of a version that is new
      have hnil : history projection log e.aggregate = [] :=
        history_eq_nil fun e' he' heq => hid (heq ▸ hx.known e' he')
      rw [statusIn, hnil, hstatus]
      exact Iff.rfl
    · exact hagrees k w hold

/-- The refresh of the control loses no withdrawal: none of its loaded versions is effective in
    the database and withdrawn in the session. -/
def LosesNoWithdrawal (s : LoadedSession) (controlId : Id) : Prop :=
  ∀ k ∈ s.loaded[controlId]?.getD [], ∀ v ∈ s.session.rows.stored[k]?, status v = .effective →
    ∀ w ∈ s.session.rows.current[k]?, status w = .effective

instance (s : LoadedSession) (controlId : Id) : Decidable (LosesNoWithdrawal s controlId) :=
  inferInstanceAs (Decidable (∀ k ∈ _, _))

/-- A refresh keeps the versions. -/
theorem sameVersions_refresh (h : LoadedSession.Inv clock s) (controlId : Id) :
    LoadedSession.SameVersions s.session (s.refresh controlId).session := by
  intro k
  rcases h.refresh_rows controlId with hrows | hrows
  · rw [hrows]
  · rw [hrows]
    exact h.pending.sameVersions k

/-- Of a change that a refresh loses only a withdrawal matters. -/
theorem Agrees.refresh (hagrees : Agrees s.session.rows.current events)
    (h : LoadedSession.Inv clock s) (hloses : LosesNoWithdrawal s controlId) :
    Agrees (s.refresh controlId).session.rows.current events := by
  obtain ⟨k₀, hpending, hrow⟩ := h.pending
  intro k v hv
  change (s.session.rows.expire _).current[k]? = some v at hv
  rw [Tracked.expire_current_get] at hv
  obtain ⟨w, hw, rfl⟩ := Option.map_eq_some_iff.1 hv
  rw [← hagrees k w hw]
  split
  · next hk =>
    -- The version whose update is lost is not withdrawn, by `hloses`.
    by_cases hk₀ : k = k₀
    · subst hk₀
      obtain ⟨u, hu, -, heff⟩ := hrow w hw
      rw [hu, Option.getD_some]
      constructor
      · exact fun hst => hloses k hk u hu hst w hw
      · exact fun hst => heff hst ▸ hst
    · rw [← hpending.others k hk₀, hw, Option.getD_some]
  · exact Iff.rfl

end ControlDefinitionLifecycle

namespace PinnedVersions

open VersionLifecycle AggregateType
open ControlDefinitionLifecycle (Agrees InternalControlVersion LoadedSession LosesNoWithdrawal
  Recorded)
open ControlOccurrences (ControlOccurrence Body OccurrenceSession generateOccurrences)

namespace PinnedSession

variable {clock : Clock} {others : TableName → Id → Bool} {s s' : PinnedSession}
  {R : Id → Option Id → Prop} {t t' t'' : Table ControlOccurrence} {o o' : ControlOccurrence}

/-! ## The effective version -/

/-- `pin` is the version of the control that is effective by the log, if there is one. -/
def IsEffective (versions : LoadedSession) (controlId : Id) (pin : Option Id) : Prop :=
  ∀ k, pin = some k ↔ ∃ v, versions.session.rows.current[k]? = some v ∧
    v.controlId = controlId ∧
    statusIn ControlDefinitionLifecycle.projection versions.session.events k = .effective

/-- A collection that has just been loaded shows the version whose row is effective. -/
theorem effectiveVersion_reload {versions : LoadedSession} (h : LoadedSession.Inv clock versions)
    (controlId k : Id) : effectiveVersion (versions.reload controlId) controlId = some k ↔
      ∃ v, (versions.reload controlId).session.rows.current[k]? = some v ∧
        v.controlId = controlId ∧ status v = .effective := by
  have hids := LoadedSession.loaded_reload versions controlId controlId
  rw [if_pos rfl] at hids
  have hreload := h.reload controlId
  set r := versions.reload controlId
  have hmem : ∀ {x}, x ∈ r.versions controlId ↔
      r.session.rows.current[x.1]? = some x.2 ∧ x.2.controlId = controlId := by
    intro x
    rw [LoadedSession.mem_versions hids, List.mem_map]
    constructor
    · rintro ⟨⟨y, hy, hkey⟩, hx⟩
      obtain ⟨hrow, hp⟩ := mem_versionsOf.1 hy
      rw [hkey] at hrow
      have hrows : y.2 = x.2 := Option.some.inj (hrow.symm.trans hx)
      rw [hrows] at hrow hp
      exact ⟨hrow, hp⟩
    · exact fun ⟨hx, hp⟩ => ⟨⟨x, mem_versionsOf.2 ⟨hx, hp⟩, rfl⟩, hx⟩
  unfold effectiveVersion
  constructor
  · intro hfound
    obtain ⟨x, hfind, rfl⟩ := Option.map_eq_some_iff.1 hfound
    obtain ⟨hx, hp⟩ := hmem.1 (List.mem_of_find?_eq_some hfind)
    exact ⟨x.2, hx, hp, by simpa using List.find?_some hfind⟩
  · rintro ⟨v, hv, hp, hst⟩
    have hsome : ((r.versions controlId).find? fun x => status x.2 = .effective).isSome :=
      List.find?_isSome.2 ⟨(k, v), hmem.2 ⟨hv, hp⟩, by simpa using hst⟩
    obtain ⟨x, hfind⟩ := Option.isSome_iff_exists.1 hsome
    obtain ⟨hx, hp'⟩ := hmem.1 (List.mem_of_find?_eq_some hfind)
    -- a control has one effective version
    have hkey : x.1 = k := hreload.current.oneEffective hx hv (hp'.trans hp.symm)
      (by simpa using List.find?_some hfind) hst
    rw [hfind, ← hkey]
    rfl

/-- It is the version that is effective by the log, if the refresh loses no withdrawal. -/
theorem isEffective_reload {versions : LoadedSession} (h : LoadedSession.Inv clock versions)
    {controlId : Id} (hagrees : Agrees versions.session.rows.current versions.session.events)
    (hloses : LosesNoWithdrawal versions controlId) :
    IsEffective versions controlId (effectiveVersion (versions.reload controlId) controlId) := by
  intro k
  rw [effectiveVersion_reload h, LoadedSession.reload_session]
  have hsame := ControlDefinitionLifecycle.sameVersions_refresh h controlId
  have hagrees' := hagrees.refresh h hloses
  constructor
  · rintro ⟨v, hv, hp, hst⟩
    obtain ⟨w, hw, hdraft⟩ := hsame.symm.get hv
    exact ⟨w, hw, by rw [hdraft, hp], (hagrees' k v hv).1 hst⟩
  · rintro ⟨w, hw, hp, hst⟩
    obtain ⟨v, hv, hdraft⟩ := hsame.get hw
    exact ⟨v, hv, by rw [hdraft, hp], (hagrees' k v hv).2 hst⟩

/-! ## Pins -/

/-- The occurrence is pinned as before. -/
def SamePin (o o' : ControlOccurrence) : Prop :=
  o'.controlId = o.controlId ∧ o'.controlDefinitionVersionId = o.controlDefinitionVersionId

/-- The occurrences of `t` are pinned as before, and the new ones as `R` says. -/
structure Moves (R : Id → Option Id → Prop) (t t' : Table ControlOccurrence) : Prop where
  kept : ∀ (k : Id) o, t[k]? = some o → ∃ o', t'[k]? = some o' ∧ SamePin o o'
  new : ∀ (k : Id) o', t'[k]? = some o' → k ∉ t → R o'.controlId o'.controlDefinitionVersionId

theorem Moves.refl (R : Id → Option Id → Prop) (t : Table ControlOccurrence) : Moves R t t where
  kept _ o ho := ⟨o, ho, rfl, rfl⟩
  new _ _ ho hk := absurd (Table.mem_of_get ho) hk

/-- Two moves, one after the other. -/
theorem Moves.trans (h : Moves R t t') (h' : Moves R t' t'') : Moves R t t'' where
  kept k o ho := by
    obtain ⟨o', ho', hc, hp⟩ := h.kept k o ho
    obtain ⟨o'', ho'', hc', hp'⟩ := h'.kept k o' ho'
    exact ⟨o'', ho'', hc'.trans hc, hp'.trans hp⟩
  new k o'' ho'' hk := by
    by_cases hk' : k ∈ t'
    · obtain ⟨o', ho'⟩ := Table.exists_get hk'
      obtain ⟨u, hu, hc, hp⟩ := h'.kept k o' ho'
      obtain rfl := Option.some.inj (hu.symm.trans ho'')
      rw [hc, hp]
      exact h.new k o' ho' hk
    · exact h'.new k o'' ho'' hk'

/-- An event that creates an occurrence pins it as `R` says. -/
def Pins (R : Id → Option Id → Prop) : Body → Prop
  | .materialized payload => R payload.controlId payload.controlDefinitionVersionId
  | .recordedManually payload => R payload.controlId payload.controlDefinitionVersionId
  | _ => True

/-- An event on an occurrence leaves its pin. -/
theorem row_samePin {flushed : FlushTimes} {e : ControlOccurrences.Event}
    (h : ControlOccurrences.row flushed (some o) e = .ok o') : SamePin o o' := by
  -- No event on an occurrence that exists writes its version.
  cases hb : e.body with
  | materialized payload => simp [ControlOccurrences.row, hb] at h
  | recordedManually payload => simp [ControlOccurrences.row, hb] at h
  | performed payload =>
    simp only [ControlOccurrences.row, hb] at h
    obtain rfl := Except.ok.inj h
    exact ⟨rfl, rfl⟩
  | evidenceLinked id =>
    simp only [ControlOccurrences.row, hb] at h
    split at h
    · cases h
    · obtain rfl := Except.ok.inj h
      exact ⟨rfl, rfl⟩
  | evidenceArtifactLinked id =>
    simp only [ControlOccurrences.row, hb] at h
    split at h
    · cases h
    · obtain rfl := Except.ok.inj h
      exact ⟨rfl, rfl⟩

/-- An occurrence begins with the pin of the event that materializes it. -/
theorem row_new {flushed : FlushTimes} {e : ControlOccurrences.Event}
    (h : ControlOccurrences.row flushed none e = .ok o') (hpins : Pins R e.body) :
    R o'.controlId o'.controlDefinitionVersionId := by
  -- The two events that create an occurrence carry the version.
  cases hb : e.body with
  | materialized payload =>
    rw [hb] at hpins
    simp only [ControlOccurrences.row, hb] at h
    obtain rfl := Except.ok.inj h
    exact hpins
  | recordedManually payload =>
    rw [hb] at hpins
    simp only [ControlOccurrences.row, hb] at h
    obtain rfl := Except.ok.inj h
    exact hpins
  | performed payload => simp [ControlOccurrences.row, hb] at h
  | evidenceLinked id => simp [ControlOccurrences.row, hb] at h
  | evidenceArtifactLinked id => simp [ControlOccurrences.row, hb] at h

/-- Projecting an event moves no pin and adds one that the event brings. -/
theorem moves_project {flushed : FlushTimes} {present : TableName → Id → Bool}
    {e : ControlOccurrences.Event}
    (h : (ControlOccurrences.aggregateType flushed).project present t e = .ok t')
    (hpins : Pins R e.body) :
    Moves R t t' := by
  obtain ⟨r, hrow, -, -, rfl⟩ := project_eq_ok h
  constructor
  · intro k o ho
    rw [Table.get_insert]
    -- An insert or an update of the one row the event names.
    split
    · next hk =>
      subst hk
      rw [ho] at hrow
      exact ⟨r, rfl, row_samePin hrow⟩
    · exact ⟨o, ho, rfl, rfl⟩
  · intro k o' ho' hk
    rcases Table.of_get_insert ho' with ⟨rfl, rfl⟩ | hold
    · have hnone : t[e.aggregate]? = none := Std.ExtTreeMap.getElem?_eq_none hk
      rw [hnone] at hrow
      exact row_new hrow hpins
    · exact absurd (Table.mem_of_get hold) hk

/-- The session `u'` comes later than `u`, with the occurrences pinned as before and new ones
    pinned as `R` says. -/
structure Advances (R : Id → Option Id → Prop) (u u' : OccurrenceSession) : Prop where
  ticks : u.ticks ≤ u'.ticks
  moves : Moves R u.rows u'.rows

theorem Advances.refl (R : Id → Option Id → Prop) (u : OccurrenceSession) : Advances R u u :=
  ⟨le_rfl, .refl R u.rows⟩

theorem Advances.trans {u u' u'' : OccurrenceSession} (h : Advances R u u')
    (h' : Advances R u' u'') : Advances R u u'' :=
  ⟨h.ticks.trans h'.ticks, h.moves.trans h'.moves⟩

/-- An append leaves the pins as they are, and pins what it creates. -/
theorem advances_append (s : PinnedSession) (u : OccurrenceSession)
    (args : AppendArgs Id Body String) (hpins : Pins R args.body) :
    (appendAndProject (occurrenceProjection clock others s) clock u args).Leaves
      (Advances R u) := by
  by_cases hkey : u.Fresh args
  · unfold appendAndProject
    simp only [appendEvent_of_fresh hkey, if_true]
    split
    · exact ⟨Nat.le_succ _, .refl R u.rows⟩
    · next rows hflush =>
      -- the flush concerns the versions only
      have hrows : rows = u.rows := by
        simp only [occurrenceProjection] at hflush
        cases hwritten : flush s.versions.session.rows with
        | error e =>
          rw [hwritten] at hflush
          cases hflush
        | ok _ =>
          rw [hwritten] at hflush
          exact (Except.ok.inj hflush).symm
      subst hrows
      split
      · exact ⟨Nat.le_succ _, .refl R _⟩
      · next hproject => exact ⟨Nat.le_succ _, moves_project hproject hpins⟩
  · rw [appendAndProject_of_not_fresh hkey]
    exact .refl R u

/-- A command creates occurrences of the control that it refreshes, and pins them to the version
    that it finds. -/
theorem advances_run (s : PinnedSession) (u : OccurrenceSession) (c : ControlOccurrences.Command)
    (pin : Id → Option Id) (hpin : ∀ controlId, refreshed u c = some controlId →
      R controlId (pin controlId)) :
    (c.run (occurrenceProjection clock others s) clock u pin).Leaves (Advances R u) := by
  cases c with
  | recordManually id controlId controlPeriodId dueAt scopeNote actor =>
    unfold ControlOccurrences.Command.run ControlOccurrences.recordOccurrenceManually
    exact advances_append (R := R) s u _ (hpin controlId rfl)
  | perform id occurredAt performedByPersonId scopeNote evidenceNote actor =>
    unfold ControlOccurrences.Command.run ControlOccurrences.performOccurrence
    exact advances_append (R := R) s u _ trivial
  | linkEvidence id evidenceSnapshotId actor =>
    unfold ControlOccurrences.Command.run ControlOccurrences.linkEvidence
    exact advances_append (R := R) s u _ trivial
  | linkEvidenceArtifactVersion id evidenceArtifactVersionId actor =>
    unfold ControlOccurrences.Command.run ControlOccurrences.linkEvidenceArtifactVersion
    exact advances_append (R := R) s u _ trivial
  | generate control period horizonMonths today newIds actor =>
    show ((generateOccurrences _ clock u control period horizonMonths today (pin control.id) newIds
      actor).map Prod.fst).Leaves _
    rw [ControlOccurrences.generateOccurrences_session]
    refine ControlOccurrences.generateRounds_rule (Q := fun o => o.Leaves (Advances R u))
      (.refl R u) (fun _ => .refl R u)
      fun interval hinterval dates htype hmonths hactive hdates => ?_
    -- the loop is reached after the control has been refreshed
    simp only [refreshed, htype, hmonths, dif_pos hinterval, if_neg hactive, hdates] at hpin
    have hstart : (Outcome.returned u).Leaves (Advances R u) := .refl R u
    refine hstart.foldl _ fun x u' hadvances => ?_
    refine Outcome.Leaves.mono (advances_append (R := R) s u' _ ?_) fun _ h => hadvances.trans h
    exact hpin control.id rfl

/-! ## The invariant -/

/-- What holds of a session. -/
structure Inv (clock : Clock) (s : PinnedSession) : Prop where
  versions : LoadedSession.Inv clock s.versions
  recorded : Recorded s.versions.session.rows.current s.versions.session.events
  committed : Recorded s.versions.committed.1 s.versions.committed.2
  /-- a rollback changes no pin -/
  committedPins : ∀ (k : Id) o, s.committed.1[k]? = some o →
    ∃ o', s.occurrences[k]? = some o' ∧ SamePin o o'

/-- The rows agree with the log, and so do those of the last commit. -/
structure Agreeing (s : PinnedSession) : Prop where
  current : Agrees s.versions.session.rows.current s.versions.session.events
  committed : Agrees s.versions.committed.1 s.versions.committed.2

/-- Nothing is recorded at the start. -/
theorem inv_initial : Inv clock initial where
  versions := LoadedSession.inv_initial
  recorded := ControlDefinitionLifecycle.recorded_empty
  committed := ControlDefinitionLifecycle.recorded_empty
  committedPins k o ho := by simp [initial] at ho

/-- At the start there is nothing to agree on. -/
theorem agreeing_initial : Agreeing initial where
  current := ControlDefinitionLifecycle.agrees_empty
  committed := ControlDefinitionLifecycle.agrees_empty

/-- A rollback leaves what is committed. -/
theorem Inv.rollback (h : Inv clock s) : Inv clock s.rollback where
  versions := h.versions.rollback
  recorded := h.committed
  committed := h.committed
  committedPins _ o ho := ⟨o, ho, rfl, rfl⟩

/-- What is committed agrees. -/
theorem Agreeing.rollback (h : Agreeing s) : Agreeing s.rollback :=
  ⟨h.committed, h.committed⟩

/-! ## Commands on versions -/

/-- What a step needs to lose no withdrawal: its refresh of a control, if it makes one, loses
    none. -/
def KeepsWithdrawals (s : PinnedSession) : Action → Prop
  | .version (.draft _ control _ _) => LosesNoWithdrawal s.versions control.id
  | .occurrence _ c => ∀ controlId ∈ refreshed s.occurrenceSession c,
      LosesNoWithdrawal s.versions controlId
  | _ => True

instance (s : PinnedSession) : ∀ a : Action, Decidable (KeepsWithdrawals s a)
  | .version (.draft _ control _ _) =>
    inferInstanceAs (Decidable (LosesNoWithdrawal s.versions control.id))
  | .occurrence _ c =>
    inferInstanceAs (Decidable (∀ controlId ∈ refreshed s.occurrenceSession c,
      LosesNoWithdrawal s.versions controlId))
  | .version (.submitForReview ..) | .version (.reviewVersion ..)
  | .version (.makeVersionEffective ..) | .version (.withdrawVersion ..)
  | .commit | .rollback => isTrue trivial

/-- A reload keeps the versions numbered. -/
theorem recorded_reload {versions : LoadedSession} {events : List ControlDefinitionLifecycle.Event}
    (h : LoadedSession.Inv clock versions)
    (hrecorded : Recorded versions.session.rows.current events) (controlId : Id) :
    Recorded (versions.reload controlId).session.rows.current events := by
  rw [LoadedSession.reload_session]
  exact hrecorded.of_sameVersions (ControlDefinitionLifecycle.sameVersions_refresh h controlId)

/-- What a command logs keeps the versions numbered and the rows in agreement with the log. -/
theorem logs_keep {x y : Table InternalControlVersion × List ControlDefinitionLifecycle.Event}
    (h : Relation.ReflTransGen LoadedSession.Logs x y) (hx : Recorded x.1 x.2) :
    Recorded y.1 y.2 ∧ (Agrees x.1 x.2 → Agrees y.1 y.2) := by
  induction h with
  | refl => exact ⟨hx, fun hagrees => hagrees⟩
  | tail _ hstep ih =>
    exact ⟨ControlDefinitionLifecycle.Logs.recorded hstep ih.1, fun hagrees =>
      ControlDefinitionLifecycle.Logs.agrees hstep ih.1 (ih.2 hagrees)⟩

/-- A reload logs nothing. -/
theorem reload_events (versions : LoadedSession) (controlId : Id) :
    (versions.reload controlId).session.events = versions.session.events := by
  rw [LoadedSession.reload_session]
  rfl

/-- The session on which a command works has the same log. -/
theorem before_events (versions : LoadedSession) (c : ControlDefinitionLifecycle.Command) :
    (versions.before c).session.events = versions.session.events := by
  cases c with
  | draft id control revision actor => exact reload_events versions control.id
  | submitForReview id actor => rfl
  | reviewVersion id decision comment actor => rfl
  | makeVersionEffective id actor => rfl
  | withdrawVersion id reason actor occurredAt => rfl

/-- A lifecycle command leaves the occurrences and, without a withdrawal lost, the agreement. -/
theorem Inv.ran (h : Inv clock s) {c : ControlDefinitionLifecycle.Command}
    {versions : LoadedSession} (hran : LoadedSession.Ran clock c s.versions versions) :
    Inv clock { s with versions } ∧
      (KeepsWithdrawals s (.version c) → Agreeing s → Agreeing { s with versions }) := by
  -- a draft starts from the reloaded session
  have hbefore : Recorded (s.versions.before c).session.rows.current
      s.versions.session.events := by
    cases c with
    | draft id control revision actor => exact recorded_reload h.versions h.recorded control.id
    | _ => exact h.recorded
  have hagrees : KeepsWithdrawals s (.version c) → Agreeing s →
      Agrees (s.versions.before c).session.rows.current s.versions.session.events := by
    intro hkeeps hagreeing
    cases c with
    | draft id control revision actor =>
      show Agrees (s.versions.reload control.id).session.rows.current _
      rw [LoadedSession.reload_session]
      exact hagreeing.current.refresh h.versions hkeeps
    | _ => exact hagreeing.current
  rw [← before_events s.versions c] at hbefore hagrees
  obtain ⟨hrecorded, hkeep⟩ := logs_keep hran.logs hbefore
  have hcommitted := h.committed
  rw [← hran.committed] at hcommitted
  refine ⟨⟨hran.inv, hrecorded, hcommitted, h.committedPins⟩, fun hkeeps hagreeing =>
    ⟨hkeep (hagrees hkeeps hagreeing), ?_⟩⟩
  have hagreed := hagreeing.committed
  rw [← hran.committed] at hagreed
  exact hagreed

/-! ## Commands on occurrences -/

/-- A reload leaves the invariant. -/
theorem Inv.reload (h : Inv clock s) (c : ControlOccurrences.Command) : Inv clock (s.reload c) := by
  unfold PinnedSession.reload
  split
  · exact h
  · next controlId _ =>
    refine ⟨h.versions.reload controlId, ?_, ?_, h.committedPins⟩
    · show Recorded (s.versions.reload controlId).session.rows.current
        (s.versions.reload controlId).session.events
      rw [reload_events]
      exact recorded_reload h.versions h.recorded controlId
    · show Recorded (s.versions.reload controlId).committed.1
        (s.versions.reload controlId).committed.2
      rw [LoadedSession.reload_committed]
      exact h.committed

/-- A reload that loses no withdrawal keeps the agreement. -/
theorem Agreeing.reload (hagreeing : Agreeing s) (h : Inv clock s)
    {c : ControlOccurrences.Command} (hkeeps : KeepsWithdrawals s (.occurrence others c)) :
    Agreeing (s.reload c) := by
  unfold PinnedSession.reload
  -- Without loaded versions there is nothing to lose.
  split
  · exact hagreeing
  · next controlId hrefreshed =>
    refine ⟨?_, ?_⟩
    · show Agrees (s.versions.reload controlId).session.rows.current
        (s.versions.reload controlId).session.events
      rw [LoadedSession.reload_session]
      exact hagreeing.current.refresh h.versions (hkeeps controlId hrefreshed)
    · show Agrees (s.versions.reload controlId).committed.1
        (s.versions.reload controlId).committed.2
      rw [LoadedSession.reload_committed]
      exact hagreeing.committed

/-- A reload leaves the occurrences and the clock as they are. -/
theorem reload_occurrenceSession (s : PinnedSession) (c : ControlOccurrences.Command) :
    (s.reload c).occurrenceSession = s.occurrenceSession := by
  unfold PinnedSession.reload
  split
  · rfl
  · simp only [occurrenceSession, LoadedSession.reload_session]
    rfl

/-- What a command on occurrences writes of the versions changes none. -/
theorem absorb_current (h : Inv clock s) (u : OccurrenceSession) :
    (s.absorb u).versions.session.rows = s.versions.session.rows ∨
      (s.absorb u).versions.session.rows = Tracked.clean s.versions.session.rows.current := by
  have hflush : flush s.versions.session.rows =
      .ok (Tracked.clean s.versions.session.rows.current) := h.versions.current.settled
  unfold PinnedSession.absorb written
  rw [hflush]
  split
  · exact .inl rfl
  · exact .inr rfl

/-- The occurrence commands leave the versions. -/
theorem Inv.absorb (h : Inv clock s) {u : OccurrenceSession}
    (hadvances : Advances R s.occurrenceSession u) : Inv clock (s.absorb u) := by
  have hticks : s.versions.session.ticks ≤ u.ticks := hadvances.ticks
  have hversions : LoadedSession.Inv clock (s.absorb u).versions := by
    -- The occurrence commands leave the versions as they are, or flush the one held back.
    rcases absorb_current h u with hrows | hrows
    · exact h.versions.of_rows hrows hticks
    · have hwait := h.versions.current.flushed.wait hticks
      refine h.versions.of_clean (t := (s.absorb u).versions.session) ?_ ?_ hticks fun k => ?_
      · show LoadedSession.Projected clock (s.absorb u).versions.session.rows u.ticks
        rw [hrows]
        exact hwait
      · rw [hrows, Tracked.clean_current]
      · rw [hrows, Tracked.clean_current]
  refine ⟨hversions, ?_, h.committed, fun k o ho => ?_⟩
  · show Recorded (s.absorb u).versions.session.rows.current s.versions.session.events
    rcases absorb_current h u with hrows | hrows
    · rw [hrows]
      exact h.recorded
    · rw [hrows]
      exact h.recorded
  · obtain ⟨o', ho', hc, hp⟩ := h.committedPins k o ho
    obtain ⟨o'', ho'', hc', hp'⟩ := hadvances.moves.kept k o' ho'
    exact ⟨o'', ho'', hc'.trans hc, hp'.trans hp⟩

/-- The occurrence commands leave the agreement. -/
theorem Agreeing.absorb (hagreeing : Agreeing s) (h : Inv clock s) (u : OccurrenceSession) :
    Agreeing (s.absorb u) := by
  refine ⟨?_, hagreeing.committed⟩
  show Agrees (s.absorb u).versions.session.rows.current s.versions.session.events
  rcases absorb_current h u with hrows | hrows
  · rw [hrows]
    exact hagreeing.current
  · rw [hrows]
    exact hagreeing.current

/-- How a command on occurrences ends, whatever it pins. -/
theorem Inv.runOccurrence (h : Inv clock s) (others : TableName → Id → Bool)
    (c : ControlOccurrences.Command)
    (hpin : ∀ controlId, refreshed s.occurrenceSession c = some controlId →
      R controlId (effectiveVersion (s.reload c).versions controlId)) :
    (s.runOccurrence clock others c).Leaves fun s' =>
      Inv clock s' ∧ Moves R s.occurrences s'.occurrences ∧
        (KeepsWithdrawals s (.occurrence others c) → Agreeing s → Agreeing s') := by
  rw [← reload_occurrenceSession s c] at hpin
  refine Outcome.leaves_map.2 ((advances_run (s.reload c) _ c _ hpin).mono fun u hadvances => ?_)
  refine ⟨(h.reload c).absorb hadvances, ?_, fun hkeeps hagreeing =>
    (hagreeing.reload h hkeeps).absorb (h.reload c) u⟩
  rw [reload_occurrenceSession] at hadvances
  exact hadvances.moves

/-! ## Steps -/

/-- What a step does to the pins: the occurrences that there are keep theirs, and one that is
    new is pinned to the version of its control that is effective. -/
def Stepped (s s' : PinnedSession) : Prop :=
  ∀ (k : Id) o', s'.occurrences[k]? = some o' →
    (∃ o, s.occurrences[k]? = some o ∧ SamePin o o') ∨
      s.occurrences[k]? = none ∧ IsEffective s.versions o'.controlId o'.controlDefinitionVersionId

/-- With the occurrences as they are, no pin moves. -/
theorem stepped_of_eq (h : s'.occurrences = s.occurrences) : Stepped s s' :=
  fun k o' ho' => .inl ⟨o', by rw [← h, ho'], rfl, rfl⟩

/-- Pins that move to effective versions alone are a step. -/
theorem stepped_of_moves (h : Moves (IsEffective s.versions) s.occurrences s'.occurrences) :
    Stepped s s' := by
  intro k o' ho'
  by_cases hk : k ∈ s.occurrences
  · obtain ⟨o, ho⟩ := Table.exists_get hk
    obtain ⟨u, hu, hpin⟩ := h.kept k o ho
    obtain rfl := Option.some.inj (hu.symm.trans ho')
    exact .inl ⟨o, ho, hpin⟩
  · exact .inr ⟨Std.ExtTreeMap.getElem?_eq_none hk, h.new k o' ho' hk⟩

/-- A rollback only loses occurrences. -/
theorem Inv.stepped_rollback (h : Inv clock s) : Stepped s s.rollback := by
  intro k o' ho'
  obtain ⟨o, ho, hc, hp⟩ := h.committedPins k o' ho'
  exact .inl ⟨o, ho, hc.symm, hp.symm⟩

/-- After a command the session is what the command has left, or rolled back. -/
theorem conclude_of {Q : PinnedSession → Prop} {o : Outcome PinnedSession}
    (hrollback : Q s.rollback) (hreturned : ∀ s', o = .returned s' → Q s')
    (hraised : ∀ s' e, o = .raised s' e → e = .integrityError ∨ Q s') : Q (s.conclude o) := by
  cases o with
  | returned s' => exact hreturned s' rfl
  | raised s' e =>
    have hends := hraised s' e rfl
    cases e with
    | integrityError => exact hrollback
    | valueError message => exact hends.resolve_left nofun
    | attributeError => exact hends.resolve_left nofun

/-- What a step keeps. -/
structure Steps (clock : Clock) (s : PinnedSession) (a : Action) (s' : PinnedSession) : Prop where
  inv : Inv clock s'
  /-- if no withdrawal is lost -/
  agreeing : KeepsWithdrawals s a → Agreeing s → Agreeing s'
  stepped : KeepsWithdrawals s a → Agreeing s → Stepped s s'

/-- A rollback is a step. -/
theorem Inv.steps_rollback (h : Inv clock s) (a : Action) : Steps clock s a s.rollback where
  inv := h.rollback
  agreeing _ hagreeing := hagreeing.rollback
  stepped _ _ := h.stepped_rollback

/-- Every action is a step that keeps the invariant. -/
theorem Inv.step (h : Inv clock s) {a : Action} (hs : step clock s a = some s') :
    Steps clock s a s' := by
  cases a with
  | rollback =>
    obtain rfl := Option.some.inj hs
    exact h.steps_rollback .rollback
  | commit =>
    have hflush : flush s.versions.session.rows =
        .ok (Tracked.clean s.versions.session.rows.current) := h.versions.current.settled
    have hversions : LoadedSession.step clock s.versions .commit = some s'.versions := by
      simp only [PinnedSession.step, hflush] at hs
      obtain rfl := Option.some.inj hs
      simp only [LoadedSession.step, hflush]
    have hinv := h.versions.step hversions
    simp only [PinnedSession.step, hflush] at hs
    obtain rfl := Option.some.inj hs
    exact ⟨⟨hinv, h.recorded, h.recorded, fun _ o ho => ⟨o, ho, rfl, rfl⟩⟩,
      fun _ hagreeing => ⟨hagreeing.current, hagreeing.current⟩, fun _ _ => stepped_of_eq rfl⟩
  | version c =>
    obtain rfl := Option.some.inj hs
    have hkept := h.versions.run c
    have hsteps : ∀ {versions}, LoadedSession.Ran clock c s.versions versions →
        Steps clock s (.version c) { s with versions } := fun hran =>
      ⟨(h.ran hran).1, (h.ran hran).2, fun _ _ => stepped_of_eq rfl⟩
    cases ho : s.versions.run clock c with
    | returned versions =>
      rw [ho] at hkept
      exact hsteps hkept
    | raised versions e =>
      rw [ho] at hkept
      refine conclude_of (Q := fun s' => Steps clock s _ s') (h.steps_rollback _)
        (fun s' heq => ?_) fun s' e' heq => ?_
      · cases heq
      · obtain ⟨rfl, rfl⟩ := Outcome.raised.inj heq
        exact hkept.imp_right hsteps
  | occurrence others c =>
    obtain rfl := Option.some.inj hs
    -- what is pinned depends on whether the refresh has lost a withdrawal
    let R : Id → Option Id → Prop := fun controlId pin =>
      KeepsWithdrawals s (.occurrence others c) → Agreeing s → IsEffective s.versions controlId pin
    have hpin : ∀ controlId, refreshed s.occurrenceSession c = some controlId →
        R controlId (effectiveVersion (s.reload c).versions controlId) := by
      intro controlId hrefreshed hkeeps hagreeing
      have hreload : (s.reload c).versions = s.versions.reload controlId := by
        rw [PinnedSession.reload, hrefreshed]
      rw [hreload]
      exact isEffective_reload h.versions hagreeing.current (hkeeps controlId hrefreshed)
    have hends := h.runOccurrence (R := R) others c hpin
    have hsteps : ∀ {s'}, Inv clock s' ∧ Moves R s.occurrences s'.occurrences ∧
        (KeepsWithdrawals s (.occurrence others c) → Agreeing s → Agreeing s') →
          Steps clock s (.occurrence others c) s' := by
      rintro s' ⟨hinv, hmoves, hagreeing'⟩
      refine ⟨hinv, hagreeing', fun hkeeps hagreeing => stepped_of_moves ⟨hmoves.kept, ?_⟩⟩
      exact fun k o' ho' hk => hmoves.new k o' ho' hk hkeeps hagreeing
    refine conclude_of (Q := fun s' => Steps clock s _ s') (h.steps_rollback _)
      (fun s' heq => ?_) fun s' e heq => .inr ?_
    · rw [heq] at hends
      exact hsteps hends
    · rw [heq] at hends
      exact hsteps hends

/-! ## Runs -/

/-- The occurrence `k` of the control is pinned to `pin`. -/
def PinnedTo (s : PinnedSession) (k controlId : Id) (pin : Option Id) : Prop :=
  ∃ o, s.occurrences[k]? = some o ∧ o.controlId = controlId ∧ o.controlDefinitionVersionId = pin

/-- In the states of a run, one after another: the occurrence `k` was created in a state in which
    `pin` was the effective version of its control, and has been pinned to it ever since. -/
def PinnedSince (states : List PinnedSession) (k controlId : Id) (pin : Option Id) : Prop :=
  ∃ earlier t later, states = earlier ++ t :: later ∧ later ≠ [] ∧ t.occurrences[k]? = none ∧
    IsEffective t.versions controlId pin ∧ ∀ u ∈ later, PinnedTo u k controlId pin

/-- The versions of the control are numbered 1, 2, … in the order in which they were drafted. -/
structure NumberedInOrder (s : PinnedSession) (controlId : Id) : Prop where
  numbers : (ControlDefinitionLifecycle.draftsOf s.versions.session.events controlId).map Prod.snd =
    List.range' 1
      (ControlDefinitionLifecycle.draftsOf s.versions.session.events controlId).length
  versions : ∀ (k : Id) n,
    (k, n) ∈ ControlDefinitionLifecycle.draftsOf s.versions.session.events controlId ↔
      ∃ v, s.versions.session.rows.current[k]? = some v ∧ v.controlId = controlId ∧
        v.versionNumber = n

/-- Whatever is done in the session, the versions of each control are numbered in drafting
    order. -/
theorem numbered_in_order (h : Run (step clock) (fun _ _ => True) initial s) (controlId : Id) :
    NumberedInOrder s controlId := by
  have hinv : Inv clock s := h.invariant inv_initial fun _ _ _ ht _ hu => (ht.step hu).inv
  exact ⟨hinv.recorded.numbers controlId, hinv.recorded.versions controlId⟩

/-- The occurrence is still pinned after a step that changes no pin. -/
theorem PinnedSince.snoc {states : List PinnedSession} {k controlId : Id} {pin : Option Id}
    (h : PinnedSince states k controlId pin) (hs : PinnedTo s k controlId pin) :
    PinnedSince (states ++ [s]) k controlId pin := by
  obtain ⟨earlier, t, later, rfl, hne, hnone, heff, hlater⟩ := h
  refine ⟨earlier, t, later ++ [s], by simp, by simp, hnone, heff, fun u hu => ?_⟩
  rcases List.mem_append.1 hu with hu | hu
  · exact hlater u hu
  · rw [List.mem_singleton.1 hu]
    exact hs

/-- A step keeps the pins, and pins what it creates. -/
theorem Stepped.pinnedSince {past : List PinnedSession} (h : Stepped s s')
    (hpinned : ∀ (k : Id) o, s.occurrences[k]? = some o →
      PinnedSince (past ++ [s]) k o.controlId o.controlDefinitionVersionId)
    {k : Id} (ho : s'.occurrences[k]? = some o) :
    PinnedSince (past ++ [s] ++ [s']) k o.controlId o.controlDefinitionVersionId := by
  rcases h k o ho with ⟨o', ho', hc, hp⟩ | ⟨hnone, heff⟩
  · have hsince := hpinned k o' ho'
    rw [← hc, ← hp] at hsince
    exact hsince.snoc ⟨o, ho, rfl, rfl⟩
  · refine ⟨past, s, [s'], by simp, by simp, hnone, heff, fun u hu => ?_⟩
    obtain rfl := List.mem_singleton.1 hu
    exact ⟨o, ho, rfl, rfl⟩

/-- In every run in which no refresh loses a withdrawal, the versions of each control are
    numbered in drafting order, and each occurrence keeps the version that was effective when
    it was created. -/
theorem numbered_and_pinned {past : List PinnedSession}
    (h : Run (Run.recorded (step clock)) (fun u a => KeepsWithdrawals u.2 a) ([], initial)
      (past, s)) :
    (∀ controlId, NumberedInOrder s controlId) ∧
      ∀ (k : Id) o, s.occurrences[k]? = some o →
        PinnedSince (past ++ [s]) k o.controlId o.controlDefinitionVersionId := by
  have hinv := h.invariant (P := fun u => (Inv clock u.2 ∧ Agreeing u.2) ∧
      ∀ (k : Id) o, u.2.occurrences[k]? = some o →
        PinnedSince (u.1 ++ [u.2]) k o.controlId o.controlDefinitionVersionId) ?_ ?_
  · obtain ⟨⟨hinv, -⟩, hpinned⟩ := hinv
    exact ⟨fun controlId => ⟨hinv.recorded.numbers controlId, hinv.recorded.versions controlId⟩,
      hpinned⟩
  · exact ⟨⟨inv_initial, agreeing_initial⟩, fun k o ho => absurd ho Table.not_get_empty⟩
  · rintro ⟨past, u⟩ a ⟨past', u'⟩ ⟨⟨hu, hagreeing⟩, hpinned⟩ hkeeps hs
    obtain ⟨u'', hstep, heq⟩ := Option.map_eq_some_iff.1 hs
    obtain ⟨rfl, rfl⟩ := Prod.mk.inj heq
    have hsteps := hu.step hstep
    exact ⟨⟨hsteps.inv, hsteps.agreeing hkeeps hagreeing⟩, fun k o ho =>
      (hsteps.stepped hkeeps hagreeing).pinnedSince hpinned ho⟩

/-- The version `id` of the control 7 becomes effective. -/
def approve (id : Id) : List Action :=
  [.version (.draft id LoadedSession.sampleControl {} {}), .version (.submitForReview id {}),
    .version (.reviewVersion id "approved" "" {}), .version (.makeVersionEffective id {})]

/-- An occurrence `id` of the control 7 is recorded. -/
def recordSeven (id : Id) : Action :=
  .occurrence (fun _ _ => true) (.recordManually id 7 none none "" {})

/-- A second version takes over after an occurrence has been recorded, which stays with the
    first one. -/
theorem numbered_and_pinned_successor :
    ∃ past s o, Run (Run.recorded (step tickingClock)) (fun u a => KeepsWithdrawals u.2 a)
        ([], initial) (past, s) ∧
      s.occurrences[(5 : Id)]? = some o ∧ o.controlDefinitionVersionId = some 1 ∧
      (∀ controlId, NumberedInOrder s controlId) ∧
        ∀ (k : Id) o, s.occurrences[k]? = some o →
          PinnedSince (past ++ [s]) k o.controlId o.controlDefinitionVersionId := by
  have hrun : ∃ past s o, Run.exec (Run.guarded (Run.recorded (step tickingClock))
        fun u a => KeepsWithdrawals u.2 a) ([], initial)
        (approve 1 ++ [recordSeven 5] ++ approve 2) = some (past, s) ∧
      s.occurrences[(5 : Id)]? = some o ∧ o.controlDefinitionVersionId = some 1 :=
    ⟨_, _, _, rfl, rfl, rfl⟩
  obtain ⟨past, s, o, hexec, ho, hpin⟩ := hrun
  have hrun := Run.of_exec_guarded _ hexec
  exact ⟨past, s, o, hrun, ho, hpin, numbered_and_pinned hrun⟩

/-- An occurrence that was not there a state ago has the version that was effective then. -/
theorem PinnedSince.isEffective {past : List PinnedSession} {k controlId : Id} {pin : Option Id}
    (h : PinnedSince (past ++ [s] ++ [s']) k controlId pin) (hnone : s.occurrences[k]? = none) :
    IsEffective s.versions controlId pin := by
  obtain ⟨earlier, u, later, heq, hne, -, heff, hlater⟩ := h
  rcases List.eq_nil_or_concat later with rfl | ⟨later, last, rfl⟩
  · exact absurd rfl hne
  · rw [List.concat_eq_append, ← List.cons_append, ← List.append_assoc] at heq
    obtain ⟨heq, -⟩ := List.append_inj' heq rfl
    rcases List.eq_nil_or_concat later with rfl | ⟨later, last', rfl⟩
    · obtain ⟨-, hlast⟩ := List.append_inj' heq rfl
      obtain rfl := List.singleton_inj.1 hlast
      exact heff
    · -- otherwise the state before had the occurrence, too
      rw [List.concat_eq_append, ← List.cons_append, ← List.append_assoc] at heq
      obtain ⟨-, hlast⟩ := List.append_inj' heq rfl
      obtain rfl := List.singleton_inj.1 hlast
      obtain ⟨o, ho, -⟩ := hlater s (by simp)
      rw [hnone] at ho
      cases ho

/-- An effective version whose occurrences are shown is withdrawn, and the next occurrence
    refreshes the control before the withdrawal has been flushed: the refresh reads the version
    as effective again, and the occurrence is pinned to a version that is not. -/
theorem pinned_withdrawn : ¬ ∀ past s,
    Run (Run.recorded (step tickingClock)) (fun _ _ => True) ([], initial) (past, s) →
      (∀ controlId, NumberedInOrder s controlId) ∧
        ∀ (k : Id) o, s.occurrences[k]? = some o →
          PinnedSince (past ++ [s]) k o.controlId o.controlDefinitionVersionId := by
  -- The refresh before the second occurrence loses the withdrawal, so the version still counts as
  -- effective.
  intro hall
  have hrun : ∃ past t s o, Run.exec (Run.recorded (step tickingClock)) ([], initial)
        (approve 1 ++ [recordSeven 5, .version (.withdrawVersion 1 "" {} none), recordSeven 6]) =
          some (past ++ [t], s) ∧
      s.occurrences[(6 : Id)]? = some o ∧ o.controlDefinitionVersionId = some 1 ∧
      t.occurrences[(6 : Id)]? = none ∧
      statusIn ControlDefinitionLifecycle.projection t.versions.session.events 1 ≠ .effective :=
    ⟨[_, _, _, _, _, _], _, _, _, rfl, rfl, rfl, rfl, by decide⟩
  obtain ⟨past, t, s, o, hexec, ho, hpin, hnone, hstatus⟩ := hrun
  have hsince := (hall _ _ (Run.of_exec_true _ hexec)).2 6 o ho
  rw [hpin] at hsince
  obtain ⟨v, -, -, heffective⟩ := (hsince.isEffective hnone 1).1 rfl
  exact hstatus heffective

end PinnedSession
end PinnedVersions
end MiniGrc
