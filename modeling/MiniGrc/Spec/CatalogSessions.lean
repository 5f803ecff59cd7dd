import MiniGrc.App.ConcurrentCatalogs

/-!
# Sessions that reconcile the catalogs

What a call of `reconcile_system_catalogs` has found or inserted when it stands at a statement,
and what its open transaction holds. Every commit comes at the end of a call, so that what is
committed is what was there at the start, or has all catalogs. The rows of an open transaction
belong to items that its call has passed, and all calls take the items in the same order.

## Key results

- `Inv.step`: the invariant of all sessions
- `Inv.not_owning`: once all catalogs are committed, nobody holds a row of one
-/

namespace MiniGrc.ConcurrentCatalogs

open OpenRows
open FrameworkAdoptions (FrameworkAdoption)

variable {ι : Type} {catalogs : Catalogs} {t₀ t t' v v' o : Tables} {c : SystemCatalog}
  {rest : List SystemCatalog} {fw : Id × Framework}

/-! ## Catalogs in the tables -/

/-- The framework of a catalog. -/
def IsFramework (t : Tables) (c : SystemCatalog) (k : Id) : Prop :=
  ∃ f : Framework, t.frameworks[k]? = some f ∧ f.catalogKey = some c.catalogKey

/-- The requirement of a framework with the code of `r`. -/
def IsRequirement (t : Tables) (frameworkId : Id) (r : CatalogRequirement) (q : Id) : Prop :=
  ∃ x : Requirement, t.requirements[q]? = some x ∧ x.frameworkId = frameworkId ∧
    x.referenceCode = r.referenceCode

/-- The assessment of a requirement. -/
def IsAssessment (t : Tables) (requirementId a : Id) : Prop :=
  ∃ x : Assessment, t.assessments[a]? = some x ∧ x.requirementId = requirementId

/-- The adoption of a catalog's family. -/
def IsAdoption (t : Tables) (c : SystemCatalog) (a : Id) : Prop :=
  ∃ x : FrameworkAdoption, t.adoptions[a]? = some x ∧ x.catalogFamily = c.catalogFamily

/-- Every requirement has an assessment, and every assessment a requirement. -/
structure Assessed (t : Tables) : Prop where
  assessment : ∀ (q : Id) x, t.requirements[q]? = some x → ∃ a, IsAssessment t q a
  requirement : ∀ (a : Id) x, t.assessments[a]? = some x →
    ∃ r, t.requirements[x.requirementId]? = some r

/-- The catalog has its framework and all its requirements. -/
def Filled (t : Tables) (c : SystemCatalog) : Prop :=
  ∃ k, IsFramework t c k ∧ ∀ r ∈ c.requirements, ∃ q, IsRequirement t k r q

/-- The catalog has its adoption, too. -/
def Present (t : Tables) (c : SystemCatalog) : Prop :=
  Filled t c ∧ ∃ a, IsAdoption t c a

/-- No row is changed or deleted. -/
structure Extends (t t' : Tables) : Prop where
  frameworks : ∀ (k : Id) r, t.frameworks[k]? = some r → t'.frameworks[k]? = some r
  requirements : ∀ (k : Id) r, t.requirements[k]? = some r → t'.requirements[k]? = some r
  assessments : ∀ (k : Id) r, t.assessments[k]? = some r → t'.assessments[k]? = some r
  adoptions : ∀ (k : Id) r, t.adoptions[k]? = some r → t'.adoptions[k]? = some r
  events : ∀ (k : Id) r, t.events[k]? = some r → t'.events[k]? = some r
  auditEvents : ∀ (k : Id) r, t.auditEvents[k]? = some r → t'.auditEvents[k]? = some r

theorem Extends.refl (t : Tables) : Extends t t :=
  ⟨fun _ _ h => h, fun _ _ h => h, fun _ _ h => h, fun _ _ h => h, fun _ _ h => h, fun _ _ h => h⟩

/-- A framework of the catalog stays one as tables grow. -/
theorem IsFramework.mono {k : Id} (ht : Extends t t') (h : IsFramework t c k) :
    IsFramework t' c k := by
  obtain ⟨f, hf, hkey⟩ := h
  exact ⟨f, ht.frameworks k f hf, hkey⟩

/-- A requirement of the catalog stays one as tables grow. -/
theorem IsRequirement.mono {k q : Id} {r : CatalogRequirement} (ht : Extends t t')
    (h : IsRequirement t k r q) : IsRequirement t' k r q := by
  obtain ⟨x, hx, hcolumns⟩ := h
  exact ⟨x, ht.requirements q x hx, hcolumns⟩

/-- An adoption of the catalog stays one as tables grow. -/
theorem IsAdoption.mono {a : Id} (ht : Extends t t') (h : IsAdoption t c a) :
    IsAdoption t' c a := by
  obtain ⟨x, hx, hfamily⟩ := h
  exact ⟨x, ht.adoptions a x hx, hfamily⟩

/-- A filled catalog stays filled. -/
theorem Filled.mono (ht : Extends t t') (h : Filled t c) : Filled t' c := by
  obtain ⟨k, hk, hr⟩ := h
  exact ⟨k, hk.mono ht, fun r hmem => (hr r hmem).imp fun q => IsRequirement.mono ht⟩

/-- A catalog that is present stays present. -/
theorem Present.mono (ht : Extends t t') (h : Present t c) : Present t' c :=
  ⟨h.1.mono ht, h.2.imp fun _ => IsAdoption.mono ht⟩

/-! ## Items -/

/-- What a call finds or creates, one after the other; catalogs are given by their keys. -/
inductive Item
  | framework (catalogKey : String)
  | requirement (catalogKey referenceCode : String)
  | adoption (catalogKey : String)

/-- The requirements of a catalog. -/
def requirementItems (c : SystemCatalog) (requirements : List CatalogRequirement) : List Item :=
  requirements.map fun r => .requirement c.catalogKey r.referenceCode

/-- The items of a catalog. -/
def itemsOf (c : SystemCatalog) : List Item :=
  .framework c.catalogKey :: (requirementItems c c.requirements ++ [.adoption c.catalogKey])

/-- The items of catalogs. -/
def items (catalogs : List SystemCatalog) : List Item := catalogs.flatMap itemsOf

/-- The items that a call still has to find or create. -/
def todo : Pc → List Item
  | .findFramework c rest | .insertFramework c rest | .rereadFramework c rest =>
    itemsOf c ++ items rest
  | .findRequirement c _ r todo rest | .insertRequirement c _ r todo rest
  | .rereadRequirement c _ r todo rest =>
    requirementItems c (r :: todo) ++ .adoption c.catalogKey :: items rest
  | .findAdoption c _ rest | .checkAdoption c _ rest | .insertAdoption c _ _ rest =>
    .adoption c.catalogKey :: items rest
  | .idle | .returned | .done | .raised _ => []

/-- Before the next catalog all of its items are to be done. -/
@[simp] theorem todo_nextCatalog (rest : List SystemCatalog) :
    todo (nextCatalog rest) = items rest := by
  cases rest <;> rfl

/-- Before the next requirement, the rest of them and the adoption are to be done. -/
@[simp] theorem todo_nextRequirement (requirements : List CatalogRequirement) :
    todo (nextRequirement c fw rest requirements) =
      requirementItems c requirements ++ .adoption c.catalogKey :: items rest := by
  cases requirements <;> rfl

/-- The framework comes before the requirements, -/
theorem framework_items (fw : Id × Framework) : itemsOf c ++ items rest =
    .framework c.catalogKey :: todo (nextRequirement c fw rest c.requirements) := by
  simp [itemsOf]

/-- a requirement before the next one, -/
theorem requirement_items (fw : Id × Framework) (r : CatalogRequirement)
    (requirements : List CatalogRequirement) :
    requirementItems c (r :: requirements) ++ .adoption c.catalogKey :: items rest =
      .requirement c.catalogKey r.referenceCode ::
        todo (nextRequirement c fw rest requirements) := by
  simp [requirementItems]

/-- and the adoption before the next catalog. -/
theorem adoption_items : Item.adoption c.catalogKey :: items rest =
    .adoption c.catalogKey :: todo (nextCatalog rest) := by
  simp

/-- The catalog of an item. -/
def Item.catalogKey : Item → String
  | .framework key | .requirement key _ | .adoption key => key

/-- An item is of its catalog. -/
theorem catalogKey_of_mem {x : Item} (hx : x ∈ itemsOf c) : x.catalogKey = c.catalogKey := by
  simp only [itemsOf, requirementItems, List.mem_cons, List.mem_append, List.mem_map,
    List.not_mem_nil, or_false] at hx
  rcases hx with rfl | ⟨r, -, rfl⟩ | rfl <;> rfl

/-- No item of a catalog stands twice. -/
theorem nodup_itemsOf (h : (c.requirements.map fun r => r.referenceCode).Nodup) :
    (itemsOf c).Nodup := by
  have hrequirements : (requirementItems c c.requirements).Nodup := by
    have hinj : Function.Injective (Item.requirement c.catalogKey) := fun _ _ heq => by
      injection heq
    have hmap := h.map hinj
    rwa [List.map_map] at hmap
  simp only [itemsOf, List.nodup_cons, List.mem_append, List.nodup_append]
  refine ⟨by simp [requirementItems], hrequirements, by simp, by simp [requirementItems]⟩

/-- No two items are the same. -/
theorem nodup_items (catalogs : Catalogs) : (items catalogs.list).Nodup := by
  refine List.nodup_flatMap.2 ⟨fun c hc => nodup_itemsOf (catalogs.codes c hc), ?_⟩
  refine (List.pairwise_map.1 catalogs.keys).imp fun hne x hx hx' => hne ?_
  exact (catalogKey_of_mem hx).symm.trans (catalogKey_of_mem hx')

/-- A catalog is determined by its key, and by its family. -/
theorem eq_of_catalogKey {b : SystemCatalog} (hb : b ∈ catalogs.list) (hc : c ∈ catalogs.list)
    (h : b.catalogKey = c.catalogKey) : b = c :=
  List.inj_on_of_nodup_map catalogs.keys hb hc h

/-- Two catalogs of one family are one. -/
theorem eq_of_catalogFamily {b : SystemCatalog} (hb : b ∈ catalogs.list)
    (hc : c ∈ catalogs.list) (h : b.catalogFamily = c.catalogFamily) : b = c :=
  List.inj_on_of_nodup_map catalogs.families hb hc h

/-! ## A session -/

/-- The session is in a call. -/
def InCall : Pc → Prop
  | .idle | .done | .raised _ => False
  | _ => True

/-- All catalogs before the current one are present. -/
def Passed (catalogs : Catalogs) (v : Tables) (c : SystemCatalog) (rest : List SystemCatalog) :
    Prop :=
  ∃ before, catalogs.list = before ++ c :: rest ∧ ∀ b ∈ before, Present v b

/-- The call is at a catalog with its framework, and has still to go through these
    requirements. -/
structure Working (catalogs : Catalogs) (v : Tables) (c : SystemCatalog) (fw : Id × Framework)
    (requirements : List CatalogRequirement) (rest : List SystemCatalog) : Prop where
  passed : Passed catalogs v c rest
  row : v.frameworks[fw.1]? = some fw.2
  key : fw.2.catalogKey = some c.catalogKey
  reached : ∃ before, c.requirements = before ++ requirements ∧
    ∀ r ∈ before, ∃ q, IsRequirement v fw.1 r q

/-- The open transaction holds a framework or a requirement. -/
def Owning (o : Tables) : Prop :=
  (∃ (k : Id) (f : Framework), o.frameworks[k]? = some f) ∨
    ∃ (q : Id) (x : Requirement), o.requirements[q]? = some x

/-- The call goes on to adopt: there was no adoption at the start, and the transaction holds a
    framework or a requirement. -/
def Adopting (t₀ o : Tables) (c : SystemCatalog) : Prop :=
  Owning o ∧ ∀ a, ¬ IsAdoption t₀ c a

/-- What a session has found or inserted at a statement: `t₀` are the tables at the start, `v` is
    what it sees and `o` is what its transaction holds. -/
def At (catalogs : Catalogs) (t₀ v o : Tables) : Pc → Prop
  | .idle => True
  | .findFramework c rest | .insertFramework c rest => Passed catalogs v c rest
  | .rereadFramework c rest => Passed catalogs v c rest ∧ ∃ k, IsFramework v c k
  | .findRequirement c fw r todo rest | .insertRequirement c fw r todo rest =>
    Working catalogs v c fw (r :: todo) rest
  | .rereadRequirement c fw r todo rest =>
    Working catalogs v c fw (r :: todo) rest ∧ ∃ q, IsRequirement v fw.1 r q
  | .findAdoption c fw rest => Working catalogs v c fw [] rest
  | .checkAdoption c fw rest => Working catalogs v c fw [] rest ∧ Adopting t₀ o c
  | .insertAdoption c fw family rest =>
    Working catalogs v c fw [] rest ∧ Adopting t₀ o c ∧ family = c.catalogFamily
  | .returned | .done => ∀ c ∈ catalogs.list, Present v c
  | .raised _ => False

/-- The rows of an open transaction belong to items that are not to come any more. -/
structure Held (catalogs : Catalogs) (v o : Tables) (todo : List Item) : Prop where
  frameworks : ∀ (k : Id) f, o.frameworks[k]? = some f → ∃ c ∈ catalogs.list,
    f.catalogKey = some c.catalogKey ∧ .framework c.catalogKey ∉ todo
  requirements : ∀ (q : Id) x, o.requirements[q]? = some x → ∃ c ∈ catalogs.list,
    ∃ r ∈ c.requirements, x.referenceCode = r.referenceCode ∧ IsFramework v c x.frameworkId ∧
      .requirement c.catalogKey r.referenceCode ∉ todo
  adoptions : ∀ (a : Id) x, o.adoptions[a]? = some x → Owning o ∧ ∃ c ∈ catalogs.list,
    x.catalogFamily = c.catalogFamily ∧ .adoption c.catalogKey ∉ todo
  events : ∀ (k : Id) x, o.events[k]? = some x → Owning o
  auditEvents : ∀ (k : Id) x, o.auditEvents[k]? = some x → Owning o
  assessed : Assessed o

/-- No rows. -/
def Tables.empty : Tables := ⟨∅, ∅, ∅, ∅, ∅, ∅⟩

/-- What holds of a session. -/
structure SessionInv (catalogs : Catalogs) (t₀ v o : Tables) (pc : Pc) : Prop where
  position : At catalogs t₀ v o pc
  held : Held catalogs v o (todo pc)
  closed : ¬ InCall pc → o = Tables.empty

/-- What was passed stays passed. -/
theorem Passed.mono (hv : Extends v v') (h : Passed catalogs v c rest) :
    Passed catalogs v' c rest := by
  obtain ⟨before, hlist, hpresent⟩ := h
  exact ⟨before, hlist, fun b hb => (hpresent b hb).mono hv⟩

/-- What is being worked on stays so. -/
theorem Working.mono {requirements : List CatalogRequirement} (hv : Extends v v')
    (h : Working catalogs v c fw requirements rest) :
    Working catalogs v' c fw requirements rest where
  passed := h.passed.mono hv
  row := hv.frameworks _ _ h.row
  key := h.key
  reached := by
    obtain ⟨before, hlist, hfound⟩ := h.reached
    exact ⟨before, hlist, fun r hr => (hfound r hr).imp fun _ => IsRequirement.mono hv⟩

/-- A session stays where it is while the others add rows. -/
theorem At.mono {pc : Pc} (hv : Extends v v') (h : At catalogs t₀ v o pc) :
    At catalogs t₀ v' o pc := by
  -- At every place the facts are about rows that stay.
  cases pc with
  | idle => trivial
  | findFramework c rest => exact Passed.mono hv h
  | insertFramework c rest => exact Passed.mono hv h
  | rereadFramework c rest => exact ⟨h.1.mono hv, h.2.imp fun _ => IsFramework.mono hv⟩
  | findRequirement c fw r todo rest => exact Working.mono hv h
  | insertRequirement c fw r todo rest => exact Working.mono hv h
  | rereadRequirement c fw r todo rest =>
    exact ⟨h.1.mono hv, h.2.imp fun _ => IsRequirement.mono hv⟩
  | findAdoption c fw rest => exact Working.mono hv h
  | checkAdoption c fw rest => exact ⟨h.1.mono hv, h.2⟩
  | insertAdoption c fw family rest => exact ⟨h.1.mono hv, h.2⟩
  | returned => exact fun c hc => (h c hc).mono hv
  | done => exact fun c hc => (h c hc).mono hv
  | raised e => exact h

/-- A session that has less to do holds as much. -/
theorem Held.mono {l l' : List Item} (h : Held catalogs v o l) (hv : Extends v v')
    (hl : ∀ x ∈ l', x ∈ l) : Held catalogs v' o l' where
  frameworks k f hf := by
    obtain ⟨c, hc, hkey, hnot⟩ := h.frameworks k f hf
    exact ⟨c, hc, hkey, mt (hl _) hnot⟩
  requirements q x hx := by
    obtain ⟨c, hc, r, hr, hcode, hfw, hnot⟩ := h.requirements q x hx
    exact ⟨c, hc, r, hr, hcode, hfw.mono hv, mt (hl _) hnot⟩
  adoptions a x hx := by
    obtain ⟨howning, c, hc, hfamily, hnot⟩ := h.adoptions a x hx
    exact ⟨howning, c, hc, hfamily, mt (hl _) hnot⟩
  events := h.events
  auditEvents := h.auditEvents
  assessed := h.assessed

/-- A session that does nothing while others commit. -/
theorem SessionInv.mono {pc : Pc} (h : SessionInv catalogs t₀ v o pc) (hv : Extends v v') :
    SessionInv catalogs t₀ v' o pc :=
  ⟨h.position.mono hv, h.held.mono hv fun _ hx => hx, h.closed⟩

/-- A session that goes on without an insert. -/
theorem SessionInv.move {pc pc' : Pc} (h : SessionInv catalogs t₀ v o pc)
    (hat : At catalogs t₀ v o pc') (htodo : todo pc' <:+ todo pc) (hin : InCall pc') :
    SessionInv catalogs t₀ v o pc' :=
  ⟨hat, h.held.mono (Extends.refl v) fun _ hx => htodo.subset hx, fun hnot => absurd hin hnot⟩

/-- Without requirements nothing is to be assessed. -/
theorem assessed_empty : Assessed Tables.empty :=
  ⟨fun _ _ hx => absurd hx Table.not_get_empty, fun _ _ hx => absurd hx Table.not_get_empty⟩

/-- A session that has written nothing holds nothing. -/
theorem held_empty (l : List Item) : Held catalogs v Tables.empty l where
  frameworks _ _ hf := absurd hf Table.not_get_empty
  requirements _ _ hx := absurd hx Table.not_get_empty
  adoptions _ _ hx := absurd hx Table.not_get_empty
  events _ _ hx := absurd hx Table.not_get_empty
  auditEvents _ _ hx := absurd hx Table.not_get_empty
  assessed := assessed_empty

/-! ### The loops -/

/-- The next catalog is inside the call. -/
theorem inCall_nextCatalog (rest : List SystemCatalog) : InCall (nextCatalog rest) := by
  cases rest <;> trivial

/-- The next requirement is inside the call. -/
theorem inCall_nextRequirement (requirements : List CatalogRequirement) :
    InCall (nextRequirement c fw rest requirements) := by
  cases requirements <;> trivial

/-- With the catalogs before it present, the next one is reached. -/
theorem at_nextCatalog {before : List SystemCatalog} (hlist : catalogs.list = before ++ rest)
    (hpresent : ∀ b ∈ before, Present v b) : At catalogs t₀ v o (nextCatalog rest) := by
  cases rest with
  | nil =>
    intro c hc
    rw [hlist, List.append_nil] at hc
    exact hpresent c hc
  | cons c rest => exact ⟨before, hlist, hpresent⟩

/-- The next requirement is reached, or the adoption. -/
theorem Working.at_nextRequirement {requirements : List CatalogRequirement}
    (h : Working catalogs v c fw requirements rest) :
    At catalogs t₀ v o (nextRequirement c fw rest requirements) := by
  cases requirements with
  | nil => exact h
  | cons r requirements => exact h

/-- The call goes on to the requirements of the catalog. -/
theorem Passed.working (h : Passed catalogs v c rest) (hrow : v.frameworks[fw.1]? = some fw.2)
    (hkey : fw.2.catalogKey = some c.catalogKey) :
    Working catalogs v c fw c.requirements rest :=
  ⟨h, hrow, hkey, [], rfl, by simp⟩

/-- A requirement has been found. -/
theorem Working.next {r : CatalogRequirement} {requirements : List CatalogRequirement}
    (h : Working catalogs v c fw (r :: requirements) rest) {q : Id}
    (hq : IsRequirement v fw.1 r q) : Working catalogs v c fw requirements rest where
  passed := h.passed
  row := h.row
  key := h.key
  reached := by
    obtain ⟨before, hlist, hfound⟩ := h.reached
    refine ⟨before ++ [r], by simp [hlist], fun r' hr' => ?_⟩
    rcases List.mem_append.1 hr' with hr' | hr'
    · exact hfound r' hr'
    · obtain rfl := List.mem_singleton.1 hr'
      exact ⟨q, hq⟩

/-- The requirement worked on is one of the catalog's. -/
theorem Working.mem {r : CatalogRequirement} {requirements : List CatalogRequirement}
    (h : Working catalogs v c fw (r :: requirements) rest) : r ∈ c.requirements := by
  obtain ⟨before, hlist, -⟩ := h.reached
  simp [hlist]

/-- With no requirement left the catalog is filled. -/
theorem Working.filled (h : Working catalogs v c fw [] rest) : Filled v c := by
  obtain ⟨before, hlist, hfound⟩ := h.reached
  rw [List.append_nil] at hlist
  exact ⟨fw.1, ⟨fw.2, h.row, h.key⟩, fun r hr => hfound r (hlist ▸ hr)⟩

/-- The adoption has been found, or the catalog has been adopted. -/
theorem Working.at_nextCatalog (h : Working catalogs v c fw [] rest) {a : Id}
    (ha : IsAdoption v c a) : At catalogs t₀ v o (nextCatalog rest) := by
  obtain ⟨before, hlist, hpresent⟩ := h.passed
  have hlist' : catalogs.list = (before ++ [c]) ++ rest := by simp [hlist]
  refine ConcurrentCatalogs.at_nextCatalog hlist' fun b hb => ?_
  rcases List.mem_append.1 hb with hb | hb
  · exact hpresent b hb
  · obtain rfl := List.mem_singleton.1 hb
    exact ⟨h.filled, a, ha⟩

/-- A catalog passed is one of the catalogs. -/
theorem Passed.mem (h : Passed catalogs v c rest) : c ∈ catalogs.list := by
  obtain ⟨before, hlist, -⟩ := h
  simp [hlist]

/-- What is left after a catalog is the end of all there is to do. -/
theorem Passed.suffix (h : Passed catalogs v c rest) :
    itemsOf c ++ items rest <:+ items catalogs.list := by
  obtain ⟨before, hlist, -⟩ := h
  exact ⟨items before, by simp [hlist, items]⟩

/-- What is left inside a catalog is the end of all there is to do. -/
theorem Working.suffix {requirements : List CatalogRequirement}
    (h : Working catalogs v c fw requirements rest) :
    requirementItems c requirements ++ .adoption c.catalogKey :: items rest <:+
      items catalogs.list := by
  obtain ⟨before, hlist, -⟩ := h.reached
  refine List.IsSuffix.trans ⟨.framework c.catalogKey :: requirementItems c before, ?_⟩
    h.passed.suffix
  simp [itemsOf, hlist, requirementItems]

/-- What is to come of a call is an end of all items. -/
theorem At.suffix {pc : Pc} (h : At catalogs t₀ v o pc) : todo pc <:+ items catalogs.list := by
  cases pc with
  | idle | done | returned | raised _ => exact List.nil_suffix
  | findFramework c rest => exact Passed.suffix h
  | insertFramework c rest => exact Passed.suffix h
  | rereadFramework c rest => exact Passed.suffix h.1
  | findRequirement c fw r todo rest => exact Working.suffix h
  | insertRequirement c fw r todo rest => exact Working.suffix h
  | rereadRequirement c fw r todo rest => exact Working.suffix h.1
  | findAdoption c fw rest => exact Working.suffix h
  | checkAdoption c fw rest => exact Working.suffix h.1
  | insertAdoption c fw family rest => exact Working.suffix h.1

/-- An item does not come again. -/
theorem At.not_mem {pc : Pc} (h : At catalogs t₀ v o pc) {x : Item} {l : List Item}
    (hx : todo pc = x :: l) : x ∉ l := by
  have hnodup := h.suffix.sublist.nodup (nodup_items catalogs)
  rw [hx] at hnodup
  exact (List.nodup_cons.1 hnodup).1

/-! ### Inserts -/

/-- The transaction has inserted the framework of the next item. -/
theorem Held.insertFramework {l : List Item}
    (h : Held catalogs v o (.framework c.catalogKey :: l)) (hc : c ∈ catalogs.list)
    (hv : Extends v v') (hnot : .framework c.catalogKey ∉ l) {k : Id} {f : Framework}
    (hkey : f.catalogKey = some c.catalogKey) (auditEvents : Table AuditEvent) :
    Held catalogs v' { o with frameworks := o.frameworks.insert k f, auditEvents } l := by
  have hold : Held catalogs v' o l := h.mono hv fun x hx => List.mem_cons_of_mem _ hx
  have howning : Owning { o with frameworks := o.frameworks.insert k f, auditEvents } :=
    .inl ⟨k, f, by simp⟩
  exact
    { frameworks := fun k' f' hf' => by
        rw [Table.get_insert] at hf'
        -- The new framework is the item done; the others have items that are still away.
        split at hf'
        · obtain rfl := Option.some.inj hf'
          exact ⟨c, hc, hkey, hnot⟩
        · exact hold.frameworks k' f' hf'
      requirements := hold.requirements
      adoptions := fun a x hx => ⟨howning, (hold.adoptions a x hx).2⟩
      events := fun _ _ _ => howning
      auditEvents := fun _ _ _ => howning
      assessed := ⟨hold.assessed.assessment, hold.assessed.requirement⟩ }

/-- The transaction has inserted a requirement with its assessment. -/
theorem Assessed.insert {t : Tables} (h : Assessed t) {q a : Id} {x : Requirement}
    (hq : t.requirements[q]? = none) (ha : t.assessments[a]? = none)
    (auditEvents : Table AuditEvent) :
    Assessed
      { t with
        requirements := t.requirements.insert q x
        assessments := t.assessments.insert a { requirementId := q }, auditEvents } where
  assessment q' y hy := by
    rw [Table.get_insert] at hy
    -- The new requirement has the new assessment, and no other one.
    split at hy
    · next hq' => exact ⟨a, { requirementId := q }, by simp, hq'⟩
    · obtain ⟨b, z, hz, hrequirement⟩ := h.assessment q' y hy
      have hne : a ≠ b := by
        rintro rfl
        cases ha.symm.trans hz
      exact ⟨b, z, by simpa [Table.get_insert, hne] using hz, hrequirement⟩
  requirement b y hy := by
    rw [Table.get_insert] at hy
    split at hy
    · obtain rfl := Option.some.inj hy
      exact ⟨x, by simp⟩
    · obtain ⟨z, hz⟩ := h.requirement b y hy
      have hne : q ≠ y.requirementId := by
        rintro rfl
        cases hq.symm.trans hz
      exact ⟨z, by simpa [Table.get_insert, hne] using hz⟩

/-- The transaction has inserted the requirement of the next item, with its assessment. -/
theorem Held.insertRequirement {l : List Item} {r : CatalogRequirement}
    (h : Held catalogs v o (.requirement c.catalogKey r.referenceCode :: l))
    (hc : c ∈ catalogs.list) (hr : r ∈ c.requirements) (hv : Extends v v')
    (hnot : .requirement c.catalogKey r.referenceCode ∉ l) {k q a : Id}
    (hk : IsFramework v' c k) (hq : o.requirements[q]? = none) (ha : o.assessments[a]? = none)
    (auditEvents : Table AuditEvent) :
    Held catalogs v'
      { o with
        requirements := o.requirements.insert q (newRequirement k r)
        assessments := o.assessments.insert a { requirementId := q }, auditEvents } l := by
  have hold : Held catalogs v' o l := h.mono hv fun x hx => List.mem_cons_of_mem _ hx
  have howning : Owning
      { o with
        requirements := o.requirements.insert q (newRequirement k r)
        assessments := o.assessments.insert a { requirementId := q }, auditEvents } :=
    .inr ⟨q, newRequirement k r, by simp⟩
  exact
    { frameworks := hold.frameworks
      requirements := fun q' x hx => by
        rw [Table.get_insert] at hx
        -- The new requirement is the item done.
        split at hx
        · obtain rfl := Option.some.inj hx
          exact ⟨c, hc, r, hr, rfl, hk, hnot⟩
        · exact hold.requirements q' x hx
      adoptions := fun a' x hx => ⟨howning, (hold.adoptions a' x hx).2⟩
      events := fun _ _ _ => howning
      auditEvents := fun _ _ _ => howning
      assessed := hold.assessed.insert hq ha auditEvents }

/-- The transaction has inserted the adoption of the next item. -/
theorem Held.insertAdoption {l : List Item}
    (h : Held catalogs v o (.adoption c.catalogKey :: l)) (hc : c ∈ catalogs.list)
    (hv : Extends v v') (hnot : .adoption c.catalogKey ∉ l) (howning : Owning o) {a : Id}
    {x : FrameworkAdoption} (hfamily : x.catalogFamily = c.catalogFamily)
    (events : Table FrameworkAdoptions.Event) :
    Held catalogs v' { o with adoptions := o.adoptions.insert a x, events } l := by
  have hold : Held catalogs v' o l := h.mono hv fun x hx => List.mem_cons_of_mem _ hx
  exact
    { frameworks := hold.frameworks
      requirements := hold.requirements
      adoptions := fun a' y hy => by
        refine ⟨howning, ?_⟩
        rw [Table.get_insert] at hy
        -- The new adoption is the item done.
        split at hy
        · obtain rfl := Option.some.inj hy
          exact ⟨c, hc, hfamily, hnot⟩
        · exact (hold.adoptions a' y hy).2
      events := fun _ _ _ => howning
      auditEvents := fun _ _ _ => howning
      assessed := ⟨hold.assessed.assessment, hold.assessed.requirement⟩ }

end MiniGrc.ConcurrentCatalogs
