import MiniGrc.App.Dispatch

/-!
# Every path has one route

No two of the routes that change something match the same request, so it does not matter in which
order they are included, and each of them can be reached with any values of its parameters.

## Key results

- `routes_disjoint`: no two patterns of a method overlap
- `dispatch_eq_some_iff`: the route of a request
- `dispatch_url`: the path that is made for a route
-/

namespace MiniGrc.Routes

open PathPatterns (IsPart Segment assigned bindings bindings_url overlaps overlaps_of_bindings parts
  pattern url)

variable {τ : Type} {handlers : String → Handler (Tables τ)} {route route' : Route (Tables τ)}
  {method : Method} {path : String} {params params' : List (String × String)}

/-- What tells routes apart. -/
def Route.key (route : Route τ) : Method × String := (route.method, route.path)

/-- The methods and patterns of the routes. -/
def routeKeys : List (Method × String) :=
  (routes (τ := Unit) fun _ _ _ db => (.served 200, db)).map Route.key

theorem map_key_routes (handlers : String → Handler (Tables τ)) :
    (routes handlers).map Route.key = routeKeys := rfl

/-- The paths of the routes, as their characters. A text is slow to take apart by evaluation, and
    this needs to be done once for each path, not once for each pair. -/
def Reads (routes : List (Route τ)) (rows : List (Method × List Char)) : Prop :=
  routes.map Route.key = rows.map fun row => (row.1, String.ofList row.2)

namespace Reads

variable {τ : Type} {routes routes' : List (Route τ)} {rows rows' : List (Method × List Char)}

theorem nil : Reads ([] : List (Route τ)) [] := rfl

theorem cons {route : Route τ} {text : List Char} (hpath : route.path = String.ofList text)
    (h : Reads routes rows) : Reads (route :: routes) ((route.method, text) :: rows) := by
  rw [Reads, List.map_cons, List.map_cons, h, Route.key, hpath]

theorem append (h : Reads routes rows) (h' : Reads routes' rows') :
    Reads (routes ++ routes') (rows ++ rows') := by
  rw [Reads, List.map_append, List.map_append, h, h']

/-- The base of a router is in front of the paths of its routes. -/
theorem apiRouter {base : String} {text : List Char} {dependencies : List Dependency}
    (hbase : base = String.ofList text) (h : Reads routes rows) :
    Reads (apiRouter base dependencies routes) (rows.map fun row => (row.1, text ++ row.2)) := by
  have hunder : (Routes.apiRouter base dependencies routes).map Route.key =
      (routes.map Route.key).map fun key => (key.1, base ++ key.2) := by
    rw [Routes.apiRouter, List.map_map, List.map_map]
    rfl
  rw [Reads, hunder, h, hbase, List.map_map, List.map_map]
  simp only [Function.comp_def, String.ofList_append]

theorem flatten_cons {routers : List (List (Route τ))} (h : Reads routes rows)
    (h' : Reads routers.flatten rows') : Reads (routes :: routers).flatten (rows ++ rows') :=
  h.append h'

/-- No two routes of the same method overlap if no two of the rows do. -/
theorem pairwise (h : Reads routes rows)
    (hrows : (rows.map fun row => (row.1, (row.2.splitOn '/').map Segment.ofText)).Pairwise
      fun row row' => row.1 = row'.1 → overlaps row.2 row'.2 = false) :
    (routes.map Route.key).Pairwise fun key key' =>
      key.1 = key'.1 → overlaps (pattern key.2) (pattern key'.2) = false := by
  rw [h, List.pairwise_map]
  simpa only [List.pairwise_map, PathPatterns.pattern_ofList] using hrows

end Reads

theorem ofList_append {s t : String} {l l' : List Char} (hs : s = String.ofList l)
    (ht : t = String.ofList l') : s ++ t = String.ofList (l ++ l') := by
  rw [hs, ht, String.ofList_append]

/-- Routes of the same method do not overlap. -/
theorem routes_disjoint : routeKeys.Pairwise fun key key' =>
    key.1 = key'.1 → overlaps (pattern key.2) (pattern key'.2) = false := by
  apply Reads.pairwise
  · -- the routers one after the other, and each route by route
    unfold routes otherRoutes Registers.registerConfigs
    repeat' first
      | exact .nil
      | apply Reads.apiRouter (ofList_append rfl rfl)
      | apply Reads.apiRouter rfl
      | apply Reads.cons rfl
      | apply Reads.flatten_cons
      | apply Reads.append
  · decide +kernel

/-- Two elements of a list are equal or are related in one order, as all elements of it are. -/
theorem eq_or_of_pairwise {α : Type} {R : α → α → Prop} {l : List α} (h : l.Pairwise R) {x y : α}
    (hx : x ∈ l) (hy : y ∈ l) : x = y ∨ R x y ∨ R y x := by
  by_cases heq : x = y
  · exact .inl heq
  · have hsymm : Std.Symm fun a b => R a b ∨ R b a := ⟨fun _ _ => Or.symm⟩
    have hor : l.Pairwise fun a b => R a b ∨ R b a := h.imp .inl
    exact .inr (hor.forall hx hy heq)

theorem match?_eq_some_iff : route.match? method path = some params ↔
    route.method = method ∧ bindings (pattern route.path) (parts path) = some params := by
  rw [Route.match?, Option.ite_none_right_eq_some]

/-- A request matches one route at most. -/
theorem eq_of_match? (hmem : route ∈ routes handlers) (hmem' : route' ∈ routes handlers)
    (h : route.match? method path = some params) (h' : route'.match? method path = some params') :
    route = route' := by
  obtain ⟨hmethod, hbindings⟩ := match?_eq_some_iff.1 h
  obtain ⟨hmethod', hbindings'⟩ := match?_eq_some_iff.1 h'
  have hdisjoint := routes_disjoint
  rw [← map_key_routes handlers, List.pairwise_map] at hdisjoint
  rcases eq_or_of_pairwise hdisjoint hmem hmem' with heq | hne | hne
  · exact heq
  · have hoverlaps := overlaps_of_bindings hbindings hbindings'
    rw [Route.key, Route.key] at hne
    rw [hne (hmethod.trans hmethod'.symm)] at hoverlaps
    cases hoverlaps
  · have hoverlaps := overlaps_of_bindings hbindings' hbindings
    rw [Route.key, Route.key] at hne
    rw [hne (hmethod'.trans hmethod.symm)] at hoverlaps
    cases hoverlaps

variable {order : List (Route (Tables τ))}

/-- Whatever the order in which the routes are included, a request is answered by the one route
    that it matches, with the parameters of its path. -/
theorem dispatch_eq_some_iff (horder : order.Perm (routes handlers)) :
    dispatch order method path = some (route, params) ↔
      route ∈ routes handlers ∧ route.match? method path = some params := by
  rw [dispatch, PathPatterns.findSome?_eq_some_iff]
  · constructor
    · rintro ⟨route', hmem, h⟩
      obtain ⟨params', hparams, heq⟩ := Option.map_eq_some_iff.1 h
      obtain ⟨rfl, rfl⟩ := Prod.mk.inj heq
      exact ⟨horder.mem_iff.1 hmem, hparams⟩
    · rintro ⟨hmem, hparams⟩
      exact ⟨route, horder.mem_iff.2 hmem, by rw [hparams, Option.map_some]⟩
  · -- all matches are of one route
    intro x hx y hy a b ha hb
    obtain ⟨params, hparams, rfl⟩ := Option.map_eq_some_iff.1 ha
    obtain ⟨params', hparams', rfl⟩ := Option.map_eq_some_iff.1 hb
    obtain rfl := eq_of_match? (horder.mem_iff.1 hx) (horder.mem_iff.1 hy) hparams hparams'
    rw [Option.some.inj (hparams.symm.trans hparams')]

/-- The path that is made for a route is answered by this route, with the values that it is made
    with, whatever the order in which the routes are included. -/
theorem dispatch_url (horder : order.Perm (routes handlers)) (hmem : route ∈ routes handlers)
    {values : String → String} (hvalues : ∀ name, IsPart (values name)) :
    dispatch order route.method (url values (pattern route.path)) =
      some (route, assigned values (pattern route.path)) := by
  rw [dispatch_eq_some_iff horder, match?_eq_some_iff]
  exact ⟨hmem, rfl, bindings_url hvalues route.path⟩

/-- The routes in the opposite order: the path of a framework is still its own, whatever the
    framework is called. -/
theorem dispatch_url_reversed :
    ∃ route ∈ routes (τ := Unit) fun _ _ _ db => (.served 200, db),
      route.path = "/frameworks/{framework_id}/edit" ∧
      dispatch (routes fun _ _ _ db => (.served 200, db)).reverse route.method
        (url (fun _ => "adoptions") (pattern route.path)) =
          some (route, assigned (fun _ => "adoptions") (pattern route.path)) := by
  have hmem : Route.under "/frameworks" [.requireLogin] (post (τ := Unit) "/{framework_id}/edit"
      [.requireWriteAccess, .verifyCsrf] fun _ _ db => (.served 200, db)) ∈
        routes fun _ _ _ db => (.served 200, db) := by
    refine List.mem_append_right _ (List.mem_append_left _ ?_)
    simp [frameworksRoutes, apiRouter]
  exact ⟨_, hmem, rfl, dispatch_url (List.reverse_perm _) hmem fun _ => ⟨by decide, by decide⟩⟩

/-- A path that three routes come close to. -/
theorem dispatch_eq_some_iff_reversed :
    ∃ route params, dispatch (routes (τ := Unit) fun _ _ _ db => (.served 200, db)).reverse .post
        "/policies/7/retire" = some (route, params) := by
  have hmem : Route.under "/policies" [.requireLogin] (post (τ := Unit) "/{policy_id}/retire"
      [.requireWriteAccess, .verifyCsrf] fun _ _ db => (.served 200, db)) ∈
        routes fun _ _ _ db => (.served 200, db) := by
    refine List.mem_append_right _ (List.mem_append_left _ ?_)
    simp [policiesRoutes, apiRouter]
  have hmatch : bindings (pattern "/policies/{policy_id}/retire") (parts "/policies/7/retire") =
      some [("policy_id", "7")] := by
    decide +kernel
  exact ⟨_, _, (dispatch_eq_some_iff (List.reverse_perm _)).2
    ⟨hmem, match?_eq_some_iff.2 ⟨rfl, hmatch⟩⟩⟩

end MiniGrc.Routes
