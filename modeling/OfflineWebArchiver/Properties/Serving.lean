import OfflineWebArchiver.Archive.Runtime
import OfflineWebArchiver.Archive.Sample

/-!
# Is every generated route served

`generateRouteMap` keeps the trailing slash and the escapes of a local route, the
runtime refuses the first and decodes the second.

* `GeneratedMap.named_iff`: which routes of a generated map a path names.
* `served_iff`: the routes that are left are all served exactly when their pages are in
  scope and have, each for itself, a route without escape and trailing slash, or one
  whose escapes happen to stand for the same file.
-/

namespace OfflineWebArchiver

variable {u : Unicode} {api : UrlApi} {input : RouteMapInput} {map : RouteMap}

/-- A runtime built from the map: other maps are of its scope. -/
structure BuiltFrom (map : RouteMap) (rt : RuntimeRequestResolutionInput) : Prop where
  routeMap : rt.routeMap = map
  method : rt.method = "GET" ∨ rt.method = "HEAD"
  resources : ∀ m ∈ rt.originalResourceMap, m.projectId = map.projectId ∧ m.runId = map.runId ∧
    m.projectRevisionId = map.projectRevisionId
  dependencies : ∀ d ∈ rt.externalDependencyMap.getD [], d.projectId = map.projectId ∧
    d.runId = map.runId ∧ d.projectRevisionId = map.projectRevisionId

variable (u) in
/-- The request is answered with the file of the route: its entry document if it is of an
application that has one, its local resource otherwise. -/
def Serves (rt : RuntimeRequestResolutionInput) (route : RouteMapEntry) : Prop :=
  (resolveRuntimeRequest u rt).status = 200 ∧
    (resolveRuntimeRequest u rt).relativeResource = some route.target

/-- The pages that have this local route. -/
def RouteMapInput.at (input : RouteMapInput) (path : JsString) : List PageRouteMappingInput :=
  input.pages.filter fun page => page.localRoute == path

/-- All pages are of the project, the run and the revision of the map. -/
def RouteMapInput.InScope (input : RouteMapInput) : Prop :=
  ∀ page ∈ input.pages, page.projectId = input.projectId ∧ page.runId = input.runId ∧
    page.projectRevisionId = input.projectRevisionId

variable (u api) in
/-- A path leads to the file of the page: it is the route of one page, unreported and with
that file, or the route of none and the path of that file. -/
def RouteMapInput.LeadsTo (input : RouteMapInput) (path : JsString) (page : PageRouteMappingInput) :
    Prop :=
  (∃ page', input.at path = [page'] ∧ ¬input.Reports u api (page'.entry api).routeId ∧
      (page'.entry api).target = (page.entry api).target) ∨
    input.at path = [] ∧ path = '/' :: (page.entry api).target

variable (u api) in
/-- The route of the page can be requested: it has no trailing slash and no escape, and no
other page has it; or it has an escape and what it stands for leads to the same file. -/
def RouteMapInput.Requestable (input : RouteMapInput) (page : PageRouteMappingInput) : Prop :=
  ((page.localRoute = ['/'] ∨ page.localRoute.getLast? ≠ some '/') ∧ '%' ∉ page.localRoute ∧
      input.at page.localRoute = [page]) ∨
    '%' ∈ page.localRoute ∧ ∃ path, decodeRuntimePath u page.localRoute = some path ∧
      input.LeadsTo u api path page

theorem PageRouteMappingInput.Safe.canonical_target {page : PageRouteMappingInput}
    (h : page.Safe u) : Canonical u (page.entry api).target := by
  rcases (page.entry api).offers_target with ht | ⟨fallback, hf, ht⟩
  · rw [← ht]; exact h.resource
  · rw [← ht]; exact h.entry fallback hf

theorem resolveEntry_target (ids : List JsString) (e : RouteMapEntry) :
    (resolveEntry ids e).target = e.target := by
  unfold resolveEntry
  split <;> rfl

theorem resolveEntry_localRoute (ids : List JsString) (e : RouteMapEntry) :
    (resolveEntry ids e).localRoute = e.localRoute := by
  unfold resolveEntry
  split <;> rfl

theorem resolveEntry_scope (ids : List JsString) (e : RouteMapEntry) :
    (resolveEntry ids e).projectId = e.projectId ∧ (resolveEntry ids e).runId = e.runId ∧
      (resolveEntry ids e).projectRevisionId = e.projectRevisionId := by
  unfold resolveEntry
  split <;> exact ⟨rfl, rfl, rfl⟩

/-- **The routes that a path names** are those of the pages with this local route. -/
theorem GeneratedMap.named_perm (g : GeneratedMap u api input map) (path : JsString) :
    (map.named path).Perm ((input.at path).map fun page =>
      resolveEntry (map.collisions.flatMap (·.routeIds)) (page.entry api)) := by
  have hp := g.routes.filter fun route => route.localRoute == path
  rw [List.filter_map, RouteMapInput.entries, List.filter_map, List.map_map] at hp
  have hf : (fun route : RouteMapEntry => route.localRoute == path) ∘
      resolveEntry (map.collisions.flatMap (·.routeIds)) ∘ (·.entry api) =
      fun page : PageRouteMappingInput => page.localRoute == path := by
    funext page
    simp only [Function.comp_apply, resolveEntry_localRoute]
    rfl
  rw [Function.comp_assoc, hf] at hp
  exact hp

/-- A kept route of a generated map is that of an unreported page. -/
theorem GeneratedMap.keeps_resolveEntry (g : GeneratedMap u api input map)
    (page : PageRouteMappingInput) :
    map.keeps (resolveEntry (map.collisions.flatMap (·.routeIds)) (page.entry api)) = true ↔
      ¬input.Reports u api (page.entry api).routeId := by
  rw [← g.collides, collides_iff]
  unfold resolveEntry RouteMap.keeps
  split_ifs with hc
  · simp [hc]
  · have hcol : map.collides (page.entry api).routeId = false := by
      rw [Bool.eq_false_iff]
      exact fun h => hc (collides_iff.1 h)
    have hst : (page.entry api).resolutionState = .localMatch := rfl
    simp [hc, hcol, hst]

/-- The route of an unreported page offers its file. -/
theorem GeneratedMap.mem_resourceSet (g : GeneratedMap u api input map)
    {page : PageRouteMappingInput} (hpage : page ∈ input.pages)
    (hleft : ¬input.Reports u api (page.entry api).routeId)
    (originalResourceMap : List OriginalResourceMapping) (additional : Option (List JsString)) :
    (page.entry api).target ∈ resourceSet u map originalResourceMap additional := by
  obtain ⟨hm, hs⟩ := g.localMatch_iff.2 ⟨List.mem_map.2 ⟨page, hpage, rfl⟩, hleft⟩
  have hk : map.keeps (page.entry api) = true := by
    have hcol : map.collides (page.entry api).routeId = false := by
      rw [Bool.eq_false_iff, ne_eq, g.collides]
      exact hleft
    simp [RouteMap.keeps, hs, hcol]
  exact OfflineWebArchiver.mem_resourceSet.2
    ⟨(g.safe page hpage).canonical_target, Or.inr ⟨_, hm, hk, RouteMapEntry.offers_target _⟩⟩

/-- **What a path of a generated map is answered with.** -/
theorem GeneratedMap.leadsTo_iff (g : GeneratedMap u api input map) {path rest : JsString}
    (hpath : path = '/' :: rest) {page : PageRouteMappingInput} (hpage : page ∈ input.pages)
    (hleft : ¬input.Reports u api (page.entry api).routeId)
    (originalResourceMap : List OriginalResourceMapping) (additional : Option (List JsString)) :
    (ExactRoute u map path (page.entry api).target ∨
        NoRoute u map path ∧ path ≠ ['/'] ∧
          path.tail ∈ resourceSet u map originalResourceMap additional ∧
          (page.entry api).target = path.tail) ↔
      input.LeadsTo u api path page := by
  have hperm := g.named_perm path
  have hset := g.mem_resourceSet hpage hleft originalResourceMap additional
  have htarget : Canonical u (page.entry api).target := (g.safe page hpage).canonical_target
  unfold ExactRoute NoRoute RouteMapInput.LeadsTo
  match hat : input.at path with
  | [] =>
    -- no page has this route: the path must be that of the file
    rw [hat, List.map_nil, List.perm_nil] at hperm
    subst hpath
    simp only [hperm, List.nil_eq, reduceCtorEq, false_and, exists_false, false_or, true_or,
      true_and, List.tail_cons, List.cons.injEq]
    constructor
    · rintro ⟨-, -, ht⟩
      exact ht.symm
    · rintro rfl
      exact ⟨by simpa using htarget.ne_nil, hset, rfl⟩
  | [page'] =>
    -- one page has it: its own file must be the same
    rw [hat, List.map_singleton, List.perm_singleton] at hperm
    have hpage' : page' ∈ input.pages := by
      have : page' ∈ input.at path := by rw [hat]; simp
      exact (List.mem_filter.1 this).1
    have hc : Canonical u (page'.entry api).target := (g.safe page' hpage').canonical_target
    have hone : ∀ route, [resolveEntry (map.collisions.flatMap (·.routeIds)) (page'.entry api)] =
        [route] ↔ route = resolveEntry (map.collisions.flatMap (·.routeIds)) (page'.entry api) := by
      simp [eq_comm]
    have hpone : ∀ p, [page'] = [p] ↔ p = page' := by simp [eq_comm]
    simp only [hperm, hone, hpone, exists_eq_left, resolveEntry_target, g.keeps_resolveEntry, hc,
      reduceCtorEq, not_true_eq_false, and_false, or_false, false_and, true_and]
    rw [@eq_comm _ (page.entry api).target]
  | page₁ :: page₂ :: pages =>
    -- several pages have it: the runtime answers with a collision
    have hlen : (map.named path).length = pages.length + 2 := by
      rw [hperm.length_eq, hat]; simp
    have hnone : ∀ l : List RouteMapEntry, l.length < 2 → map.named path ≠ l := by
      rintro l hl he
      rw [he] at hlen
      omega
    have hsingle : ∀ route, map.named path ≠ [route] := fun route => hnone _ (by simp)
    simp [hnone [] (by simp), hsingle]

/-- **The decoder on a local route**: unchanged without escape and trailing slash, refused
with a trailing slash, and shorter with an escape. -/
theorem IsRoute.decode {path : JsString} (h : IsRoute u path) (hp : '%' ∉ path) :
    decodeRuntimePath u path =
      if path = ['/'] ∨ path.getLast? ≠ some '/' then some path else none := by
  cases h with
  | root => rw [decodeRuntimePath_root, if_pos (Or.inl rfl)]
  | @plain path h =>
    rw [decodeRuntimePath_plain h (fun hm => hp (List.mem_cons_of_mem _ hm)), if_pos]
    refine Or.inr fun hlast => ?_
    rcases List.eq_nil_or_concat path with rfl | ⟨init, c, rfl⟩
    · exact h.ne_nil rfl
    · rw [List.concat_eq_append] at h hlast
      rw [← List.cons_append, List.getLast?_concat] at hlast
      rw [Option.some.inj hlast] at h
      exact h.not_concat_slash
  | @slash path h =>
    rw [decodeRuntimePath_slash, if_neg]
    rw [not_or]
    refine ⟨by simp, ?_⟩
    rw [List.getLast?_concat]
    simp

/-- The maps of a runtime share their scope exactly when all pages are in it. -/
theorem GeneratedMap.scope_iff (g : GeneratedMap u api input map)
    {rt : RuntimeRequestResolutionInput} (hrt : BuiltFrom map rt) :
    mapsShareRuntimeScope rt = true ↔ input.InScope := by
  have hroutes : (∀ r ∈ map.routes, r.projectId = map.projectId ∧ r.runId = map.runId ∧
      r.projectRevisionId = map.projectRevisionId) ↔ input.InScope := by
    simp only [g.routes.mem_iff, g.projectId, g.runId, g.projectRevisionId]
    unfold RouteMapInput.InScope RouteMapInput.entries
    rw [List.map_map]
    constructor
    · intro h page hpage
      have := h _ (List.mem_map.2 ⟨page, hpage, rfl⟩)
      rw [Function.comp_apply, (resolveEntry_scope _ _).1, (resolveEntry_scope _ _).2.1,
        (resolveEntry_scope _ _).2.2] at this
      exact this
    · rintro h _ he
      obtain ⟨page, hpage, rfl⟩ := List.mem_map.1 he
      rw [Function.comp_apply, (resolveEntry_scope _ _).1, (resolveEntry_scope _ _).2.1,
        (resolveEntry_scope _ _).2.2]
      exact h page hpage
  unfold mapsShareRuntimeScope
  simp only [hrt.routeMap, Bool.and_eq_true, List.all_eq_true, beq_iff_eq, and_assoc]
  constructor
  · rintro ⟨-, h, -⟩
    exact hroutes.1 h
  · intro h
    exact ⟨hrt.resources, hroutes.2 h, hrt.dependencies⟩

/-- A request is answered with the file of the page exactly when its decoded path leads there. -/
theorem GeneratedMap.serves_leadsTo (g : GeneratedMap u api input map)
    {page : PageRouteMappingInput} (hpage : page ∈ input.pages)
    (hleft : ¬input.Reports u api (page.entry api).routeId) {rt : RuntimeRequestResolutionInput}
    (hrt : BuiltFrom map rt) :
    Serves u rt (page.entry api) ↔
      input.InScope ∧ ∃ path, decodeRuntimePath u rt.requestPath = some path ∧
        input.LeadsTo u api path page := by
  unfold Serves
  rw [resolve_iff, g.scope_iff hrt, hrt.routeMap]
  have hlead : ∀ path, decodeRuntimePath u rt.requestPath = some path →
      ((ExactRoute u map path (page.entry api).target ∨
        NoRoute u map path ∧ path ≠ ['/'] ∧
          path.tail ∈ resourceSet u map rt.originalResourceMap rt.additionalResourcePaths ∧
          (page.entry api).target = path.tail) ↔ input.LeadsTo u api path page) := by
    intro path hpath
    obtain ⟨rest, hrest⟩ : ∃ rest, path = '/' :: rest := by
      rcases decodeRuntimePath_eq_some hpath with rfl | ⟨rest, rfl, -⟩
      · exact ⟨[], rfl⟩
      · exact ⟨rest, rfl⟩
    exact g.leadsTo_iff hrest hpage hleft _ _
  constructor
  · rintro ⟨-, hs, path, hpath, h⟩
    exact ⟨hs, path, hpath, (hlead path hpath).1 h⟩
  · rintro ⟨hs, path, hpath, h⟩
    exact ⟨hrt.method, hs, path, hpath, (hlead path hpath).2 h⟩

/-- Where the decoded route of a page leads, route by route. -/
theorem GeneratedMap.requestable_iff (g : GeneratedMap u api input map)
    {page : PageRouteMappingInput} (hpage : page ∈ input.pages)
    (hleft : ¬input.Reports u api (page.entry api).routeId) :
    (∃ path, decodeRuntimePath u page.localRoute = some path ∧ input.LeadsTo u api path page) ↔
      input.Requestable u api page := by
  unfold RouteMapInput.Requestable
  by_cases hp : '%' ∈ page.localRoute
  · simp [hp]
  rw [(g.safe page hpage).route.decode hp]
  have hmem : page ∈ input.at page.localRoute :=
    List.mem_filter.2 ⟨hpage, beq_self_eq_true _⟩
  have hlead : input.LeadsTo u api page.localRoute page ↔ input.at page.localRoute = [page] := by
    constructor
    · rintro (⟨page', hat, -, -⟩ | ⟨hat, -⟩)
      · rw [hat, List.mem_singleton] at hmem
        rw [hat, hmem]
      · rw [hat] at hmem
        cases hmem
    · intro hat
      exact Or.inl ⟨page, hat, hleft, rfl⟩
  by_cases hform : page.localRoute = ['/'] ∨ page.localRoute.getLast? ≠ some '/'
  · rw [if_pos hform]
    simp [hlead, hp, hform]
  · rw [if_neg hform]
    simp [hp, hform]

/-- Which pages are served in every runtime built from the map. -/
theorem GeneratedMap.serves_iff (g : GeneratedMap u api input map) {page : PageRouteMappingInput}
    (hpage : page ∈ input.pages) (hleft : ¬input.Reports u api (page.entry api).routeId) :
    (∀ rt, BuiltFrom map rt → rt.requestPath = page.localRoute → Serves u rt (page.entry api)) ↔
      input.InScope ∧ input.Requestable u api page := by
  rw [← g.requestable_iff hpage hleft]
  constructor
  · intro h
    have hbuilt : BuiltFrom map
        { requestPath := page.localRoute, method := "GET", routeMap := map,
          originalResourceMap := [], externalDependencyMap := none,
          additionalResourcePaths := none } :=
      ⟨rfl, Or.inl rfl, by simp, by simp⟩
    exact (g.serves_leadsTo hpage hleft hbuilt).1 (h _ hbuilt rfl)
  · rintro hcond rt hrt hpath
    exact (g.serves_leadsTo hpage hleft hrt).2 (by rw [hpath]; exact hcond)

/-- **When every generated route is served.** -/
theorem served_iff (h : generateRouteMap u api input = .ok map) :
    (∀ route ∈ map.routes, route.resolutionState = .localMatch →
        ∀ rt, BuiltFrom map rt → rt.requestPath = route.localRoute → Serves u rt route) ↔
      ∀ page ∈ input.pages, ¬input.Reports u api (page.entry api).routeId →
        input.InScope ∧ input.Requestable u api page := by
  have g := generateRouteMap_ok h
  constructor
  · intro hserved page hpage hleft
    obtain ⟨hm, hs⟩ := g.localMatch_iff.2 ⟨List.mem_map.2 ⟨page, hpage, rfl⟩, hleft⟩
    exact (g.serves_iff hpage hleft).1 (hserved _ hm hs)
  · intro hcond route hm hs
    obtain ⟨he, hleft⟩ := g.localMatch_iff.1 ⟨hm, hs⟩
    obtain ⟨page, hpage, rfl⟩ := List.mem_map.1 he
    exact (g.serves_iff hpage hleft).2 (hcond page hpage hleft)

open Sample in
set_option maxRecDepth 100000 in
/-- A page with a trailing slash in its route, to which the condition applies. -/
theorem served_iff_docs :
    (∀ route ∈ (mapOf [page "a" "/docs/" "docs.html"]).routes,
        route.resolutionState = .localMatch → ∀ rt, BuiltFrom (mapOf [page "a" "/docs/" "docs.html"]) rt →
          rt.requestPath = route.localRoute → Serves ascii rt route) ↔
      ∀ p ∈ [page "a" "/docs/" "docs.html"],
        ¬(archive [page "a" "/docs/" "docs.html"]).Reports ascii urls (p.entry urls).routeId →
          (archive [page "a" "/docs/" "docs.html"]).InScope ∧
            (archive [page "a" "/docs/" "docs.html"]).Requestable ascii urls p :=
  served_iff (by decide : generateRouteMap ascii urls
    (archive [page "a" "/docs/" "docs.html"]) = .ok (mapOf [page "a" "/docs/" "docs.html"]))

open Sample in
set_option maxRecDepth 100000 in
/-- **A dead link.** The only route of the map is left in the state `local-match`, and the
runtime refuses a request for it. -/
theorem docs_refused :
    generateRouteMap ascii urls (archive [page "a" "/docs/" "docs.html"]) =
        .ok (mapOf [page "a" "/docs/" "docs.html"]) ∧
      ∃ route ∈ (mapOf [page "a" "/docs/" "docs.html"]).routes,
        route.resolutionState = .localMatch ∧ route.localRoute = "/docs/".toList ∧
          (resolveRuntimeRequest ascii
            { requestPath := route.localRoute, method := "GET",
              routeMap := mapOf [page "a" "/docs/" "docs.html"], originalResourceMap := [],
              externalDependencyMap := none, additionalResourcePaths := none }).status = 400 := by
  decide

end OfflineWebArchiver
