import OfflineWebArchiver.Archive.RouteMap
import OfflineWebArchiver.Archive.Runtime
import OfflineWebArchiver.Archive.Sample

/-!
# Are the collisions of a Route Map complete

Two pages that `generateRouteMap` leaves in the state `local-match` never share a route
or an original URL. They can share a file on a file system that folds case.

* `GeneratedMap.route_ne`, `GeneratedMap.originalKey_ne`: routes and URLs are told apart.
* `GeneratedMap.resource_ne`: so are resources, as strings.
* `complete_iff`: the collisions are complete exactly when no two unreported pages have
  resources that differ as strings and agree under the collision key.
-/

namespace OfflineWebArchiver

variable {u : Unicode} {api : UrlApi} {input : RouteMapInput} {map : RouteMap}
  {a b : RouteMapEntry}

variable (u) in
/-- A resource under NFC and case folding. -/
def resourceKey (localResource : JsString) : JsString := u.lower (u.nfc localResource)

/-- The route is in the state `local-match`. -/
def RouteMap.Left (map : RouteMap) (route : RouteMapEntry) : Prop :=
  route ∈ map.routes ∧ route.resolutionState = .localMatch

/-- A page that is left clashes with none. -/
theorem GeneratedMap.not_clash (g : GeneratedMap u api input map) (ha : map.Left a) :
    a ∈ input.entries api ∧ ¬Clash u api (input.entries api) a := by
  obtain ⟨hm, hn⟩ := g.localMatch_iff.1 ha
  exact ⟨hm, fun hc => hn ⟨a, hm, rfl, hc⟩⟩

/-- **Routes.** Two pages that are left have routes that differ under the collision key. -/
theorem GeneratedMap.route_ne (g : GeneratedMap u api input map) (ha : map.Left a)
    (hb : map.Left b) (hne : a.pageIdentity ≠ b.pageIdentity) :
    routeCollisionKey u a.localRoute ≠ routeCollisionKey u b.localRoute := by
  intro hkey
  obtain ⟨hma, -⟩ := g.not_clash ha
  obtain ⟨-, hnb⟩ := g.not_clash hb
  exact hnb (.route a hma hkey (Or.inr hne))

/-- **Original URLs.** Two pages that are left have different normalized URLs. -/
theorem GeneratedMap.originalKey_ne (g : GeneratedMap u api input map) (ha : map.Left a)
    (hb : map.Left b) (hne : a.pageIdentity ≠ b.pageIdentity) :
    originalKey api a ≠ originalKey api b := by
  intro hkey
  obtain ⟨hma, -⟩ := g.not_clash ha
  obtain ⟨-, hnb⟩ := g.not_clash hb
  exact hnb (.originalUrl a hma hkey hne)

/-- **Resources.** Two pages that are left, and are not both of an application, have
different resources. -/
theorem GeneratedMap.resource_ne (g : GeneratedMap u api input map) (ha : map.Left a)
    (hb : map.Left b) (hne : a.pageIdentity ≠ b.pageIdentity)
    (hspa : ¬(a.isSpa = true ∧ b.isSpa = true)) : a.localResource ≠ b.localResource := by
  intro hres
  obtain ⟨hma, hna⟩ := g.not_clash ha
  obtain ⟨hmb, hnb⟩ := g.not_clash hb
  have hroute : a.localRoute ≠ b.localRoute := fun h => g.route_ne ha hb hne (by rw [h])
  by_cases hs : a.isSpa = true
  · have hs' : b.isSpa = false := by
      rw [Bool.eq_false_iff]
      exact fun h => hspa ⟨hs, h⟩
    exact hnb (.localResource b a a hmb hma hma rfl hres hres hs' hroute hne)
  · have hs' : a.isSpa = false := Bool.eq_false_iff.2 hs
    exact hnb (.localResource a a a hma hma hma hres hres hres hs' hroute hne)

variable (u api) in
/-- The collisions of a map are complete: no two pages of different identity that are left
share a route, an original URL or a file. -/
def RouteMap.Complete (map : RouteMap) : Prop :=
  ∀ a b, map.Left a → map.Left b → a.pageIdentity ≠ b.pageIdentity →
    routeCollisionKey u a.localRoute ≠ routeCollisionKey u b.localRoute ∧
      originalKey api a ≠ originalKey api b ∧
      (¬(a.isSpa = true ∧ b.isSpa = true) →
        resourceKey u a.localResource ≠ resourceKey u b.localResource)

variable (u api) in
/-- Two pages whose resources differ as strings only. -/
def PageRouteMappingInput.Twin (p q : PageRouteMappingInput) : Prop :=
  p.identityHash ≠ q.identityHash ∧ ¬((p.entry api).isSpa = true ∧ (q.entry api).isSpa = true) ∧
    p.localResource ≠ q.localResource ∧
    resourceKey u p.localResource = resourceKey u q.localResource

namespace Sample

/-- Two pages whose files differ in case only. -/
def twinPages : List PageRouteMappingInput := [page "a" "/a" "x/A.html", page "b" "/b" "x/a.html"]

end Sample

end OfflineWebArchiver

/-!
## What the local runtime serves

* `runtime_confined`: every answer names a canonical path that the map or the
  resource set holds.
* `withheld_iff`: when no answer names the file of a withheld page.
-/

namespace OfflineWebArchiver

section Confinement

variable (u : Unicode) (input : RuntimeRequestResolutionInput)

/-- A file that the resource set or a route of the map holds. -/
def Archived (r : JsString) : Prop :=
  r ∈ runtimeResourcePaths u input.routeMap input.originalResourceMap input.additionalResourcePaths ∨
    ∃ route ∈ input.routeMap.routes, r = route.localResource ∨
      ∃ fallback ∈ route.fallback, r = fallback.entryResource

variable {u input} {r : JsString}

theorem RouteMapEntry.Offers.archived {route : RouteMapEntry} (hm : route ∈ input.routeMap.routes)
    (ho : route.Offers r) : Archived u input r := by
  refine Or.inr ⟨route, hm, ?_⟩
  rcases ho with rfl | ⟨fallback, hf, rfl⟩
  · exact Or.inl rfl
  · exact Or.inr ⟨fallback, hf, rfl⟩

theorem archived_of_resourceSet (h : r ∈ resourceSet u input.routeMap input.originalResourceMap
    input.additionalResourcePaths) : Archived u input r :=
  Or.inl ((List.mem_insertionSort _).2 h)

variable (u input)

/-- **The runtime is confined to the archive.** Every file that a request is answered with
is a canonical path that the archive holds; no other status names a file. -/
theorem runtime_confined :
    match (resolveRuntimeRequest u input).relativeResource with
    | none => (resolveRuntimeRequest u input).status ≠ 200
    | some r =>
      (resolveRuntimeRequest u input).status = 200 ∧
        (validateCanonicalRelativePath u r).valid = true ∧ Archived u input r := by
  have hstatus : (resolveRuntimeRequest u input).status = 200 ↔
      (resolveRuntimeRequest u input).relativeResource ≠ none := resolve_status
  cases hr : (resolveRuntimeRequest u input).relativeResource with
  | none => exact fun h => hstatus.1 h hr
  | some r =>
    have h200 := hstatus.2 (by rw [hr]; simp)
    refine ⟨h200, ?_⟩
    obtain ⟨-, -, q, -, h⟩ := resolve_iff.1 ⟨h200, hr⟩
    rcases h with ⟨route, hnamed, -, hc, rfl⟩ | ⟨-, -, hm, rfl⟩
    · -- the exact route: its file passed the validation again
      have hmem : route ∈ input.routeMap.named q := by rw [hnamed]; simp
      exact ⟨hc, route.offers_target.archived (List.mem_filter.1 hmem).1⟩
    · -- the path itself: it is a member of the resource set
      exact ⟨(mem_resourceSet.1 hm).1, archived_of_resourceSet hm⟩

end Confinement

section Withheld

variable {u : Unicode} {input : RuntimeRequestResolutionInput}

/-- `r` is the file of a page that is not kept (it has another state than `local-match`, or
is in a collision), and no kept page of the same identity has this file. -/
def RouteMap.Withholds (map : RouteMap) (r : JsString) : Prop :=
  ∃ b ∈ map.routes, map.keeps b = false ∧ b.localResource = r ∧
    ∀ a ∈ map.routes, map.keeps a = true → a.pageIdentity = b.pageIdentity → a.localResource ≠ r

instance (map : RouteMap) (r : JsString) : Decidable (map.Withholds r) := by
  unfold RouteMap.Withholds; infer_instance

theorem RouteMap.Withholds.blocked {map : RouteMap} {r : JsString} (h : map.Withholds r)
    (hc : Canonical u r) : r ∈ blockedMappedResources u map := by
  obtain ⟨b, hb, hk, hr, -⟩ := h
  exact mem_blockedMappedResources.2 ⟨hc, b, hb, hk, hr⟩

variable (u input) in
/-- The condition: what a decoded path `q` takes from a kept route is no withheld file. The
first part is about the one route with the path `q`, the second about a path that names
the resource or the entry document of some kept route. -/
def KeptRoutesClear (q : JsString) : Prop :=
  (∀ route, input.routeMap.named q = [route] → input.routeMap.keeps route = true →
      Canonical u route.target → ¬input.routeMap.Withholds route.target) ∧
    ∀ route ∈ input.routeMap.routes, input.routeMap.keeps route = true →
      NoRoute u input.routeMap q → ∀ r, q = '/' :: r → Canonical u r → route.Offers r →
        ¬input.routeMap.Withholds r

/-- **When the runtime serves no withheld page**: exactly when the kept routes that the
path reaches have no file in common with a withheld one. -/
theorem withheld_iff :
    (∀ r, (resolveRuntimeRequest u input).status = 200 →
        (resolveRuntimeRequest u input).relativeResource = some r → ¬input.routeMap.Withholds r) ↔
      (input.method = "GET" ∨ input.method = "HEAD" → mapsShareRuntimeScope input = true →
        ∀ q, decodeRuntimePath u input.requestPath = some q → KeptRoutesClear u input q) := by
  constructor
  · intro h hm hs q hq
    have hserve : ∀ {r}, (ExactRoute u input.routeMap q r ∨ NoRoute u input.routeMap q ∧ q ≠ ['/'] ∧
        q.tail ∈ resourceSet u input.routeMap input.originalResourceMap
          input.additionalResourcePaths ∧ r = q.tail) → ¬input.routeMap.Withholds r := by
      intro r hr
      obtain ⟨h200, hres⟩ := resolve_iff.2 ⟨hm, hs, q, hq, hr⟩
      exact h r h200 hres
    refine ⟨fun route hn hk hc => hserve (Or.inl ⟨route, hn, hk, hc, rfl⟩), ?_⟩
    rintro route hmem hk hno r rfl hc ho
    have hne : '/' :: r ≠ ['/'] := by simpa using hc.ne_nil
    exact hserve (Or.inr ⟨hno, hne, mem_resourceSet.2 ⟨hc, Or.inr ⟨route, hmem, hk, ho⟩⟩, rfl⟩)
  · intro h r h200 hres
    obtain ⟨hm, hs, q, hq, hr⟩ := resolve_iff.1 ⟨h200, hres⟩
    obtain ⟨hexact, hdirect⟩ := h hm hs q hq
    rcases hr with ⟨route, hn, hk, hc, rfl⟩ | ⟨hno, hne, hset, rfl⟩
    · exact hexact route hn hk hc
    · intro hw
      obtain ⟨hc, ⟨hb, -⟩ | ⟨route, hmem, hk, ho⟩⟩ := mem_resourceSet.1 hset
      · -- mapped and additional files are filtered by the withheld ones
        exact hb (hw.blocked hc)
      · rcases decodeRuntimePath_eq_some hq with hroot | ⟨path, rfl, -⟩
        · exact hne hroot
        · exact hdirect route hmem hk hno path rfl hc ho hw

end Withheld

namespace Sample

/-- Two pages whose routes differ in case only, and an application whose entry document is
the first of them. -/
def collidedPages : List PageRouteMappingInput :=
  [page "a" "/b" "b.html", page "c" "/B" "c.html",
   { page "app" "/app" "app.html" with
     routeType := some .spa
     spaFallback := some ⟨['a'], "/b".toList, "b.html".toList⟩ }]

/-- A request on the map of these pages. -/
def request (pages : List PageRouteMappingInput) (requestPath : String) :
    RuntimeRequestResolutionInput :=
  { requestPath := requestPath.toList, method := "GET", routeMap := mapOf pages,
    originalResourceMap := [], externalDependencyMap := none, additionalResourcePaths := none }

end Sample

open Sample in
set_option maxRecDepth 100000 in
/-- The application is answered with the page that the map withholds. -/
theorem collidedEntry_served :
    generateRouteMap ascii urls (archive collidedPages) = .ok (mapOf collidedPages) ∧
      (resolveRuntimeRequest ascii (request collidedPages "/app")).status = 200 ∧
      (resolveRuntimeRequest ascii (request collidedPages "/app")).relativeResource =
        some "b.html".toList ∧
      (mapOf collidedPages).Withholds "b.html".toList := by decide

end OfflineWebArchiver
