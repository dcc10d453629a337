import Mathlib.Data.List.Sort
import OfflineWebArchiver.Archive.Mapping
import OfflineWebArchiver.Lib.Grouping

/-!
# The Route Map

* `generateRouteMap`: from the archived pages to their local routes, with the
  collisions among them.
* `Clash`: what the three groupings of `generateRouteMap` report, said of two pages.
* `mem_collisionIds`: the reported route identifiers are those of the clashing pages.
* `GeneratedMap`, `generateRouteMap_ok`: what an accepted list of pages gives.
-/

namespace OfflineWebArchiver

open Checks Grouping

inductive RouteResolutionState
  | localMatch | collision | unresolved
deriving DecidableEq

structure RouteMapEntry where
  routeId : JsString
  originalUrl : JsString
  normalizedUrl : JsString
  pageId : JsString
  pageIdentity : JsString
  projectId : JsString
  runId : JsString
  projectRevisionId : JsString
  localRoute : JsString
  localResource : JsString
  routeType : RouteType
  resolutionState : RouteResolutionState
  fallback : Option SpaFallbackMetadata
deriving DecidableEq

inductive RouteCollisionKind
  | route | originalUrl | localResource
deriving DecidableEq

inductive RouteCollisionReason
  | caseOrUnicode | duplicateOriginal | sharedLocalResource
deriving DecidableEq

structure RouteCollision where
  collisionKey : JsString
  kind : RouteCollisionKind
  routeIds : List JsString
  reason : RouteCollisionReason
deriving DecidableEq

structure RouteMap where
  projectId : JsString
  runId : JsString
  projectRevisionId : JsString
  routes : List RouteMapEntry
  collisions : List RouteCollision
deriving DecidableEq

structure RouteMapInput where
  pages : List PageRouteMappingInput
  projectId : JsString
  runId : JsString
  projectRevisionId : JsString
deriving DecidableEq

/-- The kinds in the order of their names. -/
def RouteCollisionKind.rank : RouteCollisionKind → ℕ
  | .localResource => 0
  | .originalUrl => 1
  | .route => 2

/-- The reason that goes with a kind. -/
def RouteCollisionKind.reason : RouteCollisionKind → RouteCollisionReason
  | .route => .caseOrUnicode
  | .originalUrl => .duplicateOriginal
  | .localResource => .sharedLocalResource

/-- `routeEntry(input)`. -/
def routeEntry (input : ArchivedPageMapping) : RouteMapEntry :=
  { routeId := ['r', 'o', 'u', 't', 'e', ':'] ++ input.pageId ++ ':' :: input.identityHash,
    originalUrl := input.originalUrl, normalizedUrl := input.normalizedUrl,
    pageId := input.pageId, pageIdentity := input.identityHash, projectId := input.projectId,
    runId := input.runId, projectRevisionId := input.projectRevisionId,
    localRoute := input.localRoute, localResource := input.localResource,
    routeType := input.routeType, resolutionState := .localMatch, fallback := input.spaFallback }

/-- `compare(a.normalizedUrl, b.normalizedUrl) || compare(a.routeId, b.routeId)` is at most 0. -/
def entryLe (a b : RouteMapEntry) : Bool :=
  if jsLt a.normalizedUrl b.normalizedUrl then true
  else if jsLt b.normalizedUrl a.normalizedUrl then false
  else !jsLt b.routeId a.routeId

/-- The order of the reported collisions. -/
def collisionLe (a b : RouteCollision) : Bool :=
  if a.kind.rank < b.kind.rank then true
  else if b.kind.rank < a.kind.rank then false
  else !jsLt b.collisionKey a.collisionKey

variable (u : Unicode) (api : UrlApi)

/-- `routeCollisionKey(value)`. -/
def routeCollisionKey (value : JsString) : JsString :=
  if value = ['/'] then ['/']
  else
    let slash := value.getLast? == some '/'
    let pathValue := if slash then value.dropLast else value
    u.lower (u.nfc pathValue) ++ (if slash then ['/'] else [])

/-- The key of the second grouping. -/
def originalKey (entry : RouteMapEntry) : JsString :=
  (normalizeRewriteUrl api entry.normalizedUrl).getD entry.normalizedUrl

/-- A page of a single-page application, in the sense of `hasSharedSpaEntry`. -/
def RouteMapEntry.isSpa (entry : RouteMapEntry) : Bool :=
  entry.routeType == .spa || entry.fallback.isSome

/-- The calls of `mark` for one grouping. -/
def marksOf (kind : RouteCollisionKind) (key : RouteMapEntry → JsString)
    (collides : List RouteMapEntry → Bool) (entries : List RouteMapEntry) :
    List ((RouteCollisionKind × JsString) × JsString) :=
  (groupBy key entries).flatMap fun (k, group) =>
    if collides group then group.map fun entry => ((kind, k), entry.routeId) else []

def routeMarks : List RouteMapEntry → List ((RouteCollisionKind × JsString) × JsString) :=
  marksOf .route (fun entry => routeCollisionKey u entry.localRoute) fun group =>
    decide (1 < group.length) &&
      (decide (1 < setSize (group.map (·.localRoute))) ||
        decide (1 < setSize (group.map (·.pageIdentity))))

def originalMarks : List RouteMapEntry → List ((RouteCollisionKind × JsString) × JsString) :=
  marksOf .originalUrl (originalKey api) fun group =>
    decide (1 < setSize (group.map (·.pageIdentity)))

def resourceMarks : List RouteMapEntry → List ((RouteCollisionKind × JsString) × JsString) :=
  marksOf .localResource (·.localResource) fun group =>
    !group.all (·.isSpa) && decide (1 < setSize (group.map (·.localRoute))) &&
      decide (1 < setSize (group.map (·.pageIdentity)))

/-- The three groupings, one after the other. -/
def collisionMarks (entries : List RouteMapEntry) :
    List ((RouteCollisionKind × JsString) × JsString) :=
  routeMarks u entries ++ originalMarks api entries ++ resourceMarks entries

/-- The entries of the pages, in their order. -/
def sortedEntries (mappings : List ArchivedPageMapping) : List RouteMapEntry :=
  (mappings.map routeEntry).insertionSort fun a b => entryLe a b

/-- The collisions that are reported. -/
def collisionsOf (entries : List RouteMapEntry) : List RouteCollision :=
  ((collect (collisionMarks u api entries)).map fun ((kind, key), routeIds) =>
      { collisionKey := key, kind, reason := kind.reason,
        routeIds := routeIds.insertionSort fun a b => !jsLt b a }).insertionSort
    fun a b => collisionLe a b

/-- An entry whose identifier is in a collision is in the state `collision`. -/
def resolveEntry (collisionIds : List JsString) (entry : RouteMapEntry) : RouteMapEntry :=
  if entry.routeId ∈ collisionIds then { entry with resolutionState := .collision } else entry

/-- `generateRouteMap(input)`. -/
def generateRouteMap (input : RouteMapInput) : Except RewriteOperationError RouteMap := do
  if input.pages.length > maximumRouteCount then
    throw ⟨.inputInvalid, "The Route Map exceeds its configured bound"⟩
  else
    let mappings ← input.pages.mapM (archivedPageMapping u api)
    let entries := sortedEntries mappings
    let collisions := collisionsOf u api entries
    let collisionIds := collisions.flatMap (·.routeIds)
    assertText input.projectId "The project identifier" 128
    assertText input.runId "The run identifier" 128
    assertText input.projectRevisionId "The project revision identifier" 128
    return { projectId := input.projectId, runId := input.runId,
             projectRevisionId := input.projectRevisionId,
             routes := entries.map (resolveEntry collisionIds), collisions }

/-! ### What is reported -/

/-- What one of the three groupings reports of `e`. -/
inductive Clash (entries : List RouteMapEntry) (e : RouteMapEntry) : Prop
  | route (a : RouteMapEntry) (ha : a ∈ entries)
      (hkey : routeCollisionKey u a.localRoute = routeCollisionKey u e.localRoute)
      (hne : a.localRoute ≠ e.localRoute ∨ a.pageIdentity ≠ e.pageIdentity)
  | originalUrl (a : RouteMapEntry) (ha : a ∈ entries) (hkey : originalKey api a = originalKey api e)
      (hne : a.pageIdentity ≠ e.pageIdentity)
  | localResource (a b c : RouteMapEntry) (ha : a ∈ entries) (hb : b ∈ entries) (hc : c ∈ entries)
      (hka : a.localResource = e.localResource) (hkb : b.localResource = e.localResource)
      (hkc : c.localResource = e.localResource) (hspa : a.isSpa = false)
      (hroute : b.localRoute ≠ e.localRoute) (hne : c.pageIdentity ≠ e.pageIdentity)

variable {u api}

section Clash

variable {entries : List RouteMapEntry} {e : RouteMapEntry}

/-- Two elements of a group differ when one differs from a given one. -/
theorem exists_ne_iff {α β : Type} {f : α → β} {g : List α} {x : α} (hx : x ∈ g) :
    (∃ a ∈ g, ∃ b ∈ g, f a ≠ f b) ↔ ∃ a ∈ g, f a ≠ f x := by
  constructor
  · rintro ⟨a, ha, b, hb, hne⟩
    by_cases h : f a = f x
    · exact ⟨b, hb, fun hb' => hne (h.trans hb'.symm)⟩
    · exact ⟨a, ha, h⟩
  · rintro ⟨a, ha, hne⟩
    exact ⟨a, ha, x, hx, hne⟩

theorem mem_marksOf {kind kind' : RouteCollisionKind} {key : RouteMapEntry → JsString}
    {collides : List RouteMapEntry → Bool} {k id : JsString} :
    ((kind', k), id) ∈ marksOf kind key collides entries ↔
      kind' = kind ∧ ∃ e ∈ entries, e.routeId = id ∧ key e = k ∧
        collides (entries.filter fun a => key a = k) = true := by
  unfold marksOf
  rw [List.mem_flatMap]
  constructor
  · rintro ⟨⟨k', group⟩, hg, hm⟩
    obtain ⟨rfl, -⟩ := mem_groupBy.1 hg
    simp only at hm
    split_ifs at hm with hc
    · obtain ⟨e, he, heq⟩ := List.mem_map.1 hm
      obtain ⟨he, hk⟩ := List.mem_filter.1 he
      simp only [Prod.mk.injEq] at heq
      obtain ⟨⟨rfl, rfl⟩, rfl⟩ := heq
      exact ⟨rfl, e, he, rfl, of_decide_eq_true hk, hc⟩
    · cases hm
  · rintro ⟨rfl, e, he, rfl, rfl, hc⟩
    refine ⟨_, group_of_mem he, ?_⟩
    simp only [hc, if_true]
    exact List.mem_map.2 ⟨e, List.mem_filter.2 ⟨he, decide_eq_true rfl⟩, rfl⟩

/-- **The marked identifiers are those of the clashing entries.** -/
theorem mem_collisionMarks {id : JsString} :
    (∃ kk, (kk, id) ∈ collisionMarks u api entries) ↔
      ∃ e ∈ entries, e.routeId = id ∧ Clash u api entries e := by
  constructor
  · rintro ⟨⟨kind, k⟩, h⟩
    rcases List.mem_append.1 h with h | h
    · rcases List.mem_append.1 h with h | h
      · obtain ⟨-, e, he, rfl, rfl, hc⟩ := mem_marksOf.1 h
        refine ⟨e, he, rfl, ?_⟩
        have hg : e ∈ entries.filter fun a =>
            routeCollisionKey u a.localRoute = routeCollisionKey u e.localRoute := by simp [he]
        rw [Bool.and_eq_true, Bool.or_eq_true, decide_eq_true_iff, decide_eq_true_iff,
          decide_eq_true_iff, one_lt_setSize, one_lt_setSize, exists_ne_iff hg,
          exists_ne_iff hg] at hc
        obtain ⟨-, ⟨a, ha, hne⟩ | ⟨a, ha, hne⟩⟩ := hc
        all_goals obtain ⟨ha, hk⟩ := List.mem_filter.1 ha
        · exact .route a ha (of_decide_eq_true hk) (Or.inl hne)
        · exact .route a ha (of_decide_eq_true hk) (Or.inr hne)
      · obtain ⟨-, e, he, rfl, rfl, hc⟩ := mem_marksOf.1 h
        refine ⟨e, he, rfl, ?_⟩
        have hg : e ∈ entries.filter fun a => originalKey api a = originalKey api e := by simp [he]
        rw [decide_eq_true_iff, one_lt_setSize, exists_ne_iff hg] at hc
        obtain ⟨a, ha, hne⟩ := hc
        obtain ⟨ha, hk⟩ := List.mem_filter.1 ha
        exact .originalUrl a ha (of_decide_eq_true hk) hne
    · obtain ⟨-, e, he, rfl, rfl, hc⟩ := mem_marksOf.1 h
      refine ⟨e, he, rfl, ?_⟩
      have hg : e ∈ entries.filter fun a => a.localResource = e.localResource := by simp [he]
      rw [Bool.and_eq_true, Bool.and_eq_true, decide_eq_true_iff, decide_eq_true_iff,
        one_lt_setSize, one_lt_setSize, exists_ne_iff hg, exists_ne_iff hg] at hc
      obtain ⟨⟨hspa, b, hb, hroute⟩, c, hc, hne⟩ := hc
      rw [Bool.not_eq_true', List.all_eq_false] at hspa
      obtain ⟨a, ha, hspa⟩ := hspa
      obtain ⟨ha, hka⟩ := List.mem_filter.1 ha
      obtain ⟨hb, hkb⟩ := List.mem_filter.1 hb
      obtain ⟨hc, hkc⟩ := List.mem_filter.1 hc
      exact .localResource a b c ha hb hc (of_decide_eq_true hka) (of_decide_eq_true hkb)
        (of_decide_eq_true hkc) (Bool.eq_false_iff.2 hspa) hroute hne
  · rintro ⟨e, he, rfl, hclash⟩
    cases hclash with
    | route a ha hkey hne =>
      refine ⟨(.route, routeCollisionKey u e.localRoute), List.mem_append_left _ (List.mem_append_left _
        (mem_marksOf.2 ⟨rfl, e, he, rfl, rfl, ?_⟩))⟩
      have hg : e ∈ entries.filter fun a =>
          routeCollisionKey u a.localRoute = routeCollisionKey u e.localRoute := by simp [he]
      have ha' : a ∈ entries.filter fun a =>
          routeCollisionKey u a.localRoute = routeCollisionKey u e.localRoute := by simp [ha, hkey]
      have hlen : 1 < (entries.filter fun a =>
          routeCollisionKey u a.localRoute = routeCollisionKey u e.localRoute).length := by
        by_contra hle
        obtain ⟨x, hx⟩ := List.length_eq_one_iff.1
          (Nat.le_antisymm (Nat.not_lt.1 hle) (List.length_pos_of_mem hg))
        rw [hx, List.mem_singleton] at hg ha'
        rw [hg, ha'] at hne
        simp at hne
      rw [Bool.and_eq_true, Bool.or_eq_true, decide_eq_true_iff, decide_eq_true_iff,
        decide_eq_true_iff, one_lt_setSize, one_lt_setSize, exists_ne_iff hg, exists_ne_iff hg]
      refine ⟨hlen, ?_⟩
      rcases hne with hne | hne
      · exact Or.inl ⟨a, ha', hne⟩
      · exact Or.inr ⟨a, ha', hne⟩
    | originalUrl a ha hkey hne =>
      refine ⟨(.originalUrl, originalKey api e), List.mem_append_left _ (List.mem_append_right _
        (mem_marksOf.2 ⟨rfl, e, he, rfl, rfl, ?_⟩))⟩
      have hg : e ∈ entries.filter fun a => originalKey api a = originalKey api e := by simp [he]
      rw [decide_eq_true_iff, one_lt_setSize, exists_ne_iff hg]
      exact ⟨a, by simp [ha, hkey], hne⟩
    | localResource a b c ha hb hc hka hkb hkc hspa hroute hne =>
      refine ⟨(.localResource, e.localResource), List.mem_append_right _
        (mem_marksOf.2 ⟨rfl, e, he, rfl, rfl, ?_⟩)⟩
      have hg : e ∈ entries.filter fun a => a.localResource = e.localResource := by simp [he]
      rw [Bool.and_eq_true, Bool.and_eq_true, decide_eq_true_iff, decide_eq_true_iff,
        one_lt_setSize, one_lt_setSize, exists_ne_iff hg, exists_ne_iff hg,
        Bool.not_eq_true', List.all_eq_false]
      exact ⟨⟨⟨a, by simp [ha, hka], by simp [hspa]⟩, b, by simp [hb, hkb], hroute⟩, c,
        by simp [hc, hkc], hne⟩

theorem mem_collisionIds {id : JsString} :
    id ∈ (collisionsOf u api entries).flatMap (·.routeIds) ↔
      ∃ e ∈ entries, e.routeId = id ∧ Clash u api entries e := by
  rw [← mem_collisionMarks, List.mem_flatMap]
  unfold collisionsOf
  simp only [List.mem_insertionSort, List.mem_map]
  constructor
  · rintro ⟨_, ⟨⟨⟨kind, k⟩, routeIds⟩, hm, rfl⟩, hid⟩
    exact ⟨(kind, k), mem_collect.1 ⟨routeIds, hm, (List.mem_insertionSort _).1 hid⟩⟩
  · rintro ⟨⟨kind, k⟩, h⟩
    obtain ⟨routeIds, hm, hid⟩ := mem_collect.2 h
    exact ⟨_, ⟨⟨⟨kind, k⟩, routeIds⟩, hm, rfl⟩, (List.mem_insertionSort _).2 hid⟩

/-- A clash depends on which entries there are only. -/
theorem Clash.congr {entries' : List RouteMapEntry} (h : ∀ a, a ∈ entries → a ∈ entries')
    (hc : Clash u api entries e) : Clash u api entries' e := by
  cases hc with
  | route a ha hkey hne => exact .route a (h a ha) hkey hne
  | originalUrl a ha hkey hne => exact .originalUrl a (h a ha) hkey hne
  | localResource a b c ha hb hc hka hkb hkc hspa hroute hne =>
    exact .localResource a b c (h a ha) (h b hb) (h c hc) hka hkb hkc hspa hroute hne

end Clash

/-! ### An accepted list of pages -/

/-- The entry of a page, before collisions are looked for. -/
def PageRouteMappingInput.entry (api : UrlApi) (page : PageRouteMappingInput) : RouteMapEntry :=
  routeEntry (page.mapping api)

def RouteMapInput.entries (api : UrlApi) (input : RouteMapInput) : List RouteMapEntry :=
  input.pages.map (·.entry api)

variable (u api) in
/-- Some page with this route identifier clashes. -/
def RouteMapInput.Reports (input : RouteMapInput) (id : JsString) : Prop :=
  ∃ e ∈ input.entries api, e.routeId = id ∧ Clash u api (input.entries api) e

/-- The route is in a collision of the map. -/
def RouteMap.collides (map : RouteMap) (routeId : JsString) : Bool :=
  map.collisions.any fun collision => collision.routeIds.contains routeId

variable (u api) in
/-- What `generateRouteMap` makes of an accepted list of pages. -/
structure GeneratedMap (input : RouteMapInput) (map : RouteMap) : Prop where
  safe : ∀ page ∈ input.pages, page.Safe u
  projectId : map.projectId = input.projectId
  runId : map.runId = input.runId
  projectRevisionId : map.projectRevisionId = input.projectRevisionId
  routes : map.routes.Perm
    ((input.entries api).map (resolveEntry (map.collisions.flatMap (·.routeIds))))
  collides : ∀ id, map.collides id = true ↔ input.Reports u api id

variable {input : RouteMapInput} {map : RouteMap} {id : JsString}

theorem collides_iff : map.collides id = true ↔ id ∈ map.collisions.flatMap (·.routeIds) := by
  simp [RouteMap.collides]

theorem mapM_archivedPageMapping {pages : List PageRouteMappingInput}
    {mappings : List ArchivedPageMapping}
    (h : pages.mapM (archivedPageMapping u api) = .ok mappings) :
    mappings = pages.map (·.mapping api) ∧ ∀ page ∈ pages, page.Safe u := by
  induction mapM_ok.1 h with
  | nil => simp
  | cons hp hall ih =>
    obtain ⟨hm, hs⟩ := archivedPageMapping_ok hp
    obtain ⟨hms, hss⟩ := ih (mapM_ok.2 hall)
    exact ⟨by rw [hm, hms, List.map_cons], by simpa using ⟨hs, hss⟩⟩

/-- **What an accepted list of pages gives.** -/
theorem generateRouteMap_ok (h : generateRouteMap u api input = .ok map) :
    GeneratedMap u api input map := by
  unfold generateRouteMap at h
  rw [guard_ok] at h
  obtain ⟨-, h⟩ := h
  obtain ⟨mappings, hm, h⟩ := bind_ok.1 h
  simp only [bind_ok, pure_ok] at h
  obtain ⟨-, -, -, -, -, -, rfl⟩ := h
  have hpages := mapM_archivedPageMapping hm
  have hentries : (mappings.map routeEntry) = input.entries api := by
    rw [hpages.1, List.map_map]; rfl
  have hperm : (sortedEntries mappings).Perm (input.entries api) := by
    rw [← hentries]; exact List.perm_insertionSort _ _
  refine ⟨hpages.2, rfl, rfl, rfl, hperm.map _, fun id => ?_⟩
  rw [collides_iff, mem_collisionIds]
  constructor
  · rintro ⟨e, he, hid, hc⟩
    exact ⟨e, hperm.mem_iff.1 he, hid, hc.congr fun a ha => hperm.mem_iff.1 ha⟩
  · rintro ⟨e, he, hid, hc⟩
    exact ⟨e, hperm.mem_iff.2 he, hid, hc.congr fun a ha => hperm.mem_iff.2 ha⟩

/-- **The routes left in the state `local-match`** are the entries that nothing reports. -/
theorem GeneratedMap.localMatch_iff (g : GeneratedMap u api input map) {r : RouteMapEntry} :
    (r ∈ map.routes ∧ r.resolutionState = .localMatch) ↔
      r ∈ input.entries api ∧ ¬input.Reports u api r.routeId := by
  rw [g.routes.mem_iff, List.mem_map, ← g.collides, collides_iff]
  constructor
  · rintro ⟨⟨e, he, rfl⟩, hs⟩
    unfold resolveEntry at hs ⊢
    split_ifs at hs ⊢ with hc
    · exact ⟨he, hc⟩
  · rintro ⟨hr, hn⟩
    refine ⟨⟨r, hr, by rw [resolveEntry, if_neg hn]⟩, ?_⟩
    obtain ⟨page, -, rfl⟩ := List.mem_map.1 hr
    rfl

end OfflineWebArchiver
