import OfflineWebArchiver.Archive.RouteMap

/-!
# The local runtime

* `resolveRuntimeRequest`: from a request path to the file that answers it.
* `runtimeResourcePaths`: the files that a request may name directly.
* `resolve_ok_iff`: the two ways to be answered with status 200.
* `decodeRuntimePath_route`: which local routes come out of the decoder unchanged.
-/

namespace OfflineWebArchiver

inductive ResourceResolutionState
  | localMatch | unresolved
deriving DecidableEq

structure OriginalResourceMapping where
  projectId : JsString
  runId : JsString
  projectRevisionId : JsString
  localResource : JsString
  resolutionState : ResourceResolutionState
deriving DecidableEq

/-- The scope of an external dependency. -/
structure DependencyScope where
  projectId : JsString
  runId : JsString
  projectRevisionId : JsString
deriving DecidableEq

inductive RuntimeResolutionKind
  | page | resource | missing | collision | invalid
deriving DecidableEq

structure RuntimeResolution where
  status : ℕ
  kind : RuntimeResolutionKind
  requestPath : JsString
  relativeResource : Option JsString
  route : Option RouteMapEntry
  reasonCode : String
deriving DecidableEq

structure RuntimeRequestResolutionInput where
  requestPath : JsString
  method : String
  routeMap : RouteMap
  originalResourceMap : List OriginalResourceMapping
  externalDependencyMap : Option (List DependencyScope)
  additionalResourcePaths : Option (List JsString)
deriving DecidableEq

/-- One pass after the other, until nothing changes; `none` where the path is refused. -/
def decodeRoutePasses : ℕ → JsString → Option JsString
  | 0, decoded => some decoded
  | passes + 1, decoded =>
    match decodeURIComponent decoded with
    | none => none
    | some next =>
      if next.contains '\\' || (next.splitOn '/').any isDotSegment then none
      else if next = decoded then some decoded
      else decodeRoutePasses passes next

variable (u : Unicode)

/-- `normalizedRoutePath(value)`. -/
def normalizedRoutePath (value : JsString) : Option JsString :=
  if value = ['/'] then some ['/']
  else if value.head? ≠ some '/' || value.contains '\\' || value.any isControl then none
  else (validateCanonicalRelativePath u value.tail).accepted.map ('/' :: ·)

/-- `decodeRuntimePath(value)`. -/
def decodeRuntimePath (value : JsString) : Option JsString :=
  if value.head? ≠ some '/' || value.contains '\\' then none
  else (decodeRoutePasses 3 value).bind (normalizedRoutePath u)

/-- The route may be served: it is in the state `local-match` and in no collision. -/
def RouteMap.keeps (map : RouteMap) (route : RouteMapEntry) : Bool :=
  route.resolutionState == .localMatch && !map.collides route.routeId

/-- The normalized values of those that are canonical paths. -/
def acceptedPaths (values : List JsString) : List JsString :=
  values.filterMap fun value => (validateCanonicalRelativePath u value).accepted

/-- `blockedMappedResources`. -/
def blockedMappedResources (map : RouteMap) : List JsString :=
  acceptedPaths u ((map.routes.filter (!map.keeps ·)).map (·.localResource))

/-- `resourceSet(input)`. -/
def resourceSet (map : RouteMap) (originalResourceMap : List OriginalResourceMapping)
    (additionalResourcePaths : Option (List JsString)) : List JsString :=
  let blocked := blockedMappedResources u map
  let mapped := acceptedPaths u
    ((originalResourceMap.filter (·.resolutionState == .localMatch)).map (·.localResource))
  let additional := acceptedPaths u (additionalResourcePaths.getD [])
  let routed := (map.routes.filter map.keeps).flatMap fun route =>
    acceptedPaths u (route.localResource :: (route.fallback.map (·.entryResource)).toList)
  (mapped.filter (!blocked.contains ·) ++ additional.filter (!blocked.contains ·) ++ routed).eraseDups

/-- `mapsShareRuntimeScope(input)`. -/
def mapsShareRuntimeScope (input : RuntimeRequestResolutionInput) : Bool :=
  let scope := input.routeMap
  let shares := fun projectId runId projectRevisionId =>
    projectId == scope.projectId && runId == scope.runId &&
      projectRevisionId == scope.projectRevisionId
  input.originalResourceMap.all (fun r => shares r.projectId r.runId r.projectRevisionId) &&
    scope.routes.all (fun r => shares r.projectId r.runId r.projectRevisionId) &&
    (input.externalDependencyMap.getD []).all fun d => shares d.projectId d.runId d.projectRevisionId

/-- The file that an exact match of the route names. -/
def RouteMapEntry.target (route : RouteMapEntry) : JsString :=
  match route.routeType, route.fallback with
  | .spa, some fallback => fallback.entryResource
  | _, _ => route.localResource

/-- The last lookup of `resolveRuntimeRequest`: the path as the path of a file. -/
def resolveResource (input : RuntimeRequestResolutionInput) (pathValue : JsString) :
    RuntimeResolution :=
  if pathValue ≠ ['/'] ∧ pathValue.tail ∈
      resourceSet u input.routeMap input.originalResourceMap input.additionalResourcePaths then
    { status := 200, kind := .resource, requestPath := pathValue,
      relativeResource := some pathValue.tail, route := none,
      reasonCode := "RUNTIME_RESOURCE_MATCH" }
  else
    { status := 404, kind := .missing, requestPath := pathValue, relativeResource := none,
      route := none, reasonCode := "RUNTIME_RESOURCE_NOT_ARCHIVED" }

/-- `routeMatches`: the routes that a decoded path names. -/
def RouteMap.named (map : RouteMap) (pathValue : JsString) : List RouteMapEntry :=
  map.routes.filter fun route => route.localRoute == pathValue

/-- `resolveRuntimeRequest` for a decoded path. -/
def resolvePath (input : RuntimeRequestResolutionInput) (pathValue : JsString) :
    RuntimeResolution :=
  let routeMatches := input.routeMap.named pathValue
  if 1 < routeMatches.length || routeMatches.any (fun candidate =>
      candidate.resolutionState == .collision || input.routeMap.collides candidate.routeId) then
    { status := 409, kind := .collision, requestPath := pathValue, relativeResource := none,
      route := none, reasonCode := "RUNTIME_ROUTE_COLLISION" }
  else
    match routeMatches.head? with
    | some route =>
      if route.resolutionState ≠ .localMatch then
        { status := 409, kind := .collision, requestPath := pathValue, relativeResource := none,
          route := some route,
          reasonCode := if route.resolutionState = .collision then "RUNTIME_ROUTE_COLLISION"
            else "RUNTIME_ROUTE_UNRESOLVED" }
      else
        match canonicalRelativePath u route.target with
        | .ok relativeResource =>
          { status := 200, kind := .page, requestPath := pathValue,
            relativeResource := some relativeResource, route := some route,
            reasonCode := if route.routeType = .spa then "RUNTIME_SPA_ENTRY_DOCUMENT"
              else "RUNTIME_ROUTE_MATCH" }
        -- A malformed persisted map is not a file-serving permission.
        | .error _ => resolveResource u input pathValue
    | none => resolveResource u input pathValue

/-- `resolveRuntimeRequest(input)`. -/
def resolveRuntimeRequest (input : RuntimeRequestResolutionInput) : RuntimeResolution :=
  let refuse := fun (status : ℕ) (reasonCode : String) =>
    ({ status, kind := .invalid, requestPath := input.requestPath, relativeResource := none,
       route := none, reasonCode } : RuntimeResolution)
  if input.method ≠ "GET" ∧ input.method ≠ "HEAD" then refuse 400 "RUNTIME_METHOD_NOT_ALLOWED"
  else if !mapsShareRuntimeScope input then refuse 409 "RUNTIME_MAP_SCOPE_MISMATCH"
  else
    match decodeRuntimePath u input.requestPath with
    | none => refuse 400 "RUNTIME_PATH_UNSAFE"
    | some pathValue => resolvePath u input pathValue

/-- `runtimeResourcePaths(input)`. -/
def runtimeResourcePaths (map : RouteMap) (originalResourceMap : List OriginalResourceMapping)
    (additionalResourcePaths : Option (List JsString)) : List JsString :=
  (resourceSet u map originalResourceMap additionalResourcePaths).insertionSort
    fun a b => !jsLt b a

/-! ### The two ways to be answered -/

/-- The path names one route, which is kept and whose file is a canonical path. -/
def ExactRoute (map : RouteMap) (pathValue r : JsString) : Prop :=
  ∃ route, map.named pathValue = [route] ∧ map.keeps route = true ∧ Canonical u route.target ∧
    r = route.target

/-- The path names no route, or a kept one whose file is no canonical path. -/
def NoRoute (map : RouteMap) (pathValue : JsString) : Prop :=
  map.named pathValue = [] ∨
    ∃ route, map.named pathValue = [route] ∧ map.keeps route = true ∧ ¬Canonical u route.target

variable {u} {input : RuntimeRequestResolutionInput} {map : RouteMap} {q r : JsString}

theorem resolveResource_iff :
    ((resolveResource u input q).status = 200 ∧
        (resolveResource u input q).relativeResource = some r) ↔
      q ≠ ['/'] ∧ q.tail ∈ resourceSet u input.routeMap input.originalResourceMap
        input.additionalResourcePaths ∧ r = q.tail := by
  unfold resolveResource
  split
  · next h => simp [h, eq_comm]
  · next h =>
    simp only [reduceCtorEq, and_false, false_iff]
    exact fun ⟨hq, hm, _⟩ => h ⟨hq, hm⟩

/-- **A path is answered by one exact route, or as the path of a file.** -/
theorem resolvePath_iff :
    ((resolvePath u input q).status = 200 ∧ (resolvePath u input q).relativeResource = some r) ↔
      ExactRoute u input.routeMap q r ∨
        NoRoute u input.routeMap q ∧ q ≠ ['/'] ∧ q.tail ∈ resourceSet u input.routeMap
          input.originalResourceMap input.additionalResourcePaths ∧ r = q.tail := by
  unfold resolvePath ExactRoute NoRoute
  have hresource : ((resolveResource u input q).status = 200 ∧
      (resolveResource u input q).relativeResource = some r) ↔ _ := resolveResource_iff
  match hn : input.routeMap.named q with
  | [] => simpa using hresource
  | [route] =>
    have hone : ∀ route', [route] = [route'] ↔ route' = route := by simp [eq_comm]
    simp only [hone, reduceCtorEq, false_or, exists_eq_left]
    by_cases hcol : input.routeMap.collides route.routeId = true
    · simp [hcol, RouteMap.keeps]
    by_cases hst : route.resolutionState = .localMatch
    · have hkeep : input.routeMap.keeps route = true := by simp [RouteMap.keeps, hst, hcol]
      by_cases hc : Canonical u route.target
      · have hok := (canonicalRelativePath_ok (u := u)).2 ⟨hc, rfl⟩
        simpa [hcol, hst, hkeep, hok, hc] using eq_comm
      · obtain ⟨e, he⟩ : ∃ e, canonicalRelativePath u route.target = .error e := by
          cases hx : canonicalRelativePath u route.target with
          | ok v => exact absurd (canonicalRelativePath_ok.1 hx).1 hc
          | error e => exact ⟨e, rfl⟩
        simpa [hcol, hst, hkeep, he, hc] using hresource
    · have hkeep : input.routeMap.keeps route = false := by simp [RouteMap.keeps, hst]
      simp only [hkeep, Bool.false_eq_true, false_and, or_false, iff_false]
      by_cases hs : route.resolutionState = .collision
      · simp [hs]
      · simp [hs, hst, hcol]
  | _ :: _ :: _ => simp

/-- **Status 200**, with its checks in front. -/
theorem resolve_iff :
    ((resolveRuntimeRequest u input).status = 200 ∧
        (resolveRuntimeRequest u input).relativeResource = some r) ↔
      (input.method = "GET" ∨ input.method = "HEAD") ∧ mapsShareRuntimeScope input = true ∧
        ∃ q, decodeRuntimePath u input.requestPath = some q ∧
          (ExactRoute u input.routeMap q r ∨
            NoRoute u input.routeMap q ∧ q ≠ ['/'] ∧ q.tail ∈ resourceSet u input.routeMap
              input.originalResourceMap input.additionalResourcePaths ∧ r = q.tail) := by
  unfold resolveRuntimeRequest
  simp only []
  split_ifs with hm hs
  · simp only [and_false, false_iff]
    tauto
  · simp_all
  · have hmethod : input.method = "GET" ∨ input.method = "HEAD" := by tauto
    have hscope : mapsShareRuntimeScope input = true := by simpa using hs
    simp only [hmethod, hscope, true_and]
    cases hd : decodeRuntimePath u input.requestPath with
    | none => simp
    | some q => simpa using resolvePath_iff

theorem resolveResource_status :
    (resolveResource u input q).status = 200 ↔ (resolveResource u input q).relativeResource ≠ none := by
  unfold resolveResource
  split <;> simp

/-- A file is named exactly with status 200. -/
theorem resolve_status :
    (resolveRuntimeRequest u input).status = 200 ↔
      (resolveRuntimeRequest u input).relativeResource ≠ none := by
  unfold resolveRuntimeRequest
  simp only []
  split_ifs
  · simp
  · simp
  · cases decodeRuntimePath u input.requestPath with
    | none => simp
    | some q =>
      simp only [resolvePath]
      split
      · simp
      · split
        · split
          · simp
          · split
            · simp
            · exact resolveResource_status
        · exact resolveResource_status

/-! ### The files that may be named directly -/

theorem mem_acceptedPaths {values : List JsString} :
    r ∈ acceptedPaths u values ↔ r ∈ values ∧ Canonical u r := by
  unfold acceptedPaths
  simp only [List.mem_filterMap, validate_accepted]
  constructor
  · rintro ⟨value, hv, h⟩
    split_ifs at h with hc
    obtain rfl := Option.some.inj h
    exact ⟨hv, hc⟩
  · rintro ⟨hr, hc⟩
    exact ⟨r, hr, if_pos hc⟩

theorem mem_blockedMappedResources :
    r ∈ blockedMappedResources u map ↔
      Canonical u r ∧ ∃ route ∈ map.routes, map.keeps route = false ∧ route.localResource = r := by
  unfold blockedMappedResources
  rw [mem_acceptedPaths]
  simp only [List.mem_map, List.mem_filter, Bool.not_eq_true']
  constructor
  · rintro ⟨⟨route, ⟨hm, hk⟩, rfl⟩, hc⟩
    exact ⟨hc, route, hm, hk, rfl⟩
  · rintro ⟨hc, route, hm, hk, rfl⟩
    exact ⟨⟨route, ⟨hm, hk⟩, rfl⟩, hc⟩

/-- The route offers `r`: as its local resource, or as its entry document. -/
def RouteMapEntry.Offers (route : RouteMapEntry) (r : JsString) : Prop :=
  route.localResource = r ∨ ∃ fallback ∈ route.fallback, fallback.entryResource = r

theorem RouteMapEntry.offers_target (route : RouteMapEntry) : route.Offers route.target := by
  unfold Offers target
  split
  · next h => exact Or.inr ⟨_, h, rfl⟩
  · exact Or.inl rfl

/-- **What is in the resource set**: what no withheld route has as its resource, and what a
kept route offers. -/
theorem mem_resourceSet {originalResourceMap : List OriginalResourceMapping}
    {additional : Option (List JsString)} :
    r ∈ resourceSet u map originalResourceMap additional ↔
      Canonical u r ∧
        ((r ∉ blockedMappedResources u map ∧
            ((∃ m ∈ originalResourceMap, m.resolutionState = .localMatch ∧ m.localResource = r) ∨
              r ∈ additional.getD [])) ∨
          ∃ route ∈ map.routes, map.keeps route = true ∧ route.Offers r) := by
  unfold resourceSet
  simp only [List.mem_eraseDups, List.mem_append, List.mem_filter, List.mem_flatMap,
    mem_acceptedPaths, List.mem_map, List.mem_cons, Option.mem_toList, Option.mem_def, Option.map_eq_some_iff,
    RouteMapEntry.Offers, Bool.not_eq_true', List.contains_eq_mem, decide_eq_false_iff_not,
    beq_iff_eq]
  constructor
  · rintro ((⟨⟨⟨m, ⟨hm, hs⟩, rfl⟩, hc⟩, hb⟩ | ⟨⟨ha, hc⟩, hb⟩) | ⟨route, ⟨hm, hk⟩, ho, hc⟩)
    · exact ⟨hc, Or.inl ⟨hb, Or.inl ⟨m, hm, hs, rfl⟩⟩⟩
    · exact ⟨hc, Or.inl ⟨hb, Or.inr ha⟩⟩
    · refine ⟨hc, Or.inr ⟨route, hm, hk, ?_⟩⟩
      exact ho.imp Eq.symm id
  · rintro ⟨hc, ⟨hb, ⟨m, hm, hs, rfl⟩ | ha⟩ | ⟨route, hm, hk, ho⟩⟩
    · exact Or.inl (Or.inl ⟨⟨⟨m, ⟨hm, hs⟩, rfl⟩, hc⟩, hb⟩)
    · exact Or.inl (Or.inr ⟨⟨ha, hc⟩, hb⟩)
    · exact Or.inr ⟨route, ⟨hm, hk⟩, ho.imp Eq.symm id, hc⟩

/-! ### The decoder on local routes -/

/-- A character outside the escapes: the path decodes to itself at the first pass. -/
theorem decodeRoutePasses_of_not_mem {passes : ℕ} (hp : '%' ∉ q) (hb : '\\' ∉ q)
    (hd : (q.splitOn '/').any isDotSegment = false) :
    decodeRoutePasses (passes + 1) q = some q := by
  rw [decodeRoutePasses, decodeURIComponent_of_not_mem hp]
  simp [hb, hd]

/-- **A trailing slash stays.** -/
theorem decodeRoutePasses_slash {passes : ℕ}
    (h : decodeRoutePasses passes ('/' :: q ++ ['/']) = some r) : ∃ r', r = '/' :: r' ++ ['/'] := by
  induction passes generalizing q with
  | zero => exact ⟨q, (Option.some.inj h).symm⟩
  | succ passes ih =>
    rw [List.cons_append, decodeRoutePasses, decodeURIComponent_cons (by decide)] at h
    cases hn : decodeURIComponent (q ++ ['/']) with
    | none => simp [hn] at h
    | some next =>
      obtain ⟨next', rfl⟩ := decodeURIComponent_concat_slash hn
      simp only [hn, Option.map_some] at h
      split_ifs at h
      · exact ⟨q, (Option.some.inj h).symm⟩
      · exact ih h

theorem normalizedRoutePath_eq_some (h : normalizedRoutePath u q = some r) :
    r = q ∧ (q = ['/'] ∨ ∃ path, q = '/' :: path ∧ Canonical u path) := by
  unfold normalizedRoutePath at h
  split_ifs at h with hroot hsafe
  · exact ⟨hroot ▸ (Option.some.inj h).symm, Or.inl hroot⟩
  · obtain ⟨n, hn, rfl⟩ := Option.map_eq_some_iff.1 h
    rw [validate_accepted] at hn
    split_ifs at hn with hc
    obtain rfl := Option.some.inj hn
    cases q with
    | nil => simp at hsafe
    | cons c path =>
      obtain rfl : c = '/' := by
        by_contra hne
        simp [hne] at hsafe
      exact ⟨rfl, Or.inr ⟨path, rfl, hc⟩⟩

/-- **What the decoder accepts**: the root, or a canonical path after a slash. -/
theorem decodeRuntimePath_eq_some (h : decodeRuntimePath u q = some r) :
    r = ['/'] ∨ ∃ path, r = '/' :: path ∧ Canonical u path := by
  unfold decodeRuntimePath at h
  split_ifs at h
  obtain ⟨decoded, -, hn⟩ := Option.bind_eq_some_iff.1 h
  obtain ⟨rfl, hr⟩ := normalizedRoutePath_eq_some hn
  exact hr

theorem decodeRuntimePath_root : decodeRuntimePath u ['/'] = some ['/'] := by
  rw [decodeRuntimePath, decodeRoutePasses_of_not_mem (by decide) (by decide) (by decide)]
  rfl

/-- **A canonical path without an escape is decoded to itself.** -/
theorem decodeRuntimePath_plain {path : JsString} (hc : Canonical u path) (hp : '%' ∉ path) :
    decodeRuntimePath u ('/' :: path) = some ('/' :: path) := by
  have hb : '\\' ∉ '/' :: path := by simpa using hc.not_backslash
  have hdot : (('/' :: path).splitOn '/').any isDotSegment = false := by
    rw [List.splitOn_cons_eq_if_modifyHead, if_pos (by rfl), List.any_cons, Bool.or_eq_false_iff]
    refine ⟨by decide, List.any_eq_false.2 fun segment hs => ?_⟩
    rw [Bool.not_eq_true]
    exact (segmentProblem_eq_none.1 (hc.segments segment hs)).2.1
  have hcontrol : ('/' :: path).any isControl = false := by
    rw [List.any_eq_false]
    intro c hm
    rcases List.mem_cons.1 hm with rfl | hm
    · decide
    · rw [hc.not_control c hm]; decide
  rw [decodeRuntimePath, decodeRoutePasses_of_not_mem (by simpa using hp) hb hdot,
    if_neg (by simpa using hb), Option.bind_some, normalizedRoutePath, validate_accepted,
    List.tail_cons, if_pos hc]
  have hne : path ≠ [] := hc.ne_nil
  simp only [List.cons.injEq, true_and, hne, if_false, hcontrol, List.head?_cons]
  simpa using hb

/-- **A trailing slash is refused.** -/
theorem decodeRuntimePath_slash {path : JsString} :
    decodeRuntimePath u ('/' :: path ++ ['/']) = none := by
  by_contra hne
  obtain ⟨r, hr⟩ := Option.ne_none_iff_exists'.1 hne
  unfold decodeRuntimePath at hr
  split_ifs at hr
  obtain ⟨decoded, hd, hn⟩ := Option.bind_eq_some_iff.1 hr
  obtain ⟨r', rfl⟩ := decodeRoutePasses_slash hd
  obtain ⟨-, hroot | ⟨path', hpath, hc⟩⟩ := normalizedRoutePath_eq_some hn
  · simp at hroot
  · obtain rfl := (List.cons.inj hpath).2
    exact hc.not_concat_slash

end OfflineWebArchiver
