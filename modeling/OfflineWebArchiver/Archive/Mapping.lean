import OfflineWebArchiver.Archive.PathSafety

/-!
# Page mappings

An archived page, as it is handed to the rewriter and to the Route Map, and the
checks it passes first.

* `archivedPageMapping`: the checks of one page.
* `archivedPageMapping_ok`: the local route, the resource and the identifiers of an
  accepted page stay as they were given, and the resource and the entry document
  are canonical paths.
-/

namespace OfflineWebArchiver

open Checks

/-- A parsed URL. -/
structure Url where
  href : JsString
  origin : JsString
  protocol : JsString
  username : JsString
  password : JsString
  pathname : JsString
  search : JsString
  hash : JsString
deriving DecidableEq

/-- The URL parser of the platform: `new URL(value)`, `new URL(value, base)`, and the
`href` of a URL whose `hash` was set to the empty string. -/
structure UrlApi where
  parse : JsString → Option Url
  resolve : JsString → JsString → Option Url
  hrefWithoutHash : Url → JsString

/-- `REWRITE_LIMITS`. -/
def maximumReferenceLength : ℕ := 8192
def maximumRouteCount : ℕ := 100000

inductive RewriteOperationErrorCode
  | inputInvalid | htmlTooLarge | cssTooLarge | urlInvalid | pathUnsafe | routeCollision
  | dependencyLimitExceeded
deriving DecidableEq

structure RewriteOperationError where
  code : RewriteOperationErrorCode
  message : String
deriving DecidableEq

inductive RouteType
  | root | extensionless | document | spa
deriving DecidableEq

/-- The entry document of a single-page application; its `mode` is always `entry-document`. -/
structure SpaFallbackMetadata where
  entryPageId : JsString
  entryRoute : JsString
  entryResource : JsString
deriving DecidableEq

structure PageRouteMappingInput where
  projectId : JsString
  runId : JsString
  projectRevisionId : JsString
  pageId : JsString
  originalUrl : JsString
  normalizedUrl : JsString
  identityHash : JsString
  localRoute : JsString
  localResource : JsString
  routeType : Option RouteType
  spaFallback : Option SpaFallbackMetadata
deriving DecidableEq

structure ArchivedPageMapping where
  projectId : JsString
  runId : JsString
  projectRevisionId : JsString
  pageId : JsString
  originalUrl : JsString
  normalizedUrl : JsString
  identityHash : JsString
  localRoute : JsString
  localResource : JsString
  routeType : RouteType
  spaFallback : Option SpaFallbackMetadata
deriving DecidableEq

/-- `assertText(value, label, maximum)`. -/
def assertText (value : JsString) (label : String) (maximum : ℕ) :
    Except RewriteOperationError Unit :=
  if value.isEmpty || utf16Length value > maximum || value.any isControl then
    .error ⟨.inputInvalid, label ++ " is invalid"⟩
  else .ok ()

/-- `HTTP_SCHEMES.has(protocol)`. -/
def isHttpScheme (protocol : JsString) : Bool :=
  protocol == ['h', 't', 't', 'p', ':'] || protocol == ['h', 't', 't', 'p', 's', ':']

variable (u : Unicode) (api : UrlApi)

/-- `assertHttpUrl(value, label)`. -/
def assertHttpUrl (value : JsString) (label : String) : Except RewriteOperationError Unit := do
  assertText value label 8192
  if value.contains '\\' then throw ⟨.urlInvalid, label ++ " contains a backslash"⟩
  match api.parse value with
  | none => throw ⟨.urlInvalid, label ++ " is not an absolute URL"⟩
  | some url =>
    if !isHttpScheme url.protocol || !url.username.isEmpty || !url.password.isEmpty then
      throw ⟨.urlInvalid, label ++ " must be credential-free HTTP(S)"⟩

/-- `normalizeRewriteUrl(value)`. -/
def normalizeRewriteUrl (value : JsString) : Option JsString := do
  let url ← api.parse value
  if !isHttpScheme url.protocol || !url.username.isEmpty || !url.password.isEmpty then none
  else some (api.hrefWithoutHash url)

/-- `canonicalLocalRoute(value)`. -/
def canonicalLocalRoute (value : JsString) : Except RewriteOperationError JsString := do
  assertText value "The local route" 2048
  if value = ['/'] then return value
  else if value.head? ≠ some '/' || ['/', '/'].isPrefixOf value || value.contains '\\' ||
      value.contains '?' || value.contains '#' then
    throw ⟨.pathUnsafe, "The local route must be a portable root-relative route"⟩
  else
    let trailingSlash := value.getLast? == some '/'
    let routePath := if trailingSlash then value.dropLast else value
    if routePath.isEmpty then return ['/']
    else
      let validation := validateCanonicalRelativePath u routePath.tail
      match validation.accepted with
      | none => throw ⟨.pathUnsafe, validation.message⟩
      | some normalized => return '/' :: normalized ++ (if trailingSlash then ['/'] else [])

/-- `canonicalResourcePath(value)`. -/
def canonicalResourcePath (value : JsString) : Except RewriteOperationError JsString := do
  assertText value "The local resource" 2048
  match canonicalRelativePath u value with
  | .ok normalized => return normalized
  | .error message => throw ⟨.pathUnsafe, message⟩

/-- `routeTypeFor(mapping)`. The URL has been parsed before, so the first case is not taken. -/
def routeTypeFor (mapping : PageRouteMappingInput) : RouteType :=
  match mapping.routeType with
  | some routeType => routeType
  | none =>
    match api.parse mapping.normalizedUrl with
    | none => .extensionless
    | some parsed =>
      if parsed.pathname = ['/'] then .root
      else
        let lastSegment := ((parsed.pathname.splitOn '/').filter (!·.isEmpty)).getLast?.getD []
        if lastSegment.contains '.' then .document else .extensionless

/-- `validateSpaFallback(value)`. -/
def validateSpaFallback (value : Option SpaFallbackMetadata) :
    Except RewriteOperationError (Option SpaFallbackMetadata) :=
  match value with
  | none => return none
  | some value => do
    assertText value.entryPageId "The SPA entry page identifier" 128
    let entryRoute ← canonicalLocalRoute u value.entryRoute
    let entryResource ← canonicalResourcePath u value.entryResource
    return some { entryPageId := value.entryPageId, entryRoute, entryResource }

/-- `archivedPageMapping(input)`. -/
def archivedPageMapping (input : PageRouteMappingInput) :
    Except RewriteOperationError ArchivedPageMapping := do
  assertHttpUrl api input.originalUrl "The page original URL"
  assertHttpUrl api input.normalizedUrl "The page normalized URL"
  assertText input.projectId "The project identifier" 128
  assertText input.runId "The run identifier" 128
  assertText input.projectRevisionId "The project revision identifier" 128
  assertText input.pageId "The page identifier" 128
  assertText input.identityHash "The page identity" 128
  let localRoute ← canonicalLocalRoute u input.localRoute
  let localResource ← canonicalResourcePath u input.localResource
  let spaFallback ← validateSpaFallback u input.spaFallback
  return { projectId := input.projectId, runId := input.runId,
           projectRevisionId := input.projectRevisionId, pageId := input.pageId,
           originalUrl := input.originalUrl, normalizedUrl := input.normalizedUrl,
           identityHash := input.identityHash, localRoute, localResource,
           routeType := routeTypeFor api input, spaFallback }

/-! ### What an accepted page is -/

/-- A route that `canonicalLocalRoute` accepts: the root, or a canonical path after a
slash, with or without a trailing slash. -/
inductive IsRoute : JsString → Prop
  | root : IsRoute ['/']
  | plain {path : JsString} (h : Canonical u path) : IsRoute ('/' :: path)
  | slash {path : JsString} (h : Canonical u path) : IsRoute ('/' :: path ++ ['/'])

variable {u api} {value r : JsString}

/-- **An accepted route is returned as it is.** -/
theorem canonicalLocalRoute_ok (h : canonicalLocalRoute u value = .ok r) : r = value ∧ IsRoute u r := by
  unfold canonicalLocalRoute at h
  obtain ⟨-, -, h⟩ := bind_ok.1 h
  by_cases hroot : value = ['/']
  · rw [if_pos hroot, pure_ok] at h
    subst h
    exact ⟨rfl, hroot ▸ .root⟩
  rw [if_neg hroot, guard_ok] at h
  obtain ⟨hsafe, h⟩ := h
  obtain ⟨rest, rfl⟩ : ∃ rest, value = '/' :: rest := by
    have hhead : value.head? = some '/' := by
      by_contra hn
      simp [hn] at hsafe
    cases value with
    | nil => cases hhead
    | cons c rest => exact ⟨rest, by rw [Option.some.inj hhead]⟩
  simp only [] at h
  by_cases hlast : ('/' :: rest).getLast? = some '/'
  · obtain ⟨path, rfl⟩ : ∃ path, rest = path ++ ['/'] := by
      rcases List.eq_nil_or_concat rest with rfl | ⟨path, c, rfl⟩
      · exact absurd rfl hroot
      · rw [List.concat_eq_append, ← List.cons_append, List.getLast?_concat] at hlast
        exact ⟨path, by rw [List.concat_eq_append, Option.some.inj hlast]⟩
    have hb : (('/' :: (path ++ ['/'])).getLast? == some '/') = true := by rw [hlast]; rfl
    have hdrop : ('/' :: (path ++ ['/'])).dropLast = '/' :: path := by
      rw [← List.cons_append, List.dropLast_concat]
    simp only [hb, hdrop, if_true, List.isEmpty_cons, Bool.false_eq_true, if_false, List.tail_cons,
      validate_accepted] at h
    by_cases hc : Canonical u path
    · simp only [if_pos hc, pure_ok] at h
      exact ⟨h.symm, h ▸ .slash hc⟩
    · simp [if_neg hc, throw_ok] at h
  · have hb : (('/' :: rest).getLast? == some '/') = false := by simpa using hlast
    simp only [hb, Bool.false_eq_true, if_false, List.isEmpty_cons, List.tail_cons,
      validate_accepted] at h
    by_cases hc : Canonical u rest
    · simp only [if_pos hc, pure_ok, List.append_nil] at h
      exact ⟨h.symm, h ▸ .plain hc⟩
    · simp [if_neg hc, throw_ok] at h

theorem canonicalResourcePath_ok (h : canonicalResourcePath u value = .ok r) :
    r = value ∧ Canonical u r := by
  unfold canonicalResourcePath at h
  obtain ⟨-, -, hr⟩ := bind_ok.1 h
  cases hn : canonicalRelativePath u value with
  | error e => simp only [hn] at hr; exact absurd hr throw_ok
  | ok n =>
    simp only [hn, pure_ok] at hr
    obtain ⟨hc, hv⟩ := canonicalRelativePath_ok.1 hn
    rw [← hr, hv]
    exact ⟨rfl, hc⟩

theorem validateSpaFallback_ok {fallback fallback' : Option SpaFallbackMetadata}
    (h : validateSpaFallback u fallback = .ok fallback') :
    fallback' = fallback ∧ ∀ s ∈ fallback', Canonical u s.entryResource := by
  cases fallback with
  | none => simp [validateSpaFallback, pure_ok] at h; simp [← h]
  | some s =>
    simp only [validateSpaFallback, bind_ok, pure_ok] at h
    obtain ⟨-, -, entryRoute, hr, entryResource, hs, rfl⟩ := h
    obtain ⟨rfl, -⟩ := canonicalLocalRoute_ok hr
    obtain ⟨rfl, hc⟩ := canonicalResourcePath_ok hs
    exact ⟨rfl, fun s hs => by rw [← Option.some.inj hs]; exact hc⟩

/-- The mapping of a page whose fields stay as they are. -/
def PageRouteMappingInput.mapping (api : UrlApi) (input : PageRouteMappingInput) :
    ArchivedPageMapping :=
  { projectId := input.projectId, runId := input.runId,
    projectRevisionId := input.projectRevisionId, pageId := input.pageId,
    originalUrl := input.originalUrl, normalizedUrl := input.normalizedUrl,
    identityHash := input.identityHash, localRoute := input.localRoute,
    localResource := input.localResource, routeType := routeTypeFor api input,
    spaFallback := input.spaFallback }

/-- The paths of a page are canonical. -/
structure PageRouteMappingInput.Safe (u : Unicode) (input : PageRouteMappingInput) : Prop where
  route : IsRoute u input.localRoute
  resource : Canonical u input.localResource
  entry : ∀ s ∈ input.spaFallback, Canonical u s.entryResource

/-- **An accepted page stays as it was given**, and its paths are canonical. -/
theorem archivedPageMapping_ok {input : PageRouteMappingInput} {m : ArchivedPageMapping}
    (h : archivedPageMapping u api input = .ok m) : m = input.mapping api ∧ input.Safe u := by
  simp only [archivedPageMapping, bind_ok, pure_ok] at h
  obtain ⟨-, -, -, -, -, -, -, -, -, -, -, -, -, -, localRoute, hr, localResource, hl,
    spaFallback, hs, rfl⟩ := h
  obtain ⟨rfl, hroute⟩ := canonicalLocalRoute_ok hr
  obtain ⟨rfl, hresource⟩ := canonicalResourcePath_ok hl
  obtain ⟨rfl, hentry⟩ := validateSpaFallback_ok hs
  exact ⟨rfl, hroute, hresource, hentry⟩

end OfflineWebArchiver
