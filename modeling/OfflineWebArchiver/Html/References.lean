import OfflineWebArchiver.Archive.Mapping
import OfflineWebArchiver.Base.JsOrder
import OfflineWebArchiver.Base.Utf16
import OfflineWebArchiver.Html.Tokenizer

/-!
# The mapping index

What the rewriter knows of the archive: the pages and the assets with their local places.

* `RewriteMappingIndex.create`: the constructor, with its checks.
* `lookup`, `hasLocalReference`: the two questions that the rewriter asks.
-/

namespace OfflineWebArchiver

open Checks

/-- What the rewriter throws: its own errors, or a `TypeError` of the runtime. -/
inductive RewriteThrown
  | operation (error : RewriteOperationError)
  | typeError
deriving DecidableEq

structure AssetResourceMappingInput where
  projectId : JsString
  runId : JsString
  projectRevisionId : JsString
  assetSourceId : JsString
  originalUrl : JsString
  normalizedUrl : JsString
  identityHash : JsString
  localResource : JsString
  localReference : Option JsString
  finalized : Bool
deriving DecidableEq

structure ArchivedAssetMapping where
  projectId : JsString
  runId : JsString
  projectRevisionId : JsString
  assetSourceId : JsString
  originalUrl : JsString
  normalizedUrl : JsString
  identityHash : JsString
  localResource : JsString
  localReference : JsString
deriving DecidableEq

inductive ArchivedMapping
  | page (mapping : ArchivedPageMapping)
  | asset (mapping : ArchivedAssetMapping)
deriving DecidableEq

namespace ArchivedMapping

def normalizedUrl : ArchivedMapping → JsString
  | page mapping => mapping.normalizedUrl
  | asset mapping => mapping.normalizedUrl

def localResource : ArchivedMapping → JsString
  | page mapping => mapping.localResource
  | asset mapping => mapping.localResource

/-- `localReferenceFor(mapping)`. -/
def localReferenceFor : ArchivedMapping → JsString
  | page mapping => mapping.localRoute
  | asset mapping => mapping.localReference

end ArchivedMapping

/-- A check of the rewriter itself. -/
def checked {α : Type} (x : Except RewriteOperationError α) : Except RewriteThrown α :=
  x.mapError .operation

variable (u : Unicode) (api : UrlApi)

/-- The base of `canonicalLocalReference` and `hasLocalReference`. -/
def offlineOrigin : JsString := "https://offline.invalid".toList

/-- `canonicalLocalReference(value)`. -/
def canonicalLocalReference (value : JsString) : Except RewriteThrown JsString := do
  checked (assertText value "The local reference" 2048)
  if value.head? ≠ some '/' || ['/', '/'].isPrefixOf value || value.contains '\\' then
    throw (.operation ⟨.pathUnsafe, "Local references must be root-relative and portable"⟩)
  else
    match api.resolve value offlineOrigin with
    | none => throw .typeError
    | some parsed =>
      if parsed.origin ≠ offlineOrigin || !parsed.username.isEmpty || !parsed.password.isEmpty then
        throw (.operation ⟨.pathUnsafe, "Local references cannot contain an origin or credentials"⟩)
      else if parsed.pathname = ['/'] then return value
      else
        let validation := validateCanonicalRelativePath u parsed.pathname.tail
        match validation.accepted with
        | none => throw (.operation ⟨.pathUnsafe, validation.message⟩)
        | some normalized => return '/' :: normalized ++ parsed.search ++ parsed.hash

/-- `archivedAssetMapping(input)`. -/
def archivedAssetMapping (input : AssetResourceMappingInput) :
    Except RewriteThrown (Option ArchivedAssetMapping) :=
  if !input.finalized then return none
  else do
    checked (assertHttpUrl api input.originalUrl "The Asset original URL")
    checked (assertHttpUrl api input.normalizedUrl "The Asset normalized URL")
    checked (assertText input.projectId "The project identifier" 128)
    checked (assertText input.runId "The run identifier" 128)
    checked (assertText input.projectRevisionId "The project revision identifier" 128)
    checked (assertText input.assetSourceId "The Asset source identifier" 128)
    checked (assertText input.identityHash "The Asset identity" 128)
    let localResource ← checked (canonicalResourcePath u input.localResource)
    let localReference ←
      match input.localReference with
      | none => pure ('/' :: localResource)
      | some reference => canonicalLocalReference u api reference
    return some { projectId := input.projectId, runId := input.runId,
                  projectRevisionId := input.projectRevisionId,
                  assetSourceId := input.assetSourceId, originalUrl := input.originalUrl,
                  normalizedUrl := input.normalizedUrl, identityHash := input.identityHash,
                  localResource, localReference }

structure MappingIndexEntry where
  mapping : ArchivedMapping
  lookupKey : JsString
deriving DecidableEq

/-- The index: its entries, the pages first, each with the key under which `byUrl` holds it. -/
structure RewriteMappingIndex where
  pages : List ArchivedPageMapping
  assets : List ArchivedAssetMapping
  normalizer : JsString → Option JsString
  entries : List MappingIndexEntry

/-- `mappingLookupKey(value, normalizer)`. -/
def mappingLookupKey (normalizer : JsString → Option JsString) (value : JsString) :
    Except RewriteThrown JsString :=
  match normalizer value with
  | none =>
    throw (.operation
      ⟨.urlInvalid, "A mapping URL cannot be normalized by the configured URL contract"⟩)
  | some key => return key

/-- `compare(url, url') || compare(id, id')` is at most 0. -/
def urlThenIdLe (url id url' id' : JsString) : Bool :=
  if jsLt url url' then true else if jsLt url' url then false else !jsLt id' id

/-- The constructor. -/
def RewriteMappingIndex.create (pages : List PageRouteMappingInput)
    (assets : List AssetResourceMappingInput) (normalizer : Option (JsString → Option JsString)) :
    Except RewriteThrown RewriteMappingIndex := do
  let normalizer := normalizer.getD (normalizeRewriteUrl api)
  let pages ← pages.mapM fun page => checked (archivedPageMapping u api page)
  let pages := pages.mergeSort fun left right =>
    urlThenIdLe left.normalizedUrl left.pageId right.normalizedUrl right.pageId
  let assets ← assets.mapM (archivedAssetMapping u api)
  let assets := (assets.filterMap id).mergeSort fun left right =>
    urlThenIdLe left.normalizedUrl left.assetSourceId right.normalizedUrl right.assetSourceId
  let entries ← (pages.map ArchivedMapping.page ++ assets.map ArchivedMapping.asset).mapM
    fun mapping => do
      let lookupKey ← mappingLookupKey normalizer mapping.normalizedUrl
      return (⟨mapping, lookupKey⟩ : MappingIndexEntry)
  return { pages, assets, normalizer, entries }

namespace RewriteMappingIndex

variable (index : RewriteMappingIndex)

/-- `this.localReferences`. -/
def localReferences : List JsString := index.entries.map fun entry => entry.mapping.localReferenceFor

/-- `lookup(url)`: the only mapping with this key. -/
def lookup (url : JsString) : Option ArchivedMapping :=
  match index.normalizer url with
  | none => none
  | some key =>
    match index.entries.filter fun entry => entry.lookupKey == key with
    | [entry] => some entry.mapping
    | _ => none

/-- `hasLocalReference(value)`. -/
def hasLocalReference (value : JsString) : Bool :=
  match api.resolve value offlineOrigin with
  | none => false
  | some parsed =>
    parsed.origin == offlineOrigin &&
      match canonicalLocalReference u api parsed.pathname with
      | .ok reference => index.localReferences.contains reference
      | .error _ => false

end RewriteMappingIndex

end OfflineWebArchiver

/-!
## References

What becomes of one reference of a page.

* `resolveRewriteReference`: the reference, resolved against the base.
* `processReference`: the local target of a reference, or the absolute URL.
* `parseSrcset`, `rewriteSrcset`: the same for the candidates of a `srcset`.
-/

namespace OfflineWebArchiver

open Checks

/-- `REWRITE_LIMITS`. -/
def maximumHtmlBytes : ℕ := 16 * 1024 * 1024
def maximumCssBytes : ℕ := 4 * 1024 * 1024
def maximumDependencyCount : ℕ := 10000

inductive RewriteResourceKind
  | page | asset | canonical | css | json | api | other
  -- a property that every object of the runtime has, where the rules name a kind
  | inherited
deriving DecidableEq

inductive DependencyClassification
  | localMatch | missingLocalResource | externalNotArchived | outOfScope | unsupportedScheme
  | blockedByPolicy | unresolved | futureNetworkReplayCandidate | preservedScheme
deriving DecidableEq

def DependencyClassification.text : DependencyClassification → String
  | localMatch => "local-match"
  | missingLocalResource => "missing-local-resource"
  | externalNotArchived => "external-not-archived"
  | outOfScope => "out-of-scope"
  | unsupportedScheme => "unsupported-scheme"
  | blockedByPolicy => "blocked-by-policy"
  | unresolved => "unresolved"
  | futureNetworkReplayCandidate => "future-network-replay-candidate"
  | preservedScheme => "preserved-scheme"

structure RewritePageInput where
  pageId : JsString
  projectId : JsString
  runId : JsString
  projectRevisionId : JsString
  pageIdentity : JsString
  originalUrl : JsString
  normalizedUrl : JsString
  localResource : JsString
deriving DecidableEq

structure ExternalDependency where
  dependencyId : Text
  sourcePageId : JsString
  sourcePageIdentity : JsString
  projectId : JsString
  runId : JsString
  projectRevisionId : JsString
  rawReference : Text
  resolvedUrl : Option Text
  normalizedUrl : Option Text
  element : Text
  attributeName : Text
  resourceKind : RewriteResourceKind
  classification : DependencyClassification
  policyReason : String
deriving DecidableEq

structure RewriteReferenceObservation where
  sourcePageId : JsString
  element : Text
  attributeName : Text
  rawReference : Text
  resolvedUrl : Option Text
  normalizedUrl : Option Text
  localResource : Option JsString
  -- `none` is `preserved`
  classification : Option DependencyClassification
  alreadyLocal : Bool
deriving DecidableEq

structure ResolvedReference where
  raw : Text
  trimmed : Text
  scheme : Option Text
  resolvedUrl : Option Text
  normalizedUrl : Option JsString
  fragment : Text
  search : Text
  isFragmentOnly : Bool
deriving DecidableEq

/-- What the rewriter takes from the runtime: the Unicode tables, the URL parser, `toLowerCase`,
and for the metadata a URL without its credentials and with other query parameters. -/
structure RewriteEnv where
  unicode : Unicode
  urls : UrlApi
  lower : Text → Text
  clearCredentials : Url → Url
  searchParams : Url → List (JsString × JsString)
  hrefWithParams : Url → List (JsString × JsString) → JsString

/-- `decodeHtmlEntities(value)`. -/
def decodeHtmlEntities (value : Text) : Text :=
  [("&amp;", "&"), ("&quot;", "\""), ("&#34;", "\""), ("&#x22;", "\""), ("&apos;", "'"),
    ("&#39;", "'"), ("&lt;", "<"), ("&gt;", ">")].foldl
      (fun value rule => replaceUnits (asciiUnits rule.1) (asciiUnits rule.2) 0 value) value

/-- `escapeAttributeValue(value)`. -/
def escapeAttributeValue (value : Text) : Text :=
  [("&", "&amp;"), ("\"", "&quot;"), ("<", "&lt;"), (">", "&gt;")].foldl
    (fun value rule => replaceUnits (asciiUnits rule.1) (asciiUnits rule.2) 0 value) value

example : escapeAttributeValue (asciiUnits "a\"&b") = asciiUnits "a&quot;&amp;b" := by
  decide

/-- The texts that `assertText(value, "The URL reference")` accepts. -/
def isReferenceText (value : Text) : Bool :=
  !value.isEmpty && decide (value.length ≤ maximumReferenceLength) && !value.any isControlUnit

def assertReferenceText (value : Text) : Except RewriteThrown Unit :=
  failIf (.operation ⟨.inputInvalid, "The URL reference is invalid"⟩) (isReferenceText value = false)

/-- `SCHEME_PATTERN.exec(value)?.[1]`. -/
def schemeMatch (value : Text) : Option Text :=
  match value with
  | [] => none
  | c :: rest =>
    let isLetter := (unit 'A' ≤ c && c ≤ unit 'Z') || (unit 'a' ≤ c && c ≤ unit 'z')
    let tail := rest.takeWhile fun d =>
      (isTagNameUnit d && d != unit ':') || d == unit '+' || d == unit '.'
    if isLetter && (rest.drop tail.length).head? == some (unit ':') then some (c :: tail) else none

def isHttpName (scheme : Text) : Bool := scheme == asciiUnits "http" || scheme == asciiUnits "https"

/-- `SENSITIVE_QUERY_KEY.test(key)`. -/
def isSensitiveMetadataKey (key : JsString) : Bool :=
  ["access_token", "access-token", "accesstoken", "api_key", "api-key", "apikey", "authorization",
    "auth", "code", "cookie", "credential", "csrf", "jwt", "otp", "pass", "password", "secret",
    "session", "token"].any fun word => key.map Char.toLower == word.toList

variable (env : RewriteEnv)

/-- `safeMetadataUrl(value)`. -/
def safeMetadataUrl (value : Option Text) : Option Text :=
  value.map fun value =>
    match env.urls.parse (scalarsOf value) with
    | none => value.take maximumReferenceLength
    | some url =>
      let url := if !url.username.isEmpty || !url.password.isEmpty then env.clearCredentials url
        else url
      let entries := (env.searchParams url).map fun (key, value) =>
        (key, if isSensitiveMetadataKey key then "[redacted]".toList else value)
      (unitsOf (env.hrefWithParams url entries)).take maximumReferenceLength

/-- `resolveRewriteReference(rawReference, baseUrl)` behind its check of the text. -/
def resolveReferenceText (raw : Text) (baseUrl : JsString) : ResolvedReference :=
  let trimmed := trimUnits (decodeHtmlEntities raw)
  let isFragment := trimmed.head? == some (unit '#')
  let scheme := (schemeMatch trimmed).map env.lower
  if trimmed.length = 0 || isFragment then
    { raw, trimmed, scheme := none, resolvedUrl := none, normalizedUrl := none,
      fragment := if isFragment then trimmed else [], search := [], isFragmentOnly := isFragment }
  else if trimmed.contains (unit '\\') then
    { raw, trimmed, scheme, resolvedUrl := none, normalizedUrl := none, fragment := [],
      search := [], isFragmentOnly := false }
  else if scheme.any fun scheme => !isHttpName scheme then
    { raw, trimmed, scheme, resolvedUrl := some trimmed, normalizedUrl := none, fragment := [],
      search := [], isFragmentOnly := false }
  else
    match env.urls.resolve (scalarsOf trimmed) baseUrl with
    | none =>
      { raw, trimmed, scheme, resolvedUrl := none, normalizedUrl := none, fragment := [],
        search := [], isFragmentOnly := false }
    | some resolved =>
      let httpOnly := isHttpScheme resolved.protocol && resolved.username.isEmpty &&
        resolved.password.isEmpty
      { raw, trimmed, scheme, resolvedUrl := some (unitsOf resolved.href),
        normalizedUrl := if httpOnly then normalizeRewriteUrl env.urls resolved.href else none,
        fragment := unitsOf resolved.hash, search := unitsOf resolved.search,
        isFragmentOnly := false }

/-- `resolveRewriteReference(rawReference, baseUrl)`. -/
def resolveRewriteReference (rawReference : Text) (baseUrl : JsString) :
    Except RewriteThrown ResolvedReference := do
  assertReferenceText rawReference
  return resolveReferenceText env rawReference baseUrl

/-- `classifyHttpDependency(sourcePage, resolved, kind)`. -/
def classifyHttpDependency (sourcePage : RewritePageInput) (resolved : ResolvedReference)
    (kind : RewriteResourceKind) : DependencyClassification :=
  match resolved.resolvedUrl, resolved.normalizedUrl with
  | some resolvedUrl, some _ =>
    if kind = .api ∨ kind = .json then .futureNetworkReplayCandidate
    else
      match env.urls.parse sourcePage.originalUrl, env.urls.parse (scalarsOf resolvedUrl) with
      | some source, some target =>
        if source.origin = target.origin then .missingLocalResource else .externalNotArchived
      | _, _ => .unresolved
  | _, _ => .unresolved

/-- `specialSchemeClassification(scheme)` for a scheme that is not `null`. -/
def specialSchemeClassification (scheme : Text) : DependencyClassification × String :=
  if scheme = asciiUnits "file" then
    (.blockedByPolicy, "file-scheme-never-enters-the-filesystem-boundary")
  else if scheme = asciiUnits "blob" then
    (.futureNetworkReplayCandidate,
      "blob-identity-is-runtime-scoped-and-no-fake-resource-is-created")
  else if ["mailto", "tel", "javascript", "data", "about"].any fun name =>
      scheme == asciiUnits name then
    (.preservedScheme, String.ofList (scalarsOf scheme) ++
      "-reference-preserved-without-fetch-or-execution")
  else (.unsupportedScheme, "scheme-is-not-an-archived-http-resource")

/-- `localTarget(mapping, resolved)`. -/
def localTarget (mapping : ArchivedMapping) (resolved : ResolvedReference) : Text :=
  match mapping with
  | .page mapping => unitsOf mapping.localRoute ++ resolved.search ++ resolved.fragment
  | .asset mapping => unitsOf mapping.localReference ++ resolved.fragment

/-- Where a reference stands. -/
structure ReferenceSite where
  sourcePage : RewritePageInput
  baseUrl : JsString
  element : Text
  attributeName : Text
  kind : RewriteResourceKind
deriving DecidableEq

/-- `dependency(input)` of a reference, with its identifier. -/
def dependency (site : ReferenceSite) (rawReference : Text) (resolvedUrl normalizedUrl : Option Text)
    (classification : DependencyClassification) (policyReason : String) : ExternalDependency :=
  let page := site.sourcePage
  { dependencyId := joinUnits (asciiUnits "|")
      [unitsOf page.pageId, site.element, site.attributeName, rawReference, normalizedUrl.getD [],
        asciiUnits classification.text],
    sourcePageId := page.pageId, sourcePageIdentity := page.pageIdentity,
    projectId := page.projectId, runId := page.runId, projectRevisionId := page.projectRevisionId,
    rawReference, resolvedUrl, normalizedUrl, element := site.element, attributeName := site.attributeName,
    resourceKind := site.kind, classification, policyReason }

/-- What `processReference` returns, with the dependencies that it pushes. -/
structure ProcessedReference where
  output : Text
  observation : RewriteReferenceObservation
  rewritten : Bool
  pushed : List ExternalDependency
deriving DecidableEq

/-- The reason that goes with the classification of a reference without a mapping. -/
def unmappedReason : DependencyClassification → String
  | .missingLocalResource => "same-origin-reference-has-no-finalized-local-mapping"
  | .externalNotArchived => "resolved-origin-has-no-finalized-local-mapping"
  | _ => "reference-could-not-be-mapped"

/-- `processReference(input)` once the reference is resolved. -/
def processResolved (mappings : RewriteMappingIndex) (site : ReferenceSite) (rawReference : Text)
    (resolved : ResolvedReference) : ProcessedReference :=
  let observe (resolvedUrl normalizedUrl : Option Text) (localResource : Option JsString)
      (classification : Option DependencyClassification) (alreadyLocal : Bool) :
      RewriteReferenceObservation :=
    { sourcePageId := site.sourcePage.pageId, element := site.element, attributeName := site.attributeName,
      rawReference, resolvedUrl, normalizedUrl, localResource, classification, alreadyLocal }
  let resolvedUrl := safeMetadataUrl env resolved.resolvedUrl
  let normalizedUrl := safeMetadataUrl env (resolved.normalizedUrl.map unitsOf)
  if resolved.isFragmentOnly then
    { output := rawReference, rewritten := false, observation := observe none none none none false,
      pushed := [] }
  else
    match resolved.scheme.filter fun scheme => !isHttpName scheme with
    | some scheme =>
      let (classification, reason) := specialSchemeClassification scheme
      { output := rawReference, rewritten := false,
        observation := observe resolved.resolvedUrl none none (some classification) false,
        pushed := [dependency site (rawReference.take maximumReferenceLength) resolvedUrl none
          classification reason] }
    | none =>
      match resolved.normalizedUrl.bind mappings.lookup with
      | some mapping =>
        { output := localTarget mapping resolved, rewritten := true,
          observation := observe resolvedUrl normalizedUrl (some mapping.localResource)
            (some .localMatch) false,
          pushed := [] }
      | none =>
        if mappings.hasLocalReference env.unicode env.urls (scalarsOf resolved.trimmed) then
          { output := rawReference, rewritten := false,
            observation := observe resolvedUrl normalizedUrl none (some .localMatch) true,
            pushed := [] }
        else
          let classification := classifyHttpDependency env site.sourcePage resolved site.kind
          let output := resolved.resolvedUrl.getD rawReference
          { output, rewritten := output != rawReference,
            observation := observe resolvedUrl normalizedUrl none (some classification) false,
            pushed := [dependency site (rawReference.take maximumReferenceLength) resolvedUrl
              normalizedUrl classification (unmappedReason classification)] }

/-- `processReference(input)`. -/
def processReference (mappings : RewriteMappingIndex) (site : ReferenceSite) (rawReference : Text) :
    Except RewriteThrown ProcessedReference := do
  let resolved ← resolveRewriteReference env rawReference site.baseUrl
  return processResolved env mappings site rawReference resolved

/-! ### Candidates -/

structure SrcsetCandidate where
  rawUrl : Text
  descriptors : Text
deriving DecidableEq

/-- The URL of a candidate, and the text behind it. -/
def srcsetUrl : Text → Text × Text
  | [] => ([], [])
  | c :: t =>
    if isQuote c then (t.takeWhile (· != c), (t.dropWhile (· != c)).drop 1)
    else ((c :: t).takeWhile (!isSpaceUnit ·), (c :: t).dropWhile (!isSpaceUnit ·))

/-- The rounds of `parseSrcset` on the text that is left. -/
def parseSrcsetFrom : ℕ → Text → List SrcsetCandidate
  | 0, _ => []
  | fuel + 1, value =>
    let value := value.dropWhile fun c => isSpaceUnit c || c == unit ','
    if value.isEmpty then []
    else
      let (rawUrl, rest) := srcsetUrl value
      let descriptors := trimUnits (rest.takeWhile (· != unit ','))
      let candidates := parseSrcsetFrom fuel ((rest.dropWhile (· != unit ',')).drop 1)
      if rawUrl.length > 0 then ⟨rawUrl, descriptors⟩ :: candidates else candidates

/-- `parseSrcset(value)`. A round takes one unit at least. -/
def parseSrcset (value : Text) : List SrcsetCandidate := parseSrcsetFrom value.length value

example : parseSrcset (asciiUnits "a.png, b.png 2x , 'c d' 3x") =
    [⟨asciiUnits "a.png,", asciiUnits "b.png 2x"⟩, ⟨asciiUnits "c d", asciiUnits "3x"⟩] := by
  decide

/-- `serializeSrcsetCandidate(value, outputUrl)`. -/
def serializeSrcsetCandidate (candidate : SrcsetCandidate) (outputUrl : Text) : Text :=
  if candidate.descriptors.length = 0 then outputUrl
  else outputUrl ++ asciiUnits " " ++ candidate.descriptors

/-- What `rewriteSrcset` returns, with the dependencies that it pushes. -/
structure RewrittenSrcset where
  output : Text
  observations : List RewriteReferenceObservation
  rewrittenCount : ℕ
  pushed : List ExternalDependency
deriving DecidableEq

/-- `rewriteSrcset(input)`. -/
def rewriteSrcset (mappings : RewriteMappingIndex) (site : ReferenceSite) (value : Text) :
    Except RewriteThrown RewrittenSrcset := do
  let candidates := parseSrcset value
  let processed ← candidates.mapM fun candidate =>
    processReference env mappings site candidate.rawUrl
  return { output := joinUnits (asciiUnits ", ") (List.zipWith
             (fun candidate processed => serializeSrcsetCandidate candidate processed.output)
             candidates processed),
           observations := processed.map (·.observation),
           rewrittenCount := processed.countP (·.rewritten),
           pushed := processed.flatMap (·.pushed) }

end OfflineWebArchiver
