import OfflineWebArchiver.Base.JsOrder
import OfflineWebArchiver.Base.JsonText
import OfflineWebArchiver.Lib.Checks

/-!
# Network replay: requests, headers and identities

The rules of replay that need no store: how a request is named, which headers of a response
are kept, and what may be captured.

* `canonicalReplayRequestIdentity`: the name of a request. Its key is the canonical text of
  the other fields.
* `sanitizeReplayResponseHeaders`: the headers of a response that are stored and replayed.
* `classifyCaptureEligibility`: what is captured at all.
-/

namespace OfflineWebArchiver.Replay

/-- The own entries of a record of strings, in their order. -/
abbrev Headers := List (JsString × JsString)

/-- What replay reads from `new URL(value)`. `base` is the text before the query, without
user name and password. -/
structure ParsedUrl where
  protocol : JsString
  username : JsString
  password : JsString
  origin : JsString
  base : JsString
  /-- `searchParams.entries()` -/
  query : Headers
  deriving DecidableEq

/-- What replay takes from the platform. -/
structure ReplayEnv where
  unicode : Unicode
  /-- `new URL(value)`, or `none` where it throws. -/
  parseUrl : JsString → Option ParsedUrl
  /-- `search` after these parameters were appended to an empty one. -/
  searchText : Headers → JsString
  /-- `new TextDecoder().decode(bytes)`. -/
  decodeText : List UInt8 → JsString
  /-- `sha256(bytes)`, in hexadecimal. -/
  sha256 : List UInt8 → JsString

def SENSITIVE_HEADERS : List JsString :=
  ["authorization", "cookie", "proxy-authorization", "set-cookie", "x-api-key", "x-auth-token", "x-csrf-token",
    "x-forwarded-for"].map String.toList

def SELECTED_REPLAY_HEADERS : List JsString := ["accept", "accept-language", "content-type"].map String.toList

def DEFAULT_REPLAY_TRACKING_KEYS : List JsString :=
  ["fbclid", "gclid", "mc_cid", "mc_eid", "utm_campaign", "utm_content", "utm_medium", "utm_source",
    "utm_term"].map String.toList

/-- The words that `REPLAY_SENSITIVE_QUERY_KEYS` matches, in lower case. -/
def REPLAY_SENSITIVE_QUERY_KEYS : List JsString :=
  ["access_token", "access-token", "accesstoken", "api_key", "api-key", "apikey", "authorization", "auth", "code",
    "cookie", "credential", "csrf", "jwt", "otp", "pass", "password", "secret", "session", "token"].map String.toList

def SAFE_REPLAY_RESPONSE_HEADERS : List JsString :=
  ["cache-control", "content-language", "content-type", "etag", "expires", "last-modified", "vary",
    "access-control-allow-origin", "access-control-allow-credentials", "access-control-expose-headers",
    "location"].map String.toList

def UNSAFE_REPLAY_RESPONSE_HEADERS : List JsString :=
  ["connection", "content-encoding", "content-length", "keep-alive", "proxy-authenticate", "proxy-authorization",
    "set-cookie", "transfer-encoding"].map String.toList

/-- The pattern ignores the case of ASCII letters only. -/
def isSensitiveQueryKey (key : JsString) : Bool := REPLAY_SENSITIVE_QUERY_KEYS.contains (key.map Char.toLower)

/-! ### Records -/

/-- `record[name] = value`. -/
def setEntry (record : Headers) (name value : JsString) : Headers :=
  if record.any (·.1 == name) then record.map fun entry => if entry.1 == name then (name, value) else entry
  else record ++ [(name, value)]

/-- `Object.fromEntries(entries)`; no name here is an array index. -/
def fromEntries (entries : Headers) : Headers := entries.foldl (fun record entry => setEntry record entry.1 entry.2) []

/-- `record[name]`. -/
def entry? (record : Headers) (name : JsString) : Option JsString := (record.find? (·.1 == name)).map (·.2)

/-- `replayStableCompare(left, right) <= 0` on the names. -/
def nameNotAfter (left right : JsString × JsString) : Bool := !jsLt right.1 left.1

/-- The comparison of query parameters, as "not after": by key, then by value. -/
def parameterNotAfter (left right : JsString × JsString) : Bool :=
  jsLt left.1 right.1 || (left.1 == right.1 && !jsLt right.2 left.2)

/-! ### URLs -/

variable (env : ReplayEnv)

/-- `toString()` of a URL whose credentials and fragment are empty, with a new query. -/
def ReplayEnv.withQuery (url : ParsedUrl) (query : Headers) : JsString := url.base ++ env.searchText query

def isHttp (protocol : JsString) : Bool := protocol == "http:".toList || protocol == "https:".toList

/-- `normalizeReplayUrlInternal(value, ignoredKeys)`. -/
def normalizeReplayUrlInternal (value : JsString) (ignoredKeys : List JsString) : Except String JsString :=
  match env.parseUrl value with
  | none => .error "Invalid URL"
  | some url =>
    let ignored := DEFAULT_REPLAY_TRACKING_KEYS ++ ignoredKeys.map env.unicode.lower
    if !isHttp url.protocol then .error "Replay requests must use HTTP or HTTPS"
    else if url.username ≠ [] ∨ url.password ≠ [] then .error "Replay requests cannot contain credentials"
    else if url.query.any (isSensitiveQueryKey ·.1) then
      .error "Replay requests cannot contain sensitive query parameters"
    else
      .ok (env.withQuery url
        ((url.query.filter fun p => !ignored.contains (env.unicode.lower p.1)).mergeSort parameterNotAfter))

/-- `safeReplayUrl(url)`. -/
def safeReplayUrl (url : JsString) : JsString :=
  match env.parseUrl url with
  | none => "invalid-url".toList
  | some parsed =>
    utf16Take 2048 (env.withQuery parsed
      (parsed.query.map fun p => (p.1, if isSensitiveQueryKey p.1 then "[redacted]".toList else p.2)))

/-- `isRuntimeLocalRequest(url, runtimeOrigin)`. -/
def isRuntimeLocalRequest (url runtimeOrigin : JsString) : Bool :=
  match env.parseUrl url, env.parseUrl runtimeOrigin with
  | some requested, some expected =>
    expected.origin == runtimeOrigin && requested.origin == expected.origin && isHttp requested.protocol
  | _, _ => false

/-! ### Identities -/

/-- `ReplayRequestMethod`; the type leaves no other method to the check of the identity. -/
inductive ReplayRequestMethod
  | get | head
  deriving DecidableEq

def ReplayRequestMethod.text : ReplayRequestMethod → JsString
  | .get => "GET".toList
  | .head => "HEAD".toList

structure ReplayRequestIdentityInput where
  projectId : JsString
  runId : JsString
  projectRevisionId : JsString
  method : ReplayRequestMethod
  url : JsString
  headers : Headers := []
  /-- `queryPolicy?.ignoredKeys ?? []` -/
  ignoredKeys : List JsString := []
  deriving DecidableEq

structure ReplayRequestIdentity where
  projectId : JsString
  runId : JsString
  projectRevisionId : JsString
  method : ReplayRequestMethod
  normalizedUrl : JsString
  selectedHeaders : Headers
  deriving DecidableEq

/-- `replayScopeValue(value, label)`. -/
def replayScopeValue (value : JsString) (label : String) : Except String JsString :=
  if value = [] ∨ 256 < utf16Length value ∨ value.any isControl = true then .error (label ++ " is invalid") else .ok value

/-- `selectReplayMatchHeaders(headers)`. -/
def selectReplayMatchHeaders (headers : Headers) : Headers :=
  fromEntries (((headers.map fun h => (env.unicode.lower h.1, utf16Take 512 (jsTrim h.2))).filter fun h =>
    SELECTED_REPLAY_HEADERS.contains h.1 && !SENSITIVE_HEADERS.contains h.1 && h.2 != []).mergeSort nameNotAfter)

/-- `canonicalReplayRequestIdentity(input)`. -/
def canonicalReplayRequestIdentity (input : ReplayRequestIdentityInput) : Except String ReplayRequestIdentity := do
  let projectId ← replayScopeValue input.projectId "Project ID"
  let runId ← replayScopeValue input.runId "Run ID"
  let projectRevisionId ← replayScopeValue input.projectRevisionId "Project revision ID"
  let normalizedUrl ← normalizeReplayUrlInternal env input.url input.ignoredKeys
  return ⟨projectId, runId, projectRevisionId, input.method, normalizedUrl, selectReplayMatchHeaders env input.headers⟩

/-- `JSON.stringify` of a record of strings. -/
def recordText (record : Headers) : JsString :=
  JsonText.leftBrace :: ((List.intercalate [','] (record.map fun h => JsonText.quote h.1 ++ ':' :: JsonText.quote h.2)) ++
    [JsonText.rightBrace])

/-- `key`: `replayStableJson(basis)`, whose keys are in this order. -/
def ReplayRequestIdentity.key (i : ReplayRequestIdentity) : JsString :=
  let field (name : String) (value : JsString) : JsString := ',' :: JsonText.quote name.toList ++ ':' :: value
  JsonText.leftBrace :: "\"contractVersion\":1".toList ++ field "method" (JsonText.quote i.method.text) ++
    field "normalizedUrl" (JsonText.quote i.normalizedUrl) ++ field "projectId" (JsonText.quote i.projectId) ++
    field "projectRevisionId" (JsonText.quote i.projectRevisionId) ++ field "runId" (JsonText.quote i.runId) ++
    field "selectedHeaders" (recordText i.selectedHeaders) ++ [JsonText.rightBrace]

/-! ### Responses -/

/-- `rawValue.replace(/[\r\n\u0000]/g, " ").slice(0, 4_096).trim()`. -/
def cleanHeaderValue (value : JsString) : JsString :=
  jsTrim (utf16Take 4096 (value.map fun c => if c.toNat == 10 || c.toNat == 13 || c.toNat == 0 then ' ' else c))

/-- `sanitizeReplayResponseHeaders(headers)`, without `allowLocalRedirect`, which no caller gives. -/
def sanitizeReplayResponseHeaders (headers : Headers) : Headers :=
  fromEntries ((headers.foldl (fun result h =>
    let name := env.unicode.lower h.1
    let value := cleanHeaderValue h.2
    if !SAFE_REPLAY_RESPONSE_HEADERS.contains name || UNSAFE_REPLAY_RESPONSE_HEADERS.contains name then result
    else if value = [] then result
    else if name == "location".toList then result
    else setEntry result name value) []).mergeSort nameNotAfter)

/-- `isReplayableResponseStatus(status)` of an integer. -/
def isReplayableResponseStatus (status : ℤ) : Bool := 200 ≤ status && status ≤ 599

structure ReplayCapturePolicy where
  enabled : Bool
  /-- `allowedMethods.includes("GET")` -/
  allowsGet : Bool
  allowedResourceTypes : List JsString
  allowedContentTypePrefixes : List JsString
  maximumResponseBytes : ℤ
  rejectSensitiveResponseBodies : Bool
  deriving DecidableEq

inductive CaptureEligibility
  | capturable | ignored | sensitive | unsupported | sideEffectRisk
  deriving DecidableEq

/-- `contentType.split(";", 1)[0]!.trim().toLowerCase()`. -/
def mediaType (contentType : JsString) : JsString := env.unicode.lower (jsTrim (contentType.takeWhile (· != ';')))

/-- The eligibility and the reason code of `classifyCaptureEligibility(input)`. -/
def classifyCaptureEligibility (policy : ReplayCapturePolicy) (method resourceType contentType : JsString)
    (requestHeaders responseHeaders : Headers) : CaptureEligibility × String :=
  if !policy.enabled then (.ignored, "CAPTURE_DISABLED")
  else if method ≠ "GET".toList then
    (if ["POST", "PUT", "PATCH", "DELETE"].any (·.toList == method) then .sideEffectRisk else .unsupported,
      "METHOD_NOT_ELIGIBLE")
  else if !policy.allowsGet then (.ignored, "METHOD_NOT_ENABLED")
  else if (requestHeaders ++ responseHeaders).any (SENSITIVE_HEADERS.contains <| env.unicode.lower ·.1) then
    (.sensitive, "SENSITIVE_HEADER_PRESENT")
  else if !policy.allowedResourceTypes.contains resourceType then (.unsupported, "RESOURCE_TYPE_NOT_ELIGIBLE")
  else if mediaType env contentType = [] ∨
      (policy.allowedContentTypePrefixes.any (env.unicode.lower · |>.isPrefixOf (mediaType env contentType))) = false then
    (.ignored, "CONTENT_TYPE_NOT_ELIGIBLE")
  else (.capturable, "ELIGIBLE_GET_RESPONSE")

/-- `REPLAY_SENSITIVE_BODY_MARKERS` at the front of the text. -/
def markerAt (text : JsString) : Bool :=
  (match text with
    | '"' :: rest =>
      ["authorization", "cookie", "set-cookie", "password", "otp", "phone", "session_token", "session-token",
        "sessiontoken", "access_token", "access-token", "accesstoken", "api_key", "api-key", "apikey"].any fun word =>
        match matchWord word.toList rest with
        | some ('"' :: tail) => (tail.dropWhile isJsSpace).head? == some ':'
        | _ => false
    | _ => false) ||
  (match matchWord "bearer".toList text with
    | some rest =>
      let tail := rest.dropWhile isJsSpace
      tail.length < rest.length &&
        8 ≤ (tail.takeWhile fun c => c.isAlphanum || c == '.' || c == '_' || c == '-').length
    | none => false)

/-- `containsSensitiveReplayBody(body, contentType)`. -/
def containsSensitiveReplayBody (body : List UInt8) (contentType : JsString) : Bool :=
  ["application/json", "application/problem+json", "application/ld+json", "text/json"].any
      (fun prefixText => (matchWord prefixText.toList contentType).isSome) &&
    (env.decodeText (body.take 1048576)).tails.any markerAt

end OfflineWebArchiver.Replay
