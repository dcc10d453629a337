import OfflineWebArchiver.Base.Time
import OfflineWebArchiver.Replay.Network

/-!
# The interception of requests

`PlaywrightNetworkReplayAdapter`: the two ways in which a browser request reaches it, and the
capture of responses.

* `handleRoute`: a request that the page's route hands over.
* `handleCdpRequest`: a request that the browser session hands over.
* `captureResponse`: what a response gives to the sink of captures.
-/

namespace OfflineWebArchiver.Replay

structure ReplaySnapshotDescriptor where
  snapshotId : String
  identity : ReplayRequestIdentity
  originalUrl : JsString
  status : ℤ
  contentType : JsString
  responseHeaders : Headers
  bodySha256 : JsString
  bodyBytes : ℕ
  bodyRelativePath : JsString
  capturedAt : JsString
  pageId : Option JsString
  workerId : Option JsString
  deriving DecidableEq

inductive ReplayMissReason
  | noCapture | ambiguousMatch | revisionMismatch | methodNotSupported | blockedByPolicy | sensitiveRequest
  | unsupportedScheme | unsupportedProtocol | externalDependency | missingResponseBody | integrityFailure
  deriving DecidableEq

def ReplayMissReason.text : ReplayMissReason → JsString
  | .noCapture => "no-capture".toList
  | .ambiguousMatch => "ambiguous-match".toList
  | .revisionMismatch => "revision-mismatch".toList
  | .methodNotSupported => "method-not-supported".toList
  | .blockedByPolicy => "blocked-by-policy".toList
  | .sensitiveRequest => "sensitive-request".toList
  | .unsupportedScheme => "unsupported-scheme".toList
  | .unsupportedProtocol => "unsupported-protocol".toList
  | .externalDependency => "external-dependency".toList
  | .missingResponseBody => "missing-response-body".toList
  | .integrityFailure => "integrity-failure".toList

inductive ReplayLookupResult
  | matched (snapshot : ReplaySnapshotDescriptor)
  | miss (reason : ReplayMissReason)
  | ambiguous (candidates : List ReplaySnapshotDescriptor)
  | integrityFailure (snapshot : ReplaySnapshotDescriptor) (reason : String)
  deriving DecidableEq

/-- `lookup.state`. -/
def ReplayLookupResult.state : ReplayLookupResult → JsString
  | .matched _ => "match".toList
  | .miss _ => "miss".toList
  | .ambiguous _ => "ambiguous".toList
  | .integrityFailure _ _ => "integrity-failure".toList

/-- The event types that the adapter reports. -/
inductive ReplayEventType
  | replayMatch | externalNetworkLeakage | runtimeLocalAllow | mutationBlocked
  deriving DecidableEq

structure ReplayRuntimeEvent where
  eventType : ReplayEventType
  projectId : JsString
  runId : JsString
  projectRevisionId : JsString
  method : JsString
  safeUrl : JsString
  normalizedIdentity : Option JsString
  resourceType : JsString
  initiatingPage : Option JsString
  reason : JsString
  matchState : JsString
  strictOffline : Bool
  occurredAt : Timestamp
  deriving DecidableEq

/-- What replay reads of an `ExternalDependency`; `url` is `normalizedUrl ?? resolvedUrl`. -/
structure ExternalDependency where
  url : Option JsString
  classification : JsString
  deriving DecidableEq

/-- `NetworkReplayPolicy`, without its callbacks. -/
structure NetworkReplayPolicy where
  projectId : JsString
  runId : JsString
  projectRevisionId : JsString
  runtimeOrigin : JsString
  strictOffline : Bool
  externalDependencyMap : Option (List ExternalDependency) := none
  deriving DecidableEq

/-- A request of the browser. -/
structure BrowserRequest where
  method : JsString
  url : JsString
  headers : Headers
  resourceType : JsString
  deriving DecidableEq

/-- What a request is answered with. For the browser session the body is sent as base64. -/
structure Fulfilment where
  status : ℤ
  headers : Headers
  body : List UInt8
  deriving DecidableEq

/-- How the ports answer: `none` where the call throws or rejects. -/
structure ReplayPorts where
  lookup : ReplayRequestIdentityInput → Option ReplayLookupResult
  readBody : ReplaySnapshotDescriptor → Option (List UInt8)
  /-- `route.fulfill` and `Fetch.fulfillRequest` do not reject. -/
  fulfils : Fulfilment → Bool

/-- What one handler sees of the outside besides the ports. -/
structure Listener where
  /-- `onEvent(event)` throws before it returns. A promise that rejects is not seen. -/
  throws : ReplayRuntimeEvent → Bool
  /-- `pageUrl(request)`. -/
  initiatingPage : Option JsString
  /-- The time of the first event, of the second one, … -/
  now : ℕ → Timestamp

/-- What a handler does, in order. -/
inductive Action
  | event (e : ReplayRuntimeEvent)
  | lookup (input : ReplayRequestIdentityInput)
  | fulfil (f : Fulfilment)
  | abort
  | continue
  deriving DecidableEq

variable (env : ReplayEnv) (policy : NetworkReplayPolicy) (ports : ReplayPorts) (listener : Listener)
  (request : BrowserRequest)

/-- `/sensitive/i.test(message)`. -/
def mentionsSensitive (message : String) : Bool :=
  message.toList.tails.any fun text => (matchWord "sensitive".toList text).isSome

/-- The scope of the policy with the request, as both handlers and the events build it. -/
def identityInput (method : ReplayRequestMethod) : ReplayRequestIdentityInput where
  projectId := policy.projectId
  runId := policy.runId
  projectRevisionId := policy.projectRevisionId
  method := method
  url := request.url
  headers := request.headers

/-- `eventValues(…)`, where the page of the CDP handler is `null`. -/
def eventValues (initiatingPage : Option JsString) (reason matchState : JsString) (eventType : ReplayEventType)
    (occurredAt : Timestamp) : ReplayRuntimeEvent where
  eventType := eventType
  projectId := policy.projectId
  runId := policy.runId
  projectRevisionId := policy.projectRevisionId
  method := utf16Take 16 request.method
  safeUrl := safeReplayUrl env request.url
  normalizedIdentity :=
    if request.method = "GET".toList then
      (canonicalReplayRequestIdentity env (identityInput policy request .get)).toOption.map (·.key)
    else if request.method = "HEAD".toList then
      (canonicalReplayRequestIdentity env (identityInput policy request .head)).toOption.map (·.key)
    else none
  resourceType := utf16Take 80 request.resourceType
  initiatingPage := initiatingPage
  reason := utf16Take 160 reason
  matchState := utf16Take 80 matchState
  strictOffline := policy.strictOffline
  occurredAt := occurredAt

/-- `classifyReplayExternalDependency(url, map)`. -/
def classifyReplayExternalDependency (url : JsString) (map : Option (List ExternalDependency)) : Option JsString :=
  match map, normalizeReplayUrlInternal env url [] with
  | some dependencies, .ok normalizedUrl =>
    (dependencies.find? fun d => match d.url with
      | some value => (normalizeReplayUrlInternal env value []).toOption == some normalizedUrl
      | none => false).map (·.classification)
  | _, _ => none

/-- `replayMissReason(policy, url, fallback)`. -/
def replayMissReason (fallback : JsString) : JsString :=
  match classifyReplayExternalDependency env request.url policy.externalDependencyMap with
  | none => fallback
  | some classification => "external-dependency:".toList ++ classification

/-- `classifyReplayMiss(lookup)`. -/
def classifyReplayMiss : ReplayLookupResult → ReplayMissReason
  | .miss reason => reason
  | .ambiguous _ => .ambiguousMatch
  | .integrityFailure _ _ => .integrityFailure
  | .matched _ => .noCapture

/-- The `reason` of a lookup without a match. -/
def lookupReason (lookup : ReplayLookupResult) : JsString :=
  match lookup with
  | .ambiguous _ => "ambiguous-match".toList
  | .integrityFailure _ _ => "integrity-failure".toList
  | _ => replayMissReason env policy request (classifyReplayMiss lookup).text

/-- `await this.emit(event)` and what follows it, unless `onEvent` throws: then the handler's
promise rejects, which is `none`. -/
def emitThen {α : Type} (event : ReplayRuntimeEvent) (rest : Option α × List Action) : Option α × List Action :=
  if listener.throws event then (none, [.event event]) else (rest.1, .event event :: rest.2)

/-! ### The route handler -/

inductive PlaywrightReplayRouteOutcome
  | fulfilled | continued | aborted
  deriving DecidableEq

/-- `eventBase(policy, request, reason, matchState, eventType)` as the `n`-th event. -/
def routeEvent (n : ℕ) (reason matchState : JsString) (eventType : ReplayEventType) : ReplayRuntimeEvent :=
  eventValues env policy request listener.initiatingPage reason matchState eventType (listener.now n)

/-- The `catch` of a match. -/
def routeFailure (n : ℕ) : Option PlaywrightReplayRouteOutcome × List Action :=
  emitThen listener
    (routeEvent env policy listener request n "integrity-failure".toList "integrity-failure".toList
      .externalNetworkLeakage)
    (some .aborted, [.abort])

def routeMatch (snapshot : ReplaySnapshotDescriptor) : Option PlaywrightReplayRouteOutcome × List Action :=
  if !isReplayableResponseStatus snapshot.status then routeFailure env policy listener request 0
  else
    match ports.readBody snapshot with
    | none => routeFailure env policy listener request 0
    | some body =>
      let headers := snapshot.responseHeaders
      if 300 ≤ snapshot.status ∧ snapshot.status < 400 ∧ entry? headers "location".toList = none then
        routeFailure env policy listener request 0
      else
        let f : Fulfilment := ⟨snapshot.status, headers, if request.method = "HEAD".toList then [] else body⟩
        if ports.fulfils f then
          let event := routeEvent env policy listener request 0 "REPLAY_MATCH".toList "match".toList .replayMatch
          if listener.throws event then
            let rest := routeFailure env policy listener request 1
            (rest.1, .fulfil f :: .event event :: rest.2)
          else (some .fulfilled, [.fulfil f, .event event])
        else
          let rest := routeFailure env policy listener request 0
          (rest.1, .fulfil f :: rest.2)

/-- `handleRoute(route)`. -/
def handleRoute : Option PlaywrightReplayRouteOutcome × List Action :=
  let method := request.method
  if method ≠ "GET".toList ∧ method ≠ "HEAD".toList then
    emitThen listener (routeEvent env policy listener request 0 "METHOD_NOT_SUPPORTED".toList "blocked".toList
      .mutationBlocked) (some .aborted, [.abort])
  else if isRuntimeLocalRequest env request.url policy.runtimeOrigin then
    emitThen listener (routeEvent env policy listener request 0 "RUNTIME_LOCAL_ORIGIN".toList "local".toList
      .runtimeLocalAllow) (some .continued, [.continue])
  else
    let replayMethod : ReplayRequestMethod := if method = "HEAD".toList then .head else .get
    let input := identityInput policy request replayMethod
    match canonicalReplayRequestIdentity env input with
    | .error message =>
      let reason := if mentionsSensitive message then "sensitive-request".toList else "unsupported-protocol".toList
      emitThen listener (routeEvent env policy listener request 0 reason "invalid".toList .externalNetworkLeakage)
        (some .aborted, [.abort])
    | .ok _ =>
      let lookup := (ports.lookup input).getD (.miss .integrityFailure)
      let rest := match lookup with
        | .matched snapshot => routeMatch env policy ports listener request snapshot
        | _ =>
          emitThen listener
            (routeEvent env policy listener request 0 (lookupReason env policy request lookup) lookup.state
              .externalNetworkLeakage)
            (if policy.strictOffline then (some .aborted, [.abort]) else (some .continued, [.continue]))
      (rest.1, .lookup input :: rest.2)

/-! ### The handler of the browser session -/

inductive PlaywrightReplayCdpOutcome
  | fulfilled | aborted | defer
  deriving DecidableEq

/-- `eventValues(…)` with the page `null`, as the `n`-th event. -/
def cdpEvent (n : ℕ) (reason matchState : JsString) (eventType : ReplayEventType) : ReplayRuntimeEvent :=
  eventValues env policy request none reason matchState eventType (listener.now n)

/-- The `catch` of a match. -/
def cdpFailure (n : ℕ) : Option PlaywrightReplayCdpOutcome × List Action :=
  emitThen listener
    (cdpEvent env policy listener request n "integrity-failure".toList "integrity-failure".toList
      .externalNetworkLeakage)
    (some .aborted, [.abort])

def cdpMatch (snapshot : ReplaySnapshotDescriptor) : Option PlaywrightReplayCdpOutcome × List Action :=
  if !isReplayableResponseStatus snapshot.status then cdpFailure env policy listener request 0
  else
    match ports.readBody snapshot with
    | none => cdpFailure env policy listener request 0
    | some body =>
      if 300 ≤ snapshot.status ∧ snapshot.status < 400 ∧ entry? snapshot.responseHeaders "location".toList = none then
        cdpFailure env policy listener request 0
      else
        let f : Fulfilment :=
          ⟨snapshot.status, snapshot.responseHeaders, if request.method = "HEAD".toList then [] else body⟩
        if ports.fulfils f then
          let event := cdpEvent env policy listener request 0 "REPLAY_MATCH".toList "match".toList .replayMatch
          if listener.throws event then
            let rest := cdpFailure env policy listener request 1
            (rest.1, .fulfil f :: .event event :: rest.2)
          else (some .fulfilled, [.fulfil f, .event event])
        else
          let rest := cdpFailure env policy listener request 0
          (rest.1, .fulfil f :: rest.2)

/-- `handleCdpRequest(input)`. -/
def handleCdpRequest : Option PlaywrightReplayCdpOutcome × List Action :=
  if request.method ≠ "GET".toList ∧ request.method ≠ "HEAD".toList then
    emitThen listener (cdpEvent env policy listener request 0 "METHOD_NOT_SUPPORTED".toList "blocked".toList
      .mutationBlocked) (some .aborted, [.abort])
  else if isRuntimeLocalRequest env request.url policy.runtimeOrigin then
    emitThen listener (cdpEvent env policy listener request 0 "RUNTIME_LOCAL_ORIGIN".toList "local".toList
      .runtimeLocalAllow) (some .defer, [])
  else
    let replayMethod : ReplayRequestMethod := if request.method = "HEAD".toList then .head else .get
    let input := identityInput policy request replayMethod
    match canonicalReplayRequestIdentity env input with
    | .error message =>
      let reason := if mentionsSensitive message then "sensitive-request".toList else "unsupported-protocol".toList
      emitThen listener (cdpEvent env policy listener request 0 reason "invalid".toList .externalNetworkLeakage)
        (some .aborted, [.abort])
    | .ok _ =>
      let lookup := (ports.lookup input).getD (.miss .integrityFailure)
      let rest := match lookup with
        | .matched snapshot => cdpMatch env policy ports listener request snapshot
        | _ =>
          emitThen listener
            (cdpEvent env policy listener request 0 (lookupReason env policy request lookup) lookup.state
              .externalNetworkLeakage)
            (if policy.strictOffline then (some .aborted, [.abort]) else (some .defer, []))
      (rest.1, .lookup input :: rest.2)

/-! ### The capture -/

/-- `policy.capture`, without the sink. -/
structure CapturePolicy where
  policy : ReplayCapturePolicy
  capturedAt : JsString
  pageId : Option JsString := none
  workerId : Option JsString := none
  /-- `queryPolicy?.ignoredKeys ?? []` -/
  ignoredKeys : List JsString := []
  deriving DecidableEq

/-- A response of the browser; the body is `none` where it cannot be read. -/
structure BrowserResponse where
  status : ℤ
  headers : Headers
  body : Option (List UInt8)
  deriving DecidableEq

structure ReplayCaptureInput where
  projectId : JsString
  runId : JsString
  projectRevisionId : JsString
  originalUrl : JsString
  method : JsString
  url : JsString
  requestHeaders : Headers
  status : ℤ
  responseHeaders : Headers
  contentType : JsString
  body : List UInt8
  capturedAt : JsString
  pageId : Option JsString
  workerId : Option JsString
  ignoredKeys : List JsString
  deriving DecidableEq

/-- `captureResponse(response)`: what the sink is given, or `none`. -/
def captureResponse (capture : CapturePolicy) (response : BrowserResponse) : Option ReplayCaptureInput :=
  let contentType := ( entry? response.headers "content-type".toList).getD []
  let eligibility := classifyCaptureEligibility env capture.policy request.method request.resourceType contentType
    request.headers response.headers
  if eligibility.1 ≠ .capturable then none
  else
    match response.body with
    | none => none
    | some body =>
      if capture.policy.maximumResponseBytes < body.length ∨ 8 * 1024 * 1024 < body.length then none
      else if capture.policy.rejectSensitiveResponseBodies && containsSensitiveReplayBody env body contentType then none
      else
        some
          { projectId := policy.projectId
            runId := policy.runId
            projectRevisionId := policy.projectRevisionId
            originalUrl := request.url
            method := request.method
            url := request.url
            requestHeaders := request.headers
            status := response.status
            responseHeaders := response.headers
            contentType := contentType
            body := body
            capturedAt := capture.capturedAt
            pageId := capture.pageId
            workerId := capture.workerId
            ignoredKeys := capture.ignoredKeys }

end OfflineWebArchiver.Replay
