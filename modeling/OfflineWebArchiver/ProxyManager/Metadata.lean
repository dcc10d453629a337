import OfflineWebArchiver.ProxyManager.Values

/-!
# Proxy metadata and its health

The record of a proxy, and what a health check makes of it.

* `createProxyMetadata`, `assertProxyMetadata`: a new record, and the check of a record.
* `recordProxyHealthCheck`, `expireProxyCooldown`: the transitions.
* `getProxyEligibility`: whether a job may use the proxy.
-/

namespace OfflineWebArchiver.ProxyManager

inductive ProxyHealthState
  | healthy | degraded | cooldown | disabled
deriving DecidableEq

structure ProxyMetadata where
  id : Text
  label : Option Text
  protocol : ProxyProtocol
  host : Text
  port : ℤ
  bypass : List Text
  credentialRef : Option Text
  weight : ℤ
  priority : ℤ
  maxConcurrency : ℤ
  enabled : Bool
  healthState : ProxyHealthState
  lastHealthCheckAt : Option Timestamp
  lastSuccessAt : Option Timestamp
  lastFailureAt : Option Timestamp
  latencyMs : Option ℤ
  successCount : ℤ
  failureCount : ℤ
  consecutiveFailureCount : ℤ
  successRate : ℚ
  cooldownUntil : Option Timestamp
  lastErrorCode : Option Text
  lastErrorSummary : Option Text
  createdAt : Timestamp
  updatedAt : Timestamp
  revision : ℤ
deriving DecidableEq

/-- What a call of the proxy manager throws: its own error, or the one of `parseSecretRef`. -/
inductive ProxyThrow
  | operation (e : ProxyOperationError)
  | secret (e : SecretError)
deriving DecidableEq

/-- A check that throws a `ProxyOperationError`. -/
def operation {α : Type} : Except ProxyOperationError α → Except ProxyThrow α
  | .ok a => .ok a
  | .error e => .error (.operation e)

/-! ### Timestamps -/

/-- `SAFE_TIMESTAMP_PATTERN` without milliseconds. -/
def matchesSecondsPattern (value : Timestamp) : Bool :=
  value.toList.length == 20 &&
    (value.toList.zip "dddd-dd-ddTdd:dd:ddZ".toList).all fun (c, p) => if p == 'd' then c.isDigit else c == p

/-- `Date.parse(value)` of a text that matches `SAFE_TIMESTAMP_PATTERN`; `none` for any other text. -/
def parseSafeTimestamp (value : Timestamp) : Option ℤ :=
  if matchesUtcPattern value then dateParse value
  else if matchesSecondsPattern value then dateParse (String.ofList (value.toList.dropLast ++ ".000Z".toList))
  else none

def assertTimestamp (value : Timestamp) (label : String) : Except ProxyOperationError Unit :=
  Checks.failIf (invalid (label ++ " is invalid")) (parseSafeTimestamp value = none)

/-- `assertTimestamp` where the value is not `null`. -/
def assertOptionalTimestamp (value : Option Timestamp) (label : String) : Except ProxyOperationError Unit :=
  match value with
  | none => .ok ()
  | some value => assertTimestamp value label

/-- `addMilliseconds(timestamp, milliseconds)`. -/
def addMilliseconds (timestamp : Timestamp) (milliseconds : ℤ) : Except ProxyOperationError Timestamp :=
  match parseSafeTimestamp timestamp with
  | some value => .ok (toISOString (value + milliseconds))
  | none => .error (invalid "The Proxy timestamp is invalid")

/-! ### Records -/

variable (env : ProxyEnv)

/-- `createProxyMetadata({ ...draftInput, now })`. -/
def createProxyMetadata (draftInput : List (Text × JsValue)) (now : Timestamp) :
    Except ProxyOperationError ProxyMetadata := do
  let draft ← normalizeProxyDraft env (some (.object draftInput)) true
  assertTimestamp now "The Proxy timestamp"
  return {
    id := draft.id.getD []
    label := draft.label
    protocol := draft.protocol
    host := draft.host
    port := draft.port
    bypass := draft.bypass
    credentialRef := draft.credentialRef
    weight := draft.weight
    priority := draft.priority
    maxConcurrency := draft.maxConcurrency
    enabled := draft.enabled
    healthState := if draft.enabled = false then .disabled else .degraded
    lastHealthCheckAt := none
    lastSuccessAt := none
    lastFailureAt := none
    latencyMs := none
    successCount := 0
    failureCount := 0
    consecutiveFailureCount := 0
    successRate := 0
    cooldownUntil := none
    lastErrorCode := none
    lastErrorSummary := none
    createdAt := now
    updatedAt := now
    revision := 1 }

/-- The value of an optional text. -/
def optionalText (t : Option Text) : JsValue := (t.map JsValue.text).getD .null

/-- The value of an integer. -/
def integerValue (n : ℤ) : JsValue := .number (some n)

/-- The part of `assertProxyMetadata` that repeats the checks of a configuration. -/
def assertProxyConfiguration (proxy : ProxyMetadata) : Except ProxyOperationError Unit := do
  let _ ← normalizeProxyId (some (.text proxy.id))
  let _ ← normalizeProxyProtocol env (some (.text proxy.protocol.text))
  let _ ← normalizeProxyHost env (some (.text proxy.host))
  let _ ← normalizeProxyPort (integerValue proxy.port)
  let _ ← normalizeLabel (optionalText proxy.label)
  let _ ← normalizeBypass env (some (.array (proxy.bypass.map .text)))
  let _ ← normalizeBoundedInteger (integerValue proxy.weight) "The Proxy weight" 1 1000 1
  let _ ← normalizeBoundedInteger (integerValue proxy.priority) "The Proxy priority" 0 1000 0
  let _ ← normalizeBoundedInteger (integerValue proxy.maxConcurrency) "The Proxy maximum concurrency" 1 1000 1

/-- The part of `assertProxyMetadata` behind the credential reference. -/
def assertProxyHealth (proxy : ProxyMetadata) : Except ProxyOperationError Unit := do
  Checks.failIf (invalid "A disabled Proxy must use the disabled health state")
    (proxy.enabled = false ∧ proxy.healthState ≠ .disabled)
  Checks.failIf (invalid "An enabled Proxy cannot use the disabled health state")
    (proxy.enabled = true ∧ proxy.healthState = .disabled)
  assertOptionalTimestamp proxy.lastHealthCheckAt "The Proxy last health check timestamp"
  assertOptionalTimestamp proxy.lastSuccessAt "The Proxy last success timestamp"
  assertOptionalTimestamp proxy.lastFailureAt "The Proxy last failure timestamp"
  assertOptionalTimestamp proxy.cooldownUntil "The Proxy cooldown timestamp"
  Checks.failIf (invalid "The Proxy latency is invalid") (∃ ms ∈ proxy.latencyMs, ms < 0 ∨ 86400000 < ms)
  Checks.failIf (invalid "The Proxy success count is invalid") (proxy.successCount < 0)
  Checks.failIf (invalid "The Proxy failure count is invalid") (proxy.failureCount < 0)
  Checks.failIf (invalid "The Proxy consecutive failure count is invalid") (proxy.consecutiveFailureCount < 0)
  Checks.failIf (invalid "The Proxy revision is invalid") (proxy.revision < 1)
  Checks.failIf (invalid "The Proxy success rate is invalid") (proxy.successRate < 0 ∨ 1 < proxy.successRate)
  assertTimestamp proxy.createdAt "The Proxy creation time"
  assertTimestamp proxy.updatedAt "The Proxy update time"

def assertProxyMetadata (proxy : ProxyMetadata) : Except ProxyThrow Unit := do
  operation (assertProxyConfiguration env proxy)
  match proxy.credentialRef with
  | none => pure ()
  | some ref =>
    match parseSecretRef (scalarsOf ref) with
    | .ok _ => pure ()
    | .error e => .error (.secret e)
  operation (assertProxyHealth proxy)

/-! ### Error reports -/

/-- Replace every match of `m`, from the left. `m` returns the replacement and the length of the
match; the counter skips the rest of a match. -/
def replaceMatches (m : Text → Option (Text × ℕ)) : ℕ → Text → Text
  | _, [] => []
  | k + 1, _ :: t => replaceMatches m k t
  | 0, c :: t =>
    match m (c :: t) with
    | some (replacement, n) => replacement ++ replaceMatches m (n - 1) t
    | none => c :: replaceMatches m 0 t

/-- `/\/\/[^\s/@]+:[^\s/@]+@/` with its replacement. -/
def matchUserInfo (t : Text) : Option (Text × ℕ) :=
  if (asciiUnits "//").isPrefixOf t then
    let run := (t.drop 2).takeWhile fun c => !(isSpaceUnit c || c == unit '/' || c == unit '@')
    if (t.drop (2 + run.length)).head? = some (unit '@') ∧ unit ':' ∈ run.tail.dropLast then
      some (asciiUnits "//", 2 + run.length + 1)
    else none
  else none

def secretWords : List String :=
  ["password", "passwd", "passphrase", "secret", "token", "authorization", "proxy-authorization", "username"]

/-- `/(?:password|…|username)\s*[:=]\s*[^\s,;]+/i` with its replacement: the pattern has no group,
so `$1` stays as it is. -/
def matchSecretWord (t : Text) : Option (Text × ℕ) :=
  secretWords.findSome? fun word =>
    if (asciiUnits word).isPrefixOf (t.map lowerUnit) then
      match (t.drop word.length).dropWhile isSpaceUnit with
      | sep :: rest =>
        let rest := rest.dropWhile isSpaceUnit
        let value := rest.takeWhile fun c => !(isSpaceUnit c || c == unit ',' || c == unit ';')
        if (sep = unit ':' ∨ sep = unit '=') ∧ value ≠ [] then
          some (asciiUnits "$1=[redacted]", t.length - rest.length + value.length)
        else none
      | [] => none
    else none

/-- `/[\r\n\t]+/` with its replacement. -/
def matchLineBreaks (t : Text) : Option (Text × ℕ) :=
  match t.takeWhile fun c => c == unit '\r' || c == unit '\n' || c == unit '\t' with
  | [] => none
  | run => some (asciiUnits " ", run.length)

def sanitizeProxyErrorSummary (value : Option Text) : Text :=
  match value with
  | none => asciiUnits "Proxy health check failed"
  | some value =>
    let value := replaceMatches matchUserInfo 0 value
    let value := replaceMatches matchSecretWord 0 value
    let value := (replaceMatches matchLineBreaks 0 value).take 240
    if value = [] then asciiUnits "Proxy health check failed" else value

/-- `/[A-Z0-9]/`. -/
def isUpperAlnumUnit (c : CodeUnit) : Bool :=
  (unit '0' ≤ c && c ≤ unit '9') || (unit 'A' ≤ c && c ≤ unit 'Z')

def sanitizeProxyErrorCode (value : Option Text) : Text :=
  match value with
  | some (c :: rest) =>
    if isUpperAlnumUnit c && rest.length ≤ 119 &&
        rest.all fun c => isUpperAlnumUnit c || (asciiUnits "._:-").contains c then c :: rest
    else asciiUnits "PROXY_HEALTHCHECK_FAILED"
  | _ => asciiUnits "PROXY_HEALTHCHECK_FAILED"

/-! ### Transitions -/

structure ProxyHealthPolicy where
  failureThreshold : ℤ
  cooldownMs : ℤ
  degradedLatencyMs : ℤ

inductive ProxyTestStatus
  | success | failure
deriving DecidableEq

structure ProxyHealthCheckOutcome where
  status : ProxyTestStatus
  checkedAt : Option Timestamp
  latencyMs : Option ℤ
  errorCode : Option Text
  errorSummary : Option Text

def validateProxyHealthPolicy (policy : ProxyHealthPolicy) : Except ProxyOperationError ProxyHealthPolicy := do
  let _ ← normalizeBoundedInteger (integerValue policy.failureThreshold) "The Proxy failure threshold" 1 100 3
  let _ ← normalizeBoundedInteger (integerValue policy.cooldownMs) "The Proxy cooldown" 1000 86400000 30000
  let _ ← normalizeBoundedInteger (integerValue policy.degradedLatencyMs) "The Proxy degraded latency threshold"
    1 86400000 1500
  return policy

/-- The proxy after a check that found it working. -/
def ProxyMetadata.succeeded (proxy : ProxyMetadata) (policy : ProxyHealthPolicy) (latencyMs : Option ℤ)
    (checkedAt now : Timestamp) : ProxyMetadata :=
  { proxy with
    healthState := if ∃ ms ∈ latencyMs, policy.degradedLatencyMs ≤ ms then .degraded else .healthy
    lastHealthCheckAt := some checkedAt
    lastSuccessAt := some checkedAt
    latencyMs
    successCount := proxy.successCount + 1
    consecutiveFailureCount := 0
    successRate := (proxy.successCount + 1 : ℤ) / (proxy.successCount + proxy.failureCount + 1 : ℤ)
    cooldownUntil := none
    lastErrorCode := none
    lastErrorSummary := none
    updatedAt := now
    revision := proxy.revision + 1 }

/-- The proxy after a check that failed. -/
def ProxyMetadata.failed (proxy : ProxyMetadata) (cooling : Bool) (cooldownUntil : Option Timestamp)
    (latencyMs : Option ℤ) (outcome : ProxyHealthCheckOutcome) (checkedAt now : Timestamp) : ProxyMetadata :=
  { proxy with
    healthState := if cooling then .cooldown else .degraded
    lastHealthCheckAt := some checkedAt
    lastFailureAt := some checkedAt
    latencyMs
    failureCount := proxy.failureCount + 1
    consecutiveFailureCount := proxy.consecutiveFailureCount + 1
    successRate := proxy.successCount / (proxy.successCount + proxy.failureCount + 1 : ℤ)
    cooldownUntil
    lastErrorCode := some (sanitizeProxyErrorCode outcome.errorCode)
    lastErrorSummary := some (sanitizeProxyErrorSummary outcome.errorSummary)
    updatedAt := now
    revision := proxy.revision + 1 }

/-- The latency of a check, where it has one. -/
def checkedLatency (latencyMs : Option ℤ) : Except ProxyThrow (Option ℤ) :=
  match latencyMs with
  | none => .ok none
  | some ms => do
    let ms ← operation (normalizeBoundedInteger (integerValue ms) "The Proxy latency" 0 86400000 0)
    return some ms

/-- `cooling ? addMilliseconds(now, cooldownMs) : null`. -/
def cooldownEnd (cooling : Bool) (now : Timestamp) (cooldownMs : ℤ) : Except ProxyThrow (Option Timestamp) :=
  if cooling then do
    let cooldownUntil ← operation (addMilliseconds now cooldownMs)
    return some cooldownUntil
  else .ok none

def recordProxyHealthCheck (proxy : ProxyMetadata) (outcome : ProxyHealthCheckOutcome) (now : Timestamp)
    (policy : ProxyHealthPolicy) : Except ProxyThrow ProxyMetadata := do
  assertProxyMetadata env proxy
  let boundedPolicy ← operation (validateProxyHealthPolicy policy)
  operation (assertTimestamp now "The Proxy health timestamp")
  let checkedAt := outcome.checkedAt.getD now
  operation (assertTimestamp checkedAt "The Proxy health check time")
  let latencyMs ← checkedLatency outcome.latencyMs
  if proxy.enabled = false then
    return { proxy with
      healthState := .disabled, lastHealthCheckAt := some checkedAt, updatedAt := now,
      revision := proxy.revision + 1 }
  match outcome.status with
  | .success => return proxy.succeeded boundedPolicy latencyMs checkedAt now
  | .failure =>
    let cooling := decide (boundedPolicy.failureThreshold ≤ proxy.consecutiveFailureCount + 1)
    let cooldownUntil ← cooldownEnd cooling now boundedPolicy.cooldownMs
    return proxy.failed cooling cooldownUntil latencyMs outcome checkedAt now

def expireProxyCooldown (proxy : ProxyMetadata) (now : Timestamp) : Except ProxyThrow ProxyMetadata := do
  assertProxyMetadata env proxy
  operation (assertTimestamp now "The Proxy timestamp")
  match proxy.cooldownUntil.bind parseSafeTimestamp, parseSafeTimestamp now with
  | some cooldown, some time =>
    if proxy.healthState ≠ .cooldown ∨ time < cooldown then return proxy
    return { proxy with
      healthState := if proxy.enabled then .degraded else .disabled, cooldownUntil := none, updatedAt := now,
      revision := proxy.revision + 1 }
  | _, _ => return proxy

inductive EligibilityReason
  | eligible | disabled | cooldown | healthcheckFailed | secretMissing | configInvalid
deriving DecidableEq

/-- `getProxyEligibility(proxy, now, credentialAvailable).reasonCode`; the proxy is eligible when it
is `ELIGIBLE`. A comparison with an invalid date is false. -/
def getProxyEligibility (proxy : ProxyMetadata) (now : Timestamp) (credentialAvailable : Bool) : EligibilityReason :=
  match assertProxyMetadata env proxy with
  | .error _ => .configInvalid
  | .ok () =>
    if proxy.enabled = false ∨ proxy.healthState = .disabled then .disabled
    else if proxy.healthState = .cooldown ∨
        ∃ cooldown ∈ proxy.cooldownUntil.bind parseSafeTimestamp, ∃ time ∈ parseSafeTimestamp now, time < cooldown then
      .cooldown
    else if proxy.healthState ≠ .healthy then .healthcheckFailed
    else if proxy.credentialRef ≠ none ∧ credentialAvailable = false then .secretMissing
    else .eligible

end OfflineWebArchiver.ProxyManager
