import OfflineWebArchiver.ProxyManager.Records

/-!
# Sample proxies

A platform that reads decimal numbers, and proxies with everything but their endpoint left out.
-/

namespace OfflineWebArchiver.ProxyManager.Sample

/-- The number that decimal digits write. -/
def decimal (t : Text) : Option ℚ :=
  if t ≠ [] ∧ t.all fun c => unit '0' ≤ c && c ≤ unit '9' then
    some (t.foldl (fun n c => 10 * n + (c.toNat - 48)) 0 : ℕ)
  else none

/-- The platform on decimal numbers, and on JSON texts that it does not read. -/
def env : ProxyEnv where
  lower := lowerDotted
  lowerCase := lowerDotted_lowerCase
  number := decimal
  jsonParse _ := none
  jsonParse_blank _ _ := rfl
  string
    | .text t => t
    | _ => []

def now : Timestamp := "2026-01-01T12:00:00.000Z"

/-- The fields of an endpoint. -/
def endpointFields (host : String) (port : ℤ) : List (Text × JsValue) :=
  [(asciiUnits "protocol", .text (asciiUnits "http")), (asciiUnits "host", .text (asciiUnits host)),
    (asciiUnits "port", integerValue port)]

/-- The draft of these fields. -/
def draft (host : String) (port : ℤ) : ProxyDraft where
  id := none
  label := none
  protocol := .http
  host := asciiUnits host
  port := port
  bypass := []
  credentialRef := none
  weight := 1
  priority := 0
  maxConcurrency := 1
  enabled := true

/-- The fields of a proxy with an identifier. -/
def fields (id host : String) (port : ℤ) : List (Text × JsValue) :=
  (asciiUnits "id", .text (asciiUnits id)) :: endpointFields host port

/-- The record of such a proxy. -/
def record (id host : String) (port : ℤ) : ProxyMetadata where
  id := asciiUnits id
  label := none
  protocol := .http
  host := asciiUnits host
  port := port
  bypass := []
  credentialRef := none
  weight := 1
  priority := 0
  maxConcurrency := 1
  enabled := true
  healthState := .degraded
  lastHealthCheckAt := none
  lastSuccessAt := none
  lastFailureAt := none
  latencyMs := none
  successCount := 0
  failureCount := 0
  consecutiveFailureCount := 0
  successRate := 0
  cooldownUntil := none
  lastErrorCode := none
  lastErrorSummary := none
  createdAt := now
  updatedAt := now
  revision := 1

theorem record_made : createProxyMetadata env (fields "a" "a.b" 80) now = .ok (record "a" "a.b" 80) := by
  decide

theorem record_made' : createProxyMetadata env (fields "b" "a.b" 80) now = .ok (record "b" "a.b" 80) := by
  decide

end OfflineWebArchiver.ProxyManager.Sample
