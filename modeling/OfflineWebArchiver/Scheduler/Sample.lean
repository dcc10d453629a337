import OfflineWebArchiver.Scheduler.Budget
import OfflineWebArchiver.Scheduler.Ledger

/-!
# A small pool

One URL, two proxies, and configurations for the concrete runs of the pool.
-/

namespace OfflineWebArchiver.Scheduler.Sample

/-- The URL parser on the one URL of the runs. -/
def env : SchedulerEnv where
  parseUrl url := if url = "https://a.test/" then some ("https:", "", "", "https://a.test") else none
  localeLess left right := left < right

def breaker (halfOpenMaxProbes : ℕ) (h : 1 ≤ halfOpenMaxProbes) : CircuitBreakerConfiguration where
  failureThreshold := 1
  openDurationMs := 10
  halfOpenMaxProbes := halfOpenMaxProbes
  failureThreshold_pos := one_le_one_nat
  openDurationMs_pos := by decide
  halfOpenMaxProbes_pos := h

def configuration (connectionMode : ProxyConnectionMode) (circuitBreaker : CircuitBreakerConfiguration) :
    WorkerPoolConfiguration where
  globalWorkerConcurrency := 4
  perProxyWorkerConcurrency := 4
  perOriginPageConcurrency := 4
  selectionPolicy := .weightedRoundRobin
  connectionMode := connectionMode
  circuitBreaker := circuitBreaker

def direct : WorkerPoolConfiguration := configuration .direct DEFAULT_CIRCUIT_BREAKER_CONFIGURATION

def pool : WorkerPoolConfiguration := configuration .proxyPool (breaker 2 (by decide))

def proxy : ProxyMetadata where
  id := "p"
  credentialRef := none
  weight := 1
  priority := 0
  maxConcurrency := 4
  enabled := true
  healthState := .healthy
  cooldownUntil := none
  wellFormed := true

def input (workerId : String) (proxyId : Option String) : ReserveInput where
  workerId := workerId
  job := { jobId := "j", url := "https://a.test/", proxyId := proxyId }
  proxies := [proxy]

def never (_ : String) (_ : ℤ) : Bool := false

/-- A reservation at one time. -/
def reserve (configuration : WorkerPoolConfiguration) (workerId : String) (proxyId : Option String) (ms : ℤ) (s : Pool) :
    Except SchedulerError (Option WorkerReservation) × Pool :=
  tryReserveWorker env configuration "r" (input workerId proxyId) never (fun _ => ms) s

def take (workerId : String) (ms : ℤ) : PoolEvent := .tryReserveWorker (input workerId none) never fun _ => ms

def done (ticket : ℕ) : PoolEvent := .releaseWorker ticket ⟨.completed, none, none⟩ 0

/-- The proxy of the reservation has failed. -/
def lost (ticket : ℕ) : PoolEvent := .releaseWorker ticket ⟨.failed, some .proxy, none⟩ 0

/-- A worker identifier is used twice. -/
def reused : List PoolEvent := [take "w" 0, done 0, take "w" 0, done 1]

/-- The first of two reservations is released twice. -/
def releasedTwice : List PoolEvent := [take "w" 0, done 0, take "w" 0, done 0]

/-- The proxy fails; a probe follows its opening. -/
def oneProbe : List PoolEvent := [take "a" 0, lost 0, take "b" 20, done 1]

/-- The proxy fails; two probes follow its opening. -/
def twoProbes : List PoolEvent := [take "a" 0, lost 0, take "b" 20, take "c" 20, done 1, done 2]

def budgetEnv : BudgetEnv := { env with parseDate := fun _ => none }

def oneRequest : BudgetConfiguration where
  perOriginMaxInflightRequests := 1
  perOriginRequestsPerSecond := some 2
  burstLimit := 1
  respectRetryAfter := true
  retryAfterMaximumMs := 60000
  originCooldownMaximumMs := 60000
  originCooldownFallbackMs := 1000
  temporaryErrorCooldownMs := 1000
  maxInflight_pos := one_le_one_nat
  rate_pos := by simp
  burst_pos := one_le_one_nat

/-- A response asks for ten seconds; a restore then brings an end after `ms`, and two callers come. -/
def restoredOver (ms : ℤ) : List BudgetEvent :=
  [⟨0, .recordResponse ⟨"https://a.test/", 429, some "10"⟩⟩, ⟨500, .restore ⟨"https://a.test/", ms, none⟩⟩,
    ⟨1000, .acquire "https://a.test/" false⟩, ⟨10000, .wake 0 false⟩, ⟨10000, .acquire "https://a.test/" false⟩]

end OfflineWebArchiver.Scheduler.Sample
