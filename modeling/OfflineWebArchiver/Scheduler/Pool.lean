import Mathlib.Algebra.Order.Ring.Rat
import Mathlib.Data.Int.Notation
import Mathlib.Data.Nat.Notation
import Mathlib.Logic.Function.Basic
import Mathlib.Tactic.SplitIfs
import OfflineWebArchiver.Base.JsString
import OfflineWebArchiver.Base.Time

/-!
# The circuit breaker of a proxy

`ProxyCircuitBreaker`: closed while a proxy works, open after too many failures, half open
once the time of the opening is over. A half-open breaker lets a few probes through.

* `canSchedule`, `beginProbe`: what the scheduler asks before it reserves a worker.
* `recordSuccess`, `recordFailure`, `cancelProbe`: what it reports afterwards.
* `Timed`, `Timed.beginProbe`: an open breaker has an end.
-/

namespace OfflineWebArchiver.Scheduler

/-- `CircuitBreakerState`; `opened` is `"open"`. -/
inductive CircuitBreakerState
  | closed | opened | halfOpen
  deriving DecidableEq

/-- What the constructor of the breaker accepts. -/
structure CircuitBreakerConfiguration where
  failureThreshold : ℕ
  openDurationMs : ℕ
  halfOpenMaxProbes : ℕ
  failureThreshold_pos : 1 ≤ failureThreshold
  openDurationMs_pos : 1 ≤ openDurationMs
  halfOpenMaxProbes_pos : 1 ≤ halfOpenMaxProbes

theorem one_le_one_nat : 1 ≤ 1 := le_rfl

def DEFAULT_CIRCUIT_BREAKER_CONFIGURATION : CircuitBreakerConfiguration where
  failureThreshold := 3
  openDurationMs := 30000
  halfOpenMaxProbes := 1
  failureThreshold_pos := by decide
  openDurationMs_pos := by decide
  halfOpenMaxProbes_pos := one_le_one_nat

structure ProxyCircuitBreaker where
  stateValue : CircuitBreakerState := .closed
  consecutiveFailures : ℕ := 0
  openedUntilMs : Option ℤ := none
  probeInFlight : ℕ := 0
  deriving DecidableEq

namespace ProxyCircuitBreaker

variable (configuration : CircuitBreakerConfiguration) (c : ProxyCircuitBreaker) (nowMs : ℤ)

/-- The first line of `canSchedule`: an open breaker whose time is over is half open. -/
def lapse : ProxyCircuitBreaker :=
  if c.stateValue = .opened ∧ c.openedUntilMs.any (· ≤ nowMs) then { c with stateValue := .halfOpen } else c

/-- The answer of `canSchedule`, after its first line. -/
def admits : Bool :=
  c.stateValue == .closed ||
    (c.stateValue == .halfOpen && c.probeInFlight < configuration.halfOpenMaxProbes)

def canSchedule : Bool × ProxyCircuitBreaker := ((c.lapse nowMs).admits configuration, c.lapse nowMs)

def beginProbe : Bool × ProxyCircuitBreaker :=
  let (can, c) := c.canSchedule configuration nowMs
  if !can then (false, c)
  else if c.stateValue = .halfOpen then
    if configuration.halfOpenMaxProbes ≤ c.probeInFlight then (false, c)
    else (true, { c with probeInFlight := c.probeInFlight + 1 })
  else (true, c)

/-- `if (this.stateValue === "half-open") this.probeInFlight = Math.max(0, this.probeInFlight - 1)`. -/
def cancelProbe : ProxyCircuitBreaker :=
  if c.stateValue = .halfOpen then { c with probeInFlight := c.probeInFlight - 1 } else c

def recordSuccess : ProxyCircuitBreaker :=
  { c.cancelProbe with stateValue := .closed, consecutiveFailures := 0, openedUntilMs := none }

def recordFailure : ProxyCircuitBreaker :=
  if c.stateValue = .halfOpen then
    { c.cancelProbe with
      stateValue := .opened
      openedUntilMs := some (nowMs + configuration.openDurationMs)
      consecutiveFailures := configuration.failureThreshold }
  else
    let c := { c with consecutiveFailures := c.consecutiveFailures + 1 }
    if configuration.failureThreshold ≤ c.consecutiveFailures then
      { c with
        stateValue := .opened
        openedUntilMs := some (nowMs + configuration.openDurationMs) }
    else c

variable {configuration c nowMs}

@[simp] theorem lapse_probeInFlight : (c.lapse nowMs).probeInFlight = c.probeInFlight := by
  unfold lapse
  split_ifs <;> rfl

@[simp] theorem lapse_openedUntilMs : (c.lapse nowMs).openedUntilMs = c.openedUntilMs := by
  unfold lapse
  split_ifs <;> rfl

theorem cancelProbe_probeInFlight :
    c.cancelProbe.probeInFlight = if c.stateValue = .halfOpen then c.probeInFlight - 1 else c.probeInFlight := by
  unfold cancelProbe
  split_ifs <;> rfl

theorem recordFailure_probeInFlight :
    (c.recordFailure configuration nowMs).probeInFlight = c.cancelProbe.probeInFlight := by
  rw [cancelProbe_probeInFlight]
  unfold recordFailure
  simp only
  split_ifs with hhalf
  · simp only [cancelProbe, if_pos hhalf]
  · rfl
  · rfl

/-- An open breaker knows until when. -/
def Timed (c : ProxyCircuitBreaker) : Prop := c.stateValue = .opened → c.openedUntilMs ≠ none

theorem Timed.cancelProbe (h : c.Timed) : c.cancelProbe.Timed := by
  unfold ProxyCircuitBreaker.cancelProbe
  split_ifs
  · exact h
  · exact h

theorem Timed.recordSuccess : c.recordSuccess.Timed := by rintro ⟨⟩

theorem Timed.recordFailure (h : c.Timed) : (c.recordFailure configuration nowMs).Timed := by
  unfold ProxyCircuitBreaker.recordFailure
  simp only
  split_ifs
  · exact fun _ => Option.some_ne_none _
  · exact fun _ => Option.some_ne_none _
  · exact h

/-- A lapse ends an opening and does nothing else. -/
theorem lapse_opened (h : (c.lapse nowMs).stateValue = .opened) : c.stateValue = .opened := by
  unfold lapse at h
  split_ifs at h with hover
  exact h

/-- A breaker that answers yes is closed or half open with a slot free, and stays as it is at
any other time. -/
theorem lapse_of_admits (h : c.admits configuration = true) : c.lapse nowMs = c := by
  unfold lapse
  rw [if_neg]
  rintro ⟨hopen, -⟩
  unfold admits at h
  rw [hopen] at h
  cases h

/-- A breaker without probes lets one through when its opening is over. -/
theorem Timed.beginProbe (h : c.Timed) (hnone : c.probeInFlight = 0) (hover : ∀ ending ∈ c.openedUntilMs, ending ≤ nowMs) :
    (c.beginProbe configuration nowMs).1 = true := by
  have hslot : 0 < configuration.halfOpenMaxProbes := configuration.halfOpenMaxProbes_pos
  have hopen : (c.lapse nowMs).stateValue ≠ .opened := by
    intro hstill
    have hstate := lapse_opened hstill
    obtain ⟨ending, hsome⟩ := Option.ne_none_iff_exists'.1 (h hstate)
    have hpassed : c.openedUntilMs.any (· ≤ nowMs) = true := by
      rw [hsome, Option.any_some]
      exact decide_eq_true (hover ending hsome)
    rw [lapse, if_pos ⟨hstate, hpassed⟩] at hstill
    cases hstill
  have hprobes : (c.lapse nowMs).probeInFlight = 0 := by rw [lapse_probeInFlight, hnone]
  have hadmits : (c.lapse nowMs).admits configuration = true := by
    unfold admits
    rw [hprobes]
    cases hstate : (c.lapse nowMs).stateValue with
    | closed => rfl
    | opened => exact absurd hstate hopen
    | halfOpen => simpa using hslot
  unfold ProxyCircuitBreaker.beginProbe
  simp only [canSchedule, hadmits, Bool.not_true, Bool.false_eq_true, if_false]
  split_ifs with hhalf hfull
  · rw [hprobes] at hfull
    omega
  · rfl
  · rfl

end ProxyCircuitBreaker

end OfflineWebArchiver.Scheduler

/-!
## The worker pool

`WorkerPoolScheduler`: its workers, the pages of each origin and the state of each proxy. A
proxy that the scheduler has not met yet has the state that `proxyState` creates.

* `eligibleProxies`, `selectProxy`: which proxy a job may use, and which one it gets.
* `tryReserveWorker`: a reservation, or `none`, or an error.
* `releaseWorker`: the outcome of a reservation.
-/

namespace OfflineWebArchiver.Scheduler

inductive SchedulerOperationErrorCode
  | configInvalid | jobInvalid | noEligibleProxy | affinityConflict | capacityExhausted | originRateLimited
  | cancelled | claimSkipped | workerStartFailed | workerContextFailed | workerLeaseLost
  | workerStaleGeneration | workerCrashed | proxyCircuitOpen | proxyHalfOpenFailed | staleCommitRejected
  | persistenceFailed
  deriving DecidableEq

/-- `SchedulerOperationError`. -/
structure SchedulerError where
  code : SchedulerOperationErrorCode
  message : String
  deriving DecidableEq

inductive WorkerSelectionPolicy
  | weightedRoundRobin | leastLoaded | sticky
  deriving DecidableEq

inductive ProxyConnectionMode
  | direct | singleProxy | proxyPool
  deriving DecidableEq

inductive ProxyHealthState
  | healthy | degraded | cooldown | disabled
  deriving DecidableEq

/-- What the pool reads of its configuration. -/
structure WorkerPoolConfiguration where
  globalWorkerConcurrency : ℕ
  perProxyWorkerConcurrency : ℕ
  perOriginPageConcurrency : ℕ
  selectionPolicy : WorkerSelectionPolicy
  connectionMode : ProxyConnectionMode
  circuitBreaker : CircuitBreakerConfiguration

/-- What the pool reads of a proxy. -/
structure ProxyMetadata where
  id : String
  credentialRef : Option String
  weight : ℤ
  priority : ℤ
  maxConcurrency : ℕ
  enabled : Bool
  healthState : ProxyHealthState
  cooldownUntil : Option Timestamp
  /-- `assertProxyMetadata(proxy)` does not throw. -/
  wellFormed : Bool
  deriving DecidableEq

structure JobSession where
  sessionId : String
  proxyId : Option String
  browserProfileId : String
  deriving DecidableEq

/-- `proxyId` is `none` for `null` and where it is left out. -/
structure SchedulerJob where
  jobId : String
  url : String
  origin : Option String := none
  proxyId : Option String := none
  session : Option JobSession := none
  deriving DecidableEq

/-- What the scheduler takes from outside. -/
structure SchedulerEnv where
  /-- `new URL(url)`: its protocol, user name, password and origin, or `none` where it throws. -/
  parseUrl : String → Option (String × String × String × String)
  /-- `left.localeCompare(right, "en") < 0`. -/
  localeLess : String → String → Bool

/-- The fields of a job are as `input` has them; its origin is known. -/
structure WorkerReservation where
  workerId : String
  runId : String
  job : SchedulerJob
  origin : String
  proxy : Option ProxyMetadata
  startedAtMs : ℤ
  halfOpenProbe : Bool
  deriving DecidableEq

/-- `ProxyInternalState`. -/
structure ProxyState where
  activeWorkers : ℕ := 0
  completedJobs : ℕ := 0
  failedJobs : ℕ := 0
  completedAtMs : List ℤ := []
  circuit : ProxyCircuitBreaker := {}
  smoothWeight : ℤ := 0
  deriving DecidableEq

/-- What the pool keeps of an active worker. -/
structure WorkerStatus where
  workerId : String
  runId : String
  currentJobId : String
  proxyId : Option String
  origin : String
  startedAt : Timestamp
  deriving DecidableEq

structure Pool where
  workers : List WorkerStatus := []
  proxies : String → ProxyState := fun _ => {}
  originPages : String → ℕ := fun _ => 0

def Pool.has (s : Pool) (workerId : String) : Bool := s.workers.any (·.workerId == workerId)

def Pool.setProxy (s : Pool) (id : String) (state : ProxyState) : Pool :=
  { s with proxies := Function.update s.proxies id state }

def Pool.setCircuit (s : Pool) (id : String) (circuit : ProxyCircuitBreaker) : Pool :=
  s.setProxy id { s.proxies id with circuit }

/-! ### Jobs -/

/-- `canonicalOrigin(url)`. -/
def canonicalOrigin (env : SchedulerEnv) (url : String) : Except SchedulerError String :=
  match env.parseUrl url with
  | some (protocol, username, password, origin) =>
    if (protocol = "http:" ∨ protocol = "https:") ∧ username = "" ∧ password = "" then .ok origin
    else .error ⟨.jobInvalid, "The Page Job URL cannot produce a safe HTTP Origin"⟩
  | none => .error ⟨.jobInvalid, "The Page Job URL cannot produce a safe HTTP Origin"⟩

/-- The checks of `normalizeSchedulerJob` after the origin. -/
def checkJob (job : SchedulerJob) (origin : String) : Except SchedulerError Unit :=
  if job.origin.any (· != origin) then
    .error ⟨.jobInvalid, "The Worker Job Origin does not match its URL"⟩
  else if job.proxyId.any (!matchesSafeIdentifier ·) then
    .error ⟨.jobInvalid, "The Worker Job Proxy identifier is invalid"⟩
  else
    match job.session with
    | none => .ok ()
    | some session =>
      if !matchesSafeIdentifier session.sessionId || !matchesSafeIdentifier session.browserProfileId then
        .error ⟨.jobInvalid, "The authenticated Session affinity metadata is invalid"⟩
      else if session.proxyId.any (!matchesSafeIdentifier ·) then
        .error ⟨.jobInvalid, "The authenticated Session Proxy affinity is invalid"⟩
      else .ok ()

/-- `normalizeSchedulerJob(input)`: the origin that the job gets. -/
def normalizeSchedulerJob (env : SchedulerEnv) (job : SchedulerJob) : Except SchedulerError String :=
  if !matchesSafeIdentifier job.jobId then
    .error ⟨.jobInvalid, "The Worker Job identifier is invalid"⟩
  else do
    let origin ← canonicalOrigin env job.url
    checkJob job origin
    return origin

/-! ### The choice of a proxy -/

/-- `Date.parse` of a timestamp that `assertTimestamp` accepts: it may have no milliseconds. -/
def parseTimestamp (value : Timestamp) : Option ℤ :=
  (parseUtc value).or (parseUtc (String.ofList value.toList.dropLast ++ ".000Z"))

/-- `getProxyEligibility(proxy, now, credentialAvailable).eligible`. -/
def isEligible (proxy : ProxyMetadata) (now : Timestamp) (credentialAvailable : Bool) : Bool :=
  proxy.wellFormed && proxy.enabled && proxy.healthState == .healthy &&
    !(match proxy.cooldownUntil.bind parseTimestamp, parseUtc now with
      | some cooldown, some time => decide (time < cooldown)
      | _, _ => false) &&
    (proxy.credentialRef.isNone || credentialAvailable)

/-- What `tryReserveWorker` is given. -/
structure ReserveInput where
  workerId : String
  job : SchedulerJob
  proxies : List ProxyMetadata := []
  credentialAvailable : ProxyMetadata → Bool := fun _ => false

variable (env : SchedulerEnv) (configuration : WorkerPoolConfiguration)

def proxyCapacity (proxy : ProxyMetadata) : ℕ := min configuration.perProxyWorkerConcurrency proxy.maxConcurrency

/-- The last filter of `eligibleProxies`. `proxyState` creates a breaker for an unknown proxy,
whose constructor checks the identifier. -/
def withRoom (nowMs : ℤ) : List ProxyMetadata → Pool → Except SchedulerError (List ProxyMetadata) × Pool
  | [], s => (.ok [], s)
  | proxy :: rest, s =>
    if !matchesSafeIdentifier proxy.id then
      (.error ⟨.configInvalid, "The Circuit Breaker configuration is invalid"⟩, s)
    else if (s.proxies proxy.id).activeWorkers < proxyCapacity configuration proxy then
      let (can, circuit) := (s.proxies proxy.id).circuit.canSchedule configuration.circuitBreaker nowMs
      match withRoom nowMs rest (s.setCircuit proxy.id circuit) with
      | (.ok found, s) => (.ok (if can then proxy :: found else found), s)
      | (.error e, s) => (.error e, s)
    else withRoom nowMs rest s

/-- `(left, right) => left.priority - right.priority || left.id.localeCompare(right.id, "en")`,
as "not after". -/
def byPriority (left right : ProxyMetadata) : Bool :=
  left.priority < right.priority ||
    (left.priority == right.priority && !env.localeLess right.id left.id)

/-- `eligibleProxies(input)`. -/
def eligibleProxies (input : ReserveInput) (requestedProxyId : Option String) (now : Timestamp) (nowMs : ℤ)
    (s : Pool) : Except SchedulerError (List ProxyMetadata) × Pool :=
  let named := input.proxies.filter fun proxy => requestedProxyId.all (proxy.id == ·)
  let eligible := named.filter fun proxy => isEligible proxy now (input.credentialAvailable proxy)
  match withRoom configuration nowMs eligible s with
  | (.error e, s) => (.error e, s)
  | (.ok found, s) =>
    let candidates := found.mergeSort (byPriority env)
    match candidates with
    | [] => (.ok [], s)
    | first :: _ => (.ok (candidates.filter (·.priority == first.priority)), s)

/-- The loop of `selectWeighted`: the total weight and the best candidate with its score. -/
def weigh : List ProxyMetadata → ℤ → Option (ProxyMetadata × ℤ) → Pool → ℤ × Option (ProxyMetadata × ℤ) × Pool
  | [], total, selected, s => (total, selected, s)
  | candidate :: rest, total, selected, s =>
    let score := (s.proxies candidate.id).smoothWeight + candidate.weight
    let s := s.setProxy candidate.id { s.proxies candidate.id with smoothWeight := score }
    let better := match selected with
      | none => true
      | some (best, bestScore) => bestScore < score || (score == bestScore && env.localeLess candidate.id best.id)
    weigh rest (total + candidate.weight) (if better then some (candidate, score) else selected) s

/-- `selectWeighted(candidates)`. -/
def selectWeighted (candidates : List ProxyMetadata) (s : Pool) : Option ProxyMetadata × Pool :=
  match weigh env candidates 0 none s with
  | (_, none, s) => (none, s)
  | (total, some (selected, _), s) =>
    (some selected, s.setProxy selected.id
      { s.proxies selected.id with smoothWeight := (s.proxies selected.id).smoothWeight - total })

/-- `selectLeastLoaded(candidates)`. -/
def selectLeastLoaded (candidates : List ProxyMetadata) (s : Pool) : Option ProxyMetadata :=
  let load (proxy : ProxyMetadata) : ℚ :=
    (s.proxies proxy.id).activeWorkers / proxyCapacity configuration proxy
  (candidates.mergeSort fun left right =>
    load left < load right || (load left == load right && byPriority env left right)).head?

/-- The `selected` of `selectProxy`: the first candidate of a named proxy, or as the policy says. -/
def selectCandidate (requestedProxyId : Option String) (first : ProxyMetadata) (rest : List ProxyMetadata)
    (s : Pool) : Option ProxyMetadata × Pool :=
  if requestedProxyId.isSome then (some first, s)
  else if configuration.selectionPolicy = .leastLoaded then
    (selectLeastLoaded env configuration (first :: rest) s, s)
  else selectWeighted env (first :: rest) s

/-- The end of `selectProxy`: the snapshot of the breaker says whether this is a probe, and
`beginProbe` may still refuse. -/
def beginSelected (selected : ProxyMetadata) (clock : ℕ → ℤ) (s : Pool) : (Option ProxyMetadata × Bool) × Pool :=
  let circuit := (s.proxies selected.id).circuit.lapse (clock 3)
  let probe := circuit.beginProbe configuration.circuitBreaker (clock 4)
  (if probe.1 then (some selected, circuit.stateValue == .halfOpen) else (none, false),
    s.setCircuit selected.id probe.2)

/-- `selectProxy(job, proxies, credentialAvailable)`: the proxy, and whether it is a half-open
probe. The clock is read for the eligibility (twice), the snapshot and the probe. -/
def selectProxy (input : ReserveInput) (clock : ℕ → ℤ) (s : Pool) :
    Except SchedulerError (Option ProxyMetadata × Bool) × Pool :=
  let affinityProxyId := input.job.session.bind (·.proxyId)
  let explicitProxyId := input.job.proxyId
  if affinityProxyId.isSome && explicitProxyId.isSome && affinityProxyId != explicitProxyId then
    (.error ⟨.affinityConflict,
      "An authenticated Job requested a Proxy different from its Session affinity"⟩, s)
  else
    let requestedProxyId := affinityProxyId.or explicitProxyId
    if configuration.connectionMode = .direct then
      if affinityProxyId.isSome || explicitProxyId.isSome then
        (.error ⟨.affinityConflict, "A direct Worker cannot execute a Job bound to a Proxy"⟩, s)
      else (.ok (none, false), s)
    else
      match eligibleProxies env configuration input requestedProxyId (toISOString (clock 1)) (clock 2) s with
      | (.error e, s) => (.error e, s)
      | (.ok [], s) => (.ok (none, false), s)
      | (.ok (first :: rest), s) =>
        match selectCandidate env configuration requestedProxyId first rest s with
        | (none, s) => (.ok (none, false), s)
        | (some selected, s) =>
          let (choice, s) := beginSelected configuration selected clock s
          (.ok choice, s)

/-! ### Reservations -/

/-- The end of `tryReserveWorker`: the worker and its page are counted. -/
def Pool.reserve (s : Pool) (r : WorkerReservation) : Pool :=
  { workers := s.workers ++ [⟨r.workerId, r.runId, r.job.jobId, r.proxy.map (·.id), r.origin,
      toISOString r.startedAtMs⟩]
    originPages := Function.update s.originPages r.origin (s.originPages r.origin + 1)
    proxies := match r.proxy with
      | none => s.proxies
      | some proxy => Function.update s.proxies proxy.id
          { s.proxies proxy.id with activeWorkers := (s.proxies proxy.id).activeWorkers + 1 } }

/-- `tryReserveWorker(input)` of the scheduler of a run. `isPaused` is the answer of the network
budget. -/
def tryReserveWorker (runId : String) (input : ReserveInput) (isPaused : String → ℤ → Bool) (clock : ℕ → ℤ)
    (s : Pool) : Except SchedulerError (Option WorkerReservation) × Pool :=
  if !matchesSafeIdentifier input.workerId then
    (.error ⟨.configInvalid, "The Worker identifier is invalid"⟩, s)
  else
    match normalizeSchedulerJob env input.job with
    | .error e => (.error e, s)
    | .ok origin =>
      if s.has input.workerId then
        (.error ⟨.configInvalid, "The Worker identifier is already active"⟩, s)
      else if configuration.globalWorkerConcurrency ≤ s.workers.length then (.ok none, s)
      else if configuration.perOriginPageConcurrency ≤ s.originPages origin then (.ok none, s)
      else if isPaused origin (clock 0) then (.ok none, s)
      else
        match selectProxy env configuration input clock s with
        | (.error e, s) => (.error e, s)
        | (.ok (proxy, halfOpenProbe), s) =>
          if configuration.connectionMode ≠ .direct ∧ proxy = none then (.ok none, s)
          else
            let r : WorkerReservation := ⟨input.workerId, runId, { input.job with origin := some origin },
              origin, proxy, clock 5, halfOpenProbe⟩
            (.ok (some r), s.reserve r)

inductive OutcomeStatus
  | completed | failed | cancelled
  deriving DecidableEq

inductive SchedulerFailureCategory
  | proxy | originRateLimit | origin | browser | cancelled | unknown
  deriving DecidableEq

structure Outcome where
  status : OutcomeStatus
  failureCategory : Option SchedulerFailureCategory := none
  atMs : Option ℤ := none
  deriving DecidableEq

/-- What `releaseWorker` reports to the breaker of the reservation's proxy. -/
def reportOutcome (c : ProxyCircuitBreaker) (outcome : Outcome) (halfOpenProbe : Bool) (atMs : ℤ) :
    ProxyCircuitBreaker :=
  if outcome.status = .completed then c.recordSuccess
  else if outcome.failureCategory = some .proxy then c.recordFailure configuration.circuitBreaker atMs
  else if halfOpenProbe then c.cancelProbe
  else c

/-- What `releaseWorker` does to the state of the reservation's proxy. -/
def ProxyState.release (state : ProxyState) (outcome : Outcome) (halfOpenProbe : Bool) (atMs : ℤ) : ProxyState :=
  { state with
    activeWorkers := state.activeWorkers - 1
    completedJobs := if outcome.status = .completed then state.completedJobs + 1 else state.completedJobs
    completedAtMs := if outcome.status = .completed then state.completedAtMs ++ [atMs] else state.completedAtMs
    failedJobs := if outcome.status = .completed then state.failedJobs else state.failedJobs + 1
    circuit := reportOutcome configuration state.circuit outcome halfOpenProbe atMs }

/-- `releaseWorker(reservation, outcome)`. -/
def releaseWorker (reservation : WorkerReservation) (outcome : Outcome) (nowMs : ℤ) (s : Pool) : Pool :=
  if !s.has reservation.workerId then s
  else
    { workers := s.workers.filter (·.workerId != reservation.workerId)
      originPages := Function.update s.originPages reservation.origin (s.originPages reservation.origin - 1)
      proxies := match reservation.proxy with
        | none => s.proxies
        | some proxy => Function.update s.proxies proxy.id
            ((s.proxies proxy.id).release configuration outcome reservation.halfOpenProbe
              (outcome.atMs.getD nowMs)) }

/-- `getProxyThroughput(nowMs)`: the snapshot asks every breaker. -/
def getProxyThroughput (nowMs : ℤ) (s : Pool) : Pool :=
  { s with proxies := fun id => { s.proxies id with circuit := (s.proxies id).circuit.lapse nowMs } }

end OfflineWebArchiver.Scheduler
