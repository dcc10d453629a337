import OfflineWebArchiver.Lib.Run
import OfflineWebArchiver.Lib.Scheduling
import OfflineWebArchiver.Scheduler.Pool

/-!
# The network budget of an origin

`InMemoryOriginNetworkBudget`: for each origin its requests in flight, its tokens and its
cooldown. The clock gives milliseconds. Any number of callers wait in `acquire`, and a sleep may
end at any time.

* `acquireRound`: one round of the loop of `acquire`.
* `recordResponse`, `restore`, `snapshot`, `isPaused`: the other calls.
* `BudgetSystem.step`: the budget, its waiters and its permits take one call.
-/

namespace OfflineWebArchiver.Scheduler

/-- What the budget reads of a configuration that `validateWorkerPoolConfiguration` accepts. -/
structure BudgetConfiguration where
  perOriginMaxInflightRequests : ℕ
  perOriginRequestsPerSecond : Option ℕ
  burstLimit : ℕ
  respectRetryAfter : Bool
  retryAfterMaximumMs : ℕ
  originCooldownMaximumMs : ℕ
  originCooldownFallbackMs : ℕ
  temporaryErrorCooldownMs : ℕ
  maxInflight_pos : 1 ≤ perOriginMaxInflightRequests
  rate_pos : ∀ rate ∈ perOriginRequestsPerSecond, 1 ≤ rate
  burst_pos : 1 ≤ burstLimit

/-- What the budget takes from outside, with `Date.parse` where it gives a number. -/
structure BudgetEnv extends SchedulerEnv where
  parseDate : String → Option ℤ

structure OriginBudgetState where
  inflight : ℕ
  tokens : ℚ
  lastRefillMs : ℚ
  cooldownUntilMs : Option ℚ
  lastStatus : Option ℤ
  deriving DecidableEq

/-- The map `states`. -/
abbrev OriginBudgets := String → Option OriginBudgetState

structure OriginNetworkPermit where
  origin : String
  acquiredAtMs : ℚ
  deriving DecidableEq

structure OriginResponseObservation where
  origin : String
  status : ℤ
  retryAfter : Option String
  deriving DecidableEq

structure RestoreInput where
  origin : String
  cooldownUntilMs : ℤ
  lastStatus : Option ℤ
  deriving DecidableEq

/-- What the scheduler reads of a persisted row. -/
structure OriginRateLimitState where
  origin : String
  cooldownUntil : Option String
  lastStatus : Option ℤ
  deriving DecidableEq

structure OriginRateLimitSnapshot where
  origin : String
  inflight : ℕ
  maxInflight : ℕ
  cooldownUntilMs : Option ℚ
  lastStatus : Option ℤ
  requestsPerSecond : Option ℕ
  burstLimit : ℕ
  deriving DecidableEq

/-- `Number.isSafeInteger(value) && value >= 0`. -/
def isSafeNatural (value : ℤ) : Bool := 0 ≤ value && value ≤ 9007199254740991

/-- `parseRetryAfterValue(value, nowMs, maximumMs)`. -/
def parseRetryAfterValue (env : BudgetEnv) (value : Option String) (nowMs maximumMs : ℚ) : Option ℚ :=
  match value with
  | none => none
  | some value =>
    let trimmed := jsTrim value.toList
    if !trimmed.isEmpty && trimmed.all Char.isDigit then
      let seconds := trimmed.foldl (fun (n : ℤ) c => 10 * n + (c.toNat - '0'.toNat : ℕ)) 0
      if !isSafeNatural seconds then some maximumMs else some (min (seconds * 1000) maximumMs)
    else
      (env.parseDate (String.ofList trimmed)).map fun timestamp => min (max 0 (timestamp - nowMs)) maximumMs

variable (env : BudgetEnv) (configuration : BudgetConfiguration)

/-- `state(origin, nowMs)`. -/
def OriginBudgets.state (b : OriginBudgets) (origin : String) (nowMs : ℚ) : OriginBudgetState :=
  (b origin).getD ⟨0, configuration.burstLimit, nowMs, none, none⟩

def OriginBudgets.set (b : OriginBudgets) (origin : String) (state : OriginBudgetState) : OriginBudgets :=
  Function.update b origin (some state)

/-- `refill(state, nowMs)`. -/
def refill (state : OriginBudgetState) (nowMs : ℚ) : OriginBudgetState :=
  match configuration.perOriginRequestsPerSecond with
  | none => { state with lastRefillMs := nowMs }
  | some rate =>
    if nowMs ≤ state.lastRefillMs then state
    else
      { state with
        tokens := min (configuration.burstLimit : ℚ) (state.tokens + (nowMs - state.lastRefillMs) / 1000 * rate)
        lastRefillMs := nowMs }

/-- `state.cooldownUntilMs !== null && state.cooldownUntilMs > nowMs`. -/
def OriginBudgetState.cooling (state : OriginBudgetState) (nowMs : ℚ) : Bool :=
  state.cooldownUntilMs.any (nowMs < ·)

/-- `waitMilliseconds(state, nowMs)`. -/
def waitMilliseconds (state : OriginBudgetState) (nowMs : ℚ) : ℚ :=
  if state.cooling nowMs then state.cooldownUntilMs.getD 0 - nowMs
  else if configuration.perOriginMaxInflightRequests ≤ state.inflight then 10
  else
    match configuration.perOriginRequestsPerSecond with
    | none => 0
    | some rate => if 1 ≤ state.tokens then 0 else max 1 ((1 - state.tokens) / rate * 1000)

/-- What a permit takes. -/
def OriginBudgetState.taken (state : OriginBudgetState) : OriginBudgetState :=
  { state with
    tokens := if configuration.perOriginRequestsPerSecond.isSome then state.tokens - 1 else state.tokens
    inflight := state.inflight + 1 }

/-- One round of the loop of `acquire`: a permit, or the milliseconds to sleep. -/
def acquireRound (origin : String) (nowMs : ℚ) (b : OriginBudgets) : (OriginNetworkPermit ⊕ ℚ) × OriginBudgets :=
  let state := refill configuration (b.state configuration origin nowMs) nowMs
  let wait := waitMilliseconds configuration state nowMs
  if wait ≤ 0 then (.inl ⟨origin, nowMs⟩, b.set origin (state.taken configuration))
  else (.inr wait, b.set origin state)

/-- The first `release()` of a permit. -/
def releasePermit (origin : String) (b : OriginBudgets) : OriginBudgets :=
  match b origin with
  | some state => b.set origin { state with inflight := state.inflight - 1 }
  | none => b

/-- `isPaused(origin, nowMs)`. -/
def isPaused (url : String) (nowMs : ℚ) (b : OriginBudgets) : Except SchedulerError Bool × OriginBudgets :=
  match canonicalOrigin env.toSchedulerEnv url with
  | .error e => (.error e, b)
  | .ok origin =>
    let state := b.state configuration origin nowMs
    (.ok (state.cooling nowMs), b.set origin state)

/-- `snapshot(origin, nowMs)` of a canonical origin. -/
def snapshotOf (origin : String) (nowMs : ℚ) (b : OriginBudgets) : OriginRateLimitSnapshot × OriginBudgets :=
  let state := refill configuration (b.state configuration origin nowMs) nowMs
  let state := if state.cooling nowMs then state else { state with cooldownUntilMs := none }
  (⟨origin, state.inflight, configuration.perOriginMaxInflightRequests, state.cooldownUntilMs, state.lastStatus,
    configuration.perOriginRequestsPerSecond, configuration.burstLimit⟩, b.set origin state)

/-- `snapshot(origin, nowMs)`. -/
def snapshot (url : String) (nowMs : ℚ) (b : OriginBudgets) :
    Except SchedulerError OriginRateLimitSnapshot × OriginBudgets :=
  match canonicalOrigin env.toSchedulerEnv url with
  | .error e => (.error e, b)
  | .ok origin =>
    let (found, b) := snapshotOf configuration origin nowMs b
    (.ok found, b)

/-- The `delayMs` of `recordResponse`. -/
def responseDelay (input : OriginResponseObservation) (nowMs : ℚ) : Option ℚ :=
  let cooldownMaximumMs := min configuration.retryAfterMaximumMs configuration.originCooldownMaximumMs
  if input.status = 429 then
    let delayMs :=
      if configuration.respectRetryAfter then parseRetryAfterValue env input.retryAfter nowMs cooldownMaximumMs else none
    delayMs.or (some (min configuration.originCooldownFallbackMs configuration.originCooldownMaximumMs : ℕ))
  else if input.status = 503 then
    some (min configuration.temporaryErrorCooldownMs configuration.originCooldownMaximumMs : ℕ)
  else none

/-- The state of the origin before the snapshot at the end of `recordResponse`. -/
def OriginBudgetState.observe (state : OriginBudgetState) (input : OriginResponseObservation) (nowMs : ℚ) :
    OriginBudgetState :=
  let state := { state with lastStatus := some input.status }
  match responseDelay env configuration input nowMs with
  | none => state
  | some delayMs =>
    if 0 < delayMs then { state with cooldownUntilMs := some (max (state.cooldownUntilMs.getD 0) (nowMs + delayMs)) }
    else state

/-- `recordResponse(input, nowMs)`. -/
def recordResponse (input : OriginResponseObservation) (nowMs : ℚ) (b : OriginBudgets) :
    Except SchedulerError OriginRateLimitSnapshot × OriginBudgets :=
  match canonicalOrigin env.toSchedulerEnv input.origin with
  | .error e => (.error e, b)
  | .ok origin =>
    if input.status < 100 ∨ 599 < input.status then
      (.error ⟨.configInvalid, "The Origin response status is invalid"⟩, b)
    else
      let state := (b.state configuration origin nowMs).observe env configuration input nowMs
      let (found, b) := snapshotOf configuration origin nowMs (b.set origin state)
      (.ok found, b)

/-- `restore(input)`: the state gets what was persisted. -/
def restore (input : RestoreInput) (nowMs : ℚ) (b : OriginBudgets) : Except SchedulerError Unit × OriginBudgets :=
  match canonicalOrigin env.toSchedulerEnv input.origin with
  | .error e => (.error e, b)
  | .ok origin =>
    if !isSafeNatural input.cooldownUntilMs then
      (.error ⟨.configInvalid, "The persisted Origin cooldown is invalid"⟩, b)
    else
      (.ok (), b.set origin { b.state configuration origin nowMs with
        cooldownUntilMs := some input.cooldownUntilMs, lastStatus := input.lastStatus })

/-- One row in the loop of `restorePersistedOriginRateLimits`. -/
def restoreRow (row : OriginRateLimitState) (nowMs : ℚ) (b : OriginBudgets) : Except SchedulerError Unit × OriginBudgets :=
  match row.cooldownUntil with
  | none => (.ok (), b)
  | some text =>
    match env.parseDate text with
    | none => (.error ⟨.persistenceFailed, "The persisted Origin cooldown is invalid"⟩, b)
    | some cooldownUntilMs =>
      if cooldownUntilMs < 0 then (.error ⟨.persistenceFailed, "The persisted Origin cooldown is invalid"⟩, b)
      else restore env configuration ⟨row.origin, cooldownUntilMs, row.lastStatus⟩ nowMs b

/-! ### Callers -/

/-- The budget, the origins that callers wait for, and the permits. -/
structure BudgetSystem where
  states : OriginBudgets
  waiting : List String
  permits : Tickets OriginNetworkPermit

def BudgetSystem.start : BudgetSystem := ⟨fun _ => none, [], .empty⟩

/-- A call of the budget. A waiter is named by its place and a permit by its ticket; a caller's
signal may have been aborted. A sleep ends or is interrupted. -/
inductive BudgetCall
  | acquire (url : String) (aborted : Bool)
  | wake (waiter : ℕ) (aborted : Bool)
  | interrupt (waiter : ℕ)
  | release (ticket : ℕ)
  | isPaused (url : String)
  | recordResponse (input : OriginResponseObservation)
  | restore (input : RestoreInput)
  | restoreRow (row : OriginRateLimitState)
  | snapshot (url : String)
  deriving DecidableEq

/-- A call and what the clock says. -/
structure BudgetEvent where
  nowMs : ℚ
  call : BudgetCall
  deriving DecidableEq

/-- One round of a caller; `waiting` has the other callers. -/
def BudgetSystem.tryAcquire (s : BudgetSystem) (origin : String) (nowMs : ℚ) (waiting : List String) : BudgetSystem :=
  match acquireRound configuration origin nowMs s.states with
  | (.inl permit, b) => ⟨b, waiting, s.permits.grant permit⟩
  | (.inr _, b) => ⟨b, waiting ++ [origin], s.permits⟩

def BudgetSystem.step (s : BudgetSystem) (e : BudgetEvent) : BudgetSystem :=
  match e.call with
  | .acquire url aborted =>
    match canonicalOrigin env.toSchedulerEnv url with
    | .error _ => s
    | .ok origin => if aborted then s else s.tryAcquire configuration origin e.nowMs s.waiting
  | .wake waiter aborted =>
    match s.waiting[waiter]? with
    | none => s
    | some origin =>
      if aborted then { s with waiting := s.waiting.eraseIdx waiter }
      else s.tryAcquire configuration origin e.nowMs (s.waiting.eraseIdx waiter)
  | .interrupt waiter => { s with waiting := s.waiting.eraseIdx waiter }
  | .release ticket =>
    match s.permits.granted[ticket]? with
    | none => s
    | some permit =>
      -- the second release of a permit does nothing
      if (ticket, permit) ∈ s.permits.live then
        { s with states := releasePermit permit.origin s.states, permits := s.permits.giveBack ticket permit }
      else s
  | .isPaused url => { s with states := (isPaused env configuration url e.nowMs s.states).2 }
  | .recordResponse input => { s with states := (recordResponse env configuration input e.nowMs s.states).2 }
  | .restore input => { s with states := (restore env configuration input e.nowMs s.states).2 }
  | .restoreRow row => { s with states := (restoreRow env configuration row e.nowMs s.states).2 }
  | .snapshot url => { s with states := (snapshot env configuration url e.nowMs s.states).2 }

/-- The system after the first `n` calls. -/
def budgetAt (es : List BudgetEvent) (n : ℕ) : BudgetSystem :=
  Run.stAt (BudgetSystem.step env configuration) .start es n

end OfflineWebArchiver.Scheduler
