import OfflineWebArchiver.Lib.Run
import OfflineWebArchiver.Scheduler.Budget
import OfflineWebArchiver.Scheduler.Ledger

/-!
# A run of the worker pool

`WorkerPoolScheduler.run`: the loop that hands jobs to the executor. The loop stops at each
`await`; executors settle, responses are observed and the signal is aborted in any order in
between. What an executor does before its first `await` comes right after its start.

* `RunState`: the lists of `run`, the place in its loop, the pool and the budget.
* `RunState.step`: the loop goes on, or something outside happens.
-/

namespace OfflineWebArchiver.Scheduler

def SchedulerOperationErrorCode.text : SchedulerOperationErrorCode → String
  | .configInvalid => "SCHEDULER_CONFIG_INVALID"
  | .jobInvalid => "SCHEDULER_JOB_INVALID"
  | .noEligibleProxy => "SCHEDULER_NO_ELIGIBLE_PROXY"
  | .affinityConflict => "SCHEDULER_AFFINITY_CONFLICT"
  | .capacityExhausted => "SCHEDULER_CAPACITY_EXHAUSTED"
  | .originRateLimited => "SCHEDULER_ORIGIN_RATE_LIMITED"
  | .cancelled => "SCHEDULER_CANCELLED"
  | .claimSkipped => "SCHEDULER_CLAIM_SKIPPED"
  | .workerStartFailed => "WORKER_START_FAILED"
  | .workerContextFailed => "WORKER_CONTEXT_FAILED"
  | .workerLeaseLost => "WORKER_LEASE_LOST"
  | .workerStaleGeneration => "WORKER_STALE_GENERATION"
  | .workerCrashed => "WORKER_CRASHED"
  | .proxyCircuitOpen => "PROXY_CIRCUIT_OPEN"
  | .proxyHalfOpenFailed => "PROXY_HALF_OPEN_FAILED"
  | .staleCommitRejected => "STALE_COMMIT_REJECTED"
  | .persistenceFailed => "SCHEDULER_PERSISTENCE_FAILED"

/-- What an executor throws: a `SchedulerOperationError`, another `Error`, or anything else. -/
inductive Thrown
  | scheduler (code : SchedulerOperationErrorCode)
  | error (name : String)
  | other
  deriving DecidableEq

/-- `safeErrorCode(error)`. -/
def safeErrorCode : Thrown → String
  | .scheduler code => code.text
  | .error name => if matchesSafeIdentifier name then name else "WORKER_EXECUTION_FAILED"
  | .other => "WORKER_EXECUTION_FAILED"

/-- `safeFailureCategory(error)`. -/
def safeFailureCategory : Thrown → SchedulerFailureCategory
  | .scheduler .cancelled => .cancelled
  | .scheduler .proxyCircuitOpen | .scheduler .proxyHalfOpenFailed | .scheduler .noEligibleProxy => .proxy
  | .scheduler .originRateLimited => .originRateLimit
  | .scheduler .workerContextFailed | .scheduler .workerCrashed => .browser
  | _ => .unknown

/-- How the call of an executor settles. -/
inductive ExecutorOutcome (α : Type)
  | returned (value : α)
  | thrown (error : Thrown)

/-- What a run reads of its configuration; it is validated. -/
structure RunConfiguration extends WorkerPoolConfiguration, BudgetConfiguration where
  globalWorkerConcurrency_pos : 1 ≤ globalWorkerConcurrency
  perOriginPageConcurrency_pos : 1 ≤ perOriginPageConcurrency

/-- The origin that `new URL` gives is a URL with this origin. -/
structure RunEnv extends BudgetEnv where
  canonical : ∀ url origin, canonicalOrigin toSchedulerEnv url = .ok origin →
    canonicalOrigin toSchedulerEnv origin = .ok origin

structure RunOptions where
  runId : String
  workerIdPrefix : String := "worker"
  proxies : List ProxyMetadata := []
  credentialAvailable : ProxyMetadata → Bool := fun _ => false

/-- What `normalizeSchedulerJob` returns: a job with its origin. -/
structure NormalizedJob (env : RunEnv) where
  job : SchedulerJob
  origin : String
  normal : normalizeSchedulerJob env.toSchedulerEnv job = .ok origin

/-- The call of an executor. It stays in the map `active` until its `finally` runs. -/
structure RunTask where
  ticket : ℕ
  reservation : WorkerReservation
  settled : Bool

structure FailedJob where
  jobId : String
  errorCode : String
  failureCategory : SchedulerFailureCategory
  deriving DecidableEq

/-- A job that is skipped or blocked. -/
structure DroppedJob where
  jobId : String
  reason : String
  deriving DecidableEq

/-- The place in the loop. `scan` is the `for` loop over the pending jobs, `scheduled` what
follows it, and `racing` waits until one of these tasks has settled. -/
inductive RunPhase
  | top
  | scan (index : ℕ)
  | scheduled
  | racing (tickets : List ℕ)
  | onWait (paused : OriginRateLimitSnapshot)
  | sleeping
  | returned
  | threw
  deriving DecidableEq

/-- `handed` has the jobs whose executor was called. -/
structure RunState (env : RunEnv) (α : Type) where
  pending : List (NormalizedJob env)
  active : List RunTask := []
  completed : List (String × α) := []
  failed : List FailedJob := []
  skipped : List DroppedJob := []
  blocked : List DroppedJob := []
  cancelled : Bool := false
  aborted : Bool := false
  sequence : ℕ := 0
  phase : RunPhase := .top
  handed : List String := []
  ledger : Ledger
  budget : BudgetSystem

/-- The loop takes its next step, with what the clock says each time it is read; or something
outside happens. A sleep is interrupted only by the signal. -/
inductive RunEvent (α : Type)
  | advance (clock : ℕ → ℤ)
  | waited (rejected : Bool)
  | woke (interrupted : Bool)
  | abort
  | settle (ticket : ℕ) (outcome : ExecutorOutcome α) (nowMs : ℤ)
  | forget (ticket : ℕ)
  | budget (event : BudgetEvent)

variable {α : Type} (env : RunEnv) (configuration : RunConfiguration) (options : RunOptions)

/-! ### Jobs -/

theorem normalizeSchedulerJob_normalized {env : SchedulerEnv} {job : SchedulerJob} {origin : String}
    (h : normalizeSchedulerJob env job = .ok origin) :
    normalizeSchedulerJob env { job with origin := some origin } = .ok origin := by
  unfold normalizeSchedulerJob at h ⊢
  split_ifs at h ⊢ with hid
  cases hurl : canonicalOrigin env job.url with
  | error e =>
    rw [hurl] at h
    cases h
  | ok found =>
    rw [hurl] at h
    cases hcheck : checkJob job found with
    | error e =>
      simp only [bind, Except.bind, hcheck] at h
      cases h
    | ok done =>
      simp only [bind, Except.bind, hcheck, pure, Except.pure, Except.ok.injEq] at h
      subst h
      -- the origin that was found agrees with itself
      have hagain : checkJob { job with origin := some found } found = .ok () := by
        unfold checkJob at hcheck ⊢
        simp only [Option.any_some, bne_self_eq_false, Bool.false_eq_true, if_false]
        split_ifs at hcheck ⊢
        exact hcheck
      simp [bind, Except.bind, hagain, pure, Except.pure]

/-- `normalizeSchedulerJob(input)` of a job of `run`. -/
def normalizeJob (job : SchedulerJob) : Except SchedulerError (NormalizedJob env) :=
  match h : normalizeSchedulerJob env.toSchedulerEnv job with
  | .error e => .error e
  | .ok origin => .ok ⟨{ job with origin := some origin }, origin, normalizeSchedulerJob_normalized h⟩

/-- The start of `run`: every job is normalized before the loop. -/
def RunState.start (jobs : List SchedulerJob) (ledger : Ledger) (budget : BudgetSystem) : RunState env α :=
  match jobs.mapM (normalizeJob env) with
  | .error _ => { pending := [], phase := .threw, ledger, budget }
  | .ok pending => { pending, ledger, budget }

variable {env}

/-! ### Scheduling -/

/-- What `tryReserveWorker` is given for the next job. -/
def reserveInput (job : NormalizedJob env) (sequence : ℕ) : ReserveInput where
  workerId := options.workerIdPrefix ++ "-" ++ toString sequence
  job := job.job
  proxies := options.proxies
  credentialAvailable := options.credentialAvailable

/-- The origin that `tryReserveWorker` asks the budget about, if it comes to that. -/
def askedOrigin (input : ReserveInput) (s : Pool) : Option String :=
  match normalizeSchedulerJob env.toSchedulerEnv input.job with
  | .error _ => none
  | .ok origin =>
    if matchesSafeIdentifier input.workerId && !s.has input.workerId &&
        s.workers.length < configuration.globalWorkerConcurrency &&
        s.originPages origin < configuration.perOriginPageConcurrency then some origin
    else none

/-- The answer of `isPaused` for a canonical origin. -/
def OriginBudgets.paused (b : OriginBudgets) (origin : String) (nowMs : ℤ) : Bool :=
  (b.state configuration.toBudgetConfiguration origin nowMs).cooling nowMs

/-- A question about an origin creates its state. -/
def OriginBudgets.asked (b : OriginBudgets) (origin : Option String) (nowMs : ℤ) : OriginBudgets :=
  match origin with
  | none => b
  | some origin => b.set origin (b.state configuration.toBudgetConfiguration origin nowMs)

namespace RunState

/-- `while (scheduled && pending.length > 0 && active.size < this.configuration.globalWorkerConcurrency)`. -/
def rescan (s : RunState env α) : RunState env α :=
  { s with
    phase := if !s.pending.isEmpty && s.active.length < configuration.globalWorkerConcurrency then .scan 0 else .scheduled }

/-- `while (pending.length > 0 || active.size > 0)`, and what precedes the scheduling. -/
def loopTop (s : RunState env α) : RunState env α :=
  if s.pending.isEmpty && s.active.isEmpty then { s with phase := .returned }
  else
    let s := { s with cancelled := s.cancelled || s.aborted }
    if s.cancelled then
      { s with
        skipped := s.skipped ++ s.pending.map fun job => ⟨job.job.jobId, "CANCELLED"⟩
        pending := []
        phase := .scheduled }
    else s.rescan configuration

/-- A reservation was made: the executor is called. -/
def begin (s : RunState env α) (job : NormalizedJob env) (r : WorkerReservation) (pool : Pool) : RunState env α :=
  { s with
    active := s.active ++ [⟨s.ledger.tickets.granted.length, r, false⟩]
    handed := s.handed ++ [job.job.jobId]
    ledger := ⟨pool, s.ledger.tickets.grant r⟩ }

/-- One job in the `for` loop over the pending jobs. -/
def scanStep (s : RunState env α) (clock : ℕ → ℤ) (index : ℕ) : RunState env α :=
  match s.pending[index]? with
  | none => { s with phase := .scheduled }
  | some candidate =>
    let sequence := s.sequence + 1
    let input := reserveInput options candidate sequence
    let answer := tryReserveWorker env.toSchedulerEnv configuration.toWorkerPoolConfiguration options.runId input
      (s.budget.states.paused configuration) clock s.ledger.pool
    let states := s.budget.states.asked configuration (@askedOrigin env configuration input s.ledger.pool) (clock 0)
    let s := { s with sequence, budget := { s.budget with states } }
    match answer with
    | (.ok none, pool) => { s with ledger := { s.ledger with pool }, phase := .scan (index + 1) }
    | (.ok (some r), pool) =>
      let s := { s with pending := s.pending.eraseIdx index }
      (s.begin candidate r pool).rescan configuration
    | (.error e, pool) =>
      let s : RunState env α := { s with
        pending := s.pending.eraseIdx index
        blocked := s.blocked ++ [⟨candidate.job.jobId, e.code.text⟩]
        ledger := { s.ledger with pool } }
      s.rescan configuration

end RunState

/-! ### Waiting -/

/-- `pending.map((job) => this.networkBudget.snapshot(job.origin, this.nowMs()))`; the clock is read
from place `i` on. -/
def takeSnapshots (clock : ℕ → ℤ) :
    List (NormalizedJob env) → ℕ → OriginBudgets → List OriginRateLimitSnapshot × OriginBudgets
  | [], _, b => ([], b)
  | job :: rest, i, b =>
    let (found, b) := snapshotOf configuration.toBudgetConfiguration job.origin (clock i) b
    let (others, b) := takeSnapshots clock rest (i + 1) b
    (found :: others, b)

/-- `snapshot.cooldownUntilMs !== null && snapshot.cooldownUntilMs > this.nowMs()`. -/
def OriginRateLimitSnapshot.cooling (found : OriginRateLimitSnapshot) (nowMs : ℤ) : Bool :=
  found.cooldownUntilMs.any ((nowMs : ℚ) < ·)

/-- The first snapshot that the next reading still finds in its cooldown. -/
def findPaused (clock : ℕ → ℤ) : List OriginRateLimitSnapshot → ℕ → Option OriginRateLimitSnapshot
  | [], _ => none
  | found :: rest, i => if found.cooling (clock i) then some found else findPaused clock rest (i + 1)

namespace RunState

/-- What follows the scheduling. The clock is read for each snapshot, for each look at one, and
for the last check. -/
def afterScheduling (s : RunState env α) (clock : ℕ → ℤ) : RunState env α :=
  if !s.active.isEmpty then { s with phase := .racing (s.active.map (·.ticket)) }
  else if !s.pending.isEmpty && !s.cancelled then
    let (found, states) := takeSnapshots configuration clock s.pending 0 s.budget.states
    let s := { s with budget := { s.budget with states } }
    match (findPaused clock found s.pending.length).filter (·.cooling (clock (2 * s.pending.length))) with
    | some paused => { s with phase := .onWait paused }
    | none =>
      let reason :=
        if configuration.connectionMode = .direct then "CAPACITY_EXHAUSTED" else "SCHEDULER_NO_ELIGIBLE_PROXY"
      { s with
        blocked := s.blocked ++ s.pending.map fun job => ⟨job.job.jobId, reason⟩
        pending := []
        phase := .top }
  else { s with phase := .top }

/-- The loop goes on to its next step. -/
def advance (s : RunState env α) (clock : ℕ → ℤ) : RunState env α :=
  match s.phase with
  | .top => s.loopTop configuration
  | .scan index => s.scanStep configuration options clock index
  | .scheduled => s.afterScheduling configuration clock
  | .racing tickets =>
    if tickets.all fun ticket => s.active.any (·.ticket == ticket) then s else { s with phase := .top }
  | _ => s

/-- The lists get what the executor of the job has brought. -/
def record (s : RunState env α) (jobId : String) : ExecutorOutcome α → RunState env α
  | .returned value => { s with completed := s.completed ++ [(jobId, value)] }
  | .thrown error =>
    let s := { s with cancelled := s.cancelled || error == Thrown.scheduler .cancelled }
    if error = .scheduler .claimSkipped then { s with skipped := s.skipped ++ [⟨jobId, "CLAIM_CONFLICT"⟩] }
    else { s with failed := s.failed ++ [⟨jobId, safeErrorCode error, safeFailureCategory error⟩] }

end RunState

/-- What `releaseWorker` is told. -/
def ExecutorOutcome.released : ExecutorOutcome α → Outcome
  | .returned _ => ⟨.completed, none, none⟩
  | .thrown error =>
    ⟨if error = .scheduler .claimSkipped then .cancelled else .failed, some (safeFailureCategory error), none⟩

namespace RunState

/-- The call of an executor settles: its worker is released. -/
def settle (s : RunState env α) (task : RunTask) (outcome : ExecutorOutcome α) (nowMs : ℤ) : RunState env α :=
  let pool := releaseWorker configuration.toWorkerPoolConfiguration task.reservation outcome.released nowMs s.ledger.pool
  let s : RunState env α := { s with
    active := s.active.map fun t => if t.ticket = task.ticket then { t with settled := true } else t
    ledger := ⟨pool, s.ledger.tickets.giveBack task.ticket task.reservation⟩ }
  s.record task.reservation.job.jobId outcome

def step (s : RunState env α) : RunEvent α → RunState env α
  | .advance clock => s.advance configuration options clock
  | .waited rejected =>
    match s.phase with
    | .onWait _ => { s with phase := if rejected then .threw else .sleeping }
    | _ => s
  | .woke interrupted =>
    match s.phase with
    | .sleeping => { s with phase := .top, cancelled := s.cancelled || (interrupted && s.aborted) }
    | _ => s
  | .abort => { s with aborted := true }
  | .settle ticket outcome nowMs =>
    match s.active.find? fun task => task.ticket == ticket && !task.settled with
    | none => s
    | some task => s.settle configuration task outcome nowMs
  | .forget ticket => { s with active := s.active.filter fun task => !(task.ticket == ticket && task.settled) }
  | .budget event => { s with budget := s.budget.step env.toBudgetEnv configuration.toBudgetConfiguration event }

end RunState

variable (env)

/-- The run after the first `n` events. -/
def poolRunAt (jobs : List SchedulerJob) (ledger : Ledger) (budget : BudgetSystem) (es : ℕ → RunEvent α) (n : ℕ) :
    RunState env α :=
  Liveness.runAt (RunState.step configuration options) (.start env jobs ledger budget) es n

end OfflineWebArchiver.Scheduler
