import OfflineWebArchiver.Persistence.Session

/-!
# The page queue

`createSqliteQueueRepository`: jobs enter with `enqueue`, are handed out by
`claimNext`, and leave through `complete`, `fail`, `skip`, `block` and
`clearPending`. A failed job with attempts left waits in `retrying` until
`releaseDueRetries` takes it back.

* `idempotent`: every writing call goes through the ledger of operations.
* `validateFencedClaim`: a job that was ever leased is finished only under its
  active lease.
-/

namespace OfflineWebArchiver

open Relational Program

namespace Queue

variable (env : Env)

def queueTransaction {α : Type} : M α → M α :=
  transaction (fun | .queue .. => true | _ => false)
    fun _ => .queue .transactionFailed "The queue transaction failed safely" true

/-- `validateOwnership(projectId, runId)`. -/
def validateOwnership (projectId runId : String) : M Unit := do
  let db ← database
  require (projectId == db.project.projectId)
    (queueError .projectNotOpen "The queue Project does not match the open Project")
  require (db.project.runs.contains runId)
    (queueError .runNotFound "The selected Run does not belong to the Project")

/-- `validateFencedClaim(job, claimToken)`. -/
def validateFencedClaim (job : PageJob) (claimToken : String) : M Unit := do
  if job.fencingGeneration = 0 then return
  let invalid := queueError .claimTokenInvalid
    "The active Lease and Fencing Generation do not authorize this operation"
  let db ← database
  let lease ← orThrow (db.jobLeases.find fun l =>
    l.jobId == job.jobId && l.runId == job.runId && l.status == .active) invalid
  require (lease.leaseTokenHash == env.hashText claimToken &&
    lease.fencingGeneration == job.fencingGeneration) invalid
  let time ← now
  require (time < lease.expiresAt) invalid

/-- `idempotent({ projectId, runId, operationType, idempotencyKey, request }, operation)`. -/
def idempotent (projectId runId : String) (operationType : OperationType) (idempotencyKey : String)
    (request : Json) (operation : M StoredResult) : M StoredResult := do
  check (assertIdempotencyKey idempotencyKey "idempotencyKey")
  let requestHash := env.hash request
  let db ← database
  let existing := if projectId = db.project.projectId then
      db.queueOperations.find fun o =>
        o.operationType == operationType && o.idempotencyKey == idempotencyKey
    else none
  match existing with
  | some existing =>
    require (existing.requestHash == requestHash) (queueError .operationIdempotencyConflict
      "The idempotency key was already used for a different request")
    return existing.result
  | none =>
    let result ← operation
    let operationRecordId ← freshId
    let createdAt ← now
    insertOperation { operationRecordId, runId, operationType, idempotencyKey, requestHash, result,
                      createdAt }
    return result

/-- `transition({ jobId, from, to, reasonCode, … })`. -/
def transition (jobId : String) (source : Option PageJobState) (target : PageJobState)
    (reasonCode operationId correlationId : String) (occurredAt : Timestamp)
    (metadata : Json := .obj []) : M Unit := do
  check (assertTransitionFrom source target)
  let transitionId ← freshId
  insertTransition { transitionId, jobId, fromState := source, toState := target, reasonCode,
                     operationId, correlationId, occurredAt, safeMetadata := metadata }

/-! ### Enqueue -/

/-- `blockedReasons(reasons)`. -/
def blockedReasons (reasons : List String) : Bool :=
  reasons.any fun reason => reason == "PROFILE_AUTHORIZATION_INCOMPLETE" ||
    reason == "PRIVATE_NETWORK_NOT_ALLOWED" || "_DENIED".toList.isSuffixOf reason.toList

/-- `validateEnqueue(input)`. -/
def validateEnqueue (input : QueueEnqueueInput) : M Unit := do
  validateOwnership input.projectId input.runId
  check (assertAttemptPolicy 0 input.maxAttempts)
  check (assertOptionalPriority input.requestedPriority)
  require (0 ≤ input.scopeDecision.depth) (queueError .inputInvalid "Scope depth is invalid")
  let db ← database
  let mismatch := queueError .profileRevisionMismatch
    "The Scope Decision Profile revision is not stored in the Project"
  let profile ← orThrow (db.project.profiles.find? fun p =>
    p.profileRevisionId == input.scopeDecision.profileRevisionId) mismatch
  require (profile.profileId == input.scopeDecision.profileId) mismatch
  require (profile.engineVersion == input.scopeDecision.engineVersion)
    (queueError .engineVersionMismatch
      "The Scope Decision engine version does not match the Profile revision")
  require (db.project.projectRevisions.contains input.projectRevisionId)
    (queueError .profileRevisionMismatch "The Project revision does not belong to the Project")
  match input.sourceContext.parentJobId.orNull with
  | some parentJobId => let _ ← getJobRow input.projectId input.runId parentJobId
  | none => pure ()

/-- The request part of `hash({ parentJobId, safeSourceUrl, … })`. -/
def discoveryKeyOf (input : QueueEnqueueInput) : Json :=
  .obj [("parentJobId", .ofText? input.sourceContext.parentJobId.orNull),
    ("safeSourceUrl", .ofText? input.sourceContext.safeSourceUrl.orNull),
    ("discoveryType", .str input.sourceContext.discoveryType.text),
    ("sourceDepth", (input.sourceContext.sourceDepth.orNull.map Json.num).getD .null),
    ("resultDepth", .num input.scopeDecision.depth),
    ("scopeDecisionId", .str input.scopeDecision.decisionId)]

/-- `insertDiscovery(input, childJobId, timestamp)`. -/
def insertDiscovery (input : QueueEnqueueInput) (childJobId : String) (timestamp : Timestamp) :
    M JobDiscoveryRow := do
  let sourceDepth := input.sourceContext.sourceDepth.orNull
  require (sourceDepth.all (0 ≤ ·)) (queueError .inputInvalid "Source depth is invalid")
  let safeSourceUrl := input.sourceContext.safeSourceUrl.orNull
  require (safeSourceUrl.all fun url => utf16Length url.toList ≤ 8192)
    (queueError .inputInvalid "Safe source URL exceeds the queue limit")
  let discoveryKey := env.hash (discoveryKeyOf input)
  let discoveryId ← freshId
  insertJobDiscovery
    { discoveryId, discoveryKey, runId := input.runId
      parentJobId := input.sourceContext.parentJobId.orNull, childJobId, safeSourceUrl
      discoveryType := input.sourceContext.discoveryType, sourceDepth
      resultDepth := input.scopeDecision.depth
      scopeDecisionId := input.scopeDecision.decisionId, discoveredAt := timestamp }
  let db ← database
  -- `rowToDiscovery(undefined)` is a `TypeError` when the insert was ignored for another key
  orThrow (db.jobDiscoveries.find fun d => d.childJobId == childJobId && d.discoveryKey == discoveryKey)
    (.error "Cannot read properties of undefined")

/-- The row that `enqueueInTransaction` inserts. -/
def newJobRow (input : QueueEnqueueInput) (queueSequence : ℕ) (jobId : String)
    (normalizedUrl identityUrl identityHash safeDisplayUrl : String)
    (priority : ℕ × PrioritySource) (timestamp : Timestamp) : PageJobRow where
  queueSequence := queueSequence
  jobId := jobId
  runId := input.runId
  projectRevisionId := input.projectRevisionId
  profileId := input.scopeDecision.profileId
  profileRevisionId := input.scopeDecision.profileRevisionId
  normalizationEngineVersion := input.scopeDecision.engineVersion
  normalizedUrl := normalizedUrl
  identityUrl := identityUrl
  safeDisplayUrl := safeDisplayUrl
  identityHash := identityHash
  scopeDecisionId := input.scopeDecision.decisionId
  scopeReasonCode := input.scopeDecision.reasonCodes.head?.getD "URL_ACCEPTED"
  state := .pending
  recoveryState := none
  priority := priority.1
  prioritySource := priority.2
  depth := input.scopeDecision.depth.toNat
  discoveryType := input.sourceContext.discoveryType
  attemptCount := 0
  fencingGeneration := 0
  maxAttempts := input.maxAttempts.toNat
  nextEligibleAt := timestamp
  claimToken := none
  claimedBy := none
  claimedAt := none
  lastAttemptAt := none
  completedAt := none
  failedAt := none
  completionKey := none
  resultVersion := none
  resultSummary := none
  lastErrorCode := none
  lastErrorCategory := none
  lastErrorMessage := none
  createdAt := timestamp
  updatedAt := timestamp
  queuedAt := timestamp

/-- The four nullable texts of a decision that may be queued. -/
def queueable (decision : QueueScopeDecisionSnapshot) : Option (String × String × String × String) := do
  let identityHash ← decision.identityHash
  let identityUrl ← decision.identityUrl
  let normalizedUrl ← decision.normalizedUrl
  let displayUrl ← decision.displayUrl
  if decision.eligible && decision.shouldQueue then
    some (normalizedUrl, identityUrl, identityHash, displayUrl)
  else none

/-- The page limit of a new job; `false` when it is reached. -/
def withinPageLimit (input : QueueEnqueueInput) : M Bool := do
  match input.maxPages with
  | none => return true
  | some maxPages =>
    require (0 ≤ maxPages) (queueError .inputInvalid "Maximum pages is invalid")
    let db ← database
    let count := db.pageJobs.count fun a =>
      a.runId == input.runId && a.profileRevisionId == input.scopeDecision.profileRevisionId &&
      a.normalizationEngineVersion == input.scopeDecision.engineVersion
    return count < maxPages

/-- An existing job keeps the smaller depth. -/
def lowerDepth (job : PageJob) (depth : ℕ) (timestamp : Timestamp) : M Unit :=
  if depth ≠ job.depth then do
    let _ ← updateJobs (fun a => a.jobId == job.jobId)
      fun a => { a with depth := depth, updatedAt := timestamp }
  else pure ()

/-- `enqueueInTransaction(input)`. -/
def enqueueInTransaction (input : QueueEnqueueInput) : M QueueEnqueueResult := do
  validateEnqueue input
  let timestamp ← now
  insertScopeDecision { runId := input.runId, decision := input.scopeDecision, recordedAt := timestamp }
  let decision := input.scopeDecision
  match queueable decision with
  | none =>
    return if blockedReasons decision.reasonCodes then .blocked decision.reasonCodes
      else .rejected decision.reasonCodes
  | some (normalizedUrl, identityUrl, identityHash, displayUrl) =>
    let db ← database
    match db.pageJobs.find fun a => a.runId == input.runId &&
        a.profileRevisionId == decision.profileRevisionId &&
        a.normalizationEngineVersion == decision.engineVersion && a.identityHash == identityHash with
    | some existingRow =>
      let existing := rowToJob existingRow
      let depth ← check (minimumDepth existing.depth decision.depth)
      lowerDepth existing depth timestamp
      let discovery ← insertDiscovery env input existing.jobId timestamp
      let row ← getJobRow input.projectId input.runId existing.jobId
      return .existing (rowToJob row) discovery
    | none =>
      if !(← withinPageLimit input) then return .rejected ["PAGE_LIMIT_REACHED"]
      let priority ← check
        (calculatePriority input.sourceContext.discoveryType input.requestedPriority)
      let jobId ← freshId
      let db ← database
      -- the foreign key of `page_jobs` to `scope_decisions`
      require (db.scopeDecisions.find fun d =>
        d.decision.decisionId == decision.decisionId && d.runId == input.runId).isSome
        (.error "FOREIGN KEY constraint failed")
      insertJob (newJobRow input (db.pageJobs.rows.length + 1) jobId normalizedUrl identityUrl
        identityHash displayUrl priority timestamp)
      transition jobId none .pending "QUEUE_JOB_CREATED" input.operationId input.correlationId timestamp
        (.obj [("priority", .num priority.1), ("depth", .num decision.depth)])
      let discovery ← insertDiscovery env input jobId timestamp
      let row ← getJobRow input.projectId input.runId jobId
      return .created (rowToJob row) discovery

/-- The request that the ledger hashes: the input without its keys. -/
def enqueueRequest (input : QueueEnqueueInput) : Json :=
  let d := input.scopeDecision
  let c := input.sourceContext
  .obj ([("projectId", .str input.projectId), ("runId", .str input.runId),
    ("projectRevisionId", .str input.projectRevisionId),
    ("scopeDecision", .obj [("decisionId", .str d.decisionId), ("engineVersion", .num d.engineVersion),
      ("profileId", .str d.profileId), ("profileRevisionId", .str d.profileRevisionId),
      ("eligible", .bool d.eligible), ("shouldQueue", .bool d.shouldQueue),
      ("reasonCodes", .arr (d.reasonCodes.map .str)), ("normalizedUrl", .ofText? d.normalizedUrl),
      ("identityUrl", .ofText? d.identityUrl), ("identityHash", .ofText? d.identityHash),
      ("displayUrl", .ofText? d.displayUrl), ("depth", .num d.depth),
      ("matchedRuleIds", .arr (d.matchedRuleIds.map .str))]),
    ("sourceContext", .obj (Json.field? "parentJobId" (c.parentJobId.map Json.ofText?) ++
      Json.field? "safeSourceUrl" (c.safeSourceUrl.map Json.ofText?) ++
      [("discoveryType", .str c.discoveryType.text)] ++
      Json.field? "sourceDepth" (c.sourceDepth.map fun d => (d.map Json.num).getD .null)))] ++
    Json.field? "requestedPriority" (input.requestedPriority.map Json.num) ++
    [("maxAttempts", .num input.maxAttempts),
      ("maxPages", (input.maxPages.map Json.num).getD .null)])

/-- `enqueue(input)`. -/
def enqueue (input : QueueEnqueueInput) : M StoredResult :=
  queueTransaction <|
    idempotent env input.projectId input.runId .enqueue input.idempotencyKey (enqueueRequest input) do
      return .enqueued (← enqueueInTransaction env input)

/-! ### Claiming -/

/-- `ORDER BY priority DESC, next_eligible_at ASC, depth ASC, queue_sequence ASC, job_id ASC`. -/
def claimOrder (a b : PageJobRow) : Prop :=
  b.priority < a.priority ∨ a.priority = b.priority ∧
    (a.nextEligibleAt < b.nextEligibleAt ∨ a.nextEligibleAt = b.nextEligibleAt ∧
      (a.depth < b.depth ∨ a.depth = b.depth ∧
        (a.queueSequence < b.queueSequence ∨ a.queueSequence = b.queueSequence ∧ a.jobId ≤ b.jobId)))

instance : DecidableRel claimOrder := fun a b => by unfold claimOrder; exact inferInstance

/-- `claimNext(input)`. -/
def claimNext (input : ClaimNextInput) : M StoredResult :=
  queueTransaction do
    validateOwnership input.projectId input.runId
    idempotent env input.projectId input.runId .claimNext input.idempotencyKey
      (.obj [("projectId", .str input.projectId), ("runId", .str input.runId),
        ("claimedBy", .str input.claimedBy)]) do
      let timestamp ← now
      let db ← database
      match (db.pageJobs.select (fun a => a.runId == input.runId && a.state == .pending &&
          a.nextEligibleAt ≤ timestamp) claimOrder).head? with
      | none => return .job none
      | some row =>
        let job := rowToJob row
        require (job.attemptCount < job.maxAttempts)
          (queueError .maxAttemptsReached "The selected Job has exhausted its attempts")
        let claimToken ← freshId
        let attemptNumber := job.attemptCount + 1
        let changes ← updateJobs (fun a => a.jobId == job.jobId && a.state == .pending) fun a =>
          { a with state := .processing, claimToken := some claimToken, claimedBy := some input.claimedBy
                   claimedAt := some timestamp, lastAttemptAt := some timestamp
                   attemptCount := attemptNumber, updatedAt := timestamp }
        require (changes == 1) (queueError .claimConflict "Another caller claimed the Page Job")
        let attemptId ← freshId
        insertAttempt
          { attemptId, jobId := job.jobId, attemptNumber, claimToken, startedAt := timestamp
            finishedAt := none, outcome := .processing, recoveryOutcome := none, errorCode := none
            errorCategory := none, safeErrorMessage := none, metadata := .obj [] }
        transition job.jobId (some .pending) .processing "QUEUE_JOB_CLAIMED" input.operationId
          input.correlationId timestamp (.obj [("attemptNumber", .num attemptNumber)])
        let row ← getJobRow input.projectId input.runId job.jobId
        return .job (some (rowToJob row))

/-! ### Finishing -/

/-- Close the attempt that holds the token. -/
def finishAttempt (jobId : String) (claimToken : Option String)
    (f : JobAttemptRow → JobAttemptRow) : M Unit :=
  updateAttempts (fun t => t.jobId == jobId && some t.claimToken == claimToken && t.finishedAt.isNone) f

/-- Close the lease of the job's generation, when the job was ever leased. -/
def releaseJobLease (job : PageJob) (releasedAt : Timestamp) (releaseReason operationId : String) :
    M Unit :=
  if 0 < job.fencingGeneration then
    updateLeases (fun l => l.jobId == job.jobId && l.fencingGeneration == job.fencingGeneration &&
        l.status == .active)
      fun l => { l with status := .released, releasedAt := some releasedAt
                        releaseReason := some releaseReason, lastOperationId := operationId }
  else pure ()

/-- `complete(input)`. -/
def complete (input : CompleteInput) : M StoredResult :=
  queueTransaction do
    validateOwnership input.projectId input.runId
    check (assertIdempotencyKey input.completionKey "completionKey")
    check (assertUtcTimestamp input.completedAt "completedAt")
    check (validateResultSummary input.resultSummary)
    idempotent env input.projectId input.runId .complete input.idempotencyKey
      (.obj [("projectId", .str input.projectId), ("runId", .str input.runId),
        ("jobId", .str input.jobId), ("claimToken", .str input.claimToken),
        ("completionKey", .str input.completionKey), ("resultSummary", input.resultSummary.toJson),
        ("completedAt", .str input.completedAt)]) do
      let row ← getJobRow input.projectId input.runId input.jobId
      let job := rowToJob row
      let resultJson := input.resultSummary.toJson.canonicalJson
      if job.state = .completed then
        let db ← database
        let completedAttempt := (db.jobAttempts.select
          (fun t => t.jobId == job.jobId && t.outcome == .completed)
          fun s t => t.attemptNumber ≤ s.attemptNumber).head?
        require (job.completionKey == some input.completionKey &&
            job.resultSummary.map (·.toJson.canonicalJson) == some resultJson &&
            completedAttempt.map (·.claimToken) == some input.claimToken)
          (queueError .completionConflict "The Page Job already has a different completion result")
        return .job (some job)
      require (job.state == .processing)
        (queueError .jobStateConflict "Only a processing Page Job may complete")
      require (job.claimToken == some input.claimToken)
        (queueError .claimTokenInvalid "The completion claim token is invalid")
      validateFencedClaim env job input.claimToken
      let _ ← updateJobs (fun a => a.jobId == job.jobId) fun a =>
        { a with state := .completed, claimToken := none, claimedBy := none
                 completedAt := some input.completedAt, completionKey := some input.completionKey
                 resultVersion := some 1, resultSummary := some input.resultSummary
                 updatedAt := input.completedAt }
      finishAttempt job.jobId (some input.claimToken) fun t =>
        { t with finishedAt := some input.completedAt, outcome := .completed
                 metadata := .obj [("resultVersion", .num 1)] }
      releaseJobLease job input.completedAt "QUEUE_JOB_COMPLETED" input.operationId
      transition job.jobId (some .processing) .completed "QUEUE_JOB_COMPLETED" input.operationId
        input.correlationId input.completedAt (.obj [("resultVersion", .num 1)])
      let row ← getJobRow input.projectId input.runId job.jobId
      return .job (some (rowToJob row))

/-- `fail(input)`. -/
def fail (input : FailInput) : M StoredResult :=
  queueTransaction do
    validateOwnership input.projectId input.runId
    check (assertIdempotencyKey input.failureKey "failureKey")
    check (assertUtcTimestamp input.failedAt "failedAt")
    check (assertOptionalUtcTimestamp input.nextEligibleAt "nextEligibleAt")
    idempotent env input.projectId input.runId .fail input.idempotencyKey
      (.obj ([("projectId", .str input.projectId), ("runId", .str input.runId),
        ("jobId", .str input.jobId), ("claimToken", .str input.claimToken),
        ("failureKey", .str input.failureKey), ("failureCode", .str input.failureCode),
        ("failureCategory", .str input.failureCategory.text), ("retryable", .bool input.retryable),
        ("safeMessage", .str input.safeMessage), ("failedAt", .str input.failedAt)] ++
        Json.field? "nextEligibleAt" (input.nextEligibleAt.map Json.str))) do
      let row ← getJobRow input.projectId input.runId input.jobId
      let job := rowToJob row
      require (job.state == .processing)
        (queueError .jobStateConflict "Only a processing Page Job may fail")
      require (job.claimToken == some input.claimToken)
        (queueError .claimTokenInvalid "The failure claim token is invalid")
      validateFencedClaim env job input.claimToken
      let retry ← check (shouldRetry job.attemptCount job.maxAttempts input.retryable)
      require (!retry || input.nextEligibleAt.isSome)
        (queueError .inputInvalid "A retryable failure requires nextEligibleAt")
      let target : StoredState := if retry then .retrying else .failed
      let outcome : AttemptOutcome := if retry then .retrying else .failed
      let nextEligibleAt := if retry then input.nextEligibleAt.getD input.failedAt else input.failedAt
      let safeMessage := sanitizeSafeMessage input.safeMessage
      let _ ← updateJobs (fun a => a.jobId == job.jobId) fun a =>
        { a with state := target, claimToken := none, claimedBy := none
                 failedAt := if retry then none else some input.failedAt
                 nextEligibleAt := nextEligibleAt, lastErrorCode := some input.failureCode
                 lastErrorCategory := some input.failureCategory, lastErrorMessage := some safeMessage
                 updatedAt := input.failedAt }
      finishAttempt job.jobId (some input.claimToken) fun t =>
        { t with finishedAt := some input.failedAt, outcome := outcome
                 errorCode := some input.failureCode, errorCategory := some input.failureCategory
                 safeErrorMessage := some safeMessage
                 metadata := .obj [("failureKey", .str input.failureKey),
                   ("retryable", .bool input.retryable)] }
      releaseJobLease job input.failedAt (if retry then "QUEUE_JOB_RETRYING" else "QUEUE_JOB_FAILED")
        input.operationId
      transition job.jobId (some .processing) target.toJobState input.failureCode input.operationId
        input.correlationId input.failedAt
        (.obj [("retryable", .bool input.retryable), ("attemptNumber", .num job.attemptCount)])
      let row ← getJobRow input.projectId input.runId job.jobId
      return .job (some (rowToJob row))

/-- The two targets of `terminalAction`. -/
inductive TerminalTarget
  | skipped | blocked
  deriving DecidableEq

def TerminalTarget.state : TerminalTarget → StoredState
  | skipped => .skipped | blocked => .blocked

def TerminalTarget.outcome : TerminalTarget → AttemptOutcome
  | skipped => .skipped | blocked => .blocked

def TerminalTarget.operationType : TerminalTarget → OperationType
  | skipped => .skipped | blocked => .blocked

def TerminalTarget.text : TerminalTarget → String
  | skipped => "skipped" | blocked => "blocked"

/-- `QUEUE_JOB_${target.toUpperCase()}`. -/
def TerminalTarget.releaseReason : TerminalTarget → String
  | skipped => "QUEUE_JOB_SKIPPED" | blocked => "QUEUE_JOB_BLOCKED"

/-- A processing job is ended only by the holder of its claim. -/
def assertTerminalClaim (job : PageJob) (claimToken : Option String) : M Unit :=
  if job.state = .processing then do
    let claimToken ← orThrow claimToken
      (queueError .claimTokenInvalid "The claim token does not own the processing Job")
    require (job.claimToken == some claimToken)
      (queueError .claimTokenInvalid "The claim token does not own the processing Job")
    validateFencedClaim env job claimToken
  else pure ()

/-- Close the attempt and the lease of a processing job. -/
def endProcessing (target : TerminalTarget) (job : PageJob) (reasonCode message : String)
    (timestamp : Timestamp) (operationId : String) : M Unit :=
  if job.state = .processing then do
    finishAttempt job.jobId job.claimToken fun t =>
      { t with finishedAt := some timestamp, outcome := target.outcome, errorCode := some reasonCode
               errorCategory := some .domain, safeErrorMessage := some message }
    releaseJobLease job timestamp target.releaseReason operationId
  else pure ()

/-- `terminalAction(target, input)`. -/
def terminalAction (target : TerminalTarget) (input : TerminalActionInput) : M StoredResult :=
  queueTransaction do
    validateOwnership input.projectId input.runId
    idempotent env input.projectId input.runId target.operationType input.idempotencyKey
      (.obj ([("projectId", .str input.projectId), ("runId", .str input.runId),
        ("jobId", .str input.jobId), ("reasonCode", .str input.reasonCode),
        ("safeMessage", .str input.safeMessage)] ++
        Json.field? "claimToken" (input.claimToken.map Json.str))) do
      let row ← getJobRow input.projectId input.runId input.jobId
      let job := rowToJob row
      require (job.state == .pending || job.state == .processing)
        (queueError .jobStateConflict
          ("Only pending or processing Jobs may become " ++ target.text))
      assertTerminalClaim env job input.claimToken
      let timestamp ← now
      let message := sanitizeSafeMessage input.safeMessage
      let _ ← updateJobs (fun a => a.jobId == job.jobId) fun a =>
        { a with state := target.state, claimToken := none, claimedBy := none, updatedAt := timestamp
                 lastErrorCode := some input.reasonCode, lastErrorCategory := some .domain
                 lastErrorMessage := some message }
      endProcessing target job input.reasonCode message timestamp input.operationId
      transition job.jobId (some job.state) target.state.toJobState input.reasonCode input.operationId
        input.correlationId timestamp
      let row ← getJobRow input.projectId input.runId job.jobId
      return .job (some (rowToJob row))

/-- `skip(input)`. -/
def skip (input : TerminalActionInput) : M StoredResult := terminalAction env .skipped input

/-- `block(input)`. -/
def block (input : TerminalActionInput) : M StoredResult := terminalAction env .blocked input

/-! ### Retries and clearing -/

/-- `scheduleRetry(input)`. -/
def scheduleRetry (input : ScheduleRetryInput) : M StoredResult :=
  queueTransaction do
    validateOwnership input.projectId input.runId
    check (assertUtcTimestamp input.nextEligibleAt "nextEligibleAt")
    idempotent env input.projectId input.runId .scheduleRetry input.idempotencyKey
      (.obj [("projectId", .str input.projectId), ("runId", .str input.runId),
        ("jobId", .str input.jobId), ("nextEligibleAt", .str input.nextEligibleAt),
        ("reasonCode", .str input.reasonCode)]) do
      let row ← getJobRow input.projectId input.runId input.jobId
      let job := rowToJob row
      require (job.state == .retrying)
        (queueError .retryNotAllowed "Only a retrying Page Job can be scheduled")
      require (job.attemptCount < job.maxAttempts)
        (queueError .maxAttemptsReached "The Page Job has no remaining attempts")
      let timestamp ← now
      let _ ← updateJobs (fun a => a.jobId == job.jobId) fun a =>
        { a with nextEligibleAt := input.nextEligibleAt, updatedAt := timestamp }
      let row ← getJobRow input.projectId input.runId job.jobId
      return .job (some (rowToJob row))

/-- `ORDER BY next_eligible_at ASC, queue_sequence ASC, job_id ASC`. -/
def retryOrder (a b : PageJobRow) : Prop :=
  a.nextEligibleAt < b.nextEligibleAt ∨ a.nextEligibleAt = b.nextEligibleAt ∧
    (a.queueSequence < b.queueSequence ∨ a.queueSequence = b.queueSequence ∧ a.jobId ≤ b.jobId)

instance : DecidableRel retryOrder := fun a b => by unfold retryOrder; exact inferInstance

/-- One pass of the loop of `releaseDueRetries`. -/
def releaseRetry (input : ReleaseDueRetriesInput) (jobs : List PageJob) (row : PageJobRow) :
    M (List PageJob) := do
  let job := rowToJob row
  let _ ← updateJobs (fun a => a.jobId == job.jobId && a.state == .retrying) fun a =>
    { a with state := .pending, updatedAt := input.dueAt }
  transition job.jobId (some .retrying) .pending "QUEUE_RETRY_RELEASED" input.operationId
    input.correlationId input.dueAt
  let row ← getJobRow input.projectId input.runId job.jobId
  return jobs ++ [rowToJob row]

/-- `releaseDueRetries(input)`. -/
def releaseDueRetries (input : ReleaseDueRetriesInput) : M StoredResult :=
  queueTransaction do
    validateOwnership input.projectId input.runId
    check (assertUtcTimestamp input.dueAt "dueAt")
    require (1 ≤ input.limit && input.limit ≤ 200)
      (queueError .paginationLimitExceeded "Retry release limit is invalid")
    idempotent env input.projectId input.runId .releaseDueRetries input.idempotencyKey
      (.obj [("projectId", .str input.projectId), ("runId", .str input.runId),
        ("dueAt", .str input.dueAt), ("limit", .num input.limit)]) do
      let db ← database
      let rows := (db.pageJobs.select (fun a => a.runId == input.runId && a.state == .retrying &&
        a.nextEligibleAt ≤ input.dueAt && a.attemptCount < a.maxAttempts) retryOrder).take
          input.limit.toNat
      let jobs ← rows.foldlM (releaseRetry input) []
      return .jobs jobs

/-- One pass of the loop of `clearPending`. -/
def clearJob (input : ClearPendingInput) (timestamp : Timestamp) (row : PageJobRow) : M Unit := do
  let _ ← updateJobs (fun a => a.jobId == row.jobId && a.state == .pending) fun a =>
    { a with state := .skipped, lastErrorCode := some input.reasonCode
             lastErrorCategory := some .domain
             lastErrorMessage := some "Pending queue cleared by explicit local operation."
             updatedAt := timestamp }
  transition row.jobId (some .pending) .skipped input.reasonCode input.operationId
    input.correlationId timestamp

/-- `clearPending(input)`. -/
def clearPending (input : ClearPendingInput) : M StoredResult := do
  require (input.confirmation == "CLEAR-PENDING-QUEUE")
    (queueError .clearNotAllowed "The queue-clear confirmation is invalid")
  queueTransaction do
    validateOwnership input.projectId input.runId
    idempotent env input.projectId input.runId .clearPending input.idempotencyKey
      (.obj [("projectId", .str input.projectId), ("runId", .str input.runId),
        ("confirmation", .str input.confirmation), ("reasonCode", .str input.reasonCode)]) do
      let timestamp ← now
      let db ← database
      let rows := db.pageJobs.select (fun a => a.runId == input.runId && a.state == .pending)
        fun a b => a.queueSequence ≤ b.queueSequence
      rows.forM (clearJob input timestamp)
      return .skipped rows.length

end Queue

end OfflineWebArchiver
