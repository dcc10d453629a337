import OfflineWebArchiver.Lib.Table
import OfflineWebArchiver.Persistence.Types

/-!
# The tables of the job store

One row type for each table, its schema with the `CHECK`s and unique keys of the
migrations, and the database as the record of its tables. A database file holds
one project, so the rows leave out the project's id.

* `rowToJob`, `rowToLease`: what callers see of a row.
* `Db.create`: the database of a new project.
-/

namespace OfflineWebArchiver

open Relational

/-- The columns of `page_jobs` that a `PageJob` shows as they are. -/
structure PageJobColumns where
  queueSequence : ℕ
  jobId : String
  runId : String
  projectRevisionId : String
  profileId : String
  profileRevisionId : String
  normalizationEngineVersion : ℕ
  normalizedUrl : String
  identityUrl : String
  safeDisplayUrl : String
  identityHash : String
  scopeDecisionId : String
  scopeReasonCode : String
  priority : ℕ
  prioritySource : PrioritySource
  depth : ℕ
  discoveryType : PageJobDiscoveryType
  attemptCount : ℕ
  fencingGeneration : ℕ
  maxAttempts : ℕ
  nextEligibleAt : Timestamp
  claimToken : Option String
  claimedBy : Option String
  claimedAt : Option Timestamp
  lastAttemptAt : Option Timestamp
  completedAt : Option Timestamp
  failedAt : Option Timestamp
  completionKey : Option String
  resultVersion : Option ℕ
  resultSummary : Option QueueResultSummary
  lastErrorCode : Option String
  lastErrorCategory : Option QueueFailureCategory
  lastErrorMessage : Option String
  createdAt : Timestamp
  updatedAt : Timestamp
  queuedAt : Timestamp

/-- A row of `page_jobs`. -/
structure PageJobRow extends PageJobColumns where
  state : StoredState
  recoveryState : Option RecoveryState

/-- `PageJob`. -/
structure PageJob extends PageJobColumns where
  state : PageJobState

/-- `rowToJob(row)`: the recovery state, when there is one, stands for the state. -/
def rowToJob (row : PageJobRow) : PageJob :=
  { row.toPageJobColumns with
    state := (row.recoveryState.map RecoveryState.toJobState).getD row.state.toJobState }

/-- Text length between two bounds. -/
def lengthBetween (low high : ℕ) (value : String) : Bool := low ≤ value.length && value.length ≤ high

def pageJobCheck (row : PageJobRow) : Bool :=
  0 < row.normalizationEngineVersion && lengthBetween 1 8192 row.normalizedUrl &&
  lengthBetween 1 8192 row.identityUrl && lengthBetween 1 8192 row.safeDisplayUrl &&
  row.identityHash.length == 64 && row.priority ≤ 1000 &&
  (1 ≤ row.maxAttempts && row.maxAttempts ≤ 100) &&
  row.resultVersion.all (0 < ·) &&
  row.attemptCount ≤ row.maxAttempts &&
  (if row.state = .processing then row.claimToken.isSome && row.claimedBy.isSome && row.claimedAt.isSome
    else row.claimToken.isNone && row.claimedBy.isNone) &&
  (if row.state = .completed then row.completedAt.isSome && row.completionKey.isSome &&
      row.resultVersion.isSome && row.resultSummary.isSome
    else row.completedAt.isNone) &&
  (row.state != .failed || row.failedAt.isSome && row.lastErrorCode.isSome && row.lastErrorCategory.isSome)

/-- The unique key of a logical page. -/
def sameIdentity (a b : PageJobRow) : Bool :=
  a.runId == b.runId && a.profileRevisionId == b.profileRevisionId &&
  a.normalizationEngineVersion == b.normalizationEngineVersion && a.identityHash == b.identityHash

def pageJobs : Schema PageJobRow where
  check := pageJobCheck
  conflict a b := a.queueSequence == b.queueSequence || a.jobId == b.jobId || sameIdentity a b

/-- A row of `job_attempts`. -/
structure JobAttemptRow where
  attemptId : String
  jobId : String
  attemptNumber : ℕ
  claimToken : String
  startedAt : Timestamp
  finishedAt : Option Timestamp
  outcome : AttemptOutcome
  recoveryOutcome : Option RecoveryState
  errorCode : Option String
  errorCategory : Option QueueFailureCategory
  safeErrorMessage : Option String
  metadata : Json

def jobAttempts : Schema JobAttemptRow where
  check row := 0 < row.attemptNumber
  conflict a b := a.attemptId == b.attemptId || a.claimToken == b.claimToken ||
    (a.jobId == b.jobId && a.attemptNumber == b.attemptNumber)

/-- A row of `job_transitions`. The recovery columns are `NULL` unless they are written. -/
structure JobTransitionRow where
  transitionId : String
  jobId : String
  fromState : Option PageJobState
  toState : PageJobState
  reasonCode : String
  operationId : String
  correlationId : String
  occurredAt : Timestamp
  safeMetadata : Json
  recoveryFromState : Option RecoveryState := none
  recoveryToState : Option RecoveryState := none

/-- A state that `from_state` and `to_state` may hold. -/
def PageJobState.isStored : PageJobState → Bool
  | interrupted | paused => false
  | _ => true

def jobTransitions : Schema JobTransitionRow where
  check row := row.fromState.all (·.isStored) && row.toState.isStored
  conflict a b := a.transitionId == b.transitionId

/-- `PageJobTransition`. -/
structure PageJobTransition where
  transitionId : String
  jobId : String
  fromState : Option PageJobState
  toState : PageJobState
  reasonCode : String
  operationId : String
  correlationId : String
  occurredAt : Timestamp

/-- `rowToTransition(row)`: a recovery column, when it is set, stands for the state beside it. -/
def rowToTransition (row : JobTransitionRow) : PageJobTransition where
  transitionId := row.transitionId
  jobId := row.jobId
  fromState := match row.recoveryFromState with
    | some state => some state.toJobState
    | none => row.fromState
  toState := (row.recoveryToState.map RecoveryState.toJobState).getD row.toState
  reasonCode := row.reasonCode
  operationId := row.operationId
  correlationId := row.correlationId
  occurredAt := row.occurredAt

/-- A row of `scope_decisions`. -/
structure ScopeDecisionRow where
  runId : String
  decision : QueueScopeDecisionSnapshot
  recordedAt : Timestamp

def scopeDecisions : Schema ScopeDecisionRow where
  check row := row.decision.decisionId.length == 64 && 0 < row.decision.engineVersion &&
    row.decision.identityHash.all (·.length == 64) && 0 ≤ row.decision.depth
  conflict a b := a.decision.decisionId == b.decision.decisionId && a.runId == b.runId

/-- A row of `job_discoveries`. -/
structure JobDiscoveryRow where
  discoveryId : String
  discoveryKey : String
  runId : String
  parentJobId : Option String
  childJobId : String
  safeSourceUrl : Option String
  discoveryType : PageJobDiscoveryType
  sourceDepth : Option ℤ
  resultDepth : ℤ
  scopeDecisionId : String
  discoveredAt : Timestamp

def jobDiscoveries : Schema JobDiscoveryRow where
  check row := row.sourceDepth.all (0 ≤ ·) && 0 ≤ row.resultDepth
  conflict a b := a.discoveryId == b.discoveryId ||
    (a.childJobId == b.childJobId && a.discoveryKey == b.discoveryKey)

/-- `QueueEnqueueResult`. -/
inductive QueueEnqueueResult
  | created (job : PageJob) (discovery : JobDiscoveryRow)
  | existing (job : PageJob) (discovery : JobDiscoveryRow)
  | rejected (reasonCodes : List String)
  | blocked (reasonCodes : List String)

/-- What a `result_json` holds. -/
inductive StoredResult
  | enqueued (result : QueueEnqueueResult)
  | job (job : Option PageJob)
  | jobs (jobs : List PageJob)
  | skipped (count : ℕ)
  | claimed (jobId : Option String)

/-- The `operation_type` of an operation with an idempotency key. -/
inductive OperationType
  | enqueue | claimNext | complete | fail | scheduleRetry | releaseDueRetries | skipped | blocked
  | clearPending | claimNextWithLease | claimJobWithLease
  deriving DecidableEq

/-- A row of `queue_operations`. -/
structure QueueOperationRow where
  operationRecordId : String
  runId : String
  operationType : OperationType
  idempotencyKey : String
  requestHash : String
  result : StoredResult
  createdAt : Timestamp

def queueOperations : Schema QueueOperationRow where
  check row := row.requestHash.length == 64
  conflict a b := a.operationRecordId == b.operationRecordId ||
    (a.operationType == b.operationType && a.idempotencyKey == b.idempotencyKey)

/-- A row of `run_control`. -/
structure RunControlRow where
  runId : String
  controlState : RunControlState
  runState : CrawlRunState
  requestedAt : Option Timestamp
  pausedAt : Option Timestamp
  updatedAt : Timestamp
  operationId : String

def runControl : Schema RunControlRow where
  check _ := true
  conflict a b := a.runId == b.runId

/-- `JobLease`: the columns of `job_leases` that callers see. -/
structure JobLease where
  leaseId : String
  jobId : String
  runId : String
  ownerId : String
  fencingGeneration : ℕ
  status : JobLeaseStatus
  acquiredAt : Timestamp
  heartbeatAt : Timestamp
  expiresAt : Timestamp
  releasedAt : Option Timestamp
  releaseReason : Option String

/-- A row of `job_leases`. -/
structure JobLeaseRow extends JobLease where
  leaseTokenHash : String
  lastOperationId : String

/-- `rowToLease(row)`. -/
def rowToLease (row : JobLeaseRow) : JobLease := row.toJobLease

def jobLeases : Schema JobLeaseRow where
  check row := lengthBetween 1 120 row.ownerId && row.leaseTokenHash.length == 64 &&
    0 < row.fencingGeneration
  conflict a b := a.leaseId == b.leaseId || a.leaseTokenHash == b.leaseTokenHash ||
    (a.jobId == b.jobId && a.fencingGeneration == b.fencingGeneration) ||
    (a.jobId == b.jobId && a.status == .active && b.status == .active)

/-- `LeaseClaim`. -/
structure LeaseClaim where
  job : PageJob
  lease : JobLease
  leaseToken : String

/-- A row of `job_checkpoints`; the sequence is the place in the table. -/
structure JobCheckpointRow where
  checkpointId : String
  jobId : String
  attemptNumber : ℕ
  checkpointVersion : ℕ
  fencingGeneration : ℕ
  ownerId : String
  phase : String
  progress : Rat
  relativePath : Option String
  payloadJson : String
  committed : Bool
  supersedesCheckpointId : Option String
  operationId : String
  createdAt : Timestamp

def jobCheckpoints : Schema JobCheckpointRow where
  check row := 0 < row.attemptNumber && 0 < row.checkpointVersion && 0 < row.fencingGeneration &&
    lengthBetween 1 120 row.ownerId && lengthBetween 1 120 row.phase &&
    0 ≤ row.progress && row.progress ≤ 1
  conflict a b := a.checkpointId == b.checkpointId ||
    (a.jobId == b.jobId && a.attemptNumber == b.attemptNumber &&
      a.fencingGeneration == b.fencingGeneration && a.operationId == b.operationId)

/-- A row of `completed_outputs`. -/
structure CompletedOutputRow where
  descriptorId : String
  jobId : String
  relativePath : String
  byteLength : ℕ
  sha256 : String
  verifiedAt : Option Timestamp
  verificationStatus : VerificationStatus

def completedOutputs : Schema CompletedOutputRow where
  check row := lengthBetween 1 2048 row.relativePath && row.sha256.length == 64
  conflict a b := a.descriptorId == b.descriptorId ||
    (a.jobId == b.jobId && a.relativePath == b.relativePath)

/-- `RecoveryInspectionItem`. -/
structure RecoveryInspectionItem where
  jobId : String
  queueSequence : ℕ
  currentState : PageJobState
  reasonCode : String
  action : RecoveryAction
  leaseId : Option String
  fencingGeneration : ℕ

/-- A row of `recovery_operations`. -/
structure RecoveryOperationRow where
  recoveryOperationId : String
  runId : String
  idempotencyKey : String
  requestHash : String
  status : RecoveryStatus
  dryRun : Bool
  evaluationTime : Timestamp
  batchLimit : ℕ
  cursor : ℕ
  scanned : ℕ
  interrupted : ℕ
  requeued : ℕ
  paused : ℕ
  outputIssues : ℕ
  hasMore : Bool
  items : List RecoveryInspectionItem
  ownerOperationId : String
  startedAt : Timestamp
  completedAt : Option Timestamp

def recoveryOperations : Schema RecoveryOperationRow where
  check row := row.requestHash.length == 64 && 1 ≤ row.batchLimit && row.batchLimit ≤ 500
  conflict a b := a.recoveryOperationId == b.recoveryOperationId ||
    (a.runId == b.runId && a.idempotencyKey == b.idempotencyKey) ||
    (a.runId == b.runId && a.status == .inProgress && b.status == .inProgress)

/-- `RenderArtifactDescriptor`. -/
structure RenderArtifactDescriptor where
  relativePath : String
  byteLength : ℕ
  sha256 : String

/-- A row of `render_results`. -/
structure RenderResultRow extends RenderResultInput where
  renderResultId : String
  jobId : String
  attemptId : String
  leaseId : String
  fencingGeneration : ℕ
  runId : String
  htmlArtifact : RenderArtifactDescriptor
  screenshotArtifact : Option RenderArtifactDescriptor
  safeSummaryJson : String
  operationId : String
  createdAt : Timestamp

def renderResultCheck (row : RenderResultRow) : Bool :=
  0 < row.fencingGeneration && lengthBetween 1 2048 row.requestedUrlSafe &&
  lengthBetween 1 2048 row.finalUrlSafe && row.httpStatus.all (fun s => 100 ≤ s && s ≤ 599) &&
  row.contentType.all (·.length ≤ 240) && row.pageTitleSafe.length ≤ 300 &&
  lengthBetween 1 120 row.browserVersion && lengthBetween 1 40 row.playwrightVersion &&
  0 < row.renderEngineVersion && 0 < row.contextProfileVersion &&
  lengthBetween 1 2048 row.htmlArtifact.relativePath && 0 < row.htmlArtifact.byteLength &&
  row.htmlArtifact.sha256.length == 64 &&
  row.screenshotArtifact.all (fun a => lengthBetween 1 2048 a.relativePath && 0 < a.byteLength &&
    a.sha256.length == 64) &&
  row.safeSummaryJson.length ≤ 131072 && lengthBetween 1 128 row.operationId

def renderResults : Schema RenderResultRow where
  check := renderResultCheck
  conflict a b := a.renderResultId == b.renderResultId ||
    (a.jobId == b.jobId && a.attemptId == b.attemptId) || a.operationId == b.operationId ||
    (a.attemptId == b.attemptId && a.resultStatus == .completed && b.resultStatus == .completed)

/-- A row of `render_failures`. -/
structure RenderFailureRow where
  renderFailureId : String
  jobId : String
  attemptId : String
  leaseId : String
  fencingGeneration : ℕ
  failureCode : RenderOperationErrorCode
  failureCategory : RenderFailureCategory
  retryable : Bool
  safeMessage : String
  occurredAt : Timestamp

def renderFailures : Schema RenderFailureRow where
  check row := 0 < row.fencingGeneration && lengthBetween 1 800 row.safeMessage
  conflict a b := a.renderFailureId == b.renderFailureId ||
    (a.jobId == b.jobId && a.attemptId == b.attemptId)

/-- A stored revision of a site profile. -/
structure ProfileRevision where
  profileId : String
  profileRevisionId : String
  engineVersion : ℕ

/-- The rows of the project that no modelled operation writes. -/
structure Project where
  projectId : String
  runs : List String
  runsNodup : runs.Nodup
  projectRevisions : List String
  profiles : List ProfileRevision

/-- The database of one project. -/
structure Db where
  project : Project
  pageJobs : Table pageJobs
  jobAttempts : Table jobAttempts
  jobTransitions : Table jobTransitions
  scopeDecisions : Table scopeDecisions
  jobDiscoveries : Table jobDiscoveries
  queueOperations : Table queueOperations
  runControl : Table runControl
  jobLeases : Table jobLeases
  jobCheckpoints : Table jobCheckpoints
  completedOutputs : Table completedOutputs
  recoveryOperations : Table recoveryOperations
  renderResults : Table renderResults
  renderFailures : Table renderFailures

/-- The `run_control` row of a new run. -/
def newRunControl (createdAt : Timestamp) (runId : String) : RunControlRow where
  runId := runId
  controlState := .active
  runState := .running
  requestedAt := none
  pausedAt := none
  updatedAt := createdAt
  operationId := "project-create"

/-- The control rows of the project's runs. -/
def newRunControls (project : Project) (createdAt : Timestamp) : Table runControl where
  rows := project.runs.map (newRunControl createdAt)
  checked _ _ := rfl
  unique := List.pairwise_map.2 (project.runsNodup.imp fun hab => by simpa [runControl, newRunControl] using hab)

/-- The database of a new project: every run is active and the queue is empty. -/
def Db.create (project : Project) (createdAt : Timestamp) : Db where
  project := project
  pageJobs := .empty _
  jobAttempts := .empty _
  jobTransitions := .empty _
  scopeDecisions := .empty _
  jobDiscoveries := .empty _
  queueOperations := .empty _
  runControl := newRunControls project createdAt
  jobLeases := .empty _
  jobCheckpoints := .empty _
  completedOutputs := .empty _
  recoveryOperations := .empty _
  renderResults := .empty _
  renderFailures := .empty _

end OfflineWebArchiver
