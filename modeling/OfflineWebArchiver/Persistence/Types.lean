import Mathlib.Data.List.Basic
import OfflineWebArchiver.Base.Json
import OfflineWebArchiver.Base.Time

/-!
# The job store: states, errors and values

The closed sets of states, the errors that the three repositories throw, and the
values that their operations take and return.

* `canTransition`: the transition table of page jobs.
* `canTransitionCrawlRunState`: the transition table of crawl runs.
-/

namespace OfflineWebArchiver

/-- The `state` column of a page job. -/
inductive StoredState
  | pending | processing | completed | failed | retrying | skipped | blocked
  deriving DecidableEq

/-- The `recovery_state` column of a page job. -/
inductive RecoveryState
  | interrupted | paused
  deriving DecidableEq

/-- `PageJobState`: what callers see. -/
inductive PageJobState
  | pending | processing | completed | failed | retrying | skipped | blocked | interrupted | paused
  deriving DecidableEq

def StoredState.toJobState : StoredState → PageJobState
  | pending => .pending | processing => .processing | completed => .completed | failed => .failed
  | retrying => .retrying | skipped => .skipped | blocked => .blocked

def RecoveryState.toJobState : RecoveryState → PageJobState
  | interrupted => .interrupted | paused => .paused

def PageJobState.text : PageJobState → String
  | pending => "pending" | processing => "processing" | completed => "completed"
  | failed => "failed" | retrying => "retrying" | skipped => "skipped" | blocked => "blocked"
  | interrupted => "interrupted" | paused => "paused"

/-- `VALID_JOB_TRANSITIONS`. -/
def validJobTransitions : PageJobState → List PageJobState
  | .pending => [.processing, .skipped, .blocked]
  | .processing => [.completed, .failed, .retrying, .skipped, .blocked, .interrupted, .paused]
  | .retrying => [.pending, .failed]
  | .interrupted => [.pending, .failed, .blocked]
  | .paused => [.pending]
  | .completed | .failed | .skipped | .blocked => []

/-- `canTransition(from, to)`. -/
def canTransition (source target : PageJobState) : Bool := (validJobTransitions source).contains target

example : canTransition .completed .pending = false := by decide

inductive RunControlState
  | active | pauseRequested | paused | resuming | recovering | stopped | completed | failed
  deriving DecidableEq

inductive CrawlRunState
  | running | pausing | paused | waitingForNetwork | waitingForAuth | waitingForRateLimit
  | cancelling | cancelled | completed | failed
  deriving DecidableEq

def CrawlRunState.text : CrawlRunState → String
  | running => "running" | pausing => "pausing" | paused => "paused"
  | waitingForNetwork => "waiting_for_network" | waitingForAuth => "waiting_for_auth"
  | waitingForRateLimit => "waiting_for_rate_limit" | cancelling => "cancelling"
  | cancelled => "cancelled" | completed => "completed" | failed => "failed"

/-- `transitions` of a crawl run. -/
def CrawlRunState.transitions : CrawlRunState → List CrawlRunState
  | running => [pausing, paused, waitingForNetwork, waitingForAuth, waitingForRateLimit, cancelling,
      completed, failed]
  | pausing => [paused, running, cancelling, failed]
  | paused => [running, cancelling, cancelled, failed]
  | waitingForNetwork => [running, cancelling, failed]
  | waitingForAuth => [running, cancelling, failed]
  | waitingForRateLimit => [running, cancelling, failed]
  | cancelling => [cancelled, failed]
  | cancelled | completed | failed => []

/-- `canTransitionCrawlRunState(from, to)`. -/
def canTransitionCrawlRunState (source target : CrawlRunState) : Bool :=
  source == target || source.transitions.contains target

inductive JobLeaseStatus
  | active | released | expired | recovered
  deriving DecidableEq

/-- The `outcome` column of an attempt. -/
inductive AttemptOutcome
  | processing | completed | failed | retrying | skipped | blocked
  deriving DecidableEq

inductive PrioritySource
  | policy | explicit
  deriving DecidableEq

inductive PageJobDiscoveryType
  | seed | domLink | canonical | redirect | sitemap | historyApi | navigationAction | jsonDiscovery
  | manual
  deriving DecidableEq

def PageJobDiscoveryType.text : PageJobDiscoveryType → String
  | seed => "seed" | domLink => "dom-link" | canonical => "canonical" | redirect => "redirect"
  | sitemap => "sitemap" | historyApi => "history-api" | navigationAction => "navigation-action"
  | jsonDiscovery => "json-discovery" | manual => "manual"

inductive QueueFailureCategory
  | validation | configuration | application | domain | platform | internal
  deriving DecidableEq

def QueueFailureCategory.text : QueueFailureCategory → String
  | validation => "validation" | configuration => "configuration" | application => "application"
  | domain => "domain" | platform => "platform" | internal => "internal"

inductive RenderFailureCategory
  | browser | navigation | stability | extraction | persistence | security | cancellation
  deriving DecidableEq

inductive RenderResultStatus
  | completed | failed | cancelled
  deriving DecidableEq

inductive RenderQualityClassification
  | complete | blank | incomplete | httpError
  deriving DecidableEq

inductive VerificationStatus
  | pending | valid | missing | sizeMismatch | hashMismatch
  deriving DecidableEq

inductive RecoveryStatus
  | inspected | inProgress | completed | failed
  deriving DecidableEq

inductive RecoveryAction
  | requeue | pause | reportOutput | none
  deriving DecidableEq

/-- The codes of a `QueueOperationError` that the modelled operations throw. -/
inductive QueueOperationErrorCode
  | jobNotFound | jobStateConflict | invalidTransition | claimConflict | claimTokenInvalid
  | completionConflict | retryNotAllowed | maxAttemptsReached | operationIdempotencyConflict
  | profileRevisionMismatch | engineVersionMismatch | runNotFound | projectNotOpen
  | transactionFailed | inputInvalid | resultTooLarge | paginationLimitExceeded | clearNotAllowed
  deriving DecidableEq

/-- The codes of a `RecoveryOperationError` that the modelled operations throw. -/
inductive RecoveryOperationErrorCode
  | leaseNotFound | leaseExpired | leaseOwnerMismatch | leaseTokenInvalid | fencingGenerationStale
  | leaseRenewalInvalid | runNotActive | runPauseConflict | recoveryAlreadyRunning
  | recoveryOperationNotFound | recoveryConfirmationRequired | checkpointInvalid
  | checkpointTooLarge | artifactCheckpointInvalid | recoveryInputInvalid
  | recoveryTransactionFailed
  deriving DecidableEq

/-- `RenderOperationErrorCode`. -/
inductive RenderOperationErrorCode
  | browserInstallationMissing | browserInstallationInvalid | browserLaunchFailed
  | browserUnhealthy | browserCrashed | browserRestartLimited | browserBusy
  | browserContextFailed | browserAuthenticationBusy | browserAuthenticationContextFailed
  | browserAuthenticationNavigationBlocked | browserStorageStateInvalid
  | browserProfileIncompatible | pageCreateFailed | pageCrashed | navigationTimeout
  | navigationFailed | redirectBlocked | runtimeNetworkBlocked | renderTimeout
  | renderStabilityTimeout | renderBlankPage | renderHtmlTooLarge | renderScreenshotTooLarge
  | renderExtractionFailed | renderCommitFailed | renderResultNotFound | renderCancelled
  | renderInputInvalid
  deriving DecidableEq

def RenderOperationErrorCode.text : RenderOperationErrorCode → String
  | browserInstallationMissing => "BROWSER_INSTALLATION_MISSING"
  | browserInstallationInvalid => "BROWSER_INSTALLATION_INVALID"
  | browserLaunchFailed => "BROWSER_LAUNCH_FAILED"
  | browserUnhealthy => "BROWSER_UNHEALTHY"
  | browserCrashed => "BROWSER_CRASHED"
  | browserRestartLimited => "BROWSER_RESTART_LIMITED"
  | browserBusy => "BROWSER_BUSY"
  | browserContextFailed => "BROWSER_CONTEXT_FAILED"
  | browserAuthenticationBusy => "BROWSER_AUTHENTICATION_BUSY"
  | browserAuthenticationContextFailed => "BROWSER_AUTHENTICATION_CONTEXT_FAILED"
  | browserAuthenticationNavigationBlocked => "BROWSER_AUTHENTICATION_NAVIGATION_BLOCKED"
  | browserStorageStateInvalid => "BROWSER_STORAGE_STATE_INVALID"
  | browserProfileIncompatible => "BROWSER_PROFILE_INCOMPATIBLE"
  | pageCreateFailed => "PAGE_CREATE_FAILED"
  | pageCrashed => "PAGE_CRASHED"
  | navigationTimeout => "NAVIGATION_TIMEOUT"
  | navigationFailed => "NAVIGATION_FAILED"
  | redirectBlocked => "REDIRECT_BLOCKED"
  | runtimeNetworkBlocked => "RUNTIME_NETWORK_BLOCKED"
  | renderTimeout => "RENDER_TIMEOUT"
  | renderStabilityTimeout => "RENDER_STABILITY_TIMEOUT"
  | renderBlankPage => "RENDER_BLANK_PAGE"
  | renderHtmlTooLarge => "RENDER_HTML_TOO_LARGE"
  | renderScreenshotTooLarge => "RENDER_SCREENSHOT_TOO_LARGE"
  | renderExtractionFailed => "RENDER_EXTRACTION_FAILED"
  | renderCommitFailed => "RENDER_COMMIT_FAILED"
  | renderResultNotFound => "RENDER_RESULT_NOT_FOUND"
  | renderCancelled => "RENDER_CANCELLED"
  | renderInputInvalid => "RENDER_INPUT_INVALID"

/-- What an operation throws. `error` is any `Error` that is not one of the three
classes: a failed SQL statement or a failed run transition. -/
inductive Thrown
  | queue (code : QueueOperationErrorCode) (message : String) (retryable : Bool)
  | recovery (code : RecoveryOperationErrorCode) (message : String) (retryable : Bool)
  | render (code : RenderOperationErrorCode) (message : String) (retryable : Bool)
  | error (message : String)
  deriving DecidableEq

/-- The pure validators throw one of the errors or return. -/
abbrev Checked (α : Type) := Except Thrown α

def queueError (code : QueueOperationErrorCode) (message : String) : Thrown := .queue code message false

def recoveryError (code : RecoveryOperationErrorCode) (message : String) : Thrown :=
  .recovery code message false

def renderError (message : String) : Thrown := .render .renderCommitFailed message false

/-- `QueueResultSummary`. -/
inductive QueueResultSummary
  | queueTest (statusCode : Option ℤ) (metadata : Option Json)
  | render (statusCode : Option ℤ) (renderResultId htmlSha256 relativePath : String)

def QueueResultSummary.toJson : QueueResultSummary → Json
  | queueTest statusCode metadata =>
    .obj ([("resultType", .str "queue-test"), ("statusCode", (statusCode.map Json.num).getD .null),
      ("contentStored", .bool false)] ++ Json.field? "metadata" metadata)
  | render statusCode renderResultId htmlSha256 relativePath =>
    .obj [("resultType", .str "render"), ("statusCode", (statusCode.map Json.num).getD .null),
      ("contentStored", .bool true), ("renderResultId", .str renderResultId),
      ("htmlSha256", .str htmlSha256), ("relativePath", .str relativePath)]

/-- A field that may be absent, `null` or a value. -/
abbrev Nullish (α : Type) := Option (Option α)

/-- `value ?? null`. -/
def Nullish.orNull {α : Type} (value : Nullish α) : Option α := value.getD none

/-- `QueueScopeDecisionSnapshot`. -/
structure QueueScopeDecisionSnapshot where
  decisionId : String
  engineVersion : ℕ
  profileId : String
  profileRevisionId : String
  eligible : Bool
  shouldQueue : Bool
  reasonCodes : List String
  normalizedUrl : Option String
  identityUrl : Option String
  identityHash : Option String
  displayUrl : Option String
  depth : ℤ
  matchedRuleIds : List String

/-- `sourceContext` of an enqueue. -/
structure QueueSourceContext where
  parentJobId : Nullish String
  safeSourceUrl : Nullish String
  discoveryType : PageJobDiscoveryType
  sourceDepth : Nullish ℤ

/-- `QueueEnqueueInput`. -/
structure QueueEnqueueInput where
  projectId : String
  runId : String
  projectRevisionId : String
  scopeDecision : QueueScopeDecisionSnapshot
  sourceContext : QueueSourceContext
  requestedPriority : Option ℤ
  maxAttempts : ℤ
  maxPages : Option ℤ
  idempotencyKey : String
  operationId : String
  correlationId : String

structure ClaimNextInput where
  projectId : String
  runId : String
  claimedBy : String
  idempotencyKey : String
  operationId : String
  correlationId : String

structure CompleteInput where
  projectId : String
  runId : String
  jobId : String
  claimToken : String
  completionKey : String
  resultSummary : QueueResultSummary
  completedAt : Timestamp
  idempotencyKey : String
  operationId : String
  correlationId : String

structure FailInput where
  projectId : String
  runId : String
  jobId : String
  claimToken : String
  failureKey : String
  failureCode : String
  failureCategory : QueueFailureCategory
  retryable : Bool
  safeMessage : String
  failedAt : Timestamp
  nextEligibleAt : Option Timestamp
  idempotencyKey : String
  operationId : String
  correlationId : String

structure ScheduleRetryInput where
  projectId : String
  runId : String
  jobId : String
  nextEligibleAt : Timestamp
  reasonCode : String
  idempotencyKey : String
  operationId : String
  correlationId : String

structure ReleaseDueRetriesInput where
  projectId : String
  runId : String
  dueAt : Timestamp
  limit : ℤ
  idempotencyKey : String
  operationId : String
  correlationId : String

/-- The input of `skip` and `block`. -/
structure TerminalActionInput where
  projectId : String
  runId : String
  jobId : String
  reasonCode : String
  safeMessage : String
  claimToken : Option String
  idempotencyKey : String
  operationId : String
  correlationId : String

structure ClearPendingInput where
  projectId : String
  runId : String
  confirmation : String
  reasonCode : String
  idempotencyKey : String
  operationId : String
  correlationId : String

structure ClaimNextWithLeaseInput where
  projectId : String
  runId : String
  ownerId : String
  leaseDurationMs : ℤ
  idempotencyKey : String
  operationId : String
  correlationId : String

structure ClaimJobWithLeaseInput extends ClaimNextWithLeaseInput where
  jobId : String

/-- What a lease holder presents. -/
structure LeaseHolder where
  projectId : String
  runId : String
  jobId : String
  leaseToken : String
  fencingGeneration : ℕ
  ownerId : String
  operationId : String

structure RenewLeaseInput extends LeaseHolder where
  extensionMs : ℤ

structure ReleaseLeaseInput extends LeaseHolder where
  reasonCode : String

/-- `progress` is `none` when it is not a finite number. -/
structure SaveJobCheckpointInput extends LeaseHolder where
  phase : String
  progress : Option Rat
  relativePath : Nullish String
  payload : Json

structure RecoverInput where
  projectId : String
  runId : String
  evaluationTime : Timestamp
  limit : ℤ
  confirmation : String
  idempotencyKey : String
  operationId : String
  correlationId : String

structure RequestPauseInput where
  projectId : String
  runId : String
  operationId : String

structure AcknowledgePauseInput extends LeaseHolder where
  correlationId : String

structure ResumeRunInput where
  projectId : String
  runId : String
  operationId : String
  correlationId : String

structure SetRunStateInput where
  projectId : String
  runId : String
  state : CrawlRunState
  operationId : String
  correlationId : String

/-- The part of a `RenderResult` that the caller passes to `commitRenderResult`
and that goes into the row. -/
structure RenderResultInput where
  requestedUrlSafe : String
  finalUrlSafe : String
  httpStatus : Option ℤ
  contentType : Option String
  pageTitleSafe : String
  resultStatus : RenderResultStatus
  qualityClassification : RenderQualityClassification
  navigationStartedAt : Timestamp
  stabilityReachedAt : Timestamp
  extractionCompletedAt : Timestamp
  renderCompletedAt : Timestamp
  navigationDurationMs : ℕ
  stabilityDurationMs : ℕ
  totalDurationMs : ℕ
  browserVersion : String
  playwrightVersion : String
  renderEngineVersion : ℕ
  contextProfileVersion : ℕ
  evidence : Json

structure CommitRenderResultInput extends LeaseHolder where
  result : RenderResultInput
  html : String
  screenshot : Option (List UInt8)

structure RecordRenderFailureInput extends LeaseHolder where
  failureCode : RenderOperationErrorCode
  failureCategory : RenderFailureCategory
  retryable : Bool
  safeMessage : String
  occurredAt : Timestamp

end OfflineWebArchiver
